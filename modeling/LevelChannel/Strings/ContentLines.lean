import LevelChannel.Strings.Replace

namespace ICalendar

open Strings

/-!
# Content lines

Calendar data is a tree of components written as lines: a component is opened and closed by a
line, and between them stand its properties and the components within it.  A line is a name and a
value, and the first colon parts them.  Text values hide what would part or end them behind a
backslash.
-/

structure Property where
  name : List Char
  value : List Char
  deriving DecidableEq

inductive Component where
  | mk (name : List Char) (properties : List Property) (components : List Component)

def beginName : List Char :=
  "BEGIN".toList

def endName : List Char :=
  "END".toList

def crlf : List Char :=
  ['\r', '\n']

def Property.line (property : Property) : List Char :=
  property.name ++ ':' :: property.value

mutual

def Component.lines : Component -> List Property
  | .mk name properties components =>
    ⟨beginName, name⟩ :: (properties ++ (linesOf components ++ [⟨endName, name⟩]))

def linesOf : List Component -> List Property
  | [] => []
  | component :: components => component.lines ++ linesOf components

end

def textOf (lines : List Property) : List Char :=
  lines.flatMap fun property => property.line ++ crlf

def readProperty (line : List Char) : Option Property :=
  match line.dropWhile (· ≠ ':') with
  | [] => none
  | _ :: value => some ⟨line.takeWhile (· ≠ ':'), value⟩

def splitLines (text : List Char) : Option (List (List Char)) :=
  let pieces := (Pattern.literal crlf (List.cons_ne_nil _ _)).split text
  if pieces.getLast? = some [] then some pieces.dropLast else none

structure Frame where
  name : List Char
  properties : List Property
  components : List Component

def Frame.close (frame : Frame) : Component :=
  .mk frame.name frame.properties frame.components

/-- Read lines with the open components, the innermost first. -/
def readFrom : List Frame -> List Property -> Option Component
  | _, [] => none
  | frames, line :: rest =>
    if line.name = beginName then readFrom (⟨line.value, [], []⟩ :: frames) rest
    else if line.name = endName then
      match frames with
      | [] => none
      | [frame] => if frame.name = line.value ∧ rest = [] then some frame.close else none
      | frame :: outer :: others =>
        if frame.name = line.value then
          readFrom ({ outer with components := outer.components ++ [frame.close] } :: others) rest
        else none
    else
      match frames with
      | [] => none
      | frame :: others =>
        readFrom ({ frame with properties := frame.properties ++ [line] } :: others) rest

def readComponent (text : List Char) : Option Component :=
  (splitLines text).bind fun lines => (lines.mapM readProperty).bind (readFrom [])

/-! ## What is written is read -/

/-- A name that opens and closes nothing, and no line break. -/
structure Property.Plain (property : Property) : Prop where
  not_begin : property.name ≠ beginName
  not_end : property.name ≠ endName
  no_colon : ':' ∉ property.name
  no_break : '\n' ∉ property.line

mutual

def Component.Plain : Component -> Prop
  | .mk name properties components =>
    '\n' ∉ name ∧ (∀ property, property ∈ properties -> property.Plain) ∧
      PlainAll components

def PlainAll : List Component -> Prop
  | [] => True
  | component :: components => component.Plain ∧ PlainAll components

end

theorem plainAll_of_forall {components : List Component}
    (plain : ∀ component, component ∈ components -> component.Plain) : PlainAll components := by
  induction components with
  | nil => trivial
  | cons component components ih =>
    exact ⟨plain component List.mem_cons_self,
      ih fun other listed => plain other (List.mem_cons_of_mem _ listed)⟩

def continueWith (frames : List Frame) (component : Component) (rest : List Property) :
    Option Component :=
  match frames with
  | [] => if rest = [] then some component else none
  | outer :: others =>
    readFrom ({ outer with components := outer.components ++ [component] } :: others) rest

theorem readFrom_begin {frames : List Frame} {name : List Char} {rest : List Property} :
    readFrom frames (⟨beginName, name⟩ :: rest) = readFrom (⟨name, [], []⟩ :: frames) rest := by
  rw [readFrom.eq_def]
  dsimp only
  rw [if_pos rfl]

theorem readFrom_properties {frame : Frame} {frames : List Frame} {properties rest : List Property}
    (plain : ∀ property, property ∈ properties -> property.Plain) :
    readFrom (frame :: frames) (properties ++ rest) =
      readFrom ({ frame with properties := frame.properties ++ properties } :: frames) rest := by
  induction properties generalizing frame with
  | nil => simp
  | cons property properties ih =>
    have here := plain property List.mem_cons_self
    rw [List.cons_append, readFrom.eq_def]
    dsimp only
    rw [if_neg here.not_begin, if_neg here.not_end,
      ih fun other listed => plain other (List.mem_cons_of_mem _ listed)]
    simp

theorem readFrom_end {frame : Frame} {frames : List Frame} {rest : List Property} :
    readFrom (frame :: frames) (⟨endName, frame.name⟩ :: rest) =
      continueWith frames frame.close rest := by
  have different : endName ≠ beginName := by decide
  rw [readFrom.eq_def]
  dsimp only
  rw [if_neg different, if_pos rfl]
  cases frames with
  | nil => simp [continueWith]
  | cons outer others => simp [continueWith]

mutual

theorem readFrom_lines (component : Component) (plain : component.Plain) (frames : List Frame)
    (rest : List Property) :
    readFrom frames (component.lines ++ rest) = continueWith frames component rest := by
  cases component with
  | mk name properties components =>
    obtain ⟨-, plainProperties, plainComponents⟩ := plain
    rw [Component.lines, List.cons_append, readFrom_begin, List.append_assoc, List.append_assoc,
      readFrom_properties plainProperties, readFrom_linesOf components plainComponents]
    exact readFrom_end

theorem readFrom_linesOf (components : List Component) (plain : PlainAll components)
    (frame : Frame) (frames : List Frame) (rest : List Property) :
    readFrom (frame :: frames) (linesOf components ++ rest) =
      readFrom ({ frame with components := frame.components ++ components } :: frames) rest := by
  cases components with
  | nil => simp [linesOf]
  | cons component components =>
    obtain ⟨here, others⟩ := plain
    rw [linesOf, List.append_assoc, readFrom_lines component here, continueWith,
      readFrom_linesOf components others]
    simp

end

theorem readProperty_line {property : Property} (noColon : ':' ∉ property.name) :
    readProperty property.line = some property := by
  have before : ∀ char, char ∈ property.name -> decide (char ≠ ':') = true := by
    intro char listed
    rw [decide_eq_true_eq]
    rintro rfl
    exact noColon listed
  have name : property.line.takeWhile (· ≠ ':') = property.name := by
    rw [Property.line, List.takeWhile_append_of_pos before]
    simp
  have value : property.line.dropWhile (· ≠ ':') = ':' :: property.value := by
    rw [Property.line, List.dropWhile_append_of_pos before]
    simp
  rw [readProperty, value, name]

theorem mapM_readProperty {lines : List Property}
    (noColon : ∀ line, line ∈ lines -> ':' ∉ line.name) :
    (lines.map Property.line).mapM readProperty = some lines := by
  induction lines with
  | nil => rfl
  | cons line lines ih =>
    rw [List.map_cons, List.mapM_cons, readProperty_line (noColon line List.mem_cons_self),
      ih fun other listed => noColon other (List.mem_cons_of_mem _ listed)]
    rfl

theorem textOf_eq (lines : List Property) :
    textOf lines = (lines.map Property.line).flatMap fun line => line ++ crlf := by
  rw [textOf, List.flatMap_map]

theorem splitLines_textOf {lines : List Property}
    (noBreak : ∀ line, line ∈ lines -> '\n' ∉ line.line) :
    splitLines (textOf lines) = some (lines.map Property.line) := by
  have pieces : (Pattern.literal crlf (List.cons_ne_nil _ _)).split (textOf lines) =
      lines.map Property.line ++ [[]] := by
    rw [textOf_eq]
    exact Pattern.split_literal_lines (by decide) (by simpa using noBreak)
  rw [splitLines, pieces]
  simp

mutual

theorem plain_line (component : Component) (plain : component.Plain) :
    ∀ line, line ∈ component.lines -> ':' ∉ line.name ∧ '\n' ∉ line.line := by
  cases component with
  | mk name properties components =>
    obtain ⟨noBreak, plainProperties, plainComponents⟩ := plain
    intro line listed
    rw [Component.lines] at listed
    rcases List.mem_cons.mp listed with rfl | listed
    · have noColon : ':' ∉ beginName := by decide
      exact ⟨noColon, by simpa [Property.line, beginName] using noBreak⟩
    rcases List.mem_append.mp listed with listed | listed
    · exact ⟨(plainProperties line listed).no_colon, (plainProperties line listed).no_break⟩
    rcases List.mem_append.mp listed with listed | listed
    · exact plain_linesOf components plainComponents line listed
    · rw [List.mem_singleton.mp listed]
      have noColon : ':' ∉ endName := by decide
      exact ⟨noColon, by simpa [Property.line, endName] using noBreak⟩

theorem plain_linesOf (components : List Component) (plain : PlainAll components) :
    ∀ line, line ∈ linesOf components -> ':' ∉ line.name ∧ '\n' ∉ line.line := by
  cases components with
  | nil =>
    intro line listed
    cases listed
  | cons component components =>
    intro line listed
    rcases List.mem_append.mp listed with listed | listed
    · exact plain_line component plain.1 line listed
    · exact plain_linesOf components plain.2 line listed

end

theorem readComponent_textOf {component : Component} (plain : component.Plain) :
    readComponent (textOf component.lines) = some component := by
  have lines := plain_line component plain
  have read := readFrom_lines component plain [] []
  rw [List.append_nil] at read
  rw [readComponent, splitLines_textOf fun line listed => (lines line listed).2, Option.bind_some,
    mapM_readProperty fun line listed => (lines line listed).1, Option.bind_some, read]
  rfl

/-- A symbol of a text value, behind a backslash if it means something else. -/
def escapeSymbol (symbol : Char) : List Char :=
  if symbol = '\n' then ['\\', 'n']
  else if symbol = '\\' ∨ symbol = ';' ∨ symbol = ',' then ['\\', symbol]
  else [symbol]

def unescape : List Char -> List Char
  | [] => []
  | [symbol] => [symbol]
  | symbol :: next :: rest =>
    if symbol = '\\' then
      (if next = 'n' ∨ next = 'N' then '\n' else next) :: unescape rest
    else symbol :: unescape (next :: rest)

theorem unescape_cons {symbol : Char} (plain : symbol ≠ '\\') (rest : List Char) :
    unescape (symbol :: rest) = symbol :: unescape rest := by
  cases rest with
  | nil => rfl
  | cons next rest => rw [unescape, if_neg plain]

theorem unescape_escape (text : List Char) : unescape (text.flatMap escapeSymbol) = text := by
  induction text with
  | nil => rfl
  | cons symbol text ih =>
    rw [List.flatMap_cons, escapeSymbol]
    split_ifs with lineBreak hidden
    · rw [List.cons_append, List.cons_append, List.nil_append, unescape, if_pos rfl, ih,
        if_pos (Or.inl rfl), lineBreak]
    · have letter : ¬ (symbol = 'n' ∨ symbol = 'N') := by
        rcases hidden with rfl | rfl | rfl <;> decide
      rw [List.cons_append, List.cons_append, List.nil_append, unescape, if_pos rfl, ih,
        if_neg letter]
    · have plain : symbol ≠ '\\' := fun same => hidden (Or.inl same)
      rw [List.cons_append, List.nil_append, unescape_cons plain, ih]

theorem no_break_escape (text : List Char) : '\n' ∉ text.flatMap escapeSymbol := by
  intro listed
  rcases List.mem_flatMap.mp listed with ⟨symbol, -, inside⟩
  rw [escapeSymbol] at inside
  split_ifs at inside with lineBreak hidden
  · revert inside
    decide
  · rcases hidden with rfl | rfl | rfl <;> revert inside <;> decide
  · exact lineBreak (List.mem_singleton.mp inside).symm

end ICalendar
