import Mathlib.Data.List.Infix

namespace Strings

variable {Symbol : Type}

/-!
# Global replacement

A pattern says where a match begins and how long it is.  A text is split at the matches from
left to right, none of which overlap, and joined again with a marker in their place.  Words
of the pattern are gone from the pieces; that they do not come back between a piece and a
marker needs symbols at the ends of the marker that no word has.
-/

/-- A match at the beginning of a text and its length.  There is one just if the text begins
with a word of the pattern. -/
structure Pattern (Symbol : Type) where
  matchAt : List Symbol -> Option Nat
  Word : List Symbol -> Prop
  word_ne_nil : ∀ {word}, Word word -> word ≠ []
  found_iff : ∀ text, (matchAt text).isSome <-> ∃ word, Word word ∧ word <+: text

namespace Pattern

def literal [DecidableEq Symbol] (word : List Symbol) (nonempty : word ≠ []) : Pattern Symbol where
  matchAt text := if word <+: text then some word.length else none
  Word other := other = word
  word_ne_nil := fun is => is ▸ nonempty
  found_iff text := by
    constructor
    · intro found
      split at found
      · exact ⟨word, rfl, ‹_›⟩
      · cases found
    · rintro ⟨_, rfl, begins⟩
      rw [if_pos begins]
      rfl

variable (pattern : Pattern Symbol)

def Absent (text : List Symbol) : Prop :=
  ∀ word, pattern.Word word -> ¬ word <:+: text

def splitFrom : Nat -> List Symbol -> List (List Symbol)
  | _, [] => [[]]
  | inside + 1, _ :: rest => splitFrom inside rest
  | 0, symbol :: rest =>
    match pattern.matchAt (symbol :: rest) with
    | none => (splitFrom 0 rest).modifyHead (symbol :: ·)
    | some length => [] :: splitFrom (length - 1) rest

def split (text : List Symbol) : List (List Symbol) :=
  pattern.splitFrom 0 text

def replaceAll (marker text : List Symbol) : List Symbol :=
  marker.intercalate (pattern.split text)

/-! ## Pieces -/

variable {pattern} {text word piece : List Symbol}

theorem splitFrom_ne_nil (inside : Nat) (text : List Symbol) :
    pattern.splitFrom inside text ≠ [] := by
  induction text generalizing inside with
  | nil => simp [splitFrom]
  | cons symbol rest ih =>
    cases inside with
    | succ inside => exact ih inside
    | zero =>
      rw [splitFrom]
      split
      · intro empty
        exact ih 0 (List.modifyHead_eq_nil_iff.mp empty)
      · exact List.cons_ne_nil _ _

theorem split_cons_of_none {symbol : Symbol} (missing : pattern.matchAt (symbol :: text) = none) :
    ∃ first others, pattern.split text = first :: others ∧
      pattern.split (symbol :: text) = (symbol :: first) :: others := by
  have nonempty : pattern.splitFrom 0 text ≠ [] := splitFrom_ne_nil 0 text
  rcases List.exists_cons_of_ne_nil nonempty with ⟨first, others, pieces⟩
  refine ⟨first, others, pieces, ?_⟩
  rw [split, splitFrom, missing, pieces]
  rfl

theorem Absent.of_infix (absent : pattern.Absent text) (part : piece <:+: text) :
    pattern.Absent piece :=
  fun word is inside => absent word is (inside.trans part)

theorem absent_nil : pattern.Absent [] := by
  intro word is inside
  exact pattern.word_ne_nil is (List.eq_nil_of_infix_nil inside)

theorem matchAt_eq_none (missing : ∀ word, pattern.Word word -> ¬ word <+: text) :
    pattern.matchAt text = none := by
  rw [← Option.not_isSome_iff_eq_none, pattern.found_iff]
  rintro ⟨word, is, begins⟩
  exact missing word is begins

theorem not_prefix_of_none (missing : pattern.matchAt text = none) (begins : piece <+: text)
    (is : pattern.Word word) : ¬ word <+: piece := by
  intro inside
  have found := (pattern.found_iff text).mpr ⟨word, is, inside.trans begins⟩
  rw [missing] at found
  cases found

theorem split_head_prefix {first : List Symbol} {others : List (List Symbol)}
    (pieces : pattern.split text = first :: others) : first <+: text := by
  induction text generalizing first others with
  | nil =>
    cases pieces
    exact List.prefix_rfl
  | cons symbol rest ih =>
    cases found : pattern.matchAt (symbol :: rest) with
    | some length =>
      rw [split, splitFrom, found] at pieces
      cases pieces
      exact List.nil_prefix
    | none =>
      rcases split_cons_of_none found with ⟨start, others, was, is⟩
      rw [is] at pieces
      cases pieces
      exact List.cons_prefix_cons.mpr ⟨rfl, ih was⟩

theorem splitFrom_absent (inside : Nat) (text : List Symbol) :
    ∀ piece, piece ∈ pattern.splitFrom inside text -> pattern.Absent piece := by
  induction text generalizing inside with
  | nil =>
    intro piece listed
    rw [splitFrom, List.mem_singleton] at listed
    exact listed ▸ absent_nil
  | cons symbol rest ih =>
    intro piece listed
    cases inside with
    | succ inside => exact ih inside piece listed
    | zero =>
      cases found : pattern.matchAt (symbol :: rest) with
      | some length =>
        rw [splitFrom, found] at listed
        rcases List.mem_cons.mp listed with rfl | listed
        · exact absent_nil
        · exact ih (length - 1) piece listed
      | none =>
        rcases split_cons_of_none found with ⟨first, others, was, is⟩
        change piece ∈ pattern.split (symbol :: rest) at listed
        rw [is] at listed
        rcases List.mem_cons.mp listed with rfl | listed
        · intro word isWord part
          rcases List.infix_cons_iff.mp part with atStart | later
          · have begins : symbol :: first <+: symbol :: rest :=
              List.cons_prefix_cons.mpr ⟨rfl, split_head_prefix was⟩
            exact not_prefix_of_none found begins isWord atStart
          · have member : first ∈ pattern.split rest := was ▸ List.mem_cons_self
            exact ih 0 first member word isWord later
        · have member : piece ∈ pattern.split rest := was ▸ List.mem_cons_of_mem _ listed
          exact ih 0 piece member

theorem absent_of_mem_split (listed : piece ∈ pattern.split text) : pattern.Absent piece :=
  splitFrom_absent 0 text piece listed

theorem splitFrom_infix (inside : Nat) (text : List Symbol) :
    ∀ piece, piece ∈ pattern.splitFrom inside text -> piece <:+: text := by
  induction text generalizing inside with
  | nil =>
    intro piece listed
    rw [splitFrom, List.mem_singleton] at listed
    exact listed ▸ List.infix_rfl
  | cons symbol rest ih =>
    have later : ∀ inside piece, piece ∈ pattern.splitFrom inside rest ->
        piece <:+: symbol :: rest :=
      fun inside piece listed => (ih inside piece listed).trans (List.suffix_cons _ _).isInfix
    intro piece listed
    cases inside with
    | succ inside => exact later inside piece listed
    | zero =>
      cases found : pattern.matchAt (symbol :: rest) with
      | some length =>
        rw [splitFrom, found] at listed
        rcases List.mem_cons.mp listed with rfl | listed
        · exact List.nil_infix
        · exact later (length - 1) piece listed
      | none =>
        rcases split_cons_of_none found with ⟨first, others, was, is⟩
        change piece ∈ pattern.split (symbol :: rest) at listed
        rw [is] at listed
        rcases List.mem_cons.mp listed with rfl | listed
        · exact (List.cons_prefix_cons.mpr ⟨rfl, split_head_prefix was⟩).isInfix
        · have member : piece ∈ pattern.split rest := was ▸ List.mem_cons_of_mem _ listed
          exact later 0 piece member

theorem infix_of_mem_split (listed : piece ∈ pattern.split text) : piece <:+: text :=
  splitFrom_infix 0 text piece listed

theorem split_of_absent (absent : pattern.Absent text) : pattern.split text = [text] := by
  induction text with
  | nil => rfl
  | cons symbol rest ih =>
    have missing : pattern.matchAt (symbol :: rest) = none :=
      matchAt_eq_none fun word is begins => absent word is begins.isInfix
    rcases split_cons_of_none missing with ⟨first, others, pieces, is⟩
    rw [ih (absent.of_infix (List.suffix_cons _ _).isInfix)] at pieces
    cases pieces
    exact is

theorem replaceAll_cons_of_none {symbol : Symbol} {marker : List Symbol}
    (missing : pattern.matchAt (symbol :: text) = none) :
    pattern.replaceAll marker (symbol :: text) = symbol :: pattern.replaceAll marker text := by
  rcases split_cons_of_none missing with ⟨first, others, was, is⟩
  rw [replaceAll, replaceAll, is, was, List.intercalate_cons_cons_left]

theorem replaceAll_cons_of_one {symbol : Symbol} {marker : List Symbol}
    (found : pattern.matchAt (symbol :: text) = some 1) :
    pattern.replaceAll marker (symbol :: text) = marker ++ pattern.replaceAll marker text := by
  rw [replaceAll, replaceAll, split, splitFrom, found]
  exact List.intercalate_cons_of_ne_nil (splitFrom_ne_nil 0 text)

theorem replaceAll_symbol [DecidableEq Symbol] (symbol : Symbol) (marker text : List Symbol) :
    (literal [symbol] (List.cons_ne_nil _ _)).replaceAll marker text =
      text.flatMap fun other => if other = symbol then marker else [other] := by
  induction text with
  | nil => rfl
  | cons other text ih =>
    rw [List.flatMap_cons, ← ih]
    by_cases same : other = symbol
    · have begins : [symbol] <+: other :: text := same ▸ List.prefix_append [other] text
      rw [if_pos same, replaceAll_cons_of_one (if_pos begins)]
    · have missing : ¬ [symbol] <+: other :: text :=
        fun begins => same (List.cons_prefix_cons.mp begins).1.symm
      rw [if_neg same, replaceAll_cons_of_none (if_neg missing)]
      rfl

theorem replaceAll_of_absent (absent : pattern.Absent text) (marker : List Symbol) :
    pattern.replaceAll marker text = text := by
  rw [replaceAll, split_of_absent absent, List.intercalate_singleton]

end Pattern

theorem intercalate_append (separator : List Symbol) {lines : List (List Symbol)}
    (nonempty : lines ≠ []) :
    separator.intercalate lines ++ separator = lines.flatMap fun line => line ++ separator := by
  induction lines with
  | nil => exact absurd rfl nonempty
  | cons line lines ih =>
    rw [List.flatMap_cons]
    cases lines with
    | nil => rw [List.intercalate_singleton, List.flatMap_nil, List.append_nil]
    | cons next lines =>
      rw [List.intercalate_cons_cons, List.append_assoc, ih (List.cons_ne_nil _ _)]

variable {word left right : List Symbol} {symbol opening closing : Symbol}

theorem infix_append_cons (without : symbol ∉ word) (inside : word <:+: left ++ symbol :: right) :
    word <:+: left ∨ word <:+: right := by
  rcases inside with ⟨before, after, split⟩
  rw [List.append_assoc] at split
  rcases List.append_eq_append_iff.mp split with ⟨between, leftIs, rest⟩ | ⟨between, -, rest⟩
  · -- The word begins on the left side.
    rcases List.append_eq_append_iff.mp rest with ⟨beyond, betweenIs, -⟩ | ⟨beyond, wordIs, tail⟩
    · exact Or.inl ⟨before, beyond, by rw [leftIs, betweenIs, List.append_assoc]⟩
    · cases beyond with
      | nil => exact Or.inl ⟨before, [], by rw [leftIs, wordIs]; simp⟩
      | cons other beyond =>
        cases tail
        exact absurd (wordIs ▸ List.mem_append_right _ List.mem_cons_self) without
  · cases between with
    | nil =>
      rw [List.nil_append] at rest
      cases word with
      | nil => exact Or.inl List.nil_infix
      | cons first word =>
        rw [List.cons_append] at rest
        injection rest with same _
        exact absurd (same ▸ List.mem_cons_self) without
    | cons other between =>
      rw [List.cons_append] at rest
      injection rest with _ rest
      exact Or.inr ⟨between, after, by rw [rest, List.append_assoc]⟩

theorem infix_intercalate {inner : List Symbol} {pieces : List (List Symbol)}
    (nonempty : word ≠ []) (withoutOpening : opening ∉ word) (withoutClosing : closing ∉ word)
    (inside : word <:+: (opening :: (inner ++ [closing])).intercalate pieces) :
    word <:+: inner ∨ ∃ piece, piece ∈ pieces ∧ word <:+: piece := by
  induction pieces with
  | nil => exact absurd (List.eq_nil_of_infix_nil inside) nonempty
  | cons piece pieces ih =>
    cases pieces with
    | nil =>
      rw [List.intercalate_singleton] at inside
      exact Or.inr ⟨piece, List.mem_cons_self, inside⟩
    | cons next pieces =>
      rw [List.intercalate_cons_cons, List.append_assoc, List.cons_append, List.append_assoc,
        List.singleton_append] at inside
      rcases infix_append_cons withoutOpening inside with here | inside
      · exact Or.inr ⟨piece, List.mem_cons_self, here⟩
      rcases infix_append_cons withoutClosing inside with marked | later
      · exact Or.inl marked
      rcases ih later with marked | ⟨other, listed, there⟩
      · exact Or.inl marked
      · exact Or.inr ⟨other, List.mem_cons_of_mem _ listed, there⟩

namespace Pattern

variable {pattern : Pattern Symbol} {text inner : List Symbol}

theorem not_infix_replaceAll (nonempty : word ≠ []) (withoutOpening : opening ∉ word)
    (withoutClosing : closing ∉ word) (unmarked : ¬ word <:+: inner)
    (gone : pattern.Word word ∨ ¬ word <:+: text) :
    ¬ word <:+: pattern.replaceAll (opening :: (inner ++ [closing])) text := by
  intro inside
  rcases infix_intercalate nonempty withoutOpening withoutClosing inside with
    marked | ⟨piece, listed, there⟩
  · exact unmarked marked
  · rcases gone with is | absent
    · exact absent_of_mem_split listed word is there
    · exact absent (there.trans (infix_of_mem_split listed))

variable [DecidableEq Symbol] {first second : Symbol}

theorem split_literal_append (different : first ≠ second) {line text : List Symbol}
    (without : second ∉ line) :
    (literal [first, second] (List.cons_ne_nil _ _)).split (line ++ first :: second :: text) =
      line :: (literal [first, second] (List.cons_ne_nil _ _)).split text := by
  induction line with
  | nil => simp [split, splitFrom, literal]
  | cons symbol line ih =>
    have missing : ¬ [first, second] <+: symbol :: (line ++ first :: second :: text) := by
      intro begins
      rcases List.cons_prefix_cons.mp begins with ⟨-, begins⟩
      cases line with
      | nil => exact different (List.cons_prefix_cons.mp begins).1.symm
      | cons other line =>
        rcases List.cons_prefix_cons.mp begins with ⟨rfl, -⟩
        exact without (by simp)
    have unfound : (literal [first, second] (List.cons_ne_nil _ _)).matchAt
        (symbol :: (line ++ first :: second :: text)) = none := if_neg missing
    rcases split_cons_of_none unfound with ⟨head, others, was, is⟩
    rw [ih fun listed => without (List.mem_cons_of_mem _ listed)] at was
    cases was
    exact is

theorem split_literal_lines (different : first ≠ second) {lines : List (List Symbol)}
    (without : ∀ line, line ∈ lines -> second ∉ line) :
    (literal [first, second] (List.cons_ne_nil _ _)).split
        (lines.flatMap fun line => line ++ [first, second]) = lines ++ [[]] := by
  induction lines with
  | nil => rfl
  | cons line lines ih =>
    rw [List.flatMap_cons, List.append_assoc, List.cons_append, List.cons_append, List.nil_append,
      split_literal_append different (without line List.mem_cons_self),
      ih fun other listed => without other (List.mem_cons_of_mem _ listed), List.cons_append]

end Pattern

end Strings
