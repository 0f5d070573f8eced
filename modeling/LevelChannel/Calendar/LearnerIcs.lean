import LevelChannel.Clocks.Calendar
import LevelChannel.Schema.Lessons
import LevelChannel.Strings.ContentLines
import LevelChannel.Strings.Decimals
import Mathlib.Algebra.Group.Int.Defs

namespace LevelChannel

open Clocks Strings ICalendar

namespace LearnerIcs

/-!
# The calendar feed of a learner

Calendar programs fetch the lessons of a learner as an `.ics` file.  Whatever stands in the title
of a tariff ends up within one property of one event: what is written is the text of a tree of
components, and reading it gives the tree back.
-/

/-! ## The feed -/

/-- A slot of the feed.  Its time stands for `startAtIso`, in milliseconds. -/
structure IcsSlot where
  id : String
  startAt : Int
  durationMinutes : Int
  status : SlotStatus
  tariffTitleRu : Option String

/-- `number.toString()`, of an integer. -/
def integerText (number : Int) : List Char :=
  if number < 0 then '-' :: Nat.toDigits 10 number.natAbs else Nat.toDigits 10 number.natAbs

def formatIcsDate (instant : Int) : List Char :=
  let date := dateOf (instant / 86400000)
  let time := instant % 86400000
  padStart 4 (integerText date.year) ++ (padStart 2 (integerText date.month) ++
    (padStart 2 (integerText date.day) ++ 'T' :: (padStart 2 (integerText (time / 3600000)) ++
      (padStart 2 (integerText (time / 60000 % 60)) ++
        (padStart 2 (integerText (time / 1000 % 60)) ++ ['Z'])))))

/-- `text.replace(/symbol/g, marker)` -/
def replaceSymbol (symbol : Char) (marker text : List Char) : List Char :=
  (Pattern.literal [symbol] (List.cons_ne_nil _ _)).replaceAll marker text

def escapeIcsText (text : List Char) : List Char :=
  replaceSymbol '\n' ['\\', 'n'] (replaceSymbol ',' ['\\', ','] (replaceSymbol ';' ['\\', ';']
    (replaceSymbol '\\' ['\\', '\\'] text)))

namespace IcsSlot

def endAt (slot : IcsSlot) : Int :=
  slot.startAt + slot.durationMinutes * 60 * 1000

def summary (slot : IcsSlot) : List Char :=
  match slot.tariffTitleRu with
  | none => "Занятие".toList
  | some title =>
    if title.isEmpty then "Занятие".toList
    else "Занятие".toList ++ (" — ".toList ++ title.toList)

def description (slot : IcsSlot) (siteUrl : String) : List Char :=
  "Статус: ".toList ++ (slot.status.text.toList ++ ("\\n".toList ++
    ("Открыть в кабинете: ".toList ++ (siteUrl.toList ++ "/cabinet".toList))))

def lines (slot : IcsSlot) (now : List Char) (siteUrl : String) : List (List Char) :=
  ["BEGIN:VEVENT".toList,
    "UID:slot-".toList ++ (slot.id.toList ++ "@levelchannel.ru".toList),
    "DTSTAMP:".toList ++ now,
    "DTSTART:".toList ++ formatIcsDate slot.startAt,
    "DTEND:".toList ++ formatIcsDate slot.endAt,
    "SUMMARY:".toList ++ escapeIcsText slot.summary,
    "DESCRIPTION:".toList ++ slot.description siteUrl,
    "URL:".toList ++ (siteUrl.toList ++ "/cabinet".toList),
    "END:VEVENT".toList]

end IcsSlot

/-- `buildLearnerIcs`, at an instant. -/
def buildLearnerIcs (nowMs : Int) (slots : List IcsSlot) (siteUrl : String) : String :=
  let now := formatIcsDate nowMs
  let lines :=
    ["BEGIN:VCALENDAR".toList,
      "VERSION:2.0".toList,
      "PRODID:-//LevelChannel//Learner Lessons//RU".toList,
      "CALSCALE:GREGORIAN".toList,
      "METHOD:PUBLISH".toList,
      "X-WR-CALNAME:LevelChannel — мои занятия".toList,
      "X-WR-TIMEZONE:Europe/Moscow".toList] ++
    slots.flatMap (fun slot =>
      if slot.status = .cancelled then [] else slot.lines now siteUrl) ++
    ["END:VCALENDAR".toList]
  String.ofList (crlf.intercalate lines ++ crlf)

def readUtcTime (text : List Char) : Option Int :=
  (readField 4 text).bind fun year =>
    (readField 2 year.2).bind fun month =>
      (readField 2 month.2).bind fun day =>
        (readSymbol 'T' day.2).bind fun text =>
          (readField 2 text).bind fun hours =>
            (readField 2 hours.2).bind fun minutes =>
              (readField 2 minutes.2).bind fun seconds =>
                if seconds.2 = ['Z'] then
                  some (dayNumber ⟨year.1, month.1, day.1⟩ * 86400 + hours.1 * 3600 +
                    minutes.1 * 60 + seconds.1)
                else none

def between (opening closing text : List Char) : Option (List Char) :=
  if opening <+: text ∧ closing <:+ text.drop opening.length then
    some ((text.drop opening.length).take ((text.drop opening.length).length - closing.length))
  else none

/-- An event: the slot that its identifier names, its times in seconds and its summary. -/
structure FeedEvent where
  slotId : String
  startAt : Int
  endAt : Int
  summary : List Char
  deriving DecidableEq

def valueOf (name : String) (properties : List Property) : Option (List Char) :=
  (properties.find? fun property => property.name = name.toList).map Property.value

def readEvent : Component -> Option FeedEvent
  | .mk name properties _ =>
    if name = "VEVENT".toList then
      ((valueOf "UID" properties).bind (between "slot-".toList "@levelchannel.ru".toList)).bind
        fun slotId =>
          ((valueOf "DTSTART" properties).bind readUtcTime).bind fun startAt =>
            ((valueOf "DTEND" properties).bind readUtcTime).bind fun endAt =>
              (valueOf "SUMMARY" properties).map fun summary =>
                ⟨String.ofList slotId, startAt, endAt, unescape summary⟩
    else none

def readFeed (text : String) : Option (List FeedEvent) :=
  (readComponent text.toList).bind fun
    | .mk name _ components =>
      if name = "VCALENDAR".toList then components.mapM readEvent else none

def event (now : List Char) (siteUrl : String) (slot : IcsSlot) : Component :=
  .mk "VEVENT".toList
    [⟨"UID".toList, "slot-".toList ++ (slot.id.toList ++ "@levelchannel.ru".toList)⟩,
      ⟨"DTSTAMP".toList, now⟩,
      ⟨"DTSTART".toList, formatIcsDate slot.startAt⟩,
      ⟨"DTEND".toList, formatIcsDate slot.endAt⟩,
      ⟨"SUMMARY".toList, escapeIcsText slot.summary⟩,
      ⟨"DESCRIPTION".toList, slot.description siteUrl⟩,
      ⟨"URL".toList, siteUrl.toList ++ "/cabinet".toList⟩] []

def shown (slots : List IcsSlot) : List IcsSlot :=
  slots.filter fun slot => slot.status ≠ .cancelled

def header : List Property :=
  [⟨"VERSION".toList, "2.0".toList⟩,
    ⟨"PRODID".toList, "-//LevelChannel//Learner Lessons//RU".toList⟩,
    ⟨"CALSCALE".toList, "GREGORIAN".toList⟩,
    ⟨"METHOD".toList, "PUBLISH".toList⟩,
    ⟨"X-WR-CALNAME".toList, "LevelChannel — мои занятия".toList⟩,
    ⟨"X-WR-TIMEZONE".toList, "Europe/Moscow".toList⟩]

def calendar (nowMs : Int) (slots : List IcsSlot) (siteUrl : String) : Component :=
  .mk "VCALENDAR".toList header ((shown slots).map (event (formatIcsDate nowMs) siteUrl))

variable {nowMs : Int} {slot : IcsSlot} {slots : List IcsSlot} {siteUrl : String}

theorem lines_event (now : List Char) :
    (event now siteUrl slot).lines.map Property.line = slot.lines now siteUrl := rfl

theorem flatMap_lines_event (now : List Char) :
    (linesOf ((shown slots).map (event now siteUrl))).map Property.line =
      slots.flatMap fun slot =>
        if slot.status = .cancelled then [] else slot.lines now siteUrl := by
  induction slots with
  | nil => rfl
  | cons slot slots ih =>
    rw [List.flatMap_cons, ← ih, shown, List.filter_cons]
    by_cases cancelled : slot.status = .cancelled
    · simp [cancelled, shown]
    · rw [if_neg cancelled, if_pos (decide_eq_true cancelled), List.map_cons, linesOf,
        List.map_append, lines_event]
      rfl

theorem lines_header : (⟨beginName, "VCALENDAR".toList⟩ :: header).map Property.line =
      ["BEGIN:VCALENDAR".toList, "VERSION:2.0".toList,
        "PRODID:-//LevelChannel//Learner Lessons//RU".toList, "CALSCALE:GREGORIAN".toList,
        "METHOD:PUBLISH".toList, "X-WR-CALNAME:LevelChannel — мои занятия".toList,
        "X-WR-TIMEZONE:Europe/Moscow".toList] := by
  decide +kernel

theorem buildLearnerIcs_eq : buildLearnerIcs nowMs slots siteUrl =
      String.ofList (textOf (calendar nowMs slots siteUrl).lines) := by
  have closing : Property.line ⟨endName, "VCALENDAR".toList⟩ = "END:VCALENDAR".toList := by
    decide
  rw [buildLearnerIcs, intercalate_append crlf (by simp), textOf_eq, ← flatMap_lines_event,
    ← lines_header, ← closing, calendar, Component.lines, ← List.cons_append, ← List.append_assoc,
    List.map_append, List.map_append, List.map_singleton]

theorem escapeIcsText_eq (text : List Char) : escapeIcsText text = text.flatMap escapeSymbol := by
  simp only [escapeIcsText, replaceSymbol, Pattern.replaceAll_symbol, List.flatMap_assoc]
  refine List.flatMap_congr fun symbol _ => ?_
  rw [escapeSymbol]
  by_cases backslash : symbol = '\\'
  · subst backslash
    rfl
  by_cases semicolon : symbol = ';'
  · subst semicolon
    rfl
  by_cases comma : symbol = ','
  · subst comma
    rfl
  by_cases lineBreak : symbol = '\n'
  · subst lineBreak
    rfl
  · simp [backslash, semicolon, comma, lineBreak]

theorem integerText_of_nonneg {number : Int} (nonneg : 0 ≤ number) :
    integerText number = Nat.toDigits 10 number.natAbs :=
  if_neg (Int.not_lt.mpr nonneg)

theorem no_break_field (width : Nat) (number : Int) :
    '\n' ∉ padStart width (integerText number) := by
  have digits : ∀ number : Nat, '\n' ∉ Nat.toDigits 10 number := by
    intro number listed
    have digit := isDigit_of_mem_toDigits listed
    revert digit
    decide
  intro listed
  rcases List.mem_append.mp listed with zero | listed
  · cases List.eq_of_mem_replicate zero
  · rw [integerText] at listed
    split at listed
    · rcases List.mem_cons.mp listed with sign | listed
      · cases sign
      · exact digits _ listed
    · exact digits _ listed

theorem no_break_formatIcsDate (instant : Int) : '\n' ∉ formatIcsDate instant := by
  simp only [formatIcsDate, List.mem_append, List.mem_cons, no_break_field, false_or,
    List.not_mem_nil, or_false]
  decide

theorem readField_integerText {width : Nat} {number : Int} (wide : 0 < width)
    (nonneg : 0 ≤ number) (small : number < 10 ^ width) (rest : List Char) :
    readField width (padStart width (integerText number) ++ rest) = some (number.natAbs, rest) := by
  rw [integerText_of_nonneg nonneg]
  rw [← Int.natAbs_of_nonneg nonneg] at small
  exact readField_zeroPadded wide (by exact_mod_cast small) rest

theorem readUtcTime_formatIcsDate {instant : Int} (first : 0 ≤ (dateOf (instant / 86400000)).year)
    (last : (dateOf (instant / 86400000)).year ≤ 9999) :
    readUtcTime (formatIcsDate instant) = some (instant / 1000) := by
  have ⟨⟨month_ge, month_le⟩, day_ge, day_le⟩ := dateOf_within (instant / 86400000)
  have sameDay := dayNumber_dateOf (instant / 86400000)
  rw [readUtcTime, formatIcsDate, readField_integerText (by decide) first (by omega),
    Option.bind_some, readField_integerText (by decide) (by omega) (by omega), Option.bind_some,
    readField_integerText (by decide) (by omega) (by omega), Option.bind_some, readSymbol_cons,
    Option.bind_some, readField_integerText (by decide) (by omega) (by omega), Option.bind_some,
    readField_integerText (by decide) (by omega) (by omega), Option.bind_some,
    readField_integerText (by decide) (by omega) (by omega), Option.bind_some, if_pos rfl,
    Int.natAbs_of_nonneg first, Int.natAbs_of_nonneg (by omega), Int.natAbs_of_nonneg (by omega),
    sameDay]
  congr 1
  omega

theorem between_append (opening closing text : List Char) :
    between opening closing (opening ++ (text ++ closing)) = some text := by
  rw [between, List.drop_left]
  refine (if_pos ⟨List.prefix_append _ _, List.suffix_append _ _⟩).trans ?_
  rw [List.length_append, Nat.add_sub_cancel, List.take_left]

/-! ## Reading what was written -/

/-- No line break in the identifier, and years of at most four digits. -/
structure IcsSlot.Writable (slot : IcsSlot) : Prop where
  no_break : '\n' ∉ slot.id.toList
  start_ge : 0 ≤ (dateOf (slot.startAt / 86400000)).year
  start_le : (dateOf (slot.startAt / 86400000)).year ≤ 9999
  end_ge : 0 ≤ (dateOf (slot.endAt / 86400000)).year
  end_le : (dateOf (slot.endAt / 86400000)).year ≤ 9999

theorem plain_property {name : String} {value : List Char}
    (plain : name.toList ≠ beginName ∧ name.toList ≠ endName ∧ ':' ∉ name.toList ∧
      '\n' ∉ name.toList) (noBreak : '\n' ∉ value) : Property.Plain ⟨name.toList, value⟩ where
  not_begin := plain.1
  not_end := plain.2.1
  no_colon := plain.2.2.1
  no_break := by
    intro listed
    rcases List.mem_append.mp listed with inName | inValue
    · exact plain.2.2.2 inName
    · rcases List.mem_cons.mp inValue with colon | inValue
      · cases colon
      · exact noBreak inValue

theorem no_break_statusText (status : SlotStatus) : '\n' ∉ status.text.toList := by
  cases status <;> decide

theorem no_break_append {first second : List Char} (left : '\n' ∉ first) (right : '\n' ∉ second) :
    '\n' ∉ first ++ second :=
  fun listed => (List.mem_append.mp listed).elim left right

theorem no_break_description (site : '\n' ∉ siteUrl.toList) : '\n' ∉ slot.description siteUrl :=
  no_break_append (by decide) (no_break_append (no_break_statusText _) (no_break_append (by decide)
    (no_break_append (by decide) (no_break_append site (by decide)))))

theorem plain_event (writable : slot.Writable) (site : '\n' ∉ siteUrl.toList) {now : List Char}
    (clock : '\n' ∉ now) : (event now siteUrl slot).Plain := by
  have identifier : '\n' ∉ "slot-".toList ++ (slot.id.toList ++ "@levelchannel.ru".toList) :=
    no_break_append (by decide) (no_break_append writable.no_break (by decide))
  have url : '\n' ∉ siteUrl.toList ++ "/cabinet".toList := no_break_append site (by decide)
  have summary : '\n' ∉ escapeIcsText slot.summary :=
    escapeIcsText_eq _ ▸ no_break_escape _
  have each : ∀ property, property ∈
      [⟨"UID".toList, "slot-".toList ++ (slot.id.toList ++ "@levelchannel.ru".toList)⟩,
        ⟨"DTSTAMP".toList, now⟩, ⟨"DTSTART".toList, formatIcsDate slot.startAt⟩,
        ⟨"DTEND".toList, formatIcsDate slot.endAt⟩,
        ⟨"SUMMARY".toList, escapeIcsText slot.summary⟩,
        ⟨"DESCRIPTION".toList, slot.description siteUrl⟩,
        (⟨"URL".toList, siteUrl.toList ++ "/cabinet".toList⟩ : Property)] -> property.Plain := by
    simp only [List.forall_mem_cons]
    exact ⟨plain_property (by decide) identifier, plain_property (by decide) clock,
      plain_property (by decide) (no_break_formatIcsDate _),
      plain_property (by decide) (no_break_formatIcsDate _), plain_property (by decide) summary,
      plain_property (by decide) (no_break_description site), plain_property (by decide) url,
      fun _ none => absurd none List.not_mem_nil⟩
  have name : '\n' ∉ "VEVENT".toList := by decide
  exact ⟨name, each, trivial⟩

theorem plain_calendar (writable : ∀ slot, slot ∈ slots -> slot.Writable)
    (site : '\n' ∉ siteUrl.toList) : (calendar nowMs slots siteUrl).Plain := by
  refine ⟨by decide, ?_, plainAll_of_forall ?_⟩
  · simp only [header, List.forall_mem_cons]
    exact ⟨plain_property (by decide) (by decide), plain_property (by decide) (by decide),
      plain_property (by decide) (by decide), plain_property (by decide) (by decide),
      plain_property (by decide) (by decide), plain_property (by decide) (by decide),
      fun _ none => absurd none List.not_mem_nil⟩
  · intro component listed
    rcases List.mem_map.mp listed with ⟨slot, there, rfl⟩
    exact plain_event (writable slot (List.mem_of_mem_filter there)) site
      (no_break_formatIcsDate nowMs)

def eventOf (slot : IcsSlot) : FeedEvent where
  slotId := slot.id
  startAt := slot.startAt / 1000
  endAt := slot.endAt / 1000
  summary := slot.summary

theorem readEvent_event (writable : slot.Writable) (now : List Char) :
    readEvent (event now siteUrl slot) = some (eventOf slot) := by
  have uid : valueOf "UID" [⟨"UID".toList,
      "slot-".toList ++ (slot.id.toList ++ "@levelchannel.ru".toList)⟩] =
      some ("slot-".toList ++ (slot.id.toList ++ "@levelchannel.ru".toList)) := rfl
  have start := readUtcTime_formatIcsDate writable.start_ge writable.start_le
  have end_ := readUtcTime_formatIcsDate writable.end_ge writable.end_le
  change ((some ("slot-".toList ++ (slot.id.toList ++ "@levelchannel.ru".toList))).bind
    (between "slot-".toList "@levelchannel.ru".toList)).bind _ = _
  rw [Option.bind_some, between_append, Option.bind_some]
  change ((some (formatIcsDate slot.startAt)).bind readUtcTime).bind _ = _
  rw [Option.bind_some, start, Option.bind_some]
  change ((some (formatIcsDate slot.endAt)).bind readUtcTime).bind _ = _
  rw [Option.bind_some, end_, Option.bind_some]
  change some (FeedEvent.mk (String.ofList slot.id.toList) _ _
    (unescape (escapeIcsText slot.summary))) = _
  rw [escapeIcsText_eq, unescape_escape, String.ofList_toList]
  rfl

theorem mapM_readEvent {slots : List IcsSlot} (writable : ∀ slot, slot ∈ slots -> slot.Writable)
    (now : List Char) :
    (slots.map (event now siteUrl)).mapM readEvent = some (slots.map eventOf) := by
  induction slots with
  | nil => rfl
  | cons slot slots ih =>
    rw [List.map_cons, List.mapM_cons, readEvent_event (writable slot List.mem_cons_self),
      ih fun other listed => writable other (List.mem_cons_of_mem _ listed)]
    rfl

theorem length_linesOf (components : List Component) (size : Nat)
    (each : ∀ component, component ∈ components -> component.lines.length = size) :
    (linesOf components).length = components.length * size := by
  induction components with
  | nil => simp [linesOf]
  | cons component components ih =>
    rw [linesOf, List.length_append, each component List.mem_cons_self,
      ih fun other listed => each other (List.mem_cons_of_mem _ listed), List.length_cons,
      Nat.succ_mul, Nat.add_comm]

theorem length_lines_calendar :
    (calendar nowMs slots siteUrl).lines.length = (shown slots).length * 9 + 8 := by
  have events := length_linesOf
    ((shown slots).map (event (formatIcsDate nowMs) siteUrl)) 9 (by
      intro component listed
      rcases List.mem_map.mp listed with ⟨slot, -, rfl⟩
      rfl)
  rw [List.length_map] at events
  rw [calendar, Component.lines, List.length_cons, List.length_append, List.length_append, events]
  simp only [header, List.length_cons, List.length_nil]
  omega

/-- Reading the feed gives an event for every slot that is not cancelled, in their order, and no
title changes how many lines, properties or events there are. -/
theorem learnerIcs_reads_back (nowMs : Int) (slots : List IcsSlot) (siteUrl : String)
    (writable : ∀ slot, slot ∈ slots -> slot.Writable) (site : '\n' ∉ siteUrl.toList) :
    readFeed (buildLearnerIcs nowMs slots siteUrl) = some ((shown slots).map eventOf) ∧
      readComponent (buildLearnerIcs nowMs slots siteUrl).toList =
        some (calendar nowMs slots siteUrl) ∧
      (splitLines (buildLearnerIcs nowMs slots siteUrl).toList).map List.length =
        some ((shown slots).length * 9 + 8) := by
  have plain : (calendar nowMs slots siteUrl).Plain := plain_calendar writable site
  have read := readComponent_textOf plain
  rw [buildLearnerIcs_eq]
  refine ⟨?_, ?_, ?_⟩
  · rw [readFeed, String.toList_ofList, read]
    exact mapM_readEvent
      (fun slot listed => writable slot (List.mem_of_mem_filter listed)) _
  · rw [String.toList_ofList, read]
  · rw [String.toList_ofList,
      splitLines_textOf fun line listed => (plain_line _ plain line listed).2]
    simp only [Option.map_some, List.length_map, length_lines_calendar]

def hostileSlot : IcsSlot where
  id := "7f3a"
  startAt := 1767600000500
  durationMinutes := 45
  status := .booked
  tariffTitleRu := some "A\\;B,\r\nEND:VEVENT\r\nBEGIN:VEVENT"

theorem learnerIcs_reads_back_hostile :
    readFeed (buildLearnerIcs 0 [hostileSlot] "https://levelchannel.ru") =
        some ((shown [hostileSlot]).map eventOf) ∧
      readComponent (buildLearnerIcs 0 [hostileSlot] "https://levelchannel.ru").toList =
        some (calendar 0 [hostileSlot] "https://levelchannel.ru") ∧
      (splitLines (buildLearnerIcs 0 [hostileSlot] "https://levelchannel.ru").toList).map
        List.length = some ((shown [hostileSlot]).length * 9 + 8) :=
  learnerIcs_reads_back 0 [hostileSlot] "https://levelchannel.ru"
    (fun slot listed => by
      rw [List.mem_singleton.mp listed]
      exact ⟨by decide, by decide, by decide, by decide, by decide⟩)
    (by decide)

end LearnerIcs

end LevelChannel
