import LevelChannel.Scheduling.MoscowStarts
import Mathlib.Data.List.Chain
import Mathlib.Data.List.Range

namespace LevelChannel

open Clocks

/-!
# Slots that are painted

On the calendar of a week slots are painted by dragging over the half hours of a day, from six to
midnight.  The gesture ends in a span of cells, and the span is cut into slots of one length, each
at a time by the clocks of Moscow.  The calendar has three rows below ten in the evening in which
no slot may start.
-/

namespace Painting

open BulkPreview MoscowStarts

structure CalendarCoords where
  ymd : String
  halfHour : Int
  deriving DecidableEq

inductive DragState where
  | idle
  | painting (ymd : String) (fromHalfHour toHalfHour : Int)
  | moving (slotId : RowId) (durationMinutes : Int) (originYmd : String) (originHalfHour : Int)
      (currentYmd : String) (currentHalfHour : Int)
  deriving DecidableEq

inductive DragAction where
  | cellMouseDown (coords : CalendarCoords)
  | slotMouseDown (slotId : RowId) (durationMinutes : Int) (coords : CalendarCoords)
  | cellMouseEnter (coords : CalendarCoords)
  | mouseUp
  | escape
  | reset
  deriving DecidableEq

structure PaintSpan where
  ymd : String
  fromHalfHour : Int
  toHalfHour : Int
  deriving DecidableEq

structure MoveTarget where
  slotId : RowId
  durationMinutes : Int
  originYmd : String
  originHalfHour : Int
  newYmd : String
  newHalfHour : Int
  deriving DecidableEq

inductive DragEffect where
  | paintCommit (span : PaintSpan)
  | moveCommit (target : MoveTarget)
  deriving DecidableEq

def HALF_HOUR_MIN : Int := 0

def HALF_HOUR_MAX : Int := 35

def clampHalfHour (h : Int) : Int :=
  if h < HALF_HOUR_MIN then HALF_HOUR_MIN else if HALF_HOUR_MAX < h then HALF_HOUR_MAX else h

def reduceDrag (state : DragState) : DragAction -> DragState × Option DragEffect
  | .reset => (.idle, none)
  | .escape => (.idle, none)
  | .cellMouseDown coords =>
    (.painting coords.ymd (clampHalfHour coords.halfHour) (clampHalfHour coords.halfHour), none)
  | .slotMouseDown slotId durationMinutes coords =>
    (.moving slotId durationMinutes coords.ymd (clampHalfHour coords.halfHour) coords.ymd
      (clampHalfHour coords.halfHour), none)
  | .cellMouseEnter coords =>
    match state with
    | .painting ymd fromHalfHour toHalfHour =>
      if coords.ymd ≠ ymd then (state, none)
      else if clampHalfHour coords.halfHour = toHalfHour then (state, none)
      else (.painting ymd fromHalfHour (clampHalfHour coords.halfHour), none)
    | .moving slotId durationMinutes originYmd originHalfHour _ _ =>
      (.moving slotId durationMinutes originYmd originHalfHour coords.ymd
        (clampHalfHour coords.halfHour), none)
    | .idle => (state, none)
  | .mouseUp =>
    match state with
    | .painting ymd fromHalfHour toHalfHour =>
      (.idle, some (.paintCommit
        ⟨ymd, min fromHalfHour toHalfHour, max fromHalfHour toHalfHour⟩))
    | .moving slotId durationMinutes originYmd originHalfHour currentYmd currentHalfHour =>
      if currentYmd = originYmd ∧ currentHalfHour = originHalfHour then (.idle, none)
      else
        (.idle, some (.moveCommit ⟨slotId, durationMinutes, originYmd, originHalfHour, currentYmd,
          currentHalfHour⟩))
    | .idle => (state, none)

def effects (state : DragState) : List DragAction -> List DragEffect
  | [] => []
  | action :: actions =>
    (reduceDrag state action).2.toList ++ effects (reduceDrag state action).1 actions

/-! ## The slots of a span -/

/-- `isValidYmd`, with the date that is valid. -/
def validYmd (ymd : String) : Option Date :=
  (datePattern ymd).filter fun date =>
    decide (1900 ≤ date.year ∧ date.year ≤ 2100) && decide (1 ≤ date.month ∧ date.month ≤ 12) &&
      decide (1 ≤ date.day ∧ date.day ≤ 31) && decide (dateOf (dayNumber date) = date)

/-- The correction of the source is that of the bulk preview, for Moscow. -/
def mskWallToUtcIso (moscow : Zone) (dateYmd timeHhmm : String) : Option Int :=
  match validYmd dateYmd, timeOf timeHhmm with
  | some date, some time => some (wallTimeToUtcIso date time moscow)
  | _, _ => none

def CALENDAR_GRID_START_HOUR : Int := 6

def ALLOWED_PAINT_DURATIONS_MIN : List Int :=
  [30, 60, 90, 120]

def halfHourToHhmm (halfHour : Int) : String :=
  let totalMin := CALENDAR_GRID_START_HOUR * 60 + halfHour * 30
  twoDigits (totalMin / 60) ++ ":" ++ twoDigits (totalMin % 60)

structure PaintSynthOutput where
  startsIso : List Int
  startsHhmm : List String
  deriving DecidableEq

/-- The loop of the synthesis: a start that is no instant ends it without a result. -/
def startsOf (moscow : Zone) (ymd : String) (fromHalfHour cellsPerSlot : Int) (slotCount : Nat) :
    Option (List Int) :=
  (List.range slotCount).mapM fun i : Nat =>
    mskWallToUtcIso moscow ymd (halfHourToHhmm (fromHalfHour + i * cellsPerSlot))

def synthesizePaintSlots (moscow : Zone) (span : PaintSpan) (durationMinutes : Int) :
    Option PaintSynthOutput :=
  if (validYmd span.ymd).isNone then none
  else if durationMinutes ∉ ALLOWED_PAINT_DURATIONS_MIN then none
  else if span.fromHalfHour < 0 ∨ 35 < span.toHalfHour then none
  else if span.toHalfHour < span.fromHalfHour then none
  else
    let cellsPerSlot := durationMinutes / 30
    let spanCells := span.toHalfHour - span.fromHalfHour + 1
    let slotCount := (spanCells / cellsPerSlot).toNat
    if slotCount = 0 then none
    else
      (startsOf moscow span.ymd span.fromHalfHour cellsPerSlot slotCount).map fun startsIso =>
        { startsIso := startsIso
          startsHhmm := (List.range slotCount).map fun i =>
            halfHourToHhmm (span.fromHalfHour + i * cellsPerSlot) }

def OnCalendar : DragState -> Prop
  | .painting _ fromHalfHour toHalfHour =>
    (0 ≤ fromHalfHour ∧ fromHalfHour ≤ 35) ∧ 0 ≤ toHalfHour ∧ toHalfHour ≤ 35
  | _ => True

theorem onCalendar_idle : OnCalendar .idle :=
  trivial

theorem clampHalfHour_within (h : Int) : 0 ≤ clampHalfHour h ∧ clampHalfHour h ≤ 35 := by
  unfold clampHalfHour HALF_HOUR_MIN HALF_HOUR_MAX
  split
  · omega
  · split <;> omega

theorem onCalendar_reduceDrag {state : DragState} (before : OnCalendar state)
    (action : DragAction) : OnCalendar (reduceDrag state action).1 := by
  cases action with
  | cellMouseDown coords => exact ⟨clampHalfHour_within _, clampHalfHour_within _⟩
  | slotMouseDown slotId durationMinutes coords => trivial
  | cellMouseEnter coords =>
    cases state with
    | idle => trivial
    | moving => trivial
    | painting ymd fromHalfHour toHalfHour =>
      simp only [reduceDrag]
      split
      · exact before
      · split
        · exact before
        · exact ⟨before.1, clampHalfHour_within _⟩
  | mouseUp =>
    cases state with
    | idle => trivial
    | painting => trivial
    | moving =>
      simp only [reduceDrag]
      split <;> trivial
  | escape => trivial
  | reset => trivial

theorem span_of_reduceDrag {state : DragState} (before : OnCalendar state) {action : DragAction}
    {span : PaintSpan} (emitted : (reduceDrag state action).2 = some (.paintCommit span)) :
    0 ≤ span.fromHalfHour ∧ span.fromHalfHour ≤ span.toHalfHour ∧ span.toHalfHour ≤ 35 := by
  cases action with
  | mouseUp =>
    cases state with
    | idle => cases emitted
    | painting ymd fromHalfHour toHalfHour =>
      cases emitted
      obtain ⟨first, last⟩ := before
      dsimp only
      omega
    | moving =>
      simp only [reduceDrag] at emitted
      split at emitted <;> cases emitted
  | cellMouseEnter coords =>
    cases state with
    | idle => cases emitted
    | moving => cases emitted
    | painting =>
      simp only [reduceDrag] at emitted
      split at emitted
      · cases emitted
      · split at emitted <;> cases emitted
  | _ => cases emitted

theorem span_of_effects {state : DragState} (before : OnCalendar state)
    {actions : List DragAction} {span : PaintSpan}
    (emitted : DragEffect.paintCommit span ∈ effects state actions) :
    0 ≤ span.fromHalfHour ∧ span.fromHalfHour ≤ span.toHalfHour ∧ span.toHalfHour ≤ 35 := by
  induction actions generalizing state with
  | nil => cases emitted
  | cons action actions ih =>
    rcases List.mem_append.mp emitted with now | later
    · exact span_of_reduceDrag before (Option.mem_toList.mp now)
    · exact ih (onCalendar_reduceDrag before action) later

/-! ## When the slots begin -/

/-- The clocks of Moscow are not turned between five in the morning and one at night, and by no
more than an hour in the night before and after. -/
structure SteadyDay (moscow : Zone) (day offset : Int) : Prop where
  daytime : ∀ instant, 86400000 * day + 18000000 ≤ instant + 60000 * offset ->
    instant + 60000 * offset < 86400000 * day + 90000000 -> moscow.offset instant = offset
  nights : ∀ instant, 86400000 * day ≤ instant -> instant < 86400000 * (day + 1) ->
    offset - 60 ≤ moscow.offset instant ∧ moscow.offset instant ≤ offset + 60

def cellStart (day offset halfHour : Int) : Int :=
  86400000 * day + 60000 * (360 + 30 * halfHour) - 60000 * offset

theorem timeOf_halfHourToHhmm {halfHour : Int} (onGrid : 0 ≤ halfHour ∧ halfHour ≤ 35) :
    ∃ time, timeOf (halfHourToHhmm halfHour) = some time ∧
      time.ms = 60000 * (360 + 30 * halfHour) := by
  have cells : ∀ cell : Fin 36,
      (timeOf (halfHourToHhmm cell)).map TimeOfDay.ms =
        some (60000 * (360 + 30 * (cell : Int))) := by
    decide +kernel
  have cell := cells ⟨halfHour.toNat, by omega⟩
  have same : ((halfHour.toNat : Nat) : Int) = halfHour := Int.toNat_of_nonneg onGrid.1
  simp only [same] at cell
  exact Option.map_eq_some_iff.mp cell

theorem validYmd_spec {ymd : String} {date : Date} (valid : validYmd ymd = some date) :
    1900 ≤ date.year ∧ dateOf (dayNumber date) = date := by
  obtain ⟨_, holds⟩ := Option.filter_eq_some_iff.mp valid
  simp only [Bool.and_eq_true, decide_eq_true_eq] at holds
  exact ⟨holds.1.1.1.1, holds.2⟩

theorem mskWallToUtcIso_cell {moscow : Zone} {ymd : String} {date : Date}
    (valid : validYmd ymd = some date) {offset : Int}
    (steady : SteadyDay moscow (dayNumber date) offset)
    {halfHour : Int} (onGrid : 0 ≤ halfHour ∧ halfHour ≤ 35) :
    mskWallToUtcIso moscow ymd (halfHourToHhmm halfHour) =
      some (cellStart (dayNumber date) offset halfHour) := by
  obtain ⟨time, read, atTime⟩ := timeOf_halfHourToHhmm onGrid
  obtain ⟨late, same⟩ := validYmd_spec valid
  have era : dayNumber ⟨1900, 1, 1⟩ ≤ dayNumber date := by
    rw [← le_year_iff, same]
    exact late
  have ancient : dayNumber ⟨100, 1, 1⟩ + 2 ≤ dayNumber ⟨1900, 1, 1⟩ := by decide
  have written : writtenDate (dayNumber date) = date := by
    rw [writtenDate, same]
    simp only [if_neg (by omega : ¬date.year ≤ 0)]
  have found := @wallTimeToUtcIso_eq moscow _ (by omega : _ ≤ dayNumber date) time
  rw [written] at found
  have first : offset - 60 ≤ moscow.offset (wallOf (dayNumber date) time) ∧
      moscow.offset (wallOf (dayNumber date) time) ≤ offset + 60 :=
    steady.nights _ (by rw [wallOf]; omega) (by rw [wallOf]; omega)
  -- the first guess is an hour off at most, and then it is still daytime
  have second : moscow.offset (moscow.guess (wallOf (dayNumber date) time)
      (wallOf (dayNumber date) time)) = offset := by
    refine steady.daytime _ ?_ ?_
    · rw [Zone.guess, wallOf]
      rw [wallOf] at first
      omega
    · rw [Zone.guess, wallOf]
      rw [wallOf] at first
      omega
  rw [mskWallToUtcIso, valid, read]
  dsimp only
  rw [found, Zone.secondGuess, Zone.guess, second, wallOf, atTime, cellStart]

theorem mapM_eq_some_of_forall {Source Target : Type} {f : Source -> Option Target}
    {g : Source -> Target} {sources : List Source}
    (all : ∀ source, source ∈ sources -> f source = some (g source)) :
    sources.mapM f = some (sources.map g) := by
  induction sources with
  | nil => rfl
  | cons source sources ih =>
    rw [List.mapM_cons, all source List.mem_cons_self,
      ih fun other member => all other (List.mem_cons_of_mem source member)]
    rfl

def slotCount (span : PaintSpan) (durationMinutes : Int) : Nat :=
  ((span.toHalfHour - span.fromHalfHour + 1) / (durationMinutes / 30)).toNat

def paintedStarts (moscow : Zone) (span : PaintSpan) (durationMinutes : Int) : List Int :=
  ((synthesizePaintSlots moscow span durationMinutes).map (·.startsIso)).getD []

theorem cells_of_allowed {durationMinutes : Int}
    (allowed : durationMinutes ∈ ALLOWED_PAINT_DURATIONS_MIN) :
    0 < durationMinutes / 30 ∧ 30 * (durationMinutes / 30) = durationMinutes ∧
      durationMinutes / 30 ≤ 4 := by
  simp only [ALLOWED_PAINT_DURATIONS_MIN, List.mem_cons, List.not_mem_nil, or_false] at allowed
  omega

theorem slot_fits {span : PaintSpan} {durationMinutes : Int}
    (allowed : durationMinutes ∈ ALLOWED_PAINT_DURATIONS_MIN) {i : Nat}
    (listed : i < slotCount span durationMinutes) :
    (i + 1) * (durationMinutes / 30) ≤ span.toHalfHour - span.fromHalfHour + 1 := by
  have ⟨whole, _, _⟩ := cells_of_allowed allowed
  refine (Int.le_ediv_iff_mul_le whole).mp ?_
  rw [slotCount] at listed
  omega

theorem paintedStarts_eq {moscow : Zone} {span : PaintSpan} {date : Date}
    (valid : validYmd span.ymd = some date) {offset : Int}
    (steady : SteadyDay moscow (dayNumber date) offset)
    (within : 0 ≤ span.fromHalfHour ∧ span.fromHalfHour ≤ span.toHalfHour ∧ span.toHalfHour ≤ 35)
    {durationMinutes : Int} (allowed : durationMinutes ∈ ALLOWED_PAINT_DURATIONS_MIN) :
    paintedStarts moscow span durationMinutes =
      (List.range (slotCount span durationMinutes)).map fun i : Nat =>
        cellStart (dayNumber date) offset (span.fromHalfHour + i * (durationMinutes / 30)) := by
  have ⟨whole, _, _⟩ := cells_of_allowed allowed
  have onCalendar : ¬(span.fromHalfHour < 0 ∨ 35 < span.toHalfHour) := by omega
  have ordered : ¬span.toHalfHour < span.fromHalfHour := by omega
  have instants : startsOf moscow span.ymd span.fromHalfHour (durationMinutes / 30)
      (slotCount span durationMinutes) =
      some ((List.range (slotCount span durationMinutes)).map fun i : Nat =>
        cellStart (dayNumber date) offset (span.fromHalfHour + i * (durationMinutes / 30))) := by
    rw [startsOf]
    refine mapM_eq_some_of_forall fun i listed => mskWallToUtcIso_cell valid steady ?_
    have fits := slot_fits allowed (List.mem_range.mp listed)
    have forward : 0 ≤ (i : Int) * (durationMinutes / 30) :=
      Int.mul_nonneg (Int.natCast_nonneg i) whole.le
    rw [Int.add_mul, Int.one_mul] at fits
    omega
  rw [paintedStarts, synthesizePaintSlots, valid]
  simp only [Option.isNone_some, Bool.false_eq_true, if_false, allowed, not_true_eq_false,
    onCalendar, ordered]
  change ((if slotCount span durationMinutes = 0 then none else
    (startsOf moscow span.ymd span.fromHalfHour (durationMinutes / 30)
      (slotCount span durationMinutes)).map _).map _).getD [] = _
  split
  case isTrue none_ =>
    rw [none_]
    rfl
  case isFalse =>
    rw [instants]
    rfl

/-- The slots of a span, one after the other from its first cell, none missing, and each of them
within the day and admitted by the gate of the server. -/
structure Creatable (moscow : Zone) (day : Int) (span : PaintSpan) (durationMinutes : Int)
    (starts : List Int) : Prop where
  inside : ∀ start, start ∈ starts ->
    86400000 * day + 60000 * (360 + 30 * span.fromHalfHour) ≤ moscow.wall start ∧
      moscow.wall start + 60000 * durationMinutes ≤
        86400000 * day + 60000 * (360 + 30 * (span.toHalfHour + 1))
  backToBack : starts.IsChain fun start next => next = start + 60000 * durationMinutes
  complete : 60000 * (30 * (span.toHalfHour + 1 - span.fromHalfHour)) <
    60000 * durationMinutes * (starts.length + 1)
  admitted : ∀ start, start ∈ starts ->
    MoscowStarts.validateSlotStartMsk moscow start = none
  sameDay : ∀ start, start ∈ starts -> ∀ instant, start ≤ instant ->
    instant < start + 60000 * durationMinutes -> moscow.dayAt instant = day

def EndsByTen (span : PaintSpan) (durationMinutes : Int) : Prop :=
  0 < slotCount span durationMinutes ->
    span.fromHalfHour + (slotCount span durationMinutes - 1) * (durationMinutes / 30) ≤ 32

theorem wall_of_daytime {moscow : Zone} {day offset instant : Int}
    (steady : SteadyDay moscow day offset) (after : cellStart day offset 0 ≤ instant)
    (before : instant < cellStart day offset 36) :
    moscow.wall instant = instant + 60000 * offset := by
  rw [cellStart] at after before
  rw [Zone.wall, steady.daytime instant (by omega) (by omega)]

/-- What a gesture paints can be created if and only if its last slot starts by ten in the
evening. -/
theorem painted_creatable_iff {moscow : Zone} {actions : List DragAction} {span : PaintSpan}
    (emitted : DragEffect.paintCommit span ∈ effects .idle actions) {date : Date}
    (valid : validYmd span.ymd = some date) {offset : Int}
    (steady : SteadyDay moscow (dayNumber date) offset)
    {durationMinutes : Int} (allowed : durationMinutes ∈ ALLOWED_PAINT_DURATIONS_MIN) :
    Creatable moscow (dayNumber date) span durationMinutes
        (paintedStarts moscow span durationMinutes) <-> EndsByTen span durationMinutes := by
  have within := span_of_effects onCalendar_idle emitted
  have ⟨whole, length_eq, short⟩ := cells_of_allowed allowed
  have starts := paintedStarts_eq valid steady within allowed
  generalize cells : durationMinutes / 30 = cellsPerSlot at whole length_eq short starts
  have fits : ∀ i : Nat, i < slotCount span durationMinutes ->
      0 ≤ (i : Int) * cellsPerSlot ∧
      i * cellsPerSlot + cellsPerSlot ≤ span.toHalfHour - span.fromHalfHour + 1 := by
    intro i listed
    have fit := slot_fits allowed listed
    rw [cells, Int.add_mul, Int.one_mul] at fit
    exact ⟨Int.mul_nonneg (Int.natCast_nonneg i) whole.le, fit⟩
  have isStart : ∀ start, start ∈ paintedStarts moscow span durationMinutes <->
      ∃ i : Nat, i < slotCount span durationMinutes ∧
        start = cellStart (dayNumber date) offset (span.fromHalfHour + i * cellsPerSlot) := by
    intro start
    rw [starts, List.mem_map]
    constructor
    · rintro ⟨i, listed, rfl⟩
      exact ⟨i, List.mem_range.mp listed, rfl⟩
    · rintro ⟨i, listed, rfl⟩
      exact ⟨i, List.mem_range.mpr listed, rfl⟩
  have walls : ∀ i : Nat, i < slotCount span durationMinutes -> ∀ instant,
      cellStart (dayNumber date) offset (span.fromHalfHour + i * cellsPerSlot) ≤ instant ->
      instant < cellStart (dayNumber date) offset (span.fromHalfHour + i * cellsPerSlot) +
        60000 * durationMinutes ->
      moscow.wall instant = instant + 60000 * offset := by
    intro i listed instant after before
    have fit := fits i listed
    rw [cellStart] at after before
    exact wall_of_daytime steady (by rw [cellStart]; omega) (by rw [cellStart]; omega)
  constructor
  · intro creatable some_
    have listed : slotCount span durationMinutes - 1 < slotCount span durationMinutes := by omega
    have admitted := creatable.admitted _ ((isStart _).mpr ⟨_, listed, rfl⟩)
    have shown := walls _ listed _ (Int.le_refl _) (by omega)
    have fit := fits _ listed
    rw [MoscowStarts.validateSlotStartMsk_eq_none, Zone.timeAt, shown, cellStart] at admitted
    rw [cells]
    have asInt : ((slotCount span durationMinutes - 1 : Nat) : Int) =
        (slotCount span durationMinutes : Int) - 1 := by omega
    rw [asInt] at admitted fit
    omega
  · intro byTen
    refine ⟨?_, ?_, ?_, ?_, ?_⟩
    · rintro _ member
      obtain ⟨i, listed, rfl⟩ := (isStart _).mp member
      have fit := fits i listed
      rw [walls i listed _ (Int.le_refl _) (by omega), cellStart]
      omega
    · rw [starts, List.isChain_map, List.isChain_range]
      intro i _
      rw [cellStart, cellStart, Nat.cast_succ, Int.add_mul, Int.one_mul]
      omega
    · have all := Int.lt_ediv_add_one_mul_self
        (span.toHalfHour - span.fromHalfHour + 1) whole
      have counted : (slotCount span durationMinutes : Int) =
          (span.toHalfHour - span.fromHalfHour + 1) / cellsPerSlot := by
        rw [slotCount, cells]
        exact Int.toNat_of_nonneg (Int.ediv_nonneg (by omega) whole.le)
      rw [starts, List.length_map, List.length_range, counted, ← length_eq, Int.mul_assoc,
        Int.mul_assoc, Int.mul_comm cellsPerSlot]
      omega
    · rintro _ member
      obtain ⟨i, listed, rfl⟩ := (isStart _).mp member
      have fit := fits i listed
      have last := byTen (by omega)
      have upTo : (i : Int) * cellsPerSlot ≤
          (slotCount span durationMinutes - 1) * cellsPerSlot :=
        Int.mul_le_mul_of_nonneg_right (by omega) whole.le
      rw [cells] at last
      rw [MoscowStarts.validateSlotStartMsk_eq_none, Zone.timeAt,
        walls i listed _ (Int.le_refl _) (by omega), cellStart]
      omega
    · rintro _ member instant after before
      obtain ⟨i, listed, rfl⟩ := (isStart _).mp member
      have fit := fits i listed
      rw [Zone.dayAt, walls i listed _ after (by omega)]
      rw [cellStart] at after before
      omega

def bottomRows : List DragAction :=
  [.cellMouseDown ⟨"2026-01-05", 33⟩, .cellMouseEnter ⟨"2026-01-05", 40⟩, .mouseUp]

theorem steadyDay_threeHoursAhead (day : Int) : SteadyDay threeHoursAhead day mskOffset :=
  ⟨fun _ _ _ => rfl, fun _ _ _ =>
    ⟨Int.sub_le_self _ (by decide), Int.le_add_of_nonneg_right (by decide)⟩⟩

theorem painted_creatable_iff_noon : Creatable threeHoursAhead 20458 ⟨"2026-01-05", 12, 15⟩ 60
      (paintedStarts threeHoursAhead ⟨"2026-01-05", 12, 15⟩ 60) := by
  have emitted : DragEffect.paintCommit ⟨"2026-01-05", 12, 15⟩ ∈ effects .idle
      [.cellMouseDown ⟨"2026-01-05", 15⟩, .cellMouseEnter ⟨"2026-01-05", 12⟩, .mouseUp] := by
    decide
  have valid : validYmd "2026-01-05" = some ⟨2026, 1, 5⟩ := by
    decide +kernel
  refine (painted_creatable_iff emitted valid (steadyDay_threeHoursAhead _) (by decide)).mpr ?_
  unfold EndsByTen
  decide

/-- The half hours from half past ten to midnight are painted, and none can be created. -/
theorem not_creatable_bottomRows :
    ¬∀ (moscow : Zone) (actions : List DragAction) (span : PaintSpan),
      DragEffect.paintCommit span ∈ effects .idle actions -> ∀ date,
      validYmd span.ymd = some date -> ∀ offset, SteadyDay moscow (dayNumber date) offset ->
      ∀ durationMinutes, durationMinutes ∈ ALLOWED_PAINT_DURATIONS_MIN ->
        Creatable moscow (dayNumber date) span durationMinutes
          (paintedStarts moscow span durationMinutes) := by
  intro all
  have creatable := all threeHoursAhead bottomRows ⟨"2026-01-05", 33, 35⟩ (by decide) ⟨2026, 1, 5⟩
    (by decide +kernel) mskOffset (steadyDay_threeHoursAhead _) 30 (by decide)
  have refused : ∃ start, start ∈ paintedStarts threeHoursAhead ⟨"2026-01-05", 33, 35⟩ 30 ∧
      MoscowStarts.validateSlotStartMsk threeHoursAhead start ≠ none := by
    decide +kernel
  obtain ⟨start, member, rejects⟩ := refused
  exact rejects (creatable.admitted start member)

end Painting

end LevelChannel
