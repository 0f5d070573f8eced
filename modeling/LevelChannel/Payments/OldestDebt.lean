import LevelChannel.Payments.PaidState

namespace LevelChannel

/-!
# How old the oldest debt is

The finance card of a teacher shows how many days ago the oldest unpaid lesson began.  Its query
does not share the one of the list of debts: it names two statuses, one of which no slot has, and
asks neither for a price and a learner nor for allocations of the old ledger.
-/

def daysSince (clock startAt : Nat) : Nat :=
  (clock - startAt) / (24 * 60 * 60 * 1000)

def oldestDays (clock : Nat) (starts : List Nat) : Nat :=
  match starts.min? with
  | none => 0
  | some oldest => daysSince clock oldest

namespace Db

/-- The `where` of `fetchOldestUnpaidDays`, for a slot of the teacher. -/
def overdue (db : Db) (slot : LessonSlot) : Bool :=
  ["completed", "no_show"].contains slot.status.text && slot.startAt < db.clock &&
    !db.claimedBySbp slot.id && !db.consumedByPackage slot.id

/-- The slots over which `fetchOldestUnpaidDays` takes the least `start_at`. -/
def overdueSlots (db : Db) (teacherAccountId : RowId) : List LessonSlot :=
  db.slots.filter fun slot => slot.teacherAccountId = teacherAccountId && db.overdue slot

def fetchOldestUnpaidDays (db : Db) (teacherAccountId : RowId) : Nat :=
  oldestDays db.clock ((db.overdueSlots teacherAccountId).map LessonSlot.startAt)

/-- The slots that `listLearnersWithUnpaidSlots` counts for a learner and that have begun. -/
def startedDebts (db : Db) (teacherAccountId : RowId) : List LessonSlot :=
  (db.unpaidSlotsOfTeacher teacherAccountId).filter fun slot =>
    slot.learnerAccountId.isSome && slot.startAt ≤ db.clock

def oldestDebtDays (db : Db) (teacherAccountId : RowId) : Nat :=
  oldestDays db.clock ((db.startedDebts teacherAccountId).map LessonSlot.startAt)

end Db

theorem daysSince_le {clock first second : Nat} (ordered : first ≤ second) :
    daysSince clock second ≤ daysSince clock first :=
  Nat.div_le_div_right (Nat.sub_le_sub_left ordered clock)

theorem le_oldestDays {clock days : Nat} {starts : List Nat} : days ≤ oldestDays clock starts <->
      days = 0 ∨ ∃ startAt, startAt ∈ starts ∧ days ≤ daysSince clock startAt := by
  rw [oldestDays]
  cases least : starts.min? with
  | none =>
    rw [List.min?_eq_none_iff.mp least]
    simp
  | some oldest =>
    have ⟨listed, least_le⟩ := List.min?_eq_some_iff.mp least
    constructor
    · exact fun reached => Or.inr ⟨oldest, listed, reached⟩
    · rintro (rfl | ⟨startAt, there, reached⟩)
      · exact Nat.zero_le _
      · exact Nat.le_trans reached (daysSince_le (least_le startAt there))

theorem oldestDays_eq_iff {clock : Nat} {first second : List Nat} :
    oldestDays clock first = oldestDays clock second <->
      (∀ startAt, startAt ∈ first -> daysSince clock startAt ≤ oldestDays clock second) ∧
        ∀ startAt, startAt ∈ second -> daysSince clock startAt ≤ oldestDays clock first := by
  have bounded : ∀ {starts startAt}, startAt ∈ starts ->
      daysSince clock startAt ≤ oldestDays clock starts :=
    fun listed => le_oldestDays.mpr (Or.inr ⟨_, listed, Nat.le_refl _⟩)
  have reaches : ∀ {starts others},
      (∀ startAt, startAt ∈ starts -> daysSince clock startAt ≤ oldestDays clock others) ->
      oldestDays clock starts ≤ oldestDays clock others := by
    intro starts others each
    rcases le_oldestDays.mp (Nat.le_refl (oldestDays clock starts)) with
      zero | ⟨startAt, listed, reached⟩
    · exact zero ▸ Nat.zero_le _
    · exact Nat.le_trans reached (each startAt listed)
  constructor
  · intro same
    exact ⟨fun _ listed => same ▸ bounded listed, fun _ listed => same ▸ bounded listed⟩
  · rintro ⟨covered, covers⟩
    exact Nat.le_antisymm (reaches covered) (reaches covers)

/-! ## Where the queries differ -/

namespace Db

variable {db : Db} {teacherAccountId : RowId} {slot : LessonSlot}

/-- A debt whose status the card does not ask for: a lesson that began and is still booked, an
absence or a late cancellation. -/
def Missed (db : Db) (teacherAccountId : RowId) (slot : LessonSlot) : Prop :=
  slot ∈ db.startedDebts teacherAccountId ∧ slot.status ≠ .completed

/-- A completed lesson that is no debt: it has no price or no learner, or the old ledger holds an
allocation of a paid order for it. -/
def Settled (db : Db) (teacherAccountId : RowId) (slot : LessonSlot) : Prop :=
  slot ∈ db.overdueSlots teacherAccountId ∧
    (slot.snapshotAmountKopecks.getD 0 = 0 ∨ slot.learnerAccountId = none ∨
      db.allocatedByOrder slot.id = true)

theorem overdue_iff :
    db.overdue slot = true <-> slot.status = .completed ∧ slot.startAt < db.clock ∧
      db.claimedBySbp slot.id = false ∧ db.consumedByPackage slot.id = false := by
  have named : ["completed", "no_show"].contains slot.status.text = true <->
      slot.status = .completed := by
    cases slot.status <;> decide
  rw [overdue]
  simp only [Bool.and_eq_true, named, decide_eq_true_eq, Bool.not_eq_true', and_assoc]

theorem mem_overdueSlots : slot ∈ db.overdueSlots teacherAccountId <->
      slot ∈ db.slots ∧ slot.teacherAccountId = teacherAccountId ∧ slot.status = .completed ∧
        slot.startAt < db.clock ∧ db.claimedBySbp slot.id = false ∧
        db.consumedByPackage slot.id = false := by
  rw [overdueSlots, List.mem_filter, Bool.and_eq_true, decide_eq_true_eq, overdue_iff]

theorem mem_startedDebts : slot ∈ db.startedDebts teacherAccountId <->
      slot ∈ db.slots ∧ slot.teacherAccountId = teacherAccountId ∧ db.charged slot = true ∧
        db.claimedBySbp slot.id = false ∧ db.consumedByPackage slot.id = false ∧
        db.allocatedByOrder slot.id = false ∧ slot.learnerAccountId.isSome = true ∧
        slot.startAt ≤ db.clock := by
  simp only [startedDebts, List.mem_filter, mem_unpaidSlotsOfTeacher, PaidReader.paid,
    Bool.not_eq_false', journalUnpaid, Bool.and_eq_true, Bool.not_eq_true', decide_eq_true_eq,
    and_assoc]

theorem overdue_or_missed (debt : slot ∈ db.startedDebts teacherAccountId) :
    slot ∈ db.overdueSlots teacherAccountId ∨ db.Missed teacherAccountId slot ∨
      slot.startAt = db.clock := by
  have ⟨listed, own, charged, claimed, consumed, allocated, learner, started⟩ :=
    mem_startedDebts.mp debt
  by_cases completed : slot.status = .completed
  · rcases Nat.lt_or_eq_of_le started with before | now
    · exact Or.inl (mem_overdueSlots.mpr ⟨listed, own, completed, before, claimed, consumed⟩)
    · exact Or.inr (Or.inr now)
  · exact Or.inr (Or.inl ⟨debt, completed⟩)

theorem debt_or_settled (overdue : slot ∈ db.overdueSlots teacherAccountId) :
    slot ∈ db.startedDebts teacherAccountId ∨ db.Settled teacherAccountId slot := by
  have ⟨listed, own, completed, before, claimed, consumed⟩ := mem_overdueSlots.mp overdue
  by_cases free : slot.snapshotAmountKopecks.getD 0 = 0
  · exact Or.inr ⟨overdue, Or.inl free⟩
  cases learner : slot.learnerAccountId with
  | none => exact Or.inr ⟨overdue, Or.inr (Or.inl learner)⟩
  | some learnerAccountId =>
    cases allocated : db.allocatedByOrder slot.id with
    | true => exact Or.inr ⟨overdue, Or.inr (Or.inr allocated)⟩
    | false =>
      have charged : db.charged slot = true := by
        rw [charged, completed, Bool.and_true, decide_eq_true_eq]
        exact Nat.pos_of_ne_zero free
      exact Or.inl (mem_startedDebts.mpr ⟨listed, own, charged, claimed, consumed, allocated,
        learner ▸ rfl, Nat.le_of_lt before⟩)

def Reaches (db : Db) (slots : List LessonSlot) (days : Nat) : Prop :=
  ∃ slot, slot ∈ slots ∧ days ≤ daysSince db.clock slot.startAt

/-- The condition: a debt with another status is no whole day old, or the card finds a lesson as
old; a completed lesson that is no debt is no whole day old, or there is a debt as old. -/
def AgesCovered (db : Db) (teacherAccountId : RowId) : Prop :=
  (∀ slot, db.Missed teacherAccountId slot -> daysSince db.clock slot.startAt = 0 ∨
    db.Reaches (db.overdueSlots teacherAccountId) (daysSince db.clock slot.startAt)) ∧
  ∀ slot, db.Settled teacherAccountId slot -> daysSince db.clock slot.startAt = 0 ∨
    db.Reaches (db.startedDebts teacherAccountId) (daysSince db.clock slot.startAt)

theorem reaches_iff {slots : List LessonSlot} {days : Nat} :
    days ≤ oldestDays db.clock (slots.map LessonSlot.startAt) <->
      days = 0 ∨ db.Reaches slots days := by
  rw [le_oldestDays]
  simp only [Reaches, List.mem_map, exists_exists_and_eq_and]

/-- The card shows the age of the oldest debt if and only if the lessons in which its query
differs from the list of debts do not stand out by their age. -/
theorem fetchOldestUnpaidDays_eq_iff (db : Db) (teacherAccountId : RowId) :
    db.fetchOldestUnpaidDays teacherAccountId = db.oldestDebtDays teacherAccountId <->
      db.AgesCovered teacherAccountId := by
  have member : ∀ {slots : List LessonSlot} {slot}, slot ∈ slots ->
      daysSince db.clock slot.startAt ≤ oldestDays db.clock (slots.map LessonSlot.startAt) :=
    fun listed => reaches_iff.mpr (Or.inr ⟨_, listed, Nat.le_refl _⟩)
  rw [fetchOldestUnpaidDays, oldestDebtDays, oldestDays_eq_iff]
  simp only [List.mem_map, forall_exists_index, and_imp, forall_apply_eq_imp_iff₂]
  constructor
  · rintro ⟨found, debts⟩
    exact ⟨fun slot missed => reaches_iff.mp (debts slot missed.1),
      fun slot settled => reaches_iff.mp (found slot settled.1)⟩
  · rintro ⟨missed, settled⟩
    constructor
    · intro slot overdue
      rcases debt_or_settled overdue with debt | none
      · exact member debt
      · exact reaches_iff.mpr (settled slot none)
    · intro slot debt
      rcases overdue_or_missed debt with overdue | other | now
      · exact member overdue
      · exact reaches_iff.mpr (missed slot other)
      · rw [now, daysSince, Nat.sub_self, Nat.zero_div]
        exact Nat.zero_le _

end Db

/-- A lesson that ended ten days ago and was never marked. -/
def unmarkedLesson : LessonSlot where
  id := .seeded 3
  teacherAccountId := .seeded 1
  startAt := 0
  durationMinutes := 60
  status := .booked
  isPersonalEvent := false
  learnerAccountId := some (.seeded 2)
  tariffId := none
  snapshotAmountKopecks := some 250000
  cancelledAt := none
  cancelledByAccountId := none
  cancellationReason := none
  markedAt := none
  updatedAt := 0

theorem unmarkedLesson_not_counted : ¬ ∀ (db : Db) (teacherAccountId : RowId),
      db.fetchOldestUnpaidDays teacherAccountId = db.oldestDebtDays teacherAccountId := by
  intro all
  have same := all { Db.empty with clock := 10 * 86400000, slots := [unmarkedLesson] } (.seeded 1)
  revert same
  decide

end LevelChannel
