import LevelChannel.Schema.Rules
import LevelChannel.Lessons.Completions

namespace LevelChannel.Scheduling

open ReadCommitted Tables

/-!
# The contract of lessons and package units

Slots, completions, purchases and consumptions are written by the same transactions,
so they share one contract.  Its invariant says what a state must be like; its
guarantee says what a session may change without a row lock, and how completions and
package units end.

Completions are read in two ways: by their own key, which is what a completion's lock
protects, and through `flag`, the part of them a slot's status repeats, which is what
the slot's lock protects.  The stamp of the retention sweep is outside the flag.
-/

/-- What the contract is about besides the tables: the time the run began, and whether
every booking spells its learner as the database prints it. -/
structure Terms where
  since : Nat
  canonical : Prop

/-! ## Lessons -/

def outcome : SlotStatus -> Option Bool
  | .completed => some false
  | .noShowLearner => some true
  | _ => none

@[simp] theorem outcome_outcomeStatus (wasNoShow : Bool) :
    outcome (outcomeStatus wasNoShow) = some wasNoShow := by
  cases wasNoShow <;> rfl

def recorded (db : Db) (slotId : RowId) : Option Bool :=
  (db.completionOf? slotId).map LessonCompletion.wasNoShow

def Agree (db : Db) (slot : LessonSlot) : Prop :=
  outcome slot.status = recorded db slot.id

def flag (db : Db) (slotId completionId : RowId) : Option Bool :=
  ((db.completion? completionId).filter fun row => row.slotId = slotId).map
    LessonCompletion.wasNoShow

/-- Two versions of a slot: a session may book an open slot and change statuses, but
it neither moves a lesson to another learner nor opens it again. -/
structure SlotStep (before after : LessonSlot) : Prop where
  teacherAccountId : after.teacherAccountId = before.teacherAccountId
  durationMinutes : after.durationMinutes = before.durationMinutes
  learnerAccountId : before.status = .open ∨ after.learnerAccountId = before.learnerAccountId
  reopened : after.status = .open -> before.status = .open

/-- Two versions of a completion: its mark may change and it may be stamped. -/
structure Revises (before after : LessonCompletion) : Prop where
  rest : after =
    { before with wasNoShow := after.wasNoShow, immutableAt := after.immutableAt }
  stamped : before.immutableAt.isSome -> after.immutableAt.isSome

namespace Revises

variable {before after : LessonCompletion}

theorem refl (row : LessonCompletion) : Revises row row := ⟨rfl, id⟩

theorem trans {third : LessonCompletion} (one : Revises before after)
    (two : Revises after third) : Revises before third where
  rest := by rw [two.rest, one.rest]
  stamped := two.stamped ∘ one.stamped

theorem id (revises : Revises before after) : after.id = before.id := by rw [revises.rest]

theorem slotId (revises : Revises before after) : after.slotId = before.slotId := by
  rw [revises.rest]

theorem amountKopecks (revises : Revises before after) :
    after.amountKopecks = before.amountKopecks := by
  rw [revises.rest]

theorem createdAt (revises : Revises before after) : after.createdAt = before.createdAt := by
  rw [revises.rest]

end Revises

/-- A deletion within the edit window, by a session of this run. -/
structure Timely (terms : Terms) (erasure : Erasure) : Prop where
  since : terms.since ≤ erasure.begunAt
  ordered : erasure.begunAt ≤ erasure.judgedAt
  window : erasure.judgedAt < erasure.completion.createdAt + fortyEightHoursMs

/-- A completion is still there, or was deleted while nothing had settled it and its
edit window was open. -/
def Lasts (terms : Terms) (before after : Db) (row : LessonCompletion) : Prop :=
  (∃ now, after.completion? row.id = some now ∧ Revises row now) ∨
    (before.covered row.id = false ∧ row.immutableAt = none ∧
      ∃ erasure, erasure ∈ after.erasures ∧ Timely terms erasure ∧
        Revises row erasure.completion)

/-! ## Package units -/

/-- A package that covers the lesson at a slot. -/
structure Suits (slot : LessonSlot) (purchase : PackagePurchase) : Prop where
  learnerAccountId : slot.learnerAccountId = some purchase.accountId
  durationMinutes : slot.durationMinutes = purchase.durationMinutes
  teacherId : purchase.teacherId = none ∨ purchase.teacherId = some slot.teacherAccountId

/-- Two versions of a purchase: it may be voided, and stays so. -/
structure Repackages (before after : PackagePurchase) : Prop where
  rest : after = { before with voidedAt := after.voidedAt }
  voided : before.voidedAt.isSome -> after.voidedAt.isSome

namespace Repackages

variable {before after : PackagePurchase}

theorem refl (row : PackagePurchase) : Repackages row row := ⟨rfl, id⟩

theorem trans {third : PackagePurchase} (one : Repackages before after)
    (two : Repackages after third) : Repackages before third where
  rest := by rw [two.rest, one.rest]
  voided := two.voided ∘ one.voided

theorem id (again : Repackages before after) : after.id = before.id := by rw [again.rest]

theorem accountId (again : Repackages before after) : after.accountId = before.accountId := by
  rw [again.rest]

theorem countInitial (again : Repackages before after) :
    after.countInitial = before.countInitial := by
  rw [again.rest]

theorem suits (again : Repackages before after) {slot : LessonSlot} (suits : Suits slot before) :
    Suits slot after := by
  rw [again.rest]
  exact ⟨suits.learnerAccountId, suits.durationMinutes, suits.teacherId⟩

end Repackages

/-- Where a unit is used: an existing slot that is not open, and an existing package
that covers it as long as the unit is in use. -/
def Placed (db : Db) (row : PackageConsumption) : Prop :=
  ∃ slot purchase, db.slot? row.slotId = some slot ∧
    db.purchase? row.packagePurchaseId = some purchase ∧ slot.status ≠ .open ∧
    (row.active = true -> Suits slot purchase)

def NoneAfterVoid (before after : Db) : Prop :=
  ∀ slotId row, after.consumption? slotId = some row ->
    ∀ purchase, before.purchase? row.packagePurchaseId = some purchase ->
      purchase.voidedAt.isSome ->
        ∃ old, before.consumption? slotId = some old ∧
          old.packagePurchaseId = row.packagePurchaseId

/-- What every single write keeps. -/
structure Inv (terms : Terms) (db : Db) : Prop where
  slotUnique : Unique LessonSlot.id db.slots
  completionUnique : Unique LessonCompletion.id db.completions
  oneCompletion : Unique LessonCompletion.slotId db.completions
  completionPlaced : ∀ row, row ∈ db.completions -> (db.slot? row.slotId).isSome
  purchaseUnique : Unique PackagePurchase.id db.purchases
  consumptionUnique : Unique PackageConsumption.slotId db.consumptions
  consumptionPlaced : ∀ row, row ∈ db.consumptions -> Placed db row
  capacity : terms.canonical -> ∀ purchase, purchase ∈ db.purchases ->
    db.activeCount purchase.id ≤ purchase.countInitial

/-- The invariant of committed states. -/
structure Good (terms : Terms) (db : Db) : Prop where
  inv : Inv terms db
  agree : ∀ slot, slot ∈ db.slots -> slot.isPersonalEvent = false -> Agree db slot
  since : terms.since ≤ db.clock

/-- What may happen to slots and completions. -/
structure LessonsKept (terms : Terms) (held : List Lock) (before after : Db) : Prop where
  slots : ∀ id, ¬ WriteLocked held (.slot id) -> after.slot? id = before.slot? id
  completions : ∀ id, ¬ WriteLocked held (.completion id) ->
    after.completion? id = before.completion? id
  flags : ∀ slotId, ¬ WriteLocked held (.slot slotId) -> ∀ completionId,
    flag after slotId completionId = flag before slotId completionId
  lasting : ∀ id row, before.completion? id = some row -> Lasts terms before after row
  erasures : ∀ erasure, erasure ∈ before.erasures -> erasure ∈ after.erasures
  covered : ∃ new, after.settlementCompletions = before.settlementCompletions ++ new ∧
    ∀ row, row ∈ new ->
      ∃ lock, lock ∈ held ∧ lock.target = .completion row.completionId

/-- What may happen to purchases and consumptions. -/
structure PackagesKept (terms : Terms) (held : List Lock) (before after : Db) : Prop where
  purchases : ∀ id, ¬ WriteLocked held (.purchase id) ->
    after.purchase? id = before.purchase? id
  repackaged : ∀ id row, before.purchase? id = some row ->
    ∃ now, after.purchase? id = some now ∧ Repackages row now
  consumptions : ∀ slotId, ¬ WriteLocked held (.consumption slotId) ->
    after.consumption? slotId = before.consumption? slotId
  counts : terms.canonical -> ∀ id row, before.purchase? id = some row ->
    ¬ WriteLocked held (.advisory (.pkgConsume (.canonical row.accountId))) ->
      after.activeCount id ≤ before.activeCount id
  voids : NoneAfterVoid before after

structure Guarantee (terms : Terms) (held : List Lock) (before after : Db) : Prop where
  lessons : LessonsKept terms held before after
  packages : PackagesKept terms held before after
  clock : after.clock = before.clock

def contract (terms : Terms) : Contract Db Lock where
  Good := Good terms
  Guarantee := fun _ => Guarantee terms

variable {terms : Terms} {held : List Lock}

theorem covered_mono {before after : Db} {new : List SettlementCompletion}
    (grown : after.settlementCompletions = before.settlementCompletions ++ new) {id : RowId}
    (uncovered : after.covered id = false) : before.covered id = false := by
  simp only [Db.covered, grown, List.any_append, Bool.or_eq_false_iff] at uncovered ⊢
  exact uncovered.1

theorem Lasts.refl {db : Db} {id : RowId} {row : LessonCompletion}
    (read : db.completion? id = some row) : Lasts terms db db row := by
  refine Or.inl ⟨row, ?_, Revises.refl row⟩
  have same : row.id = id := key_of_get read
  rw [same, read]

/-- What two states of a run say about the completions of the first. -/
structure History (terms : Terms) (before after : Db) : Prop where
  lasting : ∀ id row, before.completion? id = some row -> Lasts terms before after row
  erasures : ∀ erasure, erasure ∈ before.erasures -> erasure ∈ after.erasures
  uncovered : ∀ id, after.covered id = false -> before.covered id = false

theorem History.refl (db : Db) : History terms db db where
  lasting _ _ read := Lasts.refl read
  erasures _ member := member
  uncovered _ uncovered := uncovered

theorem History.trans {first second third : Db} (one : History terms first second)
    (two : History terms second third) : History terms first third where
  lasting := by
    intro id row read
    rcases one.lasting id row read with ⟨now, readNow, revises⟩ | ⟨open_, unstamped, erased⟩
    · rcases two.lasting _ now readNow with ⟨last, readLast, again⟩ | ⟨open_, unstamped, erased⟩
      · exact Or.inl ⟨last, revises.id ▸ readLast, revises.trans again⟩
      · rcases erased with ⟨erasure, listed, timely, again⟩
        refine Or.inr ⟨one.uncovered _ (revises.id ▸ open_), ?_, erasure, listed, timely,
          revises.trans again⟩
        cases stamp : row.immutableAt with
        | none => rfl
        | some at_ =>
          have kept := revises.stamped (by rw [stamp]; rfl)
          rw [unstamped] at kept
          cases kept
    · rcases erased with ⟨erasure, listed, timely, revises⟩
      exact Or.inr ⟨open_, unstamped, erasure, two.erasures _ listed, timely, revises⟩
  erasures erasure member := two.erasures _ (one.erasures _ member)
  uncovered id uncovered := one.uncovered id (two.uncovered id uncovered)

theorem LessonsKept.history {before after : Db} (kept : LessonsKept terms held before after) :
    History terms before after where
  lasting := kept.lasting
  erasures := kept.erasures
  uncovered id uncovered := by
    rcases kept.covered with ⟨new, grown, -⟩
    exact covered_mono grown uncovered

theorem LessonsKept.refl (db : Db) : LessonsKept terms held db db where
  slots _ _ := rfl
  completions _ _ := rfl
  flags _ _ _ := rfl
  lasting _ _ read := Lasts.refl read
  erasures _ member := member
  covered := ⟨[], (List.append_nil _).symm, by simp⟩

theorem LessonsKept.trans {first second third : Db} (one : LessonsKept terms held first second)
    (two : LessonsKept terms held second third) : LessonsKept terms held first third where
  slots id free := (two.slots id free).trans (one.slots id free)
  completions id free := (two.completions id free).trans (one.completions id free)
  flags slotId free id := (two.flags slotId free id).trans (one.flags slotId free id)
  lasting := (one.history.trans two.history).lasting
  erasures := (one.history.trans two.history).erasures
  covered := by
    rcases one.covered with ⟨new, grown, locked⟩
    rcases two.covered with ⟨newer, grownAgain, lockedAgain⟩
    refine ⟨new ++ newer, by rw [grownAgain, grown, List.append_assoc], ?_⟩
    intro row member
    rcases List.mem_append.mp member with early | late
    · exact locked row early
    · exact lockedAgain row late

theorem PackagesKept.refl (db : Db) : PackagesKept terms held db db where
  purchases _ _ := rfl
  repackaged _ row read := ⟨row, read, Repackages.refl row⟩
  consumptions _ _ := rfl
  counts _ _ _ _ _ := Nat.le_refl _
  voids _ row read _ _ _ := ⟨row, read, rfl⟩

theorem PackagesKept.trans {first second third : Db} (one : PackagesKept terms held first second)
    (two : PackagesKept terms held second third) : PackagesKept terms held first third where
  purchases id free := (two.purchases id free).trans (one.purchases id free)
  repackaged := by
    intro id row read
    rcases one.repackaged id row read with ⟨now, readNow, again⟩
    rcases two.repackaged id now readNow with ⟨last, readLast, further⟩
    exact ⟨last, readLast, again.trans further⟩
  consumptions slotId free := (two.consumptions slotId free).trans (one.consumptions slotId free)
  counts := by
    intro canonical id row read free
    rcases one.repackaged id row read with ⟨now, readNow, again⟩
    have later := two.counts canonical id now readNow (by rwa [again.accountId])
    exact Nat.le_trans later (one.counts canonical id row read free)
  voids := by
    intro slotId row read purchase readPurchase voided
    rcases one.repackaged _ purchase readPurchase with ⟨now, readNow, again⟩
    rcases two.voids slotId row read now readNow (again.voided voided) with ⟨old, readOld, same⟩
    rcases one.voids slotId old readOld purchase (by rwa [same]) voided with
      ⟨oldest, readOldest, alike⟩
    exact ⟨oldest, readOldest, alike.trans same⟩

theorem Guarantee.refl (db : Db) : Guarantee terms held db db where
  lessons := .refl db
  packages := .refl db
  clock := rfl

theorem Guarantee.trans {first second third : Db} (one : Guarantee terms held first second)
    (two : Guarantee terms held second third) : Guarantee terms held first third where
  lessons := one.lessons.trans two.lessons
  packages := one.packages.trans two.packages
  clock := two.clock.trans one.clock

end LevelChannel.Scheduling
