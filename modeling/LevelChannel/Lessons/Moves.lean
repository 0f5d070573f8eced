import LevelChannel.ReadCommitted.Alone
import LevelChannel.Lessons.Booking

namespace LevelChannel

open ReadCommitted Tables

/-!
# Moving a lesson and its unit

A moved lesson is a new slot.  The unit of the old one is given back, and a unit is taken for
the new one as for any other booking: if there is a tariff, from the purchase that expires
first among those that still have one.
-/

namespace Db

def hasUnit (db : Db) (slotId : RowId) : Bool :=
  (db.consumption? slotId).any PackageConsumption.active

def unitsFor (db : Db) (slotIds : List RowId) : Nat :=
  (db.consumptions.filter fun row => row.active && slotIds.contains row.slotId).length

def activeElsewhere (db : Db) (purchaseId slotId : RowId) : Nat :=
  (db.consumptions.filter fun row =>
    row.packagePurchaseId = purchaseId && row.active && row.slotId ≠ slotId).length

/-- The slot has a tariff, and once its unit is given back its learner has a unit to take: of
a purchase for the duration and the teacher, or for no teacher, that is neither expired nor
voided. -/
def unitToTake (db : Db) (slot : LessonSlot) (learnerAccountId : RowId) : Bool :=
  slot.tariffId.isSome && db.purchases.any fun purchase =>
    purchase.eligible db.clock learnerAccountId slot.durationMinutes slot.teacherAccountId &&
      decide (db.activeElsewhere purchase.id slot.id < purchase.countInitial)

end Db

/-- The primary keys, and the reference from a unit to its slot. -/
structure PackageTables (db : Db) : Prop where
  purchases : Unique PackagePurchase.id db.purchases
  consumptions : Unique PackageConsumption.slotId db.consumptions
  slots : ∀ row, row ∈ db.consumptions -> (db.slot? row.slotId).isSome = true

/-- The new slot has a unit if and only if the old one had one, which is in use no longer, and
as many units are in use for the lesson as before: one, if it had one. -/
structure CoverageConserved (before after : Db) (oldSlotId newSlotId : RowId) : Prop where
  unit : after.hasUnit newSlotId = before.hasUnit oldSlotId
  units : after.unitsFor [oldSlotId, newSlotId] = before.unitsFor [oldSlotId, newSlotId]
  one : before.hasUnit oldSlotId = true -> after.unitsFor [oldSlotId, newSlotId] = 1

inductive MoveRequest where
  | learner (slotId learnerAccountId : RowId) (newStartAt : Option Nat) (cancelWindowHours : Nat)
  | teacher (slotId teacherAccountId : RowId) (newStartAt : Option Nat) (reason : Option String)

def MoveRequest.program (session : Nat) : MoveRequest -> Program
  | .learner slotId learnerAccountId newStartAt cancelWindowHours =>
    Program.rescheduleSlotByLearner session slotId learnerAccountId newStartAt cancelWindowHours
  | .teacher slotId teacherAccountId newStartAt reason =>
    Program.rescheduleSlotByTeacher session slotId teacherAccountId newStartAt reason

def MoveRequest.slotId : MoveRequest -> RowId
  | .learner slotId _ _ _ => slotId
  | .teacher slotId _ _ _ => slotId

section Statements

variable {answer : GatewayAnswer} {db : Db} {pending : List Write} {onError : Program}

theorem alone_updateSlot (slotId : RowId) (where_ : Db -> LessonSlot -> Bool)
    (set_ : LessonSlot -> LessonSlot) (next : Option LessonSlot -> Program) :
    (Program.updateSlot slotId where_ set_ onError next).alone store answer db pending =
      match (store.applyAll db pending).slotUpdate slotId
          (where_ (store.applyAll db pending)) set_ with
      | none => (next none).alone store answer db pending
      | some versions =>
        if versions.1.snapshotChanged versions.2 then onError.alone store answer db []
        else (next (some versions.2)).alone store answer db
          (pending ++ [.slot (.replace versions.2)]) := by
  simp only [Program.updateSlot, Program.query, Program.alone, List.append_nil]
  cases found : (store.applyAll db pending).slotUpdate slotId
      (where_ (store.applyAll db pending)) set_ with
  | none => rfl
  | some versions =>
    cases changed : versions.1.snapshotChanged versions.2 <;>
      simp [Program.checked, Program.alone, found, slotUpdateRejects, slotUpdateWrites, changed]

/-- `restorePackageConsumption`, what it writes. -/
def restoreWrites (own : Db) (now : Nat) (slotId : RowId) (actor : Actor) (reason : String) :
    List Write :=
  match (own.consumption? slotId).filter PackageConsumption.active with
  | none => []
  | some row => [.consumption (.replace (row.restore now actor (some reason)))]

theorem alone_restore (now : Nat) (slotId : RowId) (actor : Actor) (reason : String)
    (next : Option RowId -> Program) :
    ∃ given, (Program.restorePackageConsumption now slotId actor (some reason) onError
        next).alone store answer db pending = (next given).alone store answer db
        (pending ++ restoreWrites (store.applyAll db pending) now slotId actor reason) :=
  ⟨_, rfl⟩

theorem alone_lockFirst (where_ : PackagePurchase -> Bool)
    (next : Option PackagePurchase -> Program) (ids : List RowId) :
    (Program.lockFirst where_ onError next ids).alone store answer db pending =
      (next (ids.findSome? fun id =>
        ((store.applyAll db pending).purchase? id).filter where_)).alone store answer db
          pending := by
  induction ids with
  | nil => rfl
  | cons id rest extend =>
    simp only [Program.lockFirst, Program.locking, Program.alone, List.append_nil,
      List.findSome?_cons]
    cases found : ((store.applyAll db pending).purchase? id).filter where_ with
    | none => exact extend
    | some row => rfl

/-- `consumePackageUnit`, what it writes for a slot that has had no unit yet. -/
def consumeWrites (own : Db) (now : Nat) (accountId slotId : RowId) (durationMinutes : Nat)
    (actor : Actor) (teacherId : RowId) : List Write :=
  match (own.eligiblePackages now accountId durationMinutes teacherId).head? with
  | none => []
  | some purchaseId => [.consumption (.insert (Program.newConsumption slotId purchaseId actor))]

theorem purchase?_of_eligible {own : Db} (unique : Unique PackagePurchase.id own.purchases)
    {now : Nat} {accountId teacherId id : RowId} {durationMinutes : Nat}
    (listed : id ∈ own.eligiblePackages now accountId durationMinutes teacherId) :
    ∃ row, row ∈ own.purchases ∧ row.id = id ∧ own.purchase? id = some row ∧
      row.eligible now accountId durationMinutes teacherId = true ∧
      own.hasRemaining row = true := by
  rcases List.mem_map.mp listed with ⟨row, member, rfl⟩
  have chosen := List.mem_filter.mp (List.mem_mergeSort.mp member)
  have parts := Bool.and_eq_true_iff.mp chosen.2
  exact ⟨row, chosen.1, rfl, get_of_mem unique chosen.1, parts⟩

theorem alone_consume_head (now : Nat) (accountId slotId : RowId) (durationMinutes : Nat)
    (actor : Actor) (teacherId : RowId) (next : Option RowId -> Program)
    (unique : Unique PackagePurchase.id (store.applyAll db pending).purchases)
    (unused : (store.applyAll db pending).consumption? slotId = none)
    (there : ((store.applyAll db pending).slot? slotId).isSome = true) :
    (Program.consumePackageUnit now accountId slotId durationMinutes actor teacherId
        onError next).alone store answer db pending =
      (next ((store.applyAll db pending).eligiblePackages now accountId durationMinutes
          teacherId).head?).alone store answer db (pending ++
        consumeWrites (store.applyAll db pending) now accountId slotId durationMinutes actor
          teacherId) := by
  simp only [Program.consumePackageUnit, Program.query, Program.alone, List.append_nil,
    alone_lockFirst]
  rw [consumeWrites]
  cases ids : (store.applyAll db pending).eligiblePackages now accountId durationMinutes
      teacherId with
  | nil =>
    rw [List.head?_nil, List.append_nil]
    rfl
  | cons id rest =>
    rcases purchase?_of_eligible unique (ids ▸ List.mem_cons_self) with
      ⟨row, -, rfl, read, chosen, -⟩
    have slot : get LessonSlot.id (store.applyAll db pending).slots slotId ≠ none :=
      Option.isSome_iff_ne_none.mp there
    simp [read, chosen, Option.filter, Program.insertConsumption, Program.checked,
      Program.alone, Program.newConsumption, unused, slot]

theorem alone_consume (now : Nat) (accountId slotId : RowId) (durationMinutes : Nat)
    (actor : Actor) (teacherId : RowId) (next : Option RowId -> Program)
    (unique : Unique PackagePurchase.id (store.applyAll db pending).purchases)
    (unused : (store.applyAll db pending).consumption? slotId = none)
    (there : ((store.applyAll db pending).slot? slotId).isSome = true) :
    ∃ taken, (Program.consumePackageUnit now accountId slotId durationMinutes actor teacherId
        onError next).alone store answer db pending = (next taken).alone store answer db (pending ++
        consumeWrites (store.applyAll db pending) now accountId slotId durationMinutes actor
          teacherId) :=
  ⟨_, alone_consume_head now accountId slotId durationMinutes actor teacherId next unique unused
    there⟩

end Statements

theorem filter_key {Row Key : Type} [DecidableEq Key] {key : Row -> Key}
    {rows : List Row} (unique : Unique key rows) (wanted : Key) :
    (rows.filter fun row => key row = wanted) = (get key rows wanted).toList := by
  induction rows with
  | nil => rfl
  | cons first rest extend =>
    have parts := List.nodup_cons.mp unique
    rw [List.filter_cons, Tables.get, List.find?_cons]
    by_cases same : key first = wanted
    · have others : (rest.filter fun row => key row = wanted) = [] := by
        refine List.filter_eq_nil_iff.mpr fun row member clash => parts.1 ?_
        rw [same, ← of_decide_eq_true clash]
        exact List.mem_map_of_mem member
      rw [decide_eq_true same, if_pos rfl, others]
      rfl
    · rw [decide_eq_false same, if_neg Bool.false_ne_true]
      exact extend parts.2

/-! ## What a move does -/

def collides (own : Db) (row : LessonSlot) : Bool :=
  (own.slot? row.id).isSome || own.slots.any fun other => other.status ≠ .cancelled &&
    other.teacherAccountId = row.teacherAccountId && other.startAt = row.startAt

def movedSlot (session now : Nat) (oldSlot : LessonSlot) (learnerAccountId : RowId)
    (newStartAt : Nat) : LessonSlot :=
  Program.bookedSlot (.minted session 0) oldSlot.teacherAccountId learnerAccountId newStartAt
    oldSlot.durationMinutes oldSlot.tariffId now

section Moved

variable {answer : GatewayAnswer} {db : Db} {session now : Nat} {oldSlot : LessonSlot}
  {learnerAccountId : RowId} {newStartAt : Nat} {actor : Actor} {reason : String}

/-- The view of the session once the unit is given back and the new slot is there. -/
def rebooked (own : Db) (session now : Nat) (oldSlot : LessonSlot) (learnerAccountId : RowId)
    (newStartAt : Nat) (actor : Actor) (reason : String) : Db :=
  let restored := store.applyAll own (restoreWrites own now oldSlot.id actor reason)
  restored.apply (.slot (.insert ((movedSlot session now oldSlot learnerAccountId
    newStartAt).snapshotOnBook restored.catalog)))

def moved (own : Db) (session now : Nat) (oldSlot : LessonSlot) (learnerAccountId : RowId)
    (newStartAt : Nat) (actor : Actor) (reason : String) : Db :=
  let own := rebooked own session now oldSlot learnerAccountId newStartAt actor reason
  if oldSlot.tariffId.isNone then own
  else
    store.applyAll own (consumeWrites own now learnerAccountId (.minted session 0)
      oldSlot.durationMinutes actor oldSlot.teacherAccountId)

theorem restoreWrites_slots (own : Db) (now : Nat) (slotId : RowId) (actor : Actor)
    (reason : String) :
    (store.applyAll own (restoreWrites own now slotId actor reason)).slots = own.slots := by
  rw [restoreWrites]
  split <;> rfl

theorem restoreWrites_purchases (own : Db) (now : Nat) (slotId : RowId) (actor : Actor)
    (reason : String) : (store.applyAll own (restoreWrites own now slotId actor reason)).purchases =
      own.purchases := by
  rw [restoreWrites]
  split <;> rfl

theorem restoreWrites_keys (own : Db) (now : Nat) (slotId : RowId) (actor : Actor)
    (reason : String) :
    (store.applyAll own (restoreWrites own now slotId actor reason)).consumptions.map
      PackageConsumption.slotId = own.consumptions.map PackageConsumption.slotId := by
  rw [restoreWrites]
  split
  · rfl
  · exact map_key_replace _

theorem restoreWrites_active {own : Db}
    (unique : Unique PackageConsumption.slotId own.consumptions) (now : Nat) (slotId : RowId)
    (actor : Actor) (reason : String) :
    (store.applyAll own (restoreWrites own now slotId actor reason)).consumptions.filter
      PackageConsumption.active =
        own.consumptions.filter fun row => row.active && row.slotId ≠ slotId := by
  rw [restoreWrites]
  cases found : (own.consumption? slotId).filter PackageConsumption.active with
  | none =>
    refine List.filter_congr fun row member => ?_
    cases active : row.active with
    | false => rfl
    | true =>
      have other : row.slotId ≠ slotId := by
        intro same
        have read : own.consumption? slotId = some row := same ▸ get_of_mem unique member
        simp [read, Option.filter, active] at found
      rw [Bool.true_and, decide_eq_true other]
  | some row =>
    have key : row.slotId = slotId := key_of_get (Option.filter_eq_some_iff.mp found).1
    show ((Change.replace (row.restore now actor (some reason))).apply PackageConsumption.slotId
      own.consumptions).filter PackageConsumption.active = _
    simp only [Change.apply]
    induction own.consumptions with
    | nil => rfl
    | cons first rest extend =>
      simp only [List.map_cons, List.filter_cons, extend]
      by_cases same : first.slotId = slotId
      · simp [same, PackageConsumption.restore, PackageConsumption.active, key]
      · simp [same, PackageConsumption.restore, key]

theorem rebooked_purchases (own : Db) : (rebooked own session now oldSlot learnerAccountId
    newStartAt actor reason).purchases = own.purchases :=
  restoreWrites_purchases own now oldSlot.id actor reason

theorem rebooked_unused {own : Db} {slotId : RowId}
    (there : ∀ row, row ∈ own.consumptions -> (own.slot? row.slotId).isSome = true)
    (free : own.slot? slotId = none) :
    (rebooked own session now oldSlot learnerAccountId newStartAt actor reason).consumption?
      slotId = none := by
  refine get_eq_none_iff.mpr fun row member same => ?_
  have key : row.slotId ∈ own.consumptions.map PackageConsumption.slotId :=
    restoreWrites_keys own now oldSlot.id actor reason ▸ List.mem_map_of_mem member
  rcases List.mem_map.mp key with ⟨old, listed, kept⟩
  have found := there old listed
  rw [kept, same, free] at found
  cases found

theorem rebooked_there {own : Db} (free : own.slot? (.minted session 0) = none) :
    ((rebooked own session now oldSlot learnerAccountId newStartAt actor reason).slot?
      (.minted session 0)).isSome = true := by
  let row := (movedSlot session now oldSlot learnerAccountId newStartAt).snapshotOnBook
    (store.applyAll own (restoreWrites own now oldSlot.id actor reason)).catalog
  have key : row.id = .minted session 0 := LessonSlot.snapshotOnBook_id _ _
  have fresh : get LessonSlot.id (store.applyAll own
      (restoreWrites own now oldSlot.id actor reason)).slots row.id = none := by
    rw [restoreWrites_slots, key]
    exact free
  exact Option.isSome_iff_exists.mpr ⟨row, key ▸ get_insert_self row fresh⟩

theorem alone_insertBookedSlot {pending : List Write} (row : LessonSlot)
    (next : LessonSlot -> Program) :
    (Program.insertBookedSlot row next).alone store answer db pending =
      if collides (store.applyAll db pending) row then (db, some (.returned "slot_collision" []))
      else (next (row.snapshotOnBook (store.applyAll db pending).catalog)).alone store answer db
          (pending ++
            [.slot (.insert (row.snapshotOnBook (store.applyAll db pending).catalog))]) := by
  simp only [Program.insertBookedSlot, Program.checkedOr, Program.alone]
  cases clash : collides (store.applyAll db pending) row with
  | true =>
    simp only [collides] at clash
    simp only [clash, if_true]
    rfl
  | false =>
    simp only [collides] at clash
    simp only [clash, Bool.false_eq_true, if_false, Option.isSome_none]

theorem alone_moveSlot {pending : List Write} {ids : List RowId} {after : Db}
    (unique : Unique PackagePurchase.id (store.applyAll db pending).purchases)
    (there : ∀ row, row ∈ (store.applyAll db pending).consumptions ->
      ((store.applyAll db pending).slot? row.slotId).isSome = true)
    (ended : (Program.moveSlot session now oldSlot learnerAccountId newStartAt actor reason).alone
      store answer db pending = (after, some (.returned "ok" ids))) :
    (store.applyAll db pending).slot? (.minted session 0) = none ∧
      ids = [oldSlot.id, .minted session 0] ∧
      after = moved (store.applyAll db pending) session now oldSlot learnerAccountId newStartAt
        actor reason := by
  generalize own_eq : store.applyAll db pending = own at unique there ⊢
  have view : store.applyAll db (pending ++ restoreWrites own now oldSlot.id actor reason) =
      store.applyAll own (restoreWrites own now oldSlot.id actor reason) := by
    rw [Store.applyAll_append, own_eq]
  rcases @alone_restore answer db pending Program.thrown now oldSlot.id actor reason _ with
    ⟨given, restored⟩
  rw [Program.moveSlot, restored, own_eq] at ended
  simp only [Program.query, Program.alone, List.append_nil, view] at ended
  split at ended
  · simp [Program.rollbackNotOk, Program.notOk, Program.alone] at ended
  rw [alone_insertBookedSlot] at ended
  split at ended
  · simp at ended
  next clash =>
    have free : own.slot? (.minted session 0) = none := by
      have unseen := (Bool.or_eq_false_iff.mp (Bool.eq_false_iff.mpr clash)).1
      rw [view, Option.isSome_eq_false_iff, Option.isNone_iff_eq_none, Db.slot?,
        restoreWrites_slots] at unseen
      exact unseen
    have last : store.applyAll db (pending ++ restoreWrites own now oldSlot.id actor reason ++
        [.slot (.insert ((movedSlot session now oldSlot learnerAccountId newStartAt).snapshotOnBook
          (store.applyAll own (restoreWrites own now oldSlot.id actor reason)).catalog))]) =
        rebooked own session now oldSlot learnerAccountId newStartAt actor reason := by
      rw [Store.applyAll_append, view]
      rfl
    have made : Program.bookedSlot (.minted session 0) oldSlot.teacherAccountId learnerAccountId
        newStartAt oldSlot.durationMinutes oldSlot.tariffId now =
        movedSlot session now oldSlot learnerAccountId newStartAt := rfl
    have key : (movedSlot session now oldSlot learnerAccountId newStartAt).id =
        .minted session 0 := rfl
    simp only [made, view, LessonSlot.snapshotOnBook_id, key] at ended
    rw [moved]
    split at ended
    case isTrue unpriced =>
      simp only [Program.alone, last, Prod.mk.injEq, Option.some.injEq, Reply.returned.injEq,
        true_and] at ended
      rw [if_pos unpriced]
      exact ⟨free, ended.2.symm, ended.1.symm⟩
    case isFalse priced =>
      rcases @alone_consume answer db _ Program.thrown now learnerAccountId (.minted session 0)
        oldSlot.durationMinutes actor oldSlot.teacherAccountId
        (fun _ => .commit Program.thrown
          (.done (.returned "ok" [oldSlot.id, .minted session 0])))
        (by rw [last, rebooked_purchases]; exact unique)
        (by rw [last]; exact rebooked_unused there free)
        (by rw [last]; exact rebooked_there free) with ⟨taken, consumed⟩
      rw [consumed, last] at ended
      simp only [Program.alone, Prod.mk.injEq, Option.some.injEq, Reply.returned.injEq,
        true_and] at ended
      rw [Store.applyAll_append, last] at ended
      rw [if_neg priced]
      exact ⟨free, ended.2.symm, ended.1.symm⟩

theorem rebooked_hasRemaining {own : Db}
    (unique : Unique PackageConsumption.slotId own.consumptions) (purchase : PackagePurchase) :
    (rebooked own session now oldSlot learnerAccountId newStartAt actor reason).hasRemaining
      purchase = decide (own.activeElsewhere purchase.id oldSlot.id < purchase.countInitial) := by
  have kept := restoreWrites_active unique now oldSlot.id actor reason
  have same : (rebooked own session now oldSlot learnerAccountId newStartAt actor
      reason).activeCount purchase.id = own.activeElsewhere purchase.id oldSlot.id := by
    rw [Db.activeCount, Db.activeElsewhere, ← List.filter_filter]
    show (List.filter _ ((store.applyAll own (restoreWrites own now oldSlot.id actor
      reason)).consumptions.filter PackageConsumption.active)).length = _
    rw [kept, List.filter_filter]
    congr 1
    exact List.filter_congr fun row _ => (Bool.and_assoc _ _ _).symm
  rw [Db.hasRemaining, same]

theorem eligiblePackages_eq_nil_iff (own : Db) (now : Nat) (accountId teacherId : RowId)
    (durationMinutes : Nat) : own.eligiblePackages now accountId durationMinutes teacherId = [] <->
      (own.purchases.any fun purchase =>
        purchase.eligible now accountId durationMinutes teacherId && own.hasRemaining purchase) =
          false := by
  rw [Db.eligiblePackages, List.map_eq_nil_iff, ← List.length_eq_zero_iff, List.length_mergeSort,
    List.length_eq_zero_iff, List.filter_eq_nil_iff, List.any_eq_false]

theorem moved_consumptions {own : Db} (clock : now = own.clock)
    (unique : Unique PackageConsumption.slotId own.consumptions) : ∃ purchaseId,
      (moved own session now oldSlot learnerAccountId newStartAt actor reason).consumptions =
        (store.applyAll own (restoreWrites own now oldSlot.id actor reason)).consumptions ++
          if own.unitToTake oldSlot learnerAccountId then
            [Program.newConsumption (.minted session 0) purchaseId actor] else [] := by
  have there := eligiblePackages_eq_nil_iff (rebooked own session now oldSlot learnerAccountId
    newStartAt actor reason) now learnerAccountId oldSlot.teacherAccountId oldSlot.durationMinutes
  simp only [rebooked_purchases, rebooked_hasRemaining unique] at there
  rw [moved, Db.unitToTake, ← clock]
  cases priced : oldSlot.tariffId with
  | none => exact ⟨oldSlot.id, (List.append_nil _).symm⟩
  | some tariffId =>
    simp only [Option.isNone_some, Option.isSome_some, Bool.true_and, Bool.false_eq_true,
      if_false]
    rw [consumeWrites]
    cases listed : (rebooked own session now oldSlot learnerAccountId newStartAt actor
        reason).eligiblePackages now learnerAccountId oldSlot.durationMinutes
        oldSlot.teacherAccountId with
    | nil =>
      rw [there.mp listed]
      exact ⟨oldSlot.id, (List.append_nil _).symm⟩
    | cons purchaseId rest =>
      have left : (own.purchases.any fun purchase =>
          purchase.eligible now learnerAccountId oldSlot.durationMinutes
            oldSlot.teacherAccountId &&
          decide (own.activeElsewhere purchase.id oldSlot.id < purchase.countInitial)) = true := by
        rw [← Bool.not_eq_false]
        intro empty
        rw [there.mpr empty] at listed
        cases listed
      rw [left]
      exact ⟨purchaseId, rfl⟩

theorem unitsFor_of_free {own : Db} {slotId newSlotId : RowId}
    (unique : Unique PackageConsumption.slotId own.consumptions)
    (free : own.consumption? newSlotId = none) :
    own.unitsFor [slotId, newSlotId] = if own.hasUnit slotId then 1 else 0 := by
  have chosen : own.consumptions.filter (fun row =>
      row.active && [slotId, newSlotId].contains row.slotId) =
      (own.consumptions.filter fun row => row.slotId = slotId).filter
        PackageConsumption.active := by
    rw [List.filter_filter]
    refine List.filter_congr fun row member => ?_
    have other := get_eq_none_iff.mp free row member
    simp [other]
  rw [Db.unitsFor, chosen, filter_key unique, Db.hasUnit, Db.consumption?]
  cases get PackageConsumption.slotId own.consumptions slotId with
  | none => rfl
  | some row => cases active : row.active <;> simp [active]

theorem moved_conserved_iff {own : Db} (clock : now = own.clock)
    (unique : Unique PackageConsumption.slotId own.consumptions)
    (there : ∀ row, row ∈ own.consumptions -> (own.slot? row.slotId).isSome = true)
    (free : own.slot? (.minted session 0) = none) : CoverageConserved own
        (moved own session now oldSlot learnerAccountId newStartAt actor reason) oldSlot.id
        (.minted session 0) <->
      (own.hasUnit oldSlot.id = true <-> own.unitToTake oldSlot learnerAccountId = true) := by
  rcases @moved_consumptions session now oldSlot learnerAccountId newStartAt actor reason own clock
    unique with ⟨purchaseId, rows⟩
  have unused : own.consumption? (.minted session 0) = none := by
    refine get_eq_none_iff.mpr fun row member same => ?_
    have found := there row member
    rw [same, free] at found
    cases found
  have before : own.unitsFor [oldSlot.id, .minted session 0] =
      if own.hasUnit oldSlot.id then 1 else 0 := unitsFor_of_free unique unused
  have unit : (moved own session now oldSlot learnerAccountId newStartAt actor reason).hasUnit
      (.minted session 0) = own.unitToTake oldSlot learnerAccountId := by
    have kept : get PackageConsumption.slotId (store.applyAll own
        (restoreWrites own now oldSlot.id actor reason)).consumptions (.minted session 0) =
        none := @rebooked_unused session now oldSlot learnerAccountId newStartAt actor reason own
          _ there free
    rw [Db.hasUnit, Db.consumption?, rows]
    cases own.unitToTake oldSlot learnerAccountId with
    | false => simp [kept]
    | true =>
      rw [if_pos rfl]
      exact congrArg (Option.any PackageConsumption.active)
        (get_insert_self (Program.newConsumption (.minted session 0) purchaseId actor) kept)
  have after : (moved own session now oldSlot learnerAccountId newStartAt actor reason).unitsFor
      [oldSlot.id, .minted session 0] =
        if own.unitToTake oldSlot learnerAccountId then 1 else 0 := by
    have none_left : (store.applyAll own
        (restoreWrites own now oldSlot.id actor reason)).consumptions.filter (fun row =>
          row.active && [oldSlot.id, .minted session 0].contains row.slotId) = [] := by
      refine List.filter_eq_nil_iff.mpr fun row member chosen => ?_
      rw [Bool.and_eq_true] at chosen
      have listed : row ∈ own.consumptions.filter fun row =>
          row.active && row.slotId ≠ oldSlot.id :=
        restoreWrites_active unique now oldSlot.id actor reason ▸
          List.mem_filter.mpr ⟨member, chosen.1⟩
      rw [List.mem_filter, Bool.and_eq_true, decide_eq_true_eq] at listed
      have other := get_eq_none_iff.mp unused row listed.1
      simp [listed.2.2, other] at chosen
    rw [Db.unitsFor, rows, List.filter_append, none_left, List.nil_append]
    cases own.unitToTake oldSlot learnerAccountId with
    | false => rfl
    | true => simp [Program.newConsumption, PackageConsumption.active]
  constructor
  · intro conserved
    rw [← conserved.unit, unit]
  · intro same
    have equal : own.hasUnit oldSlot.id = own.unitToTake oldSlot learnerAccountId :=
      Bool.eq_iff_iff.mpr same
    refine ⟨unit.trans equal.symm, ?_, fun had => ?_⟩
    · rw [before, after, equal]
    · rw [after, ← equal, had, if_pos rfl]

end Moved

/-! ## The two functions take the same steps -/

section Requests

variable {answer : GatewayAnswer} {db after : Db} {session : Nat} {ids : List RowId}

def cancelledRow (now : Nat) (cancelledBy : RowId) (reason : Option String) (row : LessonSlot) :
    LessonSlot :=
  { row with
    status := .cancelled
    cancelledAt := some now
    cancelledByAccountId := some cancelledBy
    cancellationReason := reason
    updatedAt := now }

theorem alone_cancel {slotId cancelledBy : RowId} {now : Nat} {reason : Option String}
    (where_ : Db -> LessonSlot -> Bool) (onError : Program) (next : Option LessonSlot -> Program) :
    (Program.updateSlot slotId where_ (cancelledRow now cancelledBy reason) onError next).alone
        store answer db [] =
      match (db.slot? slotId).filter (where_ db) with
      | none => (next none).alone store answer db []
      | some row =>
        (next (some (cancelledRow now cancelledBy reason row))).alone store answer db
          [.slot (.replace (cancelledRow now cancelledBy reason row))] := by
  rw [alone_updateSlot, Store.applyAll_nil, Db.slotUpdate]
  cases (db.slot? slotId).filter (where_ db) with
  | none => rfl
  | some row =>
    have kept : row.snapshotChanged
        ((cancelledRow now cancelledBy reason row).snapshotOnBook db.catalog) = false := by
      simp [LessonSlot.snapshotChanged, LessonSlot.snapshotOnBook, cancelledRow,
        SlotStatus.priced]
    simp only [Option.map_some, kept, Bool.false_eq_true, if_false]
    rfl

def cancelRefusals : List String :=
  ["not_found", "not_owner", "already_terminal", "too_late_to_reschedule"]

theorem alone_classifyCancelFailure (slotId learnerAccountId : RowId) :
    ∃ reason, reason ∈ cancelRefusals ∧
      (Program.classifyCancelFailure slotId learnerAccountId).alone store answer db [] =
        (db, some (.returned reason [])) := by
  simp only [Program.classifyCancelFailure, Program.query, Program.alone]
  split
  · exact ⟨"not_found", by decide, rfl⟩
  split
  · exact ⟨"not_owner", by decide, rfl⟩
  split
  · exact ⟨"already_terminal", by decide, rfl⟩
  · exact ⟨"too_late_to_reschedule", by decide, rfl⟩

theorem alone_classifyTeacherCancelFailure (slotId teacherAccountId : RowId) :
    ∃ reason, reason ∈ cancelRefusals ∧
      (Program.classifyTeacherCancelFailure slotId teacherAccountId).alone store answer db [] =
        (db, some (.returned reason [])) := by
  simp only [Program.classifyTeacherCancelFailure, Program.query, Program.alone]
  split
  · exact ⟨"not_found", by decide, rfl⟩
  split
  · exact ⟨"not_owner", by decide, rfl⟩
  · exact ⟨"already_terminal", by decide, rfl⟩

theorem MoveRequest.moves (request : MoveRequest)
    (ended : (request.program session).alone store answer db [] =
      (after, some (.returned "ok" ids))) :
    ∃ row learnerAccountId cancelledBy cancelledFor newStartAt actor reason,
      db.slot? request.slotId = some row ∧ row.learnerAccountId = some learnerAccountId ∧
        (Program.moveSlot session db.clock
          (cancelledRow db.clock cancelledBy cancelledFor row) learnerAccountId newStartAt actor
          reason).alone store answer db
            [.slot (.replace (cancelledRow db.clock cancelledBy cancelledFor row))] =
          (after, some (.returned "ok" ids)) := by
  cases request with
  | learner slotId learnerAccountId newStartAt cancelWindowHours =>
    simp only [MoveRequest.program, Program.rescheduleSlotByLearner] at ended
    cases newStartAt with
    | none => simp [Program.notOk, Program.alone] at ended
    | some newStartAt =>
      simp only [Program.dateNow, Program.query, Program.alone, List.append_nil] at ended
      split at ended
      · simp [Program.notOk, Program.alone] at ended
      split at ended
      · simp [Program.notOk, Program.alone] at ended
      simp only [Program.begin, Program.query, Program.lockLearner, Program.locking,
        Program.alone, List.append_nil] at ended
      replace ended := (alone_cancel _ _ _).symm.trans ended
      split at ended
      · rcases @alone_classifyCancelFailure answer db slotId learnerAccountId with
          ⟨reason, listed, refused⟩
        rw [Program.alone, refused] at ended
        simp only [Prod.mk.injEq, Option.some.injEq, Reply.returned.injEq] at ended
        rw [ended.2.1] at listed
        exact absurd listed (by decide)
      next row found =>
        rw [Option.filter_eq_some_iff] at found
        simp only [Bool.and_eq_true, decide_eq_true_eq] at found
        exact ⟨row, learnerAccountId, _, _, newStartAt, _, _, found.1, found.2.1.1, ended⟩
  | teacher slotId teacherAccountId newStartAt reason =>
    simp only [MoveRequest.program, Program.rescheduleSlotByTeacher] at ended
    split at ended
    · simp [Program.notOk, Program.alone] at ended
    cases newStartAt with
    | none => simp [Program.notOk, Program.alone] at ended
    | some newStartAt =>
      simp only [Program.dateNow, Program.query, Program.alone, List.append_nil] at ended
      split at ended
      · simp [Program.notOk, Program.alone] at ended
      split at ended
      · simp [Program.notOk, Program.alone] at ended
      simp only [Program.begin, Program.query, Program.alone, List.append_nil] at ended
      replace ended := (alone_cancel _ _ _).symm.trans ended
      split at ended
      · rcases @alone_classifyTeacherCancelFailure answer db slotId teacherAccountId with
          ⟨reason, listed, refused⟩
        rw [Program.alone, refused] at ended
        simp only [Prod.mk.injEq, Option.some.injEq, Reply.returned.injEq] at ended
        rw [ended.2.1] at listed
        exact absurd listed (by decide)
      next row found =>
        rw [Option.filter_eq_some_iff] at found
        cases learner : row.learnerAccountId with
        | none =>
          simp [cancelledRow, learner, Program.thrown, Program.alone] at ended
        | some learnerAccountId =>
          have kept : (cancelledRow db.clock teacherAccountId (some (jsTrim (reason.getD "")))
            row).learnerAccountId = some learnerAccountId := learner
          simp only [kept, Program.lockLearner, Program.locking, Program.alone,
            List.append_nil] at ended
          exact ⟨row, learnerAccountId, _, _, newStartAt, _, _, found.1, learner, ended⟩

/-- A lesson that has a unit finds one to take, and one that has none finds none. -/
def Db.movesEvenly (db : Db) (slotId : RowId) : Bool :=
  db.hasUnit slotId = (db.slot? slotId).any fun slot =>
    slot.learnerAccountId.any fun learnerAccountId => db.unitToTake slot learnerAccountId

/-- A lesson that is moved stays covered if and only if the move takes a unit just when it has
given one back: if the lesson had a unit, it has a tariff and its learner a package to take one
from, and if it had none, it has no tariff or its learner no such package. -/
theorem moves_conserve_coverage_iff (tables : PackageTables db) (request : MoveRequest)
    {oldSlotId newSlotId : RowId} (ended : (request.program session).alone store answer db [] =
      (after, some (.returned "ok" [oldSlotId, newSlotId]))) :
    CoverageConserved db after request.slotId newSlotId <->
      db.movesEvenly request.slotId = true := by
  rcases request.moves ended with
    ⟨row, learnerAccountId, cancelledBy, cancelledFor, newStartAt, actor, reason, found, learner,
      moves⟩
  have key : row.id = request.slotId := key_of_get found
  let oldSlot := cancelledRow db.clock cancelledBy cancelledFor row
  let own := db.apply (.slot (.replace oldSlot))
  have there : ∀ row, row ∈ own.consumptions -> (own.slot? row.slotId).isSome = true := by
    intro unit member
    rw [Db.slot?, show own.slots = (Change.replace oldSlot).apply LessonSlot.id db.slots from rfl,
      get_replaced, Option.isSome_map]
    exact tables.slots unit member
  have unique : Unique PackagePurchase.id own.purchases := tables.purchases
  rcases @alone_moveSlot answer db session db.clock oldSlot learnerAccountId newStartAt actor
    reason [.slot (.replace oldSlot)] _ _ unique there moves with ⟨free, ids, rfl⟩
  rw [List.cons.injEq, List.cons.injEq] at ids
  have conserved := @moved_conserved_iff session db.clock oldSlot learnerAccountId newStartAt actor
    reason own rfl tables.consumptions there free
  rw [ids.2.1, Db.movesEvenly, found, decide_eq_true_eq, Bool.eq_iff_iff]
  simp only [Option.any_some, learner]
  rw [← key]
  constructor
  · intro covered
    exact conserved.mp ⟨covered.unit, covered.units, covered.one⟩
  · intro evenly
    have covered := conserved.mpr evenly
    exact ⟨covered.unit, covered.units, covered.one⟩

end Requests

/-- A lesson three days ahead that a package pays for, with or without a tariff. -/
private def prepaidLesson (tariffId : Option RowId) (expiresAt : Nat) : Db :=
  { Db.empty with
    slots := [Program.bookedSlot (.seeded 1) (.seeded 2) (.seeded 3) 216000000 60 tariffId 0]
    purchases := [⟨.seeded 4, .seeded 3, .seeded 5, some (.seeded 2), .generated (.seeded 6),
      100000, "One lesson", 60, 1, expiresAt, none⟩]
    consumptions := [Program.newConsumption (.seeded 1) (.seeded 4) .learner] }

private def byOneDay : MoveRequest :=
  .learner (.seeded 1) (.seeded 3) (some 302400000) 24

private theorem prepaidLesson_tables (tariffId : Option RowId) (expiresAt : Nat) :
    PackageTables (prepaidLesson tariffId expiresAt) where
  purchases := List.nodup_singleton _
  consumptions := List.nodup_singleton _
  slots := by
    intro row member
    rw [List.mem_singleton.mp member]
    rfl

/-- A lesson without a tariff loses its unit when it is moved. -/
theorem move_uncovers : ¬ ∀ (answer : GatewayAnswer) (session : Nat) (db after : Db)
    (request : MoveRequest) (oldSlotId newSlotId : RowId), PackageTables db ->
      (request.program session).alone store answer db [] =
        (after, some (.returned "ok" [oldSlotId, newSlotId])) ->
          CoverageConserved db after request.slotId newSlotId := by
  intro conserves
  have covered := conserves (.unsent "") 1 (prepaidLesson none 400000000) _ byOneDay (.seeded 1)
    (.minted 1 0) (prepaidLesson_tables _ _) (by rfl)
  have unit := covered.unit
  revert unit
  decide

/-- With a tariff, and a package that lasts, it has one again. -/
theorem prepaid_move_covered : CoverageConserved (prepaidLesson (some (.seeded 7)) 400000000)
      ((byOneDay.program 1).alone store (.unsent "") (prepaidLesson (some (.seeded 7)) 400000000)
        []).1 byOneDay.slotId (.minted 1 0) := by
  have ended : ((byOneDay.program 1).alone store (.unsent "")
      (prepaidLesson (some (.seeded 7)) 400000000) []).2 =
        some (.returned "ok" [.seeded 1, .minted 1 0]) := by decide +kernel
  have evenly : (prepaidLesson (some (.seeded 7)) 400000000).movesEvenly byOneDay.slotId =
      true := by decide +kernel
  have tables := prepaidLesson_tables (some (.seeded 7)) 400000000
  revert ended evenly tables
  generalize prepaidLesson (some (.seeded 7)) 400000000 = db
  generalize ran : (byOneDay.program 1).alone store (.unsent "") db [] = run
  intro ended evenly tables
  have result : run = (run.1, some (.returned "ok" [.seeded 1, .minted 1 0])) := by rw [← ended]
  exact (moves_conserve_coverage_iff tables byOneDay (ran.trans result)).mpr evenly

end LevelChannel
