import LevelChannel.Schema.Database

namespace LevelChannel

open Tables

/-!
# The package ledger

The functions of `lib/billing/consumption.ts`.  Each runs on its caller's
transaction and hands its result to the caller's continuation; an error of one of
its statements is the caller's to handle.
-/

namespace Db

/-- Units of a purchase in use: `count(*) .. where restored_at is null`. -/
def activeCount (db : Db) (purchaseId : RowId) : Nat :=
  (db.consumptions.filter fun row => row.packagePurchaseId = purchaseId && row.active).length

def purchase? (db : Db) (id : RowId) : Option PackagePurchase :=
  get PackagePurchase.id db.purchases id

def consumption? (db : Db) (slotId : RowId) : Option PackageConsumption :=
  get PackageConsumption.slotId db.consumptions slotId

/-- `pp.count_initial - (select count(*) ..) > 0` -/
def hasRemaining (db : Db) (purchase : PackagePurchase) : Bool :=
  db.activeCount purchase.id < purchase.countInitial

end Db

/-- The columns `consumePackageUnit` selects a purchase by. -/
def PackagePurchase.eligible (now : Nat) (accountId : RowId) (durationMinutes : Nat)
    (expectedTeacherId : RowId) (row : PackagePurchase) : Bool :=
  row.accountId = accountId && row.durationMinutes = durationMinutes &&
    (row.teacherId = some expectedTeacherId || row.teacherId.isNone) &&
    now < row.expiresAt && row.voidedAt.isNone

/-- Eligible purchases with a unit left, the earliest to expire first.  Purchases that
expire together stay in table order; the database goes by their random keys. -/
def Db.eligiblePackages (db : Db) (now : Nat) (accountId : RowId) (durationMinutes : Nat)
    (expectedTeacherId : RowId) : List RowId :=
  ((db.purchases.filter fun row =>
      row.eligible now accountId durationMinutes expectedTeacherId && db.hasRemaining row).mergeSort
    fun first second => first.expiresAt ≤ second.expiresAt).map PackagePurchase.id

def PackageConsumption.restore (row : PackageConsumption) (now : Nat) (actor : Actor)
    (reason : Option String) : PackageConsumption :=
  { row with restoredAt := some now, restoredByActor := some actor, restoredReason := reason }

namespace Program

/-- `.. limit 1 for update`: lock the candidates in order until one of them still
satisfies the row condition.  The unit count is the one of the snapshot. -/
def lockFirst (where_ : PackagePurchase -> Bool) (onError : Program)
    (next : Option PackagePurchase -> Program) : List RowId -> Program
  | [] => next none
  | id :: rest =>
    locking [(LockTarget.purchase id).forUpdate] onError fun own =>
      match (own.purchase? id).filter where_ with
      | some row => next (some row)
      | none => lockFirst where_ onError next rest

/-- `insert into package_consumptions .. on conflict (slot_id) do nothing`. -/
def insertConsumption (row : PackageConsumption) (onError : Program) (next : Bool -> Program) :
    Program :=
  checked
    [(LockTarget.consumption row.slotId).forUpdate,
      (LockTarget.purchase row.packagePurchaseId).forKeyShare,
      (LockTarget.slot row.slotId).forKeyShare]
    onError
    (fun own => (own.consumption? row.slotId).isNone &&
      ((own.purchase? row.packagePurchaseId).isNone ||
        (get LessonSlot.id own.slots row.slotId).isNone))
    (fun own => if (own.consumption? row.slotId).isSome then [] else [.consumption (.insert row)])
    fun own => next (own.consumption? row.slotId).isNone

def newConsumption (slotId packagePurchaseId : RowId) (actor : Actor) : PackageConsumption where
  slotId := slotId
  packagePurchaseId := packagePurchaseId
  consumedByActor := actor
  restoredAt := none
  restoredByActor := none
  restoredReason := none

/-- `consumePackageUnit`: the purchase a unit was taken from, if any. -/
def consumePackageUnit (now : Nat) (accountId slotId : RowId) (durationMinutes : Nat)
    (actor : Actor) (expectedTeacherId : RowId) (onError : Program)
    (next : Option RowId -> Program) : Program :=
  query onError fun _ own =>
    lockFirst (PackagePurchase.eligible now accountId durationMinutes expectedTeacherId) onError
      (fun chosen =>
        match chosen with
        | none => next none
        | some purchase =>
          insertConsumption (newConsumption slotId purchase.id actor) onError fun created =>
            next (if created then some purchase.id else none))
      (own.eligiblePackages now accountId durationMinutes expectedTeacherId)

/-- `restoreAllConsumptionsForPurchase`: void the purchase, then restore every
consumption of it.  The second statement finds its rows in its snapshot and looks
at each again once it has the row's lock. -/
def restoreAllConsumptionsForPurchase (now : Nat) (packagePurchaseId : RowId) (actor : Actor)
    (reason : Option String) (onError next : Program) : Program :=
  execute [(LockTarget.purchase packagePurchaseId).forNoKeyUpdate] onError
    (fun own => match own.purchase? packagePurchaseId with
      | none => []
      | some row =>
        [.purchase (.replace { row with voidedAt := some (row.voidedAt.getD now) })])
    fun _ =>
      query onError fun _ own =>
        let candidates := own.consumptions.filter fun row =>
          row.packagePurchaseId = packagePurchaseId && row.active
        execute (candidates.map fun row => (LockTarget.consumption row.slotId).forNoKeyUpdate)
          onError
          (fun own => candidates.filterMap fun candidate =>
            match own.consumption? candidate.slotId with
            | none => none
            | some row =>
              if row.active then
                some (Write.consumption (.replace (row.restore now actor reason)))
              else none)
          fun _ => next

/-- `restorePackageConsumption`: restore the consumption of one slot, if it is
active.  The result is the purchase it belonged to. -/
def restorePackageConsumption (now : Nat) (slotId : RowId) (actor : Actor)
    (reason : Option String) (onError : Program) (next : Option RowId -> Program) : Program :=
  let active (own : Db) : Option PackageConsumption :=
    (own.consumption? slotId).filter PackageConsumption.active
  execute [(LockTarget.consumption slotId).forNoKeyUpdate] onError
    (fun own => match active own with
      | none => []
      | some row => [.consumption (.replace (row.restore now actor reason))])
    fun own => next ((active own).map PackageConsumption.packagePurchaseId)

end Program

end LevelChannel
