import LevelChannel.Schema.Rules
import LevelChannel.Packages.Consumption

namespace LevelChannel

open ReadCommitted Tables

/-!
# The package ledger inside other transactions

Cancelling, refunding and booking run the functions of the package ledger on their
own transaction.  For a contract that does not look at packages, such a function
only adds locks and package writes before its continuation.
-/

def PackageWrite (write : Write) : Prop :=
  write.table = .purchases ∨ write.table = .consumptions

theorem packageWrite_of_void {clock : Nat} {packagePurchaseId : RowId} {own : Db} {write : Write}
    (member : write ∈ (match own.purchase? packagePurchaseId with
      | none => []
      | some row =>
        [Write.purchase (.replace { row with voidedAt := some (row.voidedAt.getD clock) })])) :
    PackageWrite write := by
  split at member
  · cases member
  · rw [List.mem_singleton.mp member]
    exact Or.inl rfl

theorem packageWrite_of_restore {clock : Nat} {actor : Actor} {reason : Option String}
    {candidates : List PackageConsumption} {own : Db} {write : Write}
    (member : write ∈ candidates.filterMap fun candidate =>
      match own.consumption? candidate.slotId with
      | none => none
      | some row =>
        if row.active then
          some (Write.consumption (.replace (row.restore clock actor reason)))
        else none) : PackageWrite write := by
  rcases List.mem_filterMap.mp member with ⟨candidate, -, made⟩
  split at made
  · cases made
  · split at made
    · rw [← Option.some.inj made]
      exact Or.inr rfl
    · cases made

variable {contract : Contract Db Lock} {permits : Label -> Db -> Prop} {session : Nat}
  {held : List Lock} {pending : List Write} {db : Db} (P : Db -> Prop)

theorem Program.Safe.restoreAllConsumptionsForPurchase {clock : Nat} {packagePurchaseId : RowId}
    {actor : Actor} {reason : Option String} {onError next : Program}
    (stable : contract.Stable store session held P) (start : P db)
    (failed : ∀ now, P now -> contract.Good now ->
      contract.Safe store permits session onError [] [] now)
    (went : ∀ now more writes, P now -> contract.Good now ->
      (∀ write, write ∈ writes -> PackageWrite write) ->
      contract.Safe store permits session next (more ++ held) (pending ++ writes) now) :
    contract.Safe store permits session
      (Program.restoreAllConsumptionsForPurchase clock packagePurchaseId actor reason onError next)
      held pending db := by
  refine Program.Safe.execute P stable start failed ?_
  intro now holds _
  refine Program.Safe.query P (stable.append _) holds failed ?_
  intro now holds _
  refine Program.Safe.execute P (stable.append _) holds failed ?_
  intro now holds good
  rw [← List.append_assoc, List.append_assoc pending]
  refine went now _ _ holds good ?_
  intro write member
  rcases List.mem_append.mp member with voided | restored
  · exact packageWrite_of_void voided
  · exact packageWrite_of_restore restored

end LevelChannel
