import LevelChannel.Payments.PaidState
import LevelChannel.Tables.Joins

namespace LevelChannel

open Tables

/-!
# Who owes how much

The operator's summary groups the debts of all learners by account, in one query; a learner's own
list has them one by one, in another.  Both mean the same debts.
-/

/-- What `listAccountPostpaidDebt` returns of a slot. -/
structure PostpaidDebtSlot where
  slotId : RowId
  startAt : Nat
  durationMinutes : Nat
  status : SlotStatus
  tariffId : Option RowId
  expectedAmountKopecks : Option Nat
  deriving DecidableEq, Repr

/-- A row of `accounts` with the profile that is joined to it. -/
structure DebtAccount where
  id : RowId
  email : String
  displayName : Option String
  firstName : Option String
  lastName : Option String
  deriving DecidableEq, Repr

structure AccountPostpaidDebtSummary where
  accountId : RowId
  email : String
  displayName : Option String
  firstName : Option String
  lastName : Option String
  totalDebtKopecks : Nat
  slotCount : Nat
  slotsWithoutTariff : Nat
  oldestDebtSlotAt : Option Nat
  deriving DecidableEq, Repr

namespace Db

variable (db : Db)

/-- `coalesce(s.snapshot_amount_kopecks, t.amount_kopecks)`, of a tariff that is active. -/
def debtAmountKopecks (slot : LessonSlot) : Option Nat :=
  slot.snapshotAmountKopecks.or
    (((slot.tariffId.bind db.catalog.tariff).filter PricingTariff.isActive).map
      PricingTariff.amountKopecks)

def postpaidDebtSlot (slot : LessonSlot) : PostpaidDebtSlot where
  slotId := slot.id
  startAt := slot.startAt
  durationMinutes := slot.durationMinutes
  status := slot.status
  tariffId := slot.tariffId
  expectedAmountKopecks := db.debtAmountKopecks slot

/-- The rows of `listAccountPostpaidDebt`. -/
def postpaidDebtSlots (accountId : RowId) : List PostpaidDebtSlot :=
  (db.listAccountPostpaidDebt accountId).map db.postpaidDebtSlot

/-- A row of `debt_slots`. -/
structure DebtSlot where
  learnerAccountId : RowId
  startAt : Nat
  expectedAmountKopecks : Option Nat
  deriving DecidableEq, Repr

/-- The row of `debt_slots` that a lesson has. -/
def debtSlot? (slot : LessonSlot) : Option DebtSlot :=
  slot.learnerAccountId.bind fun learner =>
    if (db.completionOf? slot.id).isSome && db.postpaidUnpaid slot.id then
      some ⟨learner, slot.startAt, db.debtAmountKopecks slot⟩
    else none

/-- `debt_slots` -/
def debtSlots : List DebtSlot :=
  db.slots.filterMap db.debtSlot?

/-- `a.id = ds.learner_account_id` -/
def ofAccount (account : DebtAccount) (slot : DebtSlot) : Bool :=
  account.id = slot.learnerAccountId

def summary (account : DebtAccount) (slots : List DebtSlot) : AccountPostpaidDebtSummary where
  accountId := account.id
  email := account.email
  displayName := account.displayName.filter (· ≠ "")
  firstName := account.firstName.filter (· ≠ "")
  lastName := account.lastName.filter (· ≠ "")
  totalDebtKopecks := (slots.filterMap DebtSlot.expectedAmountKopecks).sum
  slotCount := slots.length
  slotsWithoutTariff := slots.countP fun slot => slot.expectedAmountKopecks.isNone
  oldestDebtSlotAt := (slots.map DebtSlot.startAt).min?

def listAccountsWithPostpaidDebtAggregate (accounts : List DebtAccount) (minKopecks : Nat) :
    List AccountPostpaidDebtSummary :=
  (((groups ofAccount accounts db.debtSlots).map fun account =>
      summary account (group ofAccount accounts db.debtSlots account)).filter
    fun row => minKopecks ≤ row.totalDebtKopecks).mergeSort
    fun first second => second.totalDebtKopecks < first.totalDebtKopecks ||
      (first.totalDebtKopecks = second.totalDebtKopecks &&
        first.oldestDebtSlotAt.getD 0 ≤ second.oldestDebtSlotAt.getD 0)

def ownSummary (account : DebtAccount) (rows : List PostpaidDebtSlot) :
    AccountPostpaidDebtSummary where
  accountId := account.id
  email := account.email
  displayName := account.displayName.filter (· ≠ "")
  firstName := account.firstName.filter (· ≠ "")
  lastName := account.lastName.filter (· ≠ "")
  totalDebtKopecks := (rows.map fun row => row.expectedAmountKopecks.getD 0).sum
  slotCount := rows.length
  slotsWithoutTariff := rows.countP fun row => row.expectedAmountKopecks.isNone
  oldestDebtSlotAt := rows.getLast?.map PostpaidDebtSlot.startAt

/-- A row of the learner's list, as the row of `debt_slots` that it comes from. -/
def DebtSlot.ofRow (learner : RowId) (row : PostpaidDebtSlot) : DebtSlot :=
  ⟨learner, row.startAt, row.expectedAmountKopecks⟩

variable {db} {accounts : List DebtAccount} {account : DebtAccount}

theorem filter_debtSlot? (slot : LessonSlot) : (db.debtSlot? slot).filter (ofAccount account) =
      if (db.completionOf? slot.id).isSome && slot.learnerAccountId = some account.id &&
          db.postpaidUnpaid slot.id then some (DebtSlot.ofRow account.id (db.postpaidDebtSlot slot))
      else none := by
  rw [debtSlot?]
  cases slot.learnerAccountId with
  | none => simp
  | some learner =>
    rw [Option.bind_some]
    by_cases same : account.id = learner
    · subst same
      by_cases billable : ((db.completionOf? slot.id).isSome && db.postpaidUnpaid slot.id) = true
      · have own : ofAccount account ⟨account.id, slot.startAt, db.debtAmountKopecks slot⟩ = true :=
          decide_eq_true rfl
        rw [if_pos billable, Option.filter_some, if_pos own, if_pos]
        · rfl
        · simpa using billable
      · rw [if_neg billable, Option.filter_none, if_neg]
        simpa using billable
    · have differs : ¬ some learner = some account.id := fun other => same (by injection other.symm)
      have other : ¬ ((db.completionOf? slot.id).isSome &&
          decide (some learner = some account.id) && db.postpaidUnpaid slot.id) = true := by
        rw [decide_eq_false differs, Bool.and_false, Bool.false_and]
        decide
      rw [if_neg other]
      split
      · exact Option.filter_some.trans (if_neg (by simpa [ofAccount] using same))
      · rfl

theorem group_debtSlots (db : Db) (distinct : accounts.Nodup) (member : account ∈ accounts) :
    (group ofAccount accounts db.debtSlots account).Perm
      ((db.postpaidDebtSlots account.id).map (DebtSlot.ofRow account.id)) := by
  have listed : db.debtSlots.filter (ofAccount account) =
      (db.slots.filter fun slot => (db.completionOf? slot.id).isSome &&
        slot.learnerAccountId = some account.id && db.postpaidUnpaid slot.id).map fun slot =>
          DebtSlot.ofRow account.id (db.postpaidDebtSlot slot) := by
    rw [debtSlots, List.filter_filterMap, ← List.filterMap_eq_map', List.filterMap_filter]
    exact List.filterMap_congr fun slot _ => filter_debtSlot? slot
  rw [group_eq distinct member, listed, postpaidDebtSlots, List.map_map, listAccountPostpaidDebt]
  exact (List.mergeSort_perm _ _).symm.map _

theorem sum_filterMap {Row : Type} (amount : Row -> Option Nat) (rows : List Row) :
    (rows.filterMap amount).sum = (rows.map fun row => (amount row).getD 0).sum := by
  induction rows with
  | nil => rfl
  | cons row rows ih =>
    rw [List.filterMap_cons, List.map_cons, List.sum_cons, ← ih]
    cases amount row with
    | none => exact (Nat.zero_add _).symm
    | some known => exact List.sum_cons

theorem min?_perm {first second : List Nat} (same : first.Perm second) :
    first.min? = second.min? := by
  refine Option.ext fun least => ?_
  simp only [List.min?_eq_some_iff, same.mem_iff]

theorem min?_of_sorted {starts : List Nat} (sorted : starts.Pairwise fun first second =>
    second ≤ first) : starts.min? = starts.getLast? := by
  cases last : starts.getLast? with
  | none => rw [List.getLast?_eq_none_iff.mp last, List.min?_nil]
  | some oldest =>
    have ⟨before, split⟩ := List.getLast?_eq_some_iff.mp last
    rw [List.min?_eq_some_iff]
    refine ⟨List.mem_of_getLast? last, fun start listed => ?_⟩
    rw [split] at sorted listed
    rcases List.mem_append.mp listed with earlier | same
    · exact (List.pairwise_append.mp sorted).2.2 start earlier oldest List.mem_cons_self
    · exact Nat.le_of_eq (List.mem_singleton.mp same).symm

theorem postpaidDebtSlots_sorted (accountId : RowId) :
    ((db.postpaidDebtSlots accountId).map PostpaidDebtSlot.startAt).Pairwise fun first second =>
      second ≤ first := by
  rw [postpaidDebtSlots, List.map_map, listAccountPostpaidDebt, List.pairwise_map]
  refine (List.pairwise_mergeSort ?_ ?_ _).imp of_decide_eq_true
  · exact fun _ _ _ early late => decide_eq_true
      (Nat.le_trans (of_decide_eq_true late) (of_decide_eq_true early))
  · intro first second
    rw [Bool.or_eq_true, decide_eq_true_eq, decide_eq_true_eq]
    exact Nat.le_total _ _

theorem summary_group (distinct : accounts.Nodup) (member : account ∈ accounts) :
    summary account (group ofAccount accounts db.debtSlots account) =
      ownSummary account (db.postpaidDebtSlots account.id) := by
  have same := group_debtSlots db distinct member
  have total : ((group ofAccount accounts db.debtSlots account).filterMap
      DebtSlot.expectedAmountKopecks).sum =
        ((db.postpaidDebtSlots account.id).map fun row =>
          row.expectedAmountKopecks.getD 0).sum := by
    rw [(same.filterMap _).sum_eq, List.filterMap_map, sum_filterMap]
    rfl
  have oldest : ((group ofAccount accounts db.debtSlots account).map DebtSlot.startAt).min? =
      (db.postpaidDebtSlots account.id).getLast?.map PostpaidDebtSlot.startAt := by
    rw [min?_perm (same.map _), List.map_map, ← List.getLast?_map]
    exact min?_of_sorted (postpaidDebtSlots_sorted account.id)
  rw [summary, ownSummary, total, oldest, same.length_eq, same.countP_eq, List.length_map,
    List.countP_map]
  rfl

/-! ## The whole summary -/

theorem mem_groups_iff (distinct : accounts.Nodup) :
    account ∈ groups ofAccount accounts db.debtSlots <->
      account ∈ accounts ∧ db.postpaidDebtSlots account.id ≠ [] := by
  rw [mem_groups]
  refine and_congr_right fun member => ?_
  have same := group_debtSlots db distinct member
  rw [group_eq distinct member] at same
  constructor
  · rintro ⟨slot, listed, matched⟩ none
    rw [none, List.map_nil, List.perm_nil] at same
    exact absurd (List.mem_filter.mpr ⟨listed, matched⟩) (same ▸ List.not_mem_nil)
  · intro filled
    rcases List.exists_mem_of_ne_nil _ filled with ⟨row, listed⟩
    have found := same.mem_iff.mpr (List.mem_map_of_mem listed)
    exact ⟨_, List.mem_filter.mp found⟩

/-- Larger debts come first, and of equal ones the older. -/
def AccountPostpaidDebtSummary.Before (first second : AccountPostpaidDebtSummary) : Prop :=
  second.totalDebtKopecks < first.totalDebtKopecks ∨
    first.totalDebtKopecks = second.totalDebtKopecks ∧
      first.oldestDebtSlotAt.getD 0 ≤ second.oldestDebtSlotAt.getD 0

theorem summary_perm (distinct : accounts.Nodup) (minKopecks : Nat) :
    (db.listAccountsWithPostpaidDebtAggregate accounts minKopecks).Perm
      (((groups ofAccount accounts db.debtSlots).map fun account =>
        ownSummary account (db.postpaidDebtSlots account.id)).filter
          fun row => minKopecks ≤ row.totalDebtKopecks) := by
  have same : ((groups ofAccount accounts db.debtSlots).map fun account =>
      summary account (group ofAccount accounts db.debtSlots account)) =
        (groups ofAccount accounts db.debtSlots).map fun account =>
          ownSummary account (db.postpaidDebtSlots account.id) :=
    List.map_congr_left fun account listed =>
      summary_group distinct ((mem_groups_iff distinct).mp listed).1
  rw [listAccountsWithPostpaidDebtAggregate, same]
  exact List.mergeSort_perm _ _

theorem mem_summary_iff (distinct : accounts.Nodup) {minKopecks : Nat}
    {row : AccountPostpaidDebtSummary} :
    row ∈ db.listAccountsWithPostpaidDebtAggregate accounts minKopecks <->
      ∃ account, account ∈ accounts ∧ db.postpaidDebtSlots account.id ≠ [] ∧
        row = ownSummary account (db.postpaidDebtSlots account.id) ∧
        minKopecks ≤ row.totalDebtKopecks := by
  rw [(summary_perm distinct minKopecks).mem_iff, List.mem_filter, List.mem_map,
    decide_eq_true_eq]
  constructor
  · rintro ⟨⟨account, listed, rfl⟩, enough⟩
    have ⟨member, filled⟩ := (mem_groups_iff distinct).mp listed
    exact ⟨account, member, filled, rfl, enough⟩
  · rintro ⟨account, member, filled, rfl, enough⟩
    exact ⟨⟨account, (mem_groups_iff distinct).mpr ⟨member, filled⟩, rfl⟩, enough⟩

theorem distinct_of_unique (unique : Unique DebtAccount.id accounts) : accounts.Nodup :=
  List.Nodup.of_map DebtAccount.id unique

theorem groups_nodup (unique : Unique DebtAccount.id accounts) :
    ((groups ofAccount accounts db.debtSlots).map DebtAccount.id).Nodup := by
  refine (List.nodup_dedup _).map_on fun first one second other same => ?_
  have distinct := distinct_of_unique unique
  exact List.inj_on_of_nodup_map unique ((mem_groups_iff distinct).mp one).1
    ((mem_groups_iff distinct).mp other).1 same

theorem summary_nodup (unique : Unique DebtAccount.id accounts) (minKopecks : Nat) :
    ((db.listAccountsWithPostpaidDebtAggregate accounts minKopecks).map
      AccountPostpaidDebtSummary.accountId).Nodup := by
  refine (((summary_perm (distinct_of_unique unique) minKopecks).map _).nodup_iff).mpr ?_
  refine List.Nodup.sublist (List.filter_sublist.map _) ?_
  rw [List.map_map]
  exact groups_nodup unique

theorem summary_sorted (minKopecks : Nat) :
    (db.listAccountsWithPostpaidDebtAggregate accounts minKopecks).Pairwise
      AccountPostpaidDebtSummary.Before := by
  rw [listAccountsWithPostpaidDebtAggregate]
  refine (List.pairwise_mergeSort ?_ ?_ _).imp fun before => ?_
  · intro first second third
    simp only [Bool.or_eq_true, Bool.and_eq_true, decide_eq_true_eq]
    omega
  · intro first second
    simp only [Bool.or_eq_true, Bool.and_eq_true, decide_eq_true_eq]
    omega
  · simp only [Bool.or_eq_true, Bool.and_eq_true, decide_eq_true_eq] at before
    exact before

/-- The summary has one row for each account with a debt list that is not empty and comes to
enough, the row says what the list comes to, and the rows are in order. -/
theorem debt_summary (unique : Unique DebtAccount.id accounts) (minKopecks : Nat) :
    let rows := db.listAccountsWithPostpaidDebtAggregate accounts minKopecks
    (∀ row, row ∈ rows <-> ∃ account, account ∈ accounts ∧
      db.postpaidDebtSlots account.id ≠ [] ∧
      row = ownSummary account (db.postpaidDebtSlots account.id) ∧
      minKopecks ≤ row.totalDebtKopecks) ∧
    (rows.map AccountPostpaidDebtSummary.accountId).Nodup ∧
    rows.Pairwise AccountPostpaidDebtSummary.Before :=
  ⟨fun _ => mem_summary_iff (distinct_of_unique unique), summary_nodup unique minKopecks,
    summary_sorted minKopecks⟩

end Db

def taughtLesson : LessonSlot where
  id := .seeded 3
  teacherAccountId := .seeded 1
  startAt := 1750000000000
  durationMinutes := 60
  status := .completed
  isPersonalEvent := false
  learnerAccountId := some (.seeded 2)
  tariffId := none
  snapshotAmountKopecks := some 250000
  cancelledAt := none
  cancelledByAccountId := none
  cancellationReason := none
  markedAt := some 1750003600000
  updatedAt := 1750003600000

def taughtDb : Db :=
  { Db.empty with
    slots := [taughtLesson]
    completions :=
      [⟨.seeded 4, .seeded 3, .seeded 1, false, 250000, 1750003600000, none, some (.seeded 1),
        1750003600000⟩] }

def taughtAccounts : List DebtAccount :=
  [⟨.seeded 2, "learner@example.com", none, none, none⟩]

theorem postpaidDebtSlots_taught : taughtDb.postpaidDebtSlots (.seeded 2) =
    [⟨.seeded 3, 1750000000000, 60, .completed, none, some 250000⟩] := by
  rw [Db.postpaidDebtSlots, Db.listAccountPostpaidDebt]
  exact congrArg (List.map taughtDb.postpaidDebtSlot) (List.mergeSort_singleton taughtLesson)

theorem debt_summary_taught :
    ∃ row, row ∈ taughtDb.listAccountsWithPostpaidDebtAggregate taughtAccounts 1 ∧
      row.totalDebtKopecks = 250000 := by
  have unique : Unique DebtAccount.id taughtAccounts := List.nodup_singleton _
  have ⟨listed, _, _⟩ := @Db.debt_summary taughtDb taughtAccounts unique 1
  have owed : (Db.ownSummary ⟨.seeded 2, "learner@example.com", none, none, none⟩
      (taughtDb.postpaidDebtSlots (.seeded 2))).totalDebtKopecks = 250000 := by
    rw [postpaidDebtSlots_taught]
    rfl
  refine ⟨_, (listed _).mpr ⟨_, List.mem_singleton_self _, ?_, rfl, ?_⟩, owed⟩
  · exact postpaidDebtSlots_taught ▸ List.cons_ne_nil _ _
  · exact owed ▸ (by decide)

end LevelChannel
