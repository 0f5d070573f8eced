import Mathlib.Algebra.Order.BigOperators.Group.List
import Mathlib.Algebra.Order.Group.Nat
import LevelChannel.Payments.TwoLedgers
import LevelChannel.Lessons.Booking
import LevelChannel.ReadCommitted.Statements
import LevelChannel.Schema.Rules

namespace LevelChannel

open ReadCommitted Tables

namespace Payments

/-!
# The oldest lesson is settled first

A settlement goes through the outstanding completions of a teacher and a learner, the oldest
lesson first, and covers each as far as the payment lasts.  What it reads stays as it is until
it commits, since calls for the same two wait for each other, and calls for others cover other
completions.
-/

/-- The budget that the loop of `settleLessonsInTx` ends with: `unallocatedKopecks`. -/
def unallocated : List (LessonCompletion × Nat) -> Nat -> Nat
  | [], budget => budget
  | (completion, covered) :: rest, budget =>
    let allocation := min (completion.amountKopecks - covered) budget
    if budget = 0 then budget
    else if allocation = 0 then unallocated rest budget
    else unallocated rest (budget - allocation)

section Loop

variable {candidates : List (LessonCompletion × Nat)} {budget : Nat}

theorem coverage_conserves (candidates : List (LessonCompletion × Nat)) (budget : Nat) :
    ((coverage candidates budget).map Prod.snd).sum + unallocated candidates budget = budget := by
  induction candidates generalizing budget with
  | nil => exact Nat.zero_add budget
  | cons first rest extend =>
    rcases first with ⟨completion, covered⟩
    rw [coverage, unallocated]
    split
    · exact Nat.zero_add budget
    split
    · exact extend budget
    · rw [List.map_cons, List.sum_cons, Nat.add_assoc, extend]
      omega

theorem unallocated_eq (candidates : List (LessonCompletion × Nat)) (budget : Nat) :
    unallocated candidates budget = budget - openKopecks candidates := by
  induction candidates generalizing budget with
  | nil => rfl
  | cons first rest extend =>
    rcases first with ⟨completion, covered⟩
    rw [unallocated]
    have parts : openKopecks ((completion, covered) :: rest) =
        (completion.amountKopecks - covered) + openKopecks rest := rfl
    split
    · omega
    split
    · rw [extend]
      omega
    · rw [extend]
      omega

theorem coverage_sublist (candidates : List (LessonCompletion × Nat)) (budget : Nat) :
    ((coverage candidates budget).map Prod.fst).Sublist (candidates.map Prod.fst) := by
  induction candidates generalizing budget with
  | nil => exact List.Sublist.refl _
  | cons first rest extend =>
    rcases first with ⟨completion, covered⟩
    rw [coverage]
    split
    · exact List.nil_sublist _
    split
    · exact (extend budget).cons _
    · exact (extend _).cons_cons _

theorem coverage_within {completion : LessonCompletion} {allocation : Nat}
    (member : (completion, allocation) ∈ coverage candidates budget) :
    ∃ covered, (completion, covered) ∈ candidates ∧
      0 < allocation ∧ allocation ≤ completion.amountKopecks - covered := by
  induction candidates generalizing budget with
  | nil => cases member
  | cons first rest extend =>
    rcases first with ⟨row, covered⟩
    rw [coverage] at member
    split at member
    · cases member
    split at member
    · rcases extend member with ⟨found, listed, some, within⟩
      exact ⟨found, List.mem_cons_of_mem _ listed, some, within⟩
    · rcases List.mem_cons.mp member with same | later
      · injection same with row_eq allocation_eq
        subst row_eq allocation_eq
        exact ⟨covered, List.mem_cons_self, by omega, Nat.min_le_left _ _⟩
      · rcases extend later with ⟨found, listed, some, within⟩
        exact ⟨found, List.mem_cons_of_mem _ listed, some, within⟩

theorem coverage_full {before after : List (LessonCompletion × Nat)}
    (lasts : openKopecks before ≤ budget) {completion : LessonCompletion} {covered : Nat}
    (member : (completion, covered) ∈ before) (owed : covered < completion.amountKopecks) :
    (completion, completion.amountKopecks - covered) ∈ coverage (before ++ after) budget := by
  induction before generalizing budget with
  | nil => cases member
  | cons first rest extend =>
    rcases first with ⟨row, paid⟩
    have parts : openKopecks ((row, paid) :: rest) =
        (row.amountKopecks - paid) + openKopecks rest := rfl
    have later : (completion, covered) ∈ rest ->
        completion.amountKopecks - covered ≤ openKopecks rest := fun listed =>
      List.le_sum_of_mem (List.mem_map_of_mem listed)
    rw [List.cons_append, coverage]
    rcases List.mem_cons.mp member with same | listed
    · injection same with row_eq paid_eq
      subst row_eq paid_eq
      have whole : min (completion.amountKopecks - covered) budget =
          completion.amountKopecks - covered := by omega
      rw [whole, if_neg (by omega), if_neg (by omega)]
      exact List.mem_cons_self
    · have enough := later listed
      split
      · omega
      split
      · exact extend (by omega) listed
      · exact List.mem_cons_of_mem _ (extend (by omega) listed)

end Loop

/-- The completion is one of the teacher and the learner of the call, and one that it asks
for. -/
def asked (db : Db) (request : SettleRequest) (row : LessonCompletion) : Bool :=
  row.teacherId = request.teacherId &&
    (db.slot? row.slotId).any (fun slot => slot.learnerAccountId = some request.learnerId.id) &&
    ((request.completionIds.map UuidText.id).isEmpty ||
      (request.completionIds.map UuidText.id).contains row.id)

/-- The completions that a call goes through, each with what is covered of it. -/
def outstanding (db : Db) (request : SettleRequest) : List (LessonCompletion × Nat) :=
  db.settleCandidates request.teacherId request.learnerId.id
    (request.completionIds.map UuidText.id)

def coverageRows (settlementId : RowId) (request : SettleRequest) (amountKopecks : Nat)
    (db : Db) : List SettlementCompletion :=
  (coverage (outstanding db request) amountKopecks).map fun covered =>
    ⟨settlementId, covered.1.id, covered.2⟩

/-- The rules of one settlement, for the completions of some kind. -/
structure SettledFifo (kind : LessonCompletion -> Prop) (amountKopecks left : Nat)
    (before after : Db) : Prop where
  inserted : ∃ rows, after.settlementCompletions = before.settlementCompletions ++ rows ∧
    (rows.map SettlementCompletion.amountKopecks).sum + left = amountKopecks
  capped : ∀ row, row ∈ before.completions ->
    after.coveredKopecks row.id ≤ max row.amountKopecks (before.coveredKopecks row.id)
  oldest : ∀ row older, row ∈ before.completions -> older ∈ before.completions ->
    kind row -> kind older -> older.completedAt < row.completedAt ->
      before.coveredKopecks row.id < after.coveredKopecks row.id ->
        older.amountKopecks ≤ after.coveredKopecks older.id
  spent : 0 < left -> ∀ row, row ∈ before.completions -> kind row ->
    row.amountKopecks ≤ after.coveredKopecks row.id

section Law

variable {before after : Db} {request : SettleRequest} {amountKopecks : Nat} {settlementId : RowId}

theorem mem_outstanding {row : LessonCompletion} {covered : Nat} :
    (row, covered) ∈ outstanding before request <->
      row ∈ before.completions ∧ asked before request row = true ∧
        covered = before.coveredKopecks row.id ∧ covered < row.amountKopecks := by
  simp only [outstanding, Db.settleCandidates, List.mem_mergeSort, List.mem_filter, List.mem_map,
    Prod.mk.injEq, decide_eq_true_eq, asked, List.isEmpty_map]
  constructor
  · rintro ⟨⟨found, ⟨member, chosen⟩, rfl, rfl⟩, owed⟩
    exact ⟨member, chosen, rfl, owed⟩
  · rintro ⟨member, chosen, rfl, owed⟩
    exact ⟨⟨row, ⟨member, chosen⟩, rfl, rfl⟩, owed⟩

theorem outstanding_sorted (db : Db) (request : SettleRequest) :
    (outstanding db request).Pairwise fun first second =>
      first.1.completedAt ≤ second.1.completedAt := by
  have ordered := @List.pairwise_mergeSort (LessonCompletion × Nat)
    (fun first second => decide (first.1.completedAt ≤ second.1.completedAt))
    (fun _ _ _ early late => decide_eq_true
      (Nat.le_trans (of_decide_eq_true early) (of_decide_eq_true late)))
    (fun first second => by
      rw [Bool.or_eq_true, decide_eq_true_eq, decide_eq_true_eq]
      exact Nat.le_total _ _)
  exact (ordered _).imp of_decide_eq_true

theorem outstanding_unique (unique : Unique LessonCompletion.id before.completions) :
    ((outstanding before request).map fun candidate => candidate.1.id).Nodup := by
  have same := (List.mergeSort_perm _ _ : (outstanding before request).Perm _).map
    fun candidate => candidate.1.id
  refine same.nodup_iff.mpr ((List.filter_sublist.map _).nodup ?_)
  rw [List.map_map]
  exact (List.filter_sublist.map LessonCompletion.id).nodup unique

theorem coveredKopecks_append {rows : List SettlementCompletion}
    (inserted : after.settlementCompletions = before.settlementCompletions ++ rows)
    (completionId : RowId) :
    after.coveredKopecks completionId = before.coveredKopecks completionId +
      total (fun row => row.completionId = completionId) SettlementCompletion.amountKopecks
        rows := by
  rw [Db.coveredKopecks, inserted, total_append]
  rfl

theorem total_coverageRows {covers : List (LessonCompletion × Nat)}
    (unique : (covers.map fun covered => covered.1.id).Nodup) {row : LessonCompletion}
    {allocation : Nat} (member : (row, allocation) ∈ covers) :
    total (fun inserted => inserted.completionId = row.id) SettlementCompletion.amountKopecks
      (covers.map fun covered => ⟨settlementId, covered.1.id, covered.2⟩) = allocation := by
  induction covers with
  | nil => cases member
  | cons first rest extend =>
    have parts := List.nodup_cons.mp unique
    rw [List.map_cons, ← List.singleton_append, total_append]
    rcases List.mem_cons.mp member with rfl | later
    · have others : total (fun inserted => inserted.completionId = row.id)
          SettlementCompletion.amountKopecks
          (rest.map fun covered => ⟨settlementId, covered.1.id, covered.2⟩) = 0 := by
        refine total_eq_zero fun inserted listed => decide_eq_false fun clash => parts.1 ?_
        rcases List.mem_map.mp listed with ⟨covered, found, rfl⟩
        exact List.mem_map.mpr ⟨covered, found, clash⟩
      rw [others]
      simp [total]
    · have other : first.1.id ≠ row.id := fun clash =>
        parts.1 (List.mem_map.mpr ⟨_, later, clash.symm⟩)
      rw [extend parts.2 later]
      simp [total, other]

theorem settledFifo (unique : Unique LessonCompletion.id before.completions)
    (inserted : after.settlementCompletions = before.settlementCompletions ++
      coverageRows settlementId request amountKopecks before) :
    SettledFifo (fun row => asked before request row = true) amountKopecks
      (unallocated (outstanding before request) amountKopecks) before after := by
  have after_covered := coveredKopecks_append inserted
  have once : ((coverage (outstanding before request) amountKopecks).map fun covered =>
      covered.1.id).Nodup := by
    have ids := (coverage_sublist (outstanding before request) amountKopecks).map
      LessonCompletion.id
    rw [List.map_map, List.map_map] at ids
    exact ids.nodup (outstanding_unique unique)
  have gains : ∀ row allocation, (row, allocation) ∈
      coverage (outstanding before request) amountKopecks ->
        after.coveredKopecks row.id = before.coveredKopecks row.id + allocation :=
    fun row allocation member => by
      rw [after_covered, coverageRows, total_coverageRows once member]
  have stays : ∀ row, row ∈ before.completions ->
      (∀ allocation, (row, allocation) ∉
        coverage (outstanding before request) amountKopecks) ->
          after.coveredKopecks row.id = before.coveredKopecks row.id := by
    intro row member missed
    rw [after_covered, total_eq_zero, Nat.add_zero]
    intro new listed
    refine decide_eq_false fun same => ?_
    rcases List.mem_map.mp listed with ⟨⟨other, allocation⟩, found, rfl⟩
    rcases coverage_within found with ⟨covered, candidate, -, -⟩
    have there := (mem_outstanding.mp candidate).1
    have equal : other = row := List.inj_on_of_nodup_map unique there member same
    exact missed allocation (equal ▸ found)
  have full : ∀ before_ after_ row, outstanding before request = before_ ++ after_ ->
      openKopecks before_ ≤ amountKopecks -> (∃ covered, (row, covered) ∈ before_) ->
        row.amountKopecks ≤ after.coveredKopecks row.id := by
    rintro before_ after_ row parts lasts ⟨covered, member⟩
    have candidate := mem_outstanding.mp (parts ▸ List.mem_append_left after_ member)
    have inserted := parts ▸ @coverage_full amountKopecks before_ after_ lasts row covered member
      candidate.2.2.2
    rw [gains _ _ inserted]
    omega
  have open_ : ∀ row, row ∈ before.completions -> asked before request row = true ->
      ¬ row.amountKopecks ≤ after.coveredKopecks row.id ->
        (row, before.coveredKopecks row.id) ∈ outstanding before request := by
    intro row member chosen owed
    rw [after_covered] at owed
    exact mem_outstanding.mpr ⟨member, chosen, rfl, by omega⟩
  refine ⟨⟨_, inserted, ?_⟩, fun row member => ?_, ?_, fun left row member chosen => ?_⟩
  · rw [coverageRows, List.map_map]
    exact coverage_conserves _ _
  · by_cases given : ∃ allocation,
        (row, allocation) ∈ coverage (outstanding before request) amountKopecks
    · rcases given with ⟨allocation, found⟩
      rcases coverage_within found with ⟨covered, candidate, -, within⟩
      have read := (mem_outstanding.mp candidate).2.2
      rw [gains _ _ found]
      omega
    · rw [stays row member (not_exists.mp given)]
      exact Nat.le_max_right _ _
  · intro row older member olderMember chosen olderChosen earlier gained
    have given : ∃ allocation,
        (row, allocation) ∈ coverage (outstanding before request) amountKopecks := by
      by_contra missed
      rw [stays row member (not_exists.mp missed)] at gained
      exact Nat.lt_irrefl _ gained
    rcases mem_coverage.mp given with ⟨before_, covered, after_, parts, -, lasts⟩
    by_contra owed
    -- what is older than the completion stands before it
    have listed := open_ older olderMember olderChosen owed
    have sorted := outstanding_sorted before request
    rw [parts] at listed sorted
    rcases List.mem_append.mp listed with front | back
    · exact owed (full _ _ older parts (Nat.le_of_lt lasts) ⟨_, front⟩)
    · rcases List.mem_cons.mp back with same | later
      · rw [Prod.mk.injEq] at same
        rw [same.1] at earlier
        exact Nat.lt_irrefl _ earlier
      · have behind := (List.pairwise_cons.mp (List.pairwise_append.mp sorted).2.1).1 _ later
        exact Nat.not_le.mpr earlier behind
  · by_contra owed
    rw [unallocated_eq] at left
    exact owed (full _ [] row (List.append_nil _).symm (by omega)
      ⟨_, open_ row member chosen owed⟩)

end Law

/-! ## Calls for the same two wait for each other -/

/-- The primary key of the completions, and the reference from a completion to its slot. -/
structure CompletionTables (db : Db) : Prop where
  unique : Unique LessonCompletion.id db.completions
  slots : ∀ row, row ∈ db.completions -> (db.slot? row.slotId).isSome = true

/-- A call of `settleLessons`, by the session of its number. -/
structure SettleCall where
  request : SettleRequest
  pass : SettlePass

def SettleCall.pair (call : SettleCall) : LockTarget :=
  .advisory (.lessonSettle (.canonical call.request.teacherId) call.request.learnerId)

def Serialised (calls : Nat -> SettleCall) : Prop :=
  ∀ session other, (calls session).request.teacherId = (calls other).request.teacherId ->
    (calls session).request.learnerId.id = (calls other).request.learnerId.id ->
      (calls session).pair = (calls other).pair

def SettleCall.rows (call : SettleCall) (session : Nat) (db : Db) : List SettlementCompletion :=
  coverageRows (.minted session 0) call.request call.pass.amountKopecks db

/-- Completions and their slots stay, and what is covered keeps to the amounts.  Coverage
only comes from a call that has the lock, and is what the call would insert there and then. -/
def fifoContract (calls : Nat -> SettleCall) (first : Db) : Contract Db Lock where
  Good db := db.completions = first.completions ∧
    (∀ row, row ∈ first.completions -> db.slot? row.slotId = first.slot? row.slotId) ∧
    ∀ row, row ∈ first.completions ->
      db.coveredKopecks row.id ≤ max row.amountKopecks (first.coveredKopecks row.id)
  Guarantee session held before after :=
    after.settlementCompletions = before.settlementCompletions ∨
      (WriteLocked held (calls session).pair ∧
        after.settlementCompletions =
          before.settlementCompletions ++ (calls session).rows session before)

section Runs

variable {calls : Nat -> SettleCall} {first before after : Db}

theorem Good.same (good : (fifoContract calls first).Good before)
    (completions : after.completions = before.completions)
    (slots : ∀ row, row ∈ first.completions -> after.slot? row.slotId = before.slot? row.slotId)
    (covered : after.settlementCompletions = before.settlementCompletions) :
    (fifoContract calls first).Good after := by
  refine ⟨completions.trans good.1, fun row member => (slots row member).trans
    (good.2.1 row member), fun row member => ?_⟩
  rw [Db.coveredKopecks, covered]
  exact good.2.2 row member

theorem fifo_steady (tables : CompletionTables first) :
    Contract.Steady (fifoContract calls first) store where
  drift change db good := by
    have untouched := drift_untouched change db
    refine Good.same good untouched.completions (fun row member => ?_)
      untouched.settlementCompletions
    rcases Option.isSome_iff_exists.mp (tables.slots row member) with ⟨slot, found⟩
    have here := (good.2.1 row member).trans found
    cases change with
    | slot new =>
      rw [store_drift, Db.drift]
      split
      · rw [here]
        exact get_insert_of_some new here
      · rfl
    | allocation new =>
      rw [store_drift, Db.drift, Db.allocate]
      split <;> rfl
    | _ => rfl
  close session held db good :=
    ⟨Good.same good rfl (fun _ _ => rfl) rfl, Or.inl rfl⟩

theorem outstanding_congr {request : SettleRequest}
    (completions : after.completions = before.completions)
    (slots : ∀ row, row ∈ before.completions -> after.slot? row.slotId = before.slot? row.slotId)
    (covered : ∀ row, row ∈ before.completions -> asked before request row = true ->
      after.coveredKopecks row.id = before.coveredKopecks row.id) :
    outstanding after request = outstanding before request := by
  have chosen : after.completions.filter (asked after request) =
      before.completions.filter (asked before request) := by
    rw [completions]
    refine List.filter_congr fun row member => ?_
    rw [asked, asked, slots row member]
  have read : (after.completions.filter (asked after request)).map
        (fun row => (row, after.coveredKopecks row.id)) =
      (before.completions.filter (asked before request)).map
        fun row => (row, before.coveredKopecks row.id) := by
    rw [chosen]
    refine List.map_congr_left fun row member => ?_
    have parts := List.mem_filter.mp member
    rw [covered row parts.1 parts.2]
  exact congrArg (fun rows => (rows.filter fun candidate : LessonCompletion × Nat =>
    candidate.2 < candidate.1.amountKopecks).mergeSort fun first second =>
      first.1.completedAt ≤ second.1.completedAt) read

theorem outstanding_stable (tables : CompletionTables first) (serialised : Serialised calls)
    {session : Nat} {held : List Lock} (locked : WriteLocked held (calls session).pair)
    (candidates : List (LessonCompletion × Nat)) :
    (fifoContract calls first).Stable store session held fun db =>
      outstanding db (calls session).request = candidates := by
  rintro before after same ⟨goodBefore, goodAfter, moved⟩
  have completions : after.completions = before.completions :=
    goodAfter.1.trans goodBefore.1.symm
  have slots : ∀ row, row ∈ before.completions ->
      after.slot? row.slotId = before.slot? row.slotId := fun row member => by
    rw [goodBefore.1] at member
    exact (goodAfter.2.1 row member).trans (goodBefore.2.1 row member).symm
  refine (outstanding_congr completions slots fun row member chosen => ?_).trans same
  rcases moved with ⟨change, rfl⟩ | ⟨other, theirs, different, compatible, kept⟩
  · rw [Db.coveredKopecks, store_drift, (drift_untouched change before).settlementCompletions]
    rfl
  rcases kept with unchanged | ⟨lockedToo, inserted⟩
  · rw [Db.coveredKopecks, unchanged]
    rfl
  rw [coveredKopecks_append inserted, total_eq_zero, Nat.add_zero]
  intro new listed
  refine decide_eq_false fun about => ?_
  rcases List.mem_map.mp listed with ⟨⟨covers, allocation⟩, found, rfl⟩
  rcases coverage_within found with ⟨covered, candidate, -, -⟩
  have theirs := mem_outstanding.mp candidate
  -- the other call would be for the same two, and wait
  have unique : Unique LessonCompletion.id before.completions := goodBefore.1 ▸ tables.unique
  have equal : covers = row := List.inj_on_of_nodup_map unique theirs.1 member about
  have both := equal ▸ theirs.2.1
  simp only [asked, Bool.and_eq_true, decide_eq_true_eq] at both chosen
  cases read : before.slot? row.slotId with
  | none =>
    rw [read] at chosen
    cases chosen.1.2
  | some slot =>
    simp only [read, Option.any_some, decide_eq_true_eq] at both chosen
    have learner := Option.some.inj (both.1.2.symm.trans chosen.1.2)
    have pair := serialised other session (both.1.1.symm.trans chosen.1.1) learner
    exact WriteLocked.excludes locked compatible (pair ▸ lockedToo)

theorem fifo_endSettling {session : Nat} {held : List Lock} {pending : List Write} {db : Db}
    (pass : SettlePass) (reply : Reply) :
    (fifoContract calls first).Safe store (fun _ _ => True) session
      (Program.endSettling pass (.done reply)) held pending db :=
  Contract.Safe.call _ (Contract.Stable.const session held True) trivial
    (fun _ _ good _ _ => ⟨Good.same good rfl (fun _ _ => rfl) rfl, Or.inl rfl⟩)
    fun _ _ _ _ _ => trivial

theorem fifo_insertCoverage {session : Nat} {held : List Lock} {pending : List Write} {db : Db}
    {settlementId : RowId} {onError : Program} {covers : List (LessonCompletion × Nat)}
    {next : List RowId -> Program} {fact : Db -> Prop}
    (stable : ∀ held_, (∀ lock, lock ∈ held -> lock ∈ held_) ->
      (fifoContract calls first).Stable store session held_ fact) (start : fact db)
    (good : (fifoContract calls first).Good db)
    (failed : ∀ now, (fifoContract calls first).Safe store (fun _ _ => True) session
      onError [] [] now)
    (went : ∀ locks coveredIds now, fact now -> (fifoContract calls first).Good now ->
      (fifoContract calls first).Safe store (fun _ _ => True) session (next coveredIds)
        (locks ++ held)
        (pending ++ covers.map fun covered =>
          .settlementCompletion ⟨settlementId, covered.1.id, covered.2⟩) now) :
    (fifoContract calls first).Safe store (fun _ _ => True) session
      (insertCoverage settlementId onError covers next) held pending db := by
  induction covers generalizing held pending db next with
  | nil =>
    have here := went [] [] db start good
    rwa [List.map_nil, List.append_nil] at here
  | cons covered rest extend =>
    rcases covered with ⟨completion, allocation⟩
    refine Program.Safe.checked fact (stable held fun _ member => member) start
      (fun now _ _ => failed now) fun now holds good _ => ?_
    refine extend (fun held_ wider => stable held_ fun lock member =>
      wider lock (List.mem_append_right _ member)) holds good fun locks coveredIds last holds
        good => ?_
    rw [← List.append_assoc, List.append_assoc pending]
    exact went _ _ last holds good

theorem applyAll_settlementCompletions (rows : List SettlementCompletion) (db : Db) :
    store.applyAll db (rows.map Write.settlementCompletion) =
      { db with settlementCompletions := db.settlementCompletions ++ rows } := by
  induction rows generalizing db with
  | nil => rw [List.map_nil, Store.applyAll_nil, List.append_nil]
  | cons row rest extend =>
    rw [List.map_cons, Store.applyAll_cons, extend]
    simp [Db.apply]

theorem fifo_kept (tables : CompletionTables first) {session : Nat} {held : List Lock}
    (locked : WriteLocked held (calls session).pair) {now : Db} (row : LessonSettlement)
    (good : (fifoContract calls first).Good now) :
    let last := store.applyAll now ([.settlement row] ++
      ((calls session).rows session now).map Write.settlementCompletion ++
        [.settling (.delete (calls session).pass)])
    (fifoContract calls first).Good last ∧
      (fifoContract calls first).Guarantee session held now last := by
  intro last
  have wrote : last = { now with
      settlements := now.settlements ++ [row]
      settlementCompletions := now.settlementCompletions ++ (calls session).rows session now
      settling := (Change.delete (calls session).pass).apply SettlePass.session now.settling } := by
    simp only [last, Store.applyAll_append, applyAll_settlementCompletions]
    rfl
  have inserted : last.settlementCompletions =
      now.settlementCompletions ++ (calls session).rows session now := by rw [wrote]
  have unique : Unique LessonCompletion.id now.completions := good.1 ▸ tables.unique
  refine ⟨⟨?_, fun row member => ?_, fun row member => ?_⟩, Or.inr ⟨locked, inserted⟩⟩
  · rw [wrote]
    exact good.1
  · rw [wrote]
    exact good.2.1 row member
  · have capped := (settledFifo unique inserted).capped row (good.1 ▸ member)
    have before := good.2.2 row member
    omega

theorem fifo_settleLessons (tables : CompletionTables first) (serialised : Serialised calls)
    (session : Nat) (db : Db) :
    (fifoContract calls first).Safe store (fun _ _ => True) session
      (Program.settleLessons session (calls session).request (calls session).pass) [] [] db := by
  have ended : ∀ pass reply held now, (fifoContract calls first).Safe store
      (fun _ _ => True) session (Program.endSettling pass (.done reply)) held [] now :=
    fun pass reply held now => fifo_endSettling pass reply
  have still : ∀ held, (fifoContract calls first).Stable store session held fun _ => True :=
    fun held => Contract.Stable.const session held True
  unfold Program.settleLessons
  extract_lets onError
  have failed : ∀ now, (fifoContract calls first).Safe store (fun _ _ => True) session
    onError [] [] now := fun now => ended _ _ _ now
  refine Program.Safe.begin _ (still _) trivial (fun now _ _ => failed now) fun begun _ _ => ?_
  refine Program.Safe.locking _ (still _) trivial (fun now _ _ => failed now) fun now _ _ => ?_
  refine Program.Safe.query _ (still _) trivial (fun now _ _ => failed now) fun read _ good => ?_
  extract_lets candidates
  have stable : ∀ held, (∀ lock, lock ∈ [(calls session).pair.forUpdate] ->
      lock ∈ held) -> (fifoContract calls first).Stable store session held fun db =>
        outstanding db (calls session).request = candidates := fun held wider =>
    outstanding_stable tables serialised (WriteLocked.head_update.mono wider) candidates
  split
  · refine Program.Safe.execute _ (stable _ fun _ member => member) rfl (fun now _ _ => failed now)
      fun now same good => ?_
    rw [coverCandidates_inserts]
    refine fifo_insertCoverage (fun held wider => stable held fun lock member =>
      wider lock member) same good failed fun locks coveredIds now same good => ?_
    have wider : ∀ lock, lock ∈ [(calls session).pair.forUpdate] ->
        lock ∈ locks ++ [(calls session).pair.forUpdate] :=
      fun lock member => List.mem_append_right locks member
    refine Program.Safe.execute _ (stable _ wider) same (fun now _ _ => failed now)
      fun now same good => ?_
    refine Contract.Safe.commit _ (stable _ wider) same (fun last same good => ?_)
      (fun _ _ _ => trivial) (fun now _ _ => failed now) fun now _ _ => failed _
    let row : LessonSettlement :=
      { id := .minted session 0
        learnerAccountId := (calls session).request.learnerId.id
        teacherId := (calls session).request.teacherId
        amountKopecks := (calls session).pass.amountKopecks
        markedByAccountId := (calls session).request.teacherId
        createdAt := begun.clock }
    have kept := fifo_kept tables (WriteLocked.head_update.mono wider) row good
    rw [SettleCall.rows, coverageRows, same, List.map_map] at kept
    exact kept
  · exact Contract.Safe.rollback _ (still _) trivial fun now _ _ => ended _ _ _ now

/-- Whatever the calls, in whatever order their steps come: a step of a run inserts nothing, or
it is the commit of a call, which settles its payment by the rules, for the completions it asks
for.  No completion is ever covered beyond its amount, unless it was so at the start. -/
theorem settlements_fifo (tables : CompletionTables first) (serialised : Serialised calls)
    {state next : ReadCommitted.State Db Lock Write Label GatewayAnswer Reply}
    (run : Reaches store (fun _ _ => True)
      (State.start first fun session =>
        Program.settleLessons session (calls session).request (calls session).pass) state)
    {event : ReadCommitted.Event Drift GatewayAnswer}
    (stepped : step store state event = some next) :
    (next.db.settlementCompletions = state.db.settlementCompletions ∨ ∃ session, SettledFifo
        (fun row => asked state.db (calls session).request row = true)
        (calls session).pass.amountKopecks
        (unallocated (outstanding state.db (calls session).request)
          (calls session).pass.amountKopecks) state.db next.db) ∧
      ∀ row, row ∈ next.db.completions ->
        next.db.coveredKopecks row.id ≤ max row.amountKopecks (first.coveredKopecks row.id) := by
  have good : (fifoContract calls first).Good first :=
    ⟨rfl, fun _ _ => rfl, fun _ _ => Nat.le_max_right _ _⟩
  have steady : (fifoContract calls first).Steady store := fifo_steady tables
  have sound : (fifoContract calls first).Sound store (fun _ _ => True)
      (State.start first fun session =>
        Program.settleLessons session (calls session).request (calls session).pass) :=
    Contract.Sound.start good fun session => fifo_settleLessons tables serialised session first
  have here := (sound.reaches steady run).1
  rcases (here.step steady event (permitted_always state event) stepped).2 with
    ⟨goodBefore, goodAfter, moved⟩
  refine ⟨?_, fun row member => goodAfter.2.2 row (goodAfter.1 ▸ member)⟩
  rcases moved with unchanged | ⟨change, drifted⟩ | ⟨session, held, kept⟩
  · exact Or.inl (by rw [unchanged])
  · rw [drifted]
    exact Or.inl (drift_untouched change state.db).settlementCompletions
  rcases kept with unchanged | ⟨-, inserted⟩
  · exact Or.inl unchanged
  · have unique : Unique LessonCompletion.id state.db.completions :=
      goodBefore.1 ▸ tables.unique
    exact Or.inr ⟨session, settledFifo unique inserted⟩

end Runs

/-- Two lessons of a teacher with a learner, a day apart, and nothing is paid yet. -/
private def twoLessons : Db :=
  let slot (number : Nat) : LessonSlot :=
    Program.bookedSlot (.seeded number) (.seeded 1) (.seeded 2) 0 60 none 0
  let completion (number completedAt : Nat) : LessonCompletion :=
    ⟨.seeded (number + 10), .seeded number, .seeded 1, false, 100000, completedAt, none, none, 0⟩
  { Db.empty with
    slots := [slot 3, slot 4]
    completions := [completion 3 0, completion 4 86400000] }

private def payFor (completionIds : List UuidText) : SettleCall where
  request := ⟨.seeded 1, .canonical (.seeded 2), none, completionIds⟩
  pass := ⟨0, .seeded 1, .seeded 2, 100000⟩

private theorem twoLessons_tables : CompletionTables twoLessons where
  unique := by
    rw [Tables.Unique]
    decide
  slots := by
    intro row member
    revert row
    decide

private def paysLater
    (state : ReadCommitted.State Db Lock Write Label GatewayAnswer Reply) : Bool :=
  state.db.completions = twoLessons.completions && state.db.slots = twoLessons.slots &&
    state.db.settlementCompletions = [] &&
    (step store state (.run 0 (.unsent ""))).any fun next =>
      next.db.coveredKopecks (.seeded 14) = 100000 && next.db.coveredKopecks (.seeded 13) = 0

/-- A teacher who names the later lesson settles it before the earlier one. -/
theorem later_lesson_first : ¬ ∀ (calls : Nat -> SettleCall) (first : Db)
    (state next : ReadCommitted.State Db Lock Write Label GatewayAnswer Reply)
    (event : ReadCommitted.Event Drift GatewayAnswer), CompletionTables first -> Serialised calls ->
      Reaches store (fun _ _ => True) (State.start first fun session =>
        Program.settleLessons session (calls session).request (calls session).pass) state ->
      step store state event = some next ->
        next.db.settlementCompletions = state.db.settlementCompletions ∨ ∃ session left, SettledFifo
            (fun row => asked state.db { (calls session).request with completionIds := [] } row =
              true)
            (calls session).pass.amountKopecks left state.db next.db := by
  intro fifo
  let call := payFor [.canonical (.seeded 14)]
  rcases exists_state_of_play store (State.start twoLessons fun session =>
    Program.settleLessons session call.request call.pass) (Event.steps 0 6 (.unsent ""))
    paysLater (by decide +kernel) with ⟨state, run, pays⟩
  simp only [paysLater, Bool.and_eq_true, decide_eq_true_eq] at pays
  rcases pays with ⟨⟨⟨completions, slots⟩, nothing_yet⟩, paid⟩
  cases stepped : step store state (.run 0 (.unsent "")) with
  | none =>
    rw [stepped] at paid
    cases paid
  | some next =>
    rw [stepped, Option.any_some, Bool.and_eq_true, decide_eq_true_eq, decide_eq_true_eq] at paid
    have unpaid : ∀ completionId, state.db.coveredKopecks completionId = 0 := by
      intro completionId
      rw [Db.coveredKopecks, nothing_yet]
      rfl
    rcases fifo (fun _ => call) twoLessons state next (.run 0 (.unsent "")) twoLessons_tables
      (fun _ _ _ _ => rfl) run stepped with unchanged | ⟨session, left, settled⟩
    · rw [Db.coveredKopecks, unchanged] at paid
      exact absurd ((unpaid (.seeded 14)).symm.trans paid.1) (by decide)
    · have chosen : ∀ row, row ∈ twoLessons.completions ->
          asked state.db { call.request with completionIds := [] } row = true := by
        intro row member
        have read (slotId : RowId) : state.db.slot? slotId = twoLessons.slot? slotId := by
          rw [Db.slot?, slots]
          rfl
        rw [asked, read]
        revert row
        decide
      have later : (⟨.seeded 14, .seeded 4, .seeded 1, false, 100000, 86400000, none, none, 0⟩ :
          LessonCompletion) ∈ twoLessons.completions := by decide
      have earlier : (⟨.seeded 13, .seeded 3, .seeded 1, false, 100000, 0, none, none, 0⟩ :
          LessonCompletion) ∈ twoLessons.completions := by decide
      have whole := settled.oldest _ _ (completions ▸ later) (completions ▸ earlier)
        (chosen _ later) (chosen _ earlier) (by decide)
        (by rw [unpaid, paid.1]; decide)
      rw [paid.2] at whole
      revert whole
      decide

private def payEarlier : SettleCall :=
  payFor [.canonical (.seeded 13)]

/-- One who names the earlier lesson settles that one. -/
theorem earlier_lesson_first : ∃ state next :
    ReadCommitted.State Db Lock Write Label GatewayAnswer Reply,
    next.db.coveredKopecks (.seeded 13) = 100000 ∧
      (next.db.settlementCompletions = state.db.settlementCompletions ∨ ∃ _ : Nat, SettledFifo
          (fun row => asked state.db payEarlier.request row = true) payEarlier.pass.amountKopecks
          (unallocated (outstanding state.db payEarlier.request)
            payEarlier.pass.amountKopecks) state.db next.db) := by
  rcases exists_state_of_play store (State.start twoLessons fun session =>
    Program.settleLessons session payEarlier.request payEarlier.pass)
    (Event.steps 0 6 (.unsent ""))
    (fun state => (step store state (.run 0 (.unsent ""))).any fun next =>
      next.db.coveredKopecks (.seeded 13) = 100000) (by decide +kernel) with ⟨state, run, pays⟩
  cases stepped : step store state (.run 0 (.unsent "")) with
  | none =>
    rw [stepped] at pays
    cases pays
  | some next =>
    rw [stepped, Option.any_some, decide_eq_true_eq] at pays
    rcases (@settlements_fifo (fun _ => payEarlier) twoLessons twoLessons_tables
      (fun _ _ _ _ => rfl) state next run _ stepped).1 with unchanged | ⟨session, settled⟩
    · exact ⟨state, next, pays, Or.inl unchanged⟩
    · exact ⟨state, next, pays, Or.inr ⟨session, settled⟩⟩

end Payments

end LevelChannel
