import LevelChannel.ReadCommitted.Discipline
import LevelChannel.Schema.Database

namespace LevelChannel

open ReadCommitted Tables

/-!
# Rules for the statements of the application

Which locks keep other writers off a row, and the program rules of the library at
the statement forms the routes are written in.
-/

/-- A lock that lets its holder, and nobody else, change the target. -/
def WriteLocked (held : List Lock) (target : LockTarget) : Prop :=
  ∃ lock, lock ∈ held ∧ lock.target = target ∧
    (lock.mode = .noKeyUpdate ∨ lock.mode = .update)

theorem WriteLocked.head_update {held : List Lock} {target : LockTarget} :
    WriteLocked (target.forUpdate :: held) target :=
  ⟨target.forUpdate, List.mem_cons_self, rfl, Or.inr rfl⟩

theorem WriteLocked.head_noKeyUpdate {held : List Lock} {target : LockTarget} :
    WriteLocked (target.forNoKeyUpdate :: held) target :=
  ⟨target.forNoKeyUpdate, List.mem_cons_self, rfl, Or.inl rfl⟩

theorem WriteLocked.of_mem {held : List Lock} {target : LockTarget}
    (member : target.forUpdate ∈ held) : WriteLocked held target :=
  ⟨target.forUpdate, member, rfl, Or.inr rfl⟩

theorem WriteLocked.mono {held more : List Lock} {target : LockTarget}
    (locked : WriteLocked held target) (wider : ∀ lock, lock ∈ held -> lock ∈ more) :
    WriteLocked more target := by
  rcases locked with ⟨lock, member, same, mode⟩
  exact ⟨lock, wider lock member, same, mode⟩

theorem WriteLocked.append {held : List Lock} {target : LockTarget}
    (locked : WriteLocked held target) (more : List Lock) : WriteLocked (more ++ held) target :=
  locked.mono fun _ member => List.mem_append_right more member

theorem WriteLocked.excludes {mine theirs : List Lock} {target : LockTarget}
    (locked : WriteLocked mine target) (compatible : store.Compatible mine theirs) :
    ¬ WriteLocked theirs target := by
  rintro ⟨other, memberOther, sameOther, modeOther⟩
  rcases locked with ⟨lock, member, same, mode⟩
  have free := compatible lock member other memberOther
  simp only [store, Lock.conflict, same, sameOther, decide_true, Bool.true_and] at free
  rcases mode with mode | mode <;> rcases modeOther with modeOther | modeOther <;>
    simp [mode, modeOther, LockMode.conflicts] at free

@[simp] theorem store_apply (db : Db) (write : Write) : store.apply db write = db.apply write := rfl

@[simp] theorem store_drift (db : Db) (change : Drift) : store.drift change db = db.drift change :=
  rfl

/-! Writes of other tables leave a table as it is. -/

theorem slots_applyAll {writes : List Write} (away : ∀ write, write ∈ writes ->
    write.table ≠ .slots) (db : Db) : (store.applyAll db writes).slots = db.slots := by
  induction writes generalizing db with
  | nil => rfl
  | cons write writes extend =>
    rw [Store.applyAll_cons, extend fun other member => away other (List.mem_cons_of_mem _ member)]
    have other := away write List.mem_cons_self
    cases write with
    | slot change => exact absurd rfl other
    | allocation row =>
      simp only [store_apply, Db.apply, Db.allocate]
      split <;> rfl
    | _ => rfl

theorem completions_applyAll {writes : List Write} (away : ∀ write, write ∈ writes ->
    write.table ≠ .completions) (db : Db) :
    (store.applyAll db writes).completions = db.completions := by
  induction writes generalizing db with
  | nil => rfl
  | cons write writes extend =>
    rw [Store.applyAll_cons, extend fun other member => away other (List.mem_cons_of_mem _ member)]
    have other := away write List.mem_cons_self
    cases write with
    | completion change => exact absurd rfl other
    | allocation row =>
      simp only [store_apply, Db.apply, Db.allocate]
      split <;> rfl
    | _ => rfl

/-! ## The world outside -/

/-- What happens without a session leaves these tables alone. -/
structure Untouched (before after : Db) : Prop where
  clock : before.clock ≤ after.clock
  purchases : after.purchases = before.purchases
  consumptions : after.consumptions = before.consumptions
  completions : after.completions = before.completions
  settlements : after.settlements = before.settlements
  settlementCompletions : after.settlementCompletions = before.settlementCompletions
  erasures : after.erasures = before.erasures
  settling : after.settling = before.settling
  claims : after.claims = before.claims
  claimItems : after.claimItems = before.claimItems

theorem drift_untouched (change : Drift) (db : Db) : Untouched db (db.drift change) := by
  cases change with
  | tick milliseconds =>
    exact ⟨Nat.le_add_right _ _, rfl, rfl, rfl, rfl, rfl, rfl, rfl, rfl, rfl⟩
  | slot row =>
    simp only [Db.drift]
    split <;> exact ⟨Nat.le_refl _, rfl, rfl, rfl, rfl, rfl, rfl, rfl, rfl, rfl⟩
  | allocation row =>
    simp only [Db.drift, Db.allocate]
    split <;> exact ⟨Nat.le_refl _, rfl, rfl, rfl, rfl, rfl, rfl, rfl, rfl, rfl⟩
  | _ => exact ⟨Nat.le_refl _, rfl, rfl, rfl, rfl, rfl, rfl, rfl, rfl, rfl⟩

section Rules

variable {contract : Contract Db Lock} {permits : Label -> Db -> Prop} {session : Nat}
  {held : List Lock} {pending : List Write} {db : Db} (P : Db -> Prop)

theorem Program.Safe.refused {reply : Reply} :
    contract.Safe store permits session (.rollback (.done reply) : Program) held pending db :=
  fun _ _ _ => trivial

theorem Program.Safe.query {onError : Program} {next : Db -> Db -> Program}
    (stable : contract.Stable store session held P) (start : P db)
    (failed : ∀ now, P now -> contract.Good now ->
      contract.Safe store permits session onError [] [] now)
    (went : ∀ now, P now -> contract.Good now ->
      contract.Safe store permits session (next now (store.applyAll now pending))
        held pending now) :
    contract.Safe store permits session (Program.query onError next) held pending db := by
  refine Contract.Safe.statement P stable start failed ?_
  intro now holds good _
  simpa using went now holds good

theorem Program.Safe.begin {onError : Program} {next : Nat -> Program}
    (stable : contract.Stable store session held P) (start : P db)
    (failed : ∀ now, P now -> contract.Good now ->
      contract.Safe store permits session onError [] [] now)
    (went : ∀ now, P now -> contract.Good now ->
      contract.Safe store permits session (next now.clock) held pending now) :
    contract.Safe store permits session (Program.begin onError next) held pending db :=
  Program.Safe.query P stable start failed went

theorem Program.Safe.locking {locks : List Lock} {onError : Program} {next : Db -> Program}
    (stable : contract.Stable store session held P) (start : P db)
    (failed : ∀ now, P now -> contract.Good now ->
      contract.Safe store permits session onError [] [] now)
    (went : ∀ now, P now -> contract.Good now ->
      contract.Safe store permits session (next (store.applyAll now pending))
        (locks ++ held) pending now) :
    contract.Safe store permits session (Program.locking locks onError next) held pending db := by
  refine Contract.Safe.statement P stable start failed ?_
  intro now holds good _
  simpa using went now holds good

theorem Program.Safe.execute {locks : List Lock} {onError : Program} {writes : Db -> List Write}
    {next : Db -> Program} (stable : contract.Stable store session held P) (start : P db)
    (failed : ∀ now, P now -> contract.Good now ->
      contract.Safe store permits session onError [] [] now)
    (went : ∀ now, P now -> contract.Good now ->
      contract.Safe store permits session (next (store.applyAll now pending))
        (locks ++ held) (pending ++ writes (store.applyAll now pending)) now) :
    contract.Safe store permits session (Program.execute locks onError writes next)
      held pending db :=
  Contract.Safe.statement P stable start failed fun now holds good _ => went now holds good

theorem Program.Safe.checked {locks : List Lock} {onError : Program} {rejects : Db -> Bool}
    {writes : Db -> List Write} {next : Db -> Program}
    (stable : contract.Stable store session held P) (start : P db)
    (failed : ∀ now, P now -> contract.Good now ->
      contract.Safe store permits session onError [] [] now)
    (went : ∀ now, P now -> contract.Good now -> rejects (store.applyAll now pending) = false ->
      contract.Safe store permits session (next (store.applyAll now pending))
        (locks ++ held) (pending ++ writes (store.applyAll now pending)) now) :
    contract.Safe store permits session (Program.checked locks onError rejects writes next)
      held pending db := by
  refine Contract.Safe.statement P stable start failed ?_
  intro now holds good _
  by_cases rejected : rejects (store.applyAll now pending) = true
  · simp only [rejected, if_true, List.append_nil]
    exact Contract.Safe.rollback P (stable.append locks) holds failed
  · simp only [rejected, Bool.false_eq_true, if_false]
    exact went now holds good (by simpa using rejected)

theorem Program.Safe.checkedOr {locks : List Lock} {onError : Program}
    {onReject : String -> Program} {raises : Db -> Option String}
    {writes : Db -> List Write} {next : Db -> Program}
    (stable : contract.Stable store session held P) (start : P db)
    (failed : ∀ now, P now -> contract.Good now ->
      contract.Safe store permits session onError [] [] now)
    (rejected : ∀ message now, P now -> contract.Good now ->
      contract.Safe store permits session (onReject message) [] [] now)
    (went : ∀ now, P now -> contract.Good now -> raises (store.applyAll now pending) = none ->
      contract.Safe store permits session (next (store.applyAll now pending))
        (locks ++ held) (pending ++ writes (store.applyAll now pending)) now) :
    contract.Safe store permits session
      (Program.checkedOr locks onError onReject raises writes next) held pending db := by
  refine Contract.Safe.statement P stable start failed ?_
  intro now holds good _
  cases raised : raises (store.applyAll now pending) with
  | some message =>
    simp only [Option.isSome_some, if_true, List.append_nil]
    exact Contract.Safe.rollback P (stable.append locks) holds (rejected message)
  | none =>
    simp only [Option.isSome_none, Bool.false_eq_true, if_false]
    exact went now holds good raised

end Rules

/-! A session that has written nothing yet sees the committed state. -/

section Clean

variable {contract : Contract Db Lock} {permits : Label -> Db -> Prop} {session : Nat}
  {held : List Lock} {db : Db} (P : Db -> Prop)

theorem Program.Safe.query_clean {onError : Program} {next : Db -> Db -> Program}
    (stable : contract.Stable store session held P) (start : P db)
    (failed : ∀ now, P now -> contract.Good now ->
      contract.Safe store permits session onError [] [] now)
    (went : ∀ now, P now -> contract.Good now ->
      contract.Safe store permits session (next now now) held [] now) :
    contract.Safe store permits session (Program.query onError next) held [] db :=
  Program.Safe.query P stable start failed went

theorem Program.Safe.locking_clean {locks : List Lock} {onError : Program} {next : Db -> Program}
    (stable : contract.Stable store session held P) (start : P db)
    (failed : ∀ now, P now -> contract.Good now ->
      contract.Safe store permits session onError [] [] now)
    (went : ∀ now, P now -> contract.Good now ->
      contract.Safe store permits session (next now) (locks ++ held) [] now) :
    contract.Safe store permits session (Program.locking locks onError next) held [] db :=
  Program.Safe.locking P stable start failed went

theorem Program.Safe.execute_clean {locks : List Lock} {onError : Program}
    {writes : Db -> List Write} {next : Db -> Program}
    (stable : contract.Stable store session held P) (start : P db)
    (failed : ∀ now, P now -> contract.Good now ->
      contract.Safe store permits session onError [] [] now)
    (went : ∀ now, P now -> contract.Good now ->
      contract.Safe store permits session (next now) (locks ++ held) (writes now) now) :
    contract.Safe store permits session (Program.execute locks onError writes next) held [] db :=
  Program.Safe.execute P stable start failed went

theorem Program.Safe.checked_clean {locks : List Lock} {onError : Program}
    {rejects : Db -> Bool} {writes : Db -> List Write} {next : Db -> Program}
    (stable : contract.Stable store session held P) (start : P db)
    (failed : ∀ now, P now -> contract.Good now ->
      contract.Safe store permits session onError [] [] now)
    (went : ∀ now, P now -> contract.Good now -> rejects now = false ->
      contract.Safe store permits session (next now) (locks ++ held) (writes now) now) :
    contract.Safe store permits session (Program.checked locks onError rejects writes next)
      held [] db :=
  Program.Safe.checked P stable start failed went

theorem Program.Safe.labelled_clean {label : Label} {onError : Program} {next : Db -> Db -> Program}
    (stable : contract.Stable store session held P) (start : P db)
    (failed : ∀ now, P now -> contract.Good now ->
      contract.Safe store permits session onError [] [] now)
    (went : ∀ now, P now -> contract.Good now -> permits label now ->
      contract.Safe store permits session (next now now) held [] now) :
    contract.Safe store permits session (.statement label [] onError (fun _ _ => []) next)
      held [] db :=
  Contract.Safe.statement P stable start failed went

end Clean

section Obeys

variable {contract : Contract Db Lock} {discipline : Discipline contract store} {session : Nat}

theorem Program.Obeys.query {onError : Program} {next : Db -> Db -> Program}
    (failed : discipline.Obeys session onError)
    (went : ∀ committed own, discipline.Obeys session (next committed own)) :
    discipline.Obeys session (Program.query onError next) :=
  ⟨failed, fun committed own => ⟨Discipline.Lawful.nothing _ _, went committed own⟩⟩

theorem Program.Obeys.begin {onError : Program} {next : Nat -> Program}
    (failed : discipline.Obeys session onError)
    (went : ∀ now, discipline.Obeys session (next now)) :
    discipline.Obeys session (Program.begin onError next) :=
  Program.Obeys.query failed fun _ _ => went _

theorem Program.Obeys.dateNow {onError : Program} {next : Nat -> Program}
    (failed : discipline.Obeys session onError)
    (went : ∀ now, discipline.Obeys session (next now)) :
    discipline.Obeys session (Program.dateNow onError next) :=
  Program.Obeys.query failed fun _ _ => went _

theorem Program.Obeys.locking {locks : List Lock} {onError : Program} {next : Db -> Program}
    (failed : discipline.Obeys session onError)
    (went : ∀ own, discipline.Obeys session (next own)) :
    discipline.Obeys session (Program.locking locks onError next) :=
  ⟨failed, fun _ own => ⟨Discipline.Lawful.nothing _ _, went own⟩⟩

theorem Program.Obeys.execute {locks : List Lock} {onError : Program}
    {writes : Db -> List Write} {next : Db -> Program} (failed : discipline.Obeys session onError)
    (lawful : ∀ own, discipline.Lawful session locks own (writes own))
    (went : ∀ own, discipline.Obeys session (next own)) :
    discipline.Obeys session (Program.execute locks onError writes next) :=
  ⟨failed, fun _ own => ⟨lawful own, went own⟩⟩

theorem Program.Obeys.checked {locks : List Lock} {onError : Program} {rejects : Db -> Bool}
    {writes : Db -> List Write} {next : Db -> Program} (failed : discipline.Obeys session onError)
    (lawful : ∀ own, rejects own = false -> discipline.Lawful session locks own (writes own))
    (went : ∀ own, discipline.Obeys session (next own)) :
    discipline.Obeys session (Program.checked locks onError rejects writes next) := by
  refine ⟨failed, fun _ own => ?_⟩
  by_cases rejected : rejects own = true
  · simp only [rejected, if_true]
    exact ⟨Discipline.Lawful.nothing _ _, failed⟩
  · simp only [rejected, Bool.false_eq_true, if_false]
    exact ⟨lawful own (by simpa using rejected), went own⟩

theorem Program.Obeys.checkedOr {locks : List Lock} {onError : Program}
    {onReject : String -> Program} {raises : Db -> Option String}
    {writes : Db -> List Write} {next : Db -> Program} (failed : discipline.Obeys session onError)
    (rejected : ∀ message, discipline.Obeys session (onReject message))
    (lawful : ∀ own, raises own = none -> discipline.Lawful session locks own (writes own))
    (went : ∀ own, discipline.Obeys session (next own)) :
    discipline.Obeys session (Program.checkedOr locks onError onReject raises writes next) := by
  refine ⟨failed, fun _ own => ?_⟩
  cases raised : raises own with
  | some message =>
    simp only [raised, Option.isSome_some, if_true]
    exact ⟨Discipline.Lawful.nothing _ _, rejected message⟩
  | none =>
    simp only [raised, Option.isSome_none, Bool.false_eq_true, if_false]
    exact ⟨lawful own raised, went own⟩

end Obeys

end LevelChannel
