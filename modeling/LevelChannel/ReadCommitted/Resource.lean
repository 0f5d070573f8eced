import LevelChannel.ReadCommitted.Interference

namespace ReadCommitted

open Relation

variable {DB Lock Write Drift Label Choice Result : Type}

/-!
# What a lock protects

Some guarantees of a program are meant for runs in which the database works: no statement
fails, no acknowledgement is lost and no session stops half way.  In such runs a lock can
protect a part of the state.  What is promised of that part holds whenever nobody holds the
lock; who acquires it may rely on the promise and break it, and has to restore it before
the lock goes.

A `Custody` is a contract with such a lock, `Calm` says that a program keeps it, and
`Orderly.reaches` puts the programs together.
-/

/-- Steps and drift, the steps with choices that are `fine`.  Nothing fails. -/
def Event.Calm (fine : Choice -> Prop) : Event Drift Choice -> Prop
  | .run _ choice => fine choice
  | .drift _ => True
  | _ => False

inductive ReachesBy (store : Store DB Lock Write Drift) (kind : Event Drift Choice -> Prop) :
    State DB Lock Write Label Choice Result -> State DB Lock Write Label Choice Result -> Prop
  | refl (state) : ReachesBy store kind state state
  | step {first middle last} (event : Event Drift Choice) :
      ReachesBy store kind first middle -> kind event -> step store middle event = some last ->
        ReachesBy store kind first last

theorem exists_by_of_play (store : Store DB Lock Write Drift) (kind : Event Drift Choice -> Prop)
    (events : List (Event Drift Choice)) (each : ∀ event, event ∈ events -> kind event)
    (fact : DB -> Bool) {first middle : State DB Lock Write Label Choice Result}
    (before : ReachesBy store kind first middle)
    (played : ((play store middle events).any fun last => fact last.db) = true) :
    ∃ last, ReachesBy store kind first last ∧ fact last.db = true := by
  induction events generalizing middle with
  | nil => exact ⟨middle, before, played⟩
  | cons event events extend =>
    rw [play] at played
    cases stepped : step store middle event with
    | none =>
      rw [stepped] at played
      cases played
    | some after =>
      rw [stepped, Option.bind_some] at played
      exact extend (fun next member => each next (List.mem_cons_of_mem _ member))
        (.step event before (each event List.mem_cons_self) stepped) played

/-- A contract, and a lock that protects `Free`. -/
structure Custody (DB Lock : Type) extends Contract DB Lock where
  lock : Lock
  Free : DB -> Prop

namespace Custody

variable (custody : Custody DB Lock) (store : Store DB Lock Write Drift)
  (fine : Choice -> Prop)

/-- A change that a session makes while it holds `held`: it stays within the contract, and
leaves the protected part free if that is all the session may do. -/
structure Keeps (session : Nat) (held : List Lock) (before after : DB) : Prop where
  good : custody.Good after
  kept : custody.Guarantee session held before after
  free : custody.lock ∉ held -> custody.Free before -> custody.Free after

/-- A program keeps the custody from here on, as long as nothing fails. -/
def Calm (session : Nat) : Program DB Lock Write Label Choice Result ->
    List Lock -> List Write -> DB -> Prop
  | .done _, _, _, _ => True
  | .crashed, _, _, _ => True
  | .statement _ locks _ writes next, held, pending, db =>
    ∀ now, custody.Drifts store session held db now -> custody.Good now ->
      (custody.lock ∈ locks -> custody.lock ∉ held -> custody.Free now) ->
        Calm session (next now (store.applyAll now pending)) (locks ++ held)
          (pending ++ writes now (store.applyAll now pending)) now
  | .commit _ next, held, pending, db =>
    ∀ now, custody.Drifts store session held db now -> custody.Good now ->
      let after := store.applyAll now pending
      custody.Keeps session held now after ∧ (custody.lock ∈ held -> custody.Free after) ∧
        Calm session next [] [] after
  | .rollback next, held, _, db =>
    ∀ now, custody.Drifts store session held db now -> custody.Good now ->
      (custody.lock ∈ held -> custody.Free now) ∧ Calm session next [] [] now
  | .call _ writes next, held, pending, db =>
    ∀ now, custody.Drifts store session held db now -> custody.Good now ->
      ∀ choice, fine choice ->
        let after := store.applyAll now (writes now choice)
        custody.Keeps session held now after ∧
          Calm session (next now choice) held pending after

variable {custody store fine}

theorem Calm.drift {session : Nat} {program : Program DB Lock Write Label Choice Result}
    {held : List Lock} {pending : List Write} {before after : DB}
    (calm : custody.Calm store fine session program held pending before)
    (moved : custody.Drifts store session held before after) :
    custody.Calm store fine session program held pending after := by
  cases program with
  | done result => trivial
  | crashed => trivial
  | statement label locks onError writes next =>
    intro now further good
    exact calm now (moved.trans further) good
  | commit onError next =>
    intro now further good
    exact calm now (moved.trans further) good
  | rollback next =>
    intro now further good
    exact calm now (moved.trans further) good
  | call label writes next =>
    intro now further good
    exact calm now (moved.trans further) good

variable (custody store fine) in
/-- The invariant of a run without faults. -/
structure Orderly (state : State DB Lock Write Label Choice Result) : Prop where
  good : custody.Good state.db
  apart : ∀ first second, first ≠ second ->
    store.Compatible (state.held first) (state.held second)
  free : (∀ session, custody.lock ∉ state.held session) -> custody.Free state.db
  calm : ∀ session,
    custody.Calm store fine session (state.sessions session).program
      (state.held session) (state.sessions session).pending state.db

theorem Orderly.start {db : DB} {programs : Nat -> Program DB Lock Write Label Choice Result}
    (good : custody.Good db) (free : custody.Free db)
    (calm : ∀ session, custody.Calm store fine session (programs session) [] [] db) :
    Orderly custody store fine (State.start db programs) where
  good := good
  apart _ _ _ := Store.Compatible.nil_left store _
  free _ := free
  calm := calm

variable {state after : State DB Lock Write Label Choice Result} {session : Nat}

theorem Orderly.disturbs (orderly : Orderly custody store fine state) {other : Nat}
    (different : other ≠ session) {db : DB}
    (keeps : custody.Keeps session (state.held session) state.db db) :
    custody.Drifts store other (state.held other) state.db db :=
  ReflTransGen.single ⟨orderly.good, keeps.good,
    Or.inr ⟨session, state.held session, different.symm, orderly.apart _ _ different, keeps.kept⟩⟩

theorem Orderly.calm_of_ne (orderly : Orderly custody store fine state)
    (after : State DB Lock Write Label Choice Result) {db : DB}
    (moved : db = state.db ∨ custody.Keeps session (state.held session) state.db db)
    (held : after.held = fun other => if other = session then after.held session
      else state.held other)
    (sessions : ∀ other, other ≠ session -> after.sessions other = state.sessions other)
    (committed : after.db = db) {other : Nat} (different : other ≠ session) :
    custody.Calm store fine other (after.sessions other).program (after.held other)
      (after.sessions other).pending after.db := by
  rw [sessions other different, congrFun held other, if_neg different, committed]
  rcases moved with rfl | keeps
  · exact orderly.calm other
  · exact (orderly.calm other).drift (orderly.disturbs different keeps)

theorem Orderly.release (orderly : Orderly custody store fine state) {db : DB}
    {program : Program DB Lock Write Label Choice Result}
    (moved : db = state.db ∨ custody.Keeps session (state.held session) state.db db)
    (restored : custody.lock ∈ state.held session -> custody.Free db)
    (next : custody.Calm store fine session program [] [] db) :
    Orderly custody store fine (State.release { state with db := db } session program) where
  good := by
    rcases moved with rfl | keeps
    · exact orderly.good
    · exact keeps.good
  apart := State.apart_release _ orderly.apart session program
  free := by
    intro nobody
    by_cases mine : custody.lock ∈ state.held session
    · exact restored mine
    · have before : custody.Free state.db := by
        apply orderly.free
        intro other
        by_cases same : other = session
        · exact same ▸ mine
        · have still := nobody other
          rw [State.release_held_of_ne _ same] at still
          exact still
      rcases moved with rfl | keeps
      · exact before
      · exact keeps.free mine before
  calm := by
    intro other
    by_cases same : other = session
    · subst other
      simpa using next
    · apply orderly.calm_of_ne (State.release { state with db := db } session program) moved
        _ (fun _ different => State.release_sessions_of_ne _ different _) rfl same
      ext1 owner
      by_cases own : owner = session
      · rw [if_pos own, own]
      · rw [if_neg own, State.release_held_of_ne _ own]
        rfl

theorem Orderly.resume (orderly : Orderly custody store fine state) {db : DB}
    {locks : List Lock} (admitted : state.admits store session locks = true)
    {program : Program DB Lock Write Label Choice Result} {pending : List Write}
    (moved : db = state.db ∨ custody.Keeps session (state.held session) state.db db)
    (next : custody.Calm store fine session program (locks ++ state.held session) pending db) :
    Orderly custody store fine
      (State.resume (State.grant { state with db := db } session locks) session program
        pending) where
  good := by
    rcases moved with rfl | keeps
    · exact orderly.good
    · exact keeps.good
  apart := State.apart_grant _ orderly.apart admitted
  free := by
    intro nobody
    have mine := nobody session
    rw [State.resume_held, State.grant_held_self, List.mem_append, not_or] at mine
    have before : custody.Free state.db := by
      apply orderly.free
      intro other
      by_cases same : other = session
      · exact same ▸ mine.2
      · have still := nobody other
        rw [State.resume_held, State.grant_held_of_ne _ same] at still
        exact still
    rcases moved with rfl | keeps
    · exact before
    · exact keeps.free mine.2 before
  calm := by
    intro other
    by_cases same : other = session
    · subst other
      rw [State.resume_held, State.grant_held_self, State.resume_sessions_self]
      exact next
    · apply orderly.calm_of_ne
        (State.resume (State.grant { state with db := db } session locks) session program pending)
        moved _ (fun _ different => State.resume_sessions_of_ne _ different _ _) rfl same
      ext1 owner
      by_cases own : owner = session
      · rw [if_pos own, own]
      · rw [if_neg own, State.resume_held, State.grant_held_of_ne _ own]
        rfl

theorem Orderly.acquire (orderly : Orderly custody store fine state)
    (self_conflict : store.conflict custody.lock custody.lock = true) {locks : List Lock}
    (admitted : state.admits store session locks = true) (wanted : custody.lock ∈ locks)
    (new : custody.lock ∉ state.held session) : custody.Free state.db := by
  apply orderly.free
  intro other
  by_cases same : other = session
  · exact same ▸ new
  · exact (state.compatible_of_admits admitted same).not_mem wanted self_conflict

theorem Orderly.step (orderly : Orderly custody store fine state)
    (self_conflict : store.conflict custody.lock custody.lock = true)
    (steady : ∀ change db, custody.Good db -> custody.Good (store.drift change db) ∧
        (custody.Free db -> custody.Free (store.drift change db)))
    (event : Event Drift Choice) (healthy : event.Calm fine)
    (stepped : ReadCommitted.step store state event = some after) :
    Orderly custody store fine after := by
  cases stepped_of_step stepped with
  | @answered session _ _ _ _ _ _ program admitted =>
    have here := orderly.calm session
    rw [program] at here
    exact orderly.resume admitted (Or.inl rfl)
      (here state.db ReflTransGen.refl orderly.good
        (orderly.acquire self_conflict admitted))
  | @committed session _ _ _ program =>
    have here := orderly.calm session
    rw [program] at here
    rcases here state.db ReflTransGen.refl orderly.good with ⟨keeps, restored, going⟩
    exact orderly.release (Or.inr keeps) restored going
  | @rolledBack session _ _ program =>
    have here := orderly.calm session
    rw [program] at here
    rcases here state.db ReflTransGen.refl orderly.good with ⟨restored, going⟩
    exact orderly.release (Or.inl rfl) restored going
  | @called session choice _ _ _ program =>
    have here := orderly.calm session
    rw [program] at here
    rcases here state.db ReflTransGen.refl orderly.good choice healthy with ⟨keeps, going⟩
    have free : state.admits store session [] = true := by
      simp [State.admits]
    exact orderly.resume free (Or.inr keeps) going
  | @drifted change =>
    have moved := steady change state.db orderly.good
    refine ⟨moved.1, orderly.apart, fun nobody => moved.2 (orderly.free nobody), ?_⟩
    intro other
    exact (orderly.calm other).drift
      (ReflTransGen.single ⟨orderly.good, moved.1, Or.inl ⟨change, rfl⟩⟩)
  | failed => cases healthy
  | abandoned => cases healthy
  | unheard => cases healthy
  | stopped => cases healthy

theorem Orderly.reaches {first last : State DB Lock Write Label Choice Result}
    (orderly : Orderly custody store fine first)
    (self_conflict : store.conflict custody.lock custody.lock = true)
    (steady : ∀ change db, custody.Good db -> custody.Good (store.drift change db) ∧
        (custody.Free db -> custody.Free (store.drift change db)))
    (run : ReachesBy store (Event.Calm fine) first last) : Orderly custody store fine last := by
  induction run with
  | refl => exact orderly
  | step event before healthy stepped middle =>
    exact middle.step self_conflict steady event healthy stepped

section Rules

variable {held : List Lock} {pending : List Write} {db : DB} {label : Label} (P : DB -> Prop)

theorem Calm.statement {locks : List Lock}
    {onError : Program DB Lock Write Label Choice Result} {writes next}
    (stable : custody.Stable store session held P) (start : P db)
    (went : ∀ now, P now -> custody.Good now ->
      (custody.lock ∈ locks -> custody.lock ∉ held -> custody.Free now) ->
        custody.Calm store fine session (next now (store.applyAll now pending))
          (locks ++ held) (pending ++ writes now (store.applyAll now pending)) now) :
    custody.Calm store fine session (.statement label locks onError writes next)
      held pending db := by
  intro now moved good free
  exact went now (stable.drifts start moved) good free

theorem Calm.commit {onError next : Program DB Lock Write Label Choice Result}
    (stable : custody.Stable store session held P) (start : P db)
    (kept : ∀ now, P now -> custody.Good now ->
      custody.Keeps session held now (store.applyAll now pending) ∧
        (custody.lock ∈ held -> custody.Free (store.applyAll now pending)))
    (went : ∀ now, P now -> custody.Good now ->
      custody.Calm store fine session next [] [] (store.applyAll now pending)) :
    custody.Calm store fine session (.commit onError next) held pending db := by
  intro now moved good
  have holds := stable.drifts start moved
  exact ⟨(kept now holds good).1, (kept now holds good).2, went now holds good⟩

theorem Calm.call {writes : DB -> Choice -> List Write}
    {next : DB -> Choice -> Program DB Lock Write Label Choice Result}
    (stable : custody.Stable store session held P) (start : P db)
    (kept : ∀ now, P now -> custody.Good now -> ∀ choice, fine choice ->
      custody.Keeps session held now (store.applyAll now (writes now choice)))
    (went : ∀ now, P now -> custody.Good now -> ∀ choice, fine choice ->
      custody.Calm store fine session (next now choice) held pending
        (store.applyAll now (writes now choice))) :
    custody.Calm store fine session (.call label writes next) held pending db := by
  intro now moved good choice allowed
  have holds := stable.drifts start moved
  exact ⟨kept now holds good choice allowed, went now holds good choice allowed⟩

end Rules

end Custody

end ReadCommitted
