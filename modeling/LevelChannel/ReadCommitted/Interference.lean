import Mathlib.Logic.Relation
import LevelChannel.ReadCommitted.Execution

namespace ReadCommitted

open Relation

variable {DB Lock Write Drift Label Choice Result : Type}

/-!
# Invariants of interleaved sessions

A property of all interleavings is proved one program at a time.  The parties
agree on a `Contract`: an invariant of the committed state, and a bound on what a
session may change while it holds given locks.  `Safe` says that one program keeps
the contract whatever the others do within it, and `reaches_sound` puts the
programs together.

What a session may rely on is what the others cannot change with locks that are
compatible with its own.  A fact read under a lock therefore stays true up to the
commit exactly when the contract reserves its changes to the holders of that lock.
-/

/-- The rules shared by all sessions.  `Good` holds of every committed state.
`Guarantee session held before after` bounds what the session may change while it
holds the locks `held`. -/
structure Contract (DB Lock : Type) where
  Good : DB -> Prop
  Guarantee : Nat -> List Lock -> DB -> DB -> Prop

namespace Contract

variable (contract : Contract DB Lock) (store : Store DB Lock Write Drift)
  (permits : Label -> DB -> Prop)

/-- One change that the others can make while a session holds `held`. -/
def Disturbs (session : Nat) (held : List Lock) (before after : DB) : Prop :=
  contract.Good before ∧ contract.Good after ∧
    ((∃ change, after = store.drift change before) ∨
      ∃ other theirs, other ≠ session ∧ store.Compatible held theirs ∧
        contract.Guarantee other theirs before after)

/-- Any number of changes by the others. -/
def Drifts (session : Nat) (held : List Lock) : DB -> DB -> Prop :=
  ReflTransGen (contract.Disturbs store session held)

/-- A program keeps the contract from here on, whatever the others do.  The last
argument is the committed state at which this is asserted; each clause first lets
the others move away from it. -/
def Safe (session : Nat) : Program DB Lock Write Label Choice Result ->
    List Lock -> List Write -> DB -> Prop
  | .done _, _, _, _ => True
  | .crashed, _, _, _ => True
  | .statement label locks onError writes next, held, pending, db =>
    ∀ now, contract.Drifts store session held db now -> contract.Good now ->
      Safe session onError [] [] now ∧
        (permits label now ->
          Safe session (next now (store.applyAll now pending)) (locks ++ held)
            (pending ++ writes now (store.applyAll now pending)) now)
  | .commit onError next, held, pending, db =>
    ∀ now, contract.Drifts store session held db now -> contract.Good now ->
      let after := store.applyAll now pending
      contract.Good after ∧ contract.Guarantee session held now after ∧
        Safe session next [] [] after ∧ Safe session onError [] [] now ∧
        Safe session onError [] [] after
  | .rollback next, held, _, db =>
    ∀ now, contract.Drifts store session held db now -> contract.Good now ->
      Safe session next [] [] now
  | .call label writes next, held, pending, db =>
    ∀ now, contract.Drifts store session held db now -> contract.Good now ->
      permits label now -> ∀ choice,
        let after := store.applyAll now (writes now choice)
        contract.Good after ∧ contract.Guarantee session held now after ∧
          Safe session (next now choice) held pending after

variable {contract store permits}

theorem Safe.drift {session : Nat} {program : Program DB Lock Write Label Choice Result}
    {held : List Lock} {pending : List Write} {before after : DB}
    (safe : contract.Safe store permits session program held pending before)
    (moved : contract.Drifts store session held before after) :
    contract.Safe store permits session program held pending after := by
  cases program with
  | done result => trivial
  | crashed => trivial
  | statement label locks onError writes next =>
    intro now further good
    exact safe now (moved.trans further) good
  | commit onError next =>
    intro now further good
    exact safe now (moved.trans further) good
  | rollback next =>
    intro now further good
    exact safe now (moved.trans further) good
  | call label writes next =>
    intro now further good
    exact safe now (moved.trans further) good

/-! ## From programs to runs -/

/-- What the database does by itself keeps the contract: the world moves, and the
sessions that are gone are forgotten. -/
structure Steady (contract : Contract DB Lock) (store : Store DB Lock Write Drift) : Prop where
  drift : ∀ change db, contract.Good db -> contract.Good (store.drift change db)
  close : ∀ session held db, contract.Good db ->
    contract.Good (store.close session db) ∧
      contract.Guarantee session held db (store.close session db)

/-- One change of the committed state in a run that keeps the contract. -/
def Moves (contract : Contract DB Lock) (store : Store DB Lock Write Drift)
    (before after : DB) : Prop :=
  contract.Good before ∧ contract.Good after ∧
    (before = after ∨ (∃ change, after = store.drift change before) ∨
      ∃ session held, contract.Guarantee session held before after)

variable (contract store permits) in
/-- The invariant of a run: the committed state is good, no two sessions hold
conflicting locks, and every session is safe where it stands. -/
structure Sound (state : State DB Lock Write Label Choice Result) : Prop where
  good : contract.Good state.db
  apart : ∀ first second, first ≠ second ->
    store.Compatible (state.held first) (state.held second)
  safe : ∀ session,
    contract.Safe store permits session (state.sessions session).program
      (state.held session) (state.sessions session).pending state.db

theorem Sound.start {db : DB} {programs : Nat -> Program DB Lock Write Label Choice Result}
    (good : contract.Good db)
    (safe : ∀ session, contract.Safe store permits session (programs session) [] [] db) :
    Sound contract store permits (State.start db programs) where
  good := good
  apart _ _ _ := Store.Compatible.nil_left store _
  safe := safe

end Contract

namespace State

variable (state : State DB Lock Write Label Choice Result)

@[simp] theorem resume_db (session : Nat) (program) (pending : List Write) :
    (state.resume session program pending).db = state.db := rfl

@[simp] theorem resume_held (session other : Nat) (program) (pending : List Write) :
    (state.resume session program pending).held other = state.held other := rfl

@[simp] theorem resume_sessions_self (session : Nat) (program) (pending : List Write) :
    (state.resume session program pending).sessions session = ⟨program, pending⟩ :=
  Function.update_self ..

theorem resume_sessions_of_ne {session other : Nat} (different : other ≠ session) (program)
    (pending : List Write) :
    (state.resume session program pending).sessions other = state.sessions other :=
  Function.update_of_ne different ..

@[simp] theorem release_db (session : Nat) (program) :
    (state.release session program).db = state.db := rfl

@[simp] theorem release_sessions_self (session : Nat) (program) :
    (state.release session program).sessions session = ⟨program, []⟩ :=
  Function.update_self ..

theorem release_sessions_of_ne {session other : Nat} (different : other ≠ session) (program) :
    (state.release session program).sessions other = state.sessions other :=
  Function.update_of_ne different ..

@[simp] theorem release_held_self (session : Nat) (program) :
    (state.release session program).held session = [] := by
  simp only [held, release, resume]
  rw [List.filterMap_filter]
  apply List.filterMap_eq_nil_iff.mpr
  intro entry member
  by_cases same : entry.1 = session <;> simp [same]

theorem release_held_of_ne {session other : Nat} (different : other ≠ session) (program) :
    (state.release session program).held other = state.held other := by
  simp only [held, release, resume]
  rw [List.filterMap_filter]
  apply List.filterMap_congr
  intro entry member
  by_cases same : entry.1 = session
  · have other_ne : entry.1 ≠ other := by
      rw [same]
      exact different.symm
    simp [same, different.symm]
  · simp [same]

@[simp] theorem grant_db (session : Nat) (locks : List Lock) :
    (state.grant session locks).db = state.db := rfl

@[simp] theorem grant_sessions (session : Nat) (locks : List Lock) :
    (state.grant session locks).sessions = state.sessions := rfl

@[simp] theorem grant_held_self (session : Nat) (locks : List Lock) :
    (state.grant session locks).held session = locks ++ state.held session := by
  simp only [held, grant, List.filterMap_append, List.filterMap_map]
  congr 1
  have every : ((fun entry : Nat × Lock => if entry.1 = session then some entry.2 else none) ∘
      fun lock => (session, lock)) = some := by
    funext lock
    simp
  rw [every]
  exact List.filterMap_some

theorem grant_held_of_ne {session other : Nat} (different : other ≠ session)
    (locks : List Lock) : (state.grant session locks).held other = state.held other := by
  simp only [held, grant, List.filterMap_append, List.filterMap_map]
  have empty : ((fun entry : Nat × Lock => if entry.1 = other then some entry.2 else none) ∘
      fun lock => (session, lock)) = fun _ => none := by
    funext lock
    simp [different.symm]
  rw [empty]
  simp

theorem compatible_of_admits {store : Store DB Lock Write Drift} {session other : Nat}
    {locks : List Lock} (admitted : state.admits store session locks = true)
    (different : other ≠ session) : store.Compatible locks (state.held other) := by
  intro lock member right held
  simp only [State.held, List.mem_filterMap] at held
  rcases held with ⟨entry, listed, matched⟩
  have owner : entry.1 = other ∧ entry.2 = right := by
    by_cases same : entry.1 = other <;> simp_all
  have free := List.all_eq_true.mp admitted entry listed
  simp only [Bool.or_eq_true, decide_eq_true_eq, List.all_eq_true, Bool.not_eq_true'] at free
  rcases free with mine | free
  · exact absurd (owner.1.symm.trans mine) different
  · rw [← owner.2]
    exact free lock member

section Apart

variable {store : Store DB Lock Write Drift} (apart : ∀ first second, first ≠ second ->
  store.Compatible (state.held first) (state.held second))

include apart

theorem apart_release (session : Nat) (program) (first second : Nat) (different : first ≠ second) :
    store.Compatible ((state.release session program).held first)
      ((state.release session program).held second) := by
  by_cases firstSame : first = session
  · subst first
    rw [release_held_self]
    exact Store.Compatible.nil_left store _
  · by_cases secondSame : second = session
    · subst second
      rw [release_held_self]
      exact (Store.Compatible.nil_left store _).symm
    · rw [release_held_of_ne _ firstSame, release_held_of_ne _ secondSame]
      exact apart first second different

theorem apart_grant {session : Nat} {locks : List Lock}
    (admitted : state.admits store session locks = true) (first second : Nat)
    (different : first ≠ second) : store.Compatible ((state.grant session locks).held first)
      ((state.grant session locks).held second) := by
  by_cases firstSame : first = session
  · subst first
    rw [grant_held_self, grant_held_of_ne _ different.symm]
    intro left member right memberRight
    rcases List.mem_append.mp member with new | old
    · exact state.compatible_of_admits admitted different.symm left new right memberRight
    · exact apart _ _ different left old right memberRight
  · by_cases secondSame : second = session
    · subst second
      rw [grant_held_self, grant_held_of_ne _ different]
      apply Store.Compatible.symm
      intro left member right memberRight
      rcases List.mem_append.mp member with new | old
      · exact state.compatible_of_admits admitted different left new right memberRight
      · exact apart _ _ different.symm left old right memberRight
    · rw [grant_held_of_ne _ firstSame, grant_held_of_ne _ secondSame]
      exact apart first second different

end Apart

end State

namespace Contract

variable {contract : Contract DB Lock} {store : Store DB Lock Write Drift}
  {permits : Label -> DB -> Prop}

theorem Sound.disturbs {state : State DB Lock Write Label Choice Result}
    (sound : Sound contract store permits state) {session other : Nat}
    (different : other ≠ session) {after : DB} (good : contract.Good after)
    (kept : contract.Guarantee session (state.held session) state.db after) :
    contract.Drifts store other (state.held other) state.db after :=
  ReflTransGen.single ⟨sound.good, good,
    Or.inr ⟨session, state.held session, different.symm, sound.apart _ _ different, kept⟩⟩

theorem Sound.release {state : State DB Lock Write Label Choice Result}
    (sound : Sound contract store permits state) {session : Nat} {after : DB}
    {program : Program DB Lock Write Label Choice Result} (good : contract.Good after)
    (moved : after = state.db ∨ contract.Guarantee session (state.held session) state.db after)
    (next : contract.Safe store permits session program [] [] after) :
    Sound contract store permits (State.release { state with db := after } session program) where
  good := good
  apart := State.apart_release _ sound.apart session program
  safe := by
    intro other
    by_cases same : other = session
    · subst other
      simpa using next
    · rw [State.release_held_of_ne _ same, State.release_sessions_of_ne _ same]
      rcases moved with unchanged | kept
      · subst unchanged
        exact sound.safe other
      · exact (sound.safe other).drift (sound.disturbs same good kept)

theorem Sound.resume {state : State DB Lock Write Label Choice Result}
    (sound : Sound contract store permits state) {session : Nat} {after : DB}
    {locks : List Lock} (admitted : state.admits store session locks = true)
    {program : Program DB Lock Write Label Choice Result} {pending : List Write}
    (good : contract.Good after) (moved : after = state.db ∨
      contract.Guarantee session (state.held session) state.db after)
    (next : contract.Safe store permits session program (locks ++ state.held session)
      pending after) : Sound contract store permits
      (State.resume (State.grant { state with db := after } session locks) session program
        pending) where
  good := good
  apart := State.apart_grant _ sound.apart admitted
  safe := by
    intro other
    by_cases same : other = session
    · subst other
      rw [State.resume_held, State.grant_held_self, State.resume_sessions_self]
      exact next
    · rw [State.resume_held, State.grant_held_of_ne _ same, State.resume_sessions_of_ne _ same]
      rcases moved with unchanged | kept
      · subst unchanged
        exact sound.safe other
      · exact (sound.safe other).drift (sound.disturbs same good kept)

theorem Sound.step {state after : State DB Lock Write Label Choice Result}
    (sound : Sound contract store permits state) (steady : Steady contract store)
    (event : Event Drift Choice) (allowed : Permitted permits state event)
    (stepped : ReadCommitted.step store state event = some after) :
    Sound contract store permits after ∧ Moves contract store state.db after.db := by
  have still : Moves contract store state.db state.db := ⟨sound.good, sound.good, Or.inl rfl⟩
  cases stepped_of_step stepped with
  | @answered session _ _ _ _ _ _ program admitted =>
    have here := sound.safe session
    simp only [Permitted, program] at allowed here
    have going := (here state.db ReflTransGen.refl sound.good).2 allowed
    exact ⟨sound.resume admitted sound.good (Or.inl rfl) going, still⟩
  | @committed session _ _ _ program =>
    have here := sound.safe session
    rw [program] at here
    rcases here state.db ReflTransGen.refl sound.good with ⟨good, kept, going, -, -⟩
    exact ⟨sound.release good (Or.inr kept) going,
      sound.good, good, Or.inr (Or.inr ⟨session, _, kept⟩)⟩
  | @rolledBack session _ _ program =>
    have here := sound.safe session
    rw [program] at here
    exact ⟨sound.release sound.good (Or.inl rfl) (here state.db ReflTransGen.refl sound.good),
      still⟩
  | @called session choice _ _ _ program =>
    have here := sound.safe session
    simp only [Permitted, program] at allowed here
    rcases here state.db ReflTransGen.refl sound.good allowed choice with ⟨good, kept, going⟩
    have free : state.admits store session [] = true := by
      simp [State.admits]
    exact ⟨sound.resume free good (Or.inr kept) going,
      sound.good, good, Or.inr (Or.inr ⟨session, _, kept⟩)⟩
  | @failed session _ _ _ _ _ program =>
    have here := sound.safe session
    rw [program] at here
    exact ⟨sound.release sound.good (Or.inl rfl)
      (here state.db ReflTransGen.refl sound.good).1, still⟩
  | @abandoned session _ _ program =>
    have here := sound.safe session
    rw [program] at here
    rcases here state.db ReflTransGen.refl sound.good with ⟨-, -, -, going, -⟩
    exact ⟨sound.release sound.good (Or.inl rfl) going, still⟩
  | @unheard session _ _ program =>
    have here := sound.safe session
    rw [program] at here
    rcases here state.db ReflTransGen.refl sound.good with ⟨good, kept, -, -, going⟩
    exact ⟨sound.release good (Or.inr kept) going,
      sound.good, good, Or.inr (Or.inr ⟨session, _, kept⟩)⟩
  | @stopped session =>
    rcases steady.close session (state.held session) state.db sound.good with ⟨good, kept⟩
    exact ⟨sound.release good (Or.inr kept) trivial,
      sound.good, good, Or.inr (Or.inr ⟨session, _, kept⟩)⟩
  | @drifted change =>
    have good := steady.drift change state.db sound.good
    refine ⟨⟨good, sound.apart, ?_⟩, sound.good, good, Or.inr (Or.inl ⟨change, rfl⟩)⟩
    intro other
    exact (sound.safe other).drift
      (ReflTransGen.single ⟨sound.good, good, Or.inl ⟨change, rfl⟩⟩)

theorem Sound.reaches {first last : State DB Lock Write Label Choice Result}
    (sound : Sound contract store permits first) (steady : Steady contract store)
    (run : Reaches store permits first last) : Sound contract store permits last ∧
      ReflTransGen (Moves contract store) first.db last.db := by
  induction run with
  | refl => exact ⟨sound, ReflTransGen.refl⟩
  | step event before allowed stepped reached =>
    rcases reached with ⟨middle, moved⟩
    rcases middle.step steady event allowed stepped with ⟨last, move⟩
    exact ⟨last, moved.tail move⟩

/-! ## Rules for one program -/

/-- The others cannot make `P` false while the session holds `held`. -/
def Stable (contract : Contract DB Lock) (store : Store DB Lock Write Drift) (session : Nat)
    (held : List Lock) (P : DB -> Prop) : Prop :=
  ∀ before after, P before -> contract.Disturbs store session held before after -> P after

theorem Stable.drifts {session : Nat} {held : List Lock} {P : DB -> Prop}
    (stable : Stable contract store session held P) {before after : DB} (start : P before)
    (moved : contract.Drifts store session held before after) : P after := by
  induction moved with
  | refl => exact start
  | tail _ disturbed holds => exact stable _ _ holds disturbed

theorem Stable.mono {session : Nat} {held more : List Lock} {P : DB -> Prop}
    (stable : Stable contract store session held P)
    (wider : ∀ lock, lock ∈ held -> lock ∈ more) : Stable contract store session more P := by
  rintro before after holds
    ⟨goodBefore, goodAfter, change | ⟨other, theirs, different, apart, kept⟩⟩
  · exact stable before after holds ⟨goodBefore, goodAfter, Or.inl change⟩
  · refine stable before after holds
      ⟨goodBefore, goodAfter, Or.inr ⟨other, theirs, different, ?_, kept⟩⟩
    intro lock member
    exact apart lock (wider lock member)

theorem Stable.append {session : Nat} {held : List Lock} {P : DB -> Prop}
    (stable : Stable contract store session held P) (more : List Lock) :
    Stable contract store session (more ++ held) P :=
  stable.mono fun _ member => List.mem_append_right more member

theorem Stable.and {session : Nat} {held : List Lock} {P Q : DB -> Prop}
    (first : Stable contract store session held P) (second : Stable contract store session held Q) :
    Stable contract store session held (fun db => P db ∧ Q db) := by
  intro before after both disturbed
  exact ⟨first before after both.1 disturbed, second before after both.2 disturbed⟩

theorem Stable.all {session : Nat} {held : List Lock} {Index : Sort*} {P : Index -> DB -> Prop}
    (each : ∀ index, Stable contract store session held (P index)) :
    Stable contract store session held (fun db => ∀ index, P index db) := by
  intro before after every disturbed index
  exact each index before after (every index) disturbed

theorem Stable.const (session : Nat) (held : List Lock) (fact : Prop) :
    Stable contract store session held (fun _ => fact) := by
  intro before after holds _
  exact holds

section Rules

variable {session : Nat} {held : List Lock} {pending : List Write} {db : DB} (P : DB -> Prop)

theorem Safe.statement {label : Label} {locks : List Lock}
    {onError : Program DB Lock Write Label Choice Result} {writes next}
    (stable : Stable contract store session held P) (start : P db)
    (failed : ∀ now, P now -> contract.Good now ->
      contract.Safe store permits session onError [] [] now)
    (went : ∀ now, P now -> contract.Good now -> permits label now ->
      contract.Safe store permits session (next now (store.applyAll now pending))
        (locks ++ held) (pending ++ writes now (store.applyAll now pending)) now) :
    contract.Safe store permits session (.statement label locks onError writes next)
      held pending db := by
  intro now moved good
  have holds := stable.drifts start moved
  exact ⟨failed now holds good, went now holds good⟩

theorem Safe.commit {onError next : Program DB Lock Write Label Choice Result}
    (stable : Stable contract store session held P) (start : P db)
    (kept : ∀ now, P now -> contract.Good now -> contract.Good (store.applyAll now pending) ∧
        contract.Guarantee session held now (store.applyAll now pending))
    (went : ∀ now, P now -> contract.Good now ->
      contract.Safe store permits session next [] [] (store.applyAll now pending))
    (failed : ∀ now, P now -> contract.Good now ->
      contract.Safe store permits session onError [] [] now)
    (lost : ∀ now, P now -> contract.Good now ->
      contract.Safe store permits session onError [] [] (store.applyAll now pending)) :
    contract.Safe store permits session (.commit onError next) held pending db := by
  intro now moved good
  have holds := stable.drifts start moved
  exact ⟨(kept now holds good).1, (kept now holds good).2, went now holds good,
    failed now holds good, lost now holds good⟩

theorem Safe.rollback {next : Program DB Lock Write Label Choice Result}
    (stable : Stable contract store session held P) (start : P db)
    (went : ∀ now, P now -> contract.Good now ->
      contract.Safe store permits session next [] [] now) :
    contract.Safe store permits session (.rollback next) held pending db := by
  intro now moved good
  exact went now (stable.drifts start moved) good

theorem Safe.call {label : Label} {writes : DB -> Choice -> List Write}
    {next : DB -> Choice -> Program DB Lock Write Label Choice Result}
    (stable : Stable contract store session held P) (start : P db)
    (kept : ∀ now, P now -> contract.Good now -> permits label now -> ∀ choice,
      contract.Good (store.applyAll now (writes now choice)) ∧
        contract.Guarantee session held now (store.applyAll now (writes now choice)))
    (went : ∀ now, P now -> contract.Good now -> permits label now -> ∀ choice,
      contract.Safe store permits session (next now choice) held pending
        (store.applyAll now (writes now choice))) :
    contract.Safe store permits session (.call label writes next) held pending db := by
  intro now moved good allowed choice
  have holds := stable.drifts start moved
  exact ⟨(kept now holds good allowed choice).1, (kept now holds good allowed choice).2,
    went now holds good allowed choice⟩

end Rules

end Contract

/-- Every write the program can ever make satisfies `ok`. -/
def Program.Emits (ok : Write -> Prop) : Program DB Lock Write Label Choice Result -> Prop
  | .done _ => True
  | .crashed => True
  | .statement _ _ onError writes next =>
    onError.Emits ok ∧ ∀ committed own,
      (∀ write, write ∈ writes committed own -> ok write) ∧ (next committed own).Emits ok
  | .commit onError next => onError.Emits ok ∧ next.Emits ok
  | .rollback next => next.Emits ok
  | .call _ writes next => ∀ committed choice,
      (∀ write, write ∈ writes committed choice -> ok write) ∧
        (next committed choice).Emits ok

namespace Contract

variable {contract : Contract DB Lock} {store : Store DB Lock Write Drift}
  {permits : Label -> DB -> Prop}

theorem Safe.of_emits {ok : Write -> Prop} {session : Nat}
    (quiet : ∀ held db writes, (∀ write, write ∈ writes -> ok write) ->
      contract.Good db -> contract.Good (store.applyAll db writes) ∧
        contract.Guarantee session held db (store.applyAll db writes))
    {program : Program DB Lock Write Label Choice Result} (emits : program.Emits ok)
    {pending : List Write} (clean : ∀ write, write ∈ pending -> ok write)
    (held : List Lock) (db : DB) : contract.Safe store permits session program held pending db := by
  have none_pending : ∀ write : Write, write ∈ [] -> ok write := by
    intro write member
    cases member
  induction program generalizing held pending db with
  | done result => trivial
  | crashed => trivial
  | statement label locks onError writes next onErrorSafe nextSafe =>
    intro now _ _
    refine ⟨onErrorSafe emits.1 none_pending _ _, fun _ => ?_⟩
    have queued := emits.2 now (store.applyAll now pending)
    refine nextSafe _ _ queued.2 ?_ _ _
    intro write member
    rcases List.mem_append.mp member with old | new
    · exact clean write old
    · exact queued.1 write new
  | commit onError next onErrorSafe nextSafe =>
    intro now _ good
    have kept := quiet held now pending clean good
    exact ⟨kept.1, kept.2, nextSafe emits.2 none_pending _ _,
      onErrorSafe emits.1 none_pending _ _, onErrorSafe emits.1 none_pending _ _⟩
  | rollback next nextSafe =>
    intro now _ _
    exact nextSafe emits none_pending _ _
  | call label writes next nextSafe =>
    intro now _ good _ choice
    have made := emits now choice
    have kept := quiet held now _ made.1 good
    exact ⟨kept.1, kept.2, nextSafe _ _ made.2 clean _ _⟩

end Contract

end ReadCommitted
