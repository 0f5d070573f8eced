import LevelChannel.ReadCommitted.Sessions

namespace ReadCommitted

/-!
# What sessions answer

What a session answers is often about the rows it has committed.  Whether the answer is
right depends on its program, on what it has queued, and on the committed state, which
other sessions change meanwhile.

A fact about a session and the committed state lasts if the session's own steps pass it on
and nobody's changes take it away.  The weakest such fact that ends in a right answer is
given by recursion over the program, with one rule for each kind of step.
-/

variable {DB Lock Write Drift Label Choice Result : Type}

/-- A fact about a session and the committed state that passes along the steps of the
session, where a run permits them, and that every change of the committed state spares. -/
structure Lasting (store : Store DB Lock Write Drift) (permits : Label -> DB -> Prop)
    (changes : DB -> DB -> Prop)
    (holds : DB -> List Write -> Program DB Lock Write Label Choice Result -> Prop) : Prop where
  spared : ∀ {before after pending program}, changes before after ->
    holds before pending program -> holds after pending program
  crashed : ∀ db, holds db [] .crashed
  failed : ∀ {db pending label locks onError writes next},
    holds db pending (.statement label locks onError writes next) -> holds db [] onError
  answered : ∀ {db pending label locks onError writes next}, permits label db ->
    holds db pending (.statement label locks onError writes next) ->
      holds db (pending ++ writes db (store.applyAll db pending))
        (next db (store.applyAll db pending))
  abandoned : ∀ {db pending onError next}, holds db pending (.commit onError next) ->
    holds db [] onError
  committed : ∀ {db pending onError next}, holds db pending (.commit onError next) ->
    changes db (store.applyAll db pending) ∧ holds (store.applyAll db pending) [] onError ∧
      holds (store.applyAll db pending) [] next
  rolledBack : ∀ {db pending next}, holds db pending (.rollback next) -> holds db [] next
  called : ∀ {db pending label writes next}, permits label db ->
    holds db pending (.call label writes next) -> ∀ choice,
      changes db (store.applyAll db (writes db choice)) ∧
        holds (store.applyAll db (writes db choice)) pending (next db choice)

namespace State

variable {holds : Nat -> DB -> List Write -> Program DB Lock Write Label Choice Result -> Prop}
  {state after : State DB Lock Write Label Choice Result} {store : Store DB Lock Write Drift}
  {permits : Label -> DB -> Prop} {changes : DB -> DB -> Prop}

def Stands (holds : Nat -> DB -> List Write -> Program DB Lock Write Label Choice Result -> Prop)
    (state : State DB Lock Write Label Choice Result) : Prop :=
  ∀ session, holds session state.db (state.sessions session).pending
    (state.sessions session).program

private theorem Stands.moves (stands : state.Stands holds) (session : Nat)
    (others : ∀ other, other ≠ session -> after.sessions other = state.sessions other)
    (spares : ∀ other pending program, holds other state.db pending program ->
      holds other after.db pending program)
    (here : holds session after.db (after.sessions session).pending
      (after.sessions session).program) : after.Stands holds := by
  intro other
  by_cases same : other = session
  · rw [same]
    exact here
  · rw [others other same]
    exact spares other _ _ (stands other)

theorem Stands.step (lasting : ∀ session, Lasting store permits changes (holds session))
    (closes : ∀ session db, changes db (store.close session db))
    (drifts : ∀ change db, changes db (store.drift change db)) (stands : state.Stands holds)
    {event : Event Drift Choice} (allowed : Permitted permits state event)
    (stepped : ReadCommitted.step store state event = some after) :
    after.Stands holds ∧ (after.db = state.db ∨ changes state.db after.db) := by
  have released : ∀ (db : DB) (session : Nat)
      (program : Program DB Lock Write Label Choice Result) (other : Nat), other ≠ session ->
      (State.release { state with db := db } session program).sessions other =
        state.sessions other :=
    fun _ _ _ _ apart => release_sessions_of_ne _ apart _
  cases stepped_of_step stepped with
  | @answered session _ label _ _ _ _ program _ =>
    have here := stands session
    rw [program] at here
    simp only [Permitted, program] at allowed
    constructor
    · apply stands.moves session
      · exact fun _ apart => resume_sessions_of_ne _ apart _ _
      · exact fun _ _ _ held => held
      · rw [resume_sessions_self]
        exact (lasting session).answered allowed here
    · exact Or.inl rfl
  | @committed session _ _ _ program =>
    have here := stands session
    rw [program] at here
    rcases (lasting session).committed here with ⟨changed, -, next⟩
    constructor
    · apply stands.moves session
      · exact released _ _ _
      · exact fun other _ _ held => (lasting other).spared changed held
      · rw [release_sessions_self]
        exact next
    · exact Or.inr changed
  | @rolledBack session _ _ program =>
    have here := stands session
    rw [program] at here
    constructor
    · apply stands.moves session
      · exact released _ _ _
      · exact fun _ _ _ held => held
      · rw [release_sessions_self]
        exact (lasting session).rolledBack here
    · exact Or.inl rfl
  | @called session choice _ _ _ program =>
    have here := stands session
    rw [program] at here
    simp only [Permitted, program] at allowed
    rcases (lasting session).called allowed here choice with ⟨changed, next⟩
    constructor
    · apply stands.moves session
      · exact fun _ apart => resume_sessions_of_ne _ apart _ _
      · exact fun other _ _ held => (lasting other).spared changed held
      · rw [resume_sessions_self]
        exact next
    · exact Or.inr changed
  | @failed session _ _ _ _ _ program =>
    have here := stands session
    rw [program] at here
    constructor
    · apply stands.moves session
      · exact released _ _ _
      · exact fun _ _ _ held => held
      · rw [release_sessions_self]
        exact (lasting session).failed here
    · exact Or.inl rfl
  | @abandoned session _ _ program =>
    have here := stands session
    rw [program] at here
    constructor
    · apply stands.moves session
      · exact released _ _ _
      · exact fun _ _ _ held => held
      · rw [release_sessions_self]
        exact (lasting session).abandoned here
    · exact Or.inl rfl
  | @unheard session _ _ program =>
    have here := stands session
    rw [program] at here
    rcases (lasting session).committed here with ⟨changed, onError, -⟩
    constructor
    · apply stands.moves session
      · exact released _ _ _
      · exact fun other _ _ held => (lasting other).spared changed held
      · rw [release_sessions_self]
        exact onError
    · exact Or.inr changed
  | @stopped session =>
    constructor
    · apply stands.moves session
      · exact released _ _ _
      · exact fun other _ _ held => (lasting other).spared (closes session state.db) held
      · rw [release_sessions_self]
        exact (lasting session).crashed _
    · exact Or.inr (closes session state.db)
  | @drifted change =>
    constructor
    · exact fun other => (lasting other).spared (drifts change state.db) (stands other)
    · exact Or.inr (drifts change state.db)

theorem stands_of_reaches (lasting : ∀ session, Lasting store permits changes (holds session))
    (closes : ∀ session db, changes db (store.close session db))
    (drifts : ∀ change db, changes db (store.drift change db)) {kept : DB -> Prop}
    (keeps : ∀ before after, changes before after -> kept before -> kept after)
    {first last : State DB Lock Write Label Choice Result} (stands : first.Stands holds)
    (start : kept first.db) (reached : Reaches store permits first last) :
    last.Stands holds ∧ kept last.db := by
  induction reached with
  | refl => exact ⟨stands, start⟩
  | step event before allowed stepped extend =>
    rcases extend with ⟨middle, holding⟩
    rcases middle.step lasting closes drifts allowed stepped with ⟨after, same | changed⟩
    · exact ⟨after, same ▸ holding⟩
    · exact ⟨after, keeps _ _ changed holding⟩

end State

namespace Program

open Relation

/-- Whatever the session answers is right, and whatever it commits is a change of the agreed
kind, provided that others make no other changes. -/
def Ensures (store : Store DB Lock Write Drift) (permits : Label -> DB -> Prop)
    (changes : DB -> DB -> Prop) (right : DB -> Result -> Prop) :
    Program DB Lock Write Label Choice Result -> DB -> List Write -> Prop
  | .done result, db, _ => ∀ now, ReflTransGen changes db now -> right now result
  | .crashed, _, _ => True
  | .statement label _ onError writes next, db, pending =>
    ∀ now, ReflTransGen changes db now ->
      Ensures store permits changes right onError now [] ∧ (permits label now ->
        Ensures store permits changes right (next now (store.applyAll now pending)) now
          (pending ++ writes now (store.applyAll now pending)))
  | .commit onError next, db, pending => ∀ now, ReflTransGen changes db now ->
    Ensures store permits changes right onError now [] ∧
      changes now (store.applyAll now pending) ∧
      Ensures store permits changes right onError (store.applyAll now pending) [] ∧
      Ensures store permits changes right next (store.applyAll now pending) []
  | .rollback next, db, _ => ∀ now, ReflTransGen changes db now ->
    Ensures store permits changes right next now []
  | .call label writes next, db, pending => ∀ now, ReflTransGen changes db now ->
    permits label now -> ∀ choice, changes now (store.applyAll now (writes now choice)) ∧
      Ensures store permits changes right (next now choice)
        (store.applyAll now (writes now choice)) pending

section Rules

variable {store : Store DB Lock Write Drift} {permits : Label -> DB -> Prop}
  {changes : DB -> DB -> Prop} {right : DB -> Result -> Prop}

theorem Ensures.spared {program : Program DB Lock Write Label Choice Result} {before after : DB}
    {pending : List Write} (changed : ReflTransGen changes before after)
    (ensures : program.Ensures store permits changes right before pending) :
    program.Ensures store permits changes right after pending := by
  cases program with
  | done result => exact fun now later => ensures now (changed.trans later)
  | crashed => trivial
  | statement label locks onError writes next =>
    exact fun now later => ensures now (changed.trans later)
  | commit onError next => exact fun now later => ensures now (changed.trans later)
  | rollback next => exact fun now later => ensures now (changed.trans later)
  | call label writes next => exact fun now later => ensures now (changed.trans later)

theorem Ensures.lasting : @Lasting DB Lock Write Drift Label Choice Result store permits changes
    fun db pending program => program.Ensures store permits changes right db pending where
  spared changed ensures := ensures.spared (.single changed)
  crashed _ := trivial
  failed ensures := (ensures _ .refl).1
  answered permitted ensures := (ensures _ .refl).2 permitted
  abandoned ensures := (ensures _ .refl).1
  committed ensures := (ensures _ .refl).2
  rolledBack ensures := ensures _ .refl
  called permitted ensures := ensures _ .refl permitted

theorem kept_of_changes {P : DB -> Prop}
    (stable : ∀ before after, changes before after -> P before -> P after)
    {before after : DB} (changed : ReflTransGen changes before after) (start : P before) :
    P after := by
  induction changed with
  | refl => exact start
  | tail _ change keep => exact stable _ _ change keep

theorem Ensures.statement (P : DB -> Prop)
    (stable : ∀ before after, changes before after -> P before -> P after)
    {db : DB} (start : P db) {pending : List Write} {label : Label} {locks : List Lock}
    {onError : Program DB Lock Write Label Choice Result} {writes : DB -> DB -> List Write}
    {next : DB -> DB -> Program DB Lock Write Label Choice Result}
    (failed : ∀ now, onError.Ensures store permits changes right now [])
    (went : ∀ now, P now -> permits label now ->
      (next now (store.applyAll now pending)).Ensures store permits changes right now
        (pending ++ writes now (store.applyAll now pending))) :
    (Program.statement label locks onError writes next).Ensures store permits changes right db
      pending := by
  intro now later
  constructor
  · exact failed now
  · exact went now (kept_of_changes stable later start)

theorem Ensures.acquiring (P : DB -> Prop)
    (stable : ∀ before after, changes before after -> P before -> P after)
    {db : DB} (start : P db) {label : Label} {locks : List Lock}
    {onError : Program DB Lock Write Label Choice Result}
    {next : DB -> DB -> Program DB Lock Write Label Choice Result}
    (failed : ∀ now, onError.Ensures store permits changes right now [])
    (went : ∀ now, P now -> permits label now ->
      (next now now).Ensures store permits changes right now []) :
    (Program.acquiring label locks onError next).Ensures store permits changes right db [] :=
  Ensures.statement P stable start failed went

theorem Ensures.commit (P : DB -> Prop)
    (stable : ∀ before after, changes before after -> P before -> P after)
    {db : DB} (start : P db) {pending : List Write}
    {onError next : Program DB Lock Write Label Choice Result}
    (failed : ∀ now, onError.Ensures store permits changes right now [])
    (changed : ∀ now, P now -> changes now (store.applyAll now pending)) (went : ∀ now, P now ->
      next.Ensures store permits changes right (store.applyAll now pending) []) :
    (Program.commit onError next).Ensures store permits changes right db pending := by
  intro now later
  have holds := kept_of_changes stable later start
  exact ⟨failed now, changed now holds, failed _, went now holds⟩

end Rules
end Program

theorem right_of_reaches {store : Store DB Lock Write Drift} {permits : Label -> DB -> Prop}
    {changes : DB -> DB -> Prop} {right : Nat -> DB -> Result -> Prop}
    (closes : ∀ session db, changes db (store.close session db))
    (drifts : ∀ change db, changes db (store.drift change db)) {kept : DB -> Prop}
    (keeps : ∀ before after, changes before after -> kept before -> kept after)
    {first last : State DB Lock Write Label Choice Result}
    (ensures : ∀ session, (first.sessions session).program.Ensures store permits changes
      (right session) first.db (first.sessions session).pending)
    (start : kept first.db) (reached : Reaches store permits first last) :
    (∀ session result, (last.sessions session).program = .done result ->
      right session last.db result) ∧ kept last.db := by
  have stands : first.Stands fun session db pending program =>
      program.Ensures store permits changes (right session) db pending := ensures
  rcases State.stands_of_reaches (fun _ => Program.Ensures.lasting) closes drifts keeps stands
    start reached with ⟨standing, holding⟩
  constructor
  · intro session result program
    have answered := standing session
    rw [program] at answered
    exact answered _ .refl
  · exact holding

end ReadCommitted
