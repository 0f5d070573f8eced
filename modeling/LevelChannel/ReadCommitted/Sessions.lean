import LevelChannel.ReadCommitted.Statements

namespace ReadCommitted

/-!
# What holds of each session

Some facts concern one session alone: the locks it has, the writes it has queued and what
it has left to do.  Such a fact needs no contract.  If it passes from every program to
what may follow it, every session of a run has it, whatever the others do.

Two facts of this kind are given by recursion over programs: which locks a program asks
for while it has others, and what it has queued when it commits.
-/

variable {DB Lock Write Drift Label Choice Result : Type}

/-- The fact passes from a program to whatever the session may go on with. -/
structure Inherited
    (holds : List Lock -> List Write -> Program DB Lock Write Label Choice Result -> Prop) :
    Prop where
  crashed : holds [] [] .crashed
  statement : ∀ {held pending label locks onError writes next},
    holds held pending (.statement label locks onError writes next) ->
      holds [] [] onError ∧ ∀ committed own,
        holds (locks ++ held) (pending ++ writes committed own) (next committed own)
  commit : ∀ {held pending onError next}, holds held pending (.commit onError next) ->
    holds [] [] onError ∧ holds [] [] next
  rollback : ∀ {held pending next}, holds held pending (.rollback next) -> holds [] [] next
  call : ∀ {held pending label writes next}, holds held pending (.call label writes next) ->
    ∀ committed choice, holds held pending (next committed choice)

namespace State

variable {holds : Nat -> List Lock -> List Write ->
    Program DB Lock Write Label Choice Result -> Prop}
  {state after : State DB Lock Write Label Choice Result} {store : Store DB Lock Write Drift}

/-- Every session has the fact where it stands. -/
def Each (holds : Nat -> List Lock -> List Write ->
    Program DB Lock Write Label Choice Result -> Prop)
    (state : State DB Lock Write Label Choice Result) : Prop :=
  ∀ session, holds session (state.held session) (state.sessions session).pending
    (state.sessions session).program

private theorem Each.release (each : state.Each holds) {db : DB} {session : Nat}
    {program : Program DB Lock Write Label Choice Result} (next : holds session [] [] program) :
    State.Each holds (State.release { state with db := db } session program) := by
  intro other
  by_cases same : other = session
  · subst other
    rw [release_held_self, release_sessions_self]
    exact next
  · rw [release_held_of_ne _ same, release_sessions_of_ne _ same]
    exact each other

private theorem Each.resume (each : state.Each holds) {db : DB} {session : Nat}
    {locks : List Lock} {program : Program DB Lock Write Label Choice Result}
    {pending : List Write} (next : holds session (locks ++ state.held session) pending program) :
    State.Each holds (State.resume (State.grant { state with db := db } session locks) session
      program pending) := by
  intro other
  rw [resume_held]
  by_cases same : other = session
  · subst other
    rw [grant_held_self, resume_sessions_self]
    exact next
  · rw [grant_held_of_ne _ same, resume_sessions_of_ne _ same]
    exact each other

theorem Each.step (inherited : ∀ session, Inherited (holds session))
    (each : state.Each holds) (event : Event Drift Choice)
    (stepped : ReadCommitted.step store state event = some after) : after.Each holds := by
  cases stepped_of_step stepped with
  | @answered session _ _ _ _ _ _ program _ =>
    have here := each session
    rw [program] at here
    exact Each.resume each (((inherited session).statement here).2 _ _)
  | @committed session _ _ _ program =>
    have here := each session
    rw [program] at here
    exact Each.release each ((inherited session).commit here).2
  | @rolledBack session _ _ program =>
    have here := each session
    rw [program] at here
    exact Each.release each ((inherited session).rollback here)
  | @called session choice _ _ _ program =>
    have here := each session
    rw [program] at here
    have going := (inherited session).call here state.db choice
    rw [← List.nil_append (state.held session)] at going
    exact Each.resume each going
  | @failed session _ _ _ _ _ program =>
    have here := each session
    rw [program] at here
    exact Each.release each ((inherited session).statement here).1
  | @abandoned session _ _ program =>
    have here := each session
    rw [program] at here
    exact Each.release each ((inherited session).commit here).1
  | @unheard session _ _ program =>
    have here := each session
    rw [program] at here
    exact Each.release each ((inherited session).commit here).1
  | @stopped session =>
    exact Each.release each (inherited session).crashed
  | drifted =>
    exact each

theorem each_of_reaches (inherited : ∀ session, Inherited (holds session))
    {permits : Label -> DB -> Prop} {first last : State DB Lock Write Label Choice Result}
    (start : first.Each holds) (reached : Reaches store permits first last) : last.Each holds := by
  induction reached with
  | refl => exact start
  | step event before allowed stepped extend => exact extend.step inherited event stepped

end State

namespace Program

def Asks (may : List Lock -> Lock -> Prop) :
    List Lock -> Program DB Lock Write Label Choice Result -> Prop
  | _, .done _ => True
  | _, .crashed => True
  | held, .statement _ locks onError _ next =>
    (∀ lock, lock ∈ locks -> may held lock) ∧ Asks may [] onError ∧
      ∀ committed own, Asks may (locks ++ held) (next committed own)
  | _, .commit onError next => Asks may [] onError ∧ Asks may [] next
  | _, .rollback next => Asks may [] next
  | held, .call _ _ next => ∀ committed choice, Asks may held (next committed choice)

theorem Asks.inherited (may : List Lock -> Lock -> Prop) :
    Inherited fun held (_ : List Write) (program : Program DB Lock Write Label Choice Result) =>
      program.Asks may held where
  crashed := trivial
  statement asks := ⟨asks.2.1, asks.2.2⟩
  commit asks := asks
  rollback asks := asks
  call asks := asks

/-- Whatever a program has queued when it commits is of one shape, and whatever it does
outside its transactions is of another. -/
def Commits (shape outside : List Write -> Prop) :
    List Write -> Program DB Lock Write Label Choice Result -> Prop
  | _, .done _ => True
  | _, .crashed => True
  | pending, .statement _ _ onError writes next =>
    Commits shape outside [] onError ∧ ∀ committed own,
      Commits shape outside (pending ++ writes committed own) (next committed own)
  | pending, .commit onError next =>
    shape pending ∧ Commits shape outside [] onError ∧ Commits shape outside [] next
  | _, .rollback next => Commits shape outside [] next
  | pending, .call _ writes next => ∀ committed choice,
    outside (writes committed choice) ∧ Commits shape outside pending (next committed choice)

theorem Commits.inherited (shape outside : List Write -> Prop) :
    Inherited fun (_ : List Lock) pending
        (program : Program DB Lock Write Label Choice Result) =>
      program.Commits shape outside pending where
  crashed := trivial
  statement commits := commits
  commit commits := commits.2
  rollback commits := commits
  call commits committed choice := (commits committed choice).2

end Program

def State.committing (state : State DB Lock Write Label Choice Result) :
    Event Drift Choice -> Option Nat
  | .run session _ =>
    match (state.sessions session).program with
    | .commit _ _ => some session
    | _ => none
  | .lose session =>
    match (state.sessions session).program with
    | .commit _ _ => some session
    | _ => none
  | _ => none

def State.calling (state : State DB Lock Write Label Choice Result) :
    Event Drift Choice -> List Write
  | .run session choice =>
    match (state.sessions session).program with
    | .call _ writes _ => writes state.db choice
    | _ => []
  | _ => []

/-- All that an event can do to the committed state, where the programs commit writes of
one shape and do things of another outside their transactions. -/
inductive Moved (store : Store DB Lock Write Drift) (shape outside : List Write -> Prop)
    (state : State DB Lock Write Label Choice Result) (event : Event Drift Choice) (after : DB) :
    Prop where
  | still (open_ : state.committing event = none) (same : after = state.db)
  | drifted (open_ : state.committing event = none) (change : Drift)
      (same : after = store.drift change state.db)
  | closed (open_ : state.committing event = none) (session : Nat)
      (same : after = store.close session state.db)
  | called (open_ : state.committing event = none) (shaped : outside (state.calling event))
      (same : after = store.applyAll state.db (state.calling event))
  | committed (session : Nat) (committing : state.committing event = some session)
      (shaped : shape (state.sessions session).pending)
      (same : after = store.applyAll state.db (state.sessions session).pending)

theorem moved_of_step {store : Store DB Lock Write Drift} {shape outside : List Write -> Prop}
    {state after : State DB Lock Write Label Choice Result}
    (each : state.Each fun _ _ pending program => program.Commits shape outside pending)
    (event : Event Drift Choice) (stepped : step store state event = some after) :
    Moved store shape outside state event after.db := by
  cases stepped_of_step stepped with
  | answered program _ =>
    exact .still (by simp only [State.committing, program]) rfl
  | @committed session _ _ _ program =>
    have here := each session
    rw [program] at here
    exact .committed session (by simp only [State.committing, program]) here.1 rfl
  | rolledBack program =>
    exact .still (by simp only [State.committing, program]) rfl
  | @called session choice label writes next program =>
    have here := each session
    rw [program] at here
    have calls : state.calling (.run session choice : Event Drift Choice) =
        writes state.db choice := by
      simp only [State.calling, program]
    apply Moved.called
    · simp only [State.committing, program]
    · rw [calls]
      exact (here state.db choice).1
    · rw [calls]
      rfl
  | failed _ => exact .still rfl rfl
  | abandoned _ => exact .still rfl rfl
  | @unheard session _ _ program =>
    have here := each session
    rw [program] at here
    exact .committed session (by simp only [State.committing, program]) here.1 rfl
  | @stopped session => exact .closed rfl session rfl
  | @drifted change => exact .drifted rfl change rfl

theorem Reaches.trans {store : Store DB Lock Write Drift} {permits : Label -> DB -> Prop}
    {first middle last : State DB Lock Write Label Choice Result}
    (one : Reaches store permits first middle) (two : Reaches store permits middle last) :
    Reaches store permits first last := by
  induction two with
  | refl => exact one
  | step event _ allowed stepped extend => exact .step event extend allowed stepped

theorem Reaches.one {store : Store DB Lock Write Drift}
    {first last : State DB Lock Write Label Choice Result} {event : Event Drift Choice}
    (stepped : ReadCommitted.step store first event = some last) :
    Reaches store (fun _ _ => True) first last :=
  .step event (.refl first) (permitted_always first event) stepped

/-- Reachability by events that meet a condition in the state they happen in. -/
inductive ReachesWhen (store : Store DB Lock Write Drift)
    (fine : State DB Lock Write Label Choice Result -> Event Drift Choice -> Prop) :
    State DB Lock Write Label Choice Result -> State DB Lock Write Label Choice Result -> Prop
  | refl (state) : ReachesWhen store fine state state
  | step {first middle last} (event : Event Drift Choice) :
      ReachesWhen store fine first middle -> fine middle event ->
      step store middle event = some last -> ReachesWhen store fine first last

namespace ReachesWhen

variable {store : Store DB Lock Write Drift}
  {fine : State DB Lock Write Label Choice Result -> Event Drift Choice -> Prop}
  {first last : State DB Lock Write Label Choice Result}

theorem reaches (reached : ReachesWhen store fine first last) :
    Reaches store (fun _ _ => True) first last := by
  induction reached with
  | refl => exact .refl _
  | step event _ _ stepped extend =>
    exact .step event extend (permitted_always _ event) stepped

theorem keeps {kept : State DB Lock Write Label Choice Result -> Prop}
    (step : ∀ middle event after, Reaches store (fun _ _ => True) first middle ->
      kept middle -> fine middle event -> ReadCommitted.step store middle event = some after ->
        kept after)
    (reached : ReachesWhen store fine first last) (start : kept first) : kept last := by
  induction reached with
  | refl => exact start
  | step event before met stepped extend =>
    exact step _ event _ before.reaches extend met stepped

theorem permitted {permits : Label -> DB -> Prop}
    (reached : ReachesWhen store (Permitted permits) first last) :
    Reaches store permits first last := by
  induction reached with
  | refl => exact .refl _
  | step event _ allowed stepped extend => exact .step event extend allowed stepped

end ReachesWhen

/-- Play events in order; none when one of them is impossible or does not meet the
condition. -/
def playWhen (store : Store DB Lock Write Drift)
    (fine : State DB Lock Write Label Choice Result -> Event Drift Choice -> Bool)
    (state : State DB Lock Write Label Choice Result) :
    List (Event Drift Choice) -> Option (State DB Lock Write Label Choice Result)
  | [] => some state
  | event :: events =>
    if fine state event then
      (step store state event).bind fun after => playWhen store fine after events
    else none

def testing (met : Label -> DB -> Bool) (state : State DB Lock Write Label Choice Result) :
    Event Drift Choice -> Bool
  | .run session _ =>
    match (state.sessions session).program with
    | .statement label _ _ _ _ => met label state.db
    | .call label _ _ => met label state.db
    | _ => true
  | _ => true

theorem permitted_of_testing {permits : Label -> DB -> Prop} {met : Label -> DB -> Bool}
    (sound : ∀ label db, met label db = true -> permits label db)
    (state : State DB Lock Write Label Choice Result) (event : Event Drift Choice)
    (tested : testing met state event = true) : Permitted permits state event := by
  cases event with
  | run session choice =>
    simp only [testing] at tested
    simp only [Permitted]
    cases program : (state.sessions session).program with
    | statement label locks onError writes next =>
      rw [program] at tested
      exact sound label state.db tested
    | call label writes next =>
      rw [program] at tested
      exact sound label state.db tested
    | done result => trivial
    | crashed => trivial
    | commit onError next => trivial
    | rollback next => trivial
  | fail session => trivial
  | lose session => trivial
  | stop session => trivial
  | drift change => trivial

theorem exists_of_playWhen (store : Store DB Lock Write Drift)
    {fine : State DB Lock Write Label Choice Result -> Event Drift Choice -> Prop}
    {met : State DB Lock Write Label Choice Result -> Event Drift Choice -> Bool}
    (sound : ∀ state event, met state event = true -> fine state event)
    (events : List (Event Drift Choice)) (fact : State DB Lock Write Label Choice Result -> Bool)
    {first middle : State DB Lock Write Label Choice Result}
    (before : ReachesWhen store fine first middle)
    (played : ((playWhen store met middle events).any fact) = true) :
    ∃ last, ReachesWhen store fine first last ∧ fact last = true := by
  induction events generalizing middle with
  | nil => exact ⟨middle, before, played⟩
  | cons event events extend =>
    rw [playWhen] at played
    split at played
    · next allowed =>
      cases stepped : step store middle event with
      | none =>
        rw [stepped] at played
        cases played
      | some after =>
        rw [stepped, Option.bind_some] at played
        exact extend (.step event before (sound middle event allowed) stepped) played
    · cases played

end ReadCommitted
