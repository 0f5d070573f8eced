import Mathlib.Logic.Function.Basic
import Mathlib.Data.List.Basic

namespace ReadCommitted

/-!
# Sessions of a read-committed database

A session runs a program of statements.  Each statement waits for its locks and
is then evaluated on two states: the committed one, and the committed one with
the session's own uncommitted writes laid over it.  The second is what the
session's own connection sees; the first is what a query on another connection
sees.  No snapshot outlives a statement, which is the read-committed level: a
value read by one statement may be stale when the next one runs.

Writes stay private until the commit, which applies them in the order in which
they were made and releases every lock of the session.  A statement may fail at
any time (a deadlock, a lost connection, a constraint), a commit may be applied
while its acknowledgement is lost, and a session may stop for good.  Calls to the
world outside the database take effect at once and are never rolled back.
-/

universe u

variable {DB Lock Write Drift Label Choice Result : Type}

/-- The part of a database the sessions do not choose: what a write does, how the
world moves without them, what is forgotten of a session that is gone, and which
locks two sessions cannot hold together. -/
structure Store (DB Lock Write Drift : Type) where
  apply : DB -> Write -> DB
  drift : Drift -> DB -> DB
  close : Nat -> DB -> DB
  conflict : Lock -> Lock -> Bool
  conflict_comm : ∀ first second, conflict first second = conflict second first

namespace Store

variable (store : Store DB Lock Write Drift)

def applyAll (db : DB) (writes : List Write) : DB :=
  writes.foldl store.apply db

@[simp] theorem applyAll_nil (db : DB) : store.applyAll db [] = db := rfl

@[simp] theorem applyAll_cons (db : DB) (write : Write) (writes : List Write) :
    store.applyAll db (write :: writes) = store.applyAll (store.apply db write) writes := rfl

theorem applyAll_append (db : DB) (first second : List Write) :
    store.applyAll db (first ++ second) = store.applyAll (store.applyAll db first) second :=
  List.foldl_append

def Compatible (first second : List Lock) : Prop :=
  ∀ left, left ∈ first -> ∀ right, right ∈ second -> store.conflict left right = false

theorem Compatible.symm {store : Store DB Lock Write Drift} {first second : List Lock}
    (compatible : store.Compatible first second) : store.Compatible second first := by
  intro right memberRight left memberLeft
  rw [store.conflict_comm]
  exact compatible left memberLeft right memberRight

theorem Compatible.nil_left (locks : List Lock) : store.Compatible [] locks := by
  intro left member
  cases member

theorem Compatible.not_mem {store : Store DB Lock Write Drift} {first second : List Lock}
    (compatible : store.Compatible first second) {left right : Lock}
    (member : left ∈ first) (clash : store.conflict left right = true) : right ∉ second := by
  intro memberRight
  have free := compatible left member right memberRight
  rw [clash] at free
  cases free

end Store

/-- What a session still has to do.

`statement` waits for `locks`, queues `writes` and goes on with `next`, both
computed from the committed state and the session's own view of it; if it fails,
the transaction is rolled back and `onError` runs.  A statement outside a
transaction is a `statement` followed by a `commit`.  `call` acts on the world
outside the transaction at once; the answer is whatever the run chooses. -/
inductive Program (DB Lock Write Label Choice Result : Type) where
  | done (result : Result)
  | crashed
  | statement (label : Label) (locks : List Lock)
      (onError : Program DB Lock Write Label Choice Result)
      (writes : DB -> DB -> List Write)
      (next : DB -> DB -> Program DB Lock Write Label Choice Result)
  | commit (onError next : Program DB Lock Write Label Choice Result)
  | rollback (next : Program DB Lock Write Label Choice Result)
  | call (label : Label) (writes : DB -> Choice -> List Write)
      (next : DB -> Choice -> Program DB Lock Write Label Choice Result)

structure Session (DB Lock Write Label Choice Result : Type) where
  program : Program DB Lock Write Label Choice Result
  pending : List Write

/-- The committed state, the lock table and all sessions.  Every natural number
names a session, so that a run may involve as many of them as it likes. -/
structure State (DB Lock Write Label Choice Result : Type) where
  db : DB
  granted : List (Nat × Lock)
  sessions : Nat -> Session DB Lock Write Label Choice Result

/-- What can happen next.  `run` lets a session take its next step, `fail` makes
that step fail, `lose` applies a commit but loses its acknowledgement, `stop` ends
a session where it is, and `drift` is a change no session made. -/
inductive Event (Drift Choice : Type) where
  | run (session : Nat) (choice : Choice)
  | fail (session : Nat)
  | lose (session : Nat)
  | stop (session : Nat)
  | drift (change : Drift)

namespace State

variable (state : State DB Lock Write Label Choice Result)

def held (session : Nat) : List Lock :=
  state.granted.filterMap fun entry => if entry.1 = session then some entry.2 else none

def start (db : DB) (programs : Nat -> Program DB Lock Write Label Choice Result) :
    State DB Lock Write Label Choice Result :=
  { db := db, granted := [], sessions := fun session => ⟨programs session, []⟩ }

/-- No other session holds a lock that conflicts with one of `locks`. -/
def admits (store : Store DB Lock Write Drift) (session : Nat) (locks : List Lock) : Bool :=
  state.granted.all fun entry =>
    entry.1 = session || locks.all fun lock => !store.conflict lock entry.2

/-- Replace what a session has to do and what it has not committed. -/
def resume (session : Nat) (program : Program DB Lock Write Label Choice Result)
    (pending : List Write) : State DB Lock Write Label Choice Result :=
  { state with sessions := Function.update state.sessions session ⟨program, pending⟩ }

def grant (session : Nat) (locks : List Lock) : State DB Lock Write Label Choice Result :=
  { state with granted := locks.map (fun lock => (session, lock)) ++ state.granted }

/-- End a session's transaction: its locks go, and it continues with `program`. -/
def release (session : Nat) (program : Program DB Lock Write Label Choice Result) :
    State DB Lock Write Label Choice Result :=
  resume { state with granted := state.granted.filter fun entry => entry.1 ≠ session }
    session program []

/-- What a session's own connection sees: its uncommitted writes over the
committed state. -/
def view (store : Store DB Lock Write Drift) (session : Nat) : DB :=
  store.applyAll state.db (state.sessions session).pending

end State

/-- One event, where it is possible.  A statement whose locks are taken has no
successor: the session waits. -/
def step (store : Store DB Lock Write Drift) (state : State DB Lock Write Label Choice Result) :
    Event Drift Choice -> Option (State DB Lock Write Label Choice Result)
  | .run session choice =>
    match (state.sessions session).program with
    | .done _ => none
    | .crashed => none
    | .statement _ locks _ writes next =>
      if state.admits store session locks then
        let own := state.view store session
        some ((state.grant session locks).resume session (next state.db own)
          ((state.sessions session).pending ++ writes state.db own))
      else none
    | .commit _ next =>
      some (State.release { state with db := state.view store session } session next)
    | .rollback next => some (state.release session next)
    | .call _ writes next =>
      some (State.resume { state with db := store.applyAll state.db (writes state.db choice) }
        session (next state.db choice) (state.sessions session).pending)
  | .fail session =>
    match (state.sessions session).program with
    | .statement _ _ onError _ _ => some (state.release session onError)
    | .commit onError _ => some (state.release session onError)
    | _ => none
  | .lose session =>
    match (state.sessions session).program with
    | .commit onError _ =>
      some (State.release { state with db := state.view store session } session onError)
    | _ => none
  | .stop session =>
    some (State.release { state with db := store.close session state.db } session .crashed)
  | .drift change => some { state with db := store.drift change state.db }

/-- One event, by what the session it concerns was about to do. -/
inductive Stepped (store : Store DB Lock Write Drift)
    (state : State DB Lock Write Label Choice Result) :
    Event Drift Choice -> State DB Lock Write Label Choice Result -> Prop
  | answered {session choice label locks onError writes next}
      (program : (state.sessions session).program = .statement label locks onError writes next)
      (admitted : state.admits store session locks = true) :
      Stepped store state (.run session choice)
        ((state.grant session locks).resume session (next state.db (state.view store session))
          ((state.sessions session).pending ++ writes state.db (state.view store session)))
  | committed {session choice onError next}
      (program : (state.sessions session).program = .commit onError next) :
      Stepped store state (.run session choice)
        (State.release { state with db := state.view store session } session next)
  | rolledBack {session choice next}
      (program : (state.sessions session).program = .rollback next) :
      Stepped store state (.run session choice) (state.release session next)
  | called {session choice label writes next}
      (program : (state.sessions session).program = .call label writes next) :
      Stepped store state (.run session choice)
        (State.resume { state with db := store.applyAll state.db (writes state.db choice) }
          session (next state.db choice) (state.sessions session).pending)
  | failed {session label locks onError writes next}
      (program : (state.sessions session).program = .statement label locks onError writes next) :
      Stepped store state (.fail session) (state.release session onError)
  | abandoned {session onError next}
      (program : (state.sessions session).program = .commit onError next) :
      Stepped store state (.fail session) (state.release session onError)
  | unheard {session onError next}
      (program : (state.sessions session).program = .commit onError next) :
      Stepped store state (.lose session)
        (State.release { state with db := state.view store session } session onError)
  | stopped {session} :
      Stepped store state (.stop session)
        (State.release { state with db := store.close session state.db } session .crashed)
  | drifted {change} :
      Stepped store state (.drift change) { state with db := store.drift change state.db }

theorem stepped_of_step {store : Store DB Lock Write Drift}
    {state after : State DB Lock Write Label Choice Result} {event : Event Drift Choice}
    (stepped : step store state event = some after) : Stepped store state event after := by
  cases event with
  | run session choice =>
    simp only [step] at stepped
    cases program : (state.sessions session).program with
    | done result => simp [program] at stepped
    | crashed => simp [program] at stepped
    | statement label locks onError writes next =>
      simp only [program] at stepped
      split at stepped
      · next admitted => exact Option.some.inj stepped ▸ .answered program admitted
      · cases stepped
    | commit onError next =>
      simp only [program, Option.some.injEq] at stepped
      exact stepped ▸ .committed program
    | rollback next =>
      simp only [program, Option.some.injEq] at stepped
      exact stepped ▸ .rolledBack program
    | call label writes next =>
      simp only [program, Option.some.injEq] at stepped
      exact stepped ▸ .called program
  | fail session =>
    simp only [step] at stepped
    cases program : (state.sessions session).program with
    | statement label locks onError writes next =>
      simp only [program, Option.some.injEq] at stepped
      exact stepped ▸ .failed program
    | commit onError next =>
      simp only [program, Option.some.injEq] at stepped
      exact stepped ▸ .abandoned program
    | done result => simp [program] at stepped
    | crashed => simp [program] at stepped
    | rollback next => simp [program] at stepped
    | call label writes next => simp [program] at stepped
  | lose session =>
    simp only [step] at stepped
    cases program : (state.sessions session).program with
    | commit onError next =>
      simp only [program, Option.some.injEq] at stepped
      exact stepped ▸ .unheard program
    | done result => simp [program] at stepped
    | crashed => simp [program] at stepped
    | statement label locks onError writes next => simp [program] at stepped
    | rollback next => simp [program] at stepped
    | call label writes next => simp [program] at stepped
  | stop session =>
    exact Option.some.inj stepped ▸ .stopped
  | drift change =>
    exact Option.some.inj stepped ▸ .drifted

def play (store : Store DB Lock Write Drift) (state : State DB Lock Write Label Choice Result) :
    List (Event Drift Choice) -> Option (State DB Lock Write Label Choice Result)
  | [] => some state
  | event :: events => (step store state event).bind fun after => play store after events

/-- The step an event lets a session take is allowed by `permits`.  Only labelled
steps that really run are restricted, and only by the committed state they see. -/
def Permitted (permits : Label -> DB -> Prop) (state : State DB Lock Write Label Choice Result) :
    Event Drift Choice -> Prop
  | .run session _ =>
    match (state.sessions session).program with
    | .statement label _ _ _ _ => permits label state.db
    | .call label _ _ => permits label state.db
    | _ => True
  | _ => True

inductive Reaches (store : Store DB Lock Write Drift) (permits : Label -> DB -> Prop) :
    State DB Lock Write Label Choice Result -> State DB Lock Write Label Choice Result -> Prop
  | refl (state) : Reaches store permits state state
  | step {first middle last} (event : Event Drift Choice) :
      Reaches store permits first middle ->
      Permitted permits middle event ->
      step store middle event = some last ->
      Reaches store permits first last

theorem reaches_of_play (store : Store DB Lock Write Drift) (events : List (Event Drift Choice))
    {first middle last : State DB Lock Write Label Choice Result}
    (before : Reaches store (fun _ _ => True) first middle)
    (played : play store middle events = some last) :
    Reaches store (fun _ _ => True) first last := by
  induction events generalizing middle with
  | nil =>
    simp only [play, Option.some.injEq] at played
    exact played ▸ before
  | cons event events extend =>
    simp only [play, Option.bind_eq_some_iff] at played
    rcases played with ⟨after, stepped, rest⟩
    have allowed : Permitted (fun _ _ => True) middle event := by
      cases event <;> simp only [Permitted]
      split <;> trivial
    exact extend (Reaches.step event before allowed stepped) rest

theorem exists_of_play (store : Store DB Lock Write Drift)
    (first : State DB Lock Write Label Choice Result) (events : List (Event Drift Choice))
    (fact : DB -> Prop) [DecidablePred fact]
    (played : ((play store first events).any fun last => fact last.db) = true) :
    ∃ last, Reaches store (fun _ _ => True) first last ∧ fact last.db := by
  cases run : play store first events with
  | none =>
    rw [run] at played
    cases played
  | some last =>
    rw [run, Option.any_some, decide_eq_true_eq] at played
    exact ⟨last, reaches_of_play store events (.refl first) run, played⟩

end ReadCommitted
