import LevelChannel.ReadCommitted.Sessions

namespace ReadCommitted

/-!
# What queued writes are worth

A fact about the committed state can be kept without locks if every queued write is all right
in every committed state there is until its commit, and if what a session has learned of
earlier statements stays true as long.  An `Upkeep` says which writes those are and what may be
learned; a program upholds it if each statement, on whatever such a state and view it finds,
queues only such writes.  What the other sessions may do meanwhile is left to a condition on the
run.
-/

variable {DB Lock Write Drift Label Choice Result Known : Type}

def Program.ended : Program DB Lock Write Label Choice Result -> Prop
  | .done _ | .crashed => True
  | _ => False

/-- A fact, how the state may move, what a session may know, and which writes it may have
queued; at first it knows `nothing`. -/
structure Upkeep (DB Write Known : Type) where
  good : DB -> Prop
  moves : DB -> DB -> Prop
  knows : Nat -> Known -> DB -> Prop
  may : Nat -> DB -> Write -> Prop
  nothing : Known
  stays : ∀ db, moves db db
  knows_nothing : ∀ session db, knows session nothing db

namespace Upkeep

variable (upkeep : Upkeep DB Write Known) (store : Store DB Lock Write Drift)

/-- What a statement may find: a good state, and a view with nothing but such writes on it. -/
structure View (session : Nat) (known : Known) (db own : DB) : Prop where
  good : upkeep.good db
  knows : upkeep.knows session known db
  queued : ∃ pending, (∀ write, write ∈ pending -> upkeep.may session db write) ∧
    own = store.applyAll db pending

/-- Every statement queues such writes only, and goes on with what it has learned. -/
def Upholds (session : Nat) : Known -> Program DB Lock Write Label Choice Result -> Prop
  | _, .done _ => True
  | _, .crashed => True
  | known, .statement _ _ onError writes next =>
    Upholds session upkeep.nothing onError ∧
      ∀ db own, upkeep.View store session known db own ->
        (∀ write, write ∈ writes db own -> upkeep.may session db write) ∧
          ∃ learned, upkeep.knows session learned db ∧
            Upholds session learned (next db own)
  | _, .commit onError next =>
    Upholds session upkeep.nothing onError ∧ Upholds session upkeep.nothing next
  | _, .rollback next => Upholds session upkeep.nothing next
  | _, .call _ _ _ => False

def Stands (session : Nat) (db : DB) (pending : List Write)
    (program : Program DB Lock Write Label Choice Result) : Prop :=
  program.ended ∨ (∀ write, write ∈ pending -> upkeep.may session db write) ∧
    ∃ known, upkeep.knows session known db ∧ upkeep.Upholds store session known program

def Upheld (state : State DB Lock Write Label Choice Result) : Prop :=
  upkeep.good state.db ∧ ∀ session, upkeep.Stands store session state.db
    (state.sessions session).pending (state.sessions session).program

/-- The state moves to a good one, in which these sessions stand as they did. -/
structure Keeps (state : State DB Lock Write Label Choice Result) (among : Nat -> Prop)
    (after : DB) : Prop where
  good : upkeep.good after
  moves : upkeep.moves state.db after
  others : ∀ other, among other -> upkeep.Stands store other after
    (state.sessions other).pending (state.sessions other).program

/-- What the condition on a run has to give for a commit, a closed session and a change from
outside. -/
structure Steady (fine : State DB Lock Write Label Choice Result -> Event Drift Choice -> Prop) :
    Prop where
  commit : ∀ state event session, fine state event -> upkeep.Upheld store state ->
    state.committing event = some session ->
    (∀ write, write ∈ (state.sessions session).pending ->
      upkeep.may session state.db write) ->
    upkeep.Keeps store state (fun other => other ≠ session) (state.view store session)
  close : ∀ (state : State DB Lock Write Label Choice Result) session,
    upkeep.Upheld store state ->
      upkeep.Keeps store state (fun _ => True) (store.close session state.db)
  drift : ∀ state change, fine state (.drift change) -> upkeep.Upheld store state ->
    upkeep.Keeps store state (fun _ => True) (store.drift change state.db)

variable {upkeep store} {state : State DB Lock Write Label Choice Result}

theorem stands_afresh {session : Nat} {db : DB}
    {program : Program DB Lock Write Label Choice Result}
    (upholds : upkeep.Upholds store session upkeep.nothing program) :
    upkeep.Stands store session db [] program :=
  Or.inr ⟨fun _ listed => absurd listed List.not_mem_nil, upkeep.nothing,
    upkeep.knows_nothing session db, upholds⟩

/-- A session that has not ended. -/
theorem Upheld.session (upheld : upkeep.Upheld store state) {session : Nat}
    {program : Program DB Lock Write Label Choice Result}
    (runs : (state.sessions session).program = program) (going : ¬ program.ended) :
    (∀ write, write ∈ (state.sessions session).pending -> upkeep.may session state.db write) ∧
    ∃ known, upkeep.knows session known state.db ∧ upkeep.Upholds store session known program :=
  runs ▸ (upheld.2 session).resolve_left (runs ▸ going)

/-- A transaction ends: the others stand, and the session begins anew. -/
theorem upheld_release {db : DB} {session : Nat}
    {program : Program DB Lock Write Label Choice Result}
    (kept : upkeep.Keeps store state (fun other => other ≠ session) db)
    (upholds : upkeep.Upholds store session upkeep.nothing program) :
    upkeep.Upheld store (State.release { state with db := db } session program) ∧
      upkeep.moves state.db (State.release { state with db := db } session program).db := by
  refine ⟨⟨kept.good, fun other => ?_⟩, kept.moves⟩
  by_cases same : other = session
  · subst other
    rw [State.release_sessions_self]
    exact stands_afresh upholds
  · rw [State.release_sessions_of_ne _ same]
    exact kept.others other same

/-- One event that meets the condition. -/
theorem Upheld.step {fine : State DB Lock Write Label Choice Result -> Event Drift Choice -> Prop}
    (steady : upkeep.Steady store fine) (upheld : upkeep.Upheld store state)
    {event : Event Drift Choice} {after : State DB Lock Write Label Choice Result}
    (met : fine state event) (stepped : ReadCommitted.step store state event = some after) :
    upkeep.Upheld store after ∧ upkeep.moves state.db after.db := by
  have stays (session : Nat) :
      upkeep.Keeps store state (fun other => other ≠ session) state.db :=
    ⟨upheld.1, upkeep.stays state.db, fun other _ => upheld.2 other⟩
  cases stepped_of_step stepped with
  | @answered session choice label locks onError writes next program admitted =>
    rcases upheld.session program id with ⟨queued, known, knows, upholds⟩
    rcases upholds.2 state.db (state.view store session) ⟨upheld.1, knows, _, queued, rfl⟩ with
      ⟨allowed, learned, still, onward⟩
    refine ⟨⟨upheld.1, fun other => ?_⟩, upkeep.stays state.db⟩
    by_cases same : other = session
    · subst other
      rw [State.resume_sessions_self]
      refine Or.inr ⟨fun write listed => ?_, learned, still, onward⟩
      rcases List.mem_append.mp listed with old | new
      · exact queued write old
      · exact allowed write new
    · rw [State.resume_sessions_of_ne _ same]
      exact upheld.2 other
  | @committed session choice onError next program =>
    rcases upheld.session program id with ⟨queued, known, -, upholds⟩
    exact upheld_release (steady.commit state _ session met upheld
      (by simp only [State.committing, program]) queued) upholds.2
  | @rolledBack session choice next program =>
    rcases upheld.session program id with ⟨-, known, -, upholds⟩
    exact upheld_release (stays session) upholds
  | @called session choice label writes next program =>
    rcases upheld.session program id with ⟨-, known, -, upholds⟩
    exact upholds.elim
  | @failed session label locks onError writes next program =>
    rcases upheld.session program id with ⟨-, known, -, upholds⟩
    exact upheld_release (stays session) upholds.1
  | @abandoned session onError next program =>
    rcases upheld.session program id with ⟨-, known, -, upholds⟩
    exact upheld_release (stays session) upholds.1
  | @unheard session onError next program =>
    rcases upheld.session program id with ⟨queued, known, -, upholds⟩
    exact upheld_release (steady.commit state _ session met upheld
      (by simp only [State.committing, program]) queued) upholds.1
  | @stopped session =>
    have kept := steady.close state session upheld
    exact upheld_release ⟨kept.good, kept.moves, fun other _ => kept.others other trivial⟩ trivial
  | @drifted change =>
    have kept := steady.drift state change met upheld
    exact ⟨⟨kept.good, fun other => kept.others other trivial⟩, kept.moves⟩

/-- Where the state is upheld, it is upheld in every state of a run that meets the condition,
and the run only moves as it may. -/
theorem Upheld.reaches
    {fine : State DB Lock Write Label Choice Result -> Event Drift Choice -> Prop}
    (steady : upkeep.Steady store fine) (upheld : upkeep.Upheld store state)
    (trans : ∀ {first middle last}, upkeep.moves first middle -> upkeep.moves middle last ->
      upkeep.moves first last) {last : State DB Lock Write Label Choice Result}
    (reached : ReachesWhen store fine state last) :
    upkeep.Upheld store last ∧ upkeep.moves state.db last.db := by
  induction reached with
  | refl => exact ⟨upheld, upkeep.stays state.db⟩
  | step event before met stepped extend =>
    have next := extend.1.step steady met stepped
    exact ⟨next.1, trans extend.2 next.2⟩

/-- All sessions at their start. -/
theorem upheld_start {db : DB} (good : upkeep.good db)
    {programs : Nat -> Program DB Lock Write Label Choice Result}
    (uphold : ∀ session, upkeep.Upholds store session upkeep.nothing (programs session)) :
    upkeep.Upheld store (State.start db programs) :=
  ⟨good, fun session => stands_afresh (uphold session)⟩

end Upkeep

end ReadCommitted
