import LevelChannel.ReadCommitted.Discipline
import LevelChannel.ReadCommitted.Sessions

namespace ReadCommitted

/-!
# Guards on what is written

A fact about the committed state need not be protected by locks.  It is enough that each
write finds the state as the fact needs it at the moment it is applied, which for the writes
of a transaction is its commit.  A database that had a constraint to this effect would make
it so; where it has none, a guard says of which runs the fact holds.

A guard looks at the committed state and at the write that is about to be applied to it, the
earlier writes of the same transaction being applied already.
-/

variable {DB Lock Write Drift Label Choice Result : Type}

namespace Fits

variable {store : Store DB Lock Write Drift} {allows : DB -> Write -> Prop}

instance decidable [∀ db write, Decidable (allows db write)] :
    (db : DB) -> (writes : List Write) -> Decidable (Fits store allows db writes)
  | _, [] => inferInstanceAs (Decidable True)
  | db, write :: writes =>
    have := decidable (store.apply db write) writes
    inferInstanceAs (Decidable (allows db write ∧ Fits store allows (store.apply db write) writes))

theorem keeps {kept : DB -> Prop}
    (step : ∀ db write, kept db -> allows db write -> kept (store.apply db write)) {db : DB}
    {writes : List Write} (start : kept db) (fits : Fits store allows db writes) :
    kept (store.applyAll db writes) := by
  induction writes generalizing db with
  | nil => exact start
  | cons write writes extend =>
    rw [Store.applyAll_cons]
    exact extend (step db write start fits.1) fits.2

end Fits

/-- What an event applies to the committed state: the queued writes where it commits, and
those of a call. -/
def State.applied (state : State DB Lock Write Label Choice Result)
    (event : Event Drift Choice) : List Write :=
  match state.committing event with
  | some session => (state.sessions session).pending
  | none => state.calling event

theorem applied_of_step {store : Store DB Lock Write Drift}
    {state after : State DB Lock Write Label Choice Result} {event : Event Drift Choice}
    (stepped : step store state event = some after) :
    after.db = store.applyAll state.db (state.applied event) ∨
      (∃ session, after.db = store.close session state.db) ∨
        ∃ change, event = .drift change ∧ after.db = store.drift change state.db := by
  cases stepped_of_step stepped with
  | answered program _ =>
    left
    simp only [State.applied, State.committing, State.calling, program]
    rfl
  | committed program =>
    left
    simp only [State.applied, State.committing, program]
    rfl
  | rolledBack program =>
    left
    simp only [State.applied, State.committing, State.calling, program]
    rfl
  | called program =>
    left
    simp only [State.applied, State.committing, State.calling, program]
    rfl
  | failed _ => exact Or.inl rfl
  | abandoned _ => exact Or.inl rfl
  | unheard program =>
    left
    simp only [State.applied, State.committing, program]
    rfl
  | stopped => exact Or.inr (Or.inl ⟨_, rfl⟩)
  | drifted => exact Or.inr (Or.inr ⟨_, rfl, rfl⟩)

/-- A guard: which writes the committed state is ready for, and which changes no session
makes. -/
structure Guard (DB Write Drift : Type) where
  allows : DB -> Write -> Prop
  welcomes : DB -> Drift -> Prop

namespace Guard

variable (guard : Guard DB Write Drift) (store : Store DB Lock Write Drift)

/-- The event finds the committed state ready for whatever it does to it. -/
def Met (state : State DB Lock Write Label Choice Result) (event : Event Drift Choice) : Prop :=
  Fits store guard.allows state.db (state.applied event) ∧
    ∀ change, event = .drift change -> guard.welcomes state.db change

/-- The guard protects the fact. -/
structure Protects (kept : DB -> Prop) : Prop where
  apply : ∀ db write, kept db -> guard.allows db write -> kept (store.apply db write)
  drift : ∀ db change, kept db -> guard.welcomes db change -> kept (store.drift change db)
  close : ∀ db session, kept db -> kept (store.close session db)

variable {guard store} {kept : DB -> Prop}
  {first last : State DB Lock Write Label Choice Result}

theorem Protects.step (protects : guard.Protects store kept)
    {state after : State DB Lock Write Label Choice Result} {event : Event Drift Choice}
    (start : kept state.db) (met : guard.Met store state event)
    (stepped : ReadCommitted.step store state event = some after) : kept after.db := by
  rcases met with ⟨fits, welcome⟩
  cases stepped_of_step stepped with
  | answered _ _ => exact start
  | committed program =>
    simp only [State.applied, State.committing, program] at fits
    exact fits.keeps protects.apply start
  | rolledBack _ => exact start
  | called program =>
    simp only [State.applied, State.committing, State.calling, program] at fits
    exact fits.keeps protects.apply start
  | failed _ => exact start
  | abandoned _ => exact start
  | unheard program =>
    simp only [State.applied, State.committing, program] at fits
    exact fits.keeps protects.apply start
  | stopped => exact protects.close _ _ start
  | drifted => exact protects.drift _ _ start (welcome _ rfl)

theorem Protects.reaches (protects : guard.Protects store kept)
    (reached : ReachesWhen store (guard.Met store) first last) (start : kept first.db) :
    kept last.db :=
  have step : ∀ middle event after, Reaches store (fun _ _ => True) first middle ->
      kept middle.db -> guard.Met store middle event ->
        ReadCommitted.step store middle event = some after -> kept after.db :=
    fun _ _ _ _ kept met stepped => protects.step kept met stepped
  ReachesWhen.keeps step reached start

def holds (guard : Guard DB Write Drift) (store : Store DB Lock Write Drift)
    [∀ db write, Decidable (guard.allows db write)]
    [∀ db change, Decidable (guard.welcomes db change)]
    (state : State DB Lock Write Label Choice Result) (event : Event Drift Choice) : Bool :=
  decide (Fits store guard.allows state.db (state.applied event)) &&
    match event with
    | .drift change => decide (guard.welcomes state.db change)
    | _ => true

theorem holds_sound (guard : Guard DB Write Drift) (store : Store DB Lock Write Drift)
    [∀ db write, Decidable (guard.allows db write)]
    [∀ db change, Decidable (guard.welcomes db change)]
    (state : State DB Lock Write Label Choice Result) (event : Event Drift Choice)
    (holds : guard.holds store state event = true) : guard.Met store state event := by
  rcases Bool.and_eq_true_iff.mp holds with ⟨fits, welcome⟩
  refine ⟨of_decide_eq_true fits, ?_⟩
  rintro change rfl
  exact of_decide_eq_true welcome

end Guard

end ReadCommitted
