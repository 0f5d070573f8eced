import LevelChannel.ReadCommitted.Statements

namespace ReadCommitted

/-!
# A session on its own

What a program does when nothing comes between its statements: no other session runs, the
world stands still, and nothing fails.  This is the reading under which a function is said
to succeed, and it is one of the runs of the database.
-/

variable {DB Lock Write Drift Label Choice Result : Type}

namespace Program

/-- The committed state that the program leaves behind and its result.  Calls to the world
outside all get the same answer. -/
def alone (store : Store DB Lock Write Drift) (answer : Choice) :
    Program DB Lock Write Label Choice Result -> DB -> List Write -> DB × Option Result
  | .done result, db, _ => (db, some result)
  | .crashed, db, _ => (db, none)
  | .statement _ _ _ writes next, db, pending =>
    alone store answer (next db (store.applyAll db pending)) db
      (pending ++ writes db (store.applyAll db pending))
  | .commit _ next, db, pending => alone store answer next (store.applyAll db pending) []
  | .rollback next, db, _ => alone store answer next db []
  | .call _ writes next, db, pending =>
    alone store answer (next db answer) (store.applyAll db (writes db answer)) pending

def Answers (kind : Result -> Prop) : Program DB Lock Write Label Choice Result -> Prop
  | .done result => kind result
  | .crashed => True
  | .statement _ _ _ _ next => ∀ committed own, (next committed own).Answers kind
  | .commit _ next => next.Answers kind
  | .rollback next => next.Answers kind
  | .call _ _ next => ∀ committed choice, (next committed choice).Answers kind

theorem Answers.alone {store : Store DB Lock Write Drift} {answer : Choice}
    {kind : Result -> Prop} {program : Program DB Lock Write Label Choice Result}
    (answers : program.Answers kind) (db : DB) (pending : List Write) {result : Result}
    (ended : (program.alone store answer db pending).2 = some result) : kind result := by
  induction program generalizing db pending with
  | done found =>
    cases ended
    exact answers
  | crashed => cases ended
  | statement label locks onError writes next _ reached =>
    exact reached _ _ (answers _ _) _ _ ended
  | commit onError next _ reached => exact reached answers _ _ ended
  | rollback next reached => exact reached answers _ _ ended
  | call label writes next reached => exact reached _ _ (answers _ _) _ _ ended

def result? : Program DB Lock Write Label Choice Result -> Option Result
  | .done result => some result
  | _ => none

end Program

def State.Only (state : State DB Lock Write Label Choice Result) (session : Nat) : Prop :=
  ∀ entry, entry ∈ state.granted -> entry.1 = session

section Alone

variable {store : Store DB Lock Write Drift} {answer : Choice} {session : Nat}

theorem State.Only.grant {state : State DB Lock Write Label Choice Result}
    (only : state.Only session) (locks : List Lock) : (state.grant session locks).Only session := by
  intro entry member
  rcases List.mem_append.mp member with new | old
  · rcases List.mem_map.mp new with ⟨lock, -, rfl⟩
    rfl
  · exact only entry old

theorem State.Only.release {state : State DB Lock Write Label Choice Result}
    (only : state.Only session) (program : Program DB Lock Write Label Choice Result) :
    (state.release session program).Only session :=
  fun entry member => only entry (List.mem_filter.mp member).1

theorem State.Only.admits {state : State DB Lock Write Label Choice Result}
    (only : state.Only session) (locks : List Lock) : state.admits store session locks = true := by
  refine List.all_eq_true.mpr fun entry member => ?_
  rw [decide_eq_true (only entry member), Bool.true_or]

theorem reaches_alone {first state : State DB Lock Write Label Choice Result}
    (before : Reaches store (fun _ _ => True) first state) (only : state.Only session) :
    ∃ last, Reaches store (fun _ _ => True) first last ∧
      (last.db, (last.sessions session).program.result?) =
        (state.sessions session).program.alone store answer state.db
          (state.sessions session).pending := by
  obtain ⟨program, pending, here⟩ :
      ∃ program pending, state.sessions session = ⟨program, pending⟩ := ⟨_, _, rfl⟩
  rw [here]
  have run {after : State DB Lock Write Label Choice Result}
      (stepped : step store state (.run session answer) = some after) :
      Reaches store (fun _ _ => True) first after :=
    Reaches.step _ before (permitted_always state _) stepped
  induction program generalizing state pending with
  | done result => exact ⟨state, before, by rw [here]; rfl⟩
  | crashed => exact ⟨state, before, by rw [here]; rfl⟩
  | statement label locks onError writes next _ reached =>
    have stepped := run (by rw [step, here]; exact if_pos (only.admits locks))
    have own : state.view store session = store.applyAll state.db pending := by
      rw [State.view, here]
    rcases reached _ _ stepped (only.grant locks) _ (State.resume_sessions_self ..)
      (Reaches.step _ stepped (permitted_always _ _)) with ⟨last, there, same⟩
    exact ⟨last, there, by rw [same, own]; rfl⟩
  | commit onError next _ reached =>
    have stepped := run (by rw [step, here])
    have own : state.view store session = store.applyAll state.db pending := by
      rw [State.view, here]
    have free : (State.release { state with db := state.view store session } session
        next).Only session := fun entry member => only entry (List.mem_filter.mp member).1
    rcases reached stepped free _ (State.release_sessions_self ..)
      (Reaches.step _ stepped (permitted_always _ _)) with ⟨last, there, same⟩
    exact ⟨last, there, by rw [same, State.release_db, own]; rfl⟩
  | rollback next reached =>
    have stepped := run (by rw [step, here])
    rcases reached stepped (only.release next) _ (State.release_sessions_self ..)
      (Reaches.step _ stepped (permitted_always _ _)) with ⟨last, there, same⟩
    exact ⟨last, there, by rw [same]; rfl⟩
  | call label writes next reached =>
    have stepped := run (by rw [step, here])
    rcases reached _ _ stepped only _ (State.resume_sessions_self ..)
      (Reaches.step _ stepped (permitted_always _ _)) with ⟨last, there, same⟩
    exact ⟨last, there, by rw [same]; rfl⟩

end Alone

end ReadCommitted
