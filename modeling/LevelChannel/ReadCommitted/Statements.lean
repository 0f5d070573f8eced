import LevelChannel.ReadCommitted.Interference

namespace ReadCommitted

/-!
# Kinds of statements

Most statements either read, or wait for locks and then read, or write.  Each kind is a
`statement` with the other parts left empty, and has a rule for sessions that have
written nothing yet: such a session sees the committed state, and what it knows of that
state is one stable fact.
-/

variable {DB Lock Write Drift Label Choice Result : Type}

namespace Program

/-- A query.  It sees the committed state, which is what a query on another connection
reads, and the session's own view. -/
def reading (label : Label) (onError : Program DB Lock Write Label Choice Result)
    (next : DB -> DB -> Program DB Lock Write Label Choice Result) :
    Program DB Lock Write Label Choice Result :=
  .statement label [] onError (fun _ _ => []) next

def acquiring (label : Label) (locks : List Lock)
    (onError : Program DB Lock Write Label Choice Result)
    (next : DB -> DB -> Program DB Lock Write Label Choice Result) :
    Program DB Lock Write Label Choice Result :=
  .statement label locks onError (fun _ _ => []) next

/-- Wait for locks, then write what the session's own view calls for. -/
def writing (label : Label) (locks : List Lock)
    (onError : Program DB Lock Write Label Choice Result) (writes : DB -> List Write)
    (next : DB -> Program DB Lock Write Label Choice Result) :
    Program DB Lock Write Label Choice Result :=
  .statement label locks onError (fun _ own => writes own) fun _ own => next own

/-- A write that a constraint may reject, which aborts the transaction. -/
def guarded (label : Label) (locks : List Lock)
    (onError : Program DB Lock Write Label Choice Result) (rejects : DB -> Bool)
    (writes : DB -> List Write) (next : DB -> Program DB Lock Write Label Choice Result) :
    Program DB Lock Write Label Choice Result :=
  .statement label locks onError (fun _ own => if rejects own then [] else writes own)
    fun _ own => if rejects own then .rollback onError else next own

end Program

section Emits

variable {ok : Write -> Prop} {label : Label} {locks : List Lock}
  {onError : Program DB Lock Write Label Choice Result}

theorem Program.Emits.reading {next : DB -> DB -> Program DB Lock Write Label Choice Result}
    (failed : onError.Emits ok) (went : ∀ committed own, (next committed own).Emits ok) :
    (Program.reading label onError next).Emits ok :=
  ⟨failed, fun committed own => ⟨fun _ member => absurd member List.not_mem_nil,
    went committed own⟩⟩

theorem Program.Emits.acquiring {next : DB -> DB -> Program DB Lock Write Label Choice Result}
    (failed : onError.Emits ok) (went : ∀ committed own, (next committed own).Emits ok) :
    (Program.acquiring label locks onError next).Emits ok :=
  ⟨failed, fun committed own => ⟨fun _ member => absurd member List.not_mem_nil,
    went committed own⟩⟩

theorem Program.Emits.writing {writes : DB -> List Write}
    {next : DB -> Program DB Lock Write Label Choice Result} (failed : onError.Emits ok)
    (each : ∀ own write, write ∈ writes own -> ok write) (went : ∀ own, (next own).Emits ok) :
    (Program.writing label locks onError writes next).Emits ok :=
  ⟨failed, fun _ own => ⟨each own, went own⟩⟩

theorem Program.Emits.guarded {rejects : DB -> Bool} {writes : DB -> List Write}
    {next : DB -> Program DB Lock Write Label Choice Result} (failed : onError.Emits ok)
    (each : ∀ own write, write ∈ writes own -> ok write) (went : ∀ own, (next own).Emits ok) :
    (Program.guarded label locks onError rejects writes next).Emits ok := by
  refine ⟨failed, fun _ own => ?_⟩
  by_cases rejected : rejects own = true
  · simp only [rejected, if_true]
    exact ⟨fun _ member => absurd member List.not_mem_nil, failed⟩
  · simp only [rejected, Bool.false_eq_true, if_false]
    exact ⟨each own, went own⟩

end Emits

def Event.steps (session count : Nat) (choice : Choice) : List (Event Drift Choice) :=
  List.replicate count (.run session choice)

theorem permitted_always (state : State DB Lock Write Label Choice Result)
    (event : Event Drift Choice) : Permitted (fun _ _ => True) state event := by
  cases event with
  | run session choice =>
    simp only [Permitted]
    split <;> trivial
  | fail session => trivial
  | lose session => trivial
  | stop session => trivial
  | drift change => trivial

theorem exists_state_of_play (store : Store DB Lock Write Drift)
    (first : State DB Lock Write Label Choice Result) (events : List (Event Drift Choice))
    (fact : State DB Lock Write Label Choice Result -> Bool)
    (played : ((play store first events).any fact) = true) :
    ∃ last, Reaches store (fun _ _ => True) first last ∧ fact last = true := by
  cases run : play store first events with
  | none =>
    rw [run] at played
    cases played
  | some last =>
    rw [run, Option.any_some] at played
    exact ⟨last, reaches_of_play store events (.refl first) run, played⟩

def State.allows (allows : Label -> DB -> Bool)
    (state : State DB Lock Write Label Choice Result) : Event Drift Choice -> Bool
  | .run session _ =>
    match (state.sessions session).program with
    | .statement label _ _ _ _ => allows label state.db
    | .call label _ _ => allows label state.db
    | _ => true
  | _ => true

theorem permitted_of_allows {allows : Label -> DB -> Bool} {permits : Label -> DB -> Prop}
    (sound : ∀ label db, allows label db = true -> permits label db)
    {state : State DB Lock Write Label Choice Result} {event : Event Drift Choice}
    (allowed : state.allows allows event = true) : Permitted permits state event := by
  cases event with
  | run session choice =>
    simp only [State.allows] at allowed
    simp only [Permitted]
    cases program : (state.sessions session).program <;> simp only [program] at allowed ⊢
    · exact sound _ _ allowed
    · exact sound _ _ allowed
  | fail session => trivial
  | lose session => trivial
  | stop session => trivial
  | drift change => trivial

def playAllowed (store : Store DB Lock Write Drift) (allows : Label -> DB -> Bool)
    (state : State DB Lock Write Label Choice Result) :
    List (Event Drift Choice) -> Option (State DB Lock Write Label Choice Result)
  | [] => some state
  | event :: events =>
    if state.allows allows event then
      (step store state event).bind fun after => playAllowed store allows after events
    else none

theorem reaches_of_playAllowed {store : Store DB Lock Write Drift} {allows : Label -> DB -> Bool}
    {permits : Label -> DB -> Prop} (sound : ∀ label db, allows label db = true -> permits label db)
    (events : List (Event Drift Choice))
    {first middle last : State DB Lock Write Label Choice Result}
    (before : Reaches store permits first middle)
    (played : playAllowed store allows middle events = some last) :
    Reaches store permits first last := by
  induction events generalizing middle with
  | nil =>
    simp only [playAllowed, Option.some.injEq] at played
    exact played ▸ before
  | cons event events extend =>
    unfold playAllowed at played
    split at played
    · next allowed =>
      rcases Option.bind_eq_some_iff.mp played with ⟨after, stepped, rest⟩
      exact extend (Reaches.step event before (permitted_of_allows sound allowed) stepped) rest
    · cases played

theorem exists_of_playAllowed (store : Store DB Lock Write Drift) (permits : Label -> DB -> Prop)
    [∀ label db, Decidable (permits label db)]
    (first : State DB Lock Write Label Choice Result) (events : List (Event Drift Choice))
    (fact : DB -> Bool)
    (played : ((playAllowed store (fun label db => permits label db) first events).any
      fun last => fact last.db) = true) :
    ∃ last, Reaches store permits first last ∧ fact last.db = true := by
  cases run : playAllowed store (fun label db => permits label db) first events with
  | none =>
    rw [run] at played
    cases played
  | some last =>
    rw [run, Option.any_some] at played
    exact ⟨last, reaches_of_playAllowed (fun _ _ => of_decide_eq_true) events (.refl first) run,
      played⟩

namespace Contract

variable {contract : Contract DB Lock} {store : Store DB Lock Write Drift}
  {permits : Label -> DB -> Prop} {session : Nat} {held : List Lock} {db : DB}
  {label : Label} {locks : List Lock}
  {onError : Program DB Lock Write Label Choice Result} (P : DB -> Prop)

theorem Safe.reading {next : DB -> DB -> Program DB Lock Write Label Choice Result}
    (stable : Stable contract store session held P) (start : P db)
    (failed : ∀ now, contract.Good now -> contract.Safe store permits session onError [] [] now)
    (went : ∀ now, P now -> contract.Good now -> permits label now ->
      contract.Safe store permits session (next now now) held [] now) :
    contract.Safe store permits session (Program.reading label onError next) held [] db :=
  Safe.statement P stable start (fun now _ good => failed now good) went

theorem Safe.acquiring {next : DB -> DB -> Program DB Lock Write Label Choice Result}
    (stable : Stable contract store session held P) (start : P db)
    (failed : ∀ now, contract.Good now -> contract.Safe store permits session onError [] [] now)
    (went : ∀ now, P now -> contract.Good now -> permits label now ->
      contract.Safe store permits session (next now now) (locks ++ held) [] now) :
    contract.Safe store permits session (Program.acquiring label locks onError next) held [] db :=
  Safe.statement P stable start (fun now _ good => failed now good) went

variable {pending : List Write}

theorem Safe.writing {writes : DB -> List Write}
    {next : DB -> Program DB Lock Write Label Choice Result}
    (stable : Stable contract store session held P) (start : P db)
    (failed : ∀ now, contract.Good now -> contract.Safe store permits session onError [] [] now)
    (went : ∀ now, P now -> contract.Good now -> permits label now ->
      contract.Safe store permits session (next (store.applyAll now pending)) (locks ++ held)
        (pending ++ writes (store.applyAll now pending)) now) :
    contract.Safe store permits session (Program.writing label locks onError writes next)
      held pending db :=
  Safe.statement P stable start (fun now _ good => failed now good) went

theorem Safe.guarded {rejects : DB -> Bool} {writes : DB -> List Write}
    {next : DB -> Program DB Lock Write Label Choice Result}
    (stable : Stable contract store session held P) (start : P db)
    (failed : ∀ now, contract.Good now -> contract.Safe store permits session onError [] [] now)
    (went : ∀ now, P now -> contract.Good now -> permits label now ->
      rejects (store.applyAll now pending) = false ->
      contract.Safe store permits session (next (store.applyAll now pending)) (locks ++ held)
        (pending ++ writes (store.applyAll now pending)) now) : contract.Safe store permits session
      (Program.guarded label locks onError rejects writes next) held pending db := by
  refine Safe.statement P stable start (fun now _ good => failed now good) ?_
  intro now holds good allowed
  by_cases rejected : rejects (store.applyAll now pending) = true
  · simp only [rejected, if_true, List.append_nil]
    exact Safe.rollback P (stable.append locks) holds fun later _ goodLater =>
      failed later goodLater
  · simp only [rejected, Bool.false_eq_true, if_false]
    exact went now holds good allowed (by simpa using rejected)

theorem Safe.last {next : Program DB Lock Write Label Choice Result}
    (stable : Stable contract store session held P) (start : P db)
    (kept : ∀ now, P now -> contract.Good now -> contract.Good (store.applyAll now pending) ∧
        contract.Guarantee session held now (store.applyAll now pending))
    (went : ∀ now, contract.Good now -> contract.Safe store permits session next [] [] now)
    (failed : ∀ now, contract.Good now -> contract.Safe store permits session onError [] [] now) :
    contract.Safe store permits session (.commit onError next) held pending db :=
  Safe.commit P stable start kept (fun now holds good => went _ (kept now holds good).1)
    (fun now _ good => failed now good) fun now holds good => failed _ (kept now holds good).1

end Contract

end ReadCommitted
