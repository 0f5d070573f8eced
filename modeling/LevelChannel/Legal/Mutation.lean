import LevelChannel.Legal.Publication

namespace LevelChannel.Legal

open ReadCommitted Tables

/-!
# Writes behind the gate

The locks keep a publication from committing between the grant of a gate's locks and the
commit of its write.  They do not move the gate's snapshot, which is as old as its first
query, nor the time of its transaction.  So the verdict is about the versions in force when the
locks are granted only if none comes into force while the gate waits.
-/

variable {db : LegalDb} {versions more : List LegalDocumentVersion}

/-- What the gate would say of a write at the time of its grant, on the versions that are there
when it commits. -/
def GatedMutation.verdict (row : GatedMutation) : SaasOfferGateVerdict :=
  evaluateSaasOfferGateForMutation
    { row.snapshot with versions := row.versions, now := row.grantedAt } row.accountId

theorem get_prefix {id : RowId} {row : LegalDocumentVersion} (grown : versions <+: more)
    (read : Tables.get LegalDocumentVersion.id versions id = some row) :
    Tables.get LegalDocumentVersion.id more id = some row := by
  rcases grown with ⟨added, rfl⟩
  simp only [Tables.get, List.find?_append] at read ⊢
  rw [read]
  rfl

theorem editorialHops_prefix (grown : versions <+: more) (toVersionId : RowId) (hops : Nat)
    (cursor : Option RowId) (linked : editorialHops versions toVersionId hops cursor = true) :
    editorialHops more toVersionId hops cursor = true := by
  induction hops generalizing cursor with
  | zero => cases linked
  | succ hops extend =>
    cases cursor with
    | none => cases linked
    | some id =>
      cases read : Tables.get LegalDocumentVersion.id versions id with
      | none => simp [editorialHops, read] at linked
      | some row =>
        have still := get_prefix grown read
        by_cases material : row.changeKind ≠ .editorial
        · simp [editorialHops, read, material] at linked
        · by_cases reached : row.previousVersionId = some toVersionId
          · simp [editorialHops, still, material, reached]
          · simp only [editorialHops, read, still, material, reached, if_false] at linked ⊢
            exact extend _ linked

theorem isEditorialOnlyChain_prefix (grown : versions <+: more) {fromVersionId toVersionId : RowId}
    (linked : isEditorialOnlyChain versions fromVersionId toVersionId = true) :
    isEditorialOnlyChain more fromVersionId toVersionId = true := by
  by_cases same : fromVersionId = toVersionId
  · simp [isEditorialOnlyChain, same]
  · simp only [isEditorialOnlyChain, same, if_false] at linked ⊢
    exact editorialHops_prefix grown toVersionId 16 _ linked

/-- The versions of the two documents in force at one time and at another are the same. -/
def SameInForce (versions : List LegalDocumentVersion) (begunAt : Nat)
    (later : List LegalDocumentVersion) (grantedAt : Nat) : Prop :=
  getCurrentLegalVersion later grantedAt .saasOffer =
      getCurrentLegalVersion versions begunAt .saasOffer ∧
    getCurrentLegalVersion later grantedAt .saasProcessorTerms =
      getCurrentLegalVersion versions begunAt .saasProcessorTerms

theorem ok_of_sameInForce {snapshot : GateSnapshot} {accountId : RowId} {grantedAt : Nat}
    (enabled : isSaasOfferGateEnabled snapshot.setting = true) (grown : snapshot.versions <+: more)
    (same : SameInForce snapshot.versions snapshot.now more grantedAt)
    (passed : evaluateSaasOfferGateForMutation snapshot accountId = .ok) :
    evaluateSaasOfferGateForMutation { snapshot with versions := more, now := grantedAt }
      accountId = .ok := by
  have liveLater (docKind : LegalDocKind)
      (kept : getCurrentLegalVersion more grantedAt docKind =
        getCurrentLegalVersion snapshot.versions snapshot.now docKind) :
      { snapshot with versions := more, now := grantedAt }.live docKind =
        snapshot.live docKind := by
    rw [GateSnapshot.live, GateSnapshot.live]
    exact congrArg _ kept
  cases liveOffer : snapshot.live .saasOffer with
  | none =>
    rw [(awaiting_offer accountId enabled liveOffer).2] at passed
    cases passed
  | some offer =>
    cases liveTerms : snapshot.live .saasProcessorTerms with
    | none =>
      rw [awaiting_terms accountId enabled liveTerms] at passed
      cases passed
    | some terms =>
      have before := mutation_verdict accountId enabled liveOffer liveTerms
      have after := @mutation_verdict { snapshot with versions := more, now := grantedAt }
        offer terms accountId enabled ((liveLater .saasOffer same.1).trans liveOffer)
        ((liveLater .saasProcessorTerms same.2).trans liveTerms)
      rcases before.2.mp passed with ⟨consent, read, named⟩
      refine after.2.mpr ⟨consent, read, ?_⟩
      rcases named with both | ⟨terms, anchored⟩
      · exact Or.inl both
      · refine Or.inr ⟨terms, ?_⟩
        simp only [Anchored, Option.any_eq_true] at anchored ⊢
        rcases anchored with ⟨anchor, listed, linked⟩
        exact ⟨anchor, listed, isEditorialOnlyChain_prefix grown linked⟩

/-! ## What comes into force while a gate waits -/

def gateDocuments : List LegalDocKind :=
  [.saasOffer, .saasProcessorTerms]

def inForceAt (versions : List LegalDocumentVersion) (now : Nat) : List LegalDocumentVersion :=
  versions.filter fun row => gateDocuments.contains row.docKind && row.effectiveFrom ≤ now

/-- A session between the beginning of a gate's transaction and the grant of its locks: its
snapshot, once its first query has taken it, and the time of the beginning. -/
def gateAhead : LegalProgram -> Option (Option (List LegalDocumentVersion) × Nat)
  | .statement (.begun begunAt) _ _ _ _ => some (none, begunAt)
  | .statement (.waiting versions begunAt) _ _ _ _ => some (some versions, begunAt)
  | .statement (.granted versions begunAt) _ _ _ _ => some (some versions, begunAt)
  | _ => none

/-- While a gate waits no version of its documents comes into force: no publication of one that
is effective commits, unless the gate has yet to take its snapshot and the version is effective
from before its transaction, and no date of a published one is reached. -/
structure Undisturbed (state : LegalState) (event : LegalEvent) : Prop where
  published : ∀ publisher, state.committing event = some publisher ->
    ∀ row, row ∈ (state.sessions publisher).pending.filterMap LegalWrite.published ->
      gateDocuments.contains row.docKind -> row.effectiveFrom ≤ state.db.clock ->
      ∀ session snapshot begunAt,
        gateAhead (state.sessions session).program = some (snapshot, begunAt) ->
          snapshot = none ∧ row.effectiveFrom ≤ begunAt
  reached : ∀ milliseconds, event = .drift (.tick milliseconds) ->
    ∀ row, row ∈ state.db.versions -> gateDocuments.contains row.docKind ->
      row.effectiveFrom ≤ state.db.clock + milliseconds -> state.db.clock < row.effectiveFrom ->
      ∀ session, gateAhead (state.sessions session).program = none

def Timely (db : LegalDb) (gate : Option (List LegalDocumentVersion) × Nat) : Prop :=
  gate.2 ≤ db.clock ∧
    inForceAt db.versions db.clock = inForceAt (gate.1.getD db.versions) gate.2

theorem inForceAt_append (versions added : List LegalDocumentVersion) (now : Nat) :
    inForceAt (versions ++ added) now = inForceAt versions now ++ inForceAt added now :=
  List.filter_append _ _

theorem inForceAt_congr {earlier later : Nat} (order : earlier ≤ later)
    (known : ∀ row, row ∈ versions -> gateDocuments.contains row.docKind ->
      row.effectiveFrom ≤ later -> row.effectiveFrom ≤ earlier) :
    inForceAt versions later = inForceAt versions earlier := by
  refine List.filter_congr fun row member => ?_
  cases judged : gateDocuments.contains row.docKind with
  | false => simp
  | true =>
    simp only [Bool.true_and, decide_eq_decide]
    exact ⟨known row member judged, fun before => before.trans order⟩

theorem current_eq_latest (versions : List LegalDocumentVersion) (now : Nat)
    {docKind : LegalDocKind} (judged : gateDocuments.contains docKind) :
    getCurrentLegalVersion versions now docKind =
      latestLegalVersion (inForceAt versions now) docKind := by
  have same : versionsOf (versions.filter fun row => row.effectiveFrom ≤ now) docKind =
      versionsOf (inForceAt versions now) docKind := by
    simp only [versionsOf, inForceAt, List.filter_filter]
    refine List.filter_congr fun row _ => ?_
    by_cases kind : row.docKind = docKind
    · rw [kind, judged, Bool.true_and]
    · simp [kind]
  rw [getCurrentLegalVersion, latestLegalVersion, same, latestLegalVersion]

theorem Timely.sameInForce {snapshot : List LegalDocumentVersion} {begunAt : Nat}
    (timely : Timely db (some snapshot, begunAt)) :
    SameInForce snapshot begunAt db.versions db.clock := by
  have same : inForceAt db.versions db.clock = inForceAt snapshot begunAt := timely.2
  constructor
  · rw [current_eq_latest _ _ (by decide), same, ← current_eq_latest _ _ (by decide)]
  · rw [current_eq_latest _ _ (by decide), same, ← current_eq_latest _ _ (by decide)]

/-- A statement hands on what it knows of the gate. -/
def Follows (label : LegalLabel) (now : LegalDb) (next : LegalProgram) : Prop :=
  ∀ gate, gateAhead next = some gate ->
    match label with
    | .begun begunAt => gate = (none, begunAt) ∨ gate = (some now.versions, begunAt)
    | .waiting versions begunAt => gate = (some versions, begunAt)
    | _ => gate = (none, now.clock)

/-- The statements of a gate come one after the other, and nothing comes after its end. -/
def Phased : LegalProgram -> Prop
  | .done _ => True
  | .crashed => True
  | .statement label _ onError _ next => (∃ reply, onError = .done reply) ∧
      ∀ committed own, Follows label committed (next committed own) ∧
        Phased (next committed own)
  | .commit onError next => (∃ reply, onError = .done reply) ∧ ∃ reply, next = .done reply
  | .rollback next => ∃ reply, next = .done reply
  | .call _ _ _ => False

theorem phased_done {program : LegalProgram} (ended : ∃ reply, program = .done reply) :
    Phased program := by
  rcases ended with ⟨reply, rfl⟩
  trivial

theorem Phased.inherited :
    Inherited fun (_ : List LegalLock) (_ : List LegalWrite) (program : LegalProgram) =>
      Phased program where
  crashed := trivial
  statement phased := ⟨phased_done phased.1, fun committed own => (phased.2 committed own).2⟩
  commit phased := ⟨phased_done phased.1, phased_done phased.2⟩
  rollback phased := phased_done phased
  call phased := phased.elim

theorem follows_of_none {label : LegalLabel} {now : LegalDb} {next : LegalProgram}
    (nothing : gateAhead next = none) : Follows label now next := by
  intro gate ahead
  rw [nothing] at ahead
  cases ahead

theorem LegalRequest.phased (session : Nat) (request : LegalRequest) :
    Phased (request.program session) := by
  have thrown : ∃ reply, (.done .thrown : LegalProgram) = .done reply := ⟨_, rfl⟩
  have committing (reply : LegalReply) :
      Phased (.commit (.done .thrown) (.done reply) : LegalProgram) := ⟨thrown, ⟨_, rfl⟩⟩
  cases request with
  | publish input =>
    refine ⟨thrown, fun begun _ => ⟨follows_of_none rfl, thrown, fun _ _ =>
      ⟨follows_of_none rfl, thrown, fun _ own => ⟨follows_of_none rfl, thrown, fun called _ =>
        ⟨follows_of_none rfl, thrown, fun _ own => ?_⟩⟩⟩⟩⟩
    dsimp only
    split
    · exact ⟨follows_of_none rfl, thrown⟩
    · exact ⟨follows_of_none rfl, committing _⟩
  | mutate accountId =>
    refine ⟨thrown, fun begun _ => ⟨fun gate ahead => (Option.some.inj ahead).symm, thrown,
      fun settings _ => ?_⟩⟩
    dsimp only
    split
    · exact ⟨follows_of_none rfl, thrown, fun _ _ => ⟨follows_of_none rfl, committing _⟩⟩
    · refine ⟨fun gate ahead => Or.inl (Option.some.inj ahead).symm, thrown, fun seen _ =>
        ⟨fun gate ahead => Or.inr (Option.some.inj ahead).symm, thrown, fun _ _ =>
          ⟨fun gate ahead => (Option.some.inj ahead).symm, thrown, fun granted _ => ?_⟩⟩⟩
      dsimp only
      split
      · exact ⟨follows_of_none rfl, thrown, fun _ _ => ⟨follows_of_none rfl, committing _⟩⟩
      · exact ⟨follows_of_none rfl, ⟨_, rfl⟩⟩

/-- Every gate that waits will judge on what is in force. -/
def AllTimely (state : LegalState) : Prop :=
  ∀ session gate, gateAhead (state.sessions session).program = some gate ->
    Timely state.db gate

theorem Follows.timely {label : LegalLabel} {locks : List LegalLock} {onError next : LegalProgram}
    {writes : LegalDb -> LegalDb -> List LegalWrite} {rest : LegalDb -> LegalDb -> LegalProgram}
    (before : ∀ gate, gateAhead (.statement label locks onError writes rest) = some gate ->
      Timely db gate) (follows : Follows label db next)
    {gate : Option (List LegalDocumentVersion) × Nat} (ahead : gateAhead next = some gate) :
    Timely db gate := by
  have handed := follows gate ahead
  cases label with
  | begun begunAt =>
    have timely := before _ rfl
    rcases handed with rfl | rfl
    · exact timely
    · exact timely
  | waiting versions begunAt =>
    rw [handed]
    exact before _ rfl
  | plain =>
    rw [handed]
    exact ⟨Nat.le_refl _, rfl⟩
  | predecessor docKind =>
    rw [handed]
    exact ⟨Nat.le_refl _, rfl⟩
  | granted versions begunAt =>
    rw [handed]
    exact ⟨Nat.le_refl _, rfl⟩

theorem Timely.publish {gate : Option (List LegalDocumentVersion) × Nat} {after : LegalDb}
    (timely : Timely db gate) {added : List LegalDocumentVersion} (clock : after.clock = db.clock)
    (grown : after.versions = db.versions ++ added)
    (harmless : ∀ row, row ∈ added -> gateDocuments.contains row.docKind ->
      row.effectiveFrom ≤ db.clock -> gate.1 = none ∧ row.effectiveFrom ≤ gate.2) :
    Timely after gate := by
  rcases gate with ⟨snapshot, begunAt⟩
  rcases timely with ⟨begun, same⟩
  refine ⟨clock ▸ begun, ?_⟩
  rw [clock, grown, inForceAt_append, same]
  cases snapshot with
  | none =>
    rw [Option.getD_none, Option.getD_none, inForceAt_append]
    exact congrArg _ (inForceAt_congr begun fun row member judged effective =>
      (harmless row member judged effective).2)
  | some versions =>
    have nothing : inForceAt added db.clock = [] := by
      refine List.filter_eq_nil_iff.mpr fun row member chosen => ?_
      simp only [Bool.and_eq_true, decide_eq_true_eq] at chosen
      cases (harmless row member chosen.1 chosen.2).1
    rw [nothing, List.append_nil]
    rfl

theorem Timely.drift {gate : Option (List LegalDocumentVersion) × Nat} (timely : Timely db gate)
    (change : LegalDrift) (unreached : ∀ milliseconds, change = .tick milliseconds -> ∀ row,
      row ∈ db.versions -> gateDocuments.contains row.docKind ->
        row.effectiveFrom ≤ db.clock + milliseconds -> row.effectiveFrom ≤ db.clock) :
    Timely (legalStore.drift change db) gate := by
  cases change with
  | tick milliseconds =>
    refine ⟨timely.1.trans (Nat.le_add_right _ _), ?_⟩
    exact (inForceAt_congr (Nat.le_add_right _ _) (unreached milliseconds rfl)).trans timely.2
  | setting setting => exact timely
  | consent step => exact timely

theorem AllTimely.step {state after : LegalState} {event : LegalEvent}
    (phased : state.Each fun _ _ _ program => Phased program) (timely : AllTimely state)
    (undisturbed : Undisturbed state event)
    (stepped : ReadCommitted.step legalStore state event = some after) : AllTimely after := by
  -- a session that ends leaves the other gates as they are
  have ends (session : Nat) (program : LegalProgram) (nothing : gateAhead program = none)
      {db : LegalDb} (others : ∀ other gate, gateAhead (state.sessions other).program =
        some gate -> Timely db gate) :
      AllTimely (State.release { state with db := db } session program) := by
    intro other gate ahead
    by_cases same : other = session
    · rw [same, State.release_sessions_self, nothing] at ahead
      cases ahead
    · rw [State.release_sessions_of_ne _ same] at ahead
      exact others other gate ahead
  have nothing (program : LegalProgram) (ended : ∃ reply, program = .done reply) :
      gateAhead program = none := by
    rcases ended with ⟨reply, rfl⟩
    rfl
  have commits (session : Nat) (committing : state.committing event = some session) (other : Nat)
      (gate : Option (List LegalDocumentVersion) × Nat)
      (ahead : gateAhead (state.sessions other).program = some gate) :
      Timely (state.view legalStore session) gate := by
    have written := versions_applyAll (state.sessions session).pending state.db
    refine (timely other gate ahead).publish written.2 written.1 fun row member judged effective => ?_
    exact undisturbed.published session committing row member judged effective other gate.1 gate.2
      ahead
  cases stepped_of_step stepped with
  | @answered session _ _ _ _ _ _ program _ =>
    intro other gate ahead
    by_cases same : other = session
    · subst other
      have here := phased session
      have before := timely session
      rw [program] at here before
      rw [State.resume_sessions_self] at ahead
      exact (here.2 _ _).1.timely before ahead
    · rw [State.resume_sessions_of_ne _ same] at ahead
      exact timely other gate ahead
  | @committed session _ _ _ program =>
    have here := phased session
    rw [program] at here
    exact ends session _ (nothing _ here.2)
      (commits session (by simp only [State.committing, program]))
  | @rolledBack session _ _ program =>
    have here := phased session
    rw [program] at here
    exact ends session _ (nothing _ here) timely
  | @called session _ _ _ _ program =>
    have here := phased session
    rw [program] at here
    exact here.elim
  | @failed session _ _ _ _ _ program =>
    have here := phased session
    rw [program] at here
    exact ends session _ (nothing _ here.1) timely
  | @abandoned session _ _ program =>
    have here := phased session
    rw [program] at here
    exact ends session _ (nothing _ here.1) timely
  | @unheard session _ _ program =>
    have here := phased session
    rw [program] at here
    exact ends session _ (nothing _ here.1)
      (commits session (by simp only [State.committing, program]))
  | @stopped session => exact ends session _ rfl timely
  | @drifted change =>
    intro other gate ahead
    refine (timely other gate ahead).drift change ?_
    rintro milliseconds rfl row member judged effective
    by_contra late
    have none_ahead := undisturbed.reached milliseconds rfl row member judged effective
      (Nat.not_le.mp late) other
    rw [none_ahead] at ahead
    cases ahead

/-- The locks of a gate are granted while the versions in force are those its snapshot and the
time of its transaction give. -/
def Unsuperseded : LegalLabel -> LegalDb -> Prop
  | .granted versions begunAt, now => SameInForce versions begunAt now.versions now.clock
  | _, _ => True

theorem unsuperseded_of_undisturbed {requests : Nat -> LegalRequest} {state : LegalState}
    (reached : ReachesWhen legalStore Undisturbed (legalOpening db requests) state) :
    Reaches legalStore Unsuperseded (legalOpening db requests) state := by
  have phased {middle : LegalState}
      (before : Reaches legalStore (fun _ _ => True) (legalOpening db requests) middle) :
      middle.Each fun _ _ _ program => Phased program :=
    State.each_of_reaches (fun _ => Phased.inherited)
      (fun session => (requests session).phased session) before
  have step : ∀ middle event after,
      Reaches legalStore (fun _ _ => True) (legalOpening db requests) middle ->
      Reaches legalStore Unsuperseded (legalOpening db requests) middle ∧ AllTimely middle ->
      Undisturbed middle event -> ReadCommitted.step legalStore middle event = some after ->
        Reaches legalStore Unsuperseded (legalOpening db requests) after ∧ AllTimely after := by
    rintro middle event after before ⟨going, timely⟩ undisturbed stepped
    refine ⟨.step event going ?_ stepped, timely.step (phased before) undisturbed stepped⟩
    cases event with
    | run session choice =>
      simp only [Permitted]
      cases program : (middle.sessions session).program with
      | statement label locks onError writes next =>
        cases label with
        | granted versions begunAt =>
          refine (timely session (some versions, begunAt) ?_).sameInForce
          rw [program, gateAhead]
        | plain => trivial
        | predecessor docKind => trivial
        | begun begunAt => trivial
        | waiting versions begunAt => trivial
      | call label writes next =>
        have here := phased before session
        rw [program] at here
        exact here.elim
      | done result => trivial
      | crashed => trivial
      | commit onError next => trivial
      | rollback next => trivial
    | fail session => trivial
    | lose session => trivial
    | stop session => trivial
    | drift change => trivial
  refine (ReachesWhen.keeps step reached ⟨.refl _, ?_⟩).1
  intro session gate ahead
  have first : gateAhead ((requests session).program session) = none := by
    cases requests session <;> rfl
  rw [show ((legalOpening db requests).sessions session).program =
    (requests session).program session from rfl, first] at ahead
  cases ahead

/-! ## The contract of the gate -/

/-- Every write that has passed the gate passes it on the versions of its commit. -/
def Judged (db : LegalDb) : Prop :=
  ∀ row, row ∈ db.mutations -> row.verdict = .ok

def gateContract : Contract LegalDb LegalLock where
  Good := Judged
  Guarantee := Publishes

theorem gate_steady : Contract.Steady gateContract legalStore where
  drift change now good := by
    cases change <;> exact good
  close session held now good := ⟨good, Publishes.same rfl session held⟩

theorem stable_published (session : Nat) (held : List LegalLock)
    (versions : List LegalDocumentVersion) :
    gateContract.Stable legalStore session held fun now => versions <+: now.versions := by
  rintro before after known ⟨-, -, ⟨change, rfl⟩ | ⟨other, theirs, -, -, added, grown, -⟩⟩
  · cases change <;> exact known
  · rw [grown]
    exact known.trans (List.prefix_append _ _)

theorem stable_judged (session : Nat) {held : List LegalLock} (offer : shared .saasOffer ∈ held)
    (terms : shared .saasProcessorTerms ∈ held) (versions : List LegalDocumentVersion) :
    gateContract.Stable legalStore session held fun now =>
      versionsOf now.versions .saasOffer = versionsOf versions .saasOffer ∧
        versionsOf now.versions .saasProcessorTerms = versionsOf versions .saasProcessorTerms :=
  (stable_versionsOf rfl offer (by decide) _).and (stable_versionsOf rfl terms (by decide) _)

theorem current_of_versionsOf {docKind : LegalDocKind}
    (same : versionsOf more docKind = versionsOf versions docKind) (now : Nat) :
    getCurrentLegalVersion more now docKind = getCurrentLegalVersion versions now docKind := by
  have swap (rows : List LegalDocumentVersion) :
      versionsOf (rows.filter fun row => row.effectiveFrom ≤ now) docKind =
        (versionsOf rows docKind).filter fun row => row.effectiveFrom ≤ now := by
    rw [versionsOf, versionsOf, List.filter_filter, List.filter_filter]
    exact List.filter_congr fun row _ => Bool.and_comm _ _
  rw [getCurrentLegalVersion, latestLegalVersion, swap, same, ← swap, ← latestLegalVersion,
    ← getCurrentLegalVersion]

theorem gate_commit {session : Nat} {held : List LegalLock} {accountId : RowId}
    {snapshot : GateSnapshot} {grantedAt : Nat} (P : LegalDb -> Prop)
    (stable : gateContract.Stable legalStore session held P)
    (passes : ∀ now, P now -> GatedMutation.verdict
      ⟨accountId, snapshot, grantedAt, now.versions⟩ = .ok) (now : LegalDb) (start : P now) :
    gateContract.Safe legalStore Unsuperseded session
      (.commit (.done .thrown) (.done .passed) : LegalProgram) held
      [.mutation accountId snapshot grantedAt] now := by
  refine Contract.Safe.last P stable start ?_ (fun _ _ => trivial) (fun _ _ => trivial)
  intro later holds good
  refine ⟨?_, Publishes.same rfl session held⟩
  intro other member
  rcases List.mem_append.mp member with old | new
  · exact good other old
  · rw [List.mem_singleton.mp new]
    exact passes later holds

theorem runInSaasOfferMutationGate_safe (session : Nat) (accountId : RowId) (db : LegalDb) :
    gateContract.Safe legalStore Unsuperseded session (runInSaasOfferMutationGate accountId)
      [] [] db := by
  unfold runInSaasOfferMutationGate
  extract_lets thrown
  have ended : ∀ now, gateContract.Good now ->
      gateContract.Safe legalStore Unsuperseded session thrown [] [] now :=
    fun _ _ => trivial
  have always (held : List LegalLock) :
      gateContract.Stable legalStore session held fun _ => True :=
    Contract.Stable.const session held True
  apply Contract.Safe.reading _ (always _) trivial ended
  intro begun _ _ _
  apply Contract.Safe.reading _ (always _) trivial ended
  intro settings _ _ _
  split
  · next disabled =>
    apply Contract.Safe.writing _ (always _) trivial ended
    intro now _ _ _
    refine gate_commit _ (always _) (fun later _ => ?_) now trivial
    simp [GatedMutation.verdict, evaluateSaasOfferGateForMutation, disabled]
  · next enabled =>
    simp only [Bool.not_eq_false] at enabled
    apply Contract.Safe.reading _ (always _) trivial ended
    intro seen _ _ _
    extract_lets snapshot
    have published := stable_published session [] seen.versions
    refine Contract.Safe.acquiring _ published (List.prefix_refl _) ended
      fun _ offered _ _ => ?_
    refine Contract.Safe.acquiring _ (published.append _) offered ended
      fun granted grown _ same => ?_
    extract_lets
    split
    · next passed =>
      -- from the grant on the locks keep the versions of both documents
      have kept := (stable_published session _ seen.versions).and
        (@stable_judged session ([shared .saasProcessorTerms] ++ ([shared .saasOffer] ++ []))
          (by decide) (by decide) granted.versions)
      refine Contract.Safe.writing _ kept ⟨grown, rfl, rfl⟩ ended fun now known _ _ => ?_
      refine gate_commit _ kept (fun later unchanged => ?_) now known
      rcases unchanged with ⟨longer, offer, terms⟩
      refine ok_of_sameInForce enabled longer ?_ passed
      exact ⟨(current_of_versionsOf offer _).trans same.1,
        (current_of_versionsOf terms _).trans same.2⟩
    · exact Contract.Safe.rollback _ (always _) trivial fun _ _ _ => trivial

/-- In an undisturbed run every write behind the gate is one that the gate lets pass on the
versions published by the time it commits. -/
theorem mutations_judged {requests : Nat -> LegalRequest} {state : LegalState}
    (start : db.mutations = [])
    (reached : ReachesWhen legalStore Undisturbed (legalOpening db requests) state)
    (row : GatedMutation) (written : row ∈ state.db.mutations) : row.verdict = .ok := by
  have good : Judged db := by
    intro other member
    rw [start] at member
    cases member
  have sound : Contract.Sound gateContract legalStore Unsuperseded
      (legalOpening db requests) := by
    apply Contract.Sound.start good
    intro session
    cases requests session with
    | publish input =>
      exact createLegalVersion_safe rfl session input (fun _ _ _ judged _ _ _ _ => judged) db
    | mutate accountId => exact runInSaasOfferMutationGate_safe session accountId db
  exact (sound.reaches gate_steady (unsuperseded_of_undisturbed reached)).1.good row written

def accepted : LegalDb where
  clock := 5
  setting := ⟨false, 1, ""⟩
  versions := [publishedAt .saasOffer "v1" 1, publishedAt .saasProcessorTerms "v1" 2]
  consents := newTerms.consents
  mutations := []

/-- The first session publishes a second offer, for now or for later, the others write for the
teacher. -/
def supersede (effectiveFrom : Option Nat) : Nat -> LegalRequest
  | 0 => .publish ⟨.saasOffer, "v2", "", effectiveFrom, .seeded 1⟩
  | _ => .mutate (.seeded 7)

/-- A gate that has issued its first query before the publication commits, and is granted
its locks after that, lets the consent to the old offer pass. -/
theorem mutation_on_superseded :
    ¬ ∀ (db : LegalDb) (requests : Nat -> LegalRequest) (state : LegalState),
      db.mutations = [] -> Reaches legalStore (fun _ _ => True) (legalOpening db requests) state ->
        ∀ row, row ∈ state.db.mutations -> row.verdict = .ok := by
  intro judged
  rcases exists_of_play legalStore (legalOpening accepted (supersede none))
    (Event.steps 0 4 () ++ Event.steps 1 3 () ++ Event.steps 0 2 () ++ Event.steps 1 4 ())
    (fun db => ∃ row, row ∈ db.mutations ∧ row.verdict ≠ .ok)
    (by decide +kernel) with ⟨state, reached, row, written, refused⟩
  exact refused (judged accepted (supersede none) state rfl reached row written)

/-- A test of `Undisturbed` for runs in which no time passes. -/
private def undisturbed (state : LegalState) (event : LegalEvent) : Bool :=
  (match event with
    | .drift _ => false
    | _ => true) &&
  (state.committing event).all fun publisher =>
    ((state.sessions publisher).pending.filterMap LegalWrite.published).all fun row =>
      state.db.clock < row.effectiveFrom

private theorem undisturbed_sound (state : LegalState) (event : LegalEvent)
    (met : undisturbed state event = true) : Undisturbed state event := by
  unfold undisturbed at met
  rw [Bool.and_eq_true] at met
  constructor
  · intro publisher committing row member _ effective
    have tested := met.2
    rw [committing, Option.all_some] at tested
    have later := List.all_eq_true.mp tested row member
    exact absurd effective (Nat.not_le.mpr (of_decide_eq_true later))
  · rintro milliseconds rfl
    cases met.1

/-- A gate that waits for the publication of an offer of the next day lets the write pass. -/
theorem mutations_judged_accepted : ∃ state, ReachesWhen legalStore Undisturbed
        (legalOpening accepted (supersede (some 86400000))) state ∧
      state.db.versions.length = 3 ∧ state.db.mutations.length = 1 ∧
      ∀ row, row ∈ state.db.mutations -> row.verdict = .ok := by
  rcases exists_of_playWhen legalStore undisturbed_sound
    (Event.steps 0 4 () ++ Event.steps 1 3 () ++ Event.steps 0 2 () ++ Event.steps 1 4 ())
    (fun state => state.db.versions.length = 3 && state.db.mutations.length = 1)
    (.refl (legalOpening accepted (supersede (some 86400000)))) (by decide +kernel)
    with ⟨state, reached, published⟩
  rw [Bool.and_eq_true, decide_eq_true_eq, decide_eq_true_eq] at published
  exact ⟨state, reached, published.1, published.2, mutations_judged rfl reached⟩

end LevelChannel.Legal
