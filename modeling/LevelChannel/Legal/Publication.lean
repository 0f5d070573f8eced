import LevelChannel.ReadCommitted.Sessions
import LevelChannel.Legal.Database

namespace LevelChannel.Legal

open ReadCommitted Tables

/-!
# The chain of versions

Publications of one document run one after the other, and each takes for its predecessor
the version of the greatest date.  The links form one chain as long as that version is
the one published last.
-/

variable {db : LegalDb} {rows : List LegalDocumentVersion} {docKind : LegalDocKind}

/-- Exactly one version has no predecessor, and no two versions share one. -/
structure LinearChain (rows : List LegalDocumentVersion) : Prop where
  root : rows ≠ [] -> ∃ first, first ∈ rows ∧ first.previousVersionId = none ∧
    ∀ other, other ∈ rows -> other.previousVersionId = none -> other = first
  forks : ∀ first, first ∈ rows -> ∀ second, second ∈ rows -> ∀ previous,
    first.previousVersionId = some previous -> second.previousVersionId = some previous ->
      first = second

/-- Each version refers to the one before it, the first one to `previous`. -/
def Linked : Option RowId -> List LegalDocumentVersion -> Prop
  | _, [] => True
  | previous, row :: rest => row.previousVersionId = previous ∧ Linked (some row.id) rest

def tip (rows : List LegalDocumentVersion) : Option RowId :=
  rows.getLast?.map LegalDocumentVersion.id

theorem Linked.append {previous : Option RowId} (linked : Linked previous rows)
    {row : LegalDocumentVersion} (next : row.previousVersionId = (tip rows).or previous) :
    Linked previous (rows ++ [row]) := by
  induction rows generalizing previous with
  | nil => exact ⟨by simpa [tip] using next, trivial⟩
  | cons first rest extend =>
    refine ⟨linked.1, extend linked.2 ?_⟩
    rw [next]
    cases rest with
    | nil => rfl
    | cons second others =>
      have same : tip (first :: second :: others) = tip (second :: others) := by
        rw [tip, List.getLast?_cons_cons, tip]
      cases read : tip (second :: others) with
      | none => simp [tip] at read
      | some id =>
        rw [same, read]
        rfl

private theorem Linked.refers {previous : Option RowId} (linked : Linked previous rows)
    {row : LegalDocumentVersion} (member : row ∈ rows) : row.previousVersionId = previous ∨
      ∃ other, other ∈ rows ∧ row.previousVersionId = some other.id := by
  induction rows generalizing previous with
  | nil => cases member
  | cons first rest extend =>
    rcases List.mem_cons.mp member with rfl | later
    · exact Or.inl linked.1
    · right
      rcases extend linked.2 later with start | ⟨other, listed, refers⟩
      · exact ⟨first, List.mem_cons_self, start⟩
      · exact ⟨other, List.mem_cons_of_mem _ listed, refers⟩

private theorem Linked.distinct {previous : Option RowId} (linked : Linked previous rows)
    (unique : Tables.Unique LegalDocumentVersion.id rows)
    (fresh : ∀ row, row ∈ rows -> previous ≠ some row.id)
    {first second : LegalDocumentVersion} (one : first ∈ rows) (two : second ∈ rows)
    (same : first.previousVersionId = second.previousVersionId) : first = second := by
  induction rows generalizing previous with
  | nil => cases one
  | cons head rest extend =>
    have distinct := List.nodup_cons.mp unique
    have later : ∀ row, row ∈ rest -> row.previousVersionId ≠ head.previousVersionId := by
      intro row member clash
      rw [linked.1] at clash
      rcases linked.2.refers member with start | ⟨other, listed, refers⟩
      · exact fresh head List.mem_cons_self (by rw [← clash, start])
      · exact fresh other (List.mem_cons_of_mem _ listed) (by rw [← clash, refers])
    have headFresh : ∀ row, row ∈ rest -> some head.id ≠ some row.id := by
      intro row member clash
      exact distinct.1 (List.mem_map.mpr ⟨row, member, (Option.some.inj clash).symm⟩)
    rcases List.mem_cons.mp one with rfl | oneLater
    · rcases List.mem_cons.mp two with rfl | twoLater
      · rfl
      · exact absurd same.symm (later second twoLater)
    · rcases List.mem_cons.mp two with rfl | twoLater
      · exact absurd same (later first oneLater)
      · exact extend linked.2 distinct.2 headFresh oneLater twoLater

theorem linearChain_of_linked (linked : Linked none rows)
    (unique : Tables.Unique LegalDocumentVersion.id rows) : LinearChain rows where
  root := by
    intro some_row
    cases rows with
    | nil => exact absurd rfl some_row
    | cons first rest =>
      refine ⟨first, List.mem_cons_self, linked.1, ?_⟩
      intro other member start
      refine linked.distinct unique (fun _ _ clash => by cases clash) member
        List.mem_cons_self ?_
      rw [start, linked.1]
  forks first one second two previous refersOne refersTwo :=
    linked.distinct unique (fun _ _ clash => by cases clash) one two
      (by rw [refersOne, refersTwo])

/-! ## The contract of publications -/

/-- Every document has its versions in one chain, in the order of their publication. -/
structure Chained (db : LegalDb) : Prop where
  unique : Tables.Unique LegalDocumentVersion.id db.versions
  linked : ∀ docKind, Linked none (versionsOf db.versions docKind)

/-- Versions are only added, by sessions that hold the document's lock exclusively, under
identifiers they have minted. -/
def Publishes (session : Nat) (held : List LegalLock) (before after : LegalDb) : Prop :=
  ∃ added, after.versions = before.versions ++ added ∧ ∀ row, row ∈ added ->
    exclusive row.docKind ∈ held ∧ row.id.minter = some session

def chainContract : Contract LegalDb LegalLock where
  Good := Chained
  Guarantee := Publishes

theorem Chained.same {before after : LegalDb} (good : Chained before)
    (versions : after.versions = before.versions) : Chained after where
  unique := versions ▸ good.unique
  linked docKind := versions ▸ good.linked docKind

theorem Publishes.same {before after : LegalDb} (versions : after.versions = before.versions)
    (session : Nat) (held : List LegalLock) : Publishes session held before after :=
  ⟨[], by rw [versions, List.append_nil], fun _ member => absurd member List.not_mem_nil⟩

theorem versions_drift (change : LegalDrift) (db : LegalDb) :
    (legalStore.drift change db).versions = db.versions := by
  cases change <;> rfl

theorem chain_steady : Contract.Steady chainContract legalStore where
  drift change now good := Chained.same good (versions_drift change now)
  close session held _ good := ⟨good, Publishes.same rfl session held⟩

theorem stable_versionsOf {contract : Contract LegalDb LegalLock} {session : Nat}
    {held : List LegalLock} {lock : LegalLock} (publishes : contract.Guarantee = Publishes)
    (locked : lock ∈ held) (excludes : legalStore.conflict lock (exclusive docKind) = true)
    (known : List LegalDocumentVersion) : contract.Stable legalStore session held
      fun now => versionsOf now.versions docKind = known := by
  rintro before after same ⟨-, -, ⟨change, rfl⟩ | ⟨other, theirs, -, apart, moved⟩⟩
  · rw [versions_drift]
    exact same
  · rw [publishes] at moved
    rcases moved with ⟨added, grown, who⟩
    have none_added : versionsOf added docKind = [] := by
      rw [versionsOf, List.filter_eq_nil_iff]
      intro row member chosen
      simp only [decide_eq_true_eq] at chosen
      have clash := apart _ locked _ (who row member).1
      rw [chosen, excludes] at clash
      cases clash
    rw [grown, versionsOf, List.filter_append]
    rw [versionsOf] at none_added same
    rw [none_added, List.append_nil, same]

theorem stable_unminted {contract : Contract LegalDb LegalLock} {session : Nat}
    {held : List LegalLock} (publishes : contract.Guarantee = Publishes) (id : RowId)
    (minted : id.minter = some session) : contract.Stable legalStore session held
      fun now => ∀ row, row ∈ now.versions -> row.id ≠ id := by
  rintro before after absent ⟨-, -, ⟨change, rfl⟩ | ⟨other, theirs, different, -, moved⟩⟩
  · rw [versions_drift]
    exact absent
  · rw [publishes] at moved
    rcases moved with ⟨added, grown, who⟩
    rw [grown]
    intro row member
    rcases List.mem_append.mp member with old | new
    · exact absent row old
    · intro clash
      have foreign := (who row new).2
      rw [clash, minted] at foreign
      exact different (Option.some.inj foreign).symm

/-- The version published last has a greater rank than the others. -/
def LastIsGreatest (db : LegalDb) (docKind : LegalDocKind) : Prop :=
  ∀ last, (versionsOf db.versions docKind).getLast? = some last ->
    ∀ row, row ∈ versionsOf db.versions docKind -> row ≠ last -> row.rank < last.rank

instance (docKind : LegalDocKind) : Decidable (LastIsGreatest db docKind) :=
  decidable_of_iff
    (((versionsOf db.versions docKind).getLast?).all fun last =>
      (versionsOf db.versions docKind).all fun row => row = last || row.rank < last.rank)
    (by
      simp only [LastIsGreatest, Option.all_eq_true, List.all_eq_true, Bool.or_eq_true,
        decide_eq_true_eq, ← or_iff_not_imp_left])

theorem latest_eq_last (greatest : LastIsGreatest db docKind) :
    latestLegalVersion db.versions docKind = (versionsOf db.versions docKind).getLast? := by
  rw [latestLegalVersion]
  rw [LastIsGreatest] at greatest
  generalize versionsOf db.versions docKind = found at greatest
  cases read : found.getLast? with
  | none =>
    rw [List.getLast?_eq_none_iff] at read
    rw [read]
    rfl
  | some last =>
    refine List.argmax_eq_some_iff.mpr ⟨List.mem_of_getLast? read, ?_, ?_⟩
    · intro row member
      by_cases same : row = last
      · rw [same]
      · exact le_of_lt (greatest last read row member same)
    · intro row member above
      by_cases same : row = last
      · rw [same]
      · exact absurd above (not_le_of_gt (greatest last read row member same))

theorem Chained.publish (good : Chained db) {row : LegalDocumentVersion}
    (fresh : ∀ other, other ∈ db.versions -> other.id ≠ row.id)
    (next : row.previousVersionId = tip (versionsOf db.versions row.docKind)) :
    Chained (db.apply (.version row)) where
  unique := by
    have absent : get LegalDocumentVersion.id db.versions row.id = none :=
      get_eq_none_iff.mpr fresh
    exact good.unique.insert absent
  linked docKind := by
    have old := good.linked docKind
    simp only [LegalDb.apply, versionsOf, List.filter_append]
    by_cases same : row.docKind = docKind
    · simp only [same, decide_true, List.filter_cons_of_pos, List.filter_nil]
      refine Linked.append old ?_
      rw [next, same, Option.or_none]
    · simp only [same, decide_false, Bool.false_eq_true, not_false_eq_true,
        List.filter_cons_of_neg, List.filter_nil, List.append_nil]
      exact old

/-- The predecessor is only looked up while the version published last is the greatest. -/
def InOrder : LegalLabel -> LegalDb -> Prop
  | .predecessor docKind, now => LastIsGreatest now docKind
  | _, _ => True

theorem createLegalVersion_safe {contract : Contract LegalDb LegalLock}
    {permits : LegalLabel -> LegalDb -> Prop} (publishes : contract.Guarantee = Publishes)
    (session : Nat) (input : CreateLegalVersion)
    (grows : ∀ seen later row, contract.Good later -> permits (.predecessor row.docKind) seen ->
      versionsOf later.versions row.docKind = versionsOf seen.versions row.docKind ->
      row.previousVersionId =
        (latestLegalVersion seen.versions row.docKind).map LegalDocumentVersion.id ->
      (∀ other, other ∈ later.versions -> other.id ≠ row.id) ->
        contract.Good (later.apply (.version row))) (db : LegalDb) :
    contract.Safe legalStore permits session (createLegalVersion session input) [] [] db := by
  unfold createLegalVersion
  extract_lets thrown
  have ended : ∀ now, contract.Good now ->
      contract.Safe legalStore permits session thrown [] [] now :=
    fun _ _ => trivial
  have always (held : List LegalLock) : contract.Stable legalStore session held fun _ => True :=
    Contract.Stable.const session held True
  apply Contract.Safe.reading _ (always _) trivial ended
  intro begun _ _ _
  apply Contract.Safe.acquiring _ (always _) trivial ended
  intro _ _ _ _
  have locked : exclusive input.docKind ∈ [exclusive input.docKind] := List.mem_cons_self
  apply Contract.Safe.reading _ (always _) trivial ended
  intro seen _ _ permitted
  extract_lets previousVersionId
  have unmoved := @stable_versionsOf input.docKind contract session _ _ publishes locked
    (by simp [legalStore, LegalLock.conflict, exclusive, LockMode.conflicts])
    (versionsOf seen.versions input.docKind)
  refine Contract.Safe.reading _ unmoved rfl ended fun called known _ _ => ?_
  extract_lets row
  refine Contract.Safe.guarded _ unmoved known ended ?_
  intro now still good _ accepted
  have absent : ∀ other, other ∈ now.versions -> other.id ≠ row.id := by
    intro other member clash
    have refused : versionRejects row now = true :=
      List.any_eq_true.mpr ⟨other, member, by simp [clash]⟩
    rw [Store.applyAll_nil, refused] at accepted
    cases accepted
  refine Contract.Safe.last _
    ((unmoved.append _).and ((stable_unminted publishes row.id rfl).append _)) ⟨still, absent⟩ ?_
    (fun _ _ => trivial) ended
  rintro later ⟨same, unminted⟩ goodLater
  rw [publishes]
  refine ⟨grows seen later row goodLater permitted same rfl unminted, [row], rfl, ?_⟩
  intro new member
  rw [List.mem_singleton.mp member]
  exact ⟨List.mem_append_right _ locked, rfl⟩

theorem runInSaasOfferMutationGate_emits (accountId : RowId) :
    (runInSaasOfferMutationGate accountId).Emits fun write => write.published = none := by
  unfold runInSaasOfferMutationGate
  extract_lets thrown
  have ended : thrown.Emits fun write : LegalWrite => write.published = none := trivial
  apply Program.Emits.reading ended
  intro begun _
  apply Program.Emits.reading ended
  intro settings _
  split
  · refine Program.Emits.writing ended (fun own write member => ?_) fun _ => ⟨ended, trivial⟩
    rw [List.mem_singleton.mp member, LegalWrite.published]
  · apply Program.Emits.reading ended
    intro seen _
    apply Program.Emits.acquiring ended
    intro _ _
    apply Program.Emits.acquiring ended
    intro granted _
    extract_lets verdict
    split
    · refine Program.Emits.writing ended (fun own write member => ?_) fun _ => ⟨ended, trivial⟩
      rw [List.mem_singleton.mp member, LegalWrite.published]
    · trivial

theorem mutations_quiet {session : Nat} (held : List LegalLock) (db : LegalDb)
    (writes : List LegalWrite) (quiet : ∀ write, write ∈ writes -> write.published = none)
    (good : chainContract.Good db) : chainContract.Good (legalStore.applyAll db writes) ∧
      chainContract.Guarantee session held db (legalStore.applyAll db writes) := by
  have same : (legalStore.applyAll db writes).versions = db.versions := by
    rw [(versions_applyAll writes db).1, List.filterMap_eq_nil_iff.mpr quiet, List.append_nil]
  exact ⟨Chained.same good same, Publishes.same same session held⟩

theorem chained_of_reaches {requests : Nat -> LegalRequest} {state : LegalState}
    (start : Chained db) (reached : Reaches legalStore InOrder (legalOpening db requests) state) :
    Chained state.db := by
  have sound : Contract.Sound chainContract legalStore InOrder (legalOpening db requests) := by
    apply Contract.Sound.start start
    intro session
    cases requests session with
    | publish input =>
      refine createLegalVersion_safe rfl session input (fun seen later row good inOrder => ?_) db
      intro same previous unminted
      refine Chained.publish good unminted ?_
      rw [previous, latest_eq_last inOrder, tip, same]
    | mutate accountId =>
      exact Contract.Safe.of_emits (fun held now writes => mutations_quiet held now writes)
        (runInSaasOfferMutationGate_emits accountId)
        (fun _ member => absurd member List.not_mem_nil) [] db
  exact (sound.reaches chain_steady reached).1.good

/-- While every predecessor is looked up in the order of publication, the versions of a
document form one linear chain. -/
theorem versions_linear {requests : Nat -> LegalRequest} {state : LegalState}
    (start : Chained db) (reached : Reaches legalStore InOrder (legalOpening db requests) state)
    (docKind : LegalDocKind) : LinearChain (versionsOf state.db.versions docKind) := by
  have good := chained_of_reaches start reached
  exact linearChain_of_linked (good.linked docKind)
    (List.Nodup.sublist (List.filter_sublist.map _) good.unique)

def unpublished : LegalDb where
  clock := 100
  setting := ⟨false, 1, ""⟩
  versions := []
  consents := []
  mutations := []

theorem unpublished_chained : Chained unpublished where
  unique := List.nodup_nil
  linked _ := trivial

/-- Versions of the offer for today, tomorrow, yesterday and today. -/
def backDated : Nat -> CreateLegalVersion
  | 0 => ⟨.offer, "v1", "", some 100, .seeded 1⟩
  | 1 => ⟨.offer, "v2", "", some 200, .seeded 1⟩
  | 2 => ⟨.offer, "v3", "", some 50, .seeded 1⟩
  | _ => ⟨.offer, "v4", "", some 100, .seeded 1⟩

def backDatedRow (session : Nat) (previous : Option RowId) : LegalDocumentVersion :=
  (backDated session).row (.minted session 0) 100 100 previous

/-- The third and the fourth version both refer to the second, whose date is the
greatest. -/
theorem versions_fork :
    ¬ ∀ (db : LegalDb) (requests : Nat -> LegalRequest) (state : LegalState), Chained db ->
      Reaches legalStore (fun _ _ => True) (legalOpening db requests) state ->
        ∀ docKind, LinearChain (versionsOf state.db.versions docKind) := by
  intro linear
  rcases exists_of_play legalStore (legalOpening unpublished fun n => .publish (backDated n))
    (Event.steps 0 6 () ++ Event.steps 1 6 () ++ Event.steps 2 6 () ++ Event.steps 3 6 ())
    (fun db => db.versions = [backDatedRow 0 none, backDatedRow 1 (some (.minted 0 0)),
      backDatedRow 2 (some (.minted 1 0)), backDatedRow 3 (some (.minted 1 0))])
    (by decide) with ⟨state, reached, versions⟩
  have chain := linear unpublished _ state unpublished_chained reached .offer
  have third : backDatedRow 2 (some (.minted 1 0)) ∈ versionsOf state.db.versions .offer := by
    rw [versions]
    decide
  have fourth : backDatedRow 3 (some (.minted 1 0)) ∈ versionsOf state.db.versions .offer := by
    rw [versions]
    decide
  have same := chain.forks _ third _ fourth (.minted 1 0) rfl rfl
  revert same
  decide

/-- A test of `InOrder`. -/
private def inOrder : LegalLabel -> LegalDb -> Bool
  | .predecessor docKind, now => decide (LastIsGreatest now docKind)
  | _, _ => true

private theorem inOrder_sound (label : LegalLabel) (now : LegalDb)
    (met : inOrder label now = true) : InOrder label now := by
  cases label with
  | predecessor docKind =>
    have greatest : LastIsGreatest now docKind := of_decide_eq_true met
    exact greatest
  | plain => trivial
  | begun begunAt => trivial
  | waiting versions begunAt => trivial
  | granted versions begunAt => trivial

/-- The first two are published, the second one having waited for the first. -/
theorem versions_linear_unpublished : ∃ state, Reaches legalStore InOrder
        (legalOpening unpublished fun n => .publish (backDated n)) state ∧
      state.db.versions = [backDatedRow 0 none, backDatedRow 1 (some (.minted 0 0))] ∧
      LinearChain (versionsOf state.db.versions .offer) := by
  rcases exists_of_playWhen legalStore (permitted_of_testing inOrder_sound)
    (Event.steps 0 3 () ++ Event.steps 1 1 () ++ Event.steps 0 3 () ++ Event.steps 1 5 ())
    (fun state => state.db.versions = [backDatedRow 0 none, backDatedRow 1 (some (.minted 0 0))])
    (.refl (legalOpening unpublished fun n => .publish (backDated n))) (by decide +kernel)
    with ⟨state, reached, versions⟩
  exact ⟨state, reached.permitted, by simpa using versions,
    versions_linear unpublished_chained reached.permitted .offer⟩

end LevelChannel.Legal
