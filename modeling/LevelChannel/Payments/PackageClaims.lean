import LevelChannel.Payments.Journal
import LevelChannel.ReadCommitted.Sessions

namespace LevelChannel.Journal

open ReadCommitted Tables

/-!
# Packages in the journal

An item of a claim is a slot or a package purchase.  Slots are locked, and refused where
they are paid; for a package both creation functions only look at whose it is.  Whether a
package is claimed twice is then decided where a claim is committed: the journal keeps
every package in one active claim exactly as long as no claim is committed for a package
that an active claim already has.
-/

def NamesPackage (db : Db) (claim : PaymentClaim) (purchaseId : RowId) : Prop :=
  ∃ item, item ∈ db.claimItems ∧ item.claimId = claim.id ∧
    item.packagePurchaseId = some purchaseId

def PackagesOnce (db : Db) : Prop :=
  ∀ first, first ∈ db.claims -> ∀ second, second ∈ db.claims ->
    first.status.active = true -> second.status.active = true ->
      ∀ purchaseId, NamesPackage db first purchaseId ->
        NamesPackage db second purchaseId -> first = second

def PackageClaimed (db : Db) (purchaseId : RowId) : Prop :=
  ∃ claim, claim ∈ db.claims ∧ claim.status.active = true ∧
    NamesPackage db claim purchaseId

def CommitsUnclaimed (state : State) (event : Event) : Prop :=
  ∀ session, state.committing event = some session -> ∀ record purchaseId,
    Write.claimItem record ∈ (state.sessions session).pending ->
      record.packagePurchaseId = some purchaseId -> ¬ PackageClaimed state.db purchaseId

/-! ## What the journal commits -/

inductive JournalWrites : List Write -> Prop
  | nothing : JournalWrites []
  | resolves (row : PaymentClaim) : JournalWrites [.claim (.replace row)]
  | opens (row : PaymentClaim) (records : List PaymentClaimItem)
      (active : row.status.active = true)
      (owned : ∀ record, record ∈ records -> record.claimId = row.id)
      (mismatch : row.amountMismatchKopecks =
        (row.amountKopecks : Int) - (Program.expectedSum records : Int)) :
      JournalWrites ([.claim (.insert row)] ++ records.map Write.claimItem)

/-- The program commits changes of the journal, and does nothing outside transactions. -/
abbrev KeepsJournal (pending : List Write) (program : Program) : Prop :=
  program.Commits JournalWrites (fun writes => writes = []) pending

section KeepsJournal

variable {session : Nat} {pending : List Write} {locks : List Lock} {claimId : RowId}
  {next : Program}

private theorem journal_query {onError : Program} {next : Db -> Db -> Program}
    (failed : KeepsJournal [] onError)
    (went : ∀ committed own, KeepsJournal pending (next committed own)) :
    KeepsJournal pending (Program.query onError next) := by
  constructor
  · exact failed
  · intro committed own
    rw [List.append_nil]
    exact went committed own

private theorem journal_checked {rejects : Db -> Bool} {writes : Db -> List Write}
    {next : Db -> Program} (went : ∀ own, KeepsJournal (pending ++ writes own) (next own)) :
    KeepsJournal pending (Program.checked locks Program.thrown rejects writes next) := by
  constructor
  · trivial
  · intro _ own
    by_cases rejected : rejects own = true
    · simp only [rejected, if_true]
      trivial
    · simp only [rejected, Bool.false_eq_true, if_false]
      exact went own

private theorem journal_lockClaimedSlots {items : List ClaimItemInput}
    (went : KeepsJournal pending next) :
    KeepsJournal pending (Program.lockClaimedSlots next items) := by
  induction items with
  | nil => exact went
  | cons item rest extend =>
    unfold Program.lockClaimedSlots
    split
    · exact extend
    · constructor
      · trivial
      · intro _ _
        rw [List.append_nil]
        exact extend

private theorem journal_checkPaymentMethod {initiatedBy : ClaimInitiator}
    {input : CreateClaimInput} (went : KeepsJournal pending next) :
    KeepsJournal pending (Program.checkPaymentMethod initiatedBy input next) := by
  unfold Program.checkPaymentMethod
  split
  · apply journal_query
    · trivial
    · intro _ own
      split
      · trivial
      · split
        · trivial
        · exact went
  · exact went

private theorem journal_checkClaimItem {input : CreateClaimInput} {item : ClaimItemInput}
    {next : PaymentClaimItem -> Program}
    (went : ∀ record, record.claimId = claimId -> KeepsJournal pending (next record)) :
    KeepsJournal pending (Program.checkClaimItem claimId input item next) := by
  unfold Program.checkClaimItem
  split
  · apply journal_query
    · trivial
    · intro _ own
      split
      · trivial
      · split
        · trivial
        · apply journal_query
          · trivial
          · intro _ _
            beta_reduce
            split
            · trivial
            · apply journal_query
              · trivial
              · intro _ own
                split
                · trivial
                · exact went _ rfl
  · apply journal_query
    · trivial
    · intro _ own
      split
      · trivial
      · split
        · trivial
        · exact went _ rfl
  · trivial

private theorem journal_checkClaimItems {input : CreateClaimInput} {items : List ClaimItemInput}
    {next : List PaymentClaimItem -> Program}
    (went : ∀ records, (∀ record, record ∈ records -> record.claimId = claimId) ->
      KeepsJournal pending (next records)) :
    KeepsJournal pending (Program.checkClaimItems claimId input items next) := by
  induction items generalizing next with
  | nil => exact went [] fun _ member => absurd member List.not_mem_nil
  | cons item rest extend =>
    apply journal_checkClaimItem
    intro record owned
    apply extend
    intro records others
    apply went
    intro other member
    rcases List.mem_cons.mp member with rfl | later
    · exact owned
    · exact others other later

private theorem journal_insertClaimItems {records : List PaymentClaimItem}
    (went : KeepsJournal (pending ++ records.map Write.claimItem) next) :
    KeepsJournal pending (Program.insertClaimItems next records) := by
  induction records generalizing pending with
  | nil =>
    rw [List.map_nil, List.append_nil] at went
    exact went
  | cons record rest extend =>
    apply journal_checked
    intro own
    apply extend
    rw [List.append_assoc, List.singleton_append]
    exact went

private theorem journal_createClaimInTx {initiatedBy : ClaimInitiator}
    {input : CreateClaimInput} {amountKopecks : Nat} :
    KeepsJournal [] (Program.createClaimInTx session initiatedBy input amountKopecks) := by
  unfold Program.createClaimInTx
  extract_lets claimId
  apply journal_query
  · trivial
  · intro begun _
    apply journal_lockClaimedSlots
    apply journal_checkPaymentMethod
    apply journal_checkClaimItems
    intro records owned
    apply journal_checked
    intro own
    apply journal_insertClaimItems
    constructor
    · apply JournalWrites.opens _ records _ owned rfl
      cases initiatedBy <;> rfl
    · exact ⟨trivial, trivial⟩

private theorem journal_resolveClaim {mayResolve mayRead : PaymentClaim -> Bool}
    {resolve : Nat -> PaymentClaim -> PaymentClaim} {resolved : String} :
    KeepsJournal [] (Program.resolveClaim claimId mayResolve mayRead resolve resolved) := by
  unfold Program.resolveClaim
  extract_lets reached
  apply journal_query
  · trivial
  · intro begun _
    constructor
    · trivial
    · intro _ own
      constructor
      · beta_reduce
        cases reached own with
        | none => exact .nothing
        | some claim => exact .resolves _
      · constructor
        · trivial
        · split
          · trivial
          · apply journal_query
            · trivial
            · intro committed _
              split <;> trivial

theorem keepsJournal_program (request : Request) : KeepsJournal [] (request.program session) := by
  cases request with
  | createLearnerClaim input =>
    simp only [Request.program, Program.createLearnerClaim]
    split
    · trivial
    · split
      · trivial
      · exact journal_createClaimInTx
  | createTeacherMarkPaid input =>
    simp only [Request.program, Program.createTeacherMarkPaid]
    split
    · trivial
    · split
      · exact journal_createClaimInTx
      · trivial
      · apply journal_query
        · trivial
        · intro _ _
          beta_reduce
          split
          · trivial
          · exact journal_createClaimInTx
  | confirmClaim teacherAccountId claimId =>
    simp only [Request.program, Program.confirmClaim]
    exact journal_resolveClaim
  | declineClaim teacherAccountId claimId note =>
    simp only [Request.program, Program.declineClaim]
    exact journal_resolveClaim
  | cancelClaimByLearner learnerAccountId claimId =>
    simp only [Request.program, Program.cancelClaimByLearner]
    exact journal_resolveClaim

end KeepsJournal

section Step

variable {alike : Prop} {before after : Db} {claim row : PaymentClaim}
  {records : List PaymentClaimItem} {purchaseId : RowId}

theorem SameJournal.packagesOnce (same : SameJournal before after) :
    PackagesOnce after <-> PackagesOnce before := by
  simp only [PackagesOnce, NamesPackage, same.1, same.2]

theorem Opens.packagesOnce (opens : Opens before after claim records)
    (inOrder : InOrder alike before) (active : claim.status.active = true)
    (once : PackagesOnce before) : PackagesOnce after <-> ∀ record purchaseId, record ∈ records ->
      record.packagePurchaseId = some purchaseId -> ¬ PackageClaimed before purchaseId := by
  have old_names : ∀ old, old ∈ before.claims -> ∀ purchaseId,
      NamesPackage after old purchaseId -> NamesPackage before old purchaseId := by
    rintro old member purchaseId ⟨item, listed, same, named⟩
    exact ⟨item, (opens.item_old member same).mp listed, same, named⟩
  constructor
  · rintro single record purchaseId member named ⟨old, listed, counts, item, placed, same, names⟩
    have listedAfter : old ∈ after.claims := by
      rw [opens.claims]
      exact List.mem_append_left _ listed
    have newAfter : claim ∈ after.claims := by
      rw [opens.claims]
      exact List.mem_append_right _ (List.mem_singleton_self claim)
    have newItem : record ∈ after.claimItems := by
      rw [opens.items]
      exact List.mem_append_right _ member
    have equal := single old listedAfter claim newAfter counts active purchaseId
      ⟨item, (opens.item_old listed same).mpr placed, same, names⟩
      ⟨record, newItem, opens.owned record member, named⟩
    exact get_eq_none_iff.mp opens.fresh old listed (congrArg PaymentClaim.id equal)
  · intro unclaimed
    have clash : ∀ old, old ∈ before.claims -> old.status.active = true ->
        ∀ purchaseId, NamesPackage after old purchaseId ->
          NamesPackage after claim purchaseId -> False := by
      rintro old member counts purchaseId oldNames ⟨item, listed, same, named⟩
      exact unclaimed item purchaseId (opens.item_new inOrder listed same) named
        ⟨old, member, counts, old_names old member purchaseId oldNames⟩
    intro first memberFirst second memberSecond activeFirst activeSecond purchaseId one two
    rw [opens.claims] at memberFirst memberSecond
    rcases List.mem_append.mp memberFirst with oldFirst | newFirst
    · rcases List.mem_append.mp memberSecond with oldSecond | newSecond
      · exact once first oldFirst second oldSecond activeFirst activeSecond purchaseId
          (old_names first oldFirst purchaseId one) (old_names second oldSecond purchaseId two)
      · rw [List.mem_singleton.mp newSecond] at two
        exact (clash first oldFirst activeFirst purchaseId one two).elim
    · rcases List.mem_append.mp memberSecond with oldSecond | newSecond
      · rw [List.mem_singleton.mp newFirst] at one
        exact (clash second oldSecond activeSecond purchaseId two one).elim
      · rw [List.mem_singleton.mp newFirst, List.mem_singleton.mp newSecond]

theorem packagesOnce_replace (unique : Tables.Unique PaymentClaim.id before.claims)
    (claims : after.claims = (Change.replace row).apply PaymentClaim.id before.claims)
    (items : after.claimItems = before.claimItems) (settled : Settled before after)
    (once : PackagesOnce before) : PackagesOnce after := by
  have uniqueAfter : Tables.Unique PaymentClaim.id after.claims := by
    rw [claims]
    exact unique.replace row
  have origin : ∀ claim, claim ∈ after.claims -> claim.status.active = true ->
      ∃ source, source ∈ before.claims ∧ source.id = claim.id ∧
        source.status.active = true := by
    intro claim member active
    have listed : claim.id ∈ before.claims.map PaymentClaim.id := by
      rw [← map_key_replace row, ← claims]
      exact List.mem_map_of_mem member
    rcases List.mem_map.mp listed with ⟨source, old, same⟩
    refine ⟨source, old, same, ?_⟩
    rcases settled source.id source (get_of_mem unique old) with ⟨now, read, kept⟩
    have found : after.claim? claim.id = some claim := get_of_mem uniqueAfter member
    rw [same, found, Option.some.injEq] at read
    by_cases open_ : source.status = .claimed
    · rw [open_]
      rfl
    · rw [← kept open_, ← read]
      exact active
  intro first memberFirst second memberSecond activeFirst activeSecond purchaseId one two
  rcases origin first memberFirst activeFirst with ⟨source, old, same, counts⟩
  rcases origin second memberSecond activeSecond with ⟨other, oldOther, sameOther, countsOther⟩
  rcases one with ⟨item, listed, owner, named⟩
  rcases two with ⟨itemOther, listedOther, ownerOther, namedOther⟩
  rw [items] at listed listedOther
  have equal := once source old other oldOther counts countsOther purchaseId
    ⟨item, listed, owner.trans same.symm, named⟩
    ⟨itemOther, listedOther, ownerOther.trans sameOther.symm, namedOther⟩
  apply List.inj_on_of_nodup_map uniqueAfter memberFirst memberSecond
  rw [← same, ← sameOther, equal]

variable {requests : Nat -> Request} {db : Db} {state last : State} {event : Event}

theorem packagesOnce_step (start : InOrder False db)
    (reached : Reaches store (fun _ _ => True) (opening db requests) state)
    (once : PackagesOnce state.db) (stepped : step store state event = some last) :
    PackagesOnce last.db <-> CommitsUnclaimed state event := by
  have each : state.Each fun _ _ pending program => KeepsJournal pending program :=
    State.each_of_reaches (fun _ => Program.Commits.inherited _ _)
      (fun session => keepsJournal_program (requests session)) reached
  have further : Reaches store (fun _ _ => True) state last := .one stepped
  have orderBefore : InOrder False state.db :=
    (sound_of_reaches False UuidText.canonical (fun none => none.elim) start reached
      (.refl state)).1
  rcases sound_of_reaches False UuidText.canonical (fun none => none.elim) start reached further
    with ⟨orderAfter, settled⟩
  have quiet : state.committing event = none -> SameJournal state.db last.db ->
      (PackagesOnce last.db <-> CommitsUnclaimed state event) := by
    intro none same
    constructor
    · intro _ session committing
      rw [none] at committing
      cases committing
    · intro _
      exact same.packagesOnce.mpr once
  cases moved_of_step each event stepped with
  | still none same => exact quiet none ⟨congrArg Db.claims same, congrArg Db.claimItems same⟩
  | drifted none change same =>
    rw [same] at quiet
    exact same ▸ quiet none (sameJournal_drift change state.db)
  | closed none session same =>
    rw [same] at quiet
    exact same ▸ quiet none ⟨rfl, rfl⟩
  | called none shaped same =>
    rw [shaped, Store.applyAll_nil] at same
    exact quiet none ⟨congrArg Db.claims same, congrArg Db.claimItems same⟩
  | committed session committing shaped same =>
    have here : CommitsUnclaimed state event <-> ∀ record purchaseId,
        Write.claimItem record ∈ (state.sessions session).pending ->
          record.packagePurchaseId = some purchaseId ->
            ¬ PackageClaimed state.db purchaseId := by
      constructor
      · intro unclaimed
        exact unclaimed session committing
      · intro unclaimed other also
        rw [committing, Option.some.injEq] at also
        exact also ▸ unclaimed
    rw [here]
    generalize (state.sessions session).pending = pending at shaped same ⊢
    cases shaped with
    | nothing =>
      rw [same]
      constructor
      · intro _ record purchaseId member
        cases member
      · intro _
        exact once
    | resolves row =>
      constructor
      · intro _ record purchaseId member
        rw [List.mem_singleton] at member
        cases member
      · intro _
        have claims : last.db.claims =
            (Change.replace row).apply PaymentClaim.id state.db.claims := by
          rw [same]
          rfl
        have items : last.db.claimItems = state.db.claimItems := by
          rw [same]
          rfl
        exact packagesOnce_replace orderBefore.unique claims items settled once
    | opens row records active owned mismatch =>
      have fresh : state.db.claim? row.id = none := by
        have claims : last.db.claims = state.db.claims ++ [row] := by
          rw [same, Store.applyAll_append]
          exact (applyAll_claimItems records _).1
        have unique := orderAfter.unique
        rw [claims, Tables.Unique, List.map_append, List.nodup_append] at unique
        apply get_eq_none_iff.mpr
        intro old member
        exact unique.2.2 old.id (List.mem_map_of_mem member) row.id (List.mem_singleton_self _)
      have opens : Opens state.db last.db row records := by
        rw [same]
        exact opens_applyAll fresh owned mismatch
      rw [opens.packagesOnce orderBefore active once]
      constructor
      · intro unclaimed record purchaseId member
        rcases List.mem_append.mp member with claim | item
        · rw [List.mem_singleton] at claim
          cases claim
        · rcases List.mem_map.mp item with ⟨own, listed, equal⟩
          rw [Write.claimItem.injEq] at equal
          exact unclaimed record purchaseId (equal ▸ listed)
      · intro unclaimed record purchaseId member
        exact unclaimed record purchaseId
          (List.mem_append_right _ (List.mem_map_of_mem member))

end Step

/-- As long as no claim is committed for a package that an active claim has, every package
stays in one active claim; and a commit that does so puts the package in two. -/
theorem packages_claimed_once (db : Db) (requests : Nat -> Request) (start : InOrder False db)
    (once : PackagesOnce db) :
    (∀ state, ReachesWhen store CommitsUnclaimed (opening db requests) state ->
      PackagesOnce state.db) ∧
    ∀ state, Reaches store (fun _ _ => True) (opening db requests) state ->
      PackagesOnce state.db -> ∀ event last, step store state event = some last ->
        (PackagesOnce last.db <-> CommitsUnclaimed state event) := by
  have stepwise : ∀ state, Reaches store (fun _ _ => True) (opening db requests) state ->
      PackagesOnce state.db -> ∀ event last, step store state event = some last ->
        (PackagesOnce last.db <-> CommitsUnclaimed state event) :=
    fun state reached once event last stepped => packagesOnce_step start reached once stepped
  have keeps : ∀ middle event after, Reaches store (fun _ _ => True)
      (opening db requests) middle -> PackagesOnce middle.db -> CommitsUnclaimed middle event ->
        step store middle event = some after -> PackagesOnce after.db := by
    intro middle event after before kept unclaimed stepped
    exact (stepwise middle before kept event after stepped).mpr unclaimed
  constructor
  · intro state reached
    exact reached.keeps keeps once
  · exact stepwise

def lessonsPackage : PackagePurchase where
  id := .seeded 20
  accountId := .seeded 2
  packageId := .seeded 30
  teacherId := some (.seeded 1)
  paymentOrderId := .generated (.seeded 40)
  amountKopecks := 600000
  titleSnapshot := "Four lessons"
  durationMinutes := 60
  countInitial := 4
  expiresAt := 86400000
  voidedAt := none

def packageDb : Db :=
  { Db.empty with purchases := [lessonsPackage] }

private theorem packageDb_inOrder (alike : Prop) : InOrder alike packageDb where
  unique := List.nodup_nil
  placed _ member := absurd member List.not_mem_nil
  balanced _ member := absurd member List.not_mem_nil
  exclusive _ _ member := absurd member List.not_mem_nil

private theorem packageDb_once : PackagesOnce packageDb :=
  fun _ member => absurd member List.not_mem_nil

def packageClaim : CreateClaimInput where
  learnerAccountId := .canonical (.seeded 2)
  teacherAccountId := .canonical (.seeded 1)
  amountKopecks := .integer 600000
  paymentChannel := .other
  paymentMethodId := none
  items := [⟨none, some lessonsPackage.id⟩]
  paidAt := none
  note := none

def packageClaims : Nat -> Request
  | 0 => .createLearnerClaim packageClaim
  | _ => .createTeacherMarkPaid packageClaim

def packageDoublyClaimed (db : Db) : Bool :=
  db.claims.any fun first => db.claims.any fun second =>
    first ≠ second && first.status.active && second.status.active &&
      db.claimItems.any (fun item =>
        item.claimId = first.id && item.packagePurchaseId = some lessonsPackage.id) &&
      db.claimItems.any fun item =>
        item.claimId = second.id && item.packagePurchaseId = some lessonsPackage.id

/-- One request after the other, each finds the package to be the learner's. -/
theorem package_claimed_twice :
    ¬ ∀ (db : Db) (requests : Nat -> Request) (state : State), InOrder True db ->
      PackagesOnce db -> Reaches store (fun _ _ => True) (opening db requests) state ->
        PackagesOnce state.db := by
  intro single
  rcases exists_of_play store (opening packageDb packageClaims)
    (Event.steps 0 5 (.unsent "") ++ Event.steps 1 5 (.unsent ""))
    (fun db => packageDoublyClaimed db = true) (by decide +kernel) with ⟨state, reached, twice⟩
  simp only [packageDoublyClaimed, List.any_eq_true, Bool.and_eq_true, decide_eq_true_eq] at twice
  rcases twice with ⟨first, memberFirst, second, memberSecond,
    ⟨⟨⟨different, activeFirst⟩, activeSecond⟩, one⟩, two⟩
  exact different (single packageDb packageClaims state (packageDb_inOrder True) packageDb_once
    reached first memberFirst second memberSecond activeFirst activeSecond lessonsPackage.id
    one two)

def commitsUnclaimed (state : State) (event : Event) : Bool :=
  (state.committing event).all fun session =>
    (state.sessions session).pending.all fun write =>
      match write with
      | .claimItem record => record.packagePurchaseId.all fun purchaseId =>
        state.db.claimItems.all fun item => item.packagePurchaseId ≠ some purchaseId
      | _ => true

private theorem commitsUnclaimed_sound (state : State) (event : Event)
    (met : commitsUnclaimed state event = true) : CommitsUnclaimed state event := by
  rintro session committing record purchaseId pending named ⟨claim, -, -, item, listed, -, same⟩
  simp only [commitsUnclaimed, committing, Option.all_some, List.all_eq_true] at met
  have free := met (.claimItem record) pending
  simp only [named, Option.all_some, List.all_eq_true, decide_eq_true_eq] at free
  exact free item listed same

def packageClaimedOnce : Nat -> Request
  | 0 => .createLearnerClaim packageClaim
  | _ => .confirmClaim (.seeded 1) (.minted 0 0)

theorem packages_claimed_once_confirmed :
    ∃ state, ReachesWhen store CommitsUnclaimed (opening packageDb packageClaimedOnce)
        state ∧ state.db.claims.map PaymentClaim.status = [.confirmed] ∧ PackagesOnce state.db := by
  rcases exists_of_playWhen store commitsUnclaimed_sound
    (Event.steps 0 5 (.unsent "") ++ Event.steps 1 3 (.unsent ""))
    (fun state => state.db.claims.map PaymentClaim.status = [.confirmed])
    (.refl (opening packageDb packageClaimedOnce)) (by decide +kernel) with
    ⟨state, reached, confirmed⟩
  exact ⟨state, reached, of_decide_eq_true confirmed,
    (packages_claimed_once packageDb packageClaimedOnce (packageDb_inOrder False)
      packageDb_once).1 state reached⟩

end LevelChannel.Journal
