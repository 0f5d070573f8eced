import LevelChannel.Accounts.Deletion
import LevelChannel.Accounts.Roles

namespace LevelChannel

open ReadCommitted Tables

namespace Accounts

/-!
# The nightly purge

The retention job selects the accounts whose purge is due, and then makes them anonymous
one after the other, each in a transaction of its own.  Nobody can have the account back
afterwards, so what matters is that the purge is still due when its turn comes.  The
statement that makes the account anonymous does not ask: it only leaves accounts alone
that are purged already.
-/

inductive DeletionWrite where
  | account (change : Change AccountRow)
  | profile (change : Change AccountProfile)
  | onboarded (accountId : RowId)
  | anonymised (mark : Anonymisation)
  | selected (session : Nat) (ids : List RowId)
  | released (session : Nat) (id : RowId)
  | finished (session : Nat)

inductive DeletionDrift where
  | clock (passed : Nat)
  | shop (orders : List PaymentOrder) (purchases : List PackagePurchase)
      (resolutions : List InvoiceId)

namespace DeletionDb

def forget (db : DeletionDb) (session : Nat) : DeletionDb :=
  { db with selected := db.selected.filter fun entry => entry.1 ≠ session }

def apply (db : DeletionDb) : DeletionWrite -> DeletionDb
  | .account change => { db with accounts := change.apply AccountRow.id db.accounts }
  | .profile change => { db with profiles := change.apply AccountProfile.accountId db.profiles }
  | .onboarded accountId =>
    { db with onboarding := db.onboarding.filter fun owner => owner ≠ accountId }
  | .anonymised mark => { db with anonymised := mark :: db.anonymised }
  | .selected session ids => { db with selected := ids.map (session, ·) ++ db.selected }
  | .released session id =>
    { db with selected := db.selected.filter fun entry => entry ≠ (session, id) }
  | .finished session => db.forget session

def drift (db : DeletionDb) : DeletionDrift -> DeletionDb
  | .clock passed => { db with now := db.now + passed }
  | .shop orders purchases resolutions =>
    { db with orders := orders, purchases := purchases, resolutions := resolutions }

end DeletionDb

/-- A lock is the one an update takes on a row of `accounts`. -/
def deletionStore : Store DeletionDb RowId DeletionWrite DeletionDrift where
  apply := DeletionDb.apply
  drift := fun change db => db.drift change
  close := fun session db => db.forget session
  conflict := fun first second => first = second
  conflict_comm := fun _ _ => decide_eq_decide.mpr eq_comm

inductive DeletionLabel where
  | plain
  | reschedule (accountId : RowId)

inductive DeletionReply where
  | ok
  | thrown
  | purged (rows skippedInFlight : Nat) (ok : Bool)
  deriving DecidableEq

abbrev DeletionProgram :=
  Program DeletionDb RowId DeletionWrite DeletionLabel Outcome DeletionReply

abbrev DeletionState :=
  State DeletionDb RowId DeletionWrite DeletionLabel Outcome DeletionReply

/-- `update accounts set … where id = $1 and purged_at is null` -/
def updateUnpurged (db : DeletionDb) (accountId : RowId) (set : AccountRow -> AccountRow) :
    List DeletionWrite :=
  match get AccountRow.id db.accounts accountId with
  | some row => if row.purgedAt.isNone then [.account (.replace (set row))] else []
  | none => []

def reschedule (accountId : RowId) (set : Nat -> AccountRow -> AccountRow) : DeletionProgram :=
  .acquiring .plain [accountId] (.done .thrown) fun _ _ =>
    .call (.reschedule accountId)
      (fun db outcome =>
        if outcome = .refused then [] else updateUnpurged db accountId (set db.now))
      fun _ outcome => .rollback (.done (if outcome = .done then .ok else .thrown))

def requestAccountDeletion (accountId : RowId) (graceDays : Nat) : DeletionProgram :=
  reschedule accountId fun now row =>
    { row with
      disabledAt := row.disabledAt.or (some now)
      scheduledPurgeAt := some (now + graceDays * (24 * 60 * 60 * 1000))
      updatedAt := now }

def cancelAccountDeletion (accountId : RowId) : DeletionProgram :=
  reschedule accountId fun now row =>
    { row with disabledAt := none, scheduledPurgeAt := none, updatedAt := now }

def reenableAccount (accountId : RowId) : DeletionProgram :=
  reschedule accountId fun now row =>
    { row with disabledAt := none, scheduledPurgeAt := none, updatedAt := now }

def AccountRow.due (row : AccountRow) (now : Nat) : Bool :=
  match row.scheduledPurgeAt with
  | some scheduled => scheduled ≤ now
  | none => false

/-- The `candidates` of a run. -/
def purgeCandidates (db : DeletionDb) : List RowId :=
  (((db.accounts.filter fun row => row.due db.now && row.purgedAt.isNone).insertionSort
    fun first second => first.scheduledPurgeAt.getD 0 ≤ second.scheduledPurgeAt.getD 0).take
      500).map AccountRow.id

/-- The row the purge leaves; `print` is how the database prints a key. -/
def AccountRow.anonymous (print : RowId -> String) (startedAt : Nat) (row : AccountRow) :
    AccountRow :=
  { row with
    email := "deleted-" ++ print row.id ++ "@example.invalid"
    passwordHash := "PURGED"
    learnerTelegramEnabled := false
    learnerTelegramChatId := none
    teacherTelegramEnabled := false
    teacherTelegramChatId := none
    purgedAt := some startedAt
    updatedAt := startedAt }

/-- The update of `accounts`, and the record that it was made. -/
def anonymise (print : RowId -> String) (startedAt : Nat) (db : DeletionDb) (id : RowId) :
    List DeletionWrite :=
  match get AccountRow.id db.accounts id with
  | some row =>
    if row.purgedAt.isNone then
      [.account (.replace (row.anonymous print startedAt)), .anonymised ⟨row, db.now⟩]
    else []
  | none => []

/-- The update of `account_profiles`. -/
def clearProfile (startedAt : Nat) (db : DeletionDb) (id : RowId) : List DeletionWrite :=
  match get AccountProfile.accountId db.profiles id with
  | some profile =>
    [.profile (.replace { profile with
      displayName := none, firstName := none, lastName := none, timezone := none,
      locale := none, updatedAt := startedAt })]
  | none => []

/-- The statements for one candidate after its guard; `now()` is the time of the `begin`. -/
def purgeAccount (print : RowId -> String) (id : RowId) (startedAt : Nat)
    (failed next : DeletionProgram) : DeletionProgram :=
  .writing .plain [id] failed (fun own => anonymise print startedAt own id) fun _ =>
    .writing .plain [] failed (fun own => clearProfile startedAt own id) fun _ =>
      .writing .plain [] failed (fun _ => [.onboarded id]) fun _ =>
        .commit failed next

/-- The loop of `purgeAccounts` over its candidates. -/
def purgeRows (print : RowId -> String) (session : Nat) :
    List RowId -> Nat -> Nat -> DeletionProgram
  | [], purged, skippedInFlight => .done (.purged purged skippedInFlight true)
  | id :: ids, purged, skippedInFlight =>
    -- `client.release()`: the job is done with the account, one way or another
    let release (next : DeletionProgram) : DeletionProgram :=
      .call .plain (fun _ _ => [.released session id]) fun _ _ => next
    let failed := release (purgeRows print session ids purged skippedInFlight)
    .call .plain (fun _ outcome => if outcome = .done then [] else [.finished session])
      fun _ outcome =>
        if outcome = .done then
          .reading .plain failed fun _ begun =>
            .reading .plain failed fun _ own =>
              if { own with now := begun.now }.purgeDeferred id then
                .rollback (release (purgeRows print session ids purged (skippedInFlight + 1)))
              else
                purgeAccount print id begun.now failed
                  (release (purgeRows print session ids (purged + 1) skippedInFlight))
        else .done (.purged purged skippedInFlight false)

def purgeAccounts (print : RowId -> String) (session : Nat) : DeletionProgram :=
  .call .plain
    (fun db outcome => if outcome = .done then [.selected session (purgeCandidates db)] else [])
    fun db outcome =>
      if outcome = .done then purgeRows print session (purgeCandidates db) 0 0
      else .done (.purged 0 0 false)

inductive DeletionRequest where
  | request (accountId : RowId) (graceDays : Nat)
  | cancel (accountId : RowId)
  | reenable (accountId : RowId)
  | purge
  deriving DecidableEq

def DeletionRequest.program (print : RowId -> String) (session : Nat) :
    DeletionRequest -> DeletionProgram
  | .request accountId graceDays => requestAccountDeletion accountId graceDays
  | .cancel accountId => cancelAccountDeletion accountId
  | .reenable accountId => reenableAccount accountId
  | .purge => purgeAccounts print session

/-- All sessions at the start of their calls; nothing is selected or made anonymous yet. -/
def deletionOpening (print : RowId -> String) (db : DeletionDb)
    (requests : Nat -> DeletionRequest) : DeletionState :=
  State.start { db with selected := [], anonymised := [] }
    fun session => (requests session).program print session

/-- Every account the job has selected and not yet purged is still due. -/
structure StillDue (db : DeletionDb) : Prop where
  unique : Tables.Unique AccountRow.id db.accounts
  due : ∀ entry, entry ∈ db.selected -> ∀ row,
    get AccountRow.id db.accounts entry.2 = some row -> row.purgedAt.isNone = true ->
      row.due db.now = true
  elapsed : ∀ mark, mark ∈ db.anonymised -> mark.before.due mark.at_ = true

def KeepsSelected (session : Nat) (before after : DeletionDb) : Prop :=
  ∀ entry, entry ∈ before.selected -> entry.1 ≠ session -> entry ∈ after.selected

def deletionContract : Contract DeletionDb RowId where
  Good := StillDue
  Guarantee session _ := KeepsSelected session

/-- A cancellation, a re-enabling or another request takes effect only on an account that
no run of the job has selected, or that is purged already. -/
def Unselected : DeletionLabel -> DeletionDb -> Prop
  | .reschedule accountId, now => (∀ entry, entry ∈ now.selected -> entry.2 ≠ accountId) ∨
      ((get AccountRow.id now.accounts accountId).all fun row => row.purgedAt.isSome) = true
  | .plain, _ => True

instance (label : DeletionLabel) (now : DeletionDb) : Decidable (Unselected label now) :=
  match label with
  | .reschedule _ => inferInstanceAs (Decidable (_ ∨ _))
  | .plain => inferInstanceAs (Decidable True)

variable {db before after : DeletionDb} {session : Nat} {id accountId : RowId}
  {ids : List RowId} {print : RowId -> String}

theorem AccountRow.due_mono {row : AccountRow} {now later : Nat} (due : row.due now = true)
    (passed : now ≤ later) : row.due later = true := by
  unfold AccountRow.due at due ⊢
  split at due
  · simp only [decide_eq_true_eq] at due ⊢
    omega
  · cases due

theorem StillDue.fewer (kept : StillDue db) {selected : List (Nat × RowId)}
    (fewer : ∀ entry, entry ∈ selected -> entry ∈ db.selected) :
    StillDue { db with selected := selected } where
  unique := kept.unique
  due entry member := kept.due entry (fewer entry member)
  elapsed := kept.elapsed

theorem StillDue.replace (kept : StillDue db) {row : AccountRow}
    (harmless : ∀ entry, entry ∈ db.selected -> entry.2 = row.id ->
      row.purgedAt.isNone = true -> row.due db.now = true) :
    StillDue (db.apply (.account (.replace row))) where
  unique := kept.unique.replace row
  due entry member found read unpurged := by
    by_cases same : entry.2 = row.id
    · have key := key_of_get read
      rcases mem_replace (mem_of_get read) with changed | ⟨-, different⟩
      · rw [changed] at unpurged ⊢
        exact harmless entry member same unpurged
      · exact absurd (key.trans same) different
    · exact kept.due entry member found ((get_replace_of_ne row same).symm.trans read) unpurged
  elapsed := kept.elapsed

theorem StillDue.forget (kept : StillDue db) (session : Nat) :
    StillDue (db.forget session) ∧ KeepsSelected session db (db.forget session) := by
  constructor
  · exact kept.fewer fun entry member => (List.mem_filter.mp member).1
  · intro entry member different
    exact List.mem_filter.mpr ⟨member, decide_eq_true different⟩

theorem deletion_steady : Contract.Steady deletionContract deletionStore where
  drift change db kept := by
    cases change with
    | clock passed =>
      exact ⟨kept.unique, fun entry member row read unpurged =>
        AccountRow.due_mono (kept.due entry member row read unpurged) (Nat.le_add_right _ _),
        kept.elapsed⟩
    | shop orders purchases resolutions => exact ⟨kept.unique, kept.due, kept.elapsed⟩
  close session _ _ kept := kept.forget session

theorem selected_stable (session : Nat) (ids : List RowId) (held : List RowId) :
    deletionContract.Stable deletionStore session held fun now =>
      ∀ id, id ∈ ids -> (session, id) ∈ now.selected := by
  rintro before after mine ⟨-, -, ⟨change, rfl⟩ | ⟨other, theirs, different, -, kept⟩⟩ id member
  · cases change with
    | clock passed => exact mine id member
    | shop orders purchases resolutions => exact mine id member
  · exact kept _ (mine id member) different.symm

/-! ## The programs keep the contract -/

theorem reschedule_safe (accountId : RowId) (set : Nat -> AccountRow -> AccountRow)
    (keepsId : ∀ now row, (set now row).id = row.id) (db : DeletionDb) :
    deletionContract.Safe deletionStore Unselected session (reschedule accountId set) [] [] db := by
  have always : ∀ held, deletionContract.Stable deletionStore session held fun _ => True :=
    fun held => Contract.Stable.const session held True
  refine Contract.Safe.acquiring _ (always _) trivial (fun _ _ => trivial) ?_
  intro now _ _ _
  refine Contract.Safe.call _ (always _) trivial ?_ ?_
  · intro now _ kept free outcome
    have quiet : StillDue (deletionStore.applyAll now []) ∧
        KeepsSelected session now (deletionStore.applyAll now []) :=
      ⟨kept, fun _ member _ => member⟩
    by_cases refused : outcome = .refused
    · rw [if_pos refused]
      exact quiet
    · rw [if_neg refused]
      unfold updateUnpurged
      split
      · next row read =>
        split
        · next unpurged =>
          constructor
          · apply kept.replace
            intro entry member same _
            rw [keepsId] at same
            have owner : entry.2 = accountId := same.trans (key_of_get read)
            rcases free with unselected | purged
            · exact absurd owner (unselected entry member)
            · rw [read, Option.all_some] at purged
              rw [Option.isNone_iff_eq_none] at unpurged
              rw [unpurged] at purged
              cases purged
          · exact fun _ member _ => member
        · exact quiet
      · exact quiet
  · intro now _ _ _ outcome
    exact Contract.Safe.rollback _ (always _) trivial fun _ _ _ => trivial

def DeletionWrite.Purges : DeletionWrite -> Prop
  | .account (.replace row) => row.purgedAt.isSome = true
  | .profile _ => True
  | .onboarded _ => True
  | .anonymised mark => mark.before.due mark.at_ = true
  | _ => False

theorem StillDue.purges (kept : StillDue db) {writes : List DeletionWrite}
    (each : ∀ write, write ∈ writes -> write.Purges) : StillDue (deletionStore.applyAll db writes) ∧
      (deletionStore.applyAll db writes).selected = db.selected := by
  induction writes generalizing db with
  | nil => exact ⟨kept, rfl⟩
  | cons write writes extend =>
    have purges := each write List.mem_cons_self
    have one : StillDue (db.apply write) ∧ (db.apply write).selected = db.selected := by
      cases write with
      | account change =>
        cases change with
        | replace row =>
          refine ⟨kept.replace fun _ _ _ unpurged => ?_, rfl⟩
          simp only [DeletionWrite.Purges, Option.isSome_iff_ne_none] at purges
          exact absurd (Option.isNone_iff_eq_none.mp unpurged) purges
        | insert row => cases purges
        | delete row => cases purges
      | profile change => exact ⟨⟨kept.unique, kept.due, kept.elapsed⟩, rfl⟩
      | onboarded owner => exact ⟨⟨kept.unique, kept.due, kept.elapsed⟩, rfl⟩
      | anonymised mark =>
        refine ⟨⟨kept.unique, kept.due, fun other member => ?_⟩, rfl⟩
        rcases List.mem_cons.mp member with rfl | old
        · exact purges
        · exact kept.elapsed other old
      | selected other ids => cases purges
      | released other id => cases purges
      | finished other => cases purges
    have rest := extend one.1 fun next member => each next (List.mem_cons_of_mem _ member)
    exact ⟨rest.1, rest.2.trans one.2⟩

theorem anonymise_purges (kept : StillDue db) (listed : (session, id) ∈ db.selected)
    (startedAt : Nat) (write : DeletionWrite) (member : write ∈ anonymise print startedAt db id) :
    write.Purges := by
  unfold anonymise at member
  split at member
  · next row read =>
    split at member
    · next unpurged =>
      simp only [List.mem_cons, List.not_mem_nil, or_false] at member
      rcases member with rfl | rfl
      · exact rfl
      · exact kept.due _ listed row read unpurged
    · cases member
  · cases member

theorem clearProfile_purges (startedAt : Nat) (db : DeletionDb) (id : RowId)
    (write : DeletionWrite) (member : write ∈ clearProfile startedAt db id) : write.Purges := by
  unfold clearProfile at member
  split at member
  · rw [List.mem_singleton.mp member]
    trivial
  · cases member

theorem purgeAccount_safe {failed next : DeletionProgram} (startedAt : Nat)
    (selected : ∀ other, other ∈ id :: ids -> (session, other) ∈ db.selected)
    (failedSafe : ∀ now : DeletionDb,
      (∀ other, other ∈ id :: ids -> (session, other) ∈ now.selected) ->
        deletionContract.Safe deletionStore Unselected session failed [] [] now)
    (nextSafe : ∀ now : DeletionDb,
      (∀ other, other ∈ id :: ids -> (session, other) ∈ now.selected) ->
        deletionContract.Safe deletionStore Unselected session next [] [] now) :
    deletionContract.Safe deletionStore Unselected session
      (purgeAccount print id startedAt failed next) [] [] db := by
  have stable := selected_stable session (id :: ids)
  refine Contract.Safe.statement _ (stable _) selected (fun now mine _ => failedSafe now mine) ?_
  intro now mine kept _
  have first : ∀ write, write ∈ anonymise print startedAt now id -> write.Purges :=
    anonymise_purges kept (mine id List.mem_cons_self) startedAt
  refine Contract.Safe.statement _ (stable _) mine (fun now mine _ => failedSafe now mine) ?_
  intro later mine _ _
  have second := clearProfile_purges startedAt
    (deletionStore.applyAll later ([] ++ anonymise print startedAt now id)) id
  refine Contract.Safe.statement _ (stable _) mine (fun now mine _ => failedSafe now mine) ?_
  intro last mine _ _
  have each : ∀ write, write ∈ ([] ++ anonymise print startedAt now id) ++
      clearProfile startedAt (deletionStore.applyAll later
        ([] ++ anonymise print startedAt now id)) id ++ [.onboarded id] -> write.Purges := by
    intro write member
    rcases List.mem_append.mp member with early | done
    · rcases List.mem_append.mp early with row | profile
      · exact first write row
      · exact second write profile
    · rw [List.mem_singleton.mp done]
      trivial
  refine Contract.Safe.commit _ (stable _) mine ?_ ?_ (fun now mine _ => failedSafe now mine) ?_
  · intro now _ kept
    have both := StillDue.purges kept each
    exact ⟨both.1, fun entry member _ => both.2 ▸ member⟩
  · intro now mine kept
    exact nextSafe _ ((StillDue.purges kept each).2 ▸ mine)
  · intro now mine kept
    exact failedSafe _ ((StillDue.purges kept each).2 ▸ mine)

theorem purgeRows_safe (distinct : ids.Nodup) (purged skippedInFlight : Nat)
    (selected : ∀ id, id ∈ ids -> (session, id) ∈ db.selected) :
    deletionContract.Safe deletionStore Unselected session
      (purgeRows print session ids purged skippedInFlight) [] [] db := by
  induction ids generalizing db purged skippedInFlight with
  | nil => trivial
  | cons id ids extend =>
    have stable := selected_stable session (id :: ids)
    have distinctRest := List.nodup_cons.mp distinct
    -- releasing the account leaves the rest of the candidates selected
    have release : ∀ (purged skippedInFlight : Nat) (now : DeletionDb),
        (∀ other, other ∈ id :: ids -> (session, other) ∈ now.selected) ->
          deletionContract.Safe deletionStore Unselected session
            (.call .plain (fun _ _ => [.released session id]) fun _ _ =>
              purgeRows print session ids purged skippedInFlight) [] [] now := by
      intro purged skippedInFlight now mine
      refine Contract.Safe.call _ (stable _) mine ?_ ?_
      · intro now _ kept _ _
        refine ⟨kept.fewer fun entry member => (List.mem_filter.mp member).1, ?_⟩
        intro entry member different
        refine List.mem_filter.mpr ⟨member, decide_eq_true fun same => different ?_⟩
        rw [same]
      · intro now mine _ _ _
        apply extend distinctRest.2 purged skippedInFlight
        intro other listed
        refine List.mem_filter.mpr ⟨mine other (List.mem_cons_of_mem _ listed), ?_⟩
        refine decide_eq_true fun same => distinctRest.1 ?_
        rw [Prod.mk.injEq] at same
        exact same.2 ▸ listed
    have failed := release purged skippedInFlight
    refine Contract.Safe.call _ (stable _) selected ?_ ?_
    · intro now _ kept _ outcome
      split
      · exact ⟨kept, fun _ member _ => member⟩
      · exact StillDue.forget kept session
    · intro now mine _ _ outcome
      by_cases connected : outcome = .done
      · simp only [connected, if_true]
        refine Contract.Safe.statement _ (stable _) mine (fun now mine _ => failed now mine) ?_
        intro begun mine _ _
        refine Contract.Safe.statement _ (stable _) mine (fun now mine _ => failed now mine) ?_
        intro now mine _ _
        split
        · exact Contract.Safe.rollback _ (stable _) mine fun now mine _ => release _ _ now mine
        · exact purgeAccount_safe begun.now mine failed fun now mine => release _ _ now mine
      · simp only [connected, if_false]
        trivial

theorem mem_purgeCandidates (member : id ∈ purgeCandidates db) :
    ∃ row, row ∈ db.accounts ∧ row.due db.now = true ∧ row.id = id := by
  simp only [purgeCandidates, List.mem_map] at member
  rcases member with ⟨row, chosen, same⟩
  have listed := (List.perm_insertionSort _ _).mem_iff.mp (List.mem_of_mem_take chosen)
  simp only [List.mem_filter, Bool.and_eq_true] at listed
  exact ⟨row, listed.1, listed.2.1, same⟩

theorem purgeCandidates_nodup (unique : Tables.Unique AccountRow.id db.accounts) :
    (purgeCandidates db).Nodup := by
  rw [purgeCandidates, List.map_take]
  refine (List.take_sublist _ _).nodup ?_
  refine ((List.perm_insertionSort _ _).map AccountRow.id).nodup_iff.mpr ?_
  exact (List.filter_sublist.map AccountRow.id).nodup unique

theorem purgeAccounts_safe (db : DeletionDb) :
    deletionContract.Safe deletionStore Unselected session (purgeAccounts print session)
      [] [] db := by
  -- the program goes on from the state the selection was made in
  intro now _ good _ outcome
  have kept : StillDue now := good
  cases outcome with
  | done =>
    simp only [if_true]
    refine ⟨⟨kept.unique, ?_, kept.elapsed⟩,
      fun entry member _ => List.mem_append_right _ member, ?_⟩
    · intro entry member row read unpurged
      rcases List.mem_append.mp member with new | old
      · rcases List.mem_map.mp new with ⟨id, candidate, rfl⟩
        rcases mem_purgeCandidates candidate with ⟨chosen, listed, due, rfl⟩
        have same := get_of_mem kept.unique listed
        have found : some chosen = some row := same.symm.trans read
        rw [<- Option.some.inj found]
        exact due
      · exact kept.due entry old row read unpurged
    · apply purgeRows_safe (purgeCandidates_nodup kept.unique) 0 0
      intro id member
      exact List.mem_append_left _ (List.mem_map.mpr ⟨id, member, rfl⟩)
  | refused => exact ⟨good, fun _ member _ => member, trivial⟩
  | unheard => exact ⟨good, fun _ member _ => member, trivial⟩

/-- As long as no cancellation, re-enabling or new request takes effect for an account
between its selection and the end of its turn, only accounts whose purge is due at that
very moment are made anonymous. -/
theorem anonymised_due {db : DeletionDb} {requests : Nat -> DeletionRequest}
    {print : RowId -> String} {state : DeletionState}
    (primary : Tables.Unique AccountRow.id db.accounts)
    (reached : Reaches deletionStore Unselected (deletionOpening print db requests) state) :
    ∀ mark, mark ∈ state.db.anonymised -> mark.before.due mark.at_ = true := by
  have good : StillDue { db with selected := [], anonymised := [] } :=
    ⟨primary, fun _ member => absurd member List.not_mem_nil,
      fun _ member => absurd member List.not_mem_nil⟩
  have sound : Contract.Sound deletionContract deletionStore Unselected
      (deletionOpening print db requests) := by
    apply Contract.Sound.start good
    intro session
    cases requests session with
    | request accountId graceDays =>
      rw [DeletionRequest.program, requestAccountDeletion]
      apply reschedule_safe
      exact fun _ _ => rfl
    | cancel accountId =>
      rw [DeletionRequest.program, cancelAccountDeletion]
      apply reschedule_safe
      exact fun _ _ => rfl
    | reenable accountId =>
      rw [DeletionRequest.program, reenableAccount]
      apply reschedule_safe
      exact fun _ _ => rfl
    | purge => exact purgeAccounts_safe _
  exact (sound.reaches deletion_steady reached).1.good.elapsed
def overdue : DeletionDb where
  now := 100
  accounts := [
    ⟨.seeded 1, "first@example.com", "$2b$", false, none, false, none, some 0, some 90, none, 0⟩,
    ⟨.seeded 2, "second@example.com", "$2b$", false, none, false, none, some 0, some 900, none,
      0⟩]
  profiles := []
  onboarding := []
  orders := []
  purchases := []
  resolutions := []
  selected := []
  anonymised := []

def changeOfMind (accountId : RowId) : Nat -> DeletionRequest
  | 0 => .purge
  | _ => .cancel accountId

def lateCancellation : List (Event DeletionDrift Outcome) :=
  .run 0 .done :: Event.steps 1 3 .done ++ Event.steps 0 7 .done

/-- A cancellation of another account between the two does no harm. -/
theorem anonymised_due_overdue : ∃ state : DeletionState, Reaches deletionStore Unselected
        (deletionOpening (fun _ => "id") overdue (changeOfMind (.seeded 2))) state ∧
      state.db.anonymised.length = 1 ∧
        ∀ mark, mark ∈ state.db.anonymised -> mark.before.due mark.at_ = true := by
  rcases exists_of_playAllowed deletionStore Unselected
    (deletionOpening (fun _ => "id") overdue (changeOfMind (.seeded 2))) lateCancellation
    (fun db => db.anonymised.length = 1) (by decide +kernel) with ⟨state, reached, one⟩
  have primary : (overdue.accounts.map AccountRow.id).Nodup := by decide
  exact ⟨state, reached, of_decide_eq_true one, anonymised_due primary reached⟩

/-- A cancellation that comes between the selection and the purge is acknowledged, and the
account is made anonymous all the same. -/
theorem anonymised_cancelled :
    ¬ ∀ (db : DeletionDb) (requests : Nat -> DeletionRequest) (print : RowId -> String)
        (state : DeletionState), Tables.Unique AccountRow.id db.accounts ->
      Reaches deletionStore (fun _ _ => True) (deletionOpening print db requests) state ->
        ∀ mark, mark ∈ state.db.anonymised -> mark.before.due mark.at_ = true := by
  intro due
  rcases exists_of_play deletionStore
    (deletionOpening (fun _ => "id") overdue (changeOfMind (.seeded 1))) lateCancellation
    (fun db => ∃ mark, mark ∈ db.anonymised ∧ mark.before.due mark.at_ = false)
    (by decide +kernel) with ⟨state, reached, mark, member, early⟩
  have primary : (overdue.accounts.map AccountRow.id).Nodup := by decide
  have held := due overdue (changeOfMind (.seeded 1)) (fun _ => "id") state primary reached
    mark member
  rw [early] at held
  cases held

end Accounts
end LevelChannel
