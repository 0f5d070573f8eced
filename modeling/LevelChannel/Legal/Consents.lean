import Mathlib.Data.List.MinMax
import LevelChannel.Tables.Rows
import LevelChannel.Schema.Identifiers

namespace LevelChannel

open Tables

namespace Legal

/-!
# Consents

`account_consents` keeps one row for each acceptance of a document.  A withdrawal
stamps the latest acceptance that is not stamped yet and leaves the earlier ones as
they are; the reader looks for any acceptance without a stamp.  The two meet only
where an account has at most one acceptance of a document in force.
-/

/-- `account_consents.document_kind` -/
inductive ConsentKind where
  | personalData
  | offer
  | marketingOptIn
  | parentConsent
  | saasOffer
  | saasProcessorTerms
  deriving DecidableEq, Repr

/-- A row of `account_consents`. -/
structure AccountConsent where
  id : RowId
  accountId : RowId
  documentKind : ConsentKind
  documentVersion : String
  documentPath : Option String
  acceptedAt : Nat
  ip : Option String
  userAgent : Option String
  createdAt : Nat
  revokedAt : Option Nat
  legalDocumentVersionId : Option RowId
  deriving DecidableEq, Repr

/-- `text || null` -/
def orNull (text : Option String) : Option String :=
  text.filter fun given => !given.isEmpty

/-- The argument of `recordConsent`. -/
structure RecordConsent where
  accountId : RowId
  documentKind : ConsentKind
  documentVersion : String
  documentPath : Option String
  ip : Option String
  userAgent : Option String
  acceptedAt : Option Nat
  legalDocumentVersionId : Option RowId
  deriving DecidableEq

/-- The argument of `withdrawConsent`. -/
structure WithdrawConsent where
  accountId : RowId
  documentKind : ConsentKind
  revokedAt : Option Nat
  deriving DecidableEq

/-- `account_id = $1 and document_kind = $2 and revoked_at is null` -/
def AccountConsent.inForce (accountId : RowId) (documentKind : ConsentKind)
    (row : AccountConsent) : Bool :=
  row.accountId = accountId && row.documentKind = documentKind && row.revokedAt.isNone

def acceptances (rows : List AccountConsent) (accountId : RowId) (documentKind : ConsentKind) :
    List AccountConsent :=
  rows.filter (AccountConsent.inForce accountId documentKind)

/-- `getActiveConsent`.  Acceptances of one instant are taken in table order. -/
def getActiveConsent (rows : List AccountConsent) (accountId : RowId)
    (documentKind : ConsentKind) : Option AccountConsent :=
  (acceptances rows accountId documentKind).argmax AccountConsent.acceptedAt

/-- The row `recordConsent` inserts. -/
def RecordConsent.row (id : RowId) (now : Nat) (params : RecordConsent) : AccountConsent where
  id := id
  accountId := params.accountId
  documentKind := params.documentKind
  documentVersion := params.documentVersion
  documentPath := orNull params.documentPath
  acceptedAt := params.acceptedAt.getD now
  ip := orNull params.ip
  userAgent := orNull params.userAgent
  createdAt := now
  revokedAt := none
  legalDocumentVersionId := params.legalDocumentVersionId

/-- `recordConsent`.  The insert fails when the drawn key is taken. -/
def recordConsent (rows : List AccountConsent) (id : RowId) (now : Nat) (params : RecordConsent) :
    List AccountConsent :=
  match get AccountConsent.id rows id with
  | some _ => rows
  | none => (Change.insert (params.row id now)).apply AccountConsent.id rows

def withdrawConsent (rows : List AccountConsent) (now : Nat) (params : WithdrawConsent) :
    List AccountConsent :=
  match getActiveConsent rows params.accountId params.documentKind with
  | none => rows
  | some row =>
    (Change.replace { row with revokedAt := some (params.revokedAt.getD now) }).apply
      AccountConsent.id rows

inductive ConsentStep where
  | record (id : RowId) (now : Nat) (params : RecordConsent)
  | withdraw (now : Nat) (params : WithdrawConsent)
  deriving DecidableEq

namespace ConsentStep

def apply (rows : List AccountConsent) : ConsentStep -> List AccountConsent
  | .record id now params => recordConsent rows id now params
  | .withdraw now params => withdrawConsent rows now params

def applyAll (rows : List AccountConsent) (steps : List ConsentStep) : List AccountConsent :=
  steps.foldl apply rows

def Records (accountId : RowId) (documentKind : ConsentKind) : ConsentStep -> Prop
  | .record _ _ params => params.accountId = accountId ∧ params.documentKind = documentKind
  | .withdraw _ _ => False

end ConsentStep

section Withdrawal

variable {rows : List AccountConsent} {accountId : RowId} {documentKind : ConsentKind}

theorem getActiveConsent_eq_none : getActiveConsent rows accountId documentKind = none <->
      acceptances rows accountId documentKind = [] :=
  List.argmax_eq_none

private theorem acceptances_stamp (stamped : AccountConsent)
    (withdrawn : stamped.inForce accountId documentKind = false) :
    acceptances ((Change.replace stamped).apply AccountConsent.id rows) accountId documentKind =
      (acceptances rows accountId documentKind).filter fun row => row.id ≠ stamped.id := by
  simp only [acceptances, Change.apply]
  induction rows with
  | nil => rfl
  | cons row rest extend =>
    simp only [List.map_cons, List.filter_cons]
    by_cases same : row.id = stamped.id
    · by_cases active : row.inForce accountId documentKind = true <;>
        simp [same, withdrawn, active, extend]
    · by_cases active : row.inForce accountId documentKind = true <;>
        simp [same, active, extend]

private theorem acceptances_withdraw (now : Nat) (params : WithdrawConsent)
    {latest : AccountConsent}
    (read : getActiveConsent rows params.accountId params.documentKind = some latest) :
    acceptances (withdrawConsent rows now params) params.accountId params.documentKind =
      (acceptances rows params.accountId params.documentKind).filter
        fun row => row.id ≠ latest.id := by
  simp only [withdrawConsent, read]
  refine acceptances_stamp _ ?_
  simp [AccountConsent.inForce]

private theorem acceptances_step {step : ConsentStep}
    (other : ¬ step.Records accountId documentKind)
    (empty : acceptances rows accountId documentKind = []) :
    acceptances (step.apply rows) accountId documentKind = [] := by
  cases step with
  | record id now params =>
    simp only [ConsentStep.apply, recordConsent]
    split
    · exact empty
    · simp only [acceptances, Change.apply, List.filter_append] at empty ⊢
      rw [empty]
      by_cases account : params.accountId = accountId
      · have kind : params.documentKind ≠ documentKind := fun same => other ⟨account, same⟩
        simp [AccountConsent.inForce, RecordConsent.row, kind]
      · simp [AccountConsent.inForce, RecordConsent.row, account]
  | withdraw now params =>
    simp only [ConsentStep.apply, withdrawConsent]
    split
    · exact empty
    · rw [acceptances_stamp _ (by simp [AccountConsent.inForce]), empty, List.filter_nil]

private theorem acceptances_steps {steps : List ConsentStep}
    (others : ∀ step, step ∈ steps -> ¬ step.Records accountId documentKind)
    (empty : acceptances rows accountId documentKind = []) :
    acceptances (ConsentStep.applyAll rows steps) accountId documentKind = [] := by
  induction steps generalizing rows with
  | nil => exact empty
  | cons step steps extend =>
    have after := acceptances_step (others step List.mem_cons_self) empty
    exact extend (fun later member => others later (List.mem_cons_of_mem _ member)) after

private theorem unique_step (unique : Tables.Unique AccountConsent.id rows)
    (step : ConsentStep) : Tables.Unique AccountConsent.id (step.apply rows) := by
  cases step with
  | record id now params =>
    cases taken : get AccountConsent.id rows id with
    | some row => simpa only [ConsentStep.apply, recordConsent, taken] using unique
    | none =>
      simp only [ConsentStep.apply, recordConsent, taken]
      exact unique.insert taken
  | withdraw now params =>
    cases read : getActiveConsent rows params.accountId params.documentKind with
    | none => simpa only [ConsentStep.apply, withdrawConsent, read] using unique
    | some row =>
      simp only [ConsentStep.apply, withdrawConsent, read]
      exact unique.replace _

private theorem unique_steps (unique : Tables.Unique AccountConsent.id rows)
    (steps : List ConsentStep) :
    Tables.Unique AccountConsent.id (ConsentStep.applyAll rows steps) := by
  induction steps generalizing rows with
  | nil => exact unique
  | cons step steps extend => exact extend (unique_step unique step)

private theorem withdraw_empties (unique : Tables.Unique AccountConsent.id rows) (now : Nat)
    (params : WithdrawConsent) :
    acceptances (withdrawConsent rows now params) params.accountId params.documentKind = [] <->
      (acceptances rows params.accountId params.documentKind).length ≤ 1 := by
  cases read : getActiveConsent rows params.accountId params.documentKind with
  | none =>
    have empty := getActiveConsent_eq_none.mp read
    simp [withdrawConsent, read, empty]
  | some latest =>
    rw [acceptances_withdraw now params read, List.filter_eq_nil_iff]
    have listed : latest ∈ acceptances rows params.accountId params.documentKind :=
      List.argmax_mem read
    have distinct : ((acceptances rows params.accountId params.documentKind).map
        AccountConsent.id).Nodup :=
      List.Nodup.sublist (List.filter_sublist.map _) unique
    generalize acceptances rows params.accountId params.documentKind = found at listed distinct
    constructor
    · intro all
      have same : ∀ row, row ∈ found -> row = latest := by
        intro row member
        have key : row.id = latest.id := by simpa using all row member
        exact List.inj_on_of_nodup_map distinct member listed key
      have repeated : found = List.replicate found.length latest :=
        List.eq_replicate_iff.mpr ⟨rfl, same⟩
      have once : (List.replicate found.length latest).Nodup := repeated ▸ distinct.of_map _
      exact List.nodup_replicate.mp once
    · intro few row member
      have short : found = [latest] := by
        cases found with
        | nil => cases listed
        | cons first rest =>
          have empty : rest = [] := List.length_eq_zero_iff.mp (by simpa using few)
          subst empty
          rw [List.mem_singleton.mp listed]
      rw [short, List.mem_singleton] at member
      simp [member]

/-- After a withdrawal and until the next acceptance no consent is in force, whatever
other calls come in between, exactly when at most one acceptance was in force before. -/
theorem withdrawn_until_recorded (history : List ConsentStep) (now : Nat)
    (params : WithdrawConsent) : (∀ later, (∀ step, step ∈ later ->
        ¬ step.Records params.accountId params.documentKind) -> getActiveConsent
        (ConsentStep.applyAll (withdrawConsent (ConsentStep.applyAll [] history) now params) later)
        params.accountId params.documentKind = none) <->
      (acceptances (ConsentStep.applyAll [] history) params.accountId
        params.documentKind).length ≤ 1 := by
  have nothing : Tables.Unique AccountConsent.id [] := List.nodup_nil
  have unique := unique_steps nothing history
  rw [← withdraw_empties unique now params]
  constructor
  · intro always
    have directly := always [] fun step member => absurd member List.not_mem_nil
    exact getActiveConsent_eq_none.mp directly
  · intro empty later others
    exact getActiveConsent_eq_none.mpr (acceptances_steps others empty)

end Withdrawal

private def acceptance (version : String) (at_ : Nat) : ConsentStep :=
  .record (.seeded at_) at_
    { accountId := .seeded 7
      documentKind := .personalData
      documentVersion := version
      documentPath := none
      ip := none
      userAgent := none
      acceptedAt := none
      legalDocumentVersionId := none }

/-- Accepting two versions and withdrawing once leaves the first one in force. -/
theorem withdrawn_still_in_force :
    ¬ ∀ (history : List ConsentStep) (now : Nat) (params : WithdrawConsent)
        (later : List ConsentStep),
      (∀ step, step ∈ later -> ¬ step.Records params.accountId params.documentKind) ->
      getActiveConsent (ConsentStep.applyAll
          (withdrawConsent (ConsentStep.applyAll [] history) now params) later)
        params.accountId params.documentKind = none := by
  intro always
  have claimed := always [acceptance "v1" 1, acceptance "v2" 2] 3 ⟨.seeded 7, .personalData, none⟩ []
    fun step member => absurd member List.not_mem_nil
  revert claimed
  decide

end Legal

end LevelChannel
