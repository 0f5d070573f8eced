import LevelChannel.ReadCommitted.Statements
import LevelChannel.Schema.Database
import LevelChannel.Legal.Gate

namespace LevelChannel

open Tables

namespace Legal

/-!
# The database behind the SaaS-offer gate

Versions, consents and the setting of the gate, with the two transactions that meet
there: the publication of a version, and a write of a teacher behind the gate.  Both
take advisory locks named after the documents, the one exclusively, the other shared.
-/

/-- What is known of a write that passed the gate: what its verdict rests on, the time at which
its locks were granted, and the versions published when it was committed.  No table holds
this. -/
structure GatedMutation where
  accountId : RowId
  snapshot : GateSnapshot
  grantedAt : Nat
  versions : List LegalDocumentVersion

structure LegalDb where
  clock : Nat
  setting : GateSetting
  versions : List LegalDocumentVersion
  consents : List AccountConsent
  mutations : List GatedMutation

inductive LegalWrite where
  | version (row : LegalDocumentVersion)
  | mutation (accountId : RowId) (snapshot : GateSnapshot) (grantedAt : Nat)

/-- What happens without a modelled session: time passes, the operator turns the gate on
or off, and consents are recorded and withdrawn. -/
inductive LegalDrift where
  | tick (milliseconds : Nat)
  | setting (setting : GateSetting)
  | consent (step : ConsentStep)

def LegalDb.apply (db : LegalDb) : LegalWrite -> LegalDb
  | .version row => { db with versions := db.versions ++ [row] }
  | .mutation accountId snapshot grantedAt =>
    { db with mutations := db.mutations ++ [⟨accountId, snapshot, grantedAt, db.versions⟩] }

def LegalDb.drift (db : LegalDb) : LegalDrift -> LegalDb
  | .tick milliseconds => { db with clock := db.clock + milliseconds }
  | .setting setting => { db with setting := setting }
  | .consent step => { db with consents := step.apply db.consents }

def LegalWrite.published : LegalWrite -> Option LegalDocumentVersion
  | .version row => some row
  | .mutation _ _ _ => none

/-- What the legal locks are on: `'legal:' || doc_kind`, and an entry of the unique index
on kind and label. -/
inductive LegalTarget where
  | legal (docKind : LegalDocKind)
  | label (key : LegalDocKind × String)
  deriving DecidableEq, Repr

structure LegalLock where
  target : LegalTarget
  mode : LockMode
  deriving DecidableEq, Repr

def LegalLock.conflict (first second : LegalLock) : Bool :=
  first.target = second.target && first.mode.conflicts second.mode

theorem LegalLock.conflict_comm (first second : LegalLock) :
    first.conflict second = second.conflict first := by
  simp only [LegalLock.conflict, LockMode.conflicts_comm first.mode,
    eq_comm (a := first.target)]

/-- `pg_advisory_xact_lock(hashtext('legal:' || doc_kind))` -/
def exclusive (docKind : LegalDocKind) : LegalLock :=
  ⟨.legal docKind, .update⟩

/-- `pg_advisory_xact_lock_shared(hashtext('legal:' || doc_kind))` -/
def shared (docKind : LegalDocKind) : LegalLock :=
  ⟨.legal docKind, .share⟩

def legalStore : ReadCommitted.Store LegalDb LegalLock LegalWrite LegalDrift where
  apply := LegalDb.apply
  drift := fun change db => db.drift change
  close := fun _ db => db
  conflict := LegalLock.conflict
  conflict_comm := LegalLock.conflict_comm

theorem versions_applyAll (writes : List LegalWrite) (db : LegalDb) :
    (legalStore.applyAll db writes).versions =
        db.versions ++ writes.filterMap LegalWrite.published ∧
      (legalStore.applyAll db writes).clock = db.clock := by
  induction writes generalizing db with
  | nil => exact ⟨(List.append_nil _).symm, rfl⟩
  | cons write writes extend =>
    have rest := extend (db.apply write)
    rw [ReadCommitted.Store.applyAll_cons]
    cases write with
    | version row =>
      refine ⟨rest.1.trans ?_, rest.2⟩
      exact List.append_assoc _ [row] _
    | mutation accountId snapshot grantedAt => exact rest

/-- Statements that a theorem wants to speak about.  Those of a gate up to its grant carry the
time its transaction began, and its snapshot of the versions once it has been taken. -/
inductive LegalLabel where
  | plain
  | predecessor (docKind : LegalDocKind)
  | begun (begunAt : Nat)
  | waiting (versions : List LegalDocumentVersion) (begunAt : Nat)
  | granted (versions : List LegalDocumentVersion) (begunAt : Nat)

inductive LegalReply where
  | published (id : RowId)
  | thrown
  | passed
  | refused (verdict : SaasOfferGateVerdict)
  deriving DecidableEq

abbrev LegalProgram :=
  ReadCommitted.Program LegalDb LegalLock LegalWrite LegalLabel Unit LegalReply

abbrev LegalEvent := ReadCommitted.Event LegalDrift Unit

abbrev LegalState := ReadCommitted.State LegalDb LegalLock LegalWrite LegalLabel Unit LegalReply

/-- The argument of `createLegalVersion`. -/
structure CreateLegalVersion where
  docKind : LegalDocKind
  versionLabel : String
  bodyMd : String
  effectiveFrom : Option Nat
  createdByAccountId : RowId
  deriving DecidableEq

/-- The row `createLegalVersion` inserts.  `change_kind` is left to its default. -/
def CreateLegalVersion.row (input : CreateLegalVersion) (id : RowId) (begunAt dateNow : Nat)
    (previousVersionId : Option RowId) : LegalDocumentVersion where
  id := id
  docKind := input.docKind
  versionLabel := input.versionLabel
  effectiveFrom := input.effectiveFrom.getD dateNow
  bodyMd := input.bodyMd
  previousVersionId := previousVersionId
  changeKind := .material
  createdAt := begunAt
  createdByAccountId := some input.createdByAccountId

def versionRejects (row : LegalDocumentVersion) (own : LegalDb) : Bool :=
  own.versions.any fun other => other.id = row.id || other.key = row.key

def createLegalVersion (session : Nat) (input : CreateLegalVersion) : LegalProgram :=
  let thrown : LegalProgram := .done .thrown
  .reading .plain thrown fun begun _ =>
    .acquiring .plain [exclusive input.docKind] thrown fun _ _ =>
      .reading (.predecessor input.docKind) thrown fun _ own =>
        let previousVersionId :=
          (latestLegalVersion own.versions input.docKind).map LegalDocumentVersion.id
        .reading .plain thrown fun called _ =>
          let row := input.row (.minted session 0) begun.clock called.clock previousVersionId
          .guarded .plain [⟨.label row.key, .update⟩] thrown (versionRejects row)
            (fun _ => [.version row])
            fun _ => .commit thrown (.done (.published row.id))

/-- `runInSaasOfferMutationGate`, around a write of the caller.  The level of the
transaction is repeatable read, so the first query on its connection, which is the one
that waits for the lock on the offer, fixes what all later ones read; the setting is read
before that on another connection. -/
def runInSaasOfferMutationGate (accountId : RowId) : LegalProgram :=
  let thrown : LegalProgram := .done .thrown
  .reading .plain thrown fun begun _ =>
    .reading (.begun begun.clock) thrown fun settings _ =>
      if isSaasOfferGateEnabled settings.setting = false then
        .writing .plain [] thrown
          (fun own => [.mutation accountId
            ⟨settings.setting, own.versions, own.consents, begun.clock⟩ own.clock])
          fun _ => .commit thrown (.done .passed)
      else
        .reading (.begun begun.clock) thrown fun seen _ =>
          let snapshot : GateSnapshot :=
            ⟨settings.setting, seen.versions, seen.consents, begun.clock⟩
          .acquiring (.waiting seen.versions begun.clock) [shared .saasOffer] thrown fun _ _ =>
            .acquiring (.granted seen.versions begun.clock) [shared .saasProcessorTerms] thrown
              fun granted _ =>
                let verdict := evaluateSaasOfferGateForMutation snapshot accountId
                if verdict = .ok then
                  .writing .plain [] thrown
                    (fun _ => [.mutation accountId snapshot granted.clock])
                    fun _ => .commit thrown (.done .passed)
                else .rollback (.done (.refused verdict))

inductive LegalRequest where
  | publish (input : CreateLegalVersion)
  | mutate (accountId : RowId)
  deriving DecidableEq

def LegalRequest.program (session : Nat) : LegalRequest -> LegalProgram
  | .publish input => createLegalVersion session input
  | .mutate accountId => runInSaasOfferMutationGate accountId

def legalOpening (db : LegalDb) (requests : Nat -> LegalRequest) : LegalState :=
  ReadCommitted.State.start db fun session => (requests session).program session

end Legal

end LevelChannel
