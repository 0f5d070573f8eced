import Mathlib.Data.List.MinMax
import Mathlib.Data.Prod.Lex
import LevelChannel.Tables.Rows
import LevelChannel.Schema.Identifiers

namespace LevelChannel

open Tables

namespace Legal

/-!
# Versions of legal documents

`legal_document_versions` is append-only.  A version comes into force on its own date,
so the one in force at a given time is found by date, while its predecessor is a link
that was set when it was published.
-/

/-- `legal_document_versions.doc_kind` -/
inductive LegalDocKind where
  | offer
  | privacy
  | personalData
  | saasOffer
  | saasProcessorTerms
  deriving DecidableEq, Repr

/-- `legal_document_versions.change_kind` -/
inductive ChangeKind where
  | material
  | editorial
  deriving DecidableEq, Repr

/-- A row of `legal_document_versions`. -/
structure LegalDocumentVersion where
  id : RowId
  docKind : LegalDocKind
  versionLabel : String
  effectiveFrom : Nat
  bodyMd : String
  previousVersionId : Option RowId
  changeKind : ChangeKind
  createdAt : Nat
  createdByAccountId : Option RowId
  deriving DecidableEq, Repr

namespace LegalDocumentVersion

/-- `order by effective_from desc, created_at desc` -/
def rank (row : LegalDocumentVersion) : Nat ×ₗ Nat :=
  toLex (row.effectiveFrom, row.createdAt)

/-- `unique (doc_kind, version_label)` -/
def key (row : LegalDocumentVersion) : LegalDocKind × String :=
  (row.docKind, row.versionLabel)

end LegalDocumentVersion

def versionsOf (versions : List LegalDocumentVersion) (docKind : LegalDocKind) :
    List LegalDocumentVersion :=
  versions.filter fun row => row.docKind = docKind

/-- The version of the greatest rank, the first of them in table order. -/
def latestLegalVersion (versions : List LegalDocumentVersion) (docKind : LegalDocKind) :
    Option LegalDocumentVersion :=
  (versionsOf versions docKind).argmax LegalDocumentVersion.rank

def getCurrentLegalVersion (versions : List LegalDocumentVersion) (now : Nat)
    (docKind : LegalDocKind) : Option LegalDocumentVersion :=
  latestLegalVersion (versions.filter fun row => row.effectiveFrom ≤ now) docKind

/-- The loop of `isEditorialOnlyChain`, with the hops that are left. -/
def editorialHops (versions : List LegalDocumentVersion) (toVersionId : RowId) :
    Nat -> Option RowId -> Bool
  | 0, _ => false
  | _ + 1, none => false
  | hops + 1, some cursor =>
    match get LegalDocumentVersion.id versions cursor with
    | none => false
    | some row =>
      if row.changeKind ≠ .editorial then false
      else if row.previousVersionId = some toVersionId then true
      else editorialHops versions toVersionId hops row.previousVersionId

def isEditorialOnlyChain (versions : List LegalDocumentVersion)
    (fromVersionId toVersionId : RowId) : Bool :=
  if fromVersionId = toVersionId then true
  else editorialHops versions toVersionId 16 (some fromVersionId)

theorem isEditorialOnlyChain_self (versions : List LegalDocumentVersion) (id : RowId) :
    isEditorialOnlyChain versions id id = true := by
  simp [isEditorialOnlyChain]

end Legal

end LevelChannel
