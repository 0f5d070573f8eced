namespace LevelChannel

/-!
# Identifiers

Primary keys come from `gen_random_uuid()`.  The model does not draw random
numbers: a row that was there before the run has a `seeded` identifier, and a row
a session inserts has one that session has minted.  Two sessions therefore never
mint the same identifier, which is all the code expects of a random one.

An identifier also travels as text.  Request bodies carry it in a spelling of the
client's choice, since the route patterns accept both letter cases, while the
database prints it in one canonical spelling and a `::uuid` cast forgets the
difference.  Comparisons of text, in TypeScript or inside an advisory lock key,
do not forget it.
-/

inductive RowId where
  | seeded (number : Nat)
  | minted (session number : Nat)
  deriving DecidableEq, Repr

def RowId.minter : RowId -> Option Nat
  | .seeded _ => none
  | .minted session _ => some session

instance : LawfulBEq (RowId × RowId) :=
  Prod.instLawfulBEq

@[simp] theorem RowId.minter_minted (session number : Nat) :
    (RowId.minted session number).minter = some session := rfl

/-- An identifier as text.  Spelling zero is the one the database prints. -/
structure UuidText where
  id : RowId
  spelling : Nat
  deriving DecidableEq, Repr

namespace UuidText

def canonical (id : RowId) : UuidText :=
  ⟨id, 0⟩

def IsCanonical (text : UuidText) : Prop :=
  text.spelling = 0

instance (text : UuidText) : Decidable text.IsCanonical :=
  inferInstanceAs (Decidable (text.spelling = 0))

theorem canonical_isCanonical (id : RowId) : (canonical id).IsCanonical := rfl

theorem IsCanonical.eq_canonical {text : UuidText} (plain : text.IsCanonical) :
    text = canonical text.id := by
  cases text with
  | mk id spelling =>
    simp only [IsCanonical] at plain
    simp [canonical, plain]

end UuidText

/-- `payment_orders.invoice_id`.  Most orders get a generated number; an admin
grant gets one hashed from the texts of package and account, and the day. -/
inductive InvoiceId where
  | generated (id : RowId)
  | adminGrant (packageId targetAccountId : UuidText) (day : Nat)
  deriving DecidableEq, Repr

end LevelChannel
