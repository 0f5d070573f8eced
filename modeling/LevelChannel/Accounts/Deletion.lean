import Mathlib.Data.List.MinMax
import Mathlib.Data.List.Sort
import LevelChannel.ReadCommitted.Statements
import LevelChannel.Tables.Rows
import LevelChannel.Schema.Billing

namespace LevelChannel

open ReadCommitted Tables

namespace Accounts

/-!
# Deleting an account

A request to delete an account only schedules the purge.  Thirty days later the nightly
retention job makes the row anonymous, unless the account still waits for a package it
paid for.  That exception is written twice: as `checkAccountInFlightPackageGrant`, which
guards the request, and once more inside the job.
-/

/-- A row of `accounts`, with the columns that deletion reads or writes. -/
structure AccountRow where
  id : RowId
  email : String
  passwordHash : String
  learnerTelegramEnabled : Bool
  learnerTelegramChatId : Option String
  teacherTelegramEnabled : Bool
  teacherTelegramChatId : Option String
  disabledAt : Option Nat
  scheduledPurgeAt : Option Nat
  purgedAt : Option Nat
  updatedAt : Nat
  deriving DecidableEq, Repr

/-- A row of `account_profiles`. -/
structure AccountProfile where
  accountId : RowId
  displayName : Option String
  firstName : Option String
  lastName : Option String
  timezone : Option String
  locale : Option String
  updatedAt : Nat
  deriving DecidableEq, Repr

/-- What the anonymising statement did: the row it found and the time.  No table holds
this. -/
structure Anonymisation where
  before : AccountRow
  at_ : Nat
  deriving DecidableEq, Repr

/-- The tables, the clock, and two records that no table holds: the accounts a session of
the job has selected and not yet done with, and the rows made anonymous. -/
structure DeletionDb where
  now : Nat
  accounts : List AccountRow
  profiles : List AccountProfile
  onboarding : List RowId
  orders : List PaymentOrder
  purchases : List PackagePurchase
  resolutions : List InvoiceId
  selected : List (Nat × RowId)
  anonymised : List Anonymisation

namespace DeletionDb

variable (db : DeletionDb)

/-- `PAID_NOT_GRANTED_WHERE_SQL` -/
def paidNotGranted (po : PaymentOrder) : Bool :=
  po.status = .paid && po.metadataPackageSlug.isSome &&
    (!db.purchases.any fun pp => pp.paymentOrderId = po.invoiceId) &&
    !db.resolutions.contains po.invoiceId

/-- `po.customer_email = (select a.email from accounts a where a.id = $1 limit 1)` -/
def emailMatches (accountId : RowId) (po : PaymentOrder) : Bool :=
  match get AccountRow.id db.accounts accountId with
  | some account => po.customerEmail = some account.email
  | none => false

/-- `order by po.created_at asc limit 1` -/
def oldestInvoice (orders : List PaymentOrder) : Option InvoiceId :=
  (orders.argmin PaymentOrder.createdAt).map PaymentOrder.invoiceId

def findPaidNotGrantedForAccount (accountId : UuidText) : Option InvoiceId :=
  oldestInvoice (db.orders.filter fun po =>
    (po.metadataAccountId = some accountId || db.emailMatches accountId.id po) &&
      db.paidNotGranted po)

def pendingWithin15Min (accountId : UuidText) (po : PaymentOrder) : Bool :=
  po.metadataAccountId = some accountId && po.metadataPackageSlug.isSome &&
    (po.status = .pending || po.status = .threeDsRequired) &&
    decide (db.now < po.createdAt + 15 * 60 * 1000)

end DeletionDb

inductive InFlightGrantReason where
  | pendingWithin15Min
  | paidNotGranted
  deriving DecidableEq, Repr

structure AccountInFlightGrantStatus where
  inFlight : Bool
  reason : Option InFlightGrantReason
  sampleInvoiceId : Option InvoiceId
  deriving DecidableEq, Repr

namespace DeletionDb

variable (db : DeletionDb)

def checkAccountInFlightPackageGrant (accountId : UuidText) : AccountInFlightGrantStatus :=
  let branchAInvoice := oldestInvoice (db.orders.filter (db.pendingWithin15Min accountId))
  let branchBInvoice := db.findPaidNotGrantedForAccount accountId
  match branchBInvoice, branchAInvoice with
  | some invoiceId, _ => ⟨true, some .paidNotGranted, some invoiceId⟩
  | none, some invoiceId => ⟨true, some .pendingWithin15Min, some invoiceId⟩
  | none, none => ⟨false, none, none⟩

/-- `branch_a_invoice`; no order is asked for, so any of the rows may be the first. -/
def branchAInvoice (id : RowId) : Option InvoiceId :=
  (db.orders.find? (db.pendingWithin15Min (.canonical id))).map PaymentOrder.invoiceId

/-- The order has the account in its metadata, and it is paid and not granted as far as
the job can see: it does not look for a resolution. -/
def paidWithoutPurchase (id : RowId) (po : PaymentOrder) : Bool :=
  po.metadataAccountId = some (.canonical id) && po.metadataPackageSlug.isSome &&
    po.status = .paid && !db.purchases.any fun pp => pp.paymentOrderId = po.invoiceId

/-- `branch_b_invoice` -/
def branchBInvoice (id : RowId) : Option InvoiceId :=
  (db.orders.find? (db.paidWithoutPurchase id)).map PaymentOrder.invoiceId

def purgeDeferred (id : RowId) : Bool :=
  (db.branchAInvoice id).isSome || (db.branchBInvoice id).isSome

/-! ## What each guard looks for -/

variable {db : DeletionDb} {id : RowId}

theorem oldestInvoice_isSome (orders : List PaymentOrder) :
    (oldestInvoice orders).isSome = true <-> orders ≠ [] := by
  rw [oldestInvoice, Option.isSome_map, Ne, <- List.argmin_eq_none (f := PaymentOrder.createdAt)]
  cases orders.argmin PaymentOrder.createdAt <;> simp

theorem oldestInvoice_filter_isSome (orders : List PaymentOrder) (where_ : PaymentOrder -> Bool) :
    (oldestInvoice (orders.filter where_)).isSome = true <->
      ∃ po, po ∈ orders ∧ where_ po = true := by
  rw [oldestInvoice_isSome, Ne, List.filter_eq_nil_iff]
  constructor
  · intro found
    push Not at found
    exact found
  · rintro ⟨po, listed, chosen⟩ nothing
    exact nothing po listed chosen

variable (db id) in
def StartedPaying : Prop :=
  ∃ po, po ∈ db.orders ∧ db.pendingWithin15Min (.canonical id) po = true

variable (db id) in
def Owed : Prop :=
  ∃ po, po ∈ db.orders ∧ db.paidNotGranted po = true ∧
    (po.metadataAccountId = some (.canonical id) ∨ db.emailMatches id po = true)

variable (db id) in
def OwedByMetadata : Prop :=
  ∃ po, po ∈ db.orders ∧ db.paidNotGranted po = true ∧
    po.metadataAccountId = some (.canonical id)

variable (db id) in
def OwedByEmailOnly : Prop :=
  ∃ po, po ∈ db.orders ∧ db.paidNotGranted po = true ∧
    po.metadataAccountId ≠ some (.canonical id) ∧ db.emailMatches id po = true

variable (db id) in
/-- An order of the account was paid, never granted, and resolved by an operator. -/
def Resolved : Prop :=
  ∃ po, po ∈ db.orders ∧ db.paidWithoutPurchase id po = true ∧
    db.resolutions.contains po.invoiceId = true

theorem inFlight_iff : (db.checkAccountInFlightPackageGrant (.canonical id)).inFlight = true <->
      db.StartedPaying id ∨ db.Owed id := by
  have started := oldestInvoice_filter_isSome db.orders (db.pendingWithin15Min (.canonical id))
  have owed : (db.findPaidNotGrantedForAccount (.canonical id)).isSome = true <-> db.Owed id := by
    rw [findPaidNotGrantedForAccount, oldestInvoice_filter_isSome]
    simp only [Bool.and_eq_true, Bool.or_eq_true, decide_eq_true_eq]
    constructor
    · rintro ⟨po, listed, names, due⟩
      exact ⟨po, listed, due, names⟩
    · rintro ⟨po, listed, due, names⟩
      exact ⟨po, listed, names, due⟩
  rw [StartedPaying, <- started, <- owed, checkAccountInFlightPackageGrant]
  cases db.findPaidNotGrantedForAccount (.canonical id) with
  | some invoiceId => simp
  | none =>
    cases oldestInvoice (db.orders.filter (db.pendingWithin15Min (.canonical id))) with
    | some invoiceId => simp
    | none => simp

theorem purgeDeferred_iff : db.purgeDeferred id = true <->
      db.StartedPaying id ∨ ∃ po, po ∈ db.orders ∧ db.paidWithoutPurchase id po = true := by
  simp only [purgeDeferred, branchAInvoice, branchBInvoice, Option.isSome_map, Bool.or_eq_true,
    List.find?_isSome, StartedPaying]

theorem paidWithoutPurchase_iff : (∃ po, po ∈ db.orders ∧ db.paidWithoutPurchase id po = true) <->
      db.OwedByMetadata id ∨ db.Resolved id := by
  constructor
  · rintro ⟨po, listed, found⟩
    by_cases resolved : db.resolutions.contains po.invoiceId = true
    · exact Or.inr ⟨po, listed, found, resolved⟩
    · simp only [paidWithoutPurchase, Bool.and_eq_true, decide_eq_true_eq] at found
      refine Or.inl ⟨po, listed, ?_, found.1.1.1⟩
      simp only [paidNotGranted, Bool.and_eq_true, decide_eq_true_eq]
      exact ⟨⟨⟨found.1.2, found.1.1.2⟩, found.2⟩, by simpa using resolved⟩
  · rintro (⟨po, listed, due, names⟩ | ⟨po, listed, found, -⟩)
    · simp only [paidNotGranted, Bool.and_eq_true, decide_eq_true_eq] at due
      refine ⟨po, listed, ?_⟩
      simp only [paidWithoutPurchase, Bool.and_eq_true, decide_eq_true_eq]
      exact ⟨⟨⟨names, due.1.1.2⟩, due.1.1.1⟩, due.1.2⟩
    · exact ⟨po, listed, found⟩

theorem owed_iff : db.Owed id <-> db.OwedByMetadata id ∨ db.OwedByEmailOnly id := by
  constructor
  · rintro ⟨po, listed, due, names⟩
    by_cases keyed : po.metadataAccountId = some (.canonical id)
    · exact Or.inl ⟨po, listed, due, keyed⟩
    · exact Or.inr ⟨po, listed, due, keyed, names.resolve_left keyed⟩
  · rintro (⟨po, listed, due, keyed⟩ | ⟨po, listed, due, -, matched⟩)
    · exact ⟨po, listed, due, Or.inl keyed⟩
    · exact ⟨po, listed, due, Or.inr matched⟩

variable (db id) in
/-- The guard of the job blocks the account exactly when the helper does; so both block
while a package is owed, and neither does when none is and no payment has been started. -/
structure GuardsAgree : Prop where
  same : db.purgeDeferred id = true <->
    (db.checkAccountInFlightPackageGrant (.canonical id)).inFlight = true
  owed : db.Owed id -> db.purgeDeferred id = true ∧
    (db.checkAccountInFlightPackageGrant (.canonical id)).inFlight = true
  free : ¬ db.StartedPaying id -> ¬ db.Owed id -> db.purgeDeferred id = false ∧
    (db.checkAccountInFlightPackageGrant (.canonical id)).inFlight = false

/-- The guards agree when a payment has been started or an order that names the account in
its metadata is owed.  Otherwise they agree only if the order the job fails to see, owed
by e-mail, and the one it should not see, resolved, are both there or both absent. -/
theorem guardsAgree_iff (db : DeletionDb) (id : RowId) : db.GuardsAgree id <->
      db.StartedPaying id ∨ db.OwedByMetadata id ∨ (db.OwedByEmailOnly id <-> db.Resolved id) := by
  have job : db.purgeDeferred id = true <->
      db.StartedPaying id ∨ db.OwedByMetadata id ∨ db.Resolved id := by
    rw [purgeDeferred_iff, paidWithoutPurchase_iff]
  have helper : (db.checkAccountInFlightPackageGrant (.canonical id)).inFlight = true <->
      db.StartedPaying id ∨ db.OwedByMetadata id ∨ db.OwedByEmailOnly id := by
    rw [inFlight_iff, owed_iff]
  constructor
  · intro agree
    have same := agree.same
    rw [job, helper] at same
    by_cases started : db.StartedPaying id
    · exact Or.inl started
    · by_cases named : db.OwedByMetadata id
      · exact Or.inr (Or.inl named)
      · simp only [started, named, false_or] at same ⊢
        exact same.symm
  · intro alike
    have same : db.purgeDeferred id = true <->
        (db.checkAccountInFlightPackageGrant (.canonical id)).inFlight = true := by
      rw [job, helper]
      rcases alike with started | named | alike
      · exact iff_of_true (Or.inl started) (Or.inl started)
      · exact iff_of_true (Or.inr (Or.inl named)) (Or.inr (Or.inl named))
      · rw [alike]
    constructor
    · exact same
    · intro owed
      have blocked := inFlight_iff.mpr (Or.inr owed)
      exact ⟨same.mpr blocked, blocked⟩
    · intro idle settled
      have open_ : ¬ (db.checkAccountInFlightPackageGrant (.canonical id)).inFlight = true := by
        rw [inFlight_iff]
        exact not_or.mpr ⟨idle, settled⟩
      exact ⟨Bool.eq_false_iff.mpr fun deferred => open_ (same.mp deferred),
        Bool.eq_false_iff.mpr open_⟩

/-- A learner paid for a package, and an operator settled the order outside the system. -/
def settledOffline : DeletionDb where
  now := 100000000
  accounts := [⟨.seeded 1, "learner@example.com", "$2b$", false, none, false, none, none, none,
    none, 0⟩]
  profiles := []
  onboarding := []
  orders := [⟨.generated (.seeded 9), 350000, .paid, .cloudpayments, none,
    some "learner@example.com", some (.canonical (.seeded 1)), none, some "lessons-10", none,
    .seeded 2, none, 0, some 0⟩]
  purchases := []
  resolutions := [.generated (.seeded 9)]
  selected := []
  anonymised := []

/-- The job keeps the account of a resolved order for good, while the helper lets it go. -/
theorem guards_differ : ¬ ∀ (db : DeletionDb) (id : RowId), db.GuardsAgree id := by
  intro agree
  have same := (agree settledOffline (.seeded 1)).same
  revert same
  decide +kernel

end DeletionDb
end Accounts
end LevelChannel
