import LevelChannel.Tables.Rows
import LevelChannel.Schema.Identifiers
import LevelChannel.Schema.Text

namespace LevelChannel

open Tables

namespace Subscriptions

/-!
# Subscriptions of teachers

A teacher has at most one row, which names the plan, the paid period and the order that
paid for it.  A payment overwrites the row with a new period that starts at once, a
cancellation only marks it, and the expiry turns a row whose period is over back into a
free one.
-/

/-- The rows of `teacher_subscription_plans`. -/
inductive PlanSlug where
  | free
  | mid
  | pro
  | operatorManaged
  deriving DecidableEq, Repr

/-- `plan_slug in ('mid', 'pro')` -/
def PlanSlug.paid (slug : PlanSlug) : Bool :=
  slug = .mid || slug = .pro

inductive TeacherSubscriptionTier where
  | mid
  | pro
  deriving DecidableEq, Repr

def TeacherSubscriptionTier.slug : TeacherSubscriptionTier -> PlanSlug
  | .mid => .mid
  | .pro => .pro

inductive SubscriptionState where
  | active
  | pastDue
  | cancelled
  | suspended
  deriving DecidableEq, Repr

/-- A row of `teacher_subscriptions`.  Its primary key is the account. -/
structure TeacherSubscription where
  accountId : RowId
  planSlug : PlanSlug
  state : SubscriptionState
  renewalAt : Option Nat
  periodStart : Option Nat
  periodEnd : Option Nat
  amountKopecks : Option Nat
  paymentOrderId : Option InvoiceId
  cpToken : Option String
  cancelledAt : Option Nat
  createdAt : Nat
  updatedAt : Nat
  deriving DecidableEq, Repr

def dayMs : Nat := 24 * 60 * 60 * 1000

def subscriptionOf (rows : List TeacherSubscription) (accountId : RowId) :
    Option TeacherSubscription :=
  get TeacherSubscription.accountId rows accountId

/-- `on conflict (account_id) do update` -/
def upsert (rows : List TeacherSubscription) (row : TeacherSubscription) :
    Change TeacherSubscription :=
  if (subscriptionOf rows row.accountId).isSome then .replace row else .insert row

theorem subscriptionOf_upsert (rows : List TeacherSubscription) (row : TeacherSubscription)
    (accountId : RowId) :
    subscriptionOf ((upsert rows row).apply TeacherSubscription.accountId rows) accountId =
      if accountId = row.accountId then some row else subscriptionOf rows accountId := by
  by_cases same : accountId = row.accountId
  · subst accountId
    rw [if_pos rfl, upsert]
    cases found : subscriptionOf rows row.accountId with
    | none => exact get_insert_self row found
    | some old => exact get_replace_self row found
  · rw [if_neg same]
    refine get_apply_of_ne (upsert rows row) ?_
    rw [upsert]
    split <;> exact same

/-- The argument of `createOrRenewTeacherSubscription`. -/
structure CreateOrRenew where
  accountId : RowId
  tier : TeacherSubscriptionTier
  amountKopecks : JsonNumber
  paymentOrderId : InvoiceId
  periodDays : Option JsonNumber
  cpToken : Option String
  deriving DecidableEq, Repr

/-- The amount and the days of a payment.  None is thrown: by the checks of the source, or
by the database when the amount does not fit its column. -/
def CreateOrRenew.terms (input : CreateOrRenew) : Option (Nat × Nat) :=
  match positiveInteger (some input.amountKopecks),
    positiveInteger (some (input.periodDays.getD (.integer 30))) with
  | some amountKopecks, some periodDays =>
    if periodDays ≤ 366 ∧ amountKopecks < 2 ^ 31 then some (amountKopecks, periodDays) else none
  | _, _ => none

def CreateOrRenew.row (input : CreateOrRenew) (now amountKopecks periodDays : Nat)
    (old : Option TeacherSubscription) : TeacherSubscription where
  accountId := input.accountId
  planSlug := input.tier.slug
  state := .active
  renewalAt := old.bind TeacherSubscription.renewalAt
  periodStart := some now
  periodEnd := some (now + periodDays * dayMs)
  amountKopecks := some amountKopecks
  paymentOrderId := some input.paymentOrderId
  cpToken := input.cpToken.or (old.bind TeacherSubscription.cpToken)
  cancelledAt := none
  createdAt := (old.map TeacherSubscription.createdAt).getD now
  updatedAt := now

/-- `createOrRenewTeacherSubscription`.  None is thrown. -/
def createOrRenewTeacherSubscription (rows : List TeacherSubscription) (now : Nat)
    (input : CreateOrRenew) : Option (List TeacherSubscription) :=
  input.terms.map fun (amountKopecks, periodDays) =>
    (upsert rows (input.row now amountKopecks periodDays
      (subscriptionOf rows input.accountId))).apply TeacherSubscription.accountId rows

def findSubscriptionByPaymentOrderId (rows : List TeacherSubscription)
    (paymentOrderId : InvoiceId) : Option TeacherSubscription :=
  rows.find? fun row => row.paymentOrderId = some paymentOrderId

/-- The row a cancellation leaves.  The first cancellation is the one on record. -/
def cancelledRow (now : Nat) (row : TeacherSubscription) : TeacherSubscription :=
  { row with
    cancelledAt := row.cancelledAt.or (some now)
    updatedAt := now }

/-- `plan_slug in ('mid', 'pro') and period_end is not null and period_end < now()` -/
def TeacherSubscription.overdue (now : Nat) (row : TeacherSubscription) : Bool :=
  row.planSlug.paid && row.periodEnd.any fun periodEnd => periodEnd < now

def expireOverdueSubscriptions (rows : List TeacherSubscription) (now : Nat) :
    List TeacherSubscription :=
  rows.map fun row =>
    if row.overdue now then
      { row with
        planSlug := .free
        state := .active
        periodStart := none
        periodEnd := none
        amountKopecks := none
        paymentOrderId := none
        cpToken := none
        updatedAt := now }
    else row

end Subscriptions

end LevelChannel
