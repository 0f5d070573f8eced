import LevelChannel.Subscriptions.Promo

namespace LevelChannel.Subscriptions

open ReadCommitted Tables

/-!
# Paid time

Three writers meet at the subscription of a teacher.  A cancellation keeps the end of the
period, and a redemption only writes a row whose paid period is over.  A payment starts a
new period at once, which may end before the old one would have.

A redemption that finds no row has nothing to lock, but it holds the row of the account,
and a payment that inserts a subscription needs that row for its foreign key.
-/

-- nothing here depends on what trimming does, and evaluating it is slow
attribute [local irreducible] jsTrim

variable {db before after : PromoDb} {session : Nat} {accountId : RowId}
  {requests : Nat -> PromoRequest}

/-! ## The contract -/

def PaidUntil (db : PromoDb) (accountId : RowId) (periodEnd : Nat) : Prop :=
  ∃ row, subscriptionOf db.subscriptions accountId = some row ∧ row.planSlug.paid = true ∧
    row.periodEnd = some periodEnd ∧ db.clock < periodEnd

def KeepsPeriod (accountId : RowId) (before after : PromoDb) : Prop :=
  ∀ periodEnd, PaidUntil before accountId periodEnd -> ∃ later,
    subscriptionOf after.subscriptions accountId = some later ∧ later.periodEnd = some periodEnd

def Renews (request : PromoRequest) (accountId : RowId) (before after : PromoDb) : Prop :=
  ∃ input startedAt amountKopecks periodDays, request = .renew input ∧
    input.accountId = accountId ∧ input.terms = some (amountKopecks, periodDays) ∧
    startedAt ≤ before.clock ∧ subscriptionOf after.subscriptions accountId =
      some (input.row startedAt amountKopecks periodDays
        (subscriptionOf before.subscriptions accountId))

/-- The locks that a change of a subscription takes.  A new row also locks its account. -/
def LocksSubscription (accountId : RowId) (held : List PromoLock) (before : PromoDb) : Prop :=
  (PromoTarget.subscription accountId).alone ∈ held ∧
    (subscriptionOf before.subscriptions accountId = none ->
      ∃ mode, ⟨.account accountId, mode⟩ ∈ held)

/-- A session changes only the subscriptions it has locked, and the end of an unended
period only by paying. -/
def PeriodsGuarded (requests : Nat -> PromoRequest) (session : Nat) (held : List PromoLock)
    (before after : PromoDb) : Prop :=
  before.clock ≤ after.clock ∧ ∀ accountId,
    subscriptionOf after.subscriptions accountId =
      subscriptionOf before.subscriptions accountId ∨
    (LocksSubscription accountId held before ∧
      (Renews (requests session) accountId before after ∨ KeepsPeriod accountId before after))

def periodContract (requests : Nat -> PromoRequest) : Contract PromoDb PromoLock where
  Good _ := True
  Guarantee := PeriodsGuarded requests

theorem PeriodsGuarded.same (clock : after.clock = before.clock)
    (rows : after.subscriptions = before.subscriptions) (held : List PromoLock) :
    PeriodsGuarded requests session held before after :=
  ⟨Nat.le_of_eq clock.symm, fun _ => Or.inl (by rw [rows])⟩

theorem drift_subscriptions (change : PromoDrift) (db : PromoDb) :
    (promoStore.drift change db).subscriptions = db.subscriptions ∧
      db.clock ≤ (promoStore.drift change db).clock := by
  cases change with
  | tick milliseconds => exact ⟨rfl, Nat.le_add_right _ _⟩
  | account change => exact ⟨rfl, Nat.le_refl _⟩

theorem stable_clock (held : List PromoLock) (instant : Nat) :
    (periodContract requests).Stable promoStore session held fun now => instant ≤ now.clock := by
  rintro before after passed ⟨-, -, ⟨change, rfl⟩ | ⟨other, theirs, -, -, guarded⟩⟩
  · exact Nat.le_trans passed (drift_subscriptions change before).2
  · exact Nat.le_trans passed guarded.1

theorem PeriodsGuarded.written {held : List PromoLock}
    (row : TeacherSubscription) (clock : after.clock = before.clock)
    (one : ∀ other, subscriptionOf after.subscriptions other =
      if other = row.accountId then some row else subscriptionOf before.subscriptions other)
    (locked : LocksSubscription row.accountId held before)
    (paid : Renews (requests session) row.accountId before after ∨
      KeepsPeriod row.accountId before after) :
    PeriodsGuarded requests session held before after := by
  refine ⟨Nat.le_of_eq clock.symm, fun other => ?_⟩
  by_cases same : other = row.accountId
  · subst other
    exact Or.inr ⟨locked, paid⟩
  · left
    rw [one, if_neg same]

section Redeeming

variable (session) (promo : PromoCode) (accountId) (now dbNow : Nat)

/-- What a redemption knows once it has passed the gate on the subscription. -/
def Unpaid (known : Option TeacherSubscription) (db : PromoDb) : Prop :=
  now ≤ db.clock ∧ subscriptionOf db.subscriptions accountId = known

end Redeeming

end LevelChannel.Subscriptions
