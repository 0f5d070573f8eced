import LevelChannel.Subscriptions.Rows

namespace LevelChannel

open Tables

namespace Subscriptions

/-!
# The subscription branch of the pay webhook

A paid order that names a subscription tier gives the teacher a new period.  Whether an
order has been applied already is read off the subscription rows: it has if one of them
still names it.  A later payment overwrites the name and the expiry clears it, and an
order that is delivered again after that is applied a second time.
-/

/-- What the branch reads of a row of `payment_orders` and of its metadata. -/
structure SubscriptionOrder where
  invoiceId : InvoiceId
  teacherAccountId : Option RowId
  productKind : Option String
  metadataAccountId : Option UuidText
  saasPeriodDays : Option JsonNumber
  saasAmountKopecks : Option JsonNumber
  deriving DecidableEq, Repr

/-- `getPaidSubscriptionTariff`, with the amount of the tariff. -/
def getPaidSubscriptionTariff (tier : List Char) : Option (TeacherSubscriptionTier × Nat) :=
  if tier = "mid".toList then some (.mid, 39900)
  else if tier = "pro".toList then some (.pro, 80000)
  else none

/-- The product kind without `saas_subscription_`, if it starts so. -/
def SubscriptionOrder.saasTier (order : SubscriptionOrder) : Option (List Char) :=
  order.productKind.bind fun productKind =>
    if "saas_subscription_".toList.isPrefixOf productKind.toList then
      some (productKind.toList.drop "saas_subscription_".length)
    else none

def SubscriptionOrder.teacher (order : SubscriptionOrder) : Option RowId :=
  order.teacherAccountId.or (order.metadataAccountId.map UuidText.id)

/-- The days an order pays for: what its metadata says, if that is between 1 and 366. -/
def SubscriptionOrder.periodDays (order : SubscriptionOrder) : Nat :=
  match positiveInteger order.saasPeriodDays with
  | some periodDays => if periodDays ≤ 366 then periodDays else 30
  | none => 30

/-- What an order asks of `createOrRenewTeacherSubscription`. -/
def SubscriptionOrder.renewal (order : SubscriptionOrder) (token : Option String) :
    Option CreateOrRenew :=
  match order.saasTier.bind getPaidSubscriptionTariff, order.teacher with
  | some (tier, tariffAmount), some accountId =>
    some
      { accountId := accountId
        tier := tier
        amountKopecks :=
          .integer ((positiveInteger order.saasAmountKopecks).getD tariffAmount)
        paymentOrderId := order.invoiceId
        periodDays := some (.integer order.periodDays)
        cpToken := token.filter fun text => !text.isEmpty }
  | _, _ => none

inductive BranchResult where
  | notSubscription
  | missingTierOrAccount
  | alreadyApplied
  | applied
  | thrown
  deriving DecidableEq, Repr

/-- The subscription branch of `POST`, for the order of a delivery and its token. -/
def subscriptionBranch (orders : List SubscriptionOrder) (rows : List TeacherSubscription)
    (now : Nat) (invoiceId : InvoiceId) (token : Option String) :
    BranchResult × List TeacherSubscription :=
  match get SubscriptionOrder.invoiceId orders invoiceId with
  | none => (.notSubscription, rows)
  | some order =>
    if order.saasTier.isNone then (.notSubscription, rows)
    else
      match order.renewal token with
      | none => (.missingTierOrAccount, rows)
      | some input =>
        if (findSubscriptionByPaymentOrderId rows invoiceId).isSome then (.alreadyApplied, rows)
        else
          match createOrRenewTeacherSubscription rows now input with
          | none => (.thrown, rows)
          | some after => (.applied, after)

inductive SubscriptionStep where
  | pay (now : Nat) (invoiceId : InvoiceId) (token : Option String)
  | expire (now : Nat)
  deriving DecidableEq, Repr

def SubscriptionStep.order : SubscriptionStep -> Option InvoiceId
  | .pay _ invoiceId _ => some invoiceId
  | .expire _ => none

variable (orders : List SubscriptionOrder) (rows : List TeacherSubscription)

def SubscriptionStep.apply : SubscriptionStep -> List TeacherSubscription
  | .pay now invoiceId token => (subscriptionBranch orders rows now invoiceId token).2
  | .expire now => expireOverdueSubscriptions rows now

def SubscriptionStep.noted (applied : List InvoiceId) : SubscriptionStep -> List InvoiceId
  | .pay now invoiceId token =>
    if (subscriptionBranch orders rows now invoiceId token).1 = .applied then
      invoiceId :: applied
    else applied
  | .expire _ => applied

def Carried (invoiceId : InvoiceId) : Prop :=
  ∃ row, row ∈ rows ∧ row.paymentOrderId = some invoiceId

/-- From here on, a delivery of an order that was applied before changes nothing. -/
def AppliedOnce : List InvoiceId -> List TeacherSubscription -> List SubscriptionStep -> Prop
  | _, _, [] => True
  | applied, rows, step :: steps =>
    (∀ invoiceId, step.order = some invoiceId -> invoiceId ∈ applied ->
      step.apply orders rows = rows) ∧
    AppliedOnce (step.noted orders rows applied) (step.apply orders rows) steps

/-- From here on, a delivery of an order that was applied before finds a subscription that
names it. -/
def StillCarried : List InvoiceId -> List TeacherSubscription -> List SubscriptionStep -> Prop
  | _, _, [] => True
  | applied, rows, step :: steps =>
    (∀ invoiceId, step.order = some invoiceId -> invoiceId ∈ applied ->
      Carried rows invoiceId) ∧
    StillCarried (step.noted orders rows applied) (step.apply orders rows) steps

/-! ## Applying an order -/

variable {orders rows} {invoiceId : InvoiceId}

theorem find_isSome_iff : (findSubscriptionByPaymentOrderId rows invoiceId).isSome = true <->
      Carried rows invoiceId := by
  simp [findSubscriptionByPaymentOrderId, Carried]

/-- The order names a tier and a teacher, and terms that are not refused. -/
def Appliable (orders : List SubscriptionOrder) (invoiceId : InvoiceId) : Prop :=
  ∃ order, get SubscriptionOrder.invoiceId orders invoiceId = some order ∧
    ∀ token, ∃ input, order.renewal token = some input ∧ input.terms.isSome = true

private theorem renewal_token {order : SubscriptionOrder} {token : Option String}
    {input : CreateOrRenew} (asked : order.renewal token = some input) (other : Option String) :
    order.renewal other =
      some { input with cpToken := other.filter fun text => !text.isEmpty } := by
  rw [SubscriptionOrder.renewal] at asked ⊢
  split at asked
  · next tier amount accountId tariff teacher =>
    rw [← Option.some.inj asked]
  · cases asked

private theorem renewal_saasTier {order : SubscriptionOrder} {token : Option String}
    {input : CreateOrRenew} (asked : order.renewal token = some input) :
    order.saasTier.isNone = false := by
  rw [SubscriptionOrder.renewal] at asked
  cases tier : order.saasTier with
  | none => simp [tier] at asked
  | some text => rfl

private theorem renewal_paymentOrderId {order : SubscriptionOrder} {token : Option String}
    {input : CreateOrRenew} (asked : order.renewal token = some input) :
    input.paymentOrderId = order.invoiceId := by
  rw [SubscriptionOrder.renewal] at asked
  split at asked
  · rw [← Option.some.inj asked]
  · cases asked

theorem carried_of_createOrRenew {after : List TeacherSubscription} {now : Nat}
    {input : CreateOrRenew}
    (renewed : createOrRenewTeacherSubscription rows now input = some after) :
    Carried after input.paymentOrderId := by
  rw [createOrRenewTeacherSubscription, Option.map_eq_some_iff] at renewed
  rcases renewed with ⟨⟨amountKopecks, periodDays⟩, -, rfl⟩
  have written := subscriptionOf_upsert rows
    (input.row now amountKopecks periodDays (subscriptionOf rows input.accountId))
    input.accountId
  exact ⟨_, mem_of_get (written.trans (if_pos rfl)), rfl⟩

theorem appliable_of_applied {now : Nat} {token : Option String}
    (applied : (subscriptionBranch orders rows now invoiceId token).1 = .applied) :
    Appliable orders invoiceId := by
  rw [subscriptionBranch] at applied
  cases read : get SubscriptionOrder.invoiceId orders invoiceId with
  | none =>
    rw [read] at applied
    cases applied
  | some order =>
    simp only [read] at applied
    split at applied
    · cases applied
    · cases asked : order.renewal token with
      | none =>
        rw [asked] at applied
        cases applied
      | some input =>
        simp only [asked] at applied
        split at applied
        · cases applied
        · refine ⟨order, read, fun other => ⟨_, renewal_token asked other, ?_⟩⟩
          change input.terms.isSome = true
          cases terms : input.terms with
          | none =>
            rw [createOrRenewTeacherSubscription, terms] at applied
            cases applied
          | some both => rfl

theorem branch_unchanged_iff (appliable : Appliable orders invoiceId) (now : Nat)
    (token : Option String) :
    (subscriptionBranch orders rows now invoiceId token).2 = rows <-> Carried rows invoiceId := by
  rcases appliable with ⟨order, read, asks⟩
  rcases asks token with ⟨input, asked, terms⟩
  have key : order.invoiceId = invoiceId := key_of_get read
  rw [subscriptionBranch, ← find_isSome_iff]
  simp only [read, renewal_saasTier asked, Bool.false_eq_true, if_false, asked]
  cases found : (findSubscriptionByPaymentOrderId rows invoiceId).isSome with
  | true => exact iff_of_true rfl rfl
  | false =>
    refine iff_of_false ?_ Bool.false_ne_true
    rw [Option.isSome_iff_exists] at terms
    rcases terms with ⟨both, terms⟩
    cases renewed : createOrRenewTeacherSubscription rows now input with
    | none =>
      rw [createOrRenewTeacherSubscription, terms] at renewed
      cases renewed
    | some after =>
      intro same
      have carried := carried_of_createOrRenew renewed
      rw [renewal_paymentOrderId asked, key, show after = rows from same,
        ← find_isSome_iff, found] at carried
      cases carried

private theorem noted_appliable {applied : List InvoiceId}
    (known : ∀ invoiceId, invoiceId ∈ applied -> Appliable orders invoiceId)
    (step : SubscriptionStep) : ∀ invoiceId, invoiceId ∈ step.noted orders rows applied ->
      Appliable orders invoiceId := by
  cases step with
  | expire now => exact known
  | pay now paid token =>
    intro invoiceId member
    rw [SubscriptionStep.noted] at member
    split at member
    · next done =>
      rcases List.mem_cons.mp member with rfl | old
      · exact appliable_of_applied done
      · exact known invoiceId old
    · exact known invoiceId member

theorem mem_upsert_of_ne {row new : TeacherSubscription} (listed : row ∈ rows)
    (other : row.accountId ≠ new.accountId) :
    row ∈ (Subscriptions.upsert rows new).apply TeacherSubscription.accountId rows := by
  unfold Subscriptions.upsert
  split
  · exact List.mem_map.mpr ⟨row, listed, if_neg other⟩
  · exact (mem_insert TeacherSubscription.accountId).mpr (Or.inl listed)

/-- A subscription names its order until an expiry clears it or another order is applied to it. -/
theorem named_until {row : TeacherSubscription} (listed : row ∈ rows)
    (named : row.paymentOrderId = some invoiceId) {step : SubscriptionStep}
    (gone : ¬ Carried (step.apply orders rows) invoiceId) :
    (∃ now, step = .expire now ∧ row.overdue now = true) ∨
      ∃ now later token order input, step = .pay now later token ∧
        (subscriptionBranch orders rows now later token).1 = .applied ∧
          get SubscriptionOrder.invoiceId orders later = some order ∧
            order.renewal token = some input ∧ input.accountId = row.accountId := by
  cases step with
  | expire now =>
    refine Or.inl ⟨now, rfl, ?_⟩
    by_contra current
    refine gone ⟨row, List.mem_map.mpr ⟨row, listed, if_neg current⟩, named⟩
  | pay now later token =>
    refine Or.inr ⟨now, later, token, ?_⟩
    rw [SubscriptionStep.apply, subscriptionBranch] at gone
    rw [subscriptionBranch]
    cases read : get SubscriptionOrder.invoiceId orders later with
    | none => exact absurd ⟨row, by rwa [read], named⟩ gone
    | some order =>
      simp only [read] at gone ⊢
      split at gone
      · exact absurd ⟨row, listed, named⟩ gone
      · next tier =>
        cases asked : order.renewal token with
        | none => exact absurd ⟨row, by rwa [asked], named⟩ gone
        | some input =>
          simp only [asked] at gone ⊢
          split at gone
          · exact absurd ⟨row, listed, named⟩ gone
          · next found =>
            rw [if_neg tier, if_neg found]
            cases renewed : createOrRenewTeacherSubscription rows now input with
            | none => exact absurd ⟨row, by rwa [renewed], named⟩ gone
            | some after =>
              refine ⟨order, input, trivial, rfl, rfl, asked, ?_⟩
              by_contra other
              rw [renewed] at gone
              rw [createOrRenewTeacherSubscription, Option.map_eq_some_iff] at renewed
              rcases renewed with ⟨terms, -, rfl⟩
              exact gone ⟨row, mem_upsert_of_ne listed (Ne.symm other), named⟩

private theorem appliedOnce_iff {applied : List InvoiceId}
    (known : ∀ invoiceId, invoiceId ∈ applied -> Appliable orders invoiceId)
    (steps : List SubscriptionStep) :
    AppliedOnce orders applied rows steps <-> StillCarried orders applied rows steps := by
  induction steps generalizing applied rows with
  | nil => exact Iff.rfl
  | cons step steps extend =>
    rw [AppliedOnce, StillCarried, extend (noted_appliable known step)]
    refine and_congr_left fun _ => forall_congr' fun invoiceId =>
      forall_congr' fun delivered => forall_congr' fun again => ?_
    cases step with
    | expire now => cases delivered
    | pay now paid token =>
      cases delivered
      exact branch_unchanged_iff (known invoiceId again) now token

/-- In a sequence of deliveries and expiries, an order that was applied before changes
nothing when it is delivered again exactly when each such delivery finds a subscription
that still names the order. -/
theorem orders_apply_once (orders : List SubscriptionOrder) (rows : List TeacherSubscription)
    (steps : List SubscriptionStep) :
    AppliedOnce orders [] rows steps <-> StillCarried orders [] rows steps :=
  appliedOnce_iff (fun _ member => absurd member List.not_mem_nil) steps

def monthlyOrders : List SubscriptionOrder :=
  [1, 2].map fun number =>
    { invoiceId := .generated (.seeded number)
      teacherAccountId := some (.seeded 7)
      productKind := some "saas_subscription_mid"
      metadataAccountId := none
      saasPeriodDays := none
      saasAmountKopecks := none }

/-- The first order is delivered again after the second one has been applied. -/
theorem order_applied_twice : ¬ ∀ orders rows steps, AppliedOnce orders [] rows steps := by
  intro once
  have carried := (appliedOnce_iff (fun _ member => absurd member List.not_mem_nil) _).mp
    (once monthlyOrders [] [.pay 1 (.generated (.seeded 1)) none,
      .pay 2 (.generated (.seeded 2)) none, .pay 3 (.generated (.seeded 1)) none])
  rcases carried.2.2.1 _ rfl (by decide +kernel) with ⟨row, member, named⟩
  have renamed : ∀ row, row ∈ SubscriptionStep.apply monthlyOrders
      (SubscriptionStep.apply monthlyOrders [] (.pay 1 (.generated (.seeded 1)) none))
      (.pay 2 (.generated (.seeded 2)) none) ->
        row.paymentOrderId ≠ some (.generated (.seeded 1)) := by
    decide +kernel
  exact renamed row member named

end Subscriptions
end LevelChannel
