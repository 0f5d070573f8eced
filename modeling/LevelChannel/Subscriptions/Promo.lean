import LevelChannel.ReadCommitted.Statements
import LevelChannel.Schema.Database
import LevelChannel.Subscriptions.Rows

namespace LevelChannel

open ReadCommitted Tables

namespace Subscriptions

/-!
# Promo codes

A promo code gives a teacher a plan for some days.  A redemption is one transaction that
locks the code, the account and the subscription, passes the gates, writes the
subscription and a journal row and counts the redemption on the code.  Payments and
cancellations write the same subscriptions.
-/

/-! ## Tables -/

/-- `text.toLowerCase()`, and what `citext` compares, for the characters of a code. -/
def toLowerCase (text : String) : String :=
  String.ofList (text.toList.map Char.toLower)

/-- A row of `promo_codes`.  The code is compared without regard to case. -/
structure PromoCode where
  id : RowId
  code : String
  grantPlanSlug : PlanSlug
  grantDays : Nat
  maxRedemptions : Option Nat
  redemptionCount : Nat
  validFrom : Nat
  validUntil : Option Nat
  revokedAt : Option Nat
  revokedReason : Option String
  requiresEmailVerified : Bool
  deriving DecidableEq, Repr

/-- A row of `promo_code_redemptions`. -/
structure PromoRedemption where
  id : RowId
  promoCodeId : RowId
  accountId : RowId
  redeemedAt : Nat
  subscriptionAccountId : RowId
  grantedPlanSlug : PlanSlug
  grantedDays : Nat
  grantedUntil : Nat
  deriving DecidableEq, Repr

def PromoRedemption.key (row : PromoRedemption) : RowId × RowId :=
  (row.promoCodeId, row.accountId)

/-- What a redemption reads of a row of `accounts`. -/
structure AccountRow where
  id : RowId
  emailVerifiedAt : Option Nat
  disabledAt : Option Nat
  deriving DecidableEq, Repr

structure PromoDb where
  clock : Nat
  promoCodes : List PromoCode
  redemptions : List PromoRedemption
  accounts : List AccountRow
  subscriptions : List TeacherSubscription
  deriving DecidableEq

inductive PromoWrite where
  | promo (change : Change PromoCode)
  | redemption (change : Change PromoRedemption)
  | subscription (change : Change TeacherSubscription)

inductive PromoDrift where
  | tick (milliseconds : Nat)
  | account (change : Change AccountRow)

def PromoDb.apply (db : PromoDb) : PromoWrite -> PromoDb
  | .promo change => { db with promoCodes := change.apply PromoCode.id db.promoCodes }
  | .redemption change =>
    { db with redemptions := change.apply PromoRedemption.id db.redemptions }
  | .subscription change =>
    { db with subscriptions := change.apply TeacherSubscription.accountId db.subscriptions }

def PromoDb.drift (db : PromoDb) : PromoDrift -> PromoDb
  | .tick milliseconds => { db with clock := db.clock + milliseconds }
  | .account change => { db with accounts := change.apply AccountRow.id db.accounts }

/-- What is locked: `hashtext(lower(code))`, rows, and the unique key of the journal.  The
row of a subscription and its primary key are one target. -/
inductive PromoTarget where
  | code (lowered : String)
  | promo (id : RowId)
  | account (id : RowId)
  | subscription (accountId : RowId)
  | redemption (key : RowId × RowId)
  deriving DecidableEq, Repr

structure PromoLock where
  target : PromoTarget
  mode : LockMode
  deriving DecidableEq, Repr

def PromoLock.conflict (first second : PromoLock) : Bool :=
  first.target = second.target && first.mode.conflicts second.mode

theorem PromoLock.conflict_comm (first second : PromoLock) :
    first.conflict second = second.conflict first := by
  simp only [PromoLock.conflict, LockMode.conflicts_comm first.mode,
    eq_comm (a := first.target)]

/-- `for update`, and every lock that nobody shares. -/
def PromoTarget.alone (target : PromoTarget) : PromoLock :=
  ⟨target, .update⟩

def promoStore : Store PromoDb PromoLock PromoWrite PromoDrift where
  apply := PromoDb.apply
  drift := fun change db => db.drift change
  close := fun _ db => db
  conflict := PromoLock.conflict
  conflict_comm := PromoLock.conflict_comm

inductive PromoRedeemReason where
  | unknownCode
  | revoked
  | notYetValid
  | expired
  | exhausted
  | accountUnavailable
  | emailNotVerified
  | activePaidSubscription
  | alreadyRedeemed
  deriving DecidableEq, Repr

inductive PromoReply where
  | redeemed (promoCodeId redemptionId : RowId) (grantedPlanSlug : PlanSlug)
      (grantedDays grantedUntil : Nat)
  | refused (reason : PromoRedeemReason)
  | revoked
  | subscription (row : Option TeacherSubscription)
  | thrown
  deriving DecidableEq

abbrev PromoProgram := ReadCommitted.Program PromoDb PromoLock PromoWrite Unit Unit PromoReply

abbrev PromoState := ReadCommitted.State PromoDb PromoLock PromoWrite Unit Unit PromoReply

/-! ## Redeeming -/

def isActivePaidSubscription (sub : Option TeacherSubscription) (now : Nat) : Bool :=
  match sub with
  | none => false
  | some sub =>
    if sub.planSlug.paid = false then false
    else if sub.state = .suspended then true
    else if sub.periodEnd.any fun periodEnd => periodEnd ≤ now then false
    else true

def PromoCode.refusal (promo : PromoCode) (now : Nat) : Option PromoRedeemReason :=
  if promo.revokedAt.isSome then some .revoked
  else if now < promo.validFrom then some .notYetValid
  else if promo.validUntil.any fun validUntil => validUntil ≤ now then some .expired
  else if promo.maxRedemptions.any fun maxRedemptions => maxRedemptions ≤ promo.redemptionCount then
    some .exhausted
  else none

def accountRefusal (promo : PromoCode) (account : Option AccountRow) : Option PromoRedeemReason :=
  match account with
  | none => some .accountUnavailable
  | some account =>
    if account.disabledAt.isSome then some .accountUnavailable
    else if promo.requiresEmailVerified && account.emailVerifiedAt.isNone then
      some .emailNotVerified
    else none

/-- The subscription row a redemption leaves.  An update keeps the columns it does not
name. -/
def grantedRow (promo : PromoCode) (accountId : RowId) (now dbNow : Nat)
    (old : Option TeacherSubscription) : TeacherSubscription where
  accountId := accountId
  planSlug := promo.grantPlanSlug
  state := .active
  renewalAt := old.bind TeacherSubscription.renewalAt
  periodStart := some now
  periodEnd := some (now + promo.grantDays * dayMs)
  amountKopecks := old.bind TeacherSubscription.amountKopecks
  paymentOrderId := old.bind TeacherSubscription.paymentOrderId
  cpToken := old.bind TeacherSubscription.cpToken
  cancelledAt := none
  createdAt := (old.map TeacherSubscription.createdAt).getD dbNow
  updatedAt := dbNow

def redemptionRow (session : Nat) (promo : PromoCode) (accountId : RowId) (now dbNow : Nat) :
    PromoRedemption where
  id := .minted session 0
  promoCodeId := promo.id
  accountId := accountId
  redeemedAt := dbNow
  subscriptionAccountId := accountId
  grantedPlanSlug := promo.grantPlanSlug
  grantedDays := promo.grantDays
  grantedUntil := now + promo.grantDays * dayMs

def redemptionRejects (row : PromoRedemption) (own : PromoDb) : Bool :=
  own.redemptions.any fun other => other.id = row.id || other.key = row.key

/-- `redemption_count = redemption_count + 1` -/
def countRedemption (own : PromoDb) (promoCodeId : RowId) : List PromoWrite :=
  match get PromoCode.id own.promoCodes promoCodeId with
  | none => []
  | some promo =>
    [.promo (.replace { promo with redemptionCount := promo.redemptionCount + 1 })]

/-- The end of a redemption, after the gates. -/
def redeemWrites (session : Nat) (promo : PromoCode) (accountId : RowId) (now dbNow : Nat) :
    PromoProgram :=
  let thrown : PromoProgram := .done .thrown
  .writing () [(PromoTarget.subscription accountId).alone] thrown
    (fun own => [.subscription (upsert own.subscriptions
      (grantedRow promo accountId now dbNow (subscriptionOf own.subscriptions accountId)))])
    fun _ =>
      let row := redemptionRow session promo accountId now dbNow
      .guarded () [(PromoTarget.redemption row.key).alone] thrown (redemptionRejects row)
        (fun _ => [.redemption (.insert row)])
        fun _ =>
          .writing () [(PromoTarget.promo promo.id).alone] thrown
            (fun own => countRedemption own promo.id)
            fun _ => .commit thrown (.done
              (.redeemed promo.id row.id promo.grantPlanSlug promo.grantDays row.grantedUntil))

def redeemSubscriptionGate (session : Nat) (promo : PromoCode) (accountId : RowId)
    (now dbNow : Nat) : PromoProgram :=
  let thrown : PromoProgram := .done .thrown
  let gate (currentSub : Option TeacherSubscription) : PromoProgram :=
    if isActivePaidSubscription currentSub now then
      .rollback (.done (.refused .activePaidSubscription))
    else redeemWrites session promo accountId now dbNow
  .reading () thrown fun _ seen =>
    if (subscriptionOf seen.subscriptions accountId).isNone then gate none
    else
      .acquiring () [(PromoTarget.subscription accountId).alone] thrown fun _ own =>
        gate (subscriptionOf own.subscriptions accountId)

/-- The account and the journal, once the code has passed its gates. -/
def redeemAccountGate (session : Nat) (promo : PromoCode) (accountId : RowId)
    (now dbNow : Nat) : PromoProgram :=
  let thrown : PromoProgram := .done .thrown
  .acquiring () [(PromoTarget.account accountId).alone] thrown fun _ own =>
    match accountRefusal promo (get AccountRow.id own.accounts accountId) with
    | some reason => .rollback (.done (.refused reason))
    | none =>
      .reading () thrown fun _ own =>
        if own.redemptions.any fun row => row.key = (promo.id, accountId) then
          .rollback (.done (.refused .alreadyRedeemed))
        else redeemSubscriptionGate session promo accountId now dbNow

/-- `redeemPromoCode` in the transaction of its route.  The row of the code is found first
and read again when its lock is there; the clock is read after that. -/
def redeemPromoCode (session : Nat) (codeRaw : String) (accountId : RowId) : PromoProgram :=
  let thrown : PromoProgram := .done .thrown
  let refuse (reason : PromoRedeemReason) : PromoProgram := .rollback (.done (.refused reason))
  let code := jsTrim codeRaw
  if code.isEmpty then .done (.refused .unknownCode)
  else
    .reading () thrown fun begun _ =>
      .acquiring () [(PromoTarget.code (toLowerCase code)).alone] thrown fun _ _ =>
        .reading () thrown fun _ found =>
          match found.promoCodes.find? fun promo => toLowerCase promo.code = toLowerCase code with
          | none => refuse .unknownCode
          | some row =>
            .acquiring () [(PromoTarget.promo row.id).alone] thrown fun _ own =>
              match get PromoCode.id own.promoCodes row.id with
              | none => refuse .unknownCode
              | some promo =>
                .reading () thrown fun called _ =>
                  match promo.refusal called.clock with
                  | some reason => refuse reason
                  | none => redeemAccountGate session promo accountId called.clock begun.clock

/-- `set revoked_at = now(), revoked_reason = $2 … and revoked_at is null` -/
def revokeWrites (promoCodeId : RowId) (reason : String) (now : Nat) (own : PromoDb) :
    List PromoWrite :=
  match get PromoCode.id own.promoCodes promoCodeId with
  | none => []
  | some promo =>
    if promo.revokedAt.isSome then []
    else [.promo (.replace { promo with revokedAt := some now, revokedReason := some reason })]

def revokePromoCode (promoCodeId : RowId) (reason : String) : PromoProgram :=
  let thrown : PromoProgram := .done .thrown
  .reading () thrown fun begun _ =>
    .writing () [⟨.promo promoCodeId, .noKeyUpdate⟩] thrown
      (revokeWrites promoCodeId reason begun.clock)
      fun _ => .commit thrown (.done .revoked)

/-- `createOrRenewTeacherSubscription` as a statement of its own.  A new row refers to its
account, whose row is then locked in the mode of a foreign key. -/
def createOrRenew (input : CreateOrRenew) : PromoProgram :=
  let thrown : PromoProgram := .done .thrown
  match input.terms with
  | none => thrown
  | some (amountKopecks, periodDays) =>
    .reading () thrown fun begun _ =>
      let row (own : PromoDb) : TeacherSubscription :=
        input.row begun.clock amountKopecks periodDays
          (subscriptionOf own.subscriptions input.accountId)
      .writing () [(PromoTarget.subscription input.accountId).alone] thrown
        (fun own => [.subscription (upsert own.subscriptions (row own))])
        fun own =>
          let commit : PromoProgram := .commit thrown (.done (.subscription (some (row own))))
          if (subscriptionOf own.subscriptions input.accountId).isSome then commit
          else .acquiring () [⟨.account input.accountId, .keyShare⟩] thrown fun _ _ => commit

/-- `where account_id = $1 and plan_slug in ('mid', 'pro')` -/
def cancelWrites (accountId : RowId) (now : Nat) (own : PromoDb) : List PromoWrite :=
  match subscriptionOf own.subscriptions accountId with
  | none => []
  | some row =>
    if row.planSlug.paid then [.subscription (.replace (cancelledRow now row))] else []

def cancelTeacherSubscription (accountId : RowId) : PromoProgram :=
  let thrown : PromoProgram := .done .thrown
  .reading () thrown fun begun _ =>
    .writing () [(PromoTarget.subscription accountId).alone] thrown
      (cancelWrites accountId begun.clock)
      fun own => .commit thrown (.done (.subscription
        (((subscriptionOf own.subscriptions accountId).filter fun row => row.planSlug.paid).map
          (cancelledRow begun.clock))))

inductive PromoRequest where
  | redeem (codeRaw : String) (accountId : RowId)
  | revoke (promoCodeId : RowId) (reason : String)
  | renew (input : CreateOrRenew)
  | cancel (accountId : RowId)
  deriving DecidableEq

def PromoRequest.program (session : Nat) : PromoRequest -> PromoProgram
  | .redeem codeRaw accountId => redeemPromoCode session codeRaw accountId
  | .revoke promoCodeId reason => revokePromoCode promoCodeId reason
  | .renew input => createOrRenew input
  | .cancel accountId => cancelTeacherSubscription accountId

def promoOpening (db : PromoDb) (requests : Nat -> PromoRequest) : PromoState :=
  ReadCommitted.State.start db fun session => (requests session).program session

end Subscriptions

end LevelChannel
