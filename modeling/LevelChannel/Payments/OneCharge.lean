import LevelChannel.Payments.OrderStates

namespace LevelChannel

open ReadCommitted Tables

namespace Payments

/-!
# One charge for one key

The one-click route looks its key up before it charges the card, and records its response
after that.  Nothing is reserved in between: two requests that are looked up before either
is recorded both charge, and so does a retry after the record was lost.
-/

/-- What the body of a request says; the amount is none if it is not a valid one. -/
structure ChargeTokenBody where
  amountKopecks : Option Nat
  personalDataConsentAccepted : Bool
  deriving DecidableEq

/-- A request of the account: the address of its session, and what is found out about the
teacher, who may be none or one whose payments the platform does not take. -/
structure ChargeTokenRequest where
  customerEmail : String
  operatorManaged : Option Bool
  deriving DecidableEq

/-- The key and the body that requests share.  The body may be no valid JSON. -/
structure ChargeTokenRetry where
  idempotencyKey : Option String
  rawBody : String
  body : Option ChargeTokenBody

/-- The request as `withIdempotency` sees it. -/
def ChargeTokenRetry.request (retry : ChargeTokenRetry) : IdempotentRequest ChargeOutcome where
  account := .seeded 0
  scope := .paymentsChargeToken
  idempotencyKey := retry.idempotencyKey
  rawBody := retry.rawBody
  computed := none
  saved := true

def chargeStatus : ChargeOutcome -> Nat
  | .rejected error =>
    if error = "teacher_resolution_failed" then 500
    else if error = "plan_4_required" then 422
    else 400
  | .noSavedCard => 404
  | .paid _ => 200
  | .requiresThreeDs .. => 200
  | .declined .. => 402

variable (config : IdempotencyConfig) (retry : ChargeTokenRetry)

def answerRequest (session : Nat) (reply : IdempotentReply ChargeOutcome) : OrderProgram :=
  .call .plain (fun _ _ => [.answered session]) fun _ _ => .done (.charge reply)

/-- `withIdempotency` after the executor.  An insert that fails is only logged. -/
def recordOutcome (session : Nat) (outcome : ChargeOutcome) : OrderProgram :=
  let status := chargeStatus outcome
  let reply := answerRequest session (.json ⟨status, outcome⟩ false)
  match retry.request.recordKey config with
  | none => reply
  | some (scope, key) =>
    if status < 500 then
      autocommit [] reply
        (fun _ => [.record ⟨scope, key, config.sha256Hex retry.rawBody, status, outcome⟩]) reply
    else reply

/-- The executor of the route; its telemetry is left out. -/
def chargeTokenExecutor (request : ChargeTokenRequest) (session : Nat) : OrderProgram :=
  let finish := recordOutcome config retry session
  match retry.body with
  | none => finish (.rejected "invalid_request_body")
  | some body =>
    match body.amountKopecks with
    | none => finish (.rejected "invalid_amount")
    | some amountKopecks =>
      if body.personalDataConsentAccepted = false then finish (.rejected "consent_required")
      else
        match request.operatorManaged with
        | none => finish (.rejected "teacher_resolution_failed")
        | some false => finish (.rejected "plan_4_required")
        | some true =>
          chargeWithSavedCard session ⟨amountKopecks, request.customerEmail⟩
            (answerRequest session .thrown) finish

/-- `POST /api/payments/charge-token` of a signed-in account. -/
def postChargeToken (request : ChargeTokenRequest) (session : Nat) : OrderProgram :=
  .call (.lookup (retry.request.recordKey config))
    (fun now _ =>
      if (retry.request.lookup config now.records).isNone then [.executing session] else [])
    fun now _ =>
      match retry.request.lookup config now.records with
      | some reply => .done (.charge reply)
      | none => chargeTokenExecutor config retry request session

/-- The tables are given; no saved card was charged, and no request is under way. -/
def chargesOpening (db : OrderDb) (requests : Nat -> ChargeTokenRequest) : OrderState :=
  State.start { db with accepted := [], executing := [] } fun session =>
    postChargeToken config retry (requests session) session

/-- A request is looked up only when no other one is between its lookup and its answer,
and, once a card has been charged, only when there is a record to be found. -/
def Recorded : OrderLabel -> OrderDb -> Prop
  | .plain, _ => True
  | .lookup wanted, db => db.executing = [] ∧
    (db.accepted ≠ [] ->
      (wanted.bind (get IdempotencyRecord.primaryKey db.records)).isSome = true)

instance (label : OrderLabel) (db : OrderDb) : Decidable (Recorded label db) := by
  cases label <;> unfold Recorded <;> infer_instance

/-! ## The contract -/

namespace OrderDb

/-- While another request is under way nothing is charged, and it stays under way. -/
def Waits (session : Nat) (before after : OrderDb) : Prop :=
  ∀ other, other ≠ session -> before.executing = [other] ->
    after.executing = [other] ∧ after.accepted = before.accepted

def Alone (session : Nat) (db : OrderDb) : Prop :=
  db.executing = [session] ∧ db.accepted = []

def Free (session : Nat) : OrderWrite -> Prop
  | .accepted _ => False
  | .executing _ => False
  | .answered other => other = session
  | _ => True

variable {session : Nat} {db : OrderDb}

theorem waits_answered (session : Nat) (db : OrderDb) : db.Waits session (db.answered session) := by
  intro other different alone
  refine ⟨?_, rfl⟩
  simp [answered, alone, different]

theorem waits_applyAll (writes : List OrderWrite)
    (free : ∀ write, write ∈ writes -> Free session write) :
    db.Waits session (orderStore.applyAll db writes) ∧
      (orderStore.applyAll db writes).accepted = db.accepted := by
  induction writes generalizing db with
  | nil => exact ⟨fun _ _ alone => ⟨alone, rfl⟩, rfl⟩
  | cons write rest extend =>
    have once : db.Waits session (db.apply write) ∧ (db.apply write).accepted = db.accepted := by
      have is_free := free write List.mem_cons_self
      cases write with
      | answered other =>
        subst is_free
        exact ⟨waits_answered other db, rfl⟩
      | accepted charge => exact absurd is_free id
      | executing other => exact absurd is_free id
      | order change => exact ⟨fun _ _ alone => ⟨alone, rfl⟩, rfl⟩
      | card change => exact ⟨fun _ _ alone => ⟨alone, rfl⟩, rfl⟩
      | record row => exact ⟨fun _ _ alone => ⟨alone, rfl⟩, rfl⟩
      | appended invoiceId type => exact ⟨fun _ _ alone => ⟨alone, rfl⟩, rfl⟩
    rcases @extend (db.apply write) fun other member =>
      free other (List.mem_cons_of_mem _ member) with ⟨waits, same⟩
    refine ⟨fun other different alone => ?_, same.trans once.2⟩
    rcases once.1 other different alone with ⟨still, accepted⟩
    rcases waits other different still with ⟨last, acceptedToo⟩
    exact ⟨last, acceptedToo.trans accepted⟩

end OrderDb

/-- A card is charged at most once, and not while another request is under way. -/
def chargeContract : Contract OrderDb InvoiceId where
  Good db := db.accepted.length ≤ 1
  Guarantee session _ before after := before.Waits session after

theorem chargeContract_steady : chargeContract.Steady orderStore where
  drift _ _ good := good
  close session _ db good := ⟨good, OrderDb.waits_answered session db⟩

section Programs

open Contract

variable {permits : OrderLabel -> OrderDb -> Prop} {session : Nat} {held : List InvoiceId}
  {db : OrderDb} {program thrown : OrderProgram}

theorem stable_alone (session : Nat) (held : List InvoiceId) :
    Stable chargeContract orderStore session held (OrderDb.Alone session) := by
  rintro before after alone ⟨-, -, ⟨passed, rfl⟩ | ⟨other, theirs, different, -, waits⟩⟩
  · exact alone
  · rcases waits session different.symm alone.1 with ⟨still, accepted⟩
    exact ⟨still, accepted.trans alone.2⟩

theorem safe_free (free : program.Emits (OrderDb.Free session)) (db : OrderDb) :
    chargeContract.Safe orderStore permits session program [] [] db := by
  refine Safe.of_emits (fun held db writes each good => ?_) free
    (fun _ member => absurd member List.not_mem_nil) [] db
  rcases OrderDb.waits_applyAll writes each with ⟨waits, same⟩
  exact ⟨(congrArg List.length same).trans_le good, waits⟩

/-! ### After the charge -/

theorem free_answerRequest (reply : IdempotentReply ChargeOutcome) :
    (answerRequest session reply).Emits (OrderDb.Free session) := by
  intro committed choice
  refine ⟨fun write member => ?_, trivial⟩
  rw [List.mem_singleton.mp member]
  rfl

theorem free_autocommit {locks : List InvoiceId} {onError next : OrderProgram}
    {writes : OrderDb -> List OrderWrite} (failed : onError.Emits (OrderDb.Free session))
    (each : ∀ own write, write ∈ writes own -> OrderDb.Free session write)
    (went : next.Emits (OrderDb.Free session)) :
    (autocommit locks onError writes next).Emits (OrderDb.Free session) :=
  Program.Emits.writing failed each fun _ => ⟨failed, went⟩

theorem free_recordOutcome (outcome : ChargeOutcome) :
    (recordOutcome config retry session outcome).Emits (OrderDb.Free session) := by
  have reply : (answerRequest session (.json ⟨chargeStatus outcome, outcome⟩ false)).Emits
      (OrderDb.Free session) := free_answerRequest _
  rw [recordOutcome]
  split
  · exact reply
  · split
    · refine free_autocommit reply (fun _ write member => ?_) reply
      rw [List.mem_singleton.mp member]
      trivial
    · exact reply

theorem free_updateOrder {invoiceId : InvoiceId} {updater : OrderUpdate}
    {next : Option CardOrder -> OrderProgram} (failed : thrown.Emits (OrderDb.Free session))
    (went : ∀ result, (next result).Emits (OrderDb.Free session)) :
    (updateOrder invoiceId updater thrown next).Emits (OrderDb.Free session) := by
  refine Program.Emits.reading failed fun _ _ => Program.Emits.acquiring failed fun _ own => ?_
  split
  · exact went none
  · refine Program.Emits.writing failed (fun _ write member => ?_) fun _ => ⟨failed, went _⟩
    simp only [List.mem_cons, List.not_mem_nil, or_false] at member
    rcases member with rfl | rfl
    · trivial
    · trivial

theorem free_afterCharge {next : ChargeOutcome -> OrderProgram}
    (failed : thrown.Emits (OrderDb.Free session))
    (went : ∀ outcome, (next outcome).Emits (OrderDb.Free session))
    (saved : SavedCardToken) (order : CardOrder) (answer : ProviderAnswer) :
    (afterCharge saved order thrown next answer).Emits (OrderDb.Free session) := by
  cases answer with
  | success transactionId =>
    rw [afterCharge]
    refine free_updateOrder failed fun paid => Program.Emits.reading failed fun _ own => ?_
    refine free_autocommit failed (fun now write member => ?_) (went _)
    rcases Option.map_eq_some_iff.mp (Option.mem_toList.mp member) with ⟨card, -, rfl⟩
    trivial
  | requiresThreeDs transactionId paReq acsUrl =>
    rw [afterCharge]
    exact free_updateOrder failed fun updated => went _
  | declined transactionId message reasonCode =>
    rw [afterCharge]
    refine free_updateOrder failed fun declined => ?_
    simp only
    split
    · refine free_autocommit failed (fun now write member => ?_) (went _)
      rcases Option.map_eq_some_iff.mp (Option.mem_toList.mp member) with ⟨card, -, rfl⟩
      trivial
    · exact went _
  | error message accepted =>
    rw [afterCharge]
    exact free_updateOrder failed fun declined => went _

/-! ### Up to the charge -/

theorem safe_chargeAlone {next : ChargeOutcome -> OrderProgram}
    (failed : thrown.Emits (OrderDb.Free session))
    (went : ∀ outcome, (next outcome).Emits (OrderDb.Free session))
    (params : ChargeParams) (alone : db.Alone session) :
    chargeContract.Safe orderStore permits session
      (chargeWithSavedCard session params thrown next) [] [] db := by
  have threw : ∀ now : OrderDb, now.accepted.length ≤ 1 ->
      chargeContract.Safe orderStore permits session thrown [] [] now :=
    fun now _ => safe_free failed now
  have stable := fun held => stable_alone session held
  refine Safe.reading _ (stable _) alone threw fun now alone _ _ => ?_
  split
  · exact safe_free (went _) now
  · next saved _ =>
    refine Safe.reading _ (stable _) alone threw fun now alone _ _ => ?_
    refine Safe.guarded _ (stable _) alone threw fun now alone _ _ _ => ?_
    refine Safe.commit _ (stable _) alone
      (fun later _ good => ⟨good, fun _ _ still => ⟨still, rfl⟩⟩)
      (fun later alone _ => ?_) (fun later _ good => threw later good)
      fun later _ good => threw _ good
    refine Safe.call _ (stable _) alone (fun later alone good _ answer => ?_)
      fun later _ _ _ answer => safe_free (free_afterCharge failed went saved _ answer) _
    split
    · refine ⟨?_, fun other different busy => ?_⟩
      · exact Nat.le_of_eq (congrArg (fun charges => (_ :: charges).length) alone.2)
      · have same : [session] = [other] := alone.1.symm.trans busy
        exact absurd (List.singleton_inj.mp same).symm different
    · exact ⟨good, fun _ _ still => ⟨still, rfl⟩⟩

theorem safe_chargeTokenExecutor (request : ChargeTokenRequest) (alone : db.Alone session) :
    chargeContract.Safe orderStore permits session
      (chargeTokenExecutor config retry request session) [] [] db := by
  have finish : ∀ outcome, (recordOutcome config retry session outcome).Emits
      (OrderDb.Free session) := free_recordOutcome config retry
  rw [chargeTokenExecutor]
  split
  · exact safe_free (finish _) db
  · split
    · exact safe_free (finish _) db
    · split
      · exact safe_free (finish _) db
      · split
        · exact safe_free (finish _) db
        · exact safe_free (finish _) db
        · exact safe_chargeAlone (free_answerRequest _) finish _ alone

theorem lookup_isSome {records : List (IdempotencyRecord ChargeOutcome)}
    (request : IdempotentRequest ChargeOutcome) (recorded : ((request.recordKey config).bind
      (get IdempotencyRecord.primaryKey records)).isSome = true) :
    request.lookup config records ≠ none := by
  rcases Option.isSome_iff_exists.mp recorded with ⟨existing, read⟩
  rcases Option.bind_eq_some_iff.mp read with ⟨wanted, keyed, found⟩
  rw [IdempotentRequest.recordKey] at keyed
  rw [IdempotentRequest.lookup]
  split at keyed
  · cases keyed
  · next key given =>
    split at keyed
    · next usable =>
      injection keyed with keyed
      subst keyed
      simp only [usable.1, usable.2, if_false, found, Bool.true_eq_false]
      split
      · exact Option.some_ne_none _
      · split <;> exact Option.some_ne_none _
    · cases keyed

theorem safe_postChargeToken (request : ChargeTokenRequest) (db : OrderDb) :
    chargeContract.Safe orderStore Recorded session (postChargeToken config retry request session)
      [] [] db := by
  have found : ∀ now : OrderDb, Recorded (.lookup (retry.request.recordKey config)) now ->
      retry.request.lookup config now.records = none -> now.accepted = [] := by
    intro now recorded absent
    by_contra charged
    exact lookup_isSome config retry.request (recorded.2 charged) absent
  refine Safe.call (fun _ => True) (Stable.const _ _ _) trivial (fun now _ good recorded _ => ?_)
    fun now _ _ recorded _ => ?_
  · split
    · refine ⟨good, fun other _ busy => ?_⟩
      rw [recorded.1] at busy
      cases busy
    · exact ⟨good, fun _ _ still => ⟨still, rfl⟩⟩
  · cases absent : retry.request.lookup config now.records with
    | some reply => trivial
    | none =>
      refine safe_chargeTokenExecutor config retry request ⟨?_, found now recorded absent⟩
      exact congrArg (session :: ·) recorded.1

end Programs

/-- Where no request is looked up beside another one, or after a charge that was not
recorded, the provider accepts one charge at most. -/
theorem one_charge {db : OrderDb} {requests : Nat -> ChargeTokenRequest} {last : OrderState}
    (reached : Reaches orderStore Recorded (chargesOpening config retry db requests) last) :
    last.db.accepted.length ≤ 1 := by
  have sound : Contract.Sound chargeContract orderStore Recorded
      (chargesOpening config retry db requests) :=
    Contract.Sound.start (Nat.zero_le 1) fun session =>
      safe_postChargeToken config retry (requests session) _
  exact (sound.reaches chargeContract_steady reached).1.good

private def savedCard : OrderDb :=
  .opening [⟨"ann@example.com", "tk_1", 0, 0⟩]

private def onceMore : ChargeTokenRetry :=
  ⟨some "charge-1", "\x7b\"amountRub\":2000,\"personalDataConsentAccepted\":true\x7d",
    some ⟨some 200000, true⟩⟩

private def asAnn (_ : Nat) : ChargeTokenRequest := ⟨"ann@example.com", some true⟩

private def unhashed : IdempotencyConfig := ⟨id, true⟩

private def charged : ProviderAnswer := .success "1"

/-- A retry after the first answer is answered from its record. -/
theorem one_charge_retried :
    ∃ last : OrderState, last.db.accepted = [⟨.generated (.minted 0 0), 0⟩] ∧
      last.db.accepted.length ≤ 1 := by
  rcases exists_of_playAllowed orderStore Recorded
    (chargesOpening unhashed onceMore savedCard asAnn)
    (Event.steps 0 16 charged ++ Event.steps 1 1 charged)
    (fun db => db.accepted = [⟨.generated (.minted 0 0), 0⟩]) (by decide +kernel) with
    ⟨last, reached, accepted⟩
  exact ⟨last, of_decide_eq_true accepted, one_charge unhashed onceMore reached⟩

/-- Two requests that are looked up before either is answered both charge the card. -/
theorem charged_twice : ¬ ∀ (config : IdempotencyConfig) (retry : ChargeTokenRetry) (db : OrderDb)
        (requests : Nat -> ChargeTokenRequest) (last : OrderState),
      Reaches orderStore (fun _ _ => True) (chargesOpening config retry db requests) last ->
        last.db.accepted.length ≤ 1 := by
  intro always
  rcases exists_of_play orderStore (chargesOpening unhashed onceMore savedCard asAnn)
    (Event.steps 0 1 charged ++ Event.steps 1 1 charged ++ Event.steps 0 7 charged ++
      Event.steps 1 7 charged)
    (fun db => db.accepted.length = 2) (by decide +kernel) with ⟨last, reached, twice⟩
  have once := always _ _ _ _ last reached
  rw [twice] at once
  exact absurd once (by decide)

end Payments

end LevelChannel
