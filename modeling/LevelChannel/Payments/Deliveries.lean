import LevelChannel.ReadCommitted.Resource
import LevelChannel.ReadCommitted.Statements
import LevelChannel.Tables.Rows

namespace LevelChannel

open ReadCommitted Tables

namespace Payments

/-!
# Webhook deliveries

The payment provider delivers a webhook again until it is acknowledged.  A delivery takes
an advisory lock on its transaction, looks for a recorded outcome, and runs the handler
only when there is none.  Whatever goes wrong before the handler sends the delivery to a
second path, which runs the handler without the lock; a handler that throws counts as
going wrong before the handler.
-/

inductive WebhookKind where
  | check | pay | fail
  deriving DecidableEq

structure WebhookDeliveryOutcome where
  status : Nat
  code : Int
  deriving DecidableEq

/-- The columns `kind` and `transaction_id`; there is one provider. -/
structure DeliveryKey where
  kind : WebhookKind
  transactionId : String
  deriving DecidableEq

/-- A row of `webhook_deliveries`. -/
structure WebhookDelivery where
  key : DeliveryKey
  outcome : WebhookDeliveryOutcome
  requestFingerprint : Option String

/-- What the deliveries of one webhook have done: a handler run began, it came to its end,
or the provider was answered. -/
inductive DeliveryMark where
  | started (session : Nat)
  | completed (session : Nat) (outcome : WebhookDeliveryOutcome)
  | answered (session : Nat) (outcome : WebhookDeliveryOutcome) (replay : Bool)
  deriving DecidableEq

structure DeliveryDb where
  deliveries : List WebhookDelivery
  trace : List DeliveryMark

inductive DeliveryWrite where
  | record (delivery : WebhookDelivery)
  | mark (mark : DeliveryMark)

inductive DeliveryLock where
  | advisory (key : DeliveryKey)
  | row (key : DeliveryKey)
  deriving DecidableEq

/-- What the world answers: a call goes through, the order does not pass its checks, the
handler throws, or no connection can be had. -/
inductive WebhookAnswer where
  | ok
  | declined (code : Int)
  | threw
  | unavailable
  deriving DecidableEq

inductive DeliveryReply where
  | answered (outcome : WebhookDeliveryOutcome) (replay : Bool)
  | thrown

namespace DeliveryDb

def delivery? (db : DeliveryDb) (key : DeliveryKey) : Option WebhookDelivery :=
  get WebhookDelivery.key db.deliveries key

/-- `insert into webhook_deliveries … on conflict do nothing` -/
def record (db : DeliveryDb) (delivery : WebhookDelivery) : DeliveryDb :=
  if (db.delivery? delivery.key).isSome then db
  else { db with deliveries := (Change.insert delivery).apply WebhookDelivery.key db.deliveries }

def apply (db : DeliveryDb) : DeliveryWrite -> DeliveryDb
  | .record delivery => db.record delivery
  | .mark mark => { db with trace := mark :: db.trace }

def starts (db : DeliveryDb) (session : Nat) : Nat :=
  db.trace.count (.started session)

def completions (db : DeliveryDb) : List WebhookDeliveryOutcome :=
  db.trace.filterMap fun mark =>
    match mark with
    | .completed _ outcome => some outcome
    | _ => none

end DeliveryDb

def deliveryStore (key : DeliveryKey) :
    Store DeliveryDb DeliveryLock DeliveryWrite (Change WebhookDelivery) where
  apply := DeliveryDb.apply
  drift change db :=
    if change.row.key = key then db
    else { db with deliveries := change.apply WebhookDelivery.key db.deliveries }
  close _ db := db
  conflict first second := first = second
  conflict_comm _ _ := decide_eq_decide.mpr eq_comm

abbrev DeliveryProgram :=
  ReadCommitted.Program DeliveryDb DeliveryLock DeliveryWrite Unit WebhookAnswer DeliveryReply

abbrev DeliveryState :=
  ReadCommitted.State DeliveryDb DeliveryLock DeliveryWrite Unit WebhookAnswer DeliveryReply

inductive WebhookDeliveryLookup where
  | hit (outcome : WebhookDeliveryOutcome)
  | miss
  | fingerprintMismatch (cachedFingerprint : String)

/-- `lookupWebhookDelivery` and `lookupWebhookDeliveryClient` -/
def lookupWebhookDelivery (db : DeliveryDb) (key : DeliveryKey) (incomingFingerprint : String) :
    WebhookDeliveryLookup :=
  match db.delivery? key with
  | none => .miss
  | some row =>
    match row.requestFingerprint with
    | some cachedFingerprint =>
      -- an empty fingerprint is read as none
      if cachedFingerprint ≠ "" ∧ cachedFingerprint ≠ incomingFingerprint then
        .fingerprintMismatch cachedFingerprint
      else .hit row.outcome
    | none => .hit row.outcome

structure Webhook where
  key : DeliveryKey
  fingerprint : String
  /-- The route passes a handler. -/
  handler : Bool

namespace Webhook

variable (webhook : Webhook) (session : Nat)

def jsonResponse (outcome : WebhookDeliveryOutcome) (replay : Bool) : DeliveryProgram :=
  .call () (fun _ _ => [.mark (.answered session outcome replay)])
    fun _ _ => .done (.answered outcome replay)

def accepted : WebhookDeliveryOutcome := ⟨200, 0⟩

/-- `await options.handler(payload)`; what the handler writes is on other connections. -/
def runHandler (thrown next : DeliveryProgram) : DeliveryProgram :=
  .call () (fun _ _ => [.mark (.started session)]) fun _ _ =>
    .call ()
      (fun _ answer => if answer = .threw then [] else [.mark (.completed session accepted)])
      fun _ answer => if answer = .threw then thrown else next

def runWebhookPipeline (thrown : DeliveryProgram)
    (next : WebhookDeliveryOutcome -> DeliveryProgram) : DeliveryProgram :=
  -- the audit rows and `validateCloudPaymentsOrder`
  .call () (fun _ _ => []) fun _ validation =>
    match validation with
    | .declined code => next ⟨200, code⟩
    | _ => if webhook.handler then runHandler session thrown (next accepted) else next accepted

/-- `recordWebhookDelivery` or `recordWebhookDeliveryClient`, and the answer.  A record that
fails is only logged. -/
def recordThenRespond (outcome : WebhookDeliveryOutcome) : DeliveryProgram :=
  let respond := jsonResponse session outcome false
  .writing () [.row webhook.key] respond
    (fun _ => [.record ⟨webhook.key, outcome, some webhook.fingerprint⟩])
    fun _ => .commit respond respond

/-- `processSerialized`, with what follows when it throws. -/
def processSerialized (thrown : DeliveryProgram) : DeliveryProgram :=
  -- `acquireClientWithTimeout`
  .call () (fun _ _ => []) fun _ connection =>
    if connection = .unavailable then thrown
    else
      .reading () thrown fun _ _ =>
        .acquiring () [.advisory webhook.key] thrown fun _ _ =>
          .reading () thrown fun _ own =>
            match lookupWebhookDelivery own webhook.key webhook.fingerprint with
            | .hit outcome => .commit thrown (jsonResponse session outcome true)
            | _ =>
              webhook.runWebhookPipeline session (.rollback thrown)
                (webhook.recordThenRespond session)

/-- `handleCloudPaymentsWebhook` after its entry checks. -/
def handleCloudPaymentsWebhook : DeliveryProgram :=
  webhook.processSerialized session <|
    webhook.runWebhookPipeline session (.done .thrown) fun outcome =>
      let respond := jsonResponse session outcome false
      .reading () respond fun _ own =>
        match lookupWebhookDelivery own webhook.key webhook.fingerprint with
        | .hit _ => respond
        | _ => webhook.recordThenRespond session outcome

def opening (table : List WebhookDelivery) : DeliveryState :=
  State.start ⟨table, []⟩ webhook.handleCloudPaymentsWebhook

end Webhook

/-- Every delivery starts the handler at most once, at most one run of the handler comes to
its end, what is recorded is the outcome of that run, and it is what every delivery is
answered with. -/
structure HandledOnce (key : DeliveryKey) (db : DeliveryDb) : Prop where
  starts : ∀ session, db.starts session ≤ 1
  completions : db.completions.length ≤ 1
  recorded : ∀ row, db.delivery? key = some row ->
    ∀ outcome, outcome ∈ db.completions -> row.outcome = outcome
  answered : ∀ session outcome replay, .answered session outcome replay ∈ db.trace ->
    ∃ row, db.delivery? key = some row ∧ row.outcome = outcome

/-- What a delivery may do: it starts the handler for itself only, an outcome once recorded
stays, and without the lock nothing is recorded and no run completes. -/
structure Delivers (key : DeliveryKey) (session : Nat) (held : List DeliveryLock)
    (before after : DeliveryDb) : Prop where
  others : ∀ other, other ≠ session -> after.starts other = before.starts other
  kept : ∀ row, before.delivery? key = some row -> after.delivery? key = some row
  unlocked : .advisory key ∉ held ->
    after.delivery? key = before.delivery? key ∧ after.completions = before.completions

/-- The custody of one webhook.  Nobody is between a handler run and its record unless the
lock is held. -/
def Webhook.custody (webhook : Webhook) : Custody DeliveryDb DeliveryLock where
  Good db := HandledOnce webhook.key db ∧
    ∀ row, db.delivery? webhook.key = some row ->
      row.requestFingerprint = some webhook.fingerprint
  Guarantee := Delivers webhook.key
  lock := .advisory webhook.key
  Free db := db.delivery? webhook.key = none -> db.completions = []

namespace Webhook

variable {webhook : Webhook} {session : Nat} {held : List DeliveryLock} {db : DeliveryDb}
  {pending : List DeliveryWrite} {outcome : WebhookDeliveryOutcome}

def Smooth (answer : WebhookAnswer) : Prop :=
  answer ≠ .unavailable ∧ answer ≠ .threw

variable (webhook session held pending) in
private abbrev Kept (program : DeliveryProgram) (db : DeliveryDb) : Prop :=
  webhook.custody.Calm (deliveryStore webhook.key) Smooth session program held pending db

@[simp] theorem delivery?_mark (mark : DeliveryMark) (key : DeliveryKey) :
    (db.apply (.mark mark)).delivery? key = db.delivery? key := rfl

@[simp] theorem trace_record (delivery : WebhookDelivery) :
    (db.apply (.record delivery)).trace = db.trace := by
  simp only [DeliveryDb.apply, DeliveryDb.record]
  split <;> rfl

theorem completions_record (delivery : WebhookDelivery) :
    (db.apply (.record delivery)).completions = db.completions := by
  rw [DeliveryDb.completions, trace_record, DeliveryDb.completions]

theorem starts_record (delivery : WebhookDelivery) (session : Nat) :
    (db.apply (.record delivery)).starts session = db.starts session := by
  rw [DeliveryDb.starts, trace_record, DeliveryDb.starts]

theorem delivery?_record (delivery : WebhookDelivery) (free : db.delivery? delivery.key = none) :
    (db.apply (.record delivery)).delivery? delivery.key = some delivery := by
  simp only [DeliveryDb.apply, DeliveryDb.record, free, Option.isSome_none, Bool.false_eq_true,
    if_false]
  exact get_insert_self delivery free

theorem delivery?_drift (webhook : Webhook) (db : DeliveryDb) (change : Change WebhookDelivery) :
    ((deliveryStore webhook.key).drift change db).delivery? webhook.key = db.delivery? webhook.key ∧
      ((deliveryStore webhook.key).drift change db).trace = db.trace := by
  simp only [deliveryStore]
  by_cases same : change.row.key = webhook.key
  · rw [if_pos same]
    exact ⟨rfl, rfl⟩
  · rw [if_neg same]
    exact ⟨get_apply_of_ne change (Ne.symm same), rfl⟩

theorem HandledOnce.congr {before after : DeliveryDb} {key : DeliveryKey}
    (once : HandledOnce key before) (rows : after.delivery? key = before.delivery? key)
    (trace : after.trace = before.trace) : HandledOnce key after where
  starts session := by
    rw [DeliveryDb.starts, trace]
    exact once.starts session
  completions := by
    rw [DeliveryDb.completions, trace]
    exact once.completions
  recorded row found outcome member := by
    rw [rows] at found
    rw [DeliveryDb.completions, trace] at member
    exact once.recorded row found outcome member
  answered session outcome replay member := by
    rw [trace] at member
    rw [rows]
    exact once.answered session outcome replay member

theorem drift_keeps (change : Change WebhookDelivery) (good : webhook.custody.Good db) :
    webhook.custody.Good ((deliveryStore webhook.key).drift change db) ∧ (webhook.custody.Free db ->
        webhook.custody.Free ((deliveryStore webhook.key).drift change db)) := by
  rcases delivery?_drift webhook db change with ⟨rows, trace⟩
  refine ⟨⟨HandledOnce.congr good.1 rows trace, ?_⟩, ?_⟩
  · intro row found
    exact good.2 row (rows.symm.trans found)
  · intro free none
    have before := free (rows.symm.trans none)
    rw [DeliveryDb.completions, trace]
    exact before

/-! ## What a delivery knows -/

private def Unstarted (session : Nat) (db : DeliveryDb) : Prop :=
  db.starts session = 0

/-- Nothing is recorded, and these are the runs that have completed. -/
private def Unrecorded (webhook : Webhook) (outcomes : List WebhookDeliveryOutcome)
    (db : DeliveryDb) : Prop :=
  db.delivery? webhook.key = none ∧ db.completions = outcomes

private def Recorded (webhook : Webhook) (outcome : WebhookDeliveryOutcome)
    (db : DeliveryDb) : Prop :=
  ∃ row, db.delivery? webhook.key = some row ∧ row.outcome = outcome

private theorem stable_of (P : DeliveryDb -> Prop) (congr : ∀ before after, P before ->
      after.delivery? webhook.key = before.delivery? webhook.key -> after.trace = before.trace ->
        P after) (kept : ∀ other theirs before after, other ≠ session ->
      (deliveryStore webhook.key).Compatible held theirs ->
        Delivers webhook.key other theirs before after -> P before -> P after) :
    webhook.custody.Stable (deliveryStore webhook.key) session held P := by
  rintro before after holds ⟨-, -, ⟨change, rfl⟩ | ⟨other, theirs, different, apart, delivers⟩⟩
  · rcases delivery?_drift webhook before change with ⟨rows, trace⟩
    exact congr _ _ holds rows trace
  · exact kept other theirs before after different apart delivers holds

private theorem unstarted_stable :
    webhook.custody.Stable (deliveryStore webhook.key) session held (Unstarted session) := by
  apply stable_of
  · intro before after unstarted _ trace
    rw [Unstarted, DeliveryDb.starts, trace]
    exact unstarted
  · intro other theirs before after different _ delivers unstarted
    exact (delivers.others session different.symm).trans unstarted

private theorem unrecorded_stable (outcomes : List WebhookDeliveryOutcome)
    (locked : .advisory webhook.key ∈ held) :
    webhook.custody.Stable (deliveryStore webhook.key) session held
      (Unrecorded webhook outcomes) := by
  apply stable_of
  · intro before after unrecorded rows trace
    refine ⟨rows.trans unrecorded.1, ?_⟩
    rw [DeliveryDb.completions, trace]
    exact unrecorded.2
  · intro other theirs before after _ apart delivers unrecorded
    have without : .advisory webhook.key ∉ theirs :=
      apart.not_mem locked (by simp [deliveryStore])
    rcases delivers.unlocked without with ⟨rows, completions⟩
    exact ⟨rows.trans unrecorded.1, completions.trans unrecorded.2⟩

private theorem recorded_stable (outcome : WebhookDeliveryOutcome) :
    webhook.custody.Stable (deliveryStore webhook.key) session held (Recorded webhook outcome) := by
  apply stable_of
  · rintro before after ⟨row, found, same⟩ rows _
    exact ⟨row, rows.trans found, same⟩
  · rintro other theirs before after _ _ delivers ⟨row, found, same⟩
    exact ⟨row, delivers.kept row found, same⟩

private theorem always_stable :
    webhook.custody.Stable (deliveryStore webhook.key) session held (fun _ => True) :=
  Contract.Stable.const session held True

private theorem keeps_nothing (good : webhook.custody.Good db) :
    webhook.custody.Keeps session held db db where
  good := good
  kept := ⟨fun _ _ => rfl, fun _ found => found, fun _ => ⟨rfl, rfl⟩⟩
  free _ free := free

private theorem keeps_answer {replay : Bool} (good : webhook.custody.Good db)
    (recorded : Recorded webhook outcome db) : webhook.custody.Keeps session held db
      (db.apply (.mark (.answered session outcome replay))) where
  good := by
    refine ⟨⟨fun other => ?_, good.1.completions, good.1.recorded, ?_⟩, good.2⟩
    · have before := good.1.starts other
      simpa [DeliveryDb.starts, DeliveryDb.apply] using before
    · intro other found again member
      rcases List.mem_cons.mp member with same | earlier
      · cases same
        exact recorded
      · exact good.1.answered other found again earlier
  kept := ⟨fun other _ => by simp [DeliveryDb.starts, DeliveryDb.apply], fun _ found => found,
    fun _ => ⟨rfl, rfl⟩⟩
  free _ free := free

private theorem keeps_start (good : webhook.custody.Good db) (unstarted : Unstarted session db) :
    webhook.custody.Keeps session held db (db.apply (.mark (.started session))) where
  good := by
    refine ⟨⟨fun other => ?_, good.1.completions, good.1.recorded, ?_⟩, good.2⟩
    · by_cases same : other = session
      · subst other
        simp only [DeliveryDb.starts, DeliveryDb.apply, List.count_cons_self]
        exact Nat.succ_le_succ (Nat.le_of_eq unstarted)
      · have before := good.1.starts other
        simpa [DeliveryDb.starts, DeliveryDb.apply, Ne.symm same] using before
    · intro other found again member
      rcases List.mem_cons.mp member with same | earlier
      · cases same
      · exact good.1.answered other found again earlier
  kept := ⟨fun other different => by
    simp [DeliveryDb.starts, DeliveryDb.apply, Ne.symm different], fun _ found => found,
    fun _ => ⟨rfl, rfl⟩⟩
  free _ free := free

private theorem keeps_completion (good : webhook.custody.Good db)
    (locked : .advisory webhook.key ∈ held) (unrecorded : Unrecorded webhook [] db) :
    webhook.custody.Keeps session held db (db.apply (.mark (.completed session accepted))) where
  good := by
    refine ⟨⟨fun other => ?_, ?_, ?_, ?_⟩, good.2⟩
    · have before := good.1.starts other
      simpa [DeliveryDb.starts, DeliveryDb.apply] using before
    · have before := unrecorded.2
      simp only [DeliveryDb.completions] at before
      simp [DeliveryDb.completions, DeliveryDb.apply, before]
    · intro row found
      rw [delivery?_mark, unrecorded.1] at found
      cases found
    · intro other found again member
      rcases List.mem_cons.mp member with same | earlier
      · cases same
      · exact good.1.answered other found again earlier
  kept := ⟨fun other _ => by simp [DeliveryDb.starts, DeliveryDb.apply], fun _ found => found,
    fun without => absurd locked without⟩
  free without := absurd locked without

private theorem keeps_record {outcomes : List WebhookDeliveryOutcome}
    (good : webhook.custody.Good db) (locked : .advisory webhook.key ∈ held)
    (unrecorded : Unrecorded webhook outcomes db)
    (agrees : ∀ completed, completed ∈ outcomes -> outcome = completed) :
    webhook.custody.Keeps session held db
      (db.apply (.record ⟨webhook.key, outcome, some webhook.fingerprint⟩)) := by
  have found := delivery?_record ⟨webhook.key, outcome, some webhook.fingerprint⟩ unrecorded.1
  refine ⟨⟨⟨fun other => ?_, ?_, ?_, ?_⟩, ?_⟩, ⟨fun other _ => starts_record _ _, ?_, ?_⟩, ?_⟩
  · rw [starts_record]
    exact good.1.starts other
  · rw [completions_record]
    exact good.1.completions
  · intro row read completed member
    rw [found, Option.some.injEq] at read
    rw [completions_record, unrecorded.2] at member
    exact read ▸ agrees completed member
  · intro other answer replay member
    rw [trace_record] at member
    rcases good.1.answered other answer replay member with ⟨row, before, -⟩
    rw [unrecorded.1] at before
    cases before
  · intro row read
    rw [found, Option.some.injEq] at read
    rw [← read]
  · intro row before
    rw [unrecorded.1] at before
    cases before
  · exact fun without => absurd locked without
  · exact fun without => absurd locked without

private theorem jsonResponse_kept {replay : Bool} (recorded : Recorded webhook outcome db) :
    webhook.Kept session held pending (jsonResponse session outcome replay) db := by
  apply Custody.Calm.call (Recorded webhook outcome) (recorded_stable outcome) recorded
  · intro now known good answer _
    exact keeps_answer good known
  · intro now _ _ answer _
    trivial

private theorem recordThenRespond_kept {outcomes : List WebhookDeliveryOutcome}
    (locked : .advisory webhook.key ∈ held) (unrecorded : Unrecorded webhook outcomes db)
    (agrees : ∀ completed, completed ∈ outcomes -> outcome = completed) :
    webhook.Kept session held [] (webhook.recordThenRespond session outcome) db := by
  apply Custody.Calm.statement (Unrecorded webhook outcomes) (unrecorded_stable outcomes locked)
    unrecorded
  intro now known _ _
  have still : .advisory webhook.key ∈ [DeliveryLock.row webhook.key] ++ held :=
    List.mem_append_right _ locked
  apply Custody.Calm.commit (Unrecorded webhook outcomes) (unrecorded_stable outcomes still) known
  · intro later current good
    refine ⟨keeps_record good still current agrees, fun _ none => ?_⟩
    have found := delivery?_record ⟨webhook.key, outcome, some webhook.fingerprint⟩ current.1
    exact absurd none (found ▸ Option.some_ne_none _)
  · intro later current _
    apply jsonResponse_kept
    exact ⟨_, delivery?_record _ current.1, rfl⟩

private theorem runHandler_kept {thrown : DeliveryProgram}
    (locked : .advisory webhook.key ∈ held) (unstarted : Unstarted session db)
    (unrecorded : Unrecorded webhook [] db) : webhook.Kept session held []
      (runHandler session thrown (webhook.recordThenRespond session accepted)) db := by
  have alone : webhook.custody.Stable (deliveryStore webhook.key) session held
      (Unrecorded webhook []) := unrecorded_stable [] locked
  apply Custody.Calm.call (fun now => Unstarted session now ∧ Unrecorded webhook [] now)
    (unstarted_stable.and alone) ⟨unstarted, unrecorded⟩
  · intro now known good begun _
    exact keeps_start good known.1
  intro now known _ begun _
  have still : Unrecorded webhook [] (now.apply (.mark (.started session))) := known.2
  apply Custody.Calm.call (Unrecorded webhook []) alone still
  · intro later free good ended smooth
    rw [if_neg smooth.2]
    exact keeps_completion good locked free
  · intro later free _ ended smooth
    rw [if_neg smooth.2, if_neg smooth.2]
    apply recordThenRespond_kept locked
    · exact ⟨free.1, congrArg (accepted :: ·) free.2⟩
    · intro completed member
      exact (List.mem_singleton.mp member).symm

private theorem runWebhookPipeline_kept {thrown : DeliveryProgram}
    (locked : .advisory webhook.key ∈ held) (unstarted : Unstarted session db)
    (unrecorded : Unrecorded webhook [] db) :
    webhook.Kept session held [] (webhook.runWebhookPipeline session thrown
      (webhook.recordThenRespond session)) db := by
  apply Custody.Calm.call (fun now => Unstarted session now ∧ Unrecorded webhook [] now)
    (unstarted_stable.and (unrecorded_stable [] locked)) ⟨unstarted, unrecorded⟩
  · intro now _ good answer _
    exact keeps_nothing good
  rintro now ⟨notYet, none⟩ - answer -
  have unhandled (result : WebhookDeliveryOutcome) :
      webhook.Kept session held [] (webhook.recordThenRespond session result) now :=
    recordThenRespond_kept locked none fun _ member => absurd member List.not_mem_nil
  have valid : webhook.Kept session held [] (if webhook.handler then
      runHandler session thrown (webhook.recordThenRespond session accepted)
      else webhook.recordThenRespond session accepted) now := by
    by_cases handler : webhook.handler = true
    · rw [if_pos handler]
      exact runHandler_kept locked notYet none
    · rw [if_neg handler]
      exact unhandled accepted
  cases answer with
  | declined code => exact unhandled ⟨200, code⟩
  | ok => exact valid
  | threw => exact valid
  | unavailable => exact valid

private theorem lookup_hit {row : WebhookDelivery} (found : db.delivery? webhook.key = some row)
    (same : row.requestFingerprint = some webhook.fingerprint) :
    lookupWebhookDelivery db webhook.key webhook.fingerprint = .hit row.outcome := by
  simp [lookupWebhookDelivery, found, same]

private theorem lookup_miss (missing : db.delivery? webhook.key = none) :
    lookupWebhookDelivery db webhook.key webhook.fingerprint = .miss := by
  simp [lookupWebhookDelivery, missing]

private theorem processSerialized_kept {thrown : DeliveryProgram}
    (unstarted : Unstarted session db) :
    webhook.Kept session [] [] (webhook.processSerialized session thrown) db := by
  apply Custody.Calm.call (Unstarted session) unstarted_stable unstarted
  · intro now _ good answer _
    exact keeps_nothing good
  intro now notYet _ connection smooth
  rw [if_neg smooth.1]
  apply Custody.Calm.statement (Unstarted session) unstarted_stable notYet
  intro began notYet _ _
  apply Custody.Calm.statement (Unstarted session) unstarted_stable notYet
  intro alone notYet good free
  have locked : .advisory webhook.key ∈ [DeliveryLock.advisory webhook.key] ++ [] ++ [] :=
    List.mem_cons_self
  have released := free List.mem_cons_self List.not_mem_nil
  cases found : alone.delivery? webhook.key with
  | none =>
    apply Custody.Calm.statement (fun now => Unstarted session now ∧ Unrecorded webhook [] now)
      (unstarted_stable.and (unrecorded_stable [] locked)) ⟨notYet, found, released found⟩
    rintro looked ⟨notYet, none⟩ - -
    have missed := lookup_miss none.1
    simp only [Store.applyAll_nil, List.append_nil, missed]
    exact runWebhookPipeline_kept locked notYet none
  | some row =>
    have known : Recorded webhook row.outcome alone := ⟨row, found, rfl⟩
    apply Custody.Calm.statement (Recorded webhook row.outcome) (recorded_stable _) known
    rintro looked ⟨current, read, same⟩ good -
    have hit := lookup_hit read (good.2 current read)
    simp only [Store.applyAll_nil, List.append_nil, hit]
    apply Custody.Calm.commit (Recorded webhook current.outcome) (recorded_stable _)
      ⟨current, read, rfl⟩
    · rintro later ⟨final, still, -⟩ good
      refine ⟨keeps_nothing good, fun _ none => ?_⟩
      exact absurd (still.symm.trans none) (Option.some_ne_none _)
    · intro later known _
      exact jsonResponse_kept known

end Webhook

/-- Where no handler throws and the database works, the deliveries of a webhook run the
handler once. -/
theorem handler_runs_once {webhook : Webhook} {table : List WebhookDelivery}
    (fresh : get WebhookDelivery.key table webhook.key = none) {last : DeliveryState}
    (run : ReachesBy (deliveryStore webhook.key) (Event.Calm Webhook.Smooth)
      (webhook.opening table) last) : HandledOnce webhook.key last.db := by
  have good : webhook.custody.Good ⟨table, []⟩ := by
    refine ⟨⟨fun _ => Nat.zero_le 1, Nat.zero_le 1, ?_, ?_⟩, ?_⟩
    · intro row found
      rw [DeliveryDb.delivery?, fresh] at found
      cases found
    · intro session outcome replay member
      cases member
    · intro row found
      rw [DeliveryDb.delivery?, fresh] at found
      cases found
  have start : webhook.custody.Orderly (deliveryStore webhook.key) Webhook.Smooth
      (webhook.opening table) :=
    Custody.Orderly.start good (fun _ => rfl) fun session => Webhook.processSerialized_kept rfl
  have orderly := start.reaches (by simp [Webhook.custody, deliveryStore])
    (fun change db good => Webhook.drift_keeps change good) run
  exact orderly.good.1

private def paid : Webhook := ⟨⟨.pay, "1"⟩, "f", true⟩

private def takes (session count : Nat) : List (Event (Change WebhookDelivery) WebhookAnswer) :=
  List.replicate count (.run session .ok)

/-- One delivery runs the handler, the next one finds its outcome. -/
theorem handler_runs_once_replayed :
    ∃ last, ReachesBy (deliveryStore paid.key) (Event.Calm Webhook.Smooth) (paid.opening []) last ∧
      last.db.trace = [.answered 1 ⟨200, 0⟩ true, .answered 0 ⟨200, 0⟩ false, .completed 0 ⟨200, 0⟩,
          .started 0] ∧
      HandledOnce paid.key last.db := by
  rcases exists_by_of_play (deliveryStore paid.key) (Event.Calm Webhook.Smooth)
    (takes 0 10 ++ takes 1 6) (by simp [takes, Event.Calm, Webhook.Smooth])
    (fun db => decide (db.trace = [.answered 1 ⟨200, 0⟩ true, .answered 0 ⟨200, 0⟩ false,
      .completed 0 ⟨200, 0⟩, .started 0]))
    (.refl (paid.opening [])) (by decide +kernel) with ⟨last, run, traced⟩
  exact ⟨last, run, of_decide_eq_true traced, handler_runs_once rfl run⟩

/-- The handler throws in the first delivery, which gives its lock up and runs the handler
again while the second delivery runs it too. -/
theorem handler_runs_twice : ∃ last, ReachesBy (deliveryStore paid.key)
      (Event.Calm fun answer => answer ≠ .unavailable)
      (paid.opening []) last ∧
      last.db.starts 0 = 2 ∧ last.db.completions.length = 2 := by
  rcases exists_by_of_play (deliveryStore paid.key)
    (Event.Calm fun answer => answer ≠ .unavailable)
    (takes 0 6 ++ [.run 0 .threw] ++ takes 0 1 ++ takes 1 7 ++ takes 0 3)
    (by simp [takes, Event.Calm, or_imp, forall_and])
    (fun db => decide (db.starts 0 = 2 ∧ db.completions.length = 2))
    (.refl (paid.opening [])) (by decide +kernel) with ⟨last, run, twice⟩
  exact ⟨last, run, of_decide_eq_true twice⟩

end Payments

end LevelChannel
