import LevelChannel.Scheduling.Booking
import LevelChannel.Refunds.Routes
import LevelChannel.Lessons.Settle

namespace LevelChannel.Scheduling

open ReadCommitted Tables

/-!
# Routes that need no following

Cancelling, settling, selling and refunding: every statement of these routes is lawful by
itself, whatever the earlier ones have read.
-/

variable {terms : Terms} {permits : Label -> Db -> Prop} {session : Nat}

theorem cancelWhere_obeys {now : Nat} {slotId cancelledByAccountId : RowId}
    {where_ : Db -> LessonSlot -> Bool} {cancelledAt : LessonSlot -> Nat} {reason : Option String}
    {actor : Actor} {restoreReason : String} {cancelled missed : Program}
    (unbilled : ∀ own row, where_ own row = true -> outcome row.status = none)
    (went : (discipline terms).Obeys session cancelled)
    (not : (discipline terms).Obeys session missed) : (discipline terms).Obeys session
      (Program.cancelWhere now slotId where_ cancelledAt cancelledByAccountId reason actor
        restoreReason cancelled missed) := by
  refine updateSlot_obeys ?_ thrown_obeys fun updated => ?_
  · intro own old good found chosen
    exact cancel_tidies good found (unbilled own old chosen)
  · split
    · exact not
    · exact restorePackageConsumption_obeys thrown_obeys fun _ => ⟨trivial, went⟩

theorem cancelSlot_obeys (slotId cancelledByAccountId : RowId) (reason : Option String)
    (actor : Actor) : (discipline terms).Obeys session
      (Program.cancelSlot slotId cancelledByAccountId reason actor) := by
  unfold Program.cancelSlot
  generalize reasonTooLong reason = long
  split
  · exact True.intro
  apply Program.Obeys.query thrown_obeys
  intro committed _
  split
  · exact True.intro
  refine Program.Obeys.begin thrown_obeys fun now => cancelWhere_obeys ?_ True.intro True.intro
  intro own row chosen
  simp only [Bool.and_eq_true, decide_eq_true_eq] at chosen
  cases status : row.status <;> simp_all [outcome]

theorem classifyLearnerCancel_obeys (slotId learnerAccountId : RowId) :
    (discipline terms).Obeys session (Program.classifyLearnerCancel slotId learnerAccountId) := by
  apply Program.Obeys.query thrown_obeys
  intro committed _
  split
  · exact True.intro
  split
  · exact True.intro
  split
  · exact True.intro
  split <;> exact True.intro

theorem cancelLearnerSlot_obeys (slotId learnerAccountId : RowId) (reason : Option String)
    (envFallbackMinutes : Nat) : (discipline terms).Obeys session
      (Program.cancelLearnerSlot slotId learnerAccountId reason envFallbackMinutes) := by
  unfold Program.cancelLearnerSlot
  generalize reasonTooLong reason = long
  split
  · exact True.intro
  refine Program.Obeys.begin thrown_obeys fun now =>
    cancelWhere_obeys ?_ True.intro (classifyLearnerCancel_obeys slotId learnerAccountId)
  intro own row chosen
  simp only [Bool.and_eq_true, decide_eq_true_eq] at chosen
  rw [chosen.1.2]
  rfl

theorem classifyTeacherCancel_obeys (slotId teacherAccountId : RowId) (reason : Option String) :
    (discipline terms).Obeys session
      (Program.classifyTeacherCancel slotId teacherAccountId reason) := by
  apply Program.Obeys.query thrown_obeys
  intro committed _
  split
  · exact True.intro
  split
  · exact True.intro
  split
  · exact True.intro
  split <;> exact True.intro

theorem cancelSlotByTeacher_obeys (slotId teacherAccountId : RowId) (reason : Option String) :
    (discipline terms).Obeys session
      (Program.cancelSlotByTeacher slotId teacherAccountId reason) := by
  unfold Program.cancelSlotByTeacher
  generalize reasonTooLong reason = long
  split
  · exact True.intro
  refine Program.Obeys.begin thrown_obeys fun now =>
    cancelWhere_obeys ?_ True.intro (classifyTeacherCancel_obeys slotId teacherAccountId reason)
  intro own row chosen
  simp only [Bool.and_eq_true, Bool.or_eq_true, decide_eq_true_eq] at chosen
  rcases chosen.1.2 with status | status <;> rw [status] <;> rfl

theorem coverCandidates_obeys {settlementId : RowId} {onError : Program}
    (failed : (discipline terms).Obeys session onError) :
    ∀ (candidates : List (LessonCompletion × Nat)) (budget : Nat)
      (next : List RowId -> Program), (∀ ids, (discipline terms).Obeys session (next ids)) ->
        (discipline terms).Obeys session
          (Program.coverCandidates settlementId onError candidates budget next) := by
  intro candidates
  induction candidates with
  | nil =>
    intro budget next went
    exact went []
  | cons candidate rest extend =>
    intro budget next went
    rw [Program.coverCandidates]
    split
    · exact went []
    split
    · exact extend budget next went
    refine Program.Obeys.checked failed ?_ fun _ => extend _ _ fun ids => went _
    intro own _
    refine lawful_of_fits (fun _ => ⟨?_, trivial⟩) (by simp [Write.table])
    exact ⟨(LockTarget.completion candidate.1.id).forKeyShare, List.mem_singleton_self _, rfl⟩

theorem endSettling_obeys (pass : SettlePass) {answer : Program}
    (answered : (discipline terms).Obeys session answer) :
    (discipline terms).Obeys session (Program.endSettling pass answer) :=
  fun committed _ => ⟨idle_quiet (by simp [Quiet, Write.table]) committed, answered⟩

theorem settleLessons_obeys (request : SettleRequest) (pass : SettlePass) :
    (discipline terms).Obeys session (Program.settleLessons session request pass) := by
  have ended : ∀ reply : Reply, (discipline terms).Obeys session
      (Program.endSettling pass (.done reply)) := fun _ => endSettling_obeys pass True.intro
  unfold Program.settleLessons
  extract_lets onError
  have failing : (discipline terms).Obeys session onError := ended _
  apply Program.Obeys.begin failing
  intro now
  apply Program.Obeys.locking failing
  intro _
  apply Program.Obeys.query failing
  intro _ own
  extract_lets candidates
  split
  · refine Program.Obeys.execute failing
      (fun own => lawful_quiet (by simp [Quiet, Write.table]) _ own) fun _ => ?_
    apply coverCandidates_obeys failing _ _ _
    intro ids
    exact Program.Obeys.execute failing
      (fun own => lawful_quiet (by simp [Quiet, Write.table]) _ own) fun _ => ⟨failing, True.intro⟩
  · exact ended _

theorem settle_obeys (request : SettleRequest) :
    (discipline terms).Obeys session (Program.settle session request) := by
  have failing : (discipline terms).Obeys session (.done (.thrown driverError) : Program) := trivial
  apply Program.Obeys.query failing
  intro committed _
  extract_lets inLink hasSlot
  split
  · exact True.intro
  split
  · exact True.intro
  extract_lets pass recent
  intro committed choice
  refine ⟨idle_quiet ?_ committed, ?_⟩
  · beta_reduce
    split <;> simp [Quiet, Write.table]
  beta_reduce
  split
  · exact True.intro
  exact settleLessons_obeys request pass

/-! ## Selling and granting packages -/

theorem grantPaidOrder_obeys {invoiceId : InvoiceId} {accountId packageId : RowId}
    {package : LessonPackage} {expiresAt : Nat} {next : String -> Program}
    (went : ∀ outcome, (discipline terms).Obeys session (next outcome)) :
    (discipline terms).Obeys session
      (Program.grantPaidOrder session invoiceId accountId packageId package expiresAt next) := by
  refine Program.Obeys.begin (went _) fun _ => Program.Obeys.locking (went _) fun _ => ?_
  apply Program.Obeys.query (went _)
  intro _ own
  split
  · exact ⟨went _, went _⟩
  apply Program.Obeys.query (went _)
  intro committed _
  split
  · exact ⟨went _, went _⟩
  apply createPackagePurchase_obeys (went _)
  intro created
  split
  · exact allocatePackage_obeys (went _) ⟨went _, went _⟩
  · exact ⟨went _, went _⟩

theorem processPackageGrantThen_obeys {invoiceId : InvoiceId} {next : String -> Program}
    (went : ∀ outcome, (discipline terms).Obeys session (next outcome)) :
    (discipline terms).Obeys session (Program.processPackageGrantThen session invoiceId next) := by
  apply Program.Obeys.query (went _)
  intro committed _
  split
  · exact went _
  split
  · exact went _
  apply Program.Obeys.query (went _)
  intro committed _
  split
  · exact went _
  split
  · exact went _
  apply Program.Obeys.query (went _)
  intro committed _
  split
  · exact went _
  split
  · exact went _
  split
  · exact went _
  split
  · exact went _
  apply Program.Obeys.query (went _)
  intro committed _
  split
  · exact went _
  apply Program.Obeys.query (went _)
  intro committed _
  exact grantPaidOrder_obeys went

theorem processPackageGrant_obeys (invoiceId : InvoiceId) :
    (discipline terms).Obeys session (Program.processPackageGrant session invoiceId) :=
  processPackageGrantThen_obeys fun _ => True.intro

theorem recordCheckout_obeys (request : Program.CheckoutRequest) (packageId : RowId)
    (package : LessonPackage) (teacherAccountId : RowId) (customerEmail : Option String) :
    (discipline terms).Obeys session
      (Program.recordCheckout session request packageId package teacherAccountId
        customerEmail) := by
  unfold Program.recordCheckout
  extract_lets onError accountId invoiceId answer
  have failing : (discipline terms).Obeys session onError := True.intro
  refine Program.Obeys.begin failing fun now => Program.Obeys.locking failing fun _ => ?_
  apply Program.Obeys.query failing
  intro committed _
  split
  · exact ⟨failing, True.intro⟩
  apply Program.Obeys.query failing
  intro committed _
  split
  · exact ⟨failing, True.intro⟩
  refine insertOrder_obeys failing failing ⟨failing, ?_⟩
  split
  · exact processPackageGrantThen_obeys fun _ => True.intro
  · exact True.intro

theorem checkout_obeys (request : Program.CheckoutRequest) :
    (discipline terms).Obeys session (Program.checkout session request) := by
  have failing : (discipline terms).Obeys session (.done (.thrown driverError) : Program) := trivial
  apply Program.Obeys.query failing
  intro committed _
  split
  · exact True.intro
  apply Program.Obeys.query failing
  intro committed _
  split
  · exact True.intro
  · exact True.intro
  apply Program.Obeys.query failing
  intro committed _
  split
  · exact True.intro
  split
  · exact True.intro
  exact recordCheckout_obeys request _ _ _ _

theorem stackingGate_obeys {allowStacking : Bool} {accountId : RowId} {package : LessonPackage}
    {onError : Program} {owned : PackagePurchase -> Program} {next : Program}
    (failed : (discipline terms).Obeys session onError)
    (refused : ∀ row, (discipline terms).Obeys session (owned row))
    (went : (discipline terms).Obeys session next) : (discipline terms).Obeys session
      (Program.stackingGate allowStacking accountId package onError owned next) := by
  rw [Program.stackingGate]
  split
  · exact went
  apply Program.Obeys.query failed
  intro committed _
  split
  · exact ⟨failed, refused _⟩
  · exact went

theorem grantByAdmin_obeys (request : Program.AdminGrantRequest) (targetAccountId : UuidText)
    (package : LessonPackage) (targetEmail : String) : (discipline terms).Obeys session
      (Program.grantByAdmin session request targetAccountId package targetEmail) := by
  unfold Program.grantByAdmin
  extract_lets onError purchaseId duplicate owned
  have failing : (discipline terms).Obeys session onError := True.intro
  have repeated : (discipline terms).Obeys session duplicate := by
    simp only [duplicate]
    split <;> exact True.intro
  refine Program.Obeys.begin failing fun now => Program.Obeys.locking failing fun _ => ?_
  refine stackingGate_obeys failing (fun _ => True.intro) ?_
  apply Program.Obeys.dateNow failing
  intro nowMs
  apply Program.Obeys.query failing
  intro committed _
  split
  · exact True.intro
  refine insertOrder_obeys failing repeated ?_
  apply createPackagePurchase_obeys failing
  intro created
  split
  · exact allocatePackage_obeys failing ⟨failing, True.intro⟩
  · exact True.intro

theorem adminGrant_obeys (request : Program.AdminGrantRequest) :
    (discipline terms).Obeys session (Program.adminGrant session request) := by
  have failing : (discipline terms).Obeys session (.done (.thrown driverError) : Program) := trivial
  unfold Program.adminGrant
  extract_lets onError
  split
  · exact True.intro
  rename_i targetAccountId _
  generalize trimmedText 1024 request.reason = reason
  split
  · exact True.intro
  apply Program.Obeys.query failing
  intro committed _
  split
  · exact True.intro
  apply Program.Obeys.query failing
  intro committed _
  split
  · exact True.intro
  split
  · exact True.intro
  apply Program.Obeys.query failing
  intro committed _
  split
  · exact True.intro
  exact grantByAdmin_obeys request _ _ _

theorem grantByTeacher_obeys (request : Program.TeacherGrantRequest) (package : LessonPackage)
    (learnerEmail : String) (expiresAt : Nat) : (discipline terms).Obeys session
      (Program.grantByTeacher session request package learnerEmail expiresAt) := by
  unfold Program.grantByTeacher
  extract_lets onError purchaseId invoiceId owned
  have failing : (discipline terms).Obeys session onError := True.intro
  refine Program.Obeys.begin failing fun now => Program.Obeys.locking failing fun _ => ?_
  refine stackingGate_obeys failing (fun _ => True.intro) ?_
  refine insertOrder_obeys failing failing ?_
  apply createPackagePurchase_obeys failing
  intro created
  split
  · exact allocatePackage_obeys failing ⟨failing, True.intro⟩
  · exact True.intro

theorem issueTeacherPackageGrant_obeys (request : Program.TeacherGrantRequest) :
    (discipline terms).Obeys session (Program.issueTeacherPackageGrant session request) := by
  have failing : (discipline terms).Obeys session (.done (.thrown driverError) : Program) := trivial
  apply Program.Obeys.query failing
  intro committed _
  split
  · exact True.intro
  split
  · exact True.intro
  split
  · exact True.intro
  apply Program.Obeys.query failing
  intro committed _
  split
  · exact True.intro
  apply Program.Obeys.query failing
  intro committed _
  split
  · exact True.intro
  apply Program.Obeys.dateNow failing
  intro nowMs
  exact grantByTeacher_obeys request _ _ _

theorem revokeTeacherPackageGrant_obeys (invoiceId : InvoiceId) (teacherAccountId : Option RowId) :
    (discipline terms).Obeys session
      (Program.revokeTeacherPackageGrant invoiceId teacherAccountId) := by
  unfold Program.revokeTeacherPackageGrant
  extract_lets onError refuse
  have failing : (discipline terms).Obeys session onError := True.intro
  refine Program.Obeys.begin failing fun now => Program.Obeys.locking failing fun own => ?_
  split
  · exact True.intro
  split
  · exact True.intro
  split
  · exact True.intro
  split
  · exact True.intro
  apply Program.Obeys.query failing
  intro _ own
  split
  · exact True.intro
  refine Program.Obeys.locking failing fun _ => Program.Obeys.query failing fun _ own => ?_
  split
  · exact True.intro
  refine restoreAllConsumptionsForPurchase_obeys failing ?_
  refine Program.Obeys.execute failing ?_ fun _ => ⟨failing, True.intro⟩
  intro own
  refine lawful_quiet ?_ _ own
  split <;> simp [Quiet, Write.table]

theorem createAllocationReversal_obeys {row : AllocationReversal} {onError next : Program}
    (failed : (discipline terms).Obeys session onError)
    (went : (discipline terms).Obeys session next) :
    (discipline terms).Obeys session (Program.createAllocationReversal row onError next) :=
  Program.Obeys.checked failed
    (fun own _ => lawful_quiet (by simp [Quiet, Write.table]) _ own) fun _ => went

theorem recordManualRefund_obeys (operatorAccountId : RowId) (allocation : AllocationKey)
    (refundedKopecks : Nat) (reason : Option String) : (discipline terms).Obeys session
      (Program.recordManualRefund session operatorAccountId allocation refundedKopecks reason) := by
  unfold Program.recordManualRefund
  extract_lets onError refuse reversal finish
  have failing : (discipline terms).Obeys session onError := True.intro
  have finished : (discipline terms).Obeys session finish := ⟨failing, True.intro⟩
  refine Program.Obeys.begin failing fun now => Program.Obeys.locking failing fun own => ?_
  split
  · exact True.intro
  refine ⟨failing, fun _ own => ⟨Discipline.Lawful.nothing _ _, ?_⟩⟩
  beta_reduce
  extract_lets priorRefunded
  split
  · exact True.intro
  split
  · exact True.intro
  refine createAllocationReversal_obeys failing ?_
  split
  · exact finished
  · exact restoreAllConsumptionsForPurchase_obeys failing finished

theorem manualRefund_obeys (request : ManualRefundRequest) :
    (discipline terms).Obeys session (Program.manualRefund session request) := by
  have lost : (discipline terms).Obeys session (.done (.thrown driverError) : Program) := trivial
  unfold Program.manualRefund
  extract_lets refuse reason
  split
  next paymentOrderId kind targetId amount _ _ _ _ =>
    split
    · exact True.intro
    split
    · exact True.intro
    split
    · exact True.intro
    apply Program.Obeys.query lost
    intro committed _
    extract_lets provider
    split
    · exact True.intro
    split
    · exact True.intro
    exact recordManualRefund_obeys _ _ _ _
  · exact True.intro

end LevelChannel.Scheduling
