import LevelChannel.Packages.Grants
import LevelChannel.ReadCommitted.Statements
import LevelChannel.Schema.Rules

namespace LevelChannel.Stacking

open ReadCommitted Tables

/-!
# One active package at a time

A learner gets no package while another one of the same duration and teacher is active,
whichever of the four ways leads to it, and an order leads to one purchase however often
its grant is run.  The first rests on the advisory lock of account and duration, which is
taken on the text a request has for the account; the second on the unique index over
orders.
-/

def SameKind (first second : PackagePurchase) : Prop :=
  first.accountId = second.accountId ∧ first.durationMinutes = second.durationMinutes ∧
    first.teacherId = second.teacherId

/-- No purchase appears while another one of its kind is active. -/
def Unstacked (before after : Db) : Prop :=
  ∀ new, new ∈ after.purchases -> new ∉ before.purchases ->
    ∀ old, old ∈ before.purchases -> SameKind old new -> before.active old = false

def Unowned (alike : Prop) (accountId : RowId) (durationMinutes : Nat) (teacherId : RowId)
    (db : Db) : Prop :=
  alike -> ∀ old, old ∈ db.purchases -> old.accountId = accountId ->
    old.durationMinutes = durationMinutes -> old.teacherId = some teacherId ->
      db.active old = false

variable {alike : Prop} {spell : RowId -> UuidText} {db before after : Db}
  {accountId teacherId : RowId} {durationMinutes : Nat} {invoiceId : InvoiceId}

theorem unowned_of_none
    (none_active : db.learnerHasActivePackageOfDuration accountId durationMinutes teacherId = none)
    (alike : Prop) : Unowned alike accountId durationMinutes teacherId db := by
  intro _ old member account duration teacher
  rw [Db.learnerHasActivePackageOfDuration, List.head?_eq_none_iff] at none_active
  have empty := List.Perm.nil_eq (none_active ▸ List.mergeSort_perm _ _)
  by_contra active
  have chosen : old ∈ db.purchases.filter fun row =>
      row.accountId = accountId && row.durationMinutes = durationMinutes &&
        row.teacherId = some teacherId && db.active row := by
    refine List.mem_filter.mpr ⟨member, ?_⟩
    simp only [account, duration, teacher, decide_true, Bool.true_and]
    exact Bool.of_not_eq_false active
  rw [← empty] at chosen
  cases chosen

theorem active_earlier {purchase : PackagePurchase}
    (consumptions : after.consumptions = before.consumptions) (later : before.clock ≤ after.clock)
    (active : after.active purchase = true) : before.active purchase = true := by
  have remaining : after.hasRemaining purchase = before.hasRemaining purchase := by
    rw [Db.hasRemaining, Db.activeCount, consumptions]
    rfl
  simp only [Db.active, remaining, Bool.and_eq_true, decide_eq_true_eq] at active ⊢
  exact ⟨⟨active.1.1, Nat.lt_of_le_of_lt later active.1.2⟩, active.2⟩

/-! ## The contract -/

/-- A purchase that a session with these locks may add. -/
structure Adds (alike : Prop) (spell : RowId -> UuidText) (held : List Lock) (db : Db)
    (new : PackagePurchase) : Prop where
  absent : db.purchaseOfOrder? new.paymentOrderId = none
  ordered : WriteLocked held (.purchaseOfOrder new.paymentOrderId)
  locked : alike -> WriteLocked held
    (.advisory (.pkgStack (spell new.accountId) new.durationMinutes))
  alone : alike -> ∀ old, old ∈ db.purchases -> SameKind old new -> db.active old = false

/-- What a session may change: it adds at most one purchase, and leaves the others and
their units alone. -/
structure Guarded (alike : Prop) (spell : RowId -> UuidText) (held : List Lock)
    (before after : Db) : Prop where
  clock : after.clock = before.clock
  consumptions : after.consumptions = before.consumptions
  purchases : after.purchases = before.purchases ∨
    ∃ new, after.purchases = before.purchases ++ [new] ∧ Adds alike spell held before new

def contract (alike : Prop) (spell : RowId -> UuidText) : Contract Db Lock where
  Good db := Tables.Unique PackagePurchase.paymentOrderId db.purchases
  Guarantee _ := Guarded alike spell

/-- Purchases, consumptions and clock stay. -/
structure Keeps (before after : Db) : Prop where
  clock : after.clock = before.clock
  consumptions : after.consumptions = before.consumptions
  purchases : after.purchases = before.purchases

theorem Keeps.guarded (keeps : Keeps before after) (held : List Lock) :
    Guarded alike spell held before after :=
  ⟨keeps.clock, keeps.consumptions, Or.inl keeps.purchases⟩

theorem Guarded.unique {held : List Lock} (guarded : Guarded alike spell held before after)
    (unique : Tables.Unique PackagePurchase.paymentOrderId before.purchases) :
    Tables.Unique PackagePurchase.paymentOrderId after.purchases := by
  rcases guarded.purchases with same | ⟨new, added, adds⟩
  · rw [same]
    exact unique
  · rw [added]
    exact unique.insert adds.absent

theorem Guarded.kept {session : Nat} {held : List Lock}
    (guarded : Guarded alike spell held before after)
    (unique : (contract alike spell).Good before) : (contract alike spell).Good after ∧
      (contract alike spell).Guarantee session held before after :=
  ⟨guarded.unique unique, guarded⟩

theorem steady : Contract.Steady (contract alike spell) store where
  drift change db unique := by
    change Tables.Unique _ (db.drift change).purchases
    rw [(drift_untouched change db).purchases]
    exact unique
  close session held db unique :=
    have keeps : Keeps db (store.close session db) := ⟨rfl, rfl, rfl⟩
    ⟨unique, keeps.guarded held⟩

variable {session : Nat} {held : List Lock} {pending : List Write}

theorem unowned_stable (session : Nat) (teacherId : RowId)
    (locked : alike -> WriteLocked held (.advisory (.pkgStack (spell accountId) durationMinutes))) :
    (contract alike spell).Stable store session held
      (Unowned alike accountId durationMinutes teacherId) := by
  rintro before after unowned ⟨-, -, moved⟩ same old member account duration teacher
  rcases moved with ⟨change, rfl⟩ | ⟨other, theirs, -, apart, kept⟩
  · have untouched := drift_untouched change before
    rw [store_drift] at member ⊢
    rw [untouched.purchases] at member
    have was := unowned same old member account duration teacher
    by_contra active
    rw [active_earlier untouched.consumptions untouched.clock (Bool.of_not_eq_false active)] at was
    cases was
  · have stays : old ∈ before.purchases := by
      rcases kept.purchases with unchanged | ⟨new, added, adds⟩
      · exact unchanged ▸ member
      · rw [added] at member
        rcases List.mem_append.mp member with listed | newly
        · exact listed
        · -- a new purchase of this account and duration needs the lock held here
          rw [List.mem_singleton.mp newly] at account duration
          have theirLock := adds.locked same
          rw [account, duration] at theirLock
          exact absurd theirLock ((locked same).excludes apart)
    have was := unowned same old stays account duration teacher
    by_contra active
    rw [active_earlier kept.consumptions (Nat.le_of_eq kept.clock.symm)
      (Bool.of_not_eq_false active)] at was
    cases was

theorem absent_stable (alike : Prop) (spell : RowId -> UuidText) (session : Nat)
    (locked : WriteLocked held (.purchaseOfOrder invoiceId)) :
    (contract alike spell).Stable store session held
      fun now => now.purchaseOfOrder? invoiceId = none := by
  rintro before after absent ⟨-, -, ⟨change, rfl⟩ | ⟨other, theirs, -, apart, kept⟩⟩
  · rw [store_drift, Db.purchaseOfOrder?, (drift_untouched change before).purchases]
    exact absent
  · rw [Db.purchaseOfOrder?]
    rcases kept.purchases with unchanged | ⟨new, added, adds⟩
    · rw [unchanged]
      exact absent
    · by_cases same : new.paymentOrderId = invoiceId
      · exact absurd (same ▸ adds.ordered) (locked.excludes apart)
      · rw [added]
        exact (get_apply_of_ne (.insert new) fun other => same other.symm).trans absent

def Quiet (writes : List Write) : Prop :=
  ∀ write, write ∈ writes -> write.table = .orders ∨ write.table = .allocations

theorem quiet_nil : Quiet [] := fun _ member => absurd member List.not_mem_nil

theorem Quiet.keeps {writes : List Write} (quiet : Quiet writes) (db : Db) :
    Keeps db (store.applyAll db writes) := by
  induction writes generalizing db with
  | nil => exact ⟨rfl, rfl, rfl⟩
  | cons write rest extend =>
    have others := extend (fun other member => quiet other (List.mem_cons_of_mem _ member))
      (db.apply write)
    have first : Keeps db (db.apply write) := by
      have table := quiet write List.mem_cons_self
      cases write with
      | order change => exact ⟨rfl, rfl, rfl⟩
      | allocation row =>
        simp only [Db.apply, Db.allocate]
        split <;> exact ⟨rfl, rfl, rfl⟩
      | _ => simp [Write.table] at table
    exact ⟨others.clock.trans first.clock, others.consumptions.trans first.consumptions,
      others.purchases.trans first.purchases⟩

theorem guarded_adds {first rest : List Write} {new : PackagePurchase} (quietFirst : Quiet first)
    (quietRest : Quiet rest) (adds : Adds alike spell held db new) : Guarded alike spell held db
      (store.applyAll db (first ++ [.purchase (.insert new)] ++ rest)) := by
  have one := quietFirst.keeps db
  have two := quietRest.keeps ((store.applyAll db first).apply (.purchase (.insert new)))
  rw [Store.applyAll_append, Store.applyAll_append]
  refine ⟨two.clock.trans one.clock, two.consumptions.trans one.consumptions,
    Or.inr ⟨new, two.purchases.trans ?_, adds⟩⟩
  simp only [Db.apply, Change.apply, one.purchases]

/-! ## Statements -/

abbrev Safe (alike : Prop) (spell : RowId -> UuidText) (session : Nat) (program : Program)
    (held : List Lock) (pending : List Write) (db : Db) : Prop :=
  (contract alike spell).Safe store (fun _ _ => True) session program held pending db

abbrev SafeAfter (alike : Prop) (spell : RowId -> UuidText) (session : Nat)
    (program : Program) : Prop :=
  ∀ now, Safe alike spell session program [] [] now

variable {onError answer next : Program}

private theorem always_stable (session : Nat) (held : List Lock) :
    (contract alike spell).Stable store session held fun _ => True :=
  Contract.Stable.const session held True

theorem query_safe {next : Db -> Db -> Program} (failed : SafeAfter alike spell session onError)
    (went : ∀ now, Safe alike spell session (next now (store.applyAll now pending)) held
      pending now) : Safe alike spell session (Program.query onError next) held pending db :=
  Program.Safe.query _ (always_stable session held) trivial (fun now _ _ => failed now)
    fun now _ _ => went now

theorem quietCommit_safe (quiet : Quiet pending) (failed : SafeAfter alike spell session onError)
    (answered : SafeAfter alike spell session next) :
    Safe alike spell session (.commit onError next) held pending db := by
  refine Contract.Safe.commit _ (always_stable session held) trivial (fun now _ unique => ?_)
    (fun _ _ _ => answered _) (fun now _ _ => failed now) fun _ _ _ => failed _
  exact ((quiet.keeps now).guarded held).kept unique

theorem lockStack_safe {text : UuidText} (spelled : alike -> text = spell text.id)
    (failed : SafeAfter alike spell session onError) (went : ∀ held now,
      (alike -> WriteLocked held (.advisory (.pkgStack (spell text.id) durationMinutes))) ->
        Safe alike spell session next held pending now) :
    Safe alike spell session (Program.lockStack text durationMinutes onError next) held
      pending db := by
  refine Program.Safe.locking _ (always_stable session held) trivial (fun now _ _ => failed now)
    fun now _ _ => went _ now fun same => ?_
  rw [← spelled same]
  exact WriteLocked.head_update

theorem insertOrder_safe {row : PaymentOrder} {onDuplicate : Program} {P : Db -> Prop}
    (stable : (contract alike spell).Stable store session held P) (start : P db)
    (failed : SafeAfter alike spell session onError)
    (duplicate : SafeAfter alike spell session onDuplicate)
    (went : ∀ now, P now -> Safe alike spell session next
      ([(LockTarget.order row.invoiceId).forUpdate] ++ held)
        (pending ++ [.order (.insert row)]) now) :
    Safe alike spell session (Program.insertOrder row onError onDuplicate next) held pending db :=
  Program.Safe.checkedOr P stable start (fun now _ _ => failed now)
    (fun _ now _ _ => duplicate now) fun now holds _ _ => went now holds

theorem issue_safe {row : PackagePurchase} {amountKopecks : Nat} {otherwise : Program}
    (teacher : row.teacherId = some teacherId) (locked : alike -> WriteLocked held
      (.advisory (.pkgStack (spell row.accountId) row.durationMinutes)))
    (unowned : Unowned alike row.accountId row.durationMinutes teacherId db)
    (quiet : Quiet pending) (failed : SafeAfter alike spell session onError)
    (answered : SafeAfter alike spell session answer)
    (refused : ∀ more now, Safe alike spell session otherwise (more ++ held) pending now) :
    Safe alike spell session
      (Program.createPackagePurchase row onError fun created =>
        if created then Program.allocatePackage row.paymentOrderId row.id amountKopecks onError
            (.commit onError answer) else otherwise) held pending db := by
  have stable := unowned_stable session teacherId locked
  refine Program.Safe.checked _ stable unowned (fun now _ _ => failed now)
    fun now unowned _ _ => ?_
  have own : (store.applyAll now pending).purchaseOfOrder? row.paymentOrderId =
      now.purchaseOfOrder? row.paymentOrderId := by
    rw [Db.purchaseOfOrder?, (quiet.keeps now).purchases, Db.purchaseOfOrder?]
  rw [own]
  cases found : now.purchaseOfOrder? row.paymentOrderId with
  | some existing =>
    simp only [Option.isSome_some, Option.isNone_some, if_true, Bool.false_eq_true, if_false,
      List.append_nil]
    exact refused _ now
  | none =>
    simp only [Option.isSome_none, Option.isNone_none, if_true, Bool.false_eq_true, if_false]
    have entry : WriteLocked ([(LockTarget.purchase row.id).forUpdate,
        (LockTarget.purchaseOfOrder row.paymentOrderId).forUpdate,
        (LockTarget.order row.paymentOrderId).forKeyShare] ++ held)
        (.purchaseOfOrder row.paymentOrderId) :=
      WriteLocked.of_mem (by simp)
    have both := (stable.append _).and (absent_stable alike spell session entry)
    refine Program.Safe.execute _ both ⟨unowned, found⟩ (fun now _ _ => failed now)
      fun now holds _ => ?_
    refine Contract.Safe.commit _ (both.append _) holds (fun last holds unique => ?_)
      (fun _ _ _ => answered _) (fun now _ _ => failed now) fun _ _ _ => failed _
    have allocation : Quiet [Write.allocation
        ⟨⟨row.paymentOrderId, .package, .canonical row.id⟩, amountKopecks⟩] := by
      intro write member
      rw [List.mem_singleton.mp member]
      exact Or.inr rfl
    refine (guarded_adds quiet allocation ?_).kept unique
    exact
      { absent := holds.2
        ordered := entry.append _
        locked := fun same => ((locked same).append _).append _
        alone := fun same old member kind => holds.1 same old member kind.1 kind.2.1
          (kind.2.2.trans teacher) }

theorem grantPaidOrder_safe {package : LessonPackage} {packageId : RowId} {expiresAt : Nat}
    {next : String -> Program} (spelled : alike -> UuidText.canonical accountId = spell accountId)
    (answered : ∀ outcome, SafeAfter alike spell session (next outcome)) :
    SafeAfter alike spell session
      (Program.grantPaidOrder session invoiceId accountId packageId package expiresAt next) := by
  intro db
  unfold Program.grantPaidOrder
  extract_lets onError purchaseId
  apply query_safe (answered _)
  intro now
  apply lockStack_safe spelled (answered _)
  intro held now locked
  apply query_safe (answered _)
  intro now
  split
  · exact quietCommit_safe quiet_nil (answered _) (answered _)
  · apply query_safe (answered _)
    intro now
    split
    · exact quietCommit_safe quiet_nil (answered _) (answered _)
    · next none_active =>
      exact issue_safe rfl locked (unowned_of_none none_active alike) quiet_nil (answered _)
        (answered _) fun more now => quietCommit_safe quiet_nil (answered _) (answered _)

theorem processPackageGrantThen_safe {next : String -> Program}
    (spelled : alike -> ∀ id, UuidText.canonical id = spell id)
    (answered : ∀ outcome, SafeAfter alike spell session (next outcome)) :
    SafeAfter alike spell session (Program.processPackageGrantThen session invoiceId next) := by
  intro db
  unfold Program.processPackageGrantThen
  extract_lets onError
  apply query_safe (answered _)
  intro now
  split
  · exact answered _ _
  · split
    · exact answered _ _
    · apply query_safe (answered _)
      intro now
      split
      · exact answered _ _
      · split
        · exact answered _ _
        · apply query_safe (answered _)
          intro now
          split
          · exact answered _ _
          · split
            · exact answered _ _
            · split
              · exact answered _ _
              · split
                · exact answered _ _
                · apply query_safe (answered _)
                  intro now
                  split
                  · exact answered _ _
                  · apply query_safe (answered _)
                    intro now
                    exact grantPaidOrder_safe (fun same => spelled same _) answered _

theorem recordCheckout_safe {request : Program.CheckoutRequest} {packageId : RowId}
    {package : LessonPackage} {teacherAccountId : RowId} {customerEmail : Option String}
    (spelled : alike -> UuidText.canonical request.accountId = spell request.accountId)
    (mocked : alike -> request.mockConfirm = true -> ∀ id, UuidText.canonical id = spell id) :
    SafeAfter alike spell session (Program.recordCheckout session request packageId package
      teacherAccountId customerEmail) := by
  intro db
  have ended : ∀ reply, SafeAfter alike spell session (.done reply) := fun _ _ => trivial
  have order : ∀ row, Quiet ([] ++ [Write.order (.insert row)]) := by
    intro row write member
    rw [List.mem_singleton.mp member]
    exact Or.inl rfl
  unfold Program.recordCheckout
  extract_lets onError accountId invoiceId answer
  apply query_safe (ended _)
  intro now
  apply lockStack_safe spelled (ended _)
  intro held now locked
  apply query_safe (ended _)
  intro now
  split
  · exact quietCommit_safe quiet_nil (ended _) (ended _)
  · apply query_safe (ended _)
    intro now
    split
    · exact quietCommit_safe quiet_nil (ended _) (ended _)
    · apply insertOrder_safe (always_stable session _) trivial (ended _) (ended _)
      intro now _
      refine quietCommit_safe (order _) (ended _) ?_
      split
      · next confirmed =>
        rw [Bool.and_eq_true] at confirmed
        exact processPackageGrantThen_safe (fun same => mocked same confirmed.2) fun _ => ended _
      · exact ended _

theorem checkout_safe (request : Program.CheckoutRequest)
    (spelled : alike -> UuidText.canonical request.accountId = spell request.accountId)
    (mocked : alike -> request.mockConfirm = true -> ∀ id, UuidText.canonical id = spell id) :
    SafeAfter alike spell session (Program.checkout session request) := by
  intro db
  have ended : ∀ reply, SafeAfter alike spell session (.done reply) := fun _ _ => trivial
  apply query_safe (ended _)
  intro now
  split
  · trivial
  · apply query_safe (ended _)
    intro now
    split
    · trivial
    · trivial
    · apply query_safe (ended _)
      intro now
      split
      · trivial
      · split
        · trivial
        · exact recordCheckout_safe spelled mocked _

theorem stackingGate_safe {package : LessonPackage} {owned : PackagePurchase -> Program}
    (failed : SafeAfter alike spell session onError)
    (refused : ∀ purchase, SafeAfter alike spell session (owned purchase))
    (went : ∀ now, Unowned alike accountId package.durationMinutes package.teacherId now ->
      Safe alike spell session next held [] now) :
    Safe alike spell session (Program.stackingGate false accountId package onError owned next)
      held [] db := by
  unfold Program.stackingGate
  simp only [Bool.false_eq_true, if_false]
  apply query_safe failed
  intro now
  split
  · exact quietCommit_safe quiet_nil failed (refused _)
  · next none_active => exact went now (unowned_of_none none_active alike)

theorem grantByAdmin_safe {request : Program.AdminGrantRequest} {targetAccountId : UuidText}
    {package : LessonPackage} {targetEmail : String} (plain : request.allowStacking = false)
    (spelled : alike -> targetAccountId = spell targetAccountId.id) : SafeAfter alike spell session
      (Program.grantByAdmin session request targetAccountId package targetEmail) := by
  intro db
  have ended : ∀ reply, SafeAfter alike spell session (.done reply) := fun _ _ => trivial
  unfold Program.grantByAdmin
  extract_lets onError purchaseId duplicate owned
  have duplicated : SafeAfter alike spell session duplicate := by
    simp only [duplicate, plain, Bool.false_eq_true, if_false]
    exact ended _
  apply query_safe (ended _)
  intro now
  apply lockStack_safe spelled (ended _)
  intro held now locked
  rw [plain]
  apply stackingGate_safe (ended _) (fun _ => ended _)
  intro now unowned
  have stable := unowned_stable session package.teacherId locked
  refine Program.Safe.query _ stable unowned (fun _ _ _ => trivial) fun now unowned _ => ?_
  refine Program.Safe.query _ stable unowned (fun _ _ _ => trivial) fun now unowned _ => ?_
  split
  · exact Program.Safe.refused
  · apply insertOrder_safe stable unowned (ended _) duplicated
    intro now unowned
    refine issue_safe rfl (fun same => (locked same).append _) unowned ?_ (ended _) (ended _)
      fun more now => Program.Safe.refused
    intro write member
    rw [List.mem_singleton.mp member]
    exact Or.inl rfl

theorem adminGrant_safe (request : Program.AdminGrantRequest)
    (plain : request.allowStacking = false)
    (spelled : alike -> ∀ text, request.targetAccountId = some text -> text = spell text.id) :
    SafeAfter alike spell session (Program.adminGrant session request) := by
  intro db
  have ended : ∀ reply, SafeAfter alike spell session (.done reply) := fun _ _ => trivial
  unfold Program.adminGrant
  extract_lets onError
  split
  · trivial
  · next targetAccountId target =>
    split
    · trivial
    · apply query_safe (ended _)
      intro now
      split
      · trivial
      · apply query_safe (ended _)
        intro now
        split
        · trivial
        · split
          · trivial
          · apply query_safe (ended _)
            intro now
            split
            · trivial
            · exact grantByAdmin_safe plain (fun same => spelled same _ target) _

theorem grantByTeacher_safe {request : Program.TeacherGrantRequest} {package : LessonPackage}
    {learnerEmail : String} {expiresAt : Nat} (plain : request.allowStacking = false)
    (spelled : alike -> request.learnerAccountId = spell request.learnerAccountId.id) :
    SafeAfter alike spell session
      (Program.grantByTeacher session request package learnerEmail expiresAt) := by
  intro db
  have ended : ∀ reply, SafeAfter alike spell session (.done reply) := fun _ _ => trivial
  unfold Program.grantByTeacher
  extract_lets onError purchaseId invoiceId owned
  apply query_safe (ended _)
  intro now
  apply lockStack_safe spelled (ended _)
  intro held now locked
  rw [plain]
  apply stackingGate_safe (ended _) (fun _ => ended _)
  intro now unowned
  have stable := unowned_stable session package.teacherId locked
  apply insertOrder_safe stable unowned (ended _) (ended _)
  intro now unowned
  refine issue_safe rfl (fun same => (locked same).append _) unowned ?_ (ended _) (ended _)
    fun more now => Program.Safe.refused
  intro write member
  rw [List.mem_singleton.mp member]
  exact Or.inl rfl

theorem issueTeacherPackageGrant_safe (request : Program.TeacherGrantRequest)
    (plain : request.allowStacking = false)
    (spelled : alike -> request.learnerAccountId = spell request.learnerAccountId.id) :
    SafeAfter alike spell session (Program.issueTeacherPackageGrant session request) := by
  intro db
  have ended : ∀ reply, SafeAfter alike spell session (.done reply) := fun _ _ => trivial
  unfold Program.issueTeacherPackageGrant
  extract_lets onError answer
  apply query_safe (ended _)
  intro now
  split
  · trivial
  · split
    · trivial
    · split
      · trivial
      · apply query_safe (ended _)
        intro now
        split
        · trivial
        · apply query_safe (ended _)
          intro now
          split
          · trivial
          · apply query_safe (ended _)
            intro now
            exact grantByTeacher_safe plain spelled _

/-! ## Runs -/

inductive Request where
  | checkout (request : Program.CheckoutRequest)
  | processPackageGrant (invoiceId : InvoiceId)
  | adminGrant (request : Program.AdminGrantRequest)
  | issueTeacherPackageGrant (request : Program.TeacherGrantRequest)

namespace Request

def program (session : Nat) : Request -> Program
  | .checkout request => .checkout session request
  | .processPackageGrant invoiceId => .processPackageGrant session invoiceId
  | .adminGrant request => .adminGrant session request
  | .issueTeacherPackageGrant request => .issueTeacherPackageGrant session request

def allowsStacking : Request -> Bool
  | .adminGrant request => request.allowStacking
  | .issueTeacherPackageGrant request => request.allowStacking
  | _ => false

/-- The request locks an account under this spelling of its id.  The learner's own
checkout and the grant of a paid order use the spelling of the database. -/
def Spells (spell : RowId -> UuidText) : Request -> Prop
  | .checkout request => UuidText.canonical request.accountId = spell request.accountId ∧
      (request.mockConfirm = true -> ∀ id, UuidText.canonical id = spell id)
  | .processPackageGrant _ => ∀ id, UuidText.canonical id = spell id
  | .adminGrant request => ∀ text, request.targetAccountId = some text -> text = spell text.id
  | .issueTeacherPackageGrant request =>
    request.learnerAccountId = spell request.learnerAccountId.id

end Request

def SpelledAlike (requests : Nat -> Request) : Prop :=
  ∃ spell, ∀ session, (requests session).Spells spell

def opening (db : Db) (requests : Nat -> Request) : State :=
  State.start db fun session => (requests session).program session

theorem request_safe (request : Request) (plain : request.allowsStacking = false)
    (spelled : alike -> request.Spells spell) :
    SafeAfter alike spell session (request.program session) := by
  cases request with
  | checkout request =>
    exact checkout_safe request (fun same => (spelled same).1) fun same => (spelled same).2
  | processPackageGrant invoiceId =>
    have ended : ∀ outcome, SafeAfter alike spell session (.done (.returned outcome [])) :=
      fun _ _ => trivial
    exact processPackageGrantThen_safe spelled ended
  | adminGrant request => exact adminGrant_safe request plain spelled
  | issueTeacherPackageGrant request =>
    exact issueTeacherPackageGrant_safe request plain spelled

private theorem unstacked_of_same (same : after.purchases = before.purchases) :
    Unstacked before after := by
  intro new member absent
  exact absurd (same ▸ member) absent

theorem Guarded.unstacked (guarded : Guarded alike spell held before after) (same : alike) :
    Unstacked before after := by
  rcases guarded.purchases with unchanged | ⟨new, added, adds⟩
  · exact unstacked_of_same unchanged
  · intro purchase member absent
    rw [added] at member
    rcases List.mem_append.mp member with old | newly
    · exact absurd old absent
    · rw [List.mem_singleton.mp newly]
      exact adds.alone same

theorem sound_of_reaches {requests : Nat -> Request} (alike : Prop) (spell : RowId -> UuidText)
    (plain : ∀ session, (requests session).allowsStacking = false)
    (spelled : alike -> ∀ session, (requests session).Spells spell)
    (unique : Tables.Unique PackagePurchase.paymentOrderId db.purchases) {middle last : State}
    (reached : Reaches store (fun _ _ => True) (opening db requests) middle) (event : Event)
    (stepped : step store middle event = some last) : (alike -> Unstacked middle.db last.db) ∧
      Tables.Unique PackagePurchase.paymentOrderId last.db.purchases := by
  have sound : Contract.Sound (contract alike spell) store (fun _ _ => True)
      (opening db requests) :=
    Contract.Sound.start unique fun session =>
      request_safe (requests session) (plain session) (fun same => spelled same session) db
  have soundMiddle := (sound.reaches steady reached).1
  rcases soundMiddle.step steady event (permitted_always middle event) stepped with
    ⟨soundLast, -, -, moved⟩
  refine ⟨fun same => ?_, soundLast.good⟩
  rcases moved with unchanged | ⟨change, drifted⟩ | ⟨session, held, guarded⟩
  · exact unstacked_of_same (by rw [unchanged])
  · rw [drifted, store_drift]
    exact unstacked_of_same (drift_untouched change middle.db).purchases
  · exact guarded.unstacked same

/-- Whatever a step of a run adds, orders have one purchase each; and, if the run spells
accounts alike, no purchase is added while another one of its kind is active. -/
theorem packages_unstacked (db : Db) (requests : Nat -> Request)
    (unique : Tables.Unique PackagePurchase.paymentOrderId db.purchases)
    (plain : ∀ session, (requests session).allowsStacking = false) (middle last : State)
    (reached : Reaches store (fun _ _ => True) (opening db requests) middle) (event : Event)
    (stepped : step store middle event = some last) :
    (SpelledAlike requests -> Unstacked middle.db last.db) ∧
      Tables.Unique PackagePurchase.paymentOrderId last.db.purchases := by
  have always := sound_of_reaches False UuidText.canonical plain (fun none => none.elim) unique
    reached event stepped
  refine ⟨?_, always.2⟩
  rintro ⟨spell, alike⟩
  exact (sound_of_reaches True spell plain (fun _ => alike) unique reached event stepped).1 trivial

def packageCatalog : Catalog :=
  { Catalog.empty with
    linked := fun _ _ => true
    accountEmail := fun _ => some "learner@example.test"
    package := fun _ => some
      { slug := "ten"
        titleRu := "10"
        teacherId := .seeded 1
        durationMinutes := 60
        lessonCount := 10
        amountKopecks := 1000000
        isActive := true
        isPrivate := false } }

def packageDb : Db :=
  { Db.empty with catalog := packageCatalog }

def grantSpelled (spelling : Nat) : Request :=
  .issueTeacherPackageGrant
    { teacherAccountId := .seeded 1
      learnerAccountId := ⟨.seeded 2, spelling⟩
      packageId := .seeded 4
      allowStacking := false }

/-- The last step adds a purchase of an account, a duration and a teacher that have an
active one. -/
def stacking (before after : Db) : Bool :=
  after.purchases.any fun new => !before.purchases.contains new &&
    before.purchases.any fun old => old.accountId = new.accountId &&
      old.durationMinutes = new.durationMinutes && old.teacherId = new.teacherId &&
        before.active old

/-- The two requests lock different keys, and neither sees the other's purchase. -/
theorem packages_stacked :
    ¬ ∀ (db : Db) (requests : Nat -> Request) (middle last : State) (event : Event),
      Tables.Unique PackagePurchase.paymentOrderId db.purchases ->
        (∀ session, (requests session).allowsStacking = false) ->
          Reaches store (fun _ _ => True) (opening db requests) middle ->
            step store middle event = some last -> Unstacked middle.db last.db := by
  intro unstacked
  let steps (session count : Nat) : List Event := Event.steps session count (.unsent "")
  let event : Event := .run 1 (.unsent "")
  rcases exists_state_of_play store (opening packageDb grantSpelled)
    (steps 0 7 ++ steps 1 7 ++ steps 0 4 ++ steps 1 3)
    (fun state => (step store state event).any fun last => stacking state.db last.db)
    (by decide +kernel) with ⟨middle, reached, stacked⟩
  rcases (Option.any_eq_true _ _).mp stacked with ⟨last, stepped, stacked⟩
  have none_stacked := unstacked packageDb grantSpelled middle last event List.nodup_nil
    (fun _ => rfl) reached stepped
  simp only [stacking, List.any_eq_true, Bool.and_eq_true, Bool.not_eq_true', decide_eq_true_eq,
    List.contains_eq_mem, decide_eq_false_iff_not] at stacked
  rcases stacked with ⟨new, added, absent, old, listed, ⟨⟨account, duration⟩, teacher⟩, active⟩
  rw [none_stacked new added absent old listed ⟨account, duration, teacher⟩] at active
  cases active

def grantedOnce : Nat -> Request
  | 0 => grantSpelled 0
  | _ => .processPackageGrant (.generated (.minted 0 0))

theorem packages_unstacked_granted :
    ∃ middle last, Reaches store (fun _ _ => True) (opening packageDb grantedOnce) middle ∧
      step store middle (.run 0 (.unsent "")) = some last ∧ middle.db.purchases = [] ∧
        last.db.purchases.length = 1 ∧ Unstacked middle.db last.db := by
  let event : Event := .run 0 (.unsent "")
  rcases exists_state_of_play store (opening packageDb grantedOnce)
    (Event.steps 0 10 (.unsent ""))
    (fun state => state.db.purchases = [] &&
      (step store state event).any fun last => last.db.purchases.length = 1)
    (by decide +kernel) with ⟨middle, reached, granted⟩
  rw [Bool.and_eq_true, decide_eq_true_eq] at granted
  rcases (Option.any_eq_true _ _).mp granted.2 with ⟨last, stepped, one⟩
  have plain : ∀ session, (grantedOnce session).allowsStacking = false := by
    intro session
    match session with
    | 0 => rfl
    | _ + 1 => rfl
  have alike : SpelledAlike grantedOnce := by
    refine ⟨UuidText.canonical, fun session => ?_⟩
    match session with
    | 0 => rfl
    | _ + 1 => exact fun _ => rfl
  exact ⟨middle, last, reached, stepped, granted.1, of_decide_eq_true one,
    (packages_unstacked packageDb grantedOnce List.nodup_nil plain middle last reached event
      stepped).1 alike⟩

end LevelChannel.Stacking
