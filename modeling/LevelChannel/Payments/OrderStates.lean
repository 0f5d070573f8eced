import LevelChannel.Payments.Orders

namespace LevelChannel

open ReadCommitted Tables Relation

namespace Payments

/-!
# The states of an order

Webhooks come twice, late and contradicting each other, while the browser confirms a 3-D
Secure payment and the hourly job gives up on orders.  Every writer but the creation of an
order decides on a row that it holds locked, so one comparison of two rows covers them all.
-/

/-! ## What may become of a row -/

/-- A row, and what has become of it. -/
structure Later (row later : CardOrder) : Prop where
  paid : row.status = .paid -> later.status = .paid ∧
    later.paidAt.map wholeSecond = row.paidAt.map wholeSecond ∧
      later.providerTransactionId = row.providerTransactionId
  failed : row.status = .failed -> later.status = .failed ∨ later.status = .paid
  pending : later.status = .pending -> row.status = .pending

theorem Later.refl (row : CardOrder) : Later row row :=
  ⟨fun paid => ⟨paid, rfl, rfl⟩, Or.inl, id⟩

theorem Later.trans {row middle later : CardOrder} (one : Later row middle)
    (two : Later middle later) : Later row later where
  paid paid := by
    rcases one.paid paid with ⟨stays, time, transaction⟩
    rcases two.paid stays with ⟨last, timeToo, transactionToo⟩
    exact ⟨last, timeToo.trans time, transactionToo.trans transaction⟩
  failed failed := by
    rcases one.failed failed with still | paid
    · exact two.failed still
    · exact Or.inr (two.paid paid).1
  pending pending := one.pending (two.pending pending)

theorem Later.of_open {row later : CardOrder} (unpaid : row.status ≠ .paid)
    (unfailed : row.status ≠ .failed) (moved : later.status ≠ .pending) : Later row later :=
  ⟨fun paid => absurd paid unpaid, fun failed => absurd failed unfailed,
    fun pending => absurd pending moved⟩

@[simp] theorem wholeSecond_wholeSecond (time : Nat) :
    wholeSecond (wholeSecond time) = wholeSecond time := by
  simp [wholeSecond]

@[simp] theorem nonempty_nonempty (text : Option String) :
    nonempty (nonempty text) = nonempty text := by
  simp [nonempty, Option.filter_filter]

section Reading

variable {row : CardOrder}

@[simp] theorem mapRowToOrder_events : (mapRowToOrder row).events = row.events := rfl

@[simp] theorem toInsertValues_events : (toInsertValues row).events = row.events := rfl

/-- No text of the row is empty. -/
def Clean (row : CardOrder) : Prop :=
  nonempty row.providerTransactionId = row.providerTransactionId

theorem clean_toInsertValues (row : CardOrder) : Clean (toInsertValues row) :=
  nonempty_nonempty row.providerTransactionId

theorem later_mapRowToOrder (clean : Clean row) : Later row (mapRowToOrder row) where
  paid paid := by
    refine ⟨paid, ?_, clean⟩
    simp only [mapRowToOrder, Option.map_map]
    exact congrArg (fun cut => row.paidAt.map cut) (funext wholeSecond_wholeSecond)
  failed := Or.inl
  pending := id

theorem later_toInsertValues {order : CardOrder} (clean : Clean row)
    (later : Later (mapRowToOrder row) order) : Later row (toInsertValues order) := by
  have read := later_mapRowToOrder clean
  have whole := read.trans later
  refine ⟨fun paid => ?_, whole.failed, whole.pending⟩
  rcases whole.paid paid with ⟨stays, time, transaction⟩
  refine ⟨stays, time, ?_⟩
  rw [show (toInsertValues order).providerTransactionId = nonempty order.providerTransactionId
    from rfl, transaction]
  exact clean

end Reading

namespace OrderUpdate

/-- An updater keeps the order apart from what may become of it, marks as paid only what is
not paid yet, and puts its event in front of the others. -/
structure Lawful (updater : OrderUpdate) : Prop where
  invoiceId : ∀ now order, (updater.update now order).invoiceId = order.invoiceId
  later : ∀ now order, Later order (updater.update now order)
  paid : ∀ now order, updater.event order = .paid ->
    order.status ≠ .paid ∧ (updater.update now order).status = .paid
  logged : ∀ now order, ∃ event : OrderEvent, event.type = updater.event order ∧
    (updater.update now order).events = (event :: order.events).take 50

theorem later_appendEvent (order : CardOrder) (type : OrderEventType) (payload : EventPayload)
    (now : Nat) : Later order (appendEvent order type payload now) :=
  ⟨fun paid => ⟨paid, rfl, rfl⟩, Or.inl, id⟩

variable (payload : EventPayload)

theorem paid_lawful (detected : Option DetectedMethod) : (paid payload detected).Lawful where
  invoiceId now order := by
    simp only [paid]
    split <;> rfl
  later now order := by
    simp only [paid]
    split
    · exact later_appendEvent ..
    · next unpaid =>
      exact ⟨fun paid => absurd paid unpaid, fun _ => Or.inr rfl, fun pending => by cases pending⟩
  paid now order event := by
    simp only [paid] at event ⊢
    split at event
    · cases event
    · next unpaid =>
      rw [if_neg unpaid]
      exact ⟨unpaid, rfl⟩
  logged now order := by
    simp only [paid]
    split
    · exact ⟨_, rfl, rfl⟩
    · exact ⟨_, rfl, rfl⟩

theorem failed_lawful : (failed payload).Lawful where
  invoiceId now order := by
    simp only [failed]
    split
    · rfl
    · split <;> rfl
  later now order := by
    simp only [failed]
    split
    · exact later_appendEvent ..
    · next unpaid =>
      split
      · exact later_appendEvent ..
      · next unfailed => exact Later.of_open unpaid unfailed (by simp [appendEvent])
  paid now order event := by
    simp only [failed] at event
    split at event
    · cases event
    · split at event <;> cases event
  logged now order := by
    simp only [failed]
    split
    · exact ⟨_, rfl, rfl⟩
    · split
      · exact ⟨_, rfl, rfl⟩
      · exact ⟨_, rfl, rfl⟩

theorem cancelled_lawful : (cancelled payload).Lawful where
  invoiceId now order := by
    simp only [cancelled]
    split
    · rfl
    · split
      · rfl
      · split <;> rfl
  later now order := by
    simp only [cancelled]
    split
    · exact later_appendEvent ..
    · next unpaid =>
      split
      · exact later_appendEvent ..
      · split
        · exact later_appendEvent ..
        · next unfailed => exact Later.of_open unpaid unfailed (by simp [appendEvent])
  paid now order event := by
    simp only [cancelled] at event
    split at event
    · cases event
    · split at event
      · cases event
      · split at event <;> cases event
  logged now order := by
    simp only [cancelled]
    split
    · exact ⟨_, rfl, rfl⟩
    · split
      · exact ⟨_, rfl, rfl⟩
      · split
        · exact ⟨_, rfl, rfl⟩
        · exact ⟨_, rfl, rfl⟩

theorem requiresThreeDs_lawful (transactionId : String) :
    (requiresThreeDs transactionId).Lawful where
  invoiceId _ _ := rfl
  later _ order := ⟨fun paid => ⟨paid, rfl, rfl⟩, Or.inl, id⟩
  paid _ _ event := by cases event
  logged _ _ := ⟨_, rfl, rfl⟩

theorem threeDsError_lawful (message : String) : (threeDsError message).Lawful where
  invoiceId _ _ := rfl
  later _ order := later_appendEvent ..
  paid _ _ event := by cases event
  logged _ _ := ⟨_, rfl, rfl⟩

end OrderUpdate

/-! ## The contract -/

namespace OrderDb

variable {before db after : OrderDb} {invoiceId : InvoiceId}

def timesPaid (db : OrderDb) (invoiceId : InvoiceId) : Nat :=
  db.appended.count (invoiceId, .paid)

def paidEvents (row : CardOrder) : Nat :=
  row.events.countP fun event => event.type = .paid

/-- An order was marked as paid at most once, and is paid if it was. -/
structure Consistent (db : OrderDb) : Prop where
  unique : Unique CardOrder.invoiceId db.orders
  clean : ∀ row, row ∈ db.orders -> Clean row
  once : ∀ invoiceId, db.timesPaid invoiceId ≤ 1
  paid : ∀ invoiceId, 0 < db.timesPaid invoiceId ->
    ∃ row, db.order? invoiceId = some row ∧ row.status = .paid
  logged : ∀ row, row ∈ db.orders -> paidEvents row ≤ db.timesPaid row.invoiceId

/-- No row is lost, and each has become what it may. -/
def Preserves (before after : OrderDb) : Prop :=
  ∀ invoiceId row, before.order? invoiceId = some row ->
    ∃ later, after.order? invoiceId = some later ∧ Later row later

/-- Only the rows that are locked change. -/
def Respects (held : List InvoiceId) (before after : OrderDb) : Prop :=
  ∀ invoiceId, invoiceId ∉ held -> after.order? invoiceId = before.order? invoiceId

theorem Preserves.refl (db : OrderDb) : Preserves db db :=
  fun _ row read => ⟨row, read, Later.refl row⟩

theorem Preserves.trans (one : Preserves before db) (two : Preserves db after) :
    Preserves before after := by
  intro invoiceId row read
  rcases one invoiceId row read with ⟨middle, readMiddle, later⟩
  rcases two invoiceId middle readMiddle with ⟨last, readLast, laterToo⟩
  exact ⟨last, readLast, later.trans laterToo⟩

/-- Writes that leave the orders and what was appended to them alone. -/
structure SameOrders (before after : OrderDb) : Prop where
  orders : after.orders = before.orders
  appended : after.appended = before.appended

theorem SameOrders.order? (same : SameOrders before after) :
    after.order? invoiceId = before.order? invoiceId :=
  congrArg (fun rows => get CardOrder.invoiceId rows invoiceId) same.orders

theorem SameOrders.consistent (same : SameOrders before after) (consistent : Consistent before) :
    Consistent after := by
  have times : ∀ invoiceId, after.timesPaid invoiceId = before.timesPaid invoiceId :=
    fun invoiceId => congrArg (fun log => log.count (invoiceId, .paid)) same.appended
  refine ⟨same.orders ▸ consistent.unique, same.orders ▸ consistent.clean,
    fun invoiceId => (times invoiceId).symm ▸ consistent.once invoiceId,
    fun invoiceId some => ?_, fun row member => ?_⟩
  · rw [times] at some
    rw [same.order?]
    exact consistent.paid invoiceId some
  · rw [times]
    exact consistent.logged row (same.orders ▸ member)

theorem SameOrders.preserves (same : SameOrders before after) : Preserves before after :=
  fun _ row read => ⟨row, same.order?.trans read, Later.refl row⟩

theorem SameOrders.respects (same : SameOrders before after) (held : List InvoiceId) :
    Respects held before after :=
  fun _ _ => same.order?

/-- A locked row and the event that goes with its new value. -/
structure Rewrite (db : OrderDb) (row written : CardOrder) (type : OrderEventType) : Prop where
  read : db.order? row.invoiceId = some row
  invoiceId : written.invoiceId = row.invoiceId
  later : Later row written
  clean : Clean written
  paid : type = .paid -> row.status ≠ .paid ∧ written.status = .paid
  logged : paidEvents written ≤ paidEvents row + if type = .paid then 1 else 0

variable {row written : CardOrder} {type : OrderEventType}

def rewritten (db : OrderDb) (written : CardOrder) (type : OrderEventType) : OrderDb :=
  (db.apply (.order (.replace written))).apply (.appended written.invoiceId type)

theorem timesPaid_rewritten (wanted : InvoiceId) : (db.rewritten written type).timesPaid wanted =
      db.timesPaid wanted + if written.invoiceId = wanted ∧ type = .paid then 1 else 0 := by
  simp only [timesPaid, rewritten, apply, List.count_cons, beq_iff_eq, Prod.mk.injEq]

theorem Rewrite.order?_self (rewrite : Rewrite db row written type) :
    (db.rewritten written type).order? row.invoiceId = some written := by
  rw [← rewrite.invoiceId]
  exact get_replace_self written (rewrite.invoiceId.symm ▸ rewrite.read)

theorem Rewrite.order?_of_ne (rewrite : Rewrite db row written type) {wanted : InvoiceId}
    (different : wanted ≠ row.invoiceId) :
    (db.rewritten written type).order? wanted = db.order? wanted :=
  get_replace_of_ne written (rewrite.invoiceId.symm ▸ different)

theorem Rewrite.unmarked (rewrite : Rewrite db row written type) (consistent : Consistent db)
    (marks : type = .paid) : db.timesPaid row.invoiceId = 0 := by
  by_contra marked
  rcases consistent.paid row.invoiceId (Nat.pos_of_ne_zero marked) with ⟨other, read, paid⟩
  rw [rewrite.read] at read
  injection read with same
  exact (rewrite.paid marks).1 (same ▸ paid)

theorem Rewrite.consistent (rewrite : Rewrite db row written type)
    (consistent : Consistent db) : Consistent (db.rewritten written type) where
  unique := consistent.unique.replace written
  clean other member := by
    rcases mem_replace member with rfl | ⟨old, -⟩
    · exact rewrite.clean
    · exact consistent.clean other old
  once wanted := by
    rw [timesPaid_rewritten]
    split
    · next marks =>
      have unmarked := rewrite.unmarked consistent marks.2
      rw [← marks.1, rewrite.invoiceId]
      omega
    · exact consistent.once wanted
  paid wanted marked := by
    by_cases same : wanted = row.invoiceId
    · subst same
      refine ⟨written, rewrite.order?_self, ?_⟩
      by_cases marks : type = .paid
      · exact (rewrite.paid marks).2
      · rw [timesPaid_rewritten, if_neg fun both => marks both.2, Nat.add_zero] at marked
        rcases consistent.paid row.invoiceId marked with ⟨other, read, paid⟩
        rw [rewrite.read] at read
        injection read with same
        exact (rewrite.later.paid (same ▸ paid)).1
    · rw [timesPaid_rewritten, if_neg, Nat.add_zero] at marked
      · rw [rewrite.order?_of_ne same]
        exact consistent.paid wanted marked
      · exact fun both => same (both.1.symm.trans rewrite.invoiceId)
  logged other member := by
    rw [timesPaid_rewritten]
    rcases mem_replace member with rfl | ⟨old, different⟩
    · have before := consistent.logged row (mem_of_get rewrite.read)
      have now := rewrite.logged
      simp only [true_and]
      rw [rewrite.invoiceId]
      omega
    · rw [if_neg fun both => different both.1.symm, Nat.add_zero]
      exact consistent.logged other old

theorem Rewrite.preserves (rewrite : Rewrite db row written type) :
    Preserves db (db.rewritten written type) := by
  intro invoiceId other read
  by_cases same : invoiceId = row.invoiceId
  · subst same
    rw [rewrite.read] at read
    injection read with same
    exact ⟨written, rewrite.order?_self, same ▸ rewrite.later⟩
  · exact ⟨other, (rewrite.order?_of_ne same).trans read, Later.refl other⟩

theorem Rewrite.respects (rewrite : Rewrite db row written type) {held : List InvoiceId}
    (locked : row.invoiceId ∈ held) : Respects held db (db.rewritten written type) :=
  fun _ free => rewrite.order?_of_ne fun same => free (same ▸ locked)

theorem Consistent.insert (order : CardOrder) (consistent : Consistent db) (clean : Clean order)
    (fresh : paidEvents order = 0) (absent : db.order? order.invoiceId = none) :
    Consistent (db.apply (.order (.insert order))) where
  unique := consistent.unique.insert absent
  clean row member := by
    rcases (mem_insert CardOrder.invoiceId).mp member with old | rfl
    · exact consistent.clean row old
    · exact clean
  once := consistent.once
  paid invoiceId marked := by
    rcases consistent.paid invoiceId marked with ⟨row, read, paid⟩
    exact ⟨row, get_insert_of_some order read, paid⟩
  logged row member := by
    rcases (mem_insert CardOrder.invoiceId).mp member with old | rfl
    · exact consistent.logged row old
    · rw [fresh]
      exact Nat.zero_le _

theorem preserves_insert (order : CardOrder) : Preserves db (db.apply (.order (.insert order))) :=
  fun _ row read => ⟨row, get_insert_of_some order read, Later.refl row⟩

theorem respects_insert {order : CardOrder} {held : List InvoiceId}
    (locked : order.invoiceId ∈ held) : Respects held db (db.apply (.order (.insert order))) := by
  intro invoiceId free
  have different : order.invoiceId ≠ invoiceId := fun same => free (same ▸ locked)
  refine (get_insert order).trans ?_
  rw [if_neg different, Option.or_none]
  rfl

end OrderDb

def OrderWrite.Outside : OrderWrite -> Prop
  | .order _ => False
  | .appended .. => False
  | _ => True

theorem OrderDb.sameOrders_applyAll (db : OrderDb) (writes : List OrderWrite)
    (outside : ∀ write, write ∈ writes -> write.Outside) :
    SameOrders db (orderStore.applyAll db writes) := by
  induction writes generalizing db with
  | nil => exact ⟨rfl, rfl⟩
  | cons write rest extend =>
    have later := extend (db.apply write) fun other member =>
      outside other (List.mem_cons_of_mem _ member)
    have once : SameOrders db (db.apply write) := by
      have free := outside write List.mem_cons_self
      cases write <;> first | exact absurd free id | exact ⟨rfl, rfl⟩
    exact ⟨later.orders.trans once.orders, later.appended.trans once.appended⟩

theorem newCardOrder_paidEvents {invoiceId : InvoiceId} {now amountKopecks : Nat}
    {customerEmail : String} {rememberCard : Bool} {more : List OrderEventType}
    (unpaid : .paid ∉ more) : OrderDb.paidEvents
      (newCardOrder invoiceId now amountKopecks customerEmail rememberCard more) = 0 := by
  simp only [OrderDb.paidEvents, newCardOrder, List.countP_eq_zero, List.mem_append,
    List.mem_cons, List.mem_map, List.not_mem_nil, or_false, decide_eq_true_eq]
  rintro event ((rfl | rfl) | ⟨type, member, rfl⟩)
  · exact fun same => by cases same
  · exact fun same => by cases same
  · exact fun same => unpaid (same ▸ member)

theorem cancelStale_rewrite {db : OrderDb} {invoiceId : InvoiceId} {row : CardOrder}
    (consistent : db.Consistent) (read : db.order? invoiceId = some row)
    (pending : row.status = .pending) (startedAt : Nat) :
    db.Rewrite row (cancelStale startedAt row) .cancelled where
  read := (key_of_get read).symm ▸ read
  invoiceId := rfl
  later := Later.of_open (by simp [pending]) (by simp [pending]) (by simp [cancelStale])
  clean := consistent.clean row (mem_of_get read)
  paid event := by cases event
  logged := by simp [OrderDb.paidEvents, cancelStale]

/-- Orders are changed under their locks, and become only what they may. -/
def orderContract : Contract OrderDb InvoiceId where
  Good := OrderDb.Consistent
  Guarantee _ held before after :=
    OrderDb.Preserves before after ∧ OrderDb.Respects held before after

/-! ## What the programs do -/

theorem orderContract_steady : orderContract.Steady orderStore where
  drift passed db consistent := by
    have same : OrderDb.SameOrders db (orderStore.drift passed db) := ⟨rfl, rfl⟩
    exact same.consistent consistent
  close session held db consistent := by
    have same : OrderDb.SameOrders db (db.answered session) := ⟨rfl, rfl⟩
    exact ⟨same.consistent consistent, same.preserves, same.respects held⟩

section Programs

open Contract

variable {permits : OrderLabel -> OrderDb -> Prop} {session : Nat} {held : List InvoiceId}
  {invoiceId : InvoiceId} {db : OrderDb} {onError : OrderProgram}

theorem stable_order (locked : invoiceId ∈ held) (read : Option CardOrder) :
    Stable orderContract orderStore session held fun db => db.order? invoiceId = read := by
  rintro before after same ⟨-, -, ⟨passed, rfl⟩ | ⟨other, theirs, -, apart, -, respects⟩⟩
  · exact same
  · have free : invoiceId ∉ theirs := apart.not_mem locked (decide_eq_true rfl)
    exact (respects invoiceId free).trans same

private abbrev anywhere (_ : OrderDb) : Prop := True

private theorem stable_anywhere (session : Nat) (held : List InvoiceId) :
    Stable orderContract orderStore session held anywhere :=
  Stable.const session held True

theorem OrderUpdate.Lawful.rewrite {updater : OrderUpdate} (lawful : updater.Lawful)
    (consistent : db.Consistent) {row : CardOrder} (read : db.order? invoiceId = some row)
    (now : Nat) : db.Rewrite row (toInsertValues (updater.update now (mapRowToOrder row)))
      (updater.event (mapRowToOrder row)) where
  read := (key_of_get read).symm ▸ read
  invoiceId := lawful.invoiceId now (mapRowToOrder row)
  later := later_toInsertValues (consistent.clean row (mem_of_get read))
    (lawful.later now (mapRowToOrder row))
  clean := clean_toInsertValues _
  paid := lawful.paid now (mapRowToOrder row)
  logged := by
    rcases lawful.logged now (mapRowToOrder row) with ⟨event, type, events⟩
    rw [OrderDb.paidEvents, toInsertValues_events, events, ← type]
    have counted := List.Sublist.countP_le (p := fun event : OrderEvent => event.type = .paid)
      (List.take_sublist 50 (event :: row.events))
    rw [List.countP_cons] at counted
    simpa only [decide_eq_true_eq, mapRowToOrder_events, OrderDb.paidEvents] using counted

theorem safe_updateOrder {updater : OrderUpdate} (lawful : updater.Lawful)
    {next : Option CardOrder -> OrderProgram} (failed : ∀ now : OrderDb, now.Consistent ->
      orderContract.Safe orderStore permits session onError [] [] now)
    (went : ∀ result now, OrderDb.Consistent now ->
      orderContract.Safe orderStore permits session (next result) [] [] now) :
    orderContract.Safe orderStore permits session (updateOrder invoiceId updater onError next)
      [] [] db := by
  refine Safe.reading anywhere (stable_anywhere _ _) trivial failed fun now _ _ _ => ?_
  refine Safe.acquiring anywhere (stable_anywhere _ _) trivial failed fun now _ _ _ => ?_
  cases read : now.order? invoiceId with
  | none => exact Safe.rollback anywhere (stable_anywhere _ _) trivial fun now _ => went none now
  | some row =>
    have locked : invoiceId ∈ [invoiceId] ++ [] := List.mem_cons_self
    have stable : Stable orderContract orderStore session ([invoiceId] ++ [])
        fun db => db.order? invoiceId = some row := stable_order locked (some row)
    refine Safe.writing _ stable read failed fun later holds _ _ => ?_
    let written := toInsertValues (updater.update now.clock (mapRowToOrder row))
    have keyed : row.invoiceId = invoiceId := key_of_get read
    have named : written.invoiceId = invoiceId :=
      (lawful.invoiceId now.clock (mapRowToOrder row)).trans keyed
    have kept : ∀ later : OrderDb, later.order? invoiceId = some row -> later.Consistent ->
        orderContract.Good (orderStore.applyAll later [.order (.replace written),
            .appended invoiceId (updater.event (mapRowToOrder row))]) ∧
          orderContract.Guarantee session ([invoiceId] ++ []) later
            (orderStore.applyAll later [.order (.replace written),
              .appended invoiceId (updater.event (mapRowToOrder row))]) := by
      intro later holds good
      have rewrite := lawful.rewrite good holds now.clock
      rw [← named]
      refine ⟨rewrite.consistent good, rewrite.preserves, rewrite.respects ?_⟩
      rw [named, keyed]
      exact locked
    exact Safe.commit _ stable holds kept
      (fun later holds good => went _ _ (kept later holds good).1)
      (fun later _ good => failed later good)
      (fun later holds good => failed _ (kept later holds good).1)

theorem safe_createOrder {amountKopecks : Nat} {customerEmail : String} {rememberCard : Bool}
    {more : List OrderEventType} (unpaid : .paid ∉ more) {next : CardOrder -> OrderProgram}
    (failed : ∀ now : OrderDb, now.Consistent ->
      orderContract.Safe orderStore permits session onError [] [] now)
    (went : ∀ order now, OrderDb.Consistent now ->
      orderContract.Safe orderStore permits session (next order) [] [] now) :
    orderContract.Safe orderStore permits session
      (createOrder invoiceId amountKopecks customerEmail rememberCard more onError next)
      [] [] db := by
  refine Safe.reading anywhere (stable_anywhere _ _) trivial failed fun begun _ _ _ => ?_
  refine Safe.guarded anywhere (stable_anywhere _ _) trivial failed fun now _ _ _ free => ?_
  have locked : invoiceId ∈ [invoiceId] ++ [] := List.mem_cons_self
  have absent : now.order? invoiceId = none :=
    Option.isNone_iff_eq_none.mp (Option.isSome_eq_false_iff.mp free)
  let order := newCardOrder invoiceId begun.clock amountKopecks customerEmail rememberCard more
  have kept : ∀ later : OrderDb, later.order? invoiceId = none -> later.Consistent ->
      orderContract.Good (later.apply (.order (.insert order))) ∧
        orderContract.Guarantee session ([invoiceId] ++ []) later
          (later.apply (.order (.insert order))) :=
    fun later holds good =>
      ⟨OrderDb.Consistent.insert order good rfl (newCardOrder_paidEvents unpaid) holds,
      OrderDb.preserves_insert order, OrderDb.respects_insert locked⟩
  exact Safe.commit _ (stable_order locked none) absent kept
    (fun later holds good => went _ _ (kept later holds good).1)
    (fun later _ good => failed later good)
    (fun later holds good => failed _ (kept later holds good).1)

theorem safe_autocommit {locks : List InvoiceId} {writes : OrderDb -> List OrderWrite}
    {next : OrderProgram} (outside : ∀ own write, write ∈ writes own -> write.Outside)
    (failed : ∀ now : OrderDb, now.Consistent ->
      orderContract.Safe orderStore permits session onError [] [] now)
    (went : ∀ now : OrderDb, now.Consistent ->
      orderContract.Safe orderStore permits session next [] [] now) :
    orderContract.Safe orderStore permits session (autocommit locks onError writes next)
      [] [] db := by
  refine Safe.writing anywhere (stable_anywhere _ _) trivial failed fun now _ _ _ => ?_
  refine Safe.last anywhere (stable_anywhere _ _) trivial (fun later _ good => ?_) went failed
  have same := OrderDb.sameOrders_applyAll later _ (outside now)
  exact ⟨same.consistent good, same.preserves, same.respects _⟩

theorem safe_call {writes : OrderDb -> ProviderAnswer -> List OrderWrite}
    {next : OrderDb -> ProviderAnswer -> OrderProgram} {label : OrderLabel}
    (outside : ∀ now answer write, write ∈ writes now answer -> write.Outside)
    (went : ∀ answer before now, OrderDb.Consistent now ->
      orderContract.Safe orderStore permits session (next before answer) [] [] now) :
    orderContract.Safe orderStore permits session (.call label writes next) [] [] db := by
  refine Safe.call anywhere (stable_anywhere _ _) trivial (fun now _ good _ answer => ?_)
    fun now _ good _ answer => went answer now _ ?_
  · have same := OrderDb.sameOrders_applyAll now _ (outside now answer)
    exact ⟨same.consistent good, same.preserves, same.respects _⟩
  · exact (OrderDb.sameOrders_applyAll now _ (outside now answer)).consistent good

theorem safe_done (result : OrderReply) (now : OrderDb) (_ : now.Consistent) :
    orderContract.Safe orderStore permits session (.done result : OrderProgram) [] [] now :=
  trivial

theorem safe_confirmThreeDsAndFinalize :
    orderContract.Safe orderStore permits session (confirmThreeDsAndFinalize invoiceId)
      [] [] db := by
  refine Safe.reading anywhere (stable_anywhere _ _) trivial (safe_done _) fun now _ _ _ => ?_
  split
  · trivial
  · next order _ =>
    split
    · trivial
    · split
      · trivial
      · refine safe_call (fun _ _ _ member => by cases member) fun answer _ now _ => ?_
        cases answer with
        | success transactionId =>
          exact safe_updateOrder (OrderUpdate.paid_lawful _ none) (safe_done _)
            fun paid => safe_done _
        | declined transactionId message reasonCode =>
          exact safe_updateOrder (OrderUpdate.failed_lawful _) (safe_done _)
            fun failed => safe_done _
        | error message accepted =>
          exact safe_updateOrder (OrderUpdate.threeDsError_lawful message) (safe_done _)
            fun _ => safe_done _
        | requiresThreeDs => trivial

section Charge

variable {thrown : OrderProgram} {next : ChargeOutcome -> OrderProgram}
  (failed : ∀ now : OrderDb, now.Consistent ->
    orderContract.Safe orderStore permits session thrown [] [] now)
  (went : ∀ outcome now, OrderDb.Consistent now ->
    orderContract.Safe orderStore permits session (next outcome) [] [] now)

include failed went

theorem safe_afterCharge (saved : SavedCardToken) (order : CardOrder) (answer : ProviderAnswer) :
    orderContract.Safe orderStore permits session (afterCharge saved order thrown next answer)
      [] [] db := by
  cases answer with
  | success transactionId =>
    rw [afterCharge]
    refine safe_updateOrder (OrderUpdate.paid_lawful _ none) failed fun paid now _ => ?_
    refine Safe.reading anywhere (stable_anywhere _ _) trivial failed fun now _ _ _ => ?_
    refine safe_autocommit (fun own write member => ?_) failed (went _)
    rcases Option.map_eq_some_iff.mp (Option.mem_toList.mp member) with ⟨card, -, rfl⟩
    trivial
  | requiresThreeDs transactionId paReq acsUrl =>
    rw [afterCharge]
    exact safe_updateOrder (OrderUpdate.requiresThreeDs_lawful transactionId) failed
      fun updated => went _
  | declined transactionId message reasonCode =>
    rw [afterCharge]
    refine safe_updateOrder (OrderUpdate.failed_lawful _) failed fun declined now good => ?_
    simp only
    split
    · refine safe_autocommit (fun own write member => ?_) failed (went _)
      rcases Option.map_eq_some_iff.mp (Option.mem_toList.mp member) with ⟨card, -, rfl⟩
      trivial
    · exact went _ now good
  | error message accepted =>
    rw [afterCharge]
    exact safe_updateOrder (OrderUpdate.failed_lawful _) failed fun declined => went _

theorem safe_chargeWithSavedCard (params : ChargeParams) :
    orderContract.Safe orderStore permits session
      (chargeWithSavedCard session params thrown next) [] [] db := by
  refine Safe.reading anywhere (stable_anywhere _ _) trivial failed fun now _ good _ => ?_
  split
  · exact went _ now good
  · next saved _ =>
    refine safe_createOrder (by simp) failed fun order now _ => ?_
    refine safe_call (fun _ answer write member => ?_) fun answer _ now _ =>
      safe_afterCharge failed went saved order answer
    split at member
    · rw [List.mem_singleton.mp member]
      trivial
    · cases member

end Charge

theorem safe_cancelStaleRows (invoiceIds : List InvoiceId) (cancelled missed : Nat) :
    orderContract.Safe orderStore permits session (cancelStaleRows invoiceIds cancelled missed)
      [] [] db := by
  induction invoiceIds generalizing cancelled missed db with
  | nil => trivial
  | cons invoiceId rest extend =>
    have skipped : ∀ now : OrderDb, now.Consistent -> orderContract.Safe orderStore permits
        session (cancelStaleRows rest cancelled (missed + 1)) [] [] now := fun _ _ => extend _ _
    refine Safe.reading anywhere (stable_anywhere _ _) trivial skipped fun begun _ _ _ => ?_
    refine Safe.writing anywhere (stable_anywhere _ _) trivial skipped fun now _ _ _ => ?_
    cases read : stalePending now invoiceId with
    | none =>
      simp only [Store.applyAll_nil, read, Option.isNone_none, if_true]
      exact Safe.rollback anywhere (stable_anywhere _ _) trivial fun _ _ _ => extend _ _
    | some row =>
      simp only [Store.applyAll_nil, read, Option.isNone_some, Bool.false_eq_true, if_false]
      rcases Option.filter_eq_some_iff.mp read with ⟨found, pending⟩
      have locked : invoiceId ∈ [invoiceId] ++ [] := List.mem_cons_self
      refine Safe.last _ (stable_order locked (some row)) found (fun later holds good => ?_)
        (fun _ _ => extend _ _) skipped
      have rewrite := cancelStale_rewrite good holds (of_decide_eq_true pending) begun.clock
      have keyed : row.invoiceId = invoiceId := key_of_get found
      rw [← keyed]
      exact ⟨rewrite.consistent good, rewrite.preserves,
        rewrite.respects List.mem_cons_self⟩

end Programs

/-! ## Runs -/

inductive OrderRequest where
  | createPayment (amountKopecks : Nat) (customerEmail : String) (rememberCard : Bool)
  | markOrderPaid (invoiceId : InvoiceId) (payload : EventPayload)
      (detected : Option DetectedMethod)
  | markOrderFailed (invoiceId : InvoiceId) (payload : EventPayload)
  | markOrderCancelled (invoiceId : InvoiceId) (payload : EventPayload)
  | confirmThreeDsAndFinalize (invoiceId : InvoiceId)
  | chargeWithSavedCard (params : ChargeParams)
  | cancelStaleOrders (configured : Option Nat)
  deriving DecidableEq

def OrderRequest.program (session : Nat) : OrderRequest -> OrderProgram
  | .createPayment amountKopecks customerEmail rememberCard =>
    createOrder (.generated (.minted session 0)) amountKopecks customerEmail rememberCard []
      (.done .thrown) fun order => .done (.order (some order))
  | .markOrderPaid invoiceId payload detected => Payments.markOrderPaid invoiceId payload detected
  | .markOrderFailed invoiceId payload => Payments.markOrderFailed invoiceId payload
  | .markOrderCancelled invoiceId payload => Payments.markOrderCancelled invoiceId payload
  | .confirmThreeDsAndFinalize invoiceId => Payments.confirmThreeDsAndFinalize invoiceId
  | .chargeWithSavedCard params =>
    Payments.chargeWithSavedCard session params (.done .thrown) fun outcome =>
      .done (.threeDs outcome)
  | .cancelStaleOrders configured => Payments.cancelStaleOrders configured

def OrderDb.opening (cards : List SavedCardToken) : OrderDb :=
  ⟨0, [], cards, [], [], [], []⟩

def ordersOpening (cards : List SavedCardToken) (requests : Nat -> OrderRequest) : OrderState :=
  State.start (.opening cards) fun session => (requests session).program session

theorem OrderRequest.safe (request : OrderRequest) (permits : OrderLabel -> OrderDb -> Prop)
    (session : Nat) (db : OrderDb) :
    orderContract.Safe orderStore permits session (request.program session) [] [] db := by
  cases request with
  | createPayment amountKopecks customerEmail rememberCard =>
    rw [OrderRequest.program]
    exact safe_createOrder List.not_mem_nil (safe_done _) fun order => safe_done _
  | markOrderPaid invoiceId payload detected =>
    exact safe_updateOrder (OrderUpdate.paid_lawful payload detected) (safe_done _)
      fun order => safe_done _
  | markOrderFailed invoiceId payload =>
    exact safe_updateOrder (OrderUpdate.failed_lawful payload) (safe_done _)
      fun order => safe_done _
  | markOrderCancelled invoiceId payload =>
    exact safe_updateOrder (OrderUpdate.cancelled_lawful payload) (safe_done _)
      fun order => safe_done _
  | confirmThreeDsAndFinalize invoiceId => exact safe_confirmThreeDsAndFinalize
  | chargeWithSavedCard params =>
    exact safe_chargeWithSavedCard (safe_done _) (fun outcome => safe_done _) params
  | cancelStaleOrders configured =>
    exact Contract.Safe.reading anywhere (stable_anywhere _ _) trivial (safe_done _)
      fun now _ _ _ => safe_cancelStaleRows _ 0 0

theorem OrderDb.opening_consistent (cards : List SavedCardToken) :
    (OrderDb.opening cards).Consistent where
  unique := List.nodup_nil
  clean _ member := by cases member
  once _ := Nat.zero_le 1
  paid _ marked := by cases marked
  logged _ member := by cases member

theorem preserves_of_moves {before after : OrderDb}
    (moves : orderContract.Moves orderStore before after) : OrderDb.Preserves before after := by
  rcases moves with ⟨-, -, rfl | ⟨passed, rfl⟩ | ⟨session, held, preserves, -⟩⟩
  · exact OrderDb.Preserves.refl before
  · have same : OrderDb.SameOrders before (orderStore.drift passed before) := ⟨rfl, rfl⟩
    exact same.preserves
  · exact preserves

theorem preserves_of_run {before after : OrderDb}
    (moved : ReflTransGen (orderContract.Moves orderStore) before after) :
    OrderDb.Preserves before after := by
  induction moved with
  | refl => exact OrderDb.Preserves.refl before
  | tail _ moves whole => exact whole.trans (preserves_of_moves moves)

/-- What two states of a run say about the orders. -/
structure OrderHistory (earlier later : OrderDb) : Prop where
  rows : ∀ invoiceId row, earlier.order? invoiceId = some row ->
    ∃ last, later.order? invoiceId = some last ∧ Later row last
  once : ∀ invoiceId, later.timesPaid invoiceId ≤ 1
  logged : ∀ invoiceId row, later.order? invoiceId = some row -> OrderDb.paidEvents row ≤ 1

/-- Whatever is reported about an order and in whichever order, paid is final, failed is
left for paid only, nothing returns to pending, and an order is marked as paid once. -/
theorem order_history {cards : List SavedCardToken} {requests : Nat -> OrderRequest}
    {earlier later : OrderState}
    (reached : Reaches orderStore (fun _ _ => True) (ordersOpening cards requests) earlier)
    (further : Reaches orderStore (fun _ _ => True) earlier later) :
    OrderHistory earlier.db later.db := by
  have sound : Contract.Sound orderContract orderStore (fun _ _ => True)
      (ordersOpening cards requests) :=
    Contract.Sound.start (OrderDb.opening_consistent cards)
      fun session => (requests session).safe (fun _ _ => True) session (.opening cards)
  rcases sound.reaches orderContract_steady reached with ⟨middle, -⟩
  rcases middle.reaches orderContract_steady further with ⟨last, moved⟩
  refine ⟨preserves_of_run moved, last.good.once, fun invoiceId row read => ?_⟩
  exact Nat.le_trans (last.good.logged row (mem_of_get read)) (last.good.once row.invoiceId)

private def contradicting : Nat -> OrderRequest
  | 0 => .createPayment 200000 "ann@example.com" false
  | 1 => .markOrderFailed (.generated (.minted 0 0)) [("transactionId", .text "1")]
  | 2 => .markOrderPaid (.generated (.minted 0 0)) [("transactionId", .text "2")] none
  | _ => .markOrderCancelled (.generated (.minted 0 0)) []

private def silent : ProviderAnswer := .error "" false

private def untilFailed : List (Event Nat ProviderAnswer) :=
  Event.steps 0 3 silent ++ Event.steps 1 4 silent

private def untilCancelled : List (Event Nat ProviderAnswer) :=
  Event.steps 2 4 silent ++ Event.steps 3 4 silent

private def reads (status : OrderStatus) (state : OrderState) : Bool :=
  (state.db.order? (.generated (.minted 0 0))).any fun row => row.status = status

/-- The payment that failed was made after all, and cannot be cancelled any more. -/
theorem order_history_contradicting :
    ∃ earlier later : OrderState, reads .failed earlier = true ∧ reads .paid later = true ∧
      OrderHistory earlier.db later.db := by
  rcases exists_state_of_play orderStore (ordersOpening [] contradicting) untilFailed
    (fun state => reads .failed state &&
      (play orderStore state untilCancelled).any fun later => reads .paid later)
    (by decide +kernel) with ⟨earlier, reached, both⟩
  rw [Bool.and_eq_true, Option.any_eq_true] at both
  rcases both with ⟨failed, later, played, paid⟩
  have further := reaches_of_play orderStore untilCancelled (.refl earlier) played
  exact ⟨earlier, later, failed, paid, order_history reached further⟩

end Payments

end LevelChannel
