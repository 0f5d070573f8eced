import LevelChannel.Scheduling.Statements
import LevelChannel.Lessons.Booking

namespace LevelChannel.Scheduling

open ReadCommitted Tables

/-!
# Taking a unit of a package

A booking makes a slot its own, then looks for a package and takes a unit of it.  The
units in use are counted before the package is locked; what keeps the count is the
advisory lock on the learner, and that only if every booking hashes the same text for a
learner.
-/

variable {terms : Terms} {permits : Label -> Db -> Prop} {session : Nat} {held : List Lock}
  {pending : List Write} {db : Db}

/-! ## Following a statement -/

theorem safe_updateSlot {fact : Db -> Prop} {slotId : RowId}
    {where_ : Db -> LessonSlot -> Bool} {set_ : LessonSlot -> LessonSlot} {onError : Program}
    {next : Option LessonSlot -> Program} (loc : (discipline terms).Local session held fact)
    (start : (discipline terms).Stands session held pending fact db)
    (tidies : ∀ own old, Good terms own -> fact own -> own.slot? old.id = some old ->
      old.id = slotId -> where_ own old = true -> Tidies own old (set_ old))
    (failed : ∀ now, Good terms now ->
      (contract terms).Safe store permits session onError [] [] now)
    (missed : ∀ now own more, Good terms now -> fact own ->
      own.slotUpdate slotId (where_ own) set_ = none ->
      (discipline terms).Stands session (more ++ held) pending fact now ->
      (contract terms).Safe store permits session (next none) (more ++ held) pending now)
    (went : ∀ now own old new, Good terms now -> Good terms own -> fact own ->
      own.slot? slotId = some old -> where_ own old = true ->
      new = (set_ old).snapshotOnBook own.catalog ->
      (discipline terms).Stands session ((LockTarget.slot slotId).forNoKeyUpdate :: held)
        (pending ++ [.slot (.replace new)]) (fun after => after.slot? slotId = some new) now ->
      (contract terms).Safe store permits session (next (some new))
        ((LockTarget.slot slotId).forNoKeyUpdate :: held) (pending ++ [.slot (.replace new)]) now) :
    (contract terms).Safe store permits session
      (Program.updateSlot slotId where_ set_ onError next) held pending db := by
  refine Program.Safe.query _ (Discipline.Stands.stable loc) start
    (fun now _ good => failed now good) ?_
  intro now stands good
  split
  · rename_i update
    exact missed now _ [] good stands.2.2 update stands
  · refine Program.Safe.checked _ (Discipline.Stands.stable loc) stands
      (fun now _ good => failed now good) ?_
    intro now stands good accepted
    simp only [List.singleton_append]
    cases update : (store.applyAll now pending).slotUpdate slotId
        (where_ (store.applyAll now pending)) set_ with
    | none =>
      simp only [slotUpdateWrites, Option.toList_none, List.map_nil, List.append_nil,
        Option.map_none]
      exact missed now _ [_] good stands.2.2 update (stands.more [_])
    | some versions =>
      rcases slotUpdate_eq_some update with ⟨found, key, chosen, made⟩
      subst key
      have tidy : Tidies (store.applyAll now pending) versions.1 versions.2 := by
        rw [made]
        exact (tidies _ _ stands.2.1 stands.2.2 found rfl chosen).snapshot _
      simp only [slotUpdateWrites, Option.toList_some, List.map_cons, List.map_nil,
        Option.map_some]
      refine went now _ versions.1 versions.2 good stands.2.1 stands.2.2 found chosen made ?_
      have lawful : (discipline terms).Lawful session
          [(LockTarget.slot versions.1.id).forNoKeyUpdate] (store.applyAll now pending)
          [.slot (.replace versions.2)] :=
        lawful_replaceSlot WriteLocked.head_noKeyUpdate found fun _ => tidy
      have read : (store.applyAll now pending).slot? versions.2.id = some versions.1 :=
        tidy.id ▸ found
      exact stands.queue lawful ((slot?_replace read _).trans (if_pos tidy.id))

theorem safe_tail {program : Program} {fact : Db -> Prop} (good : Good terms db)
    (obeys : (discipline terms).Obeys session program)
    (stands : (discipline terms).Stands session held pending fact db) :
    (contract terms).Safe store permits session program held pending db :=
  Discipline.safe_of_obeys obeys good (stands.weaken fun _ both => ⟨both.1, trivial⟩)

theorem safe_afresh {program : Program} (obeys : (discipline terms).Obeys session program)
    (good : Good terms db) : (contract terms).Safe store permits session program [] [] db :=
  Discipline.safe_of_obeys obeys good (Discipline.Stands.start good trivial)

theorem thrown_obeys : (discipline terms).Obeys session Program.thrown := trivial

theorem rollbackNotOk_obeys (reason : String) :
    (discipline terms).Obeys session (Program.rollbackNotOk reason) := trivial

theorem commit_obeys (reply : Reply) :
    (discipline terms).Obeys session (.commit Program.thrown (.done reply)) :=
  ⟨trivial, trivial⟩

theorem safe_begin {next : Nat -> Program} (good : Good terms db) (went : ∀ now, Good terms now ->
      (contract terms).Safe store permits session (next now.clock) [] [] now) :
    (contract terms).Safe store permits session (Program.begin Program.thrown next) [] [] db := by
  refine Program.Safe.begin _
    (Discipline.Stands.stable (Discipline.Local.const (discipline terms) session [] True))
    (Discipline.Stands.start good trivial) (fun _ _ _ => trivial) ?_
  intro now _ good
  exact went now good

theorem safe_dateNow {next : Nat -> Program} (good : Good terms db) (went : ∀ now, Good terms now ->
      (contract terms).Safe store permits session (next now.clock) [] [] now) :
    (contract terms).Safe store permits session (Program.dateNow Program.thrown next) [] [] db :=
  safe_begin good went

theorem safe_query {next : Db -> Db -> Program}
    (start : (discipline terms).Stands session held pending (fun _ => True) db)
    (went : ∀ now, Good terms now ->
      (discipline terms).Stands session held pending (fun _ => True) now ->
      (contract terms).Safe store permits session (next now (store.applyAll now pending))
        held pending now) :
    (contract terms).Safe store permits session (Program.query Program.thrown next)
      held pending db := by
  refine Program.Safe.query _
    (Discipline.Stands.stable (Discipline.Local.const (discipline terms) session held True))
    start (fun _ _ _ => trivial) ?_
  intro now stands good
  exact went now good stands

theorem safe_lockLearner {learner : UuidText} {next : Program}
    (start : (discipline terms).Stands session held pending (fun _ => True) db)
    (went : ∀ now, Good terms now ->
      (discipline terms).Stands session ((AdvisoryKey.pkgConsume learner).lock :: held) pending
        (fun _ => True) now ->
      (contract terms).Safe store permits session next
        ((AdvisoryKey.pkgConsume learner).lock :: held) pending now) :
    (contract terms).Safe store permits session (Program.lockLearner learner next)
      held pending db := by
  refine Program.Safe.locking _
    (Discipline.Stands.stable (Discipline.Local.const (discipline terms) session held True))
    start (fun _ _ _ => trivial) ?_
  intro now stands good
  exact went now good (Discipline.Holds.more stands [(AdvisoryKey.pkgConsume learner).lock])

theorem safe_execute {locks : List Lock} {writes : Db -> List Write} {next : Db -> Program}
    (start : (discipline terms).Stands session held pending (fun _ => True) db)
    (lawful : ∀ own, (discipline terms).Lawful session locks own (writes own))
    (went : ∀ now own queued, Good terms now ->
      (discipline terms).Stands session (locks ++ held) (pending ++ queued) (fun _ => True) now ->
      (contract terms).Safe store permits session (next own) (locks ++ held)
        (pending ++ queued) now) : (contract terms).Safe store permits session
      (Program.execute locks Program.thrown writes next) held pending db := by
  refine Program.Safe.execute _
    (Discipline.Stands.stable (Discipline.Local.const (discipline terms) session held True))
    start (fun _ _ _ => trivial) ?_
  intro now stands good
  exact went now _ _ good (stands.queue (lawful _) trivial)

/-- A lesson for which a session may take a unit of one of the learner's packages. -/
structure Reserved (terms : Terms) (held : List Lock) (slot : LessonSlot) (accountId : RowId) :
    Prop where
  locked : WriteLocked held (.slot slot.id)
  notOpen : slot.status ≠ .open
  learner : slot.learnerAccountId = some accountId
  learnerLocked : terms.canonical ->
    WriteLocked held (.advisory (.pkgConsume (.canonical accountId)))

theorem Reserved.append {slot : LessonSlot} {accountId : RowId}
    (reserved : Reserved terms held slot accountId) (more : List Lock) :
    Reserved terms (more ++ held) slot accountId :=
  { reserved with
    locked := reserved.locked.append more
    learnerLocked := fun canonical => (reserved.learnerLocked canonical).append more }

theorem safe_insertConsumption {slot : LessonSlot} {accountId purchaseId : RowId}
    {purchase : PackagePurchase} {actor : Actor} {used : Nat} {onError : Program}
    {next : Bool -> Program} (reserved : Reserved terms held slot accountId)
    (purchaseLocked : WriteLocked held (.purchase purchaseId))
    (suits : Suits slot purchase) (unvoided : purchase.voidedAt = none)
    (room : terms.canonical -> used < purchase.countInitial)
    (failed : (discipline terms).Obeys session onError)
    (went : ∀ created, (discipline terms).Obeys session (next created))
    (start : (discipline terms).Stands session held pending (fun own =>
      own.slot? slot.id = some slot ∧ own.purchase? purchaseId = some purchase ∧
        Tallied terms accountId purchaseId used (fun _ => True) own) db) :
    (contract terms).Safe store permits session
      (Program.insertConsumption (Program.newConsumption slot.id purchaseId actor) onError next)
      held pending db := by
  refine Program.Safe.checked _ (Discipline.Stands.stable ((local_slot reserved.locked slot).and
    ((local_purchase purchaseLocked purchase).and
      (local_tallied accountId purchaseId used (fun _ => True) reserved.learnerLocked))))
    start (fun now _ good => safe_afresh failed good) ?_
  intro now stands good _
  rcases stands.2.2 with ⟨readSlot, readPurchase, other, readOther, owner, -, tally⟩
  have same : other = purchase := Option.some.inj (readOther.symm.trans readPurchase)
  subst same
  split
  · rw [List.append_nil]
    exact safe_tail good (went _) (stands.more _)
  · rename_i fresh
    have absent : (store.applyAll now pending).consumption? slot.id = none := by
      simpa [Program.newConsumption] using fresh
    have unit : Consumes terms held (store.applyAll now pending)
        (Program.newConsumption slot.id purchaseId actor) slot other :=
      { slotRead := readSlot
        slotLocked := reserved.locked
        notOpen := reserved.notOpen
        purchaseRead := readPurchase
        purchaseLocked := purchaseLocked
        unvoided := unvoided
        suits := suits
        room := fun canonical => ⟨owner ▸ reserved.learnerLocked canonical,
          Nat.lt_of_le_of_lt (tally canonical) (room canonical)⟩ }
    have allowed : Allows terms
        ([(LockTarget.consumption slot.id).forUpdate, (LockTarget.purchase purchaseId).forKeyShare,
          (LockTarget.slot slot.id).forKeyShare] ++ held) (store.applyAll now pending)
        (.consumption (.insert (Program.newConsumption slot.id purchaseId actor))) :=
      ⟨WriteLocked.head_update, absent, slot, other,
        { unit with
          slotLocked := unit.slotLocked.append _
          purchaseLocked := unit.purchaseLocked.append _
          room := fun canonical => ⟨(unit.room canonical).1.append _, (unit.room canonical).2⟩ }⟩
    have kept := allowed.kept stands.2.1.inv
    have taken : Good terms ((store.applyAll now pending).apply
        (.consumption (.insert (Program.newConsumption slot.id purchaseId actor)))) :=
      Good.of_same stands.2.1 kept.1 rfl rfl rfl
    refine Discipline.safe_of_obeys (went _) good ?_
    exact (Discipline.Holds.more stands _).queue ⟨allowed, trivial⟩ ⟨taken, trivial⟩

theorem safe_lockFirst {slot : LessonSlot} {accountId : RowId} (used : RowId -> Nat)
    (fact : RowId -> Nat -> Prop) {where_ : PackagePurchase -> Bool} {onError : Program}
    {next : Option PackagePurchase -> Program} {ids : List RowId}
    (reserved : Reserved terms held slot accountId)
    (failed : (discipline terms).Obeys session onError)
    (missed : (discipline terms).Obeys session (next none))
    (went : ∀ now more purchase, Good terms now -> Reserved terms (more ++ held) slot accountId ->
      WriteLocked (more ++ held) (.purchase purchase.id) -> where_ purchase = true ->
      purchase.id ∈ ids ->
      (discipline terms).Stands session (more ++ held) pending (fun own =>
        own.slot? slot.id = some slot ∧ own.purchase? purchase.id = some purchase ∧
          Tallied terms accountId purchase.id (used purchase.id) (fact purchase.id) own) now ->
      (contract terms).Safe store permits session (next (some purchase)) (more ++ held) pending now)
    (good : Good terms db)
    (start : (discipline terms).Stands session held pending (fun own =>
      own.slot? slot.id = some slot ∧ ∀ id : { id // id ∈ ids },
        Tallied terms accountId id (used id) (fact id) own) db) :
    (contract terms).Safe store permits session
      (Program.lockFirst where_ onError next ids) held pending db := by
  induction ids generalizing held db with
  | nil => exact safe_tail good missed start
  | cons id rest extend =>
    refine Program.Safe.locking _ (Discipline.Stands.stable ((local_slot reserved.locked slot).and
      (Discipline.Local.all fun wanted : { wanted // wanted ∈ id :: rest } =>
        local_tallied accountId wanted (used wanted) (fact wanted) reserved.learnerLocked)))
      start (fun now _ good => safe_afresh failed good) ?_
    intro now stands good
    have wider := reserved.append [(LockTarget.purchase id).forUpdate]
    have locked : WriteLocked ([(LockTarget.purchase id).forUpdate] ++ held) (.purchase id) :=
      WriteLocked.head_update
    split
    · rename_i purchase found
      have read := Option.filter_eq_some_iff.mp found
      have key : purchase.id = id := key_of_get read.1
      subst key
      refine went now _ purchase good wider locked read.2 List.mem_cons_self ?_
      exact ⟨(Discipline.Holds.more stands _).1, stands.2.1, stands.2.2.1, read.1,
        stands.2.2.2 ⟨purchase.id, List.mem_cons_self⟩⟩
    · refine extend wider ?_ good ?_
      · intro now more purchase good reserved locked chosen member stands
        rw [← List.append_assoc] at reserved locked stands ⊢
        exact went now _ purchase good reserved locked chosen (List.mem_cons_of_mem _ member) stands
      · refine (Discipline.Holds.more stands _).weaken fun own both => ⟨both.1, both.2.1, ?_⟩
        intro wanted
        exact both.2.2 ⟨wanted, List.mem_cons_of_mem _ wanted.2⟩

theorem eligible_suits {now : Nat} {accountId expectedTeacherId : RowId} {durationMinutes : Nat}
    {slot : LessonSlot} {purchase : PackagePurchase}
    (learner : slot.learnerAccountId = some accountId)
    (duration : slot.durationMinutes = durationMinutes)
    (teacher : slot.teacherAccountId = expectedTeacherId)
    (eligible : purchase.eligible now accountId durationMinutes expectedTeacherId = true) :
    Suits slot purchase ∧ purchase.voidedAt = none := by
  simp only [PackagePurchase.eligible, Bool.and_eq_true, Bool.or_eq_true, decide_eq_true_eq,
    Option.isNone_iff_eq_none] at eligible
  rcases eligible with ⟨⟨⟨⟨account, minutes⟩, bound⟩, -⟩, unvoided⟩
  exact ⟨⟨by rw [learner, account], duration.trans minutes.symm,
    bound.symm.imp_right fun own => own.trans (by rw [teacher])⟩, unvoided⟩

theorem tallied_eligible {own : Db} (inv : Inv terms own) {now : Nat}
    {accountId expectedTeacherId : RowId} {durationMinutes : Nat} {id : RowId}
    (listed : id ∈ own.eligiblePackages now accountId durationMinutes expectedTeacherId) :
    Tallied terms accountId id (own.activeCount id) (own.activeCount id < ·) own := by
  rcases List.mem_map.mp listed with ⟨purchase, member, rfl⟩
  have chosen := (List.mem_filter.mp ((List.mergeSort_perm _ _).mem_iff.mp member))
  simp only [Bool.and_eq_true, PackagePurchase.eligible, Db.hasRemaining, decide_eq_true_eq]
    at chosen
  exact ⟨purchase, get_of_mem inv.purchaseUnique chosen.1, chosen.2.1.1.1.1.1, chosen.2.2,
    fun _ => Nat.le_refl _⟩

theorem safe_consumePackageUnit {now : Nat} {accountId expectedTeacherId : RowId}
    {durationMinutes : Nat} {actor : Actor} {slot : LessonSlot} {onError : Program}
    {next : Option RowId -> Program} (reserved : Reserved terms held slot accountId)
    (duration : slot.durationMinutes = durationMinutes)
    (teacher : slot.teacherAccountId = expectedTeacherId)
    (failed : (discipline terms).Obeys session onError)
    (went : ∀ consumed, (discipline terms).Obeys session (next consumed))
    (start : (discipline terms).Stands session held pending
      (fun own => own.slot? slot.id = some slot) db) :
    (contract terms).Safe store permits session
      (Program.consumePackageUnit now accountId slot.id durationMinutes actor expectedTeacherId
        onError next) held pending db := by
  refine Program.Safe.query _ (Discipline.Stands.stable (local_slot reserved.locked slot)) start
    (fun _ _ good => safe_afresh failed good) ?_
  intro snapshot stands good
  let own := store.applyAll snapshot pending
  refine safe_lockFirst own.activeCount (fun id => (own.activeCount id < ·)) reserved failed
    (went none) ?_ good ?_
  · intro later more purchase good reserved locked chosen _ stands
    rcases eligible_suits reserved.learner duration teacher chosen with ⟨suits, unvoided⟩
    rcases stands.2.2.2.2 with ⟨other, read, -, room, -⟩
    have same : other = purchase := Option.some.inj (read.symm.trans stands.2.2.2.1)
    refine safe_insertConsumption reserved locked suits unvoided (fun _ => same ▸ room) failed
      (fun _ => went _) (stands.weaken fun own both => ⟨both.1, both.2.1, both.2.2.1, ?_⟩)
    rcases both.2.2.2 with ⟨row, readRow, owner, -, tally⟩
    exact ⟨row, readRow, owner, trivial, tally⟩
  · exact ⟨stands.1, stands.2.1, stands.2.2,
      fun wanted => tallied_eligible stands.2.1.inv wanted.2⟩

end LevelChannel.Scheduling
