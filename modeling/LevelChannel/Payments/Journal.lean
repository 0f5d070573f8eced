import LevelChannel.Lessons.Booking
import LevelChannel.Payments.Claims
import LevelChannel.ReadCommitted.Statements
import LevelChannel.Schema.Rules

namespace LevelChannel.Journal

open ReadCommitted Tables

/-!
# The journal of payment claims in order

A slot is named by at most one claim that counts as a payment, a resolved claim stays as
it is, and the mismatch of a claim is what its amount differs from the server's
expectations.  The first of these rests on the advisory locks of the slots, which are
taken on the text of the body: two spellings of one slot are two locks.
-/

def Names (db : Db) (claim : PaymentClaim) (slotId : RowId) : Prop :=
  ∃ item, item ∈ db.claimItems ∧ item.claimId = claim.id ∧ item.slotId = some slotId

def Exclusive (db : Db) : Prop :=
  ∀ first, first ∈ db.claims -> ∀ second, second ∈ db.claims ->
    first.status.active = true -> second.status.active = true ->
      ∀ slotId, Names db first slotId -> Names db second slotId -> first = second

def expected (db : Db) (claimId : RowId) : Nat :=
  total (fun item => item.claimId = claimId) PaymentClaimItem.expectedAmountKopecks db.claimItems

/-- The stored mismatches are right. -/
def Balanced (db : Db) : Prop :=
  ∀ claim, claim ∈ db.claims ->
    claim.amountMismatchKopecks = (claim.amountKopecks : Int) - (expected db claim.id : Int)

/-- The journal, with exclusive claims where a slot is always spelled alike. -/
structure InOrder (alike : Prop) (db : Db) : Prop where
  unique : Tables.Unique PaymentClaim.id db.claims
  placed : ∀ item, item ∈ db.claimItems -> (db.claim? item.claimId).isSome
  balanced : Balanced db
  exclusive : alike -> Exclusive db

variable {alike : Prop} {spell : RowId -> UuidText} {db before after : Db} {claim : PaymentClaim}
  {records : List PaymentClaimItem} {slotId : RowId}

private theorem claim_of_mem (inOrder : InOrder alike db) (member : claim ∈ db.claims) :
    db.claim? claim.id = some claim :=
  get_of_mem inOrder.unique member

theorem claimedBySbp_iff (inOrder : InOrder alike db) : db.claimedBySbp slotId = true <->
      ∃ claim, claim ∈ db.claims ∧ claim.status.active = true ∧ Names db claim slotId := by
  simp only [Db.claimedBySbp, List.any_eq_true, Bool.and_eq_true, decide_eq_true_eq,
    Option.any_eq_true]
  constructor
  · rintro ⟨item, listed, named, claim, found, active⟩
    exact ⟨claim, mem_of_get found, active, item, listed, (key_of_get found).symm, named⟩
  · rintro ⟨claim, member, active, item, listed, same, named⟩
    exact ⟨item, listed, named, claim, same ▸ claim_of_mem inOrder member, active⟩

/-! ## Opening a claim -/

/-- A claim is added with its items. -/
structure Opens (before after : Db) (claim : PaymentClaim) (records : List PaymentClaimItem) :
    Prop where
  claims : after.claims = before.claims ++ [claim]
  items : after.claimItems = before.claimItems ++ records
  fresh : before.claim? claim.id = none
  owned : ∀ record, record ∈ records -> record.claimId = claim.id
  mismatch : claim.amountMismatchKopecks =
    (claim.amountKopecks : Int) - (Program.expectedSum records : Int)

namespace Opens

variable (opens : Opens before after claim records)
include opens

theorem claim? (id : RowId) :
    after.claim? id = (before.claim? id).or (if claim.id = id then some claim else none) := by
  rw [Db.claim?, opens.claims]
  exact get_insert claim

theorem kept {id : RowId} {old : PaymentClaim} (found : before.claim? id = some old) :
    after.claim? id = some old := by
  rw [opens.claim?, found]
  rfl

private theorem old_ne {old : PaymentClaim} (member : old ∈ before.claims) : old.id ≠ claim.id :=
  get_eq_none_iff.mp opens.fresh old member

theorem item_old {old : PaymentClaim} (member : old ∈ before.claims) {item : PaymentClaimItem}
    (same : item.claimId = old.id) : item ∈ after.claimItems <-> item ∈ before.claimItems := by
  rw [opens.items]
  constructor
  · intro listed
    rcases List.mem_append.mp listed with listed | new
    · exact listed
    · exact absurd (same.symm.trans (opens.owned item new)) (opens.old_ne member)
  · intro listed
    exact List.mem_append_left records listed

theorem item_new (inOrder : InOrder alike before) {item : PaymentClaimItem}
    (listed : item ∈ after.claimItems) (same : item.claimId = claim.id) : item ∈ records := by
  rw [opens.items] at listed
  rcases List.mem_append.mp listed with old | new
  · have placed := inOrder.placed item old
    rw [same, opens.fresh] at placed
    cases placed
  · exact new

theorem names_old {old : PaymentClaim} (member : old ∈ before.claims) :
    Names after old slotId <-> Names before old slotId := by
  constructor
  · rintro ⟨item, listed, same, named⟩
    exact ⟨item, (opens.item_old member same).mp listed, same, named⟩
  · rintro ⟨item, listed, same, named⟩
    exact ⟨item, (opens.item_old member same).mpr listed, same, named⟩

theorem names_new (inOrder : InOrder alike before) (named : Names after claim slotId) :
    ∃ record, record ∈ records ∧ record.slotId = some slotId := by
  rcases named with ⟨item, listed, same, named⟩
  exact ⟨item, opens.item_new inOrder listed same, named⟩

theorem expected_old {old : PaymentClaim} (member : old ∈ before.claims) :
    expected after old.id = expected before old.id := by
  have nothing : total (fun item => item.claimId = old.id)
      PaymentClaimItem.expectedAmountKopecks records = 0 := by
    apply total_eq_zero
    intro record new
    rw [opens.owned record new]
    exact decide_eq_false (opens.old_ne member).symm
  rw [expected, opens.items, total_append, nothing, Nat.add_zero, expected]

theorem expected_new (inOrder : InOrder alike before) :
    expected after claim.id = Program.expectedSum records := by
  have nothing : total (fun item => item.claimId = claim.id)
      PaymentClaimItem.expectedAmountKopecks before.claimItems = 0 := by
    refine total_eq_zero fun item old => decide_eq_false fun same => ?_
    have placed := inOrder.placed item old
    rw [same, opens.fresh] at placed
    cases placed
  have every : records.filter (fun item => item.claimId = claim.id) = records :=
    List.filter_eq_self.mpr fun record new => decide_eq_true (opens.owned record new)
  rw [expected, opens.items, total_append, nothing, Nat.zero_add, total, every,
    Program.expectedSum]

theorem inOrder (inOrder : InOrder alike before)
    (free : alike -> ∀ record, record ∈ records -> ∀ slotId,
      record.slotId = some slotId -> before.claimedBySbp slotId = false) : InOrder alike after where
  unique := by
    rw [opens.claims]
    exact inOrder.unique.insert opens.fresh
  placed item listed := by
    rw [opens.items] at listed
    rcases List.mem_append.mp listed with old | new
    · rcases Option.isSome_iff_exists.mp (inOrder.placed item old) with ⟨claim, found⟩
      rw [opens.kept found]
      rfl
    · rw [opens.owned item new, opens.claim?, opens.fresh]
      simp
  balanced other member := by
    rw [opens.claims] at member
    rcases List.mem_append.mp member with old | new
    · rw [opens.expected_old old]
      exact inOrder.balanced other old
    · rw [List.mem_singleton.mp new, opens.expected_new inOrder]
      exact opens.mismatch
  exclusive plain := by
    have clash : ∀ old, old ∈ before.claims -> old.status.active = true ->
        ∀ slotId, Names after old slotId -> Names after claim slotId -> False := by
      intro old member active slotId oldNames newNames
      rcases opens.names_new inOrder newNames with ⟨record, new, named⟩
      have taken : before.claimedBySbp slotId = true :=
        (claimedBySbp_iff inOrder).mpr ⟨old, member, active, (opens.names_old member).mp oldNames⟩
      rw [free plain record new slotId named] at taken
      cases taken
    intro first memberFirst second memberSecond activeFirst activeSecond slotId one two
    rw [opens.claims] at memberFirst memberSecond
    rcases List.mem_append.mp memberFirst with oldFirst | newFirst
    · rcases List.mem_append.mp memberSecond with oldSecond | newSecond
      · exact inOrder.exclusive plain first oldFirst second oldSecond activeFirst activeSecond
          slotId ((opens.names_old oldFirst).mp one) ((opens.names_old oldSecond).mp two)
      · rw [List.mem_singleton.mp newSecond] at two
        exact (clash first oldFirst activeFirst slotId one two).elim
    · rcases List.mem_append.mp memberSecond with oldSecond | newSecond
      · rw [List.mem_singleton.mp newFirst] at one
        exact (clash second oldSecond activeSecond slotId two one).elim
      · rw [List.mem_singleton.mp newFirst, List.mem_singleton.mp newSecond]

end Opens

/-- A claim that is still open is replaced by what it is resolved to. -/
structure Resolves (before after : Db) (old new : PaymentClaim) : Prop where
  claims : after.claims = (Change.replace new).apply PaymentClaim.id before.claims
  items : after.claimItems = before.claimItems
  found : before.claim? new.id = some old
  wasOpen : old.status = .claimed
  amount : new.amountKopecks = old.amountKopecks
  mismatch : new.amountMismatchKopecks = old.amountMismatchKopecks

namespace Resolves

variable {old new : PaymentClaim} (resolves : Resolves before after old new)
include resolves

theorem claim?_self : after.claim? new.id = some new := by
  rw [Db.claim?, resolves.claims]
  exact get_replace_self new resolves.found

theorem claim?_of_ne {id : RowId} (different : id ≠ new.id) :
    after.claim? id = before.claim? id := by
  rw [Db.claim?, resolves.claims]
  exact get_replace_of_ne new different

theorem names {claim other : PaymentClaim} (same : claim.id = other.id) :
    Names after claim slotId <-> Names before other slotId := by
  simp only [Names, resolves.items, same]

theorem origin {claim : PaymentClaim} (member : claim ∈ after.claims) :
    ∃ source, source ∈ before.claims ∧ source.id = claim.id ∧
      source.amountKopecks = claim.amountKopecks ∧
      source.amountMismatchKopecks = claim.amountMismatchKopecks ∧
      (claim.status.active = true -> source.status.active = true) := by
  rw [resolves.claims] at member
  rcases mem_replace member with rfl | ⟨listed, -⟩
  · refine ⟨old, mem_of_get resolves.found, key_of_get resolves.found, resolves.amount.symm,
      resolves.mismatch.symm, fun _ => ?_⟩
    rw [resolves.wasOpen]
    rfl
  · exact ⟨claim, listed, rfl, rfl, rfl, id⟩

theorem unique (inOrder : InOrder alike before) : Tables.Unique PaymentClaim.id after.claims := by
  rw [resolves.claims]
  exact inOrder.unique.replace new

theorem inOrder (inOrder : InOrder alike before) : InOrder alike after where
  unique := resolves.unique inOrder
  placed item listed := by
    rw [resolves.items] at listed
    by_cases same : item.claimId = new.id
    · rw [same, resolves.claim?_self]
      rfl
    · rw [resolves.claim?_of_ne same]
      exact inOrder.placed item listed
  balanced claim member := by
    rcases resolves.origin member with ⟨source, listed, same, amount, mismatch, -⟩
    rw [← mismatch, ← amount, ← same, expected, resolves.items]
    exact inOrder.balanced source listed
  exclusive plain := by
    intro first memberFirst second memberSecond activeFirst activeSecond slotId one two
    rcases resolves.origin memberFirst with ⟨source, listed, same, -, -, active⟩
    rcases resolves.origin memberSecond with ⟨other, listedOther, sameOther, -, -, activeOther⟩
    have single := inOrder.exclusive plain source listed other listedOther (active activeFirst)
      (activeOther activeSecond) slotId ((resolves.names same.symm).mp one)
      ((resolves.names sameOther.symm).mp two)
    refine List.inj_on_of_nodup_map (resolves.unique inOrder) memberFirst memberSecond ?_
    rw [← same, ← sameOther, single]

theorem claimedBySbp (inOrder : InOrder alike before)
    (taken : after.claimedBySbp slotId = true) : before.claimedBySbp slotId = true := by
  rcases (claimedBySbp_iff (resolves.inOrder inOrder)).mp taken with
    ⟨claim, member, active, names⟩
  rcases resolves.origin member with ⟨source, listed, same, -, -, was⟩
  exact (claimedBySbp_iff inOrder).mpr
    ⟨source, listed, was active, (resolves.names same.symm).mp names⟩

end Resolves

/-! ## The contract -/

/-- A resolved claim is still there as it was, and an open one is still there. -/
def Settled (before after : Db) : Prop :=
  ∀ id claim, before.claim? id = some claim ->
    ∃ now, after.claim? id = some now ∧ (claim.status ≠ .claimed -> now = claim)

/-- What a session may change under its locks. -/
structure Guarded (alike : Prop) (spell : RowId -> UuidText) (held : List Lock)
    (before after : Db) : Prop where
  changed : ∀ id, after.claim? id ≠ before.claim? id -> WriteLocked held (.claim id)
  settled : Settled before after
  paid : alike -> ∀ slotId, after.claimedBySbp slotId = true ->
    before.claimedBySbp slotId = false ->
      WriteLocked held (.advisory (.payClaim (spell slotId)))

def contract (alike : Prop) (spell : RowId -> UuidText) : Contract Db Lock where
  Good := InOrder alike
  Guarantee _ := Guarded alike spell

theorem settled_refl (db : Db) : Settled db db :=
  fun _ claim found => ⟨claim, found, fun _ => rfl⟩

theorem Settled.trans {first second third : Db} (one : Settled first second)
    (two : Settled second third) : Settled first third := by
  intro id claim found
  rcases one id claim found with ⟨now, read, kept⟩
  rcases two id now read with ⟨last, readLast, keptLast⟩
  refine ⟨last, readLast, fun resolved => ?_⟩
  have same := kept resolved
  rw [keptLast (same ▸ resolved), same]

def SameJournal (before after : Db) : Prop :=
  after.claims = before.claims ∧ after.claimItems = before.claimItems

private theorem SameJournal.claim? (same : SameJournal before after) (id : RowId) :
    after.claim? id = before.claim? id := by
  rw [Db.claim?, same.1, Db.claim?]

private theorem SameJournal.claimedBySbp (same : SameJournal before after) (slotId : RowId) :
    after.claimedBySbp slotId = before.claimedBySbp slotId := by
  simp only [Db.claimedBySbp, same.2, same.claim?]

theorem SameJournal.inOrder (same : SameJournal before after)
    (inOrder : InOrder alike before) : InOrder alike after where
  unique := same.1.symm ▸ inOrder.unique
  placed item listed := by
    rw [same.claim?]
    exact inOrder.placed item (same.2 ▸ listed)
  balanced claim member := by
    rw [expected, same.2]
    exact inOrder.balanced claim (same.1 ▸ member)
  exclusive plain := by
    simp only [Exclusive, Names, same.1, same.2]
    exact inOrder.exclusive plain

theorem SameJournal.guarded (same : SameJournal before after) (held : List Lock) :
    Guarded alike spell held before after where
  changed id different := absurd (same.claim? id) different
  settled id claim found := ⟨claim, (same.claim? id).trans found, fun _ => rfl⟩
  paid _ slotId taken free := by
    rw [same.claimedBySbp, free] at taken
    cases taken

theorem Opens.guarded {held : List Lock} (opens : Opens before after claim records)
    (inOrder : InOrder alike before) (mine : (LockTarget.claim claim.id).forUpdate ∈ held)
    (slots : alike -> ∀ record, record ∈ records -> ∀ slotId, record.slotId = some slotId ->
        WriteLocked held (.advisory (.payClaim (spell slotId))))
    (inOrderAfter : InOrder alike after) : Guarded alike spell held before after where
  changed id different := by
    by_cases same : claim.id = id
    · exact same ▸ WriteLocked.of_mem mine
    · refine absurd ?_ different
      rw [opens.claim?, if_neg same, Option.or_none]
  settled id old found := ⟨old, opens.kept found, fun _ => rfl⟩
  paid plain slotId taken free := by
    rcases (claimedBySbp_iff inOrderAfter).mp taken with ⟨holder, member, active, names⟩
    rw [opens.claims] at member
    rcases List.mem_append.mp member with old | new
    · have takenBefore : before.claimedBySbp slotId = true :=
        (claimedBySbp_iff inOrder).mpr ⟨holder, old, active, (opens.names_old old).mp names⟩
      rw [free] at takenBefore
      cases takenBefore
    · rw [List.mem_singleton.mp new] at names
      rcases opens.names_new inOrder names with ⟨record, listed, named⟩
      exact slots plain record listed slotId named

theorem Resolves.guarded {held : List Lock} {old new : PaymentClaim}
    (resolves : Resolves before after old new) (inOrder : InOrder alike before)
    (mine : WriteLocked held (.claim new.id)) : Guarded alike spell held before after where
  changed id different := by
    by_cases same : id = new.id
    · rw [same]
      exact mine
    · exact absurd (resolves.claim?_of_ne same) different
  settled id claim found := by
    by_cases same : id = new.id
    · rw [same, resolves.found, Option.some.injEq] at found
      refine ⟨new, same ▸ resolves.claim?_self, fun resolved => ?_⟩
      exact absurd (found ▸ resolves.wasOpen) resolved
    · exact ⟨claim, (resolves.claim?_of_ne same).trans found, fun _ => rfl⟩
  paid _ slotId taken free := by
    rw [resolves.claimedBySbp inOrder taken] at free
    cases free

theorem sameJournal_drift (change : Drift) (db : Db) : SameJournal db (db.drift change) :=
  ⟨(drift_untouched change db).claims, (drift_untouched change db).claimItems⟩

theorem steady : Contract.Steady (contract alike spell) store where
  drift change db good := (sameJournal_drift change db).inOrder good
  close session held db good :=
    have same : SameJournal db (store.close session db) := ⟨rfl, rfl⟩
    ⟨same.inOrder good, same.guarded held⟩

variable {session : Nat} {held : List Lock} {pending : List Write}
  {known : RowId -> Prop} {claimId : RowId}

/-- Nobody else opens a claim for a slot whose lock the session holds. -/
def Free (alike : Prop) (known : RowId -> Prop) (db : Db) : Prop :=
  alike -> ∀ slotId, known slotId -> db.claimedBySbp slotId = false

def SlotsLocked (alike : Prop) (spell : RowId -> UuidText) (held : List Lock)
    (known : RowId -> Prop) : Prop :=
  alike -> ∀ slotId, known slotId ->
    WriteLocked held (.advisory (.payClaim (spell slotId)))

theorem free_stable (session : Nat) (locked : SlotsLocked alike spell held known) :
    (contract alike spell).Stable store session held (Free alike known) := by
  rintro before after free ⟨-, -, ⟨change, rfl⟩ | ⟨other, theirs, -, apart, kept⟩⟩ same slotId named
  · rw [store_drift, (sameJournal_drift change before).claimedBySbp]
    exact free same slotId named
  · cases taken : after.claimedBySbp slotId with
    | false => rfl
    | true =>
      have theirLock := kept.paid same slotId taken (free same slotId named)
      exact absurd theirLock ((locked same slotId named).excludes apart)

theorem claim_stable (session : Nat) (locked : WriteLocked held (.claim claimId))
    (value : Option PaymentClaim) :
    (contract alike spell).Stable store session held fun now => now.claim? claimId = value := by
  rintro before after read ⟨-, -, ⟨change, rfl⟩ | ⟨other, theirs, -, apart, kept⟩⟩
  · rw [store_drift, (sameJournal_drift change before).claim?]
    exact read
  · by_contra changed
    exact locked.excludes apart (kept.changed claimId fun same => changed (same.trans read))

abbrev Safe (alike : Prop) (spell : RowId -> UuidText) (session : Nat) (program : Program)
    (held : List Lock) (pending : List Write) (db : Db) : Prop :=
  (contract alike spell).Safe store (fun _ _ => True) session program held pending db

private theorem always_stable (session : Nat) (held : List Lock) :
    (contract alike spell).Stable store session held fun _ => True :=
  Contract.Stable.const session held True

theorem lockClaimedSlots_safe {next : Program} {items : List ClaimItemInput}
    (good : InOrder alike db) (went : ∀ locks now,
      (∀ item, item ∈ items -> ∀ text, item.slotId = some text ->
        (AdvisoryKey.payClaim text).lock ∈ locks) ->
        InOrder alike now -> Safe alike spell session next (locks ++ held) [] now) :
    Safe alike spell session (Program.lockClaimedSlots next items) held [] db := by
  induction items generalizing held db with
  | nil => exact went [] db (fun _ member => absurd member List.not_mem_nil) good
  | cons item rest extend =>
    unfold Program.lockClaimedSlots
    split
    · next absent =>
      refine extend good fun locks now locked good => went locks now ?_ good
      intro other member text named
      rcases List.mem_cons.mp member with rfl | member
      · rw [absent] at named
        cases named
      · exact locked other member text named
    · next slotId present =>
      refine Program.Safe.locking _ (always_stable session held) trivial (fun _ _ _ => trivial)
        fun now _ good => extend good fun locks now locked good => ?_
      rw [← List.append_assoc]
      refine went _ now ?_ good
      intro other member text named
      rcases List.mem_cons.mp member with rfl | member
      · rw [present, Option.some.injEq] at named
        exact named ▸ List.mem_append_right locks List.mem_cons_self
      · exact List.mem_append_left _ (locked other member text named)

theorem checkPaymentMethod_safe {initiatedBy : ClaimInitiator} {input : CreateClaimInput}
    {next : Program} (good : InOrder alike db)
    (went : ∀ now, InOrder alike now -> Safe alike spell session next held [] now) :
    Safe alike spell session (Program.checkPaymentMethod initiatedBy input next) held [] db := by
  unfold Program.checkPaymentMethod
  split
  · refine Program.Safe.query _ (always_stable session held) trivial (fun _ _ _ => trivial)
      fun now _ good => ?_
    split
    · exact Program.Safe.refused
    · split
      · exact Program.Safe.refused
      · exact went now good
  · exact went db good

theorem checkClaimItem_safe {input : CreateClaimInput} {item : ClaimItemInput}
    {next : PaymentClaimItem -> Program}
    (locked : SlotsLocked alike spell held known) (free : Free alike known db)
    (went : ∀ record now, record.claimId = claimId -> (∀ slotId, record.slotId = some slotId ->
        ∃ text, item.slotId = some text ∧ text.id = slotId) ->
      Free alike (fun slotId => known slotId ∨ record.slotId = some slotId) now ->
        InOrder alike now -> Safe alike spell session (next record) held [] now) :
    Safe alike spell session (Program.checkClaimItem claimId input item next) held [] db := by
  have stable := free_stable session locked
  unfold Program.checkClaimItem
  split
  · next slotId present _ =>
    refine Program.Safe.query _ stable free (fun _ _ _ => trivial) fun now free _ => ?_
    split
    · exact Program.Safe.refused
    · split
      · exact Program.Safe.refused
      · refine Program.Safe.query _ stable free (fun _ _ _ => trivial) fun now free _ => ?_
        beta_reduce
        split
        · exact Program.Safe.refused
        · refine Program.Safe.query _ stable free (fun _ _ _ => trivial) fun now free good => ?_
          split
          · exact Program.Safe.refused
          · next unpaid =>
            refine went _ now rfl ?_ ?_ good
            · rintro other named
              exact ⟨slotId, present, Option.some.inj named⟩
            · rintro same other (old | named)
              · exact free same other old
              · simp only [Store.applyAll_nil, Db.slotAlreadyPaid, Bool.or_eq_true, not_or,
                  Bool.not_eq_true] at unpaid
                rw [← Option.some.inj named]
                exact unpaid.1.1
  · refine Program.Safe.query _ stable free (fun _ _ _ => trivial) fun now free good => ?_
    split
    · exact Program.Safe.refused
    · split
      · exact Program.Safe.refused
      · refine went _ now rfl (fun _ named => by cases named) ?_ good
        rintro same other (old | named)
        · exact free same other old
        · cases named
  · exact Program.Safe.refused

theorem checkClaimItems_safe {input : CreateClaimInput} {items : List ClaimItemInput}
    {next : List PaymentClaimItem -> Program} (good : InOrder alike db)
    (spelled : alike -> ∀ item, item ∈ items -> ∀ text, item.slotId = some text ->
      WriteLocked held (.advisory (.payClaim (spell text.id))))
    (locked : SlotsLocked alike spell held known) (free : Free alike known db)
    (went : ∀ records now, (∀ record, record ∈ records -> record.claimId = claimId) ->
      SlotsLocked alike spell held
        (fun slotId => ∃ record, record ∈ records ∧ record.slotId = some slotId) ->
      Free alike (fun slotId => known slotId ∨
        ∃ record, record ∈ records ∧ record.slotId = some slotId) now ->
        InOrder alike now -> Safe alike spell session (next records) held [] now) :
    Safe alike spell session (Program.checkClaimItems claimId input items next) held [] db := by
  induction items generalizing known next db with
  | nil =>
    refine went [] db (fun _ member => absurd member List.not_mem_nil) ?_ ?_ good
    · rintro - slotId ⟨record, member, -⟩
      cases member
    · rintro same slotId (old | ⟨record, member, -⟩)
      · exact free same slotId old
      · cases member
  | cons item rest extend =>
    apply checkClaimItem_safe locked free
    intro record now owned placed free good
    have recordLocked : SlotsLocked alike spell held fun slotId => record.slotId = some slotId := by
      intro same slotId named
      rcases placed slotId named with ⟨text, present, rfl⟩
      exact spelled same item List.mem_cons_self text present
    have bothLocked : SlotsLocked alike spell held
        fun slotId => known slotId ∨ record.slotId = some slotId := by
      rintro same slotId (old | named)
      · exact locked same slotId old
      · exact recordLocked same slotId named
    refine extend good (fun same other member => spelled same other (List.mem_cons_of_mem _ member))
      bothLocked free fun records now allOwned allLocked allFree good => ?_
    refine went (record :: records) now ?_ ?_ ?_ good
    · intro other member
      rcases List.mem_cons.mp member with rfl | member
      · exact owned
      · exact allOwned other member
    · rintro same slotId ⟨other, member, named⟩
      rcases List.mem_cons.mp member with rfl | member
      · exact recordLocked same slotId named
      · exact allLocked same slotId ⟨other, member, named⟩
    · rintro same slotId (old | ⟨other, member, named⟩)
      · exact allFree same slotId (Or.inl (Or.inl old))
      · rcases List.mem_cons.mp member with rfl | member
        · exact allFree same slotId (Or.inl (Or.inr named))
        · exact allFree same slotId (Or.inr ⟨other, member, named⟩)

theorem insertClaimItems_safe {next : Program} {records : List PaymentClaimItem} {P : Db -> Prop}
    (stable : (contract alike spell).Stable store session held P) (start : P db)
    (good : InOrder alike db) (went : ∀ locks now, P now -> InOrder alike now ->
      Safe alike spell session next (locks ++ held) (pending ++ records.map Write.claimItem) now) :
    Safe alike spell session (Program.insertClaimItems next records) held pending db := by
  induction records generalizing held pending db with
  | nil =>
    have here := went [] db start good
    rwa [List.map_nil, List.append_nil] at here
  | cons record rest extend =>
    refine Program.Safe.checked P stable start (fun _ _ _ => trivial) fun now holds good _ => ?_
    apply extend (stable.append _) holds good
    intro locks now holds good
    rw [← List.append_assoc, List.append_assoc pending, List.singleton_append]
    exact went _ now holds good

theorem applyAll_claimItems (records : List PaymentClaimItem) (db : Db) :
    (store.applyAll db (records.map Write.claimItem)).claims = db.claims ∧
      (store.applyAll db (records.map Write.claimItem)).claimItems = db.claimItems ++ records := by
  induction records generalizing db with
  | nil => exact ⟨rfl, (List.append_nil _).symm⟩
  | cons record rest extend =>
    rcases extend (db.apply (.claimItem record)) with ⟨claims, items⟩
    rw [List.map_cons, Store.applyAll_cons, store_apply]
    refine ⟨claims, items.trans ?_⟩
    rw [Db.apply, List.append_assoc, List.singleton_append]

theorem opens_applyAll (fresh : db.claim? claim.id = none)
    (owned : ∀ record, record ∈ records -> record.claimId = claim.id)
    (mismatch : claim.amountMismatchKopecks =
      (claim.amountKopecks : Int) - (Program.expectedSum records : Int)) :
    Opens db (store.applyAll db ([.claim (.insert claim)] ++ records.map Write.claimItem)) claim
      records := by
  rcases applyAll_claimItems records (db.apply (.claim (.insert claim))) with ⟨claims, items⟩
  exact ⟨claims, items, fresh, owned, mismatch⟩

theorem createClaimInTx_safe {initiatedBy : ClaimInitiator} {input : CreateClaimInput}
    {amountKopecks : Nat} (spelled : alike -> ∀ item, item ∈ input.items -> ∀ text,
      item.slotId = some text -> text = spell text.id) :
    Safe alike spell session (Program.createClaimInTx session initiatedBy input amountKopecks)
      [] [] db := by
  unfold Program.createClaimInTx
  extract_lets claimId
  refine Program.Safe.begin _ (always_stable session []) trivial (fun _ _ _ => trivial)
    fun begun _ good => lockClaimedSlots_safe good fun locks now locked good =>
      checkPaymentMethod_safe good fun now good => ?_
  have itemsLocked : alike -> ∀ item, item ∈ input.items -> ∀ text,
      item.slotId = some text ->
        WriteLocked (locks ++ []) (.advisory (.payClaim (spell text.id))) := by
    intro same item member text named
    rw [← spelled same item member text named]
    exact WriteLocked.of_mem (List.mem_append_left _ (locked item member text named))
  have noSlots : SlotsLocked alike spell (locks ++ []) fun _ => False :=
    fun _ _ none => none.elim
  refine checkClaimItems_safe good itemsLocked noSlots (fun _ _ none => none.elim)
    fun records now owned slotsLocked free good => ?_
  have slotsStable := free_stable session slotsLocked
  have slotsFree : Free alike
      (fun slotId => ∃ record, record ∈ records ∧ record.slotId = some slotId) now :=
    fun same slotId named => free same slotId (Or.inr named)
  refine Program.Safe.checked _ slotsStable slotsFree (fun _ _ _ => trivial)
    fun now slotsFree good unseen => ?_
  have mine : (LockTarget.claim claimId).forUpdate ∈
      [(LockTarget.claim claimId).forUpdate] ++ (locks ++ []) := List.mem_cons_self
  have fresh : now.claim? claimId = none := by
    rw [Store.applyAll_nil] at unseen
    exact Option.isSome_eq_false_iff.mp unseen |> Option.isNone_iff_eq_none.mp
  have stable := (slotsStable.append [(LockTarget.claim claimId).forUpdate]).and
    (claim_stable session (WriteLocked.of_mem mine) none)
  apply insertClaimItems_safe stable ⟨slotsFree, fresh⟩ good
  intro more now holds good
  let row := Program.newClaim claimId begun.clock initiatedBy input amountKopecks records
  have opens : ∀ last : Db, last.claim? claimId = none ->
      Opens last (store.applyAll last ([Write.claim (.insert row)] ++ records.map Write.claimItem))
        row records :=
    fun last fresh => opens_applyAll fresh owned rfl
  refine Contract.Safe.commit _ (stable.append more) holds (fun last holds good => ?_)
    (fun _ _ _ => trivial) (fun _ _ _ => trivial) fun _ _ _ => trivial
  have inOrder := (opens last holds.2).inOrder good fun same record member slotId named =>
    holds.1 same slotId ⟨record, member, named⟩
  refine ⟨inOrder, (opens last holds.2).guarded good (List.mem_append_right more mine)
    (fun same record member slotId named => ?_) inOrder⟩
  exact ((slotsLocked same slotId ⟨record, member, named⟩).append _).append more

theorem resolveClaim_safe {mayResolve mayRead : PaymentClaim -> Bool}
    {resolve : Nat -> PaymentClaim -> PaymentClaim} {resolved : String}
    (sameId : ∀ now claim, (resolve now claim).id = claim.id)
    (sameAmount : ∀ now claim, (resolve now claim).amountKopecks = claim.amountKopecks)
    (sameMismatch : ∀ now claim,
      (resolve now claim).amountMismatchKopecks = claim.amountMismatchKopecks) :
    Safe alike spell session (Program.resolveClaim claimId mayResolve mayRead resolve resolved)
      [] [] db := by
  have answered : ∀ (found : Option PaymentClaim) after,
      (∀ now, Safe alike spell session (after now now) [] [] now) -> ∀ last,
      Safe alike spell session
        (if found.isSome then Program.notOk resolved
          else Program.query Program.thrown after) [] [] last := by
    intro found after each last
    split
    · trivial
    · exact Program.Safe.query _ (always_stable session []) trivial (fun _ _ _ => trivial)
        fun now _ _ => each now
  have mine : WriteLocked ([(LockTarget.claim claimId).forNoKeyUpdate] ++ []) (.claim claimId) :=
    WriteLocked.head_noKeyUpdate
  unfold Program.resolveClaim
  extract_lets reached
  refine Program.Safe.begin _ (always_stable session []) trivial (fun _ _ _ => trivial)
    fun begun _ _ => ?_
  refine Program.Safe.execute _ (always_stable session []) trivial (fun _ _ _ => trivial)
    fun now _ _ => ?_
  rw [Store.applyAll_nil]
  cases read : reached now with
  | none =>
    refine Contract.Safe.commit _ (always_stable session _) trivial (fun last _ good => ?_)
      (fun _ _ _ => answered none _ (fun _ => by split <;> trivial) _)
      (fun _ _ _ => trivial) fun _ _ _ => trivial
    exact ⟨good, SameJournal.guarded ⟨rfl, rfl⟩ _⟩
  | some claim =>
    rcases Option.filter_eq_some_iff.mp read with ⟨found, may⟩
    have wasOpen : claim.status = .claimed := by
      rw [Bool.and_eq_true, decide_eq_true_eq] at may
      exact may.1
    have key : claim.id = claimId := key_of_get found
    refine Contract.Safe.commit _ (claim_stable session mine (some claim)) found
      (fun last found good => ?_)
      (fun _ _ _ => answered (some claim) _ (fun _ => by split <;> trivial) _)
      (fun _ _ _ => trivial) fun _ _ _ => trivial
    have resolves : Resolves last
        (store.applyAll last ([] ++ [.claim (.replace (resolve begun.clock claim))])) claim
        (resolve begun.clock claim) := by
      refine ⟨rfl, rfl, ?_, wasOpen, sameAmount _ _, sameMismatch _ _⟩
      rw [sameId, key]
      exact found
    refine ⟨resolves.inOrder good, resolves.guarded good ?_⟩
    rw [sameId, key]
    exact mine

/-! ## Runs -/

inductive Request where
  | createLearnerClaim (input : CreateClaimInput)
  | createTeacherMarkPaid (input : CreateClaimInput)
  | confirmClaim (teacherAccountId claimId : RowId)
  | declineClaim (teacherAccountId claimId : RowId) (note : Option String)
  | cancelClaimByLearner (learnerAccountId claimId : RowId)

namespace Request

def program (session : Nat) : Request -> Program
  | .createLearnerClaim input => .createLearnerClaim session input
  | .createTeacherMarkPaid input => .createTeacherMarkPaid session input
  | .confirmClaim teacherAccountId claimId => .confirmClaim teacherAccountId claimId
  | .declineClaim teacherAccountId claimId note => .declineClaim teacherAccountId claimId note
  | .cancelClaimByLearner learnerAccountId claimId =>
    .cancelClaimByLearner learnerAccountId claimId

def slotTexts : Request -> List UuidText
  | .createLearnerClaim input => input.items.filterMap ClaimItemInput.slotId
  | .createTeacherMarkPaid input => input.items.filterMap ClaimItemInput.slotId
  | _ => []

end Request

def opening (db : Db) (requests : Nat -> Request) : State :=
  State.start db fun session => (requests session).program session

/-- Wherever two items of the run name one slot, they spell it alike. -/
def SpelledAlike (requests : Nat -> Request) : Prop :=
  ∃ spell : RowId -> UuidText, ∀ session text,
    text ∈ (requests session).slotTexts -> text = spell text.id

theorem request_safe (request : Request)
    (spelled : alike -> ∀ text, text ∈ request.slotTexts -> text = spell text.id) :
    Safe alike spell session (request.program session) [] [] db := by
  cases request with
  | createLearnerClaim input =>
    simp only [Request.program, Program.createLearnerClaim]
    split
    · trivial
    · split
      · trivial
      · exact createClaimInTx_safe fun same item member text named =>
          spelled same text (List.mem_filterMap.mpr ⟨item, member, named⟩)
  | createTeacherMarkPaid input =>
    have created : ∀ amountKopecks now, Safe alike spell session
        (Program.createClaimInTx session .teacher input amountKopecks) [] [] now :=
      fun _ _ => createClaimInTx_safe fun same item member text named =>
        spelled same text (List.mem_filterMap.mpr ⟨item, member, named⟩)
    simp only [Request.program, Program.createTeacherMarkPaid]
    split
    · trivial
    · split
      · exact created _ _
      · trivial
      · refine Program.Safe.query _ (always_stable session []) trivial (fun _ _ _ => trivial)
          fun now _ _ => ?_
        beta_reduce
        split
        · trivial
        · exact created _ _
  | confirmClaim teacherAccountId claimId =>
    simp only [Request.program, Program.confirmClaim]
    refine resolveClaim_safe ?_ ?_ ?_ <;> exact fun _ _ => rfl
  | declineClaim teacherAccountId claimId note =>
    simp only [Request.program, Program.declineClaim]
    refine resolveClaim_safe ?_ ?_ ?_ <;> exact fun _ _ => rfl
  | cancelClaimByLearner learnerAccountId claimId =>
    simp only [Request.program, Program.cancelClaimByLearner]
    refine resolveClaim_safe ?_ ?_ ?_ <;> exact fun _ _ => rfl

private theorem settled_of_moves {first last : Db}
    (moved : Relation.ReflTransGen (Contract.Moves (contract alike spell) store) first last) :
    Settled first last := by
  induction moved with
  | refl => exact settled_refl _
  | tail _ move settled =>
    refine settled.trans ?_
    rcases move.2.2 with rfl | ⟨change, rfl⟩ | ⟨session, held, kept⟩
    · exact settled_refl _
    · exact (@SameJournal.guarded alike spell _ _ (sameJournal_drift change _) []).settled
    · exact kept.settled

theorem sound_of_reaches {requests : Nat -> Request} (alike : Prop) (spell : RowId -> UuidText)
    (spelled : alike -> ∀ session text, text ∈ (requests session).slotTexts -> text = spell text.id)
    (start : InOrder alike db) {first last : State}
    (reachedFirst : Reaches store (fun _ _ => True) (opening db requests) first)
    (reached : Reaches store (fun _ _ => True) first last) :
    InOrder alike last.db ∧ Settled first.db last.db := by
  have sound : Contract.Sound (contract alike spell) store (fun _ _ => True)
      (opening db requests) :=
    Contract.Sound.start start fun session =>
      request_safe (requests session) fun same text => spelled same session text
  have soundFirst := (sound.reaches steady reachedFirst).1
  rcases soundFirst.reaches steady reached with ⟨soundLast, moved⟩
  exact ⟨soundLast.good, settled_of_moves moved⟩

/-- In every state that is reached the mismatches are right, resolved claims have stayed
as they were, and, in a run that spells slots alike, a slot is in one active claim. -/
theorem claims_in_order (db : Db) (requests : Nat -> Request) (start : InOrder True db)
    (first last : State)
    (reachedFirst : Reaches store (fun _ _ => True) (opening db requests) first)
    (reached : Reaches store (fun _ _ => True) first last) :
    (SpelledAlike requests -> Exclusive last.db) ∧ Balanced last.db ∧ Settled first.db last.db := by
  have plain : InOrder False db := ⟨start.unique, start.placed, start.balanced, False.elim⟩
  have always := sound_of_reaches False UuidText.canonical (fun none => none.elim) plain
    reachedFirst reached
  refine ⟨?_, always.1.balanced, always.2⟩
  rintro ⟨spell, alike⟩
  exact (sound_of_reaches True spell (fun _ => alike) start reachedFirst reached).1.exclusive
    trivial

def lessonDb : Db :=
  { Db.empty with slots :=
      [Program.bookedSlot (.seeded 10) (.seeded 1) (.seeded 2) 86400000 60 none 0] }

private theorem lessonDb_inOrder : InOrder True lessonDb where
  unique := List.nodup_nil
  placed _ member := absurd member List.not_mem_nil
  balanced _ member := absurd member List.not_mem_nil
  exclusive _ _ member := absurd member List.not_mem_nil

def lessonClaim (spelling : Nat) : CreateClaimInput where
  learnerAccountId := .canonical (.seeded 2)
  teacherAccountId := .canonical (.seeded 1)
  amountKopecks := .integer 150000
  paymentChannel := .other
  paymentMethodId := none
  items := [⟨some ⟨.seeded 10, spelling⟩, none⟩]
  paidAt := none
  note := none

def claimedTwice (session : Nat) : Request :=
  .createLearnerClaim (lessonClaim session)

def doublyClaimed (db : Db) : Bool :=
  db.claims.any fun first => db.claims.any fun second =>
    first ≠ second && first.status.active && second.status.active &&
      db.claimItems.any (fun item => item.claimId = first.id && item.slotId = some (.seeded 10)) &&
      db.claimItems.any fun item => item.claimId = second.id && item.slotId = some (.seeded 10)

/-- The two requests lock different keys, and both find the lesson unpaid. -/
theorem slot_claimed_twice :
    ¬ ∀ (db : Db) (requests : Nat -> Request) (state : State), InOrder True db ->
      Reaches store (fun _ _ => True) (opening db requests) state -> Exclusive state.db := by
  intro exclusive
  let steps (session count : Nat) : List Event := Event.steps session count (.unsent "")
  rcases exists_of_play store (opening lessonDb claimedTwice)
    (steps 0 5 ++ steps 1 5 ++ steps 0 3 ++ steps 1 3) (fun db => doublyClaimed db = true)
    (by decide +kernel) with ⟨state, reached, twice⟩
  simp only [doublyClaimed, List.any_eq_true, Bool.and_eq_true, decide_eq_true_eq] at twice
  rcases twice with ⟨first, memberFirst, second, memberSecond,
    ⟨⟨⟨different, activeFirst⟩, activeSecond⟩, one⟩, two⟩
  exact different (exclusive lessonDb claimedTwice state lessonDb_inOrder reached first memberFirst
    second memberSecond activeFirst activeSecond (.seeded 10) one two)

def claimedOnce : Nat -> Request
  | 0 => .createLearnerClaim (lessonClaim 0)
  | _ => .confirmClaim (.seeded 1) (.minted 0 0)

theorem claims_in_order_confirmed :
    ∃ state, Reaches store (fun _ _ => True) (opening lessonDb claimedOnce) state ∧
      state.db.claims.map PaymentClaim.status = [.confirmed] ∧
        Exclusive state.db ∧ Balanced state.db ∧ Settled state.db state.db := by
  let steps (session count : Nat) : List Event := Event.steps session count (.unsent "")
  rcases exists_of_play store (opening lessonDb claimedOnce) (steps 0 8 ++ steps 1 3)
    (fun db => db.claims.map PaymentClaim.status = [.confirmed]) (by decide +kernel) with
    ⟨state, reached, confirmed⟩
  have alike : SpelledAlike claimedOnce := by
    refine ⟨UuidText.canonical, fun session text named => ?_⟩
    match session with
    | 0 =>
      rw [List.mem_singleton.mp named]
      rfl
    | _ + 1 => cases named
  rcases claims_in_order lessonDb claimedOnce lessonDb_inOrder state state reached (.refl state)
    with ⟨exclusive, balanced, settled⟩
  exact ⟨state, reached, confirmed, exclusive alike, balanced, settled⟩

end LevelChannel.Journal
