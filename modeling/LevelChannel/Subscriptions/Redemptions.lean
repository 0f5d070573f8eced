import LevelChannel.Subscriptions.Promo

namespace LevelChannel.Subscriptions

open ReadCommitted Tables

/-!
# Redemptions of a promo code

The counter of a code, its journal and its limit only move under the lock of the code's
row.  A redemption takes that lock before it looks at the code and keeps it to the commit,
so that what it has read still holds when its three writes take effect together.
-/

-- nothing here depends on what trimming does, and evaluating it is slow
attribute [local irreducible] jsTrim

variable {db before after : PromoDb} {session : Nat} {promoCodeId : RowId} {promo : PromoCode}

def journalOf (db : PromoDb) (promoCodeId : RowId) : List PromoRedemption :=
  db.redemptions.filter fun row => row.promoCodeId = promoCodeId

/-- Counters agree with the journal and stay within their limits, and no account has
redeemed a code twice. -/
structure Counted (db : PromoDb) : Prop where
  codes : Tables.Unique PromoCode.id db.promoCodes
  once : Tables.Unique PromoRedemption.key db.redemptions
  count : ∀ promo, promo ∈ db.promoCodes ->
    promo.redemptionCount = (journalOf db promo.id).length
  bound : ∀ promo, promo ∈ db.promoCodes -> ∀ maxRedemptions,
    promo.maxRedemptions = some maxRedemptions -> promo.redemptionCount ≤ maxRedemptions

theorem Counted.same (good : Counted before) (codes : after.promoCodes = before.promoCodes)
    (journal : after.redemptions = before.redemptions) : Counted after where
  codes := codes ▸ good.codes
  once := journal ▸ good.once
  count promo member := by
    rw [codes] at member
    rw [journalOf, journal]
    exact good.count promo member
  bound promo member := good.bound promo (codes ▸ member)

theorem Counted.redeem (good : Counted db) {row : PromoRedemption}
    (found : get PromoCode.id db.promoCodes promo.id = some promo)
    (room : ∀ maxRedemptions, promo.maxRedemptions = some maxRedemptions ->
      promo.redemptionCount < maxRedemptions) (names : row.promoCodeId = promo.id)
    (fresh : ∀ other, other ∈ journalOf db promo.id -> other.accountId ≠ row.accountId) :
    Counted ((db.apply (.redemption (.insert row))).apply
      (.promo (.replace { promo with redemptionCount := promo.redemptionCount + 1 }))) where
  codes := good.codes.replace _
  once := by
    refine good.once.insert (get_eq_none_iff.mpr fun other member same => ?_)
    simp only [PromoRedemption.key, Prod.mk.injEq] at same
    refine fresh other (List.mem_filter.mpr ⟨member, ?_⟩) same.2
    simpa [names] using same.1
  count other member := by
    rcases mem_replace member with rfl | ⟨old, different⟩
    · have counted := good.count promo (mem_of_get found)
      simp only [journalOf, PromoDb.apply, Change.apply, List.filter_append, names, decide_true,
        List.filter_cons_of_pos, List.filter_nil, List.length_append, List.length_singleton]
      rw [counted]
      rfl
    · have elsewhere : row.promoCodeId ≠ other.id := by
        rw [names]
        exact fun same => different same.symm
      have counted := good.count other old
      simp only [journalOf, PromoDb.apply, Change.apply, List.filter_append, elsewhere,
        decide_false, Bool.false_eq_true, not_false_eq_true, List.filter_cons_of_neg,
        List.filter_nil, List.append_nil]
      exact counted
  bound other member maxRedemptions limit := by
    rcases mem_replace member with rfl | ⟨old, -⟩
    · exact room maxRedemptions limit
    · exact good.bound other old maxRedemptions limit

/-! ## The contract -/

def LocksPromo (promoCodeId : RowId) (held : List PromoLock) : Prop :=
  ⟨.promo promoCodeId, .update⟩ ∈ held ∨ ⟨.promo promoCodeId, .noKeyUpdate⟩ ∈ held

theorem LocksPromo.append {held : List PromoLock} (locked : LocksPromo promoCodeId held)
    (more : List PromoLock) : LocksPromo promoCodeId (more ++ held) :=
  locked.imp (List.mem_append_right more) (List.mem_append_right more)

def SameCode (promoCodeId : RowId) (before after : PromoDb) : Prop :=
  get PromoCode.id after.promoCodes promoCodeId = get PromoCode.id before.promoCodes promoCodeId ∧
    journalOf after promoCodeId = journalOf before promoCodeId

def KeepsRevoked (promoCodeId : RowId) (before after : PromoDb) : Prop :=
  ∀ promo, get PromoCode.id before.promoCodes promoCodeId = some promo ->
    promo.revokedAt.isSome = true ->
      journalOf after promoCodeId = journalOf before promoCodeId ∧
        ∃ later, get PromoCode.id after.promoCodes promoCodeId = some later ∧
          later.revokedAt.isSome = true

def CodesGuarded (held : List PromoLock) (before after : PromoDb) : Prop :=
  ∀ promoCodeId, SameCode promoCodeId before after ∨
    (LocksPromo promoCodeId held ∧ KeepsRevoked promoCodeId before after)

def redemptionContract : Contract PromoDb PromoLock where
  Good := Counted
  Guarantee _ := CodesGuarded

theorem CodesGuarded.same (codes : after.promoCodes = before.promoCodes)
    (journal : after.redemptions = before.redemptions) (held : List PromoLock) :
    CodesGuarded held before after :=
  fun _ => Or.inl ⟨by rw [codes], by rw [journalOf, journalOf, journal]⟩

theorem drift_codes (change : PromoDrift) (db : PromoDb) :
    (promoStore.drift change db).promoCodes = db.promoCodes ∧
      (promoStore.drift change db).redemptions = db.redemptions := by
  cases change <;> exact ⟨rfl, rfl⟩

theorem redemption_steady : Contract.Steady redemptionContract promoStore where
  drift change db good :=
    Counted.same good (drift_codes change db).1 (drift_codes change db).2
  close _ held _ good := ⟨good, CodesGuarded.same rfl rfl held⟩

theorem stable_code {held : List PromoLock} (locked : LocksPromo promoCodeId held)
    (known : Option PromoCode) (journal : List PromoRedemption) :
    redemptionContract.Stable promoStore session held fun now =>
      get PromoCode.id now.promoCodes promoCodeId = known ∧
        journalOf now promoCodeId = journal := by
  rintro before after ⟨read, listed⟩
    ⟨-, -, ⟨change, rfl⟩ | ⟨other, theirs, -, apart, guarded⟩⟩
  · rw [(drift_codes change before).1, journalOf, (drift_codes change before).2]
    exact ⟨read, listed⟩
  · rcases guarded promoCodeId with ⟨row, rows⟩ | ⟨theirLock, -⟩
    · rw [row, rows]
      exact ⟨read, listed⟩
    · exfalso
      rcases locked with mine | mine <;> rcases theirLock with foreign | foreign <;>
        exact apart.not_mem mine (by simp [promoStore, PromoLock.conflict, LockMode.conflicts])
          foreign

theorem refusal_eq_none {now : Nat} (passed : promo.refusal now = none) :
    promo.revokedAt = none ∧ ∀ maxRedemptions,
      promo.maxRedemptions = some maxRedemptions -> promo.redemptionCount < maxRedemptions := by
  rw [PromoCode.refusal] at passed
  split at passed
  · cases passed
  · next unrevoked =>
    split at passed
    · cases passed
    · split at passed
      · cases passed
      · split at passed
        · cases passed
        · next room =>
          refine ⟨by simpa using unrevoked, fun maxRedemptions limit => ?_⟩
          simpa [limit] using room

section Redeeming

variable (session promo) (accountId : RowId) (now dbNow : Nat)

theorem redeemWrites_safe {held : List PromoLock} (locked : LocksPromo promo.id held)
    (passed : promo.refusal now = none) {journal : List PromoRedemption}
    (known : get PromoCode.id db.promoCodes promo.id = some promo ∧
      journalOf db promo.id = journal) :
    redemptionContract.Safe promoStore (fun _ _ => True) session
      (redeemWrites session promo accountId now dbNow) held [] db := by
  unfold redeemWrites
  extract_lets thrown row
  have ended : ∀ later, redemptionContract.Good later ->
      redemptionContract.Safe promoStore (fun _ _ => True) session thrown [] [] later :=
    fun _ _ => trivial
  have stable := @stable_code session promo.id held locked (some promo) journal
  apply Contract.Safe.writing _ stable known ended
  intro written still good _
  apply Contract.Safe.guarded _ (stable.append _) still ended
  intro journaled here _ _ free
  have fresh : ∀ other, other ∈ journal -> other.accountId ≠ row.accountId := by
    intro other member same
    rw [← here.2] at member
    rcases List.mem_filter.mp member with ⟨listed, names⟩
    have refused : redemptionRejects row journaled = true := by
      refine List.any_eq_true.mpr ⟨other, listed, ?_⟩
      have key : other.key = row.key := Prod.ext (of_decide_eq_true names) same
      simp [key]
    have accepted : redemptionRejects row journaled = false := free
    rw [refused] at accepted
    cases accepted
  have stableTwo := (stable.append [(PromoTarget.subscription accountId).alone]).append
    [(PromoTarget.redemption row.key).alone]
  apply Contract.Safe.writing _ stableTwo here ended
  intro counted there _ _
  have bump (own : PromoDb) (same : own.promoCodes = counted.promoCodes) :
      countRedemption own promo.id =
        [.promo (.replace { promo with redemptionCount := promo.redemptionCount + 1 })] := by
    rw [countRedemption, same, there.1]
  rw [bump _ (by rfl)]
  refine Contract.Safe.last _ (stableTwo.append _) there ?_ (fun _ _ => trivial) ended
  intro final last goodLast
  have fits := refusal_eq_none passed
  have redeemed := Counted.redeem goodLast last.1 fits.2 (by rfl)
    (fun other member => fresh other (last.2 ▸ member))
  refine ⟨Counted.same redeemed rfl rfl, fun other => ?_⟩
  by_cases same : other = promo.id
  · subst other
    refine Or.inr ⟨((locked.append _).append _).append _, fun found read revoked => ?_⟩
    rw [last.1, Option.some.injEq] at read
    rw [← read, fits.1] at revoked
    cases revoked
  · refine Or.inl ⟨get_replace_of_ne _ same, ?_⟩
    have elsewhere : row.promoCodeId ≠ other := fun clash => same clash.symm
    rw [journalOf]
    change (final.redemptions ++ [row]).filter _ = _
    rw [List.filter_append, journalOf]
    simp [elsewhere]

theorem rollback_safe (held : List PromoLock) (reply : PromoReply) (db : PromoDb) :
    redemptionContract.Safe promoStore (fun _ _ => True) session
      (.rollback (.done reply) : PromoProgram) held [] db :=
  Contract.Safe.rollback (fun _ => True) (Contract.Stable.const session held True) trivial
    fun _ _ _ => trivial

theorem redeemSubscriptionGate_safe {held : List PromoLock} (locked : LocksPromo promo.id held)
    (passed : promo.refusal now = none) {journal : List PromoRedemption}
    (known : get PromoCode.id db.promoCodes promo.id = some promo ∧
      journalOf db promo.id = journal) :
    redemptionContract.Safe promoStore (fun _ _ => True) session
      (redeemSubscriptionGate session promo accountId now dbNow) held [] db := by
  unfold redeemSubscriptionGate
  extract_lets thrown gate
  have stable := @stable_code session promo.id held locked (some promo) journal
  have gated {more : List PromoLock} (still : LocksPromo promo.id more) {later : PromoDb}
      (here : get PromoCode.id later.promoCodes promo.id = some promo ∧
        journalOf later promo.id = journal) (currentSub : Option TeacherSubscription) :
      redemptionContract.Safe promoStore (fun _ _ => True) session (gate currentSub) more []
        later := by
    change redemptionContract.Safe promoStore _ session (if _ then _ else _) more [] later
    split
    · exact rollback_safe session _ _ _
    · exact redeemWrites_safe session promo accountId now dbNow still passed here
  refine Contract.Safe.reading _ stable known (fun _ _ => trivial) fun seen here _ _ => ?_
  split
  · exact gated locked here none
  · refine Contract.Safe.acquiring _ stable here (fun _ _ => trivial) fun own there _ _ => ?_
    exact gated (locked.append _) there _

theorem redeemAccountGate_safe {held : List PromoLock} (locked : LocksPromo promo.id held)
    (passed : promo.refusal now = none) {journal : List PromoRedemption}
    (known : get PromoCode.id db.promoCodes promo.id = some promo ∧
      journalOf db promo.id = journal) :
    redemptionContract.Safe promoStore (fun _ _ => True) session
      (redeemAccountGate session promo accountId now dbNow) held [] db := by
  unfold redeemAccountGate
  extract_lets thrown
  have stable := @stable_code session promo.id held locked (some promo) journal
  refine Contract.Safe.acquiring _ stable known (fun _ _ => trivial) fun own here _ _ => ?_
  split
  · exact rollback_safe session _ _ _
  · refine Contract.Safe.reading _ (stable.append _) here (fun _ _ => trivial)
      fun own there _ _ => ?_
    split
    · exact rollback_safe session _ _ _
    · exact redeemSubscriptionGate_safe session promo accountId now dbNow (locked.append _)
        passed there

theorem redeemPromoCode_safe (codeRaw : String) (db : PromoDb) :
    redemptionContract.Safe promoStore (fun _ _ => True) session
      (redeemPromoCode session codeRaw accountId) [] [] db := by
  unfold redeemPromoCode
  extract_lets thrown refuse code
  have ended : ∀ later, redemptionContract.Good later ->
      redemptionContract.Safe promoStore (fun _ _ => True) session thrown [] [] later :=
    fun _ _ => trivial
  have always (held : List PromoLock) :
      redemptionContract.Stable promoStore session held fun _ => True :=
    Contract.Stable.const session held True
  split
  · trivial
  apply Contract.Safe.reading _ (always _) trivial ended
  intro begun _ _ _
  apply Contract.Safe.acquiring _ (always _) trivial ended
  intro _ _ _ _
  apply Contract.Safe.reading _ (always _) trivial ended
  intro found _ _ _
  split
  · exact rollback_safe session _ _ _
  · next row _ =>
    apply Contract.Safe.acquiring _ (always _) trivial ended
    intro own _ _ _
    split
    · exact rollback_safe session _ _ _
    · next promo read =>
      have key : row.id = promo.id := (key_of_get read).symm
      rw [key] at read ⊢
      have locked : LocksPromo promo.id
          ([(PromoTarget.promo promo.id).alone] ++
            ([(PromoTarget.code (toLowerCase code)).alone] ++ [])) :=
        Or.inl List.mem_cons_self
      refine Contract.Safe.reading _
        (@stable_code session promo.id _ locked (some promo) (journalOf own promo.id))
        ⟨read, rfl⟩ ended fun called here _ _ => ?_
      split
      · exact rollback_safe session _ _ _
      · next passed =>
        exact redeemAccountGate_safe session promo accountId called.clock begun.clock locked
          passed here

end Redeeming

theorem Counted.revoke (good : Counted db)
    (found : get PromoCode.id db.promoCodes promo.id = some promo) (revokedAt : Option Nat)
    (revokedReason : Option String) : Counted (db.apply
      (.promo (.replace { promo with revokedAt := revokedAt, revokedReason := revokedReason })))
    where
  codes := good.codes.replace _
  once := good.once
  count other member := by
    rcases mem_replace member with rfl | ⟨old, -⟩
    · exact good.count promo (mem_of_get found)
    · exact good.count other old
  bound other member := by
    rcases mem_replace member with rfl | ⟨old, -⟩
    · exact good.bound promo (mem_of_get found)
    · exact good.bound other old

theorem revokePromoCode_safe (promoCodeId : RowId) (reason : String) (db : PromoDb) :
    redemptionContract.Safe promoStore (fun _ _ => True) session
      (revokePromoCode promoCodeId reason) [] [] db := by
  unfold revokePromoCode
  extract_lets thrown
  have ended : ∀ later, redemptionContract.Good later ->
      redemptionContract.Safe promoStore (fun _ _ => True) session thrown [] [] later :=
    fun _ _ => trivial
  have always (held : List PromoLock) :
      redemptionContract.Stable promoStore session held fun _ => True :=
    Contract.Stable.const session held True
  apply Contract.Safe.reading _ (always _) trivial ended
  intro begun _ _ _
  apply Contract.Safe.writing _ (always _) trivial ended
  intro own _ _ _
  have locked : LocksPromo promoCodeId ([⟨.promo promoCodeId, .noKeyUpdate⟩] ++ []) :=
    Or.inr List.mem_cons_self
  refine Contract.Safe.last _ (@stable_code session promoCodeId _ locked
    (get PromoCode.id own.promoCodes promoCodeId) (journalOf own promoCodeId)) ⟨rfl, rfl⟩ ?_
    (fun _ _ => trivial) ended
  rintro later ⟨still, -⟩ good
  rw [Store.applyAll_nil, revokeWrites]
  split
  · exact ⟨good, CodesGuarded.same rfl rfl _⟩
  · next promo read =>
    split
    · exact ⟨good, CodesGuarded.same rfl rfl _⟩
    · have key : promo.id = promoCodeId := key_of_get read
      rw [read, ← key] at still
      refine ⟨Counted.revoke good still _ _, fun other => ?_⟩
      by_cases same : other = promo.id
      · subst other
        rw [key]
        refine Or.inr ⟨locked, fun _ _ _ => ⟨rfl, ?_⟩⟩
        rw [← key]
        exact ⟨_, get_replace_self _ still, rfl⟩
      · exact Or.inl ⟨get_replace_of_ne _ same, rfl⟩

/-- What a payment or a cancellation writes. -/
def WritesSubscription (write : PromoWrite) : Prop :=
  ∃ change, write = .subscription change

theorem subscriptions_quiet (held : List PromoLock) (db : PromoDb) (writes : List PromoWrite)
    (quiet : ∀ write, write ∈ writes -> WritesSubscription write)
    (good : redemptionContract.Good db) : redemptionContract.Good (promoStore.applyAll db writes) ∧
      redemptionContract.Guarantee session held db (promoStore.applyAll db writes) := by
  have same : (promoStore.applyAll db writes).promoCodes = db.promoCodes ∧
      (promoStore.applyAll db writes).redemptions = db.redemptions := by
    clear good
    induction writes generalizing db with
    | nil => exact ⟨rfl, rfl⟩
    | cons write writes extend =>
      rcases quiet write List.mem_cons_self with ⟨change, rfl⟩
      exact extend _ fun later member => quiet later (List.mem_cons_of_mem _ member)
  exact ⟨Counted.same good same.1 same.2, CodesGuarded.same same.1 same.2 held⟩

theorem createOrRenew_emits (input : CreateOrRenew) :
    (createOrRenew input).Emits WritesSubscription := by
  unfold createOrRenew
  extract_lets thrown
  have ended : thrown.Emits WritesSubscription := trivial
  split
  · trivial
  · apply Program.Emits.reading ended
    intro begun _
    extract_lets row
    refine Program.Emits.writing ended (fun own write member => ?_) fun own => ?_
    · exact ⟨_, List.mem_singleton.mp member⟩
    · extract_lets commit
      split
      · exact ⟨ended, trivial⟩
      · exact Program.Emits.acquiring ended fun _ _ => ⟨ended, trivial⟩

theorem cancelTeacherSubscription_emits (accountId : RowId) :
    (cancelTeacherSubscription accountId).Emits WritesSubscription := by
  unfold cancelTeacherSubscription
  extract_lets thrown
  have ended : thrown.Emits WritesSubscription := trivial
  apply Program.Emits.reading ended
  intro begun _
  refine Program.Emits.writing ended (fun own write member => ?_) fun own => ⟨ended, trivial⟩
  rw [cancelWrites] at member
  split at member
  · cases member
  · split at member
    · exact ⟨_, List.mem_singleton.mp member⟩
    · cases member

theorem redemptions_sound {requests : Nat -> PromoRequest} (start : Counted db) :
    Contract.Sound redemptionContract promoStore (fun _ _ => True) (promoOpening db requests) := by
  have nothing : ∀ write : PromoWrite, write ∈ [] -> WritesSubscription write :=
    fun _ member => absurd member List.not_mem_nil
  apply Contract.Sound.start start
  intro session
  cases requests session with
  | redeem codeRaw accountId => exact redeemPromoCode_safe session accountId codeRaw db
  | revoke promoCodeId reason => exact revokePromoCode_safe promoCodeId reason db
  | renew input =>
    exact Contract.Safe.of_emits subscriptions_quiet (createOrRenew_emits input) nothing [] db
  | cancel accountId =>
    exact Contract.Safe.of_emits subscriptions_quiet (cancelTeacherSubscription_emits accountId)
      nothing [] db

theorem journal_of_moves
    (moved : Relation.ReflTransGen (Contract.Moves redemptionContract promoStore) before after)
    (found : get PromoCode.id before.promoCodes promoCodeId = some promo)
    (revoked : promo.revokedAt.isSome = true) :
    journalOf after promoCodeId = journalOf before promoCodeId ∧
      ∃ later, get PromoCode.id after.promoCodes promoCodeId = some later ∧
        later.revokedAt.isSome = true := by
  induction moved with
  | refl => exact ⟨rfl, promo, found, revoked⟩
  | @tail middle last _ move before_move =>
    rcases before_move with ⟨journal, known, read, still⟩
    rcases move with ⟨-, -, rfl | ⟨change, rfl⟩ | ⟨session, held, guarded⟩⟩
    · exact ⟨journal, known, read, still⟩
    · refine ⟨?_, known, ?_, still⟩
      · rw [journalOf, (drift_codes change middle).2]
        exact journal
      · rw [(drift_codes change middle).1]
        exact read
    · rcases guarded promoCodeId with ⟨row, rows⟩ | ⟨-, keeps⟩
      · exact ⟨rows.trans journal, known, row.trans read, still⟩
      · rcases keeps known read still with ⟨rows, revokedRow⟩
        exact ⟨rows.trans journal, revokedRow⟩

/-- What a run keeps of every code: its counter, its limit, and one redemption an account. -/
structure Bounded (db : PromoDb) : Prop where
  count : ∀ promo, promo ∈ db.promoCodes ->
    promo.redemptionCount = (journalOf db promo.id).length
  bound : ∀ promo, promo ∈ db.promoCodes -> ∀ maxRedemptions,
    promo.maxRedemptions = some maxRedemptions -> promo.redemptionCount ≤ maxRedemptions
  once : ∀ first, first ∈ db.redemptions -> ∀ second, second ∈ db.redemptions ->
    first.promoCodeId = second.promoCodeId -> first.accountId = second.accountId ->
      first = second

theorem Counted.bounded (good : Counted db) : Bounded db where
  count := good.count
  bound := good.bound
  once _ one _ two code account :=
    List.inj_on_of_nodup_map good.once one two (Prod.ext code account)

/-- In every reachable state the codes are bounded, and from a state in which a code is
revoked nothing is added to its journal. -/
theorem redemptions_bounded {requests : Nat -> PromoRequest} {state : PromoState}
    (start : Counted db)
    (reached : Reaches promoStore (fun _ _ => True) (promoOpening db requests) state) :
    Bounded state.db ∧ ∀ later, Reaches promoStore (fun _ _ => True) state later ->
      ∀ promo, promo ∈ state.db.promoCodes -> promo.revokedAt.isSome = true ->
        journalOf later.db promo.id = journalOf state.db promo.id := by
  have sound := ((redemptions_sound start).reaches redemption_steady reached).1
  refine ⟨sound.good.bounded, fun later further promo member revoked => ?_⟩
  exact (journal_of_moves (sound.reaches redemption_steady further).2
    (get_of_mem sound.good.codes member) revoked).1

/-- A code for one redemption, two verified teachers and nothing redeemed. -/
def launchDay : PromoDb where
  clock := 100
  promoCodes := [⟨.seeded 1, "LAUNCH3", .mid, 30, some 1, 0, 50, none, none, none, true⟩]
  redemptions := []
  accounts := [⟨.seeded 7, some 10, none⟩, ⟨.seeded 8, some 10, none⟩]
  subscriptions := []

theorem launchDay_counted : Counted launchDay where
  codes := List.nodup_singleton _
  once := List.nodup_nil
  count promo member := by
    rw [List.mem_singleton.mp member]
    rfl
  bound promo member := by
    rw [List.mem_singleton.mp member]
    exact fun _ _ => Nat.zero_le _

/-- Two teachers redeem the code at once, and one of them gets it. -/
theorem redemptions_bounded_launchDay :
    ∃ state, Reaches promoStore (fun _ _ => True)
        (promoOpening launchDay fun n => .redeem " launch3" (.seeded (n + 7))) state ∧
      state.db.redemptions.map PromoRedemption.accountId = [.seeded 7] ∧ Bounded state.db := by
  rcases exists_of_play promoStore
    (promoOpening launchDay fun n => .redeem " launch3" (.seeded (n + 7)))
    (Event.steps 1 1 () ++ Event.steps 0 12 () ++ Event.steps 1 5 ())
    (fun db => db.redemptions.map PromoRedemption.accountId = [.seeded 7])
    (by decide +kernel) with ⟨state, reached, journal⟩
  exact ⟨state, reached, journal, (redemptions_bounded launchDay_counted reached).1⟩

end LevelChannel.Subscriptions
