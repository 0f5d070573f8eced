import LevelChannel.Scheduling.Views

namespace LevelChannel.Scheduling

open ReadCommitted Tables

/-!
# The discipline of lessons and package units

The write rules as a discipline of the contract, the facts a session's locks keep, and
what runs without sessions keep.
-/

variable {terms : Terms} {session : Nat} {held : List Lock} {db : Db}

/-! ## Status and completion, across sessions -/

theorem recorded_of_flags {first second : Db} (invFirst : Inv terms first)
    (invSecond : Inv terms second) {slotId : RowId}
    (same : ∀ id, flag second slotId id = flag first slotId id) :
    (second.completionOf? slotId).map (fun row => (row.id, row.wasNoShow)) =
      (first.completionOf? slotId).map (fun row => (row.id, row.wasNoShow)) := by
  have carry : ∀ {one two : Db}, Inv terms one -> Inv terms two ->
      (∀ id, flag two slotId id = flag one slotId id) -> ∀ row,
      one.completionOf? slotId = some row -> ∃ other, two.completionOf? slotId = some other ∧
        other.id = row.id ∧ other.wasNoShow = row.wasNoShow := by
    intro one two invOne invTwo alike row read
    rcases (completionOf?_eq_some invOne).mp read with ⟨readRow, own⟩
    have raised : flag one slotId row.id = some row.wasNoShow := by
      simp [flag, readRow, Option.filter, own]
    rw [← alike row.id] at raised
    simp only [flag, Option.map_eq_some_iff, Option.filter_eq_some_iff, decide_eq_true_eq] at raised
    rcases raised with ⟨other, ⟨readOther, ownOther⟩, marked⟩
    have key : other.id = row.id := key_of_get readOther
    exact ⟨other, (completionOf?_eq_some invTwo).mpr ⟨key ▸ readOther, ownOther⟩, key, marked⟩
  cases read : first.completionOf? slotId with
  | some row =>
    rcases carry invFirst invSecond same row read with ⟨other, readOther, key, marked⟩
    rw [readOther, Option.map_some, Option.map_some, key, marked]
  | none =>
    cases readSecond : second.completionOf? slotId with
    | none => rfl
    | some row =>
      rcases carry invSecond invFirst (fun id => (same id).symm) row readSecond with
        ⟨other, readOther, -⟩
      rw [read] at readOther
      cases readOther

theorem recorded_eq {first second : Db} (invFirst : Inv terms first)
    (invSecond : Inv terms second) {slotId : RowId}
    (same : ∀ id, flag second slotId id = flag first slotId id) :
    recorded second slotId = recorded first slotId := by
  have both := congrArg (Option.map Prod.snd) (recorded_of_flags invFirst invSecond same)
  simpa only [recorded, Option.map_map, Function.comp_def] using both

theorem recorded_of_absent (inv : Inv terms db) {slotId : RowId}
    (absent : db.slot? slotId = none) : recorded db slotId = none := by
  cases read : db.completionOf? slotId with
  | none => rw [recorded, read, Option.map_none]
  | some row =>
    have placed := inv.completionPlaced row (mem_of_get read)
    have own : row.slotId = slotId := key_of_get read
    rw [own, absent] at placed
    cases placed

theorem slot?_untouched {writes : List Write} {first : Db}
    (fits : Fits store (Allows terms held) first writes) {id : RowId}
    (absent : (store.applyAll first writes).slot? id = none) (second : Db) :
    first.slot? id = none ∧ (store.applyAll second writes).slot? id = second.slot? id := by
  induction writes generalizing first second with
  | nil => exact ⟨absent, rfl⟩
  | cons write writes extend =>
    rcases extend fits.2 absent (store.apply second write) with ⟨before, later⟩
    rw [Store.applyAll_cons, later]
    by_cases quiet : Quiet write
    · have one := (quiet.same first).slots
      have two := (quiet.same second).slots
      rw [store_apply, Db.slot?, one] at before
      refine ⟨before, ?_⟩
      rw [Db.slot?, Db.slot?, store_apply, two]
    cases write with
    | slot change =>
      cases change with
      | insert row =>
        have fresh := fits.1.2.2
        rw [store_apply, slot?_insert fresh] at before
        by_cases same : row.id = id
        · rw [if_pos same] at before
          cases before
        · rw [if_neg same] at before
          exact ⟨before, get_apply_of_ne (.insert row) (Ne.symm same)⟩
      | replace row =>
        rcases fits.1 with ⟨-, old, found, -⟩
        rw [store_apply, slot?_replace found] at before
        by_cases same : row.id = id
        · rw [if_pos same] at before
          cases before
        · rw [if_neg same] at before
          exact ⟨before, get_replace_of_ne row (Ne.symm same)⟩
      | delete row => exact fits.1.elim
    | completion change => exact ⟨before, rfl⟩
    | settlementCompletion row => exact ⟨before, rfl⟩
    | erasure row => exact ⟨before, rfl⟩
    | purchase change => exact ⟨before, rfl⟩
    | consumption change => exact ⟨before, rfl⟩
    | _ => exact absurd (by simp [Quiet, Write.table]) quiet

theorem inv_applyAll {writes : List Write} (inv : Inv terms db)
    (fits : Fits store (Allows terms held) db writes) : Inv terms (store.applyAll db writes) := by
  induction writes generalizing db with
  | nil => exact inv
  | cons write writes extend => exact extend (fits.1.kept inv).1 fits.2

theorem guarantee_applyAll {writes : List Write} (inv : Inv terms db)
    (fits : Fits store (Allows terms held) db writes) :
    Guarantee terms held db (store.applyAll db writes) := by
  induction writes generalizing db with
  | nil => exact .refl db
  | cons write writes extend =>
    have first := fits.1.kept inv
    exact first.2.trans (extend first.1 fits.2)

theorem agrees_applyAll {first second : Db} {writes : List Write} (one : Inv terms first)
    (two : Inv terms second) (agree : Agrees terms held first second)
    (fits : Fits store (Allows terms held) first writes) :
    Fits store (Allows terms held) second writes ∧
      Agrees terms held (store.applyAll first writes) (store.applyAll second writes) := by
  induction writes generalizing first second with
  | nil => exact ⟨trivial, agree⟩
  | cons write writes extend =>
    rcases fits.1.transfer one two agree with ⟨allowed, still⟩
    have rest := extend (fits.1.kept one).1 (allowed.kept two).1 still fits.2
    exact ⟨⟨allowed, rest.1⟩, rest.2⟩

/-- All slots agree with their completions, up to the ones a transaction is at work on. -/
def AgreeExcept (working : RowId -> Prop) (db : Db) : Prop :=
  ∀ slot, slot ∈ db.slots -> slot.isPersonalEvent = false -> ¬ working slot.id ->
    Agree db slot

theorem agreeExcept_transfer {first second : Db} {writes : List Write}
    (goodFirst : Good terms first) (goodSecond : Good terms second)
    (agree : Agrees terms held first second)
    (fits : Fits store (Allows terms held) first writes) {working : RowId -> Prop}
    (tidy : AgreeExcept working (store.applyAll first writes)) :
    AgreeExcept working (store.applyAll second writes) := by
  rcases agrees_applyAll goodFirst.inv goodSecond.inv agree fits with ⟨fitsSecond, agreeOwn⟩
  have invFirst := inv_applyAll goodFirst.inv fits
  have invSecond := inv_applyAll goodSecond.inv fitsSecond
  intro slot member lesson idle
  have read := get_of_mem invSecond.slotUnique member
  by_cases locked : WriteLocked held (.slot slot.id)
  · have sameRecord := recorded_eq invFirst invSecond (agreeOwn.flags slot.id locked)
    cases before : (store.applyAll first writes).slot? slot.id with
    | some old =>
      have same := agreeOwn.slots slot.id old locked before
      have alike : slot = old := Option.some.inj (read.symm.trans same)
      subst alike
      rw [Agree, sameRecord]
      exact tidy slot (mem_of_get before) lesson idle
    | none =>
      rcases slot?_untouched fits before second with ⟨absent, untouched⟩
      have present : second.slot? slot.id = some slot := untouched.symm.trans read
      have settled := goodSecond.agree slot (mem_of_get present) lesson
      have none_second := recorded_eq goodFirst.inv goodSecond.inv (agree.flags slot.id locked)
      rw [recorded_of_absent goodFirst.inv absent] at none_second
      rw [Agree, sameRecord, recorded_of_absent invFirst before, ← none_second]
      exact settled
  · have kept := (guarantee_applyAll goodSecond.inv fitsSecond).lessons
    have present : second.slot? slot.id = some slot := (kept.slots slot.id locked).symm.trans read
    rw [Agree, recorded_eq goodSecond.inv invSecond (kept.flags slot.id locked)]
    exact goodSecond.agree slot (mem_of_get present) lesson

theorem clock_applyAll {writes : List Write} (inv : Inv terms db)
    (fits : Fits store (Allows terms held) db writes) :
    (store.applyAll db writes).clock = db.clock :=
  (guarantee_applyAll inv fits).clock

theorem good_of_agree {writes : List Write} (good : Good terms db)
    (fits : Fits store (Allows terms held) db writes)
    (tidy : AgreeExcept (fun _ => False) (store.applyAll db writes)) :
    Good terms (store.applyAll db writes) where
  inv := inv_applyAll good.inv fits
  agree slot member lesson := tidy slot member lesson id
  since := by
    rw [clock_applyAll good.inv fits]
    exact good.since

theorem Good.agreeExcept (good : Good terms db) (working : RowId -> Prop) :
    AgreeExcept working db :=
  fun slot member lesson _ => good.agree slot member lesson

/-- The write rules as a discipline. -/
def discipline (terms : Terms) : Discipline (contract terms) store where
  Inv := Inv terms
  Allows := fun _ => Allows terms
  Agrees := fun _ => Agrees terms
  inv_of_good good := good.inv
  keeps inv allowed := (allowed.kept inv).1
  widen wider allowed := allowed.widen wider
  narrow wider agree := agree.narrow wider
  transfer one two agree allowed := allowed.transfer one two agree
  disturbed := agrees_of_disturbs
  settles := by
    intro _ held first second writes one two agree fits good
    exact good_of_agree two (agrees_applyAll one.inv two.inv agree fits).1
      (agreeExcept_transfer one two agree fits (good.agreeExcept _))
  guarantee good fits _ := guarantee_applyAll good.inv fits

theorem good_openSlot (good : Good terms db) (row : LessonSlot) :
    Good terms (db.drift (.slot row)) := by
  simp only [Db.drift]
  split
  · rename_i opened
    simp only [Bool.and_eq_true, Option.isNone_iff_eq_none, Bool.or_eq_true,
      decide_eq_true_eq] at opened
    have fresh : db.slot? row.id = none := opened.1.1
    refine ⟨insertSlot_inv good.inv fresh, ?_, good.since⟩
    intro slot member lesson
    rcases (mem_insert LessonSlot.id).mp member with old | rfl
    · exact good.agree slot old lesson
    · have nothing : recorded db slot.id = none := recorded_of_absent good.inv fresh
      rcases opened.2 with status | personal
      · exact (congrArg outcome status).trans nothing.symm
      · rw [lesson] at personal
        cases personal.2
  · exact good

theorem steady (terms : Terms) : (contract terms).Steady store where
  drift := by
    intro change db good
    have untouched : ∀ {after : Db}, after.slots = db.slots ->
        after.completions = db.completions -> after.purchases = db.purchases ->
        after.consumptions = db.consumptions -> db.clock ≤ after.clock -> Good terms after := by
      intro after slots completions purchases consumptions clock
      refine ⟨inv_of_same good.inv slots completions purchases consumptions, ?_,
        Nat.le_trans good.since clock⟩
      rw [slots]
      intro slot member lesson
      have agree := good.agree slot member lesson
      rwa [Agree, recorded, Db.completionOf?, completions]
    cases change with
    | tick milliseconds => exact untouched rfl rfl rfl rfl (Nat.le_add_right _ _)
    | catalog catalog => exact untouched rfl rfl rfl rfl (Nat.le_refl _)
    | slot row => exact good_openSlot good row
    | order change => exact untouched rfl rfl rfl rfl (Nat.le_refl _)
    | allocation row =>
      refine untouched ?_ ?_ ?_ ?_ ?_ <;> simp only [store, Db.drift, Db.allocate] <;>
        split <;> first | exact Nat.le_refl _ | rfl
    | earning row => exact untouched rfl rfl rfl rfl (Nat.le_refl _)
  close session held db good := by
    have same : Same db (store.close session db) := ⟨rfl, rfl, rfl, rfl, rfl, rfl, rfl⟩
    exact ⟨⟨inv_of_same good.inv rfl rfl rfl rfl, good.agree, good.since⟩, same.guarantee⟩

section Facts

variable {id : RowId}

theorem local_slot (locked : WriteLocked held (.slot id)) (row : LessonSlot) :
    (discipline terms).Local session held (fun own => own.slot? id = some row) :=
  fun _ _ _ _ agree read => agree.slots id row locked read

theorem local_completion (locked : WriteLocked held (.completion id))
    (row : Option LessonCompletion) :
    (discipline terms).Local session held (fun own => own.completion? id = row) :=
  fun _ _ _ _ agree read => (agree.completions id locked).trans read

theorem local_recorded (locked : WriteLocked held (.slot id)) (value : Option Bool) :
    (discipline terms).Local session held (fun own => recorded own id = value) :=
  fun _ _ one two agree read => (recorded_eq one two (agree.flags id locked)).trans read

theorem local_clock (time : Nat) :
    (discipline terms).Local session held (fun own => time ≤ own.clock) :=
  fun _ _ _ _ agree read => Nat.le_trans read agree.clock

theorem local_purchase (locked : WriteLocked held (.purchase id)) (row : PackagePurchase) :
    (discipline terms).Local session held (fun own => own.purchase? id = some row) :=
  fun _ _ _ _ agree read => (agree.purchases id locked).trans read

/-- A purchase of the learner of which at most so many units are in use. -/
def Tallied (terms : Terms) (accountId purchaseId : RowId) (used : Nat) (fact : Nat -> Prop)
    (db : Db) : Prop :=
  ∃ purchase, db.purchase? purchaseId = some purchase ∧ purchase.accountId = accountId ∧
    fact purchase.countInitial ∧ (terms.canonical -> db.activeCount purchaseId ≤ used)

theorem local_tallied (accountId purchaseId : RowId) (used : Nat) (fact : Nat -> Prop)
    (locked : terms.canonical ->
      WriteLocked held (.advisory (.pkgConsume (.canonical accountId)))) :
    (discipline terms).Local session held (Tallied terms accountId purchaseId used fact) := by
  rintro first second - - agree ⟨purchase, read, owner, holds, tally⟩
  rcases agree.repackaged purchaseId purchase read with ⟨now, readNow, again⟩
  refine ⟨now, readNow, again.accountId.trans owner, again.countInitial ▸ holds, ?_⟩
  intro canonical
  exact Nat.le_trans
    (agree.counts canonical purchaseId purchase read (owner ▸ locked canonical))
    (tally canonical)

end Facts

end LevelChannel.Scheduling
