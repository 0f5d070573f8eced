import LevelChannel.Payments.Methods
import LevelChannel.Tables.Log

namespace LevelChannel.Methods

open Tables

/-!
# The default payment method

The unique indexes hold in every table the functions leave behind.  What they do not
say, that a teacher with active methods has a default and no more than ten of them, is
followed call by call: `Meets` is the condition under which a call keeps it.
-/

variable {rows : List PaymentMethod} {teacherAccountId : RowId}

/-! ## What the unique indexes promise -/

structure Indexed (rows : List PaymentMethod) : Prop where
  unique : Tables.Unique PaymentMethod.id rows
  apart : ∀ first, first ∈ rows -> ∀ second, second ∈ rows ->
    first.clashes second = true -> first = second

theorem mem_activeMethods {row : PaymentMethod} : row ∈ activeMethods rows teacherAccountId <->
      row ∈ rows ∧ row.teacherAccountId = teacherAccountId ∧ row.active = true := by
  simp [activeMethods, PaymentMethod.activeOf]

theorem PaymentMethod.clashes_comm (first second : PaymentMethod) :
    first.clashes second = second.clashes first := by
  simp only [PaymentMethod.clashes, Bool.and_comm first.active, Bool.and_comm first.isDefault,
    eq_comm (a := first.teacherAccountId), eq_comm (a := first.phoneE164),
    eq_comm (a := first.bankLabel)]

def clearedRow (teacherAccountId : RowId) (except : Option RowId) (row : PaymentMethod) :
    PaymentMethod :=
  if row.activeOf teacherAccountId && row.isDefault && some row.id ≠ except then
    { row with isDefault := false }
  else row

theorem clearDefault_eq (rows : List PaymentMethod) (teacherAccountId : RowId)
    (except : Option RowId) :
    clearDefault rows teacherAccountId except = rows.map (clearedRow teacherAccountId except) :=
  rfl

section Cleared

variable (teacherAccountId) (except : Option RowId) (row : PaymentMethod)

@[simp] theorem clearedRow_id : (clearedRow teacherAccountId except row).id = row.id := by
  rw [clearedRow]
  split <;> rfl

@[simp] theorem clearedRow_active :
    (clearedRow teacherAccountId except row).active = row.active := by
  rw [clearedRow]
  split <;> rfl

@[simp] theorem clearedRow_teacherAccountId :
    (clearedRow teacherAccountId except row).teacherAccountId = row.teacherAccountId := by
  rw [clearedRow]
  split <;> rfl

@[simp] theorem clearedRow_phoneE164 :
    (clearedRow teacherAccountId except row).phoneE164 = row.phoneE164 := by
  rw [clearedRow]
  split <;> rfl

@[simp] theorem clearedRow_bankLabel :
    (clearedRow teacherAccountId except row).bankLabel = row.bankLabel := by
  rw [clearedRow]
  split <;> rfl

theorem clearedRow_clashes (other : PaymentMethod)
    (clash : (clearedRow teacherAccountId except row).clashes
      (clearedRow teacherAccountId except other) = true) : row.clashes other = true := by
  revert clash
  simp only [clearedRow]
  split <;> split <;> simp only [PaymentMethod.clashes, PaymentMethod.active] <;> grind

theorem default_of_clearedRow (mine : row.activeOf teacherAccountId = true)
    (flagged : (clearedRow teacherAccountId except row).isDefault = true) :
    some row.id = except := by
  by_contra other
  cases set_ : row.isDefault <;> simp [clearedRow, mine, set_, other] at flagged

end Cleared

theorem Indexed.clear (indexed : Indexed rows) (teacherAccountId : RowId)
    (except : Option RowId) : Indexed (clearDefault rows teacherAccountId except) where
  unique := by
    rw [clearDefault_eq]
    exact indexed.unique.map (clearedRow_id teacherAccountId except)
  apart := by
    intro first one second two clash
    rw [clearDefault_eq] at one two
    rcases List.mem_map.mp one with ⟨row, listed, rfl⟩
    rcases List.mem_map.mp two with ⟨other, listedOther, rfl⟩
    rw [indexed.apart row listed other listedOther
      (clearedRow_clashes teacherAccountId except row other clash)]

theorem refuses_eq_false {row : PaymentMethod} : refuses rows row = false <->
      ∀ other, other ∈ rows -> other.id ≠ row.id -> other.clashes row = false := by
  simp only [refuses, List.any_eq_false, Bool.and_eq_true, decide_eq_true_eq, not_and,
    Bool.not_eq_true]

theorem Indexed.replace (indexed : Indexed rows) {row : PaymentMethod}
    (accepted : refuses rows row = false) :
    Indexed ((Change.replace row).apply PaymentMethod.id rows) where
  unique := indexed.unique.replace row
  apart := by
    have free := refuses_eq_false.mp accepted
    intro first one second two clash
    rcases mem_replace one with rfl | ⟨listed, different⟩
    · rcases mem_replace two with rfl | ⟨listedOther, differentOther⟩
      · rfl
      · rw [PaymentMethod.clashes_comm, free second listedOther differentOther] at clash
        cases clash
    · rcases mem_replace two with rfl | ⟨listedOther, -⟩
      · rw [free first listed different] at clash
        cases clash
      · exact indexed.apart first listed second listedOther clash

theorem Indexed.insert (indexed : Indexed rows) {row : PaymentMethod}
    (fresh : get PaymentMethod.id rows row.id = none) (accepted : refuses rows row = false) :
    Indexed ((Change.insert row).apply PaymentMethod.id rows) where
  unique := indexed.unique.insert fresh
  apart := by
    have free := refuses_eq_false.mp accepted
    have different := get_eq_none_iff.mp fresh
    intro first one second two clash
    rcases (mem_insert PaymentMethod.id).mp one with listed | rfl
    · rcases (mem_insert PaymentMethod.id).mp two with listedOther | rfl
      · exact indexed.apart first listed second listedOther clash
      · rw [free first listed (different first listed)] at clash
        cases clash
    · rcases (mem_insert PaymentMethod.id).mp two with listedOther | rfl
      · rw [PaymentMethod.clashes_comm,
          free second listedOther (different second listedOther)] at clash
        cases clash
      · rfl

def HasDefault (rows : List PaymentMethod) (teacherAccountId : RowId) : Prop :=
  ∀ row, row ∈ activeMethods rows teacherAccountId ->
    ∃ chosen, chosen ∈ activeMethods rows teacherAccountId ∧ chosen.isDefault = true

def WithinTen (rows : List PaymentMethod) (teacherAccountId : RowId) : Prop :=
  (activeMethods rows teacherAccountId).length ≤ maxActiveMethodsPerTeacher

/-- Both, for every teacher. -/
def Kept (rows : List PaymentMethod) : Prop :=
  ∀ teacherAccountId, HasDefault rows teacherAccountId ∧ WithinTen rows teacherAccountId

section Replace

variable {row old : PaymentMethod}

theorem mem_active_replace (found : get PaymentMethod.id rows row.id = some old)
    {other : PaymentMethod} :
    other ∈ activeMethods ((Change.replace row).apply PaymentMethod.id rows) teacherAccountId <->
      (other = row ∧ row.activeOf teacherAccountId = true) ∨
        (other ∈ activeMethods rows teacherAccountId ∧ other.id ≠ row.id) := by
  simp only [activeMethods, List.mem_filter]
  constructor
  · rintro ⟨member, active⟩
    rcases mem_replace member with rfl | ⟨listed, different⟩
    · exact Or.inl ⟨rfl, active⟩
    · exact Or.inr ⟨⟨listed, active⟩, different⟩
  · rintro (⟨rfl, active⟩ | ⟨⟨listed, active⟩, different⟩)
    · exact ⟨mem_of_get (get_replace_self other found), active⟩
    · refine ⟨?_, active⟩
      simp only [Change.apply, List.mem_map]
      exact ⟨other, listed, by simp [different]⟩

theorem length_active_replace (indexed : Indexed rows)
    (found : get PaymentMethod.id rows row.id = some old) (teacherAccountId : RowId) :
    (activeMethods ((Change.replace row).apply PaymentMethod.id rows) teacherAccountId).length +
        (if old.activeOf teacherAccountId then 1 else 0) =
      (activeMethods rows teacherAccountId).length +
        (if row.activeOf teacherAccountId then 1 else 0) := by
  have exchanged := total_replace (PaymentMethod.activeOf teacherAccountId) (fun _ => 1)
    indexed.unique found
  simpa [total, activeMethods] using exchanged

theorem kept_elsewhere (indexed : Indexed rows)
    (found : get PaymentMethod.id rows row.id = some old)
    (owner : row.teacherAccountId = old.teacherAccountId)
    (different : teacherAccountId ≠ row.teacherAccountId) : (HasDefault rows teacherAccountId ->
        HasDefault ((Change.replace row).apply PaymentMethod.id rows) teacherAccountId) ∧
      (WithinTen rows teacherAccountId ->
        WithinTen ((Change.replace row).apply PaymentMethod.id rows) teacherAccountId) := by
  have newElsewhere : row.activeOf teacherAccountId = false := by
    simp [PaymentMethod.activeOf, different.symm]
  have oldElsewhere : old.activeOf teacherAccountId = false := by
    simp [PaymentMethod.activeOf, ← owner, different.symm]
  have away : ∀ other, other ∈ activeMethods rows teacherAccountId -> other.id ≠ row.id := by
    intro other member same
    rcases mem_activeMethods.mp member with ⟨listed, mine, -⟩
    have read := get_of_mem indexed.unique listed
    rw [same, found, Option.some.injEq] at read
    rw [← read, ← owner] at mine
    exact different mine.symm
  constructor
  · intro hasDefault other member
    rcases (mem_active_replace found).mp member with ⟨rfl, active⟩ | ⟨listed, -⟩
    · rw [newElsewhere] at active
      cases active
    · rcases hasDefault other listed with ⟨chosen, active, flagged⟩
      exact ⟨chosen, (mem_active_replace found).mpr (Or.inr ⟨active, away chosen active⟩), flagged⟩
  · intro within
    have counted := length_active_replace indexed found teacherAccountId
    simp only [newElsewhere, oldElsewhere, Bool.false_eq_true, if_false] at counted
    rw [WithinTen, ← Nat.add_zero (List.length _), counted]
    exact within

end Replace

theorem activeMethods_clear (rows : List PaymentMethod) (teacherAccountId other : RowId)
    (except : Option RowId) : activeMethods (clearDefault rows teacherAccountId except) other =
      (activeMethods rows other).map (clearedRow teacherAccountId except) := by
  rw [clearDefault_eq, activeMethods, activeMethods, List.filter_map]
  congr 1
  apply List.filter_congr
  intro row _
  simp [PaymentMethod.activeOf]

theorem activeMethods_clear_elsewhere (rows : List PaymentMethod) (except : Option RowId)
    {other : RowId} (different : other ≠ teacherAccountId) :
    activeMethods (clearDefault rows teacherAccountId except) other = activeMethods rows other := by
  rw [activeMethods_clear]
  conv_rhs => rw [← List.map_id (activeMethods rows other)]
  apply List.map_congr_left
  intro row member
  have owner := (mem_activeMethods.mp member).2.1
  simp [clearedRow, PaymentMethod.activeOf, owner, different]

theorem get_clear (rows : List PaymentMethod) (teacherAccountId id : RowId)
    (except : Option RowId) : get PaymentMethod.id (clearDefault rows teacherAccountId except) id =
      (get PaymentMethod.id rows id).map (clearedRow teacherAccountId except) := by
  rw [clearDefault_eq]
  exact get_map (clearedRow_id teacherAccountId except)

/-- The table before the row of a call is written: with the teacher's default cleared or
as it was. -/
def Prepared (rows : List PaymentMethod) (teacherAccountId : RowId)
    (ready : List PaymentMethod) : Prop :=
  ready = rows ∨ ∃ except, ready = clearDefault rows teacherAccountId except

section Prepared

variable {ready : List PaymentMethod} {row old : PaymentMethod}

theorem Prepared.indexed (prepared : Prepared rows teacherAccountId ready)
    (indexed : Indexed rows) : Indexed ready := by
  rcases prepared with rfl | ⟨except, rfl⟩
  · exact indexed
  · exact indexed.clear teacherAccountId except

theorem Prepared.elsewhere (prepared : Prepared rows teacherAccountId ready) {other : RowId}
    (different : other ≠ teacherAccountId) :
    activeMethods ready other = activeMethods rows other := by
  rcases prepared with rfl | ⟨except, rfl⟩
  · rfl
  · exact activeMethods_clear_elsewhere rows except different

theorem Prepared.length (prepared : Prepared rows teacherAccountId ready) :
    (activeMethods ready teacherAccountId).length =
      (activeMethods rows teacherAccountId).length := by
  rcases prepared with rfl | ⟨except, rfl⟩
  · rfl
  · rw [activeMethods_clear, List.length_map]

theorem Prepared.found (prepared : Prepared rows teacherAccountId ready)
    (found : get PaymentMethod.id rows row.id = some old) :
    ∃ before, get PaymentMethod.id ready row.id = some before ∧
      before.active = old.active ∧ before.teacherAccountId = old.teacherAccountId := by
  rcases prepared with rfl | ⟨except, rfl⟩
  · exact ⟨old, found, rfl, rfl⟩
  · refine ⟨clearedRow teacherAccountId except old, ?_, ?_, ?_⟩
    · rw [get_clear, found, Option.map_some]
    · exact clearedRow_active teacherAccountId except old
    · exact clearedRow_teacherAccountId teacherAccountId except old

theorem Prepared.kept_iff (prepared : Prepared rows teacherAccountId ready)
    (indexed : Indexed rows) (kept : Kept rows)
    (found : get PaymentMethod.id rows row.id = some old)
    (owner : old.teacherAccountId = teacherAccountId)
    (same : row.teacherAccountId = teacherAccountId) :
    Kept ((Change.replace row).apply PaymentMethod.id ready) <->
      HasDefault ((Change.replace row).apply PaymentMethod.id ready) teacherAccountId ∧
        WithinTen ((Change.replace row).apply PaymentMethod.id ready) teacherAccountId := by
  constructor
  · intro all
    exact all teacherAccountId
  · intro here other
    by_cases mine : other = teacherAccountId
    · exact mine ▸ here
    · rcases prepared.found found with ⟨before, read, -, ownerBefore⟩
      have away := @kept_elsewhere ready other row before (prepared.indexed indexed) read
        (by rw [same, ownerBefore, owner]) (by rw [same]; exact mine)
      have elsewhere := prepared.elsewhere mine
      have hasDefault : HasDefault ready other := by
        rw [HasDefault, elsewhere]
        exact (kept other).1
      have within : WithinTen ready other := by
        rw [WithinTen, elsewhere]
        exact (kept other).2
      exact ⟨away.1 hasDefault, away.2 within⟩

theorem Prepared.count (prepared : Prepared rows teacherAccountId ready)
    (indexed : Indexed rows) (found : get PaymentMethod.id rows row.id = some old)
    (owner : old.teacherAccountId = teacherAccountId)
    (same : row.teacherAccountId = teacherAccountId) :
    (activeMethods ((Change.replace row).apply PaymentMethod.id ready)
        teacherAccountId).length + (if old.active then 1 else 0) =
      (activeMethods rows teacherAccountId).length + (if row.active then 1 else 0) := by
  rcases prepared.found found with ⟨before, read, active, ownerBefore⟩
  have counted := length_active_replace (prepared.indexed indexed) read teacherAccountId
  have mineBefore : before.activeOf teacherAccountId = old.active := by
    simp [PaymentMethod.activeOf, ownerBefore, owner, active]
  have mine : row.activeOf teacherAccountId = row.active := by
    simp [PaymentMethod.activeOf, same]
  rwa [mineBefore, mine, prepared.length] at counted

def OtherDefault (rows : List PaymentMethod) (teacherAccountId id : RowId) : Prop :=
  ∃ other, other ∈ activeMethods rows teacherAccountId ∧ other.id ≠ id ∧
    other.isDefault = true

theorem hasDefault_active (found : get PaymentMethod.id ready row.id = some old)
    (same : row.teacherAccountId = teacherAccountId) (active : row.active = true) :
    HasDefault ((Change.replace row).apply PaymentMethod.id ready) teacherAccountId <->
      row.isDefault = true ∨ OtherDefault ready teacherAccountId row.id := by
  have mine : row.activeOf teacherAccountId = true := by
    simp [PaymentMethod.activeOf, same, active]
  constructor
  · intro hasDefault
    have there := (mem_active_replace found).mpr (Or.inl ⟨rfl, mine⟩)
    rcases hasDefault row there with ⟨chosen, member, flagged⟩
    rcases (mem_active_replace found).mp member with ⟨rfl, -⟩ | ⟨listed, different⟩
    · exact Or.inl flagged
    · exact Or.inr ⟨chosen, listed, different, flagged⟩
  · rintro (flagged | ⟨other, listed, different, flagged⟩) _ _
    · exact ⟨row, (mem_active_replace found).mpr (Or.inl ⟨rfl, mine⟩), flagged⟩
    · exact ⟨other, (mem_active_replace found).mpr (Or.inr ⟨listed, different⟩), flagged⟩

theorem hasDefault_archived (found : get PaymentMethod.id ready row.id = some old)
    (archived : row.active = false) :
    HasDefault ((Change.replace row).apply PaymentMethod.id ready) teacherAccountId <->
      ((∃ other, other ∈ activeMethods ready teacherAccountId ∧ other.id ≠ row.id) ->
        OtherDefault ready teacherAccountId row.id) := by
  have gone : row.activeOf teacherAccountId = false := by
    simp [PaymentMethod.activeOf, archived]
  constructor
  · rintro hasDefault ⟨other, listed, different⟩
    rcases hasDefault other ((mem_active_replace found).mpr (Or.inr ⟨listed, different⟩)) with
      ⟨chosen, member, flagged⟩
    rcases (mem_active_replace found).mp member with ⟨-, mine⟩ | ⟨listed, different⟩
    · rw [gone] at mine
      cases mine
    · exact ⟨chosen, listed, different, flagged⟩
  · intro default_ other member
    rcases (mem_active_replace found).mp member with ⟨-, mine⟩ | ⟨listed, different⟩
    · rw [gone] at mine
      cases mine
    · rcases default_ ⟨other, listed, different⟩ with ⟨chosen, active, apart, flagged⟩
      exact ⟨chosen, (mem_active_replace found).mpr (Or.inr ⟨active, apart⟩), flagged⟩

end Prepared

/-! ## The calls -/

def ActiveTwin (rows : List PaymentMethod) (teacherAccountId : RowId)
    (phoneE164 bankLabel : String) : Prop :=
  ∃ other, other ∈ activeMethods rows teacherAccountId ∧ other.phoneE164 = phoneE164 ∧
    other.bankLabel = bankLabel

/-- When `createPaymentMethod` revives an archived method, fewer than ten are active. -/
def CreateMeets (rows : List PaymentMethod) (input : CreatePaymentMethod) : Prop :=
  ∀ phoneE164 bankLabel row, normalizePhoneRu input.phoneRaw = some phoneE164 ->
    validBankLabel input.bankLabel = some bankLabel ->
    existingMethod rows input.teacherAccountId phoneE164 bankLabel = some row ->
    row.active = false -> ¬ ActiveTwin rows input.teacherAccountId phoneE164 bankLabel ->
    (activeMethods rows input.teacherAccountId).length < maxActiveMethodsPerTeacher

/-- What an update of a method may ask for.  If the method is active afterwards, it is
flagged as the default or another one is, and restoring it leaves no more than ten.  If it
stays archived, it only becomes the default while no method is active. -/
def RowMeets (rows : List PaymentMethod) (input : UpdatePaymentMethod) (row : PaymentMethod) :
    Prop :=
  if row.active = true ∨ input.restore = true then
    (input.isDefault.getD row.isDefault = true ∨
        OtherDefault rows input.teacherAccountId row.id) ∧
      (row.active = true ∨
        (activeMethods rows input.teacherAccountId).length < maxActiveMethodsPerTeacher)
  else input.isDefault = some true -> activeMethods rows input.teacherAccountId = []

/-- An update of a method of the teacher that no index refuses meets the condition. -/
def UpdateMeets (rows : List PaymentMethod) (input : UpdatePaymentMethod) : Prop :=
  ∀ phoneE164 bankLabel row, input.phoneRaw.map normalizePhoneRu = phoneE164.map some ->
    input.bankLabel.map validBankLabel = bankLabel.map some ->
    get PaymentMethod.id rows input.methodId = some row ->
    row.teacherAccountId = input.teacherAccountId ->
    refuses (readied rows input) (edited row input phoneE164 bankLabel) = false ->
    RowMeets rows input row

def MethodStep.Meets (rows : List PaymentMethod) : MethodStep -> Prop
  | .create _ _ input => CreateMeets rows input
  | .update input => UpdateMeets rows input
  | .archive _ _ _ => True

theorem readied_prepared (rows : List PaymentMethod) (input : UpdatePaymentMethod) :
    Prepared rows input.teacherAccountId (readied rows input) := by
  rw [readied]
  split
  · exact Or.inr ⟨_, rfl⟩
  · exact Or.inl rfl

theorem finish_updateRow (rows ready : List PaymentMethod) (row : PaymentMethod)
    (result : MethodResult) : (finish rows (updateRow ready row) result).2 =
      if refuses ready row then rows else (Change.replace row).apply PaymentMethod.id ready := by
  rw [updateRow]
  split <;> rfl

theorem finish_insertRow (rows ready : List PaymentMethod) (row : PaymentMethod)
    (result : MethodResult) : (finish rows (insertRow ready row) result).2 =
      if (get PaymentMethod.id ready row.id).isSome || refuses ready row then rows
      else (Change.insert row).apply PaymentMethod.id ready := by
  rw [insertRow]
  split <;> rfl

section Update

variable {input : UpdatePaymentMethod} {row : PaymentMethod}
  {phoneE164 bankLabel : Option String}

theorem edited_kept_iff (indexed : Indexed rows) (kept : Kept rows)
    (found : get PaymentMethod.id rows input.methodId = some row)
    (owner : row.teacherAccountId = input.teacherAccountId) :
    Kept ((Change.replace (edited row input phoneE164 bankLabel)).apply PaymentMethod.id
        (readied rows input)) <-> RowMeets rows input row := by
  have prepared := readied_prepared rows input
  have key : (edited row input phoneE164 bankLabel).id = row.id := rfl
  have foundRow : get PaymentMethod.id rows (edited row input phoneE164 bankLabel).id =
      some row := by
    rw [key, key_of_get found, found]
  have same : (edited row input phoneE164 bankLabel).teacherAccountId =
      input.teacherAccountId := owner
  rw [prepared.kept_iff indexed kept foundRow owner same]
  rcases prepared.found foundRow with ⟨before, read, -, -⟩
  have counted := prepared.count indexed foundRow owner same
  have ten := (kept input.teacherAccountId).2
  rw [WithinTen] at ten ⊢
  rw [RowMeets]
  by_cases becomes : row.active = true ∨ input.restore = true
  · have active : (edited row input phoneE164 bankLabel).active = true := by
      rcases becomes with was | restored
      · have bare : row.archivedAt = none := by simpa [PaymentMethod.active] using was
        simp [PaymentMethod.active, edited, bare]
      · simp [PaymentMethod.active, edited, restored]
    rw [hasDefault_active read same active, if_pos becomes]
    refine and_congr ?_ ?_
    · by_cases cleared : input.isDefault = some true
      · simp [edited, cleared]
      · rw [readied, if_neg cleared]
        rfl
    · by_cases was : row.active = true
      · simp only [was, active, if_true, true_or, iff_true] at counted ⊢
        omega
      · simp only [was, active, if_true, false_or, Bool.false_eq_true, if_false] at counted ⊢
        omega
  · rw [not_or] at becomes
    have archived : (edited row input phoneE164 bankLabel).active = false := by
      have bare : row.active = false := by simpa using becomes.1
      simpa [PaymentMethod.active, edited, becomes.2] using bare
    rw [hasDefault_archived read archived, if_neg (not_or.mpr becomes)]
    simp only [becomes.1, archived, Bool.false_eq_true, if_false, Nat.add_zero] at counted
    have within : (activeMethods ((Change.replace (edited row input phoneE164 bankLabel)).apply
        PaymentMethod.id (readied rows input)) input.teacherAccountId).length ≤
          maxActiveMethodsPerTeacher := by
      omega
    have away : ∀ other, other ∈ activeMethods rows input.teacherAccountId ->
        other.id ≠ row.id := by
      intro other member clash
      rcases mem_activeMethods.mp member with ⟨listed, -, active⟩
      have readOther := get_of_mem indexed.unique listed
      rw [clash, key_of_get found, found, Option.some.injEq] at readOther
      exact becomes.1 (readOther ▸ active)
    rw [and_iff_left within, key]
    by_cases cleared : input.isDefault = some true
    · simp only [cleared, true_implies, readied, if_true, OtherDefault, activeMethods_clear,
        List.mem_map]
      constructor
      · intro default_
        by_contra some_active
        rcases List.exists_mem_of_ne_nil _ some_active with ⟨other, member⟩
        rcases default_ ⟨_, ⟨other, member, rfl⟩, by
            rw [clearedRow_id]
            exact away other member⟩ with ⟨-, ⟨chosen, listed, rfl⟩, different, flagged⟩
        have mine := List.mem_filter.mp listed
        have excepted := default_of_clearedRow _ _ chosen mine.2 flagged
        rw [Option.some.injEq] at excepted
        rw [clearedRow_id] at different
        exact different (excepted.trans (key_of_get found).symm)
      · rintro empty ⟨-, ⟨other, member, rfl⟩, -⟩
        rw [empty] at member
        cases member
    · simp only [cleared, false_implies, iff_true]
      rw [readied, if_neg cleared]
      rintro ⟨other, member, -⟩
      rcases (kept input.teacherAccountId).1 other member with ⟨chosen, listed, flagged⟩
      exact ⟨chosen, listed, away chosen listed, flagged⟩

theorem updateInTx_eq (found : get PaymentMethod.id rows input.methodId = some row)
    (owner : row.teacherAccountId = input.teacherAccountId) :
    (updateInTx rows input phoneE164 bankLabel).2 =
      if refuses (readied rows input) (edited row input phoneE164 bankLabel) then rows
      else (Change.replace (edited row input phoneE164 bankLabel)).apply PaymentMethod.id
        (readied rows input) := by
  simp only [updateInTx, found, Option.filter_some, owner, decide_true, if_true]
  exact finish_updateRow rows (readied rows input) _ _

theorem updateInTx_missing (missing : ∀ row, get PaymentMethod.id rows input.methodId = some row ->
      row.teacherAccountId ≠ input.teacherAccountId) :
    (updateInTx rows input phoneE164 bankLabel).2 = rows := by
  have none_ : (get PaymentMethod.id rows input.methodId).filter
      (fun row => row.teacherAccountId = input.teacherAccountId) = none := by
    rw [Option.filter_eq_none_iff]
    intro row found
    simpa using missing row found
  simp only [updateInTx, none_]

end Update

private theorem checked_cases (field : Option (Option String)) :
    field = some none ∨ field = field.join.map some := by
  rcases field with - | - | value <;> simp

theorem updatePaymentMethod_indexed (indexed : Indexed rows) (input : UpdatePaymentMethod) :
    Indexed (updatePaymentMethod rows input).2 := by
  have inTx (phoneE164 bankLabel : Option String) :
      Indexed (updateInTx rows input phoneE164 bankLabel).2 := by
    by_cases reached : ∃ row, get PaymentMethod.id rows input.methodId = some row ∧
        row.teacherAccountId = input.teacherAccountId
    · rcases reached with ⟨row, found, owner⟩
      rw [updateInTx_eq found owner]
      split
      · exact indexed
      · next accepted =>
        exact ((readied_prepared rows input).indexed indexed).replace (by simpa using accepted)
    · rw [updateInTx_missing fun row found owner => reached ⟨row, found, owner⟩]
      exact indexed
  rw [updatePaymentMethod]
  split
  · exact indexed
  · split
    · exact indexed
    · exact inTx _ _

theorem updatePaymentMethod_kept_iff (indexed : Indexed rows) (kept : Kept rows)
    (input : UpdatePaymentMethod) :
    Kept (updatePaymentMethod rows input).2 <-> UpdateMeets rows input := by
  have inTx (phoneE164 bankLabel : Option String)
      (phone : input.phoneRaw.map normalizePhoneRu = phoneE164.map some)
      (bank : input.bankLabel.map validBankLabel = bankLabel.map some) :
      Kept (updateInTx rows input phoneE164 bankLabel).2 <-> UpdateMeets rows input := by
    have only (otherPhone otherBank : Option String)
        (phoneToo : input.phoneRaw.map normalizePhoneRu = otherPhone.map some)
        (bankToo : input.bankLabel.map validBankLabel = otherBank.map some) :
        otherPhone = phoneE164 ∧ otherBank = bankLabel :=
      ⟨Option.map_injective (Option.some_injective _) (phoneToo.symm.trans phone),
        Option.map_injective (Option.some_injective _) (bankToo.symm.trans bank)⟩
    by_cases reached : ∃ row, get PaymentMethod.id rows input.methodId = some row ∧
        row.teacherAccountId = input.teacherAccountId
    · rcases reached with ⟨row, found, owner⟩
      rw [updateInTx_eq found owner]
      cases refused : refuses (readied rows input) (edited row input phoneE164 bankLabel) with
      | true =>
        simp only [if_true, kept, true_iff]
        intro otherPhone otherBank other phoneToo bankToo foundToo _ accepted
        rcases only otherPhone otherBank phoneToo bankToo with ⟨rfl, rfl⟩
        rw [found, Option.some.injEq] at foundToo
        rw [← foundToo, refused] at accepted
        cases accepted
      | false =>
        simp only [Bool.false_eq_true, if_false]
        rw [edited_kept_iff indexed kept found owner]
        constructor
        · intro meets otherPhone otherBank other _ _ foundToo _ _
          rw [found, Option.some.injEq] at foundToo
          exact foundToo ▸ meets
        · intro meets
          exact meets phoneE164 bankLabel row phone bank found owner refused
    · rw [updateInTx_missing fun row found owner => reached ⟨row, found, owner⟩]
      simp only [kept, true_iff]
      intro _ _ row _ _ found owner _
      exact absurd ⟨row, found, owner⟩ reached
  rw [updatePaymentMethod]
  rcases checked_cases (input.phoneRaw.map normalizePhoneRu) with invalid | phone
  · simp only [invalid, kept, true_iff]
    intro phoneE164 _ _ valid
    rw [invalid] at valid
    cases phoneE164 <;> cases valid
  · rcases checked_cases (input.bankLabel.map validBankLabel) with invalid | bank
    · have unchanged : Kept rows <-> UpdateMeets rows input := by
        simp only [kept, true_iff]
        intro _ bankLabel _ _ valid
        rw [invalid] at valid
        cases bankLabel <;> cases valid
      split
      · exact unchanged
      · simp only [invalid]
        exact unchanged
    · have both := inTx _ _ phone bank
      split
      · next invalid =>
        rw [invalid] at phone
        cases phone
      · split
        · next invalid =>
          rw [invalid] at bank
          cases bank
        · exact both

section Create

variable {phoneE164 bankLabel : String} {row : PaymentMethod}

theorem cleared_prepared (rows : List PaymentMethod) (teacherAccountId : RowId)
    (shouldBeDefault : Bool) :
    Prepared rows teacherAccountId (cleared rows teacherAccountId shouldBeDefault) := by
  rw [cleared]
  split
  · exact Or.inr ⟨none, rfl⟩
  · exact Or.inl rfl

private theorem default_of_some (kept : Kept rows) (unflagged : (activeMethods rows
    teacherAccountId).length ≠ 0) (id : RowId)
    (away : ∀ other, other ∈ activeMethods rows teacherAccountId -> other.id ≠ id) :
    OtherDefault rows teacherAccountId id := by
  have some_active : activeMethods rows teacherAccountId ≠ [] := by
    intro empty
    exact unflagged (by rw [empty]; rfl)
  rcases List.exists_mem_of_ne_nil _ some_active with ⟨other, member⟩
  rcases (kept teacherAccountId).1 other member with ⟨chosen, listed, flagged⟩
  exact ⟨chosen, listed, away chosen listed, flagged⟩

private theorem flagged_or_other (kept : Kept rows) (isDefault : Option Bool) (id : RowId)
    (away : ∀ other, other ∈ activeMethods rows teacherAccountId -> other.id ≠ id)
    {shouldBeDefault : Bool} (should : shouldBeDefault =
      (isDefault = some true || (activeMethods rows teacherAccountId).length = 0)) :
    shouldBeDefault = true ∨
      OtherDefault (cleared rows teacherAccountId shouldBeDefault) teacherAccountId id := by
  cases flag : shouldBeDefault with
  | true => exact Or.inl rfl
  | false =>
    have neither := Bool.or_eq_false_iff.mp (should.symm.trans flag)
    have some_active := of_decide_eq_false neither.2
    exact Or.inr (default_of_some kept some_active id away)

private theorem twin_of_refused (owner : row.teacherAccountId = teacherAccountId)
    (phone : row.phoneE164 = phoneE164) (bank : row.bankLabel = bankLabel) (shouldBeDefault : Bool)
    (refused : refuses (cleared rows teacherAccountId shouldBeDefault)
      (revived row phoneE164 shouldBeDefault) = true) :
    ActiveTwin rows teacherAccountId phoneE164 bankLabel := by
  rcases List.any_eq_true.mp refused with ⟨other, member, blocked⟩
  simp only [Bool.and_eq_true, decide_eq_true_eq, PaymentMethod.clashes, Bool.or_eq_true] at blocked
  rcases blocked with ⟨different, ⟨⟨active, -⟩, mine⟩, clash⟩
  have mineOther : other.teacherAccountId = teacherAccountId := mine.trans owner
  have listed : other ∈ activeMethods (cleared rows teacherAccountId shouldBeDefault)
      teacherAccountId := mem_activeMethods.mpr ⟨member, mineOther, active⟩
  cases flag : shouldBeDefault with
  | false =>
    rw [flag] at listed clash
    rcases clash with same | ⟨-, impossible⟩
    · exact ⟨other, listed, same.1.trans phone, same.2.trans bank⟩
    · cases impossible
  | true =>
    rw [flag, cleared, if_pos rfl, activeMethods_clear] at listed
    rcases List.mem_map.mp listed with ⟨before, was, rfl⟩
    rcases clash with same | ⟨flagged, -⟩
    · have samePhone : before.phoneE164 = row.phoneE164 := by simpa [revived] using same.1
      have sameBank : before.bankLabel = row.bankLabel := by simpa [revived] using same.2
      exact ⟨before, was, samePhone.trans phone, sameBank.trans bank⟩
    · have mine := (List.mem_filter.mp was).2
      cases default_of_clearedRow teacherAccountId none before mine flagged

private theorem refused_of_twin (indexed : Indexed rows) (member : row ∈ rows)
    (archived : row.active = false) (owner : row.teacherAccountId = teacherAccountId)
    (phone : row.phoneE164 = phoneE164) (bank : row.bankLabel = bankLabel)
    (shouldBeDefault : Bool) (twin : ActiveTwin rows teacherAccountId phoneE164 bankLabel) :
    refuses (cleared rows teacherAccountId shouldBeDefault)
      (revived row phoneE164 shouldBeDefault) = true := by
  rcases twin with ⟨other, listed, samePhone, sameBank⟩
  rcases mem_activeMethods.mp listed with ⟨memberOther, mine, active⟩
  have different : other.id ≠ row.id := by
    intro same
    have read := get_of_mem indexed.unique memberOther
    rw [same, get_of_mem indexed.unique member, Option.some.injEq] at read
    rw [read, active] at archived
    cases archived
  have clash : ∀ before : PaymentMethod, before.active = true ->
      before.teacherAccountId = teacherAccountId -> before.phoneE164 = phoneE164 ->
      before.bankLabel = bankLabel ->
      before.clashes (revived row phoneE164 shouldBeDefault) = true := by
    intro before activeBefore mineBefore phoneBefore bankBefore
    have activeRow : (revived row phoneE164 shouldBeDefault).active = true := rfl
    have ownerRow : (revived row phoneE164 shouldBeDefault).teacherAccountId =
      teacherAccountId := owner
    have phoneRow : (revived row phoneE164 shouldBeDefault).phoneE164 = phoneE164 := phone
    have bankRow : (revived row phoneE164 shouldBeDefault).bankLabel = bankLabel := bank
    simp [PaymentMethod.clashes, activeBefore, activeRow, mineBefore, ownerRow, phoneBefore,
      phoneRow, bankBefore, bankRow]
  refine List.any_eq_true.mpr ?_
  cases shouldBeDefault with
  | false =>
    refine ⟨other, memberOther, ?_⟩
    rw [clash other active mine samePhone sameBank, Bool.and_true]
    exact decide_eq_true different
  | true =>
    refine ⟨clearedRow teacherAccountId none other, ?_, ?_⟩
    · rw [cleared, if_pos rfl, clearDefault_eq]
      exact List.mem_map_of_mem memberOther
    · rw [clash _ (by simpa using active) (by simpa using mine) (by simpa using samePhone)
        (by simpa using sameBank), Bool.and_true]
      simpa [revived] using different

private theorem revived_kept_iff (indexed : Indexed rows) (kept : Kept rows)
    (member : row ∈ rows) (archived : row.active = false)
    (owner : row.teacherAccountId = teacherAccountId) (isDefault : Option Bool)
    {shouldBeDefault : Bool} (should : shouldBeDefault =
      (isDefault = some true || (activeMethods rows teacherAccountId).length = 0)) :
    Kept ((Change.replace (revived row phoneE164 shouldBeDefault)).apply PaymentMethod.id
        (cleared rows teacherAccountId shouldBeDefault)) <->
      (activeMethods rows teacherAccountId).length < maxActiveMethodsPerTeacher := by
  have prepared := cleared_prepared rows teacherAccountId shouldBeDefault
  have found : get PaymentMethod.id rows (revived row phoneE164 shouldBeDefault).id = some row :=
    get_of_mem indexed.unique member
  have active : (revived row phoneE164 shouldBeDefault).active = true := rfl
  rw [prepared.kept_iff indexed kept found owner owner]
  rcases prepared.found found with ⟨before, read, -, -⟩
  have counted := prepared.count indexed found owner owner
  simp only [archived, active, Bool.false_eq_true, if_false, if_true, Nat.add_zero] at counted
  have away : ∀ other, other ∈ activeMethods rows teacherAccountId -> other.id ≠ row.id := by
    intro other listed same
    rcases mem_activeMethods.mp listed with ⟨memberOther, -, activeOther⟩
    have readOther := get_of_mem indexed.unique memberOther
    rw [same, get_of_mem indexed.unique member, Option.some.injEq] at readOther
    rw [readOther, activeOther] at archived
    cases archived
  rw [hasDefault_active read owner active, WithinTen, counted]
  exact (and_iff_right (flagged_or_other kept isDefault row.id away should)).trans
    Nat.lt_iff_add_one_le.symm

private theorem created_kept (kept : Kept rows) {id : RowId} {now : Nat} {isDefault : Option Bool}
    (fresh : get PaymentMethod.id rows id = none)
    (room : (activeMethods rows teacherAccountId).length < maxActiveMethodsPerTeacher)
    {shouldBeDefault : Bool} (should : shouldBeDefault =
      (isDefault = some true || (activeMethods rows teacherAccountId).length = 0)) :
    Kept ((Change.insert (created id now teacherAccountId phoneE164 bankLabel
        shouldBeDefault)).apply PaymentMethod.id
      (cleared rows teacherAccountId shouldBeDefault)) := by
  have prepared := cleared_prepared rows teacherAccountId shouldBeDefault
  intro other
  by_cases mine : other = teacherAccountId
  · subst other
    have grown : activeMethods ((Change.insert (created id now teacherAccountId phoneE164
        bankLabel shouldBeDefault)).apply PaymentMethod.id
          (cleared rows teacherAccountId shouldBeDefault)) teacherAccountId =
        activeMethods (cleared rows teacherAccountId shouldBeDefault) teacherAccountId ++
          [created id now teacherAccountId phoneE164 bankLabel shouldBeDefault] := by
      simp [activeMethods, Change.apply, PaymentMethod.activeOf, PaymentMethod.active, created]
    constructor
    · intro row _
      rw [grown]
      have away : ∀ other, other ∈ activeMethods rows teacherAccountId -> other.id ≠ id :=
        fun other listed => get_eq_none_iff.mp fresh other (mem_activeMethods.mp listed).1
      rcases flagged_or_other kept isDefault id away should with flagged | ⟨chosen, listed, -, set_⟩
      · exact ⟨_, List.mem_append_right _ (List.mem_singleton_self _), flagged⟩
      · exact ⟨chosen, List.mem_append_left _ listed, set_⟩
    · rw [WithinTen, grown, List.length_append, prepared.length]
      exact room
  · have same : activeMethods ((Change.insert (created id now teacherAccountId phoneE164
        bankLabel shouldBeDefault)).apply PaymentMethod.id
          (cleared rows teacherAccountId shouldBeDefault)) other = activeMethods rows other := by
      have different : teacherAccountId ≠ other := fun clash => mine clash.symm
      rw [← prepared.elsewhere mine]
      simp [activeMethods, Change.apply, PaymentMethod.activeOf, created, different]
    rw [HasDefault, WithinTen, same]
    exact kept other

end Create

section Existing

variable {phoneE164 bankLabel : String} {row : PaymentMethod}

theorem existingMethod_eq_some
    (found : existingMethod rows teacherAccountId phoneE164 bankLabel = some row) :
    row ∈ rows ∧ row.teacherAccountId = teacherAccountId ∧ row.phoneE164 = phoneE164 ∧
      row.bankLabel = bankLabel := by
  have chosen := List.find?_some found
  simp only [Bool.and_eq_true, decide_eq_true_eq] at chosen
  exact ⟨List.mem_of_find?_eq_some found, chosen.1.1, chosen.1.2, chosen.2⟩

end Existing

theorem createMeets_iff {input : CreatePaymentMethod} {phoneE164 bankLabel : String}
    (phone : normalizePhoneRu input.phoneRaw = some phoneE164)
    (bank : validBankLabel input.bankLabel = some bankLabel) : CreateMeets rows input <->
      ∀ row, existingMethod rows input.teacherAccountId phoneE164 bankLabel = some row ->
        row.active = false -> ¬ ActiveTwin rows input.teacherAccountId phoneE164 bankLabel ->
        (activeMethods rows input.teacherAccountId).length < maxActiveMethodsPerTeacher := by
  constructor
  · intro meets row
    exact meets phoneE164 bankLabel row phone bank
  · intro meets otherPhone otherBank row phoneToo bankToo
    rw [phone, Option.some.injEq] at phoneToo
    rw [bank, Option.some.injEq] at bankToo
    rw [← phoneToo, ← bankToo]
    exact meets row

theorem createPaymentMethod_kept_iff (indexed : Indexed rows) (kept : Kept rows) (id : RowId)
    (now : Nat) (input : CreatePaymentMethod) : Indexed (createPaymentMethod rows id now input).2 ∧
      (Kept (createPaymentMethod rows id now input).2 <-> CreateMeets rows input) := by
  cases phone : normalizePhoneRu input.phoneRaw with
  | none => simp [createPaymentMethod, CreateMeets, phone, indexed, kept]
  | some phoneE164 =>
    cases bank : validBankLabel input.bankLabel with
    | none => simp [createPaymentMethod, CreateMeets, phone, bank, indexed, kept]
    | some bankLabel =>
      have prepared := fun shouldBeDefault =>
        cleared_prepared rows input.teacherAccountId shouldBeDefault
      rw [createMeets_iff phone bank]
      simp only [createPaymentMethod, phone, bank]
      generalize should : (decide (input.isDefault = some true) ||
        decide ((activeMethods rows input.teacherAccountId).length = 0)) = shouldBeDefault
      cases existing : existingMethod rows input.teacherAccountId phoneE164 bankLabel with
      | some row =>
        rcases existingMethod_eq_some existing with ⟨member, owner, samePhone, sameBank⟩
        cases active : row.active with
        | true => simp [active, indexed, kept]
        | false =>
          simp only [Option.some.injEq, forall_eq', active, Bool.false_eq_true, if_false,
            true_implies, finish_updateRow]
          by_cases refused : refuses (cleared rows input.teacherAccountId shouldBeDefault)
              (revived row phoneE164 shouldBeDefault) = true
          · have twin := twin_of_refused owner samePhone sameBank shouldBeDefault refused
            simp [refused, indexed, kept, twin]
          · have alone : ¬ ActiveTwin rows input.teacherAccountId phoneE164 bankLabel := fun twin =>
              refused (refused_of_twin indexed member active owner samePhone sameBank
                shouldBeDefault twin)
            simp only [refused, alone, not_false_eq_true, true_implies]
            exact ⟨((prepared shouldBeDefault).indexed indexed).replace (by simpa using refused),
              revived_kept_iff indexed kept member active owner input.isDefault should.symm⟩
      | none =>
        simp only [reduceCtorEq, false_implies, implies_true, iff_true]
        by_cases full :
            maxActiveMethodsPerTeacher ≤ (activeMethods rows input.teacherAccountId).length
        · simp [full, indexed, kept]
        · simp only [full, if_false, finish_insertRow]
          split
          · exact ⟨indexed, kept⟩
          · next accepted =>
            simp only [Bool.or_eq_true, not_or, Bool.not_eq_true, Option.isSome_eq_false_iff,
              Option.isNone_iff_eq_none] at accepted
            have fresh : get PaymentMethod.id rows id = none := by
              have untaken := accepted.1
              rw [cleared] at untaken
              split at untaken
              · rwa [get_clear, Option.map_eq_none_iff] at untaken
              · exact untaken
            exact ⟨((prepared shouldBeDefault).indexed indexed).insert accepted.1 accepted.2,
              created_kept kept fresh (Nat.lt_of_not_le full) should.symm⟩

section Archive

variable {row : PaymentMethod} {now : Nat}

private def retired (row : PaymentMethod) (now : Nat) : PaymentMethod :=
  { row with archivedAt := some now, isDefault := false }

private theorem retired_kept_iff (indexed : Indexed rows) (kept : Kept rows)
    (found : get PaymentMethod.id rows row.id = some row) (active : row.active = true)
    (owner : row.teacherAccountId = teacherAccountId) :
    WithinTen ((Change.replace (retired row now)).apply PaymentMethod.id rows) teacherAccountId ∧
      (HasDefault ((Change.replace (retired row now)).apply PaymentMethod.id rows)
          teacherAccountId ->
        Kept ((Change.replace (retired row now)).apply PaymentMethod.id rows)) := by
  have prepared : Prepared rows teacherAccountId rows := Or.inl rfl
  have gone : (retired row now).active = false := rfl
  have counted := @Prepared.count rows teacherAccountId rows (retired row now) row prepared
    indexed found owner owner
  simp only [active, gone, if_true, Bool.false_eq_true, if_false, Nat.add_zero] at counted
  have within : WithinTen ((Change.replace (retired row now)).apply PaymentMethod.id rows)
      teacherAccountId := by
    have ten := (kept teacherAccountId).2
    rw [WithinTen] at ten ⊢
    omega
  refine ⟨within, fun hasDefault => ?_⟩
  exact (@Prepared.kept_iff rows teacherAccountId rows (retired row now) row prepared indexed
    kept found owner owner).mpr ⟨hasDefault, within⟩

private theorem retired_hasDefault (indexed : Indexed rows) (kept : Kept rows)
    (found : get PaymentMethod.id rows row.id = some row) (unflagged : row.isDefault = false) :
    HasDefault ((Change.replace (retired row now)).apply PaymentMethod.id rows)
      teacherAccountId := by
  refine (@hasDefault_archived teacherAccountId rows (retired row now) row found rfl).mpr ?_
  rintro ⟨other, listed, -⟩
  rcases (kept teacherAccountId).1 other listed with ⟨chosen, member, flagged⟩
  refine ⟨chosen, member, ?_, flagged⟩
  intro same
  have read := get_of_mem indexed.unique (mem_activeMethods.mp member).1
  have key : chosen.id = row.id := same
  rw [key, found, Option.some.injEq] at read
  rw [read, flagged] at unflagged
  cases unflagged

private theorem promoted_kept {before : List PaymentMethod} (indexed : Indexed rows)
    (within : WithinTen rows teacherAccountId) (elsewhere : ∀ other, other ≠ teacherAccountId ->
      HasDefault rows other ∧ WithinTen rows other)
    (unchanged : Indexed before ∧ Kept before) (result : MethodResult) :
    Indexed (finish before (promote rows teacherAccountId) result).2 ∧
      Kept (finish before (promote rows teacherAccountId) result).2 := by
  rw [promote]
  cases oldest : oldestActive rows teacherAccountId with
  | none =>
    have empty : activeMethods rows teacherAccountId = [] := List.argmin_eq_none.mp oldest
    change Indexed rows ∧ Kept rows
    refine ⟨indexed, fun other => ?_⟩
    by_cases mine : other = teacherAccountId
    · subst other
      refine ⟨fun row member => ?_, within⟩
      rw [empty] at member
      cases member
    · exact elsewhere other mine
  | some next =>
    have listed : next ∈ activeMethods rows teacherAccountId := List.argmin_mem oldest
    rcases mem_activeMethods.mp listed with ⟨member, owner, active⟩
    have found : get PaymentMethod.id rows next.id = some next :=
      get_of_mem indexed.unique member
    simp only [finish_updateRow]
    split
    · exact unchanged
    · next accepted =>
      refine ⟨indexed.replace (by simpa using accepted), fun other => ?_⟩
      by_cases mine : other = teacherAccountId
      · subst other
        refine ⟨(@hasDefault_active teacherAccountId rows { next with isDefault := true } next
          found owner active).mpr (Or.inl rfl), ?_⟩
        have counted := @length_active_replace rows { next with isDefault := true } next indexed
          found teacherAccountId
        have same : ({ next with isDefault := true } : PaymentMethod).activeOf teacherAccountId =
            next.activeOf teacherAccountId := rfl
        rw [same, Nat.add_right_cancel_iff] at counted
        rw [WithinTen, counted]
        exact within
      · have away := @kept_elsewhere rows other { next with isDefault := true } next indexed found
          rfl (by rw [owner]; exact mine)
        exact ⟨away.1 (elsewhere other mine).1, away.2 (elsewhere other mine).2⟩

theorem archivePaymentMethod_kept (indexed : Indexed rows) (kept : Kept rows) (now : Nat)
    (teacherAccountId methodId : RowId) :
    Indexed (archivePaymentMethod rows now teacherAccountId methodId).2 ∧
      Kept (archivePaymentMethod rows now teacherAccountId methodId).2 := by
  rw [archivePaymentMethod]
  cases reached : (get PaymentMethod.id rows methodId).filter
      (PaymentMethod.activeOf teacherAccountId) with
  | none => exact ⟨indexed, kept⟩
  | some row =>
    rcases Option.filter_eq_some_iff.mp reached with ⟨read, chosen⟩
    simp only [PaymentMethod.activeOf, Bool.and_eq_true, decide_eq_true_eq] at chosen
    have found : get PaymentMethod.id rows row.id = some row := by
      rw [key_of_get read, read]
    have ends := @retired_kept_iff rows teacherAccountId row now indexed kept found chosen.2
      chosen.1
    cases flagged : row.isDefault with
    | false =>
      simp only [flagged, Bool.false_eq_true, if_false, finish_updateRow]
      split
      · exact ⟨indexed, kept⟩
      · next accepted =>
        exact ⟨indexed.replace (Bool.eq_false_iff.mpr accepted),
          ends.2 (retired_hasDefault indexed kept found flagged)⟩
    | true =>
      simp only [flagged, if_true, updateRow]
      split
      · exact ⟨indexed, kept⟩
      · next accepted =>
        refine promoted_kept (indexed.replace (Bool.eq_false_iff.mpr accepted)) ends.1 ?_
          ⟨indexed, kept⟩ .archived
        intro other different
        have away := @kept_elsewhere rows other (retired row now) row indexed found rfl
          (fun same => different (same.trans chosen.1))
        exact ⟨away.1 (kept other).1, away.2 (kept other).2⟩

end Archive

theorem step_kept_iff (indexed : Indexed rows) (kept : Kept rows) (step : MethodStep) :
    Indexed (step.apply rows) ∧ (Kept (step.apply rows) <-> step.Meets rows) := by
  cases step with
  | create id now input => exact createPaymentMethod_kept_iff indexed kept id now input
  | update input =>
    exact ⟨updatePaymentMethod_indexed indexed input,
      updatePaymentMethod_kept_iff indexed kept input⟩
  | archive now teacherAccountId methodId =>
    have both := archivePaymentMethod_kept indexed kept now teacherAccountId methodId
    exact ⟨both.1, iff_of_true both.2 trivial⟩

/-- The methods of a teacher are in order: an active one means exactly one active default,
there are at most ten active ones, and no two of them have the same phone and bank. -/
structure InOrder (rows : List PaymentMethod) (teacherAccountId : RowId) : Prop where
  oneDefault : activeMethods rows teacherAccountId ≠ [] ->
    ∃ chosen, chosen ∈ activeMethods rows teacherAccountId ∧ chosen.isDefault = true ∧
      ∀ other, other ∈ activeMethods rows teacherAccountId -> other.isDefault = true ->
        other = chosen
  atMostTen : (activeMethods rows teacherAccountId).length ≤ 10
  distinct : ∀ first, first ∈ activeMethods rows teacherAccountId ->
    ∀ second, second ∈ activeMethods rows teacherAccountId ->
      first.phoneE164 = second.phoneE164 -> first.bankLabel = second.bankLabel -> first = second

theorem inOrder_iff_kept (indexed : Indexed rows) :
    (∀ teacherAccountId, InOrder rows teacherAccountId) <-> Kept rows := by
  constructor
  · intro inOrder teacherAccountId
    refine ⟨fun row member => ?_, (inOrder teacherAccountId).atMostTen⟩
    rcases (inOrder teacherAccountId).oneDefault (List.ne_nil_of_mem member) with
      ⟨chosen, listed, flagged, -⟩
    exact ⟨chosen, listed, flagged⟩
  · intro kept teacherAccountId
    have clash {first second : PaymentMethod} (one : first ∈ activeMethods rows teacherAccountId)
        (two : second ∈ activeMethods rows teacherAccountId)
        (alike : ((first.phoneE164 = second.phoneE164 && first.bankLabel = second.bankLabel) ||
          (first.isDefault && second.isDefault)) = true) : first = second := by
      rcases mem_activeMethods.mp one with ⟨listed, owner, active⟩
      rcases mem_activeMethods.mp two with ⟨listedOther, ownerOther, activeOther⟩
      refine indexed.apart first listed second listedOther ?_
      rw [PaymentMethod.clashes, active, activeOther, owner, ownerOther, alike]
      simp
    refine ⟨fun some_active => ?_, (kept teacherAccountId).2, ?_⟩
    · rcases List.exists_mem_of_ne_nil _ some_active with ⟨row, member⟩
      rcases (kept teacherAccountId).1 row member with ⟨chosen, listed, flagged⟩
      refine ⟨chosen, listed, flagged, fun other memberOther flaggedOther => ?_⟩
      exact clash memberOther listed (by simp [flagged, flaggedOther])
    · intro first one second two phone bank
      exact clash one two (by simp [phone, bank])

def Throughout (property : List PaymentMethod -> Prop) :
    List PaymentMethod -> List MethodStep -> Prop
  | rows, [] => property rows
  | rows, step :: steps => property rows ∧ Throughout property (step.apply rows) steps

def AllMeet : List PaymentMethod -> List MethodStep -> Prop
  | _, [] => True
  | rows, step :: steps => step.Meets rows ∧ AllMeet (step.apply rows) steps

private theorem throughout_iff (indexed : Indexed rows) (kept : Kept rows)
    (steps : List MethodStep) :
    Throughout (fun rows => ∀ teacherAccountId, InOrder rows teacherAccountId) rows steps <->
      AllMeet rows steps := by
  induction steps generalizing rows with
  | nil => exact iff_of_true ((inOrder_iff_kept indexed).mpr kept) trivial
  | cons step steps extend =>
    have stepped := step_kept_iff indexed kept step
    rw [Throughout, AllMeet, and_iff_right ((inOrder_iff_kept indexed).mpr kept), ← stepped.2]
    constructor
    · intro rest
      have first : ∀ teacherAccountId, InOrder (step.apply rows) teacherAccountId := by
        cases steps with
        | nil => exact rest
        | cons next others => exact rest.1
      have keptAfter := (inOrder_iff_kept stepped.1).mp first
      exact ⟨keptAfter, (extend stepped.1 keptAfter).mp rest⟩
    · rintro ⟨keptAfter, rest⟩
      exact (extend stepped.1 keptAfter).mpr rest

/-- From an empty table, the methods of every teacher stay in order throughout a sequence
of calls exactly when every call meets its condition. -/
theorem methods_in_order (steps : List MethodStep) :
    Throughout (fun rows => ∀ teacherAccountId, InOrder rows teacherAccountId) [] steps <->
      AllMeet [] steps := by
  have nothing : Tables.Unique PaymentMethod.id ([] : List PaymentMethod) := List.nodup_nil
  have indexed : Indexed ([] : List PaymentMethod) :=
    ⟨nothing, fun _ member => absurd member List.not_mem_nil⟩
  have kept : Kept ([] : List PaymentMethod) :=
    fun _ => ⟨fun _ member => absurd member List.not_mem_nil, Nat.zero_le _⟩
  exact throughout_iff indexed kept steps

/-- The only method of a teacher, and the update that takes the default flag from it. -/
def unflag : List MethodStep :=
  [.create (.seeded 1) 1 ⟨.seeded 7, "+7 912 345-67-89", "Bank", none⟩,
    .update ⟨.seeded 7, .seeded 1, none, none, some false, false⟩]

/-- An active method is left without a default. -/
theorem methods_without_default : ¬ ∀ steps, Throughout
      (fun rows => ∀ teacherAccountId, InOrder rows teacherAccountId) [] steps := by
  intro always
  have after := (always unflag).2.2 (.seeded 7)
  have some_active : activeMethods (MethodStep.apply (MethodStep.apply [] unflag[0]) unflag[1])
      (.seeded 7) ≠ [] := by decide +kernel
  have unflagged : (activeMethods (MethodStep.apply (MethodStep.apply [] unflag[0]) unflag[1])
      (.seeded 7)).all (fun row => !row.isDefault) = true := by decide +kernel
  rcases after.oneDefault some_active with ⟨chosen, listed, flagged, -⟩
  have not_flagged := List.all_eq_true.mp unflagged chosen listed
  rw [flagged] at not_flagged
  cases not_flagged

end LevelChannel.Methods
