import Mathlib.Data.List.Nodup
import Mathlib.Algebra.BigOperators.Group.List.Basic
import Mathlib.Algebra.GroupWithZero.Nat

namespace Tables

variable {Row Key : Type} [DecidableEq Key] (key : Row -> Key)

/-!
# Keyed tables

A table is a list of rows in the order of insertion, with a key function.  A row
change inserts a row, replaces the row with the same key, or deletes it.  The list
keeps what sums and counts over a table need; `get` gives the view by key.

Uniqueness of keys is not built into the list: it is what a primary key or a unique
index promises, so it is a hypothesis wherever a lemma needs it.
-/

inductive Change (Row : Type) where
  | insert (row : Row)
  | replace (row : Row)
  | delete (row : Row)
  deriving DecidableEq, Repr

def Change.apply (rows : List Row) : Change Row -> List Row
  | .insert row => rows ++ [row]
  | .replace row => rows.map fun old => if key old = key row then row else old
  | .delete row => rows.filter fun old => key old ≠ key row

def Change.row : Change Row -> Row
  | .insert row => row
  | .replace row => row
  | .delete row => row

def get (rows : List Row) (wanted : Key) : Option Row :=
  rows.find? fun row => key row = wanted

def Unique (rows : List Row) : Prop :=
  (rows.map key).Nodup

section Get

variable {key} {rows : List Row} {row : Row} {wanted : Key}

theorem mem_of_get (found : get key rows wanted = some row) : row ∈ rows :=
  List.mem_of_find?_eq_some found

theorem key_of_get (found : get key rows wanted = some row) : key row = wanted := by
  simpa using List.find?_some found

theorem get_eq_none_iff : get key rows wanted = none <-> ∀ row, row ∈ rows -> key row ≠ wanted := by
  simp [get]

theorem get_isSome_of_mem (key : Row -> Key) {rows : List Row} {row : Row} (member : row ∈ rows) :
    (get key rows (key row)).isSome := by
  simp only [get, List.find?_isSome, decide_eq_true_eq]
  exact ⟨row, member, rfl⟩

theorem get_of_mem (unique : Unique key rows) (member : row ∈ rows) :
    get key rows (key row) = some row := by
  rcases Option.isSome_iff_exists.mp (get_isSome_of_mem key member) with ⟨found, read⟩
  have same : found = row :=
    List.inj_on_of_nodup_map unique (mem_of_get read) member (key_of_get read)
  rw [read, same]

theorem get_eq_some_iff (unique : Unique key rows) :
    get key rows wanted = some row <-> row ∈ rows ∧ key row = wanted := by
  constructor
  · intro found
    exact ⟨mem_of_get found, key_of_get found⟩
  · rintro ⟨member, rfl⟩
    exact get_of_mem unique member

@[simp] theorem get_insert (new : Row) :
    get key ((Change.insert new).apply key rows) wanted =
      (get key rows wanted).or (if key new = wanted then some new else none) := by
  simp only [Change.apply, get, List.find?_append]
  by_cases same : key new = wanted <;> simp [same]

theorem get_insert_self (new : Row) (fresh : get key rows (key new) = none) :
    get key ((Change.insert new).apply key rows) (key new) = some new := by
  rw [get_insert, fresh]
  simp

theorem get_insert_of_some (new : Row) (found : get key rows wanted = some row) :
    get key ((Change.insert new).apply key rows) wanted = some row := by
  rw [get_insert, found]
  rfl

theorem get_replace_self (new : Row) (found : get key rows (key new) = some row) :
    get key ((Change.replace new).apply key rows) (key new) = some new := by
  induction rows with
  | nil => simp [get] at found
  | cons first rest extend =>
    simp only [Change.apply, get, List.map_cons, List.find?_cons] at found extend ⊢
    by_cases same : key first = key new
    · simp [same]
    · simp only [same, decide_false, if_false] at found ⊢
      exact extend found

theorem get_replace_of_ne (new : Row) (different : wanted ≠ key new) :
    get key ((Change.replace new).apply key rows) wanted = get key rows wanted := by
  induction rows with
  | nil => rfl
  | cons first rest extend =>
    simp only [Change.apply, get, List.map_cons, List.find?_cons] at extend ⊢
    by_cases same : key first = key new
    · have other : key first ≠ wanted := by
        rw [same]
        exact different.symm
      simp only [same, if_true, different.symm, decide_false]
      exact extend
    · simp only [same, if_false]
      rw [extend]

theorem get_replaced (new : Row) : get key ((Change.replace new).apply key rows) wanted =
    (get key rows wanted).map fun old => if key new = wanted then new else old := by
  by_cases same : key new = wanted
  · subst same
    cases found : get key rows (key new) with
    | some old => rw [get_replace_self new found, Option.map_some, if_pos rfl]
    | none =>
      rw [Option.map_none]
      refine get_eq_none_iff.mpr fun other member clash => ?_
      rcases List.mem_map.mp member with ⟨old, listed, made⟩
      have absent := get_eq_none_iff.mp found old listed
      rw [if_neg absent] at made
      exact absent (made ▸ clash)
  · rw [get_replace_of_ne new (Ne.symm same)]
    cases get key rows wanted with
    | none => rfl
    | some old => rw [Option.map_some, if_neg same]

theorem get_delete_self (old : Row) :
    get key ((Change.delete old).apply key rows) (key old) = none := by
  simp [get_eq_none_iff, Change.apply]

theorem get_delete_of_ne (old : Row) (different : wanted ≠ key old) :
    get key ((Change.delete old).apply key rows) wanted = get key rows wanted := by
  simp only [get, Change.apply, List.find?_filter]
  congr 1
  funext row
  by_cases same : key row = wanted
  · simp [same, different]
  · simp [same]

theorem get_apply_of_ne (change : Change Row) (different : wanted ≠ key change.row) :
    get key (change.apply key rows) wanted = get key rows wanted := by
  cases change with
  | insert new =>
    have other : key new ≠ wanted := different.symm
    simp [other]
  | replace new => exact get_replace_of_ne new different
  | delete old => exact get_delete_of_ne old different

end Get

section Keys

variable {key} {rows : List Row}

@[simp] theorem map_key_replace (new : Row) :
    ((Change.replace new).apply key rows).map key = rows.map key := by
  simp only [Change.apply, List.map_map]
  apply List.map_congr_left
  intro row _
  by_cases same : key row = key new <;> simp [same]

theorem Unique.replace (unique : Unique key rows) (new : Row) :
    Unique key ((Change.replace new).apply key rows) := by
  simpa [Unique] using unique

theorem Unique.delete (unique : Unique key rows) (old : Row) :
    Unique key ((Change.delete old).apply key rows) :=
  List.Nodup.sublist (List.filter_sublist.map key) unique

theorem Unique.insert (unique : Unique key rows) {new : Row}
    (fresh : get key rows (key new) = none) : Unique key ((Change.insert new).apply key rows) := by
  simp only [Unique, Change.apply, List.map_append, List.map_cons, List.map_nil]
  apply List.nodup_append.mpr
  refine ⟨unique, List.nodup_singleton _, ?_⟩
  intro old listed other single
  rcases List.mem_map.mp listed with ⟨row, member, rfl⟩
  rw [List.mem_singleton.mp single]
  exact get_eq_none_iff.mp fresh row member

theorem mem_insert (key : Row -> Key) {rows : List Row} {row new : Row} :
    row ∈ (Change.insert new).apply key rows <-> row ∈ rows ∨ row = new := by
  simp [Change.apply]

theorem mem_replace {row new : Row} (member : row ∈ (Change.replace new).apply key rows) :
    row = new ∨ (row ∈ rows ∧ key row ≠ key new) := by
  simp only [Change.apply, List.mem_map] at member
  rcases member with ⟨old, listed, rfl⟩
  by_cases same : key old = key new
  · simp [same]
  · simp [same, listed]

theorem mem_delete {row old : Row} :
    row ∈ (Change.delete old).apply key rows <-> row ∈ rows ∧ key row ≠ key old := by
  simp [Change.apply]

end Keys

/-- The sum of an amount over the rows a condition selects: `sum(..) .. where ..`. -/
def total (where_ : Row -> Bool) (amount : Row -> Nat) (rows : List Row) : Nat :=
  ((rows.filter where_).map amount).sum

section Total

variable {where_ : Row -> Bool} {amount : Row -> Nat} {rows : List Row}

@[simp] theorem total_nil : total where_ amount [] = 0 := rfl

theorem total_append (first second : List Row) : total where_ amount (first ++ second) =
      total where_ amount first + total where_ amount second := by
  simp [total]

theorem total_insert (key : Row -> Key) (new : Row) :
    total where_ amount ((Change.insert new).apply key rows) =
      total where_ amount rows + if where_ new then amount new else 0 := by
  rw [Change.apply, total_append]
  by_cases chosen : where_ new <;> simp [total, chosen]

theorem total_congr {other : Row -> Bool} (agree : ∀ row, row ∈ rows -> where_ row = other row) :
    total where_ amount rows = total other amount rows := by
  rw [total, total, List.filter_congr agree]

theorem total_eq_zero (none_chosen : ∀ row, row ∈ rows -> where_ row = false) :
    total where_ amount rows = 0 := by
  have empty : rows.filter where_ = [] := by
    rw [List.filter_eq_nil_iff]
    intro row member
    simp [none_chosen row member]
  simp [total, empty]

theorem total_split (other : Row -> Bool) : total where_ amount rows =
      total (fun row => where_ row && other row) amount rows +
        total (fun row => where_ row && !other row) amount rows := by
  induction rows with
  | nil => rfl
  | cons row rest extend =>
    simp only [total, List.filter_cons] at extend ⊢
    by_cases chosen : where_ row = true
    · by_cases also : other row = true
      · simp only [chosen, also, Bool.and_self, Bool.not_true, Bool.and_false, if_true,
          Bool.false_eq_true, if_false, List.map_cons, List.sum_cons]
        omega
      · simp only [Bool.not_eq_true] at also
        simp only [chosen, also, Bool.and_false, Bool.not_false, Bool.and_self, if_true,
          Bool.false_eq_true, if_false, List.map_cons, List.sum_cons]
        omega
    · simp only [Bool.not_eq_true] at chosen
      simp only [chosen, Bool.false_and, Bool.false_eq_true, if_false]
      exact extend

omit [DecidableEq Key] in
theorem total_le_total {Other : Type} {there : Other -> Bool} {size : Other -> Nat}
    {others : List Other} (ref : Row -> Key) (key : Other -> Key) (once : (rows.map ref).Nodup)
    (refers : ∀ row, row ∈ rows -> where_ row = true ->
      ∃ other, other ∈ others ∧ key other = ref row ∧ there other = true ∧
        amount row ≤ size other) : total where_ amount rows ≤ total there size others := by
  induction rows generalizing others with
  | nil => simp [total]
  | cons row rest extend =>
    have distinct := List.nodup_cons.mp once
    by_cases chosen : where_ row = true
    · rcases refers row List.mem_cons_self chosen with ⟨other, member, same, counted, bound⟩
      rcases List.append_of_mem member with ⟨before, after, rfl⟩
      have remaining : total where_ amount rest ≤ total there size (before ++ after) := by
        refine extend distinct.2 ?_
        intro next listed picked
        rcases refers next (List.mem_cons_of_mem _ listed) picked with
          ⟨partner, memberPartner, own, rest⟩
        have different : partner ≠ other := by
          intro clash
          refine distinct.1 (List.mem_map.mpr ⟨next, listed, ?_⟩)
          rw [← own, clash, same]
        refine ⟨partner, ?_, own, rest⟩
        simp only [List.mem_append, List.mem_cons] at memberPartner ⊢
        rcases memberPartner with early | late | late
        · exact Or.inl early
        · exact absurd late different
        · exact Or.inr late
      simp only [total, List.filter_append, List.filter_cons, chosen, counted, if_true,
        List.map_append, List.map_cons, List.sum_append, List.sum_cons] at remaining ⊢
      omega
    · simp only [Bool.not_eq_true] at chosen
      simp only [total, List.filter_cons, chosen, Bool.false_eq_true, if_false]
      exact extend distinct.2 fun next listed => refers next (List.mem_cons_of_mem _ listed)

theorem total_replace (where_ : Row -> Bool) (amount : Row -> Nat) {key : Row -> Key}
    (unique : Unique key rows) {old new : Row} (found : get key rows (key new) = some old) :
    total where_ amount ((Change.replace new).apply key rows) +
        (if where_ old then amount old else 0) =
      total where_ amount rows + (if where_ new then amount new else 0) := by
  induction rows with
  | nil => simp [get] at found
  | cons row rest extend =>
    have distinct := List.nodup_cons.mp unique
    by_cases same : key row = key new
    · have first : row = old := by simpa [get, same] using found
      subst first
      have untouched :
        rest.map (fun other => if key other = key new then new else other) = rest := by
        conv_rhs => rw [← List.map_id rest]
        apply List.map_congr_left
        intro other member
        have different : key other ≠ key new := by
          intro clash
          exact distinct.1 (same ▸ clash ▸ List.mem_map_of_mem member)
        simp [different]
      simp only [Change.apply, List.map_cons, same, if_true, untouched, total, List.filter_cons]
      by_cases oldChosen : where_ row = true <;> by_cases newChosen : where_ new = true <;>
        simp only [oldChosen, newChosen, if_true, if_false, List.map_cons, List.sum_cons,
          Bool.false_eq_true] <;> omega
    · have later : get key rest (key new) = some old := by simpa [get, same] using found
      have tail := extend distinct.2 later
      simp only [Change.apply, List.map_cons, same, if_false, total, List.filter_cons] at tail ⊢
      by_cases chosen : where_ row = true <;>
        simp only [chosen, if_true, if_false, List.map_cons, List.sum_cons,
          Bool.false_eq_true] <;> omega

end Total

end Tables
