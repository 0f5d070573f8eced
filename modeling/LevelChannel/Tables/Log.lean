import LevelChannel.Tables.Rows

namespace Tables

variable {Row Key : Type} [DecidableEq Key]

/-!
# Logs and upserts

A log lists the versions of keyed values in the order in which they were written; what
counts is the last version of each.  A table that follows a log takes over the last versions
row by row: a row whose key is there replaces the old one, any other row is inserted.
-/

variable (key : Row -> Key)

def latest : List Row -> List Row
  | [] => []
  | row :: later =>
    if later.any fun other => key other = key row then latest later else row :: latest later

/-- `insert … on conflict do update` -/
def upsert (rows : List Row) (row : Row) : List Row :=
  if rows.any fun old => key old = key row then (Change.replace row).apply key rows
  else (Change.insert row).apply key rows

variable {key} {first second log rows new : List Row} {row : Row}

section Latest

theorem mem_of_mem_latest (member : row ∈ latest key log) : row ∈ log := by
  induction log with
  | nil => cases member
  | cons head later inside =>
    rw [latest] at member
    split at member
    · exact List.mem_cons_of_mem head (inside member)
    · rcases List.mem_cons.mp member with rfl | rest
      · exact List.mem_cons_self
      · exact List.mem_cons_of_mem head (inside rest)

theorem mem_latest_append : row ∈ latest key (first ++ second) <-> row ∈ latest key second ∨
      row ∈ latest key first ∧ ∀ other, other ∈ second -> key other ≠ key row := by
  induction first with
  | nil =>
    rw [List.nil_append, latest]
    simp only [List.not_mem_nil, false_and, or_false]
  | cons head later splits =>
    rw [List.cons_append, latest, latest, List.any_append]
    by_cases covered : (later.any fun other => key other = key head) = true
    · rw [if_pos covered, if_pos (by rw [covered, Bool.true_or]), splits]
    rw [if_neg covered]
    by_cases overwritten : (second.any fun other => key other = key head) = true
    · rw [if_pos (by rw [overwritten, Bool.or_true]), splits]
      rcases List.any_eq_true.mp overwritten with ⟨other, member, same⟩
      constructor
      · rintro (new | ⟨old, kept⟩)
        · exact Or.inl new
        · exact Or.inr ⟨List.mem_cons_of_mem head old, kept⟩
      · rintro (new | ⟨old, kept⟩)
        · exact Or.inl new
        · rcases List.mem_cons.mp old with rfl | inside
          · exact absurd (of_decide_eq_true same) (kept other member)
          · exact Or.inr ⟨inside, kept⟩
    · have untouched : ∀ other, other ∈ second -> key other ≠ key head := by
        intro other member same
        exact overwritten (List.any_eq_true.mpr ⟨other, member, decide_eq_true same⟩)
      rw [if_neg (by simp only [covered, overwritten, Bool.or_self, Bool.false_eq_true,
        not_false_eq_true]), List.mem_cons, splits, List.mem_cons]
      constructor
      · rintro (rfl | new | ⟨old, kept⟩)
        · exact Or.inr ⟨Or.inl rfl, untouched⟩
        · exact Or.inl new
        · exact Or.inr ⟨Or.inr old, kept⟩
      · rintro (new | ⟨rfl | old, kept⟩)
        · exact Or.inr (Or.inl new)
        · exact Or.inl rfl
        · exact Or.inr (Or.inr ⟨old, kept⟩)

theorem unique_latest (log : List Row) : Unique key (latest key log) := by
  induction log with
  | nil => exact List.nodup_nil
  | cons head later unique =>
    rw [latest]
    split
    · exact unique
    · rename_i alone
      rw [Unique, List.map_cons, List.nodup_cons]
      refine ⟨?_, unique⟩
      intro repeated
      rcases List.mem_map.mp repeated with ⟨other, member, same⟩
      exact alone (List.any_eq_true.mpr ⟨other, mem_of_mem_latest member, decide_eq_true same⟩)

theorem exists_latest (member : row ∈ log) :
    ∃ last, last ∈ latest key log ∧ key last = key row := by
  induction log generalizing row with
  | nil => cases member
  | cons head later reached =>
    rw [latest]
    by_cases covered : (later.any fun other => key other = key head) = true
    · rw [if_pos covered]
      rcases List.mem_cons.mp member with rfl | inside
      · rcases List.any_eq_true.mp covered with ⟨other, later, same⟩
        rcases reached later with ⟨last, inLatest, alike⟩
        exact ⟨last, inLatest, alike.trans (of_decide_eq_true same)⟩
      · exact reached inside
    · rw [if_neg covered]
      rcases List.mem_cons.mp member with rfl | inside
      · exact ⟨row, List.mem_cons_self, rfl⟩
      · rcases reached inside with ⟨last, inLatest, same⟩
        exact ⟨last, List.mem_cons_of_mem head inLatest, same⟩

end Latest

section Upsert

theorem mem_upsert {old : Row} :
    old ∈ upsert key rows row <-> old = row ∨ old ∈ rows ∧ key old ≠ key row := by
  rw [upsert]
  by_cases there : (rows.any fun old => key old = key row) = true
  · rw [if_pos there]
    constructor
    · exact mem_replace
    · rcases List.any_eq_true.mp there with ⟨held, member, same⟩
      rw [Change.apply, List.mem_map]
      rintro (rfl | ⟨kept, different⟩)
      · exact ⟨held, member, if_pos (of_decide_eq_true same)⟩
      · exact ⟨old, kept, if_neg different⟩
  · rw [if_neg there, mem_insert]
    constructor
    · rintro (kept | rfl)
      · refine Or.inr ⟨kept, ?_⟩
        intro same
        exact there (List.any_eq_true.mpr ⟨old, kept, decide_eq_true same⟩)
      · exact Or.inl rfl
    · rintro (rfl | ⟨kept, -⟩)
      · exact Or.inr rfl
      · exact Or.inl kept

theorem get_upsert {wanted : Key} : get key (upsert key rows row) wanted =
    if key row = wanted then some row else get key rows wanted := by
  rw [upsert]
  by_cases same : key row = wanted
  · subst same
    rw [if_pos rfl]
    split
    · next there =>
      rcases List.any_eq_true.mp there with ⟨old, member, same⟩
      have held := get_isSome_of_mem key member
      rw [of_decide_eq_true same] at held
      exact get_replace_self row (Option.get_mem held)
    · next absent =>
      refine get_insert_self row (get_eq_none_iff.mpr fun old member same => absent ?_)
      exact List.any_eq_true.mpr ⟨old, member, decide_eq_true same⟩
  · rw [if_neg same]
    split
    · exact get_replace_of_ne row (Ne.symm same)
    · exact get_apply_of_ne (.insert row) (Ne.symm same)

theorem get_map {change : Row -> Row} (kept : ∀ row, key (change row) = key row)
    {wanted : Key} : get key (rows.map change) wanted = (get key rows wanted).map change := by
  induction rows with
  | nil => rfl
  | cons head rest extend =>
    simp only [get, List.map_cons, List.find?_cons, kept] at extend ⊢
    by_cases same : key head = wanted
    · simp only [same, decide_true, Option.map_some]
    · simp only [same, decide_false]
      exact extend

theorem get_map_of_ne {change : Row -> Row} (kept : ∀ row, key (change row) = key row)
    {wanted other : Key} (apart : wanted ≠ other) :
    get key (rows.map fun row => if key row = other then change row else row) wanted =
      get key rows wanted := by
  have same (row : Row) : key (if key row = other then change row else row) = key row := by
    split_ifs
    · exact kept row
    · rfl
  rw [get_map same]
  cases found : get key rows wanted with
  | none => rfl
  | some row =>
    rw [Option.map_some, if_neg fun clash => apart ((key_of_get found).symm.trans clash)]

omit [DecidableEq Key] in
theorem Unique.map {change : Row -> Row} (kept : ∀ row, key (change row) = key row)
    (unique : Unique key rows) : Unique key (rows.map change) := by
  have same : (rows.map change).map key = rows.map key := by
    rw [List.map_map]
    exact List.map_congr_left fun row _ => kept row
  rw [Unique, same]
  exact unique

theorem mem_upserts {old : Row} (unique : Unique key new) : old ∈ new.foldl (upsert key) rows <->
      old ∈ new ∨ old ∈ rows ∧ ∀ other, other ∈ new -> key other ≠ key old := by
  induction new generalizing rows with
  | nil =>
    simp only [List.foldl_nil, List.not_mem_nil, false_or, false_implies, implies_true, and_true]
  | cons head later written =>
    rw [Unique, List.map_cons, List.nodup_cons] at unique
    rw [List.foldl_cons, written unique.2, mem_upsert, List.mem_cons, List.forall_mem_cons]
    constructor
    · rintro (new | ⟨rfl | ⟨kept, different⟩, others⟩)
      · exact Or.inl (Or.inr new)
      · exact Or.inl (Or.inl rfl)
      · exact Or.inr ⟨kept, different.symm, others⟩
    · rintro ((rfl | new) | ⟨kept, different, others⟩)
      · refine Or.inr ⟨Or.inl rfl, ?_⟩
        intro other member same
        exact unique.1 (List.mem_map.mpr ⟨other, member, same⟩)
      · exact Or.inl new
      · exact Or.inr ⟨Or.inr ⟨kept, different.symm⟩, others⟩

end Upsert

end Tables
