import Mathlib.Data.List.Dedup
import Mathlib.Data.List.Perm.Basic

namespace Tables

/-!
# Joins

An inner join pairs the rows of two tables that match.  Grouped by the row on the left it has one
group for each row with a match, and the group has the matches of the row.
-/

variable {Left Right Key : Type} [DecidableEq Left] [DecidableEq Key]
  (matches_ : Left -> Right -> Bool) (left : List Left) (right : List Right)

def joined : List (Left × Right) :=
  left.flatMap fun row => (right.filter (matches_ row)).map fun other => (row, other)

def groups : List Left :=
  ((joined matches_ left right).map Prod.fst).dedup

def group (row : Left) : List Right :=
  ((joined matches_ left right).filter fun pair => pair.1 = row).map Prod.snd

variable {matches_ left right}

theorem mem_groups {row : Left} : row ∈ groups matches_ left right <->
      row ∈ left ∧ ∃ other, other ∈ right ∧ matches_ row other = true := by
  simp only [groups, joined, List.mem_dedup, List.mem_map, List.mem_flatMap, List.mem_filter]
  constructor
  · rintro ⟨_, ⟨_, member, other, matched, rfl⟩, rfl⟩
    exact ⟨member, other, matched⟩
  · rintro ⟨member, other, matched⟩
    exact ⟨(row, other), ⟨row, member, other, matched, rfl⟩, rfl⟩

theorem group_eq (distinct : left.Nodup) {row : Left} (member : row ∈ left) :
    group matches_ left right row = right.filter (matches_ row) := by
  induction left with
  | nil => cases member
  | cons first rest ih =>
    have ⟨new, others⟩ := List.nodup_cons.mp distinct
    have split : group matches_ (first :: rest) right row =
        (if first = row then right.filter (matches_ first) else []) ++
          group matches_ rest right row := by
      rw [group, group, joined, List.flatMap_cons, List.filter_append, List.map_append, joined]
      congr 1
      split
      case isTrue same =>
        rw [List.filter_eq_self.mpr, List.map_map]
        · exact List.map_id _
        · intro pair inFirst
          obtain ⟨other, _, rfl⟩ := List.mem_map.mp inFirst
          exact decide_eq_true same
      case isFalse different =>
        rw [List.filter_eq_nil_iff.mpr, List.map_nil]
        intro pair inFirst
        obtain ⟨other, _, rfl⟩ := List.mem_map.mp inFirst
        exact fun same => different (of_decide_eq_true same)
    rw [split]
    rcases List.mem_cons.mp member with rfl | later
    · have none_ : group matches_ rest right row = [] := by
        rw [group, List.map_eq_nil_iff, List.filter_eq_nil_iff]
        intro pair inRest same
        obtain ⟨other, there, here⟩ := List.mem_flatMap.mp inRest
        obtain ⟨_, _, rfl⟩ := List.mem_map.mp here
        exact new (of_decide_eq_true same ▸ there)
      rw [if_pos rfl, none_, List.append_nil]
    · have different : first ≠ row := fun same => new (same ▸ later)
      rw [if_neg different, List.nil_append, ih others later]

theorem length_dedup_map {key : Left -> Key} {rows : List Left}
    (unique : ∀ first, first ∈ rows -> ∀ second, second ∈ rows ->
      key first = key second -> first = second) :
    (rows.map key).dedup.length = rows.dedup.length := by
  have mapped : (rows.dedup.map key).length = rows.dedup.length := List.length_map key
  rw [← mapped]
  refine List.Perm.length_eq ?_
  refine (List.perm_ext_iff_of_nodup (List.nodup_dedup _) ?_).mpr fun value => ?_
  · refine (List.nodup_dedup rows).map_on fun first member second also same => ?_
    exact unique first (List.mem_dedup.mp member) second (List.mem_dedup.mp also) same
  · simp only [List.mem_dedup, List.mem_map]

end Tables
