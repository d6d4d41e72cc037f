import Mathlib.Data.List.Induction
import Mathlib.Data.List.Nodup

/-! Rows grouped by a key as a dictionary of lists does it: in the order of the first row of each
key, and within a group in the order of the rows. -/
namespace Proactive.Library.Grouping
variable {ρ κ : Type}

theorem nodup_eraseDups [BEq κ] [LawfulBEq κ] (list : List κ) : list.eraseDups.Nodup := by
  induction measured : list.length using Nat.strongRecOn generalizing list with
  | ind size ih =>
    cases list with
    | nil => exact List.nodup_nil
    | cons first rest =>
      have shorter := List.length_filter_le (fun other => !other == first) rest
      rw [List.eraseDups_cons,List.nodup_cons]
      refine ⟨fun again => ?_,ih _ (by rw [← measured,List.length_cons]; omega) _ rfl⟩
      rw [List.mem_eraseDups,List.mem_filter] at again
      simp at again

variable [DecidableEq κ]

/-- `groups.setdefault(name, []).append(row)`. -/
def insert (name : κ) (row : ρ) : List (κ × List ρ) → List (κ × List ρ)
  | [] => [(name,[row])]
  | (other,members)::rest =>
    if other = name then (other,members ++ [row])::rest else (other,members)::insert name row rest

def group (key : ρ → κ) (rows : List ρ) : List (κ × List ρ) :=
  rows.foldl (fun groups row => insert (key row) row groups) []

def membersOf (key : ρ → κ) (rows : List ρ) (name : κ) : List ρ := rows.filter (fun row => key row = name)

theorem insert_new {name : κ} {names : List κ} (row : ρ) (members : κ → List ρ) (new : name ∉ names) :
    insert name row (names.map (fun other => (other,members other))) =
      names.map (fun other => (other,members other)) ++ [(name,[row])] := by
  induction names with
  | nil => rfl
  | cons first rest ih =>
    rw [List.mem_cons,not_or] at new
    rw [List.map_cons,insert,if_neg (Ne.symm new.1),ih new.2,List.cons_append]

theorem insert_known {name : κ} {names : List κ} (row : ρ) (members : κ → List ρ) (distinct : names.Nodup)
    (known : name ∈ names) :
    insert name row (names.map (fun other => (other,members other))) =
      names.map (fun other => (other,if other = name then members other ++ [row] else members other)) := by
  induction names with
  | nil => cases known
  | cons first rest ih =>
    rw [List.nodup_cons] at distinct
    rw [List.map_cons,List.map_cons,insert]
    by_cases same : first = name
    · subst same
      rw [if_pos rfl,if_pos rfl]
      congr 1
      apply List.map_congr_left
      intro other member
      have apart : other ≠ first := fun equal => distinct.1 (equal ▸ member)
      rw [if_neg apart]
    · rw [if_neg same,if_neg same,ih distinct.2 ((List.mem_cons.mp known).resolve_left (Ne.symm same))]

/-- The groups are the keys in their first order, each with its rows. -/
theorem group_eq (key : ρ → κ) (rows : List ρ) :
    group key rows = (rows.map key).eraseDups.map (fun name => (name,membersOf key rows name)) := by
  induction rows using List.reverseRecOn with
  | nil => rfl
  | append_singleton rows row ih =>
    have more (name : κ) : membersOf key (rows ++ [row]) name =
        if name = key row then membersOf key rows name ++ [row] else membersOf key rows name := by
      unfold membersOf
      rw [List.filter_append]
      by_cases same : name = key row
      · rw [if_pos same,List.filter_singleton,decide_eq_true same.symm]
        rfl
      · rw [if_neg same,List.filter_singleton,decide_eq_false (Ne.symm same)]
        exact List.append_nil _
    have grouped : group key (rows ++ [row]) = insert (key row) row (group key rows) := by
      unfold group
      rw [List.foldl_append]
      rfl
    rw [grouped,ih,List.map_append,List.eraseDups_append,List.map_singleton]
    by_cases known : key row ∈ rows.map key
    · have none : [key row].removeAll (rows.map key) = [] := by simp [List.removeAll,List.mem_map.mp known]
      rw [insert_known row _ (nodup_eraseDups _) (List.mem_eraseDups.mpr known),none,List.eraseDups_nil,List.append_nil]
      apply List.map_congr_left
      intro name _
      rw [more]
    · have kept : [key row].removeAll (rows.map key) = [key row] := by
        rw [List.removeAll,List.filter_eq_self]
        intro name member
        rw [List.mem_singleton.mp member,Bool.not_eq_true',List.elem_eq_contains,List.contains_eq_mem]
        exact decide_eq_false known
      have fresh : membersOf key rows (key row) = [] := by
        unfold membersOf
        rw [List.filter_eq_nil_iff]
        intro other member same
        exact known (List.mem_map.mpr ⟨other,member,of_decide_eq_true same⟩)
      have single : [key row].eraseDups = [key row] := rfl
      rw [insert_new row _ (fun member => known (List.mem_eraseDups.mp member)),kept,single,List.map_append,
        List.map_singleton,more,if_pos rfl,fresh,List.nil_append]
      congr 1
      apply List.map_congr_left
      intro name member
      rw [more,if_neg (fun same => known (by rw [← same]; exact List.mem_eraseDups.mp member))]

theorem mem_group_iff (key : ρ → κ) (rows : List ρ) (name : κ) (members : List ρ) :
    (name,members) ∈ group key rows ↔ members = membersOf key rows name ∧ members ≠ [] := by
  rw [group_eq,List.mem_map]
  constructor
  · rintro ⟨other,member,same⟩
    obtain ⟨rfl,rfl⟩ := Prod.mk.inj same
    obtain ⟨row,own,keyed⟩ := List.mem_map.mp (List.mem_eraseDups.mp member)
    exact ⟨rfl,List.ne_nil_of_mem (List.mem_filter.mpr ⟨own,decide_eq_true keyed⟩)⟩
  · rintro ⟨rfl,filled⟩
    obtain ⟨row,member⟩ := List.exists_mem_of_ne_nil _ filled
    obtain ⟨own,keyed⟩ := List.mem_filter.mp member
    exact ⟨name,List.mem_eraseDups.mpr (List.mem_map.mpr ⟨row,own,of_decide_eq_true keyed⟩),rfl⟩

theorem group_names_nodup (key : ρ → κ) (rows : List ρ) : ((group key rows).map Prod.fst).Nodup := by
  rw [group_eq,List.map_map]
  exact (List.map_id _).symm ▸ nodup_eraseDups _

end Proactive.Library.Grouping
