import Mathlib.Data.List.Basic

/-! The pairs of a list: each element with every element before it. -/
namespace Proactive.Library
variable {α : Type}

/-- Ordered by the later element, then by the earlier one. -/
def pairs (list : List α) : List (α × α) :=
  list.zipIdx.flatMap (fun entry => (list.take entry.2).map (fun first => (first,entry.1)))

/-- The same by recursion, for a list of which a part was passed. -/
def pairsAfter : List α → List α → List (α × α)
  | _,[] => []
  | earlier,current::rest =>
    earlier.map (fun first => (first,current)) ++ pairsAfter (earlier ++ [current]) rest

theorem pairsAfter_eq (earlier rest : List α) : pairsAfter earlier rest =
    (rest.zipIdx earlier.length).flatMap (fun entry =>
      ((earlier ++ rest).take entry.2).map (fun first => (first,entry.1))) := by
  induction rest generalizing earlier with
  | nil => rfl
  | cons current rest ih =>
    have passed : (earlier ++ current::rest).take earlier.length = earlier := List.take_left
    rw [pairsAfter,ih,List.zipIdx_cons,List.flatMap_cons,passed,List.length_append,List.append_assoc]
    rfl

theorem pairs_eq (list : List α) : pairs list = pairsAfter [] list := (pairsAfter_eq [] list).symm

theorem mem_pairsAfter (earlier rest : List α) (first second : α) :
    (first,second) ∈ pairsAfter earlier rest ↔
      (first ∈ earlier ∧ second ∈ rest) ∨ List.Sublist [first,second] rest := by
  induction rest generalizing earlier with
  | nil => simp [pairsAfter]
  | cons current rest ih =>
    rw [pairsAfter,List.mem_append,ih]
    constructor
    · intro found
      rcases found with here | ⟨before,after⟩ | later
      · obtain ⟨previous,member,same⟩ := List.mem_map.mp here
        obtain ⟨rfl,rfl⟩ := Prod.mk.inj same
        exact Or.inl ⟨member,List.mem_cons_self⟩
      · rcases List.mem_append.mp before with old | new
        · exact Or.inl ⟨old,List.mem_cons_of_mem _ after⟩
        · rw [List.mem_singleton.mp new]
          exact Or.inr ((List.singleton_sublist.mpr after).cons_cons current)
      · exact Or.inr (later.cons current)
    · intro found
      rcases found with ⟨before,after⟩ | both
      · rcases List.mem_cons.mp after with same | later
        · rw [same]
          exact Or.inl (List.mem_map_of_mem before)
        · exact Or.inr (Or.inl ⟨List.mem_append_left _ before,later⟩)
      · right
        cases both with
        | cons _ later => exact Or.inr later
        | cons_cons _ tail =>
          exact Or.inl ⟨List.mem_append_right _ List.mem_cons_self,List.singleton_sublist.mp tail⟩

theorem mem_pairs (list : List α) (first second : α) :
    (first,second) ∈ pairs list ↔ List.Sublist [first,second] list := by
  rw [pairs_eq,mem_pairsAfter]
  simp

section keys
variable {κ : Type} {key : α → κ}

def Apart (key : α → κ) (one other : α × α) : Prop :=
  ¬(key one.1 = key other.1 ∧ key one.2 = key other.2) ∧ ¬(key one.1 = key other.2 ∧ key one.2 = key other.1)

theorem pairsAfter_apart {earlier rest : List α} (distinct : ((earlier ++ rest).map key).Nodup) :
    (pairsAfter earlier rest).Pairwise (Apart key) := by
  induction rest generalizing earlier with
  | nil => exact .nil
  | cons current rest ih =>
    have names := distinct
    rw [List.map_append,List.nodup_append] at names
    obtain ⟨before,after,cross⟩ := names
    rw [List.map_cons,List.nodup_cons] at after
    rw [pairsAfter,List.pairwise_append]
    refine ⟨?_,ih (by rwa [List.append_assoc]),?_⟩
    · rw [List.pairwise_map]
      rw [List.nodup_iff_pairwise_ne,List.pairwise_map] at before
      refine before.imp_of_mem (fun member _ different => ?_)
      have other := cross _ (List.mem_map_of_mem member) _ List.mem_cons_self
      exact ⟨fun same => different same.1,fun same => other same.1⟩
    · intro one here other later
      obtain ⟨previous,member,rfl⟩ := List.mem_map.mp here
      have listed : other.2 ∈ rest := by
        rcases (mem_pairsAfter _ _ other.1 other.2).mp later with ⟨_,inside⟩ | both
        · exact inside
        · exact both.subset (by simp)
      have fresh : key current ≠ key other.2 := fun same => after.1 (same ▸ List.mem_map_of_mem listed)
      have ahead := cross _ (List.mem_map_of_mem member) _ (List.mem_cons_of_mem _ (List.mem_map_of_mem listed))
      exact ⟨fun same => fresh same.2,fun same => ahead same.1⟩

/-- Elements with distinct keys form pairs that their keys tell apart. -/
theorem pairs_apart {list : List α} (distinct : (list.map key).Nodup) : (pairs list).Pairwise (Apart key) := by
  rw [pairs_eq]
  exact pairsAfter_apart distinct

end keys
end Proactive.Library
