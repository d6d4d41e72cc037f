import Mathlib.Data.List.Basic

/-! Lists joined by a mark: when two joined lists are equal, and what the parts of a split list say. -/
namespace Proactive.Library.Separated
variable {α : Type} {mark : α} {first second rest other : List α}

/-- Either the parts are the same, or a mark inside one of the parts is read as the joint. -/
theorem join_eq_iff : first ++ mark::rest = second ++ mark::other ↔
    (first = second ∧ rest = other) ∨
      (∃ between, second = first ++ mark::between ∧ rest = between ++ mark::other) ∨
      ∃ between, first = second ++ mark::between ∧ other = between ++ mark::rest := by
  constructor
  · intro same
    rcases List.append_eq_append_iff.mp same with ⟨added,longer,tail⟩ | ⟨added,longer,tail⟩
    · cases added with
      | nil =>
        rw [List.append_nil] at longer
        exact Or.inl ⟨longer.symm,(List.cons.inj tail).2⟩
      | cons head between =>
        obtain ⟨rfl,inner⟩ := List.cons.inj tail
        exact Or.inr (Or.inl ⟨between,longer,inner⟩)
    · cases added with
      | nil =>
        rw [List.append_nil] at longer
        exact Or.inl ⟨longer,(List.cons.inj tail).2.symm⟩
      | cons head between =>
        obtain ⟨rfl,inner⟩ := List.cons.inj tail
        exact Or.inr (Or.inr ⟨between,longer,inner⟩)
  · intro parts
    rcases parts with ⟨rfl,rfl⟩ | ⟨between,rfl,rfl⟩ | ⟨between,rfl,rfl⟩
    · rfl
    · rw [List.append_assoc,List.cons_append]
    · rw [List.append_assoc,List.cons_append]

/-- Parts that lack the mark can be read off. -/
theorem join_injective (one : mark ∉ first) (two : mark ∉ second)
    (same : first ++ mark::rest = second ++ mark::other) : first = second ∧ rest = other := by
  rcases join_eq_iff.mp same with parts | ⟨between,longer,_⟩ | ⟨between,longer,_⟩
  · exact parts
  · rw [longer] at two
    exact absurd (List.mem_append_right first List.mem_cons_self) two
  · rw [longer] at one
    exact absurd (List.mem_append_right second List.mem_cons_self) one

theorem splitOn_map {β : Type} [BEq α] [LawfulBEq α] [BEq β] [LawfulBEq β] {f : α → β} {other : β}
    (kept : ∀ value, f value = other ↔ value = mark) (values : List α) :
    (values.map f).splitOn other = (values.splitOn mark).map (List.map f) := by
  induction values with
  | nil => rfl
  | cons value rest ih =>
    rw [List.map_cons,List.splitOn_cons_eq_if_modifyHead,List.splitOn_cons_eq_if_modifyHead,ih]
    by_cases same : value = mark
    · rw [if_pos (beq_iff_eq.mpr ((kept value).mpr same)),if_pos (beq_iff_eq.mpr same)]
      rfl
    · rw [if_neg (fun hit => same ((kept value).mp (beq_iff_eq.mp hit))),
        if_neg (fun hit => same (beq_iff_eq.mp hit))]
      cases List.splitOn mark rest <;> rfl

theorem intercalate_append {separator : List α} {front back : List (List α)} (one : front ≠ []) (two : back ≠ []) :
    separator.intercalate (front ++ back) =
      separator.intercalate front ++ separator ++ separator.intercalate back := by
  induction front with
  | nil => exact absurd rfl one
  | cons head tail ih =>
    cases tail with
    | nil => rw [List.singleton_append,List.intercalate_cons_of_ne_nil two,List.intercalate_singleton]
    | cons next tail =>
      rw [List.cons_append,List.intercalate_cons_of_ne_nil (by simp),ih (List.cons_ne_nil _ _),
        List.intercalate_cons_of_ne_nil (List.cons_ne_nil _ _)]
      simp only [List.append_assoc]

/-- Parts that lack the mark, each with the mark after it, are read back. -/
theorem splitOn_terminated [BEq α] [LawfulBEq α] {parts : List (List α)} (free : ∀ part ∈ parts, mark ∉ part) :
    (parts.flatMap (fun part => part ++ [mark])).splitOn mark = parts ++ [[]] := by
  induction parts with
  | nil => rfl
  | cons part rest ih =>
    rw [List.flatMap_cons,List.append_assoc,List.singleton_append,
      List.splitOn_append_cons_self_of_not_mem (free part List.mem_cons_self),
      ih (fun other member => free other (List.mem_cons_of_mem _ member))]
    rfl

/-- The parts of one list begin the parts of another one. -/
theorem splitOn_take_iff [BEq α] [LawfulBEq α] :
    first.splitOn mark = (second.splitOn mark).take (first.splitOn mark).length ↔
      second = first ∨ ∃ back, second = first ++ mark::back := by
  constructor
  · intro same
    have split := List.take_append_drop (first.splitOn mark).length (second.splitOn mark)
    rw [← same] at split
    have whole : [mark].intercalate (second.splitOn mark) = second := List.intercalate_splitOn mark
    rw [← split] at whole
    by_cases dropped : (second.splitOn mark).drop (first.splitOn mark).length = []
    · rw [dropped,List.append_nil,List.intercalate_splitOn] at whole
      exact Or.inl whole.symm
    · rw [intercalate_append (List.splitOn_ne_nil _ _) dropped,List.intercalate_splitOn,List.append_assoc] at whole
      exact Or.inr ⟨_,whole.symm⟩
  · rintro (rfl | ⟨back,rfl⟩)
    · rw [List.take_length]
    · rw [List.splitOn_append_cons_self,List.take_left]

end Proactive.Library.Separated
