import Mathlib.Data.List.Forall2
import Mathlib.Data.List.Nodup
import Mathlib.Data.List.Pairwise

/-! Tables as lists of rows: conditional updates, appended rows, and the
relation between two contents of one table from which no row was deleted. -/
namespace Proactive.Library.Table
variable {ρ κ : Type}

/-- `UPDATE ... SET change WHERE selects`. -/
def updateWhere (selects : ρ → Bool) (change : ρ → ρ) (rows : List ρ) : List ρ :=
  rows.map (fun row => if selects row then change row else row)

@[simp] theorem updateWhere_append (selects : ρ → Bool) (change : ρ → ρ) (first second : List ρ) :
    updateWhere selects change (first ++ second) =
      updateWhere selects change first ++ updateWhere selects change second := by
  simp [updateWhere]

theorem updateWhere_map_mem (selects : ρ → Bool) (change : ρ → ρ) (rows : List ρ) (key : ρ → κ)
    (keeps : ∀ row ∈ rows, selects row = true → key (change row) = key row) :
    (updateWhere selects change rows).map key = rows.map key := by
  simp only [updateWhere,List.map_map]
  apply List.map_congr_left
  intro row member
  by_cases hit : selects row
  · simp [hit,keeps row member hit]
  · simp [hit]

theorem updateWhere_map (selects : ρ → Bool) (change : ρ → ρ) (rows : List ρ) (key : ρ → κ)
    (keeps : ∀ row, key (change row) = key row) :
    (updateWhere selects change rows).map key = rows.map key :=
  updateWhere_map_mem selects change rows key (fun row _ _ => keeps row)

theorem mem_updateWhere (selects : ρ → Bool) (change : ρ → ρ) (rows : List ρ) (row : ρ) :
    row ∈ updateWhere selects change rows ↔
      (∃ old ∈ rows, selects old = true ∧ row = change old) ∨ (row ∈ rows ∧ selects row = false) := by
  simp only [updateWhere,List.mem_map]
  constructor
  · rintro ⟨old,member,rfl⟩
    by_cases hit : selects old
    · exact Or.inl ⟨old,member,hit,by simp [hit]⟩
    · exact Or.inr ⟨by simpa [hit] using member,by simp [hit]⟩
  · rintro (⟨old,member,hit,rfl⟩ | ⟨member,miss⟩)
    · exact ⟨old,member,by simp [hit]⟩
    · exact ⟨row,member,by simp [miss]⟩

theorem filterMap_inj_on {key : ρ → Option κ} {rows : List ρ} (distinct : (rows.filterMap key).Nodup)
    {first second : ρ} (one : first ∈ rows) (two : second ∈ rows) {id : κ} (named : key first = some id)
    (same : key second = some id) : first = second := by
  induction rows with
  | nil => cases one
  | cons row rest ih =>
    cases keyed : key row with
    | none =>
      rw [List.filterMap_cons_none keyed] at distinct
      have differs {other : ρ} (has : key other = some id) : other ≠ row := by
        intro equal
        rw [equal,keyed] at has
        cases has
      exact ih distinct (List.mem_of_ne_of_mem (differs named) one)
        (List.mem_of_ne_of_mem (differs same) two)
    | some head =>
      rw [List.filterMap_cons_some keyed,List.nodup_cons] at distinct
      have outside {other : ρ} (member : other ∈ rest) (has : key other = some id) : head ≠ id := by
        intro equal
        exact distinct.1 (List.mem_filterMap.mpr ⟨other,member,equal ▸ has⟩)
      rcases List.mem_cons.mp one with rfl | inner
      · rcases List.mem_cons.mp two with rfl | later
        · rfl
        · exact absurd (Option.some.inj (keyed.symm.trans named)) (outside later same)
      · rcases List.mem_cons.mp two with rfl | later
        · exact absurd (Option.some.inj (keyed.symm.trans same)) (outside inner named)
        · exact ih distinct.2 inner later

/-- Two updates with one change merge when the change takes a row out of the second selection. -/
theorem updateWhere_merge (first second : ρ → Bool) (change : ρ → ρ) (rows : List ρ)
    (once : ∀ row, second (change row) = false) :
    updateWhere second change (updateWhere first change rows) =
      updateWhere (fun row => first row || second row) change rows := by
  simp only [updateWhere,List.map_map]
  apply List.map_congr_left
  intro row _
  by_cases hit : first row <;> simp [hit,once]

/-- Two updates with one idempotent change merge when the second selection does not see the change. -/
theorem updateWhere_again (first second : ρ → Bool) (change : ρ → ρ) (rows : List ρ)
    (idempotent : ∀ row, change (change row) = change row)
    (blind : ∀ row, second (change row) = second row) :
    updateWhere second change (updateWhere first change rows) =
      updateWhere (fun row => first row || second row) change rows := by
  simp only [updateWhere,List.map_map]
  apply List.map_congr_left
  intro row _
  by_cases hit : first row <;> by_cases again : second row <;> simp [hit,again,idempotent,blind]

theorem updateWhere_congr (first second : ρ → Bool) (change : ρ → ρ) (rows : List ρ)
    (same : ∀ row ∈ rows, first row = second row) :
    updateWhere first change rows = updateWhere second change rows := by
  unfold updateWhere
  apply List.map_congr_left
  intro row member
  rw [same row member]

theorem updateWhere_none (selects : ρ → Bool) (change : ρ → ρ) (rows : List ρ)
    (missed : ∀ row ∈ rows, selects row = false) : updateWhere selects change rows = rows := by
  unfold updateWhere
  conv_rhs => rw [← List.map_id rows]
  apply List.map_congr_left
  intro row member
  simp [missed row member]

theorem find?_key [BEq κ] [LawfulBEq κ] {key : ρ → κ} {rows : List ρ} (distinct : (rows.map key).Nodup)
    {row : ρ} {value : κ} (member : row ∈ rows) (keyed : key row = value) :
    rows.find? (fun other => key other == value) = some row := by
  cases found : rows.find? (fun other => key other == value) with
  | none => exact absurd (beq_iff_eq.mpr keyed) (List.find?_eq_none.mp found row member)
  | some other =>
    have same := List.find?_some found
    rw [beq_iff_eq] at same
    rw [List.inj_on_of_nodup_map distinct (List.mem_of_find?_eq_some found) member (same.trans keyed.symm)]

theorem split_key {key : ρ → κ} {rows : List ρ} (distinct : (rows.map key).Nodup) {row : ρ}
    (member : row ∈ rows) :
    ∃ front back, rows = front ++ row::back ∧ ∀ other ∈ front ++ back, key other ≠ key row := by
  obtain ⟨front,back,rfl⟩ := List.append_of_mem member
  refine ⟨front,back,rfl,fun other between same => ?_⟩
  rw [List.map_append,List.map_cons,List.nodup_middle,List.nodup_cons,← List.map_append] at distinct
  exact distinct.1 (List.mem_map.mpr ⟨other,between,same⟩)

theorem updateWhere_split [BEq κ] [LawfulBEq κ] {key : ρ → κ} {front back : List ρ} {row : ρ}
    (others : ∀ other ∈ front ++ back, key other ≠ key row) (change : ρ → ρ) :
    updateWhere (fun other => key other == key row) change (front ++ row::back) = front ++ change row::back := by
  have missed (rows : List ρ) (within : ∀ other ∈ rows, other ∈ front ++ back) :
      updateWhere (fun other => key other == key row) change rows = rows := by
    apply updateWhere_none
    intro other member
    exact beq_false_of_ne (others other (within other member))
  rw [updateWhere_append,missed front (fun other member => List.mem_append_left back member)]
  have last := missed back (fun other member => List.mem_append_right front member)
  unfold updateWhere at last ⊢
  rw [List.map_cons,last,if_pos (beq_self_eq_true (key row))]

theorem filter_split [BEq κ] [LawfulBEq κ] {key : ρ → κ} {front back : List ρ} {row : ρ}
    (others : ∀ other ∈ front ++ back, key other ≠ key row) :
    (front ++ row::back).filter (fun other => key other != key row) = front ++ back := by
  have kept : (front ++ back).filter (fun other => key other != key row) = front ++ back := by
    apply List.filter_eq_self.mpr
    intro other member
    exact bne_iff_ne.mpr (others other member)
  rw [List.filter_append,List.filter_cons_of_neg (by simp),← List.filter_append,kept]

/-- No row is deleted: every old row continues in place and added rows follow. -/
def Evolves (continues : ρ → ρ → Prop) (added : ρ → Prop) (old new : List ρ) : Prop :=
  ∃ kept fresh, new = kept ++ fresh ∧ List.Forall₂ continues old kept ∧ ∀ row ∈ fresh, added row

namespace Evolves
variable {continues further : ρ → ρ → Prop} {added : ρ → Prop} {old middle new : List ρ}

theorem refl (same : ∀ row, continues row row) (rows : List ρ) : Evolves continues added rows rows :=
  ⟨rows,[],by simp,List.forall₂_same.mpr (fun row _ => same row),by simp⟩

theorem mono {weaker : ρ → ρ → Prop} {broader : ρ → Prop}
    (continued : ∀ row next, continues row next → weaker row next)
    (included : ∀ row, added row → broader row)
    (evolves : Evolves continues added old new) : Evolves weaker broader old new := by
  obtain ⟨kept,fresh,shape,related,news⟩ := evolves
  exact ⟨kept,fresh,shape,related.imp continued,fun row member => included row (news row member)⟩

theorem comp {composed : ρ → ρ → Prop} {settled : ρ → Prop}
    (first : Evolves continues added old middle) (second : Evolves further settled middle new)
    (compose : ∀ row next last, continues row next → further next last → composed row last)
    (stable : ∀ row next, added row → further row next → settled next) :
    Evolves composed settled old new := by
  obtain ⟨kept,fresh,rfl,related,news⟩ := first
  obtain ⟨kept',fresh',rfl,related',news'⟩ := second
  obtain ⟨front,back,frontRelated,backRelated,rfl⟩ :
      ∃ front back, List.Forall₂ further kept front ∧ List.Forall₂ further fresh back ∧
        kept' = front ++ back := by
    refine ⟨kept'.take kept.length,kept'.drop kept.length,?_,?_,(List.take_append_drop _ _).symm⟩
    · exact List.forall₂_take_append kept' kept fresh related'.flip |>.flip
    · exact List.forall₂_drop_append kept' kept fresh related'.flip |>.flip
  refine ⟨front,back ++ fresh',by simp,?_,?_⟩
  · clear related' backRelated news news'
    induction related generalizing front with
    | nil => cases frontRelated; exact .nil
    | cons head tail ih =>
      cases frontRelated with
      | cons next rest => exact .cons (compose _ _ _ head next) (ih _ rest)
  · intro row member
    rcases List.mem_append.mp member with inner | outer
    · clear related' frontRelated related news'
      induction backRelated with
      | nil => simp at inner
      | @cons first last firsts lasts head tail ih =>
        rcases List.mem_cons.mp inner with rfl | later
        · exact stable _ _ (news first (by simp)) head
        · exact ih (fun r m => news r (by simp [m])) (List.mem_append_left _ later) later
    · exact news' row outer

theorem updateWhere (selects : ρ → Bool) (change : ρ → ρ) (rows : List ρ)
    (same : ∀ row, continues row row)
    (changed : ∀ row ∈ rows, selects row = true → continues row (change row)) :
    Evolves continues added rows (Table.updateWhere selects change rows) := by
  refine ⟨Table.updateWhere selects change rows,[],by simp,?_,by simp⟩
  unfold Table.updateWhere
  rw [List.forall₂_map_right_iff,List.forall₂_same]
  intro row member
  by_cases hit : selects row
  · simpa [hit] using changed row member hit
  · simpa [hit] using same row

theorem append (same : ∀ row, continues row row) (rows : List ρ) (row : ρ) (fresh : added row) :
    Evolves continues added rows (rows ++ [row]) :=
  ⟨rows,[row],rfl,List.forall₂_same.mpr (fun r _ => same r),by simpa using fresh⟩

theorem forward (evolves : Evolves continues added old new) (row : ρ) (member : row ∈ old) :
    ∃ next ∈ new, continues row next := by
  obtain ⟨kept,fresh,rfl,related,_⟩ := evolves
  induction related with
  | nil => simp at member
  | @cons first next firsts nexts head tail ih =>
    rcases List.mem_cons.mp member with rfl | later
    · exact ⟨next,by simp,head⟩
    · obtain ⟨found,present,relation⟩ := ih later
      exact ⟨found,by simp at present ⊢; tauto,relation⟩

theorem backward (evolves : Evolves continues added old new) (next : ρ) (member : next ∈ new) :
    (∃ row ∈ old, continues row next) ∨ added next := by
  obtain ⟨kept,fresh,rfl,related,news⟩ := evolves
  rcases List.mem_append.mp member with inner | outer
  · left
    clear member
    induction related with
    | nil => simp at inner
    | @cons first last firsts lasts head tail ih =>
      rcases List.mem_cons.mp inner with rfl | later
      · exact ⟨first,by simp,head⟩
      · obtain ⟨found,present,relation⟩ := ih later
        exact ⟨found,by simp [present],relation⟩
  · exact Or.inr (news next outer)

end Evolves
end Proactive.Library.Table
