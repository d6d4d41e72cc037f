import Mathlib.Data.List.Nodup
import Mathlib.Order.Lattice
import Proactive.Library.Table

/-! Partial unique indexes: an optional key of each row, none for the rows that the index
leaves out, and no key twice. -/
namespace Proactive.Library.UniqueIndex
variable {ρ κ : Type}

def Unique (key : ρ → Option κ) (rows : List ρ) : Prop := (rows.filterMap key).Nodup

instance [DecidableEq κ] (key : ρ → Option κ) (rows : List ρ) : Decidable (Unique key rows) :=
  inferInstanceAs (Decidable (List.Nodup _))

def taken [DecidableEq κ] (key : ρ → Option κ) (rows : List ρ) (row : ρ) : Bool :=
  (key row).any (fun own => rows.any (fun other => key other == some own))

theorem unique_nil (key : ρ → Option κ) : Unique key [] := List.nodup_nil

theorem unique_middle {key : ρ → Option κ} {front back : List ρ} {row : ρ} :
    Unique key (front ++ row::back) ↔
      (∀ own, key row = some own → own ∉ (front ++ back).filterMap key) ∧ Unique key (front ++ back) := by
  unfold Unique
  rw [List.filterMap_append,List.filterMap_append]
  cases keyed : key row with
  | none => simp [List.filterMap_cons_none keyed]
  | some own =>
    rw [List.filterMap_cons_some keyed,List.nodup_middle,List.nodup_cons]
    simp

theorem not_taken [DecidableEq κ] {key : ρ → Option κ} {rows : List ρ} {row : ρ}
    (free : taken key rows row = false) {own : κ} (keyed : key row = some own) :
    own ∉ rows.filterMap key := by
  intro member
  obtain ⟨other,present,same⟩ := List.mem_filterMap.mp member
  unfold taken at free
  rw [keyed,Option.any_some,List.any_eq_false] at free
  exact free other present (beq_iff_eq.mpr same)

theorem taken_iff [DecidableEq κ] {key : ρ → Option κ} {rows : List ρ} {row : ρ} :
    taken key rows row = true ↔ ∃ own, key row = some own ∧ ∃ other ∈ rows, key other = some own := by
  unfold taken
  rw [Option.any_eq_true]
  simp only [List.any_eq_true,beq_iff_eq]

theorem unique_append [DecidableEq κ] {key : ρ → Option κ} {rows : List ρ} {row : ρ}
    (unique : Unique key rows) (free : taken key rows row = false) : Unique key (rows ++ [row]) := by
  apply unique_middle.mpr
  rw [List.append_nil]
  exact ⟨fun own keyed => not_taken free keyed,unique⟩

/-- A change that keeps the key of a row or takes the row out of the index. -/
theorem unique_updateWhere {key : ρ → Option κ} {rows : List ρ} {selects : ρ → Bool} {change : ρ → ρ}
    (unique : Unique key rows) (shrinks : ∀ row, key (change row) = key row ∨ key (change row) = none) :
    Unique key (Table.updateWhere selects change rows) := by
  apply List.Nodup.sublist _ unique
  induction rows with
  | nil => exact List.Sublist.refl []
  | cons row rest ih =>
    have inner := ih (List.Nodup.sublist ((List.sublist_cons_self row rest).filterMap key) unique)
    have kept {next : ρ} (same : key next = key row ∨ key next = none) :
        List.Sublist ((next::Table.updateWhere selects change rest).filterMap key) ((row::rest).filterMap key) := by
      rcases same with same | out
      · cases keyed : key row with
        | none =>
          rw [List.filterMap_cons_none keyed,List.filterMap_cons_none (same.trans keyed)]
          exact inner
        | some own =>
          rw [List.filterMap_cons_some keyed,List.filterMap_cons_some (same.trans keyed)]
          exact inner.cons_cons own
      · rw [List.filterMap_cons_none out]
        exact inner.trans ((List.sublist_cons_self row rest).filterMap key)
    change List.Sublist (((if selects row then change row else row)::_).filterMap key) _
    by_cases hit : selects row = true
    · rw [if_pos hit]
      exact kept (shrinks row)
    · rw [if_neg hit]
      exact kept (Or.inl rfl)

theorem unique_of_injective {key : ρ → Option κ} {rows : List ρ} (distinct : rows.Nodup)
    (injective : ∀ first ∈ rows, ∀ second ∈ rows, ∀ own, key first = some own → key second = some own →
      first = second) : Unique key rows := by
  unfold Unique
  rw [List.Nodup,List.pairwise_filterMap]
  refine distinct.imp_of_mem (fun one two apart own keyed other keyed' same => ?_)
  exact apart (injective _ one _ two own keyed (same ▸ keyed'))

theorem count_le_one [BEq κ] [LawfulBEq κ] {key : ρ → Option κ} {rows : List ρ} (unique : Unique key rows)
    (own : κ) : rows.countP (fun row => key row == some own) ≤ 1 := by
  rw [← List.count_filterMap]
  exact List.nodup_iff_count.mp unique own

/-- `COALESCE(column, 0)` tells apart a null and the positive values. -/
theorem coalesce_inj {first second : Option Nat} (one : ∀ value, first = some value → 0 < value)
    (two : ∀ value, second = some value → 0 < value) (same : first.getD 0 = second.getD 0) : first = second := by
  cases first with
  | none =>
    cases second with
    | none => rfl
    | some value => exact absurd same (Nat.ne_of_lt (two value rfl))
  | some value =>
    cases second with
    | none => exact absurd same.symm (Nat.ne_of_lt (one value rfl))
    | some other => exact congrArg some same

def nextId (id : ρ → Nat) (rows : List ρ) : Nat := rows.foldl (fun last row => max last (id row)) 0 + 1

theorem lt_nextId (id : ρ → Nat) {rows : List ρ} {row : ρ} (member : row ∈ rows) : id row < nextId id rows := by
  have bounds (rows : List ρ) (start : Nat) :
      start ≤ rows.foldl (fun last row => max last (id row)) start ∧
        ∀ row ∈ rows, id row ≤ rows.foldl (fun last row => max last (id row)) start := by
    induction rows generalizing start with
    | nil => simp
    | cons head rest ih =>
      obtain ⟨least,each⟩ := ih (max start (id head))
      refine ⟨(le_max_left _ _).trans least,fun row member => ?_⟩
      rcases List.mem_cons.mp member with rfl | later
      · exact (le_max_right _ _).trans least
      · exact each row later
  exact Nat.lt_succ_of_le ((bounds rows 0).2 row member)

end Proactive.Library.UniqueIndex
