import Mathlib.Data.List.Sort
import Mathlib.Data.List.Nodup

/-! Keyset pagination: a selection in the order of its keys, cut into pages that each start behind
the last row of the page before. -/
namespace Proactive.Library.Keyset
variable {ρ κ γ ε : Type}

section Order
variable [LinearOrder κ] (key : ρ → κ)

/-- `ORDER BY` the key. -/
def sorted (rows : List ρ) : List ρ := rows.insertionSort (fun first second => key first ≤ key second)

instance keyTotal : Std.Total (fun first second : ρ => key first ≤ key second) where
  total first second := le_total (key first) (key second)

instance keyTrans : IsTrans ρ (fun first second => key first ≤ key second) where
  trans _ _ _ one two := le_trans one two

variable {key} {rows : List ρ}

theorem sorted_perm (key : ρ → κ) (rows : List ρ) : (sorted key rows).Perm rows := List.perm_insertionSort _ rows

theorem sorted_strict (distinct : (rows.map key).Nodup) :
    (sorted key rows).Pairwise (fun first second => key first < key second) := by
  have ordered : (sorted key rows).Pairwise (fun first second => key first ≤ key second) :=
    List.pairwise_insertionSort _ rows
  have apart := ((sorted_perm key rows).map key).nodup_iff.mpr distinct
  rw [List.Nodup,List.pairwise_map] at apart
  exact List.Pairwise.imp (fun both => lt_of_le_of_ne both.1 both.2) (List.Pairwise.and ordered apart)

/-- Behind a row of the listing stands the rest of the listing. -/
theorem sorted_after (distinct : (rows.map key).Nodup) {selects : ρ → Bool} {front back : List ρ} {row : ρ}
    (listing : sorted key (rows.filter selects) = front ++ row::back) :
    sorted key (rows.filter (fun other => selects other && decide (key row < key other))) = back := by
  have chosen := distinct.sublist ((List.filter_sublist (p := selects) (l := rows)).map key)
  have strict := sorted_strict chosen
  rw [listing] at strict
  obtain ⟨_,behind,before⟩ := List.pairwise_append.mp strict
  obtain ⟨above,ordered⟩ := List.pairwise_cons.mp behind
  have kept : (front ++ row::back).filter (fun other => decide (key row < key other)) = back := by
    rw [List.filter_append,List.filter_cons,if_neg (by simp)]
    have none : front.filter (fun other => decide (key row < key other)) = [] := by
      apply List.filter_eq_nil_iff.mpr
      intro other member
      rw [decide_eq_true_eq,not_lt]
      exact (before other member row List.mem_cons_self).le
    have all : back.filter (fun other => decide (key row < key other)) = back :=
      List.filter_eq_self.mpr (fun other member => decide_eq_true (above other member))
    rw [none,all,List.nil_append]
  have split : rows.filter (fun other => selects other && decide (key row < key other)) =
      (rows.filter selects).filter (fun other => decide (key row < key other)) := by
    rw [List.filter_filter]
    apply List.filter_congr
    exact fun _ _ => Bool.and_comm _ _
  have perm : (sorted key (rows.filter (fun other => selects other && decide (key row < key other)))).Perm back := by
    rw [split]
    apply (sorted_perm key _).trans
    have sameRows := ((sorted_perm key (rows.filter selects)).filter
      (fun other => decide (key row < key other))).symm
    rw [listing,kept] at sameRows
    exact sameRows
  have inside {other : ρ} (member : other ∈ back) : other ∈ rows := by
    have listed : other ∈ sorted key (rows.filter selects) := by
      rw [listing]
      exact List.mem_append_right _ (List.mem_cons_of_mem _ member)
    exact List.mem_of_mem_filter ((sorted_perm key _).mem_iff.mp listed)
  refine List.Perm.eq_of_pairwise (fun first second one two low high => ?_) (List.pairwise_insertionSort _ _)
    (ordered.imp le_of_lt) perm
  exact List.inj_on_of_nodup_map distinct (inside (perm.mem_iff.mp one)) (inside two) (le_antisymm low high)

end Order

/-- The pages that a client sees that follows the cursors. -/
inductive Walk (respond : γ → Except ε (List ρ × Option γ)) : γ → List (List ρ) → Prop
  | last {cursor : γ} {page : List ρ} (answered : respond cursor = .ok (page,none)) : Walk respond cursor [page]
  | more {cursor next : γ} {page : List ρ} {pages : List (List ρ)}
      (answered : respond cursor = .ok (page,some next)) (rest : Walk respond next pages) :
      Walk respond cursor (page::pages)

theorem Walk.unique {respond : γ → Except ε (List ρ × Option γ)} {cursor : γ} {pages other : List (List ρ)}
    (one : Walk respond cursor pages) (two : Walk respond cursor other) : pages = other := by
  induction one generalizing other with
  | last answered =>
    cases two with
    | last again =>
      rw [answered] at again
      cases again
      rfl
    | more again rest =>
      rw [answered] at again
      cases again
  | more answered rest ih =>
    cases two with
    | last again =>
      rw [answered] at again
      cases again
    | more again later =>
      rw [answered] at again
      cases again
      rw [ih later]

/-- Pages whose rows are shown another way. -/
theorem Walk.shown {τ : Type} {respond : γ → Except ε (List ρ × Option γ)}
    {answer : γ → Except ε (List τ × Option γ)} {present : ρ → τ}
    (answers : ∀ cursor, answer cursor = (respond cursor).map (fun page => (page.1.map present,page.2)))
    {cursor : γ} {pages : List (List ρ)} (walk : Walk respond cursor pages) :
    Walk answer cursor (pages.map (List.map present)) := by
  induction walk with
  | last answered =>
    apply Walk.last
    rw [answers,answered]
    rfl
  | more answered rest ih =>
    refine Walk.more ?_ ih
    rw [answers,answered]
    rfl

/-- The cursor after a full page. -/
def next (cursorOf : ρ → γ) (limit : Nat) (page : List ρ) : Option γ :=
  if page.length = limit then page.getLast?.map cursorOf else none

/-- Pages that continue where their cursor says cover the listing. -/
theorem walk_complete (respond : γ → Except ε (List ρ × Option γ)) (cursorOf : ρ → γ) (start : γ)
    (listing : List ρ) {limit : Nat} (positive : 0 < limit)
    (first : respond start = .ok (listing.take limit,next cursorOf limit (listing.take limit)))
    (later : ∀ front row back, listing = front ++ row::back →
      respond (cursorOf row) = .ok (back.take limit,next cursorOf limit (back.take limit))) :
    ∃ pages, Walk respond start pages ∧ pages.flatten = listing ∧ pages.length = listing.length / limit + 1 := by
  have suffix (size : Nat) : ∀ front back cursor, back.length = size → listing = front ++ back →
      respond cursor = .ok (back.take limit,next cursorOf limit (back.take limit)) →
      ∃ pages, Walk respond cursor pages ∧ pages.flatten = back ∧ pages.length = back.length / limit + 1 := by
    induction size using Nat.strongRecOn with
    | ind size ih =>
      intro front back cursor sized whole answered
      by_cases short : back.length < limit
      · rw [List.take_of_length_le short.le,next,if_neg short.ne] at answered
        refine ⟨[back],.last answered,List.append_nil back,?_⟩
        rw [Nat.div_eq_of_lt short]
        rfl
      · have full : (back.take limit).length = limit := by
          rw [List.length_take,Nat.min_eq_left (not_lt.mp short)]
        have some : back.take limit ≠ [] := by
          intro empty
          rw [empty] at full
          exact absurd full positive.ne
        -- The last row of a full page is the next cursor.
        obtain ⟨row,last⟩ : ∃ row, (back.take limit).getLast? = Option.some row :=
          ⟨_,List.getLast?_eq_getLast_of_ne_nil some⟩
        obtain ⟨page,paged⟩ := List.getLast?_eq_some_iff.mp last
        rw [next,if_pos full,last] at answered
        have split : listing = (front ++ page) ++ row::back.drop limit := by
          rw [whole]
          conv_lhs => rw [← List.take_append_drop limit back,paged]
          simp only [List.append_assoc,List.singleton_append]
        have fewer : (back.drop limit).length < size := by
          rw [List.length_drop]
          omega
        have shifted : listing = (front ++ page ++ [row]) ++ back.drop limit := by
          rw [split,List.append_assoc _ [row],List.singleton_append]
        obtain ⟨pages,walked,flat,count⟩ := ih _ fewer _ _ _ rfl shifted (later _ _ _ split)
        refine ⟨_,.more answered walked,?_,?_⟩
        · rw [List.flatten_cons,flat,List.take_append_drop]
        · rw [List.length_cons,count,List.length_drop,Nat.div_eq_sub_div positive (not_lt.mp short)]
  exact suffix listing.length [] listing start rfl rfl first

/-- A table behind its primary key; SQLite counts such keys from 1. -/
structure Keyed (id : ρ → Nat) where
  rows : List ρ
  distinct : (rows.map id).Nodup
  positive : ∀ row ∈ rows, 0 < id row

end Proactive.Library.Keyset
