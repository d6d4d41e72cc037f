import Mathlib.Data.List.Nodup
import Mathlib.Data.List.Sort

/-! Places in an ordered listing: an item stands at the place that the number of items before it names. -/
namespace Proactive.Library.Ranking
variable {α : Type} (before : α → α → Prop)

/-- How many chosen items of a list stand strictly before an item. -/
def ahead [DecidableRel before] (chosen : α → Bool) (list : List α) (item : α) : Nat :=
  list.countP (fun other => chosen other && !decide (before item other))

/-- Each item stands before the later ones, and no later one before it. -/
def Ranked (list : List α) : Prop := list.Pairwise (fun first second => before first second ∧ ¬before second first)

variable {before} {chosen : α → Bool} {list rows : List α} {item first : α} {rest : List α}

theorem Ranked.sublist (ranked : Ranked before list) (sub : rest.Sublist list) : Ranked before rest :=
  List.Pairwise.sublist sub ranked

theorem ranked_cons : Ranked before (first::rest) ↔
    (∀ other ∈ rest, before first other ∧ ¬before other first) ∧ Ranked before rest := List.pairwise_cons

theorem Ranked.head_fresh (ranked : Ranked before (first::rest)) : first ∉ rest := by
  intro member
  have both := (ranked_cons.mp ranked).1 first member
  exact both.2 both.1

variable [DecidableRel before]

theorem ahead_cons_later (last : ¬before item first) :
    ahead before chosen (first::rest) item = ahead before chosen rest item + if chosen first then 1 else 0 := by
  unfold ahead
  rw [List.countP_cons,decide_eq_false last,Bool.not_false,Bool.and_true]

theorem ahead_head [Std.Total before] (ranked : Ranked before (first::rest)) :
    ahead before chosen (first::rest) first = 0 := by
  unfold ahead
  rw [List.countP_eq_zero]
  intro other member
  have follows : before first other := by
    rcases List.mem_cons.mp member with rfl | later
    · exact (Std.Total.total (r := before) other other).elim id id
    · exact ((ranked_cons.mp ranked).1 other later).1
  rw [decide_eq_true follows,Bool.not_true,Bool.and_false]
  exact Bool.false_ne_true

/-- The first items of a listing are those with few items before them. -/
theorem mem_take_iff [Std.Total before] (ranked : Ranked before list) (limit : Nat) :
    item ∈ list.take limit ↔ item ∈ list ∧ ahead before (fun _ => true) list item < limit := by
  induction list generalizing limit with
  | nil => simp
  | cons first rest ih =>
    obtain ⟨above,tail⟩ := ranked_cons.mp ranked
    cases limit with
    | zero => simp
    | succ limit =>
      rw [List.take_succ_cons,List.mem_cons,List.mem_cons,ih tail]
      constructor
      · rintro (rfl | ⟨member,few⟩)
        · rw [ahead_head ranked]
          exact ⟨Or.inl rfl,Nat.succ_pos limit⟩
        · rw [ahead_cons_later (above item member).2,if_pos rfl]
          exact ⟨Or.inr member,Nat.succ_lt_succ few⟩
      · rintro ⟨rfl | member,few⟩
        · exact Or.inl rfl
        · rw [ahead_cons_later (above item member).2,if_pos rfl] at few
          exact Or.inr ⟨member,Nat.lt_of_succ_lt_succ few⟩

theorem ranked_insertionSort [Std.Total before] [IsTrans α before] (distinct : list.Nodup)
    (antisymm : ∀ first ∈ list, ∀ second ∈ list, before first second → before second first → first = second) :
    Ranked before (list.insertionSort before) := by
  have ordered : (list.insertionSort before).Pairwise before := List.pairwise_insertionSort before list
  have apart : (list.insertionSort before).Pairwise (· ≠ ·) :=
    (List.perm_insertionSort before list).nodup_iff.mpr distinct
  have both := ordered.and apart
  refine List.Pairwise.imp_of_mem (fun {one two} first second pair => ⟨pair.1,fun back => ?_⟩) both
  rw [List.mem_insertionSort] at first second
  exact pair.2 (antisymm one first two second pair.1 back)

theorem ahead_lt [Std.Total before] (member : item ∈ list) (picked : chosen item = true) :
    ahead before chosen list item < list.countP chosen := by
  have refl : before item item := (Std.Total.total (r := before) item item).elim id id
  have counted : ahead before chosen list item =
      ((list.filter chosen).filter (fun other => !decide (before item other))).length := by
    unfold ahead
    rw [List.countP_eq_length_filter,List.filter_filter]
    exact congrArg List.length (List.filter_congr (fun other _ => Bool.and_comm _ _))
  rw [counted,List.countP_eq_length_filter,List.length_filter_lt_length_iff_exists]
  exact ⟨item,List.mem_filter.mpr ⟨member,picked⟩,by rw [decide_eq_true refl]; exact Bool.false_ne_true⟩

/-- Counting a listing is counting the rows that it lists. -/
theorem countP_listed (distinct : list.Nodup) (all : rows.Nodup)
    (listed : ∀ other, other ∈ list ↔ other ∈ rows ∧ chosen other = true) (test : α → Bool) :
    list.countP test = rows.countP (fun other => chosen other && test other) := by
  have same : list.Perm (rows.filter chosen) := by
    rw [List.perm_ext_iff_of_nodup distinct (all.filter chosen)]
    intro other
    rw [listed,List.mem_filter]
  rw [same.countP_eq,List.countP_filter]
  exact List.countP_congr (fun other _ => by rw [Bool.and_comm])

theorem ahead_listed (distinct : list.Nodup) (all : rows.Nodup)
    (listed : ∀ other, other ∈ list ↔ other ∈ rows ∧ chosen other = true) (test : α → Bool) :
    ahead before test list item = ahead before (fun other => chosen other && test other) rows item := by
  unfold ahead
  rw [countP_listed distinct all listed]
  exact List.countP_congr (fun other _ => by rw [Bool.and_assoc])

/-- A page of the chosen rows: those with few chosen rows before them. -/
theorem mem_page_iff [Std.Total before] [IsTrans α before] (distinct : rows.Nodup)
    (antisymm : ∀ first ∈ rows, ∀ second ∈ rows, before first second → before second first → first = second)
    (limit : Nat) :
    item ∈ ((rows.filter chosen).insertionSort before).take limit ↔
      item ∈ rows ∧ chosen item = true ∧ ahead before chosen rows item < limit := by
  have ranked : Ranked before ((rows.filter chosen).insertionSort before) :=
    ranked_insertionSort (distinct.filter chosen) (fun one member two member' =>
      antisymm one (List.mem_of_mem_filter member) two (List.mem_of_mem_filter member'))
  have counted : ahead before (fun _ => true) ((rows.filter chosen).insertionSort before) item =
      ahead before chosen rows item := by
    unfold ahead
    rw [(List.perm_insertionSort before _).countP_eq,List.countP_filter]
    exact List.countP_congr (fun other _ => by rw [Bool.true_and,Bool.and_comm])
  rw [mem_take_iff ranked,counted,List.mem_insertionSort,List.mem_filter,and_assoc]

end Proactive.Library.Ranking
