import Mathlib.Data.List.Pairwise
import Mathlib.Order.Lattice
import Proactive.Library.Ranking

/-! A walk over a list that spends a budget on ordinary items, and the same walk with a lower cap on
one class of them. -/
namespace Proactive.Library.GreedyBudget
variable {α : Type}

/-- The items of a list: which are ready, which of these need no budget, and which the cap is for. -/
structure Items (α : Type) where
  ready : α → Bool
  urgent : α → Bool
  held : α → Bool

variable (items : Items α) (budget : Int)

/-- Take each ready item, an ordinary one while the count is below the budget. -/
def greedy : Int → List α → List α
  | _, [] => []
  | count, item::rest =>
    if items.ready item && (items.urgent item || count < budget) then
      item::greedy (if items.urgent item then count else count + 1) rest
    else greedy count rest

/-- The same, but an item of the class also needs the count of the class below the cap. -/
def capped (cap : Int) : Int → Int → List α → List α
  | _, _, [] => []
  | count, holding, item::rest =>
    if items.ready item && (items.urgent item || count < budget) &&
        (items.urgent item || !items.held item || holding < cap) then
      item::capped cap (if items.urgent item then count else count + 1)
        (if items.urgent item || !items.held item then holding else holding + 1) rest
    else capped cap count holding rest

def ordinary (item : α) : Bool := items.ready item && !items.urgent item && !items.held item

/-- Ordinary items of the class stand last. -/
def Ordered (list : List α) : Prop :=
  list.Pairwise (fun first second => items.urgent first = false → items.held first = true →
    items.urgent second = false → items.held second = true)

theorem ordinary_none {item : α} {rest : List α} (lower : items.urgent item = false) (holds : items.held item = true)
    (last : ∀ other ∈ rest, items.urgent item = false → items.held item = true → items.urgent other = false →
      items.held other = true) : (item::rest).countP (ordinary items) = 0 := by
  rw [List.countP_eq_zero]
  intro other member spends
  simp only [ordinary,Bool.and_eq_true,Bool.not_eq_true'] at spends
  rcases List.mem_cons.mp member with rfl | later
  · rw [holds] at spends
    cases spends.2
  · rw [last other later lower holds spends.1.2] at spends
    cases spends.2

/-- The slots that the cap keeps free are spent before an item of the class is reached. -/
theorem capped_eq_greedy {slots count holding : Int} {list : List α} (ordered : Ordered items list)
    (slack : slots ≤ count - holding + list.countP (ordinary items) ∨ budget ≤ count) :
    capped items budget (max 0 (budget - slots)) count holding list = greedy items budget count list := by
  induction list generalizing count holding with
  | nil => rfl
  | cons item rest ih =>
    obtain ⟨last,ordered⟩ := List.pairwise_cons.mp ordered
    have skip (spared : ordinary items item = false) : slots ≤ count - holding + rest.countP (ordinary items) ∨
        budget ≤ count := by
      rwa [List.countP_cons_of_neg (Bool.not_eq_true _ ▸ spared)] at slack
    rw [capped,greedy]
    cases ready : items.ready item with
    | false =>
      rw [Bool.false_and,Bool.false_and,if_neg Bool.false_ne_true,if_neg Bool.false_ne_true]
      exact ih ordered (skip (by rw [ordinary,ready]; rfl))
    | true =>
      cases urgent : items.urgent item with
      | true =>
        simp only [Bool.true_or,Bool.and_true,if_true]
        rw [ih ordered (skip (by rw [ordinary,urgent,Bool.not_true,Bool.and_false,Bool.false_and]))]
      | false =>
        by_cases room : count < budget
        · cases holds : items.held item with
          | false =>
            simp only [room,decide_true,Bool.false_or,Bool.not_false,Bool.true_or,Bool.and_true,if_true]
            have spends : ordinary items item = true := by rw [ordinary,ready,urgent,holds]; rfl
            rw [List.countP_cons_of_pos spends] at slack
            simp only [Bool.false_eq_true,if_false]
            rw [ih ordered (by omega)]
          | true =>
            rw [ordinary_none items urgent holds last] at slack
            have none := List.countP_eq_zero.mpr (fun other member =>
              List.countP_eq_zero.mp (ordinary_none items urgent holds last) other (List.mem_cons_of_mem item member))
            have below : holding < max 0 (budget - slots) := by omega
            simp only [room,below,decide_true,Bool.false_or,Bool.not_true,Bool.and_true,if_true,Bool.false_eq_true,
              if_false]
            rw [ih ordered (by rw [none]; omega)]
        · simp only [room,decide_false,Bool.false_or,Bool.and_false,Bool.false_and,Bool.false_eq_true,if_false]
          exact ih ordered (Or.inr (Int.not_lt.mp room))

/-- A ready item is taken exactly when the ready ordinary items before it leave room. -/
theorem mem_greedy_iff {before : α → α → Prop} [DecidableRel before] [Std.Total before] {item : α} {count : Int}
    {list : List α} (ranked : Ranking.Ranked before list) :
    item ∈ greedy items budget count list ↔ item ∈ list ∧ items.ready item = true ∧
      (items.urgent item = true ∨ count +
        Ranking.ahead before (fun other => items.ready other && !items.urgent other) list item < budget) := by
  induction list generalizing count with
  | nil => simp [greedy]
  | cons first rest ih =>
    obtain ⟨above,tail⟩ := Ranking.ranked_cons.mp ranked
    rw [greedy,List.mem_cons]
    by_cases same : item = first
    · subst same
      have skipped : ∀ later, item ∉ greedy items budget later rest :=
        fun later taken => ranked.head_fresh ((ih tail).mp taken).1
      rw [Ranking.ahead_head ranked]
      split
      · rename_i takes
        simpa using takes
      · rename_i refuses
        refine iff_of_false (skipped count) (fun takes => refuses ?_)
        simpa using takes.2
    · rw [or_iff_right same]
      by_cases member : item ∈ rest
      · rw [Ranking.ahead_cons_later (above item member).2]
        split
        · rename_i takes
          rw [List.mem_cons,or_iff_right same,ih tail]
          obtain ⟨ready,_⟩ := Bool.and_eq_true_iff.mp takes
          cases urgent : items.urgent first <;> simp [ready,Int.add_assoc,Int.add_comm]
        · rename_i refuses
          rw [ih tail]
          cases ready : items.ready first with
          | false => simp
          | true =>
            -- The budget is spent, so no ordinary item is taken any more.
            simp only [ready,Bool.true_and,Bool.or_eq_true,decide_eq_true_eq,not_or,not_lt] at refuses
            have spent (places : Nat) : ¬count + (places : Int) < budget := by omega
            simp only [spent,or_false]
      · have absent : ∀ later, item ∉ greedy items budget later rest :=
          fun later taken => member ((ih tail).mp taken).1
        refine iff_of_false ?_ (fun takes => member takes.1)
        split
        · rw [List.mem_cons,or_iff_right same]
          exact absent _
        · exact absent count

theorem capped_congr {items' : Items α} (cap count holding : Int) {list : List α}
    (ready : ∀ item ∈ list, items.ready item = items'.ready item) (urgent : items.urgent = items'.urgent)
    (held : items.held = items'.held) :
    capped items budget cap count holding list = capped items' budget cap count holding list := by
  induction list generalizing count holding with
  | nil => rfl
  | cons item rest ih =>
    have inner (count holding : Int) :=
      ih count holding (fun other member => ready other (List.mem_cons_of_mem item member))
    rw [capped,capped,ready item List.mem_cons_self,urgent,held,inner,inner]

end Proactive.Library.GreedyBudget
