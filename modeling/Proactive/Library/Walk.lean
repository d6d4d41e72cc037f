import Mathlib.Data.Finset.Card
import Mathlib.Logic.Relation

/-! Walks from state to state, each turn of which ends the walk or names the next state: over finitely
many states a walk ends, or it runs into a circle. -/
namespace Proactive.Library.Walk
open Relation
variable {α β : Type} {turn : α → β ⊕ α} {start state first second : α} {result : β}

def walk (turn : α → β ⊕ α) : Nat → α → Option β
  | 0,_ => none
  | fuel + 1,state =>
    match turn state with
    | .inl result => some result
    | .inr next => walk turn fuel next

def Moves (turn : α → β ⊕ α) (state next : α) : Prop := turn state = .inr next

/-- The walk ends in the state. -/
def EndsAt (turn : α → β ⊕ α) (start state : α) (result : β) : Prop :=
  ReflTransGen (Moves turn) start state ∧ turn state = .inl result

/-- The walk comes to a state to which it comes again. -/
def Circles (turn : α → β ⊕ α) (start : α) : Prop :=
  ∃ state, ReflTransGen (Moves turn) start state ∧ TransGen (Moves turn) state state

theorem walk_ends {fuel : Nat} (ran : walk turn fuel start = some result) :
    ∃ state, EndsAt turn start state result := by
  induction fuel generalizing start with
  | zero => cases ran
  | succ fuel ih =>
    rw [walk] at ran
    cases here : turn start with
    | inl found =>
      rw [here] at ran
      obtain rfl := Option.some.inj ran
      exact ⟨start,.refl,here⟩
    | inr next =>
      rw [here] at ran
      obtain ⟨state,path,ended⟩ := ih ran
      exact ⟨state,.head here path,ended⟩

theorem EndsAt.walk (ends : EndsAt turn start state result) : ∃ fuel, walk turn fuel start = some result := by
  obtain ⟨path,ended⟩ := ends
  induction path using ReflTransGen.head_induction_on with
  | refl =>
    refine ⟨1,?_⟩
    rw [Walk.walk,ended]
  | head moved _ ih =>
    obtain ⟨fuel,ran⟩ := ih
    refine ⟨fuel + 1,?_⟩
    rw [Walk.walk,moved]
    exact ran

theorem walk_more {fuel more : Nat} (order : fuel ≤ more) (ran : walk turn fuel start = some result) :
    walk turn more start = some result := by
  induction fuel generalizing start more with
  | zero => cases ran
  | succ fuel ih =>
    obtain ⟨rest,rfl⟩ := Nat.exists_eq_add_of_le' (Nat.le_trans (Nat.le_add_left 1 fuel) order)
    rw [walk] at ran ⊢
    cases here : turn start with
    | inl found => rwa [here] at ran
    | inr next =>
      rw [here] at ran
      exact ih (Nat.le_of_succ_le_succ order) ran

theorem moves_unique : Relator.RightUnique (Moves turn) :=
  fun _ _ _ one two => Sum.inr.inj (one.symm.trans two)

/-- A walk ends in one state only. -/
theorem EndsAt.unique {other : β} (one : EndsAt turn start first result) (two : EndsAt turn start second other) :
    first = second := by
  have stuck {state next : α} {result : β} (ended : turn state = .inl result)
      (path : ReflTransGen (Moves turn) state next) : state = next := by
    rcases path.cases_head with same | ⟨_,moved,_⟩
    · exact same
    · cases ended.symm.trans moved
  rcases ReflTransGen.total_of_right_unique moves_unique one.1 two.1 with path | path
  · exact stuck one.2 path
  · exact (stuck two.2 path).symm

theorem EndsAt.result_unique {other : β} (one : EndsAt turn start first result) (two : EndsAt turn start second other) :
    result = other := by
  obtain rfl := one.unique two
  exact Sum.inl.inj (one.2.symm.trans two.2)

/-- A walk does not leave a circle. -/
theorem circle_stays (circle : TransGen (Moves turn) first first) (path : ReflTransGen (Moves turn) first second) :
    TransGen (Moves turn) second second := by
  induction path with
  | refl => exact circle
  | tail _ moved ih =>
    obtain ⟨next,other,back⟩ := TransGen.head'_iff.mp ih
    obtain rfl := moves_unique moved other
    exact TransGen.tail' back moved

theorem Circles.endless (circles : Circles turn start) : ¬EndsAt turn start state result := by
  rintro ⟨path,ended⟩
  obtain ⟨again,path',circle⟩ := circles
  have moving (circle : TransGen (Moves turn) state state) : False := by
    obtain ⟨_,moved,_⟩ := TransGen.head'_iff.mp circle
    cases ended.symm.trans moved
  rcases ReflTransGen.total_of_right_unique moves_unique path path' with later | earlier
  · rcases later.cases_head with rfl | ⟨_,moved,_⟩
    · exact moving circle
    · cases ended.symm.trans moved
  · exact moving (circle_stays circle earlier)

/-- Where finitely many states move on, a walk ends or circles: otherwise each turn leaves one state behind. -/
theorem ends_or_circles [DecidableEq α] (states : Finset α)
    (moving : ∀ state next, ReflTransGen (Moves turn) start state → Moves turn state next → state ∈ states) :
    (∃ state result, EndsAt turn start state result) ∨ Circles turn start := by
  induction states using Finset.strongInduction generalizing start with
  | H states ih =>
    cases here : turn start with
    | inl result => exact Or.inl ⟨start,result,.refl,here⟩
    | inr next =>
      by_cases back : ReflTransGen (Moves turn) next start
      · exact Or.inr ⟨start,.refl,TransGen.head' here back⟩
      · have fewer (state later : α) (path : ReflTransGen (Moves turn) next state) (moved : Moves turn state later) :
            state ∈ states.erase start := by
          refine Finset.mem_erase.mpr ⟨?_,moving state later (.head here path) moved⟩
          rintro rfl
          exact back path
        rcases ih _ (Finset.erase_ssubset (moving start next .refl here)) fewer with ⟨state,result,path,ended⟩ | circles
        · exact Or.inl ⟨state,result,.head here path,ended⟩
        · obtain ⟨state,path,circle⟩ := circles
          exact Or.inr ⟨state,.head here path,circle⟩

end Proactive.Library.Walk
