import Mathlib.Data.List.Basic

/-! Passes over a batch whose steps settle their items. A settled item stays
settled, and a second pass over a settled batch changes nothing in view. -/
namespace Proactive.Library.Settling
variable {ι σ ω : Type}

inductive Pass (step : ι → σ → σ → Prop) : List ι → σ → σ → Prop
  | nil (state : σ) : Pass step [] state state
  | cons {item : ι} {rest : List ι} {before middle after : σ} (head : step item before middle)
    (tail : Pass step rest middle after) : Pass step (item::rest) before after

variable {step : ι → σ → σ → Prop} {holds : σ → Prop} {settled : ι → σ → Prop}
  {items : List ι} {before after : σ}

theorem Pass.invariant (kept : ∀ item first second, holds first → step item first second → holds second)
    (pass : Pass step items before after) (initial : holds before) : holds after := by
  induction pass with
  | nil => exact initial
  | cons head _ ih => exact ih (kept _ _ _ initial head)

/-- What one step keeps of one item's state, the whole pass keeps. -/
theorem Pass.stays (kept : ∀ item first second, holds first → step item first second → holds second)
    (stable : ∀ item other first second, holds first → step other first second → settled item first →
      settled item second)
    (pass : Pass step items before after) (initial : holds before) {item : ι}
    (already : settled item before) : settled item after := by
  induction pass with
  | nil => exact already
  | cons head _ ih => exact ih (kept _ _ _ initial head) (stable _ _ _ _ initial head already)

theorem Pass.settles (settled : ι → σ → Prop)
    (kept : ∀ item first second, holds first → step item first second → holds second)
    (stable : ∀ item other first second, holds first → step other first second → settled item first →
      settled item second)
    (own : ∀ item first second, holds first → step item first second → settled item second)
    (pass : Pass step items before after) (initial : holds before) :
    ∀ item ∈ items, settled item after := by
  induction pass with
  | nil => simp
  | cons head tail ih =>
    have holding := kept _ _ _ initial head
    intro item member
    rcases List.mem_cons.mp member with same | later
    · subst same
      exact tail.stays kept stable holding (own _ _ _ initial head)
    · exact ih holding item later

theorem Pass.still (settled : ι → σ → Prop)
    (kept : ∀ item first second, holds first → step item first second → holds second)
    (stable : ∀ item other first second, holds first → step other first second → settled item first →
      settled item second)
    (view : σ → ω)
    (idle : ∀ item first second, holds first → settled item first → step item first second →
      view second = view first)
    (pass : Pass step items before after) (initial : holds before)
    (all : ∀ item ∈ items, settled item before) : view after = view before := by
  induction pass with
  | nil => rfl
  | cons head tail ih =>
    have rest := ih (kept _ _ _ initial head) (fun item member =>
      stable _ _ _ _ initial head (all item (List.mem_cons_of_mem _ member)))
    rw [rest,idle _ _ _ initial (all _ List.mem_cons_self) head]

end Proactive.Library.Settling
