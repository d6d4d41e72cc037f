import Mathlib.Data.List.Basic

/-! Fields that some of the inputs in a log overwrite: what stands in them is what the last such
input wrote. -/
namespace Proactive.Library.Ledger
variable {ι β : Type}

def last (writes : ι → Option β) (log : List ι) : Option β := (log.filterMap writes).getLast?

@[simp] theorem last_nil (writes : ι → Option β) : last writes [] = none := rfl

theorem last_cons (writes : ι → Option β) (input : ι) (rest : List ι) :
    last writes (input::rest) = (last writes rest).or (writes input) := by
  unfold last
  cases wrote : writes input with
  | none => simp [wrote]
  | some value =>
    rw [List.filterMap_cons_some wrote,List.getLast?_cons]
    cases (rest.filterMap writes).getLast? <;> rfl

theorem last_append (writes : ι → Option β) (first second : List ι) :
    last writes (first ++ second) = (last writes second).or (last writes first) := by
  simp [last,List.filterMap_append,List.getLast?_append]

theorem last_none {writes : ι → Option β} {log : List ι} : last writes log = none ↔ ∀ input ∈ log, writes input = none := by
  unfold last
  rw [List.getLast?_eq_none_iff,List.filterMap_eq_nil_iff]

/-- Nothing after the input that is answered has written. -/
theorem last_some {writes : ι → Option β} {log : List ι} {value : β} (wrote : last writes log = some value) :
    ∃ before input after, log = before ++ input::after ∧ writes input = some value ∧
      ∀ later ∈ after, writes later = none := by
  induction log with
  | nil => cases wrote
  | cons input rest ih =>
    rw [last_cons] at wrote
    cases later : last writes rest with
    | some found =>
      rw [later,Option.some_or] at wrote
      obtain ⟨before,other,after,same,writer,silent⟩ := ih (later.trans wrote)
      exact ⟨input::before,other,after,by rw [same]; rfl,writer,silent⟩
    | none =>
      rw [later,Option.none_or] at wrote
      refine ⟨[],input,rest,rfl,wrote,fun other member => ?_⟩
      exact last_none.mp later other member

end Proactive.Library.Ledger
