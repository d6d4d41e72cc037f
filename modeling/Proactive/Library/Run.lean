import Mathlib.Data.List.Basic

/-! Runs of a deterministic machine over a list of inputs: invariants along
the run, and runs from which inputs without effect are left out. -/
namespace Proactive.Library.Run
variable {σ ι : Type}

def run (step : σ → ι → σ) (state : σ) (inputs : List ι) : σ := inputs.foldl step state

def Along (step : σ → ι → σ) (good : σ → ι → Prop) : σ → List ι → Prop
  | _,[] => True
  | state,input::rest => good state input ∧ Along step good (step state input) rest

instance decidableAlong (step : σ → ι → σ) (good : σ → ι → Prop)
    [∀ state input, Decidable (good state input)] :
    ∀ state inputs, Decidable (Along step good state inputs)
  | _,[] => isTrue trivial
  | state,input::rest =>
    have := decidableAlong step good (step state input) rest
    inferInstanceAs (Decidable (good state input ∧ Along step good (step state input) rest))

variable (step : σ → ι → σ)

@[simp] theorem run_nil (state : σ) : run step state [] = state := rfl

@[simp] theorem run_cons (state : σ) (input : ι) (rest : List ι) :
    run step state (input::rest) = run step (step state input) rest := rfl

theorem run_append (state : σ) (first second : List ι) :
    run step state (first ++ second) = run step (run step state first) second := by
  simp [run]

theorem along_append (good : σ → ι → Prop) (state : σ) (first second : List ι) :
    Along step good state (first ++ second) ↔
      Along step good state first ∧ Along step good (run step state first) second := by
  induction first generalizing state with
  | nil => simp [Along]
  | cons input rest ih => simp [Along,ih,and_assoc]

/-- An invariant that every good step keeps holds after every run of good steps. -/
theorem along_invariant (good : σ → ι → Prop) (invariant : σ → Prop)
    (preserved : ∀ state input, good state input → invariant state → invariant (step state input))
    (state : σ) (inputs : List ι) (initial : invariant state)
    (along : Along step good state inputs) : invariant (run step state inputs) := by
  induction inputs generalizing state with
  | nil => exact initial
  | cons input rest ih => exact ih _ (preserved state input along.1 initial) along.2

theorem run_invariant (invariant : σ → Prop)
    (preserved : ∀ state input, invariant state → invariant (step state input))
    (state : σ) (inputs : List ι) (initial : invariant state) :
    invariant (run step state inputs) := by
  induction inputs generalizing state with
  | nil => exact initial
  | cons input rest ih => exact ih _ (preserved state input initial)

/-- A relation between the two ends of every step relates the two ends of every run. -/
theorem run_relation (related : σ → σ → Prop) (reflexive : ∀ state, related state state)
    (transitive : ∀ first second third, related first second → related second third → related first third)
    (stepped : ∀ state input, related state (step state input))
    (state : σ) (inputs : List ι) : related state (run step state inputs) := by
  induction inputs generalizing state with
  | nil => exact reflexive state
  | cons input rest ih => exact transitive _ _ _ (stepped state input) (ih _)

end Proactive.Library.Run
