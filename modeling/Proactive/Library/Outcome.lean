import Mathlib.Data.List.Basic
import Mathlib.Data.List.Forall2
import Mathlib.Tactic.Basic

/-! Fallible computations: when a composed one succeeds, and which failures end it. -/
namespace Proactive.Library.Outcome
variable {ε ε' α β : Type}

theorem bind_ok_iff (first : Except ε α) (next : α → Except ε β) (value : β) :
    (first >>= next) = .ok value ↔ ∃ middle, first = .ok middle ∧ next middle = .ok value := by
  cases first with
  | error failure =>
    constructor
    · exact fun failed => nomatch failed
    · exact fun ⟨_,failed,_⟩ => nomatch failed
  | ok middle => exact ⟨fun ran => ⟨middle,rfl,ran⟩,fun ⟨_,same,ran⟩ => Except.ok.inj same ▸ ran⟩

theorem map_ok_iff (change : α → β) (outcome : Except ε α) (value : β) :
    outcome.map change = .ok value ↔ ∃ inner, outcome = .ok inner ∧ change inner = value := by
  cases outcome <;> simp [Except.map]

theorem mapError_ok_iff (change : ε → ε') (outcome : Except ε α) (value : α) :
    outcome.mapError change = .ok value ↔ outcome = .ok value := by
  cases outcome <;> simp [Except.mapError]

theorem mapM_view {γ : Type} {step : α → Except ε β} (view : β → γ) (described : α → γ) {inputs : List α}
    (each : ∀ input ∈ inputs, ∃ output, step input = .ok output ∧ view output = described input) :
    ∃ outputs, inputs.mapM step = .ok outputs ∧ outputs.map view = inputs.map described := by
  induction inputs with
  | nil => exact ⟨[],rfl,rfl⟩
  | cons input rest ih =>
    obtain ⟨output,ran,viewed⟩ := each input List.mem_cons_self
    obtain ⟨outputs,ran',viewed'⟩ := ih (fun other member => each other (List.mem_cons_of_mem input member))
    refine ⟨output::outputs,?_,?_⟩
    · rw [List.mapM_cons,ran,ran']
      rfl
    · rw [List.map_cons,List.map_cons,viewed,viewed']

theorem mapM_succeeds_iff (step : α → Except ε β) (inputs : List α) :
    (∃ outputs, inputs.mapM step = .ok outputs) ↔ ∀ input ∈ inputs, ∃ output, step input = .ok output := by
  constructor
  · intro ⟨outputs,ran⟩
    induction inputs generalizing outputs with
    | nil => exact fun _ absent => nomatch absent
    | cons input rest ih =>
      rw [List.mapM_cons] at ran
      obtain ⟨output,head,ran⟩ := (bind_ok_iff _ _ _).mp ran
      obtain ⟨others,tail,_⟩ := (bind_ok_iff _ _ _).mp ran
      intro other member
      rcases List.mem_cons.mp member with rfl | later
      · exact ⟨output,head⟩
      · exact ih others tail other later
  · intro each
    have viewed (input : α) (member : input ∈ inputs) : ∃ output, step input = .ok output ∧ () = () := by
      obtain ⟨output,ran⟩ := each input member
      exact ⟨output,ran,rfl⟩
    obtain ⟨outputs,ran,_⟩ := mapM_view (fun _ => ()) (fun _ => ()) viewed
    exact ⟨outputs,ran⟩

theorem mapM_views {γ : Type} {step : α → Except ε β} {view : β → γ} {described : α → γ} {inputs : List α}
    {outputs : List β} (ran : inputs.mapM step = .ok outputs)
    (each : ∀ input output, step input = .ok output → view output = described input) :
    outputs.map view = inputs.map described := by
  have stepped (input : α) (member : input ∈ inputs) :
      ∃ output, step input = .ok output ∧ view output = described input := by
    obtain ⟨output,one⟩ := (mapM_succeeds_iff step inputs).mp ⟨outputs,ran⟩ input member
    exact ⟨output,one,each input output one⟩
  obtain ⟨others,again,viewed⟩ := mapM_view view described stepped
  rwa [Except.ok.inj (ran.symm.trans again)]

theorem mem_mapM {step : α → Except ε β} {inputs : List α} {outputs : List β}
    (ran : inputs.mapM step = .ok outputs) {input : α} (member : input ∈ inputs) :
    ∃ output ∈ outputs, step input = .ok output := by
  induction inputs generalizing outputs with
  | nil => cases member
  | cons first rest ih =>
    rw [List.mapM_cons] at ran
    obtain ⟨output,head,ran⟩ := (bind_ok_iff _ _ _).mp ran
    obtain ⟨others,tail,same⟩ := (bind_ok_iff _ _ _).mp ran
    obtain rfl := Except.ok.inj same
    rcases List.mem_cons.mp member with rfl | later
    · exact ⟨output,List.mem_cons_self,head⟩
    · obtain ⟨other,present,stepped⟩ := ih tail later
      exact ⟨other,List.mem_cons_of_mem output present,stepped⟩

theorem mapM_origin {step : α → Except ε β} {inputs : List α} {outputs : List β}
    (ran : inputs.mapM step = .ok outputs) {output : β} (member : output ∈ outputs) :
    ∃ input ∈ inputs, step input = .ok output := by
  induction inputs generalizing outputs with
  | nil =>
    obtain rfl := Except.ok.inj ran
    cases member
  | cons first rest ih =>
    rw [List.mapM_cons] at ran
    obtain ⟨head,stepped,ran⟩ := (bind_ok_iff _ _ _).mp ran
    obtain ⟨others,tail,same⟩ := (bind_ok_iff _ _ _).mp ran
    obtain rfl := Except.ok.inj same
    rcases List.mem_cons.mp member with equal | later
    · exact ⟨first,List.mem_cons_self,equal ▸ stepped⟩
    · obtain ⟨input,present,other⟩ := ih tail later
      exact ⟨input,List.mem_cons_of_mem first present,other⟩

theorem mapM_forall₂_iff {step : α → Except ε β} (related : α → β → Prop) {inputs : List α} :
    (∃ outputs, inputs.mapM step = .ok outputs ∧ List.Forall₂ related inputs outputs) ↔
      ∀ input ∈ inputs, ∃ output, step input = .ok output ∧ related input output := by
  induction inputs with
  | nil => exact iff_of_true ⟨[],rfl,.nil⟩ (fun _ absent => nomatch absent)
  | cons first rest ih =>
    rw [List.forall_mem_cons,← ih,List.mapM_cons]
    constructor
    · rintro ⟨outputs,ran,each⟩
      obtain ⟨head,stepped,ran⟩ := (bind_ok_iff _ _ _).mp ran
      obtain ⟨others,tail,same⟩ := (bind_ok_iff _ _ _).mp ran
      obtain rfl := Except.ok.inj same
      cases each with
      | cons here later => exact ⟨⟨head,stepped,here⟩,others,tail,later⟩
    · rintro ⟨⟨head,stepped,here⟩,others,tail,later⟩
      refine ⟨head::others,?_,.cons here later⟩
      rw [stepped,tail]
      rfl

theorem mapM_map {step : α → Except ε β} {change : α → β} {inputs : List α}
    (each : ∀ input ∈ inputs, step input = .ok (change input)) :
    inputs.mapM step = .ok (inputs.map change) := by
  obtain ⟨outputs,ran,viewed⟩ := mapM_view id change (fun input member => ⟨_,each input member,rfl⟩)
  rw [ran,← viewed,List.map_id]

/-- Only failures of the allowed kinds end the computation. -/
def FailsOnly (allowed : ε → Prop) (outcome : Except ε α) : Prop :=
  ∀ failure, outcome = .error failure → allowed failure

namespace FailsOnly
variable {allowed : ε → Prop}

theorem ok (value : α) : FailsOnly allowed (.ok value : Except ε α) := by
  intro failure failed
  cases failed

theorem error {failure : ε} (fine : allowed failure) :
    FailsOnly allowed (.error failure : Except ε α) := by
  intro other failed
  obtain rfl := Except.error.inj failed
  exact fine

theorem bind {first : Except ε α} {next : α → Except ε β} (head : FailsOnly allowed first)
    (tail : ∀ value, first = .ok value → FailsOnly allowed (next value)) :
    FailsOnly allowed (first >>= next) := by
  cases first with
  | error failure => exact error (head failure rfl)
  | ok value => exact tail value rfl

theorem mapM {step : α → Except ε β} {inputs : List α}
    (each : ∀ input ∈ inputs, FailsOnly allowed (step input)) : FailsOnly allowed (inputs.mapM step) := by
  induction inputs with
  | nil => exact ok []
  | cons input rest ih =>
    rw [List.mapM_cons]
    apply bind (each input List.mem_cons_self)
    intro output _
    apply bind (ih (fun other later => each other (List.mem_cons_of_mem input later)))
    intro outputs _
    exact ok (output::outputs)

end FailsOnly

theorem forall_reached_succ (continues fine : Nat → Prop) (count : Nat) :
    (∀ k < count + 1, (∀ j < k, continues j) → fine k) ↔
      fine 0 ∧ (continues 0 → ∀ k < count, (∀ j < k, continues (j + 1)) → fine (k + 1)) := by
  constructor
  · intro all
    refine ⟨all 0 (Nat.succ_pos _) (by simp),fun first k bound before => ?_⟩
    refine all (k + 1) (by omega) (fun j below => ?_)
    cases j with
    | zero => exact first
    | succ j => exact before j (by omega)
  · intro ⟨first,rest⟩ k bound before
    cases k with
    | zero => exact first
    | succ k => exact rest (before 0 (by omega)) k (by omega) (fun j below => before (j + 1) (by omega))

end Proactive.Library.Outcome
