import Mathlib.Logic.Function.Basic
import Mathlib.Order.Lattice

/-! One register that holds at most one lease with an end, and any number of owners that ask for it,
get it and give it back, in any order and at any speed under one clock. -/
namespace Proactive.Library

structure TimedLease (κ τ : Type) where
  owner : κ
  since : τ
  ends : τ
deriving DecidableEq, Repr

/-- Where one owner stands. An owner that gets no further turn has stalled or died. -/
inductive Standing (κ τ : Type)
  | outside
  | asking (lease : TimedLease κ τ)
  | refused
  | granted (lease : TimedLease κ τ)
  | returned (lease : TimedLease κ τ)
deriving DecidableEq, Repr

structure LeaseSystem (κ τ : Type) where
  clock : τ
  register : Option (TimedLease κ τ)
  standing : κ → Standing κ τ

namespace LeaseSystem
variable {κ τ : Type} [LinearOrder τ]

/-- An asking owner has read the clock once, maybe long ago; the register changes hands at once. -/
inductive Step [DecidableEq κ] : LeaseSystem κ τ → LeaseSystem κ τ → Prop
  | passes {clock later : τ} (order : clock ≤ later) (register : Option (TimedLease κ τ))
    (standing : κ → Standing κ τ) : Step ⟨clock,register,standing⟩ ⟨later,register,standing⟩
  | asks {system : LeaseSystem κ τ} {owner : κ} {ends : τ} (fresh : system.standing owner = .outside) :
    Step system {system with
      standing := Function.update system.standing owner (.asking ⟨owner,system.clock,ends⟩)}
  | grants {system : LeaseSystem κ τ} {owner : κ} {lease : TimedLease κ τ}
    (asking : system.standing owner = .asking lease)
    (free : ∀ held, system.register = some held → held.ends ≤ lease.since) :
    Step system ⟨system.clock,some lease,Function.update system.standing owner (.granted lease)⟩
  | refuses {system : LeaseSystem κ τ} {owner : κ}
    (early : system.standing owner = .outside ∨ ∃ lease, system.standing owner = .asking lease) :
    Step system {system with standing := Function.update system.standing owner .refused}
  | returns {system : LeaseSystem κ τ} {owner : κ} {lease : TimedLease κ τ}
    (granted : system.standing owner = .granted lease ∨ system.standing owner = .returned lease) :
    Step system ⟨system.clock,system.register.filter (fun held => held.owner ≠ owner),
      Function.update system.standing owner (.returned lease)⟩

/-- The owner got the lease, did not give it back, and its end is yet to come. -/
def Holds (system : LeaseSystem κ τ) (owner : κ) (lease : TimedLease κ τ) : Prop :=
  system.standing owner = .granted lease ∧ system.clock < lease.ends

/-- A lease that lasts is the one in the register. -/
structure Exclusive (system : LeaseSystem κ τ) : Prop where
  asked : ∀ owner lease, system.standing owner = .asking lease → lease.owner = owner ∧ lease.since ≤ system.clock
  named : ∀ owner lease, system.standing owner = .granted lease → lease.owner = owner
  kept : ∀ owner lease, system.Holds owner lease → system.register = some lease

theorem exclusive_start (clock : τ) : Exclusive (⟨clock,none,fun _ => .outside⟩ : LeaseSystem κ τ) := by
  refine ⟨fun owner lease asking => ?_,fun owner lease granted => ?_,fun owner lease holds => ?_⟩
  · cases asking
  · cases granted
  · cases holds.1

variable {system next : LeaseSystem κ τ}

theorem Exclusive.unique (exclusive : system.Exclusive) {first second : κ} {lease other : TimedLease κ τ}
    (one : system.Holds first lease) (two : system.Holds second other) : first = second := by
  have same : lease = other :=
    Option.some.inj ((exclusive.kept first lease one).symm.trans (exclusive.kept second other two))
  rw [← exclusive.named first lease one.1,← exclusive.named second other two.1,same]

variable [DecidableEq κ]

/-- One owner moves, and the register with it. -/
theorem Exclusive.move (exclusive : system.Exclusive) {owner : κ} {standing : Standing κ τ}
    {register : Option (TimedLease κ τ)}
    (asked : ∀ lease, standing = .asking lease → lease.owner = owner ∧ lease.since ≤ system.clock)
    (got : ∀ lease, standing = .granted lease → lease.owner = owner ∧ register = some lease)
    (others : ∀ other lease, other ≠ owner → system.Holds other lease → register = some lease) :
    Exclusive ⟨system.clock,register,Function.update system.standing owner standing⟩ := by
  have cases_ {other : κ} {found : Standing κ τ}
      (stands : Function.update system.standing owner standing other = found) :
      other = owner ∧ standing = found ∨ other ≠ owner ∧ system.standing other = found := by
    rcases eq_or_ne other owner with rfl | apart
    · exact Or.inl ⟨rfl,by rw [← stands,Function.update_self]⟩
    · exact Or.inr ⟨apart,by rw [← stands,Function.update_of_ne apart]⟩
  refine ⟨fun other lease asking => ?_,fun other lease granted => ?_,fun other lease holds => ?_⟩
  · rcases cases_ asking with ⟨rfl,same⟩ | ⟨_,before⟩
    · exact asked lease same
    · exact exclusive.asked other lease before
  · rcases cases_ granted with ⟨rfl,same⟩ | ⟨_,before⟩
    · exact (got lease same).1
    · exact exclusive.named other lease before
  · rcases cases_ holds.1 with ⟨rfl,same⟩ | ⟨apart,before⟩
    · exact (got lease same).2
    · exact others other lease apart ⟨before,holds.2⟩

theorem Exclusive.step (exclusive : system.Exclusive) (step : Step system next) : next.Exclusive := by
  cases step with
  | passes order register standing =>
    refine ⟨fun owner lease asking => ?_,exclusive.named,fun owner lease holds => ?_⟩
    · obtain ⟨named,since⟩ := exclusive.asked owner lease asking
      exact ⟨named,le_trans since order⟩
    · exact exclusive.kept owner lease ⟨holds.1,lt_of_le_of_lt order holds.2⟩
  | asks fresh =>
    refine exclusive.move (fun lease asking => ?_) (fun lease granted => ?_)
      (fun other lease _ holds => exclusive.kept other lease holds)
    · cases asking
      exact ⟨rfl,le_refl _⟩
    · cases granted
  | grants asking free =>
    obtain ⟨named,since⟩ := exclusive.asked _ _ asking
    refine exclusive.move (fun lease asking => ?_) (fun lease granted => ?_) (fun other lease _ holds => ?_)
    · cases asking
    · cases granted
      exact ⟨named,rfl⟩
    · -- the lease that lasts is in the register, and would have had to end before the new one began
      have ended := free lease (exclusive.kept other lease holds)
      exact absurd holds.2 (not_lt_of_ge (le_trans ended since))
  | refuses early =>
    refine exclusive.move (fun lease asking => ?_) (fun lease granted => ?_)
      (fun other lease _ holds => exclusive.kept other lease holds)
    · cases asking
    · cases granted
  | returns granted =>
    refine exclusive.move (fun lease asking => ?_) (fun lease granted => ?_) (fun other lease apart holds => ?_)
    · cases asking
    · cases granted
    · have foreign : lease.owner ≠ _ := fun same => apart ((exclusive.named other lease holds.1).symm.trans same)
      rw [exclusive.kept other lease holds]
      exact Option.filter_some_pos (decide_eq_true foreign)

end LeaseSystem
end Proactive.Library
