import Mathlib.Data.Int.Order.Basic
import Proactive.Library.Run
import Proactive.Library.TimedLease
import Proactive.Store.LazySyncLease

/-! Degraded reads under the lazy-sync lease: calls of any number of processes, in any order. -/
namespace Proactive.Sources
open Proactive.Library Proactive.Store LazySyncLeaseStore

/-- Where one call of `_read_with_lease` stands. A call that gets no further turn has stalled or crashed. -/
inductive LazySyncPhase
  | idle
  | acquiring (lease : LazySyncLease)
  | raised (error : LazySyncLeaseError)
  | skipped
  | reading (lease : LazySyncLease)
  | released (lease : LazySyncLease) (matched : Bool)
deriving DecidableEq, Repr

/-- The clock that all processes read, the lease row, and the calls, each named by its token. -/
structure LazySyncWorld where
  now : Int
  row : Option LazySyncLease
  calls : LeaseToken → LazySyncPhase

/-- `start` reads the clock; the transaction of `acquire` may come at any time after that. -/
inductive LazySyncInput
  | wait (microseconds : Nat)
  | start (call : LeaseToken) (leaseDuration : Int)
  | acquire (call : LeaseToken)
  | release (call : LeaseToken)
deriving DecidableEq, Repr

def LazySyncPhase.lease? : LazySyncPhase → Option LazySyncLease
  | acquiring lease | reading lease | released lease _ => some lease
  | idle | raised _ | skipped => none

/-- The lease that a call was given. -/
def LazySyncPhase.acquired? : LazySyncPhase → Option LazySyncLease
  | reading lease | released lease _ => some lease
  | idle | acquiring _ | raised _ | skipped => none

def timed (lease : LazySyncLease) : TimedLease LeaseToken Int := ⟨lease.token,lease.acquiredAt,lease.expiresAt⟩

def LazySyncPhase.standing : LazySyncPhase → Standing LeaseToken Int
  | idle => .outside
  | acquiring lease => .asking (timed lease)
  | raised _ | skipped => .refused
  | reading lease => .granted (timed lease)
  | released lease _ => .returned (timed lease)

namespace LazySyncWorld

def migrated (now : Int) : LazySyncWorld := ⟨now,none,fun _ => .idle⟩

def moveTo (world : LazySyncWorld) (call : LeaseToken) (phase : LazySyncPhase) (row : Option LazySyncLease) :
    LazySyncWorld :=
  ⟨world.now,row,Function.update world.calls call phase⟩

def start (world : LazySyncWorld) (call : LeaseToken) (leaseDuration : Int) : LazySyncWorld :=
  match world.calls call with
  | .idle =>
    match draft call world.now leaseDuration with
    | .ok lease => world.moveTo call (.acquiring lease) world.row
    | .error error => world.moveTo call (.raised error) world.row
  | _ => world

def acquire (world : LazySyncWorld) (call : LeaseToken) : LazySyncWorld :=
  match world.calls call with
  | .acquiring lease =>
    match (LazySyncLeaseStore.acquire lease).run world.row with
    | (.ok (some lease),row) => world.moveTo call (.reading lease) row
    | (.ok none,row) => world.moveTo call .skipped row
    | (.error error,row) => world.moveTo call (.raised error) row
  | _ => world

/-- The read has returned or raised. A release that is repeated has its effect again. -/
def release (world : LazySyncWorld) (call : LeaseToken) : LazySyncWorld :=
  match (world.calls call).acquired? with
  | some lease =>
    match (LazySyncLeaseStore.release lease).run world.row with
    | (.ok matched,row) => world.moveTo call (.released lease matched) row
    | (.error error,row) => world.moveTo call (.raised error) row
  | none => world

def step (world : LazySyncWorld) : LazySyncInput → LazySyncWorld
  | .wait microseconds => {world with now := world.now + microseconds}
  | .start call leaseDuration => world.start call leaseDuration
  | .acquire call => world.acquire call
  | .release call => world.release call

/-- The lease was acquired, is not released, and is not expired. -/
def Holds (world : LazySyncWorld) (call : LeaseToken) (lease : LazySyncLease) : Prop :=
  world.calls call = .reading lease ∧ world.now < lease.expiresAt

/-- Each call's lease bears its token and a positive span. -/
def Named (world : LazySyncWorld) : Prop :=
  ∀ call lease, (world.calls call).lease? = some lease → lease.token = call ∧ lease.acquiredAt < lease.expiresAt

/-- What one input can do. -/
inductive Moved (world : LazySyncWorld) : LazySyncInput → LazySyncWorld → Prop
  | still (input : LazySyncInput) : Moved world input world
  | waited (microseconds : Nat) :
    Moved world (.wait microseconds) {world with now := world.now + microseconds}
  | drafted {call : LeaseToken} {leaseDuration : Int} (idle : world.calls call = .idle)
    (positive : 0 < leaseDuration) : Moved world (.start call leaseDuration)
      (world.moveTo call (.acquiring ⟨call,world.now,world.now + leaseDuration⟩) world.row)
  | refused {call : LeaseToken} {phase : LazySyncPhase} {input : LazySyncInput}
    (early : world.calls call = .idle ∨ ∃ lease, world.calls call = .acquiring lease)
    (ended : phase = .skipped ∨ ∃ error, phase = .raised error) :
    Moved world input (world.moveTo call phase world.row)
  | acquired {call : LeaseToken} {lease : LazySyncLease} (acquiring : world.calls call = .acquiring lease)
    (takes : free world.row lease.acquiredAt = true) :
    Moved world (.acquire call) (world.moveTo call (.reading lease) (some lease))
  | released {call : LeaseToken} {lease : LazySyncLease} (had : (world.calls call).acquired? = some lease) :
    Moved world (.release call) (world.moveTo call (.released lease (owned world.row lease.token))
      (if owned world.row lease.token = true then none else world.row))

variable {world next : LazySyncWorld} {input : LazySyncInput}

theorem step_moved (named : world.Named) (input : LazySyncInput) : Moved world input (step world input) := by
  cases input with
  | wait microseconds => exact .waited microseconds
  | start call leaseDuration =>
    change Moved world _ (world.start call leaseDuration)
    unfold start
    cases phase : world.calls call with
    | idle =>
      dsimp only
      cases drafted : draft call world.now leaseDuration with
      | error error => exact .refused (Or.inl phase) (Or.inr ⟨error,rfl⟩)
      | ok lease =>
        obtain ⟨rfl,proper⟩ := draft_ok drafted
        exact .drafted phase (by dsimp only at proper; omega)
    | _ => exact .still _
  | acquire call =>
    change Moved world _ (world.acquire call)
    unfold acquire
    cases phase : world.calls call with
    | acquiring lease =>
      have proper := (named call lease (by rw [phase]; rfl)).2
      dsimp only
      rw [acquire_run proper]
      by_cases takes : free world.row lease.acquiredAt = true
      · rw [if_pos takes]
        exact .acquired phase takes
      · rw [if_neg takes]
        exact .refused (Or.inr ⟨lease,phase⟩) (Or.inl rfl)
    | _ => exact .still _
  | release call =>
    change Moved world _ (world.release call)
    unfold release
    cases had : (world.calls call).acquired? with
    | none => exact .still _
    | some lease =>
      have result := Moved.released had
      dsimp only
      rw [release_run]
      by_cases own : owned world.row lease.token = true
      · rw [if_pos own] at result ⊢
        rw [own] at result
        exact result
      · rw [if_neg own] at result ⊢
        rw [Bool.not_eq_true] at own
        rw [own] at result
        exact result

theorem acquired_lease {phase : LazySyncPhase} {lease : LazySyncLease} (had : phase.acquired? = some lease) :
    phase.lease? = some lease := by
  cases phase with
  | reading held => exact had
  | released held matched => exact had
  | _ => cases had

theorem Named.moveTo (named : world.Named) {call : LeaseToken} {phase : LazySyncPhase} {row : Option LazySyncLease}
    (own : ∀ lease, phase.lease? = some lease → lease.token = call ∧ lease.acquiredAt < lease.expiresAt) :
    (world.moveTo call phase row).Named := by
  intro other lease held
  unfold LazySyncWorld.moveTo at held
  dsimp only at held
  rcases eq_or_ne other call with rfl | apart
  · rw [Function.update_self] at held
    exact own lease held
  · rw [Function.update_of_ne apart] at held
    exact named other lease held

theorem Named.moved (named : world.Named) (moved : Moved world input next) : next.Named := by
  cases moved with
  | still => exact named
  | waited => exact named
  | drafted idle positive =>
    refine named.moveTo (fun lease held => ?_)
    cases held
    exact ⟨rfl,by dsimp only; omega⟩
  | refused early ended =>
    refine named.moveTo (fun lease held => ?_)
    rcases ended with rfl | ⟨error,rfl⟩
    · cases held
    · cases held
  | acquired acquiring takes =>
    refine named.moveTo (fun lease held => ?_)
    cases held
    exact named _ _ (by rw [acquiring]; rfl)
  | released had =>
    refine named.moveTo (fun lease held => ?_)
    cases held
    exact named _ _ (acquired_lease had)

/-- The world as a system of one timed lease. -/
def view (world : LazySyncWorld) : LeaseSystem LeaseToken Int :=
  ⟨world.now,world.row.map timed,fun call => (world.calls call).standing⟩

theorem view_moveTo (call : LeaseToken) (phase : LazySyncPhase) (row : Option LazySyncLease) :
    (world.moveTo call phase row).view =
      ⟨world.view.clock,row.map timed,Function.update world.view.standing call phase.standing⟩ := by
  unfold view LazySyncWorld.moveTo
  congr 1
  funext other
  dsimp only
  rcases eq_or_ne other call with rfl | apart
  · rw [Function.update_self,Function.update_self]
  · rw [Function.update_of_ne apart,Function.update_of_ne apart]

/-- Deleting the row by its token drops the lease of that owner from the register. -/
theorem deleted_view (row : Option LazySyncLease) (token : LeaseToken) :
    (if owned row token = true then none else row).map timed =
      (row.map timed).filter (fun held => held.owner ≠ token) := by
  cases row with
  | none => rfl
  | some held =>
    by_cases own : held.token = token
    · have named : owned (some held) token = true := decide_eq_true own
      have dropped : ¬decide ((timed held).owner ≠ token) = true := fun apart => of_decide_eq_true apart own
      rw [if_pos named,Option.map_some,Option.filter_some,if_neg dropped]
      rfl
    · have foreign : ¬owned (some held) token = true := fun named => own (of_decide_eq_true named)
      have stays : decide ((timed held).owner ≠ token) = true := decide_eq_true own
      rw [if_neg foreign,Option.map_some,Option.filter_some,if_pos stays]

theorem moved_view (named : world.Named) (moved : Moved world input next) :
    next.view = world.view ∨ LeaseSystem.Step world.view next.view := by
  cases moved with
  | still => exact Or.inl rfl
  | waited microseconds => exact Or.inr (.passes (Int.le_add_of_nonneg_right (Int.natCast_nonneg microseconds)) _ _)
  | drafted idle positive =>
    rw [view_moveTo]
    exact Or.inr (.asks (congrArg LazySyncPhase.standing idle))
  | refused early ended =>
    have refused : ∀ phase : LazySyncPhase, phase = .skipped ∨ (∃ error, phase = .raised error) →
        phase.standing = .refused := by
      rintro phase (rfl | ⟨error,rfl⟩)
      · rfl
      · rfl
    rw [view_moveTo,refused _ ended]
    refine Or.inr (.refuses ?_)
    rcases early with idle | ⟨lease,acquiring⟩
    · exact Or.inl (congrArg LazySyncPhase.standing idle)
    · exact Or.inr ⟨timed lease,congrArg LazySyncPhase.standing acquiring⟩
  | @acquired call lease acquiring takes =>
    rw [view_moveTo]
    have asking : world.view.standing call = .asking (timed lease) := congrArg LazySyncPhase.standing acquiring
    refine Or.inr (.grants asking (fun held kept => ?_))
    obtain ⟨row,stored,rfl⟩ := Option.map_eq_some_iff.mp kept
    rw [free,stored] at takes
    exact of_decide_eq_true takes
  | @released call lease had =>
    have own : lease.token = call := (named call lease (acquired_lease had)).1
    have granted : world.view.standing call = .granted (timed lease) ∨
        world.view.standing call = .returned (timed lease) := by
      cases phase : world.calls call with
      | reading held =>
        rw [phase] at had
        cases had
        exact Or.inl (congrArg LazySyncPhase.standing phase)
      | released held matched =>
        rw [phase] at had
        cases had
        exact Or.inr (congrArg LazySyncPhase.standing phase)
      | _ =>
        rw [phase] at had
        cases had
    rw [view_moveTo,deleted_view,own]
    exact Or.inr (.returns granted)

/-- What every reachable world satisfies. -/
structure Fenced (world : LazySyncWorld) : Prop where
  named : world.Named
  exclusive : world.view.Exclusive

theorem fenced_migrated (now : Int) : (migrated now).Fenced :=
  ⟨fun _ _ held => (nomatch held),LeaseSystem.exclusive_start now⟩

theorem Fenced.step (fenced : world.Fenced) (input : LazySyncInput) : (step world input).Fenced := by
  have moved := step_moved fenced.named input
  refine ⟨fenced.named.moved moved,?_⟩
  rcases moved_view fenced.named moved with same | stepped
  · rw [same]
    exact fenced.exclusive
  · exact fenced.exclusive.step stepped

theorem run_fenced (now : Int) (inputs : List LazySyncInput) : (Run.run step (migrated now) inputs).Fenced :=
  Run.run_invariant step Fenced (fun _ input fenced => fenced.step input) _ inputs (fenced_migrated now)

theorem timed_injective {first second : LazySyncLease} (same : timed first = timed second) : first = second := by
  cases first
  cases second
  cases same
  rfl

theorem Holds.view {call : LeaseToken} {lease : LazySyncLease} (holds : world.Holds call lease) :
    world.view.Holds call (timed lease) :=
  ⟨congrArg LazySyncPhase.standing holds.1,holds.2⟩

theorem Fenced.row (fenced : world.Fenced) {call : LeaseToken} {lease : LazySyncLease}
    (holds : world.Holds call lease) : world.row = some lease := by
  obtain ⟨row,stored,same⟩ := Option.map_eq_some_iff.mp (fenced.exclusive.kept call (timed lease) holds.view)
  rw [stored,timed_injective same]

/-- A call that reads goes on reading until it releases its own lease. -/
theorem moved_reading {call : LeaseToken} {lease : LazySyncLease} (moved : Moved world input next)
    (reading : world.calls call = .reading lease) (other : input ≠ .release call) :
    next.calls call = .reading lease := by
  have apart {mover : LeaseToken} {phase : LazySyncPhase} {row : Option LazySyncLease} (differs : call ≠ mover) :
      (world.moveTo mover phase row).calls call = .reading lease :=
    (Function.update_of_ne differs _ _).trans reading
  cases moved with
  | still => exact reading
  | waited => exact reading
  | drafted idle positive =>
    refine apart ?_
    rintro rfl
    cases reading.symm.trans idle
  | refused early ended =>
    refine apart ?_
    rintro rfl
    rcases early with idle | ⟨drafted,acquiring⟩
    · cases reading.symm.trans idle
    · cases reading.symm.trans acquiring
  | acquired acquiring takes =>
    refine apart ?_
    rintro rfl
    cases reading.symm.trans acquiring
  | released had => exact apart (fun same => other (congrArg LazySyncInput.release same.symm))

theorem run_reading {call : LeaseToken} {lease : LazySyncLease} (fenced : world.Fenced)
    (reading : world.calls call = .reading lease) {inputs : List LazySyncInput}
    (unreleased : .release call ∉ inputs) : (Run.run step world inputs).calls call = .reading lease := by
  induction inputs generalizing world with
  | nil => exact reading
  | cons input rest ih =>
    rw [List.mem_cons,not_or] at unreleased
    exact ih (fenced.step input)
      (moved_reading (step_moved fenced.named input) reading (fun same => unreleased.1 same.symm)) unreleased.2

end LazySyncWorld

open LazySyncWorld in
/-- One lease lasts at a time, a release of a lease that was taken over changes nothing, and a lease that
lasts stays in the row until it expires or its own call releases it. -/
theorem lazy_sync_exclusive (now : Int) (inputs : List LazySyncInput) :
    let world := Run.run step (migrated now) inputs
    (∀ first second lease other, world.Holds first lease → world.Holds second other →
      first = second ∧ lease = other) ∧
    (∀ call lease, (world.calls call).acquired? = some lease → owned world.row lease.token = false →
      (step world (.release call)).row = world.row ∧ (step world (.release call)).calls call = .released lease false) ∧
    ∀ call lease, world.Holds call lease → ∀ later, .release call ∉ later →
      (Run.run step world later).now < lease.expiresAt → (Run.run step world later).row = some lease := by
  intro world
  have fenced : world.Fenced := run_fenced now inputs
  refine ⟨?_,?_,?_⟩
  · intro first second lease other one two
    have same := Option.some.inj ((fenced.row one).symm.trans (fenced.row two))
    exact ⟨fenced.exclusive.unique one.view two.view,same⟩
  · intro call lease had taken
    have released : step world (.release call) = world.moveTo call (.released lease false) world.row := by
      change world.release call = _
      unfold LazySyncWorld.release
      rw [had]
      dsimp only
      rw [release_run,taken]
      rfl
    rw [released]
    exact ⟨rfl,Function.update_self _ _ _⟩
  · intro call lease holds later unreleased before
    have reading := run_reading fenced holds.1 unreleased
    have final : (Run.run step world later).Fenced :=
      Run.run_invariant step Fenced (fun _ input fenced => fenced.step input) _ later fenced
    exact final.row ⟨reading,before⟩

open LazySyncWorld in
/-- The first call stalls past its expiry, the second takes over, and the late release leaves it alone. -/
theorem lazy_sync_exclusive_takeover :
    let world := Run.run step (migrated 0) [.start 1 10,.acquire 1,.wait 10,.start 2 5,.acquire 2]
    (step world (.release 1)).row = world.row ∧
      (Run.run step world [.release 1,.wait 4]).row = some ⟨2,10,15⟩ := by
  intro world
  obtain ⟨_,stale,lasts⟩ := lazy_sync_exclusive 0 [.start 1 10,.acquire 1,.wait 10,.start 2 5,.acquire 2]
  have first : (world.calls 1).acquired? = some ⟨1,0,10⟩ := by decide
  have second : world.Holds 2 ⟨2,10,15⟩ := ⟨by decide,by decide⟩
  exact ⟨(stale 1 _ first (by decide)).1,lasts 2 _ second [.release 1,.wait 4] (by decide) (by decide)⟩

end Proactive.Sources
