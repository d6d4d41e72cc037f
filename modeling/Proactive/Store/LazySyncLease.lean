import Proactive.Library.Transaction
import Proactive.Situations.Dates

/-! The single lease of degraded source reads, as the rows and statements of its store. -/
namespace Proactive.Store
open Proactive.Library

/-- The `uuid4().hex` of one `acquire`, distinct for distinct calls. -/
abbrev LeaseToken := Nat

/-- `LazySyncLease`, and the row with `id = 1` that it is stored as. -/
structure LazySyncLease where
  token : LeaseToken
  acquiredAt : Int
  expiresAt : Int
deriving DecidableEq, Repr

inductive LazySyncLeaseError
  | invalidDuration
  /-- The expiry lies beyond the years of a `datetime`. -/
  | overflow
  | checkFailed
deriving DecidableEq, Repr

abbrev LeaseSql (α : Type) := Statement (Option LazySyncLease) LazySyncLeaseError α

namespace LazySyncLeaseStore

/-- The lease that `acquire` asks for, from one reading of the clock. -/
def draft (token : LeaseToken) (now leaseDuration : Int) : Except LazySyncLeaseError LazySyncLease :=
  if leaseDuration ≤ 0 then .error .invalidDuration
  else if Situations.lastInstant < now + leaseDuration then .error .overflow
  else .ok ⟨token,now,now + leaseDuration⟩

/-- `CHECK(expires_at > acquired_at)`. -/
def write (lease : LazySyncLease) : LeaseSql Nat := do
  if lease.acquiredAt < lease.expiresAt then
    Statement.update (fun _ => some lease)
    return 1
  else Statement.raise .checkFailed

/-- `_ACQUIRE`, and the row count it reports. -/
def upsert (lease : LazySyncLease) : LeaseSql Nat := do
  match ← Statement.select id with
  | none => write lease
  | some held => if held.expiresAt ≤ lease.acquiredAt then write lease else return 0

/-- The transaction of `acquire`. -/
def acquire (lease : LazySyncLease) : LeaseSql (Option LazySyncLease) :=
  Statement.immediate (do
    let updated ← upsert lease
    return if updated = 1 then some lease else none)

/-- `_RELEASE`, and the row count it reports. -/
def delete (token : LeaseToken) : LeaseSql Nat := do
  match ← Statement.select id with
  | none => return 0
  | some held =>
    if held.token = token then
      Statement.update (fun _ => none)
      return 1
    else return 0

def release (lease : LazySyncLease) : LeaseSql Bool :=
  Statement.immediate (do
    let deleted ← delete lease.token
    return deleted == 1)

variable {lease : LazySyncLease} {row : Option LazySyncLease}

/-- Whether a lease acquired at this time may take the row over. -/
def free (row : Option LazySyncLease) (acquiredAt : Int) : Bool :=
  row.all (fun held => decide (held.expiresAt ≤ acquiredAt))

def owned (row : Option LazySyncLease) (token : LeaseToken) : Bool :=
  row.any (fun held => decide (held.token = token))

theorem draft_ok {token : LeaseToken} {now leaseDuration : Int}
    (drafted : draft token now leaseDuration = .ok lease) :
    lease = ⟨token,now,now + leaseDuration⟩ ∧ lease.acquiredAt < lease.expiresAt := by
  unfold draft at drafted
  split at drafted
  · cases drafted
  split at drafted
  · cases drafted
  · rename_i positive _
    cases drafted
    refine ⟨rfl,?_⟩
    dsimp only
    omega

theorem acquire_run (proper : lease.acquiredAt < lease.expiresAt) :
    (acquire lease).run row =
      if free row lease.acquiredAt = true then (.ok (some lease),some lease) else (.ok none,row) := by
  have written (before : Option LazySyncLease) : (write lease).run before = (.ok 1,some lease) := by
    unfold write
    rw [if_pos proper]
    rfl
  unfold acquire upsert
  rw [Statement.run_immediate,Statement.run_bind,Statement.run_select_bind]
  cases row with
  | none =>
    dsimp only [id]
    rw [written]
    rfl
  | some held =>
    dsimp only [id]
    by_cases ended : held.expiresAt ≤ lease.acquiredAt
    · have takes : free (some held) lease.acquiredAt = true := decide_eq_true ended
      rw [if_pos ended,written,if_pos takes]
      rfl
    · have keeps : ¬free (some held) lease.acquiredAt = true := fun takes => ended (of_decide_eq_true takes)
      rw [if_neg ended,if_neg keeps]
      rfl

theorem release_run : (release lease).run row =
    if owned row lease.token = true then (.ok true,none) else (.ok false,row) := by
  unfold release delete
  rw [Statement.run_immediate,Statement.run_bind,Statement.run_select_bind]
  cases row with
  | none => rfl
  | some held =>
    dsimp only [id]
    by_cases own : held.token = lease.token
    · have named : owned (some held) lease.token = true := decide_eq_true own
      rw [if_pos own,if_pos named]
      rfl
    · have foreign : ¬owned (some held) lease.token = true := fun named => own (of_decide_eq_true named)
      rw [if_neg own,if_neg foreign]
      rfl

end LazySyncLeaseStore
end Proactive.Store
