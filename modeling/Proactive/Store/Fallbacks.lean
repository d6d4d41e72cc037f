import Mathlib.Data.List.Perm.Subperm
import Proactive.Store.Upkeep

/-! One-shot claims of notification fallbacks and their recorded outcomes. -/
namespace Proactive.Store
open Proactive.Library Database

inductive FallbackClaimMode | configured | bootstrap
deriving DecidableEq, Repr

inductive FallbackFailureCode | unsupportedPlatform | toolMissing | nonzeroExit | timeout | unknown
deriving DecidableEq, Repr

/-- The columns `outcome`, `failure_code` and `completed_at`: the two checks of the
table tie them together. -/
inductive FallbackOutcome
  | claimed
  | sent (completedAt : Int)
  | failed (failureCode : FallbackFailureCode) (completedAt : Int)
deriving DecidableEq, Repr

structure FallbackRow where
  situationId : Nat
  priority : SituationPriority
  outcome : FallbackOutcome
  claimedAt : Int
deriving DecidableEq, Repr

structure FallbackClaim where
  claimedAt : Int
  detectedBefore : Int
  priorities : List SituationPriority
  mode : FallbackClaimMode
deriving DecidableEq, Repr

structure FallbackDatabase where
  store : Database
  fallbacks : List FallbackRow
deriving DecidableEq

inductive FallbackError | notClaimed (id : Nat)
deriving DecidableEq, Repr

abbrev FallbackSql (α : Type) := Statement FallbackDatabase FallbackError α

namespace FallbackDatabase

def empty : FallbackDatabase := ⟨Database.empty,[]⟩

def fallenBack (db : FallbackDatabase) (id : Nat) : Bool :=
  db.fallbacks.any (fun row => row.situationId == id)

/-- A lease of the situation that is live at the claim. -/
def heldByHost (db : FallbackDatabase) (claim : FallbackClaim) (id : Nat) : Bool :=
  db.store.claims.any (fun lease => lease.situationId == id && claim.claimedAt < lease.expiresAt)

def baseEligible (db : FallbackDatabase) (claim : FallbackClaim) (row : Situation) : Bool :=
  row.state == .pending && row.detectedAt ≤ claim.detectedBefore && !row.hasLapsed claim.claimedAt &&
    !db.store.typeMuted row.situationType && !db.store.hasDelivery row.id &&
    !db.heldByHost claim row.id && !db.fallenBack row.id

/-- `_CONFIGURED_ELIGIBLE` and `_BOOTSTRAP_ELIGIBLE`. -/
def eligible (db : FallbackDatabase) (claim : FallbackClaim) (row : Situation) : Bool :=
  match claim.mode with
  | .configured => claim.priorities.contains row.priority && db.baseEligible claim row
  | .bootstrap => db.baseEligible claim row && db.store.deliveries.isEmpty && db.fallbacks.isEmpty

/-- `CASE priority WHEN 'critical' THEN 0 WHEN 'high' THEN 1 ELSE 2 END`. -/
def priorityCase (row : Situation) : Nat :=
  match row.priority with
  | .critical => 0
  | .high => 1
  | .routine => 2

/-- The `ORDER BY` of the candidates, each ending in the primary key. -/
def ordered (mode : FallbackClaimMode) (first second : Situation) : Bool :=
  let detected := decide (first.detectedAt < second.detectedAt) ||
    first.detectedAt == second.detectedAt && decide (first.id ≤ second.id)
  match mode with
  | .configured => decide (priorityCase first < priorityCase second) ||
    priorityCase first == priorityCase second && detected
  | .bootstrap => detected

def candidates (claim : FallbackClaim) (db : FallbackDatabase) : List Situation :=
  (db.store.situations.filter (db.eligible claim)).insertionSort
    (fun first second => ordered claim.mode first second = true)

def claimRow (claim : FallbackClaim) (row : Situation) : FallbackRow :=
  ⟨row.id,row.priority,.claimed,claim.claimedAt⟩

def insert (claim : FallbackClaim) (row : Situation) (db : FallbackDatabase) : FallbackDatabase :=
  {db with fallbacks := db.fallbacks ++ [claimRow claim row]}

/-- `situation_id = ? AND outcome = 'claimed'`. -/
def stillClaimed (id : Nat) (row : FallbackRow) : Bool := row.situationId == id && row.outcome == .claimed

def completed (id : Nat) (outcome : FallbackOutcome) (db : FallbackDatabase) : FallbackDatabase :=
  {db with
    fallbacks := Table.updateWhere (stillClaimed id) (fun row => {row with outcome := outcome}) db.fallbacks}

end FallbackDatabase

open FallbackDatabase

/-- `INSERT INTO situation_fallbacks ... SELECT`, and the row count it reports. -/
def insertFallback (claim : FallbackClaim) (id : Nat) : FallbackSql Nat := do
  let selected ← Statement.select (fun db =>
    db.store.situations.find? (fun row => row.id == id && db.eligible claim row))
  match selected with
  | none => return 0
  | some row =>
    Statement.update (FallbackDatabase.insert claim row)
    return 1

def insertEach (claim : FallbackClaim) : List Situation → FallbackSql (Option Situation)
  | [] => return none
  | candidate::rest => do
    let inserted ← insertFallback claim candidate.id
    if inserted ≠ 0 then return some candidate else insertEach claim rest

def claimNext (claim : FallbackClaim) : FallbackSql (Option Situation) :=
  Statement.immediate (do
    let rows ← Statement.select (FallbackDatabase.candidates claim)
    insertEach claim rows)

/-- `RECORD_FALLBACK_OUTCOME`. -/
def complete (id : Nat) (outcome : FallbackOutcome) : FallbackSql Unit :=
  Statement.immediate (do
    let updated ← Statement.select (fun db => db.fallbacks.countP (stillClaimed id))
    Statement.update (FallbackDatabase.completed id outcome)
    if updated = 0 then Statement.raise (.notClaimed id) else return ())

def recordSent (id : Nat) (now : Int) : FallbackSql Unit := complete id (.sent now)

def recordFailed (id : Nat) (code : FallbackFailureCode) (now : Int) : FallbackSql Unit :=
  complete id (.failed code now)

/-- What a row that is claimed for a notification satisfies at that moment. -/
structure Unreceived (db : FallbackDatabase) (claim : FallbackClaim) (row : Situation) : Prop where
  stored : row ∈ db.store.situations
  pending : row.state = .pending
  undelivered : ∀ delivery ∈ db.store.deliveries, delivery.situationId ≠ row.id
  unmuted : ∀ mute ∈ db.store.typeMutes, mute.situationType ≠ row.situationType
  current : row.hasLapsed claim.claimedAt = false
  unleased : ∀ lease ∈ db.store.claims, lease.situationId = row.id → lease.expiresAt ≤ claim.claimedAt
  waited : row.detectedAt ≤ claim.detectedBefore

theorem FallbackDatabase.baseEligible_facts {db : FallbackDatabase} {claim : FallbackClaim}
    {row : Situation} (stored : row ∈ db.store.situations)
    (eligible : db.baseEligible claim row = true) :
    Unreceived db claim row ∧ ∀ fallback ∈ db.fallbacks, fallback.situationId ≠ row.id := by
  simp only [baseEligible,typeMuted,hasDelivery,heldByHost,fallenBack,Bool.and_eq_true,beq_iff_eq,
    decide_eq_true_eq,Bool.not_eq_true',List.any_eq_false,not_and,Int.not_lt] at eligible
  obtain ⟨⟨⟨⟨⟨⟨pending,waited⟩,current⟩,unmuted⟩,undelivered⟩,unleased⟩,untouched⟩ := eligible
  exact ⟨⟨stored,pending,undelivered,unmuted,current,unleased,waited⟩,untouched⟩

theorem FallbackDatabase.eligible_base {db : FallbackDatabase} {claim : FallbackClaim} {row : Situation}
    (eligible : db.eligible claim row = true) : db.baseEligible claim row = true := by
  unfold FallbackDatabase.eligible at eligible
  split at eligible
  · exact (Bool.and_eq_true _ _ ▸ eligible).2
  · rw [Bool.and_eq_true,Bool.and_eq_true] at eligible
    exact eligible.1.1

theorem FallbackDatabase.bootstrap_empty {db : FallbackDatabase} {claim : FallbackClaim} {row : Situation}
    (mode : claim.mode = .bootstrap) (eligible : db.eligible claim row = true) :
    db.store.deliveries = [] ∧ db.fallbacks = [] := by
  rw [FallbackDatabase.eligible,mode,Bool.and_eq_true,Bool.and_eq_true,List.isEmpty_iff,
    List.isEmpty_iff] at eligible
  exact ⟨eligible.1.2,eligible.2⟩

theorem claimNext_cases (claim : FallbackClaim) (db : FallbackDatabase) (schema : db.store.WellFormed) :
    ((claimNext claim).run db = (.ok none,db) ∧
      ∀ row ∈ db.store.situations, db.eligible claim row = false) ∨
    ∃ row ∈ db.store.situations, db.eligible claim row = true ∧
      (claimNext claim).run db = (.ok (some row),db.insert claim row) := by
  have listed (row : Situation) : row ∈ db.candidates claim ↔
      row ∈ db.store.situations ∧ db.eligible claim row = true := by
    rw [candidates,List.mem_insertionSort,List.mem_filter]
  unfold claimNext
  cases rows : db.candidates claim with
  | nil =>
    refine Or.inl ⟨?_,fun row member => ?_⟩
    · rw [Statement.immediate_success,Statement.run_select_bind,rows]
      rfl
    · rw [← Bool.not_eq_true]
      intro eligible
      have found := (listed row).mpr ⟨member,eligible⟩
      rw [rows] at found
      cases found
  | cons row rest =>
    obtain ⟨stored,eligible⟩ := (listed row).mp (by rw [rows]; exact List.mem_cons_self)
    refine Or.inr ⟨row,stored,eligible,?_⟩
    have found : db.store.situations.find? (fun other => other.id == row.id && db.eligible claim other) =
        some row := by
      cases search : db.store.situations.find? (fun other => other.id == row.id && db.eligible claim other) with
      | none => exact absurd (List.find?_eq_none.mp search row stored) (by simp [eligible])
      | some other =>
        have hit := List.find?_some search
        rw [Bool.and_eq_true,beq_iff_eq] at hit
        rw [schema.same_id (List.mem_of_find?_eq_some search) stored hit.1]
    rw [Statement.immediate_success,Statement.run_select_bind,rows]
    unfold insertEach insertFallback
    simp only [bind,Statement.run,Statement.select]
    rw [found]
    rfl

namespace FallbackDatabase

/-- One situation has one fallback row, and the row stays within the situation table. -/
structure Sound (db : FallbackDatabase) : Prop where
  schema : db.store.WellFormed
  capacity : db.store.situations.length ≤ maxSituationRows
  claimedOnce : (db.fallbacks.map FallbackRow.situationId).Nodup
  references : ∀ id ∈ db.fallbacks.map FallbackRow.situationId, id ∈ db.store.situations.map Situation.id

theorem empty_sound : empty.Sound :=
  ⟨empty_wellFormed,Nat.zero_le _,.nil,by simp [empty]⟩

theorem Sound.count_le {db : FallbackDatabase} (sound : db.Sound) :
    db.fallbacks.length ≤ db.store.situations.length := by
  have within := (List.subperm_of_subset sound.claimedOnce sound.references).length_le
  simpa using within

theorem Sound.insert {db : FallbackDatabase} (sound : db.Sound) (claim : FallbackClaim) {row : Situation}
    (stored : row ∈ db.store.situations) (eligible : db.eligible claim row = true) :
    (db.insert claim row).Sound := by
  obtain ⟨_,untouched⟩ := baseEligible_facts stored (eligible_base eligible)
  refine ⟨sound.schema,sound.capacity,?_,?_⟩
  · change ((db.fallbacks ++ [claimRow claim row]).map _).Nodup
    rw [List.map_append]
    refine List.nodup_append.mpr ⟨sound.claimedOnce,by simp,fun id listed other last => ?_⟩
    obtain ⟨fallback,member,rfl⟩ := List.mem_map.mp listed
    obtain rfl : other = row.id := by simpa [claimRow] using last
    exact untouched fallback member
  · intro id listed
    change id ∈ (db.fallbacks ++ [claimRow claim row]).map _ at listed
    rw [List.map_append,List.mem_append] at listed
    rcases listed with old | last
    · exact sound.references id old
    · obtain rfl : id = row.id := by simpa [claimRow] using last
      exact List.mem_map_of_mem stored

theorem completed_ids (id : Nat) (outcome : FallbackOutcome) (db : FallbackDatabase) :
    (db.completed id outcome).fallbacks.map FallbackRow.situationId =
      db.fallbacks.map FallbackRow.situationId :=
  Table.updateWhere_map _ _ _ _ (fun _ => rfl)

theorem Sound.completed {db : FallbackDatabase} (sound : db.Sound) (id : Nat) (outcome : FallbackOutcome) :
    (db.completed id outcome).Sound := by
  refine ⟨sound.schema,sound.capacity,?_,?_⟩
  · rw [completed_ids]
    exact sound.claimedOnce
  · rw [completed_ids]
    exact sound.references

theorem completed_keeps {id : Nat} {outcome : FallbackOutcome} {db : FallbackDatabase} {row : FallbackRow}
    (member : row ∈ db.fallbacks) (terminal : row.outcome ≠ .claimed) :
    row ∈ (db.completed id outcome).fallbacks := by
  refine (Table.mem_updateWhere _ _ _ _).mpr (Or.inr ⟨member,?_⟩)
  rw [stillClaimed,beq_eq_false_iff_ne.mpr terminal,Bool.and_false]

section host
variable [EvidenceJson]

theorem Sound.host {db : FallbackDatabase} (sound : db.Sound) (operation : Operation) :
    {db with store := step db.store operation}.Sound where
  schema := step_wellFormed db.store operation sound.schema
  capacity := step_rows_bounded sound.schema operation sound.capacity
  claimedOnce := sound.claimedOnce
  references := by
    intro id listed
    obtain ⟨row,member,rfl⟩ := List.mem_map.mp (sound.references id listed)
    obtain ⟨next,present,same,_⟩ :=
      ((step_effect db.store operation sound.schema).advances sound.schema).rows row member
    exact List.mem_map.mpr ⟨next,present,same⟩

end host
end FallbackDatabase

theorem complete_run (id : Nat) (outcome : FallbackOutcome) (db : FallbackDatabase) :
    ((complete id outcome).run db).2 = db.completed id outcome := by
  unfold complete
  cases ran : (Statement.immediate _ : FallbackSql Unit).run db with
  | mk result left =>
    cases result with
    | ok value =>
      rw [Statement.immediate_success,Statement.run_select_bind,Statement.run_update_bind] at ran
      split at ran
      · cases ran
      · exact (congrArg Prod.snd ran).symm
    | error error =>
      obtain rfl := Statement.immediate_rollback _ _ _ _ ran
      by_cases none : left.fallbacks.countP (stillClaimed id) = 0
      · have missed : ∀ row ∈ left.fallbacks, stillClaimed id row = false := fun row member =>
          Bool.eq_false_iff.mpr (List.countP_eq_zero.mp none row member)
        rw [completed,Table.updateWhere_none _ _ _ missed]
      · have succeeded : (complete id outcome).run left = (.ok (),left.completed id outcome) := by
          unfold complete
          rw [Statement.immediate_success,Statement.run_select_bind,Statement.run_update_bind,if_neg none]
          rfl
        cases ran.symm.trans succeeded

end Proactive.Store
