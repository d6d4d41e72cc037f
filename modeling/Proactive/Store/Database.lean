import Mathlib.Order.Basic
import Mathlib.Data.Prod.Lex
import Mathlib.Data.List.Sort
import Proactive.Library.Table
import Proactive.Library.Transaction
import Proactive.Store.Models

/-! The migrated schema: tables, the constraints SQLite enforces on them, and
the row writes that the situation statements make. -/
namespace Proactive.Store
open Proactive.Library

structure Database where
  situations : List Situation
  typeMutes : List TypeMute
  deliveries : List Delivery
  claims : List ClaimRow
  receipts : List ReceiptRow
  generations : BySource (Option GenerationRow)
  syncStates : BySource (Option SyncRow)
  gmailDiagnostics : Option SourceReadDiagnostics
  credential : Option (SourceCredentialState × Int)
  evaluationGate : Option Int
  fullCollector : Option CollectorRow
  scheduledCollector : Option CollectorRow
deriving DecidableEq

abbrev Sql (α : Type) := Statement Database StoreError α

namespace Database

def empty : Database where
  situations := []
  typeMutes := []
  deliveries := []
  claims := []
  receipts := []
  generations := ⟨none,none⟩
  syncStates := ⟨none,none⟩
  gmailDiagnostics := none
  credential := none
  evaluationGate := none
  fullCollector := none
  scheduledCollector := none

/-- The keys, references and checks of the schema. Situation rows are listed
by primary key, in the order every `ORDER BY id` reads them. -/
structure WellFormed (db : Database) : Prop where
  situationIds : db.situations.Pairwise (fun first second => first.id < second.id)
  dedupeKeys : (db.situations.map Situation.dedupeKey).Nodup
  mutedTypes : (db.typeMutes.map TypeMute.situationType).Nodup
  deliveryReferences : ∀ delivery ∈ db.deliveries,
    delivery.situationId ∈ db.situations.map Situation.id
  claimedOnce : (db.claims.map ClaimRow.situationId).Nodup
  claimReferences : ∀ claim ∈ db.claims, claim.situationId ∈ db.situations.map Situation.id
  leaseOrder : ∀ claim ∈ db.claims, claim.claimedAt < claim.expiresAt
  receiptDigests : (db.receipts.map ReceiptRow.receiptDigest).Nodup
  receiptCounts : ∀ receipt ∈ db.receipts, receipt.deliveredCount ≤ 100
  generationOrder : ∀ source row, db.generations.get source = some row → row.applied ≤ row.issued

theorem empty_wellFormed : empty.WellFormed where
  situationIds := .nil
  dedupeKeys := .nil
  mutedTypes := .nil
  deliveryReferences := by simp [empty]
  claimedOnce := .nil
  claimReferences := by simp [empty]
  leaseOrder := by simp [empty]
  receiptDigests := .nil
  receiptCounts := by simp [empty]
  generationOrder := by intro source row found; cases source <;> simp [empty,BySource.get] at found

theorem WellFormed.ids_nodup {db : Database} (schema : db.WellFormed) :
    (db.situations.map Situation.id).Nodup := by
  rw [List.nodup_iff_pairwise_ne,List.pairwise_map]
  exact schema.situationIds.imp (fun less => Nat.ne_of_lt less)

theorem WellFormed.rows_nodup {db : Database} (schema : db.WellFormed) : db.situations.Nodup :=
  List.Nodup.of_map Situation.id schema.ids_nodup

theorem WellFormed.same_id {db : Database} (schema : db.WellFormed) {first second : Situation}
    (one : first ∈ db.situations) (two : second ∈ db.situations) (same : first.id = second.id) :
    first = second :=
  List.inj_on_of_nodup_map schema.ids_nodup one two same

theorem WellFormed.same_key {db : Database} (schema : db.WellFormed) {first second : Situation}
    (one : first ∈ db.situations) (two : second ∈ db.situations)
    (same : first.dedupeKey = second.dedupeKey) : first = second :=
  List.inj_on_of_nodup_map schema.dedupeKeys one two same

/-- The id SQLite gives the next inserted situation. -/
def nextId (db : Database) : Nat := db.situations.foldl (fun last row => max last row.id) 0 + 1

private theorem foldl_max_bounds (rows : List Situation) (initial : Nat) :
    initial ≤ rows.foldl (fun last row => max last row.id) initial ∧
      ∀ row ∈ rows, row.id ≤ rows.foldl (fun last row => max last row.id) initial := by
  induction rows generalizing initial with
  | nil => simp
  | cons head tail ih =>
    obtain ⟨start,later⟩ := ih (max initial head.id)
    refine ⟨by simp only [List.foldl_cons]; omega,?_⟩
    intro row member
    rcases List.mem_cons.mp member with rfl | inside
    · simp only [List.foldl_cons]; omega
    · exact later row inside

theorem lt_nextId (db : Database) (row : Situation) (member : row ∈ db.situations) :
    row.id < db.nextId := by
  have bound := (foldl_max_bounds db.situations 0).2 row member
  unfold nextId
  omega

theorem nextId_le (db : Database) (bound : Nat) (positive : 0 < bound)
    (below : ∀ row ∈ db.situations, row.id < bound) : db.nextId ≤ bound := by
  have all : ∀ (rows : List Situation) (initial : Nat), initial < bound →
      (∀ row ∈ rows, row.id < bound) → rows.foldl (fun last row => max last row.id) initial < bound := by
    intro rows
    induction rows with
    | nil => intro initial less _; exact less
    | cons head tail ih =>
      intro initial less each
      exact ih _ (max_lt less (each head (by simp))) (fun row member => each row (by simp [member]))
  exact all db.situations 0 positive below

theorem nextId_mono (first second : Database)
    (kept : ∀ row ∈ first.situations, ∃ next ∈ second.situations, next.id = row.id) :
    first.nextId ≤ second.nextId := by
  apply nextId_le
  · exact Nat.succ_pos _
  · intro row member
    obtain ⟨next,present,same⟩ := kept row member
    exact same ▸ second.lt_nextId next present

def situation? (db : Database) (id : Nat) : Option Situation :=
  db.situations.find? (fun row => row.id == id)

def situationByDedupeKey (db : Database) (key : String) : Option Situation :=
  db.situations.find? (fun row => row.dedupeKey == key)

theorem situation?_some {db : Database} {id : Nat} {row : Situation}
    (found : db.situation? id = some row) : row ∈ db.situations ∧ row.id = id :=
  ⟨List.mem_of_find?_eq_some found,by simpa using List.find?_some found⟩

theorem WellFormed.situation?_mem {db : Database} (schema : db.WellFormed) {row : Situation}
    (member : row ∈ db.situations) : db.situation? row.id = some row :=
  Table.find?_key schema.ids_nodup member rfl

/-- `UPDATE situations SET change WHERE selects`, and the row count it reports. -/
def updateSituations (selects : Situation → Bool) (change : Situation → Situation) : Sql Nat := do
  let count ← Statement.select (fun db => db.situations.countP selects)
  Statement.update (fun db => {db with situations := Table.updateWhere selects change db.situations})
  return count

@[simp] theorem run_updateSituations (selects : Situation → Bool)
    (change : Situation → Situation) (db : Database) :
    (updateSituations selects change).run db = (.ok (db.situations.countP selects),
      {db with situations := Table.updateWhere selects change db.situations}) := rfl

theorem WellFormed.change {db : Database} (schema : db.WellFormed) (selects : Situation → Bool)
    (change : Situation → Situation) (ids : ∀ row, (change row).id = row.id)
    (keys : ∀ row, (change row).dedupeKey = row.dedupeKey) :
    {db with situations := Table.updateWhere selects change db.situations}.WellFormed := by
  have sameIds := Table.updateWhere_map selects change db.situations Situation.id ids
  have sameKeys := Table.updateWhere_map selects change db.situations Situation.dedupeKey keys
  exact {schema with
    situationIds := by
      have ordered := schema.situationIds
      rw [← List.pairwise_map (f := Situation.id) (R := (· < ·))] at ordered ⊢
      rwa [sameIds]
    dedupeKeys := by rw [sameKeys]; exact schema.dedupeKeys
    deliveryReferences := by rw [sameIds]; exact schema.deliveryReferences
    claimReferences := by rw [sameIds]; exact schema.claimReferences}

theorem WellFormed.insert {db : Database} (schema : db.WellFormed) (row : Situation)
    (id : row.id = db.nextId) (fresh : ∀ stored ∈ db.situations, stored.dedupeKey ≠ row.dedupeKey) :
    {db with situations := db.situations ++ [row]}.WellFormed := by
  exact {schema with
    situationIds := by
      refine List.pairwise_append.mpr ⟨schema.situationIds,by simp,?_⟩
      intro stored member last same
      rw [List.mem_singleton.mp same,id]
      exact db.lt_nextId stored member
    dedupeKeys := by
      rw [List.map_append]
      refine List.nodup_append.mpr ⟨schema.dedupeKeys,by simp,?_⟩
      intro key member other last
      obtain ⟨stored,present,rfl⟩ := List.mem_map.mp member
      simp only [List.map_cons,List.map_nil,List.mem_singleton] at last
      exact last ▸ fresh stored present
    deliveryReferences := fun delivery member => by
      rw [List.map_append]
      exact List.mem_append_left _ (schema.deliveryReferences delivery member)
    claimReferences := fun claim member => by
      rw [List.map_append]
      exact List.mem_append_left _ (schema.claimReferences claim member)}

/-- An update of one id either selects nothing, or exactly one stored row. -/
theorem updateOne_cases (id : Nat) (guard : Situation → Bool) (change : Situation → Situation)
    (db : Database) (schema : db.WellFormed) :
    (updateSituations (fun row => row.id == id && guard row) change).run db = (.ok 0,db) ∧
        (∀ row ∈ db.situations, row.id = id → guard row = false) ∨
    ∃ row ∈ db.situations, row.id = id ∧ guard row = true ∧
      (updateSituations (fun row => row.id == id && guard row) change).run db = (.ok 1,{db with
        situations := Table.updateWhere (fun stored => row.id == stored.id) change db.situations}) := by
  rw [run_updateSituations]
  by_cases hit : ∃ row ∈ db.situations, row.id = id ∧ guard row = true
  · obtain ⟨row,stored,rfl,guarded⟩ := hit
    refine Or.inr ⟨row,stored,rfl,guarded,?_⟩
    have selects : ∀ other ∈ db.situations, (other.id == row.id && guard other) = (row.id == other.id) := by
      intro other member
      by_cases same : row.id = other.id
      · have equal := schema.same_id stored member same
        subst equal
        simp [guarded]
      · rw [beq_eq_false_iff_ne.mpr same,beq_eq_false_iff_ne.mpr (Ne.symm same)]
        rfl
    have once : db.situations.countP (fun other => row.id == other.id) = 1 := by
      have counted := List.count_eq_one_of_mem schema.ids_nodup (List.mem_map_of_mem stored)
      rw [List.count,List.countP_map] at counted
      rw [← counted]
      exact List.countP_congr (fun other _ => by
        rw [Function.comp_apply,beq_iff_eq,beq_iff_eq,eq_comm])
    have total : db.situations.countP (fun other => other.id == row.id && guard other) = 1 := by
      rw [← once]
      exact List.countP_congr (fun other member => by rw [selects other member])
    rw [total,Table.updateWhere_congr _ _ _ _ selects]
  · push Not at hit
    have none : ∀ row ∈ db.situations, (row.id == id && guard row) = false := by
      intro row member
      rw [Bool.eq_false_iff]
      intro all
      simp only [Bool.and_eq_true,beq_iff_eq] at all
      exact hit row member all.1 all.2
    have zero : db.situations.countP (fun row => row.id == id && guard row) = 0 :=
      List.countP_eq_zero.mpr (fun row member => by rw [none row member]; decide)
    rw [zero,Table.updateWhere_none _ _ _ none]
    exact Or.inl ⟨rfl,fun row member same => by simpa using hit row member same⟩

def SituationsOnly (before after : Database) : Prop :=
  after = {before with situations := after.situations}

theorem SituationsOnly.trans {first second third : Database} (one : SituationsOnly first second)
    (two : SituationsOnly second third) : SituationsOnly first third := by
  unfold SituationsOnly at *
  rw [one] at two
  exact two

end Database

namespace Situation

def describe (detection : Detection) (source : SituationSource) (generation : Option Nat)
    (timestamp : Int) (row : Situation) : Situation :=
  {row with
    priority := detection.priority
    title := detection.title
    whyNow := detection.whyNow
    evidence := detection.evidence
    expiresAt := detection.expiresAt
    sourceName := source
    sourceGeneration := generation
    updatedAt := timestamp}

/-- `INSERT_SITUATION`. -/
def inserted (id : Nat) (detection : Detection) (source : SituationSource)
    (generation : Option Nat) (timestamp : Int) : Situation where
  id := id
  situationType := detection.situationType
  sourceName := source
  sourceGeneration := generation
  dedupeKey := detection.dedupeKey
  state := .pending
  priority := detection.priority
  title := detection.title
  whyNow := detection.whyNow
  evidence := detection.evidence
  expiresAt := detection.expiresAt
  detectedAt := timestamp
  updatedAt := timestamp
  deliveredAt := none
  acknowledgedAt := none
  snoozedUntil := none
  resolvedAt := none
  expiredAt := none
  mutedAt := none
  snoozeCooldownExempt := false

/-- `REFRESH_SITUATION`. -/
def refreshed (detection : Detection) (source : SituationSource) (generation : Option Nat)
    (timestamp : Int) (row : Situation) : Situation :=
  row.describe detection source generation timestamp

/-- `REACTIVATE_SITUATION`. -/
def reactivated (detection : Detection) (source : SituationSource) (generation : Option Nat)
    (timestamp : Int) (row : Situation) : Situation :=
  {row.describe detection source generation timestamp with
    state := .pending
    detectedAt := timestamp
    resolvedAt := none
    expiredAt := none
    snoozedUntil := none
    snoozeCooldownExempt := false}

/-- The delivery columns that `MARK_DELIVERED`, a claim and a confirmation all write. -/
def delivered (timestamp : Int) (row : Situation) : Situation :=
  {row with
    state := .delivered
    deliveredAt := some timestamp
    snoozedUntil := none
    snoozeCooldownExempt := false
    updatedAt := timestamp}

/-- `ACKNOWLEDGE_SITUATION`. -/
def acknowledged (timestamp : Int) (row : Situation) : Situation :=
  {row with state := .acknowledged,acknowledgedAt := some timestamp,updatedAt := timestamp}

/-- `SNOOZE_SITUATION`. -/
def snoozed (wake : Int) (timestamp : Int) (row : Situation) : Situation :=
  {row with state := .snoozed,snoozedUntil := some wake,snoozeCooldownExempt := true,updatedAt := timestamp}

/-- `MUTE_SITUATION`. -/
def muted (timestamp : Int) (row : Situation) : Situation :=
  {row with state := .muted,mutedAt := some timestamp,updatedAt := timestamp}

/-- `RESOLVE_SITUATION`. -/
def resolved (timestamp : Int) (row : Situation) : Situation :=
  {row with state := .resolved,resolvedAt := some timestamp,updatedAt := timestamp}

/-- `WAKE_SNOOZED`. -/
def woken (timestamp : Int) (row : Situation) : Situation :=
  {row with state := .pending,snoozedUntil := none,updatedAt := timestamp}

/-- `EXPIRE_LAPSED`. -/
def lapsed (timestamp : Int) (row : Situation) : Situation :=
  {row with state := .expired,expiredAt := some timestamp,updatedAt := timestamp}

/-- `state IN ('pending', 'delivered')`. -/
def active (row : Situation) : Bool := row.state == .pending || row.state == .delivered

/-- `expires_at IS NOT NULL AND expires_at <= now`. -/
def hasLapsed (now : Int) (row : Situation) : Bool := row.expiresAt.any (fun at_ => at_ ≤ now)

end Situation
end Proactive.Store
