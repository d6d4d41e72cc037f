import Proactive.Store.Sync
import Proactive.Store.Upsert

/-! Atomic application of source truth: acceptance, detections, resolutions
and synchronization state commit together or not at all. -/
namespace Proactive.Store
open Proactive.Library Database

def SourceName.situationType : SourceName → SituationType
  | .gmail => .replyDeadline
  | .calendar => .calendarConflict

def SourceName.situationSource : SourceName → SituationSource
  | .gmail => .gmail
  | .calendar => .calendar

def SourceGenerationStatus.resolvesAbsent : SourceGenerationStatus → Bool
  | .complete => true
  | .degraded => false

structure SourceApplication where
  generation : SourceGeneration
  detections : List Detection
  status : SourceGenerationStatus
  syncCursor : Option String
  errorCode : Option SourceErrorCode
  diagnostics : Option SourceReadDiagnostics
  resolveAbsent : Bool
  resolutionScopeIds : List String
  resolutionExcludedIds : List String
deriving DecidableEq, Repr

/-- The three clock readings of one application, in the order it makes them. -/
structure Readings where
  timestamp : Int
  acceptedAt : Int
  recordedAt : Int
deriving DecidableEq, Repr

namespace SourceApplication

def presentKeys (application : SourceApplication) : List String :=
  application.detections.map Detection.dedupeKey

def expectedType (application : SourceApplication) : SituationType :=
  application.generation.source.situationType

def sourceName (application : SourceApplication) : SituationSource :=
  application.generation.source.situationSource

def resolveRead (application : SourceApplication) (timestamp : Int) : Sql Nat :=
  if application.status.resolvesAbsent then
    resolve application.expectedType application.presentKeys timestamp (some application.sourceName)
  else if application.resolveAbsent then
    resolveBySourceIds application.expectedType application.presentKeys
      application.resolutionExcludedIds timestamp false (some application.sourceName)
  else if application.resolutionScopeIds ≠ [] then
    resolveBySourceIds application.expectedType application.presentKeys
      application.resolutionScopeIds timestamp true (some application.sourceName)
  else return 0

def recordSync (application : SourceApplication) (now : Int) : Sql Unit :=
  match application.errorCode with
  | none =>
    if application.status = .complete then
      recordSyncSuccess application.generation.source application.syncCursor now
    else recordSyncFailure application.generation.source .degraded now
  | some .invalidGrant => writeGoogleAuth .needsReauth (some .invalidGrant) now
  | some errorCode => recordSyncFailure application.generation.source errorCode now

def passes (application : SourceApplication) (row : Situation) : Bool :=
  if application.status.resolvesAbsent then application.presentKeys.contains row.dedupeKey
  else if application.resolveAbsent then
    passesSourceIds application.presentKeys application.resolutionExcludedIds false row
  else if application.resolutionScopeIds ≠ [] then
    passesSourceIds application.presentKeys application.resolutionScopeIds true row
  else true

def resolves (application : SourceApplication) : Situation → Bool :=
  Store.resolves application.expectedType (some application.sourceName) application.passes

/-- What the store checks before it accepts an application. -/
def accepted (application : SourceApplication) (db : Database) : Bool :=
  allowsDiagnostics application.generation.source application.diagnostics &&
    db.admits application.generation &&
    application.detections.all (fun detection => detection.situationType == application.expectedType)

end SourceApplication

section operations
variable [EvidenceJson]

def SourceApplication.body (application : SourceApplication) (clock : Readings) :
    Sql DetectionApplySummary := do
  acceptSourceGeneration application.generation application.status application.diagnostics clock.acceptedAt
  let summary ← upsertBatch application.detections clock.timestamp (some application.expectedType)
    application.sourceName (some application.generation.number)
  let resolved ← application.resolveRead clock.timestamp
  application.recordSync clock.recordedAt
  return ⟨summary,resolved⟩

def applySourceGeneration (application : SourceApplication) (clock : Readings) :
    Sql DetectionApplySummary :=
  Statement.immediate (application.body clock)

def upsertDetections (detections : List Detection) (timestamp : Int) : Sql DetectionUpsertSummary :=
  Statement.immediate (upsertBatch detections timestamp none .localSource none)

def applyLocalDetections (detections : List Detection) (timestamp : Int) : Sql DetectionApplySummary :=
  Statement.immediate (do
    let summary ← upsertBatch detections timestamp (some .personalOccasion) .memory none
    let resolved ← resolve .personalOccasion (detections.map Detection.dedupeKey) timestamp (some .memory)
    return ⟨summary,resolved⟩)

def resolveAbsent (situationType : SituationType) (presentKeys : List String) (timestamp : Int) :
    Sql Nat :=
  Statement.immediate (resolve situationType presentKeys timestamp none)

end operations

namespace Database

theorem WellFormed.issue {db : Database} (schema : db.WellFormed) (source : SourceName) (now : Int) :
    (db.issue source now).WellFormed :=
  {schema with
    generationOrder := by
      intro other row found
      simp only [Database.issue,BySource.get_set] at found
      split at found
      · cases old : db.generations.get source with
        | none =>
          simp only [old,Option.some.injEq] at found
          subst found
          exact Nat.zero_le _
        | some before =>
          simp only [old,Option.some.injEq] at found
          subst found
          exact Nat.le_succ_of_le (schema.generationOrder source before old)
      · exact schema.generationOrder other row found}

theorem WellFormed.sourceAccepted {db : Database} (schema : db.WellFormed)
    (generation : SourceGeneration) (status : SourceGenerationStatus)
    (diagnostics : Option SourceReadDiagnostics) (now : Int) (admitted : db.admits generation = true) :
    (db.sourceAccepted generation status diagnostics now).WellFormed :=
  {schema with
    generationOrder := by
      intro other row found
      simp only [Database.sourceAccepted,acceptedAs,BySource.get_set] at found
      split at found
      · obtain ⟨before,old,rfl⟩ := Option.map_eq_some_iff.mp found
        simp only [Database.admits,old,Option.any_some,GenerationRow.admits,Bool.and_eq_true,
          decide_eq_true_eq] at admitted
        exact admitted.1
      · exact schema.generationOrder other row found}

end Database

theorem resolveRead_run (application : SourceApplication) (timestamp : Int) (db : Database)
    (schema : db.WellFormed) :
    ∃ count, (application.resolveRead timestamp).run db = (.ok count,{db with
      situations := Table.updateWhere application.resolves (.resolved timestamp) db.situations}) := by
  have branch (passes : Situation → Bool) (same : application.passes = passes) :
      ∃ count, (resolveRows passes timestamp 0 (activeByType application.expectedType
        (some application.sourceName) db)).run db = (.ok count,{db with
          situations := Table.updateWhere application.resolves (.resolved timestamp) db.situations}) := by
    subst same
    exact resolveActive_run _ _ _ _ _ schema
  unfold SourceApplication.resolveRead
  by_cases complete : application.status.resolvesAbsent
  · rw [if_pos complete]
    exact branch _ (funext fun row => by simp [SourceApplication.passes,complete])
  rw [if_neg complete]
  by_cases absent : application.resolveAbsent
  · rw [if_pos absent]
    exact branch _ (funext fun row => by simp [SourceApplication.passes,complete,absent])
  rw [if_neg absent]
  by_cases listed : application.resolutionScopeIds ≠ []
  · rw [if_pos listed]
    exact branch _ (funext fun row => by simp [SourceApplication.passes,complete,absent,listed])
  · rw [if_neg listed]
    refine ⟨0,?_⟩
    rw [Statement.run_pure,Table.updateWhere_none]
    intro row _
    simp only [SourceApplication.resolves,resolves,SourceApplication.passes,if_neg complete,
      if_neg absent,if_neg listed,Bool.not_true,Bool.and_false]

theorem recordSync_run (application : SourceApplication) (now : Int) (db : Database) :
    ∃ rows, (application.recordSync now).run db = (.ok (),{db with syncStates := rows}) := by
  unfold SourceApplication.recordSync
  split
  · split <;> exact ⟨_,rfl⟩
  · exact ⟨_,rfl⟩
  · exact ⟨_,rfl⟩

section applications
variable [EvidenceJson]

/-- What a committed application did, table by table. -/
structure Applied (application : SourceApplication) (clock : Readings) (before after : Database)
    (stored : List Situation) : Prop where
  allowed : allowsDiagnostics application.generation.source application.diagnostics = true
  admitted : before.admits application.generation = true
  types : ∀ detection ∈ application.detections, detection.situationType = application.expectedType
  upserted : Table.Evolves (Upserted application.detections application.sourceName)
    (AddedBy application.detections application.sourceName before.nextId) before.situations stored
  situations : after.situations =
    Table.updateWhere application.resolves (.resolved clock.timestamp) stored
  stored : {before with situations := stored}.WellFormed
  tables : after = {before.sourceAccepted application.generation application.status
    application.diagnostics clock.acceptedAt with
      situations := after.situations
      syncStates := after.syncStates}

theorem applySourceGeneration_batch (application : SourceApplication) (clock : Readings)
    (db left : Database) (result : DetectionApplySummary) (schema : db.WellFormed)
    (ok : (applySourceGeneration application clock).run db = (.ok result,left)) :
    allowsDiagnostics application.generation.source application.diagnostics = true ∧
      db.admits application.generation = true ∧ ∃ middle,
        (upsertBatch application.detections clock.timestamp (some application.expectedType)
          application.sourceName (some application.generation.number)).run
            (db.sourceAccepted application.generation application.status application.diagnostics
              clock.acceptedAt) = (.ok result.upsert,middle) ∧
        ∃ rows, left = {middle with
          situations := Table.updateWhere application.resolves (.resolved clock.timestamp) middle.situations
          syncStates := rows} := by
  rw [applySourceGeneration,Statement.immediate_success] at ok
  obtain ⟨_,accepted,first,ok⟩ := Statement.bind_success _ _ _ _ _ ok
  obtain ⟨allowed,admitted,rfl⟩ := (acceptSourceGeneration_success _ _ _ _ _ _ _).mp first
  obtain ⟨summary,middle,batch,ok⟩ := Statement.bind_success _ _ _ _ _ ok
  have acceptedSchema := schema.sourceAccepted application.generation application.status
    application.diagnostics clock.acceptedAt admitted
  obtain ⟨_,kept,_,_⟩ := upsertBatch_success _ _ _ _ _ _ _ _ acceptedSchema batch
  obtain ⟨count,resolved⟩ := resolveRead_run application clock.timestamp middle kept
  rw [Statement.run_bind_ok _ _ _ _ _ resolved] at ok
  obtain ⟨rows,recorded⟩ := recordSync_run application clock.recordedAt {middle with
    situations := Table.updateWhere application.resolves (.resolved clock.timestamp) middle.situations}
  rw [Statement.run_bind_ok _ _ _ _ _ recorded] at ok
  obtain ⟨rfl,rfl⟩ := Statement.pure_success _ _ _ _ ok
  exact ⟨allowed,admitted,middle,batch,rows,rfl⟩

theorem applySourceGeneration_success (application : SourceApplication) (clock : Readings)
    (db left : Database) (result : DetectionApplySummary) (schema : db.WellFormed)
    (ok : (applySourceGeneration application clock).run db = (.ok result,left)) :
    ∃ stored, Applied application clock db left stored := by
  obtain ⟨allowed,admitted,middle,batch,rows,rfl⟩ := applySourceGeneration_batch _ _ _ _ _ schema ok
  have acceptedSchema := schema.sourceAccepted application.generation application.status
    application.diagnostics clock.acceptedAt admitted
  obtain ⟨only,kept,evolves,types⟩ := upsertBatch_success _ _ _ _ _ _ _ _ acceptedSchema batch
  refine ⟨middle.situations,allowed,admitted,fun d m => types d m _ rfl,evolves,rfl,?_,?_⟩
  · rw [only] at kept
    exact {kept with generationOrder := schema.generationOrder}
  · rw [only]

theorem upsertDetections_success (detections : List Detection) (timestamp : Int)
    (db left : Database) (result : DetectionUpsertSummary) (schema : db.WellFormed)
    (ok : (upsertDetections detections timestamp).run db = (.ok result,left)) :
    SituationsOnly db left ∧ left.WellFormed ∧
      Table.Evolves (Upserted detections .localSource) (AddedBy detections .localSource db.nextId)
        db.situations left.situations := by
  rw [upsertDetections,Statement.immediate_success] at ok
  obtain ⟨only,kept,evolves,_⟩ := upsertBatch_success _ _ _ _ _ _ _ _ schema ok
  exact ⟨only,kept,evolves⟩

theorem applyLocalDetections_success (detections : List Detection) (timestamp : Int)
    (db left : Database) (result : DetectionApplySummary) (schema : db.WellFormed)
    (ok : (applyLocalDetections detections timestamp).run db = (.ok result,left)) :
    ∃ stored, {db with situations := stored}.WellFormed ∧
      Table.Evolves (Upserted detections .memory) (AddedBy detections .memory db.nextId)
        db.situations stored ∧
      (∀ detection ∈ detections, detection.situationType = .personalOccasion) ∧
      left = {db with
        situations := Table.updateWhere (resolves .personalOccasion (some .memory)
          (fun row => (detections.map Detection.dedupeKey).contains row.dedupeKey))
          (.resolved timestamp) stored} := by
  rw [applyLocalDetections,Statement.immediate_success] at ok
  obtain ⟨summary,middle,batch,ok⟩ := Statement.bind_success _ _ _ _ _ ok
  obtain ⟨only,kept,evolves,types⟩ := upsertBatch_success _ _ _ _ _ _ _ _ schema batch
  obtain ⟨count,resolved⟩ := resolveActive_run .personalOccasion (some .memory)
    (fun row => (detections.map Detection.dedupeKey).contains row.dedupeKey) timestamp middle kept
  have whole : (resolve .personalOccasion (detections.map Detection.dedupeKey) timestamp
      (some .memory)).run middle = _ := resolved
  rw [Statement.run_bind_ok _ _ _ _ _ whole] at ok
  obtain ⟨_,rfl⟩ := Statement.pure_success _ _ _ _ ok
  refine ⟨middle.situations,?_,evolves,fun d m => types d m _ rfl,?_⟩
  · rwa [only] at kept
  · rw [only]

end applications

theorem resolveAbsent_run (situationType : SituationType) (presentKeys : List String)
    (timestamp : Int) (db : Database) (schema : db.WellFormed) :
    ∃ count, (resolveAbsent situationType presentKeys timestamp).run db = (.ok count,{db with
      situations := Table.updateWhere (resolves situationType none
        (fun row => presentKeys.contains row.dedupeKey)) (.resolved timestamp) db.situations}) := by
  obtain ⟨count,resolved⟩ := resolveActive_run situationType none
    (fun row => presentKeys.contains row.dedupeKey) timestamp db schema
  exact ⟨count,(Statement.immediate_success _ _ _ _).mpr resolved⟩

end Proactive.Store
