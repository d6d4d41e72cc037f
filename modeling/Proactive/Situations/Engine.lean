import Proactive.Situations.Inputs
import Proactive.Store.Freshness
import Proactive.Store.Serialization

/-! One deterministic evaluation pass over fresh source snapshots. -/
namespace Proactive.Situations
open Proactive.Library Proactive.Store

/-- The three detectors of a pass, each bound to its settings and, for the
occasions, to the dated memories; any of them may raise. -/
structure Detectors where
  detectPersonalOccasions : Int → Except Raised (List Detection)
  detectReplyDeadlines : List InboxThreadSnapshot → Int → Except Raised (List Detection)
  runCalendarConflictDetection : List CalendarEvent → Int → Except Raised CalendarConflictRun

def silentDetectors : Detectors := ⟨fun _ => .ok [],fun _ _ => .ok [],fun _ _ => .ok ⟨[],true,[]⟩⟩

/-- The clock readings of one pass, in the order it makes them. -/
structure PassReadings where
  now : Int
  wokenAt : Int
  expiredAt : Int
  localAt : Int
  gmail : Readings
  calendar : Readings
deriving DecidableEq, Repr

inductive EvaluationError
  | store (error : StoreError)
  | raised (error : Raised)
deriving DecidableEq, Repr

abbrev Pass (α : Type) := Statement Database EvaluationError α

/-- One store call of the pass, whose failure ends the pass. -/
def stored {α : Type} (body : Sql α) : Pass α := do
  let outcome ← Statement.attempt body
  match outcome with
  | .ok value => return value
  | .error error => Statement.raise (.store error)

theorem stored_run {α : Type} (body : Sql α) (db : Database) :
    (stored body).run db = ((body.run db).1.mapError .store,(body.run db).2) := by
  unfold stored
  rw [Statement.run_attempt_bind]
  cases (body.run db).1 <;> rfl

theorem stored_success {α : Type} (body : Sql α) (db left : Database) (value : α) :
    (stored body).run db = (.ok value,left) ↔ body.run db = (.ok value,left) := by
  rw [stored_run]
  cases body.run db with
  | mk outcome after => cases outcome <;> simp [Except.mapError]

theorem stored_keeps {α : Type} (holds : Database → Prop) (body : Sql α) (inner : body.Keeps holds) :
    (stored body).Keeps holds := by
  intro db kept
  rw [stored_run]
  exact inner db kept

def detected {α : Type} : Except Raised α → Pass α
  | .ok value => return value
  | .error error => Statement.raise (.raised error)

theorem detected_run {α : Type} (outcome : Except Raised α) (db : Database) :
    (detected outcome).run db = (outcome.mapError .raised,db) := by
  cases outcome <;> rfl

structure EvaluationResult where
  created : Nat
  reactivated : Nat
  refreshed : Nat
  resolved : Nat
  expired : Nat
  woken : Nat
  warnings : List String
  gmailFreshness : SourceFreshness
  calendarFreshness : SourceFreshness
  acceptedGmailDiagnostics : Option SourceReadDiagnostics
deriving DecidableEq, Repr

def passStatus (complete : Bool) : SourceGenerationStatus := if complete then .complete else .degraded

def gmailApplication (gmail : SourceSnapshot InboxThreadSnapshot)
    (diagnostics : Option SourceReadDiagnostics) (detections : List Detection) : SourceApplication where
  generation := gmail.generation
  detections := detections
  status := passStatus gmail.complete
  syncCursor := gmail.syncCursor
  errorCode := gmail.errorCode
  diagnostics := diagnostics
  resolveAbsent := gmail.resolveAbsent
  resolutionScopeIds := gmail.resolutionScopeIds
  resolutionExcludedIds := gmail.resolutionExcludedIds

def calendarApplication (calendar : SourceSnapshot CalendarEvent) (conflicts : CalendarConflictRun) :
    SourceApplication where
  generation := calendar.generation
  detections := conflicts.detections
  status := passStatus (calendar.complete && conflicts.resolutionSafe)
  syncCursor := calendar.syncCursor
  errorCode := calendar.errorCode
  diagnostics := none
  resolveAbsent := false
  resolutionScopeIds := []
  resolutionExcludedIds := []

abbrev SourcePass := List DetectionApplySummary × List String

def sourceWarning (source : SourceName) (code : String) : String := source.text ++ ": " ++ code

section passes
variable [EvidenceJson]

/-- Apply source truth; a delayed generation is ignored with a warning. -/
def applyOrdered (source : SourceName) (application : SourceApplication) (clock : Readings)
    (warnings : List String) : Pass SourcePass := do
  let outcome ← Statement.attempt (applySourceGeneration application clock)
  match outcome with
  | .ok summary => return ([summary],warnings)
  | .error (.delayedSourceGeneration _ _) =>
    return ([],sourceWarning source "delayed source generation ignored"::warnings)
  | .error error => Statement.raise (.store error)

def evaluateGmail (detectors : Detectors) (readings : PassReadings) (inputs : EngineInputs) :
    Pass SourcePass :=
  match inputs.gmailThreads with
  | none => return ([],[])
  | some gmail => do
    let detections ← detected (detectors.detectReplyDeadlines gmail.items readings.now)
    applyOrdered .gmail (gmailApplication gmail inputs.gmailDiagnostics detections) readings.gmail
      (gmail.warningCodes.map (sourceWarning .gmail))

def evaluateCalendar (detectors : Detectors) (readings : PassReadings) (inputs : EngineInputs) :
    Pass SourcePass :=
  match inputs.calendarEvents with
  | none => return ([],[])
  | some calendar => do
    let conflicts ← detected (detectors.runCalendarConflictDetection calendar.items readings.now)
    applyOrdered .calendar (calendarApplication calendar conflicts) readings.calendar
      (calendar.warningCodes.map (sourceWarning .calendar) ++
        conflicts.warningCodes.map (sourceWarning .calendar))

def capacityWarning (skipped : Nat) : List String :=
  if skipped = 0 then []
  else ["situations: persistence capacity rejected " ++ toString skipped ++
    " detection(s); results may be incomplete"]

def skipWarning (source : SourceName) (skipped : Bool) (freshness : SourceFreshness) : List String :=
  if skipped && freshness.status != .ok then
    [sourceWarning source "skipped this pass (no snapshot); situations kept"]
  else []

def freshnessWarning (source : SourceName) (freshness : SourceFreshness) : List String :=
  if freshness.status = .ok then []
  else [sourceWarning source ("source is " ++ freshness.status.text)]

def passWarnings (inputs : EngineInputs) (gmail calendar : SourceFreshness)
    (sourceWarnings : List String) : List String :=
  sourceWarnings ++ skipWarning .gmail inputs.gmailThreads.isNone gmail ++
    skipWarning .calendar inputs.calendarEvents.isNone calendar ++
    freshnessWarning .gmail gmail ++ freshnessWarning .calendar calendar

def openPass (detectors : Detectors) (readings : PassReadings) :
    Pass (Nat × Nat × DetectionApplySummary) := do
  let woken ← stored (wakeSnoozed readings.wokenAt)
  let expired ← stored (expireLapsed readings.expiredAt)
  let occasions ← detected (detectors.detectPersonalOccasions readings.now)
  let summary ← stored (applyLocalDetections occasions readings.localAt)
  return (woken,expired,summary)

def evaluate (detectors : Detectors) (readings : PassReadings) (inputs : EngineInputs) :
    Pass EvaluationResult := do
  let (woken,expired,occasions) ← openPass detectors readings
  let gmail ← evaluateGmail detectors readings inputs
  let calendar ← evaluateCalendar detectors readings inputs
  let health ← Statement.select sourceHealthSnapshot
  let gmailFreshness := evaluateSourceFreshness health.gmail readings.now
  let calendarFreshness := evaluateSourceFreshness health.calendar readings.now
  let applied := [occasions] ++ gmail.1 ++ calendar.1
  return {
    created := (applied.map (fun item => item.upsert.created)).sum
    reactivated := (applied.map (fun item => item.upsert.reactivated)).sum
    refreshed := (applied.map (fun item => item.upsert.refreshed)).sum
    resolved := (applied.map DetectionApplySummary.resolved).sum
    expired := expired
    woken := woken
    warnings := passWarnings inputs gmailFreshness calendarFreshness (gmail.2 ++ calendar.2 ++
      capacityWarning (applied.map (fun item => item.upsert.capacitySkipped)).sum)
    gmailFreshness := gmailFreshness
    calendarFreshness := calendarFreshness
    acceptedGmailDiagnostics := health.gmailDiagnostics}

/-- The store operations of each stage of a pass, were it to run to its end. -/
def openOperations (detectors : Detectors) (readings : PassReadings) : List Operation :=
  [.wakeSnoozed readings.wokenAt,.expireLapsed readings.expiredAt] ++
    match detectors.detectPersonalOccasions readings.now with
    | .ok occasions => [.applyLocalDetections occasions readings.localAt]
    | .error _ => []

def gmailOperations (detectors : Detectors) (readings : PassReadings) (inputs : EngineInputs) :
    List Operation :=
  match inputs.gmailThreads with
  | none => []
  | some gmail =>
    match detectors.detectReplyDeadlines gmail.items readings.now with
    | .ok detections =>
      [.applySourceGeneration (gmailApplication gmail inputs.gmailDiagnostics detections) readings.gmail]
    | .error _ => []

def calendarOperations (detectors : Detectors) (readings : PassReadings) (inputs : EngineInputs) :
    List Operation :=
  match inputs.calendarEvents with
  | none => []
  | some calendar =>
    match detectors.runCalendarConflictDetection calendar.items readings.now with
    | .ok conflicts =>
      [.applySourceGeneration (calendarApplication calendar conflicts) readings.calendar]
    | .error _ => []

/-- What a pass performs from a database on: a stage that raises is its last. -/
def passOperations (detectors : Detectors) (readings : PassReadings) (inputs : EngineInputs)
    (db : Database) : List Operation :=
  openOperations detectors readings ++
    match (openPass detectors readings).run db with
    | (.error _,_) => []
    | (.ok _,opened) =>
      gmailOperations detectors readings inputs ++
        match (evaluateGmail detectors readings inputs).run opened with
        | (.error _,_) => []
        | (.ok _,_) => calendarOperations detectors readings inputs

theorem openPass_operations (detectors : Detectors) (readings : PassReadings) (db : Database) :
    ((openPass detectors readings).run db).2 = Run.run step db (openOperations detectors readings) := by
  have woken : (stored (wakeSnoozed readings.wokenAt)).run db =
      (.ok _,step db (.wakeSnoozed readings.wokenAt)) := stored_run _ _
  have expired (left : Database) : (stored (expireLapsed readings.expiredAt)).run left =
      (.ok _,step left (.expireLapsed readings.expiredAt)) := stored_run _ _
  unfold openPass openOperations
  rw [Statement.run_bind_ok _ _ _ _ _ woken,Statement.run_bind_ok _ _ _ _ _ (expired _)]
  cases detectors.detectPersonalOccasions readings.now with
  | error error => rfl
  | ok occasions =>
    have opened : (detected (.ok occasions) : Pass (List Detection)) = pure occasions := rfl
    rw [opened,Statement.run_pure_bind,Statement.run_bind,stored_run]
    simp only [List.cons_append,List.nil_append,Run.run_cons,Run.run_nil]
    change _ = ((applyLocalDetections occasions readings.localAt).run _).2
    cases (applyLocalDetections occasions readings.localAt).run _ with
    | mk outcome left => cases outcome <;> rfl

theorem applyOrdered_state (source : SourceName) (application : SourceApplication) (clock : Readings)
    (warnings : List String) (db : Database) :
    ((applyOrdered source application clock warnings).run db).2 =
      step db (.applySourceGeneration application clock) := by
  unfold applyOrdered
  rw [Statement.run_attempt_bind]
  change _ = ((applySourceGeneration application clock).run db).2
  cases (applySourceGeneration application clock).run db with
  | mk outcome left =>
    cases outcome with
    | ok summary => rfl
    | error error => cases error <;> rfl

theorem evaluateGmail_operations (detectors : Detectors) (readings : PassReadings)
    (inputs : EngineInputs) (db : Database) :
    ((evaluateGmail detectors readings inputs).run db).2 =
      Run.run step db (gmailOperations detectors readings inputs) := by
  unfold evaluateGmail gmailOperations
  cases inputs.gmailThreads with
  | none => rfl
  | some gmail =>
    dsimp only
    cases detectors.detectReplyDeadlines gmail.items readings.now with
    | error error => rfl
    | ok detections => exact applyOrdered_state _ _ _ _ db

theorem evaluateCalendar_operations (detectors : Detectors) (readings : PassReadings)
    (inputs : EngineInputs) (db : Database) :
    ((evaluateCalendar detectors readings inputs).run db).2 =
      Run.run step db (calendarOperations detectors readings inputs) := by
  unfold evaluateCalendar calendarOperations
  cases inputs.calendarEvents with
  | none => rfl
  | some calendar =>
    dsimp only
    cases detectors.runCalendarConflictDetection calendar.items readings.now with
    | error error => rfl
    | ok conflicts => exact applyOrdered_state _ _ _ _ db

theorem evaluate_operations (detectors : Detectors) (readings : PassReadings) (inputs : EngineInputs)
    (db : Database) :
    ((evaluate detectors readings inputs).run db).2 =
      Run.run step db (passOperations detectors readings inputs db) := by
  have opened := openPass_operations detectors readings db
  unfold evaluate passOperations
  rw [Statement.run_bind,Run.run_append,← opened]
  cases (openPass detectors readings).run db with
  | mk first middle =>
    cases first with
    | error error => rfl
    | ok summaries =>
      have read := evaluateGmail_operations detectors readings inputs middle
      dsimp only
      rw [Statement.run_bind,Run.run_append,← read]
      cases (evaluateGmail detectors readings inputs).run middle with
      | mk second later =>
        cases second with
        | error error => rfl
        | ok gmail =>
          have closed := evaluateCalendar_operations detectors readings inputs later
          dsimp only
          rw [Statement.run_bind,← closed]
          cases (evaluateCalendar detectors readings inputs).run later with
          | mk third last => cases third <;> rfl

end passes
end Proactive.Situations
