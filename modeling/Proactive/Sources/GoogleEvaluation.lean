import Proactive.Library.Outcome
import Proactive.Situations.Engine
import Proactive.Sources.Calendar
import Proactive.Sources.Gmail

/-! Detector inputs from one authenticated Google source read. -/
namespace Proactive.Sources
open Proactive.Library Proactive.Store Proactive.Situations

def sourceErrorText : SourceErrorCode → String
  | .invalidGrant => "invalid_grant"
  | .scopeMismatch => "scope_mismatch"
  | .http4xx => "http_4xx"
  | .http5xx => "http_5xx"
  | .network => "network"
  | .resourceLimit => "resource_limit"
  | .timeout => "timeout"
  | .degraded => "degraded"
  | .unknown => "unknown"

def gmailReadDiagnostics (result : GmailInboxReadResult) : SourceReadDiagnostics where
  outcome := if result.coverageComplete then .healthy else .partialRead
  requestCount := result.requestCount
  pageCount := result.pageCount
  projectedCount := result.projectedThreadCount
  excludedCount := result.excludedThreadCount
  byteBudget := gmailReadByteBudget
  reasonCounts :=
    if result.degradationReasonCounts ≠ [] then
      result.degradationReasonCounts.map (fun (reason,count) => ⟨reason.readReason,count⟩)
    else result.degradationReasons.eraseDups.map (fun reason =>
      ⟨reason.readReason,result.degradationReasons.count reason⟩)

/-- The two reads, as the adapters end them, and the clock of the reservations.
Deleting a revoked credential touches no table. -/
structure EvaluationDependencies where
  gmail : Read GmailError GmailInboxReadResult
  calendar : Read CalendarError CalendarReadResult
  gmailReservedAt : Int
  calendarReservedAt : Int

def failedSnapshot (item : Type) (generation : SourceGeneration) (errorCode : SourceErrorCode) :
    SourceSnapshot item where
  generation := generation
  items := []
  complete := false
  syncCursor := none
  warningCodes := [generation.source.text ++ "_" ++ sourceErrorText errorCode]
  errorCode := some errorCode
  resolveAbsent := false
  resolutionScopeIds := []
  resolutionExcludedIds := []

def gmailSnapshot (generation : SourceGeneration) (result : GmailInboxReadResult) :
    SourceSnapshot InboxThreadSnapshot where
  generation := generation
  items := result.threads
  complete := result.coverageComplete
  syncCursor := some result.providerHistoryCursor
  warningCodes := result.degradationReasons.map GmailDegradationReason.text
  errorCode := none
  resolveAbsent := result.allowsAbsentResolution
  resolutionScopeIds := result.resolutionSafeThreadIds
  resolutionExcludedIds := result.resolutionExcludedThreadIds

def calendarSnapshot (generation : SourceGeneration) (result : CalendarReadResult) :
    SourceSnapshot CalendarEvent where
  generation := generation
  items := result.events
  complete := result.skippedCount == 0
  syncCursor := none
  warningCodes := if result.skippedCount = 0 then [] else ["calendar_skipped_items"]
  errorCode := none
  resolveAbsent := false
  resolutionScopeIds := []
  resolutionExcludedIds := []

def invalidGrantInputs (gmailGeneration calendarGeneration : SourceGeneration) : EngineInputs where
  gmailThreads := some (failedSnapshot _ gmailGeneration .invalidGrant)
  calendarEvents := some (failedSnapshot _ calendarGeneration .invalidGrant)
  gmailDiagnostics := some (sourceFailureDiagnostics .invalidGrant)

/-- A read as the clauses of `prepare_evaluation` see it: its result or the code
of a failure that they name, unless the grant is invalid or nothing names the exception. -/
inductive Reading (α : Type)
  | result (value : α)
  | failed (errorCode : SourceErrorCode)
  | invalidGrant
  | raised (error : Raised)
deriving DecidableEq, Repr

def reading {ε α : Type} (errorCode : ε → ProviderErrorCode) : Read ε α → Reading α
  | .ok value => .result value
  | .error (.provider error) => .failed (errorCode error).sourceCode
  | .error (.transport (.transport code)) => .failed code.sourceCode
  | .error (.transport .invalidGrant) => .invalidGrant
  | .error (.raised error) => .raised error

def nextGeneration (source : SourceName) (db : Database) : SourceGeneration :=
  ⟨source,(generationState source db).issued + 1⟩

namespace EvaluationDependencies

def gmailReading (dependencies : EvaluationDependencies) : Reading GmailInboxReadResult :=
  reading GmailError.errorCode dependencies.gmail

def calendarReading (dependencies : EvaluationDependencies) : Reading CalendarReadResult :=
  reading CalendarError.errorCode dependencies.calendar

def readSources (dependencies : EvaluationDependencies)
    (gmailGeneration calendarGeneration : SourceGeneration) : Except Raised EngineInputs :=
  let withCalendar (gmail : SourceSnapshot InboxThreadSnapshot) (diagnostics : SourceReadDiagnostics) :
      Except Raised EngineInputs :=
    match dependencies.calendarReading with
    | .invalidGrant => .ok (invalidGrantInputs gmailGeneration calendarGeneration)
    | .raised error => .error error
    | .failed errorCode =>
      .ok ⟨some gmail,some (failedSnapshot _ calendarGeneration errorCode),some diagnostics⟩
    | .result events => .ok ⟨some gmail,some (calendarSnapshot calendarGeneration events),some diagnostics⟩
  match dependencies.gmailReading with
  | .invalidGrant => .ok (invalidGrantInputs gmailGeneration calendarGeneration)
  | .raised error => .error error
  | .failed errorCode =>
    withCalendar (failedSnapshot _ gmailGeneration errorCode) (sourceFailureDiagnostics errorCode)
  | .result inbox => withCalendar (gmailSnapshot gmailGeneration inbox) (gmailReadDiagnostics inbox)

def prepareEvaluation (dependencies : EvaluationDependencies) : Pass EngineInputs := do
  let gmailGeneration ← stored (reserveSourceGeneration .gmail dependencies.gmailReservedAt)
  let calendarGeneration ← stored (reserveSourceGeneration .calendar dependencies.calendarReservedAt)
  detected (dependencies.readSources gmailGeneration calendarGeneration)

theorem prepareEvaluation_run (dependencies : EvaluationDependencies) (db : Database) :
    dependencies.prepareEvaluation.run db =
      let reserved := db.issue .gmail dependencies.gmailReservedAt
      ((dependencies.readSources (nextGeneration .gmail db) (nextGeneration .calendar reserved)).mapError
          .raised,
        reserved.issue .calendar dependencies.calendarReservedAt) := by
  have reserve (source : SourceName) (now : Int) (store : Database) :
      (stored (reserveSourceGeneration source now)).run store =
        (.ok (nextGeneration source store),store.issue source now) := by
    rw [stored_run,run_reserveSourceGeneration]
    rfl
  unfold prepareEvaluation
  rw [Statement.run_bind_ok _ _ _ _ _ (reserve _ _ _),Statement.run_bind_ok _ _ _ _ _ (reserve _ _ _)]
  exact detected_run _ _

theorem prepareEvaluation_ok {dependencies : EvaluationDependencies} {db : Database}
    {inputs : EngineInputs} (prepared : (dependencies.prepareEvaluation.run db).1 = .ok inputs) :
    dependencies.readSources (nextGeneration .gmail db)
      (nextGeneration .calendar (db.issue .gmail dependencies.gmailReservedAt)) = .ok inputs := by
  rw [prepareEvaluation_run] at prepared
  exact (Outcome.mapError_ok_iff _ _ _).mp prepared

end EvaluationDependencies
end Proactive.Sources
