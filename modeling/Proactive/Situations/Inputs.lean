import Proactive.Store.Consistency
import Proactive.Situations.Dates

/-! Typed source snapshots consumed by the situation detectors. Absolute times
are UTC instants in microseconds, dates are day numbers of the same calendar. -/
namespace Proactive.Situations
open Proactive.Store

inductive InboxThreadDegradationReason
  | bodySnippetFallback | bodyTruncated | directionMetadataAmbiguous
  | directionMetadataMissing | identityHeadersAmbiguous | mimeStructureTruncated
deriving DecidableEq, Repr

structure InboxThreadSnapshot where
  threadId : String
  latestMessageId : String
  latestFromUser : Bool
  userIsRecipient : Bool
  latestMessageAt : Int
  subject : Option String
  senderDisplay : Option String
  snippet : Option String
  bodyText : Option String
  resolutionSafe : Bool
  degradationReasons : List InboxThreadDegradationReason
  providerHistoryCursor : Option String
deriving DecidableEq, Repr

inductive EventStatus | confirmed | tentative | cancelled
deriving DecidableEq, Repr

inductive EventTransparency | opaqueEvent | transparentEvent
deriving DecidableEq, Repr

inductive ResponseStatus | needsAction | declined | tentative | accepted
deriving DecidableEq, Repr

/-- `TimedInstant | AllDayDate`. -/
inductive EventBound
  | timedInstant (instant : Int)
  | allDayDate (date : Int)
deriving DecidableEq, Repr

structure CalendarEvent where
  id : String
  status : EventStatus
  summary : Option String
  start : Option EventBound
  end_ : Option EventBound
  isOrganizer : Bool
  selfResponseStatus : Option ResponseStatus
  transparency : EventTransparency
deriving DecidableEq, Repr

structure SourceSnapshot (item : Type) where
  generation : SourceGeneration
  items : List item
  complete : Bool
  syncCursor : Option String
  warningCodes : List String
  errorCode : Option SourceErrorCode
  resolveAbsent : Bool
  resolutionScopeIds : List String
  resolutionExcludedIds : List String
deriving DecidableEq, Repr

/-- The snapshots of one pass; a source that is `none` was skipped. -/
structure EngineInputs where
  gmailThreads : Option (SourceSnapshot InboxThreadSnapshot)
  calendarEvents : Option (SourceSnapshot CalendarEvent)
  gmailDiagnostics : Option SourceReadDiagnostics
deriving DecidableEq, Repr

def EngineInputs.skipped : EngineInputs := ⟨none,none,none⟩

structure CalendarConflictRun where
  detections : List Detection
  resolutionSafe : Bool
  warningCodes : List String
deriving DecidableEq, Repr

end Proactive.Situations
