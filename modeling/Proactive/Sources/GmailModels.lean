import Proactive.Sources.Transport

/-! Typed Gmail read results, and the validated JSON of the Gmail API. -/
namespace Proactive.Sources
open Proactive.Store Proactive.Situations

abbrev GmailErrorCode := ProviderErrorCode

inductive GmailErrorKind
  | auth | parse
  | bodyLimit (limitReason : LimitReason)
deriving DecidableEq, Repr

structure GmailError where
  kind : GmailErrorKind
  errorCode : GmailErrorCode
  httpStatus : Option Int
deriving DecidableEq, Repr

inductive GmailDegradationReason
  | paginationLimit | syncBudgetExhausted | threadProjectionLimit | threadResponseTooLarge
  | threadListEntrySkipped | threadWithoutProjectableMessage
  | projection (reason : InboxThreadDegradationReason)
deriving DecidableEq, Repr

def GmailDegradationReason.text : GmailDegradationReason → String
  | .paginationLimit => "pagination_limit"
  | .syncBudgetExhausted => "sync_budget_exhausted"
  | .threadProjectionLimit => "thread_projection_limit"
  | .threadResponseTooLarge => "thread_response_too_large"
  | .threadListEntrySkipped => "thread_list_entry_skipped"
  | .threadWithoutProjectableMessage => "thread_without_projectable_message"
  | .projection .bodySnippetFallback => "body_snippet_fallback"
  | .projection .bodyTruncated => "body_truncated"
  | .projection .directionMetadataAmbiguous => "direction_metadata_ambiguous"
  | .projection .directionMetadataMissing => "direction_metadata_missing"
  | .projection .identityHeadersAmbiguous => "identity_headers_ambiguous"
  | .projection .mimeStructureTruncated => "mime_structure_truncated"

def GmailDegradationReason.readReason : GmailDegradationReason → SourceReadReason
  | .paginationLimit => .paginationLimit
  | .syncBudgetExhausted => .syncBudgetExhausted
  | .threadProjectionLimit => .threadProjectionLimit
  | .threadResponseTooLarge => .threadResponseTooLarge
  | .threadListEntrySkipped => .threadListEntrySkipped
  | .threadWithoutProjectableMessage => .threadWithoutProjectableMessage
  | .projection .bodySnippetFallback => .bodySnippetFallback
  | .projection .bodyTruncated => .bodyTruncated
  | .projection .directionMetadataAmbiguous => .directionMetadataAmbiguous
  | .projection .directionMetadataMissing => .directionMetadataMissing
  | .projection .identityHeadersAmbiguous => .identityHeadersAmbiguous
  | .projection .mimeStructureTruncated => .mimeStructureTruncated

structure GmailProfile where
  emailAddress : String
  messagesTotal : Int
  threadsTotal : Int
  historyId : String
deriving DecidableEq, Repr

structure GmailThread where
  id : String
  historyId : Option String
deriving DecidableEq, Repr

structure GmailReadResult where
  threads : List GmailThread
  fetchedAt : Int
  pageCount : Nat
  skippedCount : Nat
  isComplete : Bool
  degradationReasons : List GmailDegradationReason
deriving DecidableEq, Repr

/-- Detector-ready inbox projection; its sets are lists without repetition. -/
structure GmailInboxReadResult where
  threads : List InboxThreadSnapshot
  fetchedAt : Int
  providerHistoryCursor : String
  pageCount : Nat
  coverageComplete : Bool
  degradationReasons : List GmailDegradationReason
  requestCount : Nat
  projectedThreadCount : Nat
  excludedThreadCount : Nat
  allowsAbsentResolution : Bool
  resolutionSafeThreadIds : List String
  resolutionExcludedThreadIds : List String
  degradationReasonCounts : List (GmailDegradationReason × Nat)
deriving DecidableEq, Repr

structure WireThread where
  id : Option String
  historyId : Option String
deriving DecidableEq, Repr

structure WireThreadsPage where
  threads : List WireThread
  nextPageToken : Option String
deriving DecidableEq, Repr

structure WireHeader where
  name : String
  value : String
deriving DecidableEq, Repr

structure WireBody where
  data : Option String
deriving DecidableEq, Repr

inductive WirePart
  | part (mimeType : Option String) (headers : List WireHeader) (body : Option WireBody)
      (parts : List WirePart)

namespace WirePart

def mimeType : WirePart → Option String
  | part mimeType _ _ _ => mimeType

def headers : WirePart → List WireHeader
  | part _ headers _ _ => headers

def body : WirePart → Option WireBody
  | part _ _ body _ => body

def parts : WirePart → List WirePart
  | part _ _ _ parts => parts

end WirePart

structure WireMessage where
  id : Option String
  internalDate : Option Int
  snippet : Option String
  labelIds : Option (List String)
  payload : Option WirePart

structure WireThreadDetail where
  messages : List WireMessage

/-- The validation library on each of the bodies; `none` is its `ValidationError`. -/
structure GmailJson where
  profile : Body → Option GmailProfile
  threadsPage : Body → Option WireThreadsPage
  threadDetail : Body → Option WireThreadDetail

end Proactive.Sources
