import Mathlib.Data.List.Basic

/-! Closed vocabularies, records and rows of the situation and source stores.
Timestamps are UTC instants in microseconds: the stored ISO strings of one
offset compare as the instants they spell. Rows that no modelled statement
reads by primary key (deliveries) keep their insertion order instead of an id. -/
namespace Proactive.Store

def second : Int := 1000000

/-- A 32-byte receipt digest; the schema rejects any other length. -/
abbrev Digest := BitVec 256

inductive SituationType | replyDeadline | calendarConflict | personalOccasion
deriving DecidableEq, Repr

inductive SituationSource | gmail | calendar | memory | localSource
deriving DecidableEq, Repr

inductive SituationState
  | pending | delivered | acknowledged | snoozed | muted | resolved | expired
deriving DecidableEq, Repr

inductive SituationPriority | critical | high | routine
deriving DecidableEq, Repr

structure SituationEvidence where
  facts : List (String × String)
  quotedExternal : List (String × String)
  quotedMemory : List (String × String)
  contradictoryDates : List String
deriving DecidableEq, Repr

def SituationEvidence.empty : SituationEvidence := ⟨[],[],[],[]⟩

/-- `facts.get(name)` on the decoded mapping. -/
def SituationEvidence.fact (evidence : SituationEvidence) (name : String) : Option String :=
  (evidence.facts.find? (fun entry => entry.1 == name)).map Prod.snd

structure Detection where
  situationType : SituationType
  dedupeKey : String
  priority : SituationPriority
  title : String
  whyNow : String
  evidence : SituationEvidence
  expiresAt : Option Int
deriving DecidableEq, Repr

/-- A stored situation, with the `snooze_cooldown_exempt` column that the
reader's projection leaves out. -/
structure Situation where
  id : Nat
  situationType : SituationType
  sourceName : SituationSource
  sourceGeneration : Option Nat
  dedupeKey : String
  state : SituationState
  priority : SituationPriority
  title : String
  whyNow : String
  evidence : SituationEvidence
  expiresAt : Option Int
  detectedAt : Int
  updatedAt : Int
  deliveredAt : Option Int
  acknowledgedAt : Option Int
  snoozedUntil : Option Int
  resolvedAt : Option Int
  expiredAt : Option Int
  mutedAt : Option Int
  snoozeCooldownExempt : Bool
deriving DecidableEq, Repr

structure TypeMute where
  situationType : SituationType
  createdAt : Int
deriving DecidableEq, Repr

structure Delivery where
  situationId : Nat
  deliveredAt : Int
  priority : SituationPriority
deriving DecidableEq, Repr

structure ClaimRow where
  receiptDigest : Digest
  situationId : Nat
  claimedAt : Int
  expiresAt : Int
deriving DecidableEq, Repr

structure ReceiptRow where
  receiptDigest : Digest
  deliveredCount : Nat
  confirmedAt : Int
deriving DecidableEq, Repr

structure DeliveryClaim where
  deliveredAt : Int
  cooldownAfter : Int
  localDayStart : Int
  localDayEnd : Int
  dailyBudget : Int
  allowNoncritical : Bool
deriving DecidableEq, Repr

structure DeliveryReservation where
  claimToken : String
  situations : List Situation
  expiresAt : Int
deriving DecidableEq, Repr

inductive ConfirmationStatus | confirmed | alreadyConfirmed
deriving DecidableEq, Repr

structure DeliveryConfirmation where
  status : ConfirmationStatus
  deliveredCount : Nat
deriving DecidableEq, Repr

structure DetectionUpsertSummary where
  created : Nat
  reactivated : Nat
  refreshed : Nat
  skipped : Nat
  capacitySkipped : Nat
deriving DecidableEq, Repr

structure DetectionApplySummary where
  upsert : DetectionUpsertSummary
  resolved : Nat
deriving DecidableEq, Repr

inductive SourceName | gmail | calendar
deriving DecidableEq, Repr

inductive SourceGenerationStatus | complete | degraded
deriving DecidableEq, Repr

structure SourceGeneration where
  source : SourceName
  number : Nat
deriving DecidableEq, Repr

structure GenerationRow where
  issued : Nat
  applied : Nat
  status : Option SourceGenerationStatus
  issuedAt : Option Int
  appliedAt : Option Int
deriving DecidableEq, Repr

inductive SourceCredentialState | unknown | available | missing | unavailable
deriving DecidableEq, Repr

inductive SourceAuthState | notConfigured | configured | needsReauth
deriving DecidableEq, Repr

inductive SourceErrorCode
  | invalidGrant | scopeMismatch | http4xx | http5xx | network | resourceLimit
  | timeout | degraded | unknown
deriving DecidableEq, Repr

structure SyncRow where
  authState : SourceAuthState
  lastSuccessAt : Option Int
  lastAttemptAt : Option Int
  lastErrorCode : Option SourceErrorCode
  syncCursor : Option String
  updatedAt : Option Int
deriving DecidableEq, Repr

inductive SourceReadOutcome | healthy | partialRead | stale | authError | transportError
deriving DecidableEq, Repr

inductive SourceReadReason
  | bodySnippetFallback | bodyTruncated | degraded | directionMetadataAmbiguous
  | directionMetadataMissing | http4xx | http5xx | identityHeadersAmbiguous
  | invalidGrant | mimeStructureTruncated | network | neverSynced | notConfigured
  | paginationLimit | resourceLimit | scopeMismatch | stale | syncBudgetExhausted
  | threadListEntrySkipped | threadProjectionLimit | threadResponseTooLarge
  | threadWithoutProjectableMessage | timeout | unknown
deriving DecidableEq, Repr

structure SourceReadReasonCount where
  reason : SourceReadReason
  count : Int
deriving DecidableEq, Repr

structure SourceReadDiagnostics where
  outcome : SourceReadOutcome
  requestCount : Int
  pageCount : Int
  projectedCount : Int
  excludedCount : Int
  byteBudget : Int
  reasonCounts : List SourceReadReasonCount
deriving DecidableEq, Repr

inductive CollectorProfile | full | scheduled
deriving DecidableEq, Repr

structure CollectorRow where
  lastCheckAt : Int
  lastConfirmAt : Option Int
deriving DecidableEq, Repr

structure BySource (α : Type) where
  gmail : α
  calendar : α
deriving DecidableEq, Repr

namespace BySource
variable {α : Type}

def get (rows : BySource α) : SourceName → α
  | .gmail => rows.gmail
  | .calendar => rows.calendar

def set (rows : BySource α) (source : SourceName) (value : α) : BySource α :=
  match source with
  | .gmail => {rows with gmail := value}
  | .calendar => {rows with calendar := value}

@[simp] theorem get_set (rows : BySource α) (source other : SourceName) (value : α) :
    (rows.set source value).get other = if other = source then value else rows.get other := by
  cases source <;> cases other <;> rfl

@[simp] theorem set_set (rows : BySource α) (source : SourceName) (first second : α) :
    (rows.set source first).set source second = rows.set source second := by
  cases source <;> rfl

theorem set_comm (rows : BySource α) (source other : SourceName) (first second : α)
    (different : source ≠ other) :
    (rows.set source first).set other second = (rows.set other second).set source first := by
  cases source <;> cases other <;> first | rfl | exact absurd rfl different

end BySource

/-- Failures raised by the modelled store operations, with the data they carry. -/
inductive StoreError
  | situationNotFound (id : Nat)
  | invalidTransition (id : Nat) (state : SituationState) (action : String)
  | deliveryReceipt
  | detectionSourceMismatch (expected actual : SituationType)
  | delayedSourceGeneration (generation : SourceGeneration) (applied : Nat)
  | unreservedSourceGeneration (generation : SourceGeneration)
  | invalidSourceReadDiagnostics
  | integrity (constraint : String)
deriving DecidableEq, Repr

end Proactive.Store
