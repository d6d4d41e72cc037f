import Proactive.Situations.Policy
import Proactive.Store.Freshness

/-! Serialized responses of the situation delivery tools. Instants stay
microseconds where the wire format spells them as ISO timestamps. -/
namespace Proactive.Server
open Proactive.Store Proactive.Situations

inductive SourceAuthorizationState
  | notConfigured | configured | needsReauth | scopeMismatch | credentialMissing | credentialUnavailable
deriving DecidableEq, Repr

inductive SourceDataFreshnessState | neverSynced | fresh | stale
deriving DecidableEq, Repr

inductive SourceReadState
  | neverAttempted | complete | partialRead | authError | transportError | resourceError | parseError
deriving DecidableEq, Repr

inductive SourceGenerationProjectionState | current | syncing | degraded | interrupted
deriving DecidableEq, Repr

inductive SituationDeliveryState | available | leased | hostConfirmed | notApplicable
deriving DecidableEq, Repr

def generationInterruptedAfter : Int := 600 * second

structure SourceGenerationResponse where
  state : SourceGenerationProjectionState
  issued : Nat
  applied : Nat
  appliedStatus : Option SourceGenerationStatus
  issuedAt : Option Int
deriving DecidableEq, Repr

structure SourceFreshnessResponse where
  status : SourceFreshnessStatus
  lastSuccessAt : Option Int
  lastAttemptAt : Option Int
  ageSeconds : Option Int
  errorCode : Option SourceErrorCode
  authorization : SourceAuthorizationState
  freshness : SourceDataFreshnessState
  read : SourceReadState
  generation : SourceGenerationResponse
deriving DecidableEq, Repr

structure GoogleFreshnessResponse where
  gmail : SourceFreshnessResponse
  gmailDiagnostics : SourceReadDiagnostics
  calendar : SourceFreshnessResponse
deriving DecidableEq, Repr

/-- One stored situation; the trust notices of its quotes are constants. -/
structure SituationResponse where
  id : Nat
  situationType : SituationType
  sourceName : SituationSource
  sourceGeneration : Option Nat
  state : SituationState
  deliveryState : SituationDeliveryState
  leaseExpiresAt : Option Int
  priority : SituationPriority
  title : String
  whyNow : String
  detectedAt : Int
  deliveredAt : Option Int
  snoozedUntil : Option Int
  expiresAt : Option Int
  evidence : SituationEvidence
deriving DecidableEq, Repr

/-- The constant fields (protocol version, confirmation directive) are left out. -/
structure ProactiveCheckResponse where
  requiresConfirmation : Bool
  situations : List SituationResponse
  receiptToken : Option String
  freshness : GoogleFreshnessResponse
  budget : AttentionPolicy.BudgetUsage
  heldCount : Nat
  warnings : List String
  allClear : Bool
deriving DecidableEq, Repr

def situationDeliveryState (situation : Situation) (leaseExpiresAt : Option Int) : SituationDeliveryState :=
  if situation.state = .pending then
    if leaseExpiresAt.isSome then .leased else .available
  else if (situation.state = .delivered ∨ situation.state = .acknowledged ∨ situation.state = .snoozed) ∧
      situation.deliveredAt.isSome then .hostConfirmed
  else .notApplicable

def situationResponse (situation : Situation) (leaseExpiresAt : Option Int) : SituationResponse where
  id := situation.id
  situationType := situation.situationType
  sourceName := situation.sourceName
  sourceGeneration := situation.sourceGeneration
  state := situation.state
  deliveryState := situationDeliveryState situation leaseExpiresAt
  leaseExpiresAt := leaseExpiresAt
  priority := situation.priority
  title := situation.title
  whyNow := situation.whyNow
  detectedAt := situation.detectedAt
  deliveredAt := situation.deliveredAt
  snoozedUntil := situation.snoozedUntil
  expiresAt := situation.expiresAt
  evidence := situation.evidence

def authorizationState (freshness : SourceFreshness) (state : SyncRow) : SourceAuthorizationState :=
  if freshness.errorCode = some .scopeMismatch then .scopeMismatch
  else match state.authState with
  | .notConfigured => .notConfigured
  | .configured => .configured
  | .needsReauth => .needsReauth

def dataFreshnessState (freshness : SourceFreshness) (now : Int) : SourceDataFreshnessState :=
  match freshness.lastSuccessAt with
  | none => .neverSynced
  | some lastSuccessAt =>
    if defaultStaleAfter * second ≤ now - lastSuccessAt then .stale
    else if freshness.status = .stale then .stale
    else .fresh

def readState (freshness : SourceFreshness) : SourceReadState :=
  match freshness.errorCode with
  | none => if freshness.lastSuccessAt.isSome then .complete else .neverAttempted
  | some .invalidGrant | some .scopeMismatch | some .http4xx => .authError
  | some .resourceLimit => .resourceError
  | some .degraded => .partialRead
  | some _ => .transportError

def diagnosticReadState : SourceReadOutcome → SourceReadState
  | .healthy => .complete
  | .partialRead => .partialRead
  | .stale => .neverAttempted
  | .authError => .authError
  | .transportError => .transportError

def generationResponse (generation : GenerationRow) (now : Int) : SourceGenerationResponse where
  state :=
    if generation.applied < generation.issued then
      match generation.issuedAt with
      | none => .interrupted
      | some issuedAt => if generationInterruptedAfter < now - issuedAt then .interrupted else .syncing
    else if generation.status = some .degraded then .degraded
    else .current
  issued := generation.issued
  applied := generation.applied
  appliedStatus := generation.status
  issuedAt := generation.issuedAt

def statusDiagnostics (outcome : SourceReadOutcome) (reasons : List SourceReadReason) :
    SourceReadDiagnostics :=
  ⟨outcome,0,0,0,0,gmailReadByteBudget,reasons.map (fun reason => ⟨reason,1⟩)⟩

def gmailFreshnessDiagnostics (freshness : SourceFreshness) : SourceReadDiagnostics :=
  match freshness.status with
  | .ok => statusDiagnostics .healthy []
  | .stale => statusDiagnostics .stale [.stale]
  | .notConfigured => statusDiagnostics .stale [.notConfigured]
  | .neverSynced => statusDiagnostics .stale [.neverSynced]
  | .needsReauth => statusDiagnostics .authError [(freshness.errorCode.getD .invalidGrant).reason]
  | .error => sourceFailureDiagnostics (freshness.errorCode.getD .unknown)

def freshnessResponse (freshness : SourceFreshness) (syncState : SyncRow) (generation : GenerationRow)
    (now : Int) (read : SourceReadState) (authorizationOverride : Option SourceAuthorizationState) :
    SourceFreshnessResponse where
  status := freshness.status
  lastSuccessAt := freshness.lastSuccessAt
  lastAttemptAt := freshness.lastAttemptAt
  ageSeconds := freshness.ageSeconds
  errorCode := freshness.errorCode
  authorization := authorizationOverride.getD (authorizationState freshness syncState)
  freshness := dataFreshnessState freshness now
  read := read
  generation := generationResponse generation now

def googleFreshnessResponse (gmail calendar : SourceFreshness) (health : SourceHealthSnapshot)
    (now : Int) (authorizationOverride : Option SourceAuthorizationState) : GoogleFreshnessResponse :=
  let diagnostics := health.gmailDiagnostics.getD (gmailFreshnessDiagnostics gmail)
  let gmailRead := if gmail.errorCode.isSome then readState gmail else diagnosticReadState diagnostics.outcome
  {gmail := freshnessResponse gmail health.gmail health.gmailGeneration now gmailRead authorizationOverride
   gmailDiagnostics := diagnostics
   calendar := freshnessResponse calendar health.calendar health.calendarGeneration now
    (readState calendar) authorizationOverride}

end Proactive.Server
