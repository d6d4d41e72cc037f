import Proactive.Store.Sync

/-! Freshness of persisted source state, and the one-snapshot health read. -/
namespace Proactive.Store

inductive SourceFreshnessStatus | notConfigured | neverSynced | ok | stale | error | needsReauth
deriving DecidableEq, Repr

def SourceFreshnessStatus.text : SourceFreshnessStatus → String
  | .notConfigured => "not_configured"
  | .neverSynced => "never_synced"
  | .ok => "ok"
  | .stale => "stale"
  | .error => "error"
  | .needsReauth => "needs_reauth"

def SourceName.text : SourceName → String
  | .gmail => "gmail"
  | .calendar => "calendar"

structure SourceFreshness where
  status : SourceFreshnessStatus
  lastSuccessAt : Option Int
  lastAttemptAt : Option Int
  ageSeconds : Option Int
  errorCode : Option SourceErrorCode
deriving DecidableEq, Repr

/-- `DEFAULT_STALE_AFTER`, in seconds. -/
def defaultStaleAfter : Int := 24 * 3600

def freshness (state : SyncRow) (status : SourceFreshnessStatus) (ageSeconds : Option Int) :
    SourceFreshness :=
  ⟨status,state.lastSuccessAt,state.lastAttemptAt,ageSeconds,state.lastErrorCode⟩

def evaluateSourceFreshness (state : SyncRow) (now : Int) : SourceFreshness :=
  match state.authState with
  | .notConfigured => freshness state .notConfigured none
  | .needsReauth => freshness state .needsReauth none
  | .configured =>
    if state.lastErrorCode.isSome then freshness state .error none
    else match state.lastSuccessAt with
    | none => freshness state .neverSynced none
    | some lastSuccessAt =>
      let ageSeconds := (now - lastSuccessAt).tdiv second
      freshness state (if defaultStaleAfter ≤ ageSeconds then .stale else .ok) (some ageSeconds)

def gmailReadByteBudget : Int := 8000000

def SourceErrorCode.outcome : SourceErrorCode → SourceReadOutcome
  | .invalidGrant | .scopeMismatch | .http4xx => .authError
  | .resourceLimit | .degraded => .partialRead
  | .http5xx | .network | .timeout | .unknown => .transportError

def SourceErrorCode.reason : SourceErrorCode → SourceReadReason
  | .invalidGrant => .invalidGrant
  | .scopeMismatch => .scopeMismatch
  | .http4xx => .http4xx
  | .http5xx => .http5xx
  | .network => .network
  | .resourceLimit => .resourceLimit
  | .timeout => .timeout
  | .degraded => .degraded
  | .unknown => .unknown

def sourceFailureDiagnostics (errorCode : SourceErrorCode) : SourceReadDiagnostics :=
  ⟨errorCode.outcome,0,0,0,0,gmailReadByteBudget,[⟨errorCode.reason,1⟩]⟩

structure SourceHealthSnapshot where
  gmail : SyncRow
  calendar : SyncRow
  gmailDiagnostics : Option SourceReadDiagnostics
  gmailGeneration : GenerationRow
  calendarGeneration : GenerationRow
  credential : SourceCredentialState
deriving DecidableEq, Repr

def sourceHealthSnapshot (db : Database) : SourceHealthSnapshot where
  gmail := (listSourceSync db).gmail
  calendar := (listSourceSync db).calendar
  gmailDiagnostics := db.gmailDiagnostics
  gmailGeneration := generationState .gmail db
  calendarGeneration := generationState .calendar db
  credential := (db.credential.map Prod.fst).getD .unknown

end Proactive.Store
