import Proactive.Situations.Engine

/-! One shared evaluation pass for the daemon and the proactive check. -/
namespace Proactive.Delivery
open Proactive.Library Proactive.Store Proactive.Situations

inductive SourceSkipReason
  | notConfigured | needsReauth | missingCredentials | credentialStorageUnavailable
  | daemonRunning | alreadyFresh | syncInFlight
deriving DecidableEq, Repr

inductive SourceOutcome
  | prepared (inputs : EngineInputs)
  | skipped (reason : SourceSkipReason)
deriving DecidableEq, Repr

/-- Decides and performs the remote reads of one pass, with whatever rows it
writes into a schema that it keeps. -/
structure SourceProvider where
  prepareSources : Pass SourceOutcome
  keepsSchema : prepareSources.Keeps Database.WellFormed

structure EvaluationPass where
  result : EvaluationResult
  sources : SourceOutcome
  warnings : List String
deriving DecidableEq, Repr

def SourceSkipReason.warnings : SourceSkipReason → List String
  | .notConfigured => ["google: sources are not configured; run proactive-mcp setup"]
  | .needsReauth =>
    ["google: authorization is no longer valid; run proactive-mcp setup --reauth"]
  | .missingCredentials => ["google: stored credentials are missing; run proactive-mcp setup"]
  | .credentialStorageUnavailable =>
    ["google: credential storage is unavailable; unlock this session's OS keyring, then run " ++
      "proactive-mcp setup if reads stay skipped"]
  | .syncInFlight => ["google: another read attempt is in flight; read skipped"]
  | .daemonRunning | .alreadyFresh => []

namespace SourceOutcome

def inputs : SourceOutcome → EngineInputs
  | .prepared inputs => inputs
  | .skipped _ => .skipped

def warnings : SourceOutcome → List String
  | .prepared _ => []
  | .skipped reason => reason.warnings

end SourceOutcome

section passes
variable [EvidenceJson]

def runOnce (detectors : Detectors) (provider : SourceProvider) (readings : PassReadings) :
    Pass EvaluationPass := do
  let outcome ← provider.prepareSources
  let result ← evaluate detectors readings outcome.inputs
  return ⟨result,outcome,outcome.warnings ++ result.warnings⟩

theorem evaluate_keeps (detectors : Detectors) (readings : PassReadings) (inputs : EngineInputs) :
    (evaluate detectors readings inputs).Keeps Database.WellFormed := by
  intro db schema
  rw [evaluate_operations]
  exact run_wellFormed db schema _

theorem runOnce_keeps (detectors : Detectors) (provider : SourceProvider) (readings : PassReadings) :
    (runOnce detectors provider readings).Keeps Database.WellFormed := by
  refine Statement.keeps_bind _ _ _ provider.keepsSchema (fun outcome => ?_)
  exact Statement.keeps_bind _ _ _ (evaluate_keeps detectors readings outcome.inputs)
    (fun result => Statement.keeps_pure _ _)

end passes
end Proactive.Delivery
