import Proactive.Delivery.Evaluation
import Proactive.Server.Responses

/-! The proactive check: evaluate, lease what the attention policy allows, and
report what is held. -/
namespace Proactive.Server
open Proactive.Library Proactive.Store Proactive.Situations Proactive.Delivery Database

/-- Reserve the current evaluation interval once across all processes. -/
def tryStartEvaluation (minimumInterval now : Int) : Sql Bool :=
  Statement.immediate (do
    let gate ← Statement.select Database.evaluationGate
    if gate.all (fun lastStartedAt => lastStartedAt ≤ now - minimumInterval) then
      Statement.update (fun db => {db with evaluationGate := some now})
      return true
    else return false)

def observed (timestamp : Int) : Option CollectorRow → CollectorRow
  | none => ⟨timestamp,none⟩
  | some row => {row with lastCheckAt := max row.lastCheckAt timestamp}

def recordCheck (profile : CollectorProfile) (timestamp : Int) : Sql Unit :=
  Statement.update (fun db =>
    match profile with
    | .full => {db with fullCollector := some (observed timestamp db.fullCollector)}
    | .scheduled => {db with scheduledCollector := some (observed timestamp db.scheduledCollector)})

theorem recordCheck_run (profile : CollectorProfile) (timestamp : Int) (db : Database)
    (schema : db.WellFormed) :
    ((recordCheck profile timestamp).run db).2.situations = db.situations ∧
      ((recordCheck profile timestamp).run db).2.claims = db.claims ∧
      ((recordCheck profile timestamp).run db).2.receipts = db.receipts ∧
      ((recordCheck profile timestamp).run db).2.WellFormed := by
  cases profile <;> exact ⟨rfl,rfl,rfl,{schema with}⟩

def minEvaluationInterval : Int := 5 * second

structure SituationToolDependencies where
  attention : AttentionPolicy
  detectors : Detectors
  provider : SourceProvider

/-- The clock readings of one check, in the order it makes them. -/
structure CheckReadings where
  now : Int
  gateAt : Int
  pass : PassReadings
  credentialAt : Int
  checkedAt : Int
deriving DecidableEq, Repr

def startsWith (start text : String) : Bool := start.toList.isPrefixOf text.toList

/-- The warnings of a pass that name no source: those are derived again from the
snapshot that follows the pass. -/
def evaluationWarnings (completed : EvaluationPass) : List String :=
  completed.warnings.filter (fun warning => !(startsWith "gmail:" warning || startsWith "calendar:" warning))

def recordSkipped (sources : SourceOutcome) (now : Int) : Sql Unit :=
  match sources with
  | .skipped .credentialStorageUnavailable => recordCredentialState .unavailable now
  | .skipped .missingCredentials => recordCredentialState .missing now
  | _ => return ()

def authorizationOverride : SourceCredentialState → Option SourceAuthorizationState
  | .unavailable => some .credentialUnavailable
  | .missing => some .credentialMissing
  | .unknown | .available => none

def checkResponse (reservation : DeliveryReservation) (pending : Nat) (health : SourceHealthSnapshot)
    (budget : AttentionPolicy.BudgetUsage) (now : Int) (raised : List String) : ProactiveCheckResponse :=
  let claimed := reservation.situations
  let heldCount := pending - claimed.length
  let receiptToken := if claimed.isEmpty then none else some reservation.claimToken
  let gmail := evaluateSourceFreshness health.gmail now
  let calendar := evaluateSourceFreshness health.calendar now
  let warnings := (raised ++ (freshnessWarning .gmail gmail ++ freshnessWarning .calendar calendar)).eraseDups
  {requiresConfirmation := !claimed.isEmpty && receiptToken.isSome
   situations := claimed.map (fun item => situationResponse item (some reservation.expiresAt))
   receiptToken := receiptToken
   freshness := googleFreshnessResponse gmail calendar health now (authorizationOverride health.credential)
   budget := budget
   heldCount := heldCount
   warnings := warnings
   allClear := claimed.isEmpty && heldCount == 0 && warnings.isEmpty}

def respond (attention : AttentionPolicy) (readings : CheckReadings) (profile : CollectorProfile)
    (claimToken : String) (raised : List String) : Pass ProactiveCheckResponse := do
  let reservation ← stored (attention.reserveForDelivery readings.now claimToken)
  let pending ← Statement.select (countSituations (some .pending))
  let health ← Statement.select sourceHealthSnapshot
  let budget ← Statement.select (attention.budgetUsage readings.now)
  stored (recordCheck profile readings.checkedAt)
  return checkResponse reservation pending health budget readings.now raised

/-- An answer follows one reservation; nothing it reads changes after that. -/
theorem respond_success (attention : AttentionPolicy) (readings : CheckReadings)
    (profile : CollectorProfile) (claimToken : String) (raised : List String) (db left : Database)
    (response : ProactiveCheckResponse) (schema : db.WellFormed)
    (ok : (respond attention readings profile claimToken raised).run db = (.ok response,left)) :
    ∃ reservation leased budget,
      (attention.reserveForDelivery readings.now claimToken).run db = (.ok reservation,leased) ∧
      response = checkResponse reservation (countSituations (some .pending) db)
        (sourceHealthSnapshot db) budget readings.now raised ∧
      left.situations = db.situations ∧ left.claims = leased.claims ∧ left.receipts = leased.receipts ∧
      left.WellFormed := by
  unfold respond at ok
  obtain ⟨reservation,leased,reserved,ok⟩ := Statement.bind_success _ _ _ _ _ ok
  have ran := (stored_success _ _ _ _).mp reserved
  obtain ⟨_,_,_,ordered,same,_⟩ := reserveForDelivery_success _ _ _ _ _ _ schema ran
  have kept : leased.WellFormed := by
    rw [same]
    exact ordered.wellFormed _ _ _ _ (schema.expire _)
  simp only [Statement.run_select_bind] at ok
  obtain ⟨_,checked,recorded,ok⟩ := Statement.bind_success _ _ _ _ _ ok
  have written := (stored_success _ _ _ _).mp recorded
  obtain ⟨rfl,rfl⟩ := Statement.pure_success _ _ _ _ ok
  obtain ⟨situations,claims,receipts,whole⟩ := recordCheck_run profile readings.checkedAt leased kept
  rw [written] at situations claims receipts whole
  have counted : countSituations (some .pending) leased = countSituations (some .pending) db := by
    rw [same]
    rfl
  have snapshot : sourceHealthSnapshot leased = sourceHealthSnapshot db := by
    rw [same]
    rfl
  rw [counted,snapshot]
  exact ⟨reservation,leased,attention.budgetUsage readings.now leased,ran,rfl,
    situations.trans (by rw [same]; rfl),claims,receipts,whole⟩

theorem tryStartEvaluation_keeps (minimumInterval now : Int) :
    (tryStartEvaluation minimumInterval now).Keeps WellFormed := by
  refine Statement.keeps_immediate _ _ (Statement.keeps_bind _ _ _ (Statement.keeps_select _ _) ?_)
  intro gate
  split
  · exact Statement.keeps_bind _ _ _ (Statement.keeps_update _ _ (fun _ schema => {schema with}))
      (fun _ => Statement.keeps_pure _ _)
  · exact Statement.keeps_pure _ _

theorem recordSkipped_keeps (sources : SourceOutcome) (now : Int) :
    (recordSkipped sources now).Keeps WellFormed := by
  unfold recordSkipped
  split
  · exact Statement.keeps_update _ _ (fun _ schema => {schema with})
  · exact Statement.keeps_update _ _ (fun _ schema => {schema with})
  · exact Statement.keeps_pure _ _

section checks
variable [EvidenceJson]

/-- Run the shared pass, or coalesce onto one that started in the last seconds. -/
def coalesce (service : SituationToolDependencies) (readings : CheckReadings) : Pass (List String) := do
  let started ← stored (tryStartEvaluation minEvaluationInterval readings.gateAt)
  if started then
    let completed ← runOnce service.detectors service.provider readings.pass
    stored (recordSkipped completed.sources readings.credentialAt)
    return evaluationWarnings completed
  else return []

def proactiveCheck (service : SituationToolDependencies) (readings : CheckReadings)
    (profile : CollectorProfile) (claimToken : String) : Pass ProactiveCheckResponse := do
  let raised ← coalesce service readings
  respond service.attention readings profile claimToken raised

theorem coalesce_keeps (service : SituationToolDependencies) (readings : CheckReadings) :
    (coalesce service readings).Keeps WellFormed := by
  refine Statement.keeps_bind _ _ _ (stored_keeps _ _ (tryStartEvaluation_keeps _ _)) ?_
  intro started
  split
  · refine Statement.keeps_bind _ _ _ (runOnce_keeps _ _ _) (fun completed => ?_)
    exact Statement.keeps_bind _ _ _ (stored_keeps _ _ (recordSkipped_keeps _ _))
      (fun _ => Statement.keeps_pure _ _)
  · exact Statement.keeps_pure _ _

theorem respond_keeps (attention : AttentionPolicy) (readings : CheckReadings)
    (profile : CollectorProfile) (claimToken : String) (raised : List String) :
    (respond attention readings profile claimToken raised).Keeps WellFormed := by
  have reserved : (attention.reserveForDelivery readings.now claimToken).Keeps WellFormed :=
    fun db schema => step_wellFormed db (.reserveForDelivery (attention.deliveryClaim readings.now)
      claimToken (readings.now + AttentionPolicy.deliveryClaimLease)) schema
  have recorded : (recordCheck profile readings.checkedAt).Keeps WellFormed :=
    fun db schema => (recordCheck_run profile readings.checkedAt db schema).2.2.2
  refine Statement.keeps_bind _ _ _ (stored_keeps _ _ reserved) (fun reservation => ?_)
  refine Statement.keeps_bind _ _ _ (Statement.keeps_select _ _) (fun pending => ?_)
  refine Statement.keeps_bind _ _ _ (Statement.keeps_select _ _) (fun health => ?_)
  refine Statement.keeps_bind _ _ _ (Statement.keeps_select _ _) (fun budget => ?_)
  exact Statement.keeps_bind _ _ _ (stored_keeps _ _ recorded) (fun _ => Statement.keeps_pure _ _)

theorem proactiveCheck_keeps (service : SituationToolDependencies) (readings : CheckReadings)
    (profile : CollectorProfile) (claimToken : String) :
    (proactiveCheck service readings profile claimToken).Keeps WellFormed :=
  Statement.keeps_bind _ _ _ (coalesce_keeps service readings)
    (fun raised => respond_keeps _ _ _ _ raised)

end checks

def budgetFour : AttentionPolicy := ⟨⟨0,0,4,day⟩,.utc⟩

def watchedService : SituationToolDependencies :=
  ⟨budgetFour,silentDetectors,⟨pure (.skipped .daemonRunning),Statement.keeps_pure _ _⟩⟩

end Proactive.Server
