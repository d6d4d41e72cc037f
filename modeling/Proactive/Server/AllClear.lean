import Proactive.Server.Check

/-! When an all-clear answer is backed by the source states it reports. -/
namespace Proactive.Server
open Proactive.Library Proactive.Store Proactive.Situations Database

structure Healthy (source : SourceFreshnessResponse) : Prop where
  authorization : source.authorization = .configured
  freshness : source.freshness = .fresh
  read : source.read = .complete
  generation : source.generation.state = .current

def AllClearSound (response : ProactiveCheckResponse) (db : Database) : Prop :=
  response.allClear = true → (∀ row ∈ db.situations, row.state ≠ .pending) ∧
    Healthy response.freshness.gmail ∧ Healthy response.freshness.calendar

/-- What keeps an answer from being all-clear: a pending row, a warning of the
pass, or a source whose freshness status is not ok. -/
def Doubted (now : Int) (raised : List String) (db : Database) : Prop :=
  (∃ row ∈ db.situations, row.state = .pending) ∨ raised ≠ [] ∨
    (evaluateSourceFreshness (sourceHealthSnapshot db).gmail now).status ≠ .ok ∨
    (evaluateSourceFreshness (sourceHealthSnapshot db).calendar now).status ≠ .ok

def GenerationRow.settled (row : GenerationRow) : Prop :=
  row.issued ≤ row.applied ∧ row.status ≠ some .degraded

/-- The source states that an all-clear answer does not look at. -/
structure Backed (health : SourceHealthSnapshot) : Prop where
  credential : health.credential ≠ .missing ∧ health.credential ≠ .unavailable
  diagnostics : ∀ diagnostics, health.gmailDiagnostics = some diagnostics → diagnostics.outcome = .healthy
  gmail : GenerationRow.settled health.gmailGeneration
  calendar : GenerationRow.settled health.calendarGeneration

theorem freshness_ok {state : SyncRow} {now : Int} (ok : (evaluateSourceFreshness state now).status = .ok) :
    state.authState = .configured ∧ ∃ lastSuccessAt, state.lastSuccessAt = some lastSuccessAt ∧
      (now - lastSuccessAt).tdiv second < defaultStaleAfter ∧
      (evaluateSourceFreshness state now).lastSuccessAt = some lastSuccessAt ∧
      (evaluateSourceFreshness state now).errorCode = none := by
  unfold evaluateSourceFreshness at ok ⊢
  cases auth : state.authState with
  | notConfigured => simp [auth,freshness] at ok
  | needsReauth => simp [auth,freshness] at ok
  | configured =>
    cases error : state.lastErrorCode with
    | some code => simp [auth,error,freshness] at ok
    | none =>
      cases last : state.lastSuccessAt with
      | none => simp [auth,error,last,freshness] at ok
      | some lastSuccessAt =>
        simp only [auth,error,last,freshness,Option.isSome_none,Bool.false_eq_true,if_false] at ok ⊢
        refine ⟨trivial,lastSuccessAt,rfl,?_,rfl,trivial⟩
        by_contra old
        rw [if_pos (not_lt.mp old)] at ok
        cases ok

theorem dataFreshnessState_ok {state : SyncRow} {now : Int}
    (ok : (evaluateSourceFreshness state now).status = .ok) :
    dataFreshnessState (evaluateSourceFreshness state now) now = .fresh := by
  obtain ⟨_,lastSuccessAt,_,recent,last,_⟩ := freshness_ok ok
  have young : ¬defaultStaleAfter * second ≤ now - lastSuccessAt := by
    intro old
    have nonneg : 0 ≤ now - lastSuccessAt := le_trans (by decide) old
    rw [Int.tdiv_eq_ediv_of_nonneg nonneg] at recent
    have least := Int.ediv_le_ediv (by decide : (0 : Int) < second) old
    rw [Int.mul_ediv_cancel _ (by decide : second ≠ 0)] at least
    omega
  unfold dataFreshnessState
  rw [last]
  dsimp only
  rw [if_neg young,if_neg (by rw [ok]; decide)]

theorem generationResponse_current (row : GenerationRow) (now : Int) :
    (generationResponse row now).state = .current ↔ GenerationRow.settled row := by
  unfold generationResponse GenerationRow.settled
  dsimp only
  by_cases ahead : row.applied < row.issued
  · rw [if_pos ahead]
    have unsettled : ¬row.issued ≤ row.applied := Nat.not_le.mpr ahead
    cases row.issuedAt with
    | none => simp [unsettled]
    | some issuedAt =>
      dsimp only
      split <;> simp [unsettled]
  · rw [if_neg ahead]
    by_cases degraded : row.status = some .degraded
    · simp [degraded]
    · simp [degraded,Nat.not_lt.mp ahead]

/-- A source of status ok is healthy exactly when no override hides its
authorization, its read is complete and its generation is settled. -/
theorem freshnessResponse_healthy {state : SyncRow} {generation : GenerationRow} {now : Int}
    {read : SourceReadState} {override : Option SourceAuthorizationState}
    (ok : (evaluateSourceFreshness state now).status = .ok)
    (foreign : override ≠ some .configured) :
    Healthy (freshnessResponse (evaluateSourceFreshness state now) state generation now read override) ↔
      override = none ∧ read = .complete ∧ GenerationRow.settled generation := by
  obtain ⟨auth,_,_,_,_,clean⟩ := freshness_ok ok
  have configured : authorizationState (evaluateSourceFreshness state now) state = .configured := by
    unfold authorizationState
    rw [clean,if_neg (by decide),auth]
  constructor
  · intro healthy
    refine ⟨?_,healthy.read,(generationResponse_current generation now).mp healthy.generation⟩
    cases shown : override with
    | none => rfl
    | some hidden =>
      have same := healthy.authorization
      rw [shown] at same foreign
      exact absurd (congrArg some same) foreign
  · rintro ⟨rfl,complete,settled⟩
    exact ⟨configured,dataFreshnessState_ok ok,complete,
      (generationResponse_current generation now).mpr settled⟩

theorem eraseDups_eq_nil (warnings : List String) : warnings.eraseDups = [] ↔ warnings = [] := by
  cases warnings with
  | nil => simp
  | cons warning rest => simp [List.eraseDups_cons]

theorem freshnessWarning_eq_nil (source : SourceName) (freshness : SourceFreshness) :
    freshnessWarning source freshness = [] ↔ freshness.status = .ok := by
  unfold freshnessWarning
  split <;> simp_all

theorem checkResponse_allClear (reservation : DeliveryReservation) (pending : Nat)
    (health : SourceHealthSnapshot) (budget : AttentionPolicy.BudgetUsage) (now : Int)
    (raised : List String) :
    (checkResponse reservation pending health budget now raised).allClear = true ↔
      reservation.situations = [] ∧ pending = 0 ∧ raised = [] ∧
      (evaluateSourceFreshness health.gmail now).status = .ok ∧
      (evaluateSourceFreshness health.calendar now).status = .ok := by
  simp only [checkResponse,Bool.and_eq_true,List.isEmpty_iff,beq_iff_eq,eraseDups_eq_nil,
    List.append_eq_nil_iff,freshnessWarning_eq_nil]
  constructor
  · rintro ⟨⟨empty,held⟩,quiet⟩
    rw [empty] at held
    exact ⟨empty,held,quiet⟩
  · rintro ⟨empty,none,quiet⟩
    rw [empty,none]
    exact ⟨⟨rfl,rfl⟩,quiet⟩

theorem authorizationOverride_none (credential : SourceCredentialState) :
    authorizationOverride credential = none ↔ credential ≠ .missing ∧ credential ≠ .unavailable := by
  cases credential <;> simp [authorizationOverride]

theorem diagnosticReadState_complete (outcome : SourceReadOutcome) :
    diagnosticReadState outcome = .complete ↔ outcome = .healthy := by
  cases outcome <;> simp [diagnosticReadState]

/-- An all-clear answer over one snapshot reports healthy sources exactly when
the snapshot backs it. -/
theorem googleFreshnessResponse_healthy {health : SourceHealthSnapshot} {now : Int}
    (gmail : (evaluateSourceFreshness health.gmail now).status = .ok)
    (calendar : (evaluateSourceFreshness health.calendar now).status = .ok) :
    (Healthy (googleFreshnessResponse (evaluateSourceFreshness health.gmail now)
        (evaluateSourceFreshness health.calendar now) health now
        (authorizationOverride health.credential)).gmail ∧
      Healthy (googleFreshnessResponse (evaluateSourceFreshness health.gmail now)
        (evaluateSourceFreshness health.calendar now) health now
        (authorizationOverride health.credential)).calendar) ↔ Backed health := by
  have foreign : authorizationOverride health.credential ≠ some .configured := by
    cases health.credential <;> simp [authorizationOverride]
  obtain ⟨_,_,_,_,_,gmailClean⟩ := freshness_ok gmail
  obtain ⟨_,_,_,_,succeeded,calendarClean⟩ := freshness_ok calendar
  have complete : readState (evaluateSourceFreshness health.calendar now) = .complete := by
    unfold readState
    rw [calendarClean,succeeded]
    rfl
  have derived : (gmailFreshnessDiagnostics (evaluateSourceFreshness health.gmail now)).outcome = .healthy := by
    rw [gmailFreshnessDiagnostics,gmail]
    rfl
  unfold googleFreshnessResponse
  dsimp only
  rw [freshnessResponse_healthy gmail foreign,freshnessResponse_healthy calendar foreign,gmailClean,
    Option.isSome_none,if_neg (by decide),authorizationOverride_none,diagnosticReadState_complete]
  constructor
  · rintro ⟨⟨credential,read,settled⟩,_,_,settled'⟩
    refine ⟨credential,?_,settled,settled'⟩
    intro diagnostics stored
    rwa [stored] at read
  · intro backed
    refine ⟨⟨backed.credential,?_,backed.gmail⟩,backed.credential,complete,backed.calendar⟩
    cases stored : health.gmailDiagnostics with
    | none => exact derived
    | some diagnostics => exact backed.diagnostics diagnostics stored

/-- One check, with everything it reads from outside the store. -/
structure Check where
  service : SituationToolDependencies
  readings : CheckReadings
  profile : CollectorProfile
  claimToken : String

section checks
variable [EvidenceJson]

def Check.run (check : Check) : Pass ProactiveCheckResponse :=
  proactiveCheck check.service check.readings check.profile check.claimToken

def checkStep (db : Database) (check : Check) : Database := (check.run.run db).2

/-- After any checks from any store, the answer of one more check is all-clear
without backing only when nothing it looks at raises a doubt and one of the
states it does not look at is unhealthy. -/
theorem all_clear_sound_iff (start : Database) (schema : start.WellFormed) (checks : List Check)
    (check : Check) (response : ProactiveCheckResponse) (left : Database)
    (ok : check.run.run (Run.run checkStep start checks) = (.ok response,left)) :
    ∃ raised evaluated, (coalesce check.service check.readings).run (Run.run checkStep start checks) =
        (.ok raised,evaluated) ∧
      (AllClearSound response left ↔
        Doubted check.readings.now raised evaluated ∨ Backed (sourceHealthSnapshot evaluated)) := by
  have reached : (Run.run checkStep start checks).WellFormed :=
    Run.run_invariant checkStep WellFormed (fun db check => proactiveCheck_keeps _ _ _ _ db)
      start checks schema
  obtain ⟨raised,evaluated,coalesced,ok⟩ := Statement.bind_success _ _ _ _ _ ok
  have kept : evaluated.WellFormed := by
    have keeps := coalesce_keeps check.service check.readings _ reached
    rwa [coalesced] at keeps
  obtain ⟨reservation,leased,budget,reserved,rfl,situations,_⟩ :=
    respond_success _ _ _ _ _ _ _ _ kept ok
  obtain ⟨_,_,page,_⟩ := reserveForDelivery_success _ _ _ _ _ _ kept reserved
  refine ⟨raised,evaluated,coalesced,?_⟩
  have counted : countSituations (some .pending) evaluated = 0 ↔
      ∀ row ∈ evaluated.situations, row.state ≠ .pending := by
    simp [countSituations]
  unfold AllClearSound
  rw [checkResponse_allClear,situations,counted]
  constructor
  · intro sound
    by_cases doubted : Doubted check.readings.now raised evaluated
    · exact Or.inl doubted
    · right
      unfold Doubted at doubted
      push Not at doubted
      obtain ⟨waiting,quiet,gmail,calendar⟩ := doubted
      have empty : reservation.situations = [] := by
        apply List.eq_nil_iff_forall_not_mem.mpr
        intro row member
        obtain ⟨present,pending⟩ := pendingForDelivery_mem (page.subset member)
        exact waiting row present pending
      obtain ⟨_,healthy⟩ := sound ⟨empty,waiting,quiet,gmail,calendar⟩
      exact (googleFreshnessResponse_healthy gmail calendar).mp healthy
  · rintro (doubted | backed) ⟨_,waiting,quiet,gmail,calendar⟩
    · rcases doubted with ⟨row,present,pending⟩ | raised | unhealthy | unhealthy
      · exact absurd pending (waiting row present)
      · exact absurd quiet raised
      · exact absurd gmail unhealthy
      · exact absurd calendar unhealthy
    · exact ⟨waiting,(googleFreshnessResponse_healthy gmail calendar).mpr backed⟩

end checks

/-- Both sources synchronized a minute ago, and the watcher's last poll found
the credential storage locked. -/
def lockedStore : Database :=
  ((do
    setGoogleAuthState .configured 0
    recordSyncSuccess .gmail none 0
    recordSyncSuccess .calendar none 0
    recordCredentialState .unavailable second : Sql Unit).run Database.empty).2

def watchedCheck (now : Int) : Check where
  service := watchedService
  readings := ⟨now,now,⟨now,now,now,now,⟨now,now,now⟩,⟨now,now,now⟩⟩,now,now⟩
  profile := .full
  claimToken := "token"

theorem lockedStore_wellFormed : lockedStore.WellFormed := {empty_wellFormed with}

theorem lockedStore_sound_iff : ∃ response left raised evaluated,
    ((@Check.run EvidenceJson.compact (watchedCheck (60 * second))).run lockedStore) = (.ok response,left) ∧
      (AllClearSound response left ↔
        Doubted (60 * second) raised evaluated ∨ Backed (sourceHealthSnapshot evaluated)) := by
  have answered : (((@Check.run EvidenceJson.compact (watchedCheck (60 * second))).run
      lockedStore).1.toOption.any (fun _ => true)) = true := by decide +kernel
  obtain ⟨response,left,ran,_⟩ := Statement.run_ok_of_any answered
  obtain ⟨raised,evaluated,_,sound⟩ := @all_clear_sound_iff EvidenceJson.compact lockedStore
    lockedStore_wellFormed [] (watchedCheck (60 * second)) response left ran
  exact ⟨response,left,raised,evaluated,ran,sound⟩

theorem lockedStore_unsound : ∃ response left,
    ((@Check.run EvidenceJson.compact (watchedCheck (60 * second))).run lockedStore) = (.ok response,left) ∧
      ¬AllClearSound response left := by
  have answered : (((@Check.run EvidenceJson.compact (watchedCheck (60 * second))).run
      lockedStore).1.toOption.any (fun response => response.allClear &&
        response.freshness.gmail.authorization == .credentialUnavailable)) = true := by decide +kernel
  obtain ⟨response,left,ran,shown⟩ := Statement.run_ok_of_any answered
  rw [Bool.and_eq_true,beq_iff_eq] at shown
  refine ⟨response,left,ran,fun sound => ?_⟩
  have configured := (sound shown.1).2.1.authorization
  rw [shown.2] at configured
  cases configured

end Proactive.Server
