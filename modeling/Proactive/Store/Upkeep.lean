import Proactive.Store.Lifecycle

/-! Facts about situation and delivery rows that no operation breaks unless it
delivers or snoozes. -/
namespace Proactive.Store
open Proactive.Library Database

/-- What an operation that neither detects, delivers nor snoozes writes over a row. -/
inductive Settles : Situation → Situation → Prop
  | resolved (row : Situation) (timestamp : Int) (active : row.active = true) :
    Settles row (row.resolved timestamp)
  | lapsed (row : Situation) (timestamp : Int) (active : row.active = true) :
    Settles row (row.lapsed timestamp)
  | woken (row : Situation) (timestamp : Int) (snoozed : row.state = .snoozed) :
    Settles row (row.woken timestamp)
  | acknowledged (row : Situation) (timestamp : Int) (delivered : row.state = .delivered) :
    Settles row (row.acknowledged timestamp)
  | muted (row : Situation) (timestamp : Int) (delivered : row.state = .delivered) :
    Settles row (row.muted timestamp)

/-- A fact about the two tables that survives one detection and every settling. -/
structure Upkeep [EvidenceJson] (holds : List Situation → List Delivery → Prop) : Prop where
  upserted : ∀ detection timestamp source generation,
    (upsertDetection detection timestamp source generation).Keeps
      (fun db => holds db.situations db.deliveries)
  settled : ∀ rows deliveries selects change,
    (∀ row ∈ rows, selects row = true → Settles row (change row)) →
      holds rows deliveries → holds (Table.updateWhere selects change rows) deliveries

def Operation.announces : Operation → Bool
  | .markDelivered .. | .claimForDelivery .. | .confirmDelivery .. | .snoozeSituation .. => true
  | _ => false

theorem acceptSourceGeneration_keeps {holds : List Situation → List Delivery → Prop}
    (generation : SourceGeneration) (status : SourceGenerationStatus)
    (diagnostics : Option SourceReadDiagnostics) (now : Int) :
    (acceptSourceGeneration generation status diagnostics now).Keeps
      (fun db => holds db.situations db.deliveries) := by
  have checked : (checkDiagnostics generation.source diagnostics).Keeps
      (fun db => holds db.situations db.deliveries) := by
    intro db kept
    rw [checkDiagnostics_run]
    exact kept
  refine Statement.keeps_bind _ _ _ checked (fun _ => ?_)
  refine Statement.keeps_bind _ _ _ ?_ (fun _ => ?_)
  · refine Statement.keeps_bind _ _ _ (Statement.keeps_select _ _) (fun updated => ?_)
    split
    · exact Statement.keeps_update _ _ (fun _ kept => kept)
    · refine Statement.keeps_bind _ _ _ (Statement.keeps_select _ _) (fun state => ?_)
      split <;> exact Statement.keeps_raise _ _
  · cases diagnostics with
    | none => exact Statement.keeps_pure _ _
    | some diagnostics => exact Statement.keeps_update _ _ (fun _ kept => kept)

section upkeep
variable [EvidenceJson] {holds : List Situation → List Delivery → Prop}

theorem Upkeep.upsertEach (upkeep : Upkeep holds) (timestamp : Int) (expected : Option SituationType)
    (source : SituationSource) (generation : Option Nat) (summary : DetectionUpsertSummary)
    (rest : List Detection) :
    (upsertEach timestamp expected source generation summary rest).Keeps
      (fun db => holds db.situations db.deliveries) := by
  induction rest generalizing summary with
  | nil => exact Statement.keeps_pure _ _
  | cons detection rest ih =>
    unfold Store.upsertEach
    split
    · exact Statement.keeps_raise _ _
    · exact Statement.keeps_bind _ _ _ (upkeep.upserted _ _ _ _) (fun outcome => ih _)

theorem Upkeep.resolveRows (upkeep : Upkeep holds) (passes : Situation → Bool) (timestamp : Int)
    (resolved : Nat) (rows : List Situation) :
    (resolveRows passes timestamp resolved rows).Keeps (fun db => holds db.situations db.deliveries) := by
  induction rows generalizing resolved with
  | nil => exact Statement.keeps_pure _ _
  | cons row rest ih =>
    unfold Store.resolveRows
    split
    · exact ih _
    · refine Statement.keeps_bind _ _ _ (fun db kept => ?_) (fun count => ih _)
      rw [run_updateSituations]
      refine upkeep.settled _ _ _ _ (fun stored _ hit => ?_) kept
      rw [Bool.and_eq_true] at hit
      exact .resolved stored timestamp hit.2

theorem Upkeep.resolve (upkeep : Upkeep holds) (situationType : SituationType)
    (presentKeys : List String) (timestamp : Int) (sourceName : Option SituationSource) :
    (resolve situationType presentKeys timestamp sourceName).Keeps
      (fun db => holds db.situations db.deliveries) :=
  Statement.keeps_bind _ _ _ (Statement.keeps_select _ _) (fun _ => upkeep.resolveRows _ _ _ _)

theorem Upkeep.resolveRead (upkeep : Upkeep holds) (application : SourceApplication) (timestamp : Int) :
    (application.resolveRead timestamp).Keeps (fun db => holds db.situations db.deliveries) := by
  unfold SourceApplication.resolveRead
  split
  · exact upkeep.resolve _ _ _ _
  split
  · exact Statement.keeps_bind _ _ _ (Statement.keeps_select _ _) (fun _ => upkeep.resolveRows _ _ _ _)
  split
  · exact Statement.keeps_bind _ _ _ (Statement.keeps_select _ _) (fun _ => upkeep.resolveRows _ _ _ _)
  · exact Statement.keeps_pure _ _

theorem Upkeep.applySourceGeneration (upkeep : Upkeep holds) (application : SourceApplication)
    (clock : Readings) :
    (applySourceGeneration application clock).Keeps (fun db => holds db.situations db.deliveries) := by
  refine Statement.keeps_immediate _ _ ?_
  refine Statement.keeps_bind _ _ _ (acceptSourceGeneration_keeps _ _ _ _) (fun _ => ?_)
  refine Statement.keeps_bind _ _ _ (upkeep.upsertEach _ _ _ _ _ _) (fun summary => ?_)
  refine Statement.keeps_bind _ _ _ (upkeep.resolveRead _ _) (fun resolved => ?_)
  refine Statement.keeps_bind _ _ _ (fun db kept => ?_) (fun _ => Statement.keeps_pure _ _)
  obtain ⟨rows,ran⟩ := recordSync_run application clock.recordedAt db
  rw [ran]
  exact kept

theorem Upkeep.applyLocalDetections (upkeep : Upkeep holds) (detections : List Detection)
    (timestamp : Int) :
    (applyLocalDetections detections timestamp).Keeps (fun db => holds db.situations db.deliveries) := by
  refine Statement.keeps_immediate _ _ ?_
  refine Statement.keeps_bind _ _ _ (upkeep.upsertEach _ _ _ _ _ _) (fun summary => ?_)
  exact Statement.keeps_bind _ _ _ (upkeep.resolve _ _ _ _) (fun _ => Statement.keeps_pure _ _)

theorem Upkeep.step (upkeep : Upkeep holds) {db : Database} (schema : db.WellFormed)
    {operation : Operation} (silent : operation.announces = false)
    (kept : holds db.situations db.deliveries) :
    holds (Store.step db operation).situations (Store.step db operation).deliveries := by
  have effect := step_effect db operation schema
  have one (row : Situation) (change : Situation → Situation) (member : row ∈ db.situations)
      (settles : Settles row (change row)) :
      holds (Table.updateWhere (fun stored => row.id == stored.id) change db.situations) db.deliveries := by
    refine upkeep.settled _ _ _ _ (fun stored present hit => ?_) kept
    rwa [← schema.same_id member present (by simpa using hit)]
  cases operation with
  | upsertDetections detections timestamp =>
    exact Statement.keeps_immediate _ _ (upkeep.upsertEach _ _ _ _ _ _) db kept
  | applySourceGeneration application clock => exact upkeep.applySourceGeneration _ _ db kept
  | applyLocalDetections detections timestamp => exact upkeep.applyLocalDetections _ _ db kept
  | resolveAbsent situationType keys timestamp =>
    exact Statement.keeps_immediate _ _ (upkeep.resolve _ _ _ _) db kept
  | reserveSourceGeneration source now =>
    rw [Store.step,run_reserveSourceGeneration]
    exact kept
  | expireLapsed timestamp =>
    refine upkeep.settled _ _ _ _ (fun row _ hit => ?_) kept
    rw [Bool.and_eq_true] at hit
    exact .lapsed row timestamp hit.1
  | wakeSnoozed timestamp =>
    refine upkeep.settled _ _ _ _ (fun row _ hit => ?_) kept
    rw [Situation.due,Bool.and_eq_true,beq_iff_eq] at hit
    exact .woken row timestamp hit.1
  | reserveForDelivery claim claimToken expiresAt =>
    generalize Store.step db _ = after at effect ⊢
    cases effect with
    | unchanged => exact kept
    | reserved => exact kept
    | user _ _ _ _ named => cases named
  | acknowledgeSituation id timestamp =>
    generalize Store.step db _ = after at effect ⊢
    cases effect with
    | unchanged => exact kept
    | user _ row change _ named member delivered =>
      cases named
      exact one row _ member (.acknowledged row timestamp delivered)
  | muteSituation id timestamp =>
    generalize Store.step db _ = after at effect ⊢
    cases effect with
    | unchanged => exact kept
    | user _ row change _ named member delivered =>
      cases named
      exact one row _ member (.muted row timestamp delivered)
  | muteSituationType id timestamp =>
    generalize Store.step db _ = after at effect ⊢
    cases effect with
    | unchanged => exact kept
    | user _ _ _ _ named => cases named
    | mutedType row _ _ member delivered =>
      have muted := one row _ member (.muted row timestamp delivered)
      rw [muteType_situations,muteType_deliveries]
      exact muted
  | markDelivered => cases silent
  | claimForDelivery => cases silent
  | confirmDelivery => cases silent
  | snoozeSituation => cases silent

end upkeep

section capacity
variable [EvidenceJson]

theorem rows_upkeep : Upkeep (fun rows _ => rows.length ≤ maxSituationRows) where
  upserted := by
    intro detection timestamp source generation db bounded
    unfold upsertDetection
    simp only [Statement.run_select_bind]
    have rewritten (id : Nat) (change : Situation → Situation) (outcome : UpsertOutcome) :
        ((do let _ ← updateSituation id change
             return outcome : Sql UpsertOutcome).run db).2.situations.length ≤ maxSituationRows := by
      change (Table.updateWhere _ _ _).length ≤ _
      rw [Table.updateWhere,List.length_map]
      exact bounded
    split
    · exact bounded
    rename_i room
    cases existing : db.situationByDedupeKey detection.dedupeKey with
    | none =>
      have below : db.situations.length < maxSituationRows :=
        Nat.lt_of_not_le (fun full => room (Or.inr ⟨existing,by simpa [countSituations] using full⟩))
      change (db.situations ++ [_]).length ≤ _
      rw [List.length_append]
      exact below
    | some row =>
      simp only [Statement.run_select_bind]
      cases row.state with
      | resolved | expired =>
        dsimp only
        split
        · exact bounded
        · exact rewritten _ _ _
      | pending | delivered | snoozed => exact rewritten _ _ _
      | acknowledged | muted => exact bounded
  settled := by
    intro rows deliveries selects change _ bounded
    rw [Table.updateWhere,List.length_map]
    exact bounded

/-- No operation fills the situation table beyond its capacity. -/
theorem step_rows_bounded {db : Database} (schema : db.WellFormed) (operation : Operation)
    (bounded : db.situations.length ≤ maxSituationRows) :
    (step db operation).situations.length ≤ maxSituationRows := by
  cases announces : operation.announces with
  | false => exact rows_upkeep.step schema announces bounded
  | true =>
    have effect := step_effect db operation schema
    have same : (step db operation).situations.length = db.situations.length := by
      generalize step db operation = after at effect ⊢
      cases effect with
      | unchanged => rfl
      | marked | claimed | confirmed | user => exact List.length_map _
      | _ => cases announces
    omega

end capacity
end Proactive.Store
