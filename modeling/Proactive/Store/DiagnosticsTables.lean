import Mathlib.Data.List.Nodup
import Proactive.Store.Freshness

/-! The diagnostics tables of the schema with their CHECK constraints and keys, the statements that
write them, and the validation that the statements rely on. -/
namespace Proactive.Store
open Proactive.Library

def SourceReadOutcome.text : SourceReadOutcome → String
  | .healthy => "healthy"
  | .partialRead => "partial"
  | .stale => "stale"
  | .authError => "auth_error"
  | .transportError => "transport_error"

def SourceReadReason.text : SourceReadReason → String
  | .bodySnippetFallback => "body_snippet_fallback"
  | .bodyTruncated => "body_truncated"
  | .degraded => "degraded"
  | .directionMetadataAmbiguous => "direction_metadata_ambiguous"
  | .directionMetadataMissing => "direction_metadata_missing"
  | .http4xx => "http_4xx"
  | .http5xx => "http_5xx"
  | .identityHeadersAmbiguous => "identity_headers_ambiguous"
  | .invalidGrant => "invalid_grant"
  | .mimeStructureTruncated => "mime_structure_truncated"
  | .network => "network"
  | .neverSynced => "never_synced"
  | .notConfigured => "not_configured"
  | .paginationLimit => "pagination_limit"
  | .resourceLimit => "resource_limit"
  | .scopeMismatch => "scope_mismatch"
  | .stale => "stale"
  | .syncBudgetExhausted => "sync_budget_exhausted"
  | .threadListEntrySkipped => "thread_list_entry_skipped"
  | .threadProjectionLimit => "thread_projection_limit"
  | .threadResponseTooLarge => "thread_response_too_large"
  | .threadWithoutProjectableMessage => "thread_without_projectable_message"
  | .timeout => "timeout"
  | .unknown => "unknown"

def sourceReadOutcomes : List String := ["healthy","partial","stale","auth_error","transport_error"]

def sourceReadReasons : List String :=
  ["body_snippet_fallback","body_truncated","degraded","direction_metadata_ambiguous",
    "direction_metadata_missing","http_4xx","http_5xx","identity_headers_ambiguous","invalid_grant",
    "mime_structure_truncated","network","never_synced","not_configured","pagination_limit","resource_limit",
    "scope_mismatch","stale","sync_budget_exhausted","thread_list_entry_skipped","thread_projection_limit",
    "thread_response_too_large","thread_without_projectable_message","timeout","unknown"]

/-- The condition under which `validate` does not raise, on the texts that it is given. -/
def SourceReadDiagnostics.validates (diagnostics : SourceReadDiagnostics) : Bool :=
  sourceReadOutcomes.contains diagnostics.outcome.text &&
    (diagnostics.counts.zip countMaxima).all (fun entry => 0 ≤ entry.1 && entry.1 ≤ entry.2) &&
    decide (diagnostics.reasonCounts.map (fun item => item.reason.text)).Nodup &&
    diagnostics.reasonCounts.all (fun item => sourceReadReasons.contains item.reason.text &&
      (0 ≤ item.count && item.count ≤ maxReasonCount))

/-- A row of `gmail_diagnostics`. The types are those that its CHECK constraints ask for. -/
structure DiagnosticsRow where
  id : Int
  outcome : String
  requestCount : Int
  pageCount : Int
  projectedCount : Int
  excludedCount : Int
  byteBudget : Int
deriving DecidableEq, Repr

structure ReasonCountRow where
  diagnosticId : Int
  reason : String
  count : Int
deriving DecidableEq, Repr

structure DiagnosticsTables where
  gmailDiagnostics : List DiagnosticsRow
  reasonCounts : List ReasonCountRow
deriving DecidableEq, Repr

def between (low high value : Int) : Bool := low ≤ value && value ≤ high

def DiagnosticsRow.checks (row : DiagnosticsRow) : Bool :=
  row.id == 1 && ["healthy","partial","stale","auth_error","transport_error"].contains row.outcome &&
    between 0 221 row.requestCount && between 0 20 row.pageCount && between 0 200 row.projectedCount &&
    between 0 2000 row.excludedCount && between 0 8000000 row.byteBudget

namespace ReasonCountRow

def checks (row : ReasonCountRow) : Bool :=
  row.diagnosticId == 1 &&
    ["body_snippet_fallback","body_truncated","degraded","direction_metadata_ambiguous",
      "direction_metadata_missing","http_4xx","http_5xx","identity_headers_ambiguous","invalid_grant",
      "mime_structure_truncated","network","never_synced","not_configured","pagination_limit","resource_limit",
      "scope_mismatch","stale","sync_budget_exhausted","thread_list_entry_skipped","thread_projection_limit",
      "thread_response_too_large","thread_without_projectable_message","timeout","unknown"].contains row.reason &&
    between 0 200 row.count

/-- `PRIMARY KEY(diagnostic_id, reason)`. -/
def key (row : ReasonCountRow) : Int × String := (row.diagnosticId,row.reason)

end ReasonCountRow

/-- What the constraints of the schema keep true of the stored rows. -/
structure DiagnosticsTables.Valid (tables : DiagnosticsTables) : Prop where
  diagnosticsChecked : ∀ row ∈ tables.gmailDiagnostics, row.checks = true
  primaryKey : (tables.gmailDiagnostics.map DiagnosticsRow.id).Nodup
  reasonsChecked : ∀ row ∈ tables.reasonCounts, row.checks = true
  reasonKey : (tables.reasonCounts.map ReasonCountRow.key).Nodup
  foreignKey : ∀ row ∈ tables.reasonCounts, row.diagnosticId ∈ tables.gmailDiagnostics.map DiagnosticsRow.id

abbrev DiagnosticsSql := Statement DiagnosticsTables StoreError

namespace DiagnosticsTables

def deleteReasonCounts : DiagnosticsSql Unit :=
  Statement.update (fun tables => {tables with
    reasonCounts := tables.reasonCounts.filter (fun row => row.diagnosticId != 1)})

/-- The insertion that updates the row of the same id instead of failing. -/
def upsertDiagnostics (row : DiagnosticsRow) : DiagnosticsSql Unit :=
  if row.checks then
    Statement.update (fun tables => {tables with
      gmailDiagnostics :=
        if tables.gmailDiagnostics.any (fun other => other.id == row.id) then
          tables.gmailDiagnostics.map (fun other => if other.id = row.id then row else other)
        else tables.gmailDiagnostics ++ [row]})
  else Statement.raise (.integrity "gmail_diagnostics")

def insertReasonCount (row : ReasonCountRow) : DiagnosticsSql Unit := do
  let taken ← Statement.select (fun tables => tables.reasonCounts.any (fun other => other.key == row.key))
  let parent ← Statement.select (fun tables => tables.gmailDiagnostics.any (fun other => other.id == row.diagnosticId))
  if row.checks && !taken && parent then
    Statement.update (fun tables => {tables with reasonCounts := tables.reasonCounts ++ [row]})
  else Statement.raise (.integrity "gmail_diagnostic_reason_counts")

def insertReasonCounts : List ReasonCountRow → DiagnosticsSql Unit
  | [] => return ()
  | row::rest => do
    insertReasonCount row
    insertReasonCounts rest

end DiagnosticsTables

namespace SourceReadDiagnostics
variable (diagnostics : SourceReadDiagnostics)

def row : DiagnosticsRow :=
  ⟨1,diagnostics.outcome.text,diagnostics.requestCount,diagnostics.pageCount,diagnostics.projectedCount,
    diagnostics.excludedCount,diagnostics.byteBudget⟩

def reasonRows : List ReasonCountRow :=
  diagnostics.reasonCounts.map (fun item => ⟨1,item.reason.text,item.count⟩)

def write : DiagnosticsSql Unit := do
  DiagnosticsTables.deleteReasonCounts
  DiagnosticsTables.upsertDiagnostics diagnostics.row
  DiagnosticsTables.insertReasonCounts diagnostics.reasonRows

/-- The tables when these diagnostics are the accepted ones. -/
def tables : DiagnosticsTables := ⟨[diagnostics.row],diagnostics.reasonRows⟩

end SourceReadDiagnostics

def SourceReadReason.all : List SourceReadReason :=
  [.bodySnippetFallback,.bodyTruncated,.degraded,.directionMetadataAmbiguous,.directionMetadataMissing,
    .http4xx,.http5xx,.identityHeadersAmbiguous,.invalidGrant,.mimeStructureTruncated,.network,.neverSynced,
    .notConfigured,.paginationLimit,.resourceLimit,.scopeMismatch,.stale,.syncBudgetExhausted,
    .threadListEntrySkipped,.threadProjectionLimit,.threadResponseTooLarge,
    .threadWithoutProjectableMessage,.timeout,.unknown]

theorem SourceReadReason.mem_all (reason : SourceReadReason) : reason ∈ SourceReadReason.all := by
  cases reason <;> decide

theorem SourceReadReason.text_mem (reason : SourceReadReason) : reason.text ∈ sourceReadReasons :=
  List.mem_map_of_mem (f := SourceReadReason.text) reason.mem_all

theorem SourceReadReason.text_injective : Function.Injective SourceReadReason.text := by
  have distinct : (SourceReadReason.all.map SourceReadReason.text).Nodup := by decide +kernel
  intro first second same
  exact List.inj_on_of_nodup_map distinct first.mem_all second.mem_all same

theorem SourceReadOutcome.text_mem (outcome : SourceReadOutcome) : outcome.text ∈ sourceReadOutcomes := by
  cases outcome <;> simp [SourceReadOutcome.text,sourceReadOutcomes]

/-- The vocabularies are closed by their types, so the validation of the texts checks the bounds. -/
theorem SourceReadDiagnostics.validates_eq_bounded (diagnostics : SourceReadDiagnostics) :
    diagnostics.validates = diagnostics.bounded := by
  have texts : (diagnostics.reasonCounts.map (fun item => item.reason.text)).Nodup ↔
      (diagnostics.reasonCounts.map SourceReadReasonCount.reason).Nodup := by
    rw [← List.nodup_map_iff SourceReadReason.text_injective,List.map_map]
    rfl
  unfold validates bounded
  rw [List.contains_iff_mem.mpr diagnostics.outcome.text_mem,Bool.true_and]
  congr 1
  · rw [decide_eq_decide.mpr texts]
  · congr 1
    funext item
    rw [List.contains_iff_mem.mpr item.reason.text_mem,Bool.true_and]

section write
variable {diagnostics : SourceReadDiagnostics}

theorem row_checks (bounded : diagnostics.bounded = true) : diagnostics.row.checks = true := by
  have outcome : sourceReadOutcomes.contains diagnostics.outcome.text = true :=
    List.contains_iff_mem.mpr diagnostics.outcome.text_mem
  unfold SourceReadDiagnostics.bounded SourceReadDiagnostics.counts SourceReadDiagnostics.countMaxima at bounded
  unfold DiagnosticsRow.checks SourceReadDiagnostics.row
  simp only [List.zip_cons_cons,List.zip_nil_right,List.all_cons,List.all_nil,Bool.and_true,Bool.and_eq_true] at bounded
  simp only [between,Bool.and_eq_true]
  obtain ⟨⟨⟨request,page,projected,excluded,bytes⟩,_⟩,_⟩ := bounded
  exact ⟨⟨⟨⟨⟨⟨rfl,outcome⟩,request⟩,page⟩,projected⟩,excluded⟩,bytes⟩

theorem reasonRows_checks (bounded : diagnostics.bounded = true) :
    ∀ row ∈ diagnostics.reasonRows, row.checks = true := by
  intro row member
  obtain ⟨item,counted,rfl⟩ := List.mem_map.mp member
  have reason : sourceReadReasons.contains item.reason.text = true := List.contains_iff_mem.mpr item.reason.text_mem
  unfold SourceReadDiagnostics.bounded at bounded
  rw [Bool.and_eq_true,List.all_eq_true] at bounded
  have count := bounded.2 item counted
  unfold ReasonCountRow.checks
  rw [Bool.and_eq_true,Bool.and_eq_true]
  exact ⟨⟨rfl,reason⟩,count⟩

theorem reasonRows_distinct (bounded : diagnostics.bounded = true) :
    (diagnostics.reasonRows.map ReasonCountRow.key).Nodup := by
  unfold SourceReadDiagnostics.bounded at bounded
  rw [Bool.and_eq_true,Bool.and_eq_true,decide_eq_true_eq] at bounded
  have pairs : Function.Injective (fun reason : SourceReadReason => ((1 : Int),reason.text)) := by
    intro first second same
    exact SourceReadReason.text_injective (Prod.mk.inj same).2
  have distinct := bounded.1.2.map pairs
  rw [List.map_map] at distinct
  unfold SourceReadDiagnostics.reasonRows
  rw [List.map_map]
  exact distinct

theorem tables_valid (bounded : diagnostics.bounded = true) : diagnostics.tables.Valid where
  diagnosticsChecked := by
    intro row member
    obtain rfl := List.mem_singleton.mp member
    exact row_checks bounded
  primaryKey := List.nodup_singleton _
  reasonsChecked := reasonRows_checks bounded
  reasonKey := reasonRows_distinct bounded
  foreignKey := by
    intro row member
    obtain ⟨item,_,rfl⟩ := List.mem_map.mp member
    exact List.mem_singleton.mpr rfl

/-- There is one row at most, the one that the CHECK on its id lets in. -/
theorem DiagnosticsTables.Valid.singleton {tables : DiagnosticsTables} (valid : tables.Valid) :
    tables.gmailDiagnostics = [] ∨ ∃ row, row.id = 1 ∧ tables.gmailDiagnostics = [row] := by
  have named : ∀ row ∈ tables.gmailDiagnostics, row.id = 1 := by
    intro row member
    have checked := valid.diagnosticsChecked row member
    simp only [DiagnosticsRow.checks,Bool.and_eq_true,beq_iff_eq] at checked
    exact checked.1.1.1.1.1.1
  have distinct := valid.primaryKey
  cases rows : tables.gmailDiagnostics with
  | nil => exact Or.inl rfl
  | cons row rest =>
    rw [rows] at named distinct
    cases rest with
    | nil => exact Or.inr ⟨row,named row List.mem_cons_self,rfl⟩
    | cons other rest =>
      have first := named row List.mem_cons_self
      have second := named other (List.mem_cons_of_mem _ List.mem_cons_self)
      rw [List.map_cons,List.map_cons,List.nodup_cons,first,second] at distinct
      exact absurd List.mem_cons_self distinct.1

theorem deleteReasonCounts_run {tables : DiagnosticsTables} (valid : tables.Valid) :
    DiagnosticsTables.deleteReasonCounts.run tables = (.ok (),⟨tables.gmailDiagnostics,[]⟩) := by
  have cleared : tables.reasonCounts.filter (fun row => row.diagnosticId != 1) = [] := by
    rw [List.filter_eq_nil_iff]
    intro row member
    have checked := valid.reasonsChecked row member
    simp only [ReasonCountRow.checks,Bool.and_eq_true,beq_iff_eq] at checked
    simp [checked.1.1]
  unfold DiagnosticsTables.deleteReasonCounts
  rw [Statement.run_update,cleared]

theorem upsertDiagnostics_run {tables : DiagnosticsTables} {row : DiagnosticsRow} {counts : List ReasonCountRow}
    (valid : tables.Valid) (named : row.id = 1) (checked : row.checks = true) :
    (DiagnosticsTables.upsertDiagnostics row).run ⟨tables.gmailDiagnostics,counts⟩ = (.ok (),⟨[row],counts⟩) := by
  unfold DiagnosticsTables.upsertDiagnostics
  rw [if_pos checked,Statement.run_update]
  rcases valid.singleton with empty | ⟨stored,same,single⟩
  · rw [empty]
    rfl
  · rw [single]
    simp [same,named]

/-- Rows within the constraints go in one after the other while their keys are new. -/
theorem insertReasonCounts_run {row : DiagnosticsRow} (named : row.id = 1) (rows stored : List ReasonCountRow)
    (checked : ∀ count ∈ rows, count.checks = true)
    (distinct : ((stored ++ rows).map ReasonCountRow.key).Nodup) :
    (DiagnosticsTables.insertReasonCounts rows).run ⟨[row],stored⟩ = (.ok (),⟨[row],stored ++ rows⟩) := by
  induction rows generalizing stored with
  | nil => rw [List.append_nil]; rfl
  | cons count rest ih =>
    have onward : stored ++ count::rest = stored ++ [count] ++ rest := by rw [List.append_assoc]; rfl
    have fine := checked count List.mem_cons_self
    have owner : count.diagnosticId = 1 := by
      simp only [ReasonCountRow.checks,Bool.and_eq_true,beq_iff_eq] at fine
      exact fine.1.1
    have free : stored.any (fun other => other.key == count.key) = false := by
      rw [List.any_eq_false]
      intro other member taken
      rw [List.map_append,List.nodup_append] at distinct
      exact distinct.2.2 other.key (List.mem_map_of_mem member) count.key (by simp) (beq_iff_eq.mp taken)
    have inserted : (DiagnosticsTables.insertReasonCount count).run ⟨[row],stored⟩ =
        (.ok (),⟨[row],stored ++ [count]⟩) := by
      unfold DiagnosticsTables.insertReasonCount
      simp only [Statement.run_select_bind,free,fine,List.any_cons,List.any_nil,Bool.or_false,named,owner,
        BEq.rfl,Bool.not_false,Bool.and_self,if_true,Statement.run_update]
    rw [onward] at distinct ⊢
    unfold DiagnosticsTables.insertReasonCounts
    rw [Statement.run_bind_ok _ _ _ _ _ inserted]
    exact ih (stored ++ [count]) (fun other member => checked other (List.mem_cons_of_mem _ member)) distinct

/-- From any content that the schema allows, the statements leave the bounded diagnostics and nothing else. -/
theorem write_run (bounded : diagnostics.bounded = true) {tables : DiagnosticsTables} (valid : tables.Valid) :
    diagnostics.write.run tables = (.ok (),diagnostics.tables) := by
  unfold SourceReadDiagnostics.write
  rw [Statement.run_bind_ok _ _ _ _ _ (deleteReasonCounts_run valid),
    Statement.run_bind_ok _ _ _ _ _ (upsertDiagnostics_run valid rfl (row_checks bounded))]
  exact insertReasonCounts_run rfl diagnostics.reasonRows [] (reasonRows_checks bounded) (reasonRows_distinct bounded)

end write

theorem sourceFailureDiagnostics_bounded (errorCode : SourceErrorCode) :
    (sourceFailureDiagnostics errorCode).bounded = true := by
  cases errorCode <;> decide

end Proactive.Store
