import Mathlib.Data.List.Perm.Subperm
import Proactive.Store.DiagnosticsTables
import Proactive.Store.Serialization
import Proactive.Sources.GmailPartition
import Proactive.Sources.GoogleEvaluation

/-! The diagnostics of a Gmail read stay within the bounds that the store and its tables put on them. -/
namespace Proactive.Sources
open Proactive.Library Proactive.Store Proactive.Situations GmailAdapter

/-- The reasons that are recorded once, before the loop over the threads. -/
def GmailDegradationReason.opening : GmailDegradationReason → Bool
  | .paginationLimit | .threadListEntrySkipped | .threadProjectionLimit => true
  | _ => false

theorem GmailDegradationReason.readReason_injective : Function.Injective GmailDegradationReason.readReason := by
  intro first second same
  rcases first with _ | _ | _ | _ | _ | _ | first <;> rcases second with _ | _ | _ | _ | _ | _ | second <;>
    (try cases first) <;> (try cases second) <;> first | rfl | cases same

/-- What a projection recorded of at most `size` threads. -/
structure Tally (size : Nat) (projection : Projection) : Prop where
  requests : projection.detailRequestCount ≤ size
  snapshots : projection.snapshots.length ≤ size
  reasons : ∀ reason, projection.reasons.count reason ≤ if reason.opening then 1 else size

/-- A thread adds one request, one snapshot at most, and each reason of the loop once at most. -/
theorem Tally.extend {size : Nat} {projection next : Projection} {more : List GmailDegradationReason}
    (tally : Tally size projection) (requests : next.detailRequestCount = projection.detailRequestCount + 1)
    (snapshots : next.snapshots.length ≤ projection.snapshots.length + 1)
    (reasons : next.reasons = projection.reasons ++ more) (distinct : more.Nodup)
    (later : ∀ reason ∈ more, reason.opening = false) : Tally (size + 1) next where
  requests := requests.trans_le (Nat.succ_le_succ tally.requests)
  snapshots := snapshots.trans (Nat.succ_le_succ tally.snapshots)
  reasons := by
    intro reason
    have before := tally.reasons reason
    rw [reasons,List.count_append]
    cases opening : reason.opening with
    | true =>
      have absent : reason ∉ more := fun member => by
        rw [later reason member] at opening
        cases opening
      rw [opening] at before
      rw [List.count_eq_zero_of_not_mem absent]
      exact before
    | false =>
      have once := List.nodup_iff_count_le_one.mp distinct reason
      rw [opening] at before
      exact Nat.add_le_add before once

theorem Tally.mono {small large : Nat} {projection : Projection} (tally : Tally small projection)
    (within : small ≤ large) : Tally large projection where
  requests := tally.requests.trans within
  snapshots := tally.snapshots.trans within
  reasons := by
    intro reason
    have before := tally.reasons reason
    cases opening : reason.opening with
    | true => rwa [opening] at before
    | false =>
      rw [opening] at before
      exact Nat.le_trans before within

variable {adapter : GmailAdapter} {transport : Transport}

theorem projectThreads_tally {profile : GmailProfile} {projected : List GmailThread} {before : Nat}
    {opened final : Projection} (start : Tally 0 opened)
    (returned : adapter.projectThreads transport profile projected before projected opened = .ok final) :
    Tally projected.length final := by
  refine @projectThreads_rule adapter transport profile projected before (fun done => Tally done.length)
    (Tally projected.length) ?_ ?_ ?_ ?_ [] projected opened final rfl start returned
  · intro done thread rest projection _ kept
    rw [List.length_append]
    exact kept.extend rfl (Nat.le_succ _) rfl (List.nodup_singleton _) (fun _ member => by
      rw [List.mem_singleton.mp member]; rfl)
  · intro done thread rest projection detail snapshot _ kept _ projecting
    rw [List.length_append]
    cases snapshot with
    | none =>
      exact kept.extend rfl (Nat.le_succ _) rfl (List.nodup_singleton _) (fun _ member => by
        rw [List.mem_singleton.mp member]; rfl)
    | some snapshot =>
      have distinct := (projectThread_snapshot projecting).2.map
        (f := GmailDegradationReason.projection) (fun _ _ same => GmailDegradationReason.projection.inj same)
      refine kept.extend rfl ?_ rfl distinct ?_
      · exact le_of_eq (List.length_append.trans rfl)
      · intro reason member
        obtain ⟨own,_,rfl⟩ := List.mem_map.mp member
        rfl
  · intro done thread rest projection split kept
    have within : done.length + 1 ≤ projected.length := by
      rw [split,List.length_append,List.length_cons]
      omega
    have tally : Tally (done.length + 1)
        (projection.requested.exhausted (projected.drop (projected.idxOf thread))) :=
      kept.extend rfl (Nat.le_succ _) rfl (List.nodup_singleton _) (fun _ member => by
        rw [List.mem_singleton.mp member]; rfl)
    exact tally.mono within
  · exact fun projection kept => kept

theorem openProjection_tally {pages : List WireThreadsPage} {listed : GmailReadResult}
    (read : PagesRead adapter transport .empty pages listed) (projected : List GmailThread) :
    Tally 0 (openProjection listed projected) where
  requests := Nat.le_refl 0
  snapshots := Nat.le_refl 0
  reasons := by
    intro reason
    unfold openProjection
    dsimp only
    rw [read.reasons,List.count_append,List.count_append]
    cases listed.isComplete <;> by_cases skipped : listed.skippedCount = 0 <;>
      by_cases limited : projected.length < listed.threads.length <;> cases reason <;>
      simp [skipped,limited,GmailDegradationReason.opening]

def PagesWithin (adapter : GmailAdapter) (transport : Transport) (size : Nat) : Prop :=
  ∀ index page, adapter.readThreadsPage transport index = .ok page → page.threads.length ≤ size

theorem listed_length {size : Nat} {pages : List WireThreadsPage} {listed : GmailReadResult}
    (within : PagesWithin adapter transport size) (read : PagesRead adapter transport .empty pages listed) :
    listed.threads.length ≤ pages.length * size := by
  have each : ∀ page ∈ pages, page.threads.length ≤ size := by
    intro page member
    obtain ⟨position,inside,rfl⟩ := List.mem_iff_getElem.mp member
    exact within _ _ (read.responses position inside)
  rw [read.threads,Listing.empty,List.nil_append]
  clear read
  induction pages with
  | nil => exact Nat.zero_le _
  | cons page rest ih =>
    have first := (List.length_filterMap_le listThread page.threads).trans (each page List.mem_cons_self)
    have later := ih (fun other member => each other (List.mem_cons_of_mem _ member))
    rw [List.flatMap_cons,List.length_append,List.length_cons,Nat.succ_mul]
    omega

theorem reasonCounts_eq (result : GmailInboxReadResult)
    (none : result.degradationReasonCounts = [] → result.degradationReasons = []) :
    (gmailReadDiagnostics result).reasonCounts =
      result.degradationReasonCounts.map (fun (reason,count) => ⟨reason.readReason,count⟩) := by
  unfold gmailReadDiagnostics
  dsimp only
  split
  · rfl
  · rename_i empty
    rw [not_not] at empty
    rw [empty,none empty]
    rfl

/-- What the loops record of a read stays within the maxima of the contract. -/
theorem gmailReadDiagnostics_bounded {json : GmailJson} {library : TextLibrary} {now : Int} {result : GmailInboxReadResult}
    (within : PagesWithin ⟨json,library,now,defaultMaxProjectedThreads⟩ transport 100)
    (returned : readInboxThreads ⟨json,library,now,defaultMaxProjectedThreads⟩ transport = .ok result) :
    (gmailReadDiagnostics result).bounded = true := by
  unfold readInboxThreads at returned
  obtain ⟨profile,_,parts⟩ := (Outcome.bind_ok_iff _ _ _).mp returned
  obtain ⟨listed,listing,parts⟩ := (Outcome.bind_ok_iff _ _ _).mp parts
  obtain ⟨projection,projecting,parts⟩ := (Outcome.bind_ok_iff _ _ _).mp parts
  obtain ⟨pages,short,read⟩ := listPages_pages gmailMaxPages listing
  have divided := projectThreads_divided (openProjection_divided listed _) projecting
  have tally : Tally (sliceThreads defaultMaxProjectedThreads listed.threads).length projection :=
    projectThreads_tally (openProjection_tally read _) projecting
  have whole := sliceThreads_append defaultMaxProjectedThreads listed.threads
  have few : (sliceThreads defaultMaxProjectedThreads listed.threads).length ≤ 200 := List.length_take_le _ _
  have pageCount : listed.pageCount = pages.length := by rw [read.pageCount,Listing.empty,Nat.zero_add]
  have pageLimit : pages.length ≤ 20 := short
  obtain rfl := Except.ok.inj parts
  have excluded : projection.excluded.eraseDups.length ≤ 2000 := by
    have inside : projection.excluded.eraseDups ⊆ listed.threads.map GmailThread.id := by
      intro id member
      rw [← whole]
      exact divided.excluded id (List.mem_eraseDups.mp member)
    have size := ((Grouping.nodup_eraseDups projection.excluded).subperm inside).length_le
    have all := listed_length within read
    rw [List.length_map] at size
    omega
  have counted : ∀ reason, projection.reasons.count reason ≤ 200 := by
    intro reason
    have bound := tally.reasons reason
    split at bound <;> omega
  have requests := tally.requests
  have snapshots := tally.snapshots
  have counts := reasonCounts_eq (inboxResult profile listed
    (sliceThreads defaultMaxProjectedThreads listed.threads) projection) List.map_eq_nil_iff.mp
  have distinct : ((projection.reasons.eraseDups.map (fun reason => (reason,projection.reasons.count reason))).map
      (fun counted => counted.1.readReason)).Nodup := by
    rw [List.map_map]
    exact (Grouping.nodup_eraseDups projection.reasons).map GmailDegradationReason.readReason_injective
  unfold SourceReadDiagnostics.bounded
  rw [counts]
  unfold inboxResult
  dsimp only
  rw [List.map_map,Bool.and_eq_true,Bool.and_eq_true,decide_eq_true_eq]
  refine ⟨⟨?_,distinct⟩,?_⟩
  · unfold SourceReadDiagnostics.counts SourceReadDiagnostics.countMaxima gmailReadDiagnostics
    simp only [List.zip_cons_cons,List.zip_nil_right,List.all_cons,List.all_nil,Bool.and_true,Bool.and_eq_true,
      decide_eq_true_eq,gmailReadByteBudget]
    omega
  · rw [List.all_map,List.all_map,List.all_eq_true]
    intro reason _
    have bound := counted reason
    rw [Function.comp_apply,Function.comp_apply,Bool.and_eq_true]
    exact ⟨decide_eq_true (Int.natCast_nonneg _),decide_eq_true (Int.ofNat_le.mpr bound)⟩

/-- The ways in which a Gmail read can end, as the diagnostics that it hands on. -/
inductive ReadOutcome (adapter : GmailAdapter) (transport : Transport) : SourceReadDiagnostics → Prop
  | read {result : GmailInboxReadResult} (returned : adapter.readInboxThreads transport = .ok result) :
    ReadOutcome adapter transport (gmailReadDiagnostics result)
  | failed (errorCode : SourceErrorCode) : ReadOutcome adapter transport (sourceFailureDiagnostics errorCode)

/-- Diagnostics that pass the validation, fit the tables whatever these hold, and decide no application. -/
structure Storable (diagnostics : SourceReadDiagnostics) : Prop where
  validates : diagnostics.validates = true
  written : ∀ tables : DiagnosticsTables, tables.Valid →
    diagnostics.write.run tables = (.ok (),diagnostics.tables) ∧ diagnostics.tables.Valid
  applied : ∀ [EvidenceJson] (application : SourceApplication) (clock : Readings) (db : Database), db.WellFormed →
    application.generation.source = .gmail →
      ((applySourceGeneration {application with diagnostics := some diagnostics} clock).run db).1.isOk =
        ((applySourceGeneration {application with diagnostics := none} clock).run db).1.isOk

theorem applySourceGeneration_isOk [EvidenceJson] (application : SourceApplication) (clock : Readings)
    (db : Database) (schema : db.WellFormed) :
    ((applySourceGeneration application clock).run db).1.isOk = true ↔ ¬Refused application db := by
  rcases applySourceGeneration_outcome application clock db schema with
    ⟨refused,error,ran⟩ | ⟨accepted,result,left,ran⟩
  · rw [ran]
    exact ⟨fun ok => absurd ok Bool.false_ne_true,fun accepted => absurd refused accepted⟩
  · rw [ran]
    exact ⟨fun _ => accepted,fun _ => rfl⟩

theorem storable_of_bounded {diagnostics : SourceReadDiagnostics} (bounded : diagnostics.bounded = true) :
    Storable diagnostics where
  validates := by rw [SourceReadDiagnostics.validates_eq_bounded,bounded]
  written := fun _ valid => ⟨write_run bounded valid,tables_valid bounded⟩
  applied := by
    intro _ application clock db schema own
    have allowed : allowsDiagnostics application.generation.source (some diagnostics) = true := by
      rw [allowsDiagnostics,own,Option.all_some,bounded]
      rfl
    rw [Bool.eq_iff_iff,applySourceGeneration_isOk _ _ _ schema,applySourceGeneration_isOk _ _ _ schema]
    unfold Refused SourceApplication.expectedType
    dsimp only
    rw [allowed]
    exact Iff.rfl

theorem reading_result {ε α : Type} {errorCode : ε → ProviderErrorCode} {read : Read ε α} {value : α}
    (same : reading errorCode read = .result value) : read = .ok value := by
  unfold reading at same
  split at same <;> cases same
  rfl

/-- Whatever a read of both sources ends with, it carries the diagnostics of the Gmail read. -/
theorem readSources_diagnostics {dependencies : EvaluationDependencies} {gmail calendar : SourceGeneration}
    {inputs : EngineInputs} (ends : dependencies.gmail = adapter.readInboxThreads transport)
    (read : dependencies.readSources gmail calendar = .ok inputs) :
    ∃ diagnostics, inputs.gmailDiagnostics = some diagnostics ∧ ReadOutcome adapter transport diagnostics := by
  unfold EvaluationDependencies.readSources at read
  cases ended : dependencies.gmailReading with
  | invalidGrant =>
    rw [ended] at read
    cases read
    exact ⟨_,rfl,.failed _⟩
  | raised error =>
    rw [ended] at read
    cases read
  | failed errorCode =>
    cases calendarEnded : dependencies.calendarReading with
    | invalidGrant =>
      rw [ended,calendarEnded] at read
      cases read
      exact ⟨_,rfl,.failed _⟩
    | raised error =>
      rw [ended,calendarEnded] at read
      cases read
    | failed | result =>
      rw [ended,calendarEnded] at read
      cases read
      exact ⟨_,rfl,.failed errorCode⟩
  | result inbox =>
    have outcome := ReadOutcome.read (ends.symm.trans (reading_result ended))
    cases calendarEnded : dependencies.calendarReading with
    | invalidGrant =>
      rw [ended,calendarEnded] at read
      cases read
      exact ⟨_,rfl,.failed _⟩
    | raised error =>
      rw [ended,calendarEnded] at read
      cases read
    | failed | result =>
      rw [ended,calendarEnded] at read
      cases read
      exact ⟨_,rfl,outcome⟩

/-- The diagnostics of every read, and those that a prepared evaluation carries, can be stored. -/
theorem diagnostics_storable (json : GmailJson) (library : TextLibrary) (now : Int) (transport : Transport)
    (within : PagesWithin ⟨json,library,now,defaultMaxProjectedThreads⟩ transport 100) :
    (∀ diagnostics, ReadOutcome ⟨json,library,now,defaultMaxProjectedThreads⟩ transport diagnostics →
      Storable diagnostics) ∧
    ∀ (calendar : Read CalendarError CalendarReadResult) (gmailReservedAt calendarReservedAt : Int)
      (db : Database) (inputs : EngineInputs),
      ((EvaluationDependencies.prepareEvaluation ⟨readInboxThreads ⟨json,library,now,defaultMaxProjectedThreads⟩ transport,
        calendar,gmailReservedAt,calendarReservedAt⟩).run db).1 = .ok inputs →
      ∃ diagnostics, inputs.gmailDiagnostics = some diagnostics ∧ Storable diagnostics := by
  have outcomes : ∀ diagnostics, ReadOutcome ⟨json,library,now,defaultMaxProjectedThreads⟩ transport diagnostics →
      Storable diagnostics := by
    intro diagnostics outcome
    cases outcome with
    | read returned => exact storable_of_bounded (gmailReadDiagnostics_bounded within returned)
    | failed errorCode => exact storable_of_bounded (sourceFailureDiagnostics_bounded errorCode)
  refine ⟨outcomes,?_⟩
  intro calendar gmailReservedAt calendarReservedAt db inputs prepared
  obtain ⟨diagnostics,carried,outcome⟩ :=
    readSources_diagnostics rfl (EvaluationDependencies.prepareEvaluation_ok prepared)
  exact ⟨diagnostics,carried,outcomes diagnostics outcome⟩

theorem twoThreads_within (transport : Transport) : PagesWithin twoThreadsAdapter transport 100 := by
  intro index page read
  obtain ⟨body,_,parsed⟩ := (Outcome.bind_ok_iff _ _ _).mp read
  unfold parseGmail twoThreadsAdapter at parsed
  dsimp only at parsed
  by_cases same : body = twoThreadsBody
  · rw [if_pos same] at parsed
    obtain rfl := Except.ok.inj parsed
    decide
  · rw [if_neg same] at parsed
    cases parsed

theorem diagnostics_storable_twoThreads : Storable (gmailReadDiagnostics twoThreadsResult) :=
  (diagnostics_storable twoThreadsAdapter.json twoThreadsAdapter.library twoThreadsAdapter.now twoThreadsTransport
    (twoThreads_within twoThreadsTransport)).1 _ (.read twoThreads_read)

end Proactive.Sources
