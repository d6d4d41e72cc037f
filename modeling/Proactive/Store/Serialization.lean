import Proactive.Store.Lifecycle

/-! Source generations serialize: any interleaving of reservations and
applications leaves what the accepted applications alone leave. -/
namespace Proactive.Store
open Proactive.Library Database

inductive SourceCall
  | reserve (source : SourceName) (now : Int)
  | apply (application : SourceApplication) (clock : Readings)
deriving DecidableEq, Repr

def SourceCall.operation : SourceCall → Operation
  | .reserve source now => .reserveSourceGeneration source now
  | .apply application clock => .applySourceGeneration application clock

def SourceCall.reserves : SourceCall → Bool
  | .reserve .. => true
  | .apply .. => false

/-- Why an application is refused: delayed, unreserved, a detection of another
source's type, or diagnostics outside the contract. -/
def Refused (application : SourceApplication) (db : Database) : Prop :=
  application.generation.number ≤ (generationState application.generation.source db).applied ∨
  (generationState application.generation.source db).issued < application.generation.number ∨
  (∃ detection ∈ application.detections, detection.situationType ≠ application.expectedType) ∨
  allowsDiagnostics application.generation.source application.diagnostics = false

theorem admits_iff (generation : SourceGeneration) (db : Database) :
    db.admits generation = true ↔ (generationState generation.source db).applied < generation.number ∧
      generation.number ≤ (generationState generation.source db).issued := by
  unfold Database.admits generationState
  cases db.generations.get generation.source with
  | none =>
    simp only [Option.any_none,Option.getD_none,Bool.false_eq_true,false_iff]
    omega
  | some row => simp [GenerationRow.admits,and_comm]

section issue
variable (source : SourceName) (now : Int)

theorem resolveRows_survives (passes : Situation → Bool) (timestamp : Int) (resolved : Nat)
    (rows : List Situation) :
    Statement.Survives (issue source now) (resolveRows passes timestamp resolved rows) := by
  induction rows generalizing resolved with
  | nil => exact Statement.survives_pure _ _
  | cons row rest ih =>
    unfold resolveRows
    split
    · exact ih resolved
    · refine Statement.survives_bind _ _ _ ?_ (fun _ => ih _)
      exact Statement.survives_bind _ _ _ (Statement.survives_select _ _ (fun _ => rfl)) (fun _ =>
        Statement.survives_bind _ _ _ (Statement.survives_update _ _ (fun _ => rfl)) (fun _ =>
          Statement.survives_pure _ _))

theorem resolveRead_survives (application : SourceApplication) (timestamp : Int) :
    Statement.Survives (issue source now) (application.resolveRead timestamp) := by
  have listed (name : SituationType) (scope : Option SituationSource) (passes : Situation → Bool) :
      Statement.Survives (issue source now) (do
        let rows ← Statement.select (activeByType name scope)
        resolveRows passes timestamp 0 rows : Sql Nat) :=
    Statement.survives_bind _ _ _ (Statement.survives_select _ _ (fun _ => rfl))
      (fun _ => resolveRows_survives source now _ _ _ _)
  unfold SourceApplication.resolveRead
  split
  · exact listed _ _ _
  split
  · exact listed _ _ _
  split
  · exact listed _ _ _
  · exact Statement.survives_pure _ _

theorem recordSync_survives (application : SourceApplication) (recordedAt : Int) :
    Statement.Survives (issue source now) (application.recordSync recordedAt) := by
  unfold SourceApplication.recordSync
  split
  · split <;> exact writeSync_survives source now _ _
  · exact Statement.survives_bind _ _ _ (writeSync_survives source now _ _)
      (fun _ => writeSync_survives source now _ _)
  · exact writeSync_survives source now _ _

variable [EvidenceJson]

theorem upsertDetection_survives (detection : Detection) (timestamp : Int)
    (name : SituationSource) (generation : Option Nat) :
    Statement.Survives (issue source now) (upsertDetection detection timestamp name generation) := by
  unfold upsertDetection
  refine Statement.survives_bind _ _ _ (Statement.survives_select _ _ (fun _ => rfl)) (fun existing => ?_)
  refine Statement.survives_bind _ _ _ (Statement.survives_select _ _ (fun _ => rfl)) (fun stored => ?_)
  have updates (id : Nat) (change : Situation → Situation) (outcome : UpsertOutcome) :
      Statement.Survives (issue source now) (do
        let _ ← updateSituation id change
        return outcome : Sql UpsertOutcome) :=
    Statement.survives_bind _ _ _
      (Statement.survives_bind _ _ _ (Statement.survives_select _ _ (fun _ => rfl)) (fun _ =>
        Statement.survives_bind _ _ _ (Statement.survives_update _ _ (fun _ => rfl)) (fun _ =>
          Statement.survives_pure _ _)))
      (fun _ => Statement.survives_pure _ _)
  split
  · exact Statement.survives_pure _ _
  cases existing with
  | none =>
    exact Statement.survives_bind _ _ _ (Statement.survives_update _ _ (fun _ => rfl))
      (fun _ => Statement.survives_pure _ _)
  | some row =>
    refine Statement.survives_bind _ _ _ (Statement.survives_select _ _ (fun _ => rfl)) (fun delivered => ?_)
    cases row.state with
    | resolved | expired =>
      dsimp only
      split
      · exact Statement.survives_pure _ _
      · exact updates _ _ _
    | pending | delivered | snoozed => exact updates _ _ _
    | acknowledged | muted => exact Statement.survives_pure _ _

theorem upsertEach_survives (timestamp : Int) (expected : Option SituationType)
    (name : SituationSource) (generation : Option Nat) (summary : DetectionUpsertSummary)
    (detections : List Detection) : Statement.Survives (issue source now)
      (upsertEach timestamp expected name generation summary detections) := by
  induction detections generalizing summary with
  | nil => exact Statement.survives_pure _ _
  | cons detection rest ih =>
    unfold upsertEach
    split
    · exact Statement.survives_raise _ _
    · exact Statement.survives_bind _ _ _
        (upsertDetection_survives source now detection timestamp name generation) (fun _ => ih _)

/-- An application that commits still commits, to the same effect, when another
reservation comes first. -/
theorem applySourceGeneration_survives (application : SourceApplication) (clock : Readings) :
    Statement.Survives (issue source now) (applySourceGeneration application clock) :=
  Statement.survives_immediate _ _ (Statement.survives_bind _ _ _
    (acceptSourceGeneration_survives source now _ _ _ _) (fun _ =>
      Statement.survives_bind _ _ _ (upsertEach_survives source now _ _ _ _ _ _) (fun _ =>
        Statement.survives_bind _ _ _ (resolveRead_survives source now _ _) (fun _ =>
          Statement.survives_bind _ _ _ (recordSync_survives source now _ _) (fun _ =>
            Statement.survives_pure _ _)))))

end issue

section calls
variable [EvidenceJson]

theorem upsertEach_total (timestamp : Int) (wanted : SituationType) (source : SituationSource)
    (generation : Option Nat) (summary : DetectionUpsertSummary) (detections : List Detection)
    (types : ∀ detection ∈ detections, detection.situationType = wanted) (db : Database) :
    ∃ result left, (upsertEach timestamp (some wanted) source generation summary detections).run db =
      (.ok result,left) := by
  induction detections generalizing summary db with
  | nil => exact ⟨summary,db,rfl⟩
  | cons detection rest ih =>
    obtain ⟨outcome,middle,ran,_⟩ := upsertDetection_steps detection timestamp source generation db
    obtain ⟨result,left,rested⟩ := ih (summary.add outcome)
      (fun other member => types other (by simp [member])) middle
    refine ⟨result,left,?_⟩
    have matching : (some wanted).filter (fun wanted => wanted != detection.situationType) = none := by
      simp [types detection (by simp)]
    rw [upsertEach,matching]
    dsimp only
    rw [Statement.run_bind_ok _ _ _ _ _ ran]
    exact rested

/-- An application commits exactly when nothing refuses it; a refused one raises
and leaves every table as it was. -/
theorem applySourceGeneration_outcome (application : SourceApplication) (clock : Readings)
    (db : Database) (schema : db.WellFormed) :
    (Refused application db ∧ ∃ error, (applySourceGeneration application clock).run db = (.error error,db)) ∨
    (¬Refused application db ∧
      ∃ result left, (applySourceGeneration application clock).run db = (.ok result,left)) := by
  have committed (result : DetectionApplySummary) (left : Database)
      (ok : (applySourceGeneration application clock).run db = (.ok result,left)) :
      ¬Refused application db := by
    obtain ⟨stored,applied⟩ := applySourceGeneration_success _ _ _ _ _ schema ok
    have numbers := (admits_iff _ _).mp applied.admitted
    rintro (delayed | unreserved | ⟨detection,member,wrong⟩ | forbidden)
    · omega
    · omega
    · exact wrong (applied.types detection member)
    · rw [applied.allowed] at forbidden
      cases forbidden
  by_cases refused : Refused application db
  · refine Or.inl ⟨refused,?_⟩
    cases outcome : (applySourceGeneration application clock).run db with
    | mk result left =>
      cases result with
      | ok result => exact absurd refused (committed result left outcome)
      | error error =>
        rw [Statement.immediate_rollback _ _ _ _ outcome]
        exact ⟨error,rfl⟩
  · refine Or.inr ⟨refused,?_⟩
    have admitted : db.admits application.generation = true := by
      rw [admits_iff]
      constructor
      · by_contra delayed
        exact refused (Or.inl (Nat.le_of_not_lt delayed))
      · by_contra unreserved
        exact refused (Or.inr (Or.inl (Nat.lt_of_not_le unreserved)))
    have allowed : allowsDiagnostics application.generation.source application.diagnostics = true := by
      by_contra forbidden
      exact refused (Or.inr (Or.inr (Or.inr (by simpa using forbidden))))
    have types : ∀ detection ∈ application.detections,
        detection.situationType = application.expectedType := by
      intro detection member
      by_contra wrong
      exact refused (Or.inr (Or.inr (Or.inl ⟨detection,member,wrong⟩)))
    have accepted := (acceptSourceGeneration_success application.generation application.status
      application.diagnostics clock.acceptedAt db _ ()).mpr ⟨allowed,admitted,rfl⟩
    obtain ⟨summary,middle,batch⟩ := upsertEach_total clock.timestamp application.expectedType
      application.sourceName (some application.generation.number) .zero application.detections types
      (db.sourceAccepted application.generation application.status application.diagnostics clock.acceptedAt)
    have kept := (upsertBatch_success clock.timestamp (some application.expectedType)
      application.sourceName (some application.generation.number) application.detections summary _ middle
      (schema.sourceAccepted _ _ _ _ admitted) batch).2.1
    obtain ⟨count,resolved⟩ := resolveRead_run application clock.timestamp middle kept
    obtain ⟨rows,recorded⟩ := recordSync_run application clock.recordedAt {middle with
      situations := Table.updateWhere application.resolves (.resolved clock.timestamp) middle.situations}
    have upserted : (upsertBatch application.detections clock.timestamp (some application.expectedType)
        application.sourceName (some application.generation.number)).run _ = (.ok summary,middle) := batch
    have ran : ∃ left, (application.body clock).run db = (.ok ⟨summary,count⟩,left) := by
      rw [SourceApplication.body,Statement.run_bind_ok _ _ _ _ _ accepted,
        Statement.run_bind_ok _ _ _ _ _ upserted,Statement.run_bind_ok _ _ _ _ _ resolved,
        Statement.run_bind_ok _ _ _ _ _ recorded]
      exact ⟨_,rfl⟩
    obtain ⟨left,ran⟩ := ran
    exact ⟨_,left,(Statement.immediate_success _ _ _ _).mpr ran⟩

def applies (db : Database) (application : SourceApplication) (clock : Readings) : Bool :=
  match (applySourceGeneration application clock).run db with
  | (.ok _,_) => true
  | (.error _,_) => false

def sourceStep (db : Database) (call : SourceCall) : Database := step db call.operation

/-- The applications that commit along a sequence of calls, in their order and
with their clock readings. -/
def acceptedApplications : Database → List SourceCall → List (SourceApplication × Readings)
  | _,[] => []
  | db,.reserve source now::rest => acceptedApplications (sourceStep db (.reserve source now)) rest
  | db,.apply application clock::rest =>
    if applies db application clock then
      (application,clock)::acceptedApplications (sourceStep db (.apply application clock)) rest
    else acceptedApplications (sourceStep db (.apply application clock)) rest

def replayed (accepted : List (SourceApplication × Readings)) : List SourceCall :=
  accepted.map (fun entry => .apply entry.1 entry.2)

theorem sourceStep_reserve (db : Database) (source : SourceName) (now : Int) :
    sourceStep db (.reserve source now) = db.issue source now := by
  rw [sourceStep,SourceCall.operation,step,run_reserveSourceGeneration]

theorem sourceStep_refused (db : Database) (application : SourceApplication) (clock : Readings)
    (refused : applies db application clock = false) : sourceStep db (.apply application clock) = db := by
  unfold applies at refused
  change ((applySourceGeneration application clock).run db).2 = db
  cases outcome : (applySourceGeneration application clock).run db with
  | mk result left =>
    cases result with
    | ok result => simp [outcome] at refused
    | error error => exact Statement.immediate_rollback _ _ _ _ outcome

theorem applies_run {db : Database} {application : SourceApplication} {clock : Readings}
    (committed : applies db application clock = true) :
    ∃ result, (applySourceGeneration application clock).run db =
      (.ok result,sourceStep db (.apply application clock)) := by
  unfold applies at committed
  change ∃ result, _ = (_,((applySourceGeneration application clock).run db).2)
  cases outcome : (applySourceGeneration application clock).run db with
  | mk result left =>
    cases result with
    | ok result => exact ⟨result,rfl⟩
    | error error => simp [outcome] at committed

/-- A committing application commits after any further reservations, and the
two orders leave the same tables. -/
theorem apply_after_reserves (db : Database) (application : SourceApplication) (clock : Readings)
    (reserves : List SourceCall) (only : ∀ call ∈ reserves, call.reserves = true)
    (committed : applies db application clock = true) :
    applies (Run.run sourceStep db reserves) application clock = true ∧
      sourceStep (Run.run sourceStep db reserves) (.apply application clock) =
        Run.run sourceStep (sourceStep db (.apply application clock)) reserves := by
  induction reserves generalizing db with
  | nil => exact ⟨committed,rfl⟩
  | cons call rest ih =>
    cases call with
    | apply other time =>
      have reserving := only (.apply other time) (by simp)
      cases reserving
    | reserve source now =>
      obtain ⟨result,ran⟩ := applies_run committed
      have after := applySourceGeneration_survives source now application clock _ _ _ ran
      have next : applies (db.issue source now) application clock = true := by simp [applies,after]
      have same : sourceStep (db.issue source now) (.apply application clock) =
          (sourceStep db (.apply application clock)).issue source now := by
        change ((applySourceGeneration application clock).run (db.issue source now)).2 = _
        rw [after]
      simp only [Run.run_cons,sourceStep_reserve]
      rw [← same]
      exact ih _ (fun call member => only call (by simp [member])) next

/-- Reservations first, then only the accepted applications: the same tables,
and every one of them accepted again. -/
theorem serial_run (db : Database) (calls : List SourceCall) :
    Run.run sourceStep db calls = Run.run sourceStep
        (Run.run sourceStep db (calls.filter SourceCall.reserves))
        (replayed (acceptedApplications db calls)) ∧
      acceptedApplications (Run.run sourceStep db (calls.filter SourceCall.reserves))
        (replayed (acceptedApplications db calls)) = acceptedApplications db calls := by
  induction calls generalizing db with
  | nil => exact ⟨rfl,rfl⟩
  | cons call rest ih =>
    cases call with
    | reserve source now =>
      obtain ⟨same,again⟩ := ih (sourceStep db (.reserve source now))
      exact ⟨same,again⟩
    | apply application clock =>
      obtain ⟨same,again⟩ := ih (sourceStep db (.apply application clock))
      have kept : ∀ call ∈ rest.filter SourceCall.reserves, call.reserves = true :=
        fun call member => (List.mem_filter.mp member).2
      rw [Run.run_cons,List.filter_cons_of_neg (by simp [SourceCall.reserves]),acceptedApplications]
      cases committed : applies db application clock with
      | false =>
        rw [if_neg (by decide)]
        rw [sourceStep_refused db application clock committed] at same again ⊢
        exact ⟨same,again⟩
      | true =>
        obtain ⟨later,moved⟩ := apply_after_reserves db application clock _ kept committed
        rw [if_pos rfl,replayed,List.map_cons,Run.run_cons,moved]
        refine ⟨same,?_⟩
        rw [acceptedApplications,if_pos later,moved]
        exact congrArg _ again

theorem sourceStep_wellFormed (db : Database) (call : SourceCall) (schema : db.WellFormed) :
    (sourceStep db call).WellFormed := step_wellFormed db call.operation schema

theorem applied_after {db : Database} {application : SourceApplication} {clock : Readings}
    (schema : db.WellFormed) (committed : applies db application clock = true) (source : SourceName) :
    (generationState application.generation.source db).applied < application.generation.number ∧
      (generationState source (sourceStep db (.apply application clock))).applied =
        if source = application.generation.source then application.generation.number
        else (generationState source db).applied := by
  obtain ⟨result,ran⟩ := applies_run committed
  obtain ⟨stored,applied⟩ := applySourceGeneration_success _ _ _ _ _ schema ran
  refine ⟨((admits_iff _ _).mp applied.admitted).1,?_⟩
  have admitted := applied.admitted
  unfold Database.admits at admitted
  rw [applied.tables]
  simp only [generationState,sourceAccepted,acceptedAs,BySource.get_set]
  split
  · cases found : db.generations.get application.generation.source with
    | none => simp [found] at admitted
    | some row => rfl
  · rfl

theorem applied_mono (db : Database) (call : SourceCall) (schema : db.WellFormed) (source : SourceName) :
    (generationState source db).applied ≤ (generationState source (sourceStep db call)).applied := by
  cases call with
  | reserve other now =>
    rw [sourceStep_reserve]
    simp only [generationState,issue,BySource.get_set]
    split
    · rename_i same
      subst same
      cases db.generations.get source <;> simp [GenerationRow.reissued]
    · exact le_rfl
  | apply application clock =>
    cases committed : applies db application clock with
    | false => rw [sourceStep_refused db application clock committed]
    | true =>
      obtain ⟨above,after⟩ := applied_after schema committed source
      rw [after]
      split
      · rename_i same
        subst same
        exact above.le
      · exact le_rfl

theorem accepted_above (db : Database) (schema : db.WellFormed) (calls : List SourceCall) :
    ∀ entry ∈ acceptedApplications db calls,
      (generationState entry.1.generation.source db).applied < entry.1.generation.number := by
  induction calls generalizing db with
  | nil => simp [acceptedApplications]
  | cons call rest ih =>
    have later (entry : SourceApplication × Readings)
        (member : entry ∈ acceptedApplications (sourceStep db call) rest) :
        (generationState entry.1.generation.source db).applied < entry.1.generation.number :=
      (applied_mono db call schema _).trans_lt (ih _ (sourceStep_wellFormed db call schema) entry member)
    cases call with
    | reserve source now => exact later
    | apply application clock =>
      intro entry member
      rw [acceptedApplications] at member
      split at member
      · rename_i committed
        rcases List.mem_cons.mp member with rfl | inside
        · exact (applied_after schema committed application.generation.source).1
        · exact later entry inside
      · exact later entry member

theorem accepted_increasing (db : Database) (schema : db.WellFormed) (calls : List SourceCall) :
    (acceptedApplications db calls).Pairwise (fun first second =>
      first.1.generation.source = second.1.generation.source →
        first.1.generation.number < second.1.generation.number) := by
  induction calls generalizing db with
  | nil => exact .nil
  | cons call rest ih =>
    have tail := ih _ (sourceStep_wellFormed db call schema)
    cases call with
    | reserve source now => exact tail
    | apply application clock =>
      rw [acceptedApplications]
      split
      · rename_i committed
        refine .cons (fun entry member same => ?_) tail
        have above := accepted_above _ (sourceStep_wellFormed db _ schema) rest entry member
        rw [(applied_after schema committed _).2,if_pos same.symm] at above
        exact above
      · exact tail

/-- From any reachable database, any interleaving of source calls keeps applied
generations within issued ones, accepts strictly increasing numbers, refuses
exactly the applications that must be refused without touching a table, and
ends as if all reservations had come first and only the accepted applications
had then run, in their order and with their clock readings. -/
theorem source_generations_serialize (operations : List Operation) (calls : List SourceCall) :
    let db := Run.run step Database.empty operations
    let final := Run.run sourceStep db calls
    (∀ source, (generationState source final).applied ≤ (generationState source final).issued) ∧
    (acceptedApplications db calls).Pairwise (fun first second =>
      first.1.generation.source = second.1.generation.source →
        first.1.generation.number < second.1.generation.number) ∧
    (∀ application clock, Refused application final →
      ∃ error, (applySourceGeneration application clock).run final = (.error error,final)) ∧
    (∀ application clock, ¬Refused application final →
      ∃ result left, (applySourceGeneration application clock).run final = (.ok result,left)) ∧
    final = Run.run sourceStep (Run.run sourceStep db (calls.filter SourceCall.reserves))
      (replayed (acceptedApplications db calls)) ∧
    acceptedApplications (Run.run sourceStep db (calls.filter SourceCall.reserves))
      (replayed (acceptedApplications db calls)) = acceptedApplications db calls := by
  intro db final
  have schema : db.WellFormed := run_wellFormed empty empty_wellFormed operations
  have finalSchema : final.WellFormed :=
    Run.run_invariant sourceStep WellFormed sourceStep_wellFormed db calls schema
  obtain ⟨serial,again⟩ := serial_run db calls
  refine ⟨fun source => ?_,accepted_increasing db schema calls,?_,?_,serial,again⟩
  · unfold generationState
    cases found : final.generations.get source with
    | none => exact le_rfl
    | some row => exact finalSchema.generationOrder source row found
  · intro application clock refused
    rcases applySourceGeneration_outcome application clock final finalSchema with ⟨_,raised⟩ | ⟨allowed,_⟩
    · exact raised
    · exact absurd refused allowed
  · intro application clock allowed
    rcases applySourceGeneration_outcome application clock final finalSchema with ⟨refused,_⟩ | ⟨_,ran⟩
    · exact absurd refused allowed
    · exact ran

end calls
end Proactive.Store
