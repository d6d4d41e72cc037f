import Proactive.Library.Outcome
import Proactive.Situations.Engine
import Proactive.Store.Lifecycle
import Proactive.Store.Repetition

/-! One evaluation pass as the batches that it applies: the occasions, then a batch for each source
that was read. -/
namespace Proactive.Situations
open Proactive.Library Proactive.Store Database Repetition

section batches
variable [EvidenceJson] {timestamp : Int} {source : SituationSource} {generation : Option Nat} {expected : Option SituationType}
  {summary result : DetectionUpsertSummary} {detections rest : List Detection} {db left : Database} {error : StoreError}

theorem upsertEach_outcomes
    (ran : (upsertEach timestamp expected source generation summary rest).run db = (.ok result,left)) :
    ∃ outcomes, Upserting timestamp source generation rest db outcomes left ∧
      result = outcomes.foldl DetectionUpsertSummary.add summary := by
  induction rest generalizing summary db with
  | nil =>
    obtain ⟨rfl,rfl⟩ := Statement.pure_success _ _ _ _ ran
    exact ⟨[],.done db,rfl⟩
  | cons detection rest ih =>
    unfold upsertEach at ran
    split at ran
    · rw [Statement.run_raise] at ran
      cases ran
    · obtain ⟨outcome,middle,stepped,first⟩ := upsertDetection_steps detection timestamp source generation db
      rw [Statement.run_bind_ok _ _ _ _ _ stepped] at ran
      obtain ⟨outcomes,others,same⟩ := ih ran
      exact ⟨outcome::outcomes,.next first others,same⟩

/-- A batch raises over the type of a detection only. -/
theorem upsertEach_error
    (ran : (upsertEach timestamp expected source generation summary rest).run db = (.error error,left)) :
    ∃ wanted found, error = .detectionSourceMismatch wanted found := by
  induction rest generalizing summary db with
  | nil => simp [upsertEach] at ran
  | cons detection rest ih =>
    unfold upsertEach at ran
    split at ran
    · rename_i wanted _
      rw [Statement.run_raise] at ran
      cases ran
      exact ⟨wanted,_,rfl⟩
    · obtain ⟨outcome,middle,stepped,_⟩ := upsertDetection_steps detection timestamp source generation db
      rw [Statement.run_bind_ok _ _ _ _ _ stepped] at ran
      exact ih ran

omit [EvidenceJson] in
theorem resolveRows_passed {passes : Situation → Bool} {resolved : Nat} {rows : List Situation}
    (passed : ∀ row ∈ rows, passes row = true) :
    (resolveRows passes timestamp resolved rows).run db = (.ok resolved,db) := by
  induction rows with
  | nil => rfl
  | cons row rest ih =>
    unfold resolveRows
    rw [if_pos (passed row List.mem_cons_self)]
    exact ih (fun other member => passed other (List.mem_cons_of_mem row member))

omit [EvidenceJson] in
theorem activeByType_passed {wanted : SituationType} {scope : Option SituationSource} {passes : Situation → Bool}
    (none : ∀ row ∈ db.situations, resolves wanted scope passes row = false) :
    ∀ row ∈ activeByType wanted scope db, passes row = true := by
  intro row member
  obtain ⟨stored,listed⟩ := List.mem_filter.mp member
  have kept := none row stored
  unfold resolves at kept
  rw [listed,Bool.true_and,Bool.not_eq_false'] at kept
  exact kept

omit [EvidenceJson] in
theorem resolveRead_none {application : SourceApplication}
    (none : ∀ row ∈ db.situations, application.resolves row = false) :
    (application.resolveRead timestamp).run db = (.ok 0,db) := by
  have branch {passes : Situation → Bool} (same : application.passes = passes) :
      (resolveRows passes timestamp 0 (activeByType application.expectedType (some application.sourceName) db)).run db =
        (.ok 0,db) := by
    subst same
    exact resolveRows_passed (activeByType_passed none)
  unfold SourceApplication.resolveRead
  by_cases complete : application.status.resolvesAbsent
  · rw [if_pos complete]
    exact branch (funext fun row => by simp [SourceApplication.passes,complete])
  rw [if_neg complete]
  by_cases absent : application.resolveAbsent
  · rw [if_pos absent]
    exact branch (funext fun row => by simp [SourceApplication.passes,complete,absent])
  rw [if_neg absent]
  by_cases listed : application.resolutionScopeIds ≠ []
  · rw [if_pos listed]
    exact branch (funext fun row => by simp [SourceApplication.passes,complete,absent,listed])
  · rw [if_neg listed]
    rfl

/-- The occasions as a batch of the memory. -/
def ofOccasions (occasions : List Detection) : Batch where
  source := .memory
  detections := occasions
  resolves := resolves .personalOccasion (some .memory)
    (fun row => (occasions.map Detection.dedupeKey).contains row.dedupeKey)

/-- An application as a batch of its source. -/
def ofApplication (application : SourceApplication) : Batch :=
  ⟨application.sourceName,application.detections,application.resolves⟩

omit [EvidenceJson] in
theorem ofOccasions_sound (occasions : List Detection) : (ofOccasions occasions).Sound := by
  intro row hit
  simp only [ofOccasions,resolves,Option.all_some,Bool.and_eq_true,beq_iff_eq,Bool.not_eq_true',
    List.contains_eq_mem,decide_eq_false_iff_not] at hit
  exact ⟨hit.1.2,hit.1.1.2,fun detection member same => hit.2 (same ▸ List.mem_map_of_mem member)⟩

omit [EvidenceJson] in
theorem ofApplication_sound (application : SourceApplication) : (ofApplication application).Sound := by
  intro row hit
  obtain ⟨_,sourced,active⟩ := SourceApplication.resolves_own hit
  exact ⟨active,sourced,SourceApplication.resolves_spared hit⟩

omit [EvidenceJson] in
theorem onlySituations_generations {before after : Database} (only : before.SituationsOnly after) :
    after.generations = before.generations := by
  rw [only]

variable {application : SourceApplication} {clock : Readings} {applied : DetectionApplySummary}

theorem applyLocalDetections_ran (schema : db.WellFormed)
    (ran : (applyLocalDetections detections timestamp).run db = (.ok applied,left)) :
    (ofOccasions detections).Ran applied db left ∧ left.WellFormed ∧ left.generations = db.generations ∧
      ∀ detection ∈ detections, detection.situationType = .personalOccasion := by
  have kept : left.WellFormed := by
    have whole := run_wellFormed db schema [.applyLocalDetections detections timestamp]
    change ((applyLocalDetections detections timestamp).run db).2.WellFormed at whole
    rwa [ran] at whole
  rw [applyLocalDetections,Statement.immediate_success] at ran
  obtain ⟨summary,middle,batch,ran⟩ := Statement.bind_success _ _ _ _ _ ran
  obtain ⟨only,middleSchema,_,typed⟩ := upsertBatch_success _ _ _ _ _ _ _ _ schema batch
  obtain ⟨outcomes,upserts,rfl⟩ := upsertEach_outcomes batch
  obtain ⟨count,resolved⟩ := resolveActive_run .personalOccasion (some .memory)
    (fun row => (detections.map Detection.dedupeKey).contains row.dedupeKey) timestamp middle middleSchema
  have whole : (resolve .personalOccasion (detections.map Detection.dedupeKey) timestamp (some .memory)).run middle = _ :=
    resolved
  rw [Statement.run_bind_ok _ _ _ _ _ whole] at ran
  obtain ⟨rfl,rfl⟩ := Statement.pure_success _ _ _ _ ran
  have generations := onlySituations_generations only
  refine ⟨?_,kept,generations,fun detection member => typed detection member _ rfl⟩
  refine .applied schema rfl rfl upserts rfl rfl (fun none => ?_)
  rw [resolveRows_passed (activeByType_passed none)] at resolved
  exact (Except.ok.inj (congrArg Prod.fst resolved)).symm

/-- Occasions are never raised over. -/
theorem applyLocalDetections_runs (timestamp : Int) (schema : db.WellFormed)
    (typed : ∀ detection ∈ detections, detection.situationType = .personalOccasion) :
    ∃ applied left, (applyLocalDetections detections timestamp).run db = (.ok applied,left) := by
  obtain ⟨summary,middle,batch⟩ : ∃ summary middle,
      (upsertBatch detections timestamp (some .personalOccasion) .memory none).run db = (.ok summary,middle) :=
    upsertEach_runs typed .zero db
  obtain ⟨_,kept,_,_⟩ := upsertBatch_success _ _ _ _ _ _ _ _ schema batch
  obtain ⟨count,resolved⟩ := resolveActive_run .personalOccasion (some .memory)
    (fun row => (detections.map Detection.dedupeKey).contains row.dedupeKey) timestamp middle kept
  have whole : (resolve .personalOccasion (detections.map Detection.dedupeKey) timestamp (some .memory)).run middle = _ :=
    resolved
  simp only [applyLocalDetections,Statement.immediate_success]
  rw [Statement.run_bind_ok _ _ _ _ _ batch,Statement.run_bind_ok _ _ _ _ _ whole]
  exact ⟨_,_,rfl⟩

theorem applySourceGeneration_ran (schema : db.WellFormed)
    (ran : (applySourceGeneration application clock).run db = (.ok applied,left)) :
    (ofApplication application).Ran applied db left ∧ left.WellFormed ∧
      left.generations = (db.acceptedAs application.generation application.status clock.acceptedAt).generations := by
  have kept : left.WellFormed := by
    have whole := run_wellFormed db schema [.applySourceGeneration application clock]
    change ((applySourceGeneration application clock).run db).2.WellFormed at whole
    rwa [ran] at whole
  rw [applySourceGeneration,Statement.immediate_success] at ran
  obtain ⟨_,start,first,ran⟩ := Statement.bind_success _ _ _ _ _ ran
  obtain ⟨_,admitted,rfl⟩ := (acceptSourceGeneration_success _ _ _ _ _ _ _).mp first
  obtain ⟨summary,middle,batch,ran⟩ := Statement.bind_success _ _ _ _ _ ran
  have accepted := schema.sourceAccepted application.generation application.status application.diagnostics
    clock.acceptedAt admitted
  obtain ⟨only,middleSchema,_,_⟩ := upsertBatch_success _ _ _ _ _ _ _ _ accepted batch
  obtain ⟨outcomes,upserts,rfl⟩ := upsertEach_outcomes batch
  obtain ⟨count,resolved⟩ := resolveRead_run application clock.timestamp middle middleSchema
  rw [Statement.run_bind_ok _ _ _ _ _ resolved] at ran
  obtain ⟨rows,recorded⟩ := recordSync_run application clock.recordedAt {middle with
    situations := Table.updateWhere application.resolves (.resolved clock.timestamp) middle.situations}
  rw [Statement.run_bind_ok _ _ _ _ _ recorded] at ran
  obtain ⟨rfl,rfl⟩ := Statement.pure_success _ _ _ _ ran
  have generations := onlySituations_generations only
  refine ⟨?_,kept,generations⟩
  refine .applied accepted rfl rfl upserts rfl rfl (fun none => ?_)
  rw [resolveRead_none none] at resolved
  exact (Except.ok.inj (congrArg Prod.fst resolved)).symm

/-- What the store asks of an application besides its generation: no table decides it. -/
def Acceptable (application : SourceApplication) : Prop :=
  (∀ detection ∈ application.detections, detection.situationType = application.expectedType) ∧
    allowsDiagnostics application.generation.source application.diagnostics = true

omit [EvidenceJson] in
theorem refused_iff (admitted : db.admits application.generation = true) :
    Refused application db ↔ ¬Acceptable application := by
  have numbers := (admits_iff _ _).mp admitted
  unfold Refused Acceptable
  constructor
  · rintro (delayed | unreserved | ⟨detection,member,wrong⟩ | forbidden) ⟨typed,allowed⟩
    · omega
    · omega
    · exact wrong (typed detection member)
    · rw [allowed] at forbidden
      cases forbidden
  · intro unacceptable
    by_contra accepted
    simp only [not_or,not_exists,not_and,not_not] at accepted
    exact unacceptable ⟨accepted.2.2.1,by simpa using accepted.2.2.2⟩

/-- What is not acceptable is raised over, and not as delayed. -/
theorem applySourceGeneration_unacceptable (clock : Readings) (schema : db.WellFormed)
    (admitted : db.admits application.generation = true) (unacceptable : ¬Acceptable application) :
    ∃ error, (applySourceGeneration application clock).run db = (.error error,db) ∧
      ∀ number applied, error ≠ .delayedSourceGeneration number applied := by
  by_cases allowed : allowsDiagnostics application.generation.source application.diagnostics = true
  · have accepted := (acceptSourceGeneration_success application.generation application.status
      application.diagnostics clock.acceptedAt db _ ()).mpr ⟨allowed,admitted,rfl⟩
    cases batch : (upsertBatch application.detections clock.timestamp (some application.expectedType)
        application.sourceName (some application.generation.number)).run
          (db.sourceAccepted application.generation application.status application.diagnostics clock.acceptedAt) with
    | mk outcome middle =>
      cases outcome with
      | ok summary =>
        have started := schema.sourceAccepted application.generation application.status application.diagnostics
          clock.acceptedAt admitted
        obtain ⟨_,_,_,typed⟩ := upsertBatch_success _ _ _ _ _ _ _ _ started batch
        exact absurd ⟨fun detection member => typed detection member _ rfl,allowed⟩ unacceptable
      | error error =>
        obtain ⟨wanted,found,rfl⟩ := upsertEach_error batch
        have raised : (application.body clock).run db = (.error (.detectionSourceMismatch wanted found),middle) := by
          rw [SourceApplication.body,Statement.run_bind_ok _ _ _ _ _ accepted,Statement.run_bind,batch]
        exact ⟨_,Statement.immediate_error _ _ _ _ raised,by simp⟩
  · have raised : (application.body clock).run db = (.error .invalidSourceReadDiagnostics,db) := by
      rw [SourceApplication.body,acceptSourceGeneration,Statement.run_bind,Statement.run_bind,checkDiagnostics_run,
        if_neg allowed]
    exact ⟨_,Statement.immediate_error _ _ _ _ raised,by simp⟩

end batches

/-- What the detectors find in the inbox that a pass has read. -/
def gmailFinding (detectors : Detectors) (now : Int) (inputs : EngineInputs) : Except Raised (Option SourceApplication) :=
  match inputs.gmailThreads with
  | none => .ok none
  | some gmail => (detectors.detectReplyDeadlines gmail.items now).map (fun detections =>
    some (gmailApplication gmail inputs.gmailDiagnostics detections))

def calendarFinding (detectors : Detectors) (now : Int) (inputs : EngineInputs) :
    Except Raised (Option SourceApplication) :=
  match inputs.calendarEvents with
  | none => .ok none
  | some calendar => (detectors.runCalendarConflictDetection calendar.items now).map (fun conflicts =>
    some (calendarApplication calendar conflicts))

/-- Everything a pass applies. -/
structure Findings where
  occasions : List Detection
  gmail : Option SourceApplication
  calendar : Option SourceApplication

namespace Findings

def applications (findings : Findings) : List SourceApplication := findings.gmail.toList ++ findings.calendar.toList

def batches (findings : Findings) : List Batch := ofOccasions findings.occasions::findings.applications.map ofApplication

/-- What the store takes from any database that admits the generations. -/
structure Acceptable (findings : Findings) : Prop where
  occasions : ∀ detection ∈ findings.occasions, detection.situationType = .personalOccasion
  applications : ∀ application ∈ findings.applications, Situations.Acceptable application

end Findings

def findings (detectors : Detectors) (now : Int) (inputs : EngineInputs) : Except Raised Findings := do
  let occasions ← detectors.detectPersonalOccasions now
  let gmail ← gmailFinding detectors now inputs
  let calendar ← calendarFinding detectors now inputs
  return ⟨occasions,gmail,calendar⟩

def SourceSnapshot.renumbered {item : Type} (number : Nat) (snapshot : SourceSnapshot item) : SourceSnapshot item :=
  {snapshot with generation := ⟨snapshot.generation.source,number⟩}

/-- The same inputs, read for other generations of their sources. -/
def EngineInputs.renumbered (gmail calendar : Nat) (inputs : EngineInputs) : EngineInputs :=
  {inputs with
    gmailThreads := inputs.gmailThreads.map (.renumbered gmail)
    calendarEvents := inputs.calendarEvents.map (.renumbered calendar)}

def renumbered (number : Nat) (application : SourceApplication) : SourceApplication :=
  {application with generation := ⟨application.generation.source,number⟩}

def Findings.renumbered (gmail calendar : Nat) (found : Findings) : Findings :=
  ⟨found.occasions,found.gmail.map (Situations.renumbered gmail),found.calendar.map (Situations.renumbered calendar)⟩

/-- What is found does not depend on the numbers of the generations. -/
theorem findings_renumbered (detectors : Detectors) (now : Int) (inputs : EngineInputs) (gmail calendar : Nat) :
    findings detectors now (inputs.renumbered gmail calendar) =
      (findings detectors now inputs).map (Findings.renumbered gmail calendar) := by
  have inbox : gmailFinding detectors now (inputs.renumbered gmail calendar) =
      (gmailFinding detectors now inputs).map (Option.map (Situations.renumbered gmail)) := by
    unfold gmailFinding EngineInputs.renumbered
    cases inputs.gmailThreads with
    | none => rfl
    | some snapshot =>
      simp only [Option.map_some,SourceSnapshot.renumbered]
      cases detectors.detectReplyDeadlines snapshot.items now <;> rfl
  have events : calendarFinding detectors now (inputs.renumbered gmail calendar) =
      (calendarFinding detectors now inputs).map (Option.map (Situations.renumbered calendar)) := by
    unfold calendarFinding EngineInputs.renumbered
    cases inputs.calendarEvents with
    | none => rfl
    | some snapshot =>
      simp only [Option.map_some,SourceSnapshot.renumbered]
      cases detectors.runCalendarConflictDetection snapshot.items now <;> rfl
  unfold findings
  rw [inbox,events]
  cases detectors.detectPersonalOccasions now with
  | error error => rfl
  | ok occasions =>
    cases gmailFinding detectors now inputs with
    | error error => rfl
    | ok inbox => cases calendarFinding detectors now inputs <;> rfl

namespace Findings

theorem renumbered_batches (gmail calendar : Nat) (found : Findings) :
    (found.renumbered gmail calendar).batches = found.batches := by
  unfold batches applications renumbered
  cases found.gmail <;> cases found.calendar <;> rfl

theorem renumbered_acceptable (gmail calendar : Nat) (found : Findings) :
    (found.renumbered gmail calendar).Acceptable ↔ found.Acceptable := by
  obtain ⟨occasions,inbox,events⟩ := found
  have same (number : Nat) (application : SourceApplication) :
      Situations.Acceptable (Situations.renumbered number application) ↔ Situations.Acceptable application := Iff.rfl
  have all : (∀ application ∈ (Findings.renumbered gmail calendar ⟨occasions,inbox,events⟩).applications,
      Situations.Acceptable application) ↔
        ∀ application ∈ (Findings.mk occasions inbox events).applications, Situations.Acceptable application := by
    cases inbox <;> cases events <;> simp [applications,renumbered,same]
  exact ⟨fun ⟨typed,acceptable⟩ => ⟨typed,all.mp acceptable⟩,fun ⟨typed,acceptable⟩ => ⟨typed,all.mpr acceptable⟩⟩

end Findings

/-- The generation may be applied, and is one of the source. -/
def Admitted (source : SourceName) (db : Database) (generation : SourceGeneration) : Prop :=
  generation.source = source ∧ db.admits generation = true

/-- The generations of a pass may be applied. -/
structure Admits (inputs : EngineInputs) (db : Database) : Prop where
  gmail : ∀ snapshot ∈ inputs.gmailThreads, Admitted .gmail db snapshot.generation
  calendar : ∀ snapshot ∈ inputs.calendarEvents, Admitted .calendar db snapshot.generation

theorem Admitted.congr {source : SourceName} {db left : Database} {generation : SourceGeneration}
    (admitted : Admitted source db generation) (same : left.generations.get source = db.generations.get source) :
    Admitted source left generation := by
  refine ⟨admitted.1,?_⟩
  have before := admitted.2
  unfold Database.admits at before ⊢
  rwa [admitted.1,same,← admitted.1]

section passes
variable [EvidenceJson] {detectors : Detectors} {readings : PassReadings} {inputs : EngineInputs} {db left : Database}
  {source other : SourceName} {finding : Except Raised (Option SourceApplication)} {stage : Pass SourcePass}

/-- A stage that succeeds exactly on an acceptable finding, which it then applies. -/
structure Applies (source : SourceName) (stage : Pass SourcePass) (finding : Except Raised (Option SourceApplication))
    (db : Database) : Prop where
  acceptable : ∀ outcome left, stage.run db = (.ok outcome,left) →
    ∃ found, finding = .ok found ∧ ∀ application ∈ found, Acceptable application
  applied : ∀ found, finding = .ok found → (∀ application ∈ found, Acceptable application) →
    ∃ summaries warnings left, stage.run db = (.ok (summaries,warnings),left) ∧
      Passed (found.toList.map ofApplication) summaries db left ∧ left.WellFormed ∧
      ∀ other, other ≠ source → left.generations.get other = db.generations.get other

theorem applies_skipped (schema : db.WellFormed) : Applies source (return ([],[])) (.ok none) db where
  acceptable _ _ _ := ⟨none,rfl,fun _ member => by cases member⟩
  applied := by
    rintro found same _
    cases same
    exact ⟨[],[],db,rfl,.done db,schema,fun _ _ => rfl⟩

theorem applies_raised {error : EvaluationError} {raised : Raised} :
    Applies source (Statement.raise error) (.error raised) db where
  acceptable _ _ ran := by
    rw [Statement.run_raise] at ran
    cases ran
  applied _ same := by cases same

theorem applies_ordered {application : SourceApplication} {clock : Readings} {warnings : List String}
    (schema : db.WellFormed) (admitted : Admitted source db application.generation) :
    Applies source (applyOrdered source application clock warnings) (.ok (some application)) db := by
  obtain ⟨sourced,admits⟩ := admitted
  constructor
  · intro outcome left ran
    refine ⟨_,rfl,?_⟩
    rintro _ ⟨⟩
    by_contra unacceptable
    obtain ⟨error,raised,undelayed⟩ := applySourceGeneration_unacceptable clock schema admits unacceptable
    unfold applyOrdered at ran
    rw [Statement.run_attempt_bind,raised] at ran
    cases error with
    | delayedSourceGeneration number applied => exact undelayed number applied rfl
    | _ => cases ran
  · rintro _ ⟨⟩ acceptable
    rcases applySourceGeneration_outcome application clock db schema with ⟨refused,_⟩ | ⟨_,applied,left,ran⟩
    · exact absurd (acceptable application rfl) ((refused_iff admits).mp refused)
    obtain ⟨batch,kept,generations⟩ := applySourceGeneration_ran schema ran
    refine ⟨[applied],warnings,left,?_,.next batch (.done left),kept,fun other different => ?_⟩
    · unfold applyOrdered
      rw [Statement.run_attempt_bind,ran]
      rfl
    · rw [generations,acceptedAs,BySource.get_set,if_neg]
      rw [sourced]
      exact different

theorem evaluateGmail_applies (schema : db.WellFormed)
    (admitted : ∀ snapshot ∈ inputs.gmailThreads, Admitted .gmail db snapshot.generation) :
    Applies .gmail (evaluateGmail detectors readings inputs) (gmailFinding detectors readings.now inputs) db := by
  unfold evaluateGmail gmailFinding
  cases present : inputs.gmailThreads with
  | none => exact applies_skipped schema
  | some gmail =>
    dsimp only
    cases detectors.detectReplyDeadlines gmail.items readings.now with
    | error error => exact applies_raised
    | ok detections => exact applies_ordered schema (admitted gmail present)

theorem evaluateCalendar_applies (schema : db.WellFormed)
    (admitted : ∀ snapshot ∈ inputs.calendarEvents, Admitted .calendar db snapshot.generation) :
    Applies .calendar (evaluateCalendar detectors readings inputs) (calendarFinding detectors readings.now inputs) db := by
  unfold evaluateCalendar calendarFinding
  cases present : inputs.calendarEvents with
  | none => exact applies_skipped schema
  | some calendar =>
    dsimp only
    cases detectors.runCalendarConflictDetection calendar.items readings.now with
    | error error => exact applies_raised
    | ok conflicts => exact applies_ordered schema (admitted calendar present)

/-- What the clock has done to the rows before anything is detected. -/
def opened (readings : PassReadings) (db : Database) : Database :=
  Run.run step db [.wakeSnoozed readings.wokenAt,.expireLapsed readings.expiredAt]

theorem opened_wellFormed (readings : PassReadings) (schema : db.WellFormed) : (opened readings db).WellFormed := run_wellFormed db schema _

theorem opened_generations (readings : PassReadings) (db : Database) :
    (opened readings db).generations = db.generations := rfl

theorem openPass_run (detectors : Detectors) (readings : PassReadings) (db : Database) : ∃ woken expired,
    (openPass detectors readings).run db = (do
      let occasions ← detected (detectors.detectPersonalOccasions readings.now)
      let summary ← stored (applyLocalDetections occasions readings.localAt)
      return (woken,expired,summary) : Pass (Nat × Nat × DetectionApplySummary)).run (opened readings db) ∧
    (Awake readings.wokenAt db → Unlapsed readings.expiredAt db → woken = 0 ∧ expired = 0 ∧ opened readings db = db) := by
  have woken : (stored (wakeSnoozed readings.wokenAt)).run db =
      (.ok (db.situations.countP (Situation.due readings.wokenAt)),step db (.wakeSnoozed readings.wokenAt)) := stored_run _ _
  have expired (left : Database) : (stored (expireLapsed readings.expiredAt)).run left =
      (.ok (left.situations.countP (Situation.stale readings.expiredAt)),step left (.expireLapsed readings.expiredAt)) :=
    stored_run _ _
  refine ⟨db.situations.countP (Situation.due readings.wokenAt),
    (step db (.wakeSnoozed readings.wokenAt)).situations.countP (Situation.stale readings.expiredAt),?_,
    fun awake unlapsed => ?_⟩
  · unfold openPass
    rw [Statement.run_bind_ok _ _ _ _ _ woken,Statement.run_bind_ok _ _ _ _ _ (expired _)]
    rfl
  · have slept : step db (.wakeSnoozed readings.wokenAt) = db := by
      change {db with situations := Table.updateWhere _ _ db.situations} = db
      rw [Table.updateWhere_none _ _ _ awake]
    have kept : step db (.expireLapsed readings.expiredAt) = db := by
      change {db with situations := Table.updateWhere (Situation.stale readings.expiredAt) _ db.situations} = db
      rw [Table.updateWhere_none _ _ _ unlapsed]
    refine ⟨?_,?_,?_⟩
    · rw [List.countP_eq_zero]
      exact fun row member => by simp [awake row member]
    · rw [slept,List.countP_eq_zero]
      exact fun row member => by simp [unlapsed row member]
    · unfold opened
      rw [Run.run_cons,Run.run_cons,Run.run_nil,slept,kept]

omit [EvidenceJson] in
theorem findings_ok {found : Findings} : findings detectors readings.now inputs = .ok found ↔
    detectors.detectPersonalOccasions readings.now = .ok found.occasions ∧
      gmailFinding detectors readings.now inputs = .ok found.gmail ∧
      calendarFinding detectors readings.now inputs = .ok found.calendar := by
  obtain ⟨occasions,gmail,calendar⟩ := found
  unfold findings
  cases detectors.detectPersonalOccasions readings.now with
  | error error => simp [bind,Except.bind]
  | ok seen =>
    cases gmailFinding detectors readings.now inputs with
    | error error => simp [bind,Except.bind]
    | ok inbox =>
      cases calendarFinding detectors readings.now inputs with
      | error error => simp [bind,Except.bind]
      | ok events => simp [bind,Except.bind,pure,Except.pure]

/-- The first stage ends well exactly on occasions, which it then applies. -/
theorem openPass_ok {woken expired : Nat} {summary : DetectionApplySummary} (schema : db.WellFormed)
    (ran : (openPass detectors readings).run db = (.ok (woken,expired,summary),left)) :
    ∃ occasions, detectors.detectPersonalOccasions readings.now = .ok occasions ∧
      (∀ detection ∈ occasions, detection.situationType = .personalOccasion) ∧
      (ofOccasions occasions).Ran summary (opened readings db) left ∧ left.WellFormed ∧
      left.generations = db.generations ∧
      (Awake readings.wokenAt db → Unlapsed readings.expiredAt db → woken = 0 ∧ expired = 0 ∧ opened readings db = db) := by
  obtain ⟨_,_,first,still⟩ := openPass_run detectors readings db
  rw [first] at ran
  cases found : detectors.detectPersonalOccasions readings.now with
  | error error =>
    rw [found,Statement.run_bind,detected_run] at ran
    cases ran
  | ok occasions =>
    rw [found,Statement.run_bind_ok _ _ _ _ _ (detected_run (.ok occasions) _)] at ran
    obtain ⟨applied,middle,local_,ran⟩ := Statement.bind_success _ _ _ _ _ ran
    obtain ⟨same,rfl⟩ := Statement.pure_success _ _ _ _ ran
    cases same
    obtain ⟨batch,kept,generations,typed⟩ := applyLocalDetections_ran (opened_wellFormed readings schema)
      ((stored_success _ _ _ _).mp local_)
    exact ⟨occasions,rfl,typed,batch,kept,generations.trans (opened_generations readings db),still⟩

theorem openPass_applies {occasions : List Detection} (schema : db.WellFormed)
    (found : detectors.detectPersonalOccasions readings.now = .ok occasions)
    (typed : ∀ detection ∈ occasions, detection.situationType = .personalOccasion) :
    ∃ opening left, (openPass detectors readings).run db = (.ok opening,left) := by
  obtain ⟨woken,expired,first,_⟩ := openPass_run detectors readings db
  obtain ⟨applied,left,ran⟩ := applyLocalDetections_runs readings.localAt
    (opened_wellFormed readings schema) typed
  have local_ := (stored_success _ _ _ _).mpr ran
  rw [first,found,Statement.run_bind_ok _ _ _ _ _ (detected_run (.ok occasions) _),
    Statement.run_bind_ok _ _ _ _ _ local_]
  exact ⟨_,_,rfl⟩

omit [EvidenceJson] in
theorem gmailFinding_generation {application : SourceApplication}
    (found : gmailFinding detectors readings.now inputs = .ok (some application)) :
    ∃ snapshot ∈ inputs.gmailThreads, application.generation = snapshot.generation := by
  unfold gmailFinding at found
  cases present : inputs.gmailThreads with
  | none => simp [present] at found
  | some gmail =>
    rw [present] at found
    obtain ⟨detections,_,same⟩ := (Outcome.map_ok_iff _ _ _).mp found
    obtain rfl := Option.some.inj same
    exact ⟨gmail,rfl,rfl⟩

omit [EvidenceJson] in
theorem calendarFinding_generation {application : SourceApplication}
    (found : calendarFinding detectors readings.now inputs = .ok (some application)) :
    ∃ snapshot ∈ inputs.calendarEvents, application.generation = snapshot.generation := by
  unfold calendarFinding at found
  cases present : inputs.calendarEvents with
  | none => simp [present] at found
  | some calendar =>
    rw [present] at found
    obtain ⟨conflicts,_,same⟩ := (Outcome.map_ok_iff _ _ _).mp found
    obtain rfl := Option.some.inj same
    exact ⟨calendar,rfl,rfl⟩

omit [EvidenceJson] in
/-- Each source has at most one batch, and each batch resolves rows of its own source only. -/
theorem findings_regular {found : Findings} (admits : Admits inputs db)
    (finds : findings detectors readings.now inputs = .ok found) : Regular found.batches := by
  obtain ⟨occasions,gmail,calendar⟩ := found
  obtain ⟨_,read,listed⟩ := findings_ok.mp finds
  have inbox : ∀ application ∈ gmail, application.sourceName = .gmail := by
    intro application same
    obtain ⟨snapshot,member,generation⟩ := gmailFinding_generation (same ▸ read)
    unfold SourceApplication.sourceName
    rw [generation,(admits.gmail snapshot member).1]
    rfl
  have events : ∀ application ∈ calendar, application.sourceName = .calendar := by
    intro application same
    obtain ⟨snapshot,member,generation⟩ := calendarFinding_generation (same ▸ listed)
    unfold SourceApplication.sourceName
    rw [generation,(admits.calendar snapshot member).1]
    rfl
  constructor
  · change (SituationSource.memory::((gmail.toList ++ calendar.toList).map ofApplication).map Batch.source).Nodup
    cases gmail <;> cases calendar <;> simp_all [ofApplication]
  · intro batch member
    rcases List.mem_cons.mp member with rfl | later
    · exact ofOccasions_sound occasions
    · obtain ⟨application,_,rfl⟩ := List.mem_map.mp later
      exact ofApplication_sound application

/-- A pass that succeeds has found what the store takes. -/
theorem evaluate_acceptable {result : EvaluationResult} (schema : db.WellFormed) (admits : Admits inputs db)
    (ran : (evaluate detectors readings inputs).run db = (.ok result,left)) :
    ∃ found, findings detectors readings.now inputs = .ok found ∧ found.Acceptable := by
  obtain ⟨⟨woken,expired,summary⟩,started,opening,ran⟩ := Statement.bind_success _ _ _ _ _ ran
  obtain ⟨occasions,seen,typed,_,kept,generations,_⟩ := openPass_ok schema opening
  obtain ⟨_,later,inbox,ran⟩ := Statement.bind_success _ _ _ _ _ ran
  have gmailStage : Applies .gmail (evaluateGmail detectors readings inputs) (gmailFinding detectors readings.now inputs) started :=
    evaluateGmail_applies kept (fun snapshot member => (admits.gmail snapshot member).congr (by rw [generations]))
  obtain ⟨gmail,read,gmailAcceptable⟩ := gmailStage.acceptable _ _ inbox
  obtain ⟨_,_,_,same,_,keptLater,others⟩ := gmailStage.applied gmail read gmailAcceptable
  rw [inbox] at same
  cases same
  obtain ⟨_,_,events,_⟩ := Statement.bind_success _ _ _ _ _ ran
  have calendarStage : Applies .calendar (evaluateCalendar detectors readings inputs)
      (calendarFinding detectors readings.now inputs) later :=
    evaluateCalendar_applies keptLater (fun snapshot member => (admits.calendar snapshot member).congr
      ((others .calendar (by decide)).trans (by rw [generations])))
  obtain ⟨calendar,listed,calendarAcceptable⟩ := calendarStage.acceptable _ _ events
  refine ⟨⟨occasions,gmail,calendar⟩,findings_ok.mpr ⟨seen,read,listed⟩,typed,fun application member => ?_⟩
  rcases List.mem_append.mp member with one | two
  · exact gmailAcceptable application (Option.mem_toList.mp one)
  · exact calendarAcceptable application (Option.mem_toList.mp two)

/-- A pass over acceptable findings applies them, each as a batch. -/
theorem evaluate_applies {found : Findings} (schema : db.WellFormed) (admits : Admits inputs db)
    (finds : findings detectors readings.now inputs = .ok found) (acceptable : found.Acceptable) :
    ∃ result summaries left, (evaluate detectors readings inputs).run db = (.ok result,left) ∧
      Passed found.batches summaries (opened readings db) left ∧
      result.created = (summaries.map (fun item => item.upsert.created)).sum ∧
      result.reactivated = (summaries.map (fun item => item.upsert.reactivated)).sum ∧
      result.resolved = (summaries.map DetectionApplySummary.resolved).sum ∧
      (Awake readings.wokenAt db → Unlapsed readings.expiredAt db →
        result.woken = 0 ∧ result.expired = 0 ∧ opened readings db = db) := by
  obtain ⟨seen,read,listed⟩ := findings_ok.mp finds
  obtain ⟨⟨woken,expired,summary⟩,started,opening⟩ := openPass_applies schema seen acceptable.occasions
  obtain ⟨occasions,same,_,batch,kept,generations,still⟩ := openPass_ok schema opening
  obtain rfl := Except.ok.inj (seen.symm.trans same)
  have gmailStage : Applies .gmail (evaluateGmail detectors readings inputs) (gmailFinding detectors readings.now inputs) started :=
    evaluateGmail_applies kept (fun snapshot member => (admits.gmail snapshot member).congr (by rw [generations]))
  obtain ⟨inboxSummaries,inboxWarnings,later,inbox,inboxPassed,keptLater,others⟩ := gmailStage.applied found.gmail read
    (fun application member => acceptable.applications application
      (List.mem_append_left _ (Option.mem_toList.mpr member)))
  have calendarStage : Applies .calendar (evaluateCalendar detectors readings inputs)
      (calendarFinding detectors readings.now inputs) later :=
    evaluateCalendar_applies keptLater (fun snapshot member => (admits.calendar snapshot member).congr
      ((others .calendar (by decide)).trans (by rw [generations])))
  obtain ⟨eventSummaries,eventWarnings,left,events,eventsPassed,_,_⟩ := calendarStage.applied found.calendar listed
    (fun application member => acceptable.applications application
      (List.mem_append_right _ (Option.mem_toList.mpr member)))
  have passed : Passed found.batches (summary::(inboxSummaries ++ eventSummaries)) (opened readings db) left := by
    unfold Findings.batches Findings.applications
    rw [List.map_append]
    exact .next batch (inboxPassed.append eventsPassed)
  unfold evaluate
  rw [Statement.run_bind_ok _ _ _ _ _ opening]
  dsimp only
  rw [Statement.run_bind_ok _ _ _ _ _ inbox,Statement.run_bind_ok _ _ _ _ _ events]
  exact ⟨_,_,left,rfl,passed,rfl,rfl,rfl,still⟩

end passes
end Proactive.Situations
