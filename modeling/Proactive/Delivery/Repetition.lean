import Proactive.Delivery.Evaluation
import Proactive.Situations.Repetition
import Proactive.Sources.GoogleEvaluation

/-! Passes that see again what a pass has seen: they find nothing to do. -/
namespace Proactive.Delivery
open Proactive.Library Proactive.Store Proactive.Situations Proactive.Sources Database Repetition

/-- What a pass does about its sources. -/
inductive SourceRead
  | performed (dependencies : EvaluationDependencies)
  | skipped (reason : SourceSkipReason)

namespace SourceRead

def prepareSources : SourceRead → Pass SourceOutcome
  | .performed dependencies => do
    let inputs ← dependencies.prepareEvaluation
    return .prepared inputs
  | .skipped reason => return .skipped reason

/-- The inputs that the read gives under the numbers of two generations. -/
def inputs (read : SourceRead) (gmail calendar : Nat) : Except Raised EngineInputs :=
  match read with
  | .performed dependencies => dependencies.readSources ⟨.gmail,gmail⟩ ⟨.calendar,calendar⟩
  | .skipped _ => .ok .skipped

theorem admitted_issue {source : SourceName} {now : Int} {db : Database} (schema : db.WellFormed) :
    Admitted source (db.issue source now) (nextGeneration source db) := by
  refine ⟨rfl,?_⟩
  rw [admits_iff]
  unfold nextGeneration generationState
  simp only [issue,BySource.get_set,if_pos,Option.getD_some]
  cases found : db.generations.get source with
  | none => exact ⟨Nat.zero_lt_one,Nat.le_refl _⟩
  | some row => exact ⟨Nat.lt_succ_of_le (schema.generationOrder source row found),Nat.le_refl _⟩

variable {dependencies : EvaluationDependencies} {read : SourceRead} {db : Database}

/-- The snapshots carry the generations that they were read for. -/
theorem readSources_generations {gmail calendar : SourceGeneration} {inputs : EngineInputs}
    (ran : dependencies.readSources gmail calendar = .ok inputs) :
    (∀ snapshot ∈ inputs.gmailThreads, snapshot.generation = gmail) ∧
      ∀ snapshot ∈ inputs.calendarEvents, snapshot.generation = calendar := by
  unfold EvaluationDependencies.readSources at ran
  cases inbox : dependencies.gmailReading <;> cases events : dependencies.calendarReading <;>
    simp only [inbox,events,Except.ok.injEq,reduceCtorEq] at ran <;> subst ran <;>
    exact ⟨fun snapshot same => by cases same; rfl,fun snapshot same => by cases same; rfl⟩

theorem readSources_renumbered (gmail calendar : Nat) :
    dependencies.readSources ⟨.gmail,gmail⟩ ⟨.calendar,calendar⟩ =
      (dependencies.readSources ⟨.gmail,0⟩ ⟨.calendar,0⟩).map (EngineInputs.renumbered gmail calendar) := by
  unfold EvaluationDependencies.readSources
  cases dependencies.gmailReading <;> cases dependencies.calendarReading <;> rfl

theorem inputs_renumbered (read : SourceRead) (gmail calendar : Nat) :
    read.inputs gmail calendar = (read.inputs 0 0).map (EngineInputs.renumbered gmail calendar) := by
  cases read with
  | performed dependencies => exact readSources_renumbered gmail calendar
  | skipped reason => rfl

/-- Preparing the sources reserves generations, and touches no row and no delivery. -/
theorem prepareSources_run (read : SourceRead) (schema : db.WellFormed) : ∃ gmail calendar started,
    (started.WellFormed ∧ started.situations = db.situations ∧ started.deliveries = db.deliveries) ∧
    (∀ outcome left, read.prepareSources.run db = (.ok outcome,left) →
      ∃ inputs, read.inputs gmail calendar = .ok inputs) ∧
    ∀ inputs, read.inputs gmail calendar = .ok inputs → Admits inputs started ∧
      ∃ outcome, outcome.inputs = inputs ∧ read.prepareSources.run db = (.ok outcome,started) := by
  cases read with
  | skipped reason =>
    refine ⟨0,0,db,⟨schema,rfl,rfl⟩,fun _ _ _ => ⟨_,rfl⟩,?_⟩
    rintro _ ⟨⟩
    exact ⟨⟨fun _ member => (nomatch member),fun _ member => (nomatch member)⟩,.skipped reason,rfl,rfl⟩
  | performed dependencies =>
    have reserved := schema.issue .gmail dependencies.gmailReservedAt
    refine ⟨(generationState .gmail db).issued + 1,
      (generationState .calendar (db.issue .gmail dependencies.gmailReservedAt)).issued + 1,_,
      ⟨reserved.issue .calendar dependencies.calendarReservedAt,rfl,rfl⟩,fun outcome left ran => ?_,
      fun inputs read => ⟨?_,.prepared inputs,rfl,?_⟩⟩
    · obtain ⟨inputs,_,prepared,_⟩ := Statement.bind_success _ _ _ _ _ ran
      exact ⟨inputs,EvaluationDependencies.prepareEvaluation_ok (congrArg Prod.fst prepared)⟩
    · obtain ⟨inbox,events⟩ := readSources_generations read
      refine ⟨fun snapshot member => ?_,fun snapshot member => ?_⟩
      · rw [inbox snapshot member]
        exact (admitted_issue schema).congr rfl
      · rw [events snapshot member]
        exact admitted_issue reserved
    · have prepared := dependencies.prepareEvaluation_run db
      unfold prepareSources
      rw [Statement.run_bind,prepared]
      dsimp only
      change dependencies.readSources (nextGeneration .gmail db)
        (nextGeneration .calendar (db.issue .gmail dependencies.gmailReservedAt)) = .ok inputs at read
      rw [read]
      rfl

theorem prepareSources_keeps (read : SourceRead) : read.prepareSources.Keeps WellFormed := by
  intro db schema
  cases read with
  | skipped reason => exact schema
  | performed dependencies =>
    have reserved := (schema.issue .gmail dependencies.gmailReservedAt).issue .calendar dependencies.calendarReservedAt
    unfold prepareSources
    rw [Statement.run_bind,dependencies.prepareEvaluation_run]
    dsimp only
    cases dependencies.readSources (nextGeneration .gmail db)
      (nextGeneration .calendar (db.issue .gmail dependencies.gmailReservedAt)) <;> exact reserved

def provider (read : SourceRead) : SourceProvider := ⟨read.prepareSources,read.prepareSources_keeps⟩

end SourceRead

/-- One pass of the watcher or of a check: its detectors, bound to the memories and settings of its
time, its sources and its clock. -/
structure Cycle where
  detectors : Detectors
  read : SourceRead
  readings : PassReadings

/-- The other pass reads what the first has read, and its detectors find the same in it. -/
structure SeesAgain (first other : Cycle) : Prop where
  reads : ∀ gmail calendar, other.read.inputs gmail calendar = first.read.inputs gmail calendar
  finds : ∀ gmail calendar inputs, first.read.inputs gmail calendar = .ok inputs →
    findings other.detectors other.readings.now inputs = findings first.detectors first.readings.now inputs

/-- Nothing was created, brought back, resolved, expired or woken. -/
def Uneventful (result : EvaluationResult) : Prop :=
  result.created = 0 ∧ result.reactivated = 0 ∧ result.resolved = 0 ∧ result.expired = 0 ∧ result.woken = 0

section cycles
variable [EvidenceJson]

namespace Cycle

def run (cycle : Cycle) : Pass EvaluationPass := runOnce cycle.detectors cycle.read.provider cycle.readings

/-- Under whatever numbers the pass reads, it applies these batches, and the store takes them. -/
def Finds (cycle : Cycle) (batches : List Batch) : Prop :=
  Regular batches ∧ ∀ gmail calendar, ∃ inputs found, cycle.read.inputs gmail calendar = .ok inputs ∧
    findings cycle.detectors cycle.readings.now inputs = .ok found ∧ found.batches = batches ∧ found.Acceptable

end Cycle

def cycles : List Cycle → Pass (List EvaluationPass)
  | [] => return []
  | cycle::rest => do
    let pass ← cycle.run
    let passes ← cycles rest
    return pass::passes

variable {cycle other : Cycle} {batches : List Batch} {db left : Database} {pass : EvaluationPass}

omit [EvidenceJson] in
theorem Cycle.Finds.again (finds : cycle.Finds batches) (again : SeesAgain cycle other) : other.Finds batches := by
  refine ⟨finds.1,fun gmail calendar => ?_⟩
  obtain ⟨inputs,found,read,same,applied,acceptable⟩ := finds.2 gmail calendar
  exact ⟨inputs,found,(again.reads gmail calendar).trans read,(again.finds gmail calendar inputs read).trans same,
    applied,acceptable⟩

omit [EvidenceJson] in
/-- One pass that finds something acceptable finds it under all numbers. -/
theorem finds_renumbered {gmail calendar : Nat} {inputs : EngineInputs} {found : Findings}
    (regular : Regular found.batches) (read : cycle.read.inputs gmail calendar = .ok inputs)
    (finds : findings cycle.detectors cycle.readings.now inputs = .ok found) (acceptable : found.Acceptable) :
    cycle.Finds found.batches := by
  refine ⟨regular,fun one two => ?_⟩
  rw [SourceRead.inputs_renumbered] at read
  obtain ⟨base,first,rfl⟩ := (Outcome.map_ok_iff _ _ _).mp read
  rw [findings_renumbered] at finds
  obtain ⟨seen,same,rfl⟩ := (Outcome.map_ok_iff _ _ _).mp finds
  refine ⟨base.renumbered one two,seen.renumbered one two,?_,?_,?_,?_⟩
  · rw [SourceRead.inputs_renumbered,first]
    rfl
  · rw [findings_renumbered,same]
    rfl
  · rw [Findings.renumbered_batches,Findings.renumbered_batches]
  · rw [Findings.renumbered_acceptable] at acceptable ⊢
    exact acceptable

theorem run_finds (schema : db.WellFormed) (ran : cycle.run.run db = (.ok pass,left)) :
    ∃ batches, cycle.Finds batches := by
  obtain ⟨gmail,calendar,started,⟨kept,_,_⟩,reads,prepares⟩ := cycle.read.prepareSources_run schema
  obtain ⟨outcome,middle,prepared,ran⟩ := Statement.bind_success _ _ _ _ _ ran
  obtain ⟨inputs,read⟩ := reads outcome middle prepared
  obtain ⟨admits,_,rfl,same⟩ := prepares inputs read
  have both := same.symm.trans prepared
  cases both
  obtain ⟨result,_,evaluated,_⟩ := Statement.bind_success _ _ _ _ _ ran
  obtain ⟨found,finds,acceptable⟩ := evaluate_acceptable kept admits evaluated
  exact ⟨found.batches,finds_renumbered (findings_regular admits finds) read finds acceptable⟩

/-- A pass applies what it finds, wherever it starts. -/
theorem run_applies (schema : db.WellFormed) (finds : cycle.Finds batches) : ∃ pass summaries started left,
    cycle.run.run db = (.ok pass,left) ∧ left.WellFormed ∧
      (started.situations = db.situations ∧ started.deliveries = db.deliveries) ∧
      Passed batches summaries (opened cycle.readings started) left ∧
      pass.result.created = (summaries.map (fun item => item.upsert.created)).sum ∧
      pass.result.reactivated = (summaries.map (fun item => item.upsert.reactivated)).sum ∧
      pass.result.resolved = (summaries.map DetectionApplySummary.resolved).sum ∧
      (Awake cycle.readings.wokenAt started → Unlapsed cycle.readings.expiredAt started →
        pass.result.woken = 0 ∧ pass.result.expired = 0 ∧ opened cycle.readings started = started) := by
  obtain ⟨gmail,calendar,started,⟨kept,situations,deliveries⟩,_,prepares⟩ := cycle.read.prepareSources_run schema
  obtain ⟨inputs,found,read,same,rfl,acceptable⟩ := finds.2 gmail calendar
  obtain ⟨admits,outcome,rfl,prepared⟩ := prepares inputs read
  obtain ⟨result,summaries,left,evaluated,passed,created,reactivated,resolved,still⟩ :=
    evaluate_applies kept admits same acceptable
  have after := evaluate_keeps cycle.detectors cycle.readings outcome.inputs started kept
  rw [evaluated] at after
  have ran : cycle.run.run db = (.ok ⟨result,outcome,outcome.warnings ++ result.warnings⟩,left) := by
    unfold Cycle.run runOnce
    change (cycle.read.prepareSources >>= _).run db = _
    rw [Statement.run_bind_ok _ _ _ _ _ prepared,Statement.run_bind_ok _ _ _ _ _ evaluated]
    rfl
  exact ⟨_,summaries,started,left,ran,after,⟨situations,deliveries⟩,passed,created,reactivated,resolved,still⟩

/-- A pass that finds what the rows already say has nothing to do. -/
theorem run_repeats (schema : db.WellFormed) (finds : cycle.Finds batches) (fixed : Fixed batches db)
    (awake : Awake cycle.readings.wokenAt db) (unlapsed : Unlapsed cycle.readings.expiredAt db) : ∃ pass left,
    cycle.run.run db = (.ok pass,left) ∧ Uneventful pass.result ∧ left.WellFormed ∧ Fixed batches left ∧
      left.situations.map unstamped = db.situations.map unstamped ∧ left.deliveries = db.deliveries := by
  obtain ⟨pass,summaries,started,left,ran,kept,⟨situations,deliveries⟩,passed,created,reactivated,resolved,still⟩ :=
    run_applies schema finds
  obtain ⟨woken,expired,same⟩ := still (fun row member => awake row (situations ▸ member))
    (fun row member => unlapsed row (situations ▸ member))
  rw [same] at passed
  obtain ⟨idle,rows,told,after⟩ := passed.repeats finds.1 (fixed.congr situations deliveries)
  have none (count : DetectionApplySummary → Nat) (zero : ∀ summary ∈ summaries, count summary = 0) :
      (summaries.map count).sum = 0 := by
    refine List.sum_eq_zero_iff_forall_eq_nat.mpr (fun value member => ?_)
    obtain ⟨summary,listed,rfl⟩ := List.mem_map.mp member
    exact zero summary listed
  refine ⟨pass,left,ran,⟨?_,?_,?_,expired,woken⟩,kept,after,rows.trans (by rw [situations]),told.trans deliveries⟩
  · exact created.trans (none _ (fun summary listed => (idle summary listed).1))
  · exact reactivated.trans (none _ (fun summary listed => (idle summary listed).2.1))
  · exact resolved.trans (none _ (fun summary listed => (idle summary listed).2.2))

omit [EvidenceJson] in
theorem awake_unstamped {now : Int} (same : left.situations.map unstamped = db.situations.map unstamped)
    (awake : Awake now db) : Awake now left := by
  intro row member
  obtain ⟨old,was,equal⟩ := List.mem_map.mp (same ▸ List.mem_map_of_mem (f := unstamped) member)
  have due : (unstamped old).due now = (unstamped row).due now := by rw [equal]
  exact due.symm.trans (awake old was)

omit [EvidenceJson] in
theorem unlapsed_unstamped {now : Int} (same : left.situations.map unstamped = db.situations.map unstamped)
    (unlapsed : Unlapsed now db) : Unlapsed now left := by
  intro row member
  obtain ⟨old,was,equal⟩ := List.mem_map.mp (same ▸ List.mem_map_of_mem (f := unstamped) member)
  have stale : (unstamped old).stale now = (unstamped row).stale now := by rw [equal]
  exact stale.symm.trans (unlapsed old was)

theorem cycles_repeat {settled : Database} {later : List Cycle} (schema : db.WellFormed)
    (finds : ∀ other ∈ later, other.Finds batches) (fixed : Fixed batches db)
    (same : db.situations.map unstamped = settled.situations.map unstamped) (told : db.deliveries = settled.deliveries)
    (calm : ∀ other ∈ later, Awake other.readings.wokenAt settled ∧ Unlapsed other.readings.expiredAt settled) :
    ∃ passes left, (cycles later).run db = (.ok passes,left) ∧ (∀ pass ∈ passes, Uneventful pass.result) ∧
      left.situations.map unstamped = settled.situations.map unstamped ∧ left.deliveries = settled.deliveries := by
  induction later generalizing db with
  | nil => exact ⟨[],db,rfl,fun _ member => by simp at member,same,told⟩
  | cons cycle rest ih =>
    obtain ⟨awake,unlapsed⟩ := calm cycle List.mem_cons_self
    obtain ⟨pass,middle,ran,uneventful,kept,after,rows,deliveries⟩ := run_repeats schema
      (finds cycle List.mem_cons_self) fixed (awake_unstamped same awake) (unlapsed_unstamped same unlapsed)
    obtain ⟨passes,left,others,quiet,unchanged,silent⟩ := ih kept
      (fun other member => finds other (List.mem_cons_of_mem _ member)) after (rows.trans same) (deliveries.trans told)
      (fun other member => calm other (List.mem_cons_of_mem _ member))
    refine ⟨pass::passes,left,?_,fun one member => ?_,unchanged,silent⟩
    · unfold cycles
      rw [Statement.run_bind_ok _ _ _ _ _ ran,Statement.run_bind_ok _ _ _ _ _ others]
      rfl
    · rcases List.mem_cons.mp member with rfl | later
      · exact uneventful
      · exact quiet one later

/-- Once a pass has run, passes that see the same again report nothing and change nothing. -/
theorem evaluation_settles (cycle : Cycle) (later : List Cycle) (db settled : Database) (pass : EvaluationPass)
    (schema : db.WellFormed) (ran : cycle.run.run db = (.ok pass,settled))
    (again : ∀ other ∈ later, SeesAgain cycle other)
    (calm : ∀ other ∈ later, Awake other.readings.wokenAt settled ∧ Unlapsed other.readings.expiredAt settled) :
    ∃ passes left, (cycles later).run settled = (.ok passes,left) ∧ (∀ pass ∈ passes, Uneventful pass.result) ∧
      left.situations.map unstamped = settled.situations.map unstamped ∧ left.deliveries = settled.deliveries := by
  obtain ⟨batches,finds⟩ := run_finds schema ran
  obtain ⟨_,summaries,started,_,same,kept,_,passed,_⟩ := run_applies schema finds
  cases same.symm.trans ran
  exact cycles_repeat kept (fun other member => finds.again (again other member)) (passed.fixed finds.1) rfl rfl calm

end cycles

def anniversary : Detection :=
  ⟨.personalOccasion,"personal_occasion:m:2026",.routine,"Anniversary tomorrow","Anniversary is in 1 day",
    ⟨[("memory_id","m")],[],[],[]⟩,some (9 * second)⟩

def unanswered : Detection :=
  ⟨.replyDeadline,"reply_deadline:t:m0",.routine,"Reply pending for 50h","No reply for 50h (threshold 48h)",
    ⟨[("thread_id","t"),("latest_message_id","m0"),("age_hours","50")],[],[],[]⟩,none⟩

/-- A pass at a time, over an inbox with one thread that waits for a reply. -/
def sampleCycle (at_ : Int) : Cycle where
  detectors := ⟨fun _ => .ok [anniversary],fun _ _ => .ok [unanswered],fun _ _ => .ok ⟨[],true,[]⟩⟩
  read := .performed ⟨.ok ⟨[],0,"6",1,true,[],3,1,0,true,["t"],[],[]⟩,.ok ⟨[],0,1,0⟩,at_,at_⟩
  readings := ⟨at_,at_,at_,at_,⟨at_,at_,at_⟩,⟨at_,at_,at_⟩⟩

def samplePass : Except EvaluationError EvaluationPass × Database :=
  (@Cycle.run EvidenceJson.compact (sampleCycle second)).run Database.empty

theorem samplePass_settles : ∃ pass, samplePass.1 = .ok pass ∧ pass.result.created = 2 ∧ ∃ passes left,
    (@cycles EvidenceJson.compact [sampleCycle (2 * second),sampleCycle (3 * second)]).run samplePass.2 =
      (.ok passes,left) ∧ (∀ pass ∈ passes, Uneventful pass.result) ∧
      left.situations.map unstamped = samplePass.2.situations.map unstamped ∧
      left.deliveries = samplePass.2.deliveries := by
  have shown : samplePass.1.toOption.any (fun pass => pass.result.created == 2) = true := by decide +kernel
  have calm : ∀ other ∈ [sampleCycle (2 * second),sampleCycle (3 * second)],
      Awake other.readings.wokenAt samplePass.2 ∧ Unlapsed other.readings.expiredAt samplePass.2 := by
    unfold Awake Unlapsed
    decide +kernel
  obtain ⟨pass,left,ran,created⟩ : ∃ pass left, samplePass = (.ok pass,left) ∧ (pass.result.created == 2) = true :=
    Statement.run_ok_of_any shown
  obtain rfl : samplePass.2 = left := congrArg Prod.snd ran
  refine ⟨pass,congrArg Prod.fst ran,beq_iff_eq.mp created,?_⟩
  refine @evaluation_settles EvidenceJson.compact (sampleCycle second) _ Database.empty samplePass.2 pass empty_wellFormed
    ran (fun other member => ?_) calm
  simp only [List.mem_cons,List.not_mem_nil,or_false] at member
  rcases member with rfl | rfl <;> exact ⟨fun _ _ => rfl,fun _ _ _ _ => rfl⟩

end Proactive.Delivery
