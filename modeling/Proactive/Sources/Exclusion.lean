import Proactive.Situations.Currency
import Proactive.Sources.GoogleEvaluation

/-! Which situations of unsafely read threads a pass resolves. -/
namespace Proactive.Sources
open Proactive.Library Proactive.Store Proactive.Situations Database

structure Held (thread : String) (row : Situation) : Prop where
  reply : gmailReply row = true
  active : row.active = true
  named : row.evidence.fact "thread_id" = some thread

/-- No held reply of an excluded thread is moved to resolved. -/
def Spares (excluded : List String) (before after : Database) : Prop :=
  ∀ row ∈ before.situations, ∀ thread ∈ excluded, Held thread row →
    ∀ next ∈ after.situations, next.id = row.id → next.state ≠ .resolved

instance (thread : String) (row : Situation) : Decidable (Held thread row) :=
  decidable_of_iff (gmailReply row = true ∧ row.active = true ∧
    row.evidence.fact "thread_id" = some thread)
    ⟨fun held => ⟨held.1,held.2.1,held.2.2⟩,fun held => ⟨held.reply,held.active,held.named⟩⟩

instance (excluded : List String) (before after : Database) : Decidable (Spares excluded before after) :=
  inferInstanceAs (Decidable (∀ row ∈ before.situations, ∀ thread ∈ excluded, Held thread row →
    ∀ next ∈ after.situations, next.id = row.id → next.state ≠ .resolved))

theorem Held.source {thread : String} {row : Situation} (held : Held thread row) :
    row.sourceName = .gmail := by
  have reply := held.reply
  rw [gmailReply,Bool.and_eq_true,beq_iff_eq,beq_iff_eq] at reply
  exact reply.2

theorem Held.situationType {thread : String} {row : Situation} (held : Held thread row) :
    row.situationType = .replyDeadline := by
  have reply := held.reply
  rw [gmailReply,Bool.and_eq_true,beq_iff_eq] at reply
  exact reply.1

theorem unresolved_of_active {row : Situation} (active : row.active = true) : row.state ≠ .resolved := by
  intro resolved
  rw [Situation.active,resolved] at active
  contradiction

theorem spares_self (excluded : List String) {db : Database} (schema : db.WellFormed) :
    Spares excluded db db := by
  intro row member thread _ held next present same
  rw [schema.same_id present member same]
  exact unresolved_of_active held.active

theorem resolved_origin {detections : List Detection} {source : SituationSource}
    {situationType : SituationType} {passes : Situation → Bool} {timestamp : Int} {db : Database}
    {stored : List Situation} {row next : Situation} (schema : db.WellFormed)
    (evolves : Table.Evolves (Upserted detections source) (AddedBy detections source db.nextId)
      db.situations stored)
    (present : ∀ row, row.dedupeKey ∈ detections.map Detection.dedupeKey → passes row = true)
    (member : row ∈ db.situations) (active : row.active = true)
    (after : next ∈ Table.updateWhere (resolves situationType (some source) passes) (.resolved timestamp) stored)
    (same : next.id = row.id) (resolved : next.state = .resolved) :
    resolves situationType (some source) passes row = true := by
  have origin : ∀ old ∈ stored, old.id = row.id → Upserted detections source row old := by
    intro old kept named
    rcases evolves.backward old kept with ⟨first,before,upserted⟩ | added
    · rwa [schema.same_id before member (upserted.id.symm.trans named)] at upserted
    · have below := db.lt_nextId row member
      have above := added.id
      omega
  rcases (Table.mem_updateWhere _ _ _ _).mp after with ⟨old,kept,selected,rfl⟩ | ⟨kept,_⟩
  · rcases (origin old kept same).described with equal | ⟨detection,listed,key,_⟩
    · rwa [equal] at selected
    · have passed := present old (by
        rw [(origin old kept same).key,← key]
        exact List.mem_map_of_mem listed)
      rw [resolves,passed] at selected
      simp at selected
  · have state : next.state = row.state ∨ next.state = .pending := by
      rcases (origin next kept same).lifecycle with ⟨unchanged,_⟩ | ⟨_,pending,_⟩
      · exact Or.inl unchanged
      · exact Or.inr pending
    rw [resolved] at state
    rcases state with unchanged | pending
    · exact absurd unchanged.symm (unresolved_of_active active)
    · contradiction

/-- An accepted Gmail application spares the excluded threads exactly when its
branch passes over every held row of them. -/
theorem spares_applied_iff {application : SourceApplication} {clock : Readings} {db after : Database}
    {stored : List Situation} (excluded : List String) (schema : db.WellFormed)
    (applied : Applied application clock db after stored)
    (own : application.generation.source = .gmail) :
    Spares excluded db after ↔ ∀ row ∈ db.situations, ∀ thread ∈ excluded, Held thread row →
      application.passes row = true := by
  have scope : application.expectedType = .replyDeadline ∧ application.sourceName = .gmail := by
    rw [SourceApplication.expectedType,SourceApplication.sourceName,own]
    exact ⟨rfl,rfl⟩
  have resolves_iff : ∀ row thread, Held thread row →
      (application.resolves row = true ↔ application.passes row = false) := by
    intro row thread held
    rw [SourceApplication.resolves,scope.1,scope.2,resolves,held.situationType,Option.all_some,
      held.source,held.active]
    simp
  have evolves := applied.upserted
  constructor
  · intro spared row member thread listed held
    by_contra blocked
    have chosen := (resolves_iff row thread held).mpr (by simpa using blocked)
    obtain ⟨next,kept,upserted⟩ := evolves.forward row member
    have unchanged : next = row := by
      rcases upserted.described with equal | ⟨detection,detected,key,_⟩
      · exact equal
      · refine absurd (SourceApplication.passes_listed ?_) blocked
        rw [← key]
        exact List.mem_map_of_mem detected
    subst unchanged
    refine spared next member thread listed held (next.resolved clock.timestamp) ?_ rfl rfl
    rw [applied.situations]
    exact (Table.mem_updateWhere _ _ _ _).mpr (Or.inl ⟨next,kept,chosen,rfl⟩)
  · intro passed row member thread listed held next present same resolved
    rw [applied.situations] at present
    have chosen := resolved_origin schema evolves (fun _ => SourceApplication.passes_listed) member held.active
      present same resolved
    have blocked := (resolves_iff row thread held).mp chosen
    rw [passed row member thread listed held] at blocked
    contradiction

theorem spares_updateWhere (excluded : List String) {selects : Situation → Bool}
    {change : Situation → Situation} {db : Database} (schema : db.WellFormed)
    (unresolved : ∀ row, (change row).state ≠ .resolved) :
    Spares excluded db {db with situations := Table.updateWhere selects change db.situations} := by
  intro row member thread _ held next present same
  rcases (Table.mem_updateWhere _ _ _ _).mp present with ⟨old,_,_,rfl⟩ | ⟨kept,_⟩
  · exact unresolved old
  · rw [schema.same_id kept member same]
    exact unresolved_of_active held.active

inductive Bystander : Operation → Prop
  | wake (now : Int) : Bystander (.wakeSnoozed now)
  | expire (now : Int) : Bystander (.expireLapsed now)
  | occasions (detections : List Detection) (now : Int) :
    Bystander (.applyLocalDetections detections now)
  | calendar (application : SourceApplication) (clock : Readings)
    (foreign : application.generation.source = .calendar) :
    Bystander (.applySourceGeneration application clock)

theorem openOperations_bystanders (detectors : Detectors) (readings : PassReadings) :
    ∀ operation ∈ openOperations detectors readings, Bystander operation := by
  intro operation member
  rw [openOperations,List.mem_append] at member
  rcases member with first | last
  · rcases List.mem_pair.mp first with rfl | rfl
    · exact .wake _
    · exact .expire _
  · split at last
    · obtain rfl := List.mem_singleton.mp last
      exact .occasions _ _
    · contradiction

theorem calendarOperations_bystanders (detectors : Detectors) (readings : PassReadings)
    {inputs : EngineInputs}
    (own : ∀ calendar, inputs.calendarEvents = some calendar → calendar.generation.source = .calendar) :
    ∀ operation ∈ calendarOperations detectors readings inputs, Bystander operation := by
  intro operation member
  unfold calendarOperations at member
  split at member
  · contradiction
  · rename_i calendar read
    split at member
    · obtain rfl := List.mem_singleton.mp member
      exact .calendar _ _ (own calendar read)
    · contradiction

section passes
variable [EvidenceJson]

theorem Bystander.spares (excluded : List String) {db : Database} (schema : db.WellFormed)
    {operation : Operation} (bystander : Bystander operation) :
    Spares excluded db (step db operation) := by
  have effect := step_effect db operation schema
  cases bystander with
  | wake => exact spares_updateWhere excluded schema (fun _ => by simp [Situation.woken])
  | expire => exact spares_updateWhere excluded schema (fun _ => by simp [Situation.lapsed])
  | occasions detections now =>
    generalize step db _ = after at effect
    cases effect with
    | unchanged => exact spares_self excluded schema
    | user _ _ _ _ named => cases named
    | local_ _ _ _ stored kept evolves types =>
      intro row member thread listed held next present same resolved
      have chosen := resolved_origin schema evolves (fun row present => by simpa using present) member
        held.active present same resolved
      rw [resolves,held.situationType] at chosen
      contradiction
  | calendar application clock foreign =>
    generalize step db _ = after at effect
    cases effect with
    | unchanged => exact spares_self excluded schema
    | user _ _ _ _ named => cases named
    | applied _ _ _ _ stored applied =>
      intro row member thread listed held next present same resolved
      rw [applied.situations] at present
      have chosen := resolved_origin schema applied.upserted (fun _ => SourceApplication.passes_listed) member
        held.active present same resolved
      rw [resolves,held.situationType,SourceApplication.expectedType,foreign] at chosen
      contradiction

theorem spares_application_iff (excluded : List String) {application : SourceApplication}
    {clock : Readings} {db : Database} (schema : db.WellFormed)
    (own : application.generation.source = .gmail) :
    Spares excluded db (step db (.applySourceGeneration application clock)) ↔
      Refused application db ∨ ∀ row ∈ db.situations, ∀ thread ∈ excluded, Held thread row →
        application.passes row = true := by
  change Spares excluded db ((applySourceGeneration application clock).run db).2 ↔ _
  rcases applySourceGeneration_outcome application clock db schema with
    ⟨refused,error,ran⟩ | ⟨accepted,result,left,ran⟩
  · rw [ran]
    exact ⟨fun _ => Or.inl refused,fun _ => spares_self excluded schema⟩
  · obtain ⟨stored,applied⟩ := applySourceGeneration_success _ _ _ _ _ schema ran
    rw [ran,spares_applied_iff excluded schema applied own]
    exact ⟨Or.inr,fun honoured => honoured.resolve_left accepted⟩

theorem along_bystanders (excluded : List String) {db : Database} (schema : db.WellFormed)
    {operations : List Operation} (bystanders : ∀ operation ∈ operations, Bystander operation) :
    Run.Along step (fun before operation => Spares excluded before (step before operation)) db
      operations := by
  induction operations generalizing db with
  | nil => trivial
  | cons operation rest ih =>
    refine ⟨(bystanders operation (by simp)).spares excluded schema,?_⟩
    exact ih (step_wellFormed db operation schema) (fun other member => bystanders other (by simp [member]))

/-- No operation of a pass moves a held reply of an excluded thread to resolved. -/
def SparesThroughout (excluded : List String) (detectors : Detectors) (readings : PassReadings)
    (inputs : EngineInputs) (db : Database) : Prop :=
  Run.Along step (fun before operation => Spares excluded before (step before operation)) db
    (passOperations detectors readings inputs db)

instance (excluded : List String) (detectors : Detectors) (readings : PassReadings)
    (inputs : EngineInputs) (db : Database) :
    Decidable (SparesThroughout excluded detectors readings inputs db) :=
  inferInstanceAs (Decidable (Run.Along _ _ _ _))

theorem sparesThroughout_iff (excluded : List String) (detectors : Detectors) (readings : PassReadings)
    {inputs : EngineInputs} {db : Database} (schema : db.WellFormed)
    (ownGmail : ∀ gmail, inputs.gmailThreads = some gmail → gmail.generation.source = .gmail)
    (ownCalendar : ∀ calendar, inputs.calendarEvents = some calendar →
      calendar.generation.source = .calendar) :
    SparesThroughout excluded detectors readings inputs db ↔
      ∀ first opened, (openPass detectors readings).run db = (.ok first,opened) →
        ∀ gmail detections, inputs.gmailThreads = some gmail →
          detectors.detectReplyDeadlines gmail.items readings.now = .ok detections →
          Refused (gmailApplication gmail inputs.gmailDiagnostics detections) opened ∨
            ∀ row ∈ opened.situations, ∀ thread ∈ excluded, Held thread row →
              (gmailApplication gmail inputs.gmailDiagnostics detections).passes row = true := by
  have silent := along_bystanders excluded schema (openOperations_bystanders detectors readings)
  have reached := openPass_operations detectors readings db
  have kept : (Run.run step db (openOperations detectors readings)).WellFormed := run_wellFormed db schema _
  unfold SparesThroughout passOperations
  rw [Run.along_append,← reached]
  rw [← reached] at kept
  cases ran : (openPass detectors readings).run db with
  | mk outcome opened =>
    rw [ran] at kept
    cases outcome with
    | error error =>
      constructor
      · intro _ first other equal
        cases equal
      · exact fun _ => ⟨silent,trivial⟩
    | ok first =>
      have later : (Run.run step opened (gmailOperations detectors readings inputs)).WellFormed :=
        run_wellFormed opened kept _
      dsimp only
      rw [Run.along_append]
      constructor
      · intro ⟨_,along,_⟩ other left equal gmail detections snapshot found
        obtain ⟨_,rfl⟩ := Prod.mk.inj equal
        rw [gmailOperations,snapshot] at along
        dsimp only at along
        rw [found] at along
        exact (spares_application_iff excluded kept (ownGmail gmail snapshot)).mp along.1
      · intro honoured
        refine ⟨silent,?_,?_⟩
        · unfold gmailOperations
          cases snapshot : inputs.gmailThreads with
          | none => trivial
          | some gmail =>
            dsimp only
            cases found : detectors.detectReplyDeadlines gmail.items readings.now with
            | error error => trivial
            | ok detections =>
              exact ⟨(spares_application_iff excluded kept (ownGmail gmail snapshot)).mpr
                (honoured first opened rfl gmail detections snapshot found),trivial⟩
        · split
          · trivial
          · exact along_bystanders excluded later
              (calendarOperations_bystanders detectors readings ownCalendar)

end passes

/-- The situation is detected again, or the read is incomplete and its resolution
either visits no excluded thread or visits only threads that this one is not among. -/
def Honoured (result : GmailInboxReadResult) (detections : List Detection) (thread : String)
    (row : Situation) : Prop :=
  row.dedupeKey ∈ detections.map Detection.dedupeKey ∨
    (result.coverageComplete = false ∧
      (result.allowsAbsentResolution = true ∨ thread ∉ result.resolutionSafeThreadIds))

theorem passes_gmail_iff {result : GmailInboxReadResult} {generation : SourceGeneration}
    {diagnostics : Option SourceReadDiagnostics} {detections : List Detection} {thread : String}
    {row : Situation} (excluded : thread ∈ result.resolutionExcludedThreadIds) (held : Held thread row) :
    (gmailApplication (gmailSnapshot generation result) diagnostics detections).passes row = true ↔
      Honoured result detections thread row := by
  have listed : result.resolutionExcludedThreadIds.contains thread = true := by simpa using excluded
  have complete : (passStatus result.coverageComplete).resolvesAbsent = result.coverageComplete := by
    cases result.coverageComplete <;> rfl
  unfold SourceApplication.passes passesSourceIds Honoured SourceApplication.presentKeys gmailApplication
    gmailSnapshot
  dsimp only
  rw [complete,held.named]
  dsimp only
  rw [listed]
  cases result.coverageComplete with
  | true => simp
  | false =>
    cases result.allowsAbsentResolution with
    | true => simp
    | false => cases result.resolutionSafeThreadIds <;> simp

theorem readSources_ok {dependencies : EvaluationDependencies} {result : GmailInboxReadResult}
    {gmail calendar : SourceGeneration} {inputs : EngineInputs}
    (returned : dependencies.gmail = .ok result)
    (read : dependencies.readSources gmail calendar = .ok inputs) :
    (dependencies.calendarReading = .invalidGrant ∧ inputs = invalidGrantInputs gmail calendar) ∨
    (dependencies.calendarReading ≠ .invalidGrant ∧ inputs.gmailThreads = some (gmailSnapshot gmail result) ∧
      ∀ events, inputs.calendarEvents = some events → events.generation = calendar) := by
  have reads : dependencies.gmailReading = .result result := by
    rw [EvaluationDependencies.gmailReading,returned]
    rfl
  unfold EvaluationDependencies.readSources at read
  rw [reads] at read
  cases ended : dependencies.calendarReading with
  | invalidGrant =>
    rw [ended] at read
    exact Or.inl ⟨rfl,(Except.ok.inj read).symm⟩
  | raised error =>
    rw [ended] at read
    cases read
  | failed errorCode =>
    rw [ended] at read
    obtain rfl := Except.ok.inj read
    exact Or.inr ⟨by simp,rfl,fun events same => by rw [← Option.some.inj same]; rfl⟩
  | result events =>
    rw [ended] at read
    obtain rfl := Except.ok.inj read
    exact Or.inr ⟨by simp,rfl,fun events same => by rw [← Option.some.inj same]; rfl⟩

/-- Nothing is resolved under an invalid grant; else the Gmail application of the
pass is refused, or the branch it takes honours every held row of an excluded thread. -/
def Withheld (result : GmailInboxReadResult) (calendar : Reading CalendarReadResult)
    (detectors : Detectors) (readings : PassReadings) (inputs : EngineInputs) (db : Database)
    [EvidenceJson] : Prop :=
  calendar = .invalidGrant ∨ ∀ first opened, (openPass detectors readings).run db = (.ok first,opened) →
    ∀ gmail detections, inputs.gmailThreads = some gmail →
      detectors.detectReplyDeadlines result.threads readings.now = .ok detections →
      Refused (gmailApplication gmail inputs.gmailDiagnostics detections) opened ∨
        ∀ row ∈ opened.situations, ∀ thread ∈ result.resolutionExcludedThreadIds, Held thread row →
          Honoured result detections thread row

/-- A pass over a Gmail read spares the situations of the threads that the read
excluded exactly when they are withheld from its resolution. -/
theorem excluded_spared_iff [EvidenceJson] (adapter : GmailAdapter) (transport : Transport)
    (result : GmailInboxReadResult) (calendar : Read CalendarError CalendarReadResult)
    (gmailReservedAt calendarReservedAt : Int) (detectors : Detectors) (readings : PassReadings)
    (before db : Database) (inputs : EngineInputs) (schema : db.WellFormed)
    (returned : adapter.readInboxThreads transport = .ok result)
    (prepared : ((EvaluationDependencies.prepareEvaluation ⟨adapter.readInboxThreads transport,calendar,
      gmailReservedAt,calendarReservedAt⟩).run before).1 = .ok inputs) :
    SparesThroughout result.resolutionExcludedThreadIds detectors readings inputs db ↔
      Withheld result (reading CalendarError.errorCode calendar) detectors readings inputs db := by
  have read := EvaluationDependencies.prepareEvaluation_ok prepared
  rcases readSources_ok returned read with ⟨revoked,rfl⟩ | ⟨valid,snapshot,events⟩
  · refine ⟨fun _ => Or.inl revoked,fun _ => ?_⟩
    rw [sparesThroughout_iff _ _ _ schema (fun gmail same => by rw [← Option.some.inj same]; rfl)
      (fun events same => by rw [← Option.some.inj same]; rfl)]
    intro first opened _ gmail detections same _
    obtain rfl := Option.some.inj same
    exact Or.inr (fun _ _ _ _ _ => rfl)
  · rw [sparesThroughout_iff _ _ _ schema
      (fun gmail same => by rw [snapshot] at same; rw [← Option.some.inj same]; rfl)
      (fun calendar same => by rw [events calendar same]; rfl)]
    constructor
    · intro honoured
      refine Or.inr (fun first opened ran gmail detections same found => ?_)
      obtain rfl := Option.some.inj (snapshot.symm.trans same)
      refine (honoured first opened ran _ detections same found).imp_right (fun passed => ?_)
      intro row member thread excluded held
      exact (passes_gmail_iff excluded held).mp (passed row member thread excluded held)
    · intro withheld first opened ran gmail detections same found
      obtain rfl := Option.some.inj (snapshot.symm.trans same)
      have honoured := withheld.resolve_left valid first opened ran _ detections same found
      refine honoured.imp_right (fun kept row member thread excluded held => ?_)
      exact (passes_gmail_iff excluded held).mpr (kept row member thread excluded held)

def partialThreadsBody : Body := textBody "\x7b\"threads\":[\x7b\"id\":\"t\"\x7d,\x7b\x7d]\x7d"

/-- A thread whose latest message is neither sent nor in the inbox. -/
def starredBody : Body :=
  textBody "\x7b\"messages\":[\x7b\"id\":\"m\",\"internalDate\":\"1783760400000\",\"labelIds\":[\"STARRED\"]\x7d]\x7d"

def starredAdapter : GmailAdapter where
  json := {
    profile := fun body => if body = profileBody then some ⟨"me@example.com",1,1,"7"⟩ else none
    threadsPage := fun body =>
      if body = threadsBody then some ⟨[⟨some "t",none⟩],none⟩
      else if body = partialThreadsBody then some ⟨[⟨some "t",none⟩,⟨none,none⟩],none⟩
      else none
    threadDetail := fun body =>
      if body = starredBody then some ⟨[⟨some "m",some 1783760400000,none,some ["STARRED"],none⟩]⟩
      else none}
  library := {
    casefold := fun text => text
    parseaddr := fun _ => ("","")
    b64decode := fun _ => none
    feedHtml := fun _ => []
    fromTimestamp := fun milliseconds => some (milliseconds * 1000)}
  now := 1783760400 * second
  maxProjectedThreads := defaultMaxProjectedThreads

def starredTransport (threads : Body) : Transport := .answers (inboxResponses threads starredBody)

def starredInbox (complete : Bool) : GmailInboxReadResult where
  threads := [⟨"t","m",false,false,1783760400 * second,none,none,none,none,false,
    [.directionMetadataAmbiguous,.bodySnippetFallback],some "7"⟩]
  fetchedAt := 1783760400 * second
  providerHistoryCursor := "7"
  pageCount := 1
  coverageComplete := complete
  degradationReasons := (if complete then [] else [.threadListEntrySkipped]) ++
    [.projection .directionMetadataAmbiguous,.projection .bodySnippetFallback]
  requestCount := 3
  projectedThreadCount := 1
  excludedThreadCount := 1
  allowsAbsentResolution := complete
  resolutionSafeThreadIds := []
  resolutionExcludedThreadIds := ["t"]
  degradationReasonCounts := (if complete then [] else [(.threadListEntrySkipped,1)]) ++
    [(.projection .directionMetadataAmbiguous,1),(.projection .bodySnippetFallback,1)]

def threadReply : Detection :=
  ⟨.replyDeadline,"reply_deadline:t:m0",.routine,"Reply pending for 50h","No reply for 50h (threshold 48h)",
    ⟨[("thread_id","t"),("latest_message_id","m0"),("age_hours","50")],[],[],[]⟩,none⟩

def threadStore : Database :=
  Run.run (@step EvidenceJson.compact) Database.empty
    [.reserveSourceGeneration .gmail 0,
      .applySourceGeneration ⟨⟨.gmail,1⟩,[threadReply],.complete,some "6",none,none,true,["t"],[]⟩ ⟨0,0,0⟩]

def starredPrepared (threads : Body) : Except EvaluationError EngineInputs × Database :=
  (EvaluationDependencies.prepareEvaluation ⟨starredAdapter.readInboxThreads (starredTransport threads),
    .ok ⟨[],0,1,0⟩,second,second⟩).run threadStore

def starredInputs (complete : Bool) : EngineInputs :=
  ⟨some (gmailSnapshot ⟨.gmail,2⟩ (starredInbox complete)),some (calendarSnapshot ⟨.calendar,1⟩ ⟨[],0,1,0⟩),
    some (gmailReadDiagnostics (starredInbox complete))⟩

def starredReadings : PassReadings :=
  ⟨2 * second,2 * second,2 * second,2 * second,⟨2 * second,2 * second,2 * second⟩,
    ⟨2 * second,2 * second,2 * second⟩⟩

theorem starredPrepared_wellFormed (threads : Body) : (starredPrepared threads).2.WellFormed := by
  have stored : threadStore.WellFormed := @run_wellFormed EvidenceJson.compact _ empty_wellFormed _
  rw [starredPrepared,EvaluationDependencies.prepareEvaluation_run]
  exact (stored.issue .gmail _).issue .calendar _

/-- An incomplete page keeps the starred thread's situation. -/
theorem partialInbox_spared :
    @SparesThroughout EvidenceJson.compact ["t"] silentDetectors starredReadings (starredInputs false)
      (starredPrepared partialThreadsBody).2 := by
  refine (@excluded_spared_iff EvidenceJson.compact starredAdapter (starredTransport partialThreadsBody)
    (starredInbox false) (.ok ⟨[],0,1,0⟩) second second silentDetectors starredReadings threadStore
    (starredPrepared partialThreadsBody).2 (starredInputs false) (starredPrepared_wellFormed _)
    (by decide +kernel) (by decide +kernel)).mpr (Or.inr ?_)
  intro first opened _ gmail detections _ _
  refine Or.inr (fun row _ thread _ _ => Or.inr ⟨rfl,Or.inr ?_⟩)
  exact List.not_mem_nil

/-- A complete page resolves it, though the thread is excluded from resolution. -/
theorem starredThread_resolved :
    starredAdapter.readInboxThreads (starredTransport threadsBody) = .ok (starredInbox true) ∧
      (starredPrepared threadsBody).1 = .ok (starredInputs true) ∧
      ¬@SparesThroughout EvidenceJson.compact (starredInbox true).resolutionExcludedThreadIds
        silentDetectors starredReadings (starredInputs true) (starredPrepared threadsBody).2 := by
  decide +kernel

end Proactive.Sources
