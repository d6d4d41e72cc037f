import Proactive.Library.Settling
import Proactive.Store.Lifecycle

/-! What an accepted source application leaves behind: the source's rows agree
with its batch, other rows keep their state, and a repetition moves nothing. -/
namespace Proactive.Store.SourceTruth
open Proactive.Library Database Settling

/-- Stored rows that have a key of the batch are of the source's own type. -/
def OwnKeys (application : SourceApplication) (db : Database) : Prop :=
  ∀ row ∈ db.situations, row.dedupeKey ∈ application.presentKeys →
    row.situationType = application.expectedType

instance (application : SourceApplication) (db : Database) : Decidable (OwnKeys application db) :=
  inferInstanceAs (Decidable (∀ row ∈ db.situations, _))

/-- The states that only the user can leave. -/
def UserHeld (row : Situation) : Prop :=
  row.state = .snoozed ∨ row.state = .acknowledged ∨ row.state = .muted

/-- The source's pending and delivered rows are the batch's rows, less those the user holds. -/
def Agrees (application : SourceApplication) (db : Database) : Prop :=
  (∀ key ∈ application.presentKeys, ∃ row ∈ db.situations, row.dedupeKey = key) ∧
    ∀ row ∈ db.situations,
      (row.active = true ∧ row.sourceName = application.sourceName ∧
        row.situationType = application.expectedType ↔
      row.dedupeKey ∈ application.presentKeys ∧ ¬UserHeld row)

/-- A degraded read may resolve the row: its thread is in scope, or not excluded. -/
def Permits (application : SourceApplication) (row : Situation) : Prop :=
  ∃ threadId, row.evidence.fact "thread_id" = some threadId ∧
    if application.resolveAbsent then threadId ∉ application.resolutionExcludedIds
    else threadId ∈ application.resolutionScopeIds

def lifecycles (db : Database) : List (Nat × SituationState) :=
  db.situations.map (fun row => (row.id,row.state))

/-- A row with the key is stored, and it is the source's or one that the user closed. -/
def Stored (source : SituationSource) (detection : Detection) (db : Database) : Prop :=
  ∃ row ∈ db.situations, row.dedupeKey = detection.dedupeKey ∧
    ((row.active = true ∨ row.state = .snoozed) ∧ row.sourceName = source ∨
      row.state = .acknowledged ∨ row.state = .muted)

section batches
variable [EvidenceJson]

def Settled (source : SituationSource) (detection : Detection) (db : Database) : Prop :=
  Rejected detection db ∨ Stored source detection db

/-- One detection of a batch is stored; in a strict batch it is not rejected. -/
def Step (application : SourceApplication) (timestamp : Int) (strict : Prop) (detection : Detection)
    (before after : Database) : Prop :=
  detection ∈ application.detections ∧ detection.situationType = application.expectedType ∧
    ∃ outcome, UpsertStep detection timestamp application.sourceName
      (some application.generation.number) before outcome after ∧
      (strict → outcome ≠ .capacitySkipped)

def Held (application : SourceApplication) (db : Database) : Prop :=
  db.WellFormed ∧ OwnKeys application db

variable {application : SourceApplication} {timestamp : Int} {strict : Prop}
  {detection other : Detection} {before after : Database}

theorem Step.evolves (step : Step application timestamp strict detection before after)
    (schema : before.WellFormed) :
    after.WellFormed ∧ Table.Evolves (Upserted [detection] application.sourceName)
      (AddedBy [detection] application.sourceName 0) before.situations after.situations := by
  obtain ⟨_,_,outcome,effect,_⟩ := step
  exact (effect.evolves [detection] (by simp) 0 schema (Nat.zero_le _)).2

theorem Step.held (held : Held application before)
    (step : Step application timestamp strict detection before after) : Held application after := by
  obtain ⟨schema,evolves⟩ := step.evolves held.1
  refine ⟨schema,?_⟩
  intro row member named
  rcases evolves.backward row member with ⟨old,stored,changed⟩ | added
  · rw [changed.situationType]
    apply held.2 old stored
    rwa [← changed.key]
  · obtain ⟨source,listed,_,same⟩ := added.described
    rw [← same,List.mem_singleton.mp listed]
    exact step.2.1

theorem Stored.stable (held : Held application before)
    (step : Step application timestamp strict other before after)
    (stored : Stored application.sourceName detection before) :
    Stored application.sourceName detection after := by
  obtain ⟨row,member,named,phase⟩ := stored
  obtain ⟨next,present,changed⟩ := (step.evolves held.1).2.forward row member
  have same : next.state = row.state := by
    rcases changed.lifecycle with ⟨same,_⟩ | ⟨dormant,_⟩
    · exact same
    · rcases dormant with state | state <;> simp [Situation.active,state] at phase
  refine ⟨next,present,changed.key.trans named,?_⟩
  rw [same,show next.active = row.active by simp [Situation.active,same]]
  rcases phase with ⟨live,sourced⟩ | closed
  · refine Or.inl ⟨live,?_⟩
    rcases changed.described with equal | ⟨_,_,_,_,written⟩
    · rw [equal,sourced]
    · exact written
  · exact Or.inr closed

theorem Step.stored (held : Held application before)
    (step : Step application timestamp strict detection before after) :
    Rejected detection before ∧ after = before ∧ ¬strict ∨
      Stored application.sourceName detection after := by
  obtain ⟨listed,typed,outcome,effect,accepted⟩ := step
  have local_ (row : Situation) (present : row ∈ before.situations)
      (key : row.dedupeKey = detection.dedupeKey) : row.situationType ≠ .personalOccasion := by
    have own := held.2 row present (key ▸ List.mem_map_of_mem listed)
    rw [own,SourceApplication.expectedType]
    cases application.generation.source <;> simp [SourceName.situationType]
  cases effect with
  | rejected limit => exact Or.inl ⟨limit,rfl,fun holds => accepted holds rfl⟩
  | created room absent =>
    refine Or.inr ⟨_,List.mem_append_right _ (List.mem_singleton_self _),rfl,Or.inl ⟨Or.inl rfl,rfl⟩⟩
  | announced row room present key dormant told => exact absurd told.1 (local_ row present key)
  | reactivated row room present key dormant =>
    right
    refine ⟨row.reactivated detection application.sourceName (some application.generation.number) timestamp,
      ?_,key,Or.inl ⟨Or.inl rfl,rfl⟩⟩
    exact (Table.mem_updateWhere _ _ _ _).mpr (Or.inl ⟨row,present,beq_self_eq_true _,rfl⟩)
  | refreshed row room present key live =>
    right
    refine ⟨row.refreshed detection application.sourceName (some application.generation.number) timestamp,
      ?_,key,Or.inl ⟨?_,rfl⟩⟩
    · exact (Table.mem_updateWhere _ _ _ _).mpr (Or.inl ⟨row,present,beq_self_eq_true _,rfl⟩)
    · simpa [Situation.active,Situation.refreshed,Situation.describe,or_assoc] using live
  | closed row room present key done => exact Or.inr ⟨row,present,key,Or.inr done⟩

theorem rejected_keys (same : after.situations.map Situation.dedupeKey = before.situations.map Situation.dedupeKey)
    (limit : Rejected detection before) : Rejected detection after := by
  have sized := congrArg List.length same
  rw [List.length_map,List.length_map] at sized
  rcases limit with large | ⟨absent,full⟩
  · exact Or.inl large
  · right
    constructor
    · apply List.find?_eq_none.mpr
      intro row member
      have named : row.dedupeKey ∈ before.situations.map Situation.dedupeKey :=
        same ▸ List.mem_map_of_mem member
      obtain ⟨old,stored,equal⟩ := List.mem_map.mp named
      rw [← equal]
      exact List.find?_eq_none.mp absent old stored
    · simp only [countSituations,Option.all_none,List.countP_true] at full ⊢
      rwa [sized]

theorem Settled.stable (held : Held application before)
    (step : Step application timestamp strict other before after)
    (settled : Settled application.sourceName detection before) :
    Settled application.sourceName detection after := by
  rcases settled with limit | stored
  · obtain ⟨_,_,outcome,effect,_⟩ := step
    left
    cases effect with
    | rejected | announced | closed => exact limit
    | created room absent =>
      rcases limit with large | ⟨_,full⟩
      · exact Or.inl large
      · exact absurd (Or.inr ⟨absent,full⟩) room
    | reactivated | refreshed =>
      apply rejected_keys _ limit
      exact Table.updateWhere_map _ _ _ _ (fun _ => rfl)
  · exact Or.inr (stored.stable held step)

/-- A settled detection is stored again without moving a row in its lifecycle. -/
theorem Settled.idle (held : Held application before)
    (settled : Settled application.sourceName detection before)
    (step : Step application timestamp strict detection before after) :
    lifecycles after = lifecycles before := by
  obtain ⟨_,_,outcome,effect,_⟩ := step
  have found (row : Situation) (present : row ∈ before.situations)
      (key : row.dedupeKey = detection.dedupeKey) (room : ¬Rejected detection before) :
      row.state ≠ .resolved ∧ row.state ≠ .expired := by
    obtain ⟨stored,member,named,phase⟩ := settled.resolve_left room
    rw [held.1.same_key present member (key.trans named.symm)]
    constructor
    · intro state
      simp [Situation.active,state] at phase
    · intro state
      simp [Situation.active,state] at phase
  cases effect with
  | rejected | announced | closed => rfl
  | created room absent =>
    obtain ⟨stored,member,named,_⟩ := settled.resolve_left room
    have missing := List.find?_eq_none.mp absent stored member
    simp [named] at missing
  | reactivated row room present key dormant =>
    obtain ⟨unresolved,unexpired⟩ := found row present key room
    exact absurd dormant (not_or.mpr ⟨unresolved,unexpired⟩)
  | refreshed => exact Table.updateWhere_map _ _ _ _ (fun _ => rfl)

theorem upsertEach_pass (rest : List Detection) (included : ∀ item ∈ rest, item ∈ application.detections)
    (summary result : DetectionUpsertSummary)
    (ok : (upsertEach timestamp (some application.expectedType) application.sourceName
      (some application.generation.number) summary rest).run before = (.ok result,after)) :
    summary.capacitySkipped ≤ result.capacitySkipped ∧
      ((strict → result.capacitySkipped = summary.capacitySkipped) →
        Pass (Step application timestamp strict) rest before after) := by
  induction rest generalizing summary before with
  | nil =>
    obtain ⟨rfl,rfl⟩ := Statement.pure_success _ _ _ _ ok
    exact ⟨le_rfl,fun _ => .nil _⟩
  | cons item rest ih =>
    unfold upsertEach at ok
    split at ok
    · simp at ok
    · rename_i matching
      have typed : item.situationType = application.expectedType := by
        by_contra different
        simp [Option.filter,Ne.symm different] at matching
      obtain ⟨outcome,middle,ran,effect⟩ := upsertDetection_steps item timestamp application.sourceName
        (some application.generation.number) before
      rw [Statement.run_bind_ok _ _ _ _ _ ran] at ok
      obtain ⟨grown,passes⟩ := ih (fun next member => included next (List.mem_cons_of_mem _ member)) _ ok
      have counted : summary.capacitySkipped ≤ (summary.add outcome).capacitySkipped ∧
          ((summary.add outcome).capacitySkipped = summary.capacitySkipped → outcome ≠ .capacitySkipped) := by
        cases outcome <;> simp [DetectionUpsertSummary.add]
      refine ⟨counted.1.trans grown,fun exact_ => ?_⟩
      have unskipped (holds : strict) : (summary.add outcome).capacitySkipped = summary.capacitySkipped :=
        le_antisymm (grown.trans (exact_ holds).le) counted.1
      apply Pass.cons ⟨included item List.mem_cons_self,typed,outcome,effect,fun holds =>
        counted.2 (unskipped holds)⟩
      exact passes (fun holds => (exact_ holds).trans (unskipped holds).symm)

end batches

section resolution
variable {application : SourceApplication} {row : Situation}

theorem resolves_complete (complete : application.status = .complete)
    (unlisted : row.dedupeKey ∉ application.presentKeys) (live : row.active = true)
    (sourced : row.sourceName = application.sourceName)
    (typed : row.situationType = application.expectedType) : application.resolves row = true := by
  have absent : application.presentKeys.contains row.dedupeKey = false := by
    rw [← Bool.not_eq_true,List.contains_iff_mem]
    exact unlisted
  have failed : application.passes row = false := by
    simp only [SourceApplication.passes,complete,SourceGenerationStatus.resolvesAbsent,if_true,absent]
  simp [SourceApplication.resolves,resolves,live,sourced,typed,failed]

theorem sourceIds_failed {presentKeys sourceIds : List String} {include_ : Bool}
    (failed : passesSourceIds presentKeys sourceIds include_ row = false) :
    ∃ threadId, row.evidence.fact "thread_id" = some threadId ∧ sourceIds.contains threadId = include_ := by
  unfold passesSourceIds at failed
  cases thread : row.evidence.fact "thread_id" with
  | none => simp [thread] at failed
  | some threadId =>
    rw [thread,Bool.or_eq_false_iff] at failed
    exact ⟨threadId,rfl,by simpa using failed.2⟩

theorem resolves_degraded (degraded : application.status = .degraded)
    (selected : application.resolves row = true) : Permits application row := by
  have failed : application.passes row = false := by
    simp only [SourceApplication.resolves,resolves,Bool.and_eq_true,Bool.not_eq_true'] at selected
    exact selected.2
  simp only [SourceApplication.passes,degraded,SourceGenerationStatus.resolvesAbsent,
    Bool.false_eq_true,if_false] at failed
  unfold Permits
  by_cases absent : application.resolveAbsent = true
  · rw [if_pos absent] at failed
    obtain ⟨threadId,thread,outside⟩ := sourceIds_failed failed
    refine ⟨threadId,thread,?_⟩
    rw [if_pos absent,← List.contains_iff_mem,outside]
    exact Bool.false_ne_true
  · rw [if_neg absent] at failed
    by_cases listed : application.resolutionScopeIds ≠ []
    · rw [if_pos listed] at failed
      obtain ⟨threadId,thread,inside⟩ := sourceIds_failed failed
      refine ⟨threadId,thread,?_⟩
      rwa [if_neg absent,← List.contains_iff_mem]
    · rw [if_neg listed] at failed
      cases failed

end resolution

section applications
variable [EvidenceJson]

/-- What an accepted application did between the stored batch and the committed rows. -/
structure Outcome (application : SourceApplication) (timestamp : Int) (db middle after : Database)
    (skipped : Nat) : Prop where
  started : Held application db
  pass : ∀ strict : Prop, (strict → skipped = 0) →
    Pass (Step application timestamp strict) application.detections db middle
  upserted : Table.Evolves (Upserted application.detections application.sourceName)
    (AddedBy application.detections application.sourceName db.nextId) db.situations middle.situations
  resolved : after.situations = Table.updateWhere application.resolves (.resolved timestamp) middle.situations

theorem applied_outcome (application : SourceApplication) (clock : Readings) (db after : Database)
    (result : DetectionApplySummary) (schema : db.WellFormed) (own : OwnKeys application db)
    (ok : (applySourceGeneration application clock).run db = (.ok result,after)) :
    ∃ middle, Outcome application clock.timestamp (db.sourceAccepted application.generation
      application.status application.diagnostics clock.acceptedAt) middle after
        result.upsert.capacitySkipped := by
  obtain ⟨_,admitted,middle,batch,rows,rfl⟩ := applySourceGeneration_batch _ _ _ _ _ schema ok
  have acceptedSchema := schema.sourceAccepted application.generation application.status
    application.diagnostics clock.acceptedAt admitted
  obtain ⟨_,_,evolves,_⟩ := upsertBatch_success _ _ _ _ _ _ _ _ acceptedSchema batch
  refine ⟨middle,⟨acceptedSchema,own⟩,fun strict none_ => ?_,evolves,rfl⟩
  exact (upsertEach_pass application.detections (fun _ member => member) .zero result.upsert batch).2 none_

namespace Outcome
variable {application : SourceApplication} {timestamp : Int} {db middle after : Database} {skipped : Nat}

theorem held (outcome : Outcome application timestamp db middle after skipped) : Held application middle :=
  (outcome.pass False False.elim).invariant (fun _ _ _ held step => step.held held) outcome.started

theorem mem (outcome : Outcome application timestamp db middle after skipped) (row : Situation) :
    row ∈ after.situations ↔
      (∃ old ∈ middle.situations, application.resolves old = true ∧ row = old.resolved timestamp) ∨
        (row ∈ middle.situations ∧ application.resolves row = false) := by
  rw [outcome.resolved]
  exact Table.mem_updateWhere _ _ _ _

theorem unlisted (outcome : Outcome application timestamp db middle after skipped) {row : Situation}
    (stored : row ∈ db.situations) (absent : row.dedupeKey ∉ application.presentKeys) :
    row ∈ middle.situations := by
  obtain ⟨next,present,changed⟩ := outcome.upserted.forward row stored
  rcases changed.described with same | ⟨detection,listed,named,_,_⟩
  · rwa [← same]
  · exact absurd (named ▸ List.mem_map_of_mem listed) absent

theorem stored (outcome : Outcome application timestamp db middle after skipped) {detection : Detection}
    (stored : Stored application.sourceName detection middle)
    (listed : detection ∈ application.detections) : Stored application.sourceName detection after := by
  obtain ⟨row,present,named,phase⟩ := stored
  refine ⟨row,(outcome.mem row).mpr (Or.inr ⟨present,?_⟩),named,phase⟩
  rw [← Bool.not_eq_true]
  intro selected
  exact SourceApplication.resolves_unlisted selected (named ▸ List.mem_map_of_mem listed)

theorem settled (outcome : Outcome application timestamp db middle after skipped) :
    ∀ detection ∈ application.detections, Settled application.sourceName detection after := by
  intro detection listed
  have settled := (outcome.pass False False.elim).settles (Settled application.sourceName)
    (fun _ _ _ held step => step.held held)
    (fun _ _ _ _ held step settled => settled.stable held step)
    (fun _ _ _ held step => by
      rcases step.stored held with ⟨limit,same,_⟩ | stored
      · rw [same]
        exact Or.inl limit
      · exact Or.inr stored)
    outcome.started detection listed
  rcases settled with limit | stored
  · left
    apply rejected_keys _ limit
    rw [outcome.resolved]
    exact Table.updateWhere_map _ _ _ _ (fun _ => rfl)
  · exact Or.inr (outcome.stored stored listed)

theorem committed (outcome : Outcome application timestamp db middle after skipped) (row : Situation)
    (member : row ∈ after.situations) (live : row.state ≠ .resolved) :
    row ∈ middle.situations ∧ application.resolves row = false := by
  rcases (outcome.mem row).mp member with ⟨old,_,_,same⟩ | kept
  · rw [same] at live
    exact absurd rfl live
  · exact kept

theorem agrees (outcome : Outcome application timestamp db middle after skipped)
    (complete : application.status = .complete) (accepted : skipped = 0) : Agrees application after := by
  have stored : ∀ detection ∈ application.detections, Stored application.sourceName detection middle :=
    (outcome.pass True (fun _ => accepted)).settles (Stored application.sourceName)
      (fun _ _ _ held step => step.held held)
      (fun _ _ _ _ held step stored => stored.stable held step)
      (fun _ _ _ held step => by
        rcases step.stored held with ⟨_,_,loose⟩ | stored
        · exact absurd trivial loose
        · exact stored)
      outcome.started
  constructor
  · intro key listed
    obtain ⟨detection,member,named⟩ := List.mem_map.mp listed
    obtain ⟨row,present,same,_⟩ := outcome.stored (stored detection member) member
    exact ⟨row,present,same.trans named⟩
  · intro row member
    constructor
    · intro current
      obtain ⟨live,sourced,typed⟩ := current
      have unresolved : row.state ≠ .resolved := by
        intro state
        simp [Situation.active,state] at live
      obtain ⟨_,missed⟩ := outcome.committed row member unresolved
      constructor
      · by_contra unlisted
        rw [resolves_complete complete unlisted live sourced typed] at missed
        cases missed
      · rintro (state | state | state) <;> simp [Situation.active,state] at live
    · intro free
      obtain ⟨listed,free⟩ := free
      obtain ⟨detection,included,named⟩ := List.mem_map.mp listed
      obtain ⟨other,present,key,phase⟩ := stored detection included
      rcases (outcome.mem row).mp member with ⟨old,_,selected,same⟩ | ⟨kept,_⟩
      · rw [same] at listed
        change old.dedupeKey ∈ _ at listed
        exact absurd listed (SourceApplication.resolves_unlisted selected)
      · have equal := outcome.held.1.same_key present kept (key.trans named)
        rw [equal] at phase
        rcases phase with ⟨live | state,sourced⟩ | closed
        · exact ⟨live,sourced,outcome.held.2 row kept listed⟩
        · exact absurd (Or.inl state) free
        · exact absurd (Or.inr closed) free

/-- A row that an application resolves was in force, of its source and type, and not in its batch. -/
theorem resolved_row (outcome : Outcome application timestamp db middle after skipped) {row next : Situation}
    (stored : row ∈ db.situations) (member : next ∈ after.situations) (same : next.id = row.id)
    (before : row.state ≠ .resolved) (resolved : next.state = .resolved) :
    application.resolves row = true := by
  obtain ⟨changed,present,evolved⟩ := outcome.upserted.forward row stored
  have live : changed.state ≠ .resolved := by
    rcases evolved.lifecycle with ⟨equal,_⟩ | ⟨_,state,_⟩
    · rwa [equal]
    · rw [state]
      exact nofun
  rcases (outcome.mem next).mp member with ⟨old,inside,selected,equal⟩ | ⟨inside,_⟩
  · have named : old = changed := by
      apply outcome.held.1.same_id inside present
      rw [evolved.id,← same,equal]
      rfl
    rw [named] at selected
    rcases evolved.described with untouched | ⟨detection,listed,key,_,_⟩
    · rwa [← untouched]
    · have unlisted := SourceApplication.resolves_unlisted selected
      rw [evolved.key,← key] at unlisted
      exact absurd (List.mem_map_of_mem listed) unlisted
  · have named := outcome.held.1.same_id inside present (same.trans evolved.id.symm)
    rw [named] at resolved
    exact absurd resolved live

theorem untouched (outcome : Outcome application timestamp db middle after skipped) {row : Situation}
    (stored : row ∈ db.situations) (absent : row.dedupeKey ∉ application.presentKeys)
    (foreign : row.sourceName ≠ application.sourceName ∨ row.situationType ≠ application.expectedType) :
    row ∈ after.situations := by
  refine (outcome.mem row).mpr (Or.inr ⟨outcome.unlisted stored absent,?_⟩)
  rw [← Bool.not_eq_true]
  intro selected
  obtain ⟨typed,sourced,_⟩ := SourceApplication.resolves_own selected
  rcases foreign with other | other
  · exact other sourced
  · exact other typed

theorem userHeld (outcome : Outcome application timestamp db middle after skipped) {row : Situation}
    (stored : row ∈ db.situations) (user : UserHeld row) :
    ∃ next ∈ after.situations, next.id = row.id ∧ next.state = row.state := by
  obtain ⟨next,present,changed⟩ := outcome.upserted.forward row stored
  have same : next.state = row.state := by
    rcases changed.lifecycle with ⟨same,_⟩ | ⟨dormant | dormant,_⟩
    · exact same
    · rcases user with state | state | state <;> exact absurd (dormant.symm.trans state) nofun
    · rcases user with state | state | state <;> exact absurd (dormant.symm.trans state) nofun
  refine ⟨next,(outcome.mem next).mpr (Or.inr ⟨present,?_⟩),changed.id,same⟩
  rw [← Bool.not_eq_true]
  intro selected
  have live := (SourceApplication.resolves_own selected).2.2
  rcases user with state | state | state <;> simp [Situation.active,same,state] at live

theorem still (outcome : Outcome application timestamp db middle after skipped)
    (already : ∀ detection ∈ application.detections, Settled application.sourceName detection db) :
    lifecycles middle = lifecycles db :=
  (outcome.pass False False.elim).still (Settled application.sourceName)
    (fun _ _ _ held step => step.held held)
    (fun _ _ _ _ held step settled => settled.stable held step)
    lifecycles
    (fun _ _ _ held settled step => settled.idle held step)
    outcome.started already

theorem exhausted (outcome : Outcome application timestamp db middle after skipped) {row : Situation}
    (member : row ∈ after.situations) : application.resolves row = false := by
  rcases (outcome.mem row).mp member with ⟨old,_,_,same⟩ | ⟨_,missed⟩
  · rw [← Bool.not_eq_true]
    intro selected
    have live := (SourceApplication.resolves_own selected).2.2
    rw [same] at live
    cases live
  · exact missed

/-- The same batch again, over the committed rows, settles nothing new and resolves nothing. -/
theorem repeated (outcome : Outcome application timestamp db middle after skipped) {number : Nat}
    {laterTime : Int} {start between final : Database} {laterSkipped : Nat}
    (later : Outcome {application with generation := ⟨application.generation.source,number⟩} laterTime
      start between final laterSkipped)
    (same : start.situations = after.situations) : lifecycles final = lifecycles after := by
  have already : ∀ detection ∈ application.detections,
      Settled application.sourceName detection start := by
    intro detection listed
    rcases outcome.settled detection listed with limit | ⟨row,present,stored⟩
    · exact Or.inl (rejected_keys (congrArg (List.map Situation.dedupeKey) same) limit)
    · exact Or.inr ⟨row,same ▸ present,stored⟩
  have still : lifecycles between = lifecycles start := later.still already
  have unselected : ∀ row ∈ between.situations, application.resolves row = false := by
    intro row member
    have listed (key : ∃ detection ∈ application.detections, detection.dedupeKey = row.dedupeKey) :
        application.resolves row = false := by
      obtain ⟨detection,included,named⟩ := key
      rw [← Bool.not_eq_true]
      intro selected
      exact SourceApplication.resolves_unlisted selected (named ▸ List.mem_map_of_mem included)
    rcases later.upserted.backward row member with ⟨old,stored,changed⟩ | added
    · rcases changed.described with equal | ⟨detection,included,named,_,_⟩
      · rw [equal]
        exact outcome.exhausted (same ▸ stored)
      · exact listed ⟨detection,included,named.trans changed.key.symm⟩
    · obtain ⟨detection,included,named,_⟩ := added.described
      exact listed ⟨detection,included,named⟩
  have finished : final.situations = between.situations := by
    rw [later.resolved]
    exact Table.updateWhere_none _ _ _ unselected
  calc
    lifecycles final = lifecycles between := by rw [lifecycles,finished,lifecycles]
    _ = lifecycles start := still
    _ = lifecycles after := by rw [lifecycles,same,lifecycles]

end Outcome

theorem source_truth (application : SourceApplication) (clock : Readings) (db after : Database)
    (result : DetectionApplySummary) (schema : db.WellFormed) (own : OwnKeys application db)
    (ok : (applySourceGeneration application clock).run db = (.ok result,after)) :
    (application.status = .complete → result.upsert.capacitySkipped = 0 → Agrees application after) ∧
    (application.status = .degraded → ∀ row ∈ db.situations, ∀ next ∈ after.situations,
      next.id = row.id → row.state ≠ .resolved → next.state = .resolved → Permits application row) ∧
    (∀ row ∈ db.situations, row.dedupeKey ∉ application.presentKeys →
      row.sourceName ≠ application.sourceName ∨ row.situationType ≠ application.expectedType →
        row ∈ after.situations) ∧
    (∀ row ∈ db.situations, UserHeld row →
      ∃ next ∈ after.situations, next.id = row.id ∧ next.state = row.state) ∧
    ∀ (number : Nat) (later : Readings) (issued final : Database) (again : DetectionApplySummary),
      issued.WellFormed → issued.situations = after.situations →
        (applySourceGeneration
          {application with generation := ⟨application.generation.source,number⟩} later).run issued =
            (.ok again,final) → lifecycles final = lifecycles after := by
  obtain ⟨middle,outcome⟩ := applied_outcome application clock db after result schema own ok
  refine ⟨outcome.agrees,?_,?_,?_,?_⟩
  · intro degraded row stored next member same before resolved
    exact resolves_degraded degraded (outcome.resolved_row stored member same before resolved)
  · intro row stored absent foreign
    exact outcome.untouched stored absent foreign
  · intro row stored user
    exact outcome.userHeld stored user
  · intro number later issued final again ordered same repetition
    have kept : OwnKeys application issued := by
      intro row member named
      rw [same] at member
      rcases (outcome.mem row).mp member with ⟨old,_,selected,equal⟩ | ⟨present,_⟩
      · rw [equal] at named
        change old.dedupeKey ∈ _ at named
        exact absurd named (SourceApplication.resolves_unlisted selected)
      · exact outcome.held.2 row present named
    obtain ⟨between,second⟩ := applied_outcome
      {application with generation := ⟨application.generation.source,number⟩} later issued final again
      ordered kept repetition
    exact outcome.repeated second same

end applications

def deadlineFor (key : String) : Detection := ⟨.replyDeadline,key,.high,"t","w",.empty,none⟩

def gmailRead (number : Nat) (keys : List String) : SourceApplication :=
  ⟨⟨.gmail,number⟩,keys.map deadlineFor,.complete,none,none,none,false,[],[]⟩

/-- A local row, then a first read that finds the threads `a` and `b`. -/
def firstRead : List Operation :=
  [.upsertDetections [deadlineFor "local"] 0,.reserveSourceGeneration .gmail 0,
    .applySourceGeneration (gmailRead 1 ["a","b"]) ⟨1,1,1⟩,.reserveSourceGeneration .gmail 2]

theorem source_truth_second :
    let db := Run.run (@step EvidenceJson.compact) Database.empty firstRead
    let left := (@applySourceGeneration EvidenceJson.compact (gmailRead 2 ["b","c"]) ⟨3,3,3⟩).run db
    left.2.situations.map (fun row => (row.dedupeKey,row.state)) =
        [("local",.pending),("a",.resolved),("b",.pending),("c",.pending)] ∧
      Agrees (gmailRead 2 ["b","c"]) left.2 := by
  intro db left
  have returned : left.1 = .ok ⟨⟨1,0,1,0,0⟩,1⟩ := by decide +kernel
  have truth := @source_truth EvidenceJson.compact (gmailRead 2 ["b","c"]) ⟨3,3,3⟩ db left.2 _
    (@run_wellFormed EvidenceJson.compact _ empty_wellFormed firstRead) (by decide +kernel)
    (Prod.ext returned rfl)
  exact ⟨by decide +kernel,truth.1 rfl rfl⟩

end Proactive.Store.SourceTruth
