import Proactive.Library.Run
import Proactive.Store.Situations

/-! The situation state machine and the delivery history over whole runs. -/
namespace Proactive.Store
open Proactive.Library Database

def SituationState.moves : SituationState → SituationState → Bool
  | .pending,.delivered | .pending,.resolved | .pending,.expired => true
  | .delivered,.acknowledged | .delivered,.snoozed | .delivered,.muted => true
  | .delivered,.resolved | .delivered,.expired => true
  | .snoozed,.pending => true
  | .resolved,.pending | .expired,.pending => true
  | _,_ => false

def Database.lastDeliveredAt (db : Database) (id : Nat) : Option Int :=
  (db.deliveries.filter (fun delivery => delivery.situationId == id)).getLast?.map Delivery.deliveredAt

/-- Wake time and delivery time agree with the state and with the history. -/
structure Coupled (db : Database) : Prop where
  snoozed : ∀ row ∈ db.situations, row.snoozedUntil.isSome = true ↔ row.state = .snoozed
  deliveredAt : ∀ row ∈ db.situations, row.deliveredAt = db.lastDeliveredAt row.id

/-- What one operation may do to the stored rows and to the history. -/
structure Advances (before after : Database) : Prop where
  rows : ∀ row ∈ before.situations, ∃ next ∈ after.situations, next.id = row.id ∧
    next.dedupeKey = row.dedupeKey ∧ (next.state = row.state ∨ row.state.moves next.state = true)
  history : ∃ appended, after.deliveries = before.deliveries ++ appended

/-- A row that an operation other than a delivery leaves or changes. -/
structure Quiet (row next : Situation) : Prop where
  id : next.id = row.id
  key : next.dedupeKey = row.dedupeKey
  deliveredAt : next.deliveredAt = row.deliveredAt
  state : next.state = row.state ∨ row.state.moves next.state = true
  snoozed : (row.snoozedUntil.isSome = true ↔ row.state = .snoozed) →
    (next.snoozedUntil.isSome = true ↔ next.state = .snoozed)

/-- A row that an operation inserts with an id from `bound` on. -/
structure Fresh (bound : Nat) (row : Situation) : Prop where
  id : bound ≤ row.id
  state : row.state = .pending
  deliveredAt : row.deliveredAt = none
  snoozedUntil : row.snoozedUntil = none

theorem Quiet.refl (row : Situation) : Quiet row row := ⟨rfl,rfl,rfl,Or.inl rfl,fun coupled => coupled⟩

theorem Upserted.quiet {detections : List Detection} {source : SituationSource}
    {row next : Situation} (upserted : Upserted detections source row next) : Quiet row next where
  id := upserted.id
  key := upserted.key
  deliveredAt := upserted.deliveredAt
  state := by
    rcases upserted.lifecycle with ⟨same,_⟩ | ⟨closed,pending,_⟩
    · exact Or.inl same
    · rcases closed with closed | closed <;> exact Or.inr (by rw [closed,pending]; rfl)
  snoozed := by
    intro coupled
    rcases upserted.lifecycle with ⟨state,wake⟩ | ⟨_,pending,awake⟩
    · rwa [state,wake]
    · simp [pending,awake]

theorem AddedBy.fresh {detections : List Detection} {source : SituationSource} {bound : Nat}
    {row : Situation} (added : AddedBy detections source bound row) : Fresh bound row :=
  ⟨added.id,added.state,added.deliveredAt,added.snoozedUntil⟩

theorem active_cases {row : Situation} (active : row.active = true) :
    row.state = .pending ∨ row.state = .delivered := by
  simpa [Situation.active] using active

theorem quiet_resolved (timestamp : Int) (row : Situation) (active : row.active = true) :
    Quiet row (row.resolved timestamp) := by
  rcases active_cases active with state | state <;>
    exact ⟨rfl,rfl,rfl,Or.inr (by rw [state]; rfl),fun coupled => by
      simpa [Situation.resolved,state] using coupled⟩

theorem UserChange.quiet {operation : Operation} {row : Situation} {change : Situation → Situation}
    (named : UserChange operation row.id change) (delivered : row.state = .delivered) :
    Quiet row (change row) := by
  cases named with
  | acknowledge id timestamp =>
    exact ⟨rfl,rfl,rfl,Or.inr (by rw [delivered]; rfl),fun coupled => by
      simpa [Situation.acknowledged,delivered] using coupled⟩
  | snooze id until_ timestamp =>
    exact ⟨rfl,rfl,rfl,Or.inr (by rw [delivered]; rfl),fun _ => by simp [Situation.snoozed]⟩
  | mute id timestamp =>
    exact ⟨rfl,rfl,rfl,Or.inr (by rw [delivered]; rfl),fun coupled => by
      simpa [Situation.muted,delivered] using coupled⟩

/-- Upserting a batch and then resolving active rows outside it is one quiet step:
a row that the batch reactivated is never among the resolved ones. -/
theorem evolves_resolved {detections : List Detection} {source : SituationSource} {bound : Nat}
    {old stored : List Situation} (selects : Situation → Bool) (timestamp : Int)
    (evolves : Table.Evolves (Upserted detections source) (AddedBy detections source bound) old stored)
    (active : ∀ row, selects row = true → row.active = true)
    (spared : ∀ row, selects row = true → ∀ detection ∈ detections, detection.dedupeKey ≠ row.dedupeKey) :
    Table.Evolves Quiet (Fresh bound) old (Table.updateWhere selects (.resolved timestamp) stored) := by
  have second : Table.Evolves
      (fun row next => next = row ∨ selects row = true ∧ next = row.resolved timestamp)
      (Fresh bound) stored (Table.updateWhere selects (.resolved timestamp) stored) :=
    .updateWhere _ _ _ (fun _ => Or.inl rfl) (fun _ _ hit => Or.inr ⟨hit,rfl⟩)
  refine evolves.comp second ?_ ?_
  · rintro row middle last upserted (rfl | ⟨hit,rfl⟩)
    · exact upserted.quiet
    · have same : middle = row := by
        rcases upserted.described with same | ⟨detection,member,named,_⟩
        · exact same
        · exact absurd (named.trans upserted.key.symm) (spared middle hit detection member)
      subst same
      exact quiet_resolved timestamp middle (active middle hit)
  · rintro row next added (rfl | ⟨hit,rfl⟩)
    · exact added.fresh
    · obtain ⟨detection,member,named,_⟩ := added.described
      exact absurd named (spared row hit detection member)

namespace SourceApplication
variable {application : SourceApplication} {row : Situation}

theorem resolves_own (hit : application.resolves row = true) :
    row.situationType = application.expectedType ∧ row.sourceName = application.sourceName ∧
      row.active = true := by
  simp only [SourceApplication.resolves,Store.resolves,Option.all_some,Bool.and_eq_true,beq_iff_eq] at hit
  exact ⟨hit.1.1.1,hit.1.1.2,hit.1.2⟩

/-- Every branch of the resolution passes over the keys of the batch. -/
theorem passes_listed (listed : row.dedupeKey ∈ application.presentKeys) :
    application.passes row = true := by
  have present : application.presentKeys.contains row.dedupeKey = true := List.contains_iff_mem.mpr listed
  unfold SourceApplication.passes passesSourceIds
  rw [present]
  split
  · rfl
  split
  · rfl
  split <;> rfl

theorem resolves_unlisted (hit : application.resolves row = true) :
    row.dedupeKey ∉ application.presentKeys := by
  intro listed
  simp [SourceApplication.resolves,Store.resolves,passes_listed listed] at hit

theorem resolves_spared (hit : application.resolves row = true) :
    ∀ detection ∈ application.detections, detection.dedupeKey ≠ row.dedupeKey :=
  fun _ member named => resolves_unlisted hit (named ▸ List.mem_map_of_mem member)

end SourceApplication

/-- An operation either leaves the history alone and changes rows quietly, or
delivers distinct pending rows at one time. -/
theorem Effect.quiet_or_delivers {operation : Operation} {db after : Database}
    (effect : Effect operation db after) (schema : db.WellFormed) :
    (Table.Evolves Quiet (Fresh db.nextId) db.situations after.situations ∧
      after.deliveries = db.deliveries) ∨
    ∃ timestamp rows, PendingRows rows db ∧
      after.situations = (db.deliverAll timestamp rows).situations ∧
      after.deliveries = (db.deliverAll timestamp rows).deliveries := by
  cases effect with
  | unchanged => exact Or.inl ⟨.refl Quiet.refl _,rfl⟩
  | upserted _ _ _ _ _ evolves =>
    exact Or.inl ⟨evolves.mono (fun _ _ one => one.quiet) (fun _ added => added.fresh),rfl⟩
  | issued => exact Or.inl ⟨.refl Quiet.refl _,rfl⟩
  | applied application clock _ _ stored applied =>
    refine Or.inl ⟨?_,by rw [applied.tables]; rfl⟩
    rw [applied.situations]
    exact evolves_resolved _ _ applied.upserted (fun _ hit => (SourceApplication.resolves_own hit).2.2)
      (fun _ => SourceApplication.resolves_spared)
  | local_ detections timestamp _ stored _ evolves =>
    refine Or.inl ⟨evolves_resolved _ _ evolves ?_ ?_,rfl⟩
    · intro row hit
      simp only [resolves,Bool.and_eq_true] at hit
      exact hit.1.2
    · intro row hit detection member named
      simp only [resolves,Bool.and_eq_true,Bool.not_eq_true',List.contains_eq_mem,
        decide_eq_false_iff_not] at hit
      exact hit.2 (named ▸ List.mem_map_of_mem member)
  | resolved =>
    refine Or.inl ⟨.updateWhere _ _ _ Quiet.refl ?_,rfl⟩
    intro row _ hit
    simp only [resolves,Bool.and_eq_true] at hit
    exact quiet_resolved _ row hit.1.2
  | expired =>
    refine Or.inl ⟨.updateWhere _ _ _ Quiet.refl ?_,rfl⟩
    intro row _ hit
    simp only [Bool.and_eq_true] at hit
    rcases active_cases hit.1 with state | state <;>
      exact ⟨rfl,rfl,rfl,Or.inr (by rw [state]; rfl),fun coupled => by
        simpa [Situation.lapsed,state] using coupled⟩
  | woken =>
    refine Or.inl ⟨.updateWhere _ _ _ Quiet.refl ?_,rfl⟩
    intro row _ hit
    simp only [Situation.due,Bool.and_eq_true,beq_iff_eq] at hit
    exact ⟨rfl,rfl,rfl,Or.inr (by rw [hit.1]; rfl),fun _ => by simp [Situation.woken]⟩
  | marked timestamp rows _ waiting => exact Or.inr ⟨timestamp,rows,waiting,rfl,rfl⟩
  | claimed claim rows _ waiting => exact Or.inr ⟨claim.deliveredAt,rows,waiting,rfl,rfl⟩
  | reserved => exact Or.inl ⟨.refl Quiet.refl _,rfl⟩
  | confirmed _ confirmedAt rows _ confirmable =>
    exact Or.inr ⟨confirmedAt,rows,confirmable.waiting,rfl,rfl⟩
  | user _ row change _ named member delivered =>
    refine Or.inl ⟨.updateWhere _ _ _ Quiet.refl (fun stored other hit => ?_),rfl⟩
    obtain rfl := schema.same_id member other (by simpa using hit)
    exact named.quiet delivered
  | mutedType row timestamp _ member delivered =>
    refine Or.inl ⟨?_,muteType_deliveries _ _ _⟩
    rw [muteType_situations]
    refine .updateWhere _ _ _ Quiet.refl (fun stored other hit => ?_)
    obtain rfl := schema.same_id member other (by simpa using hit)
    exact (UserChange.mute row.id timestamp).quiet delivered

theorem mem_deliverAll {timestamp : Int} {rows : List Situation} {db : Database} {next : Situation} :
    next ∈ (db.deliverAll timestamp rows).situations ↔
      (∃ row ∈ db.situations, (∃ other ∈ rows, other.id = row.id) ∧ next = row.delivered timestamp) ∨
      (next ∈ db.situations ∧ ∀ other ∈ rows, other.id ≠ next.id) := by
  simp [deliverAll,Table.mem_updateWhere]

theorem lastDeliveredAt_deliverAll (timestamp : Int) (rows : List Situation) (db : Database)
    (id : Nat) :
    (db.deliverAll timestamp rows).lastDeliveredAt id =
      if id ∈ rows.map Situation.id then some timestamp else db.lastDeliveredAt id := by
  have added : (rows.map (Situation.delivery timestamp)).filter
      (fun delivery => delivery.situationId == id) =
        (rows.filter (fun row => row.id == id)).map (Situation.delivery timestamp) := by
    rw [List.filter_map]
    rfl
  unfold lastDeliveredAt deliverAll
  rw [List.filter_append,added]
  split
  · rename_i listed
    obtain ⟨row,member,same⟩ := List.mem_map.mp listed
    have nonempty : (rows.filter (fun row => row.id == id)).map (Situation.delivery timestamp) ≠ [] := by
      intro empty
      have found : row ∈ rows.filter (fun row => row.id == id) := by simp [member,same]
      simp [List.map_eq_nil_iff.mp empty] at found
    rw [List.getLast?_append_of_ne_nil _ nonempty,List.getLast?_eq_some_getLast nonempty,Option.map_some]
    obtain ⟨last,_,shape⟩ := List.mem_map.mp (List.getLast_mem nonempty)
    rw [← shape]
    rfl
  · rename_i missing
    have none : rows.filter (fun row => row.id == id) = [] := by
      rw [List.filter_eq_nil_iff]
      intro row member same
      exact missing (List.mem_map.mpr ⟨row,member,by simpa using same⟩)
    rw [none,List.map_nil,List.append_nil]

theorem Effect.advances {operation : Operation} {db after : Database}
    (effect : Effect operation db after) (schema : db.WellFormed) : Advances db after := by
  rcases effect.quiet_or_delivers schema with ⟨evolves,same⟩ | ⟨timestamp,rows,waiting,tables,history⟩
  · refine ⟨fun row member => ?_,[],by simp [same]⟩
    obtain ⟨next,present,quiet⟩ := evolves.forward row member
    exact ⟨next,present,quiet.id,quiet.key,quiet.state⟩
  · refine ⟨fun row member => ?_,_,history⟩
    rw [tables]
    by_cases listed : ∃ other ∈ rows, other.id = row.id
    · refine ⟨row.delivered timestamp,mem_deliverAll.mpr (Or.inl ⟨row,member,listed,rfl⟩),rfl,rfl,Or.inr ?_⟩
      obtain ⟨other,present,same⟩ := listed
      obtain rfl := schema.same_id (waiting.stored other present) member same
      rw [waiting.pending other present]
      rfl
    · push Not at listed
      exact ⟨row,mem_deliverAll.mpr (Or.inr ⟨member,listed⟩),rfl,rfl,Or.inl rfl⟩

theorem Effect.coupled {operation : Operation} {db after : Database}
    (effect : Effect operation db after) (schema : db.WellFormed) (coupled : Coupled db) :
    Coupled after := by
  rcases effect.quiet_or_delivers schema with ⟨evolves,same⟩ | ⟨timestamp,rows,waiting,tables,history⟩
  · have histories : ∀ id, after.lastDeliveredAt id = db.lastDeliveredAt id := by
      intro id
      rw [lastDeliveredAt,same]
      rfl
    constructor
    · intro next member
      rcases evolves.backward next member with ⟨row,present,quiet⟩ | fresh
      · exact quiet.snoozed (coupled.snoozed row present)
      · simp [fresh.state,fresh.snoozedUntil]
    · intro next member
      rw [histories]
      rcases evolves.backward next member with ⟨row,present,quiet⟩ | fresh
      · rw [quiet.deliveredAt,quiet.id]
        exact coupled.deliveredAt row present
      · rw [fresh.deliveredAt,eq_comm,lastDeliveredAt,Option.map_eq_none_iff,List.getLast?_eq_none_iff,
          List.filter_eq_nil_iff]
        intro delivery present named
        obtain ⟨row,stored,owner⟩ := List.mem_map.mp (schema.deliveryReferences delivery present)
        have below := db.lt_nextId row stored
        have above := fresh.id
        simp only [beq_iff_eq] at named
        omega
  · have histories : ∀ id, after.lastDeliveredAt id = (db.deliverAll timestamp rows).lastDeliveredAt id := by
      intro id
      rw [lastDeliveredAt,history]
      rfl
    constructor
    · intro next member
      rw [tables] at member
      rcases mem_deliverAll.mp member with ⟨row,present,_,rfl⟩ | ⟨present,_⟩
      · simp [Situation.delivered]
      · exact coupled.snoozed next present
    · intro next member
      rw [tables] at member
      rw [histories,lastDeliveredAt_deliverAll]
      rcases mem_deliverAll.mp member with ⟨row,present,⟨other,listed,same⟩,rfl⟩ | ⟨present,missing⟩
      · have delivered : (row.delivered timestamp).id ∈ rows.map Situation.id :=
          List.mem_map.mpr ⟨other,listed,same⟩
        rw [if_pos delivered]
        rfl
      · rw [if_neg]
        · exact coupled.deliveredAt next present
        · intro listed
          obtain ⟨other,inside,same⟩ := List.mem_map.mp listed
          exact missing other inside same

/-- What any number of operations may do to the stored rows and to the history:
rows keep their id and key, closed rows keep their state. -/
structure Persists (before after : Database) : Prop where
  rows : ∀ row ∈ before.situations, ∃ next ∈ after.situations, next.id = row.id ∧
    next.dedupeKey = row.dedupeKey ∧
    (row.state = .acknowledged ∨ row.state = .muted → next.state = row.state)
  history : ∃ appended, after.deliveries = before.deliveries ++ appended

theorem Persists.refl (db : Database) : Persists db db :=
  ⟨fun row member => ⟨row,member,rfl,rfl,fun _ => rfl⟩,[],by simp⟩

theorem Persists.trans {first second third : Database} (one : Persists first second)
    (two : Persists second third) : Persists first third := by
  refine ⟨fun row member => ?_,?_⟩
  · obtain ⟨next,present,id,key,closed⟩ := one.rows row member
    obtain ⟨last,found,id',key',closed'⟩ := two.rows next present
    refine ⟨last,found,id'.trans id,key'.trans key,fun final => ?_⟩
    have same := closed final
    rw [← same] at final
    exact (closed' final).trans same
  · obtain ⟨added,history⟩ := one.history
    obtain ⟨added',history'⟩ := two.history
    exact ⟨added ++ added',by rw [history',history,List.append_assoc]⟩

theorem Advances.persists {before after : Database} (advances : Advances before after) :
    Persists before after := by
  refine ⟨fun row member => ?_,advances.history⟩
  obtain ⟨next,present,id,key,same | moved⟩ := advances.rows row member
  · exact ⟨next,present,id,key,fun _ => same⟩
  · refine ⟨next,present,id,key,fun closed => ?_⟩
    rcases closed with closed | closed <;> simp [closed,SituationState.moves] at moved

theorem empty_coupled : Coupled Database.empty := ⟨by simp [empty],by simp [empty]⟩

section runs
variable [EvidenceJson]

theorem run_wellFormed (db : Database) (schema : db.WellFormed) (operations : List Operation) :
    (Run.run step db operations).WellFormed :=
  Run.run_invariant step WellFormed step_wellFormed db operations schema

theorem run_coupled (db : Database) (schema : db.WellFormed) (coupled : Coupled db)
    (operations : List Operation) : Coupled (Run.run step db operations) :=
  (Run.run_invariant step (fun db => db.WellFormed ∧ Coupled db)
    (fun db operation holds => ⟨step_wellFormed db operation holds.1,
      (step_effect db operation holds.1).coupled holds.1 holds.2⟩) db operations ⟨schema,coupled⟩).2

theorem run_persists (db : Database) (schema : db.WellFormed) (operations : List Operation) :
    Persists db (Run.run step db operations) :=
  (Run.run_relation step (fun before after => before.WellFormed → after.WellFormed ∧ Persists before after)
    (fun db schema => ⟨schema,.refl db⟩)
    (fun _ _ _ one two schema => ⟨(two (one schema).1).1,(one schema).2.trans (two (one schema).1).2⟩)
    (fun db operation schema => ⟨step_wellFormed db operation schema,
      ((step_effect db operation schema).advances schema).persists⟩) db operations schema).2

/-- Over every run from a fresh database: wake times and delivery times agree
with states and history, keys are unique, every single operation moves rows
along the edges of the state machine and appends to the history, and across
any continuation no row is lost or renamed and closed rows stay closed. -/
theorem situation_lifecycle (operations : List Operation) :
    Coupled (Run.run step empty operations) ∧
      ((Run.run step empty operations).situations.map Situation.dedupeKey).Nodup ∧
      (∀ operation, Advances (Run.run step empty operations)
        (step (Run.run step empty operations) operation)) ∧
      ∀ later, Persists (Run.run step empty operations) (Run.run step empty (operations ++ later)) := by
  have schema := run_wellFormed empty empty_wellFormed operations
  refine ⟨run_coupled empty empty_wellFormed empty_coupled operations,schema.dedupeKeys,?_,?_⟩
  · intro operation
    exact (step_effect _ operation schema).advances schema
  · intro later
    rw [Run.run_append]
    exact run_persists _ schema later

end runs
end Proactive.Store
