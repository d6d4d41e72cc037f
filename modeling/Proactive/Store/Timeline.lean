import Proactive.Store.Upkeep

/-! Deliveries and snoozes of a run, in the order it makes them. -/
namespace Proactive.Store
open Proactive.Library Database

/-- One appended delivery row, or one committed snooze. -/
inductive Moment
  | delivered (id : Nat) (deliveredAt : Int)
  | snoozed (id : Nat)
deriving DecidableEq, Repr

namespace Moment

def about : Moment → Nat
  | .delivered id _ => id
  | .snoozed id => id

def deliveryRow : Moment → Option (Nat × Int)
  | .delivered id deliveredAt => some (id,deliveredAt)
  | .snoozed _ => none

end Moment

def Delivery.key (delivery : Delivery) : Nat × Int := (delivery.situationId,delivery.deliveredAt)

def Delivery.moment (delivery : Delivery) : Moment := .delivered delivery.situationId delivery.deliveredAt

theorem filterMap_moments (deliveries : List Delivery) :
    (deliveries.map Delivery.moment).filterMap Moment.deliveryRow = deliveries.map Delivery.key := by
  induction deliveries with
  | nil => rfl
  | cons delivery rest ih => exact congrArg (delivery.key :: ·) ih

section timeline
variable [EvidenceJson]

def snoozes (db : Database) : Operation → List Moment
  | .snoozeSituation id until_ timestamp =>
    if ((snoozeSituation id until_ timestamp).run db).1.toOption.isSome then [.snoozed id] else []
  | _ => []

def moments (db : Database) (operation : Operation) : List Moment :=
  ((step db operation).deliveries.drop db.deliveries.length).map Delivery.moment ++ snoozes db operation

def timeline : Database → List Operation → List Moment
  | _,[] => []
  | db,operation::rest => moments db operation ++ timeline (step db operation) rest

theorem timeline_append (db : Database) (first : List Operation) (last : Operation) :
    timeline db (first ++ [last]) = timeline db first ++ moments (Run.run step db first) last := by
  induction first generalizing db with
  | nil => simp [timeline]
  | cons operation rest ih => simp [timeline,ih]

end timeline

/-- Everything one operation can do to the rows and to the timeline. -/
inductive Turn : Database → Operation → Database → List Moment → Prop
  | refused (operation : Operation) (db : Database) : Turn db operation db []
  | silent (operation : Operation) (db after : Database) (silent : operation.announces = false)
    (history : after.deliveries = db.deliveries) : Turn db operation after []
  | delivered (operation : Operation) (db after : Database) (timestamp : Int) (rows : List Situation)
    (waiting : PendingRows rows db)
    (situations : after.situations = (db.deliverAll timestamp rows).situations)
    (history : after.deliveries = (db.deliverAll timestamp rows).deliveries) :
    Turn db operation after (rows.map (fun row => .delivered row.id timestamp))
  | snoozed (row : Situation) (until_ timestamp : Int) (db : Database) (member : row ∈ db.situations)
    (delivered : row.state = .delivered) :
    Turn db (.snoozeSituation row.id until_ timestamp) {db with
      situations := Table.updateWhere (fun stored => row.id == stored.id) (.snoozed until_ timestamp)
        db.situations} [.snoozed row.id]

theorem Effect.history_kept {operation : Operation} {db after : Database}
    (effect : Effect operation db after) (silent : operation.announces = false) :
    after.deliveries = db.deliveries := by
  cases effect with
  | applied _ _ _ _ _ applied => rw [applied.tables]; rfl
  | marked => cases silent
  | claimed => cases silent
  | confirmed => cases silent
  | mutedType => exact muteType_deliveries _ _ _
  | _ => rfl

section turns
variable [EvidenceJson]

theorem snooze_cases (db : Database) (schema : db.WellFormed) (id : Nat) (until_ timestamp : Int) :
    (step db (.snoozeSituation id until_ timestamp) = db ∧
      moments db (.snoozeSituation id until_ timestamp) = []) ∨
    ∃ row ∈ db.situations, row.id = id ∧ row.state = .delivered ∧
      step db (.snoozeSituation id until_ timestamp) = {db with
        situations := Table.updateWhere (fun stored => row.id == stored.id) (.snoozed until_ timestamp)
          db.situations} ∧
      moments db (.snoozeSituation id until_ timestamp) = [.snoozed id] := by
  cases outcome : (snoozeSituation id until_ timestamp).run db with
  | mk result left =>
    have after : step db (.snoozeSituation id until_ timestamp) = left := congrArg Prod.snd outcome
    have none : db.deliveries.drop db.deliveries.length = [] := List.drop_length
    rw [moments,after,snoozes,outcome]
    cases result with
    | error error =>
      obtain rfl := Statement.immediate_rollback _ _ _ _ outcome
      rw [none]
      exact Or.inl ⟨rfl,rfl⟩
    | ok result =>
      obtain ⟨row,member,rfl,delivered,_,rfl⟩ := transitionBody_success id (.snoozed until_ timestamp) _
        (fun _ => rfl) _ _ _ schema (fun _ => schema.change _ _ (fun _ => rfl) (fun _ => rfl))
        ((Statement.immediate_success _ _ _ _).mp outcome)
      refine Or.inr ⟨row,member,rfl,delivered,rfl,?_⟩
      rw [none]
      rfl

theorem moments_eq {db : Database} {operation : Operation} {appended : List Delivery}
    (other : snoozes db operation = [])
    (history : (step db operation).deliveries = db.deliveries ++ appended) :
    moments db operation = appended.map Delivery.moment := by
  rw [moments,other,history,List.drop_left,List.append_nil]

theorem delivering_turn {db : Database} {operation : Operation} (schema : db.WellFormed)
    (announces : operation.announces = true) (other : snoozes db operation = [])
    (nosnooze : ∀ id change, ¬UserChange operation id change) :
    Turn db operation (step db operation) (moments db operation) := by
  have effect := step_effect db operation schema
  have delivers (timestamp : Int) (rows : List Situation) (waiting : PendingRows rows db)
      (situations : (step db operation).situations = (db.deliverAll timestamp rows).situations)
      (history : (step db operation).deliveries = (db.deliverAll timestamp rows).deliveries) :
      Turn db operation (step db operation) (moments db operation) := by
    rw [moments_eq other history,List.map_map]
    exact .delivered operation db _ timestamp rows waiting situations history
  generalize same : step db operation = after at *
  cases effect with
  | unchanged =>
    have history : (step db operation).deliveries = db.deliveries ++ [] := by rw [same,List.append_nil]
    rw [moments_eq other history]
    exact .refused operation db
  | marked timestamp rows _ waiting => exact delivers timestamp rows waiting rfl rfl
  | claimed claim rows _ waiting => exact delivers claim.deliveredAt rows waiting rfl rfl
  | confirmed _ confirmedAt rows _ confirmable =>
    exact delivers confirmedAt rows confirmable.waiting rfl rfl
  | user _ row change _ named => exact absurd named (nosnooze row.id change)
  | _ => cases announces

theorem silent_turn {db : Database} {operation : Operation} (schema : db.WellFormed)
    (silent : operation.announces = false) (other : snoozes db operation = []) :
    Turn db operation (step db operation) (moments db operation) := by
  have history := (step_effect db operation schema).history_kept silent
  have appended : (step db operation).deliveries = db.deliveries ++ [] := by rw [history,List.append_nil]
  rw [moments_eq other appended]
  exact .silent operation db _ silent history

theorem step_turn (db : Database) (schema : db.WellFormed) (operation : Operation) :
    Turn db operation (step db operation) (moments db operation) := by
  cases operation with
  | snoozeSituation id until_ timestamp =>
    rcases snooze_cases db schema id until_ timestamp with
      ⟨same,none⟩ | ⟨row,member,rfl,delivered,same,told⟩
    · rw [same,none]
      exact .refused _ db
    · rw [same,told]
      exact .snoozed row until_ timestamp db member delivered
  | markDelivered => exact delivering_turn schema rfl rfl (fun _ _ named => (nomatch named))
  | claimForDelivery => exact delivering_turn schema rfl rfl (fun _ _ named => (nomatch named))
  | confirmDelivery => exact delivering_turn schema rfl rfl (fun _ _ named => (nomatch named))
  | _ => exact silent_turn schema rfl rfl

/-- The timeline names exactly the delivery rows, in the order of the history. -/
theorem timeline_history (operations : List Operation) :
    (timeline Database.empty operations).filterMap Moment.deliveryRow =
      (Run.run step Database.empty operations).deliveries.map Delivery.key := by
  induction operations using List.reverseRecOn with
  | nil => rfl
  | append_singleton front operation ih =>
    have schema := run_wellFormed Database.empty empty_wellFormed front
    have turn := step_turn (Run.run step Database.empty front) schema operation
    rw [timeline_append,List.filterMap_append,ih,Run.run_append,Run.run_cons,Run.run_nil]
    generalize moments _ operation = log at turn
    generalize step _ operation = after at turn
    cases turn with
    | refused => exact List.append_nil _
    | silent _ _ _ _ history => rw [history]; exact List.append_nil _
    | delivered _ _ _ timestamp rows _ _ history =>
      have rowKeys := filterMap_moments (rows.map (Situation.delivery timestamp))
      rw [List.map_map] at rowKeys
      rw [history,deliverAll,List.map_append,← rowKeys]
      rfl
    | snoozed => exact List.append_nil _

end turns
end Proactive.Store
