import Proactive.Store.Consistency
import Proactive.Store.Delivery

/-! The situation store's operations, and everything one operation can do. -/
namespace Proactive.Store
open Proactive.Library Database

def expireLapsed (timestamp : Int) : Sql Nat :=
  updateSituations (fun row => row.active && row.hasLapsed timestamp) (.lapsed timestamp)

/-- `state = 'snoozed' AND snoozed_until IS NOT NULL AND snoozed_until <= ?`. -/
def Situation.due (timestamp : Int) (row : Situation) : Bool :=
  row.state == .snoozed && row.snoozedUntil.any (fun wake => wake ≤ timestamp)

def wakeSnoozed (timestamp : Int) : Sql Nat :=
  updateSituations (Situation.due timestamp) (.woken timestamp)

def raiseTransitionError {α : Type} (id : Nat) (action : String) : Sql α := do
  let existing ← Statement.select (fun db => db.situation? id)
  match existing with
  | none => Statement.raise (.situationNotFound id)
  | some row => Statement.raise (.invalidTransition id row.state action)

def markEach (timestamp : Int) : List Nat → Sql (List Situation)
  | [] => return []
  | id::rest => do
    let updated ← deliverUpdate id timestamp (fun _ _ => true)
    if updated = 0 then
      raiseTransitionError id "deliver"
    else
      let situation ← requireSituation id
      recordDelivery situation timestamp
      let delivered ← markEach timestamp rest
      return situation::delivered

def markDelivered (ids : List Nat) (timestamp : Int) : Sql (List Situation) :=
  Statement.immediate (markEach timestamp ids)

/-- `UPDATE ... WHERE id = ? AND state = 'delivered'`, then the row it changed. -/
def transitionBody (id : Nat) (change : Situation → Situation) (action : String) : Sql Situation := do
  let updated ← updateSituations (fun row => row.id == id && row.state == .delivered) change
  if updated = 0 then raiseTransitionError id action else requireSituation id

def transition (id : Nat) (change : Situation → Situation) (action : String) : Sql Situation :=
  Statement.immediate (transitionBody id change action)

def acknowledgeSituation (id : Nat) (timestamp : Int) : Sql Situation :=
  transition id (.acknowledged timestamp) "acknowledge"

def snoozeSituation (id : Nat) (until_ timestamp : Int) : Sql Situation :=
  transition id (.snoozed until_ timestamp) "snooze"

def muteSituation (id : Nat) (timestamp : Int) : Sql Situation :=
  transition id (.muted timestamp) "mute"

/-- `INSERT_TYPE_MUTE`: a type that is muted already keeps its row. -/
def Database.muteType (situationType : SituationType) (timestamp : Int) (db : Database) : Database :=
  if db.typeMuted situationType then db
  else {db with typeMutes := db.typeMutes ++ [⟨situationType,timestamp⟩]}

section mute
variable (situationType : SituationType) (timestamp : Int) (db : Database)

@[simp] theorem muteType_situations :
    (db.muteType situationType timestamp).situations = db.situations := by
  unfold muteType
  split <;> rfl

@[simp] theorem muteType_deliveries :
    (db.muteType situationType timestamp).deliveries = db.deliveries := by
  unfold muteType
  split <;> rfl

end mute

def muteSituationType (id : Nat) (timestamp : Int) : Sql Situation :=
  Statement.immediate (do
    let situation ← transitionBody id (.muted timestamp) "mute type"
    Statement.update (muteType situation.situationType timestamp)
    return situation)

/-- One call of a store operation, with the clock readings it makes. -/
inductive Operation
  | upsertDetections (detections : List Detection) (timestamp : Int)
  | reserveSourceGeneration (source : SourceName) (now : Int)
  | applySourceGeneration (application : SourceApplication) (clock : Readings)
  | applyLocalDetections (detections : List Detection) (timestamp : Int)
  | resolveAbsent (situationType : SituationType) (presentKeys : List String) (timestamp : Int)
  | expireLapsed (timestamp : Int)
  | wakeSnoozed (timestamp : Int)
  | markDelivered (ids : List Nat) (timestamp : Int)
  | claimForDelivery (claim : DeliveryClaim)
  | reserveForDelivery (claim : DeliveryClaim) (claimToken : String) (expiresAt : Int)
  | confirmDelivery (claimToken : String) (confirmedAt : Int)
  | acknowledgeSituation (id : Nat) (timestamp : Int)
  | snoozeSituation (id : Nat) (until_ timestamp : Int)
  | muteSituation (id : Nat) (timestamp : Int)
  | muteSituationType (id : Nat) (timestamp : Int)
deriving DecidableEq, Repr

/-- The database after one call, whether it returned or raised. -/
def step [EvidenceJson] (db : Database) : Operation → Database
  | .upsertDetections detections timestamp => ((upsertDetections detections timestamp).run db).2
  | .reserveSourceGeneration source now => ((reserveSourceGeneration source now).run db).2
  | .applySourceGeneration application clock => ((applySourceGeneration application clock).run db).2
  | .applyLocalDetections detections timestamp => ((applyLocalDetections detections timestamp).run db).2
  | .resolveAbsent situationType keys timestamp => ((resolveAbsent situationType keys timestamp).run db).2
  | .expireLapsed timestamp => ((expireLapsed timestamp).run db).2
  | .wakeSnoozed timestamp => ((wakeSnoozed timestamp).run db).2
  | .markDelivered ids timestamp => ((markDelivered ids timestamp).run db).2
  | .claimForDelivery claim => ((claimForDelivery claim).run db).2
  | .reserveForDelivery claim token expiresAt => ((reserveForDelivery claim token expiresAt).run db).2
  | .confirmDelivery token confirmedAt => ((confirmDelivery token confirmedAt).run db).2
  | .acknowledgeSituation id timestamp => ((acknowledgeSituation id timestamp).run db).2
  | .snoozeSituation id until_ timestamp => ((snoozeSituation id until_ timestamp).run db).2
  | .muteSituation id timestamp => ((muteSituation id timestamp).run db).2
  | .muteSituationType id timestamp => ((muteSituationType id timestamp).run db).2

inductive UserChange : Operation → Nat → (Situation → Situation) → Prop
  | acknowledge (id : Nat) (timestamp : Int) :
    UserChange (.acknowledgeSituation id timestamp) id (.acknowledged timestamp)
  | snooze (id : Nat) (until_ timestamp : Int) :
    UserChange (.snoozeSituation id until_ timestamp) id (.snoozed until_ timestamp)
  | mute (id : Nat) (timestamp : Int) : UserChange (.muteSituation id timestamp) id (.muted timestamp)

/-- Everything one operation can do to a well-formed database. -/
inductive Effect : Operation → Database → Database → Prop
  | unchanged (operation : Operation) (db : Database) : Effect operation db db
  | upserted (detections : List Detection) (timestamp : Int) (db : Database) (stored : List Situation)
    (schema : {db with situations := stored}.WellFormed)
    (evolves : Table.Evolves (Upserted detections .localSource)
      (AddedBy detections .localSource db.nextId) db.situations stored) :
    Effect (.upsertDetections detections timestamp) db {db with situations := stored}
  | issued (source : SourceName) (now : Int) (db : Database) :
    Effect (.reserveSourceGeneration source now) db (db.issue source now)
  | applied (application : SourceApplication) (clock : Readings) (db after : Database)
    (stored : List Situation) (applied : Applied application clock db after stored) :
    Effect (.applySourceGeneration application clock) db after
  | local_ (detections : List Detection) (timestamp : Int) (db : Database) (stored : List Situation)
    (schema : {db with situations := stored}.WellFormed)
    (evolves : Table.Evolves (Upserted detections .memory)
      (AddedBy detections .memory db.nextId) db.situations stored)
    (types : ∀ detection ∈ detections, detection.situationType = .personalOccasion) :
    Effect (.applyLocalDetections detections timestamp) db {db with
      situations := Table.updateWhere (resolves .personalOccasion (some .memory)
        (fun row => (detections.map Detection.dedupeKey).contains row.dedupeKey))
        (.resolved timestamp) stored}
  | resolved (situationType : SituationType) (keys : List String) (timestamp : Int) (db : Database) :
    Effect (.resolveAbsent situationType keys timestamp) db {db with
      situations := Table.updateWhere (resolves situationType none
        (fun row => keys.contains row.dedupeKey)) (.resolved timestamp) db.situations}
  | expired (timestamp : Int) (db : Database) :
    Effect (.expireLapsed timestamp) db {db with
      situations := Table.updateWhere (fun row => row.active && row.hasLapsed timestamp)
        (.lapsed timestamp) db.situations}
  | woken (timestamp : Int) (db : Database) :
    Effect (.wakeSnoozed timestamp) db {db with
      situations := Table.updateWhere (Situation.due timestamp) (.woken timestamp) db.situations}
  | marked (timestamp : Int) (rows : List Situation) (db : Database) (waiting : PendingRows rows db) :
    Effect (.markDelivered (rows.map Situation.id) timestamp) db (db.deliverAll timestamp rows)
  | claimed (claim : DeliveryClaim) (rows : List Situation) (db : Database)
    (waiting : PendingRows rows db) :
    Effect (.claimForDelivery claim) db (db.deliverAll claim.deliveredAt rows)
  | reserved (claim : DeliveryClaim) (claimToken : String) (expiresAt : Int) (rows : List Situation)
    (db : Database) (page : rows.Sublist (pendingForDelivery maxDeliveryCandidates db))
    (ordered : LeasedInOrder claim (receiptDigest claimToken) expiresAt
      (reservationSlots claim (db.expire claim.deliveredAt)) rows (db.expire claim.deliveredAt)) :
    Effect (.reserveForDelivery claim claimToken expiresAt) db
      ((db.expire claim.deliveredAt).leaseAll claim (receiptDigest claimToken) expiresAt rows)
  | confirmed (claimToken : String) (confirmedAt : Int) (rows : List Situation) (db : Database)
    (confirmable : Confirmable claimToken confirmedAt rows db) :
    Effect (.confirmDelivery claimToken confirmedAt) db (db.confirmed claimToken confirmedAt rows)
  | user (operation : Operation) (row : Situation) (change : Situation → Situation) (db : Database)
    (named : UserChange operation row.id change) (member : row ∈ db.situations)
    (delivered : row.state = .delivered) :
    Effect operation db {db with
      situations := Table.updateWhere (fun stored => row.id == stored.id) change db.situations}
  | mutedType (row : Situation) (timestamp : Int) (db : Database) (member : row ∈ db.situations)
    (delivered : row.state = .delivered) :
    Effect (.muteSituationType row.id timestamp) db (Database.muteType row.situationType timestamp {db with
      situations := Table.updateWhere (fun stored => row.id == stored.id) (.muted timestamp) db.situations})

theorem markEach_success (timestamp : Int) (ids : List Nat) (delivered : List Situation)
    (db left : Database) (schema : db.WellFormed)
    (ok : (markEach timestamp ids).run db = (.ok delivered,left)) :
    ∃ rows, rows.map Situation.id = ids ∧ PendingRows rows db ∧ left = db.deliverAll timestamp rows := by
  induction ids generalizing db delivered with
  | nil =>
    obtain ⟨_,rfl⟩ := Statement.pure_success _ _ _ _ ok
    exact ⟨[],rfl,.nil db,(db.deliverAll_nil timestamp).symm⟩
  | cons id rest ih =>
    unfold markEach at ok
    rcases deliverUpdate_cases id timestamp (fun _ _ => true) db schema with
      ⟨ran,_⟩ | ⟨row,stored,rfl,pending,_,ran⟩
    · rw [Statement.run_bind_ok _ _ _ _ _ ran,if_pos rfl,raiseTransitionError,
        Statement.run_select_bind] at ok
      cases found : db.situation? id <;> simp [found] at ok
    · rw [Statement.run_bind_ok _ _ _ _ _ ran,if_neg Nat.one_ne_zero,
        markedOne_run timestamp row db schema stored (fun situation => do
          let delivered ← markEach timestamp rest
          return situation::delivered)] at ok
      obtain ⟨tail,middle,rested,ok⟩ := Statement.bind_success _ _ _ _ _ ok
      obtain ⟨_,rfl⟩ := Statement.pure_success _ _ _ _ ok
      obtain ⟨rows,rfl,waiting,rfl⟩ :=
        ih tail _ (schema.deliverAll timestamp [row] (by simpa using stored)) rested
      exact ⟨row::rows,rfl,(PendingRows.cons_iff timestamp row stored pending rows).mpr waiting,
        deliverAll_cons timestamp row rows db⟩

theorem transitionBody_success (id : Nat) (change : Situation → Situation) (action : String)
    (keepsId : ∀ row, (change row).id = row.id) (db left : Database) (result : Situation)
    (schema : db.WellFormed) (kept : ∀ row, {db with
      situations := Table.updateWhere (fun stored => row == stored.id) change db.situations}.WellFormed)
    (ok : (transitionBody id change action).run db = (.ok result,left)) :
    ∃ row ∈ db.situations, row.id = id ∧ row.state = .delivered ∧ result = change row ∧ left = {db with
      situations := Table.updateWhere (fun stored => row.id == stored.id) change db.situations} := by
  unfold transitionBody at ok
  rcases updateOne_cases id (fun row => row.state == .delivered) change db schema with
    ⟨ran,_⟩ | ⟨row,stored,rfl,delivered,ran⟩
  · rw [Statement.run_bind_ok _ _ _ _ _ ran,if_pos rfl,raiseTransitionError,
      Statement.run_select_bind] at ok
    cases found : db.situation? id <;> simp [found] at ok
  · rw [Statement.run_bind_ok _ _ _ _ _ ran,if_neg Nat.one_ne_zero,requireSituation,
      Statement.run_select_bind] at ok
    have member : change row ∈ Table.updateWhere (fun stored => row.id == stored.id) change db.situations :=
      (Table.mem_updateWhere _ _ _ _).mpr (Or.inl ⟨row,stored,by simp,rfl⟩)
    have found := (kept row.id).situation?_mem member
    rw [keepsId] at found
    rw [found] at ok
    simp only [Statement.run_pure,Prod.mk.injEq,Except.ok.injEq] at ok
    exact ⟨row,stored,rfl,by simpa using delivered,ok.1.symm,ok.2.symm⟩

/-- A user transition leaves the database alone or changes the one delivered row it names. -/
theorem transition_effect (operation : Operation) (id : Nat) (change : Situation → Situation)
    (action : String) (named : UserChange operation id change) (db : Database) (schema : db.WellFormed) :
    Effect operation db ((transition id change action).run db).2 := by
  have keeps : (∀ row, (change row).id = row.id) ∧ ∀ row, (change row).dedupeKey = row.dedupeKey := by
    cases named <;> exact ⟨fun _ => rfl,fun _ => rfl⟩
  cases outcome : (transition id change action).run db with
  | mk result left =>
    cases result with
    | error error =>
      rw [Statement.immediate_rollback _ _ _ _ outcome]
      exact .unchanged operation db
    | ok result =>
      obtain ⟨row,member,rfl,delivered,_,rfl⟩ := transitionBody_success _ _ _ keeps.1 _ _ _ schema
        (fun _ => schema.change _ _ keeps.1 keeps.2) ((Statement.immediate_success _ _ _ _).mp outcome)
      exact .user operation row change db named member delivered

theorem muteSituationType_effect (id : Nat) (timestamp : Int) (db : Database) (schema : db.WellFormed) :
    Effect (.muteSituationType id timestamp) db ((muteSituationType id timestamp).run db).2 := by
  cases outcome : (muteSituationType id timestamp).run db with
  | mk result left =>
    cases result with
    | error error =>
      rw [Statement.immediate_rollback _ _ _ _ outcome]
      exact .unchanged _ db
    | ok result =>
      rw [muteSituationType,Statement.immediate_success] at outcome
      obtain ⟨situation,middle,ran,rest⟩ := Statement.bind_success _ _ _ _ _ outcome
      obtain ⟨row,member,rfl,delivered,rfl,rfl⟩ := transitionBody_success id (.muted timestamp) _
        (fun _ => rfl) _ _ _ schema (fun _ => schema.change _ _ (fun _ => rfl) (fun _ => rfl)) ran
      rw [Statement.run_update_bind] at rest
      obtain ⟨_,rfl⟩ := Statement.pure_success _ _ _ _ rest
      exact .mutedType row timestamp db member delivered

theorem outcome_cases {α : Type} (body : Sql α) (db : Database) (holds : Database → Prop)
    (refused : holds db) (committed : ∀ result left,
      (Statement.immediate body).run db = (.ok result,left) → holds left) :
    holds ((Statement.immediate body).run db).2 := by
  cases outcome : (Statement.immediate body).run db with
  | mk result left =>
    cases result with
    | error error =>
      rw [Statement.immediate_rollback _ _ _ _ outcome]
      exact refused
    | ok result => exact committed result left outcome

theorem step_effect [EvidenceJson] (db : Database) (operation : Operation) (schema : db.WellFormed) :
    Effect operation db (step db operation) := by
  cases operation with
  | upsertDetections detections timestamp =>
    refine outcome_cases _ db (Effect _ db) (.unchanged _ db) (fun result left ok => ?_)
    obtain ⟨only,kept,evolves⟩ := upsertDetections_success _ _ _ _ _ schema ok
    rw [only] at kept ⊢
    exact .upserted detections timestamp db _ kept evolves
  | reserveSourceGeneration source now =>
    rw [step,run_reserveSourceGeneration]
    exact .issued source now db
  | applySourceGeneration application clock =>
    refine outcome_cases _ db (Effect _ db) (.unchanged _ db) (fun result left ok => ?_)
    obtain ⟨stored,applied⟩ := applySourceGeneration_success _ _ _ _ _ schema ok
    exact .applied application clock db left stored applied
  | applyLocalDetections detections timestamp =>
    refine outcome_cases _ db (Effect _ db) (.unchanged _ db) (fun result left ok => ?_)
    obtain ⟨stored,kept,evolves,types,rfl⟩ := applyLocalDetections_success _ _ _ _ _ schema ok
    exact .local_ detections timestamp db stored kept evolves types
  | resolveAbsent situationType keys timestamp =>
    obtain ⟨count,ran⟩ := resolveAbsent_run situationType keys timestamp db schema
    rw [step,ran]
    exact .resolved situationType keys timestamp db
  | expireLapsed timestamp => exact .expired timestamp db
  | wakeSnoozed timestamp => exact .woken timestamp db
  | markDelivered ids timestamp =>
    refine outcome_cases _ db (Effect _ db) (.unchanged _ db) (fun result left ok => ?_)
    obtain ⟨rows,rfl,waiting,rfl⟩ := markEach_success _ _ _ _ _ schema
      ((Statement.immediate_success _ _ _ _).mp ok)
    exact .marked timestamp rows db waiting
  | claimForDelivery claim =>
    obtain ⟨rows,waiting,ran⟩ := claimForDelivery_run claim db schema
    rw [step,ran]
    exact .claimed claim rows db waiting
  | reserveForDelivery claim claimToken expiresAt =>
    refine outcome_cases _ db (Effect _ db) (.unchanged _ db) (fun result left ok => ?_)
    obtain ⟨_,_,page,ordered,rfl,_⟩ := reserveForDelivery_success _ _ _ _ _ _ schema ok
    exact .reserved claim claimToken expiresAt _ db page ordered
  | confirmDelivery claimToken confirmedAt =>
    refine outcome_cases _ db (Effect _ db) (.unchanged _ db) (fun result left ok => ?_)
    rcases (confirmDelivery_success _ _ _ _ _ schema).mp ok with ⟨_,rfl⟩ | ⟨rows,confirmable,_,rfl⟩
    · exact .unchanged _ left
    · exact .confirmed claimToken confirmedAt rows db confirmable
  | acknowledgeSituation id timestamp =>
    exact transition_effect _ id _ "acknowledge" (.acknowledge id timestamp) db schema
  | snoozeSituation id until_ timestamp =>
    exact transition_effect _ id _ "snooze" (.snooze id until_ timestamp) db schema
  | muteSituation id timestamp => exact transition_effect _ id _ "mute" (.mute id timestamp) db schema
  | muteSituationType id timestamp => exact muteSituationType_effect id timestamp db schema

theorem Database.WellFormed.muteType {db : Database} (schema : db.WellFormed)
    (situationType : SituationType) (timestamp : Int) : (db.muteType situationType timestamp).WellFormed := by
  unfold Database.muteType
  split
  · exact schema
  · rename_i unmuted
    exact {schema with
      mutedTypes := by
        rw [List.map_append]
        refine List.nodup_append.mpr ⟨schema.mutedTypes,by simp,?_⟩
        intro known member other last
        obtain ⟨mute,present,rfl⟩ := List.mem_map.mp member
        simp only [List.map_cons,List.map_nil,List.mem_singleton] at last
        subst last
        rintro rfl
        exact unmuted (List.any_eq_true.mpr ⟨mute,present,beq_self_eq_true _⟩)}

theorem Applied.wellFormed {application : SourceApplication} {clock : Readings} {db after : Database}
    {stored : List Situation} (applied : Applied application clock db after stored)
    (schema : db.WellFormed) : after.WellFormed := by
  have accepted := schema.sourceAccepted application.generation application.status
    application.diagnostics clock.acceptedAt applied.admitted
  have resolved := applied.stored.change application.resolves (.resolved clock.timestamp)
    (fun _ => rfl) (fun _ => rfl)
  rw [applied.tables,applied.situations]
  exact {resolved with generationOrder := accepted.generationOrder}

theorem Effect.wellFormed {operation : Operation} {db after : Database}
    (effect : Effect operation db after) (schema : db.WellFormed) : after.WellFormed := by
  cases effect with
  | unchanged => exact schema
  | upserted _ _ _ _ kept => exact kept
  | issued source now => exact schema.issue source now
  | applied _ _ _ _ _ applied => exact applied.wellFormed schema
  | local_ _ _ _ _ kept => exact kept.change _ _ (fun _ => rfl) (fun _ => rfl)
  | resolved => exact schema.change _ _ (fun _ => rfl) (fun _ => rfl)
  | expired => exact schema.change _ _ (fun _ => rfl) (fun _ => rfl)
  | woken => exact schema.change _ _ (fun _ => rfl) (fun _ => rfl)
  | marked _ _ _ waiting => exact schema.deliverAll _ _ waiting.stored
  | claimed _ _ _ waiting => exact schema.deliverAll _ _ waiting.stored
  | reserved _ _ _ _ _ _ ordered => exact ordered.wellFormed _ _ _ _ (schema.expire _)
  | confirmed _ _ _ _ confirmable => exact confirmable.wellFormed schema
  | user _ row change _ named =>
    cases named <;> exact schema.change _ _ (fun _ => rfl) (fun _ => rfl)
  | mutedType row timestamp =>
    exact (schema.change _ (.muted timestamp) (fun _ => rfl) (fun _ => rfl)).muteType
      row.situationType timestamp

theorem step_wellFormed [EvidenceJson] (db : Database) (operation : Operation) (schema : db.WellFormed) :
    (step db operation).WellFormed :=
  (step_effect db operation schema).wellFormed schema

end Proactive.Store
