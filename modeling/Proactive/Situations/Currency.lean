import Proactive.Situations.Engine

/-! Which stored replies still stand in the last Gmail generation. -/
namespace Proactive.Situations
open Proactive.Library Proactive.Store Database

def gmailReply (row : Situation) : Bool :=
  row.situationType == .replyDeadline && row.sourceName == .gmail

def gmailCurrent (db : Database) : Bool :=
  db.generations.gmail.any (fun generation =>
    generation.issued == generation.applied && generation.status == some .complete)

/-- The store, and beside it the last Gmail application that it accepted. -/
structure Tracked where
  db : Database
  lastGmail : Option SourceApplication

namespace Tracked

def fresh : Tracked := ⟨Database.empty,none⟩

def inBatch (tracked : Tracked) (row : Situation) : Bool :=
  tracked.lastGmail.any (fun application => application.presentKeys.contains row.dedupeKey)

/-- Every Gmail reply that a wake would return to pending while reply deadlines
are deliverable is in the last batch. -/
def WakesCurrent (tracked : Tracked) (timestamp : Int) : Prop :=
  gmailCurrent tracked.db = true → ∀ row ∈ tracked.db.situations,
    gmailReply row = true → row.due timestamp = true → tracked.inBatch row = true

instance (tracked : Tracked) (timestamp : Int) : Decidable (tracked.WakesCurrent timestamp) := by
  unfold WakesCurrent
  infer_instance

/-- The bookkeeping matches the generation row, and while that row is current
every active Gmail reply is in the last batch. -/
structure Current (tracked : Tracked) : Prop where
  schema : tracked.db.WellFormed
  status : (generationState .gmail tracked.db).status = tracked.lastGmail.map SourceApplication.status
  number : ∀ application, tracked.lastGmail = some application →
    application.generation.number = (generationState .gmail tracked.db).applied
  batch : gmailCurrent tracked.db = true → ∀ row ∈ tracked.db.situations,
    gmailReply row = true → row.active = true → tracked.inBatch row = true

theorem fresh_current : fresh.Current where
  schema := empty_wellFormed
  status := rfl
  number := by simp [fresh]
  batch := by simp [fresh,gmailCurrent,Database.empty]

end Tracked

theorem mem_updateWhere_active {selects : Situation → Bool} {change : Situation → Situation}
    {rows : List Situation} {row : Situation} (closes : ∀ old, (change old).active = false)
    (member : row ∈ Table.updateWhere selects change rows) (active : row.active = true) :
    row ∈ rows ∧ selects row = false := by
  rcases (Table.mem_updateWhere _ _ _ _).mp member with ⟨old,_,_,rfl⟩ | kept
  · rw [closes] at active
    contradiction
  · exact kept

theorem mem_evolves_gmail {detections : List Detection} {source : SituationSource} {bound : Nat}
    {old new : List Situation} {row : Situation} (foreign : source ≠ .gmail)
    (evolves : Table.Evolves (Upserted detections source) (AddedBy detections source bound) old new)
    (member : row ∈ new) (reply : gmailReply row = true) : row ∈ old := by
  have named : row.sourceName = .gmail := by
    rw [gmailReply,Bool.and_eq_true] at reply
    simpa using reply.2
  rcases evolves.backward row member with ⟨before,present,upserted⟩ | added
  · rcases upserted.described with rfl | ⟨_,_,_,_,renamed⟩
    · exact present
    · exact absurd (renamed.symm.trans named) foreign
  · exact absurd (added.sourceName.symm.trans named) foreign

structure Origin (operation : Operation) (db : Database) (row old : Situation) : Prop where
  member : old ∈ db.situations
  reply : gmailReply old = true
  key : old.dedupeKey = row.dedupeKey
  active : old.active = true ∨ ∃ timestamp, operation = .wakeSnoozed timestamp ∧ old.due timestamp = true

theorem origin_deliverAll {operation : Operation} {timestamp : Int} {rows : List Situation}
    {db : Database} {row : Situation} (schema : db.WellFormed) (waiting : PendingRows rows db)
    (member : row ∈ (db.deliverAll timestamp rows).situations) (reply : gmailReply row = true)
    (active : row.active = true) : ∃ old, Origin operation db row old := by
  rcases mem_deliverAll.mp member with ⟨old,present,⟨other,listed,same⟩,rfl⟩ | ⟨present,_⟩
  · obtain rfl := schema.same_id (waiting.stored other listed) present same
    refine ⟨other,present,reply,rfl,Or.inl ?_⟩
    rw [Situation.active,waiting.pending other listed]
    rfl
  · exact ⟨row,present,reply,rfl,Or.inl active⟩

theorem effect_origin {operation : Operation} {db after : Database}
    (effect : Effect operation db after) (schema : db.WellFormed)
    (other : ∀ application clock, operation ≠ .applySourceGeneration application clock)
    {row : Situation} (member : row ∈ after.situations) (reply : gmailReply row = true)
    (active : row.active = true) : ∃ old, Origin operation db row old := by
  have kept (present : row ∈ db.situations) : ∃ old, Origin operation db row old :=
    ⟨row,present,reply,rfl,Or.inl active⟩
  cases effect with
  | unchanged => exact kept member
  | upserted _ _ _ _ _ evolves => exact kept (mem_evolves_gmail (by decide) evolves member reply)
  | issued => exact kept member
  | applied application clock => exact absurd rfl (other application clock)
  | local_ _ _ _ _ _ evolves =>
    have stored := (mem_updateWhere_active (fun _ => rfl) member active).1
    exact kept (mem_evolves_gmail (by decide) evolves stored reply)
  | resolved => exact kept (mem_updateWhere_active (fun _ => rfl) member active).1
  | expired => exact kept (mem_updateWhere_active (fun _ => rfl) member active).1
  | woken timestamp =>
    rcases (Table.mem_updateWhere _ _ _ _).mp member with ⟨old,present,due,rfl⟩ | ⟨present,_⟩
    · exact ⟨old,present,reply,rfl,Or.inr ⟨timestamp,rfl,due⟩⟩
    · exact kept present
  | marked _ _ _ waiting => exact origin_deliverAll schema waiting member reply active
  | claimed _ _ _ waiting => exact origin_deliverAll schema waiting member reply active
  | reserved => exact kept member
  | confirmed _ _ _ _ confirmable =>
    exact origin_deliverAll schema confirmable.waiting member reply active
  | user _ _ change _ named =>
    have closes : ∀ old, (change old).active = false := by
      cases named <;> exact fun _ => rfl
    exact kept (mem_updateWhere_active closes member active).1
  | mutedType muted timestamp =>
    rw [muteType_situations] at member
    exact kept (mem_updateWhere_active (fun _ => rfl) member active).1

theorem effect_generations {operation : Operation} {db after : Database}
    (effect : Effect operation db after)
    (other : ∀ application clock, operation ≠ .applySourceGeneration application clock) :
    after.generations = db.generations ∨ ∃ source now, after = db.issue source now := by
  cases effect with
  | issued source now => exact Or.inr ⟨source,now,rfl⟩
  | applied application clock => exact absurd rfl (other application clock)
  | mutedType row timestamp =>
    left
    unfold Database.muteType
    split <;> rfl
  | _ => exact Or.inl rfl

theorem issue_current {source : SourceName} {now : Int} {db : Database} (schema : db.WellFormed)
    (current : gmailCurrent (db.issue source now) = true) :
    source = .calendar ∧ gmailCurrent db = true := by
  cases source with
  | calendar => exact ⟨rfl,current⟩
  | gmail =>
    obtain ⟨row,found,same⟩ := (Option.any_eq_true _ _).mp current
    rw [Bool.and_eq_true,beq_iff_eq] at same
    have reissued : GenerationRow.reissued now db.generations.gmail = row := Option.some.inj found
    rw [← reissued] at same
    cases old : db.generations.gmail with
    | none =>
      rw [old] at same
      have equal : 1 = 0 := same.1
      omega
    | some before =>
      have ordered : before.applied ≤ before.issued := schema.generationOrder .gmail before old
      rw [old] at same
      have equal : before.issued + 1 = before.applied := same.1
      omega

theorem issue_generationState (source other : SourceName) (now : Int) (db : Database) :
    (generationState other (db.issue source now)).applied = (generationState other db).applied ∧
      (generationState other (db.issue source now)).status = (generationState other db).status := by
  simp only [generationState,issue,BySource.get_set]
  split
  · rename_i same
    subst same
    cases db.generations.get other <;> exact ⟨rfl,rfl⟩
  · exact ⟨rfl,rfl⟩

theorem Tracked.Current.foreign {tracked : Tracked} (current : tracked.Current) {application : SourceApplication}
    {clock : Readings} {after : Database} {stored : List Situation}
    (applied : Applied application clock tracked.db after stored)
    (foreign : application.generation.source = .calendar) :
    Tracked.Current ⟨after,tracked.lastGmail⟩ := by
  have gmail : after.generations.gmail = tracked.db.generations.gmail := by
    rw [applied.tables]
    change ((tracked.db.generations.set application.generation.source _).gmail) = _
    rw [foreign]
    rfl
  have state : generationState .gmail after = generationState .gmail tracked.db :=
    congrArg (fun row : Option GenerationRow => row.getD _) gmail
  refine ⟨applied.wellFormed current.schema,?_,?_,?_⟩
  · rw [state]
    exact current.status
  · rw [state]
    exact current.number
  · intro currency row member reply active
    rw [gmailCurrent,gmail] at currency
    rw [applied.situations] at member
    have present := (mem_updateWhere_active (fun _ => rfl) member active).1
    have source : application.sourceName ≠ .gmail := by
      rw [SourceApplication.sourceName,foreign]
      decide
    exact current.batch currency row (mem_evolves_gmail source applied.upserted present reply) reply active

/-- An accepted Gmail application makes its own batch the last one; when it is
complete it resolves every active reply outside that batch. -/
theorem Tracked.Current.applied {tracked : Tracked} (current : tracked.Current) {application : SourceApplication}
    {clock : Readings} {after : Database} {stored : List Situation}
    (applied : Applied application clock tracked.db after stored)
    (own : application.generation.source = .gmail) : Tracked.Current ⟨after,some application⟩ := by
  have accepted : after.generations.gmail = (tracked.db.generations.gmail).map
      (.accepted application.generation.number application.status clock.acceptedAt) := by
    rw [applied.tables]
    change ((tracked.db.generations.set application.generation.source
      ((tracked.db.generations.get application.generation.source).map _)).gmail) = _
    rw [own]
    rfl
  obtain ⟨row,found,_⟩ := (Option.any_eq_true _ _).mp applied.admitted
  have old : tracked.db.generations.gmail = some row := by
    rw [own] at found
    exact found
  rw [old,Option.map_some] at accepted
  have state : generationState .gmail after = .accepted application.generation.number
      application.status clock.acceptedAt row :=
    congrArg (fun row : Option GenerationRow => row.getD _) accepted
  refine ⟨applied.wellFormed current.schema,?_,?_,?_⟩
  · rw [state]
    rfl
  · intro last same
    obtain rfl := Option.some.inj same
    rw [state]
    rfl
  · intro currency next member reply active
    rw [gmailCurrent,accepted,Option.any_some,Bool.and_eq_true] at currency
    have complete : application.status = .complete := by simpa [GenerationRow.accepted] using currency.2
    rw [applied.situations] at member
    have unresolved := (mem_updateWhere_active (fun _ => rfl) member active).2
    rw [gmailReply,Bool.and_eq_true,beq_iff_eq,beq_iff_eq] at reply
    have passed : application.passes next = true := by
      simpa [SourceApplication.resolves,resolves,SourceApplication.expectedType,
        SourceApplication.sourceName,own,SourceName.situationType,SourceName.situationSource,reply.1,
        reply.2,active] using unresolved
    simpa [SourceApplication.passes,SourceGenerationStatus.resolvesAbsent,complete,Tracked.inBatch] using passed

/-- Every Gmail reply that a reservation leases is in the batch of the last
applied Gmail generation, which is complete and the last one issued. -/
def NoStaleReply (tracked : Tracked) : Prop :=
  ∀ claim claimToken expiresAt reservation left,
    (Store.reserveForDelivery claim claimToken expiresAt).run tracked.db = (.ok reservation,left) →
    tracked.db.generations.gmail ≠ none → ∀ row ∈ reservation.situations, gmailReply row = true →
      ∃ application generation, tracked.lastGmail = some application ∧
        tracked.db.generations.gmail = some generation ∧
        application.generation.number = generation.applied ∧ application.status = .complete ∧
        generation.issued = generation.applied ∧ row.dedupeKey ∈ application.presentKeys

theorem stale_of_lease {tracked : Tracked} (claim : DeliveryClaim) (claimToken : String) (expiresAt : Int)
    (known : tracked.db.generations.gmail.isSome = true)
    (empty : tracked.lastGmail.all (fun application => application.presentKeys.isEmpty) = true)
    (leased : (((Store.reserveForDelivery claim claimToken expiresAt).run tracked.db).1.toOption.any
      (fun reservation => reservation.situations.any gmailReply)) = true) :
    ¬NoStaleReply tracked := by
  intro fine
  obtain ⟨reservation,left,ran,replies⟩ := Statement.run_ok_of_any leased
  obtain ⟨row,member,reply⟩ := List.any_eq_true.mp replies
  have present : tracked.db.generations.gmail ≠ none := Option.isSome_iff_ne_none.mp known
  obtain ⟨application,_,last,_,_,_,_,listed⟩ :=
    fine claim claimToken expiresAt reservation left ran present row member reply
  rw [last,Option.all_some,List.isEmpty_iff] at empty
  rw [empty] at listed
  contradiction

theorem Tracked.Current.noStaleReply {tracked : Tracked} (current : tracked.Current) :
    NoStaleReply tracked := by
  intro claim claimToken expiresAt reservation left ran known row member reply
  obtain ⟨_,_,page,ordered,_⟩ := reserveForDelivery_success _ _ _ _ _ _ current.schema ran
  obtain ⟨present,pending⟩ := pendingForDelivery_mem (page.subset member)
  obtain ⟨front,back,shape⟩ := List.append_of_mem member
  have source := (leasable_iff.mp (ordered.leasable front row back shape)).2.1
  obtain ⟨generation,found⟩ := Option.ne_none_iff_exists'.mp known
  have deadline : row.situationType = .replyDeadline := by
    rw [gmailReply,Bool.and_eq_true,beq_iff_eq] at reply
    exact reply.1
  have currency : (generation.issued == generation.applied && generation.status == some .complete) = true := by
    have kept : tracked.db.currentSource row = true := source
    simpa [currentSource,deadline,found] using kept
  have active : row.active = true := by simp [Situation.active,pending]
  have listed := current.batch (by rw [gmailCurrent,found]; exact currency) row present reply active
  obtain ⟨application,last,contained⟩ := (Option.any_eq_true _ _).mp listed
  rw [Bool.and_eq_true,beq_iff_eq,beq_iff_eq] at currency
  have state : generationState .gmail tracked.db = generation :=
    congrArg (fun row : Option GenerationRow => row.getD _) found
  have number := current.number application last
  have status := current.status
  rw [state] at number status
  rw [last,currency.2] at status
  exact ⟨application,generation,last,found,number,(Option.some.inj status).symm,currency.1,
    List.contains_iff_mem.mp contained⟩

section runs
variable [EvidenceJson]

def acceptedGmail (db : Database) (last : Option SourceApplication) :
    Operation → Option SourceApplication
  | .applySourceGeneration application clock =>
    if application.generation.source = .gmail ∧ applies db application clock = true
    then some application else last
  | _ => last

namespace Tracked

def step (tracked : Tracked) (operation : Operation) : Tracked :=
  ⟨Store.step tracked.db operation,acceptedGmail tracked.db tracked.lastGmail operation⟩

theorem Current.other {tracked : Tracked} (current : tracked.Current) (operation : Operation)
    (other : ∀ application clock, operation ≠ .applySourceGeneration application clock)
    (wakes : ∀ timestamp, operation = .wakeSnoozed timestamp → tracked.WakesCurrent timestamp) :
    (tracked.step operation).Current := by
  have effect := step_effect tracked.db operation current.schema
  have same : tracked.step operation = ⟨Store.step tracked.db operation,tracked.lastGmail⟩ := by
    cases operation with
    | applySourceGeneration application clock => exact absurd rfl (other application clock)
    | _ => rfl
  have generations := effect_generations effect other
  have before : gmailCurrent (Store.step tracked.db operation) = true → gmailCurrent tracked.db = true := by
    intro after
    rcases generations with kept | ⟨source,now,issued⟩
    · rwa [gmailCurrent,kept] at after
    · rw [issued] at after
      exact (issue_current current.schema after).2
  have state : (generationState .gmail (Store.step tracked.db operation)).applied =
        (generationState .gmail tracked.db).applied ∧
      (generationState .gmail (Store.step tracked.db operation)).status =
        (generationState .gmail tracked.db).status := by
    rcases generations with kept | ⟨source,now,issued⟩
    · unfold generationState
      rw [kept]
      exact ⟨rfl,rfl⟩
    · rw [issued]
      exact issue_generationState source .gmail now tracked.db
  rw [same]
  refine ⟨step_wellFormed tracked.db operation current.schema,state.2.trans current.status,?_,?_⟩
  · intro application found
    exact (current.number application found).trans state.1.symm
  · intro currency row member reply active
    obtain ⟨old,origin⟩ := effect_origin effect current.schema other member reply active
    have listed : tracked.inBatch old = true := by
      rcases origin.active with active | ⟨timestamp,woken,due⟩
      · exact current.batch (before currency) old origin.member origin.reply active
      · exact wakes timestamp woken (before currency) old origin.member origin.reply due
    unfold inBatch at listed ⊢
    rwa [origin.key] at listed

theorem Current.step {tracked : Tracked} (current : tracked.Current) (operation : Operation)
    (wakes : ∀ timestamp, operation = .wakeSnoozed timestamp → tracked.WakesCurrent timestamp) :
    (tracked.step operation).Current := by
  cases operation with
  | applySourceGeneration application clock =>
    cases committed : applies tracked.db application clock with
    | false =>
      have unchanged := sourceStep_refused tracked.db application clock committed
      have same : tracked.step (.applySourceGeneration application clock) = tracked := by
        rw [Tracked.step,acceptedGmail,if_neg (by simp [committed])]
        exact congrArg (fun db => (⟨db,tracked.lastGmail⟩ : Tracked)) unchanged
      rwa [same]
    | true =>
      obtain ⟨result,ran⟩ := applies_run committed
      obtain ⟨stored,applied⟩ := applySourceGeneration_success _ _ _ _ _ current.schema ran
      rw [Tracked.step,acceptedGmail]
      cases own : application.generation.source with
      | gmail =>
        rw [if_pos ⟨rfl,committed⟩]
        exact current.applied applied own
      | calendar =>
        rw [if_neg (by simp)]
        exact current.foreign applied own
  | _ => exact current.other _ (by intros; simp) wakes

theorem run_db (tracked : Tracked) (operations : List Operation) :
    (Run.run Tracked.step tracked operations).db = Run.run Store.step tracked.db operations := by
  induction operations generalizing tracked with
  | nil => rfl
  | cons operation rest ih => exact ih (tracked.step operation)

end Tracked

/-- A store operation on its own, also one of a pass that others interrupt, or a
whole evaluation pass. -/
inductive Event
  | operation (operation : Operation)
  | evaluate (detectors : Detectors) (readings : PassReadings) (inputs : EngineInputs)

def Event.wake : Event → Option Int
  | .operation (.wakeSnoozed timestamp) => some timestamp
  | .operation _ => none
  | .evaluate _ readings _ => some readings.wokenAt

namespace Tracked

def perform (tracked : Tracked) : Event → Tracked
  | .operation operation => tracked.step operation
  | .evaluate detectors readings inputs =>
    ⟨((evaluate detectors readings inputs).run tracked.db).2,
      (Run.run Tracked.step tracked (passOperations detectors readings inputs tracked.db)).lastGmail⟩

def Steady (tracked : Tracked) (event : Event) : Prop :=
  ∀ timestamp, event.wake = some timestamp → tracked.WakesCurrent timestamp

theorem perform_evaluate (tracked : Tracked) (detectors : Detectors) (readings : PassReadings)
    (inputs : EngineInputs) : tracked.perform (.evaluate detectors readings inputs) =
      Run.run Tracked.step tracked (passOperations detectors readings inputs tracked.db) := by
  rw [perform,evaluate_operations,← run_db]

end Tracked

theorem passOperations_wakes (detectors : Detectors) (readings : PassReadings) (inputs : EngineInputs)
    (db : Database) : ∃ rest, passOperations detectors readings inputs db =
      .wakeSnoozed readings.wokenAt::rest ∧
        ∀ operation ∈ rest, ∀ timestamp, operation ≠ .wakeSnoozed timestamp := by
  have gmail : ∀ operation ∈ gmailOperations detectors readings inputs,
      ∀ timestamp, operation ≠ .wakeSnoozed timestamp := by
    unfold gmailOperations
    split
    · simp
    · split <;> simp
  have calendar : ∀ operation ∈ calendarOperations detectors readings inputs,
      ∀ timestamp, operation ≠ .wakeSnoozed timestamp := by
    unfold calendarOperations
    split
    · simp
    · split <;> simp
  have opened : ∃ rest, openOperations detectors readings = .wakeSnoozed readings.wokenAt::rest ∧
      ∀ operation ∈ rest, ∀ timestamp, operation ≠ .wakeSnoozed timestamp := by
    refine ⟨_,rfl,?_⟩
    intro operation member
    rcases List.mem_cons.mp member with rfl | later
    · simp
    · cases found : detectors.detectPersonalOccasions readings.now with
      | error error => simp [found] at later
      | ok occasions =>
        rw [found] at later
        obtain rfl := List.mem_singleton.mp later
        simp
  obtain ⟨first,shape,silent⟩ := opened
  unfold passOperations
  rw [shape]
  refine ⟨_,rfl,?_⟩
  intro operation member
  rcases List.mem_append.mp member with early | late
  · exact silent operation early
  · split at late
    · simp at late
    · rcases List.mem_append.mp late with read | read
      · exact gmail operation read
      · split at read
        · simp at read
        · exact calendar operation read

theorem Tracked.Current.perform {tracked : Tracked} (current : tracked.Current) (event : Event)
    (steady : tracked.Steady event) : (tracked.perform event).Current := by
  cases event with
  | operation operation =>
    refine current.step operation (fun timestamp woken => steady timestamp ?_)
    rw [woken]
    rfl
  | evaluate detectors readings inputs =>
    obtain ⟨rest,shape,silent⟩ := passOperations_wakes detectors readings inputs tracked.db
    rw [perform_evaluate,shape,Run.run_cons]
    have woken := current.step (.wakeSnoozed readings.wokenAt) (by
      rintro timestamp same
      obtain rfl := Operation.wakeSnoozed.inj same
      exact steady _ rfl)
    clear shape
    generalize tracked.step (.wakeSnoozed readings.wokenAt) = opened at woken
    induction rest generalizing opened with
    | nil => exact woken
    | cons operation rest ih =>
      apply ih (fun other member => silent other (by simp [member]))
      exact woken.step operation (fun timestamp same => absurd same (silent operation (by simp) timestamp))

/-- In every run whose wakes return only replies of the current batch, no stale
reply is leased from any state reached. -/
theorem no_stale_reply (events : List Event)
    (steady : Run.Along Tracked.perform Tracked.Steady Tracked.fresh events) :
    NoStaleReply (Run.run Tracked.perform Tracked.fresh events) := by
  apply Tracked.Current.noStaleReply
  exact Run.along_invariant Tracked.perform Tracked.Steady Tracked.Current
    (fun _ event steady current => current.perform event steady) _ _ Tracked.fresh_current steady

end runs

def reply (key : String) : Detection := ⟨.replyDeadline,key,.critical,"t","w",.empty,none⟩

def gmailGeneration (number : Nat) (keys : List String) (now : Int) : List Operation :=
  [.reserveSourceGeneration .gmail now,
    .applySourceGeneration ⟨⟨.gmail,number⟩,keys.map reply,.complete,none,none,none,false,[],[]⟩
      ⟨now,now,now⟩]

def leaseAt (now : Int) : DeliveryClaim := ⟨now,now - 86400 * second,0,86400 * second,4,true⟩

def snoozedReply : List Operation :=
  gmailGeneration 1 ["k"] 0 ++
    [.reserveForDelivery (leaseAt second) "token" (121 * second),.confirmDelivery "token" (2 * second),
      .snoozeSituation 1 (10 * second) (3 * second)]

def wokenInBatch : List Operation :=
  snoozedReply ++ gmailGeneration 2 ["k"] (4 * second) ++ [.wakeSnoozed (11 * second)]

/-- The second generation no longer holds the reply, and the wake brings it back. -/
def wokenAnswered : List Operation :=
  snoozedReply ++ gmailGeneration 2 [] (4 * second) ++ [.wakeSnoozed (11 * second)]

theorem wokenInBatch_steady :
    Run.Along (@Tracked.perform EvidenceJson.compact) Tracked.Steady Tracked.fresh
      (wokenInBatch.map Event.operation) := by
  have quiet (tracked : Tracked) (operation : Operation)
      (silent : (Event.operation operation).wake = none) : tracked.Steady (.operation operation) := by
    intro timestamp woken
    rw [silent] at woken
    contradiction
  refine ⟨quiet _ _ rfl,quiet _ _ rfl,quiet _ _ rfl,quiet _ _ rfl,quiet _ _ rfl,quiet _ _ rfl,
    quiet _ _ rfl,?_,trivial⟩
  intro timestamp woken
  obtain rfl : 11 * second = timestamp := Option.some.inj woken
  decide +kernel

theorem wokenInBatch_current : NoStaleReply
    (Run.run (@Tracked.perform EvidenceJson.compact) Tracked.fresh (wokenInBatch.map Event.operation)) :=
  @no_stale_reply EvidenceJson.compact _ wokenInBatch_steady

theorem wokenAnswered_stale : ¬NoStaleReply
    (Run.run (@Tracked.perform EvidenceJson.compact) Tracked.fresh (wokenAnswered.map Event.operation)) := by
  apply stale_of_lease (leaseAt (12 * second)) "again" (132 * second)
  · decide +kernel
  · decide +kernel
  · decide +kernel

end Proactive.Situations
