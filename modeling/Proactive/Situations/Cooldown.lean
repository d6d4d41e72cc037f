import Proactive.Situations.Budget
import Proactive.Store.Timeline

/-! The cooldown between the deliveries of one situation, over whole runs. -/
namespace Proactive.Situations
open Proactive.Library Proactive.Store Database

/-- The calls of a run in which hosts deliver through policies of one cooldown. -/
def Cools (cooldown : Int) : Operation → Prop
  | .markDelivered .. | .claimForDelivery .. => False
  | .reserveForDelivery claim _ expiresAt => ∃ policy : AttentionPolicy,
    policy.settings.cooldown = cooldown ∧ claim = policy.deliveryClaim claim.deliveredAt ∧
      expiresAt = claim.deliveredAt + AttentionPolicy.deliveryClaimLease
  | _ => True

/-- The delivery that a situation rests from: a snooze ends the rest. -/
def restAfter (id : Nat) (last : Option Int) : Moment → Option Int
  | .delivered other deliveredAt => if other = id then some deliveredAt else last
  | .snoozed other => if other = id then none else last

def resting (id : Nat) (log : List Moment) : Option Int := log.foldl (restAfter id) none

theorem restAfter_other {id : Nat} {last : Option Int} {moment : Moment} (other : moment.about ≠ id) :
    restAfter id last moment = last := by
  cases moment <;> exact if_neg other

theorem fold_others {id : Nat} {last : Option Int} {log : List Moment}
    (others : ∀ moment ∈ log, moment.about ≠ id) : log.foldl (restAfter id) last = last := by
  induction log generalizing last with
  | nil => rfl
  | cons moment rest ih =>
    obtain ⟨head,tail⟩ := List.forall_mem_cons.mp others
    rw [List.foldl_cons,restAfter_other head]
    exact ih tail

theorem resting_append (id : Nat) (log more : List Moment) :
    resting id (log ++ more) = more.foldl (restAfter id) (resting id log) := List.foldl_append

theorem resting_deliveries (id : Nat) (log : List Moment) (timestamp : Int) (rows : List Situation) :
    resting id (log ++ rows.map (fun row => .delivered row.id timestamp)) =
      if id ∈ rows.map Situation.id then some timestamp else resting id log := by
  rw [resting_append]
  generalize resting id log = last
  induction rows generalizing last with
  | nil => rfl
  | cons row rest ih =>
    rw [List.map_cons,List.foldl_cons,ih,List.map_cons]
    by_cases same : row.id = id
    · simp [restAfter,same]
    · simp [restAfter,same,Ne.symm same]

def Spaced (cooldown : Int) (log : List Moment) : Prop :=
  ∀ front id second back, log = front ++ .delivered id second :: back →
    ∀ first, resting id front = some first → first + cooldown ≤ second

theorem spaced_nil (cooldown : Int) : Spaced cooldown [] := by
  intro front id second back shape
  simp at shape

theorem spaced_snooze {cooldown : Int} {log : List Moment} (spaced : Spaced cooldown log) (id : Nat) :
    Spaced cooldown (log ++ [.snoozed id]) := by
  intro front other second back shape
  rcases List.append_eq_append_iff.mp shape with ⟨middle,_,tail⟩ | ⟨middle,rfl,tail⟩
  · cases middle with
    | nil => simp at tail
    | cons moment rest => simp at tail
  · cases middle with
    | nil => simp at tail
    | cons moment rest =>
      obtain ⟨rfl,_⟩ := List.cons.inj tail
      exact spaced front other second rest rfl

/-- Two consecutive deliveries of one situation are a cooldown apart, or the
situation was snoozed between them. -/
def Apart (cooldown : Int) (log : List Moment) : Prop :=
  ∀ front middle back id first second,
    log = front ++ .delivered id first :: (middle ++ .delivered id second :: back) →
      (∀ deliveredAt, .delivered id deliveredAt ∉ middle) →
        first + cooldown ≤ second ∨ .snoozed id ∈ middle

theorem Spaced.apart {cooldown : Int} {log : List Moment} (spaced : Spaced cooldown log) : Apart cooldown log := by
  intro front middle back id first second shape consecutive
  by_cases snoozed : Moment.snoozed id ∈ middle
  · exact Or.inr snoozed
  · left
    refine spaced (front ++ .delivered id first :: middle) id second back (by simp [shape]) first ?_
    have others : ∀ moment ∈ middle, moment.about ≠ id := by
      rintro (⟨other,deliveredAt⟩ | other) member same
      · exact consecutive deliveredAt (same ▸ member)
      · exact snoozed (same ▸ member)
    rw [resting_append,List.foldl_cons,fold_others others]
    exact if_pos rfl

theorem spaced_deliveries {cooldown : Int} {log : List Moment} (spaced : Spaced cooldown log)
    (timestamp : Int) (rows : List Situation) (distinct : (rows.map Situation.id).Nodup)
    (rested : ∀ row ∈ rows, ∀ first, resting row.id log = some first → first + cooldown ≤ timestamp) :
    Spaced cooldown (log ++ rows.map (fun row => .delivered row.id timestamp)) := by
  induction rows using List.reverseRecOn with
  | nil => simpa using spaced
  | append_singleton front last ih =>
    rw [List.map_append] at distinct
    obtain ⟨earlier,_,apart⟩ := List.nodup_append.mp distinct
    have before := ih earlier (fun row member => rested row (List.mem_append_left _ member))
    rw [List.map_append,← List.append_assoc]
    intro start id second back shape
    rcases List.append_eq_append_iff.mp shape with ⟨middle,rfl,tail⟩ | ⟨middle,same,tail⟩
    · cases middle with
      | nil =>
        obtain ⟨head,_⟩ := List.cons.inj tail
        obtain ⟨rfl,rfl⟩ := Moment.delivered.inj head
        rw [List.append_nil,resting_deliveries]
        have absent : last.id ∉ front.map Situation.id :=
          fun listed => apart last.id listed last.id (by simp) rfl
        rw [if_neg absent]
        exact rested last (by simp)
      | cons moment rest => simp at tail
    · cases middle with
      | nil =>
        obtain ⟨head,_⟩ := List.cons.inj tail
        obtain ⟨rfl,rfl⟩ := Moment.delivered.inj head
        rw [List.append_nil] at same
        subst same
        rw [resting_deliveries]
        have absent : last.id ∉ front.map Situation.id :=
          fun listed => apart last.id listed last.id (by simp) rfl
        rw [if_neg absent]
        exact rested last (by simp)
      | cons moment rest =>
        obtain ⟨rfl,_⟩ := List.cons.inj tail
        exact before start id second rest same

/-- Every lease of a resting situation was taken after its cooldown, and no row
of it carries a snooze exemption. -/
structure Rested (cooldown now : Int) (log : List Moment) (db : Database) : Prop where
  schema : db.WellFormed
  recorded : ∀ id first, resting id log = some first →
    ∃ delivery ∈ db.deliveries, delivery.situationId = id ∧ delivery.deliveredAt = first
  started : ∀ claim ∈ db.claims, claim.claimedAt ≤ now
  plain : ∀ id first, resting id log = some first →
    ∀ row ∈ db.situations, row.id = id → row.snoozeCooldownExempt = false
  rested : ∀ id first, resting id log = some first →
    ∀ claim ∈ db.claims, claim.situationId = id → first + cooldown ≤ claim.claimedAt

theorem empty_rested (cooldown now : Int) : Rested cooldown now [] Database.empty where
  schema := empty_wellFormed
  recorded := by simp [resting]
  started := by simp [Database.empty]
  plain := by simp [resting]
  rested := by simp [resting]

theorem Rested.later {cooldown now later : Int} {log : List Moment} {db : Database}
    (rested : Rested cooldown now log db) (passed : now ≤ later) : Rested cooldown later log db :=
  {rested with started := fun claim member => (rested.started claim member).trans passed}

theorem Rested.expire {cooldown now : Int} {log : List Moment} {db : Database}
    (rested : Rested cooldown now log db) (timestamp : Int) :
    Rested cooldown now log (db.expire timestamp) where
  schema := rested.schema.expire timestamp
  recorded := rested.recorded
  started := fun claim member => rested.started claim (List.mem_filter.mp member).1
  plain := rested.plain
  rested := fun id first found claim member => rested.rested id first found claim (List.mem_filter.mp member).1

theorem plain_upkeep [EvidenceJson] (id : Nat) :
    Upkeep (fun rows _ => ∀ row ∈ rows, row.id = id → row.snoozeCooldownExempt = false) where
  upserted := by
    intro detection timestamp source generation db plain
    obtain ⟨outcome,left,ran,effect⟩ := upsertDetection_steps detection timestamp source generation db
    rw [ran]
    cases effect with
    | rejected | announced | closed => exact plain
    | created =>
      intro next member named
      rcases List.mem_append.mp member with old | new
      · exact plain next old named
      · rw [List.mem_singleton.mp new]
        rfl
    | reactivated =>
      intro next member named
      rcases (Table.mem_updateWhere _ _ _ _).mp member with ⟨old,_,_,rfl⟩ | ⟨kept,_⟩
      · rfl
      · exact plain next kept named
    | refreshed =>
      intro next member named
      rcases (Table.mem_updateWhere _ _ _ _).mp member with ⟨old,present,_,rfl⟩ | ⟨kept,_⟩
      · exact plain old present named
      · exact plain next kept named
  settled := by
    intro rows _ selects change settles plain next member named
    rcases (Table.mem_updateWhere _ _ _ _).mp member with ⟨old,present,hit,rfl⟩ | ⟨kept,_⟩
    · have before := plain old present
      have settled := settles old present hit
      generalize change old = changed at settled named ⊢
      cases settled <;> exact before named
    · exact plain next kept named

section steps
variable {cooldown now : Int} {log : List Moment} {db : Database}

/-- New leases of resting rows: the cooldown was tested against every delivery row. -/
theorem Rested.reserve {policy : AttentionPolicy} {digest : Digest} {expiresAt slots : Int}
    {rows : List Situation} (rested : Rested policy.settings.cooldown now log db)
    (ordered : LeasedInOrder (policy.deliveryClaim now) digest expiresAt slots rows db) :
    Rested policy.settings.cooldown now log (db.leaseAll (policy.deliveryClaim now) digest expiresAt rows) := by
  refine ⟨ordered.wellFormed _ _ _ _ rested.schema,rested.recorded,?_,rested.plain,?_⟩
  · intro claim member
    rcases List.mem_append.mp member with old | new
    · exact rested.started claim old
    · obtain ⟨row,_,rfl⟩ := List.mem_map.mp new
      exact le_refl now
  · intro id first found claim member named
    rcases List.mem_append.mp member with old | new
    · exact rested.rested id first found claim old named
    · obtain ⟨row,listed,rfl⟩ := List.mem_map.mp new
      obtain ⟨front,back,shape⟩ := List.append_of_mem listed
      have leasable := (leasable_iff.mp (ordered.leasable front row back shape)).1
      have exempt := rested.plain id first found row (ordered.stored row listed) named
      obtain ⟨delivery,present,owner,at_⟩ := rested.recorded id first found
      rw [deliverable,Bool.and_eq_true,cooledDown,exempt,Bool.false_or,Bool.not_eq_true',
        List.any_eq_false] at leasable
      have cooled := leasable.2 delivery present
      rw [owner,← named,beq_self_eq_true,Bool.true_and,decide_eq_true_eq,at_] at cooled
      change ¬now - policy.settings.cooldown < first at cooled
      change first + policy.settings.cooldown ≤ now
      omega

theorem Rested.confirm (rested : Rested cooldown now log db) {claimToken : String}
    {rows : List Situation} (confirmable : Confirmable claimToken now rows db) :
    Rested cooldown now (log ++ rows.map (fun row => .delivered row.id now))
        (db.confirmed claimToken now rows) ∧
      ∀ row ∈ rows, ∀ first, resting row.id log = some first → first + cooldown ≤ now := by
  have owned : ∀ row ∈ rows, ∃ claim ∈ db.claims, claim.situationId = row.id ∧
      claim.receiptDigest = receiptDigest claimToken := by
    intro row member
    have listed : row.id ∈ deliveryClaimIds (receiptDigest claimToken) (db.expire now) := by
      rw [← confirmable.ids]
      exact List.mem_map_of_mem member
    have sorted := List.mem_of_mem_take listed
    rw [List.mem_insertionSort,List.mem_map] at sorted
    obtain ⟨claim,found,same⟩ := sorted
    rw [List.mem_filter,beq_iff_eq] at found
    exact ⟨claim,(List.mem_filter.mp found.1).1,same,found.2⟩
  refine ⟨⟨confirmable.wellFormed rested.schema,?_,?_,?_,?_⟩,?_⟩
  · intro id first found
    rw [resting_deliveries] at found
    split at found
    · rename_i listed
      obtain ⟨row,member,rfl⟩ := List.mem_map.mp listed
      obtain rfl := Option.some.inj found
      exact ⟨row.delivery now,List.mem_append_right _ (List.mem_map_of_mem member),rfl,rfl⟩
    · obtain ⟨delivery,member,facts⟩ := rested.recorded id first found
      exact ⟨delivery,List.mem_append_left _ member,facts⟩
  · intro claim member
    exact rested.started claim (List.mem_filter.mp (List.mem_filter.mp member).1).1
  · intro id first found row member named
    rw [resting_deliveries] at found
    rcases (Table.mem_updateWhere _ _ _ _).mp member with ⟨old,_,_,rfl⟩ | ⟨kept,missed⟩
    · rfl
    · split at found
      · rename_i listed
        obtain ⟨other,inside,same⟩ := List.mem_map.mp listed
        have hit := List.any_eq_false.mp missed other inside
        simp [same,named] at hit
      · exact rested.plain id first found row kept named
  · intro id first found claim member named
    obtain ⟨present,different⟩ := List.mem_filter.mp member
    have stored := (List.mem_filter.mp present).1
    rw [resting_deliveries] at found
    split at found
    · rename_i listed
      obtain ⟨row,inside,same⟩ := List.mem_map.mp listed
      obtain ⟨lease,leased,owner,digest⟩ := owned row inside
      have equal : claim = lease := List.inj_on_of_nodup_map rested.schema.claimedOnce stored leased
        (by rw [named,owner,same])
      simp [equal,digest] at different
    · exact rested.rested id first found claim stored named
  · intro row member first found
    obtain ⟨claim,leased,owner,_⟩ := owned row member
    have cooled := rested.rested row.id first found claim leased owner
    have started := rested.started claim leased
    omega

theorem Rested.snooze (rested : Rested cooldown now log db) (row : Situation) (until_ timestamp : Int) :
    Rested cooldown now (log ++ [.snoozed row.id]) {db with
      situations := Table.updateWhere (fun stored => row.id == stored.id) (.snoozed until_ timestamp)
        db.situations} := by
  have awake (id : Nat) (first : Int) (found : resting id (log ++ [.snoozed row.id]) = some first) :
      row.id ≠ id ∧ resting id log = some first := by
    rw [resting_append] at found
    change (if row.id = id then none else resting id log) = some first at found
    split at found
    · cases found
    · exact ⟨‹_›,found⟩
  refine ⟨rested.schema.change _ _ (fun _ => rfl) (fun _ => rfl),?_,rested.started,?_,?_⟩
  · intro id first found
    exact rested.recorded id first (awake id first found).2
  · intro id first found next member named
    obtain ⟨different,before⟩ := awake id first found
    rcases (Table.mem_updateWhere _ _ _ _).mp member with ⟨old,_,hit,rfl⟩ | ⟨kept,_⟩
    · exact absurd ((beq_iff_eq.mp hit).trans named) different
    · exact rested.plain id first before next kept named
  · intro id first found
    exact rested.rested id first (awake id first found).2

end steps

section runs
variable [EvidenceJson] {cooldown now : Int} {log : List Moment} {db : Database}

theorem Rested.silent (rested : Rested cooldown now log db) (operation : Operation)
    (silent : operation.announces = false) (other : operation.usedToken = none) :
    Rested cooldown now log (step db operation) := by
  have effect := step_effect db operation rested.schema
  have claims := (effect.receipts_kept other).1
  have history := effect.history_kept silent
  refine ⟨step_wellFormed db operation rested.schema,?_,?_,?_,?_⟩
  · rw [history]
    exact rested.recorded
  · rw [claims]
    exact rested.started
  · intro id first found
    exact (plain_upkeep id).step rested.schema silent (rested.plain id first found)
  · rw [claims]
    exact rested.rested

theorem Rested.step (rested : Rested cooldown now log db) (spaced : Spaced cooldown log)
    (operation : Operation) (passed : now ≤ timeOf operation) (cools : Cools cooldown operation) :
    Rested cooldown (timeOf operation) (log ++ moments db operation) (Store.step db operation) ∧
      Spaced cooldown (log ++ moments db operation) := by
  have current := rested.later passed
  have effect := step_effect db operation rested.schema
  cases operation with
  | markDelivered => exact cools.elim
  | claimForDelivery => exact cools.elim
  | reserveForDelivery claim claimToken expiresAt =>
    obtain ⟨policy,rfl,same,_⟩ := cools
    have history := effect.history_kept rfl
    rw [moments_eq rfl (history.trans (List.append_nil _).symm),List.map_nil,List.append_nil]
    refine ⟨?_,spaced⟩
    generalize Store.step db _ = after at effect ⊢
    cases effect with
    | unchanged => exact current
    | reserved _ _ _ rows _ _ ordered =>
      change Rested policy.settings.cooldown claim.deliveredAt _ _ at current ⊢
      generalize claim.deliveredAt = at_ at *
      subst same
      exact (current.expire at_).reserve ordered
    | user _ _ _ _ named => cases named
  | confirmDelivery claimToken confirmedAt =>
    generalize same : Store.step db _ = after at effect ⊢
    cases effect with
    | unchanged =>
      have history : (Store.step db (.confirmDelivery claimToken confirmedAt)).deliveries =
          db.deliveries ++ [] := by rw [same,List.append_nil]
      rw [moments_eq rfl history,List.map_nil,List.append_nil]
      exact ⟨current,spaced⟩
    | confirmed _ _ rows _ confirmable =>
      have history : (Store.step db (.confirmDelivery claimToken confirmedAt)).deliveries =
          db.deliveries ++ rows.map (Situation.delivery confirmedAt) := by rw [same]; rfl
      obtain ⟨settled,apart⟩ := current.confirm confirmable
      rw [moments_eq rfl history,List.map_map]
      exact ⟨settled,spaced_deliveries spaced confirmedAt rows confirmable.waiting.distinct apart⟩
    | user _ _ _ _ named => cases named
  | snoozeSituation id until_ timestamp =>
    rcases snooze_cases db rested.schema id until_ timestamp with
      ⟨same,none⟩ | ⟨row,_,rfl,_,same,told⟩
    · rw [same,none,List.append_nil]
      exact ⟨current,spaced⟩
    · rw [same,told]
      exact ⟨current.snooze row until_ timestamp,spaced_snooze spaced row.id⟩
  | _ =>
    have history := effect.history_kept rfl
    rw [moments_eq rfl (history.trans (List.append_nil _).symm),List.map_nil,List.append_nil]
    exact ⟨current.silent _ rfl rfl,spaced⟩

theorem run_spaced (operations : List Operation) (rested : Rested cooldown now log db)
    (spaced : Spaced cooldown log) (after : ∀ operation ∈ operations, now ≤ timeOf operation)
    (ordered : (operations.map timeOf).Pairwise (· ≤ ·))
    (cools : ∀ operation ∈ operations, Cools cooldown operation) :
    Spaced cooldown (log ++ timeline db operations) := by
  induction operations generalizing db log now with
  | nil => simpa [timeline] using spaced
  | cons operation rest ih =>
    obtain ⟨later,tail⟩ := List.pairwise_cons.mp ordered
    obtain ⟨next,apart⟩ := rested.step spaced operation (after operation (by simp))
      (cools operation (by simp))
    rw [timeline,← List.append_assoc]
    apply ih next apart _ tail
    · exact fun other member => cools other (by simp [member])
    · exact fun other member => later _ (List.mem_map_of_mem member)

/-- Under a nondecreasing clock and one cooldown, in every run in which hosts
reserve through the policy and confirm, the deliveries of one situation keep the
cooldown unless the user snoozed it in between. -/
theorem cooldown_kept (cooldown : Int) (operations : List Operation)
    (ordered : (operations.map timeOf).Pairwise (· ≤ ·))
    (cools : ∀ operation ∈ operations, Cools cooldown operation) :
    (timeline Database.empty operations).filterMap Moment.deliveryRow =
        (Run.run Store.step Database.empty operations).deliveries.map Delivery.key ∧
      Apart cooldown (timeline Database.empty operations) := by
  refine ⟨timeline_history operations,Spaced.apart ?_⟩
  obtain ⟨now,after⟩ := nondecreasing_start operations ordered
  exact run_spaced operations (empty_rested cooldown now) (spaced_nil cooldown) after ordered cools

end runs

/-- One delivery, a snooze of ten seconds, and a second delivery after it. -/
def snoozedInBetween : List Operation :=
  [.upsertDetections [conflict "a" .routine] 0,
    .reserveForDelivery (oneADay.deliveryClaim second) "first" (121 * second),
    .confirmDelivery "first" (2 * second),
    .snoozeSituation 1 (12 * second) (2 * second),
    .wakeSnoozed (12 * second),
    .upsertDetections [conflict "a" .critical] (12 * second),
    .reserveForDelivery (oneADay.deliveryClaim (13 * second)) "second" (133 * second),
    .confirmDelivery "second" (14 * second)]

theorem snoozedInBetween_kept :
    (@timeline EvidenceJson.compact Database.empty snoozedInBetween).filterMap Moment.deliveryRow =
        (Run.run (@step EvidenceJson.compact) Database.empty snoozedInBetween).deliveries.map Delivery.key ∧
      Apart oneADay.settings.cooldown (@timeline EvidenceJson.compact Database.empty snoozedInBetween) := by
  refine @cooldown_kept EvidenceJson.compact oneADay.settings.cooldown snoozedInBetween (by decide) ?_
  intro operation member
  simp only [snoozedInBetween,List.mem_cons,List.not_mem_nil,or_false] at member
  rcases member with rfl | rfl | rfl | rfl | rfl | rfl | rfl | rfl
  · trivial
  · exact ⟨oneADay,rfl,rfl,rfl⟩
  · trivial
  · trivial
  · trivial
  · trivial
  · exact ⟨oneADay,rfl,rfl,rfl⟩
  · trivial

example : @timeline EvidenceJson.compact Database.empty snoozedInBetween =
    [.delivered 1 (2 * second),.snoozed 1,.delivered 1 (14 * second)] := by decide +kernel

end Proactive.Situations
