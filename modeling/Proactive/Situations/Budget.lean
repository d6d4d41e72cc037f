import Proactive.Situations.Policy
import Proactive.Store.Receipts

/-! The daily attention budget over whole runs of many hosts. -/
namespace Proactive.Situations
open Proactive.Store Proactive.Library Database

def detectionsOf : Operation → List Detection
  | .upsertDetections detections _ => detections
  | .applySourceGeneration application _ => application.detections
  | .applyLocalDetections detections _ => detections
  | _ => []

def timeOf : Operation → Int
  | .upsertDetections _ timestamp => timestamp
  | .reserveSourceGeneration _ now => now
  | .applySourceGeneration _ clock => clock.timestamp
  | .applyLocalDetections _ timestamp => timestamp
  | .resolveAbsent _ _ timestamp => timestamp
  | .expireLapsed timestamp => timestamp
  | .wakeSnoozed timestamp => timestamp
  | .markDelivered _ timestamp => timestamp
  | .claimForDelivery claim => claim.deliveredAt
  | .reserveForDelivery claim _ _ => claim.deliveredAt
  | .confirmDelivery _ confirmedAt => confirmedAt
  | .acknowledgeSituation _ timestamp => timestamp
  | .snoozeSituation _ _ timestamp => timestamp
  | .muteSituation _ timestamp => timestamp
  | .muteSituationType _ timestamp => timestamp

theorem nondecreasing_start (operations : List Operation)
    (ordered : (operations.map timeOf).Pairwise (· ≤ ·)) :
    ∃ now, ∀ operation ∈ operations, now ≤ timeOf operation := by
  cases operations with
  | nil => exact ⟨0,by simp⟩
  | cons operation rest =>
    obtain ⟨later,_⟩ := List.pairwise_cons.mp ordered
    exact ⟨timeOf operation,List.forall_mem_cons.mpr
      ⟨le_rfl,fun other member => later _ (List.mem_map_of_mem member)⟩⟩

structure Described (detections : List Detection) (row next : Situation) : Prop where
  id : next.id = row.id
  key : next.dedupeKey = row.dedupeKey
  priority : next.priority = row.priority ∨
    ∃ detection ∈ detections, detection.dedupeKey = row.dedupeKey ∧ next.priority = detection.priority

theorem Described.refl (detections : List Detection) (row : Situation) :
    Described detections row row := ⟨rfl,rfl,Or.inl rfl⟩

theorem described_upserted {detections : List Detection} {source : SituationSource}
    {row next : Situation} (upserted : Upserted detections source row next) :
    Described detections row next := by
  refine ⟨upserted.id,upserted.key,?_⟩
  rcases upserted.described with rfl | ⟨detection,member,named,priority,_⟩
  · exact Or.inl rfl
  · exact Or.inr ⟨detection,member,named,priority⟩

private theorem described_resolved {detections : List Detection} {source : SituationSource}
    {bound : Nat} {old stored : List Situation} (selects : Situation → Bool) (timestamp : Int)
    (evolves : Table.Evolves (Upserted detections source) (AddedBy detections source bound) old stored) :
    Table.Evolves (Described detections) (fun row => bound ≤ row.id) old
      (Table.updateWhere selects (.resolved timestamp) stored) := by
  have second : Table.Evolves
      (fun row next => next = row ∨ next = row.resolved timestamp) (fun row => bound ≤ row.id)
      stored (Table.updateWhere selects (.resolved timestamp) stored) :=
    .updateWhere _ _ _ (fun _ => Or.inl rfl) (fun _ _ _ => Or.inr rfl)
  apply evolves.comp second
  · rintro row middle last upserted (rfl | rfl)
    · exact described_upserted upserted
    · have same := described_upserted upserted
      exact ⟨same.id,same.key,same.priority⟩
  · rintro row next added (rfl | rfl) <;> exact added.id

/-- Rows keep their id and key, and only a detection of the same key changes a priority. -/
theorem effect_described {operation : Operation} {db after : Database}
    (effect : Effect operation db after) :
    Table.Evolves (Described (detectionsOf operation)) (fun row => db.nextId ≤ row.id)
      db.situations after.situations := by
  have updated (selects : Situation → Bool) (change : Situation → Situation)
      (keeps : ∀ row, Described (detectionsOf operation) row (change row)) (rows : List Situation) :
      Table.Evolves (Described (detectionsOf operation)) (fun row => db.nextId ≤ row.id) rows
        (Table.updateWhere selects change rows) :=
    .updateWhere _ _ _ (Described.refl _) (fun row _ _ => keeps row)
  cases effect with
  | unchanged => exact .refl (Described.refl _) _
  | upserted _ _ _ _ _ evolves =>
    exact evolves.mono (fun _ _ one => described_upserted one) (fun _ added => added.id)
  | issued => exact .refl (Described.refl _) _
  | applied _ _ _ _ _ applied =>
    rw [applied.situations]
    exact described_resolved _ _ applied.upserted
  | local_ _ _ _ _ _ evolves => exact described_resolved _ _ evolves
  | reserved => exact .refl (Described.refl _) _
  | resolved | expired | woken | marked | claimed | confirmed =>
    refine updated _ _ ?_ _
    exact fun _ => ⟨rfl,rfl,Or.inl rfl⟩
  | user _ row change _ named =>
    exact updated _ _ (fun _ => by cases named <;> exact ⟨rfl,rfl,Or.inl rfl⟩) _
  | mutedType row timestamp _ member delivered =>
    rw [muteType_situations]
    refine updated _ _ ?_ _
    exact fun _ => ⟨rfl,rfl,Or.inl rfl⟩

def deliveredOn (zone : TimeZone) (date : Int) (db : Database) : Nat :=
  countDeliveredBetween (zone.localDayStart date) (zone.localDayEnd date) db

def leasedOn (zone : TimeZone) (date now : Int) (db : Database) : Nat :=
  countReservedBetween (zone.localDayStart date) (zone.localDayEnd date) now db

/-- Deliveries and live leases of one day together stay within the budget. -/
structure Budgeted (policy : AttentionPolicy) (now : Int) (db : Database) : Prop where
  schema : db.WellFormed
  spent : ∀ date, deliveredOn policy.zone date db + leasedOn policy.zone date now db ≤
    policy.settings.dailyBudget
  regular : ∀ claim ∈ db.claims, policy.zone.Regular claim.claimedAt

/-- The calls of a run in which hosts deliver through the policy and confirm. -/
def permits (policy : AttentionPolicy) : Operation → Bool
  | .markDelivered .. => false
  | .claimForDelivery .. => false
  | .reserveForDelivery claim _ expiresAt =>
    claim == policy.deliveryClaim claim.deliveredAt &&
      expiresAt == claim.deliveredAt + AttentionPolicy.deliveryClaimLease
  | _ => true

/-- No detection lowers a critical situation under a live lease, a receipt is
confirmed on the local day its non-critical rows were leased, and reservations
and confirmations happen at regular instants. -/
structure Steady (policy : AttentionPolicy) (db : Database) (operation : Operation) : Prop where
  lowered : ∀ detection ∈ detectionsOf operation, detection.priority ≠ .critical →
    ∀ row ∈ db.situations, row.dedupeKey = detection.dedupeKey → row.priority = .critical →
      ∀ claim ∈ db.claims, claim.situationId = row.id → claim.expiresAt ≤ timeOf operation
  sameDay : ∀ claimToken, operation = .confirmDelivery claimToken (timeOf operation) →
    ∀ claim ∈ db.claims, claim.receiptDigest = receiptDigest claimToken →
      timeOf operation < claim.expiresAt →
      ∀ row ∈ db.situations, row.id = claim.situationId → row.priority ≠ .critical →
        policy.zone.localDate claim.claimedAt = policy.zone.localDate (timeOf operation)
  regular : operation.usedToken ≠ none → policy.zone.Regular (timeOf operation)

theorem Budgeted.later {policy : AttentionPolicy} {now later : Int} {db : Database}
    (budgeted : Budgeted policy now db) (passed : now ≤ later) : Budgeted policy later db where
  schema := budgeted.schema
  spent := by
    intro date
    have fewer : leasedOn policy.zone date later db ≤ leasedOn policy.zone date now db := by
      apply List.countP_mono_left
      intro claim _ live
      simp only [Bool.and_eq_true,decide_eq_true_eq] at live ⊢
      exact ⟨⟨live.1.1,passed.trans_lt live.1.2⟩,live.2⟩
    have total := budgeted.spent date
    omega
  regular := budgeted.regular

theorem empty_budgeted (policy : AttentionPolicy) (now : Int) : Budgeted policy now Database.empty where
  schema := empty_wellFormed
  spent := fun _ => Nat.zero_le _
  regular := by simp [Database.empty]

def spends (zone : TimeZone) (date now : Int) (db : Database) (claim : ClaimRow) : Bool :=
  zone.localDayStart date ≤ claim.claimedAt && claim.claimedAt < zone.localDayEnd date &&
    now < claim.expiresAt && (db.situation? claim.situationId).any (fun row => row.priority != .critical)

theorem leasedOn_eq (zone : TimeZone) (date now : Int) (db : Database) :
    leasedOn zone date now db = db.claims.countP (spends zone date now db) := rfl

/-- A lease that counts after the operation counted before it, when no
detection lowers a leased critical row. -/
theorem spends_described {policy : AttentionPolicy} {operation : Operation} {db after : Database}
    (schema : db.WellFormed) (steady : Steady policy db operation)
    (evolves : Table.Evolves (Described (detectionsOf operation)) (fun row => db.nextId ≤ row.id)
      db.situations after.situations) (date : Int) (claim : ClaimRow) (member : claim ∈ db.claims)
    (live : spends policy.zone date (timeOf operation) after claim = true) :
    spends policy.zone date (timeOf operation) db claim = true := by
  unfold spends at live ⊢
  rw [Bool.and_eq_true] at live ⊢
  refine ⟨live.1,?_⟩
  have unexpired : timeOf operation < claim.expiresAt := by
    have inside := live.1
    simp only [Bool.and_eq_true,decide_eq_true_eq] at inside
    exact inside.2
  obtain ⟨next,found,lower⟩ := (Option.any_eq_true _ _).mp live.2
  obtain ⟨present,id⟩ := situation?_some found
  obtain ⟨row,stored,owner⟩ := List.mem_map.mp (schema.claimReferences claim member)
  rcases evolves.backward next present with ⟨before,old,described⟩ | fresh
  · have same : before = row := schema.same_id old stored (described.id.symm.trans (id.trans owner.symm))
    subst same
    rw [← owner,schema.situation?_mem stored]
    rcases described.priority with same | ⟨detection,listed,named,priority⟩
    · simpa [same] using lower
    · by_contra critical
      have wasCritical : before.priority = .critical := by simpa using critical
      have nowLower : detection.priority ≠ .critical := by
        rw [← priority]
        simpa using lower
      have expired := steady.lowered detection listed nowLower before old named.symm wasCritical
        claim member owner.symm
      omega
  · have below := db.lt_nextId row stored
    omega

theorem deliveries_kept {policy : AttentionPolicy} {operation : Operation} {db after : Database}
    (effect : Effect operation db after) (permitted : permits policy operation = true)
    (other : operation.usedToken = none) : after.deliveries = db.deliveries := by
  cases effect with
  | applied _ _ _ _ _ applied => rw [applied.tables]; rfl
  | marked => cases permitted
  | claimed => cases permitted
  | confirmed => cases other
  | mutedType => exact muteType_deliveries _ _ _
  | _ => rfl

theorem Budgeted.quiet {policy : AttentionPolicy} {operation : Operation} {db after : Database}
    (budgeted : Budgeted policy (timeOf operation) db) (effect : Effect operation db after)
    (permitted : permits policy operation = true) (steady : Steady policy db operation)
    (other : operation.usedToken = none) : Budgeted policy (timeOf operation) after := by
  have claims := (effect.receipts_kept other).1
  have deliveries := deliveries_kept effect permitted other
  refine ⟨effect.wellFormed budgeted.schema,fun date => ?_,by rw [claims]; exact budgeted.regular⟩
  have leased : leasedOn policy.zone date (timeOf operation) after ≤
      leasedOn policy.zone date (timeOf operation) db := by
    rw [leasedOn_eq,leasedOn_eq,claims]
    apply List.countP_mono_left
    intro claim member live
    exact spends_described budgeted.schema steady (effect_described effect) date claim member live
  have delivered : deliveredOn policy.zone date after = deliveredOn policy.zone date db := by
    unfold deliveredOn countDeliveredBetween
    rw [deliveries]
  have total := budgeted.spent date
  omega

theorem Budgeted.expire {policy : AttentionPolicy} {now : Int} {db : Database}
    (budgeted : Budgeted policy now db) : Budgeted policy now (db.expire now) := by
  refine ⟨budgeted.schema.expire now,fun date => ?_,?_⟩
  · have fewer : leasedOn policy.zone date now (db.expire now) ≤ leasedOn policy.zone date now db :=
      List.filter_sublist.countP_le
    have total := budgeted.spent date
    have same : deliveredOn policy.zone date (db.expire now) = deliveredOn policy.zone date db := rfl
    omega
  · intro claim member
    exact budgeted.regular claim (List.mem_filter.mp member).1

/-- One more lease at a regular instant: a non-critical row finds room in the
window of the current local date, and no other window sees the lease. -/
theorem Budgeted.lease {policy : AttentionPolicy} {now expiresAt slots : Int} {digest : Digest}
    {db : Database} (budgeted : Budgeted policy now db) (regular : policy.zone.Regular now)
    (row : Situation) (stored : row ∈ db.situations) (later : now < expiresAt)
    (leasable : db.leasable (policy.deliveryClaim now) slots row = true) :
    Budgeted policy now (db.leaseAll (policy.deliveryClaim now) digest expiresAt [row]) := by
  obtain ⟨_,_,free,room,_⟩ := leasable_iff.mp leasable
  have schema := budgeted.schema.leaseOne (policy.deliveryClaim now) digest expiresAt row stored free later
  refine ⟨schema,fun date => ?_,?_⟩
  · have total := budgeted.spent date
    have delivered : deliveredOn policy.zone date
        (db.leaseAll (policy.deliveryClaim now) digest expiresAt [row]) =
          deliveredOn policy.zone date db := rfl
    have found : db.situation? row.id = some row := budgeted.schema.situation?_mem stored
    have counted : leasedOn policy.zone date now
        (db.leaseAll (policy.deliveryClaim now) digest expiresAt [row]) =
          leasedOn policy.zone date now db +
            if policy.zone.covers date now && row.priority != .critical then 1 else 0 := by
      have appended : leasedOn policy.zone date now
          (db.leaseAll (policy.deliveryClaim now) digest expiresAt [row]) =
            leasedOn policy.zone date now db + [(⟨digest,row.id,now,expiresAt⟩ : ClaimRow)].countP
              (spends policy.zone date now db) := List.countP_append
      rw [appended,List.countP_singleton,spends,found]
      simp [TimeZone.covers,later]
    by_cases spends : (policy.zone.covers date now && row.priority != .critical) = true
    · rw [if_pos spends] at counted
      simp only [Bool.and_eq_true,bne_iff_ne] at spends
      obtain rfl := (regular date).mp spends.1
      have below := room.resolve_left spends.2
      have inWindow : (deliveredOn policy.zone (policy.zone.localDate now) db : Int) +
          leasedOn policy.zone (policy.zone.localDate now) now db < policy.settings.dailyBudget := below
      omega
    · rw [if_neg spends] at counted
      omega
  · intro claim member
    rcases List.mem_append.mp member with old | new
    · exact budgeted.regular claim old
    · rw [List.mem_singleton.mp new]
      exact regular

theorem Budgeted.reserve {policy : AttentionPolicy} {now expiresAt slots : Int} {digest : Digest}
    {rows : List Situation} {db : Database} (budgeted : Budgeted policy now db)
    (regular : policy.zone.Regular now)
    (ordered : LeasedInOrder (policy.deliveryClaim now) digest expiresAt slots rows (db.expire now)) :
    Budgeted policy now ((db.expire now).leaseAll (policy.deliveryClaim now) digest expiresAt rows) := by
  apply ordered.invariant _ _ _ _ (Budgeted policy now)
  · intro row base stored _ later leasable holds
    exact holds.lease regular row stored later leasable
  · exact budgeted.expire

theorem confirmed_spends {policy : AttentionPolicy} {claimToken : String} {now : Int}
    {rows : List Situation} {db : Database} (budgeted : Budgeted policy now db)
    (steady : Steady policy db (.confirmDelivery claimToken now))
    (confirmable : Confirmable claimToken now rows db) (date : Int) :
    rows.countP (fun row => policy.zone.covers date now && row.priority != .critical) ≤
      (db.claims.filter (fun claim => claim.receiptDigest == receiptDigest claimToken)).countP
        (spends policy.zone date now db) := by
  cases covered : policy.zone.covers date now with
  | false => simp
  | true =>
    have today : date = policy.zone.localDate now :=
      (steady.regular (by simp [Operation.usedToken]) date).mp covered
    let lower (id : Nat) : Bool := (db.situation? id).any (fun row => row.priority != .critical)
    let owned := (db.expire now).claims.filter
      (fun claim => claim.receiptDigest == receiptDigest claimToken)
    have ids : rows.map Situation.id = ((owned.map ClaimRow.situationId).insertionSort (· ≤ ·)).take 100 :=
      confirmable.ids
    have byId : rows.countP (fun row => row.priority != .critical) =
        (rows.map Situation.id).countP lower := by
      rw [List.countP_map]
      apply List.countP_congr
      intro row member
      simp [lower,budgeted.schema.situation?_mem (confirmable.waiting.stored row member)]
    have byLease : (rows.map Situation.id).countP lower ≤
        owned.countP (fun claim => lower claim.situationId) := by
      rw [ids]
      refine (List.take_sublist _ _).countP_le.trans ?_
      rw [(List.perm_insertionSort _ _).countP_eq,List.countP_map]
      exact le_rfl
    have counted : owned.countP (fun claim => lower claim.situationId) ≤
        owned.countP (spends policy.zone date now db) := by
      apply List.countP_mono_left
      intro claim member low
      obtain ⟨live,named⟩ := List.mem_filter.mp member
      obtain ⟨stored,unexpired⟩ := List.mem_filter.mp live
      obtain ⟨row,found,lowered⟩ := (Option.any_eq_true _ _).mp low
      obtain ⟨present,id⟩ := situation?_some found
      have sameDate := steady.sameDay claimToken rfl claim stored (by simpa using named)
        (of_decide_eq_true unexpired) row present id (by simpa using lowered)
      have inside := (budgeted.regular claim stored date).mpr (today.trans sameDate.symm)
      unfold TimeZone.covers at inside
      unfold spends
      rw [inside,unexpired,found]
      simpa using lowered
    have sublist : owned.Sublist
        (db.claims.filter (fun claim => claim.receiptDigest == receiptDigest claimToken)) :=
      List.filter_sublist.filter _
    simp only [Bool.true_and]
    calc rows.countP (fun row => row.priority != .critical)
        = (rows.map Situation.id).countP lower := byId
      _ ≤ owned.countP (fun claim => lower claim.situationId) := byLease
      _ ≤ owned.countP (spends policy.zone date now db) := counted
      _ ≤ _ := sublist.countP_le

theorem Budgeted.confirm {policy : AttentionPolicy} {claimToken : String} {now : Int}
    {rows : List Situation} {db : Database} (budgeted : Budgeted policy now db)
    (steady : Steady policy db (.confirmDelivery claimToken now))
    (confirmable : Confirmable claimToken now rows db) :
    Budgeted policy now (db.confirmed claimToken now rows) := by
  have effect := Effect.confirmed claimToken now rows db confirmable
  refine ⟨confirmable.wellFormed budgeted.schema,fun date => ?_,?_⟩
  · have total := budgeted.spent date
    have added : deliveredOn policy.zone date (db.confirmed claimToken now rows) =
        deliveredOn policy.zone date db +
          rows.countP (fun row => policy.zone.covers date now && row.priority != .critical) := by
      have appended : deliveredOn policy.zone date (db.confirmed claimToken now rows) =
          deliveredOn policy.zone date db + (rows.map (Situation.delivery now)).countP (fun delivery =>
            policy.zone.localDayStart date ≤ delivery.deliveredAt &&
              delivery.deliveredAt < policy.zone.localDayEnd date && delivery.priority != .critical) :=
        List.countP_append
      rw [appended,List.countP_map]
      rfl
    have spent := confirmed_spends budgeted steady confirmable date
    let owned (claim : ClaimRow) : Bool := claim.receiptDigest == receiptDigest claimToken
    have rest : leasedOn policy.zone date now (db.confirmed claimToken now rows) ≤
        (db.claims.filter (fun claim => !owned claim)).countP (spends policy.zone date now db) := by
      rw [leasedOn_eq]
      have kept : (db.confirmed claimToken now rows).claims.Sublist
          (db.claims.filter (fun claim => !owned claim)) := List.filter_sublist.filter _
      refine le_trans (List.countP_mono_left fun claim member live => ?_) kept.countP_le
      have stored : claim ∈ db.claims := (List.mem_filter.mp (List.mem_filter.mp member).1).1
      exact spends_described budgeted.schema steady (effect_described effect) date claim stored live
    have split : db.claims.countP (spends policy.zone date now db) =
        (db.claims.filter owned).countP (spends policy.zone date now db) +
          (db.claims.filter (fun claim => !owned claim)).countP (spends policy.zone date now db) := by
      rw [← List.countP_append]
      exact ((List.filter_append_perm owned db.claims).countP_eq _).symm
    rw [leasedOn_eq,split] at total
    change rows.countP _ ≤ (db.claims.filter owned).countP _ at spent
    omega
  · intro claim member
    exact budgeted.regular claim (List.mem_filter.mp (List.mem_filter.mp member).1).1

section runs
variable [EvidenceJson]

theorem step_budgeted {policy : AttentionPolicy} {now : Int} {db : Database} {operation : Operation}
    (budgeted : Budgeted policy now db) (passed : now ≤ timeOf operation)
    (permitted : permits policy operation = true) (steady : Steady policy db operation) :
    Budgeted policy (timeOf operation) (step db operation) := by
  have current := budgeted.later passed
  have effect := step_effect db operation budgeted.schema
  cases used : operation.usedToken with
  | none => exact current.quiet effect permitted steady used
  | some token =>
    have regular := steady.regular (by simp [used])
    revert effect
    generalize step db operation = after
    intro effect
    cases effect with
    | unchanged => exact current
    | reserved claim claimToken expiresAt rows _ page ordered =>
      simp only [permits,Bool.and_eq_true,beq_iff_eq] at permitted
      have same := permitted.1
      change Budgeted policy claim.deliveredAt _ at current ⊢
      change policy.zone.Regular claim.deliveredAt at regular
      generalize claim.deliveredAt = at_ at *
      subst same
      exact current.reserve regular ordered
    | confirmed claimToken confirmedAt rows _ confirmable => exact current.confirm steady confirmable
    | user _ _ _ _ named => cases named <;> cases used
    | _ => cases used

theorem run_budgeted (policy : AttentionPolicy) (operations : List Operation) (db : Database) (now : Int)
    (budgeted : Budgeted policy now db) (after : ∀ operation ∈ operations, now ≤ timeOf operation)
    (ordered : (operations.map timeOf).Pairwise (· ≤ ·))
    (permitted : ∀ operation ∈ operations, permits policy operation = true)
    (steady : Run.Along step (Steady policy) db operations) :
    ∃ last, Budgeted policy last (Run.run step db operations) := by
  induction operations generalizing db now with
  | nil => exact ⟨now,budgeted⟩
  | cons operation rest ih =>
    obtain ⟨later,tail⟩ := List.pairwise_cons.mp ordered
    have stepped := step_budgeted budgeted (after operation (by simp)) (permitted operation (by simp))
      steady.1
    apply ih (step db operation) (timeOf operation) stepped _ tail _ steady.2
    · exact fun other member => later _ (List.mem_map_of_mem member)
    · exact fun other member => permitted other (by simp [member])

/-- Under a nondecreasing clock, with hosts that deliver through the policy, every
run of steady steps keeps every local day's non-critical deliveries within the budget. -/
theorem daily_budget_kept (policy : AttentionPolicy) (operations : List Operation)
    (ordered : (operations.map timeOf).Pairwise (· ≤ ·))
    (permitted : ∀ operation ∈ operations, permits policy operation = true)
    (steady : Run.Along step (Steady policy) Database.empty operations) (date : Int) :
    deliveredOn policy.zone date (Run.run step Database.empty operations) ≤
      policy.settings.dailyBudget := by
  obtain ⟨now,after⟩ := nondecreasing_start operations ordered
  obtain ⟨last,budgeted⟩ := run_budgeted policy operations Database.empty now
    (empty_budgeted policy now) after ordered permitted steady
  have total := budgeted.spent date
  omega

end runs

def oneADay : AttentionPolicy := ⟨⟨0,0,1,24 * 3600 * second⟩,.utc⟩

def conflict (key : String) (priority : SituationPriority) : Detection :=
  ⟨.calendarConflict,key,priority,"t","w",.empty,none⟩

def deliveredOnce : List Operation :=
  [.upsertDetections [conflict "a" .routine] 0,
    .reserveForDelivery (oneADay.deliveryClaim second) "host" (121 * second),
    .confirmDelivery "host" (3 * second)]

theorem deliveredOnce_steady :
    Run.Along (@step EvidenceJson.compact) (Steady oneADay) Database.empty deliveredOnce := by
  have sameDate : ∀ claim ∈ (Run.run (@step EvidenceJson.compact) Database.empty
      (deliveredOnce.take 2)).claims, TimeZone.utc.localDate claim.claimedAt =
        TimeZone.utc.localDate (3 * second) := by decide +kernel
  refine ⟨⟨?_,?_,?_⟩,⟨?_,?_,?_⟩,⟨?_,?_,?_⟩,trivial⟩
  · intro detection _ _ row member
    cases member
  · intro claimToken same
    cases same
  · exact fun _ => TimeZone.utc_regular _
  · intro detection member
    cases member
  · intro claimToken same
    cases same
  · exact fun _ => TimeZone.utc_regular _
  · intro detection member
    cases member
  · intro claimToken _ claim member _ _ row _ _ _
    exact sameDate claim member
  · exact fun _ => TimeZone.utc_regular _

theorem deliveredOnce_kept : deliveredOn oneADay.zone 0
    (Run.run (@step EvidenceJson.compact) Database.empty deliveredOnce) ≤ oneADay.settings.dailyBudget :=
  @daily_budget_kept EvidenceJson.compact oneADay deliveredOnce (by decide) (by decide)
    deliveredOnce_steady 0

/-- Two critical rows leased together, lowered while leased, then confirmed. -/
def loweredWhileLeased : List Operation :=
  [.upsertDetections [conflict "a" .critical,conflict "b" .critical] 0,
    .reserveForDelivery (oneADay.deliveryClaim second) "host" (121 * second),
    .upsertDetections [conflict "a" .routine,conflict "b" .routine] (2 * second),
    .confirmDelivery "host" (3 * second)]

theorem loweredWhileLeased_overspends :
    (loweredWhileLeased.map timeOf).Pairwise (· ≤ ·) ∧
      (∀ operation ∈ loweredWhileLeased, permits oneADay operation = true) ∧
      ¬deliveredOn oneADay.zone 0 (Run.run (@step EvidenceJson.compact) Database.empty loweredWhileLeased) ≤
        oneADay.settings.dailyBudget := by
  refine ⟨by decide,by decide,by decide +kernel⟩

end Proactive.Situations
