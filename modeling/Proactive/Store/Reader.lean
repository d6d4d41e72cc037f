import Proactive.Store.Database

/-! Typed reads of the situation tables, in the order their SQL returns rows. -/
namespace Proactive.Store.Database

/-- `CASE priority WHEN 'critical' THEN 0 ELSE 1 END`. -/
def criticalCase (row : Situation) : Nat := if row.priority = .critical then 0 else 1

/-- `CASE WHEN situation_type = 'reply_deadline' THEN 1 ELSE 0 END`. -/
def replyCase (row : Situation) : Nat := if row.situationType = .replyDeadline then 1 else 0

/-- `CASE priority WHEN 'high' THEN 0 ELSE 1 END`. -/
def highCase (row : Situation) : Nat := if row.priority = .high then 0 else 1

/-- The `ORDER BY` of `SELECT_PENDING_FOR_DELIVERY`, ending in the primary key. -/
def pageBefore (first second : Situation) : Prop :=
  criticalCase first < criticalCase second ∨ criticalCase first = criticalCase second ∧
  (replyCase first < replyCase second ∨ replyCase first = replyCase second ∧
  (highCase first < highCase second ∨ highCase first = highCase second ∧
  (first.detectedAt < second.detectedAt ∨ first.detectedAt = second.detectedAt ∧
    first.id ≤ second.id)))

instance : DecidableRel pageBefore := fun first second => by
  unfold pageBefore
  infer_instance

instance : Std.Total pageBefore where
  total first second := by unfold pageBefore; omega

instance : IsTrans Situation pageBefore where
  trans first second third one two := by unfold pageBefore at *; omega

def pendingForDelivery (limit : Nat) (db : Database) : List Situation :=
  ((db.situations.filter (fun row => row.state == .pending)).insertionSort pageBefore).take limit

theorem pendingForDelivery_mem {limit : Nat} {db : Database} {row : Situation}
    (member : row ∈ pendingForDelivery limit db) : row ∈ db.situations ∧ row.state = .pending := by
  have sorted := List.mem_of_mem_take member
  rw [List.mem_insertionSort,List.mem_filter] at sorted
  simpa using sorted

theorem pendingForDelivery_sorted (limit : Nat) (db : Database) :
    (pendingForDelivery limit db).Pairwise pageBefore :=
  (List.pairwise_insertionSort pageBefore _).sublist (List.take_sublist _ _)

theorem pendingForDelivery_ids {db : Database} (schema : db.WellFormed) (limit : Nat) :
    ((pendingForDelivery limit db).map Situation.id).Nodup := by
  have sublist : (db.situations.filter (fun row => row.state == .pending)).Sublist db.situations :=
    List.filter_sublist
  have pending := schema.ids_nodup.sublist (sublist.map Situation.id)
  have sorted := ((List.perm_insertionSort pageBefore _).map Situation.id).nodup_iff.mpr pending
  exact sorted.sublist ((List.take_sublist _ _).map Situation.id)

def activeByType (situationType : SituationType) (sourceName : Option SituationSource)
    (db : Database) : List Situation :=
  db.situations.filter (fun row => row.situationType == situationType &&
    sourceName.all (fun source => row.sourceName == source) && row.active)

def countSituations (state : Option SituationState) (db : Database) : Nat :=
  db.situations.countP (fun row => state.all (fun wanted => row.state == wanted))

def deliveryClaimIds (digest : Digest) (db : Database) : List Nat :=
  (((db.claims.filter (fun claim => claim.receiptDigest == digest)).map
    ClaimRow.situationId).insertionSort (· ≤ ·)).take 100

def hasDelivery (id : Nat) (db : Database) : Bool :=
  db.deliveries.any (fun delivery => delivery.situationId == id)

def typeMuted (situationType : SituationType) (db : Database) : Bool :=
  db.typeMutes.any (fun mute => mute.situationType == situationType)

/-- The muted types in the declaration order of `SituationType`. -/
def mutedTypes (db : Database) : List SituationType :=
  [.replyDeadline,.calendarConflict,.personalOccasion].filter (fun name => typeMuted name db)

def countDeliveredBetween (start end_ : Int) (db : Database) : Nat :=
  db.deliveries.countP (fun delivery =>
    start ≤ delivery.deliveredAt && delivery.deliveredAt < end_ && delivery.priority != .critical)

/-- Unexpired leases of currently non-critical situations, by lease time. -/
def countReservedBetween (start end_ now : Int) (db : Database) : Nat :=
  db.claims.countP (fun claim =>
    start ≤ claim.claimedAt && claim.claimedAt < end_ && now < claim.expiresAt &&
      (db.situation? claim.situationId).any (fun row => row.priority != .critical))

end Proactive.Store.Database
