import Mathlib.Data.List.Induction
import Mathlib.Data.List.Nodup
import Proactive.Store.Claim

/-! What claims, leases and confirmations do to the tables as a whole. -/
namespace Proactive.Store
open Proactive.Library Database

namespace Situation

def delivery (timestamp : Int) (row : Situation) : Delivery := ⟨row.id,timestamp,row.priority⟩

theorem delivered_idempotent (timestamp : Int) (row : Situation) :
    (row.delivered timestamp).delivered timestamp = row.delivered timestamp := rfl

end Situation

namespace Database

def deliverAll (timestamp : Int) (rows : List Situation) (db : Database) : Database :=
  {db with
    situations := Table.updateWhere (fun stored => rows.any (fun row => row.id == stored.id))
      (.delivered timestamp) db.situations
    deliveries := db.deliveries ++ rows.map (Situation.delivery timestamp)}

/-- One pending row marked delivered, before its history row is appended. -/
def marked (timestamp : Int) (row : Situation) (db : Database) : Database :=
  {db with
    situations := Table.updateWhere (fun stored => row.id == stored.id) (.delivered timestamp) db.situations}

structure PendingRows (rows : List Situation) (db : Database) : Prop where
  distinct : (rows.map Situation.id).Nodup
  stored : ∀ row ∈ rows, row ∈ db.situations
  pending : ∀ row ∈ rows, row.state = .pending

@[simp] theorem deliverAll_nil (timestamp : Int) (db : Database) : db.deliverAll timestamp [] = db := by
  unfold deliverAll
  rw [Table.updateWhere_none _ _ _ (by simp)]
  simp

theorem deliverAll_cons (timestamp : Int) (row : Situation) (rest : List Situation) (db : Database) :
    (db.deliverAll timestamp [row]).deliverAll timestamp rest = db.deliverAll timestamp (row::rest) := by
  unfold deliverAll
  rw [Table.updateWhere_again _ _ _ _ (Situation.delivered_idempotent timestamp) (fun _ => rfl)]
  simp

theorem WellFormed.deliverAll {db : Database} (schema : db.WellFormed) (timestamp : Int)
    (rows : List Situation) (stored : ∀ row ∈ rows, row ∈ db.situations) :
    (db.deliverAll timestamp rows).WellFormed := by
  have changed := schema.change (fun s => rows.any (fun row => row.id == s.id)) (.delivered timestamp)
    (fun _ => rfl) (fun _ => rfl)
  exact {changed with
    deliveryReferences := by
      intro delivery member
      rcases List.mem_append.mp member with old | new
      · exact changed.deliveryReferences delivery old
      · obtain ⟨row,listed,rfl⟩ := List.mem_map.mp new
        have ids : (db.deliverAll timestamp rows).situations.map Situation.id =
            db.situations.map Situation.id := Table.updateWhere_map _ _ _ _ (fun _ => rfl)
        rw [ids]
        exact List.mem_map_of_mem (stored row listed)}

theorem WellFormed.expire {db : Database} (schema : db.WellFormed) (timestamp : Int) :
    (db.expire timestamp).WellFormed :=
  {schema with
    claimedOnce := schema.claimedOnce.sublist (List.filter_sublist.map _)
    claimReferences := fun claim member => schema.claimReferences claim (List.mem_filter.mp member).1
    leaseOrder := fun claim member => schema.leaseOrder claim (List.mem_filter.mp member).1}

theorem WellFormed.consume {db : Database} (schema : db.WellFormed) (digest : Digest) :
    (db.consume digest).WellFormed :=
  {schema with
    claimedOnce := schema.claimedOnce.sublist (List.filter_sublist.map _)
    claimReferences := fun claim member => schema.claimReferences claim (List.mem_filter.mp member).1
    leaseOrder := fun claim member => schema.leaseOrder claim (List.mem_filter.mp member).1}

theorem WellFormed.record {db : Database} (schema : db.WellFormed) (digest : Digest)
    (deliveredCount : Nat) (confirmedAt : Int)
    (fresh : ∀ receipt ∈ db.receipts, receipt.receiptDigest ≠ digest) (bound : deliveredCount ≤ 100) :
    (db.record digest deliveredCount confirmedAt).WellFormed :=
  {schema with
    receiptDigests := by
      unfold Database.record
      rw [List.map_append]
      refine List.nodup_append.mpr ⟨schema.receiptDigests,by simp,?_⟩
      intro known member other last
      obtain ⟨receipt,present,rfl⟩ := List.mem_map.mp member
      simp only [List.map_cons,List.map_nil,List.mem_singleton] at last
      exact last ▸ fresh receipt present
    receiptCounts := by
      intro receipt member
      rcases List.mem_append.mp member with old | new
      · exact schema.receiptCounts receipt old
      · rw [List.mem_singleton.mp new]
        exact bound}

theorem leased_false {db : Database} {id : Nat} :
    db.leased id = false ↔ ∀ claim ∈ db.claims, claim.situationId ≠ id := by
  simp [leased]

theorem WellFormed.leaseOne {db : Database} (schema : db.WellFormed) (claim : DeliveryClaim)
    (digest : Digest) (expiresAt : Int) (row : Situation) (stored : row ∈ db.situations)
    (free : db.leased row.id = false) (later : claim.deliveredAt < expiresAt) :
    (db.leaseAll claim digest expiresAt [row]).WellFormed :=
  {schema with
    claimedOnce := by
      unfold leaseAll
      rw [List.map_append]
      refine List.nodup_append.mpr ⟨schema.claimedOnce,by simp,?_⟩
      intro id member other last
      obtain ⟨lease,present,rfl⟩ := List.mem_map.mp member
      simp only [List.map_cons,List.map_nil,List.mem_singleton] at last
      exact last ▸ leased_false.mp free lease present
    claimReferences := by
      intro lease member
      rcases List.mem_append.mp member with old | new
      · exact schema.claimReferences lease old
      · simp only [List.map_cons,List.map_nil,List.mem_singleton] at new
        subst new
        exact List.mem_map_of_mem stored
    leaseOrder := by
      intro lease member
      rcases List.mem_append.mp member with old | new
      · exact schema.leaseOrder lease old
      · simp only [List.map_cons,List.map_nil,List.mem_singleton] at new
        subst new
        exact later}

@[simp] theorem leaseAll_nil (claim : DeliveryClaim) (digest : Digest) (expiresAt : Int)
    (db : Database) : db.leaseAll claim digest expiresAt [] = db := by
  simp [leaseAll]

theorem leaseAll_append (claim : DeliveryClaim) (digest : Digest) (expiresAt : Int)
    (first second : List Situation) (db : Database) :
    (db.leaseAll claim digest expiresAt first).leaseAll claim digest expiresAt second =
      db.leaseAll claim digest expiresAt (first ++ second) := by
  simp [leaseAll]

end Database

theorem deliverUpdate_cases (id : Nat) (timestamp : Int) (guard : Database → Situation → Bool)
    (db : Database) (schema : db.WellFormed) :
    (deliverUpdate id timestamp guard).run db = (.ok 0,db) ∧
        (∀ row ∈ db.situations, row.id = id → row.state = .pending → guard db row = false) ∨
    ∃ row ∈ db.situations, row.id = id ∧ row.state = .pending ∧ guard db row = true ∧
      (deliverUpdate id timestamp guard).run db = (.ok 1,db.marked timestamp row) := by
  unfold deliverUpdate
  rw [Statement.run_select_bind]
  rcases updateOne_cases id (fun row => row.state == .pending && guard db row) (.delivered timestamp)
      db schema with ⟨ran,missed⟩ | ⟨row,stored,same,guarded,ran⟩
  · exact Or.inl ⟨ran,fun row member same pending => by simpa [pending] using missed row member same⟩
  · simp only [Bool.and_eq_true,beq_iff_eq] at guarded
    exact Or.inr ⟨row,stored,same,guarded.1,guarded.2,ran⟩

theorem markedOne_run {α : Type} (timestamp : Int) (row : Situation) (db : Database)
    (schema : db.WellFormed) (stored : row ∈ db.situations) (next : Situation → Sql α) :
    (do
      let situation ← requireSituation row.id
      recordDelivery situation timestamp
      next situation : Sql α).run (db.marked timestamp row) =
      (next (row.delivered timestamp)).run (db.deliverAll timestamp [row]) := by
  have kept : (db.marked timestamp row).WellFormed := schema.change _ _ (fun _ => rfl) (fun _ => rfl)
  have member : row.delivered timestamp ∈ (db.marked timestamp row).situations :=
    (Table.mem_updateWhere _ _ _ _).mpr (Or.inl ⟨row,stored,by simp,rfl⟩)
  have found : (db.marked timestamp row).situation? row.id = some (row.delivered timestamp) :=
    kept.situation?_mem member
  have read : (requireSituation row.id).run (db.marked timestamp row) =
      (.ok (row.delivered timestamp),db.marked timestamp row) := by
    unfold requireSituation
    rw [Statement.run_select_bind,found]
    rfl
  rw [Statement.run_bind_ok _ _ _ _ _ read,recordDelivery,Statement.run_update_bind]
  congr 1
  simp [marked,deliverAll,Situation.delivery,Situation.delivered]

namespace Database

theorem PendingRows.rest {db : Database} {row : Situation} {rest : List Situation}
    (waiting : PendingRows (row::rest) db) : PendingRows rest db :=
  ⟨(List.nodup_cons.mp waiting.distinct).2,fun other member => waiting.stored other (List.mem_cons_of_mem row member),
    fun other member => waiting.pending other (List.mem_cons_of_mem row member)⟩

theorem PendingRows.cons_iff {db : Database} (timestamp : Int)
    (row : Situation) (stored : row ∈ db.situations) (pending : row.state = .pending)
    (rest : List Situation) :
    PendingRows (row::rest) db ↔ PendingRows rest (db.deliverAll timestamp [row]) := by
  have members (other : Situation) (waiting : other.state = .pending) :
      other ∈ (db.deliverAll timestamp [row]).situations ↔ other ∈ db.situations ∧ other.id ≠ row.id := by
    unfold deliverAll
    simp only [Table.mem_updateWhere,List.any_cons,List.any_nil,Bool.or_false,beq_iff_eq,
      beq_eq_false_iff_ne]
    constructor
    · rintro (⟨old,_,_,rfl⟩ | ⟨present,missed⟩)
      · simp [Situation.delivered] at waiting
      · exact ⟨present,Ne.symm missed⟩
    · rintro ⟨present,different⟩
      exact Or.inr ⟨present,Ne.symm different⟩
  constructor
  · intro listed
    obtain ⟨fresh,distinct⟩ := List.nodup_cons.mp listed.distinct
    refine ⟨distinct,?_,fun other m => listed.pending other (by simp [m])⟩
    intro other member
    rw [members other (listed.pending other (by simp [member]))]
    exact ⟨listed.stored other (by simp [member]),fun same => fresh (same ▸ List.mem_map_of_mem member)⟩
  · intro later
    have each (other : Situation) (member : other ∈ rest) : other ∈ db.situations ∧ other.id ≠ row.id :=
      (members other (later.pending other member)).mp (later.stored other member)
    refine ⟨List.nodup_cons.mpr ⟨?_,later.distinct⟩,?_,?_⟩
    · intro found
      obtain ⟨other,member,same⟩ := List.mem_map.mp found
      exact (each other member).2 same
    · exact List.forall_mem_cons.mpr ⟨stored,fun other member => (each other member).1⟩
    · exact List.forall_mem_cons.mpr ⟨pending,later.pending⟩

theorem PendingRows.nil (db : Database) : PendingRows [] db := ⟨by simp,by simp,by simp⟩

end Database

theorem confirmEach_success (confirmedAt : Int) (ids : List Nat) (db left : Database)
    (schema : db.WellFormed) (ok : (confirmEach confirmedAt ids).run db = (.ok (),left)) :
    ∃ rows, rows.map Situation.id = ids ∧ PendingRows rows db ∧ left = db.deliverAll confirmedAt rows := by
  induction ids generalizing db with
  | nil =>
    obtain ⟨_,rfl⟩ := Statement.pure_success _ _ _ _ ok
    exact ⟨[],rfl,.nil db,(db.deliverAll_nil confirmedAt).symm⟩
  | cons id rest ih =>
    unfold confirmEach at ok
    rcases deliverUpdate_cases id confirmedAt (fun _ _ => true) db schema with
      ⟨ran,_⟩ | ⟨row,stored,rfl,pending,_,ran⟩
    · rw [Statement.run_bind_ok _ _ _ _ _ ran] at ok
      simp at ok
    · rw [Statement.run_bind_ok _ _ _ _ _ ran,if_neg Nat.one_ne_zero,
        markedOne_run confirmedAt row db schema stored (fun _ => confirmEach confirmedAt rest)] at ok
      obtain ⟨rows,rfl,waiting,rfl⟩ := ih _ (schema.deliverAll _ _ (by simpa using stored)) ok
      exact ⟨row::rows,rfl,(PendingRows.cons_iff confirmedAt row stored pending rows).mpr waiting,
        deliverAll_cons confirmedAt row rows db⟩

theorem confirmEach_run (confirmedAt : Int) (rows : List Situation) (db : Database)
    (schema : db.WellFormed) (waiting : PendingRows rows db) :
    (confirmEach confirmedAt (rows.map Situation.id)).run db = (.ok (),db.deliverAll confirmedAt rows) := by
  induction rows generalizing db with
  | nil => rw [deliverAll_nil]; rfl
  | cons row rest ih =>
    have stored := waiting.stored row (by simp)
    have pending := waiting.pending row (by simp)
    rw [List.map_cons,confirmEach]
    rcases deliverUpdate_cases row.id confirmedAt (fun _ _ => true) db schema with
      ⟨_,missed⟩ | ⟨other,present,same,_,_,ran⟩
    · exact absurd (missed row stored rfl pending) (by simp)
    · obtain rfl := schema.same_id present stored same
      rw [Statement.run_bind_ok _ _ _ _ _ ran,if_neg Nat.one_ne_zero,
        markedOne_run confirmedAt other db schema stored
          (fun _ => confirmEach confirmedAt (rest.map Situation.id)),
        ih _ (schema.deliverAll _ _ (by simpa using stored))
          ((PendingRows.cons_iff confirmedAt other stored pending rest).mp waiting),deliverAll_cons]

/-- A claiming pass delivers distinct pending candidates and never raises. -/
theorem claimEach_run (claim : DeliveryClaim) (slots : Int) (candidates : List Situation)
    (db : Database) (schema : db.WellFormed) :
    ∃ rows, PendingRows rows db ∧ (claimEach claim slots candidates).run db =
      (.ok (rows.map (.delivered claim.deliveredAt)),db.deliverAll claim.deliveredAt rows) := by
  induction candidates generalizing db with
  | nil => exact ⟨[],.nil db,by rw [deliverAll_nil]; rfl⟩
  | cons candidate rest ih =>
    unfold claimEach
    cases admitted : claim.admits candidate with
    | false => simpa using ih db schema
    | true =>
      rw [Bool.not_true,if_neg (by decide)]
      rcases deliverUpdate_cases candidate.id claim.deliveredAt
          (fun db row => db.claimable claim slots row) db schema with
        ⟨ran,_⟩ | ⟨row,stored,same,pending,_,ran⟩
      · rw [Statement.run_bind_ok _ _ _ _ _ ran]
        simpa using ih db schema
      · rw [Statement.run_bind_ok _ _ _ _ _ ran,if_neg Nat.one_ne_zero,← same,
          markedOne_run claim.deliveredAt row db schema stored (fun situation => do
            let claimed ← claimEach claim slots rest
            return situation::claimed)]
        obtain ⟨rows,waiting,rested⟩ := ih _ (schema.deliverAll claim.deliveredAt [row]
          (by simpa using stored))
        refine ⟨row::rows,(PendingRows.cons_iff _ row stored pending rows).mpr waiting,?_⟩
        rw [Statement.run_bind_ok _ _ _ _ _ rested,deliverAll_cons]
        rfl

theorem claimForDelivery_run (claim : DeliveryClaim) (db : Database) (schema : db.WellFormed) :
    ∃ rows, PendingRows rows db ∧ (claimForDelivery claim).run db =
      (.ok (rows.map (.delivered claim.deliveredAt)),db.deliverAll claim.deliveredAt rows) := by
  obtain ⟨rows,waiting,ran⟩ := claimEach_run claim
    (reservedNonReplySlots (pendingForDelivery maxDeliveryCandidates db) claim false db)
    (pendingForDelivery maxDeliveryCandidates db) db schema
  exact ⟨rows,waiting,(Statement.immediate_success _ _ _ _).mpr ran⟩

theorem Database.leasable_iff {db : Database} {claim : DeliveryClaim} {slots : Int} {row : Situation} :
    db.leasable claim slots row = true ↔
      db.deliverable claim row = true ∧ db.currentSource row = true ∧ db.leased row.id = false ∧
      (row.priority = .critical ∨
        (countDeliveredBetween claim.localDayStart claim.localDayEnd db : Int) +
          countReservedBetween claim.localDayStart claim.localDayEnd claim.deliveredAt db <
            claim.dailyBudget) ∧
      (row.priority = .critical ∨ row.situationType ≠ .replyDeadline ∨
        (countDeliveredReplies claim db : Int) + countReservedReplies claim db <
          max 0 (claim.dailyBudget - slots)) := by
  simp [leasable,and_assoc,or_assoc]

@[simp] theorem situation?_expire (timestamp : Int) (db : Database) (id : Nat) :
    (db.expire timestamp).situation? id = db.situation? id := rfl

@[simp] theorem countDelivered_expire (start end_ timestamp : Int) (db : Database) :
    countDeliveredBetween start end_ (db.expire timestamp) = countDeliveredBetween start end_ db := rfl

theorem countReserved_expire (claim : DeliveryClaim) (db : Database) :
    countReservedBetween claim.localDayStart claim.localDayEnd claim.deliveredAt
        (db.expire claim.deliveredAt) =
      countReservedBetween claim.localDayStart claim.localDayEnd claim.deliveredAt db := by
  have purged : (db.expire claim.deliveredAt).claims =
      db.claims.filter (fun lease => claim.deliveredAt < lease.expiresAt) := rfl
  unfold countReservedBetween
  rw [purged,List.countP_filter]
  apply List.countP_congr
  intro lease _
  cases live : decide (claim.deliveredAt < lease.expiresAt) <;> simp

theorem countDeliveredReplies_le (claim : DeliveryClaim) (db : Database) :
    countDeliveredReplies claim db ≤ countDeliveredBetween claim.localDayStart claim.localDayEnd db := by
  apply List.countP_mono_left
  intro delivery _ counted
  rw [Bool.and_eq_true] at counted
  exact counted.1

theorem countReservedReplies_le (claim : DeliveryClaim) (db : Database) :
    countReservedReplies claim db ≤
      countReservedBetween claim.localDayStart claim.localDayEnd claim.deliveredAt db := by
  apply List.countP_mono_left
  intro lease _ counted
  rw [Bool.and_eq_true] at counted ⊢
  refine ⟨counted.1,?_⟩
  obtain ⟨row,found,both⟩ := (Option.any_eq_true _ _).mp counted.2
  rw [Bool.and_eq_true] at both
  exact (Option.any_eq_true _ _).mpr ⟨row,found,both.1⟩

theorem countReplies_le (claim : DeliveryClaim) (db : Database) :
    (countDeliveredReplies claim db : Int) + countReservedReplies claim db ≤
      countDeliveredBetween claim.localDayStart claim.localDayEnd db +
        countReservedBetween claim.localDayStart claim.localDayEnd claim.deliveredAt db := by
  have delivered := countDeliveredReplies_le claim db
  have reserved := countReservedReplies_le claim db
  omega

/-- The rows one reservation leased, in order: each was leasable, and admitted
by the attention window, after the leases before it. -/
structure LeasedInOrder (claim : DeliveryClaim) (digest : Digest) (expiresAt : Int) (slots : Int)
    (rows : List Situation) (db : Database) : Prop where
  stored : ∀ row ∈ rows, row ∈ db.situations
  admitted : ∀ row ∈ rows, claim.admits row = true
  later : rows ≠ [] → claim.deliveredAt < expiresAt
  leasable : ∀ front row back, rows = front ++ row::back →
    (db.leaseAll claim digest expiresAt front).leasable claim slots row = true

section leases
variable (claim : DeliveryClaim) (digest : Digest) (expiresAt : Int) (slots : Int)

theorem LeasedInOrder.nil (db : Database) : LeasedInOrder claim digest expiresAt slots [] db :=
  ⟨by simp,by simp,by simp,by simp⟩

theorem LeasedInOrder.cons {row : Situation} {rest : List Situation} {db : Database}
    (stored : row ∈ db.situations) (admitted : claim.admits row = true)
    (later : claim.deliveredAt < expiresAt) (leasable : db.leasable claim slots row = true)
    (rested : LeasedInOrder claim digest expiresAt slots rest
      (db.leaseAll claim digest expiresAt [row])) :
    LeasedInOrder claim digest expiresAt slots (row::rest) db where
  stored := List.forall_mem_cons.mpr ⟨stored,rested.stored⟩
  admitted := List.forall_mem_cons.mpr ⟨admitted,rested.admitted⟩
  later := fun _ => later
  leasable := by
    intro front other back split
    cases front with
    | nil =>
      obtain ⟨rfl,rfl⟩ := List.cons.inj split
      rwa [leaseAll_nil]
    | cons first front =>
      obtain ⟨rfl,rfl⟩ := List.cons.inj split
      have inner := rested.leasable front other back rfl
      rwa [leaseAll_append] at inner

theorem LeasedInOrder.invariant {rows : List Situation} {db : Database}
    (ordered : LeasedInOrder claim digest expiresAt slots rows db) (holds : Database → Prop)
    (leased : ∀ row db, row ∈ db.situations → claim.admits row = true →
      claim.deliveredAt < expiresAt → db.leasable claim slots row = true → holds db →
      holds (db.leaseAll claim digest expiresAt [row]))
    (initial : holds db) : holds (db.leaseAll claim digest expiresAt rows) := by
  induction rows using List.reverseRecOn with
  | nil => rwa [leaseAll_nil]
  | append_singleton front row ih =>
    rw [← leaseAll_append]
    have inner : LeasedInOrder claim digest expiresAt slots front db := {
      stored := fun other member => ordered.stored other (by simp [member])
      admitted := fun other member => ordered.admitted other (by simp [member])
      later := fun _ => ordered.later (by simp)
      leasable := fun before other back split =>
        ordered.leasable before other (back ++ [row]) (by simp [split])}
    exact leased row _ (ordered.stored row (by simp)) (ordered.admitted row (by simp))
      (ordered.later (by simp)) (ordered.leasable front row [] rfl) (ih inner)

theorem LeasedInOrder.wellFormed {rows : List Situation} {db : Database}
    (ordered : LeasedInOrder claim digest expiresAt slots rows db) (schema : db.WellFormed) :
    (db.leaseAll claim digest expiresAt rows).WellFormed := by
  refine ordered.invariant claim digest expiresAt slots WellFormed ?_ schema
  intro row db stored _ later leasable schema
  exact schema.leaseOne claim digest expiresAt row stored (leasable_iff.mp leasable).2.2.1 later

theorem insertClaim_cases (candidate : Situation) (db : Database) (schema : db.WellFormed)
    (stored : candidate ∈ db.situations) :
    (db.leasable claim slots candidate = false ∧
      (insertClaim claim digest expiresAt slots candidate).run db = (.ok false,db)) ∨
    (db.leasable claim slots candidate = true ∧ claim.deliveredAt < expiresAt ∧
      (insertClaim claim digest expiresAt slots candidate).run db =
        (.ok true,db.leaseAll claim digest expiresAt [candidate])) ∨
    (db.leasable claim slots candidate = true ∧ ¬claim.deliveredAt < expiresAt ∧
      (insertClaim claim digest expiresAt slots candidate).run db =
        (.error (.integrity "expires_at > claimed_at"),db)) := by
  have selected : db.situations.any (fun row => row.id == candidate.id && db.leasable claim slots row) =
      db.leasable claim slots candidate := by
    rw [Bool.eq_iff_iff,List.any_eq_true]
    constructor
    · rintro ⟨row,member,hit⟩
      simp only [Bool.and_eq_true,beq_iff_eq] at hit
      rw [← schema.same_id member stored hit.1]
      exact hit.2
    · intro leasable
      exact ⟨candidate,stored,by simp [leasable]⟩
  unfold insertClaim
  rw [Statement.run_select_bind,selected]
  cases leasable : db.leasable claim slots candidate with
  | false => exact Or.inl ⟨rfl,rfl⟩
  | true =>
    by_cases later : claim.deliveredAt < expiresAt
    · exact Or.inr (Or.inl ⟨rfl,later,by rw [if_pos rfl,if_pos later]; rfl⟩)
    · exact Or.inr (Or.inr ⟨rfl,later,by rw [if_pos rfl,if_neg later]; rfl⟩)

theorem reserveEach_success (candidates reserved : List Situation) (db left : Database)
    (schema : db.WellFormed) (stored : ∀ candidate ∈ candidates, candidate ∈ db.situations)
    (ok : (reserveEach claim digest expiresAt slots candidates).run db = (.ok reserved,left)) :
    reserved.Sublist candidates ∧ LeasedInOrder claim digest expiresAt slots reserved db ∧
      left = db.leaseAll claim digest expiresAt reserved ∧
      (reserved = [] ↔ ∀ candidate ∈ candidates, claim.admits candidate = true →
        db.leasable claim slots candidate = false) := by
  induction candidates generalizing db reserved with
  | nil =>
    obtain ⟨rfl,rfl⟩ := Statement.pure_success _ _ _ _ ok
    exact ⟨.slnil,.nil claim digest expiresAt slots db,(leaseAll_nil ..).symm,by simp⟩
  | cons candidate rest ih =>
    obtain ⟨present,others⟩ := List.forall_mem_cons.mp stored
    unfold reserveEach at ok
    cases admitted : claim.admits candidate with
    | false =>
      rw [admitted,Bool.not_false,if_pos rfl] at ok
      obtain ⟨sublist,ordered,same,empty⟩ := ih reserved db schema others ok
      exact ⟨sublist.cons _,ordered,same,by rw [empty]; simp [admitted]⟩
    | true =>
      rw [admitted,Bool.not_true,if_neg (by decide)] at ok
      rcases insertClaim_cases claim digest expiresAt slots candidate db schema present with
        ⟨refused,ran⟩ | ⟨leasable,later,ran⟩ | ⟨_,_,ran⟩
      · rw [Statement.run_bind_ok _ _ _ _ _ ran] at ok
        obtain ⟨tail,middle,rested,ok⟩ := Statement.bind_success _ _ _ _ _ ok
        obtain ⟨rfl,rfl⟩ := Statement.pure_success _ _ _ _ ok
        obtain ⟨sublist,ordered,same,empty⟩ := ih tail db schema others rested
        refine ⟨sublist.cons _,ordered,same,?_⟩
        rw [if_neg (by decide),empty]
        simp [refused]
      · rw [Statement.run_bind_ok _ _ _ _ _ ran] at ok
        obtain ⟨tail,middle,rested,ok⟩ := Statement.bind_success _ _ _ _ _ ok
        obtain ⟨rfl,rfl⟩ := Statement.pure_success _ _ _ _ ok
        have kept := schema.leaseOne claim digest expiresAt candidate present
          (leasable_iff.mp leasable).2.2.1 later
        obtain ⟨sublist,ordered,same,_⟩ := ih tail _ kept others rested
        rw [if_pos rfl]
        refine ⟨sublist.cons_cons _,.cons _ _ _ _ present admitted later leasable ordered,?_,?_⟩
        · rw [same,leaseAll_append]
          rfl
        · simp only [reduceCtorEq,false_iff]
          intro all
          have refused := all candidate (by simp) admitted
          simp [leasable] at refused
      · rw [Statement.run_bind,ran] at ok
        simp at ok

def leasedRows : List Situation → Database → List Situation
  | [],_ => []
  | candidate::rest,db =>
    if claim.admits candidate && db.leasable claim slots candidate then
      candidate::leasedRows rest (db.leaseAll claim digest expiresAt [candidate])
    else leasedRows rest db

theorem reserveEach_run (later : claim.deliveredAt < expiresAt) (candidates : List Situation)
    (db : Database) (schema : db.WellFormed)
    (stored : ∀ candidate ∈ candidates, candidate ∈ db.situations) :
    (reserveEach claim digest expiresAt slots candidates).run db =
      (.ok (leasedRows claim digest expiresAt slots candidates db),
        db.leaseAll claim digest expiresAt (leasedRows claim digest expiresAt slots candidates db)) := by
  induction candidates generalizing db with
  | nil =>
    rw [leasedRows,leaseAll_nil]
    rfl
  | cons candidate rest ih =>
    obtain ⟨present,others⟩ := List.forall_mem_cons.mp stored
    unfold reserveEach leasedRows
    cases admitted : claim.admits candidate with
    | false => simpa using ih db schema others
    | true =>
      rw [Bool.not_true,if_neg (by decide),Bool.true_and]
      rcases insertClaim_cases claim digest expiresAt slots candidate db schema present with
        ⟨refused,ran⟩ | ⟨leasable,_,ran⟩ | ⟨_,earlier,_⟩
      · rw [Statement.run_bind_ok _ _ _ _ _ ran,Statement.run_bind_ok _ _ _ _ _ (ih db schema others),
          refused]
        rfl
      · have kept := schema.leaseOne claim digest expiresAt candidate present
          (leasable_iff.mp leasable).2.2.1 later
        rw [Statement.run_bind_ok _ _ _ _ _ ran,Statement.run_bind_ok _ _ _ _ _ (ih _ kept others),
          leasable,if_pos rfl,leaseAll_append]
        rfl
      · exact absurd later earlier

end leases

def reservationSlots (claim : DeliveryClaim) (db : Database) : Int :=
  reservedNonReplySlots (pendingForDelivery maxDeliveryCandidates db) claim true db

/-- A committed reservation purged the expired leases, then leased, in page
order, rows of the page that were leasable at their turn. -/
theorem reserveForDelivery_success (claim : DeliveryClaim) (claimToken : String) (expiresAt : Int)
    (db left : Database) (reservation : DeliveryReservation) (schema : db.WellFormed)
    (ok : (reserveForDelivery claim claimToken expiresAt).run db = (.ok reservation,left)) :
    reservation.claimToken = claimToken ∧ reservation.expiresAt = expiresAt ∧
      reservation.situations.Sublist (pendingForDelivery maxDeliveryCandidates db) ∧
      LeasedInOrder claim (receiptDigest claimToken) expiresAt
        (reservationSlots claim (db.expire claim.deliveredAt)) reservation.situations
        (db.expire claim.deliveredAt) ∧
      left = (db.expire claim.deliveredAt).leaseAll claim (receiptDigest claimToken) expiresAt
        reservation.situations ∧
      (reservation.situations = [] ↔ ∀ candidate ∈ pendingForDelivery maxDeliveryCandidates db,
        claim.admits candidate = true → (db.expire claim.deliveredAt).leasable claim
          (reservationSlots claim (db.expire claim.deliveredAt)) candidate = false) := by
  rw [reserveForDelivery,Statement.immediate_success,DeliveryReceipts.expire,
    Statement.run_update_bind,Statement.run_select_bind,Statement.run_select_bind] at ok
  obtain ⟨reserved,middle,ran,ok⟩ := Statement.bind_success _ _ _ _ _ ok
  obtain ⟨rfl,rfl⟩ := Statement.pure_success _ _ _ _ ok
  obtain ⟨sublist,ordered,same,empty⟩ := reserveEach_success _ _ _ _ _ _ _ _
    (schema.expire claim.deliveredAt) (fun row member => (pendingForDelivery_mem member).1) ran
  exact ⟨rfl,rfl,sublist,ordered,same,empty⟩

def reservedRows (claim : DeliveryClaim) (claimToken : String) (expiresAt : Int) (db : Database) :
    List Situation :=
  leasedRows claim (receiptDigest claimToken) expiresAt
    (reservationSlots claim (db.expire claim.deliveredAt))
    (pendingForDelivery maxDeliveryCandidates db) (db.expire claim.deliveredAt)

theorem reserveForDelivery_run (claim : DeliveryClaim) (claimToken : String) (expiresAt : Int)
    (db : Database) (schema : db.WellFormed) (later : claim.deliveredAt < expiresAt) :
    (reserveForDelivery claim claimToken expiresAt).run db =
      (.ok ⟨claimToken,reservedRows claim claimToken expiresAt db,expiresAt⟩,
        (db.expire claim.deliveredAt).leaseAll claim (receiptDigest claimToken) expiresAt
          (reservedRows claim claimToken expiresAt db)) := by
  have ran := reserveEach_run claim (receiptDigest claimToken) expiresAt
    (reservationSlots claim (db.expire claim.deliveredAt)) later
    (pendingForDelivery maxDeliveryCandidates db) _ (schema.expire claim.deliveredAt)
    (fun candidate member => (pendingForDelivery_mem member).1)
  rw [reserveForDelivery,Statement.immediate_success,DeliveryReceipts.expire,
    Statement.run_update_bind,Statement.run_select_bind,Statement.run_select_bind]
  exact Statement.run_bind_ok _ _ _ _ _ ran

structure Confirmable (claimToken : String) (confirmedAt : Int) (rows : List Situation)
    (db : Database) : Prop where
  unused : ∀ receipt ∈ db.receipts, receipt.receiptDigest ≠ receiptDigest claimToken
  ids : rows.map Situation.id =
    deliveryClaimIds (receiptDigest claimToken) (db.expire confirmedAt)
  leased : rows ≠ []
  waiting : PendingRows rows db

def Database.confirmed (claimToken : String) (confirmedAt : Int) (rows : List Situation)
    (db : Database) : Database :=
  ((((db.expire confirmedAt).deliverAll confirmedAt rows).consume (receiptDigest claimToken)).record
    (receiptDigest claimToken) rows.length confirmedAt)

theorem Confirmable.count {claimToken : String} {confirmedAt : Int} {rows : List Situation}
    {db : Database} (confirmable : Confirmable claimToken confirmedAt rows db) : rows.length ≤ 100 := by
  have length := congrArg List.length confirmable.ids
  rw [List.length_map] at length
  rw [length]
  exact List.length_take_le _ _

theorem Confirmable.wellFormed {claimToken : String} {confirmedAt : Int} {rows : List Situation}
    {db : Database} (confirmable : Confirmable claimToken confirmedAt rows db) (schema : db.WellFormed) :
    (db.confirmed claimToken confirmedAt rows).WellFormed :=
  (((schema.expire confirmedAt).deliverAll confirmedAt rows confirmable.waiting.stored).consume _).record
    _ _ _ confirmable.unused confirmable.count

theorem replay_none {digest : Digest} {db : Database} :
    DeliveryReceipts.replay digest db = none ↔ ∀ receipt ∈ db.receipts, receipt.receiptDigest ≠ digest := by
  simp [DeliveryReceipts.replay]

theorem recordReceipt_run (digest : Digest) (deliveredCount : Nat) (confirmedAt : Int) (db : Database)
    (fresh : ∀ receipt ∈ db.receipts, receipt.receiptDigest ≠ digest) (bound : deliveredCount ≤ 100) :
    (DeliveryReceipts.record digest deliveredCount confirmedAt).run db =
      (.ok ⟨.confirmed,deliveredCount⟩,db.record digest deliveredCount confirmedAt) := by
  have unseen : db.receipts.any (fun receipt => receipt.receiptDigest == digest) = false := by
    simpa using fresh
  simp [DeliveryReceipts.record,unseen,Nat.not_lt.mpr bound]

theorem Confirmable.record_run {claimToken : String} {confirmedAt : Int} {rows : List Situation}
    {db : Database} (confirmable : Confirmable claimToken confirmedAt rows db) :
    (DeliveryReceipts.record (receiptDigest claimToken) rows.length confirmedAt).run
        (((db.expire confirmedAt).deliverAll confirmedAt rows).consume (receiptDigest claimToken)) =
      (.ok ⟨.confirmed,rows.length⟩,db.confirmed claimToken confirmedAt rows) :=
  recordReceipt_run _ _ _ _ confirmable.unused confirmable.count

/-- A confirmation either replays a recorded receipt and changes nothing, or
delivers every row of a confirmable receipt. -/
theorem confirmDelivery_success (claimToken : String) (confirmedAt : Int) (db left : Database)
    (result : DeliveryConfirmation) (schema : db.WellFormed) :
    (confirmDelivery claimToken confirmedAt).run db = (.ok result,left) ↔
      (DeliveryReceipts.replay (receiptDigest claimToken) db = some result ∧ left = db) ∨
      ∃ rows, Confirmable claimToken confirmedAt rows db ∧ result = ⟨.confirmed,rows.length⟩ ∧
        left = db.confirmed claimToken confirmedAt rows := by
  rw [confirmDelivery,Statement.immediate_success,Statement.run_select_bind]
  cases replay : DeliveryReceipts.replay (receiptDigest claimToken) db with
  | some confirmation =>
    simp only [Statement.run_pure,Prod.mk.injEq,Except.ok.injEq,Option.some.injEq]
    constructor
    · rintro ⟨rfl,rfl⟩
      exact Or.inl ⟨rfl,rfl⟩
    · rintro (⟨rfl,rfl⟩ | ⟨rows,confirmable,_⟩)
      · exact ⟨rfl,rfl⟩
      · rw [replay_none.mpr confirmable.unused] at replay
        cases replay
  | none =>
    have unused := replay_none.mp replay
    have expired := schema.expire confirmedAt
    simp only [DeliveryReceipts.expire,Statement.run_update_bind,Statement.run_select_bind,
      reduceCtorEq,false_and,false_or]
    constructor
    · intro ok
      by_cases empty : (deliveryClaimIds (receiptDigest claimToken) (db.expire confirmedAt)).isEmpty
      · rw [if_pos empty] at ok
        simp at ok
      · rw [if_neg empty] at ok
        obtain ⟨_,middle,delivered,ok⟩ := Statement.bind_success _ _ _ _ _ ok
        obtain ⟨rows,ids,waiting,rfl⟩ := confirmEach_success _ _ _ _ expired delivered
        have confirmable : Confirmable claimToken confirmedAt rows db := {
          unused := unused
          ids := ids
          leased := by rintro rfl; simp [← ids] at empty
          waiting := ⟨waiting.distinct,waiting.stored,waiting.pending⟩}
        rw [DeliveryReceipts.consume,Statement.run_update_bind,← ids,List.length_map,
          confirmable.record_run] at ok
        simp only [Prod.mk.injEq,Except.ok.injEq] at ok
        exact ⟨rows,confirmable,ok.1.symm,ok.2.symm⟩
    · rintro ⟨rows,confirmable,rfl,rfl⟩
      have waiting : PendingRows rows (db.expire confirmedAt) :=
        ⟨confirmable.waiting.distinct,confirmable.waiting.stored,confirmable.waiting.pending⟩
      have occupied : ¬(deliveryClaimIds (receiptDigest claimToken) (db.expire confirmedAt)).isEmpty := by
        rw [← confirmable.ids]
        simpa using confirmable.leased
      rw [if_neg occupied,← confirmable.ids,Statement.run_bind_ok _ _ _ _ _
        (confirmEach_run confirmedAt rows _ expired waiting),DeliveryReceipts.consume,
        Statement.run_update_bind,List.length_map,confirmable.record_run]

end Proactive.Store
