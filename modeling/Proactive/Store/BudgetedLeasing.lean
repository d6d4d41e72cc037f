import Proactive.Library.GreedyBudget
import Proactive.Store.Lifecycle

/-! A budgeted claim takes the rows that a plain walk over the candidate page takes. -/
namespace Proactive.Store
open Proactive.Library Database

namespace BudgetedLeasing

/-- Rows that are eligible but for the budget; the reply deadlines are those that the cap is for. -/
def items (claim : DeliveryClaim) (leases : Bool) (db : Database) : GreedyBudget.Items Situation where
  ready row := db.deliverable claim row && db.currentSource row && !(leases && db.leased row.id) && claim.admits row
  urgent row := row.priority == .critical
  held row := row.situationType == .replyDeadline

def spent (claim : DeliveryClaim) (leases : Bool) (db : Database) : Int :=
  countDeliveredBetween claim.localDayStart claim.localDayEnd db +
    if leases then (countReservedBetween claim.localDayStart claim.localDayEnd claim.deliveredAt db : Int) else 0

def spentOnReplies (claim : DeliveryClaim) (leases : Bool) (db : Database) : Int :=
  countDeliveredReplies claim db + if leases then (countReservedReplies claim db : Int) else 0

def greedyScan (claim : DeliveryClaim) (leases : Bool) (db : Database) : List Situation :=
  GreedyBudget.greedy (items claim leases db) claim.dailyBudget (spent claim leases db)
    (pendingForDelivery maxDeliveryCandidates db)

/-- The claim is made inside the local day that its budget is for. -/
def InDay (claim : DeliveryClaim) : Prop :=
  claim.localDayStart ≤ claim.deliveredAt ∧ claim.deliveredAt < claim.localDayEnd

instance (claim : DeliveryClaim) : Decidable (InDay claim) := inferInstanceAs (Decidable (_ ∧ _))

variable {claim : DeliveryClaim} {db : Database} {digest : Digest} {expiresAt slots : Int} {row : Situation}

theorem page_ordered (claim : DeliveryClaim) (leases : Bool) (db base : Database) :
    GreedyBudget.Ordered (items claim leases base) (pendingForDelivery maxDeliveryCandidates db) := by
  refine (pendingForDelivery_sorted maxDeliveryCandidates db).imp (fun {first second} before lower reply lower' => ?_)
  change (first.priority == .critical) = false at lower
  change (first.situationType == .replyDeadline) = true at reply
  change (second.priority == .critical) = false at lower'
  change (second.situationType == .replyDeadline) = true
  rw [beq_eq_false_iff_ne] at lower lower'
  rw [beq_iff_eq] at reply ⊢
  unfold pageBefore criticalCase replyCase at before
  rw [if_neg lower,if_neg lower',if_pos reply] at before
  by_contra other
  rw [if_neg other] at before
  omega

/-- The reserved slot is kept only for a row of the page that will take it. -/
theorem slots_slack (leases : Bool) (schema : db.WellFormed) :
    reservedNonReplySlots (pendingForDelivery maxDeliveryCandidates db) claim leases db ≤
      spent claim leases db - spentOnReplies claim leases db +
        (pendingForDelivery maxDeliveryCandidates db).countP (GreedyBudget.ordinary (items claim leases db)) := by
  have replies : spentOnReplies claim leases db ≤ spent claim leases db := by
    unfold spentOnReplies spent
    have delivered := countDeliveredReplies_le claim db
    have reserved := countReservedReplies_le claim db
    split <;> omega
  unfold reservedNonReplySlots
  by_cases closed : (!claim.allowNoncritical || (pendingForDelivery maxDeliveryCandidates db).isEmpty) = true
  · rw [if_pos closed]
    omega
  · rw [if_neg closed]
    rw [Bool.or_eq_true,not_or,Bool.not_eq_true',Bool.not_eq_false] at closed
    cases kept : consumableNonReply (pendingForDelivery maxDeliveryCandidates db) claim leases db with
    | false =>
      rw [if_neg Bool.false_ne_true]
      omega
    | true =>
      obtain ⟨other,stored,consumable⟩ := List.any_eq_true.mp kept
      simp only [Bool.and_eq_true,List.contains_iff_mem,bne_iff_ne] at consumable
      obtain ⟨⟨⟨⟨listed,lower⟩,noReply⟩,deliverable⟩,free⟩ := consumable
      obtain ⟨candidate,found,same⟩ := List.mem_map.mp listed
      obtain rfl := schema.same_id (pendingForDelivery_mem found).1 stored same
      have takes : GreedyBudget.ordinary (items claim leases db) candidate = true := by
        have current : db.currentSource candidate = true := by simp [currentSource,noReply]
        have admitted : claim.admits candidate = true := by simp [DeliveryClaim.admits,closed.1]
        change (db.deliverable claim candidate && db.currentSource candidate && !(leases && db.leased candidate.id) &&
          claim.admits candidate && !(candidate.priority == .critical) &&
            !(candidate.situationType == .replyDeadline)) = true
        rw [deliverable,current,free,admitted,beq_false_of_ne lower,beq_false_of_ne noReply]
        rfl
      have one := List.countP_pos_iff.mpr ⟨candidate,found,takes⟩
      rw [if_pos rfl]
      omega

/-- The walk of the leasing insert, and of the claiming update, as the rows stand in the tables. -/
def cappedScan (claim : DeliveryClaim) (leases : Bool) (slots : Int) (candidates : List Situation) (db : Database) :
    List Situation :=
  GreedyBudget.capped (items claim leases db) claim.dailyBudget (max 0 (claim.dailyBudget - slots))
    (spent claim leases db) (spentOnReplies claim leases db) candidates

theorem cappedScan_page (claim : DeliveryClaim) (leases : Bool) (schema : db.WellFormed) :
    cappedScan claim leases (reservedNonReplySlots (pendingForDelivery maxDeliveryCandidates db) claim leases db)
        (pendingForDelivery maxDeliveryCandidates db) db = greedyScan claim leases db :=
  GreedyBudget.capped_eq_greedy (items claim leases db) claim.dailyBudget (page_ordered claim leases db db)
    (Or.inl (slots_slack leases schema))

/-- What the walk does after it takes a row, by the counts that the row adds to. -/
def cost (row : Situation) : Int := if row.priority == .critical then 0 else 1

def replyCost (row : Situation) : Int :=
  if row.priority == .critical || !(row.situationType == .replyDeadline) then 0 else 1

theorem cappedScan_after {leases : Bool} {next : Database} {rest : List Situation}
    (ready : ∀ other ∈ rest, (items claim leases next).ready other = (items claim leases db).ready other)
    (more : spent claim leases next = spent claim leases db + cost row)
    (moreReplies : spentOnReplies claim leases next = spentOnReplies claim leases db + replyCost row) :
    cappedScan claim leases slots rest next =
      GreedyBudget.capped (items claim leases db) claim.dailyBudget (max 0 (claim.dailyBudget - slots))
        (if (items claim leases db).urgent row then spent claim leases db else spent claim leases db + 1)
        (if (items claim leases db).urgent row || !(items claim leases db).held row then
          spentOnReplies claim leases db else spentOnReplies claim leases db + 1) rest := by
  have total : spent claim leases next =
      if (items claim leases db).urgent row then spent claim leases db else spent claim leases db + 1 := by
    rw [more]
    unfold cost
    change _ = if row.priority == .critical then _ else _
    split
    · rw [Int.add_zero]
    · rfl
  have replies : spentOnReplies claim leases next =
      if (items claim leases db).urgent row || !(items claim leases db).held row then
        spentOnReplies claim leases db else spentOnReplies claim leases db + 1 := by
    rw [moreReplies]
    unfold replyCost
    change _ = if row.priority == .critical || !(row.situationType == .replyDeadline) then _ else _
    split
    · rw [Int.add_zero]
    · rfl
  rw [cappedScan,total,replies]
  exact GreedyBudget.capped_congr _ _ _ _ _ ready rfl rfl

theorem countP_leaseOne (inDay : InDay claim) (later : claim.deliveredAt < expiresAt) (schema : db.WellFormed)
    (stored : row ∈ db.situations) (sees : Situation → Bool) :
    (db.leaseAll claim digest expiresAt [row]).claims.countP (fun lease =>
        claim.localDayStart ≤ lease.claimedAt && lease.claimedAt < claim.localDayEnd &&
          claim.deliveredAt < lease.expiresAt && (db.situation? lease.situationId).any sees) =
      db.claims.countP (fun lease =>
        claim.localDayStart ≤ lease.claimedAt && lease.claimedAt < claim.localDayEnd &&
          claim.deliveredAt < lease.expiresAt && (db.situation? lease.situationId).any sees) +
        if sees row then 1 else 0 := by
  have found : db.situation? row.id = some row := schema.situation?_mem stored
  unfold leaseAll
  rw [List.countP_append,List.map_singleton,List.countP_singleton,found]
  simp [inDay.1,inDay.2,later]

theorem spent_leaseOne (inDay : InDay claim) (later : claim.deliveredAt < expiresAt) (schema : db.WellFormed)
    (stored : row ∈ db.situations) :
    spent claim true (db.leaseAll claim digest expiresAt [row]) = spent claim true db + cost row := by
  have counted : countReservedBetween claim.localDayStart claim.localDayEnd claim.deliveredAt
      (db.leaseAll claim digest expiresAt [row]) =
        countReservedBetween claim.localDayStart claim.localDayEnd claim.deliveredAt db +
          if row.priority != .critical then 1 else 0 := countP_leaseOne inDay later schema stored _
  have delivered : countDeliveredBetween claim.localDayStart claim.localDayEnd
      (db.leaseAll claim digest expiresAt [row]) =
        countDeliveredBetween claim.localDayStart claim.localDayEnd db := rfl
  unfold spent cost
  rw [counted,delivered,bne]
  cases row.priority == .critical <;> simp [Int.add_assoc]

theorem spentOnReplies_leaseOne (inDay : InDay claim) (later : claim.deliveredAt < expiresAt)
    (schema : db.WellFormed) (stored : row ∈ db.situations) :
    spentOnReplies claim true (db.leaseAll claim digest expiresAt [row]) =
      spentOnReplies claim true db + replyCost row := by
  have counted : countReservedReplies claim (db.leaseAll claim digest expiresAt [row]) =
      countReservedReplies claim db +
        if row.priority != .critical && row.situationType == .replyDeadline then 1 else 0 :=
    countP_leaseOne inDay later schema stored _
  have delivered : countDeliveredReplies claim (db.leaseAll claim digest expiresAt [row]) =
      countDeliveredReplies claim db := rfl
  unfold spentOnReplies replyCost
  rw [counted,delivered,bne]
  cases row.priority == .critical <;> cases row.situationType == .replyDeadline <;> simp [Int.add_assoc]

theorem items_leaseOne {other : Situation} (apart : other.id ≠ row.id) :
    (items claim true (db.leaseAll claim digest expiresAt [row])).ready other = (items claim true db).ready other := by
  have free : (db.leaseAll claim digest expiresAt [row]).leased other.id = db.leased other.id := by
    unfold leased leaseAll
    rw [List.any_append]
    simp [Ne.symm apart]
  unfold items
  dsimp only
  rw [free]
  rfl

theorem leasable_items (claim : DeliveryClaim) (slots : Int) (db : Database) (row : Situation) :
    (claim.admits row && db.leasable claim slots row) =
      ((items claim true db).ready row &&
        ((items claim true db).urgent row || spent claim true db < claim.dailyBudget) &&
        ((items claim true db).urgent row || !(items claim true db).held row ||
          spentOnReplies claim true db < max 0 (claim.dailyBudget - slots))) := by
  unfold leasable items spent spentOnReplies
  dsimp only
  generalize claim.admits row = admits
  cases admits <;> simp [bne,Bool.and_assoc]

theorem leasedRows_capped (inDay : InDay claim) (later : claim.deliveredAt < expiresAt) {candidates : List Situation}
    (schema : db.WellFormed) (stored : ∀ row ∈ candidates, row ∈ db.situations)
    (distinct : (candidates.map Situation.id).Nodup) :
    leasedRows claim digest expiresAt slots candidates db = cappedScan claim true slots candidates db := by
  induction candidates generalizing db with
  | nil => rfl
  | cons row rest ih =>
    obtain ⟨fresh,distinct⟩ := List.nodup_cons.mp distinct
    obtain ⟨present,others⟩ := List.forall_mem_cons.mp stored
    rw [leasedRows,cappedScan,GreedyBudget.capped,leasable_items]
    split
    · rename_i taken
      rw [← leasable_items] at taken
      have free := (leasable_iff.mp (Bool.and_eq_true_iff.mp taken).2).2.2.1
      have kept := schema.leaseOne claim digest expiresAt row present free later
      have apart (other : Situation) (member : other ∈ rest) : other.id ≠ row.id :=
        fun same => fresh (same ▸ List.mem_map_of_mem member)
      rw [ih kept others distinct,cappedScan_after (fun other member => items_leaseOne (apart other member))
        (spent_leaseOne inDay later schema present) (spentOnReplies_leaseOne inDay later schema present)]
    · exact ih schema others distinct

/-- A lease made outside of its day is in none of the day's counts. -/
theorem countP_leaseOne_outside (outside : ¬InDay claim) (sees : Situation → Bool) :
    (db.leaseAll claim digest expiresAt [row]).claims.countP (fun lease =>
        claim.localDayStart ≤ lease.claimedAt && lease.claimedAt < claim.localDayEnd &&
          claim.deliveredAt < lease.expiresAt && (db.situation? lease.situationId).any sees) =
      db.claims.countP (fun lease =>
        claim.localDayStart ≤ lease.claimedAt && lease.claimedAt < claim.localDayEnd &&
          claim.deliveredAt < lease.expiresAt && (db.situation? lease.situationId).any sees) := by
  have apart : (decide (claim.localDayStart ≤ claim.deliveredAt) && decide (claim.deliveredAt < claim.localDayEnd)) =
      false := by
    rw [Bool.eq_false_iff,ne_eq,Bool.and_eq_true,decide_eq_true_eq,decide_eq_true_eq]
    exact outside
  unfold leaseAll
  rw [List.countP_append,List.map_singleton,List.countP_singleton,apart,Bool.false_and,Bool.false_and,
    if_neg Bool.false_ne_true,Nat.add_zero]

/-- Outside of its own day a reservation leases every row that it can lease at the start. -/
theorem leasedRows_outside (outside : ¬InDay claim) (later : claim.deliveredAt < expiresAt) {candidates : List Situation}
    (schema : db.WellFormed) (stored : ∀ row ∈ candidates, row ∈ db.situations)
    (distinct : (candidates.map Situation.id).Nodup) :
    leasedRows claim digest expiresAt slots candidates db =
      candidates.filter (fun row => claim.admits row && db.leasable claim slots row) := by
  induction candidates generalizing db with
  | nil => rfl
  | cons row rest ih =>
    obtain ⟨fresh,distinct⟩ := List.nodup_cons.mp distinct
    obtain ⟨present,others⟩ := List.forall_mem_cons.mp stored
    rw [leasedRows,List.filter_cons,ih schema others distinct]
    split
    · rename_i taken
      have free := (leasable_iff.mp (Bool.and_eq_true_iff.mp taken).2).2.2.1
      have kept := schema.leaseOne claim digest expiresAt row present free later
      rw [ih kept others distinct]
      congr 1
      apply List.filter_congr
      intro other member
      have apart : other.id ≠ row.id := fun same => fresh (same ▸ List.mem_map_of_mem member)
      have counted : countReservedBetween claim.localDayStart claim.localDayEnd claim.deliveredAt
          (db.leaseAll claim digest expiresAt [row]) =
            countReservedBetween claim.localDayStart claim.localDayEnd claim.deliveredAt db :=
        @countP_leaseOne_outside claim db digest expiresAt row outside _
      have replies : countReservedReplies claim (db.leaseAll claim digest expiresAt [row]) =
          countReservedReplies claim db := @countP_leaseOne_outside claim db digest expiresAt row outside _
      have same : spent claim true (db.leaseAll claim digest expiresAt [row]) = spent claim true db := by
        unfold spent
        rw [counted]
        rfl
      have sameReplies : spentOnReplies claim true (db.leaseAll claim digest expiresAt [row]) =
          spentOnReplies claim true db := by
        unfold spentOnReplies
        rw [replies]
        rfl
      rw [leasable_items,leasable_items,items_leaseOne apart,same,sameReplies]
      rfl
    · rfl

/-- Without room for a lease, the first row that would be leased fails the reservation. -/
theorem reserveEach_early (early : ¬claim.deliveredAt < expiresAt) {candidates : List Situation}
    (schema : db.WellFormed) (stored : ∀ row ∈ candidates, row ∈ db.situations) :
    (reserveEach claim digest expiresAt slots candidates).run db =
      if cappedScan claim true slots candidates db = [] then (.ok [],db)
      else (.error (.integrity "expires_at > claimed_at"),db) := by
  induction candidates with
  | nil => rfl
  | cons row rest ih =>
    obtain ⟨present,others⟩ := List.forall_mem_cons.mp stored
    have inner := ih others
    rw [cappedScan,GreedyBudget.capped,← leasable_items]
    unfold reserveEach
    cases admitted : claim.admits row with
    | false =>
      rw [Bool.false_and,if_neg Bool.false_ne_true,Bool.not_false,if_pos rfl]
      exact inner
    | true =>
      rw [Bool.true_and,Bool.not_true,if_neg Bool.false_ne_true]
      rcases insertClaim_cases claim digest expiresAt slots row db schema present with
        ⟨refused,ran⟩ | ⟨_,later,_⟩ | ⟨leasable,_,ran⟩
      · rw [refused,if_neg Bool.false_ne_true,Statement.run_bind_ok _ _ _ _ _ ran]
        change _ = if cappedScan claim true slots rest db = [] then _ else _
        by_cases none : cappedScan claim true slots rest db = []
        · rw [if_pos none] at inner ⊢
          rw [Statement.run_bind_ok _ _ _ _ _ inner]
          rfl
        · rw [if_neg none] at inner ⊢
          rw [Statement.run_bind,inner]
      · exact absurd later early
      · rw [leasable,if_pos rfl,if_neg (List.cons_ne_nil _ _),Statement.run_bind,ran]

def claimedRows (claim : DeliveryClaim) (slots : Int) : List Situation → Database → List Situation
  | [], _ => []
  | row::rest, db =>
    if claim.admits row && db.claimable claim slots row then
      row::claimedRows claim slots rest (db.deliverAll claim.deliveredAt [row])
    else claimedRows claim slots rest db

theorem claimEach_walk (claim : DeliveryClaim) (slots : Int) {candidates : List Situation} (schema : db.WellFormed)
    (waiting : PendingRows candidates db) :
    (claimEach claim slots candidates).run db =
      (.ok ((claimedRows claim slots candidates db).map (.delivered claim.deliveredAt)),
        db.deliverAll claim.deliveredAt (claimedRows claim slots candidates db)) := by
  induction candidates generalizing db with
  | nil =>
    rw [claimedRows,deliverAll_nil]
    rfl
  | cons row rest ih =>
    have present := waiting.stored row List.mem_cons_self
    have pending := waiting.pending row List.mem_cons_self
    have others : PendingRows rest db := waiting.rest
    unfold claimEach claimedRows
    cases admitted : claim.admits row with
    | false => simpa using ih schema others
    | true =>
      rw [Bool.not_true,if_neg Bool.false_ne_true,Bool.true_and]
      rcases deliverUpdate_cases row.id claim.deliveredAt (fun db row => db.claimable claim slots row) db schema with
        ⟨ran,missed⟩ | ⟨other,stored,same,_,claimable,ran⟩
      · rw [missed row present rfl pending,if_neg Bool.false_ne_true,Statement.run_bind_ok _ _ _ _ _ ran]
        simpa using ih schema others
      · obtain rfl := schema.same_id stored present same
        rw [claimable,if_pos rfl,Statement.run_bind_ok _ _ _ _ _ ran,if_neg Nat.one_ne_zero,
          markedOne_run claim.deliveredAt other db schema stored (fun situation => do
            let claimed ← claimEach claim slots rest
            return situation::claimed)]
        have rested := ih (schema.deliverAll claim.deliveredAt [other] (by simpa using stored))
          ((PendingRows.cons_iff _ other stored pending rest).mp waiting)
        rw [Statement.run_bind_ok _ _ _ _ _ rested,deliverAll_cons]
        rfl

theorem situation?_deliverAll (timestamp : Int) (rows : List Situation) (db : Database) (id : Nat) :
    (db.deliverAll timestamp rows).situation? id = (db.situation? id).map (fun stored =>
      if rows.any (fun row => row.id == stored.id) then stored.delivered timestamp else stored) := by
  unfold situation? deliverAll Table.updateWhere
  dsimp only
  have ids : (fun row : Situation => row.id == id) ∘ (fun stored =>
      if rows.any (fun row => row.id == stored.id) then stored.delivered timestamp else stored) =
        fun row => row.id == id := by
    funext stored
    dsimp only [Function.comp]
    split <;> rfl
  rw [List.find?_map,ids]

/-- A delivery adds to the counts of the day only when it is made inside that day. -/
theorem spent_deliverOne (claim : DeliveryClaim) (row : Situation) (db : Database) :
    spent claim false (db.deliverAll claim.deliveredAt [row]) =
      spent claim false db + if InDay claim then cost row else 0 := by
  have counted : countDeliveredBetween claim.localDayStart claim.localDayEnd
      (db.deliverAll claim.deliveredAt [row]) =
        countDeliveredBetween claim.localDayStart claim.localDayEnd db +
          if InDay claim ∧ row.priority ≠ .critical then 1 else 0 := by
    unfold countDeliveredBetween deliverAll
    rw [List.countP_append,List.map_singleton,List.countP_singleton]
    refine congrArg _ (if_congr ?_ rfl rfl)
    unfold Situation.delivery InDay
    rw [Bool.and_eq_true,Bool.and_eq_true,decide_eq_true_eq,decide_eq_true_eq,bne_iff_ne]
  unfold spent cost
  rw [counted]
  by_cases inDay : InDay claim <;> by_cases critical : row.priority = .critical <;> simp [inDay,critical]

theorem spentOnReplies_deliverOne (claim : DeliveryClaim) (schema : db.WellFormed) (stored : row ∈ db.situations) :
    spentOnReplies claim false (db.deliverAll claim.deliveredAt [row]) =
      spentOnReplies claim false db + if InDay claim then replyCost row else 0 := by
  have types (id : Nat) : ((db.deliverAll claim.deliveredAt [row]).situation? id).any
      (fun other => other.situationType == .replyDeadline) =
        (db.situation? id).any (fun other => other.situationType == .replyDeadline) := by
    rw [situation?_deliverAll]
    cases db.situation? id with
    | none => rfl
    | some other =>
      rw [Option.map_some,Option.any_some,Option.any_some]
      split <;> rfl
  have found : db.situation? row.id = some row := schema.situation?_mem stored
  have counted : countDeliveredReplies claim (db.deliverAll claim.deliveredAt [row]) =
      countDeliveredReplies claim db +
        if InDay claim ∧ row.priority ≠ .critical ∧ row.situationType = .replyDeadline then 1 else 0 := by
    unfold countDeliveredReplies
    simp only [types]
    unfold deliverAll
    rw [List.countP_append,List.map_singleton,List.countP_singleton]
    refine congrArg _ (if_congr ?_ rfl rfl)
    unfold Situation.delivery InDay
    dsimp only
    rw [found,Option.any_some,Bool.and_eq_true,Bool.and_eq_true,Bool.and_eq_true,decide_eq_true_eq,decide_eq_true_eq,
      bne_iff_ne,beq_iff_eq,and_assoc]
  unfold spentOnReplies replyCost
  rw [counted]
  by_cases inDay : InDay claim <;> by_cases critical : row.priority = .critical <;>
    by_cases reply : row.situationType = .replyDeadline <;> simp [inDay,critical,reply]

theorem items_deliverOne {other : Situation} (apart : other.id ≠ row.id) :
    (items claim false (db.deliverAll claim.deliveredAt [row])).ready other =
      (items claim false db).ready other := by
  have cooled : (db.deliverAll claim.deliveredAt [row]).cooledDown claim.cooldownAfter other =
      db.cooledDown claim.cooldownAfter other := by
    have missed : (row.id == other.id) = false := beq_false_of_ne (Ne.symm apart)
    unfold cooledDown deliverAll
    rw [List.any_append]
    simp [Situation.delivery,missed]
  unfold items
  dsimp only
  unfold deliverable
  rw [cooled]
  rfl

theorem claimable_items (claim : DeliveryClaim) (slots : Int) (db : Database) (row : Situation) :
    (claim.admits row && db.claimable claim slots row) =
      ((items claim false db).ready row &&
        ((items claim false db).urgent row || spent claim false db < claim.dailyBudget) &&
        ((items claim false db).urgent row || !(items claim false db).held row ||
          spentOnReplies claim false db < max 0 (claim.dailyBudget - slots))) := by
  unfold claimable items spent spentOnReplies
  dsimp only
  generalize claim.admits row = admits
  cases admits <;> simp [bne,Bool.and_assoc]

theorem claimedRows_capped (inDay : InDay claim) {candidates : List Situation} (schema : db.WellFormed)
    (waiting : PendingRows candidates db) :
    claimedRows claim slots candidates db = cappedScan claim false slots candidates db := by
  induction candidates generalizing db with
  | nil => rfl
  | cons row rest ih =>
    have fresh := (List.nodup_cons.mp waiting.distinct).1
    have present := waiting.stored row List.mem_cons_self
    have pending := waiting.pending row List.mem_cons_self
    rw [claimedRows,cappedScan,GreedyBudget.capped,claimable_items]
    split
    · have apart (other : Situation) (member : other ∈ rest) : other.id ≠ row.id :=
        fun same => fresh (same ▸ List.mem_map_of_mem member)
      have kept := schema.deliverAll claim.deliveredAt [row] (by simpa using present)
      rw [ih kept ((PendingRows.cons_iff _ row present pending rest).mp waiting),
        cappedScan_after (fun other member => items_deliverOne (apart other member))
          ((spent_deliverOne claim row db).trans (by rw [if_pos inDay]))
          ((spentOnReplies_deliverOne claim schema present).trans (by rw [if_pos inDay]))]
    · exact ih schema waiting.rest

/-- Outside of its own day a claim takes every row that it can take at the start. -/
theorem claimedRows_outside (outside : ¬InDay claim) {candidates : List Situation} (schema : db.WellFormed)
    (waiting : PendingRows candidates db) :
    claimedRows claim slots candidates db =
      candidates.filter (fun row => claim.admits row && db.claimable claim slots row) := by
  induction candidates generalizing db with
  | nil => rfl
  | cons row rest ih =>
    have fresh := (List.nodup_cons.mp waiting.distinct).1
    have present := waiting.stored row List.mem_cons_self
    have pending := waiting.pending row List.mem_cons_self
    rw [claimedRows,List.filter_cons,ih schema waiting.rest]
    split
    · have kept := schema.deliverAll claim.deliveredAt [row] (by simpa using present)
      rw [ih kept ((PendingRows.cons_iff _ row present pending rest).mp waiting)]
      congr 1
      apply List.filter_congr
      intro other member
      have apart : other.id ≠ row.id := fun same => fresh (same ▸ List.mem_map_of_mem member)
      have same : spent claim false (db.deliverAll claim.deliveredAt [row]) = spent claim false db := by
        rw [spent_deliverOne,if_neg outside,Int.add_zero]
      have sameReplies : spentOnReplies claim false (db.deliverAll claim.deliveredAt [row]) =
          spentOnReplies claim false db := by
        rw [spentOnReplies_deliverOne claim schema present,if_neg outside,Int.add_zero]
      rw [claimable_items,claimable_items,items_deliverOne apart,same,sameReplies]
      rfl
    · rfl

theorem page_waiting (schema : db.WellFormed) : PendingRows (pendingForDelivery maxDeliveryCandidates db) db :=
  ⟨pendingForDelivery_ids schema _,fun _ member => (pendingForDelivery_mem member).1,
    fun _ member => (pendingForDelivery_mem member).2⟩

theorem reserveEach_greedy (digest : Digest) (expiresAt : Int) (inDay : InDay claim) (schema : db.WellFormed) :
    (reserveEach claim digest expiresAt
      (reservedNonReplySlots (pendingForDelivery maxDeliveryCandidates db) claim true db)
      (pendingForDelivery maxDeliveryCandidates db)).run db =
      if claim.deliveredAt < expiresAt ∨ greedyScan claim true db = [] then
        (.ok (greedyScan claim true db),db.leaseAll claim digest expiresAt (greedyScan claim true db))
      else (.error (.integrity "expires_at > claimed_at"),db) := by
  have waiting := page_waiting schema
  have scan := cappedScan_page claim true schema
  by_cases later : claim.deliveredAt < expiresAt
  · rw [if_pos (Or.inl later),reserveEach_run claim digest expiresAt _ later _ db schema waiting.stored,
      leasedRows_capped inDay later schema waiting.stored waiting.distinct,scan]
  · rw [reserveEach_early later schema waiting.stored,scan]
    by_cases none : greedyScan claim true db = []
    · rw [if_pos none,if_pos (Or.inr none),none,leaseAll_nil]
    · rw [if_neg none,if_neg (not_or.mpr ⟨later,none⟩)]

/-- The rows of the candidate page that a claim takes. -/
def claimedPage (claim : DeliveryClaim) (db : Database) : List Situation :=
  claimedRows claim (reservedNonReplySlots (pendingForDelivery maxDeliveryCandidates db) claim false db)
    (pendingForDelivery maxDeliveryCandidates db) db

theorem claimForDelivery_walk (claim : DeliveryClaim) (schema : db.WellFormed) :
    (claimForDelivery claim).run db = (.ok ((claimedPage claim db).map (.delivered claim.deliveredAt)),
      db.deliverAll claim.deliveredAt (claimedPage claim db)) :=
  (Statement.immediate_success _ _ _ _).mpr (claimEach_walk claim _ schema (page_waiting schema))

theorem claimedPage_inDay (inDay : InDay claim) (schema : db.WellFormed) :
    claimedPage claim db = greedyScan claim false db := by
  rw [claimedPage,claimedRows_capped inDay schema (page_waiting schema),cappedScan_page claim false schema]

/-- Inside the day of the claim, neither the cap on replies nor the reserved slot shows in what is taken. -/
theorem budgeted_leasing_greedy (claim : DeliveryClaim) (inDay : InDay claim) (db : Database)
    (schema : db.WellFormed) (claimToken : String) (expiresAt : Int) :
    (reserveForDelivery claim claimToken expiresAt).run db =
      (let scan := greedyScan claim true (db.expire claim.deliveredAt)
      if claim.deliveredAt < expiresAt ∨ scan = [] then
        (.ok ⟨claimToken,scan,expiresAt⟩,
          (db.expire claim.deliveredAt).leaseAll claim (receiptDigest claimToken) expiresAt scan)
      else (.error (.integrity "expires_at > claimed_at"),db)) ∧
    (claimForDelivery claim).run db =
      (.ok ((greedyScan claim false db).map (.delivered claim.deliveredAt)),
        db.deliverAll claim.deliveredAt (greedyScan claim false db)) := by
  constructor
  · have ran := reserveEach_greedy (receiptDigest claimToken) expiresAt inDay (schema.expire claim.deliveredAt)
    dsimp only
    split
    · rename_i fits
      rw [if_pos fits] at ran
      rw [reserveForDelivery,Statement.immediate_success,DeliveryReceipts.expire,Statement.run_update_bind,
        Statement.run_select_bind,Statement.run_select_bind]
      exact Statement.run_bind_ok _ _ _ _ _ ran
    · rename_i late
      rw [if_neg late] at ran
      refine Statement.immediate_error _ _ (db.expire claim.deliveredAt) _ ?_
      rw [DeliveryReceipts.expire,Statement.run_update_bind,Statement.run_select_bind,Statement.run_select_bind,
        Statement.run_bind,ran]
  · rw [claimForDelivery_walk claim schema,claimedPage_inDay inDay schema]

def threePending : List Operation :=
  [.upsertDetections [⟨.calendarConflict,"a",.high,"t","w",.empty,none⟩,
    ⟨.calendarConflict,"b",.high,"t","w",.empty,none⟩,⟨.replyDeadline,"c",.routine,"t","w",.empty,none⟩] 0]

def claimAt (localDayStart localDayEnd : Int) : DeliveryClaim := ⟨second,0,localDayStart,localDayEnd,1,true⟩

theorem budgeted_leasing_one :
    let db := Run.run (@step EvidenceJson.compact) Database.empty threePending
    ((claimForDelivery (claimAt 0 (86400 * second))).run db).1 =
        .ok ((greedyScan (claimAt 0 (86400 * second)) false db).map (.delivered second)) ∧
      (greedyScan (claimAt 0 (86400 * second)) false db).map Situation.id = [1] :=
  ⟨congrArg Prod.fst (budgeted_leasing_greedy (claimAt 0 (86400 * second)) (by decide) _
    (@run_wellFormed EvidenceJson.compact _ empty_wellFormed _) "token" 0).2,by decide +kernel⟩

/-- A claim outside of its own day does not see what it takes. -/
theorem outside_day :
    let db := Run.run (@step EvidenceJson.compact) Database.empty threePending
    let claim := claimAt (2 * second) (3 * second)
    (((reserveForDelivery claim "token" (121 * second)).run db).1.map
        (fun reservation => reservation.situations.map Situation.id) = .ok [1,2] ∧
      ((claimForDelivery claim).run db).1.map (List.map Situation.id) = .ok [1,2]) ∧
    (greedyScan claim true (db.expire second)).map Situation.id = [1] ∧
      (greedyScan claim false db).map Situation.id = [1] := by
  decide +kernel

end BudgetedLeasing
end Proactive.Store
