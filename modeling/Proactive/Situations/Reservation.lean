import Proactive.Situations.Selection

/-! Which of the stored rows the policy's reservation leases, by tests of each row. -/
namespace Proactive.Situations.AttentionPolicy
open Proactive.Library Proactive.Store Ranking Database BudgetedLeasing

section tests
variable (policy : AttentionPolicy) (now : Int) (db : Database) (row : Situation)

/-- What the reservation asks of a row before it looks at the budget. -/
def reservable : Bool :=
  row.state == .pending &&
    decide (ahead pageBefore (fun other => other.state == .pending) db.situations row < maxDeliveryCandidates) &&
    db.deliverable (policy.deliveryClaim now) row && db.currentSource row && !db.leased row.id

/-- The day's deliveries and live leases, and the leased rows before this one, leave room. At an instant
outside of its own local day the leased rows are not counted, and the cap on replies shows. -/
def reservationRoom : Bool :=
  let claim := policy.deliveryClaim now
  let used := countDeliveredBetween claim.localDayStart claim.localDayEnd db +
    countReservedBetween claim.localDayStart claim.localDayEnd now db
  if InDay claim then
    used + ahead pageBefore (fun other => policy.reservable now db other && other.priority != .critical) db.situations
      row < policy.settings.dailyBudget
  else
    used < policy.settings.dailyBudget && (row.situationType != .replyDeadline ||
      countDeliveredReplies claim db + countReservedReplies claim db < max 0 ((policy.settings.dailyBudget : Int) -
        reservedNonReplySlots (pendingForDelivery maxDeliveryCandidates db) claim true db))

def reserves : Bool :=
  -- The leases that have ended are purged first.
  let live := db.expire now
  policy.reservable now live row && (row.priority == .critical ||
    (!policy.quietState now && policy.reservationRoom now live row))

end tests

variable {policy : AttentionPolicy} {now : Int} {db : Database} {row : Situation}

theorem leased_ready_iff (schema : db.WellFormed) :
    row ∈ pendingForDelivery maxDeliveryCandidates db ∧ (items (policy.deliveryClaim now) true db).ready row = true ↔
      row ∈ db.situations ∧ policy.reservable now db row = true ∧
        (row.priority = .critical ∨ policy.quietState now = false) := by
  rw [mem_paged_iff schema]
  unfold reservable items
  simp only [Bool.and_eq_true,decide_eq_true_eq,admits_iff,and_assoc,Bool.true_and]

theorem ahead_reservable (schema : db.WellFormed) (quiet : policy.quietState now = false) :
    ahead pageBefore (fun other => (items (policy.deliveryClaim now) true db).ready other &&
        !(items (policy.deliveryClaim now) true db).urgent other)
        (pendingForDelivery maxDeliveryCandidates db) row =
      ahead pageBefore (fun other => policy.reservable now db other && other.priority != .critical) db.situations row := by
  have page := List.Nodup.of_map Situation.id (pendingForDelivery_ids schema maxDeliveryCandidates)
  have listed (other : Situation) : other ∈ pendingForDelivery maxDeliveryCandidates db ↔ other ∈ db.situations ∧
      (other.state == .pending &&
        decide (ahead pageBefore (fun other => other.state == .pending) db.situations other < maxDeliveryCandidates)) =
          true := by
    rw [mem_paged_iff schema,Bool.and_eq_true,decide_eq_true_eq]
  rw [ahead_listed page schema.rows_nodup listed]
  congr 1
  funext other
  have admits : (policy.deliveryClaim now).admits other = true := admits_iff.mpr (Or.inr quiet)
  unfold reservable items
  dsimp only
  rw [admits,Bool.and_true,Bool.true_and]
  simp only [Bool.and_assoc]
  rfl

theorem mem_leasedRows_iff {digest : Digest} {expiresAt : Int} (later : now < expiresAt) (schema : db.WellFormed) :
    row ∈ leasedRows (policy.deliveryClaim now) digest expiresAt (reservationSlots (policy.deliveryClaim now) db)
        (pendingForDelivery maxDeliveryCandidates db) db ↔
      row ∈ db.situations ∧ policy.reservable now db row = true ∧
        (row.priority = .critical ∨ policy.quietState now = false ∧ policy.reservationRoom now db row = true) := by
  have waiting := page_waiting schema
  by_cases inDay : InDay (policy.deliveryClaim now)
  · rw [leasedRows_capped inDay later schema waiting.stored waiting.distinct,reservationSlots,
      cappedScan_page (policy.deliveryClaim now) true schema,greedyScan,
      GreedyBudget.mem_greedy_iff _ _ (page_ranked schema),← and_assoc,leased_ready_iff schema,and_assoc,and_assoc]
    refine and_congr_right (fun _ => and_congr_right (fun _ => ?_))
    change _ ∧ ((row.priority == .critical) = true ∨ _) ↔ _
    rw [beq_iff_eq]
    by_cases critical : row.priority = .critical
    · simp [critical]
    · rw [or_iff_right critical,or_iff_right critical,or_iff_right critical]
      refine and_congr_right (fun quiet => ?_)
      rw [ahead_reservable schema quiet]
      unfold reservationRoom spent
      rw [if_pos inDay,decide_eq_true_eq,if_pos rfl,← Int.natCast_add,← Int.natCast_add]
      exact Int.ofNat_lt
  · rw [leasedRows_outside inDay later schema waiting.stored waiting.distinct,List.mem_filter,leasable_items,
      Bool.and_eq_true,Bool.and_eq_true,and_assoc,← and_assoc,leased_ready_iff schema,and_assoc,and_assoc]
    refine and_congr_right (fun _ => and_congr_right (fun _ => ?_))
    change _ ∧ ((row.priority == .critical) || _) = true ∧ ((row.priority == .critical) ||
      !(row.situationType == .replyDeadline) || _) = true ↔ _
    by_cases critical : row.priority = .critical
    · simp [critical]
    · rw [or_iff_right critical,or_iff_right critical,beq_false_of_ne critical,Bool.false_or,Bool.false_or]
      refine and_congr_right (fun _ => ?_)
      unfold reservationRoom spent spentOnReplies
      rw [if_neg inDay,if_pos rfl,if_pos rfl,Bool.and_eq_true]
      refine and_congr ?_ Iff.rfl
      rw [decide_eq_true_eq,decide_eq_true_eq,← Int.natCast_add]
      exact Int.ofNat_lt

theorem mem_reservedRows_iff (claimToken : String) {expiresAt : Int} (later : now < expiresAt) (schema : db.WellFormed) :
    row ∈ reservedRows (policy.deliveryClaim now) claimToken expiresAt db ↔
      row ∈ db.situations ∧ policy.reserves now db row = true := by
  have purged : (db.expire now).WellFormed := schema.expire now
  refine (mem_leasedRows_iff later purged).trans ?_
  unfold reserves
  simp only [Bool.and_eq_true,Bool.or_eq_true,beq_iff_eq,Bool.not_eq_true']
  rfl

end Proactive.Situations.AttentionPolicy
