import Proactive.Server.Pagination
import Proactive.Store.BudgetedLeasing

/-! What the policy reports as deliverable beside what it claims: two readings of one attention policy,
one over a listed page and one in the guards of an update. -/
namespace Proactive.Situations
open Proactive.Library Proactive.Store Proactive.Server Ranking Database

/-- `_PRIORITY_RANK`. -/
def priorityRank : SituationPriority → Nat
  | .critical => 0
  | .high => 1
  | .routine => 2

/-- `_delivery_order`, as its tuples compare. -/
def deliveryOrder (first second : Situation) : Prop :=
  priorityRank first.priority < priorityRank second.priority ∨
  priorityRank first.priority = priorityRank second.priority ∧
  (first.detectedAt < second.detectedAt ∨ first.detectedAt = second.detectedAt ∧ first.id ≤ second.id)

instance : DecidableRel deliveryOrder := fun first second => by
  unfold deliveryOrder
  infer_instance

instance : Std.Total deliveryOrder where
  total first second := by unfold deliveryOrder; omega

instance : IsTrans Situation deliveryOrder where
  trans first second third one two := by unfold deliveryOrder at *; omega

namespace AttentionPolicy

def coolingDown (policy : AttentionPolicy) (situation : Situation) (now : Int) : Bool :=
  match situation.deliveredAt with
  | none => false
  | some deliveredAt =>
    if situation.snoozedUntil.isSome then false else now - policy.settings.cooldown < deliveredAt

/-- The default `limit` of `list_situations`. -/
def listingLimit : Nat := 20

def selectForDelivery (policy : AttentionPolicy) (now : Int) (db : Database) :
    Except SituationValidationError (List Situation) := do
  let mutedTypes := mutedTypes db
  let listed ← storedSituations db.situations (some .pending) 0 listingLimit
  let candidates := (listed.filter (fun situation =>
    !mutedTypes.contains situation.situationType && !policy.coolingDown situation now)).insertionSort deliveryOrder
  let critical := candidates.filter (fun c => c.priority == .critical)
  let others := candidates.filter (fun c => c.priority != .critical)
  if policy.quietState now then
    return critical
  else
    return critical ++ others.take (policy.budgetUsage now db).remaining.toNat

/-- The selection reports the situation. -/
def Reports (policy : AttentionPolicy) (now : Int) (db : Database) (id : Nat) : Prop :=
  ∃ selection, policy.selectForDelivery now db = .ok selection ∧ id ∈ selection.map Situation.id

/-- The claim moves the situation from pending to delivered. -/
def Delivers (policy : AttentionPolicy) (now : Int) (db : Database) (id : Nat) : Prop :=
  (∃ row ∈ db.situations, row.id = id ∧ row.state = .pending) ∧
    ∃ row ∈ ((policy.claimForDelivery now).run db).2.situations, row.id = id ∧ row.state = .delivered

/-- The id order of the listing. -/
def idOrder (first second : Situation) : Prop := first.id ≤ second.id

instance : DecidableRel idOrder := fun first second => inferInstanceAs (Decidable (first.id ≤ second.id))

instance : Std.Total idOrder where
  total first second := Nat.le_total first.id second.id

instance : IsTrans Situation idOrder where
  trans _ _ _ one two := Nat.le_trans one two

/-- The `WHERE` clause of the listing. -/
def waiting (row : Situation) : Bool := row.state == .pending && decide (0 < row.id)

section tests
variable (policy : AttentionPolicy) (now : Int) (db : Database) (row : Situation)

/-- What the selection asks of a row before it looks at the budget. -/
def selectable : Bool :=
  waiting row && decide (ahead idOrder waiting db.situations row < listingLimit) &&
    !db.typeMuted row.situationType && !policy.coolingDown row now

/-- What the claim asks of a row before it looks at the budget. -/
def takeable : Bool :=
  row.state == .pending &&
    decide (ahead pageBefore (fun other => other.state == .pending) db.situations row < maxDeliveryCandidates) &&
    db.deliverable (policy.deliveryClaim now) row && db.currentSource row

/-- The day's deliveries and live leases, and the reported rows before this one, leave room. -/
def selectionRoom : Bool :=
  (policy.budgetUsage now db).used +
    ahead deliveryOrder (fun other => policy.selectable now db other && other.priority != .critical) db.situations row <
      policy.settings.dailyBudget

/-- The day's deliveries and the claimed rows before this one leave room. At an instant outside of its
own local day the claimed rows are not counted, and the cap on replies shows. -/
def claimRoom : Bool :=
  let claim := policy.deliveryClaim now
  let used := countDeliveredBetween claim.localDayStart claim.localDayEnd db
  if BudgetedLeasing.InDay claim then
    used + ahead pageBefore (fun other => policy.takeable now db other && other.priority != .critical) db.situations row <
      policy.settings.dailyBudget
  else
    used < policy.settings.dailyBudget && (row.situationType != .replyDeadline ||
      countDeliveredReplies claim db < max 0 ((policy.settings.dailyBudget : Int) -
        reservedNonReplySlots (pendingForDelivery maxDeliveryCandidates db) claim false db))

end tests

/-- The two tests of a row agree: of a critical row as it stands, and outside of quiet hours of any other
row with the room that the budget leaves it. -/
def TestsAgree (policy : AttentionPolicy) (now : Int) (db : Database) : Prop :=
  (∀ row ∈ db.situations, row.priority = .critical → policy.selectable now db row = policy.takeable now db row) ∧
  (policy.quietState now = false → ∀ row ∈ db.situations, row.priority ≠ .critical →
    (policy.selectable now db row && policy.selectionRoom now db row) =
      (policy.takeable now db row && policy.claimRoom now db row))

instance (policy : AttentionPolicy) (now : Int) (db : Database) : Decidable (TestsAgree policy now db) :=
  inferInstanceAs (Decidable (_ ∧ _))

variable {policy : AttentionPolicy} {now : Int} {db : Database} {row : Situation}

/-- Rows of one id are one row, so an order that ends in the id is antisymmetric on the table. -/
theorem pageBefore_antisymm (schema : db.WellFormed) : ∀ first ∈ db.situations, ∀ second ∈ db.situations,
    pageBefore first second → pageBefore second first → first = second := by
  intro first one second two before after
  unfold pageBefore at before after
  exact schema.same_id one two (by omega)

theorem deliveryOrder_antisymm (schema : db.WellFormed) : ∀ first ∈ db.situations, ∀ second ∈ db.situations,
    deliveryOrder first second → deliveryOrder second first → first = second := by
  intro first one second two before after
  unfold deliveryOrder at before after
  exact schema.same_id one two (by omega)

theorem idOrder_antisymm (schema : db.WellFormed) : ∀ first ∈ db.situations, ∀ second ∈ db.situations,
    idOrder first second → idOrder second first → first = second :=
  fun _ one _ two before after => schema.same_id one two (Nat.le_antisymm before after)

theorem mutedTypes_contains (db : Database) (situationType : SituationType) :
    (mutedTypes db).contains situationType = typeMuted situationType db := by
  unfold mutedTypes
  rw [Bool.eq_iff_iff,List.contains_iff_mem,List.mem_filter]
  cases situationType <;> simp

section selection

/-- The candidates in delivery order. -/
def candidates (policy : AttentionPolicy) (now : Int) (db : Database) : List Situation :=
  ((selectSituations (some .pending) 0 listingLimit db.situations).filter (fun situation =>
    !(mutedTypes db).contains situation.situationType && !policy.coolingDown situation now)).insertionSort deliveryOrder

theorem mem_listing_iff (schema : db.WellFormed) :
    row ∈ selectSituations (some .pending) 0 listingLimit db.situations ↔
      row ∈ db.situations ∧ waiting row = true ∧ ahead idOrder waiting db.situations row < listingLimit :=
  mem_page_iff schema.rows_nodup (idOrder_antisymm schema) listingLimit

theorem mem_candidates_iff (schema : db.WellFormed) :
    row ∈ candidates policy now db ↔ row ∈ db.situations ∧ policy.selectable now db row = true := by
  unfold candidates selectable
  rw [List.mem_insertionSort,List.mem_filter,mem_listing_iff schema,mutedTypes_contains]
  simp [and_assoc]

theorem candidates_nodup (schema : db.WellFormed) : (candidates policy now db).Nodup := by
  have listing : (selectSituations (some .pending) 0 listingLimit db.situations).Nodup :=
    ((List.perm_insertionSort _ _).nodup_iff.mpr (schema.rows_nodup.filter _)).sublist (List.take_sublist _ _)
  exact (List.perm_insertionSort _ _).nodup_iff.mpr (listing.filter _)

theorem candidates_ranked (schema : db.WellFormed) : Ranked deliveryOrder (candidates policy now db) := by
  refine ranked_insertionSort ((List.perm_insertionSort _ _).nodup_iff.mp (candidates_nodup schema)) ?_
  have stored : ∀ row ∈ (selectSituations (some .pending) 0 listingLimit db.situations).filter (fun situation =>
      !(mutedTypes db).contains situation.situationType && !policy.coolingDown situation now), row ∈ db.situations :=
    fun row member => ((mem_listing_iff schema).mp (List.mem_of_mem_filter member)).1
  exact fun first one second two => deliveryOrder_antisymm schema first (stored first one) second (stored second two)

theorem selectForDelivery_ok (policy : AttentionPolicy) (now : Int) (db : Database) :
    policy.selectForDelivery now db = .ok (
      (candidates policy now db).filter (fun c => c.priority == .critical) ++
        if policy.quietState now then [] else
          ((candidates policy now db).filter (fun c => c.priority != .critical)).take
            (policy.budgetUsage now db).remaining.toNat) := by
  have listed : storedSituations db.situations (some .pending) 0 listingLimit =
      .ok (selectSituations (some .pending) 0 listingLimit db.situations) :=
    storedSituations_ok (by decide) (by decide) db.situations (some .pending) 0
  unfold selectForDelivery
  rw [listed]
  cases quiet : policy.quietState now with
  | false => rfl
  | true => exact congrArg Except.ok (List.append_nil _).symm

theorem mem_taken_iff (schema : db.WellFormed) :
    row ∈ ((candidates policy now db).filter (fun c => c.priority != .critical)).take
        (policy.budgetUsage now db).remaining.toNat ↔
      row ∈ db.situations ∧ row.priority ≠ .critical ∧ policy.selectable now db row = true ∧
        policy.selectionRoom now db row = true := by
  have ranked : Ranked deliveryOrder ((candidates policy now db).filter (fun c => c.priority != .critical)) :=
    (candidates_ranked schema).sublist List.filter_sublist
  have others (other : Situation) : other ∈ (candidates policy now db).filter (fun c => c.priority != .critical) ↔
      other ∈ db.situations ∧ (policy.selectable now db other && other.priority != .critical) = true := by
    rw [List.mem_filter,mem_candidates_iff schema,Bool.and_eq_true,and_assoc]
  have counted : ahead deliveryOrder (fun _ => true) ((candidates policy now db).filter (fun c => c.priority != .critical))
        row = ahead deliveryOrder (fun other => policy.selectable now db other && other.priority != .critical && true)
          db.situations row :=
    ahead_listed ((candidates_nodup schema).filter _) schema.rows_nodup others _
  simp only [Bool.and_true] at counted
  rw [mem_take_iff ranked,counted,List.mem_filter,mem_candidates_iff schema]
  unfold selectionRoom budgetUsage
  dsimp only
  rw [decide_eq_true_eq,bne_iff_ne]
  constructor
  · rintro ⟨⟨⟨stored,selected⟩,lower⟩,few⟩
    exact ⟨stored,lower,selected,by omega⟩
  · rintro ⟨stored,lower,selected,few⟩
    exact ⟨⟨⟨stored,selected⟩,lower⟩,by omega⟩

theorem reports_iff (schema : db.WellFormed) (id : Nat) :
    policy.Reports now db id ↔ ∃ row ∈ db.situations, row.id = id ∧ policy.selectable now db row = true ∧
      (row.priority = .critical ∨ policy.quietState now = false ∧ policy.selectionRoom now db row = true) := by
  have answered : policy.Reports now db id ↔ ∃ row ∈
      (candidates policy now db).filter (fun c => c.priority == .critical) ++
        if policy.quietState now then [] else
          ((candidates policy now db).filter (fun c => c.priority != .critical)).take
            (policy.budgetUsage now db).remaining.toNat, row.id = id := by
    unfold Reports
    rw [selectForDelivery_ok]
    simp only [Except.ok.injEq,exists_eq_left',List.mem_map]
  rw [answered]
  constructor
  · rintro ⟨row,member,rfl⟩
    rcases List.mem_append.mp member with critical | other
    · rw [List.mem_filter,mem_candidates_iff schema,beq_iff_eq] at critical
      exact ⟨row,critical.1.1,rfl,critical.1.2,Or.inl critical.2⟩
    · cases quiet : policy.quietState now with
      | true =>
        rw [quiet,if_pos rfl] at other
        cases other
      | false =>
        rw [quiet,if_neg Bool.false_ne_true,mem_taken_iff schema] at other
        exact ⟨row,other.1,rfl,other.2.2.1,Or.inr ⟨rfl,other.2.2.2⟩⟩
  · rintro ⟨row,stored,rfl,selected,room⟩
    refine ⟨row,?_,rfl⟩
    by_cases critical : row.priority = .critical
    · apply List.mem_append_left
      rw [List.mem_filter,mem_candidates_iff schema,beq_iff_eq]
      exact ⟨⟨stored,selected⟩,critical⟩
    · obtain ⟨quiet,room⟩ := room.resolve_left critical
      apply List.mem_append_right
      rw [quiet,if_neg Bool.false_ne_true,mem_taken_iff schema]
      exact ⟨stored,critical,selected,room⟩

end selection

section claim
open BudgetedLeasing

theorem admits_iff : (policy.deliveryClaim now).admits row = true ↔
    row.priority = .critical ∨ policy.quietState now = false := by
  unfold DeliveryClaim.admits deliveryClaim
  simp [or_comm]

theorem mem_paged_iff (schema : db.WellFormed) :
    row ∈ pendingForDelivery maxDeliveryCandidates db ↔ row ∈ db.situations ∧ (row.state == .pending) = true ∧
      ahead pageBefore (fun other => other.state == .pending) db.situations row < maxDeliveryCandidates :=
  mem_page_iff schema.rows_nodup (pageBefore_antisymm schema) maxDeliveryCandidates

theorem page_ranked (schema : db.WellFormed) : Ranked pageBefore (pendingForDelivery maxDeliveryCandidates db) := by
  have sorted : Ranked pageBefore ((db.situations.filter (fun row => row.state == .pending)).insertionSort pageBefore) :=
    ranked_insertionSort (schema.rows_nodup.filter _) (fun first one second two =>
      pageBefore_antisymm schema first (List.mem_of_mem_filter one) second (List.mem_of_mem_filter two))
  exact sorted.sublist (List.take_sublist _ _)

theorem items_ready : (items (policy.deliveryClaim now) false db).ready row =
    (db.deliverable (policy.deliveryClaim now) row && db.currentSource row && (policy.deliveryClaim now).admits row) := by
  unfold items
  simp

theorem ready_iff (schema : db.WellFormed) :
    row ∈ pendingForDelivery maxDeliveryCandidates db ∧ (items (policy.deliveryClaim now) false db).ready row = true ↔
      row ∈ db.situations ∧ policy.takeable now db row = true ∧
        (row.priority = .critical ∨ policy.quietState now = false) := by
  rw [mem_paged_iff schema,items_ready]
  unfold takeable
  simp only [Bool.and_eq_true,decide_eq_true_eq,admits_iff,and_assoc]

/-- The rows that the claim counts before one, seen from the table. -/
theorem ahead_takeable (schema : db.WellFormed) (quiet : policy.quietState now = false) :
    ahead pageBefore (fun other => (items (policy.deliveryClaim now) false db).ready other &&
        !(items (policy.deliveryClaim now) false db).urgent other)
        (pendingForDelivery maxDeliveryCandidates db) row =
      ahead pageBefore (fun other => policy.takeable now db other && other.priority != .critical) db.situations row := by
  have page := List.Nodup.of_map Situation.id (pendingForDelivery_ids schema maxDeliveryCandidates)
  have listed (other : Situation) : other ∈ pendingForDelivery maxDeliveryCandidates db ↔ other ∈ db.situations ∧
      (other.state == .pending &&
        decide (ahead pageBefore (fun other => other.state == .pending) db.situations other < maxDeliveryCandidates)) =
          true := by
    rw [mem_paged_iff schema,Bool.and_eq_true,decide_eq_true_eq]
  rw [ahead_listed page schema.rows_nodup listed]
  congr 1
  funext other
  have admits : (policy.deliveryClaim now).admits other = true := admits_iff.mpr (Or.inr quiet)
  rw [items_ready,admits]
  unfold takeable
  rw [Bool.and_true,Bool.and_assoc,Bool.and_assoc,Bool.and_assoc,Bool.and_assoc,Bool.and_assoc]
  rfl

theorem mem_claimed_iff (schema : db.WellFormed) :
    row ∈ claimedPage (policy.deliveryClaim now) db ↔ row ∈ db.situations ∧ policy.takeable now db row = true ∧
      (row.priority = .critical ∨ policy.quietState now = false ∧ policy.claimRoom now db row = true) := by
  by_cases inDay : InDay (policy.deliveryClaim now)
  · rw [claimedPage_inDay inDay schema,greedyScan,GreedyBudget.mem_greedy_iff _ _ (page_ranked schema),← and_assoc,
      ready_iff schema,and_assoc,and_assoc]
    refine and_congr_right (fun _ => and_congr_right (fun _ => ?_))
    change _ ∧ ((row.priority == .critical) = true ∨ _) ↔ _
    rw [beq_iff_eq]
    by_cases critical : row.priority = .critical
    · simp [critical]
    · rw [or_iff_right critical,or_iff_right critical,or_iff_right critical]
      refine and_congr_right (fun quiet => ?_)
      rw [ahead_takeable schema quiet]
      unfold claimRoom spent
      rw [if_pos inDay,decide_eq_true_eq,if_neg Bool.false_ne_true,Int.add_zero]
      exact Int.ofNat_lt
  · rw [claimedPage,claimedRows_outside inDay schema (page_waiting schema),List.mem_filter,claimable_items,
      Bool.and_eq_true,Bool.and_eq_true,and_assoc,← and_assoc,ready_iff schema,and_assoc,and_assoc]
    refine and_congr_right (fun _ => and_congr_right (fun _ => ?_))
    change _ ∧ ((row.priority == .critical) || _) = true ∧ ((row.priority == .critical) ||
      !(row.situationType == .replyDeadline) || _) = true ↔ _
    by_cases critical : row.priority = .critical
    · simp [critical]
    · rw [or_iff_right critical,or_iff_right critical,beq_false_of_ne critical,Bool.false_or,Bool.false_or]
      refine and_congr_right (fun _ => ?_)
      unfold claimRoom spent spentOnReplies
      rw [if_neg inDay,if_neg Bool.false_ne_true,if_neg Bool.false_ne_true,Int.add_zero,Int.add_zero,Bool.and_eq_true]
      refine and_congr ?_ Iff.rfl
      rw [decide_eq_true_eq,decide_eq_true_eq]
      exact Int.ofNat_lt

theorem delivers_iff (schema : db.WellFormed) (id : Nat) :
    policy.Delivers now db id ↔ ∃ row ∈ db.situations, row.id = id ∧ policy.takeable now db row = true ∧
      (row.priority = .critical ∨ policy.quietState now = false ∧ policy.claimRoom now db row = true) := by
  have left : ((policy.claimForDelivery now).run db).2 =
      db.deliverAll now (claimedPage (policy.deliveryClaim now) db) :=
    congrArg Prod.snd (claimForDelivery_walk (policy.deliveryClaim now) schema)
  unfold Delivers
  rw [left]
  constructor
  · rintro ⟨⟨row,stored,rfl,pending⟩,after,member,same,delivered⟩
    rcases (Table.mem_updateWhere _ _ _ _).mp member with ⟨old,_,taken,rfl⟩ | ⟨kept,_⟩
    · obtain ⟨claimed,inside,equal⟩ := List.any_eq_true.mp taken
      obtain ⟨present,tests⟩ := (mem_claimed_iff schema).mp inside
      exact ⟨claimed,present,(beq_iff_eq.mp equal).trans same,tests⟩
    · rw [schema.same_id kept stored same,pending] at delivered
      cases delivered
  · rintro ⟨row,stored,rfl,takes,room⟩
    have inside := (mem_claimed_iff schema).mpr ⟨stored,takes,room⟩
    have pending := ((mem_paged_iff schema).mp ((ready_iff schema).mpr ⟨stored,takes,room.imp id And.left⟩).1).2.1
    refine ⟨⟨row,stored,rfl,beq_iff_eq.mp pending⟩,row.delivered now,?_,rfl,rfl⟩
    have named : (claimedPage (policy.deliveryClaim now) db).any (fun claimed => claimed.id == row.id) = true :=
      List.any_eq_true.mpr ⟨row,inside,beq_self_eq_true _⟩
    exact (Table.mem_updateWhere _ _ _ _).mpr (Or.inl ⟨row,stored,named,rfl⟩)

end claim

section undisturbed

/-- A state that shows none of the differences between the two: one short page of rows that wait, none of
them lapsed or of a source to check, their own delivery columns in step with the history, no live lease
on the budget, and an instant inside of its own local day. -/
structure Undisturbed (policy : AttentionPolicy) (now : Int) (db : Database) : Prop where
  few : db.situations.countP (fun row => row.state == .pending) ≤ listingLimit
  numbered : ∀ row ∈ db.situations, 0 < row.id
  unlapsed : ∀ row ∈ db.situations, row.state = .pending → row.hasLapsed now = false
  sourceless : ∀ row ∈ db.situations, row.state = .pending → row.situationType ≠ .replyDeadline
  inStep : ∀ row ∈ db.situations, row.state = .pending →
    policy.coolingDown row now = !db.cooledDown (now - policy.settings.cooldown) row
  unleased : countReservedBetween (policy.deliveryClaim now).localDayStart (policy.deliveryClaim now).localDayEnd now db = 0
  inDay : BudgetedLeasing.InDay (policy.deliveryClaim now)

theorem Undisturbed.selectable_eq (undisturbed : Undisturbed policy now db) (stored : row ∈ db.situations) :
    policy.selectable now db row = policy.takeable now db row := by
  unfold selectable takeable deliverable waiting
  cases pending : row.state == .pending with
  | false => rfl
  | true =>
    have waits := beq_iff_eq.mp pending
    have positive := undisturbed.numbered row stored
    have few := undisturbed.few
    have limit : listingLimit < maxDeliveryCandidates := by decide
    have paged : ahead pageBefore (fun other => other.state == .pending) db.situations row <
        db.situations.countP (fun other => other.state == .pending) := ahead_lt stored pending
    have listed : ahead idOrder waiting db.situations row < db.situations.countP waiting :=
      ahead_lt stored (by unfold waiting; rw [pending,decide_eq_true positive]; rfl)
    have fewer : db.situations.countP waiting ≤ db.situations.countP (fun row => row.state == .pending) :=
      List.countP_mono_left (fun other _ waits => (Bool.and_eq_true_iff.mp waits).1)
    have direct : db.currentSource row = true := by
      unfold currentSource
      rw [bne_iff_ne.mpr (undisturbed.sourceless row stored waits),Bool.true_or]
    change (_ && decide (ahead idOrder waiting db.situations row < listingLimit) && _ && _) = _
    rw [decide_eq_true positive,decide_eq_true (by omega),decide_eq_true (by omega),undisturbed.inStep row stored waits,
      direct]
    change _ = (_ && (_ && !row.hasLapsed now && _ && _) && _)
    rw [undisturbed.unlapsed row stored waits]
    simp [deliveryClaim]

/-- The two orders differ only on critical rows and on reply deadlines. -/
theorem pageBefore_iff {first second : Situation} (lower : first.priority ≠ .critical)
    (lower' : second.priority ≠ .critical) (direct : first.situationType ≠ .replyDeadline)
    (direct' : second.situationType ≠ .replyDeadline) :
    pageBefore first second ↔ deliveryOrder first second := by
  unfold pageBefore deliveryOrder criticalCase replyCase
  rw [if_neg lower,if_neg lower',if_neg direct,if_neg direct']
  have high (row : Situation) (below : row.priority ≠ .critical) : priorityRank row.priority = highCase row + 1 := by
    unfold highCase
    cases rank : row.priority with
    | critical => exact absurd rank below
    | high => rfl
    | routine => rfl
  rw [high first lower,high second lower']
  omega

theorem Undisturbed.room_eq (undisturbed : Undisturbed policy now db) (stored : row ∈ db.situations)
    (lower : row.priority ≠ .critical) (takes : policy.takeable now db row = true) :
    policy.selectionRoom now db row = policy.claimRoom now db row := by
  have direct (other : Situation) (present : other ∈ db.situations) (ready : policy.takeable now db other = true) :
      other.situationType ≠ .replyDeadline := by
    unfold takeable at ready
    simp only [Bool.and_eq_true,beq_iff_eq] at ready
    exact undisturbed.sourceless other present ready.1.1.1
  have places : ahead deliveryOrder (fun other => policy.selectable now db other && other.priority != .critical)
        db.situations row =
      ahead pageBefore (fun other => policy.takeable now db other && other.priority != .critical) db.situations row := by
    refine List.countP_congr (fun other present => ?_)
    dsimp only
    rw [undisturbed.selectable_eq present]
    cases ready : policy.takeable now db other with
    | false => simp
    | true =>
      by_cases critical : other.priority = .critical
      · simp [critical]
      · simp [critical,pageBefore_iff lower critical (direct row stored takes) (direct other present ready)]
  have used : (policy.budgetUsage now db).used = countDeliveredBetween (policy.deliveryClaim now).localDayStart
      (policy.deliveryClaim now).localDayEnd db :=
    (congrArg (_ + ·) undisturbed.unleased).trans (Nat.add_zero _)
  unfold selectionRoom claimRoom
  rw [if_pos undisturbed.inDay,places,used]

/-- Where nothing disturbs them, the selection and the claim agree. -/
theorem Undisturbed.testsAgree (undisturbed : Undisturbed policy now db) : policy.TestsAgree now db := by
  refine ⟨fun row stored _ => undisturbed.selectable_eq stored,fun _ row stored lower => ?_⟩
  rw [undisturbed.selectable_eq stored]
  cases takes : policy.takeable now db row with
  | false => rfl
  | true => rw [undisturbed.room_eq stored lower takes]

end undisturbed

/-- Two choices from a table pick the same ids exactly when they agree on each row. -/
theorem same_ids_iff (schema : db.WellFormed) (first second : Situation → Prop) :
    (∀ id, (∃ row ∈ db.situations, row.id = id ∧ first row) ↔ ∃ row ∈ db.situations, row.id = id ∧ second row) ↔
      ∀ row ∈ db.situations, first row ↔ second row := by
  constructor
  · intro same row stored
    constructor
    · intro chosen
      obtain ⟨other,present,equal,holds⟩ := (same row.id).mp ⟨row,stored,rfl,chosen⟩
      exact schema.same_id present stored equal ▸ holds
    · intro chosen
      obtain ⟨other,present,equal,holds⟩ := (same row.id).mpr ⟨row,stored,rfl,chosen⟩
      exact schema.same_id present stored equal ▸ holds
  · intro agree id
    exact exists_congr (fun row => and_congr_right (fun stored => and_congr_right (fun _ => agree row stored)))

/-- What is reported as deliverable is what a claim would deliver, exactly when the two tests agree on every row. -/
theorem selection_claims_iff (policy : AttentionPolicy) (now : Int) (db : Database) (schema : db.WellFormed) :
    (∀ id, policy.Reports now db id ↔ policy.Delivers now db id) ↔ policy.TestsAgree now db := by
  simp only [reports_iff schema,delivers_iff schema]
  rw [same_ids_iff schema]
  constructor
  · intro agree
    constructor
    · intro row stored critical
      rw [Bool.eq_iff_iff]
      simpa [critical] using agree row stored
    · intro quiet row stored lower
      rw [Bool.eq_iff_iff,Bool.and_eq_true,Bool.and_eq_true]
      simpa [lower,quiet] using agree row stored
  · rintro ⟨criticals,others⟩ row stored
    by_cases critical : row.priority = .critical
    · simp [critical,criticals row stored critical]
    · cases quiet : policy.quietState now with
      | true => simp [critical]
      | false =>
        have agree := others quiet row stored critical
        rw [Bool.eq_iff_iff,Bool.and_eq_true,Bool.and_eq_true] at agree
        simpa [critical] using agree

/-- A situation that runs out before it is read, and one that does not. -/
def lapsingCritical : List Operation :=
  [.upsertDetections [⟨.calendarConflict,"a",.critical,"t","w",.empty,some second⟩,
    ⟨.calendarConflict,"b",.routine,"t","w",.empty,none⟩] 0]

def fourADay : AttentionPolicy := ⟨⟨0,0,4,24 * 3600 * second⟩,.utc⟩

theorem selection_claims_inTime :
    let db := Run.run (@step EvidenceJson.compact) Database.empty lapsingCritical
    ∀ id, fourADay.Reports 0 db id ↔ fourADay.Delivers 0 db id :=
  (selection_claims_iff fourADay 0 _ (@run_wellFormed EvidenceJson.compact _ empty_wellFormed _)).mpr
    (by decide +kernel)

/-- The lapsed situation is still reported, and no claim delivers it. -/
theorem selection_reports_lapsed :
    let db := Run.run (@step EvidenceJson.compact) Database.empty lapsingCritical
    ¬∀ id, fourADay.Reports (2 * second) db id ↔ fourADay.Delivers (2 * second) db id := by
  intro db same
  have reported : fourADay.Reports (2 * second) db 1 := by
    have listed : (fourADay.selectForDelivery (2 * second) db).toOption.any
        (fun selection => decide (1 ∈ selection.map Situation.id)) = true := by decide +kernel
    cases selected : fourADay.selectForDelivery (2 * second) db with
    | error refusal =>
      rw [selected] at listed
      cases listed
    | ok selection =>
      rw [selected] at listed
      exact ⟨selection,selected,of_decide_eq_true listed⟩
  have kept : (((fourADay.claimForDelivery (2 * second)).run db).2.situations.all
      (fun row => row.id != 1 || row.state != .delivered)) = true := by decide +kernel
  obtain ⟨_,row,member,named,delivered⟩ := (same 1).mp reported
  have refused := List.all_eq_true.mp kept row member
  rw [named,delivered] at refused
  cases refused

end AttentionPolicy
end Proactive.Situations
