import Proactive.Store.Lifecycle

/-! When the bounded candidate page hides a deliverable row from a reservation. -/
namespace Proactive.Store
open Proactive.Library Database

/-- A pending row that the claim could deliver if it were looked at: unexpired,
of a current source and an unmuted type, under no live lease, cooled down, and
critical or inside the day's remaining budget. -/
def eligible (db : Database) (claim : DeliveryClaim) (row : Situation) : Bool :=
  db.deliverable claim row && db.currentSource row &&
    !(db.expire claim.deliveredAt).leased row.id &&
    (row.priority == .critical || claim.allowNoncritical &&
      (countDeliveredBetween claim.localDayStart claim.localDayEnd db : Int) +
        countReservedBetween claim.localDayStart claim.localDayEnd claim.deliveredAt db <
          claim.dailyBudget)

theorem eligible_of_leasable {db : Database} {claim : DeliveryClaim} {slots : Int} {row : Situation}
    (admitted : claim.admits row = true)
    (leasable : (db.expire claim.deliveredAt).leasable claim slots row = true) :
    eligible db claim row = true := by
  obtain ⟨deliverable,current,free,room,_⟩ := leasable_iff.mp leasable
  rw [countReserved_expire,countDelivered_expire] at room
  have deliverableNow : db.deliverable claim row = true := deliverable
  have currentNow : db.currentSource row = true := current
  unfold eligible
  rw [deliverableNow,currentNow,free]
  by_cases critical : row.priority = .critical
  · simp [critical]
  · have allowed : claim.allowNoncritical = true := by
      simpa [DeliveryClaim.admits,critical] using admitted
    have below := room.resolve_left critical
    rw [allowed]
    simpa [critical] using below

theorem eligible_iff {db : Database} {claim : DeliveryClaim} {row : Situation} :
    eligible db claim row = true ↔
      db.deliverable claim row = true ∧ db.currentSource row = true ∧
      (db.expire claim.deliveredAt).leased row.id = false ∧
      (row.priority = .critical ∨ claim.allowNoncritical = true ∧
        (countDeliveredBetween claim.localDayStart claim.localDayEnd db : Int) +
          countReservedBetween claim.localDayStart claim.localDayEnd claim.deliveredAt db <
            claim.dailyBudget) := by
  simp [eligible,and_assoc]

/-- The reserved slot never blocks the only row: an eligible row of the page is
leasable itself, or the row that the slot is kept for is. -/
theorem leasable_of_eligible {db : Database} {claim : DeliveryClaim} {row : Situation}
    (schema : db.WellFormed) (listed : row ∈ pendingForDelivery maxDeliveryCandidates db)
    (ready : eligible db claim row = true) :
    ∃ candidate ∈ pendingForDelivery maxDeliveryCandidates db, claim.admits candidate = true ∧
      (db.expire claim.deliveredAt).leasable claim
        (reservationSlots claim (db.expire claim.deliveredAt)) candidate = true := by
  obtain ⟨deliverable,current,free,room⟩ := eligible_iff.mp ready
  have admitted : claim.admits row = true := by
    rcases room with critical | ⟨allowed,_⟩
    · simp [DeliveryClaim.admits,critical]
    · simp [DeliveryClaim.admits,allowed]
  have budget : row.priority = .critical ∨
      (countDeliveredBetween claim.localDayStart claim.localDayEnd (db.expire claim.deliveredAt) : Int) +
        countReservedBetween claim.localDayStart claim.localDayEnd claim.deliveredAt
          (db.expire claim.deliveredAt) < claim.dailyBudget := by
    rw [countReserved_expire]
    exact room.imp id And.right
  by_cases capped : row.priority = .critical ∨ row.situationType ≠ .replyDeadline
  · refine ⟨row,listed,admitted,leasable_iff.mpr ⟨deliverable,current,free,budget,?_⟩⟩
    exact capped.imp id Or.inl
  · push Not at capped
    obtain ⟨lower,reply⟩ := capped
    have allowed := (room.resolve_left lower).1
    have below := budget.resolve_left lower
    have replies := countReplies_le claim (db.expire claim.deliveredAt)
    cases kept : consumableNonReply (pendingForDelivery maxDeliveryCandidates
        (db.expire claim.deliveredAt)) claim true (db.expire claim.deliveredAt) with
    | false =>
      have slots : reservationSlots claim (db.expire claim.deliveredAt) = 0 := by
        unfold reservationSlots reservedNonReplySlots
        rw [kept]
        split <;> rfl
      rw [slots]
      refine ⟨row,listed,admitted,leasable_iff.mpr ⟨deliverable,current,free,budget,Or.inr (Or.inr ?_)⟩⟩
      omega
    | true =>
      obtain ⟨other,stored,consumable⟩ := List.any_eq_true.mp kept
      simp only [Bool.and_eq_true,List.contains_iff_mem,bne_iff_ne,Bool.not_eq_true',Bool.true_and]
        at consumable
      obtain ⟨⟨⟨⟨inPage,otherLower⟩,noReply⟩,otherDeliverable⟩,otherFree⟩ := consumable
      obtain ⟨candidate,found,same⟩ := List.mem_map.mp inPage
      obtain rfl := schema.same_id (pendingForDelivery_mem found).1 stored same
      have otherAdmitted : claim.admits candidate = true := by simp [DeliveryClaim.admits,allowed]
      have otherCurrent : (db.expire claim.deliveredAt).currentSource candidate = true := by
        simp [currentSource,noReply]
      exact ⟨candidate,found,otherAdmitted,leasable_iff.mpr
        ⟨otherDeliverable,otherCurrent,otherFree,Or.inr below,Or.inr (Or.inl noReply)⟩⟩

/-- Some eligible row means that the reservation is not empty. -/
def NeverStarved (db : Database) (claim : DeliveryClaim) (claimToken : String) (expiresAt : Int) : Prop :=
  (∃ row ∈ db.situations, eligible db claim row = true) →
    ∃ reservation left, (reserveForDelivery claim claimToken expiresAt).run db = (.ok reservation,left) ∧
      reservation.situations ≠ []

theorem reserved_iff (claim : DeliveryClaim) (claimToken : String) (expiresAt : Int) (db : Database)
    (schema : db.WellFormed) (later : claim.deliveredAt < expiresAt) :
    (∃ reservation left, (reserveForDelivery claim claimToken expiresAt).run db = (.ok reservation,left) ∧
      reservation.situations ≠ []) ↔
    ∃ row ∈ pendingForDelivery maxDeliveryCandidates db, eligible db claim row = true := by
  obtain ⟨reservation,left,ran⟩ : ∃ reservation left,
      (reserveForDelivery claim claimToken expiresAt).run db = (.ok reservation,left) :=
    ⟨_,_,reserveForDelivery_run claim claimToken expiresAt db schema later⟩
  obtain ⟨_,_,_,_,_,empty⟩ := reserveForDelivery_success _ _ _ _ _ _ schema ran
  have nonempty : reservation.situations ≠ [] ↔
      ∃ row ∈ pendingForDelivery maxDeliveryCandidates db, eligible db claim row = true := by
    rw [ne_eq,empty]
    push Not
    constructor
    · rintro ⟨candidate,member,admitted,leasable⟩
      exact ⟨candidate,member,eligible_of_leasable admitted (by simpa using leasable)⟩
    · rintro ⟨row,member,ready⟩
      obtain ⟨candidate,found,admitted,leasable⟩ := leasable_of_eligible schema member ready
      exact ⟨candidate,found,admitted,by simp [leasable]⟩
  rw [← nonempty]
  constructor
  · rintro ⟨other,_,same,filled⟩
    rw [ran] at same
    obtain rfl := Except.ok.inj (Prod.mk.inj same).1
    exact filled
  · intro filled
    exact ⟨reservation,left,ran,filled⟩

theorem starves_of_page {claim : DeliveryClaim} {claimToken : String} {expiresAt : Int} {db : Database}
    (schema : db.WellFormed) (later : claim.deliveredAt < expiresAt)
    (hidden : (db.situations.any (eligible db claim) &&
      !(pendingForDelivery maxDeliveryCandidates db).any (eligible db claim)) = true) :
    ¬NeverStarved db claim claimToken expiresAt := by
  intro never
  rw [Bool.and_eq_true,Bool.not_eq_true'] at hidden
  obtain ⟨ready,page⟩ := hidden
  have stored : ∃ row ∈ db.situations, eligible db claim row = true := List.any_eq_true.mp ready
  have listed := (reserved_iff claim claimToken expiresAt db schema later).mp (never stored)
  rw [← List.any_eq_true,page] at listed
  contradiction

/-- In every reachable database a reservation starves no eligible row exactly
when some eligible row, if there is one, stands on the candidate page. -/
theorem reservation_starves_iff [EvidenceJson] (operations : List Operation) (claim : DeliveryClaim)
    (claimToken : String) (expiresAt : Int) (later : claim.deliveredAt < expiresAt) :
    let db := Run.run step Database.empty operations
    NeverStarved db claim claimToken expiresAt ↔
      ((∃ row ∈ db.situations, eligible db claim row = true) →
        ∃ row ∈ pendingForDelivery maxDeliveryCandidates db, eligible db claim row = true) := by
  intro db
  have schema : db.WellFormed := run_wellFormed empty empty_wellFormed operations
  unfold NeverStarved
  rw [reserved_iff claim claimToken expiresAt db schema later]

theorem oneCritical_not_starved :
    let db := Run.run (@step EvidenceJson.compact) Database.empty
      [.upsertDetections [⟨.calendarConflict,"k",.critical,"t","w",.empty,none⟩] 0]
    NeverStarved db ⟨second,0,0,86400 * second,4,true⟩ "first" (121 * second) ↔
      ((∃ row ∈ db.situations, eligible db ⟨second,0,0,86400 * second,4,true⟩ row = true) →
        ∃ row ∈ pendingForDelivery maxDeliveryCandidates db,
          eligible db ⟨second,0,0,86400 * second,4,true⟩ row = true) :=
  @reservation_starves_iff EvidenceJson.compact _ _ _ _ (by decide)

/-- One more critical row than a page holds, all but the last under one lease. -/
def fullPageLeased : List Operation :=
  [.upsertDetections ((List.range 101).map (fun index =>
      ⟨.calendarConflict,String.singleton (Char.ofNat (33 + index)),.critical,"t","w",.empty,none⟩)) 0,
    .reserveForDelivery ⟨second,0,0,86400 * second,4,true⟩ "first" (121 * second)]

theorem fullPageLeased_starves :
    ¬NeverStarved (Run.run (@step EvidenceJson.compact) Database.empty fullPageLeased)
      ⟨2 * second,0,0,86400 * second,4,true⟩ "second" (122 * second) := by
  -- One evaluation for the table and the page: the run is long.
  apply starves_of_page (@run_wellFormed EvidenceJson.compact _ empty_wellFormed _) (by decide)
  decide +kernel

end Proactive.Store
