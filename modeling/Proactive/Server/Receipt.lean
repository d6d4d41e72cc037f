import Proactive.Server.Check
import Proactive.Situations.Reservation

/-! When a host can still use the receipt that a check returned. -/
namespace Proactive.Server
open Proactive.Library Proactive.Store Proactive.Situations Database

/-- None of the returned situations has expired, and confirming the returned
receipt delivers all of them. -/
def Usable (response : ProactiveCheckResponse) (db : Database) (returned : Int) : Prop :=
  ∀ token, response.receiptToken = some token →
    (∀ situation ∈ response.situations,
      situation.expiresAt.any (fun expiresAt => expiresAt ≤ returned) = false) ∧
    ∃ left, (confirmDelivery token returned).run db =
      (.ok ⟨.confirmed,response.situations.length⟩,left)

/-- The row's expiry comes after the start of a span, and not after its end. -/
def expiresWithin (start finish : Int) (row : Situation) : Bool :=
  row.expiresAt.any (fun expiresAt => start < expiresAt && expiresAt ≤ finish)

/-- No lease and no receipt was made with this token: it is drawn at random. -/
structure Unused (claimToken : String) (db : Database) : Prop where
  claims : ∀ claim ∈ db.claims, claim.receiptDigest ≠ receiptDigest claimToken
  receipts : ∀ receipt ∈ db.receipts, receipt.receiptDigest ≠ receiptDigest claimToken

theorem deliveryClaimIds_leased {claim : DeliveryClaim} {claimToken : String} {expiresAt : Int}
    (returned : Int) {rows : List Situation} {db left : Database} (unused : Unused claimToken db)
    (claims : left.claims = ((db.expire claim.deliveredAt).leaseAll claim (receiptDigest claimToken)
      expiresAt rows).claims) (short : rows.length ≤ 100) :
    deliveryClaimIds (receiptDigest claimToken) (left.expire returned) =
      if returned < expiresAt then (rows.map Situation.id).insertionSort (· ≤ ·) else [] := by
  have old : ((db.expire claim.deliveredAt).claims.filter (fun lease => returned < lease.expiresAt)).filter
      (fun lease => lease.receiptDigest == receiptDigest claimToken) = [] := by
    rw [List.filter_eq_nil_iff]
    intro lease member same
    have stored : lease ∈ db.claims := (List.mem_filter.mp (List.mem_filter.mp member).1).1
    exact unused.claims lease stored (by simpa using same)
  unfold deliveryClaimIds
  change ((((left.claims.filter (fun lease => returned < lease.expiresAt)).filter
    (fun lease => lease.receiptDigest == receiptDigest claimToken)).map _).insertionSort _).take 100 = _
  rw [claims,leaseAll,List.filter_append,List.filter_append,old,List.nil_append,List.filter_map,
    List.filter_map,List.map_map]
  split
  · rename_i live
    rw [List.filter_eq_self.mpr,List.filter_eq_self.mpr,List.take_of_length_le]
    · rfl
    · rw [List.length_insertionSort,List.length_map]
      exact short
    · simpa using fun _ _ => live
    · simp
  · rename_i ended
    have none : rows.filter ((fun lease : ClaimRow => decide (returned < lease.expiresAt)) ∘
        fun row : Situation => ⟨receiptDigest claimToken,row.id,claim.deliveredAt,expiresAt⟩) = [] := by
      rw [List.filter_eq_nil_iff]
      intro row _ live
      exact ended (by simpa using live)
    rw [none]
    rfl

/-- A fresh token can be confirmed exactly while its leases live. -/
theorem confirmDelivery_leased {claim : DeliveryClaim} {claimToken : String} {expiresAt : Int}
    (returned : Int) {rows : List Situation} {db left : Database} (schema : left.WellFormed) (unused : Unused claimToken db)
    (claims : left.claims = ((db.expire claim.deliveredAt).leaseAll claim (receiptDigest claimToken)
      expiresAt rows).claims)
    (receipts : left.receipts = db.receipts) (situations : left.situations = db.situations)
    (page : rows.Sublist (pendingForDelivery maxDeliveryCandidates db)) (origin : db.WellFormed)
    (leased : rows ≠ []) :
    (∃ after, (confirmDelivery claimToken returned).run left = (.ok ⟨.confirmed,rows.length⟩,after)) ↔
      returned < expiresAt := by
  have short : rows.length ≤ 100 := page.length_le.trans (List.length_take_le _ _)
  have ids := deliveryClaimIds_leased returned unused claims short
  constructor
  · rintro ⟨after,ran⟩
    rcases (confirmDelivery_success _ _ _ _ _ schema).mp ran with ⟨replayed,_⟩ | ⟨sorted,confirmable,_⟩
    · obtain ⟨receipt,_,status⟩ := Option.map_eq_some_iff.mp replayed
      cases status
    · by_contra ended
      have listed := confirmable.ids
      rw [ids,if_neg ended,List.map_eq_nil_iff] at listed
      exact confirmable.leased listed
  · intro live
    have same : (rows.insertionSort (fun first second => first.id ≤ second.id)).map Situation.id =
        (rows.map Situation.id).insertionSort (· ≤ ·) :=
      List.map_insertionSort _ _ _ _ (fun _ _ _ _ => Iff.rfl)
    have sorted := List.perm_insertionSort (fun first second : Situation => first.id ≤ second.id) rows
    have confirmable : Confirmable claimToken returned
        (rows.insertionSort (fun first second => first.id ≤ second.id)) left := {
      unused := by rw [receipts]; exact unused.receipts
      ids := by rw [same,ids,if_pos live]
      leased := by
        intro empty
        rw [empty] at sorted
        exact leased sorted.nil_eq.symm
      waiting := {
        distinct := (sorted.map Situation.id).nodup_iff.mpr
          ((pendingForDelivery_ids origin _).sublist (page.map Situation.id))
        stored := by
          intro row member
          rw [situations]
          exact (pendingForDelivery_mem (page.subset (sorted.mem_iff.mp member))).1
        pending := by
          intro row member
          exact (pendingForDelivery_mem (page.subset (sorted.mem_iff.mp member))).2}}
    refine ⟨_,(confirmDelivery_success _ _ _ _ _ schema).mpr (Or.inr ⟨_,confirmable,?_,rfl⟩)⟩
    rw [sorted.length_eq]

/-- A row that a reservation leases has not expired at the reading that the reservation is made with. -/
theorem reserves_fresh {policy : AttentionPolicy} {now : Int} {db : Database} {row : Situation}
    (reserves : policy.reserves now db row = true) : row.hasLapsed now = false := by
  unfold AttentionPolicy.reserves AttentionPolicy.reservable deliverable at reserves
  simp only [Bool.and_eq_true,Bool.not_eq_true'] at reserves
  exact reserves.1.1.1.2.1.1.2

theorem reserves_pending {policy : AttentionPolicy} {now : Int} {db : Database} {row : Situation}
    (reserves : policy.reserves now db row = true) : row.state = .pending := by
  unfold AttentionPolicy.reserves AttentionPolicy.reservable at reserves
  simp only [Bool.and_eq_true,beq_iff_eq] at reserves
  exact reserves.1.1.1.1.1

theorem mem_reserved_iff {policy : AttentionPolicy} {now : Int} {db : Database} {row : Situation} (claimToken : String)
    (schema : db.WellFormed) :
    row ∈ reservedRows (policy.deliveryClaim now) claimToken (now + AttentionPolicy.deliveryClaimLease) db ↔
      row ∈ db.situations ∧ policy.reserves now db row = true := by
  have later : now < now + AttentionPolicy.deliveryClaimLease := by
    unfold AttentionPolicy.deliveryClaimLease second
    omega
  exact AttentionPolicy.mem_reservedRows_iff claimToken later schema

theorem hasLapsed_within {start finish : Int} {row : Situation} (fresh : row.hasLapsed start = false) :
    row.hasLapsed finish = expiresWithin start finish row := by
  unfold Situation.hasLapsed expiresWithin at *
  cases ends : row.expiresAt with
  | none => rfl
  | some expiresAt =>
    rw [ends,Option.any_some,decide_eq_false_iff_not,Int.not_le] at fresh
    rw [Option.any_some,Option.any_some,decide_eq_true fresh,Bool.true_and]

section checks
variable [EvidenceJson]

theorem coalesce_wellFormed {service : SituationToolDependencies} {readings : CheckReadings} {db evaluated : Database}
    {raised : List String} (schema : db.WellFormed)
    (coalesced : (coalesce service readings).run db = (.ok raised,evaluated)) : evaluated.WellFormed := by
  have keeps := coalesce_keeps service readings db schema
  rwa [coalesced] at keeps

/-- What the reservation's walk leaves to be asked of the rows that it leases. -/
theorem usable_reserved_iff (service : SituationToolDependencies) (readings : CheckReadings)
    (profile : CollectorProfile) (claimToken : String) (returned : Int) (db evaluated left : Database)
    (raised : List String) (response : ProactiveCheckResponse) (schema : db.WellFormed)
    (coalesced : (coalesce service readings).run db = (.ok raised,evaluated))
    (unused : Unused claimToken evaluated)
    (ok : (proactiveCheck service readings profile claimToken).run db = (.ok response,left)) :
    let claim := service.attention.deliveryClaim readings.now
    let expiresAt := readings.now + AttentionPolicy.deliveryClaimLease
    let rows := reservedRows claim claimToken expiresAt evaluated
    Usable response left returned ↔
      rows = [] ∨ returned < expiresAt ∧ ∀ row ∈ rows, row.hasLapsed returned = false := by
  intro claim expiresAt rows
  have origin : evaluated.WellFormed := coalesce_wellFormed schema coalesced
  rw [proactiveCheck,Statement.run_bind_ok _ _ _ _ _ coalesced] at ok
  obtain ⟨reservation,leased,budget,reserved,rfl,situations,claims,receipts,whole⟩ :=
    respond_success _ _ _ _ _ _ _ _ origin ok
  obtain ⟨_,_,page,_⟩ := reserveForDelivery_success _ _ _ _ _ _ origin reserved
  have later : claim.deliveredAt < expiresAt := by
    change readings.now < readings.now + 120 * second
    unfold second
    omega
  have ran : (service.attention.reserveForDelivery readings.now claimToken).run evaluated = _ :=
    reserveForDelivery_run claim claimToken expiresAt evaluated origin later
  rw [ran] at reserved
  obtain ⟨rfl,rfl⟩ : _ ∧ _ := ⟨Except.ok.inj (Prod.mk.inj reserved).1,(Prod.mk.inj reserved).2⟩
  have confirmed (filled : rows ≠ []) := confirmDelivery_leased returned whole unused claims
    receipts situations page origin filled
  by_cases empty : rows = []
  · have silent : (if rows.isEmpty then none else some claimToken) = none := by simp [empty]
    refine iff_of_true (fun token shown => ?_) (Or.inl empty)
    have none : (if rows.isEmpty then none else some claimToken) = some token := shown
    rw [silent] at none
    contradiction
  · have shown : (if rows.isEmpty then none else some claimToken) = some claimToken := by simp [empty]
    constructor
    · intro usable
      obtain ⟨fresh,after,ran⟩ := usable claimToken shown
      refine Or.inr ⟨(confirmed empty).mp ⟨after,?_⟩,?_⟩
      · rw [ran]
        simp [checkResponse]
      · intro row member
        exact fresh (situationResponse row (some expiresAt)) (List.mem_map_of_mem member)
    · rintro (none | ⟨live,unexpired⟩) token named
      · exact absurd none empty
      · obtain rfl : claimToken = token := Option.some.inj (shown.symm.trans named)
        obtain ⟨after,ran⟩ := (confirmed empty).mpr live
        refine ⟨?_,after,?_⟩
        · intro situation member
          obtain ⟨row,present,rfl⟩ := List.mem_map.mp member
          exact unexpired row present
        · rw [ran]
          simp [checkResponse]

/-- The receipt of a check is usable at the reading at which the answer returns exactly when no stored row
that passes the reservation's test expires between the check's first reading and that one, and, if there is
a row that passes, that reading comes before the lease that was counted from the first one ends. -/
theorem receipt_usable_iff (service : SituationToolDependencies) (readings : CheckReadings)
    (profile : CollectorProfile) (claimToken : String) (returned : Int) (db evaluated left : Database)
    (raised : List String) (response : ProactiveCheckResponse) (schema : db.WellFormed)
    (coalesced : (coalesce service readings).run db = (.ok raised,evaluated))
    (unused : Unused claimToken evaluated)
    (ok : (proactiveCheck service readings profile claimToken).run db = (.ok response,left)) :
    Usable response left returned ↔
      ∀ row ∈ evaluated.situations, service.attention.reserves readings.now evaluated row = true →
        returned < readings.now + AttentionPolicy.deliveryClaimLease ∧
          expiresWithin readings.now returned row = false := by
  have origin : evaluated.WellFormed := coalesce_wellFormed schema coalesced
  refine (usable_reserved_iff service readings profile claimToken returned db evaluated left raised response schema
    coalesced unused ok).trans ?_
  simp only [mem_reserved_iff claimToken origin]
  constructor
  · rintro (none | ⟨live,unexpired⟩) row stored reserves
    · have member := (mem_reserved_iff claimToken origin).mpr ⟨stored,reserves⟩
      rw [none] at member
      cases member
    · exact ⟨live,(hasLapsed_within (reserves_fresh reserves)).symm.trans (unexpired row ⟨stored,reserves⟩)⟩
  · intro lasting
    refine or_iff_not_imp_left.mpr (fun filled => ?_)
    obtain ⟨row,member⟩ := List.exists_mem_of_ne_nil _ filled
    obtain ⟨stored,reserves⟩ := (mem_reserved_iff claimToken origin).mp member
    refine ⟨(lasting row stored reserves).1,fun other tested => ?_⟩
    exact (hasLapsed_within (reserves_fresh tested.2)).trans (lasting other tested.1 tested.2).2

/-- So it is when the answer returns within the lease, and no pending row expires in the meantime. -/
theorem prompt_receipt_usable {service : SituationToolDependencies} {readings : CheckReadings}
    {profile : CollectorProfile} {claimToken : String} {returned : Int} {db evaluated left : Database}
    {raised : List String} {response : ProactiveCheckResponse} (schema : db.WellFormed)
    (coalesced : (coalesce service readings).run db = (.ok raised,evaluated)) (unused : Unused claimToken evaluated)
    (ok : (proactiveCheck service readings profile claimToken).run db = (.ok response,left))
    (prompt : returned < readings.now + AttentionPolicy.deliveryClaimLease)
    (quiet : ∀ row ∈ evaluated.situations, row.state = .pending → expiresWithin readings.now returned row = false) :
    Usable response left returned := by
  have origin : evaluated.WellFormed := coalesce_wellFormed schema coalesced
  refine (usable_reserved_iff service readings profile claimToken returned db evaluated left raised response schema coalesced
    unused ok).mpr (Or.inr ⟨prompt,fun row member => ?_⟩)
  obtain ⟨stored,reserves⟩ := (mem_reserved_iff claimToken origin).mp member
  exact (hasLapsed_within (reserves_fresh reserves)).trans (quiet row stored (reserves_pending reserves))

end checks

/-- One critical situation, and an evaluation that started a second ago. -/
def coalescedStore : Database :=
  {((@upsertDetections EvidenceJson.compact
    [⟨.calendarConflict,"k",.critical,"t","w",.empty,none⟩] 0).run Database.empty).2 with
      evaluationGate := some (59 * second)}

def passTakes (start delay : Int) : CheckReadings :=
  ⟨start,start,⟨start + delay,start + delay,start + delay,start + delay,
    ⟨start + delay,start + delay,start + delay⟩,⟨start + delay,start + delay,start + delay⟩⟩,
    start + delay,start + delay⟩

theorem coalescedStore_usable : ∃ response left,
    (@proactiveCheck EvidenceJson.compact watchedService (passTakes (60 * second) 0) .full "token").run
        coalescedStore = (.ok response,left) ∧
      response.receiptToken = some "token" ∧ Usable response left (61 * second) := by
  have answered : ((@proactiveCheck EvidenceJson.compact watchedService (passTakes (60 * second) 0) .full
      "token").run coalescedStore).1.toOption.any (fun response => response.receiptToken == some "token") = true := by
    decide +kernel
  have schema : coalescedStore.WellFormed :=
    {@step_wellFormed EvidenceJson.compact _ (.upsertDetections
      [⟨.calendarConflict,"k",.critical,"t","w",.empty,none⟩] 0) empty_wellFormed with}
  obtain ⟨response,left,ran,named⟩ := Statement.run_ok_of_any answered
  refine ⟨response,left,ran,beq_iff_eq.mp named,?_⟩
  refine (@receipt_usable_iff EvidenceJson.compact watchedService (passTakes (60 * second) 0) .full
    "token" (61 * second) coalescedStore coalescedStore left [] response schema rfl
    ⟨by decide +kernel,by decide +kernel⟩ ran).mpr ?_
  decide +kernel

theorem slowPass_unusable : ∃ response left,
    (@proactiveCheck EvidenceJson.compact watchedService (passTakes (70 * second) (130 * second)) .full
        "token").run coalescedStore = (.ok response,left) ∧
      ¬Usable response left (200 * second) := by
  have answered : ((@proactiveCheck EvidenceJson.compact watchedService
      (passTakes (70 * second) (130 * second)) .full "token").run coalescedStore).1.toOption.any
        (fun response => response.receiptToken == some "token") = true := by decide +kernel
  have refused : ((confirmDelivery "token" (200 * second)).run
      ((@proactiveCheck EvidenceJson.compact watchedService (passTakes (70 * second) (130 * second)) .full
        "token").run coalescedStore).2).1.toOption = none := by decide +kernel
  obtain ⟨response,left,ran,named⟩ := Statement.run_ok_of_any answered
  rw [ran] at refused
  refine ⟨response,left,ran,fun usable => ?_⟩
  obtain ⟨_,after,confirmed⟩ := usable "token" (beq_iff_eq.mp named)
  rw [confirmed] at refused
  cases refused

end Proactive.Server
