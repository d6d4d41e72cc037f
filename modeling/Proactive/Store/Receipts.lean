import Proactive.Store.Lifecycle

/-! Leases and receipts over whole runs: what every reservation returned and
every confirmation answered is kept in a transcript beside the database. -/
namespace Proactive.Store
open Proactive.Library Database

inductive Event
  | reserved (reservation : DeliveryReservation)
  | confirmed (claimToken : String) (confirmation : DeliveryConfirmation)
  | other
deriving DecidableEq, Repr

def event (db : Database) : Operation → Event
  | .reserveForDelivery claim claimToken expiresAt =>
    match (reserveForDelivery claim claimToken expiresAt).run db with
    | (.ok reservation,_) => .reserved reservation
    | (.error _,_) => .other
  | .confirmDelivery claimToken confirmedAt =>
    match (confirmDelivery claimToken confirmedAt).run db with
    | (.ok confirmation,_) => .confirmed claimToken confirmation
    | (.error _,_) => .other
  | _ => .other

def transcript [EvidenceJson] : Database → List Operation → List Event
  | _,[] => []
  | db,operation::rest => event db operation::transcript (step db operation) rest

def Operation.reservedToken : Operation → Option String
  | .reserveForDelivery _ claimToken _ => some claimToken
  | _ => none

def Operation.usedToken : Operation → Option String
  | .reserveForDelivery _ claimToken _ => some claimToken
  | .confirmDelivery claimToken _ => some claimToken
  | _ => none

def leasesOf (reservation : DeliveryReservation) (claimedAt : Int) : List ClaimRow :=
  reservation.situations.map (fun row =>
    ⟨receiptDigest reservation.claimToken,row.id,claimedAt,reservation.expiresAt⟩)

/-- The leases and receipts in the database are exactly what the transcript
accounts for: a token's leases stand all together or not at all. -/
structure Ledger (log : List Event) (db : Database) : Prop where
  schema : db.WellFormed
  issued : ∀ claim ∈ db.claims, ∃ reservation, Event.reserved reservation ∈ log ∧
    receiptDigest reservation.claimToken = claim.receiptDigest
  leases : ∀ reservation, Event.reserved reservation ∈ log →
    db.claims.filter (fun claim => claim.receiptDigest == receiptDigest reservation.claimToken) = [] ∨
    ∃ claimedAt, db.claims.filter (fun claim =>
      claim.receiptDigest == receiptDigest reservation.claimToken) = leasesOf reservation claimedAt
  bounded : ∀ reservation, Event.reserved reservation ∈ log → reservation.situations.length ≤ 100
  settled : ∀ claimToken confirmation, Event.confirmed claimToken confirmation ∈ log →
    ∃ receipt ∈ db.receipts, receipt.receiptDigest = receiptDigest claimToken ∧
      receipt.deliveredCount = confirmation.deliveredCount
  recorded : ∀ receipt ∈ db.receipts, ∃ claimToken confirmation,
    Event.confirmed claimToken confirmation ∈ log ∧ receiptDigest claimToken = receipt.receiptDigest

theorem transcript_append [EvidenceJson] (db : Database) (first second : List Operation) :
    transcript db (first ++ second) =
      transcript db first ++ transcript (Run.run step db first) second := by
  induction first generalizing db with
  | nil => rfl
  | cons operation rest ih =>
    rw [List.cons_append,transcript,transcript,ih]
    rfl

/-- Purging by time keeps all leases of one reservation or none of them. -/
theorem leasesOf_purged (reservation : DeliveryReservation) (claimedAt timestamp : Int) :
    (leasesOf reservation claimedAt).filter (fun claim => decide (timestamp < claim.expiresAt)) = [] ∨
    (leasesOf reservation claimedAt).filter (fun claim => decide (timestamp < claim.expiresAt)) =
      leasesOf reservation claimedAt := by
  by_cases live : timestamp < reservation.expiresAt
  · right
    apply List.filter_eq_self.mpr
    intro claim member
    obtain ⟨row,_,rfl⟩ := List.mem_map.mp member
    exact decide_eq_true live
  · left
    apply List.filter_eq_nil_iff.mpr
    intro claim member
    obtain ⟨row,_,rfl⟩ := List.mem_map.mp member
    simpa using live

theorem filter_expire (timestamp : Int) (digest : Digest) (db : Database) :
    (db.expire timestamp).claims.filter (fun claim => claim.receiptDigest == digest) =
      (db.claims.filter (fun claim => claim.receiptDigest == digest)).filter
        (fun claim => decide (timestamp < claim.expiresAt)) := by
  unfold expire
  rw [List.filter_filter,List.filter_filter]
  apply List.filter_congr
  intro claim _
  rw [Bool.and_comm]

theorem Ledger.purged {log : List Event} {db : Database} (ledger : Ledger log db) (timestamp : Int)
    (reservation : DeliveryReservation) (listed : Event.reserved reservation ∈ log) :
    (db.expire timestamp).claims.filter
        (fun claim => claim.receiptDigest == receiptDigest reservation.claimToken) = [] ∨
    ∃ claimedAt, (db.expire timestamp).claims.filter
        (fun claim => claim.receiptDigest == receiptDigest reservation.claimToken) =
      leasesOf reservation claimedAt := by
  rw [filter_expire]
  rcases ledger.leases reservation listed with none | ⟨claimedAt,all⟩
  · exact Or.inl (by rw [none]; rfl)
  · rw [all]
    rcases leasesOf_purged reservation claimedAt timestamp with gone | kept
    · exact Or.inl gone
    · exact Or.inr ⟨claimedAt,kept⟩

theorem Ledger.empty : Ledger [] Database.empty where
  schema := empty_wellFormed
  issued := by simp [Database.empty]
  leases := by simp
  bounded := by simp
  settled := by simp
  recorded := by simp [Database.empty]

theorem Ledger.quiet {log : List Event} {db after : Database} (ledger : Ledger log db)
    (schema : after.WellFormed) (claims : after.claims = db.claims)
    (receipts : after.receipts = db.receipts) : Ledger (log ++ [.other]) after where
  schema := schema
  issued := by
    intro claim member
    rw [claims] at member
    obtain ⟨reservation,listed,same⟩ := ledger.issued claim member
    exact ⟨reservation,List.mem_append_left _ listed,same⟩
  leases := by
    intro reservation listed
    rw [claims]
    exact ledger.leases reservation (by simpa using listed)
  bounded := fun reservation listed => ledger.bounded reservation (by simpa using listed)
  settled := by
    intro claimToken confirmation listed
    rw [receipts]
    exact ledger.settled claimToken confirmation (by simpa using listed)
  recorded := by
    intro receipt member
    rw [receipts] at member
    obtain ⟨claimToken,confirmation,listed,same⟩ := ledger.recorded receipt member
    exact ⟨claimToken,confirmation,List.mem_append_left _ listed,same⟩

theorem Ledger.reserve {log : List Event} {db : Database} (ledger : Ledger log db)
    (claim : DeliveryClaim) (claimToken : String) (expiresAt : Int) (slots : Int) (rows : List Situation)
    (page : rows.length ≤ 100)
    (ordered : LeasedInOrder claim (receiptDigest claimToken) expiresAt slots rows
      (db.expire claim.deliveredAt))
    (fresh : ∀ reservation, Event.reserved reservation ∈ log →
      receiptDigest reservation.claimToken ≠ receiptDigest claimToken) :
    Ledger (log ++ [.reserved ⟨claimToken,rows,expiresAt⟩])
      ((db.expire claim.deliveredAt).leaseAll claim (receiptDigest claimToken) expiresAt rows) where
  schema := ordered.wellFormed _ _ _ _ (ledger.schema.expire _)
  issued := by
    intro lease member
    rcases List.mem_append.mp member with old | new
    · obtain ⟨reservation,listed,same⟩ := ledger.issued lease (List.mem_filter.mp old).1
      exact ⟨reservation,List.mem_append_left _ listed,same⟩
    · obtain ⟨row,_,rfl⟩ := List.mem_map.mp new
      exact ⟨_,List.mem_append_right _ (List.mem_singleton.mpr rfl),rfl⟩
  leases := by
    intro reservation listed
    unfold leaseAll
    rw [List.filter_append]
    rcases List.mem_append.mp listed with old | new
    · have others : (rows.map (fun row => (⟨receiptDigest claimToken,row.id,claim.deliveredAt,expiresAt⟩ :
          ClaimRow))).filter (fun lease =>
            lease.receiptDigest == receiptDigest reservation.claimToken) = [] := by
        apply List.filter_eq_nil_iff.mpr
        intro lease member
        obtain ⟨row,_,rfl⟩ := List.mem_map.mp member
        simpa using Ne.symm (fresh reservation old)
      rw [others,List.append_nil]
      exact ledger.purged claim.deliveredAt reservation old
    · obtain rfl := Event.reserved.inj (List.mem_singleton.mp new)
      have none : (db.expire claim.deliveredAt).claims.filter (fun lease =>
          lease.receiptDigest == receiptDigest claimToken) = [] := by
        apply List.filter_eq_nil_iff.mpr
        intro lease member same
        obtain ⟨reservation,listed,owner⟩ := ledger.issued lease (List.mem_filter.mp member).1
        exact fresh reservation listed (owner.trans (by simpa using same))
      have all : (rows.map (fun row => (⟨receiptDigest claimToken,row.id,claim.deliveredAt,expiresAt⟩ :
          ClaimRow))).filter (fun lease => lease.receiptDigest == receiptDigest claimToken) =
            rows.map (fun row => ⟨receiptDigest claimToken,row.id,claim.deliveredAt,expiresAt⟩) := by
        apply List.filter_eq_self.mpr
        intro lease member
        obtain ⟨row,_,rfl⟩ := List.mem_map.mp member
        exact beq_self_eq_true _
      exact Or.inr ⟨claim.deliveredAt,by rw [none,all]; rfl⟩
  bounded := by
    intro reservation listed
    rcases List.mem_append.mp listed with old | new
    · exact ledger.bounded reservation old
    · obtain rfl := Event.reserved.inj (List.mem_singleton.mp new)
      exact page
  settled := fun token confirmation listed => ledger.settled token confirmation (by simpa using listed)
  recorded := by
    intro receipt member
    obtain ⟨token,confirmation,listed,same⟩ := ledger.recorded receipt member
    exact ⟨token,confirmation,List.mem_append_left _ listed,same⟩

theorem Ledger.replay {log : List Event} {db : Database} (ledger : Ledger log db)
    (claimToken : String) (confirmation : DeliveryConfirmation)
    (replayed : DeliveryReceipts.replay (receiptDigest claimToken) db = some confirmation) :
    Ledger (log ++ [.confirmed claimToken confirmation]) db where
  schema := ledger.schema
  issued := by
    intro claim member
    obtain ⟨reservation,listed,same⟩ := ledger.issued claim member
    exact ⟨reservation,List.mem_append_left _ listed,same⟩
  leases := fun reservation listed => ledger.leases reservation (by simpa using listed)
  bounded := fun reservation listed => ledger.bounded reservation (by simpa using listed)
  settled := by
    intro token other listed
    rcases List.mem_append.mp listed with old | new
    · exact ledger.settled token other old
    · obtain ⟨rfl,rfl⟩ := Event.confirmed.inj (List.mem_singleton.mp new)
      obtain ⟨receipt,found,rfl⟩ := Option.map_eq_some_iff.mp replayed
      exact ⟨receipt,List.mem_of_find?_eq_some found,by simpa using List.find?_some found,rfl⟩
  recorded := by
    intro receipt member
    obtain ⟨token,other,listed,same⟩ := ledger.recorded receipt member
    exact ⟨token,other,List.mem_append_left _ listed,same⟩

theorem Ledger.confirm {log : List Event} {db : Database} (ledger : Ledger log db)
    (claimToken : String) (confirmedAt : Int) (rows : List Situation)
    (confirmable : Confirmable claimToken confirmedAt rows db) :
    Ledger (log ++ [.confirmed claimToken ⟨.confirmed,rows.length⟩])
      (db.confirmed claimToken confirmedAt rows) where
  schema := confirmable.wellFormed ledger.schema
  issued := by
    intro claim member
    have stored : claim ∈ db.claims := (List.mem_filter.mp (List.mem_filter.mp member).1).1
    obtain ⟨reservation,listed,same⟩ := ledger.issued claim stored
    exact ⟨reservation,List.mem_append_left _ listed,same⟩
  leases := by
    intro reservation listed
    have old : Event.reserved reservation ∈ log := by simpa using listed
    have consumed : (db.confirmed claimToken confirmedAt rows).claims =
        (db.expire confirmedAt).claims.filter
          (fun claim => claim.receiptDigest != receiptDigest claimToken) := rfl
    rw [consumed,List.filter_filter]
    by_cases same : receiptDigest reservation.claimToken = receiptDigest claimToken
    · left
      apply List.filter_eq_nil_iff.mpr
      intro claim _
      simp [same]
    · have untouched : (db.expire confirmedAt).claims.filter (fun claim =>
          claim.receiptDigest == receiptDigest reservation.claimToken &&
            claim.receiptDigest != receiptDigest claimToken) =
          (db.expire confirmedAt).claims.filter (fun claim =>
            claim.receiptDigest == receiptDigest reservation.claimToken) := by
        apply List.filter_congr
        intro claim _
        by_cases owned : claim.receiptDigest = receiptDigest reservation.claimToken
        · simp [owned,same]
        · simp [owned]
      rw [untouched]
      exact ledger.purged confirmedAt reservation old
  bounded := fun reservation listed => ledger.bounded reservation (by simpa using listed)
  settled := by
    intro token confirmation listed
    rcases List.mem_append.mp listed with old | new
    · obtain ⟨receipt,member,same,count⟩ := ledger.settled token confirmation old
      exact ⟨receipt,List.mem_append_left _ member,same,count⟩
    · obtain ⟨rfl,rfl⟩ := Event.confirmed.inj (List.mem_singleton.mp new)
      exact ⟨_,List.mem_append_right _ (List.mem_singleton.mpr rfl),rfl,rfl⟩
  recorded := by
    intro receipt member
    rcases List.mem_append.mp member with old | new
    · obtain ⟨token,confirmation,listed,same⟩ := ledger.recorded receipt old
      exact ⟨token,confirmation,List.mem_append_left _ listed,same⟩
    · rw [List.mem_singleton.mp new]
      exact ⟨claimToken,_,List.mem_append_right _ (List.mem_singleton.mpr rfl),rfl⟩

theorem Effect.receipts_kept {operation : Operation} {db after : Database}
    (effect : Effect operation db after) (other : operation.usedToken = none) :
    after.claims = db.claims ∧ after.receipts = db.receipts := by
  cases effect with
  | applied _ _ _ _ _ applied => rw [applied.tables]; exact ⟨rfl,rfl⟩
  | reserved => simp [Operation.usedToken] at other
  | confirmed => simp [Operation.usedToken] at other
  | mutedType =>
    unfold muteType
    split <;> exact ⟨rfl,rfl⟩
  | _ => exact ⟨rfl,rfl⟩

theorem event_other {db : Database} {operation : Operation} (other : operation.usedToken = none) :
    event db operation = .other := by
  cases operation <;> first | rfl | simp [Operation.usedToken] at other

/-- Reservations use pairwise distinct tokens, and no two tokens in use share a digest. -/
structure DistinctTokens (operations : List Operation) : Prop where
  reserved : (operations.filterMap Operation.reservedToken).Nodup
  injective : ∀ first ∈ operations.filterMap Operation.usedToken,
    ∀ second ∈ operations.filterMap Operation.usedToken,
      receiptDigest first = receiptDigest second → first = second

theorem reserved_used {operations : List Operation} {claimToken : String}
    (listed : claimToken ∈ operations.filterMap Operation.reservedToken) :
    claimToken ∈ operations.filterMap Operation.usedToken := by
  obtain ⟨operation,member,token⟩ := List.mem_filterMap.mp listed
  refine List.mem_filterMap.mpr ⟨operation,member,?_⟩
  cases operation <;> first | exact token | cases token

theorem DistinctTokens.earlier {first second : List Operation}
    (tokens : DistinctTokens (first ++ second)) : DistinctTokens first where
  reserved := by
    have all := tokens.reserved
    rw [List.filterMap_append] at all
    exact all.of_append_left
  injective := by
    intro one inside other within
    apply tokens.injective <;> rw [List.filterMap_append]
    · exact List.mem_append_left _ inside
    · exact List.mem_append_left _ within

theorem Ledger.reservation {log : List Event} {db : Database} (ledger : Ledger log db)
    {claimToken : String} {confirmedAt : Int} {rows : List Situation}
    (confirmable : Confirmable claimToken confirmedAt rows db) :
    ∃ reservation, Event.reserved reservation ∈ log ∧
      receiptDigest reservation.claimToken = receiptDigest claimToken ∧
      (rows.map Situation.id).Perm (reservation.situations.map Situation.id) := by
  let owned := (db.expire confirmedAt).claims.filter
    (fun claim => claim.receiptDigest == receiptDigest claimToken)
  have ids : rows.map Situation.id = ((owned.map ClaimRow.situationId).insertionSort (· ≤ ·)).take 100 :=
    confirmable.ids
  have occupied : owned ≠ [] := by
    intro empty
    rw [empty] at ids
    exact confirmable.leased (by simpa using ids)
  obtain ⟨claim,member⟩ := List.exists_mem_of_ne_nil owned occupied
  have named : claim.receiptDigest = receiptDigest claimToken := by
    simpa using (List.mem_filter.mp member).2
  have stored : claim ∈ db.claims := (List.mem_filter.mp (List.mem_filter.mp member).1).1
  obtain ⟨reservation,listed,same⟩ := ledger.issued claim stored
  have sameToken := same.trans named
  have purged := ledger.purged confirmedAt reservation listed
  rw [sameToken] at purged
  rcases purged with none | ⟨claimedAt,all⟩
  · exact absurd none occupied
  · refine ⟨reservation,listed,sameToken,?_⟩
    have leased : owned.map ClaimRow.situationId = reservation.situations.map Situation.id := by
      change List.map ClaimRow.situationId (List.filter _ _) = _
      rw [all,leasesOf,List.map_map]
      rfl
    have short : ((owned.map ClaimRow.situationId).insertionSort (· ≤ ·)).length ≤ 100 := by
      rw [List.length_insertionSort,leased,List.length_map]
      exact ledger.bounded reservation listed
    rw [ids,List.take_of_length_le short,← leased]
    exact List.perm_insertionSort _ _

section runs
variable [EvidenceJson]

theorem Ledger.step {log : List Event} {db : Database} (ledger : Ledger log db) (operation : Operation)
    (fresh : ∀ claimToken, operation.reservedToken = some claimToken →
      ∀ reservation, Event.reserved reservation ∈ log →
        receiptDigest reservation.claimToken ≠ receiptDigest claimToken) :
    Ledger (log ++ [event db operation]) (step db operation) := by
  have kept := step_wellFormed db operation ledger.schema
  cases used : operation.usedToken with
  | none =>
    obtain ⟨claims,receipts⟩ := (step_effect db operation ledger.schema).receipts_kept used
    rw [event_other used]
    exact ledger.quiet kept claims receipts
  | some token =>
    cases operation with
    | reserveForDelivery claim claimToken expiresAt =>
      cases outcome : (reserveForDelivery claim claimToken expiresAt).run db with
      | mk result left =>
        have after : Store.step db (.reserveForDelivery claim claimToken expiresAt) = left :=
          congrArg Prod.snd outcome
        rw [after] at kept ⊢
        cases result with
        | error error =>
          have silent : event db (.reserveForDelivery claim claimToken expiresAt) = .other := by
            simp [event,outcome]
          have same := Statement.immediate_rollback _ _ _ _ outcome
          rw [silent]
          exact ledger.quiet kept (by rw [same]) (by rw [same])
        | ok reservation =>
          have told : event db (.reserveForDelivery claim claimToken expiresAt) = .reserved reservation := by
            simp [event,outcome]
          obtain ⟨sameToken,sameExpiry,page,ordered,rfl,_⟩ :=
            reserveForDelivery_success _ _ _ _ _ _ ledger.schema outcome
          have bound : reservation.situations.length ≤ 100 :=
            page.length_le.trans (List.length_take_le _ _)
          rw [told]
          obtain ⟨_,rows,_⟩ := reservation
          obtain rfl := sameToken
          obtain rfl := sameExpiry
          exact ledger.reserve claim _ _ _ rows bound ordered (fresh _ rfl)
    | confirmDelivery claimToken confirmedAt =>
      cases outcome : (confirmDelivery claimToken confirmedAt).run db with
      | mk result left =>
        have after : Store.step db (.confirmDelivery claimToken confirmedAt) = left :=
          congrArg Prod.snd outcome
        rw [after] at kept ⊢
        cases result with
        | error error =>
          have silent : event db (.confirmDelivery claimToken confirmedAt) = .other := by
            simp [event,outcome]
          have same := Statement.immediate_rollback _ _ _ _ outcome
          rw [silent]
          exact ledger.quiet kept (by rw [same]) (by rw [same])
        | ok confirmation =>
          have told : event db (.confirmDelivery claimToken confirmedAt) =
              .confirmed claimToken confirmation := by
            simp [event,outcome]
          rw [told]
          rcases (confirmDelivery_success _ _ _ _ _ ledger.schema).mp outcome with
            ⟨replayed,rfl⟩ | ⟨rows,confirmable,rfl,rfl⟩
          · exact ledger.replay claimToken confirmation replayed
          · exact ledger.confirm claimToken confirmedAt rows confirmable
    | _ => cases used

/-- An event on the transcript was told by one of the calls, over a sound database. -/
theorem mem_transcript {db : Database} {operations : List Operation} {told : Event} (schema : db.WellFormed)
    (listed : told ∈ transcript db operations) :
    ∃ before : Database, before.WellFormed ∧ ∃ operation ∈ operations, event before operation = told := by
  induction operations generalizing db with
  | nil => simp [transcript] at listed
  | cons operation rest ih =>
    rw [transcript] at listed
    rcases List.mem_cons.mp listed with rfl | later
    · exact ⟨db,schema,operation,List.mem_cons_self,rfl⟩
    · obtain ⟨before,sound,other,member,same⟩ := ih (step_wellFormed db operation schema) later
      exact ⟨before,sound,other,List.mem_cons_of_mem operation member,same⟩

theorem reserved_token {db : Database} {operations : List Operation} {reservation : DeliveryReservation}
    (schema : db.WellFormed) (listed : Event.reserved reservation ∈ transcript db operations) :
    reservation.claimToken ∈ operations.filterMap Operation.reservedToken := by
  obtain ⟨before,sound,operation,member,told⟩ := mem_transcript schema listed
  refine List.mem_filterMap.mpr ⟨operation,member,?_⟩
  cases operation with
  | reserveForDelivery claim claimToken expiresAt =>
    rw [event] at told
    split at told
    · rename_i other left outcome
      obtain rfl := Event.reserved.inj told
      rw [(reserveForDelivery_success _ _ _ _ _ _ sound outcome).1]
      rfl
    · cases told
  | confirmDelivery claimToken confirmedAt =>
    rw [event] at told
    split at told <;> cases told
  | _ => cases told

theorem confirmed_token {db : Database} {operations : List Operation} {claimToken : String}
    {confirmation : DeliveryConfirmation} (schema : db.WellFormed)
    (listed : Event.confirmed claimToken confirmation ∈ transcript db operations) :
    claimToken ∈ operations.filterMap Operation.usedToken := by
  obtain ⟨before,_,operation,member,told⟩ := mem_transcript schema listed
  refine List.mem_filterMap.mpr ⟨operation,member,?_⟩
  cases operation with
  | reserveForDelivery claim token expiresAt =>
    rw [event] at told
    split at told <;> cases told
  | confirmDelivery token confirmedAt =>
    rw [event] at told
    split at told
    · obtain ⟨rfl,_⟩ := Event.confirmed.inj told
      rfl
    · cases told
  | _ => cases told

theorem run_ledger (operations : List Operation) (tokens : DistinctTokens operations) :
    Ledger (transcript Database.empty operations) (Run.run Store.step Database.empty operations) := by
  induction operations using List.reverseRecOn with
  | nil => exact .empty
  | append_singleton front operation ih =>
    have ledger := ih tokens.earlier
    rw [transcript_append,Run.run_append]
    refine ledger.step operation (fun claimToken token reservation listed same => ?_)
    have before := reserved_token empty_wellFormed listed
    have all := tokens.reserved
    rw [List.filterMap_append] at all
    have now : claimToken ∈ [operation].filterMap Operation.reservedToken := by simp [token]
    have equal : reservation.claimToken = claimToken := by
      apply tokens.injective _ _ _ _ same
      · rw [List.filterMap_append]
        exact List.mem_append_left _ (reserved_used before)
      · rw [List.filterMap_append]
        exact List.mem_append_right _ (reserved_used now)
    exact (List.nodup_append.mp all).2.2 _ before _ now equal

/-- The receipt contract of one confirmation made after a run: leases are
exclusive, a first success accounts for the whole reservation and for nothing
else, every later one repeats its answer, and a failure changes nothing. -/
structure ExactlyOnce (operations : List Operation) (claimToken : String) (confirmedAt : Int) : Prop where
  exclusive : ∀ first ∈ (Run.run step Database.empty operations).claims,
    ∀ second ∈ (Run.run step Database.empty operations).claims,
      first.situationId = second.situationId → first = second
  first : ∀ confirmation left,
    (confirmDelivery claimToken confirmedAt).run (Run.run step Database.empty operations) =
      (.ok confirmation,left) →
    (∀ earlier, Event.confirmed claimToken earlier ∉ transcript Database.empty operations) →
    ∃ reservation, Event.reserved reservation ∈ transcript Database.empty operations ∧
      reservation.claimToken = claimToken ∧
      confirmation = ⟨.confirmed,reservation.situations.length⟩ ∧
      ∃ rows, (rows.map Situation.id).Perm (reservation.situations.map Situation.id) ∧
        PendingRows rows (Run.run step Database.empty operations) ∧
        left = {Run.run step Database.empty operations with
          situations := Table.updateWhere (fun stored => rows.any (fun row => row.id == stored.id))
            (.delivered confirmedAt) (Run.run step Database.empty operations).situations
          deliveries := (Run.run step Database.empty operations).deliveries ++
            rows.map (Situation.delivery confirmedAt)
          claims := ((Run.run step Database.empty operations).claims.filter
            (fun claim => confirmedAt < claim.expiresAt)).filter
              (fun claim => claim.receiptDigest != receiptDigest claimToken)
          receipts := (Run.run step Database.empty operations).receipts ++
            [⟨receiptDigest claimToken,rows.length,confirmedAt⟩]}
  later : ∀ earlier, Event.confirmed claimToken earlier ∈ transcript Database.empty operations →
    (confirmDelivery claimToken confirmedAt).run (Run.run step Database.empty operations) =
      (.ok ⟨.alreadyConfirmed,earlier.deliveredCount⟩,Run.run step Database.empty operations)
  failed : ∀ error left,
    (confirmDelivery claimToken confirmedAt).run (Run.run step Database.empty operations) =
      (.error error,left) → left = Run.run step Database.empty operations

/-- Leases are exclusive and receipts are honoured exactly once, for any run and
any confirmation after it. -/
theorem receipts_exactly_once (operations : List Operation) (claimToken : String) (confirmedAt : Int)
    (tokens : DistinctTokens (operations ++ [.confirmDelivery claimToken confirmedAt])) :
    ExactlyOnce operations claimToken confirmedAt := by
  have ledger := run_ledger operations tokens.earlier
  have equal (token : String) (used : token ∈ operations.filterMap Operation.usedToken)
      (same : receiptDigest token = receiptDigest claimToken) : token = claimToken := by
    apply tokens.injective _ _ _ _ same <;> rw [List.filterMap_append]
    · exact List.mem_append_left _ used
    · exact List.mem_append_right _ (by simp [Operation.usedToken])
  constructor
  · intro first one second two same
    exact List.inj_on_of_nodup_map ledger.schema.claimedOnce one two same
  · intro confirmation left ok unconfirmed
    rcases (confirmDelivery_success _ _ _ _ _ ledger.schema).mp ok with
      ⟨replayed,_⟩ | ⟨rows,confirmable,rfl,rfl⟩
    · obtain ⟨receipt,found,_⟩ := Option.map_eq_some_iff.mp replayed
      obtain ⟨token,earlier,listed,same⟩ := ledger.recorded receipt (List.mem_of_find?_eq_some found)
      have digest : receipt.receiptDigest = receiptDigest claimToken := by
        simpa using List.find?_some found
      obtain rfl := equal token (confirmed_token empty_wellFormed listed) (same.trans digest)
      exact absurd listed (unconfirmed earlier)
    · obtain ⟨reservation,listed,same,permuted⟩ := ledger.reservation confirmable
      have token := equal reservation.claimToken
        (reserved_used (reserved_token empty_wellFormed listed)) same
      have count : rows.length = reservation.situations.length := by
        simpa using permuted.length_eq
      exact ⟨reservation,listed,token,by rw [count],rows,permuted,confirmable.waiting,rfl⟩
  · intro earlier listed
    obtain ⟨receipt,member,same,count⟩ := ledger.settled claimToken earlier listed
    have replayed : DeliveryReceipts.replay (receiptDigest claimToken)
        (Run.run step Database.empty operations) = some ⟨.alreadyConfirmed,earlier.deliveredCount⟩ := by
      unfold DeliveryReceipts.replay
      rw [Table.find?_key ledger.schema.receiptDigests member same,Option.map_some,count]
    exact (confirmDelivery_success _ _ _ _ _ ledger.schema).mpr (Or.inl ⟨replayed,rfl⟩)
  · intro error left raised
    exact Statement.immediate_rollback _ _ _ _ raised

end runs

def twoHosts : List Operation :=
  let detection (key : String) : Detection := ⟨.calendarConflict,key,.routine,"t","w",.empty,none⟩
  let claim (now : Int) : DeliveryClaim := ⟨now,now - 3600 * second,0,86400 * second,4,true⟩
  [.upsertDetections [detection "a",detection "b"] 0,
    .reserveForDelivery (claim second) "first" (121 * second),
    .upsertDetections [detection "c"] (2 * second),
    .reserveForDelivery (claim (3 * second)) "second" (123 * second),
    .confirmDelivery "first" (4 * second)]

theorem twoHosts_exactly_once : @ExactlyOnce EvidenceJson.compact twoHosts "second" (5 * second) :=
  @receipts_exactly_once EvidenceJson.compact twoHosts "second" (5 * second)
    ⟨by decide,by decide +kernel⟩

end Proactive.Store
