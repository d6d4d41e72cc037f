import Proactive.Library.Sha256
import Proactive.Store.Reader

/-! Delivery claims, leases, receipts and immutable delivery history. -/
namespace Proactive.Store
open Proactive.Library Database

def maxDeliveryCandidates : Nat := 100

def receiptDigest (receiptToken : String) : Digest := Sha256.sha256 receiptToken.toUTF8.toList

namespace Database

/-- `CURRENT_SOURCE_ELIGIBILITY`. -/
def currentSource (db : Database) (row : Situation) : Bool :=
  row.situationType != .replyDeadline ||
    match db.generations.gmail with
    | none => true
    | some generation => generation.issued == generation.applied && generation.status == some .complete

def leased (db : Database) (id : Nat) : Bool := db.claims.any (fun claim => claim.situationId == id)

/-- `snooze_cooldown_exempt = 1 OR NOT EXISTS (a delivery after the cooldown)`. -/
def cooledDown (db : Database) (cooldownAfter : Int) (row : Situation) : Bool :=
  row.snoozeCooldownExempt || !db.deliveries.any (fun delivery =>
    delivery.situationId == row.id && cooldownAfter < delivery.deliveredAt)

/-- The guards that a claim, a lease and the reserved slot share. -/
def deliverable (db : Database) (claim : DeliveryClaim) (row : Situation) : Bool :=
  row.state == .pending && !row.hasLapsed claim.deliveredAt && !db.typeMuted row.situationType &&
    db.cooledDown claim.cooldownAfter row

def countDeliveredReplies (claim : DeliveryClaim) (db : Database) : Nat :=
  db.deliveries.countP (fun delivery =>
    claim.localDayStart ≤ delivery.deliveredAt && delivery.deliveredAt < claim.localDayEnd &&
      delivery.priority != .critical &&
      (db.situation? delivery.situationId).any (fun row => row.situationType == .replyDeadline))

def countReservedReplies (claim : DeliveryClaim) (db : Database) : Nat :=
  db.claims.countP (fun lease =>
    claim.localDayStart ≤ lease.claimedAt && lease.claimedAt < claim.localDayEnd &&
      claim.deliveredAt < lease.expiresAt &&
      (db.situation? lease.situationId).any (fun row =>
        row.priority != .critical && row.situationType == .replyDeadline))

def consumableNonReply (candidates : List Situation) (claim : DeliveryClaim) (excludeLeased : Bool)
    (db : Database) : Bool :=
  db.situations.any (fun row => (candidates.map Situation.id).contains row.id &&
    row.priority != .critical && row.situationType != .replyDeadline && db.deliverable claim row &&
    !(excludeLeased && db.leased row.id))

def reservedNonReplySlots (candidates : List Situation) (claim : DeliveryClaim)
    (excludeLeased : Bool) (db : Database) : Int :=
  if !claim.allowNoncritical || candidates.isEmpty then 0
  else if consumableNonReply candidates claim excludeLeased db then 1 else 0

/-- The `WHERE` clause of the claiming update. -/
def claimable (db : Database) (claim : DeliveryClaim) (slots : Int) (row : Situation) : Bool :=
  db.deliverable claim row && db.currentSource row &&
    (row.priority == .critical ||
      countDeliveredBetween claim.localDayStart claim.localDayEnd db < claim.dailyBudget) &&
    (row.priority == .critical || row.situationType != .replyDeadline ||
      countDeliveredReplies claim db < max 0 (claim.dailyBudget - slots))

/-- The `WHERE` clause of the leasing insert. -/
def leasable (db : Database) (claim : DeliveryClaim) (slots : Int) (row : Situation) : Bool :=
  db.deliverable claim row && db.currentSource row && !db.leased row.id &&
    (row.priority == .critical ||
      (countDeliveredBetween claim.localDayStart claim.localDayEnd db : Int) +
        countReservedBetween claim.localDayStart claim.localDayEnd claim.deliveredAt db <
          claim.dailyBudget) &&
    (row.priority == .critical || row.situationType != .replyDeadline ||
      (countDeliveredReplies claim db : Int) + countReservedReplies claim db <
        max 0 (claim.dailyBudget - slots))

/-- `DELETE FROM situation_delivery_claims WHERE expires_at <= ?`. -/
def expire (timestamp : Int) (db : Database) : Database :=
  {db with claims := db.claims.filter (fun claim => timestamp < claim.expiresAt)}

/-- `DELETE FROM situation_delivery_claims WHERE receipt_digest = ?`. -/
def consume (digest : Digest) (db : Database) : Database :=
  {db with claims := db.claims.filter (fun claim => claim.receiptDigest != digest)}

def leaseAll (claim : DeliveryClaim) (digest : Digest) (expiresAt : Int) (rows : List Situation)
    (db : Database) : Database :=
  {db with
    claims := db.claims ++ rows.map (fun row => ⟨digest,row.id,claim.deliveredAt,expiresAt⟩)}

def record (digest : Digest) (deliveredCount : Nat) (confirmedAt : Int) (db : Database) : Database :=
  {db with receipts := db.receipts ++ [⟨digest,deliveredCount,confirmedAt⟩]}

end Database

/-- Whether the claim's attention window admits a candidate at all. -/
def DeliveryClaim.admits (claim : DeliveryClaim) (candidate : Situation) : Bool :=
  claim.allowNoncritical || candidate.priority == .critical

def requireSituation (id : Nat) : Sql Situation := do
  let found ← Statement.select (fun db => db.situation? id)
  match found with
  | some row => return row
  | none => Statement.raise (.situationNotFound id)

def recordDelivery (situation : Situation) (timestamp : Int) : Sql Unit :=
  Statement.update (fun db => {db with
    deliveries := db.deliveries ++ [⟨situation.id,timestamp,situation.priority⟩]})

/-- The delivering update of one id, with the clause that each caller adds to
`id = ? AND state = 'pending'`. -/
def deliverUpdate (id : Nat) (timestamp : Int) (guard : Database → Situation → Bool) : Sql Nat := do
  let db ← Statement.select (fun db => db)
  updateSituations (fun row => row.id == id && (row.state == .pending && guard db row))
    (.delivered timestamp)

/-- The loop of `claim_for_delivery` over the remaining candidates. -/
def claimEach (claim : DeliveryClaim) (slots : Int) : List Situation → Sql (List Situation)
  | [] => return []
  | candidate::rest => do
    if !claim.admits candidate then
      claimEach claim slots rest
    else
      let updated ← deliverUpdate candidate.id claim.deliveredAt (fun db row => db.claimable claim slots row)
      if updated = 0 then
        claimEach claim slots rest
      else
        let situation ← requireSituation candidate.id
        recordDelivery situation claim.deliveredAt
        let claimed ← claimEach claim slots rest
        return situation::claimed

def claimForDelivery (claim : DeliveryClaim) : Sql (List Situation) :=
  Statement.immediate (do
    let candidates ← Statement.select (pendingForDelivery maxDeliveryCandidates)
    let slots ← Statement.select (reservedNonReplySlots candidates claim false)
    claimEach claim slots candidates)

namespace DeliveryReceipts

def expire (timestamp : Int) : Sql Unit := Statement.update (Database.expire timestamp)

def consume (digest : Digest) : Sql Unit := Statement.update (Database.consume digest)

def replay (digest : Digest) (db : Database) : Option DeliveryConfirmation :=
  (db.receipts.find? (fun receipt => receipt.receiptDigest == digest)).map
    (fun receipt => ⟨.alreadyConfirmed,receipt.deliveredCount⟩)

def record (digest : Digest) (deliveredCount : Nat) (confirmedAt : Int) : Sql DeliveryConfirmation := do
  let recorded ← Statement.select (fun db => db.receipts.any (fun receipt => receipt.receiptDigest == digest))
  if recorded then
    Statement.raise (.integrity "confirmed delivery receipts are immutable")
  else if 100 < deliveredCount then
    Statement.raise (.integrity "delivered_count BETWEEN 0 AND 100")
  else
    Statement.update (Database.record digest deliveredCount confirmedAt)
    return ⟨.confirmed,deliveredCount⟩

end DeliveryReceipts

/-- `INSERT INTO situation_delivery_claims ... SELECT`, and whether it inserted. -/
def insertClaim (claim : DeliveryClaim) (digest : Digest) (expiresAt : Int) (slots : Int)
    (candidate : Situation) : Sql Bool := do
  let selected ← Statement.select (fun db => db.situations.any (fun row =>
    row.id == candidate.id && db.leasable claim slots row))
  if selected then
    if claim.deliveredAt < expiresAt then
      Statement.update (leaseAll claim digest expiresAt [candidate])
      return true
    else
      Statement.raise (.integrity "expires_at > claimed_at")
  else
    return false

/-- The loop of `reserve_for_delivery` over the remaining candidates. -/
def reserveEach (claim : DeliveryClaim) (digest : Digest) (expiresAt : Int) (slots : Int) :
    List Situation → Sql (List Situation)
  | [] => return []
  | candidate::rest => do
    if !claim.admits candidate then
      reserveEach claim digest expiresAt slots rest
    else
      let inserted ← insertClaim claim digest expiresAt slots candidate
      let reserved ← reserveEach claim digest expiresAt slots rest
      return if inserted then candidate::reserved else reserved

def reserveForDelivery (claim : DeliveryClaim) (claimToken : String) (expiresAt : Int) :
    Sql DeliveryReservation :=
  Statement.immediate (do
    DeliveryReceipts.expire claim.deliveredAt
    let candidates ← Statement.select (pendingForDelivery maxDeliveryCandidates)
    let slots ← Statement.select (reservedNonReplySlots candidates claim true)
    let reserved ← reserveEach claim (receiptDigest claimToken) expiresAt slots candidates
    return ⟨claimToken,reserved,expiresAt⟩)

/-- The loop of `confirm_delivery` over the remaining leased ids. -/
def confirmEach (confirmedAt : Int) : List Nat → Sql Unit
  | [] => return ()
  | id::rest => do
    let updated ← deliverUpdate id confirmedAt (fun _ _ => true)
    if updated = 0 then
      Statement.raise .deliveryReceipt
    else
      let situation ← requireSituation id
      recordDelivery situation confirmedAt
      confirmEach confirmedAt rest

def confirmDelivery (claimToken : String) (confirmedAt : Int) : Sql DeliveryConfirmation :=
  Statement.immediate (do
    let digest := receiptDigest claimToken
    let replay ← Statement.select (DeliveryReceipts.replay digest)
    match replay with
    | some confirmation => return confirmation
    | none =>
      DeliveryReceipts.expire confirmedAt
      let ids ← Statement.select (deliveryClaimIds digest)
      if ids.isEmpty then
        Statement.raise .deliveryReceipt
      else
        confirmEach confirmedAt ids
        DeliveryReceipts.consume digest
        DeliveryReceipts.record digest ids.length confirmedAt)

end Proactive.Store
