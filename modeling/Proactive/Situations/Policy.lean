import Proactive.Situations.Dates
import Proactive.Store.Situations

/-! The attention policy: quiet hours, daily budget and cooldown. -/
namespace Proactive.Situations
open Proactive.Store

structure AttentionSettings where
  quietHoursStart : Int
  quietHoursEnd : Int
  dailyBudget : Nat
  cooldown : Int
deriving DecidableEq, Repr

def isQuietTime (localTime start end_ : Int) : Bool :=
  if start = end_ then false
  else if start < end_ then start ≤ localTime && localTime < end_
  else start ≤ localTime || localTime < end_

structure AttentionPolicy where
  settings : AttentionSettings
  zone : TimeZone

namespace AttentionPolicy

def deliveryClaimLease : Int := 120 * second

def quietState (policy : AttentionPolicy) (now : Int) : Bool :=
  isQuietTime (policy.zone.localTime now % day) policy.settings.quietHoursStart
    policy.settings.quietHoursEnd

/-- The claim that `claim_for_delivery` and `reserve_for_delivery` both build. -/
def deliveryClaim (policy : AttentionPolicy) (now : Int) : DeliveryClaim where
  deliveredAt := now
  cooldownAfter := now - policy.settings.cooldown
  localDayStart := policy.zone.localDayStart (policy.zone.localDate now)
  localDayEnd := policy.zone.localDayEnd (policy.zone.localDate now)
  dailyBudget := policy.settings.dailyBudget
  allowNoncritical := !policy.quietState now

def claimForDelivery (policy : AttentionPolicy) (now : Int) : Sql (List Situation) :=
  Store.claimForDelivery (policy.deliveryClaim now)

def reserveForDelivery (policy : AttentionPolicy) (now : Int) (claimToken : String) :
    Sql DeliveryReservation :=
  Store.reserveForDelivery (policy.deliveryClaim now) claimToken (now + deliveryClaimLease)

structure BudgetUsage where
  used : Nat
  remaining : Int
  dailyBudget : Nat
deriving DecidableEq, Repr

def budgetUsage (policy : AttentionPolicy) (now : Int) (db : Database) : BudgetUsage :=
  let start := policy.zone.localDayStart (policy.zone.localDate now)
  let end_ := policy.zone.localDayEnd (policy.zone.localDate now)
  let used := Database.countDeliveredBetween start end_ db + Database.countReservedBetween start end_ now db
  ⟨used,max 0 (policy.settings.dailyBudget - used),policy.settings.dailyBudget⟩

end AttentionPolicy
end Proactive.Situations
