import BatteryManager.CapacityLevel

namespace BatteryManager

def INVALID_REMAINING_CHARGE_TIME_VALUE : Int := -1

-- The members that `CalculateRemainingChargeTime` keeps.
structure ChargeTime where
  chargeFlag : Bool := false
  lastCapacity : Int := 0
  lastTime : Int := 0
  remainTime : Int := 0

-- The three times that one call can read, in the order in which it reads them.
structure ClockReadings where
  started : Int
  elapsed : Int
  rebased : Int

def ChargeTime.begin (clock : ClockReadings) (capacity : Int) (chargeTime : ChargeTime) : ChargeTime :=
  if chargeTime.chargeFlag then chargeTime
  else { chargeTime with lastCapacity := capacity, lastTime := clock.started, chargeFlag := true }

def ChargeTime.lower (capacity : Int) (chargeTime : ChargeTime) : ChargeTime :=
  if capacity < chargeTime.lastCapacity then { chargeTime with lastCapacity := capacity }
  else chargeTime

-- C++ division rounds towards zero.
def ChargeTime.estimate (clock : ClockReadings) (capacity : Int) (chargeTime : ChargeTime) :
    ChargeTime :=
  if 1 ≤ capacity - chargeTime.lastCapacity ∧ 0 ≤ chargeTime.lastCapacity ∧
      chargeTime.chargeFlag = true then
    let onceTime := (clock.elapsed - chargeTime.lastTime).tdiv (capacity - chargeTime.lastCapacity)
    { chargeTime with
      remainTime := (BATTERY_FULL_CAPACITY - capacity) * onceTime
      lastCapacity := capacity
      lastTime := clock.rebased }
  else chargeTime

def ChargeTime.calculateRemainingChargeTime (clock : ClockReadings) (capacity : Int)
    (chargeState : BatteryChargeState) (chargeTime : ChargeTime) : ChargeTime :=
  if capacity > BATTERY_FULL_CAPACITY then chargeTime
  else if chargeState ≠ .Enable then { chargeTime with remainTime := 0, chargeFlag := false }
  else ((chargeTime.begin clock capacity).lower capacity).estimate clock capacity

def getRemainingChargeTimeInner (isSystem : Bool) (chargeTime : ChargeTime) : Int :=
  if isSystem then chargeTime.remainTime else INVALID_REMAINING_CHARGE_TIME_VALUE

end BatteryManager
