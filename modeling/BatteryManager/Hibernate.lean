import BatteryManager.LowCapacity

namespace BatteryManager

open Library

def COMMON_EVENT_ENTER_HIBERNATE : String := "usual.event.ENTER_HIBERNATE"
def COMMON_EVENT_EXIT_HIBERNATE : String := "usual.event.EXIT_HIBERNATE"

-- `g_ffrtTimer` and `g_shutdownGuard`. The guard is absent until it has been
-- created, and then it is held or not.
structure DelayHibernate (timer : OneShotTimer) where
  ffrtTimer : Option timer.State := none
  shutdownGuard : Option Bool := none
  isHibernateEnable : Bool := true

variable {timer : OneShotTimer}

namespace DelayHibernate

def isDelayHibernateTimerValid (hibernate : DelayHibernate timer) : Bool :=
  hibernate.ffrtTimer.any timer.armed

def isLocked (hibernate : DelayHibernate timer) : Bool :=
  hibernate.shutdownGuard = some true

-- `created` is false when the power manager gives no running lock.
def createShutdownGuard (created : Bool) (hibernate : DelayHibernate timer) : DelayHibernate timer :=
  if hibernate.shutdownGuard = none then
    { hibernate with shutdownGuard := if created then some false else none }
  else hibernate

def lockShutdownGuard (hibernate : DelayHibernate timer) : DelayHibernate timer :=
  { hibernate with shutdownGuard := hibernate.shutdownGuard.map fun _ => true }

def unlockShutdownGuard (hibernate : DelayHibernate timer) : DelayHibernate timer :=
  { hibernate with shutdownGuard := hibernate.shutdownGuard.map fun _ => false }

def setTimer (hibernate : DelayHibernate timer) : DelayHibernate timer :=
  { hibernate with ffrtTimer := hibernate.ffrtTimer.map timer.set }

def cancelTimer (hibernate : DelayHibernate timer) : DelayHibernate timer :=
  { hibernate with ffrtTimer := hibernate.ffrtTimer.map timer.cancel }

-- The timer is destroyed, and its task with it.
def resetTimer (hibernate : DelayHibernate timer) : DelayHibernate timer :=
  { hibernate with ffrtTimer := none }

def checkIfCreateHibernateTask (shutdownCapacityThreshold lastCapacity capacity : Int)
    (chargeState : BatteryChargeState) (isBatteryPresent : Bool) (hibernate : DelayHibernate timer) :
    Bool :=
  capacity ≤ shutdownCapacityThreshold && !hibernate.isDelayHibernateTimerValid &&
    (capacity < lastCapacity || (isBatteryPresent && !isCharging chargeState))

def checkIfClearHibernateTask (lastCapacity capacity : Int) (chargeState : BatteryChargeState)
    (isBatteryPresent : Bool) (hibernate : DelayHibernate timer) : Bool :=
  hibernate.isDelayHibernateTimerValid &&
    (capacity > lastCapacity || (isBatteryPresent && isCharging chargeState))

def handleCapacityExt (created : Bool) (shutdownCapacityThreshold lastCapacity capacity : Int)
    (chargeState : BatteryChargeState) (isBatteryPresent : Bool) (hibernate : DelayHibernate timer) :
    DelayHibernate timer :=
  let armed :=
    if hibernate.checkIfCreateHibernateTask shutdownCapacityThreshold lastCapacity capacity
        chargeState isBatteryPresent then
      ((hibernate.createShutdownGuard created).lockShutdownGuard).setTimer
    else hibernate
  if armed.checkIfClearHibernateTask lastCapacity capacity chargeState isBatteryPresent then
    armed.cancelTimer.unlockShutdownGuard
  else armed

def doHibernateOrShutdown (isInExtremePowerSaveMode : Bool) (hibernate : DelayHibernate timer) :
    List Effect :=
  if isInExtremePowerSaveMode then []
  else if hibernate.isHibernateEnable then [.Hibernate LOW_CAPACITY]
  else [.ShutDownDevice LOW_CAPACITY]

-- The timer expires and runs the task that `handleCapacityExt` gave it.
def expire (isInExtremePowerSaveMode : Bool) (hibernate : DelayHibernate timer) :
    Option (DelayHibernate timer × List Effect) :=
  if hibernate.isDelayHibernateTimerValid then
    let fired := { hibernate with ffrtTimer := hibernate.ffrtTimer.map timer.fire }
    some (fired.unlockShutdownGuard, fired.doHibernateOrShutdown isInExtremePowerSaveMode)
  else none

def onReceiveEvent (action : String) (hibernate : DelayHibernate timer) : DelayHibernate timer :=
  if action = COMMON_EVENT_ENTER_HIBERNATE ∨ action = COMMON_EVENT_EXIT_HIBERNATE then
    hibernate.cancelTimer.unlockShutdownGuard
  else hibernate

end DelayHibernate

end BatteryManager
