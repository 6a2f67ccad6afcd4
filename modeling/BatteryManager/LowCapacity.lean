import BatteryManager.Effect
import BatteryManager.Library.TaskQueue

namespace BatteryManager

open Library

def LOW_CAPACITY : String := "LowCapacity"

def isCharging (chargeState : BatteryChargeState) : Bool := chargeState = .Enable

-- `g_lowCapacityShutdownHandle`, and the tasks that were submitted to `g_queue`.
structure LowCapacityShutdown (queue : TaskQueue) where
  handle : Option queue.Handle := none
  tasks : queue.State := queue.empty

variable {queue : TaskQueue}

def LowCapacityShutdown.submit (shutdown : LowCapacityShutdown queue) : LowCapacityShutdown queue where
  handle := some (queue.submit shutdown.tasks).2
  tasks := (queue.submit shutdown.tasks).1

def LowCapacityShutdown.cancel (shutdown : LowCapacityShutdown queue) (handle : queue.Handle) :
    LowCapacityShutdown queue where
  handle := none
  tasks := queue.cancel shutdown.tasks handle

def handleCapacity (shutdownCapacityThreshold : Int) (capacity : Int)
    (chargeState : BatteryChargeState) (isBatteryPresent : Bool)
    (shutdown : LowCapacityShutdown queue) : LowCapacityShutdown queue :=
  let submitted :=
    if capacity ≤ shutdownCapacityThreshold ∧ shutdown.handle = none ∧ isBatteryPresent = true ∧
        isCharging chargeState = false then shutdown.submit
    else shutdown
  match submitted.handle with
  | some handle => if isCharging chargeState then submitted.cancel handle else submitted
  | none => submitted

-- The submitted task. It does not touch the handle.
def lowCapacityTask (isInExtremePowerSaveMode : Bool) : List Effect :=
  if isInExtremePowerSaveMode then [] else [.ShutDownDevice LOW_CAPACITY]

def LowCapacityShutdown.runTask (shutdown : LowCapacityShutdown queue) (handle : queue.Handle)
    (isInExtremePowerSaveMode : Bool) : Option (LowCapacityShutdown queue × List Effect) :=
  if handle ∈ queue.pending shutdown.tasks then
    some ({ shutdown with tasks := queue.run shutdown.tasks handle },
      lowCapacityTask isInExtremePowerSaveMode)
  else none

end BatteryManager
