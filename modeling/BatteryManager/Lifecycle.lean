import Mathlib.Data.Finset.Card
import BatteryManager.Effect
import BatteryManager.Library.Run

namespace BatteryManager

open Library

-- What `IServiceManager::Get` and `RegisterServiceStatusListener` answer.
inductive ListenerAnswer
  | NoManager
  | Refused
  | Registered
  deriving DecidableEq

-- The members of the service that deal with the HDI, its queued tasks, and what
-- the HDI service manager and the battery HDI hold of it. Listeners are numbered
-- in the order of their creation. `stopped` is not in the source: `OnStop` has
-- taken effect, and `OnStart` has not been called since.
structure Lifecycle where
  ready : Bool := false
  listensForAbilities : Bool := false
  isHdiRemove : Bool := false
  hdiServiceMgr : Bool := false
  hdiServStatListener : Option Nat := none
  created : Nat := 0
  iBatteryInterface : Bool := false
  startTasks : Nat := 0
  retryTasks : Nat := 0
  registered : Finset Nat := ∅
  callbackHeld : Bool := false
  stopped : Bool := false

namespace Lifecycle

-- A retry is submitted when there is no manager, or it refuses the listener.
def registerHdiStatusListener (answer : ListenerAnswer) (service : Lifecycle) : Lifecycle :=
  match answer with
  | .NoManager => { service with hdiServiceMgr := false, retryTasks := service.retryTasks + 1 }
  | .Refused => { service with
      hdiServiceMgr := true
      hdiServStatListener := some service.created
      created := service.created + 1
      retryTasks := service.retryTasks + 1 }
  | .Registered => { service with
      hdiServiceMgr := true
      hdiServStatListener := some service.created
      created := service.created + 1
      registered := insert service.created service.registered }

-- `published` is the answer of `Publish`.
def onStart (answer : ListenerAnswer) (published : Bool) (service : Lifecycle) : Lifecycle :=
  if service.ready then service
  else
    let registered := { service with stopped := false }.registerHdiStatusListener answer
    if published then { registered with listensForAbilities := true, ready := true } else registered

def unRegister (service : Lifecycle) : Lifecycle :=
  if service.iBatteryInterface then { service with callbackHeld := false, iBatteryInterface := false }
  else service

def unregisterServiceStatusListener (service : Lifecycle) : Lifecycle :=
  if service.hdiServiceMgr then
    { service with
      registered := service.registered.filter fun listener => some listener ≠ service.hdiServStatListener
      hdiServiceMgr := false }
  else service

def onStop (service : Lifecycle) : Lifecycle :=
  if service.ready then
    { service with ready := false, stopped := true }.unRegister.unregisterServiceStatusListener
  else service

-- `available` is whether `IBatteryInterface::Get` finds the HDI, and `accepted`
-- whether it takes the callback.
def registerBatteryHdiCallback (available accepted : Bool) (service : Lifecycle) : Lifecycle :=
  let found := { service with iBatteryInterface := service.iBatteryInterface || available }
  if found.iBatteryInterface then { found with callbackHeld := found.callbackHeld || accepted } else found

-- The manager forgets every listener when it goes away. The service is told once
-- it listens for abilities, and goes on listening after `OnStop`.
def onRemoveSystemAbility (service : Lifecycle) : Lifecycle :=
  let dropped := { service with registered := ∅ }
  if service.listensForAbilities && !service.isHdiRemove then
    { dropped with hdiServiceMgr := false, iBatteryInterface := false, isHdiRemove := true }
  else dropped

def onAddSystemAbility (answer : ListenerAnswer) (service : Lifecycle) : Lifecycle :=
  if service.listensForAbilities && service.isHdiRemove then
    { service.registerHdiStatusListener answer with isHdiRemove := false }
  else service

end Lifecycle

-- `forgets` is whether the stopping HDI loses the callback by itself.
inductive LifecycleLabel
  | OnStart (answer : ListenerAnswer) (published : Bool)
  | OnStop
  | HdiStart (listener : Nat)
  | HdiStop (listener : Nat) (forgets : Bool)
  | StartTask (available accepted : Bool)
  | RetryTask (answer : ListenerAnswer)
  | RemoveDeviceManager
  | AddDeviceManager (answer : ListenerAnswer)
  deriving DecidableEq

def lifecycleStep (service : Lifecycle) : LifecycleLabel → Option (Lifecycle × List Effect)
  | .OnStart answer published => some (service.onStart answer published, [])
  | .OnStop => some (service.onStop, [])
  | .HdiStart listener =>
      if listener ∈ service.registered then
        some ({ service with startTasks := service.startTasks + 1 }, [])
      else none
  | .HdiStop listener forgets =>
      if listener ∈ service.registered then
        some ({ service with callbackHeld := service.callbackHeld && !forgets }.unRegister, [])
      else none
  | .StartTask available accepted =>
      if 0 < service.startTasks then
        some ({ service with startTasks := service.startTasks - 1 }.registerBatteryHdiCallback
          available accepted, [])
      else none
  | .RetryTask answer =>
      if 0 < service.retryTasks then
        some ({ service with retryTasks := service.retryTasks - 1 }.registerHdiStatusListener answer, [])
      else none
  | .RemoveDeviceManager => some (service.onRemoveSystemAbility, [])
  | .AddDeviceManager answer => some (service.onAddSystemAbility answer, [])

abbrev LifecycleRun : List LifecycleLabel → Lifecycle → List Effect → Prop := Run lifecycleStep {}

end BatteryManager
