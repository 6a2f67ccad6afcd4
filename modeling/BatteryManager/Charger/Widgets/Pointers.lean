import BatteryManager.Charger.Scenes
import BatteryManager.Charger.Widgets

namespace BatteryManager.Charger

open Library

-- A call through a pointer that is null has no result.
def through (built : Bool) (animation : ChargerAnimation) : Option ChargerAnimation :=
  if built then some animation else none

-- The methods with their pointers, which `InitAllComponents` sets together.
namespace ChargerAnimation

variable (built : Bool)

def capacityDisplay? (capacity : Int) (animation : ChargerAnimation) : Option ChargerAnimation :=
  through built (animation.capacityDisplay capacity)

def capacityDestroy? (animation : ChargerAnimation) : Option ChargerAnimation :=
  through built animation.capacityDestroy

def animationStart? (capacity : Int) (animation : ChargerAnimation) : Option ChargerAnimation :=
  let started :=
    if animation.animationState ≠ .AnimationStart then
      through built { animation with animatorImageVisible := true, animationState := .AnimationStart }
    else some animation
  started.bind fun animation => animation.capacityDisplay? built capacity

def animationStop? (animation : ChargerAnimation) : Option ChargerAnimation :=
  if animation.animationState ≠ .AnimationStop then
    let stopped := through built { animation with animatorImageVisible := false }
    (stopped.bind fun animation => animation.capacityDestroy? built).map fun animation =>
      { animation with animationState := .AnimationStop }
  else some animation

def lackPowerChargingPromptStart? (animation : ChargerAnimation) : Option ChargerAnimation :=
  if animation.chargingPromptState ≠ .LackPowerChargingPromptStart then
    through built { animation with
      lackPowerVisible := true, chargingPromptState := .LackPowerChargingPromptStart }
  else some animation

def lackPowerChargingPromptStop? (animation : ChargerAnimation) : Option ChargerAnimation :=
  if animation.chargingPromptState ≠ .LackPowerChargingPromptStop then
    through built { animation with
      lackPowerVisible := false, chargingPromptState := .LackPowerChargingPromptStop }
  else some animation

def lackPowerNotChargingPromptStart? (animation : ChargerAnimation) : Option ChargerAnimation :=
  if animation.notChargingPromptState ≠ .LackPowerNotChargingPromptStart then
    through built { animation with
      lackPowerNotChargeVisible := true
      notChargingPromptState := .LackPowerNotChargingPromptStart }
  else some animation

def lackPowerNotChargingPromptStop? (animation : ChargerAnimation) : Option ChargerAnimation :=
  if animation.notChargingPromptState ≠ .LackPowerNotChargingPromptStop then
    through built { animation with
      lackPowerNotChargeVisible := false
      notChargingPromptState := .LackPowerNotChargingPromptStop }
  else some animation

def stopAll? (animation : ChargerAnimation) : Option ChargerAnimation :=
  ((animation.animationStop? built).bind fun animation =>
    animation.lackPowerChargingPromptStop? built).bind fun animation =>
      animation.lackPowerNotChargingPromptStop? built

end ChargerAnimation

def updateAnimation? (built : Bool) (lackPowerCapacity : Int) (chargeState : BatteryChargeState)
    (capacity : Int) (animation : ChargerAnimation) : Option ChargerAnimation :=
  if chargeState = .None ∨ chargeState = .Reserved then some animation
  else if capacity ≤ lackPowerCapacity then
    if chargeState = .Enable then
      ((animation.animationStop? built).bind fun animation =>
        animation.lackPowerNotChargingPromptStop? built).bind fun animation =>
          animation.lackPowerChargingPromptStart? built
    else if chargeState = .Disable then
      ((animation.animationStop? built).bind fun animation =>
        animation.lackPowerChargingPromptStop? built).bind fun animation =>
          animation.lackPowerNotChargingPromptStart? built
    else some animation
  else if chargeState = .Enable ∨ chargeState = .Full then
    ((animation.lackPowerChargingPromptStop? built).bind fun animation =>
      animation.lackPowerNotChargingPromptStop? built).bind fun animation =>
        animation.animationStart? built capacity
  else some animation

-- What a call of the thread does with the animation.
inductive AnimationCall
  | UpdateAnimation (lackPowerCapacity : Int) (chargeState : BatteryChargeState) (capacity : Int)
  | StopAll

namespace AnimationCall

def perform (animation : ChargerAnimation) : AnimationCall → ChargerAnimation
  | .UpdateAnimation lackPowerCapacity chargeState capacity =>
      updateAnimation lackPowerCapacity chargeState capacity animation
  | .StopAll => animation.stopAll

def perform? (built : Bool) (animation : ChargerAnimation) : AnimationCall → Option ChargerAnimation
  | .UpdateAnimation lackPowerCapacity chargeState capacity =>
      updateAnimation? built lackPowerCapacity chargeState capacity animation
  | .StopAll => animation.stopAll? built

def scene? : AnimationCall → Option Scene
  | .UpdateAnimation lackPowerCapacity chargeState capacity =>
      sceneFor lackPowerCapacity chargeState capacity
  | .StopAll => none

end AnimationCall

namespace ChargerThread

variable (thread : ChargerThread)

def updateCall : AnimationCall :=
  .UpdateAnimation thread.lackPowerCapacity thread.chargeState thread.capacity

-- The branches of `UpdateBatteryInfo` and `HandlePowerKey` that reach the animation.

def readingCall (env : UpdateEnv) : Option AnimationCall :=
  if thread.backlight.screenState = .ScreenOn then some (thread.readBatteryInfo env).updateCall else none

def keyCall (keycode : Nat) (now : Int) : Option AnimationCall :=
  let key := thread.keys keycode
  if keycode = KEY_POWER then
    if key.isDown then
      if now ≥ key.timestamp + REBOOT_TIME then none
      else if thread.backlight.screenState = .ScreenOff then some thread.updateCall
      else none
    else if key.isUp then
      if thread.backlight.screenState = .ScreenOn ∧ !thread.turnOnByKeydown then some .StopAll
      else some thread.updateCall
    else none
  else none

end ChargerThread

namespace ChargerCall

def animationCall (thread : ChargerThread) : ChargerCall → Option AnimationCall
  | .CycleMatters _ env => thread.readingCall env
  | .UpdateBatteryInfo env => thread.readingCall env
  | .HandleChargingState _ =>
      if thread.chargeState = .None ∨ thread.chargeState = .Reserved then none
      else if thread.isChargeStateChanged then some thread.updateCall
      else none
  | .HandlePowerKeyState now => thread.keyCall KEY_POWER now
  | .HandlePowerKey keycode now => thread.keyCall keycode now
  | .HandleScreenState now =>
      if thread.backlightWait ≠ INVALID ∧ now > thread.backlightWait + BACKLIGHT_OFF_TIME_MS then
        some .StopAll
      else none
  | .SetKeyState _ _ _ => none

-- The call, with what becomes of the animation when its pointers may be null.
def execute? (config : BatteryConfig) (built : Bool) (thread : ChargerThread) (call : ChargerCall) :
    Option (ChargerThread × List ChargerEffect) :=
  let result := call.execute config thread
  match call.animationCall thread with
  | none => some result
  | some drawn =>
      (drawn.perform? built thread.animation).map fun animation =>
        ({ result.1 with animation := animation }, result.2)

-- The scene that a call draws.
def scene? (thread : ChargerThread) (call : ChargerCall) : Option Scene :=
  (call.animationCall thread).bind AnimationCall.scene?

end ChargerCall

def widgetStep (config : BatteryConfig) (built : Bool) (thread : ChargerThread) (call : ChargerCall) :
    Option (ChargerThread × List ChargerEffect) :=
  call.execute? config built thread

-- The charger after `Init`, with what `InitAllComponents` has made of the file.
abbrev WidgetRun (config : BatteryConfig) (available : Bool) (env : LightEnv) (file : ConfigFile) :
    List ChargerCall → ChargerThread → List ChargerEffect → Prop :=
  Run (widgetStep config (initAllComponents file).isSome) (ChargerThread.init config available env).1

end BatteryManager.Charger
