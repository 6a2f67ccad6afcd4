import BatteryManager.Charger.Provider

namespace BatteryManager.Charger

inductive AnimationState
  | AnimationStop
  | AnimationStart
  | LackPowerChargingPromptStop
  | LackPowerChargingPromptStart
  | LackPowerNotChargingPromptStop
  | LackPowerNotChargingPromptStart
  deriving DecidableEq

structure UILabel where
  text : String := ""
  visible : Bool := false
  deriving DecidableEq

-- Of the two prompts and of the image only the visibility ever changes.
structure ChargerAnimation where
  lackPowerVisible : Bool := false
  lackPowerNotChargeVisible : Bool := false
  percentLabel : UILabel := {}
  animatorImageVisible : Bool := false
  animationState : AnimationState := .AnimationStop
  chargingPromptState : AnimationState := .LackPowerChargingPromptStop
  notChargingPromptState : AnimationState := .LackPowerNotChargingPromptStop
  deriving DecidableEq

namespace ChargerAnimation

def capacityDisplay (capacity : Int) (animation : ChargerAnimation) : ChargerAnimation :=
  { animation with percentLabel := { text := toString capacity ++ "%", visible := true } }

def capacityDestroy (animation : ChargerAnimation) : ChargerAnimation :=
  { animation with percentLabel := { animation.percentLabel with visible := false } }

def animationStart (capacity : Int) (animation : ChargerAnimation) : ChargerAnimation :=
  let started :=
    if animation.animationState ≠ .AnimationStart then
      { animation with animatorImageVisible := true, animationState := .AnimationStart }
    else animation
  started.capacityDisplay capacity

def animationStop (animation : ChargerAnimation) : ChargerAnimation :=
  if animation.animationState ≠ .AnimationStop then
    { animation.capacityDestroy with animatorImageVisible := false, animationState := .AnimationStop }
  else animation

def lackPowerChargingPromptStart (animation : ChargerAnimation) : ChargerAnimation :=
  if animation.chargingPromptState ≠ .LackPowerChargingPromptStart then
    { animation with
      lackPowerVisible := true, chargingPromptState := .LackPowerChargingPromptStart }
  else animation

def lackPowerChargingPromptStop (animation : ChargerAnimation) : ChargerAnimation :=
  if animation.chargingPromptState ≠ .LackPowerChargingPromptStop then
    { animation with
      lackPowerVisible := false, chargingPromptState := .LackPowerChargingPromptStop }
  else animation

def lackPowerNotChargingPromptStart (animation : ChargerAnimation) : ChargerAnimation :=
  if animation.notChargingPromptState ≠ .LackPowerNotChargingPromptStart then
    { animation with
      lackPowerNotChargeVisible := true
      notChargingPromptState := .LackPowerNotChargingPromptStart }
  else animation

def lackPowerNotChargingPromptStop (animation : ChargerAnimation) : ChargerAnimation :=
  if animation.notChargingPromptState ≠ .LackPowerNotChargingPromptStop then
    { animation with
      lackPowerNotChargeVisible := false
      notChargingPromptState := .LackPowerNotChargingPromptStop }
  else animation

-- The three calls that `HandleScreenState` and `HandlePowerKey` make.
def stopAll (animation : ChargerAnimation) : ChargerAnimation :=
  animation.animationStop.lackPowerChargingPromptStop.lackPowerNotChargingPromptStop

end ChargerAnimation

def updateAnimation (lackPowerCapacity : Int) (chargeState : BatteryChargeState) (capacity : Int)
    (animation : ChargerAnimation) : ChargerAnimation :=
  if chargeState = .None ∨ chargeState = .Reserved then animation
  else if capacity ≤ lackPowerCapacity then
    if chargeState = .Enable then
      animation.animationStop.lackPowerNotChargingPromptStop.lackPowerChargingPromptStart
    else if chargeState = .Disable then
      animation.animationStop.lackPowerChargingPromptStop.lackPowerNotChargingPromptStart
    else animation
  else if chargeState = .Enable ∨ chargeState = .Full then
    animation.lackPowerChargingPromptStop.lackPowerNotChargingPromptStop.animationStart capacity
  else animation

end BatteryManager.Charger
