import BatteryManager.Charger.Thread.Lemmas

namespace BatteryManager.Charger

open Library

-- What the screen is meant to show: nothing, or one of three things.
inductive Scene
  | Blank
  | Charging
  | LackPowerCharging
  | LackPowerNotCharging
  deriving DecidableEq

-- The widgets and flags of a scene. The text of the label stays when the label
-- is hidden.
def Scene.render (text : String) (scene : Scene) : ChargerAnimation where
  lackPowerVisible := scene = .LackPowerCharging
  lackPowerNotChargeVisible := scene = .LackPowerNotCharging
  percentLabel := { text := text, visible := scene = .Charging }
  animatorImageVisible := scene = .Charging
  animationState := if scene = .Charging then .AnimationStart else .AnimationStop
  chargingPromptState :=
    if scene = .LackPowerCharging then .LackPowerChargingPromptStart
    else .LackPowerChargingPromptStop
  notChargingPromptState :=
    if scene = .LackPowerNotCharging then .LackPowerNotChargingPromptStart
    else .LackPowerNotChargingPromptStop

-- The scene that a charge state and a capacity call for, if they call for one.
def sceneFor (lackPowerCapacity : Int) (chargeState : BatteryChargeState) (capacity : Int) :
    Option Scene :=
  match chargeState with
  | .None => none
  | .Reserved => none
  | .Enable => some (if capacity ≤ lackPowerCapacity then .LackPowerCharging else .Charging)
  | .Disable => if capacity ≤ lackPowerCapacity then some .LackPowerNotCharging else none
  | .Full => if capacity ≤ lackPowerCapacity then none else some .Charging

namespace Scene

variable (text : String) (scene : Scene)

theorem render_stopAll : (scene.render text).stopAll = Blank.render text := by
  cases scene <;> rfl

theorem render_lackPowerCharging :
    (scene.render text).animationStop.lackPowerNotChargingPromptStop.lackPowerChargingPromptStart =
      LackPowerCharging.render text := by
  cases scene <;> rfl

theorem render_lackPowerNotCharging :
    (scene.render text).animationStop.lackPowerChargingPromptStop.lackPowerNotChargingPromptStart =
      LackPowerNotCharging.render text := by
  cases scene <;> rfl

theorem render_charging (capacity : Int) :
    (((scene.render text).lackPowerChargingPromptStop.lackPowerNotChargingPromptStop).animationStart
      capacity) = Charging.render (toString capacity ++ "%") := by
  cases scene <;> rfl

theorem render_animationState :
    (scene.render text).animationState = .AnimationStart ↔ scene = .Charging := by
  cases scene <;> simp [render]

theorem render_chargingPromptState :
    (scene.render text).chargingPromptState = .LackPowerChargingPromptStart ↔
      scene = .LackPowerCharging := by
  cases scene <;> simp [render]

theorem render_notChargingPromptState :
    (scene.render text).notChargingPromptState = .LackPowerNotChargingPromptStart ↔
      scene = .LackPowerNotCharging := by
  cases scene <;> simp [render]

-- An update goes from scene to scene.
theorem render_updateAnimation (lackPowerCapacity : Int) (chargeState : BatteryChargeState)
    (capacity : Int) : ∃ shown, updateAnimation lackPowerCapacity chargeState capacity
      (scene.render text) = ((sceneFor lackPowerCapacity chargeState capacity).getD scene).render shown := by
  unfold updateAnimation sceneFor
  by_cases hlack : capacity ≤ lackPowerCapacity
  · cases chargeState with
    | None => exact ⟨text, rfl⟩
    | Reserved => exact ⟨text, rfl⟩
    | Enable => exact ⟨text, by simp [hlack, render_lackPowerCharging]⟩
    | Disable => exact ⟨text, by simp [hlack, render_lackPowerNotCharging]⟩
    | Full => exact ⟨text, by simp [hlack]⟩
  · cases chargeState with
    | None => exact ⟨text, rfl⟩
    | Reserved => exact ⟨text, rfl⟩
    | Enable => exact ⟨toString capacity ++ "%", by simp [hlack, render_charging]⟩
    | Disable => exact ⟨text, by simp [hlack]⟩
    | Full => exact ⟨toString capacity ++ "%", by simp [hlack, render_charging]⟩

end Scene

-- The animation shows one scene, and none on a dark screen.
def Shows (backlight : BatteryBacklight) (animation : ChargerAnimation) : Prop :=
  ∃ scene : Scene, (∃ text, animation = scene.render text) ∧
    (backlight.screenState = .ScreenOff → scene = .Blank)

namespace Shows

variable {backlight next : BatteryBacklight} {animation : ChargerAnimation}

theorem stopAll (hshows : Shows backlight animation) : Shows next animation.stopAll := by
  obtain ⟨scene, ⟨text, rfl⟩, -⟩ := hshows
  exact ⟨.Blank, ⟨text, scene.render_stopAll text⟩, fun _ => rfl⟩

theorem updateAnimation (hshows : Shows backlight animation) (hon : next.screenState = .ScreenOn)
    (lackPowerCapacity : Int) (chargeState : BatteryChargeState) (capacity : Int) :
    Shows next (Charger.updateAnimation lackPowerCapacity chargeState capacity animation) := by
  obtain ⟨scene, ⟨text, rfl⟩, -⟩ := hshows
  refine ⟨_, scene.render_updateAnimation text lackPowerCapacity chargeState capacity, fun hoff => ?_⟩
  rw [hon] at hoff
  cases hoff

end Shows

namespace ChargerThread

variable {thread : ChargerThread}

theorem setKeyState_shows (code : Nat) (value now : Int)
    (hshows : Shows thread.backlight thread.animation) :
    Shows (thread.setKeyState code value now).backlight (thread.setKeyState code value now).animation := by
  unfold setKeyState
  dsimp only
  split
  · exact hshows
  · split <;> exact hshows

theorem updateBatteryInfo_shows (config : BatteryConfig) (env : UpdateEnv)
    (hshows : Shows thread.backlight thread.animation) :
    Shows (thread.updateBatteryInfo config env).1.backlight
      (thread.updateBatteryInfo config env).1.animation := by
  unfold updateBatteryInfo
  dsimp only
  split
  · rename_i hon
    exact hshows.updateAnimation hon _ _ _
  · exact hshows

theorem cycleMatters_shows (config : BatteryConfig) (now : Int) (env : UpdateEnv)
    (hshows : Shows thread.backlight thread.animation) :
    Shows (thread.cycleMatters config now env).1.backlight
      (thread.cycleMatters config now env).1.animation := by
  unfold cycleMatters updateEpollInterval
  dsimp only
  split <;> split <;> exact updateBatteryInfo_shows config env hshows

theorem handleChargingState_shows (now : Int) (hshows : Shows thread.backlight thread.animation) :
    Shows (thread.handleChargingState now).1.backlight (thread.handleChargingState now).1.animation := by
  have houtcome := thread.handleChargingState_outcome now
  generalize thread.handleChargingState now = result at houtcome ⊢
  cases houtcome with
  | Ignored => exact hshows
  | TurnsOn => exact hshows.updateAnimation thread.backlight.turnOnScreen_screenState _ _ _

theorem handleScreenState_shows (now : Int) (hshows : Shows thread.backlight thread.animation) :
    Shows (thread.handleScreenState now).1.backlight (thread.handleScreenState now).1.animation := by
  have houtcome := thread.handleScreenState_outcome now
  generalize thread.handleScreenState now = result at houtcome ⊢
  cases houtcome with
  | Ignored => exact hshows
  | TurnsOff => exact hshows.stopAll

-- Only the long press, which reboots, leaves a scene on a dark screen.
theorem handlePowerKey_shows (keycode : Nat) (now : Int)
    (hout : ∀ effect ∈ (thread.handlePowerKey keycode now).2, effect.isReboot = false)
    (hshows : Shows thread.backlight thread.animation) :
    Shows (thread.handlePowerKey keycode now).1.backlight
      (thread.handlePowerKey keycode now).1.animation := by
  have hon := thread.backlight.turnOnScreen_screenState
  have houtcome := thread.handlePowerKey_outcome keycode now
  generalize thread.handlePowerKey keycode now = result at houtcome hout ⊢
  cases houtcome with
  | Ignored => exact hshows
  | Reboots =>
      have hreboot := hout (.DoReboot .HandlePowerKey REBOOT_CMD) (by simp)
      cases hreboot
  | TurnsOnByKeydown =>
      obtain ⟨keyWait, hwritten⟩ := thread.setKeyWait_outcome (thread.keys keycode) REBOOT_TIME
      rw [hwritten]
      exact hshows.updateAnimation hon _ _ _
  | TurnsOff => exact hshows.stopAll
  | TurnsOn released _ _ _ _ hreleased =>
      subst hreleased
      exact hshows.updateAnimation hon _ _ _

theorem handlePowerKeyState_shows (now : Int)
    (hout : ∀ effect ∈ (thread.handlePowerKeyState now).2, effect.isReboot = false)
    (hshows : Shows thread.backlight thread.animation) :
    Shows (thread.handlePowerKeyState now).1.backlight (thread.handlePowerKeyState now).1.animation := by
  have hhandled := handlePowerKey_shows KEY_POWER now hout hshows
  obtain ⟨keyWait, hwritten⟩ := thread.handlePowerKeyState_outcome now
  rw [hwritten]
  exact hhandled

theorem init_shows (config : BatteryConfig) (available : Bool) (env : LightEnv) :
    Shows (init config available env).1.backlight (init config available env).1.animation :=
  ⟨.Blank, ⟨"", rfl⟩, fun _ => rfl⟩

end ChargerThread

theorem ChargerCall.execute_shows (config : BatteryConfig) {thread : ChargerThread} (call : ChargerCall)
    (hout : ∀ effect ∈ (call.execute config thread).2, effect.isReboot = false)
    (hshows : Shows thread.backlight thread.animation) :
    Shows (call.execute config thread).1.backlight (call.execute config thread).1.animation := by
  cases call with
  | CycleMatters now env => exact thread.cycleMatters_shows config now env hshows
  | UpdateBatteryInfo env => exact thread.updateBatteryInfo_shows config env hshows
  | HandleChargingState now => exact thread.handleChargingState_shows now hshows
  | HandlePowerKeyState now => exact thread.handlePowerKeyState_shows now hout hshows
  | HandlePowerKey keycode now => exact thread.handlePowerKey_shows keycode now hout hshows
  | HandleScreenState now => exact thread.handleScreenState_shows now hshows
  | SetKeyState code value now => exact thread.setKeyState_shows code value now hshows

-- At most one of the animation and the two prompts is started, the widgets are
-- visible accordingly, and on a dark screen all three are stopped.
structure OneScene (thread : ChargerThread) : Prop where
  notBothPrompts : ¬(thread.animation.chargingPromptState = .LackPowerChargingPromptStart ∧
    thread.animation.notChargingPromptState = .LackPowerNotChargingPromptStart)
  notCharging : ¬(thread.animation.animationState = .AnimationStart ∧
    thread.animation.chargingPromptState = .LackPowerChargingPromptStart)
  notNotCharging : ¬(thread.animation.animationState = .AnimationStart ∧
    thread.animation.notChargingPromptState = .LackPowerNotChargingPromptStart)
  animatorImage : thread.animation.animatorImageVisible = true ↔
    thread.animation.animationState = .AnimationStart
  percentLabel : thread.animation.percentLabel.visible = true ↔
    thread.animation.animationState = .AnimationStart
  lackPower : thread.animation.lackPowerVisible = true ↔
    thread.animation.chargingPromptState = .LackPowerChargingPromptStart
  lackPowerNotCharge : thread.animation.lackPowerNotChargeVisible = true ↔
    thread.animation.notChargingPromptState = .LackPowerNotChargingPromptStart
  dark : thread.backlight.screenState = .ScreenOff →
    thread.animation.animationState = .AnimationStop ∧
      thread.animation.chargingPromptState = .LackPowerChargingPromptStop ∧
      thread.animation.notChargingPromptState = .LackPowerNotChargingPromptStop

theorem Shows.oneScene {thread : ChargerThread} (hshows : Shows thread.backlight thread.animation) :
    OneScene thread := by
  obtain ⟨scene, ⟨text, hscene⟩, hdark⟩ := hshows
  have hanimation : thread.animation.animationState = .AnimationStart ↔ scene = .Charging := by
    rw [hscene]
    exact scene.render_animationState text
  have hprompt : thread.animation.chargingPromptState = .LackPowerChargingPromptStart ↔
      scene = .LackPowerCharging := by
    rw [hscene]
    exact scene.render_chargingPromptState text
  have hnotPrompt : thread.animation.notChargingPromptState = .LackPowerNotChargingPromptStart ↔
      scene = .LackPowerNotCharging := by
    rw [hscene]
    exact scene.render_notChargingPromptState text
  constructor
  case dark =>
    intro hoff
    rw [hscene, hdark hoff]
    exact ⟨rfl, rfl, rfl⟩
  all_goals
    simp only [hanimation, hprompt, hnotPrompt]
  case notBothPrompts =>
    rintro ⟨rfl, hboth⟩
    cases hboth
  case notCharging =>
    rintro ⟨rfl, hboth⟩
    cases hboth
  case notNotCharging =>
    rintro ⟨rfl, hboth⟩
    cases hboth
  all_goals
    rw [hscene]
    exact decide_eq_true_iff

-- Whatever the order of the calls, as long as none of them reboots or shuts the
-- device down.
theorem charger_oneScene (config : BatteryConfig) (available : Bool) (env : LightEnv)
    {history : List ChargerCall} {thread : ChargerThread} {log : List ChargerEffect}
    (hrun : ChargerRun config available env history thread log)
    (hlog : ∀ effect ∈ log, effect.isReboot = false) : OneScene thread := by
  have hshows : (∀ effect ∈ log, effect.isReboot = false) → Shows thread.backlight thread.animation := by
    refine Run.total_invariant (fun _ state log => (∀ effect ∈ log, effect.isReboot = false) →
      Shows state.backlight state.animation) (fun _ => ChargerThread.init_shows config available env)
      ?_ hrun
    intro history state log call ih hall
    have hbefore := ih fun effect heffect => hall effect (List.mem_append_left _ heffect)
    exact call.execute_shows config
      (fun effect heffect => hall effect (List.mem_append_right log heffect)) hbefore
  exact (hshows hlog).oneScene

-- A charger is connected, and the screen is turned off ten seconds later.
def chargingCalls : List ChargerCall := [
  .CycleMatters 1 {
    temperature := .Holds (ascii "250\n")
    capacity := .Holds (ascii "40\n")
    chargeState := .Holds (ascii "Charging\n")
    light := ⟨true, true⟩ },
  .HandleChargingState 2,
  .HandlePowerKeyState 3,
  .HandleScreenState 10002]

theorem charger_oneScene_charging :
    OneScene ((exec (chargerStep shippedConfig) (ChargerThread.init shippedConfig true ⟨true, true⟩).1
      chargingCalls).get (by decide)).1 :=
  charger_oneScene shippedConfig true ⟨true, true⟩ (exec_run _ _ chargingCalls (by decide)) (by decide)

end BatteryManager.Charger
