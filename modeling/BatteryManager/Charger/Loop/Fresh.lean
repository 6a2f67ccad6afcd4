import BatteryManager.Charger.Loop.Calls
import BatteryManager.Charger.Readings
import BatteryManager.Charger.Scenes

namespace BatteryManager.Charger

open Library

-- The text of the label is that of the latest capacity.
def percentText (capacity : Int) : String := toString capacity ++ "%"

-- The animation is the scene, and tells the capacity where the scene does.
def Depicts (animation : ChargerAnimation) (capacity : Int) (scene : Scene) : Prop :=
  ∃ text, animation = scene.render text ∧ (scene = .Charging → text = percentText capacity)

-- Some scene is on the screen, the one that the reading calls for if it calls for one.
structure ChargerThread.Fresh (thread : ChargerThread) : Prop where
  rendered : ∃ (scene : Scene) (text : String), thread.animation = scene.render text
  depicts : thread.backlight.screenState = .ScreenOn →
    ∀ scene, sceneFor thread.lackPowerCapacity thread.chargeState thread.capacity = some scene →
      Depicts thread.animation thread.capacity scene

theorem depicts_updateAnimation {lackPowerCapacity capacity : Int} {chargeState : BatteryChargeState}
    {scene : Scene} (hscene : sceneFor lackPowerCapacity chargeState capacity = some scene)
    (before : Scene) (text : String) :
    Depicts (updateAnimation lackPowerCapacity chargeState capacity (before.render text)) capacity scene := by
  unfold sceneFor at hscene
  unfold updateAnimation
  by_cases hlack : capacity ≤ lackPowerCapacity
  · cases chargeState with
    | None => cases hscene
    | Reserved => cases hscene
    | Enable =>
        obtain rfl : Scene.LackPowerCharging = scene := by simpa [hlack] using hscene
        exact ⟨text, by simp [hlack, Scene.render_lackPowerCharging], nofun⟩
    | Disable =>
        obtain rfl : Scene.LackPowerNotCharging = scene := by simpa [hlack] using hscene
        exact ⟨text, by simp [hlack, Scene.render_lackPowerNotCharging], nofun⟩
    | Full => simp [hlack] at hscene
  · have hcharging := before.render_charging text capacity
    cases chargeState with
    | None => cases hscene
    | Reserved => cases hscene
    | Enable =>
        obtain rfl : Scene.Charging = scene := by simpa [hlack] using hscene
        exact ⟨percentText capacity, by simp [hlack, hcharging, percentText], fun _ => rfl⟩
    | Disable => simp [hlack] at hscene
    | Full =>
        obtain rfl : Scene.Charging = scene := by simpa [hlack] using hscene
        exact ⟨percentText capacity, by simp [hlack, hcharging, percentText], fun _ => rfl⟩

namespace ChargerThread

variable {thread next : ChargerThread}

-- Nothing that the screen depends on is touched.
theorem Fresh.same (hfresh : thread.Fresh) (hanimation : next.animation = thread.animation)
    (hscreen : next.backlight.screenState = thread.backlight.screenState)
    (hreadings : SameReadings next thread) : next.Fresh := by
  refine ⟨?_, ?_⟩
  · rw [hanimation]
    exact hfresh.rendered
  · rw [hanimation, hscreen, hreadings.capacity, hreadings.chargeState, hreadings.lackPowerCapacity]
    exact hfresh.depicts

-- The animation is brought up to date, for whatever the reading is.
theorem Fresh.updateAnimation (hfresh : thread.Fresh) (hanimation : next.animation = thread.animation) :
    next.updateAnimation.Fresh := by
  obtain ⟨scene, text, hrender⟩ := hfresh.rendered
  have hnext : next.updateAnimation.animation =
      Charger.updateAnimation next.lackPowerCapacity next.chargeState next.capacity (scene.render text) := by
    rw [← hrender, ← hanimation]
    rfl
  refine ⟨?_, ?_⟩
  · rw [hnext]
    obtain ⟨shown, hshown⟩ :=
      scene.render_updateAnimation text next.lackPowerCapacity next.chargeState next.capacity
    exact ⟨_, shown, hshown⟩
  · intro _ called hcalled
    rw [hnext]
    exact depicts_updateAnimation hcalled scene text

-- Nothing is asked of a dark screen.
theorem Fresh.dark (hfresh : thread.Fresh) (hoff : next.backlight.screenState = .ScreenOff)
    (hanimation : next.animation = thread.animation ∨ next.animation = thread.animation.stopAll) :
    next.Fresh := by
  obtain ⟨scene, text, hrender⟩ := hfresh.rendered
  refine ⟨?_, ?_⟩
  · rcases hanimation with hkept | hstopped
    · exact ⟨scene, text, hkept.trans hrender⟩
    · exact ⟨.Blank, text, by rw [hstopped, hrender, scene.render_stopAll]⟩
  · intro hon
    cases hoff.symm.trans hon

theorem Fresh.updateBatteryInfo (hfresh : thread.Fresh) (config : BatteryConfig) (env : UpdateEnv) :
    (thread.updateBatteryInfo config env).1.Fresh := by
  unfold ChargerThread.updateBatteryInfo
  dsimp only
  split
  · exact hfresh.updateAnimation rfl
  · rename_i hdark
    refine hfresh.dark ?_ (.inl rfl)
    cases hscreen : thread.backlight.screenState with
    | ScreenOff => exact hscreen
    | ScreenOn => exact absurd hscreen hdark

theorem Fresh.updateEpollInterval (hfresh : thread.Fresh) (chargeState : BatteryChargeState) :
    (thread.updateEpollInterval chargeState).Fresh := by
  obtain ⟨epollInterval, hwritten⟩ := thread.updateEpollInterval_outcome chargeState
  rw [hwritten]
  exact hfresh.same rfl rfl ⟨rfl, rfl, rfl⟩

theorem Fresh.cycleMatters (hfresh : thread.Fresh) (config : BatteryConfig) (now : Int) (env : UpdateEnv) :
    (thread.cycleMatters config now env).1.Fresh := by
  unfold ChargerThread.cycleMatters
  dsimp only
  split
  · exact (hfresh.updateBatteryInfo config env).updateEpollInterval _
  · have hstarted : { thread with started := true, backlightWait := now - 1 }.Fresh :=
      hfresh.same rfl rfl ⟨rfl, rfl, rfl⟩
    exact (hstarted.updateBatteryInfo config env).updateEpollInterval _

theorem Fresh.handleChargingState (hfresh : thread.Fresh) (now : Int) :
    (thread.handleChargingState now).1.Fresh := by
  have houtcome := thread.handleChargingState_outcome now
  generalize thread.handleChargingState now = result at houtcome ⊢
  cases houtcome with
  | Ignored => exact hfresh
  | TurnsOn => exact hfresh.updateAnimation rfl

theorem Fresh.handleScreenState (hfresh : thread.Fresh) (now : Int) :
    (thread.handleScreenState now).1.Fresh := by
  have houtcome := thread.handleScreenState_outcome now
  generalize thread.handleScreenState now = result at houtcome ⊢
  cases houtcome with
  | Ignored => exact hfresh
  | TurnsOff => exact hfresh.dark thread.backlight.turnOffScreen_screenState (.inr rfl)

theorem Fresh.handlePowerKey (hfresh : thread.Fresh) (keycode : Nat) (now : Int) :
    (thread.handlePowerKey keycode now).1.Fresh := by
  have houtcome := thread.handlePowerKey_outcome keycode now
  generalize thread.handlePowerKey keycode now = result at houtcome ⊢
  cases houtcome with
  | Ignored => exact hfresh
  | Reboots => exact hfresh.dark thread.backlight.turnOffScreen_screenState (.inl rfl)
  | TurnsOnByKeydown =>
      obtain ⟨keyWait, hwritten⟩ := thread.setKeyWait_outcome (thread.keys keycode) REBOOT_TIME
      rw [hwritten]
      exact hfresh.updateAnimation rfl
  | TurnsOff released _ _ _ _ _ _ =>
      exact hfresh.dark thread.backlight.turnOffScreen_screenState (.inr rfl)
  | TurnsOn released _ _ _ _ hreleased =>
      subst hreleased
      exact hfresh.updateAnimation rfl

theorem Fresh.handlePowerKeyState (hfresh : thread.Fresh) (now : Int) :
    (thread.handlePowerKeyState now).1.Fresh := by
  have hhandled := hfresh.handlePowerKey KEY_POWER now
  obtain ⟨keyWait, hwritten⟩ := thread.handlePowerKeyState_outcome now
  rw [hwritten]
  exact hhandled.same rfl rfl ⟨rfl, rfl, rfl⟩

theorem Fresh.setKeyState (hfresh : thread.Fresh) (code : Nat) (value now : Int) :
    (thread.setKeyState code value now).Fresh := by
  obtain ⟨keys, hwritten⟩ := thread.setKeyState_outcome code value now
  rw [hwritten]
  exact hfresh.same rfl rfl ⟨rfl, rfl, rfl⟩

theorem Fresh.execute (hfresh : thread.Fresh) (config : BatteryConfig) (call : ChargerCall) :
    (call.execute config thread).1.Fresh := by
  cases call with
  | CycleMatters now env => exact hfresh.cycleMatters config now env
  | UpdateBatteryInfo env => exact hfresh.updateBatteryInfo config env
  | HandleChargingState now => exact hfresh.handleChargingState now
  | HandlePowerKeyState now => exact hfresh.handlePowerKeyState now
  | HandlePowerKey keycode now => exact hfresh.handlePowerKey keycode now
  | HandleScreenState now => exact hfresh.handleScreenState now
  | SetKeyState code value now => exact hfresh.setKeyState code value now

end ChargerThread

section Runs

variable {config : BatteryConfig} {available : Bool} {env : LightEnv}

theorem chargerRun_fresh {calls : List ChargerCall} {thread : ChargerThread} {effects : List ChargerEffect}
    (hrun : ChargerRun config available env calls thread effects) : thread.Fresh := by
  refine Run.total_invariant (fun _ thread _ => ChargerThread.Fresh thread) ?_ ?_ hrun
  · exact ⟨⟨.Blank, "", rfl⟩, nofun⟩
  · intro calls thread effects call hfresh
    exact hfresh.execute config call

-- A lit screen is never stale: it shows the scene that the latest charge state
-- and the latest capacity call for, with that capacity.
theorem screen_fresh {boot : Nat} {history : List LoopLabel} {state : LoopState} {log : List LoopEffect}
    (hrun : LoopRun config available env boot history state log)
    (hon : state.thread.backlight.screenState = .ScreenOn) :
    let calls := loopCalls config (LoopState.start config available env boot) history
    let capacity := capacityOf (latest ChargerCall.capacityOpened calls)
    let chargeState := chargeStateOf (latest ChargerCall.chargeStateOpened calls)
    ∀ scene, sceneFor (config.getInt "soc.shutdown" 0) chargeState capacity = some scene →
      Depicts state.thread.animation capacity scene := by
  intro calls capacity chargeState scene hscene
  have hcalls := loopRun_calls hrun
  have hremembers := hcalls.remembers
  have hdepicts := (chargerRun_fresh hcalls).depicts hon scene
  rw [hremembers.capacity, hremembers.chargeState, hremembers.lackPowerCapacity] at hdepicts
  exact hdepicts hscene

end Runs

-- The battery is read, and the new charge state lights the screen up.
def litTurns : List LoopLabel := [quiet "Charging\n" 1000, quiet "Charging\n" 1000]

theorem screen_fresh_lit :
    Depicts ((exec (loopStep shippedConfig) (LoopState.start shippedConfig true ⟨true, true⟩ 0)
      litTurns).get (by decide)).1.thread.animation 40 .Charging := by
  have hrun := exec_run (loopStep shippedConfig) (LoopState.start shippedConfig true ⟨true, true⟩ 0)
    litTurns (by decide)
  have hcapacity : capacityOf (latest ChargerCall.capacityOpened
      (loopCalls shippedConfig (LoopState.start shippedConfig true ⟨true, true⟩ 0) litTurns)) = 40 := by
    decide +kernel
  have hfresh := screen_fresh hrun rfl .Charging (by decide +kernel)
  rw [hcapacity] at hfresh
  exact hfresh

end BatteryManager.Charger
