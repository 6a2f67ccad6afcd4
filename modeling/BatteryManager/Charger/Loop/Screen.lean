import BatteryManager.Charger.Loop.ChargeStates
import Mathlib.Data.List.Chain

namespace BatteryManager.Charger

open Library

-- A press of the power key lights a dark screen, and so does a release, which
-- also lights the screen that its own press has turned on.
def ChargerThread.lightsByKey (now : Int) (thread : ChargerThread) : Bool :=
  let key := thread.keys KEY_POWER
  if key.isDown then thread.turnsOnByKeydown now
  else key.isUp && (thread.backlight.screenState = .ScreenOff || thread.turnOnByKeydown)

-- What begins the time for which the screen is lit, as the thread can tell.
def LoopState.lights (now : Int) (state : LoopState) : Bool :=
  let thread := state.thread
  match state.point with
  | .CycleMatters => state.nevents = 0 && !thread.started
  | .HandleChargingState =>
      thread.chargeState ≠ .None && thread.chargeState ≠ .Reserved && thread.isChargeStateChanged
  | .HandlePowerKeyState => thread.lightsByKey now
  | _ => false

def LoopState.litAt (state : LoopState) : LoopLabel → Option Int
  | .Loop input => if state.lights input.now then some input.now else none
  | .SetKeyState _ _ _ => none

-- The last time at which the thread has lit the screen.
def lastLit (config : BatteryConfig) (start : LoopState) (history : List LoopLabel) : Option Int :=
  latestStep (loopStep config) LoopState.litAt start history

def LoopEffect.power? : LoopEffect → Option Bool
  | .Call (.SetDisplayPowerStatus powerOn) => some powerOn
  | _ => none

-- What the display has been told.
def displayPower (log : List LoopEffect) : List Bool := log.filterMap LoopEffect.power?

def callPower (out : List ChargerEffect) : List Bool := displayPower (out.map .Call)

theorem callPower_append (first second : List ChargerEffect) :
    callPower (first ++ second) = callPower first ++ callPower second := by
  unfold callPower displayPower
  rw [List.map_append, List.filterMap_append]

theorem turnOnScreen_power (backlight : BatteryBacklight) :
    callPower backlight.turnOnScreen.2 = if backlight.screenState = .ScreenOn then [] else [true] := by
  unfold BatteryBacklight.turnOnScreen
  by_cases hon : backlight.screenState = .ScreenOn
  · simp [hon, callPower, displayPower]
  · simp [hon, callPower, displayPower, LoopEffect.power?]

theorem turnOffScreen_power (backlight : BatteryBacklight) :
    callPower backlight.turnOffScreen.2 = if backlight.screenState = .ScreenOff then [] else [false] := by
  unfold BatteryBacklight.turnOffScreen
  by_cases hoff : backlight.screenState = .ScreenOff
  · simp [hoff, callPower, displayPower]
  · simp [hoff, callPower, displayPower, LoopEffect.power?]

theorem LoopEffect.power?_of_isLight {effect : ChargerEffect} (hlight : effect.isLight = true) :
    LoopEffect.power? (.Call effect) = none := by
  cases effect with
  | SetDisplayPowerStatus powerOn => cases hlight
  | _ => rfl

-- The lamp does not tell the display anything.
theorem BatteryLed.updateColor_power (env : LightEnv) (lightConf : List LightConf)
    (chargeState : BatteryChargeState) (capacity : Int) (led : BatteryLed) :
    callPower (led.updateColor env lightConf chargeState capacity).effects = [] := by
  unfold callPower displayPower
  refine List.filterMap_eq_nil_iff.mpr fun call hcall => ?_
  obtain ⟨effect, heffect, rfl⟩ := List.mem_map.mp hcall
  exact LoopEffect.power?_of_isLight (updateColor_lights env lightConf chargeState capacity led effect heffect)

-- What the lighting of the screen depends on.
structure SameScreen (first second : ChargerThread) : Prop where
  screenState : first.backlight.screenState = second.backlight.screenState
  backlightWait : first.backlightWait = second.backlightWait
  started : first.started = second.started

-- What a call does to the screen, and what the display is told of it.
inductive ScreenMove (now : Int) (thread next : ChargerThread) (power : List Bool) : Bool → Prop
  | Keeps : SameScreen next thread → power = [] → ScreenMove now thread next power false
  | Lights : next.backlight.screenState = .ScreenOn → next.backlightWait = now - 1 →
      next.started = thread.started →
      power = (if thread.backlight.screenState = .ScreenOn then [] else [true]) →
      ScreenMove now thread next power true
  | Darkens : next.backlight.screenState = .ScreenOff → next.started = thread.started →
      power = (if thread.backlight.screenState = .ScreenOff then [] else [false]) →
      ScreenMove now thread next power false

namespace ChargerThread

variable {config : BatteryConfig} (now : Int) (thread : ChargerThread)

-- An update leaves the screen alone.
theorem updateBatteryInfo_screen (env : UpdateEnv) :
    SameScreen (thread.updateBatteryInfo config env).1 thread := by
  obtain ⟨animation, hwritten⟩ := thread.updateBatteryInfo_outcome config env
  rw [hwritten]
  exact ⟨rfl, rfl, rfl⟩

theorem updateBatteryInfo_power (env : UpdateEnv) :
    callPower (thread.updateBatteryInfo config env).2 = [] := by
  unfold updateBatteryInfo handleTemperature handleCapacity
  dsimp only
  rw [callPower_append, callPower_append, BatteryLed.updateColor_power, List.append_nil]
  split <;> split <;> rfl

theorem cycleMatters_screen (config : BatteryConfig) (now : Int) (thread : ChargerThread)
    (env : UpdateEnv) :
    SameScreen (thread.cycleMatters config now env).1
      (if thread.started then thread else { thread with started := true, backlightWait := now - 1 }) := by
  obtain ⟨⟨epollInterval, animation, hwritten⟩, -⟩ := thread.cycleMatters_outcome config now env
  rw [hwritten]
  by_cases hstarted : thread.started = true
  · rw [if_pos hstarted, if_pos hstarted]
    exact ⟨rfl, rfl, hstarted.symm⟩
  · rw [if_neg hstarted, if_neg hstarted]
    exact ⟨rfl, rfl, rfl⟩

theorem cycleMatters_power (config : BatteryConfig) (now : Int) (thread : ChargerThread)
    (env : UpdateEnv) : callPower (thread.cycleMatters config now env).2 = [] := by
  rw [(thread.cycleMatters_outcome config now env).2]
  exact thread.updateBatteryInfo_power env

theorem handleChargingState_screen :
    ScreenMove now thread (thread.handleChargingState now).1 (callPower (thread.handleChargingState now).2)
      (thread.chargeState ≠ .None && thread.chargeState ≠ .Reserved && thread.isChargeStateChanged) := by
  have houtcome := thread.handleChargingState_outcome now
  generalize thread.handleChargingState now = result at houtcome ⊢
  cases houtcome with
  | Ignored hignored =>
      have hquiet : (thread.chargeState ≠ .None && thread.chargeState ≠ .Reserved &&
          thread.isChargeStateChanged) = false := by
        rcases hignored with hnone | hreserved | hsame
        · simp [hnone]
        · simp [hreserved]
        · simp [hsame]
      rw [hquiet]
      exact .Keeps ⟨rfl, rfl, rfl⟩ rfl
  | TurnsOn hknown hchanged =>
      obtain ⟨hnone, hreserved⟩ := not_or.mp hknown
      have hlights : (thread.chargeState ≠ .None && thread.chargeState ≠ .Reserved &&
          thread.isChargeStateChanged) = true := by simp [hnone, hreserved, hchanged]
      rw [hlights]
      exact .Lights (thread.backlight.turnOnScreen_screenState) rfl rfl
        (turnOnScreen_power thread.backlight)

theorem handleScreenState_screen :
    ScreenMove now thread (thread.handleScreenState now).1 (callPower (thread.handleScreenState now).2)
      false := by
  have houtcome := thread.handleScreenState_outcome now
  generalize thread.handleScreenState now = result at houtcome ⊢
  cases houtcome with
  | Ignored => exact .Keeps ⟨rfl, rfl, rfl⟩ rfl
  | TurnsOff =>
      exact .Darkens (thread.backlight.turnOffScreen_screenState) rfl
        (turnOffScreen_power thread.backlight)

theorem screenState_off_iff (state : ScreenState) : state = .ScreenOff ↔ state ≠ .ScreenOn := by
  cases state <;> simp

theorem handlePowerKey_screen :
    ScreenMove now thread (thread.handlePowerKey KEY_POWER now).1
      (callPower (thread.handlePowerKey KEY_POWER now).2) (thread.lightsByKey now) := by
  have houtcome := thread.handlePowerKey_outcome KEY_POWER now
  generalize thread.handlePowerKey KEY_POWER now = result at houtcome ⊢
  cases houtcome with
  | Ignored hignored =>
      have hquiet : thread.lightsByKey now = false := by
        unfold lightsByKey turnsOnByKeydown
        rcases hignored with hother | ⟨hdown, -, hon⟩ | ⟨hup, hidle⟩
        · exact absurd rfl hother
        · simp [hdown, hon]
        · simp [hup, hidle]
      rw [hquiet]
      exact .Keeps ⟨rfl, rfl, rfl⟩ rfl
  | Reboots _ hdown hlong =>
      have hquiet : thread.lightsByKey now = false := by
        unfold lightsByKey turnsOnByKeydown
        simp [hdown, Int.not_lt.mpr hlong]
      rw [hquiet, callPower_append, turnOffScreen_power]
      refine .Darkens (thread.backlight.turnOffScreen_screenState) rfl ?_
      exact List.append_nil _
  | TurnsOnByKeydown _ hdown hshort hoff =>
      have hlights : thread.lightsByKey now = true := by
        unfold lightsByKey turnsOnByKeydown
        simp [hdown, hshort, hoff]
      obtain ⟨keyWait, hwritten⟩ := thread.setKeyWait_outcome (thread.keys KEY_POWER) REBOOT_TIME
      rw [hlights, hwritten]
      exact .Lights (thread.backlight.turnOnScreen_screenState) rfl rfl
        (turnOnScreen_power thread.backlight)
  | TurnsOff released _ hup hwas hon hplain hreleased =>
      subst hreleased
      have hquiet : thread.lightsByKey now = false := by
        unfold lightsByKey
        simp [hup, hon, hplain]
      rw [hquiet]
      exact .Darkens (thread.backlight.turnOffScreen_screenState) rfl
        (turnOffScreen_power thread.backlight)
  | TurnsOn released _ hup hwas hstays hreleased =>
      subst hreleased
      have hlights : thread.lightsByKey now = true := by
        unfold lightsByKey
        rcases hstays with hdark | hpressed
        · simp [hup, hwas, (screenState_off_iff _).mpr hdark]
        · simp [hup, hwas, hpressed]
      rw [hlights]
      exact .Lights (thread.backlight.turnOnScreen_screenState) rfl rfl (turnOnScreen_power thread.backlight)

theorem handlePowerKeyState_screen :
    ScreenMove now thread (thread.handlePowerKeyState now).1
      (callPower (thread.handlePowerKeyState now).2) (thread.lightsByKey now) := by
  have hhandled := thread.handlePowerKey_screen now
  obtain ⟨keyWait, hwritten⟩ := thread.handlePowerKeyState_outcome now
  rw [hwritten]
  generalize thread.lightsByKey now = lights at hhandled ⊢
  cases hhandled with
  | Keeps hsame hpower => exact .Keeps ⟨hsame.screenState, hsame.backlightWait, hsame.started⟩ hpower
  | Lights hon hwait hstarted hpower => exact .Lights hon hwait hstarted hpower
  | Darkens hoff hstarted hpower => exact .Darkens hoff hstarted hpower

theorem setKeyState_screen (code : Nat) (value : Int) :
    SameScreen (thread.setKeyState code value now) thread := by
  obtain ⟨keys, hwritten⟩ := thread.setKeyState_outcome code value now
  rw [hwritten]
  exact ⟨rfl, rfl, rfl⟩

end ChargerThread

theorem ScreenMove.started {now : Int} {thread next : ChargerThread} {power : List Bool} {lights : Bool}
    (hmove : ScreenMove now thread next power lights) : next.started = thread.started := by
  cases hmove with
  | Keeps hsame => exact hsame.started
  | Lights _ _ hstarted => exact hstarted
  | Darkens _ hstarted => exact hstarted

-- The values that the display was told alternate, and the last one is the
-- present one. `Init` has turned the screen on.
structure Told (log : List LoopEffect) (screenState : ScreenState) : Prop where
  alternates : List.IsChain (· ≠ ·) (true :: displayPower log)
  last : (displayPower log).getLast?.getD true = decide (screenState = .ScreenOn)

theorem displayPower_append (first second : List LoopEffect) :
    displayPower (first ++ second) = displayPower first ++ displayPower second :=
  List.filterMap_append

theorem Told.silent {log out : List LoopEffect} {screenState : ScreenState} (htold : Told log screenState)
    (hpower : displayPower out = []) : Told (log ++ out) screenState := by
  have hsame : displayPower (log ++ out) = displayPower log := by
    rw [displayPower_append, hpower, List.append_nil]
  exact ⟨hsame ▸ htold.alternates, hsame ▸ htold.last⟩

-- The display is told what is new.
theorem Told.told {log out : List LoopEffect} {before after : ScreenState} (htold : Told log before)
    (hpower : displayPower out = if before = after then [] else [decide (after = .ScreenOn)]) :
    Told (log ++ out) after := by
  by_cases hsame : before = after
  · subst hsame
    rw [if_pos rfl] at hpower
    exact htold.silent hpower
  · rw [if_neg hsame] at hpower
    have hpowers : displayPower (log ++ out) = displayPower log ++ [decide (after = .ScreenOn)] := by
      rw [displayPower_append, hpower]
    have hdiffers : decide (before = .ScreenOn) ≠ decide (after = .ScreenOn) := by
      cases before <;> cases after <;> simp at hsame ⊢
    constructor
    · rw [hpowers, ← List.cons_append]
      refine htold.alternates.append (List.isChain_singleton _) ?_
      intro last hlast first hfirst
      rw [List.getLast?_cons, Option.mem_some_iff] at hlast
      cases hfirst
      rw [← hlast, htold.last]
      exact hdiffers
    · rw [hpowers]
      simp

theorem ScreenMove.told {now : Int} {thread next : ChargerThread} {lights : Bool} {log out : List LoopEffect}
    (hmove : ScreenMove now thread next (displayPower out) lights)
    (htold : Told log thread.backlight.screenState) : Told (log ++ out) next.backlight.screenState := by
  generalize hpowers : displayPower out = power at hmove
  cases hmove with
  | Keeps hsame hpower =>
      rw [hsame.screenState]
      exact htold.silent (hpowers.trans hpower)
  | Lights hon _ _ hpower =>
      refine htold.told ?_
      rw [hpowers, hpower, hon]
      rfl
  | Darkens hoff _ hpower =>
      refine htold.told ?_
      rw [hpowers, hpower, hoff]
      rfl

-- The time that the thread keeps is the last one at which the screen was lit.
structure Shown (config : BatteryConfig) (start : LoopState) (history : List LoopLabel) (state : LoopState)
    (log : List LoopEffect) : Prop where
  fresh : state.thread.started = false → state.point = .CycleMatters ∧ state.nevents = 0 ∧
    state.thread.backlight.screenState = .ScreenOn
  lit : state.thread.started = true → state.thread.backlight.screenState = .ScreenOn →
    ∃ lit, lastLit config start history = some lit ∧ state.thread.backlightWait = lit - 1
  told : Told log state.thread.backlight.screenState

section Step

variable {config : BatteryConfig} {start state next : LoopState} {history : List LoopLabel}
variable {label : LoopLabel} {log out : List LoopEffect}
variable (hrun : Run (loopStep config) start history state log)
variable (hshown : Shown config start history state log)
include hrun hshown

theorem Shown.moved (lights : Bool) (now : Int) (hstarted : state.thread.started = true)
    (hlit : state.litAt label = if lights then some now else none)
    (hmove : ScreenMove now state.thread next.thread (displayPower out) lights) :
    Shown config start (history ++ [label]) next (log ++ out) := by
  have hlast := latestStep_concat LoopState.litAt hrun label
  rw [hlit] at hlast
  refine ⟨?_, ?_, hmove.told hshown.told⟩
  · intro hfresh
    cases hfresh.symm.trans (hmove.started.trans hstarted)
  · intro _ hon
    generalize displayPower out = power at hmove
    unfold lastLit
    cases hmove with
    | Keeps hsame =>
        obtain ⟨lit, hbefore, hwait⟩ := hshown.lit hstarted (hsame.screenState.symm.trans hon)
        exact ⟨lit, hlast.trans hbefore, hsame.backlightWait.trans hwait⟩
    | Lights _ hwait => exact ⟨now, hlast, hwait⟩
    | Darkens hoff => cases hoff.symm.trans hon

theorem Shown.kept (hstarted : state.thread.started = true) (hlit : state.litAt label = none)
    (hsame : SameScreen next.thread state.thread) (hpower : displayPower out = []) :
    Shown config start (history ++ [label]) next (log ++ out) :=
  hshown.moved hrun false 0 hstarted hlit (.Keeps hsame hpower)

-- The first turn lights the screen, which `Init` has turned on.
theorem Shown.first {input : LoopInput} (hfresh : state.thread.started = false)
    (hpoint : state.point = .CycleMatters) (hnone : state.nevents = 0) :
    Shown config start (history ++ [.Loop input])
      (state.goto .HandleChargingState input.now
        (state.thread.cycleMatters config input.now input.env)).1
      (log ++ (state.goto .HandleChargingState input.now
        (state.thread.cycleMatters config input.now input.env)).2) := by
  have hscreen := state.thread.cycleMatters_screen config input.now input.env
  rw [if_neg (by simp [hfresh])] at hscreen
  have hlast := latestStep_concat LoopState.litAt hrun (.Loop input)
  have hlights : state.lights input.now = true := by simp [LoopState.lights, hpoint, hnone, hfresh]
  refine ⟨?_, ?_, ?_⟩
  · intro hnot
    cases hnot.symm.trans hscreen.started
  · intro _ _
    refine ⟨input.now, hlast.trans ?_, hscreen.backlightWait⟩
    simp [LoopState.litAt, hlights]
  · have hsilent := hshown.told.silent (state.thread.cycleMatters_power config input.now input.env)
    exact hscreen.screenState ▸ hsilent

theorem Shown.setKeyState (code : Nat) (value now : Int) :
    Shown config start (history ++ [.SetKeyState code value now]) (state.setKeyState code value now)
      (log ++ []) := by
  have hscreen := state.thread.setKeyState_screen now code value
  have hlast := latestStep_concat LoopState.litAt hrun (.SetKeyState code value now)
  refine ⟨?_, ?_, ?_⟩
  · intro hfresh
    obtain ⟨hpoint, hnone, hon⟩ := hshown.fresh (hscreen.started.symm.trans hfresh)
    exact ⟨hpoint, hnone, hscreen.screenState.trans hon⟩
  · intro hstarted hon
    obtain ⟨lit, hbefore, hwait⟩ :=
      hshown.lit (hscreen.started.symm.trans hstarted) (hscreen.screenState.symm.trans hon)
    exact ⟨lit, hlast.trans hbefore, hscreen.backlightWait.trans hwait⟩
  · have hsilent : Told (log ++ []) state.thread.backlight.screenState := hshown.told.silent rfl
    exact hscreen.screenState ▸ hsilent

theorem shown_step (hstep : loopStep config state label = some (next, out)) :
    Shown config start (history ++ [label]) next (log ++ out) := by
  obtain ⟨-, hmove⟩ := loopStep_move hstep
  have hpast : state.point ≠ .CycleMatters → state.thread.started = true := by
    intro hpoint
    by_contra hfresh
    exact hpoint (hshown.fresh (Bool.eq_false_iff.mpr hfresh)).1
  cases hmove with
  | CycleMatters input hpoint hnone =>
      cases hfresh : state.thread.started with
      | false => exact hshown.first hrun hfresh hpoint hnone
      | true =>
          have hscreen := state.thread.cycleMatters_screen config input.now input.env
          rw [if_pos hfresh] at hscreen
          have hdark : state.lights input.now = false := by simp [LoopState.lights, hpoint, hfresh]
          exact hshown.kept hrun hfresh (by simp [LoopState.litAt, hdark]) hscreen
            (state.thread.cycleMatters_power config input.now input.env)
  | Skip input hpoint hsome =>
      have hstarted : state.thread.started = true := by
        by_contra hfresh
        exact hsome (hshown.fresh (Bool.eq_false_iff.mpr hfresh)).2.1
      have hdark : state.lights input.now = false := by simp [LoopState.lights, hpoint, hsome]
      exact hshown.kept hrun hstarted (by simp [LoopState.litAt, hdark]) ⟨rfl, rfl, rfl⟩ rfl
  | HandleChargingState input hpoint =>
      have hstarted := hpast (by simp [hpoint])
      refine hshown.moved hrun _ _ hstarted ?_ (state.thread.handleChargingState_screen input.now)
      unfold LoopState.litAt LoopState.lights
      rw [hpoint]
  | HandlePowerKeyState input hpoint =>
      have hstarted := hpast (by simp [hpoint])
      refine hshown.moved hrun _ _ hstarted ?_ (state.thread.handlePowerKeyState_screen input.now)
      unfold LoopState.litAt LoopState.lights
      rw [hpoint]
  | HandleScreenState input hpoint =>
      have hstarted := hpast (by simp [hpoint])
      refine hshown.moved hrun _ _ hstarted ?_ (state.thread.handleScreenState_screen input.now)
      unfold LoopState.litAt LoopState.lights
      rw [hpoint]
  | EpollWait input hpoint =>
      have hstarted := hpast (by simp [hpoint])
      have hdark : state.lights input.now = false := by simp [LoopState.lights, hpoint]
      exact hshown.kept hrun hstarted (by simp [LoopState.litAt, hdark]) ⟨rfl, rfl, rfl⟩ rfl
  | UeventCallback input hpoint =>
      have hstarted := hpast (by simp [hpoint])
      have hdark : state.lights input.now = false := by simp [LoopState.lights, hpoint]
      have hlit : state.litAt (.Loop input) = none := by simp [LoopState.litAt, hdark]
      have hkept : SameScreen (state.thread.ueventCallback config input.received input.env).1 state.thread ∧
          callPower (state.thread.ueventCallback config input.received input.env).2 = [] := by
        unfold ChargerThread.ueventCallback
        split
        · exact ⟨state.thread.updateBatteryInfo_screen input.env,
            state.thread.updateBatteryInfo_power input.env⟩
        · exact ⟨⟨rfl, rfl, rfl⟩, rfl⟩
      exact hshown.kept hrun hstarted hlit hkept.1 hkept.2
  | SetKeyState code value now => exact hshown.setKeyState hrun code value now

end Step

theorem shown_run {config : BatteryConfig} {available : Bool} {env : LightEnv} {boot : Nat}
    {history : List LoopLabel} {state : LoopState} {log : List LoopEffect}
    (hrun : LoopRun config available env boot history state log) :
    Shown config (LoopState.start config available env boot) history state log := by
  induction hrun with
  | nil =>
      refine ⟨fun _ => ⟨rfl, rfl, rfl⟩, nofun, ?_⟩
      exact ⟨List.isChain_singleton true, rfl⟩
  | snoc label hrun hstep ih => exact shown_step hrun ih hstep

namespace ChargerThread

end ChargerThread

-- What the handling of the power key tells of the press: whether it has lit the
-- screen, until its release is handled.
def LoopState.pressAt (state : LoopState) : LoopLabel → Option Bool
  | .SetKeyState _ _ _ => none
  | .Loop input =>
      let key := state.thread.keys KEY_POWER
      if state.point = .HandlePowerKeyState then
        if key.isDown then if state.thread.turnsOnByKeydown input.now then some true else none
        else if key.isUp then some false else none
      else none

def pressLit (config : BatteryConfig) (start : LoopState) (history : List LoopLabel) : Bool :=
  (latestStep (loopStep config) LoopState.pressAt start history).getD false

section Runs

variable (config : BatteryConfig) (available : Bool) (env : LightEnv) (boot : Nat)

-- What begins the time for which the screen is lit: the start of the loop, a
-- change to a charge state that is known, a press of the power key on a dark
-- screen, and a release, on a dark screen or after a press that lit it.
inductive Lights : List LoopLabel → LoopLabel → Prop
  | Start {before : List LoopLabel} (input : LoopInput) :
      (∀ label ∈ before, label.isLoop = false) → Lights before (.Loop input)
  | Change {before : List LoopLabel} {state : LoopState} {log : List LoopEffect} (input : LoopInput) :
      LoopRun config available env boot before state log → state.point = .HandleChargingState →
      ChangedSince config available env boot before state → Lights before (.Loop input)
  | Press {before : List LoopLabel} {state : LoopState} {log : List LoopEffect} (input : LoopInput) :
      LoopRun config available env boot before state log → state.point = .HandlePowerKeyState →
      (state.thread.keys KEY_POWER).isDown = true →
      input.now < (state.thread.keys KEY_POWER).timestamp + REBOOT_TIME →
      state.thread.backlight.screenState = .ScreenOff → Lights before (.Loop input)
  | Release {before : List LoopLabel} {state : LoopState} {log : List LoopEffect} (input : LoopInput) :
      LoopRun config available env boot before state log → state.point = .HandlePowerKeyState →
      (state.thread.keys KEY_POWER).isDown = false → (state.thread.keys KEY_POWER).isUp = true →
      state.thread.backlight.screenState = .ScreenOff ∨
        pressLit config (LoopState.start config available env boot) before = true →
      Lights before (.Loop input)

variable {config available env boot}
variable {history : List LoopLabel} {state : LoopState} {log : List LoopEffect}

end Runs

-- A charger that is plugged in, and ten seconds in which nothing happens.
def idleTurns : List LoopLabel :=
  List.replicate 5 (quiet "Charging\n" 1000) ++ List.replicate 3 (quiet "Charging\n" 11000)

-- The display is told of every change of the screen, and of nothing twice.
theorem displayPower_alternates {config : BatteryConfig} {available : Bool} {env : LightEnv} {boot : Nat}
    {history : List LoopLabel} {state : LoopState} {log : List LoopEffect}
    (hrun : LoopRun config available env boot history state log) :
    List.IsChain (· ≠ ·) (true :: displayPower log) ∧
      (displayPower log).getLast?.getD true = decide (state.thread.backlight.screenState = .ScreenOn) :=
  ⟨(shown_run hrun).told.alternates, (shown_run hrun).told.last⟩

theorem displayPower_alternates_idle :
    let last := (exec (loopStep shippedConfig) (LoopState.start shippedConfig true ⟨true, true⟩ 0)
      (idleTurns ++ [quiet "Charging\n" 11000])).get (by decide)
    displayPower last.2 = [false] ∧
      List.IsChain (· ≠ ·) (true :: displayPower last.2) := by
  have hrun := exec_run (loopStep shippedConfig) (LoopState.start shippedConfig true ⟨true, true⟩ 0)
    (idleTurns ++ [quiet "Charging\n" 11000]) (by decide)
  exact ⟨by decide +kernel, (displayPower_alternates hrun).1⟩

end BatteryManager.Charger
