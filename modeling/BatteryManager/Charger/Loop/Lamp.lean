import BatteryManager.Charger.Loop.Calls
import BatteryManager.Charger.Loop.ChargeStates
import BatteryManager.Charger.Readings
import BatteryManager.Light.Theorems

namespace BatteryManager.Charger

open Library

-- The state in which the service treats its lamp as the charger does here. The
-- charger does not turn it off while charging is disabled.
def BatteryChargeState.lit : BatteryChargeState → BatteryManager.BatteryChargeState
  | .None => .None
  | .Enable => .Enable
  | .Disable => .Enable
  | .Full => .Full
  | .Reserved => .Butt

def BatteryLed.asLight (led : BatteryLed) : BatteryLight where
  available := led.available
  lightColor := led.lightColor

def ChargerEffect.lamp? : ChargerEffect → Option Effect
  | .TurnOffLight succeeded => some (.TurnOffLight succeeded)
  | .TurnOnLight red green blue succeeded => some (.TurnOnLight red green blue succeeded)
  | _ => none

def lampEffects (out : List ChargerEffect) : List Effect := out.filterMap ChargerEffect.lamp?

theorem lampEffects_append (first second : List ChargerEffect) :
    lampEffects (first ++ second) = lampEffects first ++ lampEffects second :=
  List.filterMap_append

namespace BatteryLed

variable (env : LightEnv) (led : BatteryLed)

-- The two copies of the lamp make the same calls.
theorem turnOff_asLight :
    (led.turnOff env).1.asLight = (led.asLight.turnOff env).1 ∧
      lampEffects (led.turnOff env).2 = (led.asLight.turnOff env).2 := by
  unfold turnOff BatteryLight.turnOff asLight
  dsimp only
  split
  · exact ⟨rfl, rfl⟩
  · exact ⟨rfl, rfl⟩

theorem turnOn_asLight (color : UInt32) :
    (led.turnOn env color).1.asLight = (led.asLight.turnOn env color).1 ∧
      lampEffects (led.turnOn env color).2 = (led.asLight.turnOn env color).2 := by
  unfold turnOn BatteryLight.turnOn asLight
  dsimp only
  split
  · exact ⟨rfl, rfl⟩
  · exact ⟨rfl, rfl⟩

theorem showRange_asLight (capacity : Int) (lightConf : List LightConf) :
    (led.showRange env capacity lightConf).led.asLight =
        (led.asLight.showRange env capacity lightConf).light ∧
      lampEffects (led.showRange env capacity lightConf).effects =
        (led.asLight.showRange env capacity lightConf).effects := by
  induction lightConf with
  | nil => exact ⟨rfl, rfl⟩
  | cons conf rest ih =>
      have hoff := led.turnOff_asLight env
      have hon := (led.turnOff env).1.turnOn_asLight env conf.rgb
      have hcolor : led.asLight.lightColor = led.lightColor := rfl
      unfold showRange BatteryLight.showRange
      rw [hcolor]
      split
      · split
        · exact ⟨rfl, rfl⟩
        · dsimp only
          rw [lampEffects_append, ← hoff.1, ← hoff.2]
          exact ⟨hon.1, congrArg _ hon.2⟩
      · exact ih

theorem updateColor_asLight (lightConf : List LightConf) (chargeState : BatteryChargeState) (capacity : Int) :
    let updated := led.updateColor env lightConf chargeState capacity
    let lit := led.asLight.updateColor env lightConf chargeState.lit capacity
    updated.led.asLight = lit.light ∧ lampEffects updated.effects = lit.effects := by
  intro updated lit
  have hoff := led.turnOff_asLight env
  have hshow := led.showRange_asLight env capacity lightConf
  by_cases hdark : chargeState = .None ∨ chargeState = .Reserved
  · have hturnsOff : TurnsOff chargeState.lit := by
      rcases hdark with rfl | rfl <;> decide
    have hupdated : updated = ⟨false, (led.turnOff env).1, (led.turnOff env).2⟩ :=
      if_pos (by tauto)
    have hlit : lit = ⟨false, (led.asLight.turnOff env).1, (led.asLight.turnOff env).2⟩ :=
      updateColor_off env lightConf capacity led.asLight hturnsOff
    rw [hupdated, hlit]
    exact hoff
  · have hturnsOn : ¬TurnsOff chargeState.lit := by
      cases chargeState <;> first | decide | simp at hdark
    cases havailable : led.available with
    | true =>
        have hupdated : updated = led.showRange env capacity lightConf := if_neg (by simp [hdark, havailable])
        have hlit : lit = led.asLight.showRange env capacity lightConf :=
          updateColor_on env lightConf capacity havailable hturnsOn
        rw [hupdated, hlit]
        exact hshow
    | false =>
        have hupdated : updated = ⟨false, (led.turnOff env).1, (led.turnOff env).2⟩ :=
          if_pos (by simp [havailable])
        have hnothing : led.turnOff env = (led, []) := if_neg (by simp [havailable])
        have hlit : lit = ⟨false, led.asLight, []⟩ :=
          (if_neg hturnsOn).trans (if_neg (by simp [asLight, havailable]))
        rw [hupdated, hlit, hnothing]
        exact ⟨rfl, rfl⟩

end BatteryLed

namespace ChargerThread

variable (config : BatteryConfig) (thread : ChargerThread)

-- A call that has nothing to do with the lamp.
def LeavesLamp (result : ChargerThread × List ChargerEffect) : Prop :=
  result.1.led = thread.led ∧ lampEffects result.2 = []

theorem turnOnScreen_lamp (backlight : BatteryBacklight) : lampEffects backlight.turnOnScreen.2 = [] := by
  unfold BatteryBacklight.turnOnScreen
  split <;> rfl

theorem turnOffScreen_lamp (backlight : BatteryBacklight) : lampEffects backlight.turnOffScreen.2 = [] := by
  unfold BatteryBacklight.turnOffScreen
  split <;> rfl

theorem handleChargingState_lamp (now : Int) : thread.LeavesLamp (thread.handleChargingState now) := by
  have houtcome := thread.handleChargingState_outcome now
  generalize thread.handleChargingState now = result at houtcome ⊢
  cases houtcome with
  | Ignored => exact ⟨rfl, rfl⟩
  | TurnsOn => exact ⟨rfl, turnOnScreen_lamp thread.backlight⟩

theorem handleScreenState_lamp (now : Int) : thread.LeavesLamp (thread.handleScreenState now) := by
  have houtcome := thread.handleScreenState_outcome now
  generalize thread.handleScreenState now = result at houtcome ⊢
  cases houtcome with
  | Ignored => exact ⟨rfl, rfl⟩
  | TurnsOff => exact ⟨rfl, turnOffScreen_lamp thread.backlight⟩

theorem handlePowerKey_lamp (keycode : Nat) (now : Int) :
    thread.LeavesLamp (thread.handlePowerKey keycode now) := by
  have hon := turnOnScreen_lamp thread.backlight
  have hoff := turnOffScreen_lamp thread.backlight
  obtain ⟨_, _, _, _, _, _, hwritten⟩ := thread.handlePowerKey_writes keycode now
  refine ⟨by rw [hwritten], ?_⟩
  have houtcome := thread.handlePowerKey_outcome keycode now
  generalize thread.handlePowerKey keycode now = result at houtcome ⊢
  cases houtcome with
  | Ignored => rfl
  | Reboots =>
      rw [lampEffects_append, hoff]
      rfl
  | TurnsOnByKeydown => exact hon
  | TurnsOff => exact hoff
  | TurnsOn => exact hon

theorem handlePowerKeyState_lamp (now : Int) : thread.LeavesLamp (thread.handlePowerKeyState now) := by
  have hhandled := thread.handlePowerKey_lamp KEY_POWER now
  obtain ⟨keyWait, hwritten⟩ := thread.handlePowerKeyState_outcome now
  rw [hwritten]
  exact hhandled

-- An update treats the lamp as the service does.
theorem updateBatteryInfo_lamp (env : UpdateEnv) :
    let read := thread.readBatteryInfo env
    let lit := thread.led.asLight.updateColor env.light config.lightConf read.chargeState.lit read.capacity
    (thread.updateBatteryInfo config env).1.led.asLight = lit.light ∧
      lampEffects (thread.updateBatteryInfo config env).2 = lit.effects := by
  intro read lit
  obtain ⟨hled, heffects⟩ := thread.led.updateColor_asLight env.light config.lightConf read.chargeState
    read.capacity
  have htemperature (temperature : Int) : lampEffects (handleTemperature config temperature) = [] := by
    unfold handleTemperature
    dsimp only
    split <;> rfl
  have hcapacity : lampEffects (read.handleCapacity read.capacity) = [] := by
    unfold handleCapacity
    split <;> rfl
  obtain ⟨animation, hwritten⟩ := thread.updateBatteryInfo_outcome config env
  refine ⟨?_, ?_⟩
  · rw [← hled, hwritten]
    rfl
  · unfold updateBatteryInfo
    dsimp only
    rw [lampEffects_append, lampEffects_append, htemperature, hcapacity]
    exact heffects

end ChargerThread

-- What a call does to the lamp.
def LampMove (config : BatteryConfig) (thread : ChargerThread) (result : ChargerThread × List ChargerEffect) :
    Option UpdateEnv → Prop
  | some env =>
      let read := thread.readBatteryInfo env
      let lit := thread.led.asLight.updateColor env.light config.lightConf read.chargeState.lit read.capacity
      result.1.led.asLight = lit.light ∧ lampEffects result.2 = lit.effects
  | none => thread.LeavesLamp result

theorem execute_lamp (config : BatteryConfig) (thread : ChargerThread) (call : ChargerCall) :
    LampMove config thread (call.execute config thread) call.reads := by
  cases call with
  | CycleMatters now env =>
      have hupdated := thread.updateBatteryInfo_lamp config env
      obtain ⟨animation, hupdate⟩ := thread.updateBatteryInfo_outcome config env
      obtain ⟨⟨epollInterval, shown, hwritten⟩, hout⟩ := thread.cycleMatters_outcome config now env
      unfold ChargerCall.execute
      rw [hupdate] at hupdated
      refine ⟨?_, ?_⟩
      · rw [hwritten]
        exact hupdated.1
      · rw [hout]
        exact hupdated.2
  | UpdateBatteryInfo env => exact thread.updateBatteryInfo_lamp config env
  | HandleChargingState now => exact thread.handleChargingState_lamp now
  | HandlePowerKeyState now => exact thread.handlePowerKeyState_lamp now
  | HandlePowerKey keycode now => exact thread.handlePowerKey_lamp keycode now
  | HandleScreenState now => exact thread.handleScreenState_lamp now
  | SetKeyState code value now =>
      obtain ⟨keys, hwritten⟩ := thread.setKeyState_outcome code value now
      have hsame := congrArg ChargerThread.led hwritten
      exact ⟨hsame, rfl⟩

-- The colour that a reading calls for, on a lamp that shows some colour.
def lampFor (lightConf : List LightConf) (chargeState : BatteryChargeState) (capacity : Int)
    (color : Nat) : Nat :=
  if chargeState = .None ∨ chargeState = .Reserved then 0
  else
    match firstRange lightConf capacity with
    | some conf => conf.rgb.toNat
    | none => color

section Lamp

variable {lightConf : List LightConf} (hsmall : ∀ conf ∈ lightConf, conf.rgb.toNat < RGB_COLORS)
include hsmall

theorem shownColor_updateColor {light : BatteryLight} {log : List Effect} (hsync : InSync light log)
    (env : LightEnv) (chargeState : BatteryChargeState) (capacity : Int)
    (hdriver : ∀ effect ∈ (light.updateColor env lightConf chargeState.lit capacity).effects,
      effect.driverFailed = false) :
    shownColor (log ++ (light.updateColor env lightConf chargeState.lit capacity).effects) =
      lampFor lightConf chargeState capacity (shownColor log) := by
  unfold lampFor
  by_cases hdark : chargeState = .None ∨ chargeState = .Reserved
  · have hturnsOff : TurnsOff chargeState.lit := by
      rcases hdark with rfl | rfl <;> decide
    rw [if_pos hdark]
    exact updateColor_turnsOff hsync env lightConf capacity hturnsOff hdriver
  · have hturnsOn : ¬TurnsOff chargeState.lit := by
      cases chargeState <;> first | decide | simp at hdark
    have hlit := updateColor_on env lightConf capacity hsync.available hturnsOn
    rw [if_neg hdark]
    cases hrange : firstRange lightConf capacity with
    | none => rw [hlit, showRange_none env light hrange, List.append_nil]
    | some conf =>
        have hresult : (light.updateColor env lightConf chargeState.lit capacity).result = true := by
          rw [hlit, showRange_some env light hrange]
          split <;> rfl
        obtain ⟨shown, hshown, hcolor⟩ :=
          updateColor_shows hsmall env chargeState.lit capacity hsync hresult hdriver
        cases hrange.symm.trans hshown
        exact hcolor

end Lamp

-- The steps that update the battery are those whose call reads the files.
theorem updates_iff (state : LoopState) (label : LoopLabel) :
    state.Updates label ↔ ∃ call env, state.call label = some call ∧ call.reads = some env := by
  cases label with
  | SetKeyState code value now =>
      refine iff_of_false id ?_
      rintro ⟨call, env, hcall, hreads⟩
      cases hcall
      cases hreads
  | Loop input =>
      unfold LoopState.Updates LoopState.call
      cases hpoint : state.point <;> simp [ChargerCall.reads]

section Runs

variable {config : BatteryConfig} (hsmall : ∀ conf ∈ config.lightConf, conf.rgb.toNat < RGB_COLORS)
variable {env : LightEnv} {boot : Nat} {history : List LoopLabel} {state next : LoopState}
variable {log out : List LoopEffect} {label : LoopLabel}

-- The driver calls of a run of the loop, and the colour of a lamp that was off.
def lampLog (log : List LoopEffect) : List Effect := lampEffects (log.filterMap LoopEffect.call?)

def lampColor (log : List LoopEffect) : Nat := shownColor (lampLog log)

include hsmall

-- The LED remembers what the lamp shows, whichever of the driver calls have failed.
theorem chargerRun_inSync {calls : List ChargerCall} {thread : ChargerThread} {effects : List ChargerEffect}
    (hrun : ChargerRun config true env calls thread effects) :
    InSync thread.led.asLight (lampEffects effects) := by
  refine Run.total_invariant (fun _ thread effects =>
    InSync (ChargerThread.led thread).asLight (lampEffects effects)) ?_ ?_ hrun
  · refine ⟨rfl, ?_⟩
    cases hturned : env.turnOff <;> simp [ChargerThread.init, BatteryLed.turnOff, BatteryLed.asLight, hturned,
      lampEffects, shownColor]
  · intro calls thread effects call hsync
    have hmove := execute_lamp config thread call
    rw [lampEffects_append]
    unfold LampMove at hmove
    split at hmove
    · rw [hmove.1, hmove.2]
      exact hsync.updateColor hsmall _ _ _
    · rw [hmove.1, hmove.2, List.append_nil]
      exact hsync

-- After every update whose driver calls succeed, the lamp shows what the latest
-- charge state and capacity call for, whatever has failed before. Nothing else
-- touches it.
theorem lamp_fresh (hrun : LoopRun config true env boot history state log)
    (hstep : loopStep config state label = some (next, out)) :
    let calls := loopCalls config (LoopState.start config true env boot) (history ++ [label])
    (state.Updates label → (∀ effect ∈ lampLog out, effect.driverFailed = false) →
      lampColor (log ++ out) = lampFor config.lightConf
        (chargeStateOf (latest ChargerCall.chargeStateOpened calls))
        (capacityOf (latest ChargerCall.capacityOpened calls)) (lampColor log)) ∧
      (¬state.Updates label → lampColor (log ++ out) = lampColor log) := by
  intro calls
  have hsync := chargerRun_inSync hsmall (loopRun_calls hrun)
  have hnext := (loopRun_calls (hrun.snoc label hstep)).remembers
  have hmove := loop_simulates config state label next out hstep
  have happend : lampColor (log ++ out) = shownColor (lampLog log ++ lampLog out) := by
    unfold lampColor lampLog
    rw [List.filterMap_append, lampEffects_append]
  rw [happend]
  cases hcall : state.call label with
  | none =>
      rw [hcall] at hmove
      have hquiet : ¬state.Updates label := by
        rw [updates_iff]
        rintro ⟨call, env, hsome, -⟩
        cases hcall.symm.trans hsome
      have hsilent : lampLog out = [] := congrArg lampEffects hmove.2
      refine ⟨fun hupdates => absurd hupdates hquiet, fun _ => ?_⟩
      rw [hsilent, List.append_nil]
      rfl
  | some call =>
      rw [hcall] at hmove
      have hexecuted : call.execute config state.thread = (next.thread, out.filterMap LoopEffect.call?) :=
        Option.some.inj hmove
      have hlamp := execute_lamp config state.thread call
      rw [hexecuted] at hlamp
      cases hreads : call.reads with
      | none =>
          rw [hreads] at hlamp
          have hquiet : ¬state.Updates label := by
            rw [updates_iff]
            rintro ⟨other, files, hsome, hread⟩
            cases hcall.symm.trans hsome
            cases hreads.symm.trans hread
          refine ⟨fun hupdates => absurd hupdates hquiet, fun _ => ?_⟩
          have hsilent : lampLog out = [] := hlamp.2
          rw [hsilent, List.append_nil]
          rfl
      | some files =>
          rw [hreads] at hlamp
          have hupdates : state.Updates label := (updates_iff state label).mpr ⟨call, files, hcall, hreads⟩
          refine ⟨fun _ hdriver => ?_, fun hquiet => absurd hupdates hquiet⟩
          have hread := (call.execute_reads config state.thread hreads).1
          rw [hexecuted] at hread
          have hout : lampLog out = _ := hlamp.2
          rw [hout] at hdriver ⊢
          rw [← hnext.chargeState, ← hnext.capacity, hread.chargeState, hread.capacity]
          exact shownColor_updateColor hsmall hsync files.light _ _ hdriver

end Runs

-- Two updates: the first one cannot turn the lamp on.
def dimTurns : List LoopLabel :=
  let failing : UpdateEnv := {
    temperature := .Holds (ascii "300\n")
    capacity := .Holds (ascii "40\n")
    chargeState := .Holds (ascii "Charging\n")
    light := ⟨true, false⟩ }
  [.Loop ⟨1000, failing, 0, none⟩] ++ List.replicate 4 (quiet "Charging\n" 1000)

def dimmed : LoopState × List LoopEffect :=
  (exec (loopStep shippedConfig) (LoopState.start shippedConfig true ⟨true, true⟩ 0) dimTurns).get (by decide)

def relit : LoopState × List LoopEffect :=
  (loopStep shippedConfig dimmed.1 (quiet "Charging\n" 1000)).get (by decide)

theorem lamp_fresh_dim : lampColor dimmed.2 = 0 ∧ lampColor (dimmed.2 ++ relit.2) = 0xFFFF00 := by
  have hsmall : ∀ conf ∈ shippedConfig.lightConf, conf.rgb.toNat < RGB_COLORS := by decide
  have hrun : LoopRun shippedConfig true ⟨true, true⟩ 0 dimTurns dimmed.1 dimmed.2 :=
    exec_run (loopStep shippedConfig) (LoopState.start shippedConfig true ⟨true, true⟩ 0) dimTurns (by decide)
  have hstep : loopStep shippedConfig dimmed.1 (quiet "Charging\n" 1000) = some relit :=
    (Option.some_get _).symm
  have hupdates : dimmed.1.Updates (quiet "Charging\n" 1000) := .inl ⟨by decide, by decide⟩
  have hfresh := (lamp_fresh hsmall hrun hstep).1 hupdates (by decide +kernel)
  refine ⟨by decide +kernel, hfresh.trans (by decide +kernel)⟩

end BatteryManager.Charger
