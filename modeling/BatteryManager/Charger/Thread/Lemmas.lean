import BatteryManager.Charger.Thread

namespace BatteryManager.Charger

open Library

-- A handler asks for a shutdown.
def ShutsDown (caller : RebootCaller) (out : List ChargerEffect) : Prop :=
  .DoReboot caller SHUTDOWN_CMD ∈ out

namespace ChargerThread

variable (config : BatteryConfig) (thread : ChargerThread)

-- What one call of `HandlePowerKey` comes to.
inductive PowerKeyOutcome (keycode : Nat) (now : Int) : ChargerThread × List ChargerEffect → Prop
  | Ignored : keycode ≠ KEY_POWER ∨
        ((thread.keys keycode).isDown = true ∧ now < (thread.keys keycode).timestamp + REBOOT_TIME ∧
          thread.backlight.screenState ≠ .ScreenOff) ∨
        ((thread.keys keycode).isDown = false ∧ (thread.keys keycode).isUp = false) →
      PowerKeyOutcome keycode now (thread, [])
  | Reboots : keycode = KEY_POWER → (thread.keys keycode).isDown = true →
      (thread.keys keycode).timestamp + REBOOT_TIME ≤ now →
      PowerKeyOutcome keycode now
        ({ thread with backlight := thread.backlight.turnOffScreen.1 },
          thread.backlight.turnOffScreen.2 ++ [.HandleVibration VIBRATE_TIME_MS,
            .ClearPowerOffChargeFlag, .DoReboot .HandlePowerKey REBOOT_CMD])
  | TurnsOnByKeydown : keycode = KEY_POWER → (thread.keys keycode).isDown = true →
      now < (thread.keys keycode).timestamp + REBOOT_TIME → thread.backlight.screenState = .ScreenOff →
      PowerKeyOutcome keycode now
        ({ thread.setKeyWait (thread.keys keycode) REBOOT_TIME with
            backlight := thread.backlight.turnOnScreen.1
            backlightWait := now - 1
            turnOnByKeydown := true : ChargerThread }.updateAnimation,
          thread.backlight.turnOnScreen.2)
  | TurnsOff (released : ChargerThread) : keycode = KEY_POWER → (thread.keys keycode).isDown = false →
      (thread.keys keycode).isUp = true → thread.backlight.screenState = .ScreenOn →
      thread.turnOnByKeydown = false → released = { thread with
        keys := fun other =>
          if other = keycode then { thread.keys keycode with isUp := false } else thread.keys other
        turnOnByKeydown := false } →
      PowerKeyOutcome keycode now
        ({ released with
            backlight := thread.backlight.turnOffScreen.1
            animation := thread.animation.stopAll
            backlightWait := INVALID },
          thread.backlight.turnOffScreen.2)
  | TurnsOn (released : ChargerThread) : keycode = KEY_POWER → (thread.keys keycode).isDown = false →
      (thread.keys keycode).isUp = true →
      thread.backlight.screenState ≠ .ScreenOn ∨ thread.turnOnByKeydown = true → released = { thread with
        keys := fun other =>
          if other = keycode then { thread.keys keycode with isUp := false } else thread.keys other
        turnOnByKeydown := false } →
      PowerKeyOutcome keycode now
        ({ released with
            backlight := thread.backlight.turnOnScreen.1
            backlightWait := now - 1 : ChargerThread }.updateAnimation,
          thread.backlight.turnOnScreen.2)

theorem handlePowerKey_outcome (keycode : Nat) (now : Int) :
    thread.PowerKeyOutcome keycode now (thread.handlePowerKey keycode now) := by
  unfold handlePowerKey
  dsimp only
  by_cases hkeycode : keycode = KEY_POWER
  · rw [if_pos hkeycode]
    by_cases hdown : (thread.keys keycode).isDown = true
    · rw [if_pos hdown]
      by_cases hlong : now ≥ (thread.keys keycode).timestamp + REBOOT_TIME
      · rw [if_pos hlong]
        exact .Reboots hkeycode hdown hlong
      · rw [if_neg hlong]
        have hshort := Int.not_le.mp hlong
        by_cases hoff : thread.backlight.screenState = .ScreenOff
        · rw [if_pos hoff]
          exact .TurnsOnByKeydown hkeycode hdown hshort hoff
        · rw [if_neg hoff]
          exact .Ignored (.inr (.inl ⟨hdown, hshort, hoff⟩))
    · rw [if_neg hdown]
      have hnotDown := Bool.eq_false_iff.mpr hdown
      by_cases hup : (thread.keys keycode).isUp = true
      · rw [if_pos hup]
        by_cases hon : thread.backlight.screenState = .ScreenOn ∧ !thread.turnOnByKeydown
        · rw [if_pos hon]
          exact .TurnsOff _ hkeycode hnotDown hup hon.1 (by simpa using hon.2) rfl
        · rw [if_neg hon]
          refine .TurnsOn _ hkeycode hnotDown hup ?_ rfl
          by_cases hscreen : thread.backlight.screenState = .ScreenOn
          · exact .inr (by simpa [hscreen] using hon)
          · exact .inl hscreen
      · rw [if_neg hup]
        exact .Ignored (.inr (.inr ⟨hnotDown, Bool.eq_false_iff.mpr hup⟩))
  · rw [if_neg hkeycode]
    exact .Ignored (.inl hkeycode)

-- What an update compares, and leaves in the thread.
structure SameReadings (first second : ChargerThread) : Prop where
  capacity : first.capacity = second.capacity
  chargeState : first.chargeState = second.chargeState
  lackPowerCapacity : first.lackPowerCapacity = second.lackPowerCapacity

-- What each of the other handlers writes. A key event writes the keys only.
theorem setKeyState_outcome (code : Nat) (value now : Int) :
    ∃ keys, thread.setKeyState code value now = { thread with keys := keys } := by
  unfold setKeyState
  dsimp only
  split
  · exact ⟨thread.keys, rfl⟩
  · split
    · exact ⟨thread.keys, rfl⟩
    · exact ⟨_, rfl⟩

theorem setKeyWait_outcome (key : KeyState) (timeout : Int) :
    ∃ keyWait, thread.setKeyWait key timeout = { thread with keyWait := keyWait } := by
  unfold setKeyWait
  dsimp only
  split
  · exact ⟨_, rfl⟩
  · exact ⟨thread.keyWait, rfl⟩

theorem updateEpollInterval_outcome (chargeState : BatteryChargeState) :
    ∃ epollInterval, thread.updateEpollInterval chargeState =
      { thread with epollInterval := epollInterval } := by
  unfold updateEpollInterval
  split
  · exact ⟨_, rfl⟩
  · exact ⟨_, rfl⟩

-- The lamp after one update.
def updatedLed (env : UpdateEnv) : BatteryLed :=
  let read := thread.readBatteryInfo env
  (read.led.updateColor env.light config.lightConf read.chargeState read.capacity).led

theorem updateBatteryInfo_outcome (env : UpdateEnv) :
    ∃ animation, (thread.updateBatteryInfo config env).1 =
      { thread.readBatteryInfo env with led := thread.updatedLed config env, animation := animation } := by
  unfold updateBatteryInfo
  dsimp only
  split
  · exact ⟨_, rfl⟩
  · exact ⟨thread.animation, rfl⟩

-- The first cycle starts the time for which the screen is lit. What is done
-- besides writing does not depend on it.
theorem cycleMatters_outcome (now : Int) (env : UpdateEnv) :
    (∃ epollInterval animation, (thread.cycleMatters config now env).1 =
      { thread.readBatteryInfo env with
        started := true
        backlightWait := if thread.started then thread.backlightWait else now - 1
        epollInterval := epollInterval
        led := thread.updatedLed config env
        animation := animation }) ∧
      (thread.cycleMatters config now env).2 = (thread.updateBatteryInfo config env).2 := by
  unfold cycleMatters
  dsimp only
  by_cases hstarted : thread.started = true
  · rw [if_pos hstarted]
    obtain ⟨animation, hupdated⟩ := thread.updateBatteryInfo_outcome config env
    obtain ⟨epollInterval, hepoll⟩ := (thread.updateBatteryInfo config env).1.updateEpollInterval_outcome
      (thread.updateBatteryInfo config env).1.chargeState
    refine ⟨⟨epollInterval, animation, ?_⟩, rfl⟩
    rw [hepoll, hupdated, if_pos hstarted, ← hstarted]
    rfl
  · rw [if_neg hstarted]
    let started : ChargerThread := { thread with started := true, backlightWait := now - 1 }
    obtain ⟨animation, hupdated⟩ := started.updateBatteryInfo_outcome config env
    obtain ⟨epollInterval, hepoll⟩ := (started.updateBatteryInfo config env).1.updateEpollInterval_outcome
      (started.updateBatteryInfo config env).1.chargeState
    refine ⟨⟨epollInterval, animation, ?_⟩, rfl⟩
    rw [hepoll, hupdated, if_neg hstarted]
    rfl

-- What one call of `HandleChargingState` comes to.
inductive ChargingOutcome (now : Int) : ChargerThread × List ChargerEffect → Prop
  | Ignored : thread.chargeState = .None ∨ thread.chargeState = .Reserved ∨
        thread.isChargeStateChanged = false →
      ChargingOutcome now (thread, [])
  | TurnsOn : ¬(thread.chargeState = .None ∨ thread.chargeState = .Reserved) →
      thread.isChargeStateChanged = true →
      ChargingOutcome now
        ({ thread with
            backlight := thread.backlight.turnOnScreen.1
            backlightWait := now - 1
            isChargeStateChanged := false : ChargerThread }.updateAnimation,
          thread.backlight.turnOnScreen.2)

theorem handleChargingState_outcome (now : Int) :
    thread.ChargingOutcome now (thread.handleChargingState now) := by
  unfold handleChargingState
  split
  · rename_i hunknown
    exact .Ignored (hunknown.imp_right .inl)
  · rename_i hknown
    split
    · rename_i hchanged
      exact .TurnsOn hknown hchanged
    · rename_i hsame
      exact .Ignored (.inr (.inr (Bool.eq_false_iff.mpr hsame)))

-- What one call of `HandleScreenState` comes to.
inductive ScreenOutcome (now : Int) : ChargerThread × List ChargerEffect → Prop
  | Ignored : thread.backlightWait = INVALID ∨ now ≤ thread.backlightWait + BACKLIGHT_OFF_TIME_MS →
      ScreenOutcome now (thread, [])
  | TurnsOff : thread.backlightWait ≠ INVALID → thread.backlightWait + BACKLIGHT_OFF_TIME_MS < now →
      ScreenOutcome now
        ({ thread with
            backlight := thread.backlight.turnOffScreen.1
            animation := thread.animation.stopAll
            backlightWait := INVALID },
          thread.backlight.turnOffScreen.2)

theorem handleScreenState_outcome (now : Int) :
    thread.ScreenOutcome now (thread.handleScreenState now) := by
  unfold handleScreenState
  split
  · rename_i hdue
    exact .TurnsOff hdue.1 hdue.2
  · rename_i hnotDue
    refine .Ignored ?_
    by_cases hset : thread.backlightWait = INVALID
    · exact .inl hset
    · exact .inr (Int.not_lt.mp fun hlate => hnotDue ⟨hset, hlate⟩)

-- The members that the power key can change.
def WrittenByKey (next : ChargerThread) : Prop :=
  ∃ keys keyWait backlight backlightWait animation turnOnByKeydown,
    next = { thread with
      keys := keys
      keyWait := keyWait
      backlight := backlight
      backlightWait := backlightWait
      animation := animation
      turnOnByKeydown := turnOnByKeydown }

theorem handlePowerKey_writes (keycode : Nat) (now : Int) :
    thread.WrittenByKey (thread.handlePowerKey keycode now).1 := by
  have houtcome := thread.handlePowerKey_outcome keycode now
  generalize thread.handlePowerKey keycode now = result at houtcome ⊢
  cases houtcome with
  | Ignored => exact ⟨_, _, _, _, _, _, rfl⟩
  | Reboots => exact ⟨_, _, _, _, _, _, rfl⟩
  | TurnsOnByKeydown =>
      obtain ⟨keyWait, hwait⟩ := thread.setKeyWait_outcome (thread.keys keycode) REBOOT_TIME
      rw [hwait]
      exact ⟨_, _, _, _, _, _, rfl⟩
  | TurnsOff released _ _ _ _ _ hreleased =>
      subst hreleased
      exact ⟨_, _, _, _, _, _, rfl⟩
  | TurnsOn released _ _ _ _ hreleased =>
      subst hreleased
      exact ⟨_, _, _, _, _, _, rfl⟩

-- The wait for a long press is over, or goes on.
theorem handlePowerKeyState_outcome (now : Int) :
    ∃ keyWait, thread.handlePowerKeyState now =
      ({ (thread.handlePowerKey KEY_POWER now).1 with keyWait := keyWait },
        (thread.handlePowerKey KEY_POWER now).2) := by
  unfold handlePowerKeyState
  dsimp only
  split
  · exact ⟨_, rfl⟩
  · exact ⟨_, rfl⟩

theorem handlePowerKeyState_writes (now : Int) :
    thread.WrittenByKey (thread.handlePowerKeyState now).1 := by
  obtain ⟨keyWait, hhandled⟩ := thread.handlePowerKeyState_outcome now
  obtain ⟨keys, _, backlight, backlightWait, animation, turnOnByKeydown, hwrites⟩ :=
    thread.handlePowerKey_writes KEY_POWER now
  rw [hhandled, hwrites]
  exact ⟨_, _, _, _, _, _, rfl⟩

theorem not_shutsDown_turnOnScreen (backlight : BatteryBacklight) (caller : RebootCaller) :
    ¬ShutsDown caller backlight.turnOnScreen.2 := by
  unfold ShutsDown BatteryBacklight.turnOnScreen
  split <;> simp

theorem not_shutsDown_turnOffScreen (backlight : BatteryBacklight) (caller : RebootCaller) :
    ¬ShutsDown caller backlight.turnOffScreen.2 := by
  unfold ShutsDown BatteryBacklight.turnOffScreen
  split <;> simp

theorem not_shutsDown_handleChargingState (now : Int) (caller : RebootCaller) :
    ¬ShutsDown caller (thread.handleChargingState now).2 := by
  have houtcome := thread.handleChargingState_outcome now
  generalize thread.handleChargingState now = result at houtcome ⊢
  cases houtcome with
  | Ignored => exact List.not_mem_nil
  | TurnsOn => exact not_shutsDown_turnOnScreen thread.backlight caller

theorem not_shutsDown_handleScreenState (now : Int) (caller : RebootCaller) :
    ¬ShutsDown caller (thread.handleScreenState now).2 := by
  have houtcome := thread.handleScreenState_outcome now
  generalize thread.handleScreenState now = result at houtcome ⊢
  cases houtcome with
  | Ignored => exact List.not_mem_nil
  | TurnsOff => exact not_shutsDown_turnOffScreen thread.backlight caller

-- A long press reboots, which is not a shutdown.
theorem not_shutsDown_handlePowerKey (keycode : Nat) (now : Int) (caller : RebootCaller) :
    ¬ShutsDown caller (thread.handlePowerKey keycode now).2 := by
  have houtcome := thread.handlePowerKey_outcome keycode now
  generalize thread.handlePowerKey keycode now = result at houtcome ⊢
  cases houtcome with
  | Ignored => exact List.not_mem_nil
  | Reboots =>
      have hoff := not_shutsDown_turnOffScreen thread.backlight caller
      have hcmd : SHUTDOWN_CMD ≠ REBOOT_CMD := by decide
      unfold ShutsDown at hoff ⊢
      simp [hoff, hcmd]
  | TurnsOnByKeydown => exact not_shutsDown_turnOnScreen thread.backlight caller
  | TurnsOff => exact not_shutsDown_turnOffScreen thread.backlight caller
  | TurnsOn => exact not_shutsDown_turnOnScreen thread.backlight caller

end ChargerThread

end BatteryManager.Charger
