import BatteryManager.Charger.Loop
import BatteryManager.Charger.Thread.Lemmas

namespace BatteryManager.Charger

open Library

theorem invalid_neg : INVALID < 0 := by decide

theorem invalid_le : INVALID ≤ 0 + REBOOT_TIME := by decide

namespace ChargerThread

-- What is known of the times that the thread keeps at the time `clock`.
structure Timed (clock : Int) (thread : ChargerThread) : Prop where
  pressed : 0 ≤ (thread.keys KEY_POWER).timestamp
  timestamp : (thread.keys KEY_POWER).timestamp ≤ clock
  keyWait : thread.keyWait ≤ (thread.keys KEY_POWER).timestamp + REBOOT_TIME
  backlightWait : thread.backlightWait < clock
  epollInterval : thread.epollInterval = -1 ∨ thread.epollInterval = TIMER_FAST_SEC * SEC_TO_MSEC

variable {clock now : Int} {thread : ChargerThread}

theorem Timed.later (htimed : thread.Timed clock) (hclock : clock ≤ now) : thread.Timed now where
  pressed := htimed.pressed
  timestamp := Int.le_trans htimed.timestamp hclock
  keyWait := htimed.keyWait
  backlightWait := Int.lt_of_lt_of_le htimed.backlightWait hclock
  epollInterval := htimed.epollInterval

theorem timed_init (config : BatteryConfig) (available : Bool) (env : LightEnv) (boot : Nat) :
    (init config available env).1.Timed boot where
  pressed := Int.le_refl 0
  timestamp := Int.natCast_nonneg boot
  keyWait := invalid_le
  backlightWait := Int.lt_of_lt_of_le invalid_neg (Int.natCast_nonneg boot)
  epollInterval := .inl rfl

-- The backlight period starts one millisecond ago.
theorem Timed.light (htimed : thread.Timed now) : { thread with backlightWait := now - 1 }.Timed now where
  pressed := htimed.pressed
  timestamp := htimed.timestamp
  keyWait := htimed.keyWait
  backlightWait := Int.sub_lt_self now (by decide)
  epollInterval := htimed.epollInterval

theorem Timed.dark (htimed : thread.Timed now) : { thread with backlightWait := INVALID }.Timed now where
  pressed := htimed.pressed
  timestamp := htimed.timestamp
  keyWait := htimed.keyWait
  backlightWait := by
    have hpressed := Int.le_trans htimed.pressed htimed.timestamp
    exact Int.lt_of_lt_of_le invalid_neg hpressed
  epollInterval := htimed.epollInterval

theorem Timed.setKeyWait (htimed : thread.Timed now) :
    (thread.setKeyWait (thread.keys KEY_POWER) REBOOT_TIME).Timed now := by
  unfold ChargerThread.setKeyWait
  dsimp only
  split
  · exact { htimed with keyWait := Int.le_refl _ }
  · exact htimed

theorem Timed.clearKeyWait (htimed : thread.Timed now) : { thread with keyWait := INVALID }.Timed now where
  pressed := htimed.pressed
  timestamp := htimed.timestamp
  keyWait := by
    have hpressed := htimed.pressed
    unfold INVALID REBOOT_TIME
    dsimp only
    omega
  backlightWait := htimed.backlightWait
  epollInterval := htimed.epollInterval

theorem Timed.setKeyState (htimed : thread.Timed now) (code : Nat) (value : Int) :
    (thread.setKeyState code value now).Timed now := by
  have hnow := Int.le_trans htimed.pressed htimed.timestamp
  unfold ChargerThread.setKeyState
  dsimp only
  split
  · exact htimed
  · split
    · exact htimed
    · by_cases hpower : KEY_POWER = code
      · have hkeyWait := htimed.keyWait
        have htimestamp := htimed.timestamp
        subst hpower
        refine ⟨?_, ?_, ?_, htimed.backlightWait, htimed.epollInterval⟩
        · simp only [if_pos]
          split
          · exact hnow
          · exact htimed.pressed
        · simp only [if_pos]
          split
          · exact Int.le_refl now
          · exact htimestamp
        · simp only [if_pos]
          split
          · omega
          · exact hkeyWait
      · refine ⟨?_, ?_, ?_, htimed.backlightWait, htimed.epollInterval⟩
        · simpa [hpower] using htimed.pressed
        · simpa [hpower] using htimed.timestamp
        · simpa [hpower] using htimed.keyWait

theorem Timed.updateBatteryInfo (htimed : thread.Timed now) (config : BatteryConfig) (env : UpdateEnv) :
    (thread.updateBatteryInfo config env).1.Timed now := by
  unfold ChargerThread.updateBatteryInfo
  dsimp only
  split <;> exact { htimed with }

theorem Timed.updateEpollInterval (htimed : thread.Timed now) (chargeState : BatteryChargeState) :
    (thread.updateEpollInterval chargeState).Timed now := by
  unfold ChargerThread.updateEpollInterval
  split
  · exact { htimed with epollInterval := .inr rfl }
  · exact { htimed with epollInterval := .inl rfl }

theorem Timed.cycleMatters (htimed : thread.Timed now) (config : BatteryConfig) (env : UpdateEnv) :
    (thread.cycleMatters config now env).1.Timed now := by
  unfold ChargerThread.cycleMatters
  dsimp only
  split
  · exact (htimed.updateBatteryInfo config env).updateEpollInterval _
  · have hstarted : { thread with started := true, backlightWait := now - 1 }.Timed now :=
      { htimed.light with }
    exact (hstarted.updateBatteryInfo config env).updateEpollInterval _

theorem Timed.ueventCallback (htimed : thread.Timed now) (config : BatteryConfig)
    (received : Option (List UInt8)) (env : UpdateEnv) :
    (thread.ueventCallback config received env).1.Timed now := by
  unfold ChargerThread.ueventCallback
  split
  · exact htimed.updateBatteryInfo config env
  · exact htimed

theorem Timed.handleChargingState (htimed : thread.Timed now) :
    (thread.handleChargingState now).1.Timed now := by
  unfold ChargerThread.handleChargingState
  split
  · exact htimed
  · split
    · exact { htimed.light with }
    · exact htimed

theorem Timed.handleScreenState (htimed : thread.Timed now) :
    (thread.handleScreenState now).1.Timed now := by
  unfold ChargerThread.handleScreenState
  split
  · exact { htimed.dark with }
  · exact htimed

-- A key that is released keeps the time of its press.
theorem Timed.released (htimed : thread.Timed now) (released : ChargerThread)
    (hreleased : released = { thread with
      keys := fun other =>
        if other = KEY_POWER then { thread.keys KEY_POWER with isUp := false } else thread.keys other
      turnOnByKeydown := false }) : released.Timed now := by
  subst hreleased
  exact ⟨htimed.pressed, htimed.timestamp, htimed.keyWait, htimed.backlightWait, htimed.epollInterval⟩

theorem Timed.handlePowerKey (htimed : thread.Timed now) :
    (thread.handlePowerKey KEY_POWER now).1.Timed now := by
  have houtcome := thread.handlePowerKey_outcome KEY_POWER now
  generalize thread.handlePowerKey KEY_POWER now = result at houtcome ⊢
  cases houtcome with
  | Ignored => exact htimed
  | Reboots => exact { htimed with }
  | TurnsOnByKeydown => exact { htimed.setKeyWait.light with }
  | TurnsOff released _ _ _ _ _ hreleased => exact { (htimed.released released hreleased).dark with }
  | TurnsOn released _ _ _ _ hreleased => exact { (htimed.released released hreleased).light with }

theorem Timed.handlePowerKeyState (htimed : thread.Timed now) :
    (thread.handlePowerKeyState now).1.Timed now := by
  unfold ChargerThread.handlePowerKeyState
  dsimp only
  split
  · exact htimed.handlePowerKey.clearKeyWait
  · exact htimed.handlePowerKey

end ChargerThread

-- Everything that one step can do.
inductive LoopMove (config : BatteryConfig) (state : LoopState) :
    LoopLabel → LoopState × List LoopEffect → Prop
  | CycleMatters (input : LoopInput) : state.point = .CycleMatters → state.nevents = 0 →
      LoopMove config state (.Loop input) (state.goto .HandleChargingState input.now
        (state.thread.cycleMatters config input.now input.env))
  | Skip (input : LoopInput) : state.point = .CycleMatters → state.nevents ≠ 0 →
      LoopMove config state (.Loop input)
        (state.goto .HandleChargingState input.now (state.thread, []))
  | HandleChargingState (input : LoopInput) : state.point = .HandleChargingState →
      LoopMove config state (.Loop input) (state.goto .HandlePowerKeyState input.now
        (state.thread.handleChargingState input.now))
  | HandlePowerKeyState (input : LoopInput) : state.point = .HandlePowerKeyState →
      LoopMove config state (.Loop input) (LoopState.goto .HandleScreenState input.now
        (state.thread.handlePowerKeyState input.now)
        { state with turnedOn := state.turnedOn || state.thread.turnsOnByKeydown input.now })
  | HandleScreenState (input : LoopInput) : state.point = .HandleScreenState →
      LoopMove config state (.Loop input) (state.goto .EpollWait input.now
        (state.thread.handleScreenState input.now))
  | EpollWait (input : LoopInput) : state.point = .EpollWait → input.nevents ≤ 1 →
      LoopMove config state (.Loop input) ({ state with
        nevents := input.nevents
        point := if input.nevents ≤ 0 then .CycleMatters else .UeventCallback
        clock := input.now }, [.EpollWait (state.thread.epollTimeout input.now)])
  | UeventCallback (input : LoopInput) : state.point = .UeventCallback →
      LoopMove config state (.Loop input) (state.goto .CycleMatters input.now
        (state.thread.ueventCallback config input.received input.env))
  | SetKeyState (code : Nat) (value now : Int) :
      LoopMove config state (.SetKeyState code value now) (state.setKeyState code value now, [])

theorem step_move {config : BatteryConfig} {input : LoopInput} {state : LoopState}
    {result : LoopState × List LoopEffect} (hstep : state.step config input = some result) :
    LoopMove config state (.Loop input) result := by
  unfold LoopState.step at hstep
  dsimp only at hstep
  split at hstep
  · rename_i hpoint
    cases hstep
    split
    · rename_i hnone
      exact .CycleMatters input hpoint hnone
    · rename_i hsome
      exact .Skip input hpoint hsome
  · rename_i hpoint
    cases hstep
    exact .HandleChargingState input hpoint
  · rename_i hpoint
    cases hstep
    exact .HandlePowerKeyState input hpoint
  · rename_i hpoint
    cases hstep
    exact .HandleScreenState input hpoint
  · rename_i hpoint
    split at hstep
    · cases hstep
    · rename_i hnevents
      cases hstep
      exact .EpollWait input hpoint (Int.not_lt.mp hnevents)
  · rename_i hpoint
    cases hstep
    exact .UeventCallback input hpoint

theorem loopStep_move {config : BatteryConfig} {state : LoopState} {label : LoopLabel}
    {result : LoopState × List LoopEffect} (hstep : loopStep config state label = some result) :
    Ticks state.clock label.now ∧ LoopMove config state label result := by
  unfold loopStep at hstep
  split at hstep
  · rename_i hticks
    refine ⟨hticks, ?_⟩
    cases label with
    | Loop input => exact step_move hstep
    | SetKeyState code value now =>
        cases hstep
        exact .SetKeyState code value now
  · cases hstep

namespace LoopState

def Timed (state : LoopState) : Prop := state.thread.Timed state.clock

theorem timed_start (config : BatteryConfig) (available : Bool) (env : LightEnv) (boot : Nat) :
    (start config available env boot).Timed :=
  ChargerThread.timed_init config available env boot

theorem Timed.next {config : BatteryConfig} {state next : LoopState} {label : LoopLabel}
    {out : List LoopEffect} (htimed : state.Timed)
    (hstep : loopStep config state label = some (next, out)) : next.Timed := by
  obtain ⟨hticks, hmove⟩ := loopStep_move hstep
  have hlater := ChargerThread.Timed.later htimed hticks.1
  cases hmove with
  | CycleMatters input => exact hlater.cycleMatters config input.env
  | Skip => exact hlater
  | HandleChargingState => exact hlater.handleChargingState
  | HandlePowerKeyState => exact hlater.handlePowerKeyState
  | HandleScreenState => exact hlater.handleScreenState
  | EpollWait => exact hlater
  | UeventCallback input => exact hlater.ueventCallback config input.received input.env
  | SetKeyState code value => exact hlater.setKeyState code value

end LoopState

-- A call of the loop when nothing happens.
def quiet (chargeState : String) (now : Int) : LoopLabel :=
  let env : UpdateEnv := {
    temperature := .Holds (ascii "300\n")
    capacity := .Holds (ascii "40\n")
    chargeState := .Holds (ascii chargeState)
    light := ⟨true, true⟩ }
  .Loop ⟨now, env, 0, none⟩

end BatteryManager.Charger
