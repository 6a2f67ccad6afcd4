import BatteryManager.Charger.Loop.Lemmas

namespace BatteryManager.Charger

open Library

-- The call of the thread that a step of the loop makes. A turn after an event
-- skips the battery, and the uevents of other subsystems are dropped.
def LoopState.call (state : LoopState) : LoopLabel → Option ChargerCall
  | .SetKeyState code value now => some (.SetKeyState code value now)
  | .Loop input =>
      match state.point with
      | .CycleMatters => if state.nevents = 0 then some (.CycleMatters input.now input.env) else none
      | .HandleChargingState => some (.HandleChargingState input.now)
      | .HandlePowerKeyState => some (.HandlePowerKeyState input.now)
      | .HandleScreenState => some (.HandleScreenState input.now)
      | .EpollWait => none
      | .UeventCallback =>
          if acceptsUevent input.received then some (.UpdateBatteryInfo input.env) else none

def LoopEffect.call? : LoopEffect → Option ChargerEffect
  | .Call effect => some effect
  | .EpollWait _ => none

-- The calls of a run of the loop.
def loopCalls (config : BatteryConfig) (start : LoopState) (history : List LoopLabel) : List ChargerCall :=
  gather (loopStep config) LoopState.call start history

theorem filterMap_calls (out : List ChargerEffect) :
    (out.map LoopEffect.Call).filterMap LoopEffect.call? = out := by
  rw [List.filterMap_map]
  exact List.filterMap_some

theorem chargerStep_shown (config : BatteryConfig) (thread : ChargerThread) (call : ChargerCall) :
    chargerStep config thread call =
      some ((call.execute config thread).1,
        ((call.execute config thread).2.map LoopEffect.Call).filterMap LoopEffect.call?) :=
  congrArg some (Prod.ext rfl (filterMap_calls _).symm)

-- The loop is one of the orders in which the calls can come.
theorem loop_simulates (config : BatteryConfig) :
    Simulates (loopStep config) (chargerStep config) LoopState.call LoopState.thread LoopEffect.call? := by
  intro state label next out hstep
  cases (loopStep_move hstep).2 with
  | CycleMatters input hpoint hnone =>
      have hcall : state.call (.Loop input) = some (.CycleMatters input.now input.env) := by
        simp [LoopState.call, hpoint, hnone]
      rw [hcall]
      exact chargerStep_shown config state.thread _
  | Skip input hpoint hsome =>
      have hcall : state.call (.Loop input) = none := by simp [LoopState.call, hpoint, hsome]
      rw [hcall]
      exact ⟨rfl, rfl⟩
  | HandleChargingState input hpoint =>
      have hcall : state.call (.Loop input) = some (.HandleChargingState input.now) := by
        simp [LoopState.call, hpoint]
      rw [hcall]
      exact chargerStep_shown config state.thread _
  | HandlePowerKeyState input hpoint =>
      have hcall : state.call (.Loop input) = some (.HandlePowerKeyState input.now) := by
        simp [LoopState.call, hpoint]
      rw [hcall]
      exact chargerStep_shown config state.thread _
  | HandleScreenState input hpoint =>
      have hcall : state.call (.Loop input) = some (.HandleScreenState input.now) := by
        simp [LoopState.call, hpoint]
      rw [hcall]
      exact chargerStep_shown config state.thread _
  | EpollWait input hpoint hone =>
      have hcall : state.call (.Loop input) = none := by simp [LoopState.call, hpoint]
      rw [hcall]
      exact ⟨rfl, rfl⟩
  | UeventCallback input hpoint =>
      cases haccepts : acceptsUevent input.received with
      | true =>
          have hcall : state.call (.Loop input) = some (.UpdateBatteryInfo input.env) := by
            simp [LoopState.call, hpoint, haccepts]
          have hcallback : state.thread.ueventCallback config input.received input.env =
              state.thread.updateBatteryInfo config input.env := if_pos haccepts
          rw [hcall, hcallback]
          exact chargerStep_shown config state.thread (.UpdateBatteryInfo input.env)
      | false =>
          have hcall : state.call (.Loop input) = none := by simp [LoopState.call, hpoint, haccepts]
          have hcallback : state.thread.ueventCallback config input.received input.env = (state.thread, []) :=
            if_neg (Bool.eq_false_iff.mp haccepts)
          rw [hcall, hcallback]
          exact ⟨rfl, rfl⟩
  | SetKeyState code value now => exact rfl

theorem loopRun_calls {config : BatteryConfig} {available : Bool} {env : LightEnv} {boot : Nat}
    {history : List LoopLabel} {state : LoopState} {log : List LoopEffect}
    (hrun : LoopRun config available env boot history state log) :
    ChargerRun config available env
      (loopCalls config (LoopState.start config available env boot) history) state.thread
      (log.filterMap LoopEffect.call?) :=
  hrun.simulated (loop_simulates config)

end BatteryManager.Charger
