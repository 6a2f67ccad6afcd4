import BatteryManager.Charger.Loop.Calls
import BatteryManager.Charger.PowerKey
import BatteryManager.Charger.Readings

namespace BatteryManager.Charger

open Library

-- The time since which the power key is held. A repeated press changes nothing.
def ChargerCall.held (since : Option Int) : ChargerCall → Option Int
  | .SetKeyState code value now =>
      if code = KEY_POWER then
        if value ≠ 0 then since.or (some now) else none
      else since
  | _ => since

def heldSince (calls : List ChargerCall) : Option Int := calls.foldl ChargerCall.held none

-- The keys tell for how long the power key is held.
def ChargerThread.Holds (calls : List ChargerCall) (thread : ChargerThread) : Prop :=
  heldSince calls =
    if (thread.keys KEY_POWER).isDown then some (thread.keys KEY_POWER).timestamp else none

namespace ChargerThread

variable {config : BatteryConfig} {calls : List ChargerCall} {thread : ChargerThread}

theorem Holds.same {next : ChargerThread} (hholds : thread.Holds calls)
    (hisDown : (next.keys KEY_POWER).isDown = (thread.keys KEY_POWER).isDown)
    (htimestamp : (next.keys KEY_POWER).timestamp = (thread.keys KEY_POWER).timestamp) :
    next.Holds calls := by
  unfold Holds
  rw [hisDown, htimestamp]
  exact hholds

theorem Holds.setKeyState (hholds : thread.Holds calls) (code : Nat) (value now : Int) :
    (thread.setKeyState code value now).Holds (calls ++ [.SetKeyState code value now]) := by
  unfold Holds heldSince at *
  rw [List.foldl_concat, hholds]
  unfold ChargerCall.held
  dsimp only
  by_cases hpower : code = KEY_POWER
  · subst hpower
    have hlatch := thread.setKeyState_latch now value
    have hisDown := congrArg Latch.isDown hlatch
    have htimestamp := congrArg Latch.timestamp hlatch
    dsimp only [latch] at hisDown htimestamp
    rw [hisDown, htimestamp, if_pos rfl]
    unfold Latch.edge
    dsimp only
    by_cases hvalue : value = 0
    · cases (thread.keys KEY_POWER).isDown <;> simp [hvalue]
    · cases (thread.keys KEY_POWER).isDown <;> simp [hvalue]
  · have hkeys : (thread.setKeyState code value now).keys KEY_POWER = thread.keys KEY_POWER := by
      unfold ChargerThread.setKeyState
      dsimp only
      split
      · rfl
      · split
        · rfl
        · exact if_neg (Ne.symm hpower)
    rw [if_neg hpower, hkeys]

theorem Holds.handlePowerKey (hholds : thread.Holds calls) (keycode : Nat) (now : Int) :
    (thread.handlePowerKey keycode now).1.Holds calls := by
  by_cases hpower : keycode = KEY_POWER
  · subst hpower
    have hlatch := thread.handlePowerKey_latch now
    have hisDown := congrArg Latch.isDown hlatch
    have htimestamp := congrArg Latch.timestamp hlatch
    refine hholds.same (hisDown.trans ?_) (htimestamp.trans ?_)
    · unfold Latch.handle
      split_ifs <;> rfl
    · unfold Latch.handle
      split_ifs <;> rfl
  · unfold ChargerThread.handlePowerKey
    rw [if_neg hpower]
    exact hholds

theorem Holds.execute (hholds : thread.Holds calls) (call : ChargerCall) :
    (call.execute config thread).1.Holds (calls ++ [call]) := by
  have hkept (hother : ∀ since, call.held since = since) {next : ChargerThread} (hnext : next.Holds calls) :
      next.Holds (calls ++ [call]) := by
    unfold Holds heldSince
    rw [List.foldl_concat, hother]
    exact hnext
  have hkeys {next : ChargerThread} (hsame : next.keys = thread.keys) : next.Holds calls :=
    hholds.same (by rw [hsame]) (by rw [hsame])
  cases call with
  | CycleMatters now env =>
      obtain ⟨⟨epollInterval, animation, hwritten⟩, -⟩ := thread.cycleMatters_outcome config now env
      have hsame := congrArg ChargerThread.keys hwritten
      exact hkept (fun _ => rfl) (hkeys hsame)
  | UpdateBatteryInfo env =>
      obtain ⟨animation, hwritten⟩ := thread.updateBatteryInfo_outcome config env
      have hsame := congrArg ChargerThread.keys hwritten
      exact hkept (fun _ => rfl) (hkeys hsame)
  | HandleChargingState now =>
      refine hkept (fun _ => rfl) (hkeys ?_)
      have houtcome := thread.handleChargingState_outcome now
      unfold ChargerCall.execute
      dsimp only
      generalize thread.handleChargingState now = result at houtcome ⊢
      cases houtcome <;> rfl
  | HandleScreenState now =>
      refine hkept (fun _ => rfl) (hkeys ?_)
      have houtcome := thread.handleScreenState_outcome now
      unfold ChargerCall.execute
      dsimp only
      generalize thread.handleScreenState now = result at houtcome ⊢
      cases houtcome <;> rfl
  | HandlePowerKey keycode now => exact hkept (fun _ => rfl) (hholds.handlePowerKey keycode now)
  | HandlePowerKeyState now =>
      have hhandled := hholds.handlePowerKey KEY_POWER now
      refine hkept (fun _ => rfl) ?_
      obtain ⟨keyWait, hwritten⟩ := thread.handlePowerKeyState_outcome now
      unfold ChargerCall.execute
      dsimp only
      rw [hwritten]
      exact hhandled
  | SetKeyState code value now => exact hholds.setKeyState code value now

variable {effect : ChargerEffect}

end ChargerThread

section Power

variable {config : BatteryConfig} {calls : List ChargerCall} {thread : ChargerThread}
variable {call : ChargerCall} {effect : ChargerEffect}

end Power

section Runs

variable {config : BatteryConfig} {available : Bool} {env : LightEnv} {boot : Nat}
variable {history : List LoopLabel} {state next : LoopState} {log out : List LoopEffect} {label : LoopLabel}

end Runs

end BatteryManager.Charger
