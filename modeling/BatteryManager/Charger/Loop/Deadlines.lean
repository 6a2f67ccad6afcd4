import BatteryManager.Charger.Loop.Lemmas

namespace BatteryManager.Charger

open Library

namespace LoopState

-- The power key is held down from a press that turned the screen on.
def Held (state : LoopState) : Prop :=
  (state.thread.keys KEY_POWER).isDown = true ∧ state.turnedOn = true

def pressTime (state : LoopState) : Int := (state.thread.keys KEY_POWER).timestamp

-- What the loop has to be awake for.
inductive Deadline (state : LoopState) : Int → Prop
  | Reboot : state.Held → Deadline state (state.pressTime + REBOOT_TIME)
  | ScreenOff : state.thread.backlightWait ≠ INVALID →
      Deadline state (state.thread.backlightWait + BACKLIGHT_OFF_TIME_MS)

-- A timeout that neither oversleeps a deadline nor makes the loop spin.
structure InTime (state : LoopState) (now timeout : Int) : Prop where
  finite : ∀ deadline, state.Deadline deadline → 0 ≤ timeout
  early : ∀ deadline, state.Deadline deadline → timeout ≤ max 0 (deadline - now) + 1
  idle : timeout = 0 → ∃ deadline, state.Deadline deadline ∧ deadline ≤ now

-- When the timeout comes out right. While the screen-off time is pending the loop
-- waits for the whole poll interval, or not at all when there is none.
structure Timely (state : LoopState) (now : Int) : Prop where
  lit : state.thread.backlightWait ≠ INVALID → 0 ≤ state.thread.epollInterval →
    now ≤ state.thread.backlightWait + 8001 ∧ (state.Held → now ≤ state.pressTime + 1)
  litUnpolled : state.thread.backlightWait ≠ INVALID → state.thread.epollInterval < 0 →
    state.thread.backlightWait + 10000 ≤ now ∨ state.Held ∧ state.pressTime + 2000 ≤ now
  darkUnpolled : state.thread.backlightWait = INVALID → ¬state.Held → state.thread.epollInterval < 0 →
    state.thread.keyWait = INVALID ∨ now < state.thread.keyWait
  held : state.thread.backlightWait = INVALID → state.Held → 0 ≤ state.thread.epollInterval →
    now ≤ state.pressTime + 1 ∨ now < state.thread.keyWait ∧ state.thread.keyWait < now + 2000
  heldUnpolled : state.thread.backlightWait = INVALID → state.Held → state.thread.epollInterval < 0 →
    state.thread.keyWait ≠ INVALID ∧
      (now < state.thread.keyWait ∨ state.pressTime + 2000 ≤ now)

end LoopState

namespace ChargerThread

variable {now : Int} {thread : ChargerThread}

theorem bmod_toInt32 {value : Int} (hlow : -1 ≤ value) (hhigh : value ≤ 2000) :
    value.bmod 4294967296 = value := by
  rw [Int.bmod_eq_of_le] <;> omega

-- The backlight period counts as over from its start.
theorem updateWaitInterval_lit (htimed : thread.Timed now) (hlimit : now ≤ INT64_MAX - BACKLIGHT_OFF_TIME_MS)
    (hlit : thread.backlightWait ≠ INVALID) : thread.updateWaitInterval now = 0 := by
  have hpast := Int.le_of_lt htimed.backlightWait
  unfold updateWaitInterval
  dsimp only
  generalize hkeyed :
    (if thread.keyWait ≠ INVALID ∧ thread.keyWait < INT64_MAX then thread.keyWait else INT64_MAX) = keyed
  have hkeyedSet : keyed ≠ INVALID := by
    rw [← hkeyed]
    split_ifs with hkey
    · exact hkey.1
    · decide
  generalize hnext :
    (if thread.backlightWait ≠ INVALID ∧ thread.backlightWait < keyed then thread.backlightWait
      else keyed) = nextWait
  have hnextSet : nextWait ≠ INVALID := by
    rw [← hnext]
    split_ifs
    · exact hlit
    · exact hkeyedSet
  have hnextPast : nextWait ≤ now := by
    rw [← hnext]
    split_ifs with hearlier
    · exact hpast
    · have hkeyedFirst : keyed ≤ thread.backlightWait :=
        Int.not_lt.mp fun hlater => hearlier ⟨hlit, hlater⟩
      exact Int.le_trans hkeyedFirst hpast
  have hroom : nextWait ≠ INT64_MAX := by
    unfold BACKLIGHT_OFF_TIME_MS at hlimit
    omega
  rw [if_pos ⟨hnextSet, hroom⟩, if_neg (by omega)]
  rfl

theorem updateWaitInterval_unset (hdark : thread.backlightWait = INVALID)
    (hunset : thread.keyWait = INVALID) : thread.updateWaitInterval now = -1 := by
  unfold updateWaitInterval
  simp [hdark, hunset]
  decide

theorem updateWaitInterval_keyWait (htimed : thread.Timed now)
    (hlimit : now ≤ INT64_MAX - BACKLIGHT_OFF_TIME_MS) (hdark : thread.backlightWait = INVALID)
    (hset : thread.keyWait ≠ INVALID) :
    thread.updateWaitInterval now = if thread.keyWait - now > 0 then thread.keyWait - now else 0 := by
  have hkeyWait := htimed.keyWait
  have htimestamp := htimed.timestamp
  have hroom : thread.keyWait < INT64_MAX := by
    unfold INT64_MAX BACKLIGHT_OFF_TIME_MS REBOOT_TIME at *
    omega
  have hnotMax := Int.ne_of_lt hroom
  unfold updateWaitInterval
  simp only [hdark, hset, hroom, hnotMax, ne_eq, not_true_eq_false, not_false_eq_true, false_and,
    and_self, if_true, if_false]
  unfold REBOOT_TIME at hkeyWait
  split
  · exact bmod_toInt32 (by omega) (by omega)
  · rfl

-- The poll interval, unless the key wait comes first.
theorem epollTimeout_polled (hpolled : thread.epollInterval = 2000) :
    thread.epollTimeout now =
      if thread.updateWaitInterval now > 0 ∧ thread.updateWaitInterval now < 2000 then
        thread.updateWaitInterval now
      else 2000 := by
  unfold epollTimeout
  simp [hpolled]

theorem epollTimeout_unpolled (hunpolled : thread.epollInterval = -1) :
    thread.epollTimeout now = thread.updateWaitInterval now := by
  unfold epollTimeout
  simp [hunpolled]

end ChargerThread

namespace LoopState

variable {state : LoopState} {now timeout : Int}

theorem forall_deadline (p : Int → Prop) :
    (∀ deadline, state.Deadline deadline → p deadline) ↔
      (state.Held → p (state.pressTime + REBOOT_TIME)) ∧
        (state.thread.backlightWait ≠ INVALID →
          p (state.thread.backlightWait + BACKLIGHT_OFF_TIME_MS)) := by
  constructor
  · intro hall
    exact ⟨fun hheld => hall _ (.Reboot hheld), fun hlit => hall _ (.ScreenOff hlit)⟩
  · rintro ⟨hreboot, hoff⟩ deadline hdeadline
    cases hdeadline with
    | Reboot hheld => exact hreboot hheld
    | ScreenOff hlit => exact hoff hlit

theorem exists_deadline (p : Int → Prop) :
    (∃ deadline, state.Deadline deadline ∧ p deadline) ↔
      (state.Held ∧ p (state.pressTime + REBOOT_TIME)) ∨
        (state.thread.backlightWait ≠ INVALID ∧
          p (state.thread.backlightWait + BACKLIGHT_OFF_TIME_MS)) := by
  constructor
  · rintro ⟨deadline, hdeadline, hp⟩
    cases hdeadline with
    | Reboot hheld => exact .inl ⟨hheld, hp⟩
    | ScreenOff hlit => exact .inr ⟨hlit, hp⟩
  · rintro (⟨hheld, hp⟩ | ⟨hlit, hp⟩)
    · exact ⟨_, .Reboot hheld, hp⟩
    · exact ⟨_, .ScreenOff hlit, hp⟩

theorem inTime_iff : state.InTime now timeout ↔
    ((state.Held → 0 ≤ timeout) ∧ (state.thread.backlightWait ≠ INVALID → 0 ≤ timeout)) ∧
      ((state.Held → timeout ≤ max 0 (state.pressTime + 2000 - now) + 1) ∧
        (state.thread.backlightWait ≠ INVALID →
          timeout ≤ max 0 (state.thread.backlightWait + 10000 - now) + 1)) ∧
      (timeout = 0 → state.Held ∧ state.pressTime + 2000 ≤ now ∨
        state.thread.backlightWait ≠ INVALID ∧ state.thread.backlightWait + 10000 ≤ now) := by
  constructor
  · rintro ⟨hfinite, hearly, hidle⟩
    refine ⟨(forall_deadline _).mp hfinite, (forall_deadline _).mp hearly, fun hzero => ?_⟩
    exact (exists_deadline _).mp (hidle hzero)
  · rintro ⟨hfinite, hearly, hidle⟩
    refine ⟨(forall_deadline _).mpr hfinite, (forall_deadline _).mpr hearly, fun hzero => ?_⟩
    exact (exists_deadline _).mpr (hidle hzero)

theorem timely_iff : state.Timely now ↔
    (state.thread.backlightWait ≠ INVALID → 0 ≤ state.thread.epollInterval →
      now ≤ state.thread.backlightWait + 8001 ∧ (state.Held → now ≤ state.pressTime + 1)) ∧
    (state.thread.backlightWait ≠ INVALID → state.thread.epollInterval < 0 →
      state.thread.backlightWait + 10000 ≤ now ∨ state.Held ∧ state.pressTime + 2000 ≤ now) ∧
    (state.thread.backlightWait = INVALID → ¬state.Held → state.thread.epollInterval < 0 →
      state.thread.keyWait = INVALID ∨ now < state.thread.keyWait) ∧
    (state.thread.backlightWait = INVALID → state.Held → 0 ≤ state.thread.epollInterval →
      now ≤ state.pressTime + 1 ∨ now < state.thread.keyWait ∧ state.thread.keyWait < now + 2000) ∧
    (state.thread.backlightWait = INVALID → state.Held → state.thread.epollInterval < 0 →
      state.thread.keyWait ≠ INVALID ∧
        (now < state.thread.keyWait ∨ state.pressTime + 2000 ≤ now)) :=
  ⟨fun htimely => ⟨htimely.lit, htimely.litUnpolled, htimely.darkUnpolled, htimely.held,
    htimely.heldUnpolled⟩, fun ⟨hlit, hlitUnpolled, hdarkUnpolled, hheld, hheldUnpolled⟩ =>
    ⟨hlit, hlitUnpolled, hdarkUnpolled, hheld, hheldUnpolled⟩⟩

-- The timeout is right exactly when it happens to come out so.
theorem inTime_epollTimeout_iff (htimed : state.thread.Timed now)
    (hlimit : now ≤ INT64_MAX - BACKLIGHT_OFF_TIME_MS) :
    state.InTime now (state.thread.epollTimeout now) ↔ state.Timely now := by
  have hkeyWait : state.thread.keyWait ≤ state.pressTime + 2000 := htimed.keyWait
  have hpress : state.pressTime ≤ now := htimed.timestamp
  have hnow : 0 ≤ now := Int.le_trans htimed.pressed htimed.timestamp
  have hinvalid : INVALID = -1 := rfl
  rw [inTime_iff, timely_iff]
  by_cases hlit : state.thread.backlightWait ≠ INVALID
  · have hzero := ChargerThread.updateWaitInterval_lit htimed hlimit hlit
    rcases htimed.epollInterval with hunpolled | hpolled
    · rw [ChargerThread.epollTimeout_unpolled hunpolled, hzero, hunpolled]
      by_cases hheld : state.Held <;> simp [hlit, hheld] <;> omega
    · rw [ChargerThread.epollTimeout_polled hpolled, hzero, hpolled]
      by_cases hheld : state.Held <;> simp [hlit, hheld, TIMER_FAST_SEC, SEC_TO_MSEC] <;> omega
  · have hdark := not_not.mp hlit
    by_cases hset : state.thread.keyWait = INVALID
    · have hnone : state.thread.updateWaitInterval now = -1 :=
        ChargerThread.updateWaitInterval_unset hdark hset
      rcases htimed.epollInterval with hunpolled | hpolled
      · rw [ChargerThread.epollTimeout_unpolled hunpolled, hnone, hunpolled]
        by_cases hheld : state.Held <;> simp [hdark, hheld, hset]
      · rw [ChargerThread.epollTimeout_polled hpolled, hnone, hpolled]
        by_cases hheld : state.Held
        · simp [hdark, hheld, hset, TIMER_FAST_SEC, SEC_TO_MSEC]
          omega
        · simp [hdark, hheld, hset, TIMER_FAST_SEC, SEC_TO_MSEC]
    · have hkey := ChargerThread.updateWaitInterval_keyWait htimed hlimit hdark hset
      rcases htimed.epollInterval with hunpolled | hpolled
      · rw [ChargerThread.epollTimeout_unpolled hunpolled, hkey, hunpolled]
        by_cases hheld : state.Held <;> simp [hdark, hheld, hset] <;> omega
      · rw [ChargerThread.epollTimeout_polled hpolled, hkey, hpolled]
        by_cases hheld : state.Held <;> simp [hdark, hheld, hset, TIMER_FAST_SEC, SEC_TO_MSEC] <;> omega

end LoopState

-- What holds of the state, the time and the timeout of every call of `epoll_wait`.
def AtEpollWait (config : BatteryConfig) (p : LoopState → Int → Int → Prop) (state : LoopState)
    (label : LoopLabel) : Prop :=
  ∀ next out timeout, loopStep config state label = some (next, out) → .EpollWait timeout ∈ out →
    p state label.now timeout

-- Only the call of `epoll_wait` sleeps.
theorem not_epollWait_mem_calls (calls : List ChargerEffect) (timeout : Int) :
    .EpollWait timeout ∉ calls.map LoopEffect.Call := by simp

theorem epollWait_step {config : BatteryConfig} {state next : LoopState} {label : LoopLabel}
    {out : List LoopEffect} {timeout : Int} (hstep : loopStep config state label = some (next, out))
    (hwait : .EpollWait timeout ∈ out) :
    Ticks state.clock label.now ∧ timeout = state.thread.epollTimeout label.now := by
  obtain ⟨hticks, hmove⟩ := loopStep_move hstep
  refine ⟨hticks, ?_⟩
  cases hmove with
  | EpollWait =>
      cases List.mem_singleton.mp hwait
      rfl
  | SetKeyState => cases hwait
  | CycleMatters => exact absurd hwait (not_epollWait_mem_calls _ timeout)
  | Skip => exact absurd hwait (not_epollWait_mem_calls _ timeout)
  | HandleChargingState => exact absurd hwait (not_epollWait_mem_calls _ timeout)
  | HandlePowerKeyState => exact absurd hwait (not_epollWait_mem_calls _ timeout)
  | HandleScreenState => exact absurd hwait (not_epollWait_mem_calls _ timeout)
  | UeventCallback => exact absurd hwait (not_epollWait_mem_calls _ timeout)

theorem atEpollWait_iff {config : BatteryConfig} {state : LoopState} (htimed : state.Timed)
    (label : LoopLabel) :
    AtEpollWait config LoopState.InTime state label ↔
      AtEpollWait config (fun state now _ => state.Timely now) state label := by
  refine forall_congr' fun next => forall_congr' fun out => forall_congr' fun timeout =>
    forall_congr' fun hstep => forall_congr' fun hwait => ?_
  obtain ⟨hticks, rfl⟩ := epollWait_step hstep hwait
  exact LoopState.inTime_epollTimeout_iff (htimed.later hticks.1) hticks.2

-- In every run the timeouts are right exactly where the times happen to fit.
theorem epollTimeout_inTime_iff (config : BatteryConfig) (available : Bool) (env : LightEnv)
    (boot : Nat) (history : List LoopLabel) :
    EachStep (loopStep config) (AtEpollWait config LoopState.InTime)
        (LoopState.start config available env boot) history ↔
      EachStep (loopStep config) (AtEpollWait config fun state now _ => state.Timely now)
        (LoopState.start config available env boot) history :=
  eachStep_congr LoopState.Timed (fun _ _ _ _ htimed hstep => htimed.next hstep)
    (fun _ label htimed => atEpollWait_iff htimed label) (LoopState.timed_start config available env boot)
    history

-- A press that turns the screen off, and one that turns it on and is held.
def longPress : List LoopLabel :=
  [.SetKeyState KEY_POWER 1 1500, .SetKeyState KEY_POWER 0 1600] ++
    List.replicate 5 (quiet "Charging\n" 3000) ++ [.SetKeyState KEY_POWER 1 3500] ++
    List.replicate 4 (quiet "Charging\n" 5000)

-- Without a poll interval the loop spins while the screen is on. With one, it
-- sleeps two seconds when the long press is half a second away.
theorem not_epollTimeout_inTime :
    ¬EachStep (loopStep shippedConfig) (AtEpollWait shippedConfig LoopState.InTime)
        (LoopState.start shippedConfig true ⟨true, true⟩ 0)
        (List.replicate 4 (quiet "Unknown\n" 1000) ++ [quiet "Unknown\n" 1000]) ∧
      ¬EachStep (loopStep shippedConfig) (AtEpollWait shippedConfig LoopState.InTime)
        (LoopState.start shippedConfig true ⟨true, true⟩ 0) (longPress ++ [quiet "Charging\n" 5000]) := by
  constructor
  · intro heach
    have hwait := heach.exec (Option.some_get (by decide)).symm
    obtain ⟨deadline, hdeadline, hpast⟩ := (hwait _ _ 0 rfl (by decide)).idle rfl
    cases hdeadline with
    | Reboot hheld => exact absurd hheld.1 (by decide)
    | ScreenOff => exact absurd hpast (by decide)
  · intro heach
    have hwait := heach.exec (Option.some_get (by decide)).symm
    have hearly := (hwait _ _ 2000 rfl (by decide)).early _ (.Reboot ⟨by decide +kernel, by decide +kernel⟩)
    exact absurd hearly (by decide)

end BatteryManager.Charger
