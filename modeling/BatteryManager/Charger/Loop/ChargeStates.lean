import BatteryManager.Charger.Loop.Lemmas

namespace BatteryManager.Charger

open Library

namespace ChargerThread

-- What tells `HandleChargingState` to light the screen up.
structure SameSignal (first second : ChargerThread) : Prop where
  chargeState : first.chargeState = second.chargeState
  isChargeStateChanged : first.isChargeStateChanged = second.isChargeStateChanged

variable (thread : ChargerThread)

theorem setKeyState_signal (code : Nat) (value now : Int) :
    SameSignal (thread.setKeyState code value now) thread := by
  obtain ⟨keys, hwritten⟩ := thread.setKeyState_outcome code value now
  rw [hwritten]
  exact ⟨rfl, rfl⟩

theorem handleScreenState_signal (now : Int) : SameSignal (thread.handleScreenState now).1 thread := by
  have houtcome := thread.handleScreenState_outcome now
  generalize thread.handleScreenState now = result at houtcome ⊢
  cases houtcome <;> exact ⟨rfl, rfl⟩

theorem handlePowerKeyState_signal (now : Int) :
    SameSignal (thread.handlePowerKeyState now).1 thread := by
  obtain ⟨_, _, _, _, _, _, hwritten⟩ := thread.handlePowerKeyState_writes now
  rw [hwritten]
  exact ⟨rfl, rfl⟩

-- Every update overwrites the flag.
theorem updateBatteryInfo_flag (config : BatteryConfig) (env : UpdateEnv) :
    (thread.updateBatteryInfo config env).1.isChargeStateChanged =
      decide ((thread.updateBatteryInfo config env).1.chargeState ≠ thread.chargeState) := by
  obtain ⟨animation, hwritten⟩ := thread.updateBatteryInfo_outcome config env
  rw [hwritten]
  rfl

theorem cycleMatters_flag (config : BatteryConfig) (now : Int) (env : UpdateEnv) :
    (thread.cycleMatters config now env).1.isChargeStateChanged =
      decide ((thread.cycleMatters config now env).1.chargeState ≠ thread.chargeState) := by
  obtain ⟨⟨epollInterval, animation, hwritten⟩, -⟩ := thread.cycleMatters_outcome config now env
  rw [hwritten]
  rfl

-- The charge states for which the screen is lit up.
def Known (chargeState : BatteryChargeState) : Prop :=
  chargeState = .Enable ∨ chargeState = .Disable ∨ chargeState = .Full

theorem known_iff (chargeState : BatteryChargeState) :
    Known chargeState ↔ ¬(chargeState = .None ∨ chargeState = .Reserved) := by
  unfold Known
  cases chargeState <;> decide

-- What one call of `HandleChargingState` does with a change.
structure Wakes (now : Int) (next : ChargerThread) : Prop where
  screenOn : next.backlight.screenState = .ScreenOn
  backlightWait : next.backlightWait = now - 1
  consumed : next.isChargeStateChanged = false

theorem handleChargingState_wakes (now : Int) (hknown : Known thread.chargeState)
    (hchanged : thread.isChargeStateChanged = true) : Wakes now (thread.handleChargingState now).1 := by
  have houtcome := thread.handleChargingState_outcome now
  generalize thread.handleChargingState now = result at houtcome ⊢
  cases houtcome with
  | Ignored hignored =>
      rcases hignored with hnone | hreserved | hsame
      · exact absurd (.inl hnone) ((known_iff _).mp hknown)
      · exact absurd (.inr hreserved) ((known_iff _).mp hknown)
      · cases hsame.symm.trans hchanged
  | TurnsOn => exact ⟨thread.backlight.turnOnScreen_screenState, rfl, rfl⟩

theorem handleChargingState_idle (now : Int)
    (hidle : ¬(Known thread.chargeState ∧ thread.isChargeStateChanged = true)) :
    thread.handleChargingState now = (thread, []) := by
  have houtcome := thread.handleChargingState_outcome now
  generalize thread.handleChargingState now = result at houtcome ⊢
  cases houtcome with
  | Ignored => rfl
  | TurnsOn hknown hchanged => exact absurd ⟨(known_iff _).mpr hknown, hchanged⟩ hidle

end ChargerThread

namespace LoopState

-- The step calls `UpdateBatteryInfo`.
def Updates (state : LoopState) : LoopLabel → Prop
  | .Loop input =>
      state.point = .CycleMatters ∧ state.nevents = 0 ∨
        state.point = .UeventCallback ∧ acceptsUevent input.received = true
  | .SetKeyState _ _ _ => False

-- The step calls `HandleChargingState`, the first call of `HandleStates`.
def handles (state : LoopState) : LoopLabel → Bool
  | .Loop _ => state.point = .HandleChargingState
  | .SetKeyState _ _ _ => false

-- The step reads a charge state that is not the previous one and for which the
-- screen is lit up.
structure Change (config : BatteryConfig) (state : LoopState) (label : LoopLabel) (next : LoopState) :
    Prop where
  step : ∃ out, loopStep config state label = some (next, out)
  updates : state.Updates label
  changed : next.thread.chargeState ≠ state.thread.chargeState
  known : ChargerThread.Known next.thread.chargeState

-- There is an event whenever the callback is called.
def Counted (state : LoopState) : Prop := state.point = .UeventCallback → state.nevents ≠ 0

-- A change waits for `HandleStates`, which comes before any update.
structure Pending (state : LoopState) : Prop where
  known : ChargerThread.Known state.thread.chargeState
  changed : state.thread.isChargeStateChanged = true
  ahead : state.point = .HandleChargingState ∨ state.point = .CycleMatters ∧ state.nevents ≠ 0

end LoopState

def LoopLabel.isLoop : LoopLabel → Bool
  | .Loop _ => true
  | .SetKeyState _ _ _ => false

section Steps

variable {config : BatteryConfig} {state next : LoopState} {label : LoopLabel} {out : List LoopEffect}

theorem LoopState.Counted.kept (hcounted : state.Counted)
    (hstep : loopStep config state label = some (next, out)) : next.Counted := by
  intro hpoint
  cases (loopStep_move hstep).2 with
  | CycleMatters => cases hpoint
  | Skip => cases hpoint
  | HandleChargingState => cases hpoint
  | HandlePowerKeyState => cases hpoint
  | HandleScreenState => cases hpoint
  | UeventCallback => cases hpoint
  | SetKeyState => exact hcounted hpoint
  | EpollWait input =>
      intro hzero
      dsimp only at hpoint hzero
      rw [hzero] at hpoint
      cases hpoint

-- An update tells whether the charge state has changed, and every other step but
-- `HandleChargingState` leaves that as it is.
theorem update_signal (hstep : loopStep config state label = some (next, out))
    (hupdates : state.Updates label) :
    next.thread.isChargeStateChanged =
      decide (next.thread.chargeState ≠ state.thread.chargeState) := by
  cases (loopStep_move hstep).2 with
  | CycleMatters input => exact state.thread.cycleMatters_flag config input.now input.env
  | UeventCallback input hpoint =>
      rcases hupdates with ⟨hcycle, -⟩ | ⟨-, haccepted⟩
      · rw [hpoint] at hcycle
        cases hcycle
      · have hupdate : state.thread.ueventCallback config input.received input.env =
            state.thread.updateBatteryInfo config input.env := by
          rw [ChargerThread.ueventCallback, if_pos haccepted]
        dsimp only
        rw [hupdate]
        exact state.thread.updateBatteryInfo_flag config input.env
  | Skip input hpoint hsome =>
      rcases hupdates with ⟨-, hnone⟩ | ⟨huevent, -⟩
      · exact absurd hnone hsome
      · rw [hpoint] at huevent
        cases huevent
  | HandleChargingState input hpoint => simp [LoopState.Updates, hpoint] at hupdates
  | HandlePowerKeyState input hpoint => simp [LoopState.Updates, hpoint] at hupdates
  | HandleScreenState input hpoint => simp [LoopState.Updates, hpoint] at hupdates
  | EpollWait input hpoint => simp [LoopState.Updates, hpoint] at hupdates
  | SetKeyState => exact hupdates.elim

theorem other_signal (hstep : loopStep config state label = some (next, out))
    (hupdates : ¬state.Updates label) (hhandles : state.handles label = false) :
    ChargerThread.SameSignal next.thread state.thread := by
  cases (loopStep_move hstep).2 with
  | CycleMatters input hpoint hnone => exact absurd (.inl ⟨hpoint, hnone⟩) hupdates
  | Skip => exact ⟨rfl, rfl⟩
  | HandleChargingState input hpoint => simp [LoopState.handles, hpoint] at hhandles
  | HandlePowerKeyState input => exact state.thread.handlePowerKeyState_signal input.now
  | HandleScreenState input => exact state.thread.handleScreenState_signal input.now
  | EpollWait => exact ⟨rfl, rfl⟩
  | SetKeyState code value now => exact state.thread.setKeyState_signal code value now
  | UeventCallback input hpoint =>
      have hrefused : ¬acceptsUevent input.received = true :=
        fun haccepted => hupdates (.inr ⟨hpoint, haccepted⟩)
      have hsame : state.thread.ueventCallback config input.received input.env = (state.thread, []) := by
        rw [ChargerThread.ueventCallback, if_neg hrefused]
      dsimp only
      rw [hsame]
      exact ⟨rfl, rfl⟩

theorem handles_step (hstep : loopStep config state label = some (next, out))
    (hhandles : state.handles label = true) :
    next.thread = (state.thread.handleChargingState label.now).1 ∧
      out = (state.thread.handleChargingState label.now).2.map .Call := by
  have hpoint : ∀ input, label = .Loop input → state.point = .HandleChargingState := by
    rintro input rfl
    exact of_decide_eq_true hhandles
  cases (loopStep_move hstep).2 with
  | HandleChargingState => exact ⟨rfl, rfl⟩
  | SetKeyState => cases hhandles
  | CycleMatters input hother => cases hother.symm.trans (hpoint input rfl)
  | Skip input hother => cases hother.symm.trans (hpoint input rfl)
  | HandlePowerKeyState input hother => cases hother.symm.trans (hpoint input rfl)
  | HandleScreenState input hother => cases hother.symm.trans (hpoint input rfl)
  | EpollWait input hother => cases hother.symm.trans (hpoint input rfl)
  | UeventCallback input hother => cases hother.symm.trans (hpoint input rfl)

theorem LoopState.Change.pending (hchange : state.Change config label next)
    (hcounted : state.Counted) : next.Pending := by
  obtain ⟨out, hstep⟩ := hchange.step
  have hsignal := update_signal hstep hchange.updates
  refine ⟨hchange.known, by simp [hsignal, hchange.changed], ?_⟩
  have hupdates := hchange.updates
  cases (loopStep_move hstep).2 with
  | CycleMatters => exact .inl rfl
  | Skip => exact .inl rfl
  | UeventCallback input hpoint => exact .inr ⟨rfl, hcounted hpoint⟩
  | HandleChargingState input hpoint => simp [LoopState.Updates, hpoint] at hupdates
  | HandlePowerKeyState input hpoint => simp [LoopState.Updates, hpoint] at hupdates
  | HandleScreenState input hpoint => simp [LoopState.Updates, hpoint] at hupdates
  | EpollWait input hpoint => simp [LoopState.Updates, hpoint] at hupdates
  | SetKeyState => exact hupdates.elim

theorem LoopState.Pending.not_updates (hpending : state.Pending) (label : LoopLabel) :
    ¬state.Updates label := by
  intro hupdates
  cases label with
  | SetKeyState => exact hupdates
  | Loop input =>
      rcases hpending.ahead with hpoint | ⟨hpoint, hsome⟩
      · simp [LoopState.Updates, hpoint] at hupdates
      · simp [LoopState.Updates, hpoint, hsome] at hupdates

-- While a change waits, the loop only gets closer to `HandleStates`.
theorem LoopState.Pending.kept (hpending : state.Pending)
    (hstep : loopStep config state label = some (next, out)) (hhandles : state.handles label = false) :
    next.Pending ∧ (if label.isLoop then state.point = .CycleMatters ∧ next.point = .HandleChargingState
      else next.point = state.point) := by
  have hsignal := other_signal hstep (hpending.not_updates label) hhandles
  have hknown : ChargerThread.Known next.thread.chargeState := by
    rw [hsignal.chargeState]
    exact hpending.known
  have hchanged := hsignal.isChargeStateChanged.trans hpending.changed
  have hahead := hpending.ahead
  cases (loopStep_move hstep).2 with
  | CycleMatters input hpoint hnone =>
      exact absurd (.inl ⟨hpoint, hnone⟩) (hpending.not_updates (.Loop input))
  | Skip input hpoint => exact ⟨⟨hknown, hchanged, .inl rfl⟩, hpoint, rfl⟩
  | HandleChargingState input hpoint => simp [LoopState.handles, hpoint] at hhandles
  | HandlePowerKeyState input hpoint => simp [hpoint] at hahead
  | HandleScreenState input hpoint => simp [hpoint] at hahead
  | EpollWait input hpoint => simp [hpoint] at hahead
  | UeventCallback input hpoint => simp [hpoint] at hahead
  | SetKeyState => exact ⟨⟨hknown, hchanged, hahead⟩, rfl⟩

-- From a change to the next `HandleStates` the loop takes one step at most.
theorem LoopState.Pending.run {after : List LoopLabel} {later : LoopState} {log : List LoopEffect}
    (hpending : state.Pending)
    (hrest : Run (stepUntil LoopState.handles (loopStep config)) state after later log) :
    later.Pending ∧ (after.countP LoopLabel.isLoop = 0 ∨
      after.countP LoopLabel.isLoop = 1 ∧ later.point = .HandleChargingState) := by
  refine hrest.history_invariant (fun after later _ => later.Pending ∧
    (after.countP LoopLabel.isLoop = 0 ∨
      after.countP LoopLabel.isLoop = 1 ∧ later.point = .HandleChargingState))
    ⟨hpending, .inl rfl⟩ ?_
  rintro after later - label moved out - ⟨hwaits, hcount⟩ hmoved
  obtain ⟨hhandles, hstep⟩ := stepUntil_eq_some hmoved
  obtain ⟨hkept, hpoint⟩ := hwaits.kept hstep hhandles
  refine ⟨hkept, ?_⟩
  rw [List.countP_append, List.countP_singleton]
  cases hloop : label.isLoop with
  | false =>
      rw [hloop] at hpoint
      rcases hcount with hnone | ⟨hone, hthere⟩
      · exact .inl (by simp [hnone])
      · exact .inr ⟨by simp [hone], hpoint.trans hthere⟩
  | true =>
      rw [hloop] at hpoint
      rcases hcount with hnone | ⟨-, hthere⟩
      · exact .inr ⟨by simp [hnone], hpoint.2⟩
      · rw [hpoint.1] at hthere
        cases hthere

end Steps

section Runs

variable (config : BatteryConfig) (available : Bool) (env : LightEnv) (boot : Nat)

-- A change was read, and there was no `HandleStates` since.
def ChangedSince (history : List LoopLabel) (state : LoopState) : Prop :=
  ∃ before label after earlier next log log', history = before ++ label :: after ∧
    LoopRun config available env boot before earlier log ∧ earlier.Change config label next ∧
    Run (stepUntil LoopState.handles (loopStep config)) next after state log'

variable {config available env boot}

theorem counted_run {history : List LoopLabel} {state : LoopState} {log : List LoopEffect}
    (hrun : LoopRun config available env boot history state log) : state.Counted :=
  hrun.history_invariant (fun _ state _ => state.Counted) nofun
    fun _ _ _ _ _ _ _ hcounted hstep => hcounted.kept hstep

theorem ChangedSince.concat {history : List LoopLabel} {state next : LoopState} {label : LoopLabel}
    {out : List LoopEffect} (hsince : ChangedSince config available env boot history state)
    (hstep : loopStep config state label = some (next, out)) (hhandles : state.handles label = false) :
    ChangedSince config available env boot (history ++ [label]) next := by
  obtain ⟨before, change, after, earlier, changed, log, log', rfl, hbefore, hchange, hrest⟩ := hsince
  have hgoes : stepUntil LoopState.handles (loopStep config) state label = some (next, out) := by
    rw [stepUntil, hhandles]
    exact hstep
  have hlast := hrest.snoc label hgoes
  exact ⟨before, change, after ++ [label], earlier, changed, log, _, by simp, hbefore, hchange, hlast⟩

-- The flag is up only for a change that no `HandleStates` has seen.
theorem changedSince_of_flag {history : List LoopLabel} {state : LoopState} {log : List LoopEffect}
    (hrun : LoopRun config available env boot history state log)
    (hknown : ChargerThread.Known state.thread.chargeState)
    (hflag : state.thread.isChargeStateChanged = true) :
    ChangedSince config available env boot history state := by
  induction hrun with
  | nil => cases hflag
  | @snoc before earlier state log out label hbefore hstep ih =>
      by_cases hupdates : earlier.Updates label
      · have hchanged := update_signal hstep hupdates
        rw [hflag] at hchanged
        have hchange : earlier.Change config label state :=
          ⟨⟨out, hstep⟩, hupdates, of_decide_eq_true hchanged.symm, hknown⟩
        exact ⟨before, label, [], earlier, state, log, [], rfl, hbefore, hchange, .nil⟩
      · cases hhandles : earlier.handles label with
        | false =>
            have hsignal := other_signal hstep hupdates hhandles
            rw [hsignal.chargeState] at hknown
            rw [hsignal.isChargeStateChanged] at hflag
            exact (ih hknown hflag).concat hstep hhandles
        | true =>
            obtain ⟨hthread, -⟩ := handles_step hstep hhandles
            by_cases hwakes : ChargerThread.Known earlier.thread.chargeState ∧
                earlier.thread.isChargeStateChanged = true
            · have hconsumed := (earlier.thread.handleChargingState_wakes label.now hwakes.1
                hwakes.2).consumed
              rw [← hthread, hflag] at hconsumed
              cases hconsumed
            · have hsame : state.thread = earlier.thread := by
                rw [hthread, earlier.thread.handleChargingState_idle label.now hwakes]
              rw [hsame] at hknown hflag
              exact absurd ⟨hknown, hflag⟩ hwakes

end Runs

-- Every change is seen by the next `HandleStates`, which comes before any other
-- update, and `HandleChargingState` does nothing but for such a change.
theorem chargeStateChanges_handled {config : BatteryConfig} {available : Bool} {env : LightEnv}
    {boot : Nat} {history : List LoopLabel} {state : LoopState} {log : List LoopEffect}
    (hrun : LoopRun config available env boot history state log) :
    (∀ label next after later log', state.Change config label next →
      Run (stepUntil LoopState.handles (loopStep config)) next after later log' →
      (after.countP LoopLabel.isLoop = 0 ∨
        after.countP LoopLabel.isLoop = 1 ∧ later.point = .HandleChargingState) ∧
      (∀ label', ¬later.Updates label') ∧
      ∀ label' last out, later.handles label' = true →
        loopStep config later label' = some (last, out) → ChargerThread.Wakes label'.now last.thread) ∧
    ∀ label next out, state.handles label = true → loopStep config state label = some (next, out) →
      next.thread ≠ state.thread ∨ out ≠ [] → ChangedSince config available env boot history state := by
  constructor
  · intro label next after later log' hchange hrest
    obtain ⟨hpending, hcount⟩ := (hchange.pending (counted_run hrun)).run hrest
    refine ⟨hcount, hpending.not_updates, fun label' last out hhandles hstep => ?_⟩
    rw [(handles_step hstep hhandles).1]
    exact later.thread.handleChargingState_wakes label'.now hpending.known hpending.changed
  · intro label next out hhandles hstep hacts
    obtain ⟨hthread, hout⟩ := handles_step hstep hhandles
    by_contra hnone
    have hidle := state.thread.handleChargingState_idle label.now
      fun hwakes => hnone (changedSince_of_flag hrun hwakes.1 hwakes.2)
    rw [hidle] at hthread hout
    exact hacts.elim (absurd hthread) (absurd hout)

-- The first update finds the charger, and the screen is lit up for it.
theorem chargeStateChanges_handled_charging :
    ∃ read, (LoopState.start shippedConfig true ⟨true, true⟩ 0).Change shippedConfig
        (quiet "Charging\n" 1000) read ∧
      ∀ last out, loopStep shippedConfig read (quiet "Charging\n" 1000) = some (last, out) →
        ChargerThread.Wakes 1000 last.thread := by
  let start := LoopState.start shippedConfig true ⟨true, true⟩ 0
  have henabled : (loopStep shippedConfig start (quiet "Charging\n" 1000)).isSome = true := by decide
  let first := (loopStep shippedConfig start (quiet "Charging\n" 1000)).get henabled
  have hrun : LoopRun shippedConfig true ⟨true, true⟩ 0 [] start [] := .nil
  have hread : first.1.thread.chargeState = .Enable := rfl
  have hchange : start.Change shippedConfig (quiet "Charging\n" 1000) first.1 := {
    step := ⟨first.2, (Option.some_get henabled).symm⟩
    updates := .inl ⟨rfl, rfl⟩
    changed := by
      rw [hread]
      decide
    known := .inl hread }
  have hhandled := (chargeStateChanges_handled hrun).1 _ _ [] first.1 [] hchange .nil
  exact ⟨first.1, hchange, fun last out hstep => hhandled.2.2 _ last out rfl hstep⟩

end BatteryManager.Charger
