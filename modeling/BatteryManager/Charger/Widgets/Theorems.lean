import BatteryManager.Charger.Widgets.Pointers

namespace BatteryManager.Charger

open Library

@[simp] theorem through_true (animation : ChargerAnimation) : through true animation = some animation := rfl

@[simp] theorem through_false (animation : ChargerAnimation) : through false animation = none := rfl

-- With all pointers set, the methods are those that were modelled without pointers.
namespace ChargerAnimation

variable (animation : ChargerAnimation)

@[simp] theorem animationStart?_built (capacity : Int) :
    animation.animationStart? true capacity = some (animation.animationStart capacity) := by
  unfold animationStart? animationStart capacityDisplay?
  by_cases hstarted : animation.animationState = .AnimationStart
  · simp [hstarted]
  · simp [hstarted]

@[simp] theorem animationStop?_built : animation.animationStop? true = some animation.animationStop := by
  unfold animationStop? animationStop capacityDestroy?
  by_cases hstopped : animation.animationState = .AnimationStop
  · simp [hstopped]
  · simp [hstopped, capacityDestroy]

@[simp] theorem lackPowerChargingPromptStart?_built :
    animation.lackPowerChargingPromptStart? true = some animation.lackPowerChargingPromptStart := by
  unfold lackPowerChargingPromptStart? lackPowerChargingPromptStart
  split <;> rfl

@[simp] theorem lackPowerChargingPromptStop?_built :
    animation.lackPowerChargingPromptStop? true = some animation.lackPowerChargingPromptStop := by
  unfold lackPowerChargingPromptStop? lackPowerChargingPromptStop
  split <;> rfl

@[simp] theorem lackPowerNotChargingPromptStart?_built :
    animation.lackPowerNotChargingPromptStart? true = some animation.lackPowerNotChargingPromptStart := by
  unfold lackPowerNotChargingPromptStart? lackPowerNotChargingPromptStart
  split <;> rfl

@[simp] theorem lackPowerNotChargingPromptStop?_built :
    animation.lackPowerNotChargingPromptStop? true = some animation.lackPowerNotChargingPromptStop := by
  unfold lackPowerNotChargingPromptStop? lackPowerNotChargingPromptStop
  split <;> rfl

end ChargerAnimation

theorem updateAnimation?_built (lackPowerCapacity : Int) (chargeState : BatteryChargeState) (capacity : Int)
    (animation : ChargerAnimation) :
    updateAnimation? true lackPowerCapacity chargeState capacity animation =
      some (updateAnimation lackPowerCapacity chargeState capacity animation) := by
  unfold updateAnimation? updateAnimation
  split_ifs <;> simp

-- On a blank screen the stops do not reach their pointers, and any start does.
theorem updateAnimation?_null (lackPowerCapacity : Int) (chargeState : BatteryChargeState) (capacity : Int)
    (text : String) :
    updateAnimation? false lackPowerCapacity chargeState capacity (Scene.Blank.render text) =
      if sceneFor lackPowerCapacity chargeState capacity = none then some (Scene.Blank.render text)
      else none := by
  have hchargingPrompt : (((Scene.Blank.render text).animationStop? false).bind fun animation =>
      animation.lackPowerNotChargingPromptStop? false).bind (fun animation =>
        animation.lackPowerChargingPromptStart? false) = none := rfl
  have hnotChargingPrompt : (((Scene.Blank.render text).animationStop? false).bind fun animation =>
      animation.lackPowerChargingPromptStop? false).bind (fun animation =>
        animation.lackPowerNotChargingPromptStart? false) = none := rfl
  have hcharging : (((Scene.Blank.render text).lackPowerChargingPromptStop? false).bind fun animation =>
      animation.lackPowerNotChargingPromptStop? false).bind (fun animation =>
        animation.animationStart? false capacity) = none := rfl
  unfold updateAnimation? sceneFor
  by_cases hlack : capacity ≤ lackPowerCapacity
  · cases chargeState with
    | None => rfl
    | Reserved => rfl
    | Enable => simp [hlack, hchargingPrompt]
    | Disable => simp [hlack, hnotChargingPrompt]
    | Full => simp [hlack]
  · cases chargeState with
    | None => rfl
    | Reserved => rfl
    | Enable => simp [hlack, hcharging]
    | Disable => simp [hlack]
    | Full => simp [hlack, hcharging]

-- Where no scene is called for, the animation stays as it is.
theorem updateAnimation_nothing {lackPowerCapacity capacity : Int} {chargeState : BatteryChargeState}
    (hnothing : sceneFor lackPowerCapacity chargeState capacity = none) (animation : ChargerAnimation) :
    updateAnimation lackPowerCapacity chargeState capacity animation = animation := by
  unfold sceneFor at hnothing
  unfold updateAnimation
  by_cases hlack : capacity ≤ lackPowerCapacity
  · cases chargeState with
    | None => rfl
    | Reserved => rfl
    | Enable => cases hnothing
    | Disable => simp [hlack] at hnothing
    | Full => simp [hlack]
  · cases chargeState with
    | None => rfl
    | Reserved => rfl
    | Enable => cases hnothing
    | Disable => simp [hlack]
    | Full => simp [hlack] at hnothing

namespace AnimationCall

theorem perform?_built (drawn : AnimationCall) (animation : ChargerAnimation) :
    drawn.perform? true animation = some (drawn.perform animation) := by
  cases drawn with
  | StopAll => simp [perform?, perform, ChargerAnimation.stopAll?, ChargerAnimation.stopAll]
  | UpdateAnimation lackPowerCapacity chargeState capacity =>
      exact updateAnimation?_built lackPowerCapacity chargeState capacity animation

theorem perform?_null (drawn : AnimationCall) (text : String) :
    drawn.perform? false (Scene.Blank.render text) =
      if drawn.scene? = none then some (Scene.Blank.render text) else none := by
  cases drawn with
  | StopAll => rfl
  | UpdateAnimation lackPowerCapacity chargeState capacity =>
      exact updateAnimation?_null lackPowerCapacity chargeState capacity text

theorem perform_blank {drawn : AnimationCall} (hnothing : drawn.scene? = none) (text : String) :
    drawn.perform (Scene.Blank.render text) = Scene.Blank.render text := by
  cases drawn with
  | StopAll => rfl
  | UpdateAnimation lackPowerCapacity chargeState capacity => exact updateAnimation_nothing hnothing _

end AnimationCall

namespace ChargerThread

variable (thread : ChargerThread)

-- What a call makes of the animation.
def drawn (call : Option AnimationCall) : ChargerAnimation :=
  (call.map fun call => call.perform thread.animation).getD thread.animation

theorem updateBatteryInfo_drawn (config : BatteryConfig) (env : UpdateEnv) :
    (thread.updateBatteryInfo config env).1.animation = thread.drawn (thread.readingCall env) := by
  unfold updateBatteryInfo readingCall drawn
  dsimp only
  by_cases hon : thread.backlight.screenState = .ScreenOn
  · rw [if_pos (show (thread.readBatteryInfo env).backlight.screenState = .ScreenOn from hon), if_pos hon]
    rfl
  · rw [if_neg (show ¬(thread.readBatteryInfo env).backlight.screenState = .ScreenOn from hon), if_neg hon]
    rfl

theorem cycleMatters_drawn (config : BatteryConfig) (now : Int) (env : UpdateEnv) :
    (thread.cycleMatters config now env).1.animation = thread.drawn (thread.readingCall env) := by
  unfold cycleMatters
  dsimp only
  generalize hstarted : (if thread.started then thread
    else { thread with started := true, backlightWait := now - 1 } : ChargerThread) = started
  obtain ⟨epollInterval, hepoll⟩ := (started.updateBatteryInfo config env).1.updateEpollInterval_outcome
    (started.updateBatteryInfo config env).1.chargeState
  rw [hepoll]
  refine (started.updateBatteryInfo_drawn config env).trans ?_
  rw [← hstarted]
  split <;> rfl

-- The wait for a long press is nothing that the animation shows.
theorem waiting_drawn (keycode : Nat) (now : Int) (backlight : BatteryBacklight) :
    ({ thread.setKeyWait (thread.keys keycode) REBOOT_TIME with
        backlight := backlight
        backlightWait := now - 1
        turnOnByKeydown := true : ChargerThread }.updateAnimation).animation =
      thread.drawn (some thread.updateCall) := by
  obtain ⟨keyWait, hwritten⟩ := thread.setKeyWait_outcome (thread.keys keycode) REBOOT_TIME
  rw [hwritten]
  rfl

theorem handlePowerKey_drawn (keycode : Nat) (now : Int) :
    (thread.handlePowerKey keycode now).1.animation = thread.drawn (thread.keyCall keycode now) := by
  unfold handlePowerKey keyCall
  dsimp only
  split
  · split
    · split
      · rfl
      · split
        · exact thread.waiting_drawn keycode now _
        · rfl
    · split
      · split <;> rfl
      · rfl
  · rfl

theorem handlePowerKeyState_drawn (now : Int) :
    (thread.handlePowerKeyState now).1.animation = thread.drawn (thread.keyCall KEY_POWER now) := by
  obtain ⟨keyWait, hwritten⟩ := thread.handlePowerKeyState_outcome now
  rw [← handlePowerKey_drawn, hwritten]

theorem handleChargingState_drawn (now : Int) :
    (thread.handleChargingState now).1.animation =
      thread.drawn ((ChargerCall.HandleChargingState now).animationCall thread) := by
  unfold handleChargingState ChargerCall.animationCall
  dsimp only
  split
  · rfl
  · split <;> rfl

theorem handleScreenState_drawn (now : Int) :
    (thread.handleScreenState now).1.animation =
      thread.drawn ((ChargerCall.HandleScreenState now).animationCall thread) := by
  unfold handleScreenState ChargerCall.animationCall
  dsimp only
  split <;> rfl

end ChargerThread

section Calls

variable (config : BatteryConfig) (thread : ChargerThread)

-- The calls that were told apart are all that reach the animation.
theorem execute_drawn (call : ChargerCall) :
    (call.execute config thread).1.animation = thread.drawn (call.animationCall thread) := by
  cases call with
  | CycleMatters now env => exact thread.cycleMatters_drawn config now env
  | UpdateBatteryInfo env => exact thread.updateBatteryInfo_drawn config env
  | HandleChargingState now => exact thread.handleChargingState_drawn now
  | HandlePowerKeyState now => exact thread.handlePowerKeyState_drawn now
  | HandlePowerKey keycode now => exact thread.handlePowerKey_drawn keycode now
  | HandleScreenState now => exact thread.handleScreenState_drawn now
  | SetKeyState code value now =>
      obtain ⟨keys, hwritten⟩ := thread.setKeyState_outcome code value now
      have hsame := congrArg ChargerThread.animation hwritten
      exact hsame

theorem execute?_built (call : ChargerCall) :
    call.execute? config true thread = some (call.execute config thread) := by
  have hdrawn := execute_drawn config thread call
  unfold ChargerCall.execute?
  dsimp only
  split
  · rfl
  · rename_i drawn hcall
    rw [hcall] at hdrawn
    rw [drawn.perform?_built, Option.map_some]
    exact congrArg (fun animation => some (({ (call.execute config thread).1 with animation := animation },
      (call.execute config thread).2) : ChargerThread × List ChargerEffect)) hdrawn.symm

variable {thread}

-- Nothing has been shown yet.
def ChargerThread.Blank (thread : ChargerThread) : Prop :=
  ∃ text, thread.animation = Scene.Blank.render text

theorem execute_blank {call : ChargerCall} (hblank : thread.Blank) (hnothing : call.scene? thread = none) :
    (call.execute config thread).1.animation = thread.animation := by
  obtain ⟨text, htext⟩ := hblank
  rw [execute_drawn, ChargerThread.drawn]
  unfold ChargerCall.scene? at hnothing
  cases hcall : call.animationCall thread with
  | none => rfl
  | some drawn =>
      rw [hcall] at hnothing
      rw [htext]
      exact AnimationCall.perform_blank hnothing text

theorem execute?_null (call : ChargerCall) (hblank : thread.Blank) :
    call.execute? config false thread =
      if call.scene? thread = none then some (call.execute config thread) else none := by
  have hkept : call.scene? thread = none → (call.execute config thread).1.animation = thread.animation :=
    execute_blank config hblank
  obtain ⟨text, htext⟩ := hblank
  unfold ChargerCall.execute? ChargerCall.scene? at *
  dsimp only
  cases hcall : call.animationCall thread with
  | none => rfl
  | some drawn =>
      rw [hcall] at hkept
      dsimp only [Option.bind_some] at hkept ⊢
      rw [htext, drawn.perform?_null]
      split
      · rename_i hnothing
        rw [Option.map_some, ← htext, ← hkept hnothing]
      · rfl

theorem nullRun_iff (hblank : thread.Blank) (calls : List ChargerCall) (last : ChargerThread)
    (log : List ChargerEffect) :
    Run (widgetStep config false) thread calls last log ↔
      Run (chargerStep config) thread calls last log ∧
        EachStep (chargerStep config) (fun thread call => call.scene? thread = none) thread calls := by
  refine checkedRun_iff ChargerThread.Blank ?_ ?_ ?_ hblank calls last log
  · intro before call hbefore hnothing
    exact (execute?_null config call hbefore).trans (if_pos hnothing)
  · intro before call hbefore hdraws
    exact (execute?_null config call hbefore).trans (if_neg hdraws)
  · rintro before call next out ⟨text, htext⟩ hnothing hstep
    have hnext : next = (call.execute config before).1 := congrArg Prod.fst (Option.some.inj hstep).symm
    rw [hnext]
    exact ⟨text, (execute_blank config ⟨text, htext⟩ hnothing).trans htext⟩

end Calls

theorem initAllComponents_isSome (file : ConfigFile) :
    (initAllComponents file).isSome = true ↔
      ∃ json, file = .Document json ∧ isEmptyJsonParse json = false := by
  unfold initAllComponents AnimationConfig.parseConfig
  cases file with
  | Missing => simp
  | Malformed => simp
  | Document json => cases hempty : isEmptyJsonParse json <;> simp [hempty]

-- Nothing looks at the outcome of `InitAllComponents`: without its document the
-- charger goes on, up to the first scene that it has to draw.
theorem widgetRun_iff (config : BatteryConfig) (available : Bool) (env : LightEnv) (file : ConfigFile)
    (calls : List ChargerCall) (thread : ChargerThread) (log : List ChargerEffect) :
    WidgetRun config available env file calls thread log ↔
      ChargerRun config available env calls thread log ∧
        ((∃ json, file = .Document json ∧ isEmptyJsonParse json = false) ∨
          EachStep (chargerStep config) (fun thread call => call.scene? thread = none)
            (ChargerThread.init config available env).1 calls) := by
  rw [← initAllComponents_isSome, WidgetRun]
  cases (initAllComponents file).isSome with
  | true =>
      have hsame : widgetStep config true = chargerStep config := by
        funext thread call
        exact execute?_built config thread call
      rw [hsame]
      exact (and_iff_left (.inl rfl)).symm
  | false =>
      rw [nullRun_iff config ⟨"", rfl⟩ calls thread log, Bool.false_eq_true, false_or]

end BatteryManager.Charger
