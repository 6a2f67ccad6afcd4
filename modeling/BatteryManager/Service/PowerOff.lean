import BatteryManager.Service.Callback
import BatteryManager.Service.Hibernate
import BatteryManager.Service.Shutdown

namespace BatteryManager

open Library

variable {F : Ffrt}

-- The requests after which the device is off.
def Effect.endsPower : Effect → Bool
  | .ShutDownDevice _ => true
  | .RebootDevice _ => true
  | .Hibernate _ => true
  | _ => false

-- The request that the act of a uevent stands for.
def ueventPower (uevent : String) : Option Effect :=
  match rsplit '$' uevent with
  | none => none
  | some (name, act) =>
      if act = SHUTDOWN then some (.ShutDownDevice "POWEROFF_CHARGE_DISABLE")
      else if act = REBOOT then some (.RebootDevice name)
      else none

-- The request for a temperature outside of the configured range. Two equal
-- limits are no range.
def temperaturePower (config : BatteryConfig) (temperature : Int) : Option Effect :=
  let high := config.getInt "temperature.high" INT32_MAX
  let low := config.getInt "temperature.low" INT32_MIN
  if (temperature ≤ low ∨ temperature ≥ high) ∧ high ≠ low then
    some (.ShutDownDevice "TemperatureOutOfRange")
  else none

theorem stays_of_isPublishing {effect : Effect} (hpublishing : effect.isPublishing = true) :
    effect.endsPower = false := by
  cases effect <;> first | rfl | cases hpublishing

theorem stays_of_isLight {effect : Effect} (hlight : effect.isLight = true) :
    effect.endsPower = false := by
  cases effect <;> first | rfl | cases hlight

section Publish

variable (env : PublishEnv) (notify : BatteryNotify) (info : BatteryInfo) {effect : Effect}

theorem not_mem_of_stays {effects : List Effect} (hstays : ∀ other ∈ effects, other.endsPower = false)
    (hpower : effect.endsPower = true) : effect ∉ effects :=
  fun hmem => Bool.noConfusion (hpower.symm.trans (hstays effect hmem))

theorem handleUevent_power (hpower : effect.endsPower = true) :
    effect ∈ (handleUevent env notify info).effects ↔ ueventPower info.uevent = some effect := by
  unfold handleUevent ueventPower
  cases hsplit : rsplit '$' info.uevent with
  | none => simp
  | some parts =>
      obtain ⟨name, act⟩ := parts
      have hchanged : effect ∉ (publishChangedEvent env { info with uevent := name } notify).effects :=
        not_mem_of_stays (fun _ hmem => stays_of_isPublishing (publishChangedEvent_isPublishing hmem)) hpower
      have hcustom : effect ∉ (publishCustomEvent env { info with uevent := name } act).2 :=
        not_mem_of_stays (fun _ hmem => stays_of_isPublishing (publishCustomEvent_isPublishing hmem)) hpower
      have hnotification : effect ≠ .HandleNotification name := by
        rintro rfl
        cases hpower
      dsimp only
      by_cases hshutdown : act = SHUTDOWN
      · simp [hshutdown, eq_comm]
      rw [if_neg hshutdown, if_neg hshutdown]
      by_cases hreboot : act = REBOOT
      · simp [hreboot, eq_comm]
      rw [if_neg hreboot, if_neg hreboot]
      -- no other act asks for it
      refine iff_of_false ?_ nofun
      split_ifs <;> simp [hchanged, hcustom, hnotification]

theorem publishEvents_power (hpower : effect.endsPower = true) :
    effect ∈ (publishEvents env notify info).effects ↔
      (notify.commonEventInitSuccess = true ∨ env.serviceExists = true) ∧
        ueventPower info.uevent = some effect := by
  rw [publishEvents_eq, ← Bool.or_eq_true]
  split
  · rename_i hknown
    simp only [hknown, true_and]
    unfold publishKnown
    split
    · rename_i hordinary
      have hnone : ueventPower info.uevent = none := by
        unfold ueventPower
        rw [hordinary.not_split]
      rw [hnone]
      exact iff_of_false
        (not_mem_of_stays (fun _ hmem => stays_of_isPublishing (publishOrdinary_isPublishing hmem)) hpower) nofun
    · exact handleUevent_power env notify.known info hpower
  · rename_i hunknown
    exact iff_of_false List.not_mem_nil (fun h => hunknown h.1)

end Publish

-- The limits are those of the configuration.
structure BatteryService.Limited (config : BatteryConfig) (service : BatteryService F) : Prop where
  high : service.highTemperature = config.getInt "temperature.high" INT32_MAX
  low : service.lowTemperature = config.getInt "temperature.low" INT32_MIN

-- What a report asks for.
def ReportPower (config : BatteryConfig) (service : BatteryService F) (env : ReportEnv) (uevent : String)
    (temperature : Int) (effect : Effect) : Prop :=
  service.KnowsService env ∧ ueventPower uevent = some effect ∨
    temperaturePower config temperature = some effect

section Report

variable (build : Build) {config : BatteryConfig} (env : ReportEnv) {service : BatteryService F}
variable {effect : Effect}

theorem handleBatteryInfo_limited (hlimited : service.Limited config) :
    (service.handleBatteryInfo build config env).1.Limited config := by
  unfold BatteryService.handleBatteryInfo BatteryService.handleLowCapacity
  cases build <;> exact ⟨hlimited.high, hlimited.low⟩

theorem temperaturePower_endsPower {temperature : Int}
    (htemperature : temperaturePower config temperature = some effect) : effect.endsPower = true := by
  unfold temperaturePower at htemperature
  dsimp only at htemperature
  split at htemperature
  · cases htemperature
    rfl
  · cases htemperature

theorem ueventPower_endsPower {uevent : String} (huevent : ueventPower uevent = some effect) :
    effect.endsPower = true := by
  unfold ueventPower at huevent
  split at huevent
  · cases huevent
  · split at huevent
    · cases huevent
      rfl
    · split at huevent
      · cases huevent
        rfl
      · cases huevent

theorem handleTemperature_power (hlimited : service.Limited config) (temperature : Int) :
    effect ∈ service.handleTemperature temperature ↔ temperaturePower config temperature = some effect := by
  unfold BatteryService.handleTemperature temperaturePower
  rw [hlimited.high, hlimited.low]
  dsimp only
  split
  · simp [eq_comm]
  · simp

theorem handleBatteryInfo_power (hlimited : service.Limited config) :
    effect ∈ (service.handleBatteryInfo build config env).2 ∧ effect.endsPower = true ↔
      ReportPower config service env service.batteryInfo.uevent service.batteryInfo.temperature effect := by
  have htemperature : effect ∈ service.handleTemperature service.batteryInfo.temperature ↔ _ :=
    handleTemperature_power hlimited service.batteryInfo.temperature
  have hpublished (hpower : effect.endsPower = true) :=
    publishEvents_power (service.publishEnv env) service.notify service.batteryInfo hpower
  rw [service.handleBatteryInfo_effects config env build]
  constructor
  · rintro ⟨hmem, hpower⟩
    rcases List.mem_append.mp hmem with hmem | hlimit
    · rcases List.mem_append.mp hmem with hmem | hevent
      · rcases List.mem_append.mp hmem with hlight | hwakeup
        · have hstays := stays_of_isLight (BatteryLight.updateColor_isLight env.light _ _ _ _ hlight)
          cases hpower.symm.trans hstays
        · cases service.wakeupDevice_effects hwakeup
          cases hpower
      · exact .inl ((hpublished hpower).mp hevent)
    · exact .inr (htemperature.mp hlimit)
  · rintro (hasked | hlimit)
    · have hpower := ueventPower_endsPower hasked.2
      exact ⟨List.mem_append_left _ (List.mem_append_right _ ((hpublished hpower).mpr hasked)), hpower⟩
    · exact ⟨List.mem_append_right _ (htemperature.mpr hlimit), temperaturePower_endsPower hlimit⟩

end Report

section DefaultBuild

variable {config : BatteryConfig} {enableS4 : Bool} {history : List (DefaultLabel F)}
variable {service next : BatteryService F} {log out : List Effect} {label : DefaultLabel F}

-- Why a step of the default build asks for the effect.
def DefaultPower (config : BatteryConfig) (enableS4 : Bool) (history : List (DefaultLabel F))
    (service : BatteryService F) (effect : Effect) : DefaultLabel F → Prop
  | .Report info env => ReportPower config service env info.uevent info.temperature effect
  | .RunTask handle isInExtremePowerSaveMode =>
      ArmedBy config enableS4 handle history ∧ isInExtremePowerSaveMode = false ∧
        effect = .ShutDownDevice LOW_CAPACITY
  | .Interface _ => False

theorem defaultRun_limited (hrun : DefaultRun config enableS4 history service log) :
    service.Limited config := by
  refine hrun.history_invariant (fun _ service _ => service.Limited config) ⟨rfl, rfl⟩ ?_
  intro history service log label next out _ hlimited hstep
  cases label with
  | Report info env =>
      cases hstep
      have hreported : BatteryService.Limited config { service with batteryInfo := info } :=
        ⟨hlimited.high, hlimited.low⟩
      exact handleBatteryInfo_limited .Default env hreported
  | RunTask handle extreme =>
      obtain ⟨ran, -, hnext⟩ := Option.map_eq_some_iff.mp hstep
      cases hnext
      exact ⟨hlimited.high, hlimited.low⟩
  | Interface present =>
      cases hstep
      exact ⟨hlimited.high, hlimited.low⟩

-- The default build ends the session for these reasons, and for no other.
theorem defaultPower_iff (hrun : DefaultRun config enableS4 history service log)
    (hstep : defaultStep config service label = some (next, out)) (effect : Effect) :
    effect ∈ out ∧ effect.endsPower = true ↔ DefaultPower config enableS4 history service effect label := by
  have hlimited := defaultRun_limited hrun
  have hinv := shutdownInvariant_run hrun
  cases label with
  | Report info env =>
      cases hstep
      have hreported : BatteryService.Limited config { service with batteryInfo := info } :=
        ⟨hlimited.high, hlimited.low⟩
      exact handleBatteryInfo_power .Default env hreported
  | RunTask handle extreme =>
      obtain ⟨ran, hran, hnext⟩ := Option.map_eq_some_iff.mp hstep
      cases hnext
      unfold LowCapacityShutdown.runTask at hran
      split at hran
      · rename_i hpending
        cases hran
        have harmed := hinv.armed handle hpending
        unfold DefaultPower lowCapacityTask
        cases extreme with
        | true => simp
        | false =>
            simp only [Bool.false_eq_true, if_false, List.mem_singleton, true_and]
            constructor
            · rintro ⟨rfl, -⟩
              exact ⟨harmed, rfl⟩
            · rintro ⟨-, rfl⟩
              exact ⟨rfl, rfl⟩
      · cases hran
  | Interface present =>
      cases hstep
      exact iff_of_false (fun h => List.not_mem_nil h.1) id

end DefaultBuild

def hotInfo : BatteryInfo where
  temperature := 700

theorem defaultPower_iff_hot :
    let start : BatteryService ticketFfrt := .init .Default shippedConfig true
    .ShutDownDevice "TemperatureOutOfRange" ∈ (start.report .Default shippedConfig silentEnv hotInfo).2 := by
  intro start
  have hrun : DefaultRun shippedConfig true [] start [] := .nil
  have hstep : defaultStep shippedConfig start (.Report hotInfo silentEnv) =
      some (start.report .Default shippedConfig silentEnv hotInfo) := rfl
  have hiff := defaultPower_iff hrun hstep (.ShutDownDevice "TemperatureOutOfRange")
  exact (hiff.mpr (.inr (by decide))).1

section ThresholdBuild

variable {config : BatteryConfig} {enableS4 : Bool} {history : List ThresholdLabel}
variable {service next : BatteryService F} {log out : List Effect} {label : ThresholdLabel}

-- A report that sets the timer, unless it is armed already.
def BatteryService.Arms (service : BatteryService F) : ThresholdLabel → Prop
  | .Report info _ =>
      info.capacity ≤ service.thresholds.shutdown ∧
        (info.capacity < service.lastBatteryInfo.capacity ∨
          info.present = true ∧ isCharging info.chargeState = false)
  | _ => False

-- A step after which the timer is not armed.
def BatteryService.Clears (service : BatteryService F) : ThresholdLabel → Prop
  | .Report info _ =>
      info.capacity > service.lastBatteryInfo.capacity ∨
        info.present = true ∧ isCharging info.chargeState = true
  | .ExpireTimer _ => True
  | .ReceiveEvent action => action = COMMON_EVENT_ENTER_HIBERNATE ∨ action = COMMON_EVENT_EXIT_HIBERNATE
  | .Interface _ => False
  | .Reset _ _ _ => service.interface = true

-- A report has set the timer, and nothing has cleared it since.
def ArmedTimer (config : BatteryConfig) (enableS4 : Bool) (history : List ThresholdLabel)
    (service : BatteryService F) : Prop :=
  ∃ before report after earlier log log', history = before ++ report :: after ∧
    ThresholdRun config enableS4 before earlier log ∧ earlier.Arms report ∧
    Run (thresholdStep config) earlier (report :: after) service log' ∧
    EachStep (thresholdStep config) (fun service label => ¬service.Clears label) earlier (report :: after)

theorem isSome_of_valid {hibernate : DelayHibernate F.timer}
    (hvalid : hibernate.isDelayHibernateTimerValid = true) : hibernate.ffrtTimer.isSome = true := by
  by_contra hnone
  have hunset := Option.not_isSome_iff_eq_none.mp hnone
  cases hvalid.symm.trans (hibernate.valid_of_none hunset)

theorem expire_valid {hibernate : DelayHibernate F.timer} {extreme : Bool}
    {ran : DelayHibernate F.timer × List Effect} (hexpire : hibernate.expire extreme = some ran) :
    ran.1.isDelayHibernateTimerValid = false := by
  unfold DelayHibernate.expire at hexpire
  split at hexpire
  · cases hexpire
    rw [DelayHibernate.unlockShutdownGuard_valid, DelayHibernate.isDelayHibernateTimerValid]
    cases hibernate.ffrtTimer <;> simp
  · cases hexpire

-- A timer that is armed was armed before or has just been set, and the step did
-- not clear it.
theorem armed_step (hstep : thresholdStep config service label = some (next, out))
    (harmed : next.delayHibernate.isDelayHibernateTimerValid = true) :
    ¬service.Clears label ∧
      (service.delayHibernate.isDelayHibernateTimerValid = true ∨ service.Arms label) := by
  cases label with
  | Report info env =>
      obtain rfl : (service.report .SetLowCapacityThreshold config env info).1 = next :=
        congrArg Prod.fst (Option.some.inj hstep)
      rw [BatteryService.report_delayHibernate] at harmed
      have hsome : service.delayHibernate.ffrtTimer.isSome = true := by
        rw [← service.delayHibernate.handleCapacityExt_isSome]
        exact isSome_of_valid harmed
      rw [DelayHibernate.handleCapacityExt_valid _ _ _ _ _ _ _ hsome] at harmed
      obtain ⟨hset, hkept⟩ := (Bool.and_eq_true _ _).mp harmed
      unfold BatteryService.Clears BatteryService.Arms
      simp only [Bool.or_eq_true, Bool.and_eq_true, decide_eq_true_eq, Bool.not_eq_true',
        Bool.or_eq_false_iff, Bool.and_eq_false_iff, decide_eq_false_iff_not] at hset hkept
      constructor
      · rintro (hrises | ⟨hpresent, hcharging⟩)
        · exact hkept.1 hrises
        · rcases hkept.2 with habsent | hidle
          · cases hpresent.symm.trans habsent
          · cases hcharging.symm.trans hidle
      · exact hset
  | ExpireTimer extreme =>
      obtain ⟨ran, hexpire, hnext⟩ := Option.map_eq_some_iff.mp hstep
      cases hnext
      cases harmed.symm.trans (expire_valid hexpire)
  | ReceiveEvent action =>
      cases hstep
      unfold DelayHibernate.onReceiveEvent at harmed
      dsimp only at harmed
      split at harmed
      · simp at harmed
      · rename_i hother
        exact ⟨hother, .inl harmed⟩
  | Interface present =>
      cases hstep
      exact ⟨id, .inl harmed⟩
  | Reset event chargeType env =>
      obtain rfl : (service.reset .SetLowCapacityThreshold config env event chargeType).1 = next :=
        congrArg Prod.fst (Option.some.inj hstep)
      cases hinterface : service.interface with
      | true =>
          have hnone := (BatteryService.reset_registered config service event chargeType env hinterface).1
          cases harmed.symm.trans (DelayHibernate.valid_of_none _ hnone)
      | false =>
          rw [service.reset_unregistered event chargeType env hinterface] at harmed
          exact ⟨by simp [BatteryService.Clears, hinterface], .inl harmed⟩

theorem armedTimer_run (hrun : ThresholdRun config enableS4 history service log)
    (harmed : service.delayHibernate.isDelayHibernateTimerValid = true) :
    ArmedTimer config enableS4 history service := by
  induction hrun with
  | nil =>
      have hunset : (BatteryService.init (F := F) .SetLowCapacityThreshold config
          enableS4).delayHibernate.isDelayHibernateTimerValid = false := by
        simp [BatteryService.init, DelayHibernate.isDelayHibernateTimerValid]
      cases harmed.symm.trans hunset
  | snoc label hrun hstep ih =>
      obtain ⟨hkept, hvalid | hset⟩ := armed_step hstep harmed
      · obtain ⟨before, report, after, earlier, first, later, rfl, hbefore, hreport, hrest, heach⟩ := ih hvalid
        exact ⟨before, report, after ++ [label], earlier, first, _, by simp, hbefore, hreport,
          hrest.snoc label hstep, heach.concat hrest hkept⟩
      · refine ⟨_, label, [], _, _, _, rfl, hrun, hset, .snoc label .nil hstep, hkept, ?_⟩
        rw [hstep]
        trivial

-- The session that the timer ends, by hibernation where that is enabled.
def timerPower (enableS4 : Bool) : Effect :=
  if enableS4 then .Hibernate LOW_CAPACITY else .ShutDownDevice LOW_CAPACITY

-- Why a step of the other build asks for the effect.
def ThresholdPower (config : BatteryConfig) (enableS4 : Bool) (history : List ThresholdLabel)
    (service : BatteryService F) (effect : Effect) : ThresholdLabel → Prop
  | .Report info env => ReportPower config service env info.uevent info.temperature effect
  | .ExpireTimer isInExtremePowerSaveMode =>
      ArmedTimer config enableS4 history service ∧ isInExtremePowerSaveMode = false ∧
        effect = timerPower enableS4
  | .ReceiveEvent _ => False
  | .Interface _ => False
  | .Reset event _ env =>
      service.interface = true ∧ ReportPower config service env event.uevent event.temperature effect

theorem handleCapacityExt_isHibernateEnable (created : Bool) (threshold lastCapacity capacity : Int)
    (chargeState : BatteryChargeState) (present : Bool) (hibernate : DelayHibernate F.timer) :
    (hibernate.handleCapacityExt created threshold lastCapacity capacity chargeState
      present).isHibernateEnable = hibernate.isHibernateEnable := by
  unfold DelayHibernate.handleCapacityExt DelayHibernate.createShutdownGuard
  dsimp only
  split_ifs <;> rfl

-- What stays as it was after `Init`.
structure ThresholdFrame (config : BatteryConfig) (enableS4 : Bool) (service : BatteryService F) : Prop where
  limited : service.Limited config
  isHibernateEnable : service.delayHibernate.isHibernateEnable = enableS4

theorem handleBatteryInfo_frame (env : ReportEnv) (hframe : ThresholdFrame config enableS4 service) :
    ThresholdFrame config enableS4 (service.handleBatteryInfo .SetLowCapacityThreshold config env).1 := by
  refine ⟨handleBatteryInfo_limited _ env hframe.limited, ?_⟩
  rw [BatteryService.handleBatteryInfo_delayHibernate, handleCapacityExt_isHibernateEnable]
  exact hframe.isHibernateEnable

-- The report that a reset handles.
def BatteryService.resetReport (event : HdiBatteryInfo) (chargeType : Option Nat)
    (service : BatteryService F) : BatteryService F :=
  let unmocked := { service with isMockUnplugged := false, isMockCapacity := false, isMockUevent := false }
  { unmocked with batteryInfo := unmocked.convertingEvent event chargeType }

theorem reset_handles (config : BatteryConfig) (event : HdiBatteryInfo) (chargeType : Option Nat)
    (env : ReportEnv) (hinterface : service.interface = true) :
    let handled := (service.resetReport event chargeType).handleBatteryInfo .SetLowCapacityThreshold config env
    service.reset .SetLowCapacityThreshold config env event chargeType =
      ({ handled.1 with delayHibernate := handled.1.delayHibernate.resetTimer }, handled.2) :=
  if_pos hinterface

theorem thresholdRun_frame (hrun : ThresholdRun config enableS4 history service log) :
    ThresholdFrame config enableS4 service := by
  refine hrun.history_invariant (fun _ service _ => ThresholdFrame config enableS4 service)
    ⟨⟨rfl, rfl⟩, rfl⟩ ?_
  intro history service log label next out _ hframe hstep
  cases label with
  | Report info env =>
      obtain rfl : (service.report .SetLowCapacityThreshold config env info).1 = next :=
        congrArg Prod.fst (Option.some.inj hstep)
      have hreported : ThresholdFrame config enableS4 { service with batteryInfo := info } :=
        ⟨⟨hframe.limited.high, hframe.limited.low⟩, hframe.isHibernateEnable⟩
      exact handleBatteryInfo_frame env hreported
  | ExpireTimer extreme =>
      obtain ⟨ran, hexpire, hnext⟩ := Option.map_eq_some_iff.mp hstep
      cases hnext
      refine ⟨⟨hframe.limited.high, hframe.limited.low⟩, ?_⟩
      unfold DelayHibernate.expire at hexpire
      split at hexpire
      · cases hexpire
        exact hframe.isHibernateEnable
      · cases hexpire
  | ReceiveEvent action =>
      cases hstep
      refine ⟨⟨hframe.limited.high, hframe.limited.low⟩, ?_⟩
      unfold DelayHibernate.onReceiveEvent
      dsimp only
      split
      · exact hframe.isHibernateEnable
      · exact hframe.isHibernateEnable
  | Interface present =>
      cases hstep
      exact ⟨⟨hframe.limited.high, hframe.limited.low⟩, hframe.isHibernateEnable⟩
  | Reset event chargeType env =>
      obtain rfl : (service.reset .SetLowCapacityThreshold config env event chargeType).1 = next :=
        congrArg Prod.fst (Option.some.inj hstep)
      cases hinterface : service.interface with
      | false =>
          rw [service.reset_unregistered event chargeType env hinterface]
          exact hframe
      | true =>
          have hreset : ThresholdFrame config enableS4 (service.resetReport event chargeType) :=
            ⟨⟨hframe.limited.high, hframe.limited.low⟩, hframe.isHibernateEnable⟩
          have hhandled := handleBatteryInfo_frame env hreset
          rw [reset_handles config event chargeType env hinterface]
          exact ⟨⟨hhandled.limited.high, hhandled.limited.low⟩, hhandled.isHibernateEnable⟩

-- The build with the low capacity threshold ends the session for these reasons,
-- and for no other.
theorem thresholdPower_iff (hrun : ThresholdRun config enableS4 history service log)
    (hstep : thresholdStep config service label = some (next, out)) (effect : Effect) :
    effect ∈ out ∧ effect.endsPower = true ↔
      ThresholdPower config enableS4 history service effect label := by
  have hframe := thresholdRun_frame hrun
  cases label with
  | Report info env =>
      obtain rfl : (service.report .SetLowCapacityThreshold config env info).2 = out :=
        congrArg Prod.snd (Option.some.inj hstep)
      have hreported : BatteryService.Limited config { service with batteryInfo := info } :=
        ⟨hframe.limited.high, hframe.limited.low⟩
      exact handleBatteryInfo_power .SetLowCapacityThreshold env hreported
  | ExpireTimer extreme =>
      obtain ⟨ran, hexpire, hnext⟩ := Option.map_eq_some_iff.mp hstep
      cases hnext
      unfold DelayHibernate.expire at hexpire
      split at hexpire
      · rename_i hvalid
        cases hexpire
        have harmed := armedTimer_run hrun hvalid
        unfold ThresholdPower timerPower DelayHibernate.doHibernateOrShutdown
        rw [hframe.isHibernateEnable]
        cases extreme with
        | true => simp
        | false =>
            simp only [Bool.false_eq_true, if_false, true_and]
            constructor
            · rintro ⟨hmem, -⟩
              refine ⟨harmed, ?_⟩
              cases enableS4 <;> exact List.mem_singleton.mp hmem
            · rintro ⟨-, rfl⟩
              cases enableS4 <;> exact ⟨List.mem_singleton.mpr rfl, rfl⟩
      · cases hexpire
  | ReceiveEvent action =>
      cases hstep
      exact iff_of_false (fun h => List.not_mem_nil h.1) id
  | Interface present =>
      cases hstep
      exact iff_of_false (fun h => List.not_mem_nil h.1) id
  | Reset event chargeType env =>
      obtain rfl : (service.reset .SetLowCapacityThreshold config env event chargeType).2 = out :=
        congrArg Prod.snd (Option.some.inj hstep)
      unfold ThresholdPower
      cases hinterface : service.interface with
      | false =>
          rw [service.reset_unregistered event chargeType env hinterface]
          exact iff_of_false (fun h => List.not_mem_nil h.1) (fun h => Bool.noConfusion h.1)
      | true =>
          have hreset : BatteryService.Limited config (service.resetReport event chargeType) :=
            ⟨hframe.limited.high, hframe.limited.low⟩
          rw [reset_handles config event chargeType env hinterface]
          refine (handleBatteryInfo_power .SetLowCapacityThreshold env hreset).trans ?_
          exact ⟨fun hpower => ⟨rfl, hpower⟩, fun h => h.2⟩

end ThresholdBuild

def drainedHistory : List ThresholdLabel :=
  [.Report (dischargingInfo 50) silentEnv, .Report (dischargingInfo 1) silentEnv]

theorem thresholdPower_iff_drained :
    ArmedTimer shippedConfig true drainedHistory ((shippedThresholdExec drainedHistory).get (by decide)).1 := by
  have hrun := shippedThreshold_run drainedHistory (by decide)
  have henabled : (thresholdStep shippedConfig ((shippedThresholdExec drainedHistory).get (by decide)).1
      (.ExpireTimer false)).isSome = true := by decide
  have hiff := thresholdPower_iff hrun (Option.some_get henabled).symm (.Hibernate LOW_CAPACITY)
  exact (hiff.mp ⟨by decide, rfl⟩).1

end BatteryManager
