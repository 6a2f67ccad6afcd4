import BatteryManager.Notify.Lemmas
import BatteryManager.Service

namespace BatteryManager

open Library

-- What the functions that publish an event do besides.
def Effect.isPublishing : Effect → Bool
  | .PublishCommonEvent _ _ => true
  | .HookMgrExecute _ => true
  | .HiSysEventWrite _ _ _ _ _ _ _ => true
  | .StartVibrator _ => true
  | _ => false

section Publish

variable {env : PublishEnv} {info : BatteryInfo} {notify : BatteryNotify} {effect : Effect}
  {reason : String}

theorem publishChangedEvent_isPublishing (hm : effect ∈ (publishChangedEvent env info notify).effects) :
    effect.isPublishing = true := by
  unfold publishChangedEvent publishCommonEvent at hm
  dsimp only at hm
  split at hm
  · rcases List.mem_append.mp hm with hm | hm
    · cases List.mem_singleton.mp hm
      rfl
    · cases List.mem_singleton.mp hm
      rfl
  · cases List.mem_singleton.mp hm
    rfl

theorem sideEffects_isPublishing {which : StatePair × Bool}
    (hm : effect ∈ sideEffects env info notify which) : effect.isPublishing = true := by
  obtain ⟨pair, side⟩ := which
  have hprep : ∀ preparing ∈ pair.preparation side, preparing.isPublishing = true := by
    cases pair <;> cases side <;> simp [StatePair.preparation, Effect.isPublishing]
  unfold sideEffects at hm
  split at hm
  · rcases List.mem_append.mp hm with hm | hm
    · exact hprep effect hm
    · cases List.mem_singleton.mp hm
      rfl
  · cases hm

theorem chargeTypeEffects_isPublishing (hm : effect ∈ chargeTypeEffects env info notify) :
    effect.isPublishing = true := by
  unfold chargeTypeEffects at hm
  split at hm
  · cases hm
  · cases List.mem_singleton.mp hm
    rfl

theorem publishOrdinary_isPublishing (hm : effect ∈ (publishOrdinary env notify info).effects) :
    effect.isPublishing = true := by
  rw [publishOrdinary_effects] at hm
  rcases List.mem_append.mp hm with hchanged | hm
  · exact publishChangedEvent_isPublishing hchanged
  · rcases List.mem_cons.mp hm with rfl | hm
    · rfl
    · rcases List.mem_append.mp hm with hside | htype
      · obtain ⟨which, -, hside⟩ := List.mem_flatMap.mp hside
        exact sideEffects_isPublishing hside
      · exact chargeTypeEffects_isPublishing htype

theorem publishCustomEvent_isPublishing {commonEventName : String}
    (hm : effect ∈ (publishCustomEvent env info commonEventName).2) : effect.isPublishing = true := by
  unfold publishCustomEvent at hm
  dsimp only at hm
  split at hm
  · rcases List.mem_cons.mp hm with rfl | hm
    · rfl
    · cases List.mem_singleton.mp hm
      rfl
  · cases List.mem_singleton.mp hm
    rfl

-- A shutdown requested while events are published comes from an action uevent.
theorem handleUevent_shutDown
    (hshut : .ShutDownDevice reason ∈ (handleUevent env notify info).effects) :
    reason = "POWEROFF_CHARGE_DISABLE" := by
  unfold handleUevent at hshut
  split at hshut
  · cases hshut
  · rename_i ueventName ueventAct _
    dsimp only at hshut
    split_ifs at hshut
    · simpa using hshut
    · simp at hshut
    · exact Bool.noConfusion (publishChangedEvent_isPublishing hshut)
    · rcases List.mem_append.mp hshut with hshut | hshut
      · exact Bool.noConfusion (publishCustomEvent_isPublishing hshut)
      · simp at hshut
    · rcases List.mem_append.mp hshut with hshut | hshut
      · exact Bool.noConfusion (publishCustomEvent_isPublishing hshut)
      · cases hshut
    · rcases List.mem_append.mp hshut with hshut | hshut
      · exact Bool.noConfusion (publishChangedEvent_isPublishing hshut)
      · simp at hshut
    · cases hshut

theorem publishEvents_shutDown
    (hshut : .ShutDownDevice reason ∈ (publishEvents env notify info).effects) :
    reason = "POWEROFF_CHARGE_DISABLE" := by
  rw [publishEvents_eq] at hshut
  split at hshut
  · unfold publishKnown at hshut
    split at hshut
    · exact Bool.noConfusion (publishOrdinary_isPublishing hshut)
    · exact handleUevent_shutDown hshut
  · cases hshut

end Publish

def Effect.isLight : Effect → Bool
  | .TurnOffLight _ => true
  | .TurnOnLight _ _ _ _ => true
  | _ => false

namespace BatteryLight

variable (env : LightEnv) (capacity : Int) (light : BatteryLight) {effect : Effect}

theorem turnOff_isLight (hm : effect ∈ (light.turnOff env).2) : effect.isLight = true := by
  unfold turnOff at hm
  split at hm
  · cases List.mem_singleton.mp hm
    rfl
  · cases hm

theorem turnOn_isLight (color : UInt32) (hm : effect ∈ (light.turnOn env color).2) :
    effect.isLight = true := by
  unfold turnOn at hm
  split at hm
  · cases List.mem_singleton.mp hm
    rfl
  · cases hm

theorem showRange_isLight (lightConf : List LightConf)
    (hm : effect ∈ (light.showRange env capacity lightConf).effects) : effect.isLight = true := by
  induction lightConf with
  | nil => cases hm
  | cons conf rest ih =>
      unfold showRange at hm
      dsimp only at hm
      split_ifs at hm
      · cases hm
      · rcases List.mem_append.mp hm with hm | hm
        · exact turnOff_isLight env light hm
        · exact turnOn_isLight env _ conf.rgb hm
      · exact ih hm

-- Whatever the light does, it only calls its driver.
theorem updateColor_isLight (lightConf : List LightConf) (chargeState : BatteryChargeState)
    (hm : effect ∈ (light.updateColor env lightConf chargeState capacity).effects) :
    effect.isLight = true := by
  unfold updateColor at hm
  dsimp only at hm
  split_ifs at hm
  · exact turnOff_isLight env light hm
  · exact showRange_isLight env capacity light lightConf hm
  · cases hm

end BatteryLight

namespace BatteryService

variable {F : Ffrt}

section Report

variable (config : BatteryConfig) (env : ReportEnv) (service : BatteryService F)

-- The report that the service remembers is the one it handled, up to the uevent.
theorem handleBatteryInfo_lastBatteryInfo (build : Build) :
    ∃ uevent, (service.handleBatteryInfo build config env).1.lastBatteryInfo =
      { service.batteryInfo with uevent := uevent } := by
  obtain ⟨uevent, hinfo⟩ :=
    publishEvents_info (service.publishEnv env) service.notify service.batteryInfo
  refine ⟨uevent, ?_⟩
  rw [← hinfo]
  unfold handleBatteryInfo handleLowCapacity
  cases build <;> rfl

@[simp] theorem handleBatteryInfo_thresholds (build : Build) :
    (service.handleBatteryInfo build config env).1.thresholds = service.thresholds := by
  unfold handleBatteryInfo handleLowCapacity
  cases build <;> rfl

@[simp] theorem handleBatteryInfo_interface (build : Build) :
    (service.handleBatteryInfo build config env).1.interface = service.interface := by
  unfold handleBatteryInfo handleLowCapacity
  cases build <;> rfl

@[simp] theorem handleBatteryInfo_lowCapacityShutdown :
    (service.handleBatteryInfo .Default config env).1.lowCapacityShutdown =
      handleCapacity service.thresholds.shutdown service.batteryInfo.capacity
        service.batteryInfo.chargeState service.batteryInfo.present service.lowCapacityShutdown := by
  obtain ⟨uevent, hinfo⟩ :=
    publishEvents_info (service.publishEnv env) service.notify service.batteryInfo
  simp only [handleBatteryInfo, handleLowCapacity, wakeupDevice, hinfo]

@[simp] theorem handleBatteryInfo_delayHibernate :
    (service.handleBatteryInfo .SetLowCapacityThreshold config env).1.delayHibernate =
      service.delayHibernate.handleCapacityExt env.runningLockCreated service.thresholds.shutdown
        service.lastBatteryInfo.capacity service.batteryInfo.capacity
        service.batteryInfo.chargeState service.batteryInfo.present := by
  obtain ⟨uevent, hinfo⟩ :=
    publishEvents_info (service.publishEnv env) service.notify service.batteryInfo
  simp only [handleBatteryInfo, handleLowCapacity, wakeupDevice, hinfo]

theorem wakeupDevice_effects {pluggedType : BatteryPluggedType} {effect : Effect}
    (hm : effect ∈ (service.wakeupDevice pluggedType).2) : effect = .WakeupDevice := by
  unfold wakeupDevice at hm
  dsimp only at hm
  split at hm
  · exact List.mem_singleton.mp hm
  · cases hm

theorem handleTemperature_effects {temperature : Int} {effect : Effect}
    (hm : effect ∈ service.handleTemperature temperature) :
    effect = .ShutDownDevice "TemperatureOutOfRange" := by
  unfold handleTemperature at hm
  split at hm
  · exact List.mem_singleton.mp hm
  · cases hm

-- The light, the wakeup, the publications and the temperature, in this order.
theorem handleBatteryInfo_effects (build : Build) :
    (service.handleBatteryInfo build config env).2 =
      (service.light.updateColor env.light config.lightConf service.batteryInfo.chargeState
        service.batteryInfo.capacity).effects ++
      (service.wakeupDevice service.batteryInfo.pluggedType).2 ++
      (publishEvents (service.publishEnv env) service.notify service.batteryInfo).effects ++
      service.handleTemperature service.batteryInfo.temperature := by
  obtain ⟨uevent, hinfo⟩ :=
    publishEvents_info (service.publishEnv env) service.notify service.batteryInfo
  simp only [handleBatteryInfo, hinfo]
  rfl

-- Handling a report never asks for the low capacity shutdown itself.
theorem handleBatteryInfo_no_lowCapacity (build : Build) :
    .ShutDownDevice LOW_CAPACITY ∉ (service.handleBatteryInfo build config env).2 := by
  rw [handleBatteryInfo_effects]
  simp only [List.mem_append, not_or]
  refine ⟨⟨⟨fun hlight => ?_, fun hwake => ?_⟩, fun hshut => ?_⟩, fun htemperature => ?_⟩
  · exact Bool.noConfusion (BatteryLight.updateColor_isLight env.light _ _ _ _ hlight)
  · cases wakeupDevice_effects service hwake
  · have hreason := publishEvents_shutDown hshut
    revert hreason
    decide
  · have hreason := Effect.ShutDownDevice.inj (handleTemperature_effects service htemperature)
    revert hreason
    decide

-- All that a report publishes, `PublishEvents` publishes.
theorem handleBatteryInfo_publications (build : Build) (wanted : CommonEvent → Bool) :
    publications wanted (service.handleBatteryInfo build config env).2 =
      publications wanted
        (publishEvents (service.publishEnv env) service.notify service.batteryInfo).effects := by
  have hlight : publications wanted (service.light.updateColor env.light config.lightConf
      service.batteryInfo.chargeState service.batteryInfo.capacity).effects = [] :=
    publications_eq_nil _ fun _ _ hm =>
      Bool.noConfusion (BatteryLight.updateColor_isLight env.light _ _ _ _ hm)
  have hwake : publications wanted (service.wakeupDevice service.batteryInfo.pluggedType).2 = [] :=
    publications_eq_nil _ fun _ _ hm => nomatch wakeupDevice_effects service hm
  have htemperature :
      publications wanted (service.handleTemperature service.batteryInfo.temperature) = [] :=
    publications_eq_nil _ fun _ _ hm => nomatch handleTemperature_effects service hm
  rw [handleBatteryInfo_effects, publications_append, publications_append, publications_append, hlight,
    hwake, htemperature, List.nil_append, List.nil_append, List.append_nil]

theorem handleBatteryInfo_notify (build : Build) :
    (service.handleBatteryInfo build config env).1.notify =
      (publishEvents (service.publishEnv env) service.notify service.batteryInfo).notify := by
  unfold handleBatteryInfo handleLowCapacity
  cases build <;> rfl

theorem handleBatteryInfo_batteryInfo (build : Build) :
    (service.handleBatteryInfo build config env).1.batteryInfo =
      (publishEvents (service.publishEnv env) service.notify service.batteryInfo).info := by
  unfold handleBatteryInfo handleLowCapacity
  cases build <;> rfl

theorem handleBatteryInfo_lastPluggedType (build : Build) :
    (service.handleBatteryInfo build config env).1.lastPluggedType = service.batteryInfo.pluggedType := by
  unfold handleBatteryInfo handleLowCapacity
  cases build <;> rfl

theorem handleBatteryInfo_chargeTime (build : Build) :
    (service.handleBatteryInfo build config env).1.chargeTime =
      service.chargeTime.calculateRemainingChargeTime env.clock service.batteryInfo.capacity
        service.batteryInfo.chargeState := by
  unfold handleBatteryInfo handleLowCapacity
  cases build <;> rfl

theorem handleBatteryInfo_wakeup (build : Build) {env : ReportEnv}
    (hordinary : OrdinaryUevent service.batteryInfo) :
    .WakeupDevice ∈ (service.handleBatteryInfo build config env).2 ↔
      service.isLastPlugged ≠ isNowPlugged service.batteryInfo.pluggedType := by
  have hlight : .WakeupDevice ∉ (service.light.updateColor env.light config.lightConf
      service.batteryInfo.chargeState service.batteryInfo.capacity).effects :=
    fun hm => Bool.noConfusion (BatteryLight.updateColor_isLight env.light _ _ _ _ hm)
  have hpublish : .WakeupDevice ∉
      (publishEvents (service.publishEnv env) service.notify service.batteryInfo).effects := by
    rw [publishEvents_eq, publishKnown, if_pos hordinary]
    split
    · exact fun hm => Bool.noConfusion (publishOrdinary_isPublishing hm)
    · simp
  have htemperature : .WakeupDevice ∉ service.handleTemperature service.batteryInfo.temperature :=
    fun hm => nomatch handleTemperature_effects service hm
  have hwake : .WakeupDevice ∈ (service.wakeupDevice service.batteryInfo.pluggedType).2 ↔
      service.isLastPlugged ≠ isNowPlugged service.batteryInfo.pluggedType := by
    unfold wakeupDevice isPlugged isUnplugged
    cases service.isLastPlugged <;> cases isNowPlugged service.batteryInfo.pluggedType <;> simp
  rw [handleBatteryInfo_effects]
  simp only [List.mem_append, hlight, hpublish, htemperature, hwake, false_or, or_false]

@[simp] theorem handleBatteryInfo_isCommonEventReady (build : Build) :
    (service.handleBatteryInfo build config env).1.isCommonEventReady = service.isCommonEventReady := by
  unfold handleBatteryInfo handleLowCapacity
  cases build <;> rfl

end Report

-- A report of any content of `batteryInfo_`.
def report (build : Build) (config : BatteryConfig) (env : ReportEnv) (info : BatteryInfo)
    (service : BatteryService F) : BatteryService F × List Effect :=
  { service with batteryInfo := info }.handleBatteryInfo build config env

section Report

variable (config : BatteryConfig) (env : ReportEnv) (info : BatteryInfo) (service : BatteryService F)

theorem report_lastBatteryInfo (build : Build) :
    ∃ uevent, (service.report build config env info).1.lastBatteryInfo = { info with uevent := uevent } :=
  handleBatteryInfo_lastBatteryInfo config env { service with batteryInfo := info } build

@[simp] theorem report_thresholds (build : Build) :
    (service.report build config env info).1.thresholds = service.thresholds :=
  handleBatteryInfo_thresholds config env { service with batteryInfo := info } build

@[simp] theorem report_interface (build : Build) :
    (service.report build config env info).1.interface = service.interface :=
  handleBatteryInfo_interface config env { service with batteryInfo := info } build

@[simp] theorem report_lowCapacityShutdown :
    (service.report .Default config env info).1.lowCapacityShutdown =
      handleCapacity service.thresholds.shutdown info.capacity info.chargeState info.present
        service.lowCapacityShutdown :=
  handleBatteryInfo_lowCapacityShutdown config env { service with batteryInfo := info }

@[simp] theorem report_delayHibernate :
    (service.report .SetLowCapacityThreshold config env info).1.delayHibernate =
      service.delayHibernate.handleCapacityExt env.runningLockCreated service.thresholds.shutdown
        service.lastBatteryInfo.capacity info.capacity info.chargeState info.present :=
  handleBatteryInfo_delayHibernate config env { service with batteryInfo := info }

theorem report_no_lowCapacity (build : Build) :
    .ShutDownDevice LOW_CAPACITY ∉ (service.report build config env info).2 :=
  handleBatteryInfo_no_lowCapacity config env { service with batteryInfo := info } build

end Report

end BatteryService

end BatteryManager
