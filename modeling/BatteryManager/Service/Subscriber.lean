import BatteryManager.Notify.Level
import BatteryManager.Service.Mock

namespace BatteryManager

open Library

def COMMON_EVENT_KEY_CAPACITY : String := "soc"
def COMMON_EVENT_KEY_CHARGE_STATE : String := "chargeState"
def COMMON_EVENT_KEY_HEALTH_STATE : String := "healthState"
def COMMON_EVENT_KEY_PLUGGED_TYPE : String := "pluggedType"
def COMMON_EVENT_KEY_VOLTAGE : String := "voltage"
def COMMON_EVENT_KEY_TECHNOLOGY : String := "technology"
def COMMON_EVENT_KEY_TEMPERATURE : String := "temperature"
def COMMON_EVENT_KEY_PRESENT : String := "present"

-- The extras of BATTERY_CHANGED that the interfaces name, as a subscriber holds
-- them. Nothing is known at first.
structure Subscriber where
  soc : Int := 0
  chargeState : Int := 0
  healthState : Int := 0
  pluggedType : Int := 0
  voltage : Int := 0
  technology : String := ""
  temperature : Int := 0
  present : Bool := false
  capacityLevel : Int := 0
  deriving DecidableEq

namespace Subscriber

-- Each extra that an event carries replaces the one before.
def receive (subscriber : Subscriber) (event : CommonEvent) : Subscriber where
  soc := (event.intParam COMMON_EVENT_KEY_CAPACITY).getD subscriber.soc
  chargeState := (event.intParam COMMON_EVENT_KEY_CHARGE_STATE).getD subscriber.chargeState
  healthState := (event.intParam COMMON_EVENT_KEY_HEALTH_STATE).getD subscriber.healthState
  pluggedType := (event.intParam COMMON_EVENT_KEY_PLUGGED_TYPE).getD subscriber.pluggedType
  voltage := (event.intParam COMMON_EVENT_KEY_VOLTAGE).getD subscriber.voltage
  technology := (event.stringParam COMMON_EVENT_KEY_TECHNOLOGY).getD subscriber.technology
  temperature := (event.intParam COMMON_EVENT_KEY_TEMPERATURE).getD subscriber.temperature
  present := (event.boolParam COMMON_EVENT_KEY_PRESENT).getD subscriber.present
  capacityLevel := (levelParam event).getD subscriber.capacityLevel

-- Only what is delivered reaches a subscriber.
def receiveAll (subscriber : Subscriber) (published : List (CommonEvent × Bool)) : Subscriber :=
  published.foldl (fun held entry => if entry.2 then held.receive entry.1 else held) subscriber

-- What a subscriber that was there from the start makes of the log.
def after (log : List Effect) : Subscriber := receiveAll {} (publications isBatteryChanged log)

theorem after_append (log out : List Effect) :
    after (log ++ out) = (after log).receiveAll (publications isBatteryChanged out) := by
  unfold after receiveAll
  rw [publications_append, List.foldl_append]

-- What the information and the level look like from outside.
def shown (info : BatteryInfo) (level : BatteryCapacityLevel) : Subscriber where
  soc := info.capacity
  chargeState := toInt32 info.chargeState.code
  healthState := toInt32 info.healthState.code
  pluggedType := toInt32 info.pluggedType.code
  voltage := info.voltage
  technology := info.technology
  temperature := info.temperature
  present := info.present
  capacityLevel := toInt32 level.code

theorem changedEvent_extras (info : BatteryInfo) (lastLevel level : BatteryCapacityLevel) :
    let event := changedEvent info lastLevel level
    event.intParam COMMON_EVENT_KEY_CAPACITY = some info.capacity ∧
      event.intParam COMMON_EVENT_KEY_CHARGE_STATE = some (toInt32 info.chargeState.code) ∧
      event.intParam COMMON_EVENT_KEY_HEALTH_STATE = some (toInt32 info.healthState.code) ∧
      event.intParam COMMON_EVENT_KEY_PLUGGED_TYPE = some (toInt32 info.pluggedType.code) ∧
      event.intParam COMMON_EVENT_KEY_VOLTAGE = some info.voltage ∧
      event.stringParam COMMON_EVENT_KEY_TECHNOLOGY = some info.technology ∧
      event.intParam COMMON_EVENT_KEY_TEMPERATURE = some info.temperature ∧
      event.boolParam COMMON_EVENT_KEY_PRESENT = some info.present :=
  ⟨rfl, rfl, rfl, rfl, rfl, rfl, rfl, rfl⟩

-- The level is left out of an event when it is the one that was sent last.
theorem receive_changedEvent {subscriber : Subscriber} {lastLevel : BatteryCapacityLevel}
    (hlast : subscriber.capacityLevel = toInt32 lastLevel.code) (info : BatteryInfo)
    (level : BatteryCapacityLevel) :
    subscriber.receive (changedEvent info lastLevel level) = shown info level := by
  have hlevel : (levelParam (changedEvent info lastLevel level)).getD subscriber.capacityLevel =
      toInt32 level.code := by
    rw [changedEvent_levelParam]
    split
    · rename_i hsame
      rw [Option.getD_none, hlast, hsame]
    · exact Option.getD_some
  obtain ⟨hsoc, hcharge, hhealth, hplugged, hvoltage, htechnology, htemperature, hpresent⟩ :=
    changedEvent_extras info lastLevel level
  rw [receive, hlevel, hsoc, hcharge, hhealth, hplugged, hvoltage, htechnology, htemperature, hpresent]
  simp -implicitDefEqProofs only [Option.getD_some, shown]

end Subscriber

-- What the getters answer to a caller that asks for the same values.
def pulled {F : Ffrt} (reader : HdiReader) (service : BatteryService F) : Subscriber :=
  let info := service.batteryInfo
  { soc := reader.getCapacity info
    chargeState := toInt32 (reader.getChargingStatusInner info).code
    healthState := toInt32 reader.getHealthStatusInner.code
    pluggedType := toInt32 (reader.getPluggedTypeInner info).code
    voltage := reader.getVoltageInner
    technology := reader.getTechnologyInner
    temperature := reader.getBatteryTemperatureInner info
    present := reader.getPresentInner
    capacityLevel := toInt32 (getCapacityLevelInner service.thresholds (reader.getCapacity info)).code }

-- An HDI with these answers, for a caller that asks for nothing else.
def HdiAnswers.startEnv (answers : HdiAnswers) : BatteryService.InitEnv where
  report := silentEnv
  answers := answers
  isSystem := true
  errNoInit := -1
  getBatteryConfig := fun _ => none
  interfaceAvailable := true

-- What the getters of the HDI answer from this step on.
def ServiceLabel.answers : ServiceLabel → Option HdiAnswers
  | .Callback event chargeType _ => some (event.answers (chargeType.getD 0))
  | .MockUnplugged event chargeType _ => some (event.answers (chargeType.getD 0))
  | .MockCapacity _ event chargeType _ => some (event.answers (chargeType.getD 0))
  | .MockUevent _ event chargeType _ => some (event.answers (chargeType.getD 0))
  | .Reset event chargeType _ => some (event.answers (chargeType.getD 0))
  | .Stop => none
  | .Start env => some env.answers

-- The common event service delivers, and the HDI repeats the capacity.
structure Delivers (env : ReportEnv) (capacity : Option Int) : Prop where
  serviceExists : env.serviceExists = true
  publish : ∀ event, isBatteryChanged event = true → env.publish event = true
  capacity : env.capacity = capacity

-- A report with this uevent is broadcast.
def Broadcasts (uevent : String) : Prop :=
  OrdinaryUevent { uevent := uevent } ∨
    ∃ ueventName, rsplit '$' uevent = some (ueventName, SEND_COMMONEVENT) ∨
      rsplit '$' uevent = some (ueventName, SEND_POPUP)

theorem handleUevent_broadcasts (env : PublishEnv) (notify : BatteryNotify) {info : BatteryInfo}
    {ueventName : String} (hsplit : rsplit '$' info.uevent = some (ueventName, SEND_COMMONEVENT) ∨
      rsplit '$' info.uevent = some (ueventName, SEND_POPUP)) :
    publications isBatteryChanged (handleUevent env notify info).effects ≠ [] := by
  have hpublished : ∀ later, publications isBatteryChanged
      ((publishChangedEvent env { info with uevent := ueventName } notify).effects ++ later) ≠ [] := by
    intro later
    rw [publications_append, publishChangedEvent_batteryChanged]
    simp
  have hcustom : ¬BATTERY_CUSTOM_EVENT_PREFIX.toList.isPrefixOf SEND_POPUP.toList = true := by decide
  unfold handleUevent
  rcases hsplit with hsplit | hsplit
  · rw [hsplit]
    dsimp only
    rw [if_neg (by decide), if_neg (by decide), if_pos rfl]
    simpa using hpublished []
  · rw [hsplit]
    dsimp only
    rw [if_neg (by decide), if_neg (by decide), if_neg (by decide), if_neg hcustom, if_pos rfl]
    exact hpublished _

theorem publishEvents_broadcasts (env : PublishEnv) (notify : BatteryNotify) {info : BatteryInfo}
    (hexists : env.serviceExists = true) (hbroadcasts : Broadcasts info.uevent) :
    publications isBatteryChanged (publishEvents env notify info).effects ≠ [] := by
  rw [publishEvents_eq, if_pos (by simp [hexists]), publishKnown]
  split
  · rw [publishOrdinary_batteryChanged, publishChangedEvent_batteryChanged]
    simp
  · rename_i hspecial
    rcases hbroadcasts with hordinary | ⟨ueventName, hsplit⟩
    · exact absurd hordinary hspecial
    · exact handleUevent_broadcasts env _ hsplit

-- A custom event of the boot is not a BATTERY_CHANGED.
theorem addBootCommonEvents_publications (env : PublishEnv) (commonEventConf : List CommonEventConf)
    (lookup : String → Except BatteryError String) (info : BatteryInfo) :
    publications isBatteryChanged (addBootCommonEvents env commonEventConf lookup info).2 = [] := by
  unfold addBootCommonEvents
  dsimp only
  split
  · rename_i hcustom
    apply List.eq_nil_iff_forall_not_mem.mpr
    rintro ⟨event, delivered⟩ hm
    obtain ⟨hchanged, hm⟩ := (mem_publications _ _ _ _).mp hm
    unfold publishCustomEvent at hm
    dsimp only at hm
    have haction : event.action ≠ COMMON_EVENT_BATTERY_CHANGED := by
      split at hm
      · rcases List.mem_cons.mp hm with hm | hm
        · cases hm
        · cases List.mem_singleton.mp hm
          exact hcustom
      · cases List.mem_singleton.mp hm
    exact haction (of_decide_eq_true hchanged)
  · rfl

namespace BatteryService

variable {F : Ffrt}

-- The uevent that is reported for an event of the HDI.
def reportedUevent (service : BatteryService F) (event : HdiBatteryInfo) : String :=
  if service.isMockUevent then service.batteryInfo.uevent else event.uevent

-- What `InitBatteryInfo` hands to the report.
def booted (config : BatteryConfig) (env : InitEnv) (service : BatteryService F) :
    BatteryInfo × List Effect :=
  let filled := { service with batteryInfo := (service.reader env).fillInfo service.batteryInfo }
  addBootCommonEvents (filled.publishEnv env.report) config.commonEventConf
    (getBatteryConfigInner env.isSystem filled.interface env.getBatteryConfig) filled.batteryInfo

-- What keeps a subscriber in touch: every report is broadcast and reaches it,
-- and none is dropped for a mock.
def InTouch (config : BatteryConfig) (service : BatteryService F) : ServiceLabel → Prop
  | .Callback event _ env =>
      Delivers env (some event.capacity) ∧ Broadcasts event.uevent ∧ service.isMocked = false
  | .MockUnplugged event _ env =>
      Delivers env (some event.capacity) ∧ Broadcasts (service.reportedUevent event)
  | .MockCapacity _ event _ env =>
      Delivers env (some event.capacity) ∧ Broadcasts (service.reportedUevent event)
  | .MockUevent uevent event _ env => Delivers env (some event.capacity) ∧ Broadcasts uevent
  | .Reset event _ env => Delivers env (some event.capacity) ∧ Broadcasts event.uevent
  | .Stop => True
  | .Start env =>
      Delivers env.report env.answers.capacity ∧
        Broadcasts ((service.registerBatteryHdiCallback env).booted config env).1.uevent

-- The getters repeat what is in the information.
structure ReadsBack (reader : HdiReader) (info : BatteryInfo) : Prop where
  capacity : reader.getCapacity info = info.capacity
  chargeState : reader.getChargingStatusInner info = info.chargeState
  healthState : reader.getHealthStatusInner = info.healthState
  pluggedType : reader.getPluggedTypeInner info = info.pluggedType
  voltage : reader.getVoltageInner = info.voltage
  technology : reader.getTechnologyInner = info.technology
  temperature : reader.getBatteryTemperatureInner info = info.temperature
  present : reader.getPresentInner = info.present

theorem ReadsBack.pulled_eq {reader : HdiReader} {service : BatteryService F}
    (hreads : ReadsBack reader service.batteryInfo) :
    pulled reader service = .shown service.batteryInfo
      (getCapacityLevelInner service.thresholds (reader.getCapacity service.batteryInfo)) := by
  simp only [pulled, Subscriber.shown, hreads.capacity, hreads.chargeState, hreads.healthState,
    hreads.pluggedType, hreads.voltage, hreads.technology, hreads.temperature, hreads.present]

theorem ReadsBack.withUevent {reader : HdiReader} {info : BatteryInfo} (hreads : ReadsBack reader info)
    (uevent : String) : ReadsBack reader { info with uevent := uevent } :=
  ⟨hreads.capacity, hreads.chargeState, hreads.healthState, hreads.pluggedType, hreads.voltage,
    hreads.technology, hreads.temperature, hreads.present⟩

-- The subscriber, the notifications and the information tell the same, and while
-- the HDI is there the getters do so too.
structure Synced (answers : Option HdiAnswers) (subscriber : Subscriber) (service : BatteryService F) :
    Prop where
  level : subscriber.capacityLevel = toInt32 service.notify.lastCapacityLevel.code
  settled : service.lastBatteryInfo = service.batteryInfo
  told : service.interface = true → subscriber = .shown service.batteryInfo
    (getCapacityLevelInner service.thresholds service.batteryInfo.capacity)
  reads : service.interface = true → ∀ given, answers = some given →
    ∀ asked : InitEnv, asked.answers = given → ReadsBack (service.reader asked) service.batteryInfo

theorem Synced.pulled_eq {answers : HdiAnswers} {subscriber : Subscriber} {service : BatteryService F}
    (hsynced : Synced (some answers) subscriber service) (hinterface : service.interface = true)
    {asked : InitEnv} (hasked : asked.answers = answers) :
    subscriber = pulled (service.reader asked) service := by
  have hback := hsynced.reads hinterface answers rfl asked hasked
  rw [hback.pulled_eq, hback.capacity]
  exact hsynced.told hinterface

section Report

variable (build : Build) (config : BatteryConfig) {env : ReportEnv} {service : BatteryService F}

@[simp] theorem handleBatteryInfo_reader (asked : InitEnv) :
    (service.handleBatteryInfo build config env).1.reader asked = service.reader asked := by
  simp [reader]

-- A report that is delivered brings the subscriber up to date.
theorem synced_report (service : BatteryService F) {subscriber : Subscriber} {answers : HdiAnswers}
    (hlevel : subscriber.capacityLevel = toInt32 service.notify.lastCapacityLevel.code)
    (hdelivers : Delivers env answers.capacity) (hbroadcasts : Broadcasts service.batteryInfo.uevent)
    (hreads : service.interface = true → ∀ asked : InitEnv, asked.answers = answers →
      ReadsBack (service.reader asked) service.batteryInfo) :
    Synced (some answers)
      (subscriber.receiveAll (publications isBatteryChanged (service.handleBatteryInfo build config env).2))
      (service.handleBatteryInfo build config env).1 := by
  let level := (service.publishEnv env).capacityLevel
  obtain ⟨uevent, hinfo⟩ := service.handleBatteryInfo_uevent build config env
  have hnone := publishEvents_broadcasts (service.publishEnv env) service.notify
    hdelivers.serviceExists hbroadcasts
  -- Something is published, so it is this one event and it is sent with this level.
  obtain ⟨name, hout, hnotify⟩ := (publish_changed_cases ⟨service.batteryInfo, service.publishEnv env⟩
    service.notify).resolve_left fun hquiet => hnone hquiet.1
  let event := changedEvent { service.batteryInfo with uevent := name } service.notify.lastCapacityLevel
    level
  have hdelivered : env.publish event = true := hdelivers.publish event rfl
  have hreceived : subscriber.receiveAll [(event, env.publish event)] =
      .shown service.batteryInfo level := by
    rw [hdelivered]
    exact Subscriber.receive_changedEvent hlevel { service.batteryInfo with uevent := name } level
  have hsubscriber : subscriber.receiveAll (publications isBatteryChanged
      (service.handleBatteryInfo build config env).2) = .shown service.batteryInfo level := by
    rw [handleBatteryInfo_publications, ← hreceived]
    exact congrArg subscriber.receiveAll hout
  have hlast : (service.handleBatteryInfo build config env).1.notify.lastCapacityLevel = level := by
    rw [handleBatteryInfo_notify]
    exact hnotify
  rw [hsubscriber]
  refine ⟨?_, ?_, ?_, ?_⟩
  · simp only [Subscriber.shown, hlast]
  · simp only [handleBatteryInfo]
  · intro hinterface
    rw [handleBatteryInfo_interface] at hinterface
    have hasked := (hreads hinterface answers.startEnv rfl).capacity
    have hlevelRead : level = getCapacityLevelInner service.thresholds service.batteryInfo.capacity := by
      rw [← hasked]
      simp only [level, publishEnv, HdiReader.getCapacity, reader, hdelivers.capacity,
        HdiAnswers.startEnv]
    rw [hinfo, handleBatteryInfo_thresholds, ← hlevelRead]
    rfl
  · intro hinterface given hgiven asked hasked
    rw [handleBatteryInfo_interface] at hinterface
    rw [handleBatteryInfo_reader, hinfo]
    exact (hreads hinterface asked (hasked.trans (Option.some.inj hgiven).symm)).withUevent uevent

end Report

section ReadsBack

variable (service : BatteryService F) {asked : InitEnv}

-- A conversion of the report that the getters repeat, but for what is mocked.
theorem readsBack_converted {event : HdiBatteryInfo} {chargeType : Nat} {info : BatteryInfo}
    (hinterface : service.interface = true) (hasked : asked.answers = event.answers chargeType)
    (hcapacity : service.isMockCapacity = true ∨ info.capacity = event.capacity)
    (hcharge : service.isMockUnplugged = true ∨ info.chargeState = .ofCode event.chargeState)
    (hplugged : service.isMockUnplugged = true ∨ info.pluggedType = .ofCode event.pluggedType)
    (hhealth : info.healthState = .ofCode event.healthState) (hvoltage : info.voltage = event.voltage)
    (htechnology : info.technology = event.technology)
    (htemperature : info.temperature = event.temperature) (hpresent : info.present = event.present) :
    ReadsBack (service.reader asked) info where
  capacity := by
    cases hmock : service.isMockCapacity with
    | true => simp [HdiReader.getCapacity, getCapacityInner, reader, hmock]
    | false =>
        have hsame : info.capacity = event.capacity := by simpa [hmock] using hcapacity
        simp [HdiReader.getCapacity, getCapacityInner, reader, hmock, hinterface, hasked,
          HdiBatteryInfo.answers, hsame]
  chargeState := by
    cases hmock : service.isMockUnplugged with
    | true => simp [HdiReader.getChargingStatusInner, reader, hmock]
    | false =>
        have hsame : info.chargeState = .ofCode event.chargeState := by simpa [hmock] using hcharge
        simp [HdiReader.getChargingStatusInner, HdiReader.read, reader, hmock, hinterface, hasked,
          HdiBatteryInfo.answers, hsame]
  pluggedType := by
    cases hmock : service.isMockUnplugged with
    | true => simp [HdiReader.getPluggedTypeInner, reader, hmock]
    | false =>
        have hsame : info.pluggedType = .ofCode event.pluggedType := by simpa [hmock] using hplugged
        simp [HdiReader.getPluggedTypeInner, HdiReader.read, reader, hmock, hinterface, hasked,
          HdiBatteryInfo.answers, hsame]
  healthState := by
    simp [HdiReader.getHealthStatusInner, HdiReader.read, reader, hinterface, hasked,
      HdiBatteryInfo.answers, hhealth]
  voltage := by
    simp [HdiReader.getVoltageInner, HdiReader.read, reader, hinterface, hasked,
      HdiBatteryInfo.answers, hvoltage]
  technology := by
    simp [HdiReader.getTechnologyInner, HdiReader.read, reader, hinterface, hasked,
      HdiBatteryInfo.answers, htechnology]
  temperature := by
    simp [HdiReader.getBatteryTemperatureInner, HdiReader.read, reader, hinterface, hasked,
      HdiBatteryInfo.answers, htemperature]
  present := by
    simp [HdiReader.getPresentInner, HdiReader.read, reader, hinterface, hasked,
      HdiBatteryInfo.answers, hpresent]

-- The getters that filled the information answer the same when asked again.
theorem readsBack_filled {env : InitEnv} (hinterface : service.interface = true)
    (hasked : asked.answers = env.answers) (info : BatteryInfo) :
    ReadsBack (service.reader asked) ((service.reader env).fillInfo info) := by
  cases hcapacity : service.isMockCapacity <;> cases hunplugged : service.isMockUnplugged <;>
    constructor <;>
    simp [HdiReader.fillInfo, HdiReader.initWrites, HdiReader.getCapacity, getCapacityInner,
      HdiReader.getChargingStatusInner, HdiReader.getPluggedTypeInner, HdiReader.getHealthStatusInner,
      HdiReader.getVoltageInner, HdiReader.getTechnologyInner, HdiReader.getBatteryTemperatureInner,
      HdiReader.getPresentInner, HdiReader.read, reader, hinterface, hasked, hcapacity, hunplugged]

theorem readsBack_converting {event : HdiBatteryInfo} {chargeType : Option Nat}
    (hasked : asked.answers = event.answers (chargeType.getD 0)) (hinterface : service.interface = true) :
    ReadsBack (service.reader asked) (service.convertingEvent event chargeType) := by
  apply readsBack_converted service hinterface hasked
  all_goals try rfl
  · cases hmock : service.isMockCapacity <;> simp [convertingEvent, hmock]
  · cases hmock : service.isMockUnplugged <;> simp [convertingEvent, hmock]
  · cases hmock : service.isMockUnplugged <;> simp [convertingEvent, hmock]

end ReadsBack

section Step

variable (build : Build) (config : BatteryConfig) {env : ReportEnv} {service : BatteryService F}
variable {answers : Option HdiAnswers} {subscriber : Subscriber} {event : HdiBatteryInfo}
variable {chargeType : Option Nat} (hsynced : Synced answers subscriber service)
include hsynced

-- While the HDI is gone, nothing is promised about the getters.
theorem Synced.absent (hinterface : service.interface = false) (given : Option HdiAnswers) :
    Synced given subscriber service where
  level := hsynced.level
  settled := hsynced.settled
  told := fun hthere => by cases hinterface.symm.trans hthere
  reads := fun hthere => by cases hinterface.symm.trans hthere

-- A duplicate is what the subscriber has been told.
theorem synced_callback (hin : service.InTouch config (.Callback event chargeType env)) :
    Synced (some (event.answers (chargeType.getD 0)))
      (subscriber.receiveAll (publications isBatteryChanged
        (service.handleBatteryCallbackEvent build config env event chargeType).2))
      (service.handleBatteryCallbackEvent build config env event chargeType).1 := by
  obtain ⟨hdelivers, hbroadcasts, hmock⟩ := hin
  let converted := { service with batteryInfo := service.convertingEvent event chargeType }
  have hreads : converted.interface = true → ∀ asked : InitEnv,
      asked.answers = event.answers (chargeType.getD 0) →
      ReadsBack (converted.reader asked) converted.batteryInfo :=
    fun hinterface asked hasked => readsBack_converting service hasked hinterface
  unfold handleBatteryCallbackEvent
  rw [if_neg (by simp [hmock])]
  dsimp only
  split
  · rename_i hsame
    have hinfo : service.convertingEvent event chargeType = service.batteryInfo :=
      hsame.symm.trans hsynced.settled
    refine ⟨hsynced.level, hsame, fun hinterface => ?_, fun hinterface given hgiven asked hasked => ?_⟩
    · rw [hinfo]
      exact hsynced.told hinterface
    · exact hreads hinterface asked (hasked.trans (Option.some.inj hgiven).symm)
  · have huevent : converted.batteryInfo.uevent = event.uevent := by
      have hplain : service.isMockUevent = false := by
        simp only [isMocked, Bool.or_eq_false_iff] at hmock
        exact hmock.2
      simp [converted, convertingEvent, hplain]
    exact synced_report build config converted hsynced.level hdelivers
      (huevent ▸ hbroadcasts) hreads

theorem synced_mockUnplugged (hin : service.InTouch config (.MockUnplugged event chargeType env)) :
    Synced (some (event.answers (chargeType.getD 0)))
      (subscriber.receiveAll (publications isBatteryChanged
        (service.mockUnplugged build config env event chargeType).2))
      (service.mockUnplugged build config env event chargeType).1 := by
  unfold mockUnplugged
  split
  · rename_i hinterface
    apply synced_report build config
    · exact hsynced.level
    · exact hin.1
    · exact hin.2
    · intro _ asked hasked
      refine readsBack_converted _ hinterface hasked ?_ (.inl rfl) (.inl rfl) rfl rfl rfl rfl rfl
      cases service.isMockCapacity <;> simp [convertingEvent]
  · rename_i habsent
    exact hsynced.absent (Bool.eq_false_iff.mpr habsent) _

theorem synced_mockCapacity {capacity : Int}
    (hin : service.InTouch config (.MockCapacity capacity event chargeType env)) :
    Synced (some (event.answers (chargeType.getD 0)))
      (subscriber.receiveAll (publications isBatteryChanged
        (service.mockCapacity build config env event chargeType capacity).2))
      (service.mockCapacity build config env event chargeType capacity).1 := by
  unfold mockCapacity
  split
  · rename_i hinterface
    apply synced_report build config
    · exact hsynced.level
    · exact hin.1
    · exact hin.2
    · intro _ asked hasked
      refine readsBack_converted _ hinterface hasked (.inl rfl) ?_ ?_ rfl rfl rfl rfl rfl
      · cases service.isMockUnplugged <;> simp [convertingEvent]
      · cases service.isMockUnplugged <;> simp [convertingEvent]
  · rename_i habsent
    exact hsynced.absent (Bool.eq_false_iff.mpr habsent) _

theorem synced_mockUevent {uevent : String}
    (hin : service.InTouch config (.MockUevent uevent event chargeType env)) :
    Synced (some (event.answers (chargeType.getD 0)))
      (subscriber.receiveAll (publications isBatteryChanged
        (service.mockUevent build config env event chargeType uevent).2))
      (service.mockUevent build config env event chargeType uevent).1 := by
  unfold mockUevent
  split
  · rename_i hinterface
    apply synced_report build config
    · exact hsynced.level
    · exact hin.1
    · exact hin.2
    · intro _ asked hasked
      have hreads : ReadsBack ({ service with isMockUevent := true }.reader asked)
          ({ service with isMockUevent := true }.convertingEvent event chargeType) :=
        readsBack_converting _ hasked hinterface
      exact hreads.withUevent uevent
  · rename_i habsent
    exact hsynced.absent (Bool.eq_false_iff.mpr habsent) _

theorem synced_reset (hin : service.InTouch config (.Reset event chargeType env)) :
    Synced (some (event.answers (chargeType.getD 0)))
      (subscriber.receiveAll (publications isBatteryChanged
        (service.reset build config env event chargeType).2))
      (service.reset build config env event chargeType).1 := by
  unfold reset
  split
  · rename_i hinterface
    let unmocked := { service with
      isMockUnplugged := false, isMockCapacity := false, isMockUevent := false }
    let converted := { unmocked with batteryInfo := unmocked.convertingEvent event chargeType }
    have hreport : Synced (some (event.answers (chargeType.getD 0)))
        (subscriber.receiveAll (publications isBatteryChanged
          (converted.handleBatteryInfo build config env).2))
        (converted.handleBatteryInfo build config env).1 := by
      refine synced_report build config converted hsynced.level hin.1 hin.2 ?_
      intro _ asked hasked
      exact readsBack_converting unmocked hasked hinterface
    cases build with
    | Default => exact hreport
    | SetLowCapacityThreshold => exact ⟨hreport.level, hreport.settled, hreport.told, hreport.reads⟩
  · rename_i habsent
    exact hsynced.absent (Bool.eq_false_iff.mpr habsent) _

theorem synced_start {env : InitEnv} (hin : service.InTouch config (.Start env)) :
    Synced (some env.answers)
      (subscriber.receiveAll (publications isBatteryChanged (service.hdiStartTask build config env).2))
      (service.hdiStartTask build config env).1 := by
  let registered := service.registerBatteryHdiCallback env
  let filled := { registered with batteryInfo := (registered.booted config env).1 }
  obtain ⟨uevent, hbooted⟩ := addBootCommonEvents_info
    ({ registered with
      batteryInfo := (registered.reader env).fillInfo registered.batteryInfo }.publishEnv env.report)
    config.commonEventConf (getBatteryConfigInner env.isSystem registered.interface env.getBatteryConfig)
    ((registered.reader env).fillInfo registered.batteryInfo)
  have hreport : Synced (some env.answers)
      (subscriber.receiveAll (publications isBatteryChanged
        (filled.handleBatteryInfo build config env.report).2))
      (filled.handleBatteryInfo build config env.report).1 := by
    refine synced_report build config filled hsynced.level hin.1 hin.2 ?_
    intro hinterface asked hasked
    have hreads : ReadsBack (registered.reader asked)
        ((registered.reader env).fillInfo registered.batteryInfo) :=
      readsBack_filled registered hinterface hasked registered.batteryInfo
    have hinfo : filled.batteryInfo =
        { (registered.reader env).fillInfo registered.batteryInfo with uevent := uevent } := hbooted
    rw [hinfo]
    exact hreads.withUevent uevent
  have hthreshold : publications isBatteryChanged registered.setLowCapacityThreshold = [] := by
    refine publications_eq_nil _ fun event delivered hm => ?_
    unfold setLowCapacityThreshold at hm
    split at hm
    · cases List.mem_singleton.mp hm
    · cases hm
  have hout : publications isBatteryChanged (service.hdiStartTask build config env).2 =
      publications isBatteryChanged (filled.handleBatteryInfo build config env.report).2 := by
    unfold hdiStartTask initBatteryInfo
    dsimp only
    rw [publications_append, publications_append, addBootCommonEvents_publications, List.nil_append]
    cases build with
    | Default => rfl
    | SetLowCapacityThreshold => exact (congrArg (· ++ _) hthreshold).trans (List.nil_append _)
  rw [hout]
  exact ⟨hreport.level, hreport.settled, hreport.told, hreport.reads⟩

theorem synced_step {label : ServiceLabel} (hin : service.InTouch config label)
    {next : BatteryService F} {out : List Effect}
    (hstep : serviceStep build config service label = some (next, out)) :
    Synced (label.answers.or answers)
      (subscriber.receiveAll (publications isBatteryChanged out)) next := by
  cases label with
  | Callback event chargeType env =>
      have hnext := synced_callback build config hsynced hin
      rw [Option.some.inj hstep] at hnext
      exact hnext
  | MockUnplugged event chargeType env =>
      have hnext := synced_mockUnplugged build config hsynced hin
      rw [Option.some.inj hstep] at hnext
      exact hnext
  | MockCapacity capacity event chargeType env =>
      have hnext := synced_mockCapacity build config hsynced hin
      rw [Option.some.inj hstep] at hnext
      exact hnext
  | MockUevent uevent event chargeType env =>
      have hnext := synced_mockUevent build config hsynced hin
      rw [Option.some.inj hstep] at hnext
      exact hnext
  | Reset event chargeType env =>
      have hnext := synced_reset build config hsynced hin
      rw [Option.some.inj hstep] at hnext
      exact hnext
  | Stop =>
      cases hstep
      exact ⟨hsynced.level, hsynced.settled, fun hthere => (Bool.false_ne_true hthere).elim,
        fun hthere => (Bool.false_ne_true hthere).elim⟩
  | Start env =>
      have hnext := synced_start build config hsynced hin
      rw [Option.some.inj hstep] at hnext
      exact hnext

end Step

theorem synced_run {build : Build} {config : BatteryConfig} {enableS4 : Bool}
    {history : List ServiceLabel} {service : BatteryService F} {log : List Effect}
    (hrun : ServiceRun build config enableS4 history service log)
    (hin : EachStep (serviceStep build config) (InTouch (F := F) config) (init build config enableS4)
      history) :
    Synced (latest ServiceLabel.answers history) (Subscriber.after log) service := by
  refine hrun.invariant_each
    (fun history service log =>
      Synced (latest ServiceLabel.answers history) (Subscriber.after log) service) ?_ ?_ hin
  · have hnone : (0 : Int) = toInt32 BatteryCapacityLevel.None.code := by decide
    exact ⟨hnone, rfl, fun hthere => (Bool.false_ne_true hthere).elim,
      fun hthere => (Bool.false_ne_true hthere).elim⟩
  · intro history service log label next out hsynced hcondition hstep
    rw [latest_concat, Subscriber.after_append]
    exact synced_step build config hsynced hcondition hstep

end BatteryService

open BatteryService

-- A subscriber of BATTERY_CHANGED that stays in touch and a caller of the getters
-- see one and the same battery, whatever is mocked, reset or restarted.
theorem subscriber_pulled {F : Ffrt} {build : Build} {config : BatteryConfig} {enableS4 : Bool}
    {history : List ServiceLabel} {service : BatteryService F} {log : List Effect}
    (hrun : ServiceRun build config enableS4 history service log)
    (hin : EachStep (serviceStep build config) (InTouch (F := F) config) (init build config enableS4)
      history)
    (hinterface : service.interface = true) {asked : InitEnv}
    (hasked : latest ServiceLabel.answers history = some asked.answers) :
    Subscriber.after log = pulled (service.reader asked) service := by
  have hsynced := synced_run hrun hin
  rw [hasked] at hsynced
  exact hsynced.pulled_eq hinterface rfl

-- A system in which every service answers, and the HDI gives this capacity.
def deliveringEnv (capacity : Int) : ReportEnv where
  serviceExists := true
  publish := fun _ => true
  ueventCheck := fun _ => true
  capacity := some capacity
  light := ⟨true, true⟩
  clock := ⟨0, 0, 0⟩
  runningLockCreated := true

theorem delivers_env (capacity : Int) : Delivers (deliveringEnv capacity) (some capacity) :=
  ⟨rfl, fun _ _ => rfl, rfl⟩

-- The device is started on its charger, its capacity is mocked, the HDI restarts
-- under it, and what is mocked is reset.
def touchedLabels : List ServiceLabel := [
  .Start { chargingEvent.startEnv 1 with report := deliveringEnv 50 },
  .MockCapacity 5 chargingEvent none (deliveringEnv 50),
  .Stop,
  .Start { chargingEvent.startEnv 1 with report := deliveringEnv 50 },
  .Reset { chargingEvent with uevent := "BATTERY_HOT=1$sendcommonevent" } none (deliveringEnv 50)]

theorem subscriber_pulled_touched :
    Subscriber.after ((exec (serviceStep .Default shippedConfig)
      (init (F := ticketFfrt) .Default shippedConfig true) touchedLabels).get (by decide)).2 =
    pulled (((exec (serviceStep .Default shippedConfig)
      (init (F := ticketFfrt) .Default shippedConfig true) touchedLabels).get (by decide)).1.reader
        (chargingEvent.startEnv 0))
      ((exec (serviceStep .Default shippedConfig)
        (init (F := ticketFfrt) .Default shippedConfig true) touchedLabels).get (by decide)).1 := by
  refine subscriber_pulled (exec_run _ _ touchedLabels (by decide)) ?_ rfl rfl
  have hordinary : ∀ uevent, uevent = POWER_SUPPLY ∨ uevent = INVALID_STRING_VALUE →
      Broadcasts uevent := by
    rintro uevent (rfl | rfl)
    · exact .inl (.inl rfl)
    · exact .inl (.inr (.inr rfl))
  refine ⟨⟨delivers_env 50, hordinary _ (.inr ?_)⟩, ⟨delivers_env 50, hordinary _ (.inl rfl)⟩, trivial,
    ⟨delivers_env 50, hordinary _ (.inl ?_)⟩, ⟨delivers_env 50, .inr ⟨"BATTERY_HOT=1", .inl ?_⟩⟩, trivial⟩
  · decide
  · decide
  · decide

end BatteryManager
