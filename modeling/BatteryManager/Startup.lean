import BatteryManager.Boot.Theorems
import BatteryManager.Notify.Initial
import BatteryManager.Service.Lemmas

namespace BatteryManager

variable {F : Ffrt}

-- A publication is delivered when the common event service is present.
def ReportEnv.withService (env : ReportEnv) (present : Bool) : ReportEnv :=
  { env with serviceExists := present, publish := fun _ => present }

namespace BatteryService

def InitEnv.withService (env : InitEnv) (present : Bool) : InitEnv :=
  { env with report := env.report.withService present }

-- The START task runs before the common event service is there.
def hdiFirst (build : Build) (config : BatteryConfig) (enableS4 : Bool) (env : InitEnv)
    (added : ReportEnv) : BatteryService F × List Effect :=
  let started := (init build config enableS4).hdiStartTask build config (env.withService false)
  let caughtUp := started.1.onAddCommonEventService (added.withService true)
  (caughtUp.1, started.2 ++ caughtUp.2)

-- The common event service is there before the START task runs.
def serviceFirst (build : Build) (config : BatteryConfig) (enableS4 : Bool) (env : InitEnv)
    (added : ReportEnv) : BatteryService F × List Effect :=
  let caughtUp := (init build config enableS4).onAddCommonEventService (added.withService true)
  let started := caughtUp.1.hdiStartTask build config (env.withService true)
  (started.1, caughtUp.2 ++ started.2)

-- The getters during the first START task.
def InitEnv.startReader (env : InitEnv) : HdiReader where
  interface := env.interfaceAvailable
  isMockCapacity := false
  isMockUnplugged := false
  isSystem := env.isSystem
  errNoInit := env.errNoInit
  answers := env.answers

-- The battery information that the first START task reads.
def InitEnv.initialInfo (env : InitEnv) : BatteryInfo := env.startReader.fillInfo {}

def InitEnv.bootLookup (env : InitEnv) : String → Except BatteryError String :=
  getBatteryConfigInner env.isSystem env.interfaceAvailable env.getBatteryConfig

@[simp] theorem InitEnv.withService_initialInfo (env : InitEnv) (present : Bool) :
    (env.withService present).initialInfo = env.initialInfo := rfl

@[simp] theorem InitEnv.withService_bootLookup (env : InitEnv) (present : Bool) :
    (env.withService present).bootLookup = env.bootLookup := rfl

-- The catch-up publication happens once the HDI is ready.
theorem onAddCommonEventService_effects (env : ReportEnv) (service : BatteryService F)
    (hready : service.isBatteryHdiReady = true) (hevent : service.isCommonEventReady = false) :
    (service.onAddCommonEventService env).2 =
      (publishEvents (service.publishEnv env) service.notify
        { service.batteryInfo with uevent := "" }).effects := by
  simp [onAddCommonEventService, hready, hevent]

end BatteryService

open BatteryService

theorem fresh_create (config : BatteryConfig) :
    Fresh (config.getInt "soc.low" 20) (BatteryNotify.create config) :=
  ⟨rfl, fun _ => rfl, rfl, rfl⟩

-- What the START task publishes: the boot action, and what `PublishEvents` does
-- with the uevent that the boot action left.
theorem hdiStartTask_publications (build : Build) (config : BatteryConfig) (enableS4 : Bool)
    (env : InitEnv) :
    ∃ bootEnv publishEnv : PublishEnv,
      bootEnv.publish = env.report.publish ∧ bootEnv.ueventCheck = env.report.ueventCheck ∧
      publishEnv.publish = env.report.publish ∧ publishEnv.serviceExists = env.report.serviceExists ∧
      let boot := addBootCommonEvents bootEnv config.commonEventConf env.bootLookup env.initialInfo
      let published := publishEvents publishEnv (.create config) boot.1
      let started := (init (F := F) build config enableS4).hdiStartTask build config env
      (∀ wanted, publications wanted started.2 =
        publications wanted boot.2 ++ publications wanted published.effects) ∧
      started.1.notify = published.notify ∧ started.1.batteryInfo = published.info ∧
      started.1.isBatteryHdiReady = true ∧ started.1.isCommonEventReady = false := by
  let registered := (init (F := F) build config enableS4).registerBatteryHdiCallback env
  let filled := { registered with batteryInfo := env.initialInfo }
  let boot := addBootCommonEvents (filled.publishEnv env.report) config.commonEventConf env.bootLookup
    env.initialInfo
  let ready := { filled with batteryInfo := boot.1 }
  have hthreshold : ∀ wanted, publications wanted registered.setLowCapacityThreshold = [] := by
    intro wanted
    unfold setLowCapacityThreshold
    split <;> rfl
  refine ⟨filled.publishEnv env.report, ready.publishEnv env.report, rfl, rfl, rfl, rfl, ?_, ?_, ?_,
    rfl, ?_⟩
  · intro wanted
    have hready := handleBatteryInfo_publications config env.report ready build wanted
    cases build with
    | Default =>
        calc publications wanted
              ((init (F := F) .Default config enableS4).hdiStartTask .Default config env).2
            = publications wanted (boot.2 ++ (ready.handleBatteryInfo .Default config env.report).2) :=
              rfl
          _ = _ := by rw [publications_append, hready]; rfl
    | SetLowCapacityThreshold =>
        calc publications wanted ((init (F := F) .SetLowCapacityThreshold config
              enableS4).hdiStartTask .SetLowCapacityThreshold config env).2
            = publications wanted (registered.setLowCapacityThreshold ++ (boot.2 ++
                (ready.handleBatteryInfo .SetLowCapacityThreshold config env.report).2)) := rfl
          _ = _ := by rw [publications_append, publications_append, hthreshold, hready]; rfl
  · exact handleBatteryInfo_notify config env.report ready build
  · exact handleBatteryInfo_batteryInfo config env.report ready build
  · exact handleBatteryInfo_isCommonEventReady config env.report ready build

-- The event that a boot action asks for: its name, and its uevent with the
-- value of the scene.
def isBootEvent (conf : CommonEventConf) (result : String) (event : CommonEvent) : Bool :=
  event.action = conf.eventName ∧ event.param "uevent" = some (.String (conf.uevent ++ result))

def deliveries (wanted : CommonEvent → Bool) (effects : List Effect) : List CommonEvent :=
  ((publications wanted effects).filter Prod.snd).map Prod.fst

section BootEvent

variable {conf : CommonEventConf} {result : String}

-- Of the ordinary events only BATTERY_CHANGED carries a uevent.
theorem publishOrdinary_no_bootEvent (hchanged : conf.eventName ≠ COMMON_EVENT_BATTERY_CHANGED)
    (env : PublishEnv) (notify : BatteryNotify) (info : BatteryInfo) :
    publications (isBootEvent conf result) (publishOrdinary env notify info).effects = [] := by
  apply publishOrdinary_publications_nil
  · intro last level
    simp [isBootEvent, changedEvent, Ne.symm hchanged]
  · simp [isBootEvent, changedEventInner, CommonEvent.param, List.lookup_cons]
  · intro pair side
    simp [isBootEvent, StatePair.event, CommonEvent.param]
  · simp [isBootEvent, chargeTypeChangedEvent, CommonEvent.param]

theorem publishEvents_present {env : PublishEnv} (hexists : env.serviceExists = true)
    (notify : BatteryNotify) (info : BatteryInfo) :
    publishEvents env notify info = publishKnown env notify.known info := by
  rw [publishEvents_eq, hexists, Bool.or_true, if_pos rfl]

theorem publishEvents_missing {env : PublishEnv} (hexists : env.serviceExists = false)
    (config : BatteryConfig) (info : BatteryInfo) :
    publishEvents env (.create config) info = ⟨.NoInit, info, .create config, []⟩ := by
  rw [publishEvents_eq, hexists]
  rfl

theorem publishKnown_ordinary {info : BatteryInfo} (hordinary : OrdinaryUevent info)
    (env : PublishEnv) (notify : BatteryNotify) :
    publishKnown env notify info = publishOrdinary env notify info := by
  rw [publishKnown, if_pos hordinary]

theorem selected_batteryChanged {env : PublishEnv} {commonEventConf : List CommonEventConf}
    {lookup : String → Except BatteryError String} {info : BatteryInfo}
    (hfirst : firstMatch lookup commonEventConf = some (conf, result))
    (hchanged : conf.eventName = COMMON_EVENT_BATTERY_CHANGED) :
    addBootCommonEvents env commonEventConf lookup info =
      ({ info with uevent := conf.uevent ++ result ++ "$sendcommonevent" }, []) := by
  have hselects := addBootCommonEvents_firstMatch env commonEventConf lookup info hfirst
  simpa only [SelectsFirstMatch, hfirst, hchanged, if_true] using hselects

theorem selected_custom {env : PublishEnv} {commonEventConf : List CommonEventConf}
    {lookup : String → Except BatteryError String} {info : BatteryInfo}
    (hfirst : firstMatch lookup commonEventConf = some (conf, result))
    (hchanged : conf.eventName ≠ COMMON_EVENT_BATTERY_CHANGED) :
    addBootCommonEvents env commonEventConf lookup info =
      ({ info with uevent := "" },
        (publishCustomEvent env { info with uevent := conf.uevent ++ result } conf.eventName).2) := by
  have hselects := addBootCommonEvents_firstMatch env commonEventConf lookup info hfirst
  simpa only [SelectsFirstMatch, hfirst, hchanged, if_false] using hselects

end BootEvent

section Orders

variable {build : Build} {config : BatteryConfig} {enableS4 : Bool} {env : InitEnv}
  {added : ReportEnv} {conf : CommonEventConf} {result : String}

-- The callback does nothing before the START task, so all that is published
-- comes from the boot action and from `PublishEvents`.
theorem serviceFirst_publications (build : Build) (config : BatteryConfig) (enableS4 : Bool)
    (env : InitEnv) (added : ReportEnv) :
    ∃ bootEnv penv : PublishEnv,
      (∀ event, bootEnv.publish event = true) ∧ bootEnv.ueventCheck = env.report.ueventCheck ∧
      (∀ event, penv.publish event = true) ∧
      let boot := addBootCommonEvents bootEnv config.commonEventConf env.bootLookup env.initialInfo
      ∀ wanted, publications wanted (serviceFirst (F := F) build config enableS4 env added).2 =
        publications wanted boot.2 ++
          publications wanted (publishKnown penv (BatteryNotify.create config).known boot.1).effects := by
  obtain ⟨bootEnv, penv, hboot, hcheck, hpublish, hexists, hpublications, -⟩ :=
    hdiStartTask_publications (F := F) build config enableS4 (env.withService true)
  refine ⟨bootEnv, penv, fun event => ?_, hcheck, fun event => ?_, fun wanted => ?_⟩
  · rw [hboot]
    rfl
  · rw [hpublish]
    rfl
  · rw [← publishEvents_present hexists]
    exact hpublications wanted

-- A boot action on BATTERY_CHANGED turns the first publication into that event alone.
theorem serviceFirst_changed (build : Build) (enableS4 : Bool) (added : ReportEnv)
    (hfirst : firstMatch env.bootLookup config.commonEventConf = some (conf, result))
    (hchanged : conf.eventName = COMMON_EVENT_BATTERY_CHANGED) :
    ∃ level, let event := changedEvent { env.initialInfo with uevent := conf.uevent ++ result } .None level
      ∀ wanted, publications wanted (serviceFirst (F := F) build config enableS4 env added).2 =
        if wanted event then [(event, true)] else [] := by
  obtain ⟨bootEnv, penv, -, -, hpublish, hpublications⟩ :=
    serviceFirst_publications (F := F) build config enableS4 env added
  refine ⟨penv.capacityLevel, fun wanted => ?_⟩
  rw [hpublications, selected_batteryChanged hfirst hchanged, publishKnown_sendCommonEvent _ _ _ _ rfl,
    publishChangedEvent_publications, hpublish]
  rfl

-- A custom boot action leaves the uevent clear, and an ordinary publication follows.
theorem serviceFirst_custom (build : Build) (enableS4 : Bool) (added : ReportEnv)
    (hfirst : firstMatch env.bootLookup config.commonEventConf = some (conf, result))
    (hchanged : conf.eventName ≠ COMMON_EVENT_BATTERY_CHANGED) :
    ∃ bootEnv penv : PublishEnv,
      (∀ event, bootEnv.publish event = true) ∧ bootEnv.ueventCheck = env.report.ueventCheck ∧
      (∀ event, penv.publish event = true) ∧
      ∀ wanted, publications wanted (serviceFirst (F := F) build config enableS4 env added).2 =
        publications wanted (publishCustomEvent bootEnv
          { env.initialInfo with uevent := conf.uevent ++ result } conf.eventName).2 ++
        publications wanted (publishOrdinary penv (BatteryNotify.create config).known
          { env.initialInfo with uevent := "" }).effects := by
  obtain ⟨bootEnv, penv, hboot, hcheck, hpublish, hpublications⟩ :=
    serviceFirst_publications (F := F) build config enableS4 env added
  have hordinary : OrdinaryUevent { env.initialInfo with uevent := "" } := .inr (.inl rfl)
  refine ⟨bootEnv, penv, hboot, hcheck, hpublish, fun wanted => ?_⟩
  rw [hpublications, selected_custom hfirst hchanged, publishKnown_ordinary hordinary]

-- With the service present, the START task delivers the boot event once.
theorem serviceFirst_bootEvent
    (hfirst : firstMatch env.bootLookup config.commonEventConf = some (conf, result))
    (hhook : conf.eventName ≠ COMMON_EVENT_BATTERY_CHANGED →
      env.report.ueventCheck (conf.uevent ++ result) = true) :
    (deliveries (isBootEvent conf result)
      (serviceFirst (F := F) build config enableS4 env added).2).length = 1 := by
  by_cases hchanged : conf.eventName = COMMON_EVENT_BATTERY_CHANGED
  · obtain ⟨level, hpublications⟩ := serviceFirst_changed (F := F) build enableS4 added
      hfirst hchanged
    have hisBoot : isBootEvent conf result (changedEvent
        { env.initialInfo with uevent := conf.uevent ++ result } .None level) = true := by
      simp [isBootEvent, changedEvent_action, changedEvent_uevent, hchanged]
    rw [deliveries, hpublications, if_pos hisBoot]
    rfl
  · obtain ⟨bootEnv, penv, hboot, hcheck, -, hpublications⟩ := serviceFirst_custom (F := F) build
      enableS4 added hfirst hchanged
    have hisBoot : isBootEvent conf result
        (customEvent { env.initialInfo with uevent := conf.uevent ++ result } conf.eventName) = true := by
      simp [isBootEvent, customEvent, CommonEvent.param]
    have haccepted : bootEnv.ueventCheck (conf.uevent ++ result) = true := by
      rw [hcheck]
      exact hhook hchanged
    rw [deliveries, hpublications, publishOrdinary_no_bootEvent hchanged, publishCustomEvent,
      if_pos haccepted]
    simp [publications, hisBoot, hboot]

-- A custom boot event does not stand in the way of the ordinary ones.
theorem serviceFirst_announced
    (hfirst : firstMatch env.bootLookup config.commonEventConf = some (conf, result))
    (hchanged : conf.eventName ≠ COMMON_EVENT_BATTERY_CHANGED) :
    Announced (config.getInt "soc.low" 20) env.initialInfo
      (serviceFirst (F := F) build config enableS4 env added).2 := by
  obtain ⟨bootEnv, penv, -, -, hpublish, hpublications⟩ := serviceFirst_custom (F := F) build
    enableS4 added hfirst hchanged
  have hannounced := announced_of_fresh (fresh_create config).known penv hpublish
    { env.initialInfo with uevent := "" }
  refine hannounced.of_uevent.of_publications fun wanted => ?_
  rw [hpublications]
  exact List.subset_append_right _ _

-- The publication that makes up for a START task without the service.
theorem hdiFirst_announced :
    Announced (config.getInt "soc.low" 20) env.initialInfo
      (hdiFirst (F := F) build config enableS4 env added).2 := by
  obtain ⟨bootEnv, penv, -, -, -, hexists, -, hnotify, hinfo, hready, hevent⟩ :=
    hdiStartTask_publications (F := F) build config enableS4 (env.withService false)
  obtain ⟨uevent, huevent⟩ := addBootCommonEvents_info bootEnv config.commonEventConf
    (env.withService false).bootLookup (env.withService false).initialInfo
  rw [publishEvents_missing hexists] at hnotify hinfo
  rw [huevent] at hinfo
  have hordinary : OrdinaryUevent { env.initialInfo with uevent := "" } := .inr (.inl rfl)
  have hannounced := announced_of_fresh (fresh_create config).known
    (((init (F := F) build config enableS4).hdiStartTask build config
      (env.withService false)).1.publishEnv (added.withService true)) (fun _ => rfl)
    { env.initialInfo with uevent := "" }
  rw [← publishKnown_ordinary hordinary, ← publishEvents_present rfl] at hannounced
  refine hannounced.of_uevent.mono ?_
  have hcaughtUp := onAddCommonEventService_effects (added.withService true) _ hready hevent
  rw [hnotify, hinfo] at hcaughtUp
  rw [hdiFirst, hcaughtUp]
  exact List.subset_append_right _ _

-- `OnAddSystemAbility` clears the uevent of its copy, so the boot event is only
-- promised when the service is there first, and a hook can only refuse a custom
-- one. The ordinary events of the initial information come in both orders, unless
-- the boot event takes their place.
theorem bootEvents_startupOrders (build : Build) (config : BatteryConfig) (enableS4 : Bool)
    (env : InitEnv) (added : ReportEnv) (conf : CommonEventConf) (result : String)
    (hfirst : firstMatch env.bootLookup config.commonEventConf = some (conf, result)) :
    let first := (serviceFirst (F := F) build config enableS4 env added).2
    ((conf.eventName ≠ COMMON_EVENT_BATTERY_CHANGED →
        env.report.ueventCheck (conf.uevent ++ result) = true) →
      (deliveries (isBootEvent conf result) first).length = 1) ∧
    (conf.eventName = COMMON_EVENT_BATTERY_CHANGED → (deliveries (fun _ => true) first).length = 1) ∧
    (conf.eventName ≠ COMMON_EVENT_BATTERY_CHANGED →
      Announced (config.getInt "soc.low" 20) env.initialInfo first) ∧
    Announced (config.getInt "soc.low" 20) env.initialInfo
      (hdiFirst (F := F) build config enableS4 env added).2 := by
  refine ⟨serviceFirst_bootEvent hfirst, fun hchanged => ?_,
    serviceFirst_announced hfirst, hdiFirst_announced⟩
  obtain ⟨level, hpublications⟩ := serviceFirst_changed (F := F) build enableS4 added hfirst
    hchanged
  rw [deliveries, hpublications, if_pos rfl]
  rfl

end Orders

-- An HDI that answers "1" for every scene, and fails every other call.
def wirelessEnv : InitEnv where
  report := silentEnv
  answers := ⟨none, none, none, none, none, none, none, none, none, none, none, none, none⟩
  isSystem := true
  errNoInit := -1
  getBatteryConfig := fun _ => some "1"
  interfaceAvailable := true

def wirelessConf : CommonEventConf where
  eventName := "usual.event.BATTERY_CHANGED"
  uevent := "battery common event"
  sceneConfigName := "wireless"
  sceneConfigEqual := false
  sceneConfigValue := "0"

theorem bootEvents_startupOrders_shipped :
    (deliveries (isBootEvent wirelessConf "1")
      (serviceFirst (F := ticketFfrt) .Default shippedConfig true wirelessEnv silentEnv).2).length = 1 :=
  (bootEvents_startupOrders .Default shippedConfig true wirelessEnv silentEnv wirelessConf "1" rfl).1
    fun _ => rfl

-- BATTERY_OKAY is only sent when the START task runs first.
theorem not_bootEvents_sameOrders :
    ¬∀ (build : Build) (config : BatteryConfig) (enableS4 : Bool) (env : InitEnv) (added : ReportEnv)
        (conf : CommonEventConf) (result : String),
      firstMatch env.bootLookup config.commonEventConf = some (conf, result) →
      let first := (serviceFirst (F := ticketFfrt) build config enableS4 env added).2
      let second := (hdiFirst (F := ticketFfrt) build config enableS4 env added).2
      (deliveries (isBootEvent conf result) first).length = 1 ∧
      (deliveries (isBootEvent conf result) second).length = 1 ∧
      ∀ event, Delivered event first ↔ Delivered event second := by
  intro hsame
  have hokay := (hsame .Default shippedConfig true wirelessEnv silentEnv wirelessConf "1" rfl).2.2
    (StatePair.Capacity.event false { capacity := 100 })
  unfold Delivered at hokay
  revert hokay
  decide

end BatteryManager
