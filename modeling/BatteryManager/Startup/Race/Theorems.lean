import BatteryManager.Startup.Race.Lemmas

namespace BatteryManager

open Library BatteryService

-- Each thread leaves the publication to the other when the service arrives
-- after the START task has looked for it, and the flag goes up after the
-- callback has looked for that.
theorem raceAnnounced_iff {config : BatteryConfig} {env : RaceEnv} {history : List Access} {race : Race}
    {log : List Effect} (hrun : RaceRun config env history race log) (hhdi : race.hdi = .Done)
    (hces : race.ces = .Done) :
    RaceAnnounced config env log ↔
      Precedes .ServiceArrives .HdiCheckService history ∨
      Precedes .HdiStoreReady .CesTestHdiReady history := by
  have hinv := raceInvariant_run hrun
  constructor
  · intro hannounced
    by_contra hneither
    rw [not_or] at hneither
    have hsilent := hinv.quiet hneither.1 hneither.2
    have hinner := hannounced.inner
    rw [hsilent] at hinner
    cases hinner
  · rintro (hservice | hready)
    · have hphase : HdiPhase config env history race log .Done := hhdi ▸ hinv.hdi
      exact hphase.2 hservice
    · have hphase : CesPhase config env history race log .Done := hces ▸ hinv.ces
      exact hphase hready

-- The START task without a step of the other thread in between.
def startAccesses (reader : HdiReader) (present : Bool) : List Access :=
  .HdiRegister :: .replicate reader.initWrites.length .HdiWrite ++ [.HdiCheckService] ++
    (if present then [.HdiPublish] else []) ++ [.HdiStoreReady]

def bootlessConfig : BatteryConfig := { shippedConfig with commonEventConf := [] }

def wirelessThreads : RaceEnv := ⟨wirelessEnv.startReader, .None, .None⟩

-- The service arrives first, and the callback finds the flag still down.
def serviceFirstAccesses : List Access :=
  [.ServiceArrives, .CesTestCommonEventReady, .CesTestHdiReady] ++
    startAccesses wirelessEnv.startReader true

theorem raceAnnounced_iff_serviceFirst :
    ∃ race log, RaceRun bootlessConfig wirelessThreads serviceFirstAccesses race log ∧
      RaceAnnounced bootlessConfig wirelessThreads log := by
  have hrun := exec_run (raceStep wirelessThreads) { notify := .create bootlessConfig } serviceFirstAccesses
    (by decide)
  refine ⟨_, _, hrun, (raceAnnounced_iff hrun rfl rfl).mpr (.inl ?_)⟩
  exact ⟨serviceFirstAccesses.take 17, .HdiCheckService, [.HdiPublish, .HdiStoreReady], rfl, rfl, by decide⟩

-- The service arrives after the START task has looked for it, and the callback
-- is through before the flag is up.
def windowAccesses : List Access :=
  .HdiRegister :: .replicate 13 .HdiWrite ++ [.HdiCheckService, .ServiceArrives,
    .CesTestCommonEventReady, .CesTestHdiReady, .HdiStoreReady]

theorem not_raceAnnounced_window :
    ¬∀ (config : BatteryConfig) (env : RaceEnv) (history : List Access) (race : Race)
        (log : List Effect),
      config.commonEventConf = [] → RaceRun config env history race log →
      race.hdi = .Done → race.ces = .Done → RaceAnnounced config env log := by
  intro hall
  have hrun := exec_run (raceStep wirelessThreads) { notify := .create bootlessConfig } windowAccesses
    (by decide)
  have hinner := (hall bootlessConfig wirelessThreads windowAccesses _ _ rfl hrun rfl rfl).inner
  cases hinner

section Sequential

variable {F : Ffrt}

-- What the threads share, as the service has it between two sequential steps.
structure Race.Shows (race : Race) (service : BatteryService F) : Prop where
  batteryInfo : race.batteryInfo = service.batteryInfo
  notify : race.notify = service.notify
  isBatteryHdiReady : race.isBatteryHdiReady = service.isBatteryHdiReady
  isCommonEventReady : race.isCommonEventReady = service.isCommonEventReady

theorem run_writes (env : RaceEnv) (writes : List (BatteryInfo → BatteryInfo)) (race : Race)
    (hpc : race.hdi = .fill writes) :
    Run (raceStep env) race (.replicate writes.length .HdiWrite)
      { race with
        batteryInfo := writes.foldl (fun info write => write info) race.batteryInfo
        hdi := .CheckService } [] := by
  induction writes generalizing race with
  | nil =>
      have hsame : { race with hdi := .CheckService } = race := by
        have hcheck : race.hdi = .CheckService := hpc
        rw [← hcheck]
      rw [List.foldl_nil, hsame]
      exact .nil
  | cons write rest ih =>
      have hstep : raceStep env race .HdiWrite =
          some ({ race with batteryInfo := write race.batteryInfo, hdi := .fill rest }, []) := by
        simp only [raceStep, hpc, HdiPc.fill]
      exact (ih _ rfl).cons hstep

theorem run_fill (env : RaceEnv) (race : Race) (hpc : race.hdi = .Register) :
    Run (raceStep env) race (.HdiRegister :: .replicate env.reader.initWrites.length .HdiWrite)
      { race with batteryInfo := env.reader.fillInfo race.batteryInfo, hdi := .CheckService } [] := by
  have hregister : raceStep env race .HdiRegister =
      some ({ race with hdi := .fill env.reader.initWrites }, []) := by
    simp only [raceStep, hpc]
  exact (run_writes env env.reader.initWrites { race with hdi := .fill env.reader.initWrites }
    rfl).cons hregister

theorem run_catchUp (env : RaceEnv) (race : Race) (hces : race.ces = .Copy)
    (hexists : race.serviceExists = true) :
    let published := publishKnown (race.publishEnv env.cesLevel) race.notify.known
      { race.batteryInfo with uevent := "" }
    Run (raceStep env) race [.CesCopy, .CesCheckService, .CesPublish, .CesStoreReady]
      { race with notify := published.notify, isCommonEventReady := true, ces := .Done }
      published.effects := by
  let info : BatteryInfo := { race.batteryInfo with uevent := "" }
  let check : Race := { race with ces := .CheckService info }
  let found : Race := { race with notify := race.notify.known, ces := .Publish info }
  let published := publishKnown (found.publishEnv env.cesLevel) found.notify info
  let stored : Race := { found with notify := published.notify, ces := .StoreReady }
  have hcopy : raceStep env race .CesCopy = some (check, []) := by
    simp only [raceStep, hces, check, info]
  have hknown : check.known = true := by
    simp [Race.known, check, hexists]
  have hcheck : raceStep env check .CesCheckService = some (found, []) := by
    simp only [raceStep, hknown, if_true, check, found]
  have hpublish : raceStep env found .CesPublish = some (stored, published.effects) := rfl
  have hstore : raceStep env stored .CesStoreReady =
      some ({ stored with isCommonEventReady := true, ces := .Done }, []) := rfl
  have hrun := (((Run.nil.cons hstore).cons hpublish).cons hcheck).cons hcopy
  rwa [List.append_nil, List.append_nil, List.nil_append, List.nil_append] at hrun

theorem publishKnown_congr {env other : PublishEnv} (hpublish : env.publish = other.publish)
    (hlevel : env.capacityLevel = other.capacityLevel) {info : BatteryInfo}
    (hordinary : OrdinaryUevent info) (notify : BatteryNotify) :
    publishKnown env notify info = publishKnown other notify info := by
  rw [publishKnown_ordinary hordinary, publishKnown_ordinary hordinary]
  cases env
  cases other
  cases hpublish
  cases hlevel
  rfl

theorem addBootCommonEvents_nil (env : PublishEnv) (lookup : String → Except BatteryError String)
    (info : BatteryInfo) : addBootCommonEvents env [] lookup info = (info, []) := rfl

-- Without a step in between, the accesses of the START task make up the START
-- task of the service.
theorem race_hdiStartTask (build : Build) (config : BatteryConfig) (enableS4 present : Bool)
    (env : InitEnv) (hconf : config.commonEventConf = []) :
    ∃ hdiLevel, ∀ cesLevel, ∃ race log,
      Run (raceStep ⟨env.startReader, hdiLevel, cesLevel⟩)
        { notify := .create config, serviceExists := present }
        (startAccesses env.startReader present) race log ∧
      let started := (init (F := F) build config enableS4).hdiStartTask build config
        (env.withService present)
      race.Shows started.1 ∧ race.hdi = .Done ∧
      ∀ wanted, publications wanted log = publications wanted started.2 := by
  obtain ⟨bootEnv, penv, -, -, hpublish, hexists, hpublications, hnotify, hinfo, hready, hevent⟩ :=
    hdiStartTask_publications (F := F) build config enableS4 (env.withService present)
  rw [hconf] at hpublications hnotify hinfo
  have hordinary : OrdinaryUevent env.initialInfo := .inr (.inr rfl)
  refine ⟨penv.capacityLevel, fun cesLevel => ?_⟩
  let threads : RaceEnv := ⟨env.startReader, penv.capacityLevel, cesLevel⟩
  let filled : Race := {
    notify := .create config, serviceExists := present, batteryInfo := env.initialInfo
    hdi := .CheckService }
  have hfilled := run_fill threads { notify := .create config, serviceExists := present } rfl
  cases present with
  | false =>
      have hmissed := publishEvents_missing hexists config env.initialInfo
      simp only [InitEnv.withService_initialInfo, InitEnv.withService_bootLookup,
        addBootCommonEvents_nil, hmissed] at hpublications hnotify hinfo
      let missed : Race := { filled with hdi := .StoreReady }
      have hcheck : raceStep threads filled .HdiCheckService = some (missed, []) := rfl
      have hstore : raceStep threads missed .HdiStoreReady =
          some ({ missed with isBatteryHdiReady := true, hdi := .Done }, []) := rfl
      refine ⟨_, _, (hfilled.snoc _ hcheck).snoc _ hstore,
        ⟨hinfo.symm, hnotify.symm, hready.symm, hevent.symm⟩, rfl, fun wanted => ?_⟩
      rw [hpublications]
      rfl
  | true =>
      let found : Race := { filled with notify := (BatteryNotify.create config).known, hdi := .Publish }
      have hsame : publishKnown (found.publishEnv threads.hdiLevel) found.notify found.batteryInfo =
          publishEvents penv (.create config) env.initialInfo := by
        have hdelivered : (found.publishEnv threads.hdiLevel).publish = penv.publish := by
          rw [hpublish]
          rfl
        rw [publishEvents_present hexists]
        exact publishKnown_congr hdelivered rfl hordinary _
      simp only [InitEnv.withService_initialInfo, InitEnv.withService_bootLookup,
        addBootCommonEvents_nil, ← hsame] at hpublications hnotify hinfo
      let published := publishKnown (found.publishEnv threads.hdiLevel) found.notify found.batteryInfo
      let stored : Race := { found with
        notify := published.notify, batteryInfo := published.info, hdi := .StoreReady }
      have hcheck : raceStep threads filled .HdiCheckService = some (found, []) := rfl
      have hpublish : raceStep threads found .HdiPublish = some (stored, published.effects) := rfl
      have hstore : raceStep threads stored .HdiStoreReady =
          some ({ stored with isBatteryHdiReady := true, hdi := .Done }, []) := rfl
      refine ⟨_, _, ((hfilled.snoc _ hcheck).snoc _ hpublish).snoc _ hstore,
        ⟨hinfo.symm, hnotify.symm, hready.symm, hevent.symm⟩, rfl, fun wanted => ?_⟩
      rw [hpublications]
      simp [published]

-- The same for the callback, once the service is there.
theorem race_onAddCommonEventService {env : RaceEnv} {service : BatteryService F}
    (added : ReportEnv) {race : Race} (hshows : race.Shows service)
    (hexists : race.serviceExists = true) (hces : race.ces = .TestCommonEventReady)
    (hlevel : env.cesLevel = (service.publishEnv (added.withService true)).capacityLevel) :
    ∃ history next log, Run (raceStep env) race history next log ∧ next.ces = .Done ∧
      next.Shows (service.onAddCommonEventService (added.withService true)).1 ∧
      log = (service.onAddCommonEventService (added.withService true)).2 := by
  obtain ⟨hinfo, hnotify, hready, hevent⟩ := hshows
  by_cases hskip : service.isCommonEventReady = true
  · have htest : raceStep env race .CesTestCommonEventReady = some ({ race with ces := .Done }, []) := by
      simp [raceStep, hces, hexists, hevent, hskip]
    have hcall : service.onAddCommonEventService (added.withService true) = (service, []) := if_pos hskip
    rw [hcall]
    exact ⟨_, _, _, Run.nil.snoc _ htest, rfl, ⟨hinfo, hnotify, hready, hevent⟩, rfl⟩
  have htest : raceStep env race .CesTestCommonEventReady =
      some ({ race with ces := .TestHdiReady }, []) := by
    simp [raceStep, hces, hexists, hevent, hskip]
  by_cases hstored : service.isBatteryHdiReady = true
  · have hflag : raceStep env { race with ces := .TestHdiReady } .CesTestHdiReady =
        some ({ race with ces := .Copy }, []) := by
      simp [raceStep, hready, hstored]
    have hcatchUp := run_catchUp env { race with ces := .Copy } rfl hexists
    have hsame : publishKnown (race.publishEnv env.cesLevel) race.notify.known
        { race.batteryInfo with uevent := "" } =
          publishEvents (service.publishEnv (added.withService true)) service.notify
            { service.batteryInfo with uevent := "" } := by
      have hdelivered : (race.publishEnv env.cesLevel).publish =
          (service.publishEnv (added.withService true)).publish :=
        funext fun _ => hexists
      rw [publishEvents_present rfl, ← hnotify, ← hinfo]
      exact publishKnown_congr hdelivered hlevel (.inr (.inl rfl)) _
    have hcall : service.onAddCommonEventService (added.withService true) = _ :=
      (if_neg hskip).trans (if_pos hstored)
    rw [hcall]
    exact ⟨_, _, _, (hcatchUp.cons hflag).cons htest, rfl,
      ⟨hinfo, congrArg PublishResult.notify hsame, hready, rfl⟩, congrArg PublishResult.effects hsame⟩
  · have hflag : raceStep env { race with ces := .TestHdiReady } .CesTestHdiReady =
        some ({ race with ces := .Done }, []) := by
      simp [raceStep, hready, hstored]
    have hcall : service.onAddCommonEventService (added.withService true) = (service, []) :=
      (if_neg hskip).trans (if_neg hstored)
    rw [hcall]
    exact ⟨_, _, _, (Run.nil.snoc _ htest).snoc _ hflag, rfl, ⟨hinfo, hnotify, hready, hevent⟩, rfl⟩

end Sequential

end BatteryManager
