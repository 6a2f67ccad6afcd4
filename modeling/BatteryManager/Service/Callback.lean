import BatteryManager.Service.Steps

namespace BatteryManager

open Library

variable {F : Ffrt}

-- The uevents that `HandleUevent` cuts down to their name.
def RewritesAct (ueventAct : String) : Prop :=
  ueventAct = SEND_COMMONEVENT ∨
    BATTERY_CUSTOM_EVENT_PREFIX.toList.isPrefixOf ueventAct.toList = true ∨ ueventAct = SEND_POPUP

def RewritesUevent (uevent : String) : Prop :=
  ∃ ueventName ueventAct, rsplit '$' uevent = some (ueventName, ueventAct) ∧ RewritesAct ueventAct

theorem not_rewritesAct_shutdown : ¬RewritesAct SHUTDOWN := by
  unfold RewritesAct
  decide

theorem not_rewritesAct_reboot : ¬RewritesAct REBOOT := by
  unfold RewritesAct
  decide

theorem OrdinaryUevent.not_split {info : BatteryInfo} (hordinary : OrdinaryUevent info) :
    rsplit '$' info.uevent = none := by
  rcases hordinary with hu | hu | hu <;> rw [hu] <;> decide

section Publish

variable (env : PublishEnv) (notify : BatteryNotify) (info : BatteryInfo)

theorem handleUevent_keeps (hkeeps : ¬RewritesUevent info.uevent) :
    (handleUevent env notify info).info = info := by
  unfold handleUevent
  split
  · rfl
  · rename_i ueventName ueventAct hsplit
    have hact : ¬RewritesAct ueventAct := fun hact => hkeeps ⟨ueventName, ueventAct, hsplit, hact⟩
    simp only [RewritesAct, not_or] at hact
    dsimp only
    rw [if_neg hact.1, if_neg hact.2.1, if_neg hact.2.2]
    split_ifs <;> rfl

theorem publishKnown_keeps (hkeeps : ¬RewritesUevent info.uevent) :
    (publishKnown env notify info).info = info := by
  unfold publishKnown
  split
  · rfl
  · exact handleUevent_keeps env notify info hkeeps

theorem publishChangedEvent_publishes :
    ∃ event delivered, .PublishCommonEvent event delivered ∈ (publishChangedEvent env info notify).effects := by
  unfold publishChangedEvent publishCommonEvent
  dsimp only
  split <;> exact ⟨_, _, List.mem_append_right _ (List.mem_singleton_self _)⟩

theorem publishCustomEvent_publishes (commonEventName : String) (hcheck : env.ueventCheck info.uevent = true) :
    ∃ event delivered, .PublishCommonEvent event delivered ∈ (publishCustomEvent env info commonEventName).2 := by
  unfold publishCustomEvent
  dsimp only
  rw [if_pos hcheck]
  exact ⟨_, _, List.mem_cons_of_mem _ (List.mem_singleton_self _)⟩

-- A rewritten uevent leaves its name, and publishes something unless a hook
-- refuses it.
theorem publishKnown_rewrites {ueventName ueventAct : String}
    (hsplit : rsplit '$' info.uevent = some (ueventName, ueventAct)) (hact : RewritesAct ueventAct) :
    (publishKnown env notify info).info = { info with uevent := ueventName } ∧
    (env.ueventCheck ueventName = true → ∃ event delivered,
      .PublishCommonEvent event delivered ∈ (publishKnown env notify info).effects) := by
  have hordinary : ¬OrdinaryUevent info := by
    intro hordinary
    rw [hordinary.not_split] at hsplit
    cases hsplit
  have hshutdown : ueventAct ≠ SHUTDOWN := fun he => not_rewritesAct_shutdown (he ▸ hact)
  have hreboot : ueventAct ≠ REBOOT := fun he => not_rewritesAct_reboot (he ▸ hact)
  unfold publishKnown handleUevent
  simp only [hsplit]
  rw [if_neg hordinary, if_neg hshutdown, if_neg hreboot]
  by_cases hcommon : ueventAct = SEND_COMMONEVENT
  · rw [if_pos hcommon]
    exact ⟨rfl, fun _ => publishChangedEvent_publishes env notify _⟩
  rw [if_neg hcommon]
  by_cases hcustom : BATTERY_CUSTOM_EVENT_PREFIX.toList.isPrefixOf ueventAct.toList = true
  · rw [if_pos hcustom]
    refine ⟨rfl, fun hcheck => ?_⟩
    obtain ⟨event, delivered, hm⟩ := publishCustomEvent_publishes env
      { info with uevent := ueventName } ueventAct hcheck
    exact ⟨event, delivered, List.mem_append_left _ hm⟩
  rw [if_neg hcustom]
  have hpopup : ueventAct = SEND_POPUP := (hact.resolve_left hcommon).resolve_left hcustom
  rw [if_pos hpopup]
  refine ⟨rfl, fun _ => ?_⟩
  obtain ⟨event, delivered, hm⟩ := publishChangedEvent_publishes env notify
    { info with uevent := ueventName }
  exact ⟨event, delivered, List.mem_append_left _ hm⟩

end Publish

-- What a second handling of one report must not do.
def Effect.isRequest : Effect → Bool
  | .PublishCommonEvent _ _ => true
  | .HandleNotification _ => true
  | .ShutDownDevice _ => true
  | .RebootDevice _ => true
  | .WakeupDevice => true
  | .Hibernate _ => true
  | _ => false

namespace BatteryService

-- The common event service is there, or has been seen before.
def KnowsService (service : BatteryService F) (env : ReportEnv) : Prop :=
  service.notify.commonEventInitSuccess = true ∨ env.serviceExists = true

-- Handling a report a second time does nothing, whatever the rest of the
-- system answers the two times.
def HandledOnce (build : Build) (config : BatteryConfig) (event : HdiBatteryInfo)
    (chargeType : Option Nat) (service : BatteryService F) : Prop :=
  ∀ first second : ReportEnv, service.KnowsService first → service.KnowsService second →
    let once := (service.handleBatteryCallbackEvent build config first event chargeType).1
    let twice := once.handleBatteryCallbackEvent build config second event chargeType
    twice.1 = once ∧ ∀ effect ∈ twice.2, effect.isRequest = false

section Callback

variable (build : Build) (config : BatteryConfig) (env : ReportEnv) (event : HdiBatteryInfo)
variable (chargeType : Option Nat) {service : BatteryService F}

theorem callback_unmocked (hmock : service.isMocked = false) :
    service.handleBatteryCallbackEvent build config env event chargeType =
      if service.lastBatteryInfo = event.toInfo (service.chargeTypeAnswer chargeType) then
        ({ service with batteryInfo := event.toInfo (service.chargeTypeAnswer chargeType) }, [])
      else service.report build config env (event.toInfo (service.chargeTypeAnswer chargeType)) := by
  rw [handleBatteryCallbackEvent, if_neg (by simp [hmock])]
  simp only [service.convertingEvent_unmocked event chargeType hmock]
  rfl

-- A report that the service has just handled is recognised.
theorem callback_settled (hmock : service.isMocked = false)
    (hlast : service.lastBatteryInfo = event.toInfo (service.chargeTypeAnswer chargeType))
    (hinfo : service.batteryInfo = event.toInfo (service.chargeTypeAnswer chargeType)) :
    service.handleBatteryCallbackEvent build config env event chargeType = (service, []) := by
  rw [callback_unmocked build config env event chargeType hmock, if_pos hlast, ← hinfo]

-- What a report that is not a duplicate leaves for the next one.
theorem report_next (info : BatteryInfo) (hknown : service.KnowsService env) :
    let next := (service.report build config env info).1
    next.isMocked = service.isMocked ∧ next.lastBatteryInfo = next.batteryInfo ∧
    next.batteryInfo = (publishKnown ({ service with batteryInfo := info }.publishEnv env)
      service.notify.known info).info := by
  intro next
  have hbattery : next.batteryInfo = (publishEvents ({ service with batteryInfo := info }.publishEnv env)
      service.notify info).info := handleBatteryInfo_batteryInfo config env _ build
  refine ⟨?_, ?_, ?_⟩
  · simp [next, isMocked, report]
  · simp only [next, report, handleBatteryInfo]
  · rw [hbattery, publishEvents_eq, if_pos (by simpa [KnowsService, publishEnv] using hknown)]

theorem report_publishes (info : BatteryInfo) (hknown : service.KnowsService env) {effect : Effect}
    (hm : effect ∈ (publishKnown ({ service with batteryInfo := info }.publishEnv env)
      service.notify.known info).effects) :
    effect ∈ (service.report build config env info).2 := by
  have hpublish : effect ∈ (publishEvents ({ service with batteryInfo := info }.publishEnv env)
      service.notify info).effects := by
    rw [publishEvents_eq, if_pos (by simpa [KnowsService, publishEnv] using hknown)]
    exact hm
  unfold report handleBatteryInfo
  dsimp only
  exact List.mem_append_left _ (List.mem_append_right _ hpublish)

-- A duplicate only copies the report into `batteryInfo_`.
theorem handledOnce_duplicate (hmock : service.isMocked = false)
    (hsame : service.lastBatteryInfo = event.toInfo (service.chargeTypeAnswer chargeType)) :
    service.HandledOnce build config event chargeType := by
  intro first second _ _
  let copied := { service with batteryInfo := event.toInfo (service.chargeTypeAnswer chargeType) }
  have hfirst : ∀ env, service.handleBatteryCallbackEvent build config env event chargeType =
      (copied, []) := by
    intro env
    rw [callback_unmocked build config env event chargeType hmock, if_pos hsame]
  have hcopied : copied.isMocked = false := hmock
  have hsecond : copied.handleBatteryCallbackEvent build config second event chargeType =
      (copied, []) := callback_settled build config second event chargeType hcopied hsame rfl
  simp [hfirst, hsecond]

-- Where the uevent survives, the second report finds itself in `lastBatteryInfo_`.
theorem handledOnce_kept (hmock : service.isMocked = false) (hkeeps : ¬RewritesUevent event.uevent) :
    service.HandledOnce build config event chargeType := by
  by_cases hsame : service.lastBatteryInfo = event.toInfo (service.chargeTypeAnswer chargeType)
  · exact handledOnce_duplicate build config event chargeType hmock hsame
  intro first second hknown _
  have hfirst : service.handleBatteryCallbackEvent build config first event chargeType =
      service.report build config first (event.toInfo (service.chargeTypeAnswer chargeType)) := by
    rw [callback_unmocked build config first event chargeType hmock, if_neg hsame]
  rw [hfirst]
  let once := (service.report build config first (event.toInfo (service.chargeTypeAnswer chargeType))).1
  have hnext := report_next build config first
    (event.toInfo (service.chargeTypeAnswer chargeType)) hknown
  have hinfo : once.batteryInfo = event.toInfo (service.chargeTypeAnswer chargeType) :=
    hnext.2.2.trans (publishKnown_keeps _ _ _ hkeeps)
  have hanswer : once.chargeTypeAnswer chargeType = service.chargeTypeAnswer chargeType := by
    simp [once, chargeTypeAnswer]
  have hsecond : once.handleBatteryCallbackEvent build config second event chargeType = (once, []) := by
    apply callback_settled build config second event chargeType (hnext.1.trans hmock)
    · rw [hanswer]
      exact hnext.2.1.trans hinfo
    · rw [hanswer]
      exact hinfo
  change (once.handleBatteryCallbackEvent build config second event chargeType).1 = once ∧
    ∀ effect ∈ (once.handleBatteryCallbackEvent build config second event chargeType).2,
      effect.isRequest = false
  rw [hsecond]
  exact ⟨rfl, by simp⟩

-- Where the uevent is cut down, the second report is handled like a new one.
theorem not_handledOnce_rewritten (hmock : service.isMocked = false)
    (hnew : service.lastBatteryInfo ≠ event.toInfo (service.chargeTypeAnswer chargeType))
    (hrewrites : RewritesUevent event.uevent) : ¬service.HandledOnce build config event chargeType := by
  obtain ⟨ueventName, ueventAct, hsplit, hact⟩ := hrewrites
  intro honce
  let env := { silentEnv with serviceExists := true }
  have hpresent : ∀ state : BatteryService F, state.KnowsService env := fun _ => .inr rfl
  let info := event.toInfo (service.chargeTypeAnswer chargeType)
  have htwice := (honce env env (hpresent service) (hpresent service)).2
  rw [callback_unmocked build config env event chargeType hmock, if_neg hnew] at htwice
  let once := (service.report build config env info).1
  have hnext := report_next build config env info (hpresent service)
  have hlast : once.lastBatteryInfo = { info with uevent := ueventName } :=
    (hnext.2.1.trans hnext.2.2).trans (publishKnown_rewrites _ _ _ hsplit hact).1
  have hanswer : once.chargeTypeAnswer chargeType = service.chargeTypeAnswer chargeType := by
    simp [once, chargeTypeAnswer]
  have hdiffers : once.lastBatteryInfo ≠ info := by
    rw [hlast]
    intro hsame
    exact rsplit_name_ne hsplit (congrArg BatteryInfo.uevent hsame)
  rw [callback_unmocked build config env event chargeType (hnext.1.trans hmock), hanswer,
    if_neg hdiffers] at htwice
  obtain ⟨published, delivered, hm⟩ := (publishKnown_rewrites
    ({ once with batteryInfo := info }.publishEnv env) once.notify.known info hsplit hact).2 rfl
  have hquiet := htwice _ (report_publishes build config env info (hpresent once) hm)
  cases hquiet

end Callback

end BatteryService

open BatteryService

-- A report is handled once exactly when it is a duplicate already, or its uevent
-- is not one that `HandleUevent` cuts down.
theorem handledOnce_iff (build : Build) (config : BatteryConfig) (service : BatteryService F)
    (hmock : service.isMocked = false) (event : HdiBatteryInfo) (chargeType : Option Nat) :
    service.HandledOnce build config event chargeType ↔
      service.lastBatteryInfo = event.toInfo (service.chargeTypeAnswer chargeType) ∨
        ¬RewritesUevent event.uevent := by
  constructor
  · intro honce
    by_contra hneither
    rw [not_or, not_not] at hneither
    exact not_handledOnce_rewritten build config event chargeType hmock hneither.1 hneither.2 honce
  · rintro (hsame | hkeeps)
    · exact handledOnce_duplicate build config event chargeType hmock hsame
    · exact handledOnce_kept build config event chargeType hmock hkeeps

theorem handledOnce_iff_ordinary :
    HandledOnce .Default shippedConfig chargingEvent (some 1)
      (init (F := ticketFfrt) .Default shippedConfig true) := by
  refine (handledOnce_iff .Default shippedConfig _ rfl chargingEvent (some 1)).mpr (.inr ?_)
  rintro ⟨ueventName, ueventAct, hsplit, -⟩
  have hnone : rsplit '$' POWER_SUPPLY = none := by decide
  cases hnone.symm.trans hsplit

-- The device is started, and then the same report comes twice.
theorem not_handledOnce_commonEvent :
    ¬∀ (build : Build) (config : BatteryConfig) (enableS4 : Bool) (history : List ServiceLabel)
        (service : BatteryService ticketFfrt) (log : List Effect),
      ServiceRun build config enableS4 history service log → service.isMocked = false →
      ∀ (event : HdiBatteryInfo) (chargeType : Option Nat),
        service.HandledOnce build config event chargeType := by
  intro honce
  have hrun := exec_run (serviceStep .Default shippedConfig)
    (init (F := ticketFfrt) .Default shippedConfig true) [.Start (chargingEvent.startEnv 1)] (by decide)
  let event := { chargingEvent with uevent := "BATTERY_UNDER_VOLTAGE=3$sendcommonevent" }
  have hsplit : rsplit '$' event.uevent = some ("BATTERY_UNDER_VOLTAGE=3", SEND_COMMONEVENT) := by
    decide
  exact not_handledOnce_rewritten .Default shippedConfig event (some 1) rfl (by decide)
    ⟨_, _, hsplit, .inl rfl⟩ (honce _ _ _ _ _ _ hrun rfl event (some 1))

end BatteryManager
