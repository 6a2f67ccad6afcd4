import BatteryManager.Notify.Sides

namespace BatteryManager

open Library

@[simp] theorem publishCommonEvent_publications (env : PublishEnv) (event : CommonEvent)
    (notify : BatteryNotify) (before : List Effect) (wanted : CommonEvent → Bool) :
    publications wanted (publishCommonEvent env event notify before).effects =
      publications wanted before ++ if wanted event then [(event, env.publish event)] else [] := by
  simp [publishCommonEvent]

section Changed

variable (env : PublishEnv) (info : BatteryInfo) (notify : BatteryNotify)

@[simp] theorem publishChangedEvent_once :
    (publishChangedEvent env info notify).notify.once = notify.once := by
  unfold publishChangedEvent; dsimp only; split <;> rfl

@[simp] theorem publishChangedEvent_lowCapacity :
    (publishChangedEvent env info notify).notify.lowCapacity = notify.lowCapacity := by
  unfold publishChangedEvent; dsimp only; split <;> rfl

@[simp] theorem publishChangedEvent_chargeType :
    (publishChangedEvent env info notify).notify.batteryInfoChargeType =
      notify.batteryInfoChargeType := by
  unfold publishChangedEvent; dsimp only; split <;> rfl

@[simp] theorem publishChangedEvent_initSuccess :
    (publishChangedEvent env info notify).notify.commonEventInitSuccess =
      notify.commonEventInitSuccess := by
  unfold publishChangedEvent; dsimp only; split <;> rfl

@[simp] theorem publishChangedEvent_lastCapacityLevel :
    (publishChangedEvent env info notify).notify.lastCapacityLevel = env.capacityLevel := by
  unfold publishChangedEvent; dsimp only; split <;> rfl

-- Exactly one publication, in both branches.
@[simp] theorem publishChangedEvent_publications (wanted : CommonEvent → Bool) :
    publications wanted (publishChangedEvent env info notify).effects =
      if wanted (changedEvent info notify.lastCapacityLevel env.capacityLevel) then
        [(changedEvent info notify.lastCapacityLevel env.capacityLevel,
          env.publish (changedEvent info notify.lastCapacityLevel env.capacityLevel))]
      else [] := by
  unfold publishChangedEvent
  dsimp only
  split
  · rw [publishCommonEvent_publications]
    rfl
  · rw [publishCommonEvent_publications]
    rfl

end Changed

theorem changedEvent_action (info : BatteryInfo) (last level : BatteryCapacityLevel) :
    (changedEvent info last level).action = COMMON_EVENT_BATTERY_CHANGED := rfl

theorem changedEvent_uevent (info : BatteryInfo) (last level : BatteryCapacityLevel) :
    (changedEvent info last level).param "uevent" = some (.String info.uevent) := rfl

theorem sideEffects_publications (env : PublishEnv) (info : BatteryInfo) (notify : BatteryNotify)
    (which : StatePair × Bool) (wanted : CommonEvent → Bool) :
    publications wanted (sideEffects env info notify which) =
      if which.1.holds notify.lowCapacity info = which.2 ∧
          notify.once (which.1.latch which.2) = false ∧ wanted (which.1.event which.2 info) then
        [(which.1.event which.2 info, env.publish (which.1.event which.2 info))]
      else [] := by
  obtain ⟨pair, side⟩ := which
  have hprep : publications wanted (pair.preparation side) = [] := by
    cases pair <;> cases side <;> rfl
  unfold sideEffects
  by_cases hemit : pair.holds notify.lowCapacity info = side ∧ notify.once (pair.latch side) = false
  · by_cases hwanted : wanted (pair.event side info) = true
    · simp [hemit, hwanted, hprep]
    · simp [hemit, hwanted, hprep]
  · rw [if_neg hemit, if_neg (fun h => hemit ⟨h.1, h.2.1⟩), publications_nil]

def chargeTypeEffects (env : PublishEnv) (info : BatteryInfo) (notify : BatteryNotify) : List Effect :=
  if notify.batteryInfoChargeType = info.chargeType then []
  else [.PublishCommonEvent (chargeTypeChangedEvent info) (env.publish (chargeTypeChangedEvent info))]

theorem publishChargeTypeChangedEvent_effects (env : PublishEnv) (info : BatteryInfo)
    (notify : BatteryNotify) :
    (publishChargeTypeChangedEvent env info notify).effects = chargeTypeEffects env info notify := by
  unfold publishChargeTypeChangedEvent chargeTypeEffects
  split <;> rfl

theorem publishOrdinary_effects (env : PublishEnv) (notify : BatteryNotify) (info : BatteryInfo) :
    (publishOrdinary env notify info).effects =
      (publishChangedEvent env info notify).effects ++
        (.PublishCommonEvent (changedEventInner info) (env.publish (changedEventInner info)) ::
          (sides.flatMap (sideEffects env info notify) ++ chargeTypeEffects env info notify)) := by
  obtain ⟨hn, he⟩ := publishAll_sides env info sides (by decide)
    (publishChangedEventInner env info (publishChangedEvent env info notify).notify).notify
  have hsides : sideEffects env info
      (publishChangedEventInner env info (publishChangedEvent env info notify).notify).notify =
        sideEffects env info notify := by
    funext which
    simp [sideEffects, publishChangedEventInner, publishCommonEvent]
  have htype : (setSides info sides (publishChangedEventInner env info
      (publishChangedEvent env info notify).notify).notify).batteryInfoChargeType =
        notify.batteryInfoChargeType := by
    rw [setSides_frame]
    simp [publishChangedEventInner, publishCommonEvent]
  simp only [publishOrdinary, publishers_eq, publishAll, publishAll_append, hn, he, hsides,
    publishChargeTypeChangedEvent_effects, chargeTypeEffects, htype]
  simp [publishChangedEventInner, publishCommonEvent]

theorem publishChargeTypeChangedEvent_notify (env : PublishEnv) (info : BatteryInfo)
    (notify : BatteryNotify) :
    (publishChargeTypeChangedEvent env info notify).notify =
      { notify with batteryInfoChargeType := info.chargeType } := by
  unfold publishChargeTypeChangedEvent
  split
  · rename_i heq
    rw [← heq]
  · rfl

theorem publishOrdinary_notify (env : PublishEnv) (notify : BatteryNotify) (info : BatteryInfo) :
    (publishOrdinary env notify info).notify =
      { (publishChangedEvent env info notify).notify with
        once := (setSides info sides (publishChangedEvent env info notify).notify).once
        batteryInfoChargeType := info.chargeType
        lastPowerPluggedType := info.pluggedType } := by
  obtain ⟨hn, -⟩ := publishAll_sides env info sides (by decide)
    (publishChangedEvent env info notify).notify
  simp only [publishOrdinary, publishers_eq, publishAll, publishAll_append,
    publishChangedEventInner, publishCommonEvent, hn, publishChargeTypeChangedEvent_notify]
  rw [setSides_frame]

section Ordinary

variable (env : PublishEnv) (notify : BatteryNotify) (info : BatteryInfo)

@[simp] theorem publishOrdinary_once (pair : StatePair) (side : Bool) :
    (publishOrdinary env notify info).notify.once (pair.latch side) =
      (pair.holds notify.lowCapacity info == side) := by
  simp [publishOrdinary_notify, setSides_once]

@[simp] theorem publishOrdinary_lowCapacity :
    (publishOrdinary env notify info).notify.lowCapacity = notify.lowCapacity := by
  simp [publishOrdinary_notify]

@[simp] theorem publishOrdinary_initSuccess :
    (publishOrdinary env notify info).notify.commonEventInitSuccess =
      notify.commonEventInitSuccess := by
  simp [publishOrdinary_notify]

@[simp] theorem publishOrdinary_chargeType :
    (publishOrdinary env notify info).notify.batteryInfoChargeType = info.chargeType := by
  simp [publishOrdinary_notify]

@[simp] theorem publishOrdinary_lastCapacityLevel :
    (publishOrdinary env notify info).notify.lastCapacityLevel = env.capacityLevel := by
  simp [publishOrdinary_notify]

@[simp] theorem publishOrdinary_info : (publishOrdinary env notify info).info = info := rfl

end Ordinary

def StatePair.announces (pair : StatePair) (event : CommonEvent) : Bool :=
  event.action = pair.action true ∨ event.action = pair.action false

def isChargeTypeChanged (event : CommonEvent) : Bool :=
  event.action = COMMON_EVENT_CHARGE_TYPE_CHANGED

def isBatteryChanged (event : CommonEvent) : Bool :=
  event.action = COMMON_EVENT_BATTERY_CHANGED

theorem StatePair.announces_event (pair other : StatePair) (side : Bool) (info : BatteryInfo) :
    pair.announces (other.event side info) = decide (other = pair) := by
  cases pair <;> cases other <;> cases side <;> rfl

-- The functions of one pair never publish in the same call, and the one on the
-- side of the report publishes unless its latch is set.
theorem publishOrdinary_pair (env : PublishEnv) (notify : BatteryNotify) (info : BatteryInfo)
    (pair : StatePair) :
    publications pair.announces (publishOrdinary env notify info).effects =
      let event := pair.event (pair.holds notify.lowCapacity info) info
      if notify.once (pair.latch (pair.holds notify.lowCapacity info)) then []
      else [(event, env.publish event)] := by
  have hchanged : ∀ last level, pair.announces (changedEvent info last level) = false := by
    intro last level
    cases pair <;> rfl
  have hinner : pair.announces (changedEventInner info) = false := by cases pair <;> rfl
  have htype : publications pair.announces (chargeTypeEffects env info notify) = [] := by
    have hn : pair.announces (chargeTypeChangedEvent info) = false := by cases pair <;> rfl
    unfold chargeTypeEffects
    split <;> simp [hn]
  rw [publishOrdinary_effects]
  simp only [publications_append, publications_publish, publishChangedEvent_publications, hchanged,
    hinner, htype, Bool.false_eq_true, if_false, List.nil_append, List.append_nil]
  simp only [sides, List.flatMap_cons, List.flatMap_nil, publications_append, publications_nil,
    sideEffects_publications, StatePair.announces_event]
  cases hs : pair.holds notify.lowCapacity info <;>
    cases honce : notify.once (pair.latch (pair.holds notify.lowCapacity info)) <;>
    cases pair <;> simp_all

theorem sides_publications_nil (env : PublishEnv) (info : BatteryInfo) (notify : BatteryNotify)
    (wanted : CommonEvent → Bool)
    (hwanted : ∀ pair side, wanted (StatePair.event pair side info) = false) :
    publications wanted (sides.flatMap (sideEffects env info notify)) = [] := by
  simp [sides, sideEffects_publications, hwanted]

theorem publishOrdinary_chargeTypeChanged (env : PublishEnv) (notify : BatteryNotify)
    (info : BatteryInfo) :
    publications isChargeTypeChanged (publishOrdinary env notify info).effects =
      if notify.batteryInfoChargeType = info.chargeType then []
      else [(chargeTypeChangedEvent info, env.publish (chargeTypeChangedEvent info))] := by
  have hchanged : ∀ last level, isChargeTypeChanged (changedEvent info last level) = false :=
    fun _ _ => rfl
  have hinner : isChargeTypeChanged (changedEventInner info) = false := rfl
  have htype : isChargeTypeChanged (chargeTypeChangedEvent info) = true := rfl
  have hsides := sides_publications_nil env info notify isChargeTypeChanged
    (fun pair side => by cases pair <;> cases side <;> rfl)
  rw [publishOrdinary_effects]
  simp only [publications_append, publications_publish, publishChangedEvent_publications, hchanged,
    hinner, hsides, Bool.false_eq_true, if_false, List.nil_append]
  unfold chargeTypeEffects
  split <;> simp [htype]

theorem publishChangedEvent_batteryChanged (env : PublishEnv) (info : BatteryInfo)
    (notify : BatteryNotify) :
    publications isBatteryChanged (publishChangedEvent env info notify).effects =
      [(changedEvent info notify.lastCapacityLevel env.capacityLevel,
        env.publish (changedEvent info notify.lastCapacityLevel env.capacityLevel))] := by
  have hchanged : isBatteryChanged
      (changedEvent info notify.lastCapacityLevel env.capacityLevel) = true := rfl
  rw [publishChangedEvent_publications, if_pos hchanged]

theorem publishOrdinary_batteryChanged (env : PublishEnv) (notify : BatteryNotify)
    (info : BatteryInfo) :
    publications isBatteryChanged (publishOrdinary env notify info).effects =
      publications isBatteryChanged (publishChangedEvent env info notify).effects := by
  have hinner : isBatteryChanged (changedEventInner info) = false := rfl
  have htype : isBatteryChanged (chargeTypeChangedEvent info) = false := rfl
  have hsides := sides_publications_nil env info notify isBatteryChanged
    (fun pair side => by cases pair <;> cases side <;> rfl)
  have hlast : publications isBatteryChanged (chargeTypeEffects env info notify) = [] := by
    unfold chargeTypeEffects
    split <;> simp [htype]
  rw [publishOrdinary_effects]
  simp only [publications_append, publications_publish, hinner, hsides, hlast, Bool.false_eq_true,
    if_false, List.append_nil]

-- `wanted` accepts none of the events that an action uevent can name itself.
def NoCustom (wanted : CommonEvent → Bool) : Prop :=
  ∀ event : CommonEvent, BATTERY_CUSTOM_EVENT_PREFIX.toList.isPrefixOf event.action.toList = true →
    wanted event = false

theorem noCustom_of_actions (actions : List String) (wanted : CommonEvent → Bool)
    (hwanted : ∀ event, wanted event = true → event.action ∈ actions)
    (hactions : ∀ action ∈ actions,
      BATTERY_CUSTOM_EVENT_PREFIX.toList.isPrefixOf action.toList = false) : NoCustom wanted := by
  intro event hcustom
  by_contra hw
  have hm := hwanted event (by simpa using hw)
  rw [hactions _ hm] at hcustom
  cases hcustom

theorem StatePair.noCustom (pair : StatePair) : NoCustom pair.announces := by
  apply noCustom_of_actions [pair.action true, pair.action false]
  · intro event h
    simpa [StatePair.announces] using h
  · cases pair <;> decide

theorem noCustom_chargeTypeChanged : NoCustom isChargeTypeChanged := by
  apply noCustom_of_actions [COMMON_EVENT_CHARGE_TYPE_CHANGED]
  · intro event h
    simpa [isChargeTypeChanged] using h
  · decide

theorem noCustom_batteryChanged : NoCustom isBatteryChanged := by
  apply noCustom_of_actions [COMMON_EVENT_BATTERY_CHANGED]
  · intro event h
    simpa [isBatteryChanged] using h
  · decide

theorem publishCustomEvent_publications (env : PublishEnv) (info : BatteryInfo)
    (commonEventName : String)
    (hcustom : BATTERY_CUSTOM_EVENT_PREFIX.toList.isPrefixOf commonEventName.toList = true)
    (wanted : CommonEvent → Bool) (hwanted : NoCustom wanted) :
    publications wanted (publishCustomEvent env info commonEventName).2 = [] := by
  have hn : wanted (customEvent info commonEventName) = false := hwanted _ hcustom
  have hhook : ∀ rest, publications wanted (.HookMgrExecute info.uevent :: rest) =
      publications wanted rest := fun _ => rfl
  unfold publishCustomEvent
  dsimp only
  split <;> simp [hhook, hn]

-- An action uevent either leaves the state alone and publishes none of the
-- service's own events, or does what `publishChangedEvent` does for the info
-- with the action cut off.
theorem handleUevent_cases (env : PublishEnv) (notify : BatteryNotify) (info : BatteryInfo) :
    ((handleUevent env notify info).notify = notify ∧
      ∀ wanted, NoCustom wanted → publications wanted (handleUevent env notify info).effects = []) ∨
    ∃ ueventName, (handleUevent env notify info).info = { info with uevent := ueventName } ∧
      (handleUevent env notify info).notify =
        (publishChangedEvent env { info with uevent := ueventName } notify).notify ∧
      ∀ wanted, publications wanted (handleUevent env notify info).effects =
        publications wanted (publishChangedEvent env { info with uevent := ueventName } notify).effects := by
  have hnotification : ∀ wanted name, publications wanted [.HandleNotification name] = [] :=
    fun _ _ => rfl
  unfold handleUevent
  split
  · exact .inl ⟨rfl, fun _ _ => rfl⟩
  · rename_i ueventName ueventAct _
    dsimp only
    by_cases hshutdown : ueventAct = SHUTDOWN
    · rw [if_pos hshutdown]
      exact .inl ⟨rfl, fun _ _ => rfl⟩
    rw [if_neg hshutdown]
    by_cases hreboot : ueventAct = REBOOT
    · rw [if_pos hreboot]
      exact .inl ⟨rfl, fun _ _ => rfl⟩
    rw [if_neg hreboot]
    by_cases hcommon : ueventAct = SEND_COMMONEVENT
    · rw [if_pos hcommon]
      exact .inr ⟨ueventName, rfl, rfl, fun _ => rfl⟩
    rw [if_neg hcommon]
    by_cases hcustom : BATTERY_CUSTOM_EVENT_PREFIX.toList.isPrefixOf ueventAct.toList = true
    · rw [if_pos hcustom]
      refine .inl ⟨rfl, fun wanted hwanted => ?_⟩
      rw [publications_append, publishCustomEvent_publications env _ ueventAct hcustom wanted hwanted]
      split
      · exact hnotification wanted ueventName
      · rfl
    rw [if_neg hcustom]
    by_cases hpopup : ueventAct = SEND_POPUP
    · rw [if_pos hpopup]
      refine .inr ⟨ueventName, rfl, rfl, fun wanted => ?_⟩
      rw [publications_append, hnotification, List.append_nil]
    rw [if_neg hpopup]
    exact .inl ⟨rfl, fun _ _ => rfl⟩

-- Only the uevent of the caller's info can change.
theorem handleUevent_info (env : PublishEnv) (notify : BatteryNotify) (info : BatteryInfo) :
    ∃ uevent, (handleUevent env notify info).info = { info with uevent := uevent } := by
  unfold handleUevent
  split
  · exact ⟨info.uevent, rfl⟩
  · rename_i ueventName _ _
    dsimp only
    split_ifs <;> first | exact ⟨info.uevent, rfl⟩ | exact ⟨ueventName, rfl⟩

def BatteryNotify.known (notify : BatteryNotify) : BatteryNotify :=
  { notify with commonEventInitSuccess := true }

theorem publishEvents_eq (env : PublishEnv) (notify : BatteryNotify) (info : BatteryInfo) :
    publishEvents env notify info =
      if notify.commonEventInitSuccess || env.serviceExists then publishKnown env notify.known info
      else ⟨.NoInit, info, notify, []⟩ := by
  unfold publishEvents
  cases hknown : notify.commonEventInitSuccess with
  | true =>
      have hsame : notify.known = notify := by
        unfold BatteryNotify.known
        rw [← hknown]
      simp [hsame]
  | false => simp [BatteryNotify.known]

theorem publishEvents_info (env : PublishEnv) (notify : BatteryNotify) (info : BatteryInfo) :
    ∃ uevent, (publishEvents env notify info).info = { info with uevent := uevent } := by
  rw [publishEvents_eq]
  split
  · unfold publishKnown
    split
    · exact ⟨info.uevent, rfl⟩
    · exact handleUevent_info env notify.known info
  · exact ⟨info.uevent, rfl⟩

end BatteryManager
