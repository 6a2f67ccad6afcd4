import BatteryManager.Notify.Edges

namespace BatteryManager

open Library

-- The four values of a report by which `publishChangedEvent` decides whether to
-- write its statistic.
structure ChangedKey where
  capacity : Int
  pluggedType : Int
  temperature : Int
  healthState : Int
  deriving DecidableEq

def BatteryInfo.changedKey (info : BatteryInfo) : ChangedKey where
  capacity := info.capacity
  pluggedType := toInt32 info.pluggedType.code
  temperature := info.temperature
  healthState := toInt32 info.healthState.code

def BatteryNotify.lastKey (notify : BatteryNotify) : ChangedKey where
  capacity := notify.lastCapacity
  pluggedType := notify.lastPluggedType
  temperature := notify.lastTemperature
  healthState := notify.lastHealthState

-- The members before the first report.
def UNREPORTED : ChangedKey := ⟨-1, -1, -1, -1⟩

def Effect.statistic? : Effect → Option ChangedKey
  | .HiSysEventWrite capacity pluggedType _ temperature healthState _ _ =>
      some ⟨capacity, pluggedType, temperature, healthState⟩
  | _ => none

def statistics (log : List Effect) : List ChangedKey :=
  log.filterMap Effect.statistic?

def CommonEvent.changedKey (event : CommonEvent) : ChangedKey where
  capacity := (event.intParam "soc").getD 0
  pluggedType := (event.intParam "pluggedType").getD 0
  temperature := (event.intParam "temperature").getD 0
  healthState := (event.intParam "healthState").getD 0

-- What the BATTERY_CHANGED events say, delivered or not.
def broadcastKeys (log : List Effect) : List ChangedKey :=
  (publications isBatteryChanged log).map fun entry => entry.1.changedKey

@[simp] theorem statistics_append (log later : List Effect) :
    statistics (log ++ later) = statistics log ++ statistics later :=
  List.filterMap_append

@[simp] theorem broadcastKeys_append (log later : List Effect) :
    broadcastKeys (log ++ later) = broadcastKeys log ++ broadcastKeys later := by
  simp [broadcastKeys]

theorem changedEvent_changedKey (info : BatteryInfo) (last level : BatteryCapacityLevel) :
    (changedEvent info last level).changedKey = info.changedKey := by
  have hsoc : (changedEvent info last level).intParam "soc" = some info.capacity := rfl
  have hplugged : (changedEvent info last level).intParam "pluggedType" =
      some (toInt32 info.pluggedType.code) := rfl
  have htemperature : (changedEvent info last level).intParam "temperature" =
      some info.temperature := rfl
  have hhealth : (changedEvent info last level).intParam "healthState" =
      some (toInt32 info.healthState.code) := rfl
  rw [CommonEvent.changedKey, hsoc, hplugged, htemperature, hhealth]
  simp -implicitDefEqProofs only [Option.getD_some, BatteryInfo.changedKey]

section Changed

variable (env : PublishEnv) (info : BatteryInfo) (notify : BatteryNotify)

-- The test of the source, field by field.
theorem changedKey_ne_lastKey :
    info.changedKey ≠ notify.lastKey ↔
      info.capacity ≠ notify.lastCapacity ∨ toInt32 info.pluggedType.code ≠ notify.lastPluggedType ∨
        info.temperature ≠ notify.lastTemperature ∨
        toInt32 info.healthState.code ≠ notify.lastHealthState := by
  simp only [BatteryInfo.changedKey, BatteryNotify.lastKey, ne_eq, ChangedKey.mk.injEq, not_and_or]

theorem publishChangedEvent_statistics :
    statistics (publishChangedEvent env info notify).effects =
      if info.changedKey = notify.lastKey then [] else [info.changedKey] := by
  unfold publishChangedEvent
  dsimp only
  split
  · rename_i hchanged
    rw [if_neg ((changedKey_ne_lastKey info notify).mpr hchanged)]
    rfl
  · rename_i hsame
    rw [← changedKey_ne_lastKey, not_not] at hsame
    rw [if_pos hsame]
    rfl

-- The four members hold the report that was broadcast last, also when nothing
-- had to be stored.
theorem publishChangedEvent_lastKey :
    (publishChangedEvent env info notify).notify.lastKey = info.changedKey := by
  unfold publishChangedEvent
  dsimp only
  split
  · simp only [publishCommonEvent, BatteryNotify.lastKey, BatteryInfo.changedKey]
  · rename_i hsame
    rw [← changedKey_ne_lastKey, not_not] at hsame
    rw [hsame]
    simp only [publishCommonEvent, BatteryNotify.lastKey]

theorem publishChangedEvent_broadcastKeys :
    broadcastKeys (publishChangedEvent env info notify).effects = [info.changedKey] := by
  rw [broadcastKeys, publishChangedEvent_batteryChanged, List.map_singleton, changedEvent_changedKey]

end Changed

-- What a call does for the statistics: nothing at all, or it broadcasts one
-- report and writes it down if it differs from the one that is stored.
def TracksReport (notify next : BatteryNotify) (key : ChangedKey) (effects : List Effect) : Prop :=
  (next.lastKey = notify.lastKey ∧ statistics effects = [] ∧ broadcastKeys effects = []) ∨
  (next.lastKey = key ∧ statistics effects = (if key = notify.lastKey then [] else [key]) ∧
    broadcastKeys effects = [key])

theorem publishChangedEvent_tracks (env : PublishEnv) (info : BatteryInfo) (notify : BatteryNotify)
    (later : List Effect) (hstatistics : statistics later = []) (hbroadcasts : broadcastKeys later = []) :
    TracksReport notify (publishChangedEvent env info notify).notify info.changedKey
      ((publishChangedEvent env info notify).effects ++ later) := by
  refine .inr ⟨publishChangedEvent_lastKey env info notify, ?_, ?_⟩
  · rw [statistics_append, publishChangedEvent_statistics, hstatistics, List.append_nil]
  · rw [broadcastKeys_append, publishChangedEvent_broadcastKeys, hbroadcasts, List.append_nil]

theorem sideEffects_statistics (env : PublishEnv) (info : BatteryInfo) (notify : BatteryNotify)
    (which : StatePair × Bool) : statistics (sideEffects env info notify which) = [] := by
  obtain ⟨pair, side⟩ := which
  have hpreparation : statistics (pair.preparation side) = [] := by
    cases pair <;> cases side <;> rfl
  unfold sideEffects
  split
  · rw [statistics_append, hpreparation]
    rfl
  · rfl

theorem publishOrdinary_statistics (env : PublishEnv) (notify : BatteryNotify) (info : BatteryInfo) :
    statistics (publishOrdinary env notify info).effects =
      statistics (publishChangedEvent env info notify).effects := by
  have hsides : statistics (sides.flatMap (sideEffects env info notify)) = [] := by
    simp only [sides, List.flatMap_cons, List.flatMap_nil, statistics_append, sideEffects_statistics]
    rfl
  have htype : statistics (chargeTypeEffects env info notify) = [] := by
    unfold chargeTypeEffects
    split <;> rfl
  have hinner : ∀ event delivered rest,
      statistics (.PublishCommonEvent event delivered :: rest) = statistics rest := fun _ _ _ => rfl
  rw [publishOrdinary_effects, statistics_append, hinner, statistics_append, hsides, htype,
    List.append_nil, List.append_nil]

theorem publishOrdinary_tracks (env : PublishEnv) (notify : BatteryNotify) (info : BatteryInfo) :
    TracksReport notify (publishOrdinary env notify info).notify info.changedKey
      (publishOrdinary env notify info).effects := by
  refine .inr ⟨?_, ?_, ?_⟩
  · rw [publishOrdinary_notify]
    exact publishChangedEvent_lastKey env info notify
  · rw [publishOrdinary_statistics, publishChangedEvent_statistics]
  · rw [broadcastKeys, publishOrdinary_batteryChanged]
    exact publishChangedEvent_broadcastKeys env info notify

theorem publishCustomEvent_statistics (env : PublishEnv) (info : BatteryInfo)
    (commonEventName : String) : statistics (publishCustomEvent env info commonEventName).2 = [] := by
  unfold publishCustomEvent
  dsimp only
  split <;> rfl

-- A notification is neither a statistic nor a broadcast.
theorem notification_quiet (asked : Prop) [Decidable asked] (ueventName : String) :
    statistics (if asked then [.HandleNotification ueventName] else []) = [] ∧
      broadcastKeys (if asked then [.HandleNotification ueventName] else []) = [] := by
  split <;> exact ⟨rfl, rfl⟩

-- The name that is cut off the uevent is none of the four values.
theorem handleUevent_tracks (env : PublishEnv) (notify : BatteryNotify) (info : BatteryInfo) :
    TracksReport notify (handleUevent env notify info).notify info.changedKey
      (handleUevent env notify info).effects := by
  have hkey : ∀ name, ({ info with uevent := name } : BatteryInfo).changedKey = info.changedKey :=
    fun _ => rfl
  unfold handleUevent
  split
  · exact .inl ⟨rfl, rfl, rfl⟩
  · rename_i ueventName ueventAct _
    dsimp only
    by_cases hshutdown : ueventAct = SHUTDOWN
    · rw [if_pos hshutdown]
      exact .inl ⟨rfl, rfl, rfl⟩
    rw [if_neg hshutdown]
    by_cases hreboot : ueventAct = REBOOT
    · rw [if_pos hreboot]
      exact .inl ⟨rfl, rfl, rfl⟩
    rw [if_neg hreboot]
    by_cases hcommon : ueventAct = SEND_COMMONEVENT
    · rw [if_pos hcommon]
      have htracks := publishChangedEvent_tracks env { info with uevent := ueventName } notify [] rfl rfl
      rwa [List.append_nil, hkey] at htracks
    rw [if_neg hcommon]
    by_cases hcustom : BATTERY_CUSTOM_EVENT_PREFIX.toList.isPrefixOf ueventAct.toList = true
    · rw [if_pos hcustom]
      obtain ⟨hstatistics, hbroadcasts⟩ := notification_quiet (ueventName = PRODUCT_TYPE_THREE ∨
        ueventName = PRODUCT_TYPE_FOUR ∨ ueventName = PRODUCT_TYPE_FIVE) ueventName
      refine .inl ⟨rfl, ?_, ?_⟩
      · rw [statistics_append, publishCustomEvent_statistics, hstatistics, List.append_nil]
      · rw [broadcastKeys_append, hbroadcasts, broadcastKeys,
          publishCustomEvent_publications env _ ueventAct hcustom _ noCustom_batteryChanged]
        rfl
    rw [if_neg hcustom]
    by_cases hpopup : ueventAct = SEND_POPUP
    · rw [if_pos hpopup]
      have htracks := publishChangedEvent_tracks env { info with uevent := ueventName } notify
        [.HandleNotification ueventName] rfl rfl
      rwa [hkey] at htracks
    rw [if_neg hpopup]
    exact .inl ⟨rfl, rfl, rfl⟩

theorem publish_tracks (call : NotifyCall) (notify : BatteryNotify) :
    TracksReport notify (call.publish notify).notify call.info.changedKey
      (call.publish notify).effects := by
  unfold NotifyCall.publish
  rw [publishEvents_eq]
  split
  · unfold publishKnown
    split
    · exact publishOrdinary_tracks call.env notify.known call.info
    · exact handleUevent_tracks call.env notify.known call.info
  · exact .inl ⟨rfl, rfl, rfl⟩

-- The members are the last report that was broadcast, and the statistics are
-- the broadcasts that differ from the one before.
structure StatisticsInvariant (notify : BatteryNotify) (log : List Effect) : Prop where
  last : (UNREPORTED :: broadcastKeys log).getLast? = some notify.lastKey
  changes : UNREPORTED :: statistics log = (UNREPORTED :: broadcastKeys log).destutter (· ≠ ·)

theorem statisticsInvariant_start (low : Int) :
    StatisticsInvariant { lowCapacity := low } [] where
  last := rfl
  changes := rfl

theorem statisticsInvariant_step {notify next : BatteryNotify} {log out : List Effect} {key : ChangedKey}
    (hinv : StatisticsInvariant notify log) (htracks : TracksReport notify next key out) :
    StatisticsInvariant next (log ++ out) := by
  rcases htracks with ⟨hlast, hstatistics, hbroadcasts⟩ | ⟨hlast, hstatistics, hbroadcasts⟩
  · constructor
    · rw [broadcastKeys_append, hbroadcasts, List.append_nil, hlast]
      exact hinv.last
    · rw [statistics_append, broadcastKeys_append, hstatistics, hbroadcasts, List.append_nil,
        List.append_nil]
      exact hinv.changes
  · constructor
    · rw [broadcastKeys_append, hbroadcasts, hlast, ← List.cons_append, List.getLast?_concat]
    · rw [statistics_append, broadcastKeys_append, hstatistics, hbroadcasts, ← List.cons_append,
        ← List.cons_append, destutter_concat_ne, hinv.changes, hinv.last]
      simp only [Option.some.injEq, eq_comm]

-- A report equal to the last one that was broadcast leaves no statistic, every
-- other one leaves exactly one. A report of the initial values is no exception.
theorem statistics_changes (low : Int) {history : List NotifyCall} {notify : BatteryNotify}
    {log : List Effect} (hrun : Run notifyStep { lowCapacity := low } history notify log) :
    UNREPORTED :: statistics log = (UNREPORTED :: broadcastKeys log).destutter (· ≠ ·) := by
  suffices hinv : StatisticsInvariant notify log from hinv.changes
  induction hrun with
  | nil => exact statisticsInvariant_start low
  | snoc call _ hstep ih =>
      obtain ⟨rfl, rfl⟩ := notifyStep_eq hstep
      exact statisticsInvariant_step ih (publish_tracks call _)

def capacityKey (capacity : Int) : ChangedKey :=
  (capacityCall capacity true).info.changedKey

-- The second report repeats the first.
theorem statistics_changes_repeated :
    UNREPORTED :: [capacityKey 50, capacityKey 10] =
      (UNREPORTED :: [capacityKey 50, capacityKey 50, capacityKey 10]).destutter (· ≠ ·) := by
  have hrun := exec_run notifyStep { lowCapacity := 20 }
    [capacityCall 50 true, capacityCall 50 true, capacityCall 10 true] rfl
  have hchanges := statistics_changes 20 hrun
  have hstatistics : statistics ((exec notifyStep { lowCapacity := 20 }
      [capacityCall 50 true, capacityCall 50 true, capacityCall 10 true]).get rfl).2 =
        [capacityKey 50, capacityKey 10] := by decide
  have hbroadcasts : broadcastKeys ((exec notifyStep { lowCapacity := 20 }
      [capacityCall 50 true, capacityCall 50 true, capacityCall 10 true]).get rfl).2 =
        [capacityKey 50, capacityKey 50, capacityKey 10] := by decide
  rwa [hstatistics, hbroadcasts] at hchanges

end BatteryManager
