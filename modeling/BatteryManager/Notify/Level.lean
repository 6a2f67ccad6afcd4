import BatteryManager.CapacityLevel
import BatteryManager.Library.Delta
import BatteryManager.Notify.Edges

namespace BatteryManager

open Library

-- A call of `publishEvents` made by the service. The level is read from the
-- service while the event is built, and the service answers from its mock or
-- from the HDI, not from the info of the report.
structure LevelCall where
  info : BatteryInfo
  serviceExists : Bool
  publish : CommonEvent → Bool
  ueventCheck : String → Bool
  isMockCapacity : Bool
  interface : Bool
  answer : Option Int

def LevelCall.capacity (call : LevelCall) : Int :=
  getCapacityInner call.isMockCapacity call.info call.interface call.answer

def LevelCall.notifyCall (thresholds : CapacityThresholds) (call : LevelCall) : NotifyCall where
  info := call.info
  env := {
    serviceExists := call.serviceExists
    publish := call.publish
    capacityLevel := getCapacityLevelInner thresholds call.capacity
    ueventCheck := call.ueventCheck }

def levelStep (thresholds : CapacityThresholds) (notify : BatteryNotify) (call : LevelCall) :
    Option (BatteryNotify × List Effect) :=
  notifyStep notify (call.notifyCall thresholds)

def LEVEL_NONE_CODE : Int := toInt32 BatteryCapacityLevel.None.code

def levelParam (event : CommonEvent) : Option Int :=
  match event.param "capacityLevel" with
  | some (.Int level) => some level
  | _ => none

def levelEntries (log : List Effect) : List (Option Int × Bool) :=
  (publications isBatteryChanged log).map fun entry => (levelParam entry.1, entry.2)

-- What a subscriber that overwrites its level with each one it receives holds.
def subscriberLevel (log : List Effect) : Int :=
  held LEVEL_NONE_CODE (levelEntries log)

-- The last level that was sent has arrived.
def LastLevelDelivered (log : List Effect) : Prop :=
  ∀ last ∈ ((levelEntries log).filter fun entry => entry.1.isSome).getLast?, last.2 = true

instance (log : List Effect) : Decidable (LastLevelDelivered log) :=
  inferInstanceAs (Decidable (∀ last ∈ List.getLast? _, _))

theorem BatteryCapacityLevel.toInt32_code_inj (level other : BatteryCapacityLevel) :
    toInt32 level.code = toInt32 other.code ↔ level = other := by
  cases level <;> cases other <;> decide

theorem changedEvent_soc (info : BatteryInfo) (lastLevel level : BatteryCapacityLevel) :
    (changedEvent info lastLevel level).param "soc" = some (.Int info.capacity) := rfl

theorem changedEvent_levelParam (info : BatteryInfo) (lastLevel level : BatteryCapacityLevel) :
    levelParam (changedEvent info lastLevel level) =
      if toInt32 level.code = toInt32 lastLevel.code then none else some (toInt32 level.code) := by
  simp only [BatteryCapacityLevel.toInt32_code_inj]
  unfold levelParam CommonEvent.param changedEvent
  by_cases hsame : level = lastLevel
  · rw [if_pos hsame, if_pos hsame]
    simp [List.lookup_cons]
  · rw [if_neg hsame, if_neg hsame]
    simp [List.lookup_cons]

-- A call either publishes no BATTERY_CHANGED and keeps the last level, or
-- publishes one and remembers the level that was read for it.
theorem publish_changed_cases (call : NotifyCall) (notify : BatteryNotify) :
    (publications isBatteryChanged (call.publish notify).effects = [] ∧
      (call.publish notify).notify.lastCapacityLevel = notify.lastCapacityLevel) ∨
    ∃ uevent,
      let event := changedEvent { call.info with uevent := uevent } notify.lastCapacityLevel
        call.env.capacityLevel
      publications isBatteryChanged (call.publish notify).effects = [(event, call.env.publish event)] ∧
      (call.publish notify).notify.lastCapacityLevel = call.env.capacityLevel := by
  have hchanged : ∀ info lastLevel level,
      isBatteryChanged (changedEvent info lastLevel level) = true := fun _ _ _ => rfl
  have hlast : notify.known.lastCapacityLevel = notify.lastCapacityLevel := rfl
  unfold NotifyCall.publish
  rw [publishEvents_eq]
  split
  · unfold publishKnown
    split
    · refine .inr ⟨call.info.uevent, ?_, publishOrdinary_lastCapacityLevel _ _ _⟩
      rw [publishOrdinary_batteryChanged, publishChangedEvent_publications, hchanged, if_pos rfl, hlast]
    · rcases handleUevent_cases call.env notify.known call.info with
        ⟨hnotify, hquiet⟩ | ⟨name, _, hnotify, hpublications⟩
      · exact .inl ⟨hquiet _ noCustom_batteryChanged, by rw [hnotify, hlast]⟩
      · refine .inr ⟨name, ?_, by rw [hnotify, publishChangedEvent_lastCapacityLevel]⟩
        rw [hpublications, publishChangedEvent_publications, hchanged, if_pos rfl, hlast]
  · exact .inl ⟨rfl, rfl⟩

theorem levelEntries_append (log later : List Effect) :
    levelEntries (log ++ later) = levelEntries log ++ levelEntries later := by
  simp [levelEntries]

-- The last level that the service remembers is the last one it put in an event.
theorem sent_step {notify : BatteryNotify} {log : List Effect}
    (hsent : sent LEVEL_NONE_CODE (levelEntries log) = toInt32 notify.lastCapacityLevel.code)
    (call : NotifyCall) :
    sent LEVEL_NONE_CODE (levelEntries (log ++ (call.publish notify).effects)) =
      toInt32 (call.publish notify).notify.lastCapacityLevel.code := by
  rw [levelEntries_append]
  rcases publish_changed_cases call notify with ⟨hquiet, hlevel⟩ | ⟨uevent, hevent, hlevel⟩
  · rw [hlevel, levelEntries, levelEntries, hquiet, List.map_nil, List.append_nil]
    exact hsent
  · have hentry : levelEntries (call.publish notify).effects =
        [(if toInt32 call.env.capacityLevel.code = sent LEVEL_NONE_CODE (levelEntries log) then none
            else some (toInt32 call.env.capacityLevel.code),
          call.env.publish (changedEvent { call.info with uevent := uevent }
            notify.lastCapacityLevel call.env.capacityLevel))] := by
      rw [levelEntries, hevent, List.map_singleton, changedEvent_levelParam, hsent]
    rw [hentry, hlevel, sent_concat]

theorem sent_run {thresholds : CapacityThresholds} {low : Int} {history : List LevelCall}
    {notify : BatteryNotify} {log : List Effect}
    (hrun : Run (levelStep thresholds) { lowCapacity := low } history notify log) :
    sent LEVEL_NONE_CODE (levelEntries log) = toInt32 notify.lastCapacityLevel.code := by
  induction hrun with
  | nil => simp [levelEntries, sent, LEVEL_NONE_CODE]
  | @snoc history state next log out call hrun hstep ih =>
      obtain ⟨rfl, rfl⟩ := notifyStep_eq hstep
      exact sent_step ih (call.notifyCall thresholds)

-- The level agrees with the capacity that was read while the event was built.
-- That is the capacity of the event when the capacity is mocked.
theorem subscriberLevel_delivered (thresholds : CapacityThresholds) (low : Int)
    {history : List LevelCall} {notify : BatteryNotify} {log : List Effect}
    (hrun : Run (levelStep thresholds) { lowCapacity := low } history notify log) (call : LevelCall)
    (event : CommonEvent)
    (hevent : (event, true) ∈ publications isBatteryChanged
      ((call.notifyCall thresholds).publish notify).effects)
    (hlast : LastLevelDelivered (log ++ ((call.notifyCall thresholds).publish notify).effects)) :
    subscriberLevel (log ++ ((call.notifyCall thresholds).publish notify).effects) =
      toInt32 (getCapacityLevelInner thresholds call.capacity).code ∧
    event.param "soc" = some (.Int call.info.capacity) ∧
    (call.isMockCapacity = true → call.capacity = call.info.capacity) := by
  have hsent := sent_step (sent_run hrun) (call.notifyCall thresholds)
  have hheld := held_eq_sent LEVEL_NONE_CODE _ hlast
  rcases publish_changed_cases (call.notifyCall thresholds) notify with
    ⟨hquiet, _⟩ | ⟨uevent, hpublished, hlevel⟩
  · rw [hquiet] at hevent
    cases hevent
  · rw [hpublished, List.mem_singleton] at hevent
    refine ⟨?_, ?_, fun hmock => ?_⟩
    · rw [subscriberLevel, hheld, hsent, hlevel]
      rfl
    · rw [(Prod.mk.inj hevent).1, changedEvent_soc]
      rfl
    · simp [LevelCall.capacity, getCapacityInner, hmock]

def shippedThresholds : CapacityThresholds := initThresholds shippedConfig

-- A report of the capacity alone, where the HDI reads `reading`.
def readingCall (capacity reading : Int) (isMockCapacity : Bool) : LevelCall where
  info := { capacity := capacity }
  serviceExists := true
  publish := fun _ => true
  ueventCheck := fun _ => true
  isMockCapacity := isMockCapacity
  interface := true
  answer := some reading

theorem subscriberLevel_delivered_mock :
    subscriberLevel (((readingCall 50 10 true).notifyCall shippedThresholds).publish
      { lowCapacity := 20 }).effects = toInt32 BatteryCapacityLevel.Normal.code := by
  have hevent : (changedEvent { capacity := 50 } .None .Normal, true) ∈
      publications isBatteryChanged (((readingCall 50 10 true).notifyCall shippedThresholds).publish
        { lowCapacity := 20 }).effects := by decide
  have hlast : LastLevelDelivered ([] ++
      (((readingCall 50 10 true).notifyCall shippedThresholds).publish { lowCapacity := 20 }).effects) := by
    decide
  exact (subscriberLevel_delivered shippedThresholds 20 .nil (readingCall 50 10 true) _ hevent hlast).1

-- The report says 50, and the HDI reads 10 by the time the event is built.
theorem not_subscriberLevel_soc :
    ¬∀ (history : List LevelCall) (notify : BatteryNotify) (log : List Effect) (call : LevelCall)
        (event : CommonEvent) (soc : Int),
      Run (levelStep shippedThresholds) { lowCapacity := 20 } history notify log →
      (event, true) ∈ publications isBatteryChanged
        ((call.notifyCall shippedThresholds).publish notify).effects →
      event.param "soc" = some (.Int soc) →
      subscriberLevel (log ++ ((call.notifyCall shippedThresholds).publish notify).effects) =
        toInt32 (getCapacityLevelInner shippedThresholds soc).code := by
  intro hlevels
  have hlevel := hlevels [] _ _ (readingCall 50 10 false)
    (changedEvent { capacity := 50 } .None .Warning) 50 .nil (by decide) rfl
  revert hlevel
  decide

end BatteryManager
