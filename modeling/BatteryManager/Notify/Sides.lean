import BatteryManager.Notify

namespace BatteryManager

-- The three properties of a report that the paired events announce.
inductive StatePair
  | Capacity
  | Plugged
  | Charging
  deriving DecidableEq

namespace StatePair

def holds (lowCapacity : Int) (info : BatteryInfo) : StatePair → Bool
  | Capacity => info.capacity ≤ lowCapacity
  | Plugged => info.pluggedType ≠ .None ∧ info.pluggedType ≠ .Butt
  | Charging => info.chargeState = .Enable ∨ info.chargeState = .Full

-- The latch and the event that announce that the property has the value `side`.
def latch : StatePair → Bool → OnceLatch
  | Capacity, true => .Low
  | Capacity, false => .Ok
  | Plugged, true => .Connect
  | Plugged, false => .Disconnect
  | Charging, true => .Charging
  | Charging, false => .Discharging

def action : StatePair → Bool → String
  | Capacity, true => COMMON_EVENT_BATTERY_LOW
  | Capacity, false => COMMON_EVENT_BATTERY_OKAY
  | Plugged, true => COMMON_EVENT_POWER_CONNECTED
  | Plugged, false => COMMON_EVENT_POWER_DISCONNECTED
  | Charging, true => COMMON_EVENT_CHARGING
  | Charging, false => COMMON_EVENT_DISCHARGING

def code (info : BatteryInfo) : StatePair → Int
  | Capacity => info.capacity
  | Plugged => toInt32 info.pluggedType.code
  | Charging => toInt32 info.chargeState.code

def event (pair : StatePair) (side : Bool) (info : BatteryInfo) : CommonEvent where
  action := pair.action side
  code := pair.code info

def preparation : StatePair → Bool → List Effect
  | Plugged, true => [.StartVibrator "start_charge"]
  | _, _ => []

theorem latch_injective {pair other : StatePair} {side side' : Bool}
    (h : pair.latch side = other.latch side') : pair = other ∧ side = side' := by
  cases pair <;> cases side <;> cases other <;> cases side' <;> cases h <;> exact ⟨rfl, rfl⟩

theorem action_injective {pair other : StatePair} {side side' : Bool}
    (h : pair.action side = other.action side') : pair = other ∧ side = side' := by
  cases pair <;> cases side <;> cases other <;> cases side' <;>
    first | exact ⟨rfl, rfl⟩ | (revert h; decide)

end StatePair

-- The six functions in the order in which they are called.
def sides : List (StatePair × Bool) :=
  [(.Capacity, true), (.Capacity, false), (.Plugged, true), (.Plugged, false),
    (.Charging, true), (.Charging, false)]

-- The common description of the six functions.
def publishSide (env : PublishEnv) (info : BatteryInfo) (which : StatePair × Bool)
    (notify : BatteryNotify) : Outcome :=
  publishOnce env (which.1.latch which.2) (which.1.holds notify.lowCapacity info != which.2)
    (which.1.preparation which.2) (which.1.event which.2 info) notify

theorem publishLowEvent_eq (env : PublishEnv) (info : BatteryInfo) :
    publishLowEvent env info = publishSide env info (.Capacity, true) := by
  funext notify
  simp [publishLowEvent, publishSide, StatePair.holds, StatePair.latch, StatePair.preparation,
    StatePair.event, StatePair.action, StatePair.code, ← decide_not]

theorem publishOkayEvent_eq (env : PublishEnv) (info : BatteryInfo) :
    publishOkayEvent env info = publishSide env info (.Capacity, false) := by
  funext notify
  simp [publishOkayEvent, publishSide, StatePair.holds, StatePair.latch, StatePair.preparation,
    StatePair.event, StatePair.action, StatePair.code]

theorem publishPowerConnectedEvent_eq (env : PublishEnv) (info : BatteryInfo) :
    publishPowerConnectedEvent env info = publishSide env info (.Plugged, true) := by
  funext notify
  simp only [publishPowerConnectedEvent, publishSide, StatePair.holds, StatePair.latch,
    StatePair.preparation, StatePair.event, StatePair.action, StatePair.code]
  congr 1
  by_cases hn : info.pluggedType = .None <;> by_cases hb : info.pluggedType = .Butt <;> simp [hn, hb]

theorem publishPowerDisconnectedEvent_eq (env : PublishEnv) (info : BatteryInfo) :
    publishPowerDisconnectedEvent env info = publishSide env info (.Plugged, false) := by
  funext notify
  simp [publishPowerDisconnectedEvent, publishSide, StatePair.holds, StatePair.latch,
    StatePair.preparation, StatePair.event, StatePair.action, StatePair.code]

theorem publishChargingEvent_eq (env : PublishEnv) (info : BatteryInfo) :
    publishChargingEvent env info = publishSide env info (.Charging, true) := by
  funext notify
  simp only [publishChargingEvent, publishSide, StatePair.holds, StatePair.latch,
    StatePair.preparation, StatePair.event, StatePair.action, StatePair.code]
  congr 1
  by_cases he : info.chargeState = .Enable <;> by_cases hf : info.chargeState = .Full <;> simp [he, hf]

theorem publishDischargingEvent_eq (env : PublishEnv) (info : BatteryInfo) :
    publishDischargingEvent env info = publishSide env info (.Charging, false) := by
  funext notify
  simp [publishDischargingEvent, publishSide, StatePair.holds, StatePair.latch,
    StatePair.preparation, StatePair.event, StatePair.action, StatePair.code]

theorem publishers_eq (env : PublishEnv) (info : BatteryInfo) :
    publishers env info = publishChangedEvent env info :: publishChangedEventInner env info ::
      (sides.map (publishSide env info) ++ [publishChargeTypeChangedEvent env info]) := by
  simp only [publishers, publishLowEvent_eq, publishOkayEvent_eq, publishPowerConnectedEvent_eq,
    publishPowerDisconnectedEvent_eq, publishChargingEvent_eq, publishDischargingEvent_eq]
  rfl

-- What one of the six functions emits, from the state it is called in.
def sideEffects (env : PublishEnv) (info : BatteryInfo) (notify : BatteryNotify)
    (which : StatePair × Bool) : List Effect :=
  if which.1.holds notify.lowCapacity info = which.2 ∧ notify.once (which.1.latch which.2) = false then
    which.1.preparation which.2 ++
      [.PublishCommonEvent (which.1.event which.2 info) (env.publish (which.1.event which.2 info))]
  else []

-- The latch ends up on the side of this report, in every branch.
theorem publishSide_notify (env : PublishEnv) (info : BatteryInfo) (which : StatePair × Bool)
    (notify : BatteryNotify) :
    (publishSide env info which notify).notify =
      notify.setOnce (which.1.latch which.2)
        (which.1.holds notify.lowCapacity info == which.2) := by
  unfold publishSide publishOnce
  by_cases hside : which.1.holds notify.lowCapacity info = which.2
  · simp only [hside, bne_self_eq_false, Bool.false_eq_true, if_false, beq_self_eq_true]
    by_cases honce : notify.once (which.1.latch which.2) = true
    · rw [if_pos honce]
      unfold BatteryNotify.setOnce
      rw [← honce, Function.update_eq_self]
    · rw [if_neg honce]
      rfl
  · have hne : (which.1.holds notify.lowCapacity info != which.2) = true := by simpa using hside
    have hbeq : (which.1.holds notify.lowCapacity info == which.2) = false := by simpa using hside
    rw [if_pos hne, hbeq]

theorem publishSide_effects (env : PublishEnv) (info : BatteryInfo) (which : StatePair × Bool)
    (notify : BatteryNotify) :
    (publishSide env info which notify).effects = sideEffects env info notify which := by
  unfold publishSide publishOnce sideEffects
  by_cases hside : which.1.holds notify.lowCapacity info = which.2 <;>
    by_cases honce : notify.once (which.1.latch which.2) = true <;>
    simp [hside, honce, publishCommonEvent]

theorem publishAll_append (first second : List (BatteryNotify → Outcome)) (notify : BatteryNotify) :
    publishAll (first ++ second) notify =
      ⟨(publishAll first notify).isSuccess &&
          (publishAll second (publishAll first notify).notify).isSuccess,
        (publishAll second (publishAll first notify).notify).notify,
        (publishAll first notify).effects ++
          (publishAll second (publishAll first notify).notify).effects⟩ := by
  induction first generalizing notify with
  | nil => simp [publishAll]
  | cons publisher rest ih => simp [publishAll, ih, Bool.and_assoc]

def setSides (info : BatteryInfo) (which : List (StatePair × Bool)) (notify : BatteryNotify) :
    BatteryNotify :=
  which.foldl (fun notify which =>
    notify.setOnce (which.1.latch which.2) (which.1.holds notify.lowCapacity info == which.2)) notify

-- Each function reads its own latch only, so running the others first does not
-- change what it emits.
theorem publishAll_sides (env : PublishEnv) (info : BatteryInfo) (which : List (StatePair × Bool))
    (hnodup : which.Nodup) (notify : BatteryNotify) :
    (publishAll (which.map (publishSide env info)) notify).notify = setSides info which notify ∧
    (publishAll (which.map (publishSide env info)) notify).effects =
      which.flatMap (sideEffects env info notify) := by
  induction which generalizing notify with
  | nil => exact ⟨rfl, rfl⟩
  | cons head tail ih =>
      obtain ⟨hhead, htail⟩ := List.nodup_cons.mp hnodup
      obtain ⟨hn, he⟩ := ih htail (publishSide env info head notify).notify
      refine ⟨?_, ?_⟩
      · rw [publishSide_notify] at hn
        simpa only [List.map_cons, publishAll, publishSide_notify, setSides, List.foldl_cons] using hn
      · simp only [List.map_cons, publishAll, he, List.flatMap_cons, publishSide_effects]
        congr 1
        apply List.flatMap_congr
        intro other hother
        have hlatch : other.1.latch other.2 ≠ head.1.latch head.2 := by
          intro hl
          obtain ⟨hpair, hside⟩ := StatePair.latch_injective hl
          exact hhead (Prod.ext hpair hside ▸ hother)
        simp [sideEffects, publishSide_notify, BatteryNotify.setOnce, Function.update_of_ne hlatch]

theorem setSides_once (info : BatteryInfo) (notify : BatteryNotify) (pair : StatePair) (side : Bool) :
    (setSides info sides notify).once (pair.latch side) =
      (pair.holds notify.lowCapacity info == side) := by
  cases pair <;> cases side <;>
    simp [setSides, sides, BatteryNotify.setOnce, StatePair.latch, Function.update]

-- The other fields are the same before and after.
theorem setSides_frame (info : BatteryInfo) (which : List (StatePair × Bool)) (notify : BatteryNotify) :
    setSides info which notify = { notify with once := (setSides info which notify).once } := by
  induction which generalizing notify with
  | nil => rfl
  | cons head tail ih =>
      simp only [setSides, List.foldl_cons] at ih ⊢
      exact ih _

end BatteryManager
