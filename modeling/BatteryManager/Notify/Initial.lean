import BatteryManager.Notify.Lemmas

namespace BatteryManager

open Library

def Delivered (event : CommonEvent) (effects : List Effect) : Prop :=
  .PublishCommonEvent event true ∈ effects

-- The ordinary events of `info`, as the first ordinary call publishes them. The
-- uevent shows in BATTERY_CHANGED only, and is left open.
structure Announced (low : Int) (info : BatteryInfo) (effects : List Effect) : Prop where
  changed : ∃ uevent level, Delivered (changedEvent { info with uevent := uevent } .None level) effects
  inner : Delivered (changedEventInner info) effects
  pair : ∀ pair : StatePair, Delivered (pair.event (pair.holds low info) info) effects
  chargeType : info.chargeType ≠ .None → Delivered (chargeTypeChangedEvent info) effects

theorem Announced.mono {low : Int} {info : BatteryInfo} {effects later : List Effect}
    (hannounced : Announced low info effects) (hsub : effects ⊆ later) : Announced low info later where
  changed :=
    let ⟨uevent, level, hchanged⟩ := hannounced.changed
    ⟨uevent, level, hsub hchanged⟩
  inner := hsub hannounced.inner
  pair := fun pair => hsub (hannounced.pair pair)
  chargeType := fun htype => hsub (hannounced.chargeType htype)

theorem Announced.of_uevent {low : Int} {info : BatteryInfo} {effects : List Effect} {uevent : String}
    (hannounced : Announced low { info with uevent := uevent } effects) : Announced low info effects where
  changed := hannounced.changed
  inner := hannounced.inner
  pair := hannounced.pair
  chargeType := hannounced.chargeType

theorem Announced.of_publications {low : Int} {info : BatteryInfo} {effects later : List Effect}
    (hannounced : Announced low info effects)
    (hsub : ∀ wanted, publications wanted effects ⊆ publications wanted later) :
    Announced low info later := by
  have hdelivered : ∀ event, Delivered event effects → Delivered event later := by
    intro event hm
    have hall := hsub (fun _ => true) ((mem_publications (fun _ => true) _ _ _).mpr ⟨rfl, hm⟩)
    exact ((mem_publications _ _ _ _).mp hall).2
  obtain ⟨⟨uevent, level, hchanged⟩, hinner, hpair, htype⟩ := hannounced
  exact ⟨⟨uevent, level, hdelivered _ hchanged⟩, hdelivered _ hinner, fun pair => hdelivered _ (hpair pair),
    fun h => hdelivered _ (htype h)⟩

-- No ordinary call has been made yet.
structure Fresh (low : Int) (notify : BatteryNotify) : Prop where
  lowCapacity : notify.lowCapacity = low
  once : ∀ latch, notify.once latch = false
  chargeType : notify.batteryInfoChargeType = .None
  lastCapacityLevel : notify.lastCapacityLevel = .None

theorem Fresh.known {low : Int} {notify : BatteryNotify} (hfresh : Fresh low notify) :
    Fresh low notify.known :=
  ⟨hfresh.lowCapacity, hfresh.once, hfresh.chargeType, hfresh.lastCapacityLevel⟩

theorem delivered_of_publications {effects : List Effect} {event : CommonEvent}
    (wanted : CommonEvent → Bool) (hm : (event, true) ∈ publications wanted effects) :
    Delivered event effects :=
  ((mem_publications wanted effects event true).mp hm).2

theorem announced_of_fresh {low : Int} {notify : BatteryNotify} (hfresh : Fresh low notify)
    (env : PublishEnv) (hpublish : ∀ event, env.publish event = true) (info : BatteryInfo) :
    Announced low info (publishOrdinary env notify info).effects := by
  have hisChanged : isBatteryChanged (changedEvent info .None env.capacityLevel) = true := rfl
  constructor
  · refine ⟨info.uevent, env.capacityLevel, delivered_of_publications isBatteryChanged ?_⟩
    rw [publishOrdinary_batteryChanged, publishChangedEvent_publications, hfresh.lastCapacityLevel,
      if_pos hisChanged, hpublish]
    exact List.mem_singleton_self _
  · rw [Delivered, publishOrdinary_effects, hpublish]
    simp
  · intro pair
    apply delivered_of_publications pair.announces
    rw [publishOrdinary_pair]
    simp [hfresh.once, hfresh.lowCapacity, hpublish]
  · intro htype
    apply delivered_of_publications isChargeTypeChanged
    rw [publishOrdinary_chargeTypeChanged, hfresh.chargeType, if_neg (Ne.symm htype), hpublish]
    exact List.mem_singleton_self _

theorem publishOrdinary_publications_nil (env : PublishEnv) (notify : BatteryNotify)
    (info : BatteryInfo) (wanted : CommonEvent → Bool)
    (hchanged : ∀ last level, wanted (changedEvent info last level) = false)
    (hinner : wanted (changedEventInner info) = false)
    (hsides : ∀ pair side, wanted (StatePair.event pair side info) = false)
    (htype : wanted (chargeTypeChangedEvent info) = false) :
    publications wanted (publishOrdinary env notify info).effects = [] := by
  have hlast : publications wanted (chargeTypeEffects env info notify) = [] := by
    unfold chargeTypeEffects
    split <;> simp [htype]
  rw [publishOrdinary_effects]
  simp [hchanged, hinner, sides_publications_nil env info notify wanted hsides, hlast]

-- The uevent ends in an action, and the action is to send BATTERY_CHANGED.
theorem publishKnown_sendCommonEvent (env : PublishEnv) (notify : BatteryNotify) (info : BatteryInfo)
    (ueventName : String) (huevent : info.uevent = ueventName ++ "$sendcommonevent") :
    (publishKnown env notify info).effects =
      (publishChangedEvent env { info with uevent := ueventName } notify).effects := by
  have hdollar : '$' ∈ info.uevent.toList := by simp [huevent]
  have hordinary : ¬OrdinaryUevent info := by
    rintro (h | h | h) <;> rw [h] at hdollar <;> revert hdollar <;> decide
  have hsplit : rsplit '$' info.uevent = some (ueventName, SEND_COMMONEVENT) := by
    rw [huevent]
    exact rsplit_append '$' ueventName _ _ rfl (by decide)
  rw [publishKnown, if_neg hordinary, handleUevent, hsplit]
  rfl

end BatteryManager
