import BatteryManager.Notify.Edges

namespace BatteryManager

open Library

def lastAttempt (wanted : CommonEvent → Bool) (log : List Effect) : Option (CommonEvent × Bool) :=
  (publications wanted log).getLast?

def lastDelivered (wanted : CommonEvent → Bool) (log : List Effect) : Option CommonEvent :=
  ((publications wanted log).filter Prod.snd).getLast?.map Prod.fst

-- What was delivered last agrees with the report.
def DeliveredMatches (low : Int) (info : BatteryInfo) (log : List Effect) : Prop :=
  (∀ pair : StatePair, (lastDelivered pair.announces log).map CommonEvent.action =
    some (pair.action (pair.holds low info))) ∧
  ((lastDelivered isChargeTypeChanged log).map CommonEvent.code).getD (toInt32 ChargeType.None.code) =
    toInt32 info.chargeType.code

theorem lastDelivered_of_lastAttempt (wanted : CommonEvent → Bool) (log : List Effect)
    (event : CommonEvent) (hlast : lastAttempt wanted log = some (event, true)) :
    lastDelivered wanted log = some event := by
  obtain ⟨before, hsplit⟩ := List.getLast?_eq_some_iff.mp hlast
  simp [lastDelivered, hsplit]

-- A publisher succeeds when everything it published was delivered.
def Honest (outcome : Outcome) : Prop :=
  outcome.isSuccess = true ↔
    ∀ event delivered, .PublishCommonEvent event delivered ∈ outcome.effects → delivered = true

theorem honest_quiet (notify : BatteryNotify) : Honest ⟨true, notify, []⟩ := by
  simp [Honest]

theorem honest_publish (env : PublishEnv) (event : CommonEvent) (notify : BatteryNotify)
    (before : List Effect)
    (hbefore : ∀ event delivered, .PublishCommonEvent event delivered ∉ before) :
    Honest (publishCommonEvent env event notify before) := by
  constructor
  · intro hsuccess other delivered hm
    rcases List.mem_append.mp hm with hm | hm
    · exact absurd hm (hbefore other delivered)
    · cases List.mem_singleton.mp hm
      exact hsuccess
  · intro hall
    exact hall event _ (by simp [publishCommonEvent])

theorem honest_publishChanged (env : PublishEnv) (info : BatteryInfo) (notify : BatteryNotify) :
    Honest (publishChangedEvent env info notify) := by
  unfold publishChangedEvent
  dsimp only
  split <;> exact honest_publish env _ _ _ (by simp)

theorem honest_publishSide (env : PublishEnv) (info : BatteryInfo) (which : StatePair × Bool)
    (notify : BatteryNotify) : Honest (publishSide env info which notify) := by
  unfold publishSide publishOnce
  split_ifs
  · exact honest_quiet _
  · exact honest_quiet _
  · apply honest_publish
    obtain ⟨pair, side⟩ := which
    cases pair <;> cases side <;> simp [StatePair.preparation]

theorem honest_publishChargeType (env : PublishEnv) (info : BatteryInfo) (notify : BatteryNotify) :
    Honest (publishChargeTypeChangedEvent env info notify) := by
  unfold publishChargeTypeChangedEvent
  split
  · exact honest_quiet _
  · exact honest_publish env _ _ _ (by simp)

theorem honest_publishAll (publishers : List (BatteryNotify → Outcome)) (notify : BatteryNotify)
    (hall : ∀ publisher ∈ publishers, ∀ state, Honest (publisher state)) :
    Honest (publishAll publishers notify) := by
  induction publishers generalizing notify with
  | nil => exact honest_quiet notify
  | cons publisher rest ih =>
      have hfirst := hall publisher (by simp) notify
      have hrest := ih (publisher notify).notify (fun other hm => hall other (by simp [hm]))
      simp only [Honest, publishAll, Bool.and_eq_true, List.mem_append] at hfirst hrest ⊢
      rw [hfirst, hrest]
      constructor
      · rintro ⟨h, h'⟩ event delivered (hm | hm)
        · exact h event delivered hm
        · exact h' event delivered hm
      · intro h
        exact ⟨fun event delivered hm => h event delivered (.inl hm),
          fun event delivered hm => h event delivered (.inr hm)⟩

theorem publishOrdinary_code (env : PublishEnv) (notify : BatteryNotify) (info : BatteryInfo) :
    (publishOrdinary env notify info).code = .Ok ↔
      ∀ event delivered, .PublishCommonEvent event delivered ∈ (publishOrdinary env notify info).effects →
        delivered = true := by
  have hhonest : Honest (publishAll (publishers env info) notify) := by
    apply honest_publishAll
    intro publisher hm state
    rw [publishers_eq] at hm
    simp only [List.mem_cons, List.mem_append, List.mem_map, List.not_mem_nil, or_false] at hm
    rcases hm with rfl | rfl | ⟨which, _, rfl⟩ | rfl
    · exact honest_publishChanged env info state
    · exact honest_publish env _ _ _ (by simp)
    · exact honest_publishSide env info which state
    · exact honest_publishChargeType env info state
  simp only [publishOrdinary]
  rw [← show _ ↔ _ from hhonest]
  split <;> simp_all

theorem publish_ordinary_chargeType {low : Int} {history : List NotifyCall} {notify : BatteryNotify}
    {log : List Effect} (hinv : EdgeInvariant low history notify log) (call : NotifyCall)
    (hcall : ordinaryOncePresent history call = true) :
    publications isChargeTypeChanged (call.publish notify).effects =
      if notify.batteryInfoChargeType = call.info.chargeType then []
      else [(chargeTypeChangedEvent call.info, call.env.publish (chargeTypeChangedEvent call.info))] := by
  rw [publish_ordinary hinv call hcall, publishOrdinary_chargeTypeChanged]
  rfl

-- `rfl` alone would evaluate `toInt32` before it opens the event.
theorem commonEvent_code (action : String) (params : List (String × WantParam)) (code : Int)
    (permissions : List String) : (CommonEvent.mk action params code permissions).code = code := rfl

theorem chargeTypeChangedEvent_code (info : BatteryInfo) :
    (chargeTypeChangedEvent info).code = toInt32 info.chargeType.code := by
  rw [chargeTypeChangedEvent, commonEvent_code]

-- The remembered charge type is the one attempted last, delivered or not.
theorem lastAttempt_chargeType {low : Int} {history : List NotifyCall} {notify : BatteryNotify}
    {log : List Effect} (hrun : Run notifyStep { lowCapacity := low } history notify log) :
    ((lastAttempt isChargeTypeChanged log).map fun entry => entry.1.code).getD
      (toInt32 ChargeType.None.code) = toInt32 notify.batteryInfoChargeType.code := by
  induction hrun with
  | nil => simp [lastAttempt]
  | @snoc history state next log out call hrun hstep ih =>
      obtain ⟨rfl, rfl⟩ := notifyStep_eq hstep
      have hinv := edgeInvariant_run hrun
      unfold lastAttempt at ih ⊢
      cases hcall : ordinaryOncePresent history call with
      | false =>
          obtain ⟨_, _, htype, _, hquiet⟩ := publish_quiet hinv call hcall
          rw [publications_append, hquiet, List.append_nil, htype, ih]
      | true =>
          have hnext : (call.publish state).notify.batteryInfoChargeType = call.info.chargeType := by
            rw [publish_ordinary hinv call hcall, publishOrdinary_chargeType]
          rw [publications_append, publish_ordinary_chargeType hinv call hcall, hnext]
          split
          · rename_i hsame
            rw [List.append_nil, ih, hsame]
          · rw [List.getLast?_concat, Option.map_some, Option.getD_some, chargeTypeChangedEvent_code]

theorem lastAttempt_pair {low : Int} {history : List NotifyCall} {notify : BatteryNotify}
    {log : List Effect} (hinv : EdgeInvariant low history notify log) (pair : StatePair) :
    (lastAttempt pair.announces log).map (fun entry => entry.1.action) =
      (ordinaryInfos ordinaryOncePresent history).getLast?.map fun info =>
        pair.action (pair.holds low info) := by
  have hattempts := congrArg List.getLast? (hinv.attempts pair)
  rwa [getLast?_destutter_ne, List.getLast?_map, List.getLast?_map] at hattempts

-- Delivered or not, what was attempted last is not attempted again.
theorem publish_pair_again {low : Int} {history : List NotifyCall} {notify : BatteryNotify}
    {log : List Effect} (hinv : EdgeInvariant low history notify log) (call : NotifyCall)
    (hcall : ordinaryOncePresent history call = true) (pair : StatePair)
    (hsame : (lastAttempt pair.announces log).map (fun entry => entry.1.action) =
      some (pair.action (pair.holds low call.info))) :
    publications pair.announces (call.publish notify).effects = [] := by
  rw [lastAttempt_pair hinv pair] at hsame
  obtain ⟨last, hlast, haction⟩ := Option.map_eq_some_iff.mp hsame
  have hside := (StatePair.action_injective haction).2
  rw [publish_ordinary_pair hinv call hcall, hlast, Option.any_some, hside, beq_self_eq_true, if_pos rfl]

-- The error code speaks of this call's publications only. What was attempted
-- last always agrees with the report, and it is what receivers know unless that
-- very attempt was lost, since a report that agrees with it attempts nothing.
theorem publishEvents_lastAttempts (low : Int) {history : List NotifyCall} {notify : BatteryNotify}
    {log : List Effect} (hrun : Run notifyStep { lowCapacity := low } history notify log)
    (call : NotifyCall) (hcall : ordinaryOncePresent history call = true) :
    let result := call.publish notify
    let log' := log ++ result.effects
    (∀ pair : StatePair, ∃ event delivered,
      lastAttempt pair.announces log' = some (event, delivered) ∧
      event.action = pair.action (pair.holds low call.info) ∧
      (delivered = true → lastDelivered pair.announces log' = some event)) ∧
    ((lastAttempt isChargeTypeChanged log').map fun entry => entry.1.code).getD
      (toInt32 ChargeType.None.code) = toInt32 call.info.chargeType.code ∧
    (∀ event, lastAttempt isChargeTypeChanged log' = some (event, true) →
      lastDelivered isChargeTypeChanged log' = some event) ∧
    (result.code = .Ok ↔ ∀ event delivered,
      .PublishCommonEvent event delivered ∈ result.effects → delivered = true) ∧
    (∀ pair : StatePair, (lastAttempt pair.announces log).map (fun entry => entry.1.action) =
        some (pair.action (pair.holds low call.info)) →
      publications pair.announces result.effects = []) ∧
    (((ordinaryInfos ordinaryOncePresent history).getLast?.map BatteryInfo.chargeType).getD .None =
        call.info.chargeType →
      publications isChargeTypeChanged result.effects = []) := by
  have hinv := edgeInvariant_run hrun
  have hrun' : Run notifyStep { lowCapacity := low } (history ++ [call]) (call.publish notify).notify
      (log ++ (call.publish notify).effects) := .snoc call hrun rfl
  have hinfos : ordinaryInfos ordinaryOncePresent (history ++ [call]) =
      ordinaryInfos ordinaryOncePresent history ++ [call.info] := by
    simp [ordinaryInfos_concat, hcall]
  refine ⟨fun pair => ?_, ?_, fun event => lastDelivered_of_lastAttempt _ _ event, ?_,
    fun pair => publish_pair_again hinv call hcall pair, fun hsame => ?_⟩
  · have hlast := lastAttempt_pair (edgeInvariant_run hrun') pair
    rw [hinfos, List.getLast?_concat] at hlast
    obtain ⟨⟨event, delivered⟩, hattempt, haction⟩ := Option.map_eq_some_iff.mp hlast
    refine ⟨event, delivered, hattempt, haction, ?_⟩
    rintro rfl
    exact lastDelivered_of_lastAttempt _ _ event hattempt
  · have htype := lastAttempt_chargeType hrun'
    rwa [publish_ordinary hinv call hcall, publishOrdinary_chargeType,
      ← publish_ordinary hinv call hcall] at htype
  · rw [publish_ordinary hinv call hcall]
    exact publishOrdinary_code call.env notify.known call.info
  · rw [publish_ordinary_chargeType hinv call hcall, hinv.chargeType, if_pos hsame]

theorem publishEvents_lastAttempts_first :
    lastDelivered StatePair.Capacity.announces
      ((capacityCall 10 true).publish { lowCapacity := 20 }).effects =
      some (StatePair.Capacity.event true { capacity := 10 }) := by
  obtain ⟨event, delivered, hattempt, haction, hdelivered⟩ :=
    (publishEvents_lastAttempts 20 .nil (capacityCall 10 true) (by decide)).1 .Capacity
  have hlast : lastAttempt StatePair.Capacity.announces
      ((capacityCall 10 true).publish { lowCapacity := 20 }).effects =
        some (StatePair.Capacity.event true { capacity := 10 }, true) := by decide
  rw [List.nil_append, hlast] at hattempt
  cases hattempt
  exact hdelivered rfl

-- The same call when `PublishCommonEvent` fails for one action.
def NotifyCall.losing (call : NotifyCall) (action : String) : NotifyCall :=
  { call with env := { call.env with publish := fun event => event.action ≠ action } }

-- BATTERY_LOW is lost at the second report and not attempted again at the third.
theorem not_deliveredMatches_after_loss :
    ¬∀ (history : List NotifyCall) (notify : BatteryNotify) (log : List Effect) (call : NotifyCall),
      Run notifyStep { lowCapacity := 20 } history notify log →
      ordinaryWhilePresent history call = true → (call.publish notify).code = .Ok →
      DeliveredMatches 20 call.info (log ++ (call.publish notify).effects) := by
  intro hmatches
  have hrun := exec_run notifyStep { lowCapacity := 20 }
    [capacityCall 50 true, (capacityCall 10 true).losing COMMON_EVENT_BATTERY_LOW] rfl
  have hlow := (hmatches _ _ _ (capacityCall 10 true) hrun (by decide) (by decide)).1 .Capacity
  revert hlow
  decide

end BatteryManager
