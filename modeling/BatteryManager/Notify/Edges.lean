import BatteryManager.Notify.Lemmas
import BatteryManager.Library.Edge
import BatteryManager.Library.Run

namespace BatteryManager

open Library

-- One call of `publishEvents`, with the answers it gets.
structure NotifyCall where
  info : BatteryInfo
  env : PublishEnv

def NotifyCall.publish (call : NotifyCall) (notify : BatteryNotify) : PublishResult :=
  publishEvents call.env notify call.info

def notifyStep (notify : BatteryNotify) (call : NotifyCall) : Option (BatteryNotify × List Effect) :=
  some ((call.publish notify).notify, (call.publish notify).effects)

theorem notifyStep_eq {notify next : BatteryNotify} {call : NotifyCall} {out : List Effect}
    (hstep : notifyStep notify call = some (next, out)) :
    (call.publish notify).notify = next ∧ (call.publish notify).effects = out := by
  simpa [notifyStep] using hstep

-- An ordinary uevent, in a call made while the service exists.
def ordinaryWhilePresent (_ : List NotifyCall) (call : NotifyCall) : Bool :=
  call.env.serviceExists && decide (OrdinaryUevent call.info)

-- An ordinary uevent, in a call made when the service exists or existed at an
-- earlier call.
def ordinaryOncePresent (past : List NotifyCall) (call : NotifyCall) : Bool :=
  (call.env.serviceExists || past.any fun earlier => earlier.env.serviceExists) &&
    decide (OrdinaryUevent call.info)

def ordinaryInfos (ordinary : List NotifyCall → NotifyCall → Bool) (history : List NotifyCall) :
    List BatteryInfo :=
  (filterPast ordinary [] history).map NotifyCall.info

def Attempts (action : String) (effects : List Effect) : Prop :=
  ∃ event delivered, event.action = action ∧ .PublishCommonEvent event delivered ∈ effects

-- What an edge detector attempts for `info`, when `previous` is the info of the
-- ordinary call before.
def AnnouncesEdges (lowCapacity : Int) (previous : Option BatteryInfo) (info : BatteryInfo)
    (effects : List Effect) : Prop :=
  (∀ pair side, Attempts (StatePair.action pair side) effects ↔
    pair.holds lowCapacity info = side ∧
      ∀ last, previous = some last → pair.holds lowCapacity last ≠ side) ∧
  (Attempts COMMON_EVENT_CHARGE_TYPE_CHANGED effects ↔
    info.chargeType ≠ (previous.map BatteryInfo.chargeType).getD .None)

theorem attempts_pair_iff (pair : StatePair) (side : Bool) (effects : List Effect) :
    Attempts (pair.action side) effects ↔
      ∃ event delivered, event.action = pair.action side ∧
        (event, delivered) ∈ publications pair.announces effects := by
  constructor
  · rintro ⟨event, delivered, ha, hm⟩
    refine ⟨event, delivered, ha, (mem_publications _ _ _ _).mpr ⟨?_, hm⟩⟩
    cases side <;> simp [StatePair.announces, ha]
  · rintro ⟨event, delivered, ha, hm⟩
    exact ⟨event, delivered, ha, ((mem_publications _ _ _ _).mp hm).2⟩

theorem attempts_chargeType_iff (effects : List Effect) :
    Attempts COMMON_EVENT_CHARGE_TYPE_CHANGED effects ↔
      publications isChargeTypeChanged effects ≠ [] := by
  constructor
  · rintro ⟨event, delivered, ha, hm⟩ hnil
    have hmem := (mem_publications isChargeTypeChanged effects event delivered).mpr
      ⟨by simp [isChargeTypeChanged, ha], hm⟩
    simp [hnil] at hmem
  · intro hne
    obtain ⟨⟨event, delivered⟩, hm⟩ := List.exists_mem_of_ne_nil _ hne
    obtain ⟨ha, hm⟩ := (mem_publications _ _ _ _).mp hm
    exact ⟨event, delivered, by simpa [isChargeTypeChanged] using ha, hm⟩

-- The latches hold the side of the last ordinary report, and all are clear
-- before the first one. The attempts of a pair are the changes of its side.
structure EdgeInvariant (low : Int) (history : List NotifyCall) (notify : BatteryNotify)
    (log : List Effect) : Prop where
  lowCapacity : notify.lowCapacity = low
  known : notify.commonEventInitSuccess = history.any fun call => call.env.serviceExists
  once : ∀ pair side, notify.once (StatePair.latch pair side) =
    (ordinaryInfos ordinaryOncePresent history).getLast?.any fun last =>
      pair.holds low last == side
  chargeType : notify.batteryInfoChargeType =
    ((ordinaryInfos ordinaryOncePresent history).getLast?.map BatteryInfo.chargeType).getD .None
  attempts : ∀ pair : StatePair,
    (publications pair.announces log).map (fun entry => entry.1.action) =
      ((ordinaryInfos ordinaryOncePresent history).map fun info =>
        pair.action (pair.holds low info)).destutter (· ≠ ·)

theorem ordinaryInfos_concat (ordinary : List NotifyCall → NotifyCall → Bool)
    (history : List NotifyCall) (call : NotifyCall) :
    ordinaryInfos ordinary (history ++ [call]) =
      ordinaryInfos ordinary history ++ if ordinary history call then [call.info] else [] := by
  unfold ordinaryInfos
  rw [filterPast_concat, List.map_append, List.nil_append]
  split <;> rfl

theorem ordinaryInfos_all {history : List NotifyCall}
    (hall : ∀ call ∈ history, call.env.serviceExists = true ∧ OrdinaryUevent call.info) :
    ordinaryInfos ordinaryOncePresent history = history.map NotifyCall.info := by
  induction history using List.reverseRecOn with
  | nil => rfl
  | append_singleton before call ih =>
      obtain ⟨hexists, hordinary⟩ := hall call (by simp)
      have hbefore := ih fun earlier hearlier => hall earlier (by simp [hearlier])
      rw [ordinaryInfos_concat, hbefore]
      simp [ordinaryOncePresent, hexists, hordinary]

theorem edgeInvariant_start (low : Int) : EdgeInvariant low [] { lowCapacity := low } [] where
  lowCapacity := rfl
  known := rfl
  once := fun _ _ => rfl
  chargeType := rfl
  attempts := fun _ => rfl

-- A call that is not ordinary keeps the latches and attempts none of the events.
theorem publish_quiet {low : Int} {history : List NotifyCall} {notify : BatteryNotify}
    {log : List Effect} (hinv : EdgeInvariant low history notify log) (call : NotifyCall)
    (hcall : ordinaryOncePresent history call = false) :
    (call.publish notify).notify.lowCapacity = notify.lowCapacity ∧
    (call.publish notify).notify.once = notify.once ∧
    (call.publish notify).notify.batteryInfoChargeType = notify.batteryInfoChargeType ∧
    (∀ pair : StatePair, publications pair.announces (call.publish notify).effects = []) ∧
    publications isChargeTypeChanged (call.publish notify).effects = [] := by
  unfold NotifyCall.publish
  rw [publishEvents_eq]
  split
  · rename_i hgate
    have hspecial : ¬OrdinaryUevent call.info := by
      rw [hinv.known, Bool.or_comm] at hgate
      intro hordinary
      simp [ordinaryOncePresent, hgate, hordinary] at hcall
    simp only [publishKnown, hspecial, if_false]
    rcases handleUevent_cases call.env notify.known call.info with ⟨hn, he⟩ | ⟨name, _, hn, he⟩
    · rw [hn]
      exact ⟨rfl, rfl, rfl, fun pair => he _ pair.noCustom, he _ noCustom_chargeTypeChanged⟩
    · rw [hn]
      refine ⟨by simp [BatteryNotify.known], by simp [BatteryNotify.known],
        by simp [BatteryNotify.known], fun pair => ?_, ?_⟩
      · rw [he, publishChangedEvent_publications]
        cases pair <;> rfl
      · rw [he, publishChangedEvent_publications]
        rfl
  · exact ⟨rfl, rfl, rfl, fun _ => rfl, rfl⟩

theorem publish_ordinary {low : Int} {history : List NotifyCall} {notify : BatteryNotify}
    {log : List Effect} (hinv : EdgeInvariant low history notify log) (call : NotifyCall)
    (hcall : ordinaryOncePresent history call = true) :
    call.publish notify = publishOrdinary call.env notify.known call.info := by
  simp only [ordinaryOncePresent, Bool.and_eq_true, decide_eq_true_eq] at hcall
  have hgate : (notify.commonEventInitSuccess || call.env.serviceExists) = true := by
    rw [hinv.known, Bool.or_comm]
    exact hcall.1
  simp [NotifyCall.publish, publishEvents_eq, hgate, publishKnown, hcall.2]

theorem publish_known (call : NotifyCall) (notify : BatteryNotify) :
    (call.publish notify).notify.commonEventInitSuccess =
      (notify.commonEventInitSuccess || call.env.serviceExists) := by
  unfold NotifyCall.publish
  rw [publishEvents_eq]
  split
  · rename_i hgate
    rw [hgate]
    unfold publishKnown
    split
    · simp [BatteryNotify.known]
    · rcases handleUevent_cases call.env notify.known call.info with ⟨hn, _⟩ | ⟨name, _, hn, _⟩
      · rw [hn]
        rfl
      · rw [hn]
        simp [BatteryNotify.known]
  · rename_i hgate
    simp only [Bool.not_eq_true] at hgate
    rw [hgate]
    simp only [Bool.or_eq_false_iff] at hgate
    exact hgate.1

-- The pair's publications of an ordinary call, in terms of the report before.
theorem publish_ordinary_pair {low : Int} {history : List NotifyCall} {notify : BatteryNotify}
    {log : List Effect} (hinv : EdgeInvariant low history notify log) (call : NotifyCall)
    (hcall : ordinaryOncePresent history call = true) (pair : StatePair) :
    publications pair.announces (call.publish notify).effects =
      if (ordinaryInfos ordinaryOncePresent history).getLast?.any fun last =>
          pair.holds low last == pair.holds low call.info then []
      else [(pair.event (pair.holds low call.info) call.info,
        call.env.publish (pair.event (pair.holds low call.info) call.info))] := by
  rw [publish_ordinary hinv call hcall, publishOrdinary_pair]
  have honce := hinv.once pair (pair.holds low call.info)
  have hlow : notify.known.lowCapacity = low := hinv.lowCapacity
  have hknown : notify.known.once = notify.once := rfl
  simp only [hlow, hknown, honce]

theorem edgeInvariant_known {low : Int} {history : List NotifyCall} {notify : BatteryNotify}
    {log : List Effect} (hinv : EdgeInvariant low history notify log) (call : NotifyCall) :
    (call.publish notify).notify.commonEventInitSuccess =
      (history ++ [call]).any fun call => call.env.serviceExists := by
  rw [publish_known, hinv.known]
  simp

theorem edgeInvariant_quiet {low : Int} {history : List NotifyCall} {notify : BatteryNotify}
    {log : List Effect} (hinv : EdgeInvariant low history notify log) (call : NotifyCall)
    (hcall : ordinaryOncePresent history call = false) :
    EdgeInvariant low (history ++ [call]) (call.publish notify).notify
      (log ++ (call.publish notify).effects) := by
  obtain ⟨hlow, honce, htype, hpair, _⟩ := publish_quiet hinv call hcall
  have hinfos : ordinaryInfos ordinaryOncePresent (history ++ [call]) =
      ordinaryInfos ordinaryOncePresent history := by
    simp [ordinaryInfos_concat, hcall]
  constructor
  · rw [hlow, hinv.lowCapacity]
  · exact edgeInvariant_known hinv call
  · rw [honce, hinfos]
    exact hinv.once
  · rw [htype, hinfos]
    exact hinv.chargeType
  · intro pair
    rw [publications_append, hpair, List.append_nil, hinfos]
    exact hinv.attempts pair

theorem edgeInvariant_ordinary {low : Int} {history : List NotifyCall} {notify : BatteryNotify}
    {log : List Effect} (hinv : EdgeInvariant low history notify log) (call : NotifyCall)
    (hcall : ordinaryOncePresent history call = true) :
    EdgeInvariant low (history ++ [call]) (call.publish notify).notify
      (log ++ (call.publish notify).effects) := by
  have hinfos : ordinaryInfos ordinaryOncePresent (history ++ [call]) =
      ordinaryInfos ordinaryOncePresent history ++ [call.info] := by
    simp [ordinaryInfos_concat, hcall]
  have hlow : notify.known.lowCapacity = low := hinv.lowCapacity
  constructor
  · rw [publish_ordinary hinv call hcall, publishOrdinary_lowCapacity, hlow]
  · exact edgeInvariant_known hinv call
  · intro pair side
    rw [publish_ordinary hinv call hcall, publishOrdinary_once, hinfos, hlow]
    simp
  · rw [publish_ordinary hinv call hcall, publishOrdinary_chargeType, hinfos]
    simp
  · intro pair
    rw [publications_append, List.map_append, hinv.attempts pair,
      publish_ordinary_pair hinv call hcall, hinfos, List.map_append, List.map_singleton,
      destutter_concat_ne, List.getLast?_map]
    congr 1
    cases hlast : (ordinaryInfos ordinaryOncePresent history).getLast? with
    | none => simp [StatePair.event]
    | some last =>
        by_cases hside : pair.holds low last = pair.holds low call.info
        · simp [hside]
        · have haction : pair.action (pair.holds low last) ≠
              pair.action (pair.holds low call.info) :=
            fun h => hside (StatePair.action_injective h).2
          simp [hside, haction, StatePair.event]

theorem edgeInvariant_step {low : Int} {history : List NotifyCall} {notify : BatteryNotify}
    {log : List Effect} (hinv : EdgeInvariant low history notify log) (call : NotifyCall) :
    EdgeInvariant low (history ++ [call]) (call.publish notify).notify
      (log ++ (call.publish notify).effects) := by
  cases hcall : ordinaryOncePresent history call with
  | false => exact edgeInvariant_quiet hinv call hcall
  | true => exact edgeInvariant_ordinary hinv call hcall

theorem edgeInvariant_run {low : Int} {history : List NotifyCall} {notify : BatteryNotify}
    {log : List Effect} (hrun : Run notifyStep { lowCapacity := low } history notify log) :
    EdgeInvariant low history notify log := by
  refine hrun.history_invariant (EdgeInvariant low) (edgeInvariant_start low) ?_
  intro history state log call next out _ hinv hstep
  obtain ⟨rfl, rfl⟩ := notifyStep_eq hstep
  exact edgeInvariant_step hinv call

theorem announcesEdges_of_invariant {low : Int} {history : List NotifyCall} {notify : BatteryNotify}
    {log : List Effect} (hinv : EdgeInvariant low history notify log) (call : NotifyCall)
    (hcall : ordinaryOncePresent history call = true) :
    AnnouncesEdges low (ordinaryInfos ordinaryOncePresent history).getLast? call.info
      (call.publish notify).effects := by
  constructor
  · intro pair side
    rw [attempts_pair_iff, publish_ordinary_pair hinv call hcall]
    cases hlast : (ordinaryInfos ordinaryOncePresent history).getLast? with
    | none =>
        simp only [Option.any_none, Bool.false_eq_true, if_false, List.mem_singleton, reduceCtorEq,
          false_implies, implies_true, and_true]
        constructor
        · rintro ⟨event, delivered, ha, he⟩
          cases he
          exact (StatePair.action_injective ha).2
        · rintro rfl
          exact ⟨_, _, rfl, rfl⟩
    | some last =>
        simp only [Option.any_some, beq_iff_eq, Option.some.injEq, forall_eq']
        by_cases hsame : pair.holds low last = pair.holds low call.info
        · simp [hsame]
        · simp only [hsame, if_false, List.mem_singleton]
          constructor
          · rintro ⟨event, delivered, ha, he⟩
            cases he
            obtain ⟨-, rfl⟩ := StatePair.action_injective ha
            exact ⟨rfl, hsame⟩
          · rintro ⟨rfl, -⟩
            exact ⟨_, _, rfl, rfl⟩
  · have htype : notify.known.batteryInfoChargeType = notify.batteryInfoChargeType := rfl
    rw [attempts_chargeType_iff, publish_ordinary hinv call hcall, publishOrdinary_chargeTypeChanged,
      htype, hinv.chargeType]
    by_cases hsame : ((ordinaryInfos ordinaryOncePresent history).getLast?.map
        BatteryInfo.chargeType).getD .None = call.info.chargeType
    · simp [hsame]
    · simp [hsame, Ne.symm hsame]

-- The service counts as present from the first call that found it, because
-- later calls no longer look it up.
theorem publishEvents_edgeDetector (low : Int) {history : List NotifyCall} {notify : BatteryNotify}
    {log : List Effect} (hrun : Run notifyStep { lowCapacity := low } history notify log) :
    (∀ call, ordinaryOncePresent history call = true →
      AnnouncesEdges low (ordinaryInfos ordinaryOncePresent history).getLast? call.info
        (call.publish notify).effects ∧
      (ordinaryInfos ordinaryOncePresent history = [] →
        ∀ pair : StatePair, ∃! side, Attempts (pair.action side) (call.publish notify).effects)) ∧
    (∀ call, ordinaryOncePresent history call = false →
      (∀ pair side, ¬Attempts (StatePair.action pair side) (call.publish notify).effects) ∧
      ¬Attempts COMMON_EVENT_CHARGE_TYPE_CHANGED (call.publish notify).effects) ∧
    ∀ pair : StatePair,
      ((publications pair.announces log).map fun entry => entry.1.action).IsChain (· ≠ ·) := by
  have hinv := edgeInvariant_run hrun
  refine ⟨fun call hcall => ?_, fun call hcall => ?_, fun pair => ?_⟩
  · have hedges := announcesEdges_of_invariant hinv call hcall
    refine ⟨hedges, fun hfirst pair => ⟨pair.holds low call.info, ?_, fun side hside => ?_⟩⟩
    · exact (hedges.1 pair _).mpr ⟨rfl, by simp [hfirst]⟩
    · exact ((hedges.1 pair side).mp hside).1.symm
  · obtain ⟨_, _, _, hpair, htype⟩ := publish_quiet hinv call hcall
    refine ⟨fun pair side hattempt => ?_, fun hattempt => ?_⟩
    · obtain ⟨event, delivered, _, hm⟩ := (attempts_pair_iff pair side _).mp hattempt
      simp [hpair pair] at hm
    · exact (attempts_chargeType_iff _).mp hattempt htype
  · rw [hinv.attempts pair]
    exact List.isChain_destutter _ _

-- A report of the capacity alone, with every publication delivered.
def capacityCall (capacity : Int) (serviceExists : Bool) : NotifyCall where
  info := { capacity := capacity }
  env := {
    serviceExists := serviceExists
    publish := fun _ => true
    capacityLevel := .None
    ueventCheck := fun _ => true }

theorem publishEvents_edgeDetector_falling :
    Attempts COMMON_EVENT_BATTERY_LOW
      ((capacityCall 10 true).publish ((capacityCall 50 true).publish { lowCapacity := 20 }).notify).effects := by
  have hrun := exec_run notifyStep { lowCapacity := 20 } [capacityCall 50 true] rfl
  have hedges := (publishEvents_edgeDetector 20 hrun).1 (capacityCall 10 true) (by decide)
  refine (hedges.1.1 .Capacity true).mpr ⟨by decide, ?_⟩
  intro last hlast
  cases hlast
  decide

-- The service goes away after the first call. The second call still passes the
-- gate and uses up the latch, so the third attempts nothing.
theorem not_edgeDetector_whilePresent :
    ¬∀ (history : List NotifyCall) (notify : BatteryNotify) (log : List Effect) (call : NotifyCall),
      Run notifyStep { lowCapacity := 20 } history notify log →
      ordinaryWhilePresent history call = true →
      AnnouncesEdges 20 (ordinaryInfos ordinaryWhilePresent history).getLast? call.info
        (call.publish notify).effects := by
  intro hedges
  have hrun := exec_run notifyStep { lowCapacity := 20 } [capacityCall 50 true, capacityCall 10 false] rfl
  have hlow : Attempts COMMON_EVENT_BATTERY_LOW
      ((capacityCall 10 true).publish ((capacityCall 10 false).publish
        ((capacityCall 50 true).publish { lowCapacity := 20 }).notify).notify).effects := by
    refine ((hedges _ _ _ (capacityCall 10 true) hrun (by decide)).1 .Capacity true).mpr ⟨by decide, ?_⟩
    intro last hlast
    cases hlast
    decide
  obtain ⟨event, delivered, _, hm⟩ := (attempts_pair_iff .Capacity true _).mp hlow
  have hnil : publications StatePair.Capacity.announces
      ((capacityCall 10 true).publish ((capacityCall 10 false).publish
        ((capacityCall 50 true).publish { lowCapacity := 20 }).notify).notify).effects = [] := by decide
  rw [hnil] at hm
  cases hm

end BatteryManager
