import BatteryManager.Lifecycle

namespace BatteryManager

open Library

namespace Lifecycle

-- A stopped service has left nothing behind.
structure Clean (service : Lifecycle) : Prop where
  registered : service.registered = ∅
  iBatteryInterface : service.iBatteryInterface = false
  callbackHeld : service.callbackHeld = false

structure Sound (service : Lifecycle) : Prop where
  single : service.registered.card ≤ 1
  clean : service.stopped = true → service.Clean

-- A listener may be added: there is none yet, and the service is not stopped.
def Admits (service : Lifecycle) : Prop := service.registered = ∅ ∧ service.stopped = false

-- `OnStop` knows of everything that it has to undo.
structure Owns (service : Lifecycle) : Prop where
  listener : ∀ listener ∈ service.registered,
    service.hdiServiceMgr = true ∧ service.hdiServStatListener = some listener
  callback : service.callbackHeld = true → service.iBatteryInterface = true

-- The condition on a step. The other steps are free.
def Meets (service : Lifecycle) : LifecycleLabel → Prop
  | .OnStart .Registered _ => service.ready = false → service.registered = ∅
  | .OnStop => service.ready = true → service.Owns
  | .StartTask available _ => 0 < service.startTasks → service.stopped = true → available = false
  | .RetryTask .Registered => 0 < service.retryTasks → service.Admits
  | .AddDeviceManager .Registered =>
      service.listensForAbilities = true → service.isHdiRemove = true → service.Admits
  | _ => True

-- Listeners are numbered in order.
def Numbered (service : Lifecycle) : Prop := ∀ listener ∈ service.registered, listener < service.created

-- What `Sound` looks at.
theorem Sound.congr (service other : Lifecycle) (hregistered : other.registered = service.registered)
    (hinterface : other.iBatteryInterface = service.iBatteryInterface)
    (hcallback : other.callbackHeld = service.callbackHeld) (hstopped : other.stopped = service.stopped) :
    other.Sound ↔ service.Sound := by
  constructor
  · rintro ⟨hsingle, hclean⟩
    rw [hregistered] at hsingle
    refine ⟨hsingle, fun hs => ?_⟩
    obtain ⟨hnone, hnull, hfree⟩ := hclean (hstopped.trans hs)
    exact ⟨hregistered.symm.trans hnone, hinterface.symm.trans hnull, hcallback.symm.trans hfree⟩
  · rintro ⟨hsingle, hclean⟩
    rw [← hregistered] at hsingle
    refine ⟨hsingle, fun hs => ?_⟩
    obtain ⟨hnone, hnull, hfree⟩ := hclean (hstopped.symm.trans hs)
    exact ⟨hregistered.trans hnone, hinterface.trans hnull, hcallback.trans hfree⟩

section Register

variable {service : Lifecycle} {answer : ListenerAnswer}

theorem Numbered.registerHdiStatusListener (hnumbered : service.Numbered) (answer : ListenerAnswer) :
    (service.registerHdiStatusListener answer).Numbered := by
  cases answer with
  | NoManager => exact hnumbered
  | Refused => exact fun listener hm => Nat.lt_succ_of_lt (hnumbered listener hm)
  | Registered =>
      intro listener hm
      rcases Finset.mem_insert.mp hm with rfl | hm
      · exact Nat.lt_succ_self _
      · exact Nat.lt_succ_of_lt (hnumbered listener hm)

@[simp] theorem registerHdiStatusListener_stopped :
    (service.registerHdiStatusListener answer).stopped = service.stopped := by
  cases answer <;> rfl

-- Only a registration that is accepted matters.
theorem sound_registerHdiStatusListener (hanswer : answer ≠ .Registered) (hsound : service.Sound) :
    (service.registerHdiStatusListener answer).Sound := by
  cases answer with
  | NoManager =>
      exact (Sound.congr service (service.registerHdiStatusListener .NoManager) rfl rfl rfl rfl).mpr hsound
  | Refused =>
      exact (Sound.congr service (service.registerHdiStatusListener .Refused) rfl rfl rfl rfl).mpr hsound
  | Registered => exact absurd rfl hanswer

-- A new listener is the only one exactly when there was none before.
theorem sound_registered_iff (service : Lifecycle) (hnumbered : service.Numbered) :
    (service.registerHdiStatusListener .Registered).Sound ↔ service.Admits := by
  have hfresh : service.created ∉ service.registered :=
    fun hm => Nat.lt_irrefl _ (hnumbered service.created hm)
  have hcard : (service.registerHdiStatusListener .Registered).registered.card =
      service.registered.card + 1 := Finset.card_insert_of_notMem hfresh
  constructor
  · rintro ⟨hsingle, hclean⟩
    rw [hcard] at hsingle
    refine ⟨Finset.card_eq_zero.mp (by omega), ?_⟩
    cases hstopped : service.stopped with
    | false => rfl
    | true =>
        have hnone := (hclean hstopped).registered
        exact absurd hnone (Finset.insert_ne_empty _ _)
  · rintro ⟨hnone, hstopped⟩
    refine ⟨by rw [hcard, hnone, Finset.card_empty], fun hs => ?_⟩
    rw [registerHdiStatusListener_stopped, hstopped] at hs
    cases hs

end Register

section Stop

variable (service : Lifecycle)

@[simp] theorem unRegister_registered : service.unRegister.registered = service.registered := by
  unfold unRegister
  split <;> rfl

@[simp] theorem unRegister_hdiServiceMgr : service.unRegister.hdiServiceMgr = service.hdiServiceMgr := by
  unfold unRegister
  split <;> rfl

@[simp] theorem unRegister_hdiServStatListener :
    service.unRegister.hdiServStatListener = service.hdiServStatListener := by
  unfold unRegister
  split <;> rfl

@[simp] theorem unRegister_stopped : service.unRegister.stopped = service.stopped := by
  unfold unRegister
  split <;> rfl

@[simp] theorem unRegister_created : service.unRegister.created = service.created := by
  unfold unRegister
  split <;> rfl

@[simp] theorem unRegister_iBatteryInterface : service.unRegister.iBatteryInterface = false := by
  unfold unRegister
  split
  · rfl
  · rename_i hnull
    exact Bool.eq_false_iff.mpr hnull

@[simp] theorem unRegister_callbackHeld :
    service.unRegister.callbackHeld = (service.callbackHeld && !service.iBatteryInterface) := by
  unfold unRegister
  split <;> simp_all

@[simp] theorem mem_unregisterServiceStatusListener (listener : Nat) :
    listener ∈ service.unregisterServiceStatusListener.registered ↔ listener ∈ service.registered ∧
      (service.hdiServiceMgr = true → service.hdiServStatListener ≠ some listener) := by
  unfold unregisterServiceStatusListener
  split
  · rename_i hmanager
    simp [hmanager, eq_comm]
  · rename_i hnull
    simp [hnull]

@[simp] theorem unregisterServiceStatusListener_stopped :
    service.unregisterServiceStatusListener.stopped = service.stopped := by
  unfold unregisterServiceStatusListener
  split <;> rfl

@[simp] theorem unregisterServiceStatusListener_created :
    service.unregisterServiceStatusListener.created = service.created := by
  unfold unregisterServiceStatusListener
  split <;> rfl

@[simp] theorem unregisterServiceStatusListener_iBatteryInterface :
    service.unregisterServiceStatusListener.iBatteryInterface = service.iBatteryInterface := by
  unfold unregisterServiceStatusListener
  split <;> rfl

@[simp] theorem unregisterServiceStatusListener_callbackHeld :
    service.unregisterServiceStatusListener.callbackHeld = service.callbackHeld := by
  unfold unregisterServiceStatusListener
  split <;> rfl

end Stop

section Steps

variable {service : Lifecycle}

theorem sound_onStart_iff (hnumbered : service.Numbered) (hsound : service.Sound)
    (answer : ListenerAnswer) (published : Bool) :
    (service.onStart answer published).Sound ↔ service.Meets (.OnStart answer published) := by
  cases hready : service.ready with
  | true =>
      have hsame : service.onStart answer published = service := if_pos hready
      rw [hsame]
      refine iff_of_true hsound ?_
      cases answer <;> simp [Meets, hready]
  | false =>
      let started := { service with stopped := false }
      have hregister : (service.onStart answer published).Sound ↔
          (started.registerHdiStatusListener answer).Sound := by
        unfold onStart
        rw [if_neg (by simp [hready])]
        cases published <;> exact Sound.congr _ _ rfl rfl rfl rfl
      have hstarted : started.Sound := ⟨hsound.single, fun hs => Bool.noConfusion hs⟩
      rw [hregister]
      cases answer with
      | NoManager => exact iff_of_true (sound_registerHdiStatusListener (by decide) hstarted) trivial
      | Refused => exact iff_of_true (sound_registerHdiStatusListener (by decide) hstarted) trivial
      | Registered =>
          have hadmits : started.Admits ↔ service.registered = ∅ := and_iff_left rfl
          rw [sound_registered_iff started hnumbered, hadmits]
          simp [Meets, hready]

theorem sound_onStop_iff (hsound : service.Sound) : service.onStop.Sound ↔ service.Meets .OnStop := by
  cases hready : service.ready with
  | false =>
      have hsame : service.onStop = service := if_neg (by simp [hready])
      rw [hsame]
      refine iff_of_true hsound ?_
      simp [Meets, hready]
  | true =>
      have hmeets : service.Meets .OnStop ↔ service.Owns := by simp [Meets, hready]
      rw [hmeets]
      let stopping := { service with ready := false, stopped := true }
      have hstop : service.onStop = stopping.unRegister.unregisterServiceStatusListener := if_pos hready
      have hclean : service.onStop.Sound ↔ service.onStop.Clean := by
        refine ⟨fun h => h.clean (by simp [hstop, stopping]), fun h => ⟨?_, fun _ => h⟩⟩
        rw [h.registered, Finset.card_empty]
        exact Nat.zero_le 1
      rw [hclean]
      constructor
      · rintro ⟨hnone, -, hfree⟩
        refine ⟨fun listener hm => ?_, fun hheld => ?_⟩
        · have hgone : listener ∉ service.onStop.registered := by simp [hnone]
          simp only [hstop, mem_unregisterServiceStatusListener, unRegister_hdiServiceMgr,
            unRegister_hdiServStatListener, unRegister_registered, stopping, hm, true_and] at hgone
          by_contra howned
          exact hgone fun hmanager heq => howned ⟨hmanager, heq⟩
        · by_contra hnull
          simp [hstop, stopping, hheld, hnull] at hfree
      · rintro ⟨hlistener, hcallback⟩
        refine ⟨?_, by simp [hstop], ?_⟩
        · apply Finset.eq_empty_of_forall_notMem
          intro listener hm
          simp only [hstop, mem_unregisterServiceStatusListener, unRegister_hdiServiceMgr,
            unRegister_hdiServStatListener, unRegister_registered, stopping] at hm
          obtain ⟨hmanager, heq⟩ := hlistener listener hm.1
          exact hm.2 hmanager heq
        · simp only [hstop, unregisterServiceStatusListener_callbackHeld, unRegister_callbackHeld, stopping]
          cases hheld : service.callbackHeld with
          | false => rfl
          | true => simp [hcallback hheld]

-- A notification that the HDI stops cleans up what it can.
theorem sound_hdiStop (hsound : service.Sound) (forgets : Bool) :
    ({ service with callbackHeld := service.callbackHeld && !forgets }.unRegister).Sound := by
  refine ⟨?_, fun hs => ?_⟩
  · rw [unRegister_registered]
    exact hsound.single
  · rw [unRegister_stopped] at hs
    obtain ⟨hnone, hnull, hfree⟩ := hsound.clean hs
    exact ⟨by simpa using hnone, by simp, by simp [hfree]⟩

theorem sound_registerBatteryHdiCallback_iff (hsound : service.Sound) (available accepted : Bool) :
    (service.registerBatteryHdiCallback available accepted).Sound ↔
      (service.stopped = true → available = false) := by
  cases hstopped : service.stopped with
  | false =>
      refine iff_of_true ⟨?_, fun hs => ?_⟩ (fun hs => Bool.noConfusion hs)
      · unfold registerBatteryHdiCallback
        dsimp only
        split <;> exact hsound.single
      · unfold registerBatteryHdiCallback at hs
        dsimp only at hs
        split at hs <;> exact Bool.noConfusion (hstopped.symm.trans hs)
  | true =>
      obtain ⟨hnone, hnull, hfree⟩ := hsound.clean hstopped
      cases available with
      | false =>
          have hsame : service.registerBatteryHdiCallback false accepted = service := by
            simp [registerBatteryHdiCallback, hnull]
            rw [← hnull]
          rw [hsame]
          exact iff_of_true hsound fun _ => rfl
      | true =>
          refine iff_of_false ?_ (by simp)
          rintro ⟨-, hclean⟩
          have hnull := (hclean (by simp [registerBatteryHdiCallback, hstopped])).iBatteryInterface
          simp [registerBatteryHdiCallback] at hnull

theorem sound_onRemoveSystemAbility (hsound : service.Sound) : service.onRemoveSystemAbility.Sound := by
  unfold onRemoveSystemAbility
  dsimp only
  split
  · exact ⟨by simp, fun hs => ⟨rfl, rfl, (hsound.clean hs).callbackHeld⟩⟩
  · exact ⟨by simp, fun hs => ⟨rfl, (hsound.clean hs).iBatteryInterface, (hsound.clean hs).callbackHeld⟩⟩

theorem sound_onAddSystemAbility_iff (hnumbered : service.Numbered) (hsound : service.Sound)
    (answer : ListenerAnswer) :
    (service.onAddSystemAbility answer).Sound ↔ service.Meets (.AddDeviceManager answer) := by
  by_cases hlistens : service.listensForAbilities = true ∧ service.isHdiRemove = true
  · have hregister : (service.onAddSystemAbility answer).Sound ↔
        (service.registerHdiStatusListener answer).Sound := by
      unfold onAddSystemAbility
      rw [if_pos (by simp [hlistens])]
      exact Sound.congr _ _ rfl rfl rfl rfl
    rw [hregister]
    cases answer with
    | NoManager => exact iff_of_true (sound_registerHdiStatusListener (by decide) hsound) trivial
    | Refused => exact iff_of_true (sound_registerHdiStatusListener (by decide) hsound) trivial
    | Registered =>
        rw [sound_registered_iff service hnumbered]
        simp [Meets, hlistens]
  · have hsame : service.onAddSystemAbility answer = service := if_neg (by simpa using hlistens)
    rw [hsame]
    refine iff_of_true hsound ?_
    cases answer with
    | NoManager => trivial
    | Refused => trivial
    | Registered => exact fun hl hr => absurd ⟨hl, hr⟩ hlistens

end Steps

-- Which steps can be taken, and where they lead.
def Enabled (service : Lifecycle) : LifecycleLabel → Prop
  | .HdiStart listener => listener ∈ service.registered
  | .HdiStop listener _ => listener ∈ service.registered
  | .StartTask _ _ => 0 < service.startTasks
  | .RetryTask _ => 0 < service.retryTasks
  | _ => True

def after (service : Lifecycle) : LifecycleLabel → Lifecycle
  | .OnStart answer published => service.onStart answer published
  | .OnStop => service.onStop
  | .HdiStart _ => { service with startTasks := service.startTasks + 1 }
  | .HdiStop _ forgets => { service with callbackHeld := service.callbackHeld && !forgets }.unRegister
  | .StartTask available accepted =>
      { service with startTasks := service.startTasks - 1 }.registerBatteryHdiCallback available accepted
  | .RetryTask answer => { service with retryTasks := service.retryTasks - 1 }.registerHdiStatusListener answer
  | .RemoveDeviceManager => service.onRemoveSystemAbility
  | .AddDeviceManager answer => service.onAddSystemAbility answer

theorem lifecycleStep_enabled {service : Lifecycle} {label : LifecycleLabel}
    (henabled : service.Enabled label) : lifecycleStep service label = some (service.after label, []) := by
  cases label with
  | HdiStart listener => exact if_pos henabled
  | HdiStop listener forgets => exact if_pos henabled
  | StartTask available accepted => exact if_pos henabled
  | RetryTask answer => exact if_pos henabled
  | _ => rfl

theorem lifecycleStep_disabled {service : Lifecycle} {label : LifecycleLabel}
    (hdisabled : ¬service.Enabled label) : lifecycleStep service label = none := by
  cases label with
  | HdiStart listener => exact if_neg hdisabled
  | HdiStop listener forgets => exact if_neg hdisabled
  | StartTask available accepted => exact if_neg hdisabled
  | RetryTask answer => exact if_neg hdisabled
  | _ => exact absurd trivial hdisabled

theorem lifecycleStep_some {service next : Lifecycle} {label : LifecycleLabel} {out : List Effect}
    (hstep : lifecycleStep service label = some (next, out)) :
    service.Enabled label ∧ service.after label = next := by
  by_cases henabled : service.Enabled label
  · rw [lifecycleStep_enabled henabled] at hstep
    exact ⟨henabled, congrArg Prod.fst (Option.some.inj hstep)⟩
  · rw [lifecycleStep_disabled henabled] at hstep
    cases hstep

namespace Numbered

variable {service : Lifecycle} (hnumbered : service.Numbered)
include hnumbered

theorem onStart (answer : ListenerAnswer) (published : Bool) :
    (service.onStart answer published).Numbered := by
  unfold Lifecycle.onStart
  split
  · exact hnumbered
  · let started := { service with stopped := false }
    have hstarted : started.Numbered := hnumbered
    cases published <;> exact hstarted.registerHdiStatusListener answer

theorem onStop : service.onStop.Numbered := by
  unfold Lifecycle.onStop
  split
  · intro listener hm
    simp only [mem_unregisterServiceStatusListener, unRegister_registered] at hm
    simpa using hnumbered listener hm.1
  · exact hnumbered

theorem unRegister : service.unRegister.Numbered := by
  intro listener hm
  rw [unRegister_registered] at hm
  simpa using hnumbered listener hm

theorem registerBatteryHdiCallback (available accepted : Bool) :
    (service.registerBatteryHdiCallback available accepted).Numbered := by
  unfold Lifecycle.registerBatteryHdiCallback
  dsimp only
  split <;> exact hnumbered

omit hnumbered in
theorem onRemoveSystemAbility : service.onRemoveSystemAbility.Numbered := by
  unfold Lifecycle.onRemoveSystemAbility
  dsimp only
  split <;> simp [Numbered]

theorem onAddSystemAbility (answer : ListenerAnswer) : (service.onAddSystemAbility answer).Numbered := by
  unfold Lifecycle.onAddSystemAbility
  split
  · exact hnumbered.registerHdiStatusListener answer
  · exact hnumbered

theorem after (label : LifecycleLabel) : (service.after label).Numbered := by
  cases label with
  | OnStart answer published => exact hnumbered.onStart answer published
  | OnStop => exact hnumbered.onStop
  | HdiStart listener => exact hnumbered
  | HdiStop listener forgets =>
      let told := { service with callbackHeld := service.callbackHeld && !forgets }
      have htold : told.Numbered := hnumbered
      exact htold.unRegister
  | StartTask available accepted =>
      let taken := { service with startTasks := service.startTasks - 1 }
      have htaken : taken.Numbered := hnumbered
      exact htaken.registerBatteryHdiCallback available accepted
  | RetryTask answer =>
      let taken := { service with retryTasks := service.retryTasks - 1 }
      have htaken : taken.Numbered := hnumbered
      exact htaken.registerHdiStatusListener answer
  | RemoveDeviceManager => exact onRemoveSystemAbility
  | AddDeviceManager answer => exact hnumbered.onAddSystemAbility answer

end Numbered

-- The condition on a step is the exact one.
theorem sound_after_iff {service : Lifecycle} {label : LifecycleLabel} (hnumbered : service.Numbered)
    (hsound : service.Sound) (henabled : service.Enabled label) :
    (service.after label).Sound ↔ service.Meets label := by
  cases label with
  | OnStart answer published => exact sound_onStart_iff hnumbered hsound answer published
  | OnStop => exact sound_onStop_iff hsound
  | HdiStart listener =>
      let queued := { service with startTasks := service.startTasks + 1 }
      have hqueued : queued.Sound := (Sound.congr service queued rfl rfl rfl rfl).mpr hsound
      exact iff_of_true hqueued trivial
  | HdiStop listener forgets => exact iff_of_true (sound_hdiStop hsound forgets) trivial
  | StartTask available accepted =>
      let taken := { service with startTasks := service.startTasks - 1 }
      have htaken : taken.Sound := (Sound.congr service taken rfl rfl rfl rfl).mpr hsound
      have htask : 0 < service.startTasks := henabled
      change (taken.registerBatteryHdiCallback available accepted).Sound ↔ _
      rw [sound_registerBatteryHdiCallback_iff htaken]
      simp [Meets, htask, taken]
  | RetryTask answer =>
      let taken := { service with retryTasks := service.retryTasks - 1 }
      have htaken : taken.Sound := (Sound.congr service taken rfl rfl rfl rfl).mpr hsound
      have htask : 0 < service.retryTasks := henabled
      change (taken.registerHdiStatusListener answer).Sound ↔ _
      cases answer with
      | NoManager => exact iff_of_true (sound_registerHdiStatusListener (by decide) htaken) trivial
      | Refused => exact iff_of_true (sound_registerHdiStatusListener (by decide) htaken) trivial
      | Registered =>
          rw [sound_registered_iff taken hnumbered]
          simp [Meets, htask, taken, Admits]
  | RemoveDeviceManager => exact iff_of_true (sound_onRemoveSystemAbility hsound) trivial
  | AddDeviceManager answer => exact sound_onAddSystemAbility_iff hnumbered hsound answer

-- A step that cannot be taken is not asked for anything.
theorem meets_disabled {service : Lifecycle} {label : LifecycleLabel}
    (hdisabled : ¬service.Enabled label) : service.Meets label := by
  cases label with
  | HdiStart listener => trivial
  | HdiStop listener forgets => trivial
  | StartTask available accepted => exact fun htask => absurd htask hdisabled
  | RetryTask answer =>
      cases answer with
      | NoManager => trivial
      | Refused => trivial
      | Registered => exact fun htask => absurd htask hdisabled
  | _ => exact absurd trivial hdisabled

theorem sound_start : ({} : Lifecycle).Sound := ⟨Nat.zero_le 1, fun hs => Bool.noConfusion hs⟩

end Lifecycle

-- All states of a run are sound exactly when all its steps meet their condition.
theorem registrations_sound_iff (history : List LifecycleLabel) :
    (∀ before after state log, history = before ++ after → LifecycleRun before state log →
      state.Sound) ↔ EachStep lifecycleStep Lifecycle.Meets {} history := by
  rw [← eachState_iff]
  refine eachState_iff_eachStep Lifecycle.Numbered ?_ ?_ ?_ (by simp [Lifecycle.Numbered])
    Lifecycle.sound_start history
  · intro service label next out hnumbered hstep
    obtain ⟨-, rfl⟩ := Lifecycle.lifecycleStep_some hstep
    exact hnumbered.after label
  · intro service label next out hnumbered hsound hstep
    obtain ⟨henabled, rfl⟩ := Lifecycle.lifecycleStep_some hstep
    exact Lifecycle.sound_after_iff hnumbered hsound henabled
  · intro service label _ _ hstep
    refine Lifecycle.meets_disabled fun henabled => ?_
    rw [Lifecycle.lifecycleStep_enabled henabled] at hstep
    cases hstep

-- The HDI comes up, and the service is stopped before the queued task runs.
theorem not_sound_startTask :
    ¬∀ (history : List LifecycleLabel) (state : Lifecycle) (log : List Effect),
      LifecycleRun history state log → state.Sound := by
  intro hsound
  have hrun := exec_run lifecycleStep {}
    [.OnStart .Registered true, .HdiStart 0, .OnStop, .StartTask true true] (by decide)
  have hclean := ((hsound _ _ _ hrun).clean (by decide)).iBatteryInterface
  revert hclean
  decide

end BatteryManager
