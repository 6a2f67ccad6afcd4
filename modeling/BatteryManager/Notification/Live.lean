import BatteryManager.Library.Run
import BatteryManager.Notification.Lemmas

namespace BatteryManager

open Library

structure NotificationCall where
  env : NotificationEnv
  popupName : String
  popupAction : UInt32
  nConfMap : Table NotificationConf

namespace NotificationCall

variable (call : NotificationCall)

-- Every subscription of the call succeeds.
def ready : NotificationEnv := { call.env with subscribes := true }

def handle (manager : NotificationManager) : NotificationManager × List NotificationEffect :=
  manager.handleNotification call.ready call.popupName call.popupAction call.nConfMap

-- The version that the call publishes, with the labels of that moment.
def published : Option NotificationConf :=
  if call.popupAction = PUBLISH_POPUP_ACTION then
    (call.nConfMap call.popupName).map (fillNotificationCfg call.env)
  else none

def cancelled : Option String :=
  if call.popupAction = CANCLE_POPUP_ACTION then some call.popupName else none

-- The latest version of every name that is published and not cancelled since.
def shownAfter (shown : Table NotificationConf) : Table NotificationConf :=
  match call.published with
  | some nCfg => shown.insert nCfg.name nCfg
  | none =>
      match call.cancelled with
      | some popupName => shown.erase popupName
      | none => shown

variable {call} {nCfg : NotificationConf} {popupName : String} (manager : NotificationManager)

theorem handle_published (hpublished : call.published = some nCfg) :
    call.handle manager = manager.publishNotification call.ready nCfg := by
  unfold published at hpublished
  split at hpublished
  · rename_i haction
    obtain ⟨cfg, hcfg, rfl⟩ := Option.map_eq_some_iff.mp hpublished
    rw [handle, NotificationManager.handleNotification, if_pos haction, hcfg]
    rfl
  · cases hpublished

theorem handle_cancelled (hcancelled : call.cancelled = some popupName) :
    call.published = none ∧ call.handle manager = manager.cancleNotification popupName := by
  unfold cancelled at hcancelled
  split at hcancelled
  · rename_i haction
    cases hcancelled
    have hother : call.popupAction ≠ PUBLISH_POPUP_ACTION := by
      rw [haction]
      decide
    rw [published, if_neg hother, handle, NotificationManager.handleNotification, if_neg hother,
      if_pos haction]
    exact ⟨rfl, rfl⟩
  · cases hcancelled

theorem handle_other (hpublished : call.published = none) (hcancelled : call.cancelled = none) :
    call.handle manager = (manager, []) := by
  unfold published at hpublished
  unfold cancelled at hcancelled
  rw [handle, NotificationManager.handleNotification]
  split_ifs at hpublished hcancelled ⊢
  · rw [Option.map_eq_none_iff.mp hpublished]
  · rfl

end NotificationCall

-- The manager, with what is displayed by the calls so far.
structure NotificationState where
  manager : NotificationManager := {}
  shown : Table NotificationConf := Table.empty

def notificationStep (state : NotificationState) (call : NotificationCall) :
    Option (NotificationState × List NotificationEffect) :=
  some (⟨(call.handle state.manager).1, call.shownAfter state.shown⟩, (call.handle state.manager).2)

-- Every recognised action of the buttons is subscribed.
def Subscribes (buttons : List (String × String)) (subscribers : List ButtonSubscriber) : Prop :=
  ∀ button ∈ buttons, ∀ kind, buttonFor button.2 = some kind →
    (button.2, kind) ∈ eventsOf subscribers

-- The keys are what is displayed, whose buttons work, and every subscription is
-- held by a notification under one of the keys.
structure ButtonsLive (state : NotificationState) : Prop where
  keys : ∀ name, (state.manager.notificationMap name).isSome = (state.shown name).isSome
  live : ∀ name nCfg, state.shown name = some nCfg →
    Subscribes nCfg.displayedButtons state.manager.events.live
  owned : ∀ subscriber ∈ state.manager.events.live, ∃ name batteryNotification,
    state.manager.notificationMap name = some batteryNotification ∧
      subscriber ∈ batteryNotification.subscriptions

-- A notification that is published again while it is kept has no recognised
-- action besides those of the version kept.
def KeepsButtons (state : NotificationState) (call : NotificationCall) : Prop :=
  ∀ nCfg kept, call.published = some nCfg → state.manager.notificationMap nCfg.name = some kept →
    ∀ button ∈ nCfg.displayedButtons, (buttonFor button.2).isSome = true →
      ∃ keptButton ∈ kept.request.actionButtons, keptButton.2 = button.2

def holders (notificationMap : Table BatteryNotification) (name : String) : List ButtonSubscriber :=
  match notificationMap name with
  | none => []
  | some batteryNotification => batteryNotification.subscriptions

theorem holders_of_some {notificationMap : Table BatteryNotification} {name : String}
    {kept : BatteryNotification} (hkept : notificationMap name = some kept) :
    holders notificationMap name = kept.subscriptions := by
  rw [holders, hkept]

theorem mem_holders {notificationMap : Table BatteryNotification} {name : String}
    {subscriber : ButtonSubscriber} (hmem : subscriber ∈ holders notificationMap name) :
    ∃ kept, notificationMap name = some kept ∧ subscriber ∈ kept.subscriptions := by
  unfold holders at hmem
  split at hmem
  · cases hmem
  · exact ⟨_, by assumption, hmem⟩

theorem holders_insert (notificationMap : Table BatteryNotification) (name : String)
    (batteryNotification : BatteryNotification) :
    holders (notificationMap.insert name batteryNotification) =
      Function.update (holders notificationMap) name batteryNotification.subscriptions := by
  funext other
  rw [holders, Table.insert_apply, Function.update_apply]
  split_ifs <;> rfl

theorem holders_erase (notificationMap : Table BatteryNotification) (name : String) :
    holders (notificationMap.erase name) = Function.update (holders notificationMap) name [] := by
  funext other
  rw [holders, Table.erase_apply, Function.update_apply]
  split_ifs <;> rfl

-- What every call keeps under the condition.
structure Held (state : NotificationState) : Prop where
  keys : ∀ name, (state.manager.notificationMap name).isSome = (state.shown name).isSome
  owned : state.manager.events.Owned (holders state.manager.notificationMap)
  kept : ∀ name kept, state.manager.notificationMap name = some kept →
    Subscribes kept.request.actionButtons kept.subscriptions
  shown : ∀ name kept nCfg, state.manager.notificationMap name = some kept →
    state.shown name = some nCfg → Subscribes nCfg.displayedButtons kept.subscriptions

theorem held_start : Held {} where
  keys := fun _ => rfl
  owned := EventBus.owned_empty
  kept := nofun
  shown := nofun

theorem Held.buttonsLive {state : NotificationState} (hheld : Held state) : ButtonsLive state where
  keys := hheld.keys
  live := by
    intro name nCfg hshown button hbutton kind hkind
    have hsome : (state.manager.notificationMap name).isSome = true := by
      rw [hheld.keys name, hshown]
      rfl
    obtain ⟨kept, hkept⟩ := Option.isSome_iff_exists.mp hsome
    have hevent := hheld.shown name kept nCfg hkept hshown button hbutton kind hkind
    obtain ⟨subscriber, hsubscriber, hsame⟩ := List.mem_map.mp hevent
    rw [← holders_of_some hkept] at hsubscriber
    exact List.mem_map.mpr ⟨subscriber, hheld.owned.held name subscriber hsubscriber, hsame⟩
  owned := by
    intro subscriber hsubscriber
    obtain ⟨name, hname⟩ := hheld.owned.owned subscriber hsubscriber
    exact ⟨name, mem_holders hname⟩

theorem displayed_subscribed {env : NotificationEnv} (henv : env.subscribes = true)
    {nCfg : NotificationConf} {button : String × String} (hbutton : button ∈ nCfg.displayedButtons)
    {kind : ReverseSuperChargeButton} (hkind : buttonFor button.2 = some kind) :
    (button.2, kind) ∈ nCfg.subscribedEvents env := by
  have hcommands : commands env button.2 = [(button.2, kind)] := by
    simp [commands, hkind, henv]
  obtain ⟨hmem, hlabel⟩ := List.mem_filter.mp hbutton
  have hname : button.1 ≠ "" := of_decide_eq_true hlabel
  unfold NotificationConf.subscribedEvents
  dsimp only
  rcases List.mem_pair.mp hmem with rfl | rfl
  · rw [if_neg hname, hcommands]
    split_ifs <;> simp
  · rw [if_neg hname, if_neg hname, hcommands]
    split_ifs <;> simp

theorem Builds.subscribes {env : NotificationEnv} (henv : env.subscribes = true)
    {nCfg : NotificationConf} {events : CommonEvents} {built : BatteryNotification × CommonEvents}
    {added : List ButtonSubscriber} (hbuilds : Builds env nCfg events built added) :
    Subscribes nCfg.displayedButtons built.1.subscriptions := by
  intro button hbutton kind hkind
  have hevent := displayed_subscribed henv hbutton hkind
  rw [← hbuilds.events] at hevent
  exact (hbuilds.subscriptions.map _).symm.subset hevent

section Steps

variable {state : NotificationState} {env : NotificationEnv} {nCfg : NotificationConf}

theorem Held.publish_new (hheld : Held state) (henv : env.subscribes = true)
    (hnew : state.manager.notificationMap nCfg.name = none) :
    Held ⟨(state.manager.publishNotification env nCfg).1, state.shown.insert nCfg.name nCfg⟩ := by
  obtain ⟨added, hbuilds⟩ := buildNotification_builds env nCfg state.manager.events
  generalize hbuilt : buildNotification env nCfg state.manager.events = built at hbuilds
  have hmanager : (state.manager.publishNotification env nCfg).1 =
      ⟨state.manager.notificationMap.insert nCfg.name built.1, built.2⟩ := by
    simp [NotificationManager.publishNotification, hbuilt, hnew, Table.emplace_new hnew]
  have hsubscribes := hbuilds.subscribes henv
  rw [hmanager]
  refine ⟨?_, ?_, ?_, ?_⟩ <;> dsimp only
  · intro name
    have hkeys := hheld.keys name
    rw [Table.insert_apply, Table.insert_apply]
    split_ifs
    · rfl
    · exact hkeys
  · have hnone : holders state.manager.notificationMap nCfg.name = [] := by rw [holders, hnew]
    rw [holders_insert]
    exact hheld.owned.grows hbuilds.grows hbuilds.subscriptions hnone
  · intro name kept hkept
    rw [Table.insert_apply] at hkept
    split_ifs at hkept
    · cases hkept
      rw [hbuilds.actionButtons]
      exact hsubscribes
    · exact hheld.kept name kept hkept
  · intro name kept shown hkept hshown
    rw [Table.insert_apply] at hkept hshown
    split_ifs at hkept hshown
    · cases hkept
      cases hshown
      exact hsubscribes
    · exact hheld.shown name kept shown hkept hshown

theorem Held.publish_kept (hheld : Held state) {kept : BatteryNotification}
    (hkept : state.manager.notificationMap nCfg.name = some kept)
    (hbuttons : Subscribes nCfg.displayedButtons kept.subscriptions) :
    Held ⟨(state.manager.publishNotification env nCfg).1, state.shown.insert nCfg.name nCfg⟩ := by
  obtain ⟨added, hbuilds⟩ := buildNotification_builds env nCfg state.manager.events
  generalize hbuilt : buildNotification env nCfg state.manager.events = built at hbuilds
  have hmanager : (state.manager.publishNotification env nCfg).1 =
      ⟨state.manager.notificationMap, built.2.unsubscribe built.1.subscriptions⟩ := by
    simp [NotificationManager.publishNotification, hbuilt, hkept, Table.emplace_kept hkept]
  rw [hmanager]
  refine ⟨?_, hheld.owned.discard hbuilds.grows hbuilds.subscriptions, hheld.kept, ?_⟩ <;> dsimp only
  · intro name
    have hkeys := hheld.keys name
    rw [Table.insert_apply]
    split_ifs with hname
    · rw [hname, hkept]
      rfl
    · exact hkeys
  · intro name other shown hother hshown
    rw [Table.insert_apply] at hshown
    split_ifs at hshown with hname
    · cases hshown
      rw [hname, hkept] at hother
      cases hother
      exact hbuttons
    · exact hheld.shown name other shown hother hshown

theorem Held.cancel_unknown (hheld : Held state) {popupName : String}
    (hunknown : state.manager.notificationMap popupName = none) :
    Held ⟨(state.manager.cancleNotification popupName).1, state.shown.erase popupName⟩ := by
  have hmanager : (state.manager.cancleNotification popupName).1 = state.manager := by
    rw [NotificationManager.cancleNotification, hunknown]
  rw [hmanager]
  refine ⟨?_, hheld.owned, hheld.kept, ?_⟩ <;> dsimp only
  · intro name
    have hkeys := hheld.keys name
    rw [Table.erase_apply]
    split_ifs with hname
    · rw [hname, hunknown]
      rfl
    · exact hkeys
  · intro name other shown hother hshown
    rw [Table.erase_apply] at hshown
    split_ifs at hshown
    exact hheld.shown name other shown hother hshown

theorem Held.cancel_kept (hheld : Held state) {popupName : String} {kept : BatteryNotification}
    (hkept : state.manager.notificationMap popupName = some kept) :
    Held ⟨(state.manager.cancleNotification popupName).1, state.shown.erase popupName⟩ := by
  have hmanager : (state.manager.cancleNotification popupName).1 =
      ⟨state.manager.notificationMap.erase popupName,
        state.manager.events.unsubscribe kept.subscriptions⟩ := by
    rw [NotificationManager.cancleNotification, hkept]
  rw [hmanager]
  refine ⟨?_, ?_, ?_, ?_⟩ <;> dsimp only
  · intro name
    have hkeys := hheld.keys name
    rw [Table.erase_apply, Table.erase_apply]
    split_ifs
    · rfl
    · exact hkeys
  · have howned := hheld.owned.release popupName
    rw [holders_of_some hkept] at howned
    rw [holders_erase]
    exact howned
  · intro name other hother
    rw [Table.erase_apply] at hother
    split_ifs at hother
    exact hheld.kept name other hother
  · intro name other shown hother hshown
    rw [Table.erase_apply] at hother hshown
    split_ifs at hother hshown
    exact hheld.shown name other shown hother hshown

end Steps

theorem Held.step {state next : NotificationState} {call : NotificationCall}
    {effects : List NotificationEffect} (hheld : Held state) (hkeeps : KeepsButtons state call)
    (hstep : notificationStep state call = some (next, effects)) : Held next := by
  cases hstep
  unfold NotificationCall.shownAfter
  cases hpublished : call.published with
  | some nCfg =>
      rw [call.handle_published state.manager hpublished]
      dsimp only
      cases hkept : state.manager.notificationMap nCfg.name with
      | none => exact hheld.publish_new rfl hkept
      | some kept =>
          refine hheld.publish_kept hkept fun button hbutton kind hkind => ?_
          have hsome : (buttonFor button.2).isSome = true := by
            rw [hkind]
            rfl
          obtain ⟨keptButton, hmem, hsame⟩ :=
            hkeeps nCfg kept hpublished hkept button hbutton hsome
          rw [← hsame] at hkind ⊢
          exact hheld.kept nCfg.name kept hkept keptButton hmem kind hkind
  | none =>
      cases hcancelled : call.cancelled with
      | some popupName =>
          rw [(call.handle_cancelled state.manager hcancelled).2]
          cases hkept : state.manager.notificationMap popupName with
          | none => exact hheld.cancel_unknown hkept
          | some kept => exact hheld.cancel_kept hkept
      | none =>
          rw [call.handle_other state.manager hpublished hcancelled]
          exact hheld

-- Displayed buttons stay live unless a new version brings an action to a name
-- that is still kept.
theorem buttons_live {history : List NotificationCall}
    (hkeeps : EachStep notificationStep KeepsButtons {} history) :
    EachState notificationStep ButtonsLive {} history :=
  eachState_of_eachStep Held (fun _ hheld => hheld.buttonsLive)
    (fun _ _ _ _ hheld hcondition hstep => hheld.step hcondition hstep) held_start hkeeps

def openButtonConf : NotificationConf where
  name := "reverse_super_charge"
  icon := "battery"
  title := "title"
  text := "text"
  firstButton := ("Enable", REVERSE_SUPER_CHARGE_OPEN)
  secondButton := ("", "")

-- A publication or cancellation of that notification under a string table.
def openButtonCall (popupAction : UInt32) (getStringByKey : String → String) : NotificationCall where
  env := {
    getStringByKey, hash := fun name => name.length, iconDecodes := fun _ => true, subscribes := true }
  popupName := "reverse_super_charge"
  popupAction := popupAction
  nConfMap := fun name => if name = "reverse_super_charge" then some openButtonConf else none

-- The same version twice, and a cancellation.
def samePublications : List NotificationCall :=
  [openButtonCall PUBLISH_POPUP_ACTION id, openButtonCall PUBLISH_POPUP_ACTION id,
    openButtonCall CANCLE_POPUP_ACTION id]

theorem buttons_live_same : EachState notificationStep ButtonsLive {} samePublications := by
  refine buttons_live ⟨?_, ?_, ?_, trivial⟩
  · intro nCfg kept _ hkept
    cases hkept
  · intro nCfg kept hpublished hkept button hbutton _
    have hnCfg : openButtonConf = nCfg := Option.some.inj hpublished
    subst hnCfg
    have hrequest : kept.request.actionButtons = [("Enable", REVERSE_SUPER_CHARGE_OPEN)] := by
      cases hkept
      rfl
    rw [hrequest]
    exact ⟨button, hbutton, rfl⟩
  · intro nCfg kept hpublished
    cases hpublished

-- The labels arrive after the first publication.
def lateLabels : List NotificationCall :=
  [openButtonCall PUBLISH_POPUP_ACTION fun _ => "", openButtonCall PUBLISH_POPUP_ACTION id]

-- The button is displayed, and nothing is subscribed.
theorem not_buttons_live_lateLabels : ¬ EachState notificationStep ButtonsLive {} lateLabels := by
  intro hlive
  have henabled : (exec notificationStep {} lateLabels).isSome = true := by decide
  have hends : EachState notificationStep ButtonsLive {} (lateLabels ++ []) := hlive
  have hlast := hends.exec (Option.some_get henabled).symm
  have hevent := hlast.live "reverse_super_charge" openButtonConf rfl
    ("Enable", REVERSE_SUPER_CHARGE_OPEN) (by decide) .Open (by decide)
  have hnone : eventsOf ((exec notificationStep {} lateLabels).get henabled).1.manager.events.live = [] :=
    rfl
  rw [hnone] at hevent
  cases hevent

end BatteryManager
