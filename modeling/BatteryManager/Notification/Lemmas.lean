import BatteryManager.Notification

namespace BatteryManager

open Library

-- What one decorator subscribes for an action.
def commands (env : NotificationEnv) (buttonAction : String) :
    List (String × ReverseSuperChargeButton) :=
  match buttonFor buttonAction with
  | none => []
  | some button => if env.subscribes then [(buttonAction, button)] else []

theorem commands_cases (env : NotificationEnv) (buttonAction : String) :
    commands env buttonAction = [] ∨ ∃ kind, commands env buttonAction = [(buttonAction, kind)] := by
  unfold commands
  cases buttonFor buttonAction with
  | none => exact .inl rfl
  | some kind => cases env.subscribes with
    | false => exact .inl rfl
    | true => exact .inr ⟨kind, rfl⟩

def NotificationConf.displayedButtons (nCfg : NotificationConf) : List (String × String) :=
  [nCfg.firstButton, nCfg.secondButton].filter fun button => button.1 ≠ ""

def eventsOf (subscribers : List ButtonSubscriber) : List (String × ReverseSuperChargeButton) :=
  subscribers.map fun subscriber => (subscriber.topic, subscriber.handler)

theorem eventsOf_append (first second : List ButtonSubscriber) :
    eventsOf (first ++ second) = eventsOf first ++ eventsOf second :=
  List.map_append

namespace BatteryNotification

-- The number of decorators.
def depth : BatteryNotification → Nat
  | .NotificationCenter _ => 0
  | .ButtonDecorator inner _ => inner.depth + 1

-- What adding a button to a notification does.
structure Adds (env : NotificationEnv) (button : String × String)
    (batteryNotification : BatteryNotification) (events : CommonEvents) (set : BatteryNotification)
    (later : CommonEvents) (added : List ButtonSubscriber) : Prop where
  actionButtons : set.request.actionButtons =
    batteryNotification.request.actionButtons ++ if button.1 = "" then [] else [button]
  depth : set.depth = batteryNotification.depth
  grows : events.Grows added later
  subscriptions : set.subscriptions.Perm (batteryNotification.subscriptions ++ added)
  events : eventsOf added = (List.replicate batteryNotification.depth (commands env button.2)).flatten

section Decorator

variable {env : NotificationEnv} {button : String × String} {kind : ReverseSuperChargeButton}
  (inner : BatteryNotification) (buttonVec : List ButtonSubscriber) (events : CommonEvents)

theorem setActionButton_quiet (hcommands : commands env button.2 = []) :
    (ButtonDecorator inner buttonVec).setActionButton env button.1 button.2 events =
      (.ButtonDecorator (inner.setActionButton env button.1 button.2 events).1 buttonVec,
        (inner.setActionButton env button.1 button.2 events).2) := by
  unfold commands at hcommands
  rw [setActionButton]
  cases hbutton : buttonFor button.2 with
  | none => rfl
  | some kind =>
      have hfails : env.subscribes = false := by simpa [hbutton] using hcommands
      simp [hfails]

theorem setActionButton_subscribes (hcommands : commands env button.2 = [(button.2, kind)]) :
    (ButtonDecorator inner buttonVec).setActionButton env button.1 button.2 events =
      (.ButtonDecorator (inner.setActionButton env button.1 button.2 events).1
          (buttonVec ++ [(inner.setActionButton env button.1 button.2 events).2.next button.2 kind]),
        (inner.setActionButton env button.1 button.2 events).2.subscribe button.2 kind) := by
  unfold commands at hcommands
  rw [setActionButton]
  cases hbutton : buttonFor button.2 with
  | none => simp [hbutton] at hcommands
  | some other =>
      cases hsubscribes : env.subscribes with
      | false => simp [hbutton, hsubscribes] at hcommands
      | true =>
          have hother : other = kind := by simpa [hbutton, hsubscribes] using hcommands
          simp [hother]

end Decorator

-- The event is subscribed once for each decorator, from the inside out.
theorem setActionButton_adds (env : NotificationEnv) (button : String × String)
    (batteryNotification : BatteryNotification) (events : CommonEvents) :
    ∃ added, Adds env button batteryNotification events
      (batteryNotification.setActionButton env button.1 button.2 events).1
      (batteryNotification.setActionButton env button.1 button.2 events).2 added := by
  induction batteryNotification with
  | NotificationCenter request =>
      refine ⟨[], ?_, rfl, .refl events, .nil, rfl⟩
      unfold setActionButton NotificationRequest.setActionButton BatteryNotification.request
      by_cases hname : button.1 = "" <;> simp [hname]
  | ButtonDecorator inner buttonVec ih =>
      obtain ⟨added, hinner⟩ := ih
      have hswap : (inner.subscriptions ++ added ++ buttonVec).Perm
          (inner.subscriptions ++ buttonVec ++ added) := by
        rw [List.append_assoc, List.append_assoc]
        exact List.perm_append_comm.append_left _
      have hsubscriptions := (hinner.subscriptions.append_right buttonVec).trans hswap
      have hdepth := congrArg (· + 1) hinner.depth
      have hevents := hinner.events
      rcases commands_cases env button.2 with hcommands | ⟨kind, hcommands⟩
      · rw [hcommands, List.flatten_replicate_nil] at hevents
        rw [setActionButton_quiet inner buttonVec events hcommands]
        refine ⟨added, hinner.actionButtons, hdepth, hinner.grows, hsubscriptions, ?_⟩
        rw [hevents, hcommands, List.flatten_replicate_nil]
      · have hgrows := hinner.grows.trans (EventBus.grows_subscribe
          (inner.setActionButton env button.1 button.2 events).2 button.2 kind)
        rw [setActionButton_subscribes inner buttonVec events hcommands]
        refine ⟨_, hinner.actionButtons, hdepth, hgrows, ?_, ?_⟩
        · have happended := hsubscriptions.append_right
            [(inner.setActionButton env button.1 button.2 events).2.next button.2 kind]
          simpa [BatteryNotification.subscriptions, List.append_assoc] using happended
        · rw [eventsOf_append, hevents, BatteryNotification.depth, List.replicate_succ',
            List.flatten_append, List.flatten_singleton, hcommands]
          rfl

end BatteryNotification

-- The events that a published notification subscribes. The second button of two
-- is subscribed by both decorators.
def NotificationConf.subscribedEvents (env : NotificationEnv) (nCfg : NotificationConf) :
    List (String × ReverseSuperChargeButton) :=
  let first := commands env nCfg.firstButton.2
  let second := commands env nCfg.secondButton.2
  if nCfg.firstButton.1 = "" then if nCfg.secondButton.1 = "" then [] else second
  else if nCfg.secondButton.1 = "" then first else first ++ (second ++ second)

-- What becomes of a configuration that is built.
structure Builds (env : NotificationEnv) (nCfg : NotificationConf) (events : CommonEvents)
    (built : BatteryNotification × CommonEvents) (added : List ButtonSubscriber) : Prop where
  actionButtons : built.1.request.actionButtons = nCfg.displayedButtons
  grows : events.Grows added built.2
  subscriptions : built.1.subscriptions.Perm added
  events : eventsOf added = nCfg.subscribedEvents env

theorem createButtonStyle_adds (env : NotificationEnv) (button : String × String)
    (batteryNotification : BatteryNotification) (events : CommonEvents) :
    ∃ added, BatteryNotification.Adds env button (.ButtonDecorator batteryNotification []) events
      (createButtonStyle env batteryNotification button events).1
      (createButtonStyle env batteryNotification button events).2 added :=
  BatteryNotification.setActionButton_adds env button (.ButtonDecorator batteryNotification []) events

-- One button around the plain notification.
theorem builds_oneButton {env : NotificationEnv} {nCfg : NotificationConf} {button : String × String}
    (hname : button.1 ≠ "") (hdisplayed : nCfg.displayedButtons = [button])
    (hsubscribed : nCfg.subscribedEvents env = commands env button.2) (events : CommonEvents) :
    ∃ added, Builds env nCfg events
      (createButtonStyle env (.NotificationCenter (createBaseStyle env nCfg)) button events) added := by
  obtain ⟨added, hadds⟩ :=
    createButtonStyle_adds env button (.NotificationCenter (createBaseStyle env nCfg)) events
  refine ⟨added, ?_, hadds.grows, hadds.subscriptions, ?_⟩
  · rw [hadds.actionButtons, hdisplayed, if_neg hname]
    rfl
  · rw [hadds.events, hsubscribed]
    exact List.append_nil _

-- The second of two buttons goes through the decorator of the first.
theorem builds_twoButtons (env : NotificationEnv) {nCfg : NotificationConf}
    (hfirst : nCfg.firstButton.1 ≠ "") (hsecond : nCfg.secondButton.1 ≠ "")
    (events : CommonEvents) :
    ∃ added, Builds env nCfg events (buildNotification env nCfg events) added := by
  have hdisplayed : nCfg.displayedButtons = [nCfg.firstButton, nCfg.secondButton] := by
    simp [NotificationConf.displayedButtons, hfirst, hsecond]
  have hsubscribed : nCfg.subscribedEvents env = commands env nCfg.firstButton.2 ++
      (commands env nCfg.secondButton.2 ++ commands env nCfg.secondButton.2) := by
    rw [NotificationConf.subscribedEvents, if_neg hfirst, if_neg hsecond]
  rw [buildNotification, if_pos hfirst, if_pos hsecond]
  obtain ⟨added, hadds⟩ :=
    createButtonStyle_adds env nCfg.firstButton (.NotificationCenter (createBaseStyle env nCfg)) events
  generalize createButtonStyle env (.NotificationCenter (createBaseStyle env nCfg)) nCfg.firstButton
    events = decorated at hadds ⊢
  obtain ⟨more, hmore⟩ := createButtonStyle_adds env nCfg.secondButton decorated.1 decorated.2
  have hdepth : (BatteryNotification.ButtonDecorator decorated.1 []).depth = 2 :=
    congrArg (· + 1) hadds.depth
  refine ⟨added ++ more, ?_, hadds.grows.trans hmore.grows, ?_, ?_⟩
  · rw [hmore.actionButtons, BatteryNotification.request, hadds.actionButtons, hdisplayed, if_neg hfirst,
      if_neg hsecond]
    rfl
  · have hinner : decorated.1.subscriptions.Perm added := hadds.subscriptions
    refine hmore.subscriptions.trans ?_
    rw [BatteryNotification.subscriptions, List.append_nil]
    exact hinner.append_right more
  · rw [eventsOf_append, hadds.events, hmore.events, hdepth, hsubscribed]
    simp [BatteryNotification.depth]

theorem buildNotification_builds (env : NotificationEnv) (nCfg : NotificationConf)
    (events : CommonEvents) :
    ∃ added, Builds env nCfg events (buildNotification env nCfg events) added := by
  by_cases hfirst : nCfg.firstButton.1 = ""
  · by_cases hsecond : nCfg.secondButton.1 = ""
    · rw [buildNotification, if_neg (not_not.mpr hfirst), if_neg (not_not.mpr hsecond)]
      refine ⟨[], ?_, .refl events, .nil, ?_⟩
      · simp [NotificationConf.displayedButtons, hfirst, hsecond, BatteryNotification.request,
          createBaseStyle]
      · rw [NotificationConf.subscribedEvents, if_pos hfirst, if_pos hsecond]
        rfl
    · rw [buildNotification, if_neg (not_not.mpr hfirst), if_pos hsecond]
      refine builds_oneButton hsecond ?_ ?_ events
      · simp [NotificationConf.displayedButtons, hfirst, hsecond]
      · rw [NotificationConf.subscribedEvents, if_pos hfirst, if_neg hsecond]
  · by_cases hsecond : nCfg.secondButton.1 = ""
    · rw [buildNotification, if_pos hfirst, if_neg (not_not.mpr hsecond)]
      refine builds_oneButton hfirst ?_ ?_ events
      · simp [NotificationConf.displayedButtons, hfirst, hsecond]
      · rw [NotificationConf.subscribedEvents, if_neg hfirst, if_pos hsecond]
    · exact builds_twoButtons env hfirst hsecond events

end BatteryManager
