import BatteryManager.Notification.Lemmas

namespace BatteryManager

open Library

-- The commands that an event gives with the subscriptions of `events`.
def handled (events : List (String × ReverseSuperChargeButton)) (buttonAction : String) :
    List SetBatteryConfigCall :=
  (events.filter fun event => event.1 = buttonAction).map fun event => event.2.handle

theorem handled_append (first second : List (String × ReverseSuperChargeButton))
    (buttonAction : String) : handled (first ++ second) buttonAction =
      handled first buttonAction ++ handled second buttonAction := by
  simp [handled]

theorem press_handled (buttonAction : String) (manager : NotificationManager) :
    manager.press buttonAction = handled (eventsOf manager.events.live) buttonAction := by
  unfold NotificationManager.press EventBus.deliver handled eventsOf
  rw [List.filter_map, List.map_map, List.map_map]
  rfl

theorem handled_commands_other (env : NotificationEnv) {subscribed pressed : String}
    (hne : subscribed ≠ pressed) : handled (commands env subscribed) pressed = [] := by
  rcases commands_cases env subscribed with hcommands | ⟨kind, hcommands⟩ <;>
    simp [handled, hcommands, hne]

theorem handled_commands_self {buttonAction : String} {kind : ReverseSuperChargeButton}
    (env : NotificationEnv) (hbutton : buttonFor buttonAction = some kind) :
    handled (commands env buttonAction) buttonAction =
      if env.subscribes then [kind.handle] else [] := by
  cases hsubscribes : env.subscribes <;> simp [handled, commands, hbutton, hsubscribes]

theorem handled_commands_unknown (env : NotificationEnv) {pressed : String}
    (hbutton : buttonFor pressed = none) (subscribed : String) :
    handled (commands env subscribed) pressed = [] := by
  by_cases hsame : subscribed = pressed
  · subst hsame
    simp [handled, commands, hbutton]
  · exact handled_commands_other env hsame

-- The manager that has published one notification, and what it showed.
def publishedAlone (env : NotificationEnv) (nCfg : NotificationConf) :
    NotificationManager × List NotificationEffect :=
  ({} : NotificationManager).publishNotification env nCfg

theorem press_publishedAlone (env : NotificationEnv) (nCfg : NotificationConf) (buttonAction : String) :
    (publishedAlone env nCfg).1.press buttonAction = handled (nCfg.subscribedEvents env) buttonAction := by
  obtain ⟨added, hbuilds⟩ := buildNotification_builds env nCfg {}
  have hlive : (publishedAlone env nCfg).1.events.live = added := hbuilds.grows.live
  rw [press_handled, hlive, hbuilds.events]

-- Pressing `button`, which is displayed next to `other`, stands for one command.
structure CommandDue (button other : String × String) (kind : ReverseSuperChargeButton) : Prop where
  label : button.1 ≠ ""
  action : buttonFor button.2 = some kind
  differs : button.2 ≠ other.2

section Press

variable {env : NotificationEnv} {nCfg : NotificationConf} {kind : ReverseSuperChargeButton}

theorem press_firstButton (hdue : CommandDue nCfg.firstButton nCfg.secondButton kind) :
    (publishedAlone env nCfg).1.press nCfg.firstButton.2 =
      if env.subscribes then [kind.handle] else [] := by
  have hself := handled_commands_self env hdue.action
  have hother := handled_commands_other env hdue.differs.symm
  rw [press_publishedAlone, NotificationConf.subscribedEvents, if_neg hdue.label]
  by_cases hsecond : nCfg.secondButton.1 = ""
  · rw [if_pos hsecond, hself]
  · rw [if_neg hsecond, handled_append, handled_append, hself, hother]
    simp

theorem press_secondButton (hdue : CommandDue nCfg.secondButton nCfg.firstButton kind) :
    (publishedAlone env nCfg).1.press nCfg.secondButton.2 =
      if env.subscribes then
        if nCfg.firstButton.1 = "" then [kind.handle] else [kind.handle, kind.handle]
      else [] := by
  have hself := handled_commands_self env hdue.action
  have hother := handled_commands_other env hdue.differs.symm
  rw [press_publishedAlone, NotificationConf.subscribedEvents]
  by_cases hfirst : nCfg.firstButton.1 = ""
  · rw [if_pos hfirst, if_pos hfirst, if_neg hdue.label, hself]
  · rw [if_neg hfirst, if_neg hfirst, if_neg hdue.label, handled_append, handled_append, hself, hother]
    cases env.subscribes <;> rfl

theorem press_unknown {buttonAction : String} (hbutton : buttonFor buttonAction = none) :
    (publishedAlone env nCfg).1.press buttonAction = [] := by
  have hnone := handled_commands_unknown env hbutton
  rw [press_publishedAlone, NotificationConf.subscribedEvents]
  split_ifs
  · rfl
  · exact hnone _
  · exact hnone _
  · rw [handled_append, handled_append, hnone, hnone, List.append_nil, List.append_nil]

end Press

-- What is displayed is what was asked for, and one press is one command.
structure OneCommandPerPress (env : NotificationEnv) (nCfg : NotificationConf) : Prop where
  displayed : ∃ request, (publishedAlone env nCfg).2 = [.PublishNotification request] ∧
    request.actionButtons = nCfg.displayedButtons
  first : ∀ kind, CommandDue nCfg.firstButton nCfg.secondButton kind →
    (publishedAlone env nCfg).1.press nCfg.firstButton.2 = [kind.handle]
  second : ∀ kind, CommandDue nCfg.secondButton nCfg.firstButton kind →
    (publishedAlone env nCfg).1.press nCfg.secondButton.2 = [kind.handle]
  unknown : ∀ buttonAction, buttonFor buttonAction = none →
    (publishedAlone env nCfg).1.press buttonAction = []

-- A second button inside two decorators is subscribed twice.
theorem oneCommandPerPress_iff (env : NotificationEnv) (nCfg : NotificationConf) :
    OneCommandPerPress env nCfg ↔
      (∀ kind, CommandDue nCfg.firstButton nCfg.secondButton kind → env.subscribes = true) ∧
      (∀ kind, CommandDue nCfg.secondButton nCfg.firstButton kind →
        env.subscribes = true ∧ nCfg.firstButton.1 = "") := by
  constructor
  · intro honce
    refine ⟨?_, ?_⟩
    · intro kind hdue
      have hpress := honce.first kind hdue
      rw [press_firstButton hdue] at hpress
      by_contra hsubscribes
      simp [hsubscribes] at hpress
    · intro kind hdue
      have hpress := honce.second kind hdue
      rw [press_secondButton hdue] at hpress
      split_ifs at hpress with hsubscribes hfirst
      · exact ⟨hsubscribes, hfirst⟩
      · cases hpress
  · rintro ⟨hfirst, hsecond⟩
    obtain ⟨added, hbuilds⟩ := buildNotification_builds env nCfg {}
    refine ⟨⟨_, rfl, hbuilds.actionButtons⟩, ?_, ?_, ?_⟩
    · intro kind hdue
      rw [press_firstButton hdue, if_pos (hfirst kind hdue)]
    · intro kind hdue
      obtain ⟨hsubscribes, hname⟩ := hsecond kind hdue
      rw [press_secondButton hdue, if_pos hsubscribes, if_pos hname]
    · exact fun buttonAction hbutton => press_unknown hbutton

-- Both buttons have a label, and the second changes the direction.
def twoButtonConf : NotificationConf where
  name := "reverse_super_charge"
  icon := "battery"
  title := "Reverse charging"
  text := "Charging another device"
  firstButton := ("Disable", REVERSE_SUPER_CHARGE_CLOSE)
  secondButton := ("Change Dir", REVERSE_SUPER_CHARGE_CHANGE_DIR)

def readyNotificationEnv : NotificationEnv where
  getStringByKey := id
  hash := fun name => name.length
  iconDecodes := fun _ => true
  subscribes := true

-- The press sends the same command two times.
theorem not_oneCommandPerPress_twoButtons : ¬ OneCommandPerPress readyNotificationEnv twoButtonConf := by
  intro honce
  have hdue : CommandDue twoButtonConf.secondButton twoButtonConf.firstButton .ChangeDir :=
    ⟨by decide, by decide, by decide⟩
  have hpress := honce.second .ChangeDir hdue
  have htwice : (publishedAlone readyNotificationEnv twoButtonConf).1.press
      twoButtonConf.secondButton.2 = [⟨"reverse_super_charge", "0"⟩, ⟨"reverse_super_charge", "0"⟩] := by
    decide
  rw [htwice] at hpress
  cases hpress

end BatteryManager
