import BatteryManager.ConfigParser.Theorems
import BatteryManager.Library.Run
import BatteryManager.Notification.Lemmas
import BatteryManager.Protected

namespace BatteryManager

open Library Protected

-- What the notification service displays under each number.
abbrev Panel := Int → Option NotificationRequest

def NotificationEffect.display (panel : Panel) : NotificationEffect → Panel
  | .PublishNotification request => fun id => if id = request.notificationId then some request else panel id
  | .CancelNotification notificationId => fun id => if id = notificationId then none else panel id

def displayAll (panel : Panel) (effects : List NotificationEffect) : Panel :=
  effects.foldl NotificationEffect.display panel

theorem displayAll_append (panel : Panel) (effects later : List NotificationEffect) :
    displayAll panel (effects ++ later) = displayAll (displayAll panel effects) later :=
  List.foldl_append

-- A call of `BatteryNotify::HandleNotification`.
structure PopupCall where
  platform : NotificationPlatform
  ueventName : String

-- The popups that a call goes through.
def popupsOf (parsed : ParsedConfig) (call : PopupCall) : List PopupConf :=
  if call.platform.supported && call.platform.loads then (parsed.popupConfig call.ueventName).getD []
  else []

def popupStep (parsed : ParsedConfig) (manager : NotificationManager) (call : PopupCall) :
    Option (NotificationManager × List NotificationEffect) :=
  some (handlePopups call.platform.env parsed.notificationConfMap (popupsOf parsed call) manager)

abbrev PopupRun (parsed : ParsedConfig) :
    List PopupCall → NotificationManager → List NotificationEffect → Prop :=
  Run (popupStep parsed) {}

-- The service does this, whatever else its world is.
theorem notifyHandleNotification_popups {η : Type} (world : ServiceWorld η) (parsed : ParsedConfig)
    (hpopups : world.popupConfig = parsed.popupConfig)
    (hnotifications : world.notificationConfMap = parsed.notificationConfMap) (ueventName : String) :
    let handled := handlePopups world.platform.env parsed.notificationConfMap
      (popupsOf parsed ⟨world.platform, ueventName⟩) world.notificationManager
    (notifyHandleNotification world ueventName).state.notificationManager = handled.1 ∧
      (notifyHandleNotification world ueventName).effects = handled.2.map .Notification := by
  unfold notifyHandleNotification popupsOf
  rw [hpopups, hnotifications]
  dsimp only
  cases world.platform.supported with
  | false => exact ⟨rfl, rfl⟩
  | true =>
      cases parsed.popupConfig ueventName with
      | none => cases world.platform.loads <;> exact ⟨rfl, rfl⟩
      | some popups => cases world.platform.loads <;> exact ⟨rfl, rfl⟩

-- A popup with what the platform gives when it is gone through.
abbrev Mention := NotificationEnv × PopupConf

def mentions (parsed : ParsedConfig) (history : List PopupCall) : List Mention :=
  history.flatMap fun call => (popupsOf parsed call).map fun popup => (call.platform.env, popup)

-- How a configured notification is displayed: with the strings of the labels as
-- they are then, its icon if there is one, and the buttons that have a label.
def shownFor (env : NotificationEnv) (cfg : NotificationConf) : NotificationRequest where
  notificationId := env.hash cfg.name
  title := env.getStringByKey cfg.title
  text := env.getStringByKey cfg.text
  inProgress := cfg.inProgress
  unremovable := cfg.unRemovable
  controlFlags := cfg.bannerFlags
  littleIcon := if env.iconDecodes cfg.icon then some cfg.icon else none
  actionButtons := ([cfg.firstButton, cfg.secondButton].map fun button =>
    (env.getStringByKey button.1, button.2)).filter fun button => button.1 ≠ ""

-- What a mention says about a name: that it is displayed so, that it is gone, or
-- nothing.
def tells (nConfMap : Table NotificationConf) (name : String) (mention : Mention) :
    Option (Option NotificationRequest) :=
  if mention.2.name = name then
    if UInt32.ofInt mention.2.action = PUBLISH_POPUP_ACTION then
      (nConfMap name).map fun cfg => some (shownFor mention.1 cfg)
    else if UInt32.ofInt mention.2.action = CANCLE_POPUP_ACTION then some none
    else none
  else none

def displayed (nConfMap : Table NotificationConf) (told : List Mention) (name : String) :
    Option NotificationRequest :=
  (latest (tells nConfMap name) told).join

-- The request that is built for a configuration.
def requestOf (env : NotificationEnv) (nCfg : NotificationConf) : NotificationRequest :=
  { createBaseStyle env nCfg with actionButtons := nCfg.displayedButtons }

section Build

variable (env : NotificationEnv) (nCfg : NotificationConf) (events : CommonEvents)

theorem setActionButton_request (buttonName buttonAction : String)
    (batteryNotification : BatteryNotification) :
    (batteryNotification.setActionButton env buttonName buttonAction events).1.request =
      batteryNotification.request.setActionButton buttonName buttonAction := by
  induction batteryNotification with
  | NotificationCenter request => rfl
  | ButtonDecorator inner buttonVec ih =>
      unfold BatteryNotification.setActionButton
      dsimp only
      split
      · exact ih
      · split <;> exact ih

theorem buildNotification_request : (buildNotification env nCfg events).1.request = requestOf env nCfg := by
  unfold buildNotification requestOf NotificationConf.displayedButtons createButtonStyle
  by_cases hfirst : nCfg.firstButton.1 = "" <;> by_cases hsecond : nCfg.secondButton.1 = "" <;>
    simp [hfirst, hsecond, setActionButton_request, BatteryNotification.request,
      NotificationRequest.setActionButton, createBaseStyle]

theorem requestOf_fillNotificationCfg (cfg : NotificationConf) :
    requestOf env (fillNotificationCfg env cfg) = shownFor env cfg := by
  have hflags : (0 : UInt32) ||| cfg.bannerFlags = cfg.bannerFlags := UInt32.zero_or
  unfold requestOf createBaseStyle fillNotificationCfg shownFor NotificationConf.displayedButtons
  simp [hflags]

end Build

-- The configurations that a document leaves are kept under their own names.
def Keyed (nConfMap : Table NotificationConf) : Prop :=
  ∀ name cfg, nConfMap name = some cfg → cfg.name = name

theorem Keyed.emplace {nConfMap : Table NotificationConf} (hkeyed : Keyed nConfMap)
    (entry : NotificationConf) : Keyed (nConfMap.emplace entry.name entry) := by
  intro name cfg hcfg
  unfold Table.emplace at hcfg
  split at hcfg
  · rename_i hname
    cases hkept : nConfMap entry.name with
    | none =>
        rw [hkept] at hcfg
        cases hcfg
        exact hname.symm
    | some kept =>
        rw [hkept] at hcfg
        cases hcfg
        exact (hkeyed _ _ hkept).trans hname.symm
  · exact hkeyed name cfg hcfg

theorem keyed_saveNotificationConfToMap (nConf : List CJson) {nConfMap : Table NotificationConf}
    (hkeyed : Keyed nConfMap) : Keyed (saveNotificationConfToMap nConf nConfMap) := by
  induction nConf generalizing nConfMap with
  | nil => exact hkeyed
  | cons conf rest ih =>
      unfold saveNotificationConfToMap
      cases notificationEntry conf with
      | Continue => exact ih hkeyed
      | Return => exact hkeyed
      | Save entry => exact ih (hkeyed.emplace entry)

theorem keyed_parseNotificationConf (split : SplitStr) {parsed : ParsedConfig}
    (hkeyed : Keyed parsed.notificationConfMap) :
    Keyed (parsed.parseNotificationConf split).notificationConfMap := by
  unfold ParsedConfig.parseNotificationConf
  split
  · exact keyed_saveNotificationConfToMap _ hkeyed
  · exact hkeyed

theorem keyed_parseConfig (split : SplitStr) (file : ConfigFile) {parsed : ParsedConfig}
    (hkeyed : Keyed parsed.notificationConfMap) :
    Keyed (parsed.parseConfig split file).2.notificationConfMap := by
  cases file with
  | Missing => exact hkeyed
  | Malformed => exact hkeyed
  | Document json =>
      unfold ParsedConfig.parseConfig
      dsimp only
      split
      · exact hkeyed
      · refine keyed_parseNotificationConf split ?_
        rw [ParsedConfig.parsePopupConf_eq, ParsedConfig.parseBootActionsConf_eq,
          ParsedConfig.parseWirelessChargerConf_eq]
        exact hkeyed

theorem keyed_parseAll (split : SplitStr) (files : List ConfigFile) :
    Keyed (parseAll split files).notificationConfMap := by
  induction files using List.reverseRecOn with
  | nil => exact nofun
  | append_singleton before file ih =>
      unfold parseAll at ih ⊢
      rw [List.foldl_append]
      exact keyed_parseConfig split file ih

section Displays

variable {nConfMap : Table NotificationConf} {hash : String → Int} {told : List Mention}
variable {manager : NotificationManager} {panel : Panel} {mention : Mention} {name : String}

theorem displayed_concat (told : List Mention) (mention : Mention) (name : String) :
    displayed nConfMap (told ++ [mention]) name =
      match tells nConfMap name mention with
      | some request => request
      | none => displayed nConfMap told name := by
  unfold displayed
  rw [latest_concat]
  cases tells nConfMap name mention <;> rfl

theorem displayed_other (hname : mention.2.name ≠ name) :
    displayed nConfMap (told ++ [mention]) name = displayed nConfMap told name := by
  rw [displayed_concat, tells, if_neg hname]

-- The manager and the panel after the mentions so far.
structure Displays (hash : String → Int) (nConfMap : Table NotificationConf) (told : List Mention)
    (manager : NotificationManager) (panel : Panel) : Prop where
  kept : ∀ name, (manager.notificationMap name).isSome = (displayed nConfMap told name).isSome
  numbered : ∀ name kept, manager.notificationMap name = some kept →
    kept.request.notificationId = hash name ∧ (nConfMap name).isSome = true
  shown : ∀ name, (nConfMap name).isSome = true → panel (hash name) = displayed nConfMap told name
  others : ∀ id, (∀ name, (nConfMap name).isSome = true → hash name ≠ id) → panel id = none

def HashesApart (hash : String → Int) (nConfMap : Table NotificationConf) : Prop :=
  ∀ first second, (nConfMap first).isSome = true → (nConfMap second).isSome = true →
    hash first = hash second → first = second

theorem displays_start : Displays hash nConfMap [] {} fun _ => none :=
  ⟨fun _ => rfl, nofun, fun _ _ => rfl, fun _ _ => rfl⟩

variable (hdisplays : Displays hash nConfMap told manager panel)
include hdisplays

-- A mention that changes nothing of what is displayed.
theorem Displays.unchanged
    (hsame : ∀ name, displayed nConfMap (told ++ [mention]) name = displayed nConfMap told name) :
    Displays hash nConfMap (told ++ [mention]) manager panel := by
  refine ⟨fun name => ?_, hdisplays.numbered, fun name hname => ?_, hdisplays.others⟩
  · rw [hsame name]
    exact hdisplays.kept name
  · rw [hsame name]
    exact hdisplays.shown name hname

-- A mention that says nothing.
theorem Displays.silent (hsilent : tells nConfMap mention.2.name mention = none) :
    Displays hash nConfMap (told ++ [mention]) manager panel := by
  refine hdisplays.unchanged fun name => ?_
  by_cases hname : mention.2.name = name
  · rw [displayed_concat, ← hname, hsilent]
  · exact displayed_other hname

-- A mention that writes what is kept and displayed of its own name, and nothing
-- else: no other configured name has its number.
theorem Displays.written (hapart : HashesApart hash nConfMap)
    (hconfigured : (nConfMap mention.2.name).isSome = true) {next : NotificationManager} {panel' : Panel}
    {entry : Option BatteryNotification} {request : Option NotificationRequest}
    (hnew : displayed nConfMap (told ++ [mention]) mention.2.name = request)
    (hmap : ∀ name, next.notificationMap name =
      if name = mention.2.name then entry else manager.notificationMap name)
    (hkept : entry.isSome = request.isSome)
    (hnumbered : ∀ kept ∈ entry, kept.request.notificationId = hash mention.2.name)
    (hpanel : ∀ id, panel' id = if id = hash mention.2.name then request else panel id) :
    Displays hash nConfMap (told ++ [mention]) next panel' := by
  refine ⟨fun name => ?_, fun name kept hentry => ?_, fun name hmentioned => ?_, fun id hid => ?_⟩
  · rw [hmap name]
    split
    · rename_i hsame
      rw [hsame, hnew, hkept]
    · rename_i hother
      rw [displayed_other (Ne.symm hother)]
      exact hdisplays.kept name
  · rw [hmap name] at hentry
    split at hentry
    · rename_i hsame
      rw [hsame]
      exact ⟨hnumbered kept hentry, hconfigured⟩
    · exact hdisplays.numbered name kept hentry
  · rw [hpanel]
    split
    · rename_i hsame
      rw [hapart _ _ hmentioned hconfigured hsame, hnew]
    · rename_i hother
      rw [displayed_other fun hsame => hother (congrArg hash hsame.symm)]
      exact hdisplays.shown name hmentioned
  · rw [hpanel, if_neg fun hsame => hid _ hconfigured hsame.symm]
    exact hdisplays.others id hid

theorem Displays.published (hapart : HashesApart hash nConfMap) (hkeyed : Keyed nConfMap)
    (hhash : mention.1.hash = hash) {cfg : NotificationConf}
    (haction : UInt32.ofInt mention.2.action = PUBLISH_POPUP_ACTION)
    (hcfg : nConfMap mention.2.name = some cfg) :
    let handled := manager.publishNotification mention.1 (fillNotificationCfg mention.1 cfg)
    Displays hash nConfMap (told ++ [mention]) handled.1 (displayAll panel handled.2) := by
  let nCfg := fillNotificationCfg mention.1 cfg
  let entry := (manager.notificationMap mention.2.name).or
    (some (buildNotification mention.1 nCfg manager.events).1)
  have hname : nCfg.name = mention.2.name := hkeyed mention.2.name cfg hcfg
  have hid : (requestOf mention.1 nCfg).notificationId = hash mention.2.name := by
    have hhashed : mention.1.hash nCfg.name = hash mention.2.name := by rw [hhash, hname]
    exact hhashed
  have htells : tells nConfMap mention.2.name mention = some (some (requestOf mention.1 nCfg)) := by
    rw [tells, if_pos rfl, if_pos haction, hcfg, Option.map_some, ← requestOf_fillNotificationCfg]
  have hnew : displayed nConfMap (told ++ [mention]) mention.2.name = some (requestOf mention.1 nCfg) := by
    rw [displayed_concat, htells]
  have hkept : entry.isSome = true := by
    simp only [entry]
    cases manager.notificationMap mention.2.name <;> rfl
  have hnumbered : ∀ kept ∈ entry, kept.request.notificationId = hash mention.2.name := by
    intro kept hentry
    cases hbefore : manager.notificationMap mention.2.name with
    | none =>
        simp only [entry, hbefore] at hentry
        cases hentry
        rw [buildNotification_request]
        exact hid
    | some before =>
        simp only [entry, hbefore] at hentry
        cases hentry
        exact (hdisplays.numbered _ _ hbefore).1
  refine hdisplays.written hapart (by simp [hcfg]) hnew (fun name => ?_) hkept hnumbered fun id => ?_
  · simp only [NotificationManager.publishNotification, Table.emplace, hname, nCfg, entry]
  · simp only [NotificationManager.publishNotification, displayAll, List.foldl_cons, List.foldl_nil,
      NotificationEffect.display, buildNotification_request, hid, nCfg]

theorem Displays.cancelled (hapart : HashesApart hash nConfMap)
    (haction : UInt32.ofInt mention.2.action = CANCLE_POPUP_ACTION) :
    let handled := manager.cancleNotification mention.2.name
    Displays hash nConfMap (told ++ [mention]) handled.1 (displayAll panel handled.2) := by
  have hother : UInt32.ofInt mention.2.action ≠ PUBLISH_POPUP_ACTION := by
    rw [haction]
    decide
  have htells : tells nConfMap mention.2.name mention = some none := by
    rw [tells, if_pos rfl, if_neg hother, if_pos haction]
  have hgone : displayed nConfMap (told ++ [mention]) mention.2.name = none := by
    rw [displayed_concat, htells]
  unfold NotificationManager.cancleNotification
  cases hkept : manager.notificationMap mention.2.name with
  | none =>
      have hbefore : displayed nConfMap told mention.2.name = none := by
        have hsome := hdisplays.kept mention.2.name
        rw [hkept] at hsome
        exact Option.isSome_eq_false_iff.mp hsome.symm |> Option.isNone_iff_eq_none.mp
      refine hdisplays.unchanged fun name => ?_
      by_cases hthis : mention.2.name = name
      · rw [← hthis, hgone, hbefore]
      · exact displayed_other hthis
  | some kept =>
      obtain ⟨hid, hconfigured⟩ := hdisplays.numbered _ _ hkept
      refine hdisplays.written hapart hconfigured hgone (fun name => Table.erase_apply ..) rfl nofun
        fun id => ?_
      simp only [displayAll, List.foldl_cons, List.foldl_nil, NotificationEffect.display, hid]

theorem Displays.handled (mention : Mention) (hapart : HashesApart hash nConfMap) (hkeyed : Keyed nConfMap)
    (hhash : mention.1.hash = hash) :
    let handled := manager.handleNotification mention.1 mention.2.name (.ofInt mention.2.action) nConfMap
    Displays hash nConfMap (told ++ [mention]) handled.1 (displayAll panel handled.2) := by
  unfold NotificationManager.handleNotification
  by_cases hpublish : UInt32.ofInt mention.2.action = PUBLISH_POPUP_ACTION
  · rw [if_pos hpublish]
    cases hcfg : nConfMap mention.2.name with
    | none =>
        refine hdisplays.silent ?_
        rw [tells, if_pos rfl, if_pos hpublish, hcfg]
        rfl
    | some cfg => exact hdisplays.published hapart hkeyed hhash hpublish hcfg
  · rw [if_neg hpublish]
    by_cases hcancel : UInt32.ofInt mention.2.action = CANCLE_POPUP_ACTION
    · rw [if_pos hcancel]
      exact hdisplays.cancelled hapart hcancel
    · rw [if_neg hcancel]
      refine hdisplays.silent ?_
      rw [tells, if_pos rfl, if_neg hpublish, if_neg hcancel]

end Displays

-- The popups of one uevent, one after the other.
theorem displays_popups {nConfMap : Table NotificationConf} {hash : String → Int} {env : NotificationEnv}
    (hapart : HashesApart hash nConfMap) (hkeyed : Keyed nConfMap) (hhash : env.hash = hash)
    (popups : List PopupConf) {told : List Mention} {manager : NotificationManager} {panel : Panel}
    (hdisplays : Displays hash nConfMap told manager panel) :
    let handled := handlePopups env nConfMap popups manager
    Displays hash nConfMap (told ++ popups.map fun popup => (env, popup)) handled.1
      (displayAll panel handled.2) := by
  induction popups generalizing told manager panel with
  | nil => simpa [handlePopups, displayAll] using hdisplays
  | cons item rest ih =>
      have hitem := hdisplays.handled (env, item) hapart hkeyed hhash
      have hrest := ih hitem
      unfold handlePopups
      dsimp only at hrest ⊢
      rw [displayAll_append, List.map_cons, ← List.singleton_append, ← List.append_assoc]
      exact hrest

theorem displays_run {parsed : ParsedConfig} {hash : String → Int}
    (hapart : HashesApart hash parsed.notificationConfMap) (hkeyed : Keyed parsed.notificationConfMap)
    {history : List PopupCall} {manager : NotificationManager} {log : List NotificationEffect}
    (hrun : PopupRun parsed history manager log)
    (hhash : ∀ call ∈ history, call.platform.env.hash = hash) :
    Displays hash parsed.notificationConfMap (mentions parsed history) manager
      (displayAll (fun _ => none) log) := by
  induction hrun with
  | nil => exact displays_start
  | @snoc history manager next log out call hrun hstep ih =>
      have hbefore := ih fun other hother => hhash other (List.mem_append_left _ hother)
      have hnext := displays_popups hapart hkeyed (hhash call (by simp)) (popupsOf parsed call) hbefore
      have hmoved := Option.some.inj hstep
      rw [hmoved] at hnext
      unfold mentions at hnext ⊢
      rw [displayAll_append, List.flatMap_append, List.flatMap_singleton]
      exact hnext

-- What is displayed after any sequence of uevents. A notification of the
-- document is there exactly when the last popup that decides about its name
-- publishes it, with the labels of that moment, and nothing else is there.
theorem popupRun_displayed (split : SplitStr) (files : List ConfigFile) (hash : String → Int)
    (hapart : HashesApart hash (parseAll split files).notificationConfMap)
    {history : List PopupCall} {manager : NotificationManager} {log : List NotificationEffect}
    (hrun : PopupRun (parseAll split files) history manager log)
    (hhash : ∀ call ∈ history, call.platform.env.hash = hash) :
    (∀ name cfg, (parseAll split files).notificationConfMap name = some cfg →
      displayAll (fun _ => none) log (hash name) =
        displayed (parseAll split files).notificationConfMap (mentions (parseAll split files) history)
          name) ∧
    ∀ id, (∀ name cfg, (parseAll split files).notificationConfMap name = some cfg → hash name ≠ id) →
      displayAll (fun _ => none) log id = none := by
  have hdisplays := displays_run hapart (keyed_parseAll split files) hrun hhash
  constructor
  · intro name cfg hcfg
    exact hdisplays.shown name (by rw [hcfg]; rfl)
  · intro id hid
    refine hdisplays.others id fun name hname => ?_
    obtain ⟨cfg, hcfg⟩ := Option.isSome_iff_exists.mp hname
    exact hid name cfg hcfg

-- A document with one notification, which one uevent publishes and another one
-- cancels.
def hotDocument : CJson := .Object [
  ("popup", .Object [
    ("BATTERY_HOT=1", .Array [.Object [("name", .Text "hot"), ("action", .Number 0)]]),
    ("BATTERY_HOT=0", .Array [.Object [("name", .Text "hot"), ("action", .Number 1)]])]),
  ("notification", .Array [.Object [
    ("name", .Text "hot"), ("icon", .Text "icon"), ("title", .Text "title"), ("text", .Text "text"),
    ("button", .Array [
      .Object [("name", .Text "ok"), ("action", .Text "ok")],
      .Object [("name", .Text ""), ("action", .Text "")]])]])]

def hotPlatform : NotificationPlatform where
  supported := true
  loads := true
  env := {
    getStringByKey := id, hash := fun name => name.length, iconDecodes := fun _ => true
    subscribes := true }

def hotHistory : List PopupCall :=
  [⟨hotPlatform, "BATTERY_HOT=1"⟩, ⟨hotPlatform, "BATTERY_HOT=0"⟩, ⟨hotPlatform, "BATTERY_HOT=1"⟩]

theorem hotDocument_configured {name : String}
    (hname : ((parseAll dotSplit [.Document hotDocument]).notificationConfMap name).isSome = true) :
    name = "hot" := by
  by_contra hother
  have hnone : (parseAll dotSplit [.Document hotDocument]).notificationConfMap name = none := if_neg hother
  rw [hnone] at hname
  cases hname

theorem popupRun_displayed_hot :
    let parsed := parseAll dotSplit [.Document hotDocument]
    let last := (exec (popupStep parsed) {} hotHistory).get rfl
    displayAll (fun _ => none) last.2 3 =
      displayed parsed.notificationConfMap (mentions parsed hotHistory) "hot" := by
  refine (popupRun_displayed dotSplit [.Document hotDocument] (fun name => name.length) ?_
    (exec_run _ _ hotHistory rfl) ?_).1 "hot" _ rfl
  · intro first second hfirst hsecond _
    rw [hotDocument_configured hfirst, hotDocument_configured hsecond]
  · intro call hm
    simp only [hotHistory, List.mem_cons, List.not_mem_nil, or_false] at hm
    rcases hm with rfl | rfl | rfl <;> rfl

end BatteryManager
