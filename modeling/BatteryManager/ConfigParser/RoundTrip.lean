import BatteryManager.ConfigParser.Lookup
import BatteryManager.Info
import BatteryManager.Library.Bytes

namespace BatteryManager

open Library

-- The parts of a document that have a parser of their own.
def PARTS : List String := ["light", "wirelesscharger", "boot_actions", "popup", "notification"]

-- What `valueint` and an `int32_t` can hold.
def FitsInt32 (value : Int) : Prop := INT32_MIN ≤ value ∧ value ≤ INT32_MAX

instance (value : Int) : Decidable (FitsInt32 value) := inferInstanceAs (Decidable (_ ∧ _))

instance (keys : List String) : Decidable (KeyNames keys) :=
  decidable_of_iff ((MIN_DEPTH ≤ keys.length ∧ keys.length ≤ MAX_DEPTH) ∧ (∀ name ∈ keys, name ≠ "") ∧
      (∀ name ∈ keys, '.' ∉ name.toList) ∧ ∀ name ∈ keys, ' ' ∉ name.toList)
    ⟨fun ⟨hdepth, hnonempty, hseparator, hblank⟩ => ⟨hdepth, hnonempty, hseparator, hblank⟩,
      fun ⟨hdepth, hnonempty, hseparator, hblank⟩ => ⟨hdepth, hnonempty, hseparator, hblank⟩⟩

-- What a configuration file is written to say. Of two entries with one name the
-- first counts. A number is asked for by the names of its group and its own, a
-- colour has three bytes, and all numbers fit in an `int32_t`.
structure Settings where
  numbers : List (String × List (String × Int)) := []
  lights : List (String × LightConf) := []
  wirelessCharger : Bool := false
  commonEvents : List CommonEventConf := []
  popups : List (String × List PopupConf) := []
  notifications : List NotificationConf := []
  numbersApart : ∀ group ∈ numbers, group.1 ∉ PARTS
  numbersNamed : ∀ group ∈ numbers, ∀ number ∈ group.2, KeyNames [group.1, number.1]
  numbersFit : ∀ group ∈ numbers, ∀ number ∈ group.2, FitsInt32 number.2
  levelsFit : ∀ light ∈ lights, FitsInt32 light.2.beginSoc ∧ FitsInt32 light.2.endSoc
  threeBytes : ∀ light ∈ lights, light.2.rgb.toNat < 16777216
  actionsFit : ∀ popup ∈ popups, ∀ conf ∈ popup.2, FitsInt32 conf.action

def encodeLight (light : LightConf) : CJson :=
  .Object [
    ("soc", .Array [.Number light.beginSoc, .Number light.endSoc]),
    ("rgb", .Array [.Number (highByte light.rgb), .Number (middleByte light.rgb),
      .Number (lowByte light.rgb)])]

def encodeCommonEvent (conf : CommonEventConf) : CJson :=
  .Object [
    ("event_name", .Text conf.eventName),
    ("scene_config", .Object [
      ("name", .Text conf.sceneConfigName),
      (if conf.sceneConfigEqual then "equal" else "not_equal", .Text conf.sceneConfigValue)]),
    ("uevent", .Text conf.uevent)]

def encodePopup (conf : PopupConf) : CJson :=
  .Object [("name", .Text conf.name), ("action", .Number conf.action)]

def encodeButton (button : String × String) : CJson :=
  .Object [("name", .Text button.1), ("action", .Text button.2)]

def encodeNotification (conf : NotificationConf) : CJson :=
  .Object [
    ("name", .Text conf.name),
    ("icon", .Text conf.icon),
    ("title", .Text conf.title),
    ("text", .Text conf.text),
    ("bannerFlags", .Number (toInt32 conf.bannerFlags.toNat)),
    ("inProgress", .Boolean conf.inProgress),
    ("unRemovable", .Boolean conf.unRemovable),
    ("button", .Array [encodeButton conf.firstButton, encodeButton conf.secondButton])]

def encodeMembers {α : Type*} (encode : α → CJson) (entries : List (String × α)) : CJson :=
  .Object (entries.map fun entry => (entry.1, encode entry.2))

namespace Settings

variable (settings : Settings)

def parts : List (String × CJson) := [
  ("light", encodeMembers encodeLight settings.lights),
  ("wirelesscharger", .Number (if settings.wirelessCharger then 1 else 0)),
  ("boot_actions", .Object [("sendcommonevent", .Array (settings.commonEvents.map encodeCommonEvent))]),
  ("popup", encodeMembers (fun popup => .Array (popup.map encodePopup)) settings.popups),
  ("notification", .Array (settings.notifications.map encodeNotification))]

def numberMembers : List (String × CJson) :=
  settings.numbers.map fun group => (group.1, encodeMembers .Number group.2)

def encode : CJson := .Object (settings.numberMembers ++ settings.parts)

-- What the settings say, in the terms of the parser's tables.
def lightConf : List LightConf :=
  ["low", "normal", "high"].filterMap fun level => settings.lights.lookup level

def popupConfig : Table (List PopupConf) := fun uevent => settings.popups.lookup uevent

def notificationConfMap : Table NotificationConf := fun name =>
  settings.notifications.find? fun conf => conf.name = name

def number? (group name : String) : Option Int :=
  (settings.numbers.lookup group).bind (List.lookup name)

-- The parser has read exactly the settings. Notifications from before stay.
structure ReadBy (split : SplitStr) (parsed next : ParsedConfig) : Prop where
  lightConf : next.lightConf = settings.lightConf
  wirelessCharger : next.wirelessChargerEnable = settings.wirelessCharger
  commonEventConf : next.commonEventConf = settings.commonEvents
  popupConf : next.popupConfig = settings.popupConfig
  notificationConf : ∀ name, next.notificationConfMap name =
    (parsed.notificationConfMap name).or (settings.notificationConfMap name)
  getInt : ∀ group name value, settings.number? group name = some value → ∀ defVal,
    next.getInt split (dottedKey [group, name]) defVal = value
  getDefault : ∀ group name, KeyNames [group, name] → group ∉ PARTS →
    settings.number? group name = none → ∀ defVal,
    next.getInt split (dottedKey [group, name]) defVal = defVal

end Settings

section Entries

theorem getObjectItem_encodeMembers {α : Type*} (encode : α → CJson) (entries : List (String × α))
    (name : String) :
    (encodeMembers encode entries).getObjectItemCaseSensitive name =
      (entries.lookup name).map encode := by
  change (List.find? (fun member => decide (member.1 = name))
    (entries.map fun entry => (entry.1, encode entry.2))).map Prod.snd = (entries.lookup name).map encode
  induction entries with
  | nil => rfl
  | cons entry rest ih =>
      obtain ⟨key, value⟩ := entry
      by_cases hname : key = name
      · subst hname
        simp
      · have hne : (name == key) = false := by simp [Ne.symm hname]
        rw [List.map_cons, List.find?_cons_of_neg (by simp [hname]), List.lookup_cons, hne]
        exact ih

theorem getObjectItem_append (members later : List (String × CJson)) (name : String) :
    (CJson.Object (members ++ later)).getObjectItemCaseSensitive name =
      ((CJson.Object members).getObjectItemCaseSensitive name).or
        ((CJson.Object later).getObjectItemCaseSensitive name) := by
  unfold CJson.getObjectItemCaseSensitive CJson.members
  rw [List.find?_append, Option.map_or]

theorem filterMap_map_self {α β : Type*} (encode : α → β) (decode : β → Option α) (values : List α)
    (hdecode : ∀ value ∈ values, decode (encode value) = some value) :
    (values.map encode).filterMap decode = values := by
  induction values with
  | nil => rfl
  | cons value rest ih =>
      have hrest := ih fun other hother => hdecode other (by simp [hother])
      simp [hdecode value (by simp), hrest]

theorem commonEventEntry_encode (conf : CommonEventConf) :
    commonEventEntry (encodeCommonEvent conf) = some conf := by
  obtain ⟨eventName, uevent, sceneConfigName, sceneConfigEqual, sceneConfigValue⟩ := conf
  cases sceneConfigEqual <;> rfl

theorem popupEntry_encode {conf : PopupConf} (hfits : FitsInt32 conf.action) :
    popupEntry (encodePopup conf) = some conf := by
  obtain ⟨hlow, hhigh⟩ := hfits
  have hbmod : conf.action.bmod 4294967296 = conf.action := by
    unfold INT32_MIN at hlow
    unfold INT32_MAX at hhigh
    exact Int.bmod_eq_of_le (by omega) (by omega)
  have hentry : popupEntry (encodePopup conf) =
      some { name := conf.name, action := conf.action.bmod 4294967296 } := rfl
  rw [hentry, hbmod]

theorem notificationEntry_encode (conf : NotificationConf) :
    notificationEntry (encodeNotification conf) = .Save conf := by
  obtain ⟨name, icon, title, text, bannerFlags, inProgress, unRemovable, firstButton, secondButton⟩ := conf
  have hflags := ofInt_toInt32 bannerFlags
  unfold encodeNotification
  dsimp only
  generalize toInt32 bannerFlags.toNat = flags at hflags ⊢
  subst hflags
  rfl

theorem packBytes_bytes {rgb : UInt32} (hrgb : rgb.toNat < 16777216) :
    packBytes (UInt32.ofInt (highByte rgb)) (UInt32.ofInt (middleByte rgb))
      (UInt32.ofInt (lowByte rgb)) = rgb := by
  have hbyte : ∀ {value : Nat}, value < 256 → (UInt32.ofInt value).toNat = value := by
    intro value hvalue
    exact_mod_cast toNat_ofInt_byte (Int.natCast_nonneg value) (by omega)
  have hhigh := hbyte (highByte_lt rgb)
  have hmiddle := hbyte (middleByte_lt rgb)
  have hlow := hbyte (lowByte_lt rgb)
  apply UInt32.toNat_inj.mp
  rw [packBytes_toNat (by rw [hhigh]; exact highByte_lt rgb) (by rw [hmiddle]; exact middleByte_lt rgb)
    (by rw [hlow]; exact lowByte_lt rgb), hhigh, hmiddle, hlow, bytes_toNat hrgb]

theorem savePopupConf_encode (popups : List (String × List PopupConf))
    (hfit : ∀ popup ∈ popups, ∀ conf ∈ popup.2, FitsInt32 conf.action)
    (table : Table (List PopupConf)) (uevent : String) :
    savePopupConf (popups.map fun popup => (popup.1, .Array (popup.2.map encodePopup))) table uevent =
      (table uevent).or (popups.lookup uevent) := by
  induction popups generalizing table with
  | nil => simp [savePopupConf]
  | cons popup rest ih =>
      obtain ⟨name, confs⟩ := popup
      have hconfs : (confs.map encodePopup).filterMap popupEntry = confs :=
        filterMap_map_self encodePopup popupEntry confs fun conf hconf =>
          popupEntry_encode (hfit (name, confs) (by simp) conf hconf)
      have hrest := ih (fun other hother => hfit other (by simp [hother])) (table.emplace name confs)
      rw [List.map_cons, savePopupConf, hconfs, hrest, List.lookup_cons]
      unfold Table.emplace
      by_cases hname : uevent = name
      · subst hname
        cases table uevent <;> simp
      · have hne : (uevent == name) = false := by simp [hname]
        rw [if_neg hname, hne]

theorem saveNotificationConfToMap_encode (notifications : List NotificationConf)
    (map : Table NotificationConf) (name : String) :
    saveNotificationConfToMap (notifications.map encodeNotification) map name =
      (map name).or (notifications.find? fun conf => conf.name = name) := by
  induction notifications generalizing map with
  | nil => simp [saveNotificationConfToMap]
  | cons conf rest ih =>
      rw [List.map_cons, saveNotificationConfToMap, notificationEntry_encode]
      dsimp only
      rw [ih, List.find?_cons]
      unfold Table.emplace
      by_cases hname : name = conf.name
      · subst hname
        cases map conf.name <;> simp
      · simp [hname, Ne.symm hname]

end Entries

theorem array?_stopsWith {json : CJson} (next : String) (hjson : CJson.array? (some json) = none) :
    CJson.array? (stopsWith json next) = none := by
  unfold stopsWith
  split
  · rfl
  · exact hjson

namespace Settings

variable (settings : Settings)

theorem encode_part {name : String} (hname : name ∈ PARTS) :
    settings.encode.getObjectItemCaseSensitive name =
      (CJson.Object settings.parts).getObjectItemCaseSensitive name := by
  have hnumbers : settings.numbers.lookup name = none := by
    refine List.lookup_eq_none_iff.mpr fun group hgroup => ?_
    have hne : name ≠ group.1 := fun hsame => settings.numbersApart group hgroup (hsame ▸ hname)
    simpa using hne
  have hnone := getObjectItem_encodeMembers (encodeMembers CJson.Number) settings.numbers name
  rw [hnumbers, Option.map_none] at hnone
  rw [encode, getObjectItem_append]
  exact (congrArg (Option.or · _) hnone).trans Option.none_or

theorem encode_numbers {name : String} (hname : name ∉ PARTS) :
    settings.encode.getObjectItemCaseSensitive name =
      (settings.numbers.lookup name).map (encodeMembers .Number) := by
  have hparts : (CJson.Object settings.parts).getObjectItemCaseSensitive name = none := by
    simp only [PARTS, List.mem_cons, List.not_mem_nil, or_false, not_or] at hname
    obtain ⟨hlight, hcharger, hboot, hpopup, hnotification⟩ := hname
    simp [parts, CJson.getObjectItemCaseSensitive, CJson.members, Ne.symm hlight, Ne.symm hcharger,
      Ne.symm hboot, Ne.symm hpopup, Ne.symm hnotification]
  rw [encode, getObjectItem_append, hparts, Option.or_none]
  exact getObjectItem_encodeMembers (encodeMembers CJson.Number) settings.numbers name

-- A number of the settings has a name that it can be asked for by.
theorem number?_named {group name : String} {value : Int} (hnumber : settings.number? group name = some value) :
    KeyNames [group, name] ∧ group ∉ PARTS := by
  obtain ⟨numbers, hgroup, hname⟩ := Option.bind_eq_some_iff.mp hnumber
  obtain ⟨before, after, hnumbers, -⟩ := List.lookup_eq_some_iff.mp hgroup
  obtain ⟨earlier, later, hentries, -⟩ := List.lookup_eq_some_iff.mp hname
  have hmem : (group, numbers) ∈ settings.numbers := by simp [hnumbers]
  have hentry : (name, value) ∈ numbers := by simp [hentries]
  exact ⟨settings.numbersNamed _ hmem _ hentry, settings.numbersApart _ hmem⟩

theorem isEmptyJsonParse_encode : isEmptyJsonParse settings.encode = false := by
  cases hnumbers : settings.numberMembers <;>
    simp [encode, isEmptyJsonParse, hnumbers, parts]

end Settings

section Read

variable {split : SplitStr} (hsplit : SplitsDots split)

include hsplit

theorem getValue_path {members : List (String × CJson)} {keys : List String} (hkeys : KeyNames keys)
    {value : CJson} (hpath : CJson.atPath keys (.Object members) = some value) :
    getValue split (some (.Object members)) (dottedKey keys) = some value := by
  cases keys with
  | nil => cases hkeys.depth.1
  | cons first rest =>
      obtain ⟨child, hitem, hrest⟩ := Option.bind_eq_some_iff.mp hpath
      rw [getValue_object hsplit members hkeys, hitem]
      exact descend_path hrest

variable (settings : Settings)

-- The parts that stand at the top of the document.
theorem getValue_part {name : String} (hname : name ∈ PARTS) (hkeys : KeyNames [name])
    {value : CJson}
    (hvalue : (CJson.Object settings.parts).getObjectItemCaseSensitive name = some value) :
    getValue split (some settings.encode) (dottedKey [name]) = some value := by
  refine getValue_path hsplit hkeys ?_
  rw [CJson.atPath_singleton]
  exact (settings.encode_part hname).trans hvalue

-- A level that is not there leads to the object of the lights, which is no array.
theorem array?_getValue_light {level field : String} (hkeys : KeyNames ["light", level, field]) :
    CJson.array? (getValue split (some settings.encode) (dottedKey ["light", level, field])) =
      CJson.array? (((settings.lights.lookup level).map encodeLight).bind fun light =>
        light.getObjectItemCaseSensitive field) := by
  have hlights : settings.encode.getObjectItemCaseSensitive "light" =
      some (encodeMembers encodeLight settings.lights) := settings.encode_part (by decide)
  have hlevel := getObjectItem_encodeMembers encodeLight settings.lights level
  rw [Settings.encode, getValue_object hsplit _ hkeys, ← Settings.encode, hlights, Option.bind_some]
  cases hlight : settings.lights.lookup level with
  | none =>
      rw [hlight, Option.map_none] at hlevel
      rw [descend_stops [field] hlevel]
      exact array?_stopsWith level rfl
  | some light =>
      rw [hlight, Option.map_some] at hlevel
      rw [descend_item [field] hlevel, Option.map_some, Option.bind_some]
      cases hfield : (encodeLight light).getObjectItemCaseSensitive field with
      | none =>
          rw [descend_stops [] hfield]
          exact array?_stopsWith field rfl
      | some value => rw [descend_item [] hfield, descend]

theorem parseLightConf_encode {level : String} (hlevel : level ∈ ["low", "normal", "high"]) :
    parseLightConf split (some settings.encode) level = settings.lights.lookup level := by
  have hkeys : (KeyNames ["light", level, "soc"] ∧
        "light." ++ level ++ ".soc" = dottedKey ["light", level, "soc"]) ∧
      KeyNames ["light", level, "rgb"] ∧
        "light." ++ level ++ ".rgb" = dottedKey ["light", level, "rgb"] := by
    simp only [List.mem_cons, List.not_mem_nil, or_false] at hlevel
    rcases hlevel with rfl | rfl | rfl <;>
      exact ⟨⟨⟨by decide, by decide, by decide, by decide⟩, rfl⟩,
        ⟨by decide, by decide, by decide, by decide⟩, rfl⟩
  obtain ⟨⟨hsocKeys, hsocName⟩, hrgbKeys, hrgbName⟩ := hkeys
  rw [parseLightConf, hsocName, hrgbName, array?_getValue_light hsplit settings hsocKeys,
    array?_getValue_light hsplit settings hrgbKeys]
  cases hlight : settings.lights.lookup level with
  | none => rfl
  | some light =>
      obtain ⟨before, after, hlights, -⟩ := List.lookup_eq_some_iff.mp hlight
      have hbytes := packBytes_bytes (settings.threeBytes (level, light) (by simp [hlights]))
      exact congrArg (fun rgb => some { light with rgb := rgb }) hbytes

theorem commonEventItems_encode :
    commonEventItems split (some settings.encode) =
      some (settings.commonEvents.map encodeCommonEvent) := by
  have hkeys : KeyNames ["boot_actions"] := ⟨by decide, by decide, by decide, by decide⟩
  have hvalue := getValue_part hsplit settings (by decide) hkeys rfl
  have hname : "boot_actions" = dottedKey ["boot_actions"] := rfl
  rw [commonEventItems, hname, hvalue]
  rfl

-- A name that no group has leads to the group, which is no number.
theorem number?_encode {group name : String} (hgroup : group ∉ PARTS) (hkeys : KeyNames [group, name]) :
    CJson.number? (getValue split (some settings.encode) (dottedKey [group, name])) =
      settings.number? group name := by
  have hitem := settings.encode_numbers hgroup
  rw [Settings.encode, getValue_object hsplit _ hkeys, ← Settings.encode, hitem]
  unfold Settings.number?
  cases hnumbers : settings.numbers.lookup group with
  | none => rfl
  | some numbers =>
      have hnumber := getObjectItem_encodeMembers CJson.Number numbers name
      rw [Option.map_some, Option.bind_some, Option.bind_some]
      cases hvalue : numbers.lookup name with
      | none =>
          rw [hvalue, Option.map_none] at hnumber
          rw [descend_stops [] hnumber]
          unfold stopsWith
          split <;> rfl
      | some value =>
          rw [hvalue, Option.map_some] at hnumber
          rw [descend_item [] hnumber]
          rfl

-- Reading what was written gives the settings back, whatever the parser has read
-- before.
theorem parseConfig_encode (parsed : ParsedConfig) :
    (parsed.parseConfig split (.Document settings.encode)).1 = true ∧
      settings.ReadBy split parsed (parsed.parseConfig split (.Document settings.encode)).2 := by
  have hempty := settings.isEmptyJsonParse_encode
  have hleaves := parseConfig_leaves split hempty parsed
  have hpart : ∀ name ∈ PARTS, KeyNames [name] ∧ name = dottedKey [name] := by
    simp only [PARTS, List.mem_cons, List.not_mem_nil, or_false]
    rintro name (rfl | rfl | rfl | rfl | rfl) <;>
      exact ⟨⟨by decide, by decide, by decide, by decide⟩, rfl⟩
  have hvalue : ∀ name ∈ PARTS, ∀ value,
      (CJson.Object settings.parts).getObjectItemCaseSensitive name = some value →
      getValue split (some settings.encode) name = some value := by
    intro name hname value hitem
    obtain ⟨hkeys, hdotted⟩ := hpart name hname
    rw [hdotted]
    exact getValue_part hsplit settings hname hkeys hitem
  refine ⟨?_, ?_, ?_, ?_, ?_, ?_, ?_, ?_⟩
  · unfold ParsedConfig.parseConfig
    dsimp only
    rw [if_neg (by simp [hempty])]
  · rw [hleaves.lightConf]
    exact List.filterMap_congr fun level hlevel => parseLightConf_encode hsplit settings hlevel
  · rw [hleaves.wirelessCharger, hvalue "wirelesscharger" (by decide) _ rfl]
    cases settings.wirelessCharger <;> rfl
  · rw [hleaves.commonEventConf, commonEventItems_encode hsplit settings, Option.map_some,
      Option.getD_some]
    exact filterMap_map_self encodeCommonEvent commonEventEntry settings.commonEvents
      fun conf _ => commonEventEntry_encode conf
  · rw [hleaves.popup, hvalue "popup" (by decide) _ rfl]
    funext uevent
    exact (savePopupConf_encode settings.popups settings.actionsFit Table.empty uevent).trans
      Option.none_or
  · intro name
    rw [hleaves.notification name, ParsedConfig.notifications,
      hvalue "notification" (by decide) _ rfl]
    exact congrArg ((parsed.notificationConfMap name).or ·)
      ((saveNotificationConfToMap_encode settings.notifications Table.empty name).trans Option.none_or)
  · intro group name value hnumber defVal
    obtain ⟨hkeys, hgroup⟩ := settings.number?_named hnumber
    rw [ParsedConfig.getInt, hleaves.config, number?_encode hsplit settings hgroup hkeys, hnumber,
      Option.getD_some]
  · intro group name hkeys hgroup hnone defVal
    rw [ParsedConfig.getInt, hleaves.config, number?_encode hsplit settings hgroup hkeys, hnone,
      Option.getD_none]

end Read

def savedSettings : Settings where
  numbers := [("soc", [("shutdown", 1), ("low", 20)])]
  lights := [("high", ⟨90, 100, 0x00FF00⟩), ("low", ⟨0, 10, 0xFF0000⟩)]
  wirelessCharger := true
  popups := [("charger", [{ name := "hot", action := -1 }])]
  numbersApart := by decide
  numbersNamed := by decide
  numbersFit := by decide
  levelsFit := by decide
  threeBytes := by decide
  actionsFit := by decide

theorem parseConfig_encode_saved :
    let read := (({} : ParsedConfig).parseConfig dotSplit (.Document savedSettings.encode)).2
    read.lightConf = [⟨0, 10, 0xFF0000⟩, ⟨90, 100, 0x00FF00⟩] ∧
      read.getInt dotSplit (dottedKey ["soc", "low"]) 5 = 20 := by
  have hread := (parseConfig_encode dotSplit_splitsDots savedSettings {}).2
  exact ⟨hread.lightConf, hread.getInt "soc" "low" 20 rfl 5⟩

end BatteryManager
