import BatteryManager.ConfigParser

namespace BatteryManager

open Library

section Tables

-- A map that was there before only gains the names it does not have.
theorem saveNotificationConfToMap_apply (nConf : List CJson) (map : Table NotificationConf)
    (name : String) :
    saveNotificationConfToMap nConf map name =
      (map name).or (saveNotificationConfToMap nConf Table.empty name) := by
  induction nConf generalizing map with
  | nil => simp [saveNotificationConfToMap]
  | cons conf rest ih =>
      unfold saveNotificationConfToMap
      cases notificationEntry conf with
      | Continue => exact ih map
      | Return => simp
      | Save entry =>
          dsimp only
          rw [ih (map.emplace entry.name entry), ih (Table.empty.emplace entry.name entry)]
          exact Table.emplace_or map _ entry.name entry name

theorem or_eq_right_iff {α : Type*} (old new : Option α) :
    old.or new = new ↔ ∀ value, old = some value → new = some value := by
  cases old with
  | none => simp
  | some value => simp [eq_comm]

end Tables

namespace ParsedConfig

variable (split : SplitStr)

-- The notifications of one document alone.
def notifications (json : CJson) : Table NotificationConf :=
  match CJson.array? (getValue split (some json) "notification") with
  | some nConf => saveNotificationConfToMap nConf Table.empty
  | none => Table.empty

-- Each part of the document, where it is there, replaces its own table.
theorem parseWirelessChargerConf_eq (parsed : ParsedConfig) :
    parsed.parseWirelessChargerConf split = { parsed with
      wirelessChargerEnable := ((CJson.number? (getValue split parsed.config "wirelesscharger")).map
        fun valueint => decide (valueint ≠ 0)).getD parsed.wirelessChargerEnable } := by
  unfold parseWirelessChargerConf
  cases CJson.number? (getValue split parsed.config "wirelesscharger") <;> rfl

theorem parseBootActionsConf_eq (parsed : ParsedConfig) :
    parsed.parseBootActionsConf split = { parsed with
      commonEventConf := ((commonEventItems split parsed.config).map
        (List.filterMap commonEventEntry)).getD parsed.commonEventConf } := by
  unfold parseBootActionsConf
  cases commonEventItems split parsed.config <;> rfl

theorem parsePopupConf_eq (parsed : ParsedConfig) :
    parsed.parsePopupConf split = { parsed with
      popupConfig := ((CJson.object? (getValue split parsed.config "popup")).map
        fun members => savePopupConf members Table.empty).getD parsed.popupConfig } := by
  unfold parsePopupConf
  cases CJson.object? (getValue split parsed.config "popup") <;> rfl

-- The notifications are not replaced but added.
theorem parseNotificationConf_apply (parsed : ParsedConfig) (json : CJson)
    (hjson : parsed.config = some json) (name : String) :
    (parsed.parseNotificationConf split).notificationConfMap name =
      (parsed.notificationConfMap name).or (notifications split json name) := by
  unfold parseNotificationConf notifications
  rw [hjson]
  cases CJson.array? (getValue split (some json) "notification") with
  | none => simp
  | some nConf => exact saveNotificationConfToMap_apply nConf parsed.notificationConfMap name

end ParsedConfig

-- What a caller can ask.
structure SameAnswers (split : SplitStr) (first second : ParsedConfig) : Prop where
  lightConf : first.lightConf = second.lightConf
  commonEventConf : first.commonEventConf = second.commonEventConf
  popupConf : first.popupConfig = second.popupConfig
  notificationConf : first.notificationConfMap = second.notificationConfMap
  wirelessChargerConf : first.wirelessChargerEnable = second.wirelessChargerEnable
  getInt : ∀ key defVal, first.getInt split key defVal = second.getInt split key defVal
  isExist : ∀ key, first.isExist split key = second.isExist split key

-- The document replaces whatever the tables hold, or they hold nothing that it
-- does not say as well.
structure Overwrites (split : SplitStr) (json : CJson) (parsed : ParsedConfig) : Prop where
  wirelessCharger : (CJson.number? (getValue split (some json) "wirelesscharger")).isSome = true ∨
    parsed.wirelessChargerEnable = false
  commonEvent : (commonEventItems split (some json)).isSome = true ∨ parsed.commonEventConf = []
  popup : (CJson.object? (getValue split (some json) "popup")).isSome = true ∨
    parsed.popupConfig = Table.empty
  notification : ∀ name conf, parsed.notificationConfMap name = some conf →
    ParsedConfig.notifications split json name = some conf

-- What a document leaves in the parser, given what was there before.
structure Leaves (split : SplitStr) (json : CJson) (parsed next : ParsedConfig) : Prop where
  config : next.config = some json
  lightConf : next.lightConf = ["low", "normal", "high"].filterMap (parseLightConf split (some json))
  commonEventConf : next.commonEventConf = ((commonEventItems split (some json)).map
    (List.filterMap commonEventEntry)).getD parsed.commonEventConf
  wirelessCharger : next.wirelessChargerEnable =
    ((CJson.number? (getValue split (some json) "wirelesscharger")).map
      fun valueint => decide (valueint ≠ 0)).getD parsed.wirelessChargerEnable
  popup : next.popupConfig = ((CJson.object? (getValue split (some json) "popup")).map
    fun members => savePopupConf members Table.empty).getD parsed.popupConfig
  notification : ∀ name, next.notificationConfMap name =
    (parsed.notificationConfMap name).or (ParsedConfig.notifications split json name)

section Parse

variable (split : SplitStr) {json : CJson}

theorem parseConfig_leaves (hjson : isEmptyJsonParse json = false) (parsed : ParsedConfig) :
    Leaves split json parsed (parsed.parseConfig split (.Document json)).2 := by
  have hnext : (parsed.parseConfig split (.Document json)).2 =
      { parsed with config := some json }.parseConfInner split := by
    unfold ParsedConfig.parseConfig
    dsimp only
    rw [if_neg (by simp [hjson])]
  rw [hnext]
  unfold ParsedConfig.parseConfInner
  dsimp only
  rw [ParsedConfig.parseWirelessChargerConf_eq, ParsedConfig.parseBootActionsConf_eq,
    ParsedConfig.parsePopupConf_eq]
  let tables : ParsedConfig := {
    config := some json
    lightConf := ["low", "normal", "high"].filterMap (parseLightConf split (some json))
    commonEventConf := ((commonEventItems split (some json)).map
      (List.filterMap commonEventEntry)).getD parsed.commonEventConf
    wirelessChargerEnable := ((CJson.number? (getValue split (some json) "wirelesscharger")).map
      fun valueint => decide (valueint ≠ 0)).getD parsed.wirelessChargerEnable
    popupConfig := ((CJson.object? (getValue split (some json) "popup")).map
      fun members => savePopupConf members Table.empty).getD parsed.popupConfig
    notificationConfMap := parsed.notificationConfMap }
  change Leaves split json parsed (tables.parseNotificationConf split)
  have hkept : tables.parseNotificationConf split = { tables with
      notificationConfMap := (tables.parseNotificationConf split).notificationConfMap } := by
    unfold ParsedConfig.parseNotificationConf
    cases CJson.array? (getValue split tables.config "notification") <;> rfl
  rw [hkept]
  exact ⟨rfl, rfl, rfl, rfl, rfl, tables.parseNotificationConf_apply split json rfl⟩

-- The answers of the getters only depend on the document.
theorem getInt_config {first second : ParsedConfig} (hconfig : first.config = second.config) (key : String)
    (defVal : Int) : first.getInt split key defVal = second.getInt split key defVal := by
  unfold ParsedConfig.getInt
  rw [hconfig]

theorem isExist_config {first second : ParsedConfig} (hconfig : first.config = second.config)
    (key : String) : first.isExist split key = second.isExist split key := by
  unfold ParsedConfig.isExist
  rw [hconfig]

theorem map_getD_eq_iff {α β : Type*} (found : Option α) (read : α → β) (old fresh : β) :
    (found.map read).getD old = (found.map read).getD fresh ↔ found.isSome = true ∨ old = fresh := by
  cases found <;> simp

end Parse

-- A document gives the same answers as on a fresh instance exactly when it
-- overwrites what the instance held.
theorem parseConfig_sameAnswers_iff (split : SplitStr) (parsed : ParsedConfig) (json : CJson)
    (hjson : isEmptyJsonParse json = false) :
    SameAnswers split (parsed.parseConfig split (.Document json)).2
        (({} : ParsedConfig).parseConfig split (.Document json)).2 ↔ Overwrites split json parsed := by
  have hold := parseConfig_leaves split hjson parsed
  have hfresh := parseConfig_leaves split hjson {}
  have hconfig := hold.config.trans hfresh.config.symm
  constructor
  · intro hsame
    refine ⟨?_, ?_, ?_, ?_⟩
    · have hw := hsame.wirelessChargerConf
      rw [hold.wirelessCharger, hfresh.wirelessCharger] at hw
      exact (map_getD_eq_iff _ _ _ _).mp hw
    · have hc := hsame.commonEventConf
      rw [hold.commonEventConf, hfresh.commonEventConf] at hc
      exact (map_getD_eq_iff _ _ _ _).mp hc
    · have hp := hsame.popupConf
      rw [hold.popup, hfresh.popup] at hp
      exact (map_getD_eq_iff _ _ _ _).mp hp
    · intro name
      have hn := congrFun hsame.notificationConf name
      rw [hold.notification, hfresh.notification] at hn
      exact (or_eq_right_iff _ _).mp hn
  · rintro ⟨hwireless, hcommon, hpopup, hnotification⟩
    refine ⟨hold.lightConf.trans hfresh.lightConf.symm, ?_, ?_, ?_, ?_,
      getInt_config split hconfig, isExist_config split hconfig⟩
    · rw [hold.commonEventConf, hfresh.commonEventConf]
      exact (map_getD_eq_iff _ _ _ _).mpr hcommon
    · rw [hold.popup, hfresh.popup]
      exact (map_getD_eq_iff _ _ _ _).mpr hpopup
    · funext name
      rw [hold.notification, hfresh.notification]
      exact (or_eq_right_iff _ _).mpr (hnotification name)
    · rw [hold.wirelessCharger, hfresh.wirelessCharger]
      exact (map_getD_eq_iff _ _ _ _).mpr hwireless

def dotSplit : SplitStr := fun key => (key.toList.splitOn '.').map String.ofList

-- A number that is given again replaces the older one.
theorem parseConfig_sameAnswers_iff_wireless :
    let before := ({} : ParsedConfig).parseConfig dotSplit
      (.Document (.Object [("wirelesscharger", .Number 1)]))
    let json := CJson.Object [("wirelesscharger", .Number 0)]
    SameAnswers dotSplit (before.2.parseConfig dotSplit (.Document json)).2
      (({} : ParsedConfig).parseConfig dotSplit (.Document json)).2 := by
  refine (parseConfig_sameAnswers_iff dotSplit _ (.Object [("wirelesscharger", .Number 0)]) rfl).mpr
    ⟨.inl (by decide), .inr (by decide), .inr ?_, ?_⟩
  · rfl
  · intro name conf hname
    cases hname

-- The second document does not mention the wireless charger.
theorem not_sameAnswers_wireless :
    ¬∀ (split : SplitStr) (a b : CJson), (({} : ParsedConfig).parseConfig split (.Document a)).1 = true →
      (({} : ParsedConfig).parseConfig split (.Document b)).1 = true →
      SameAnswers split
        ((({} : ParsedConfig).parseConfig split (.Document a)).2.parseConfig split (.Document b)).2
        (({} : ParsedConfig).parseConfig split (.Document b)).2 := by
  intro hsame
  have hwireless := (hsame dotSplit (.Object [("wirelesscharger", .Number 1)])
    (.Object [("soc", .Object [("low", .Number 20)])]) rfl rfl).wirelessChargerConf
  revert hwireless
  decide

-- A parser that describes a document answers as a fresh one that has parsed it.
def Describes (split : SplitStr) (json : CJson) (parsed : ParsedConfig) : Prop :=
  SameAnswers split parsed (({} : ParsedConfig).parseConfig split (.Document json)).2

-- Nothing changes, and what described a document goes on describing it.
structure KeepsAnswers (split : SplitStr) (before after : ParsedConfig) : Prop where
  same : SameAnswers split after before
  describes : ∀ json, Describes split json before → Describes split json after

theorem SameAnswers.refl (split : SplitStr) (parsed : ParsedConfig) : SameAnswers split parsed parsed :=
  ⟨rfl, rfl, rfl, rfl, rfl, fun _ _ => rfl, fun _ => rfl⟩

theorem SameAnswers.trans {split : SplitStr} {first second third : ParsedConfig}
    (hfirst : SameAnswers split first second) (hsecond : SameAnswers split second third) :
    SameAnswers split first third where
  lightConf := hfirst.lightConf.trans hsecond.lightConf
  commonEventConf := hfirst.commonEventConf.trans hsecond.commonEventConf
  popupConf := hfirst.popupConf.trans hsecond.popupConf
  notificationConf := hfirst.notificationConf.trans hsecond.notificationConf
  wirelessChargerConf := hfirst.wirelessChargerConf.trans hsecond.wirelessChargerConf
  getInt key defVal := (hfirst.getInt key defVal).trans (hsecond.getInt key defVal)
  isExist key := (hfirst.isExist key).trans (hsecond.isExist key)

section Failure

variable (split : SplitStr)

theorem getValue_none (key : String) : getValue split none key = none := by
  unfold getValue
  split
  · rfl
  · rfl

-- A key that does not exist leads to no number.
theorem getInt_notExist {parsed : ParsedConfig} {key : String}
    (hkey : parsed.isExist split key = false) (defVal : Int) : parsed.getInt split key defVal = defVal := by
  unfold ParsedConfig.isExist at hkey
  unfold ParsedConfig.getInt
  split at hkey
  · rename_i value hvalue
    rw [hvalue]
    cases value with
    | Number valueint => cases hkey
    | _ => rfl
  · rename_i hvalue
    rw [hvalue]
    rfl

-- An attempt that fails after the file was opened only loses the document.
theorem parseConfig_failed {parsed : ParsedConfig} {file : ConfigFile} (hfile : file ≠ .Missing)
    (hfail : (parsed.parseConfig split file).1 = false) :
    (parsed.parseConfig split file).2 = { parsed with config := none } := by
  cases file with
  | Missing => exact absurd rfl hfile
  | Malformed => rfl
  | Document json =>
      unfold ParsedConfig.parseConfig at hfail ⊢
      dsimp only at hfail ⊢
      split
      · rfl
      · rename_i hjson
        rw [if_neg hjson] at hfail
        cases hfail

end Failure

-- A failed attempt changes nothing exactly when no file was opened, or there was
-- no key to lose.
theorem failedParse_iff (split : SplitStr) (parsed : ParsedConfig) (file : ConfigFile)
    (hfail : (parsed.parseConfig split file).1 = false) :
    KeepsAnswers split parsed (parsed.parseConfig split file).2 ↔
      file = .Missing ∨ ∀ key, parsed.isExist split key = false := by
  have hkeeps : ∀ after, SameAnswers split after parsed → KeepsAnswers split parsed after :=
    fun after hsame => ⟨hsame, fun json hdescribes => hsame.trans hdescribes⟩
  constructor
  · rintro ⟨hsame, -⟩
    by_cases hfile : file = .Missing
    · exact .inl hfile
    · refine .inr fun key => ?_
      rw [← hsame.isExist key, parseConfig_failed split hfile hfail]
      simp [ParsedConfig.isExist, getValue_none]
  · rintro (rfl | hnone)
    · exact hkeeps _ (.refl split parsed)
    · by_cases hfile : file = .Missing
      · subst hfile
        exact hkeeps _ (.refl split parsed)
      · rw [parseConfig_failed split hfile hfail]
        refine hkeeps _ ⟨rfl, rfl, rfl, rfl, rfl, fun key defVal => ?_, fun key => ?_⟩
        · rw [getInt_notExist split (hnone key)]
          simp [ParsedConfig.getInt, getValue_none, CJson.number?]
        · rw [hnone key]
          simp [ParsedConfig.isExist, getValue_none]

def parseAll (split : SplitStr) (files : List ConfigFile) : ParsedConfig :=
  files.foldl (fun parsed file => (parsed.parseConfig split file).2) {}

theorem failedParse_iff_fresh :
    KeepsAnswers dotSplit (parseAll dotSplit [.Missing]) (parseAll dotSplit [.Missing, .Malformed]) := by
  refine (failedParse_iff dotSplit (parseAll dotSplit [.Missing]) .Malformed rfl).mpr (.inr fun key => ?_)
  simp [ParsedConfig.isExist, parseAll, ParsedConfig.parseConfig, getValue_none]

-- The file is replaced by one that cJSON rejects.
theorem not_keepsAnswers_malformed :
    ¬∀ (split : SplitStr) (files : List ConfigFile) (file : ConfigFile),
      ((parseAll split files).parseConfig split file).1 = false →
      KeepsAnswers split (parseAll split files) ((parseAll split files).parseConfig split file).2 := by
  intro hkeeps
  have hexist := (hkeeps dotSplit [.Document (.Object [("soc", .Object [("low", .Number 20)])])] .Malformed
    rfl).same.isExist "soc.low"
  revert hexist
  decide

end BatteryManager
