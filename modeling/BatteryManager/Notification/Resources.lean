import BatteryManager.ConfigParser
import BatteryManager.Library.Run

namespace BatteryManager

open Library

def LOCALE_CONFIG_PATH : String := "/system/etc/battery/resources/locale_path.json"
def SYSTEM_BATTERY_RESOURCE_PATH : String := "/system/etc/battery/resources/"
def SYSTEM_BATTERY_RESOURCEEXT_PATH : String := "/system/etc/battery/resourcesExt/"
def ELEMENT_STRING_FILE : String := "/element/string.json"
def DEFAULT_LANGUAGE_EN : String := "base"

-- An `unordered_map` of texts, in the order of the insertions.
abbrev Container := List (String × String)

-- `insert` keeps an older entry.
def Container.insert (container : Container) (name value : String) : Container :=
  if (container.lookup name).isSome then container else container ++ [(name, value)]

-- What the platform knows about locales. `iteration` is the order in which a
-- loop goes through a container.
structure I18n where
  getBaseName : String → String
  isMatch : String → String → Bool
  iteration : Container → Container

-- The read-only files of the system.
abbrev Resources := String → ConfigFile

structure LocaleResources where
  languageMap : Container := []
  stringMap : Container := []
  localeBaseName : String := ""
  islanguageMapInit : Bool := false

def noEmptyString? (json : Option CJson) : Option String :=
  (CJson.string? json).filter fun text => text ≠ ""

def stringEntry (conf : CJson) : Option (String × String) := do
  let name ← noEmptyString? (conf.getObjectItemCaseSensitive "name")
  let value ← noEmptyString? (conf.getObjectItemCaseSensitive "value")
  some (name, value)

def saveJsonToMap (root : CJson) (container : Container) : Bool × Container :=
  match CJson.object? (some root) with
  | none => (false, container)
  | some _ =>
      match CJson.array? (root.getObjectItemCaseSensitive "string") with
      | none => (false, container)
      | some stringConf =>
          (true, (stringConf.filterMap stringEntry).foldl
            (fun container entry => container.insert entry.1 entry.2) container)

def parseJsonfile (files : Resources) (targetPath : String) (container : Container) : Bool × Container :=
  match files targetPath with
  | .Missing => (false, container)
  | .Malformed => (false, container)
  | .Document root => saveJsonToMap root container

-- The language of a locale, of one that matches it, or the default one.
def chooseLanguage (i18n : I18n) (languageMap : Container) (systemLocale : String) : String :=
  match languageMap.lookup (i18n.getBaseName systemLocale) with
  | some language => language
  | none =>
      match (i18n.iteration languageMap).find? fun iter => i18n.isMatch systemLocale iter.1 with
      | some iter => iter.2
      | none => DEFAULT_LANGUAGE_EN

-- The table of a language. The extension adds what the resources do not have.
def loadStringMap (files : Resources) (language : String) : Container :=
  (parseJsonfile files (SYSTEM_BATTERY_RESOURCEEXT_PATH ++ language ++ ELEMENT_STRING_FILE)
    (parseJsonfile files (SYSTEM_BATTERY_RESOURCE_PATH ++ language ++ ELEMENT_STRING_FILE) []).2).2

namespace LocaleResources

def parseLocaleCfg (files : Resources) (locale : LocaleResources) : LocaleResources :=
  if locale.islanguageMapInit then locale
  else
    let parsed := parseJsonfile files LOCALE_CONFIG_PATH []
    { locale with languageMap := parsed.2, islanguageMapInit := parsed.1 }

def updateStringMap (i18n : I18n) (files : Resources) (systemLocale : String)
    (locale : LocaleResources) : LocaleResources :=
  if locale.localeBaseName = i18n.getBaseName systemLocale then locale
  else
    { locale with
      localeBaseName := i18n.getBaseName systemLocale
      stringMap := loadStringMap files (chooseLanguage i18n locale.languageMap systemLocale) }

-- What `HandleNotification` does first, whatever the popup.
def refresh (i18n : I18n) (files : Resources) (systemLocale : String) (locale : LocaleResources) :
    LocaleResources :=
  (locale.parseLocaleCfg files).updateStringMap i18n files systemLocale

end LocaleResources

def localeStep (i18n : I18n) (files : Resources) (locale : LocaleResources) (systemLocale : String) :
    Option (LocaleResources × List Unit) :=
  some (locale.refresh i18n files systemLocale, [])

-- The system locales that the calls of `HandleNotification` find.
abbrev LocaleRun (i18n : I18n) (files : Resources) : List String → LocaleResources → List Unit → Prop :=
  Run (localeStep i18n files) {}

-- What matches is told by the base name.
def MatchesByBaseName (i18n : I18n) : Prop :=
  ∀ first second other, i18n.getBaseName first = i18n.getBaseName second →
    i18n.isMatch first other = i18n.isMatch second other

-- The table for a locale, read from the files alone.
def freshStringMap (i18n : I18n) (files : Resources) (systemLocale : String) : Container :=
  loadStringMap files (chooseLanguage i18n (parseJsonfile files LOCALE_CONFIG_PATH []).2 systemLocale)

theorem chooseLanguage_baseName {i18n : I18n} (hmatch : MatchesByBaseName i18n) (languageMap : Container)
    {first second : String} (hsame : i18n.getBaseName first = i18n.getBaseName second) :
    chooseLanguage i18n languageMap first = chooseLanguage i18n languageMap second := by
  have hmatches : (fun iter : String × String => i18n.isMatch first iter.1) =
      fun iter => i18n.isMatch second iter.1 := by
    funext iter
    exact hmatch first second iter.1 hsame
  unfold chooseLanguage
  rw [hsame, hmatches]

-- The language map is empty or the one of the file, and read once it is there.
structure MapRead (files : Resources) (locale : LocaleResources) : Prop where
  read : locale.islanguageMapInit = true → locale.languageMap = (parseJsonfile files LOCALE_CONFIG_PATH []).2

theorem MapRead.parseLocaleCfg {files : Resources} {locale : LocaleResources}
    (hread : MapRead files locale) :
    (locale.parseLocaleCfg files).languageMap = (parseJsonfile files LOCALE_CONFIG_PATH []).2 ∧
      MapRead files (locale.parseLocaleCfg files) := by
  unfold LocaleResources.parseLocaleCfg
  split
  · rename_i hinit
    exact ⟨hread.read hinit, hread⟩
  · exact ⟨rfl, ⟨fun _ => rfl⟩⟩

-- The state of the table after the calls so far. Before a locale with a base name
-- has been seen, nothing is loaded.
structure UpToDate (i18n : I18n) (files : Resources) (history : List String) (locale : LocaleResources) :
    Prop where
  map : MapRead files locale
  name : locale.localeBaseName = ((history.getLast?).map i18n.getBaseName).getD ""
  table : ∀ last ∈ history.getLast?, (∃ other ∈ history, i18n.getBaseName other ≠ "") →
    locale.stringMap = freshStringMap i18n files last
  unnamed : (∀ other ∈ history, i18n.getBaseName other = "") → locale.stringMap = []

theorem UpToDate.refresh {i18n : I18n} {files : Resources} (hmatch : MatchesByBaseName i18n)
    {history : List String} {locale : LocaleResources} (hfresh : UpToDate i18n files history locale)
    (systemLocale : String) :
    UpToDate i18n files (history ++ [systemLocale]) (locale.refresh i18n files systemLocale) := by
  obtain ⟨hmap, hread⟩ := hfresh.map.parseLocaleCfg
  have hname : (locale.parseLocaleCfg files).localeBaseName = locale.localeBaseName := by
    unfold LocaleResources.parseLocaleCfg
    split <;> rfl
  have htable : (locale.parseLocaleCfg files).stringMap = locale.stringMap := by
    unfold LocaleResources.parseLocaleCfg
    split <;> rfl
  unfold LocaleResources.refresh LocaleResources.updateStringMap
  rw [hname]
  split
  · -- The base name is the one of the call before, so the table is as well.
    rename_i hsame
    refine ⟨hread, ?_, ?_, ?_⟩
    · rw [hname, hsame]
      simp
    · intro last hlast hnamed
      rw [List.getLast?_concat, Option.mem_some_iff] at hlast
      rw [htable, ← hlast]
      cases hbefore : history.getLast? with
      | none =>
          have hempty : history = [] := List.getLast?_eq_none_iff.mp hbefore
          subst hempty
          obtain ⟨other, hother, hne⟩ := hnamed
          rw [List.nil_append, List.mem_singleton] at hother
          rw [hother, ← hsame, hfresh.name] at hne
          exact absurd rfl hne
      | some before =>
          have hlastName : i18n.getBaseName before = i18n.getBaseName systemLocale := by
            rw [← hsame, hfresh.name, hbefore]
            rfl
          have hsomeNamed : ∃ other ∈ history, i18n.getBaseName other ≠ "" := by
            obtain ⟨other, hother, hne⟩ := hnamed
            rcases List.mem_append.mp hother with hother | hother
            · exact ⟨other, hother, hne⟩
            · cases List.mem_singleton.mp hother
              exact ⟨before, List.mem_of_getLast? hbefore, hlastName ▸ hne⟩
          rw [hfresh.table before hbefore hsomeNamed]
          unfold freshStringMap
          rw [chooseLanguage_baseName hmatch _ hlastName]
    · intro hunnamed
      rw [htable]
      exact hfresh.unnamed fun other hother => hunnamed other (List.mem_append_left _ hother)
  · rename_i hdiffers
    refine ⟨⟨hread.read⟩, ?_, ?_, ?_⟩
    · simp
    · intro last hlast _
      rw [List.getLast?_concat, Option.mem_some_iff] at hlast
      rw [hmap, ← hlast]
      rfl
    · intro hunnamed
      have hthis := hunnamed systemLocale (by simp)
      have hbefore : locale.localeBaseName = "" := by
        rw [hfresh.name]
        cases hlast : history.getLast? with
        | none => rfl
        | some before => exact hunnamed before (List.mem_append_left _ (List.mem_of_getLast? hlast))
      exact absurd (hbefore.trans hthis.symm) hdiffers

theorem fresh_run {i18n : I18n} {files : Resources} (hmatch : MatchesByBaseName i18n)
    {history : List String} {locale : LocaleResources} {log : List Unit}
    (hrun : LocaleRun i18n files history locale log) : UpToDate i18n files history locale := by
  induction hrun with
  | nil => exact ⟨⟨nofun⟩, rfl, nofun, fun _ => rfl⟩
  | snoc systemLocale _ hstep ih =>
      have hnext := ih.refresh hmatch systemLocale
      obtain ⟨rfl, -⟩ := Prod.mk.inj (Option.some.inj hstep)
      exact hnext

-- The table is never stale: after any changes of the locale it is the one that a
-- process which starts now would read, once some locale had a base name.
theorem localeRun_fresh {i18n : I18n} {files : Resources} (hmatch : MatchesByBaseName i18n)
    {history : List String} {locale : LocaleResources} {log : List Unit} {last : String}
    (hrun : LocaleRun i18n files (history ++ [last]) locale log) :
    ((∃ other ∈ history ++ [last], i18n.getBaseName other ≠ "") →
      locale.stringMap = freshStringMap i18n files last) ∧
    (i18n.getBaseName last ≠ "" →
      locale.stringMap = (LocaleResources.refresh i18n files last {}).stringMap) := by
  have hfresh := fresh_run hmatch hrun
  have hlast : last ∈ (history ++ [last]).getLast? := by simp
  refine ⟨fun hnamed => hfresh.table last hlast hnamed, fun hname => ?_⟩
  have halone : LocaleRun i18n files [last] (LocaleResources.refresh i18n files last {}) [] :=
    .snoc last .nil rfl
  have hone := fresh_run hmatch halone
  rw [hfresh.table last hlast ⟨last, by simp, hname⟩, hone.table last (by simp) ⟨last, by simp, hname⟩]

-- Base names are the locales themselves, and nothing else matches.
def plainI18n : I18n where
  getBaseName := id
  isMatch := fun _ _ => false
  iteration := id

def stringDocument (entries : List (String × String)) : ConfigFile :=
  .Document (.Object [("string", .Array (entries.map fun entry =>
    .Object [("name", .Text entry.1), ("value", .Text entry.2)]))])

def chineseResources : Resources := fun path =>
  if path = LOCALE_CONFIG_PATH then stringDocument [("zh", "zh_CN")]
  else if path = "/system/etc/battery/resources/base/element/string.json" then
    stringDocument [("title", "Battery")]
  else if path = "/system/etc/battery/resources/zh_CN/element/string.json" then
    stringDocument [("title", "Dianchi")]
  else .Missing

theorem localeRun_fresh_switch :
    let last := (exec (localeStep plainI18n chineseResources) {} ["en", "zh"]).get rfl
    last.1.stringMap = [("title", "Dianchi")] ∧
      last.1.stringMap = (LocaleResources.refresh plainI18n chineseResources "zh" {}).stringMap := by
  have hmatch : MatchesByBaseName plainI18n := fun _ _ _ _ => rfl
  have hfresh := (localeRun_fresh hmatch (show LocaleRun _ _ (["en"] ++ ["zh"]) _ _ from
    exec_run (localeStep plainI18n chineseResources) {} ["en", "zh"] rfl)).2 (by decide)
  exact ⟨by decide +kernel, hfresh⟩

end BatteryManager
