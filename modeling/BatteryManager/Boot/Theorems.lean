import BatteryManager.Boot

namespace BatteryManager

section FillCommonEvent

variable (lookup : String → Except BatteryError String)

def CommonEventConf.matched (conf : CommonEventConf) : Option (CommonEventConf × String) :=
  match lookup conf.sceneConfigName with
  | .error _ => none
  | .ok result => if conf.accepts result then some (conf, result) else none

-- The boot action that the configuration asks for, and the value of its scene.
def firstMatch (commonEventConf : List CommonEventConf) : Option (CommonEventConf × String) :=
  commonEventConf.findSome? (CommonEventConf.matched lookup)

-- The empty list is not a special case of the loop.
theorem fillCommonEvent_eq (commonEventConf : List CommonEventConf)
    (ueventName commonEventName : String) :
    fillCommonEvent commonEventConf lookup ueventName commonEventName =
      fillFrom lookup commonEventConf ueventName commonEventName := by
  cases commonEventConf <;> rfl

theorem fillFrom_matched {conf : CommonEventConf} {result : String}
    (hmatched : conf.matched lookup = some (conf, result)) (rest : List CommonEventConf)
    (ueventName commonEventName : String) :
    fillFrom lookup (conf :: rest) ueventName commonEventName =
      ⟨true, conf.uevent ++ result, conf.eventName⟩ := by
  unfold CommonEventConf.matched at hmatched
  unfold fillFrom
  cases hlookup : lookup conf.sceneConfigName with
  | error _ => simp [hlookup] at hmatched
  | ok value =>
      rw [hlookup] at hmatched
      by_cases haccepts : conf.accepts value = true
      · simp only [haccepts, if_true, Option.some.injEq, Prod.mk.injEq, true_and] at hmatched
        subst hmatched
        simp [haccepts]
      · simp [haccepts] at hmatched

-- An entry that does not match leaves its traces in the out-parameters.
theorem fillFrom_unmatched {conf : CommonEventConf} (hmatched : conf.matched lookup = none)
    (rest : List CommonEventConf) (ueventName commonEventName : String) :
    ∃ ueventName', fillFrom lookup (conf :: rest) ueventName commonEventName =
      fillFrom lookup rest ueventName' conf.eventName := by
  unfold CommonEventConf.matched at hmatched
  rw [fillFrom]
  cases hlookup : lookup conf.sceneConfigName with
  | error _ => exact ⟨conf.uevent, rfl⟩
  | ok value =>
      rw [hlookup] at hmatched
      by_cases haccepts : conf.accepts value = true
      · simp [haccepts] at hmatched
      · exact ⟨conf.uevent ++ value, by simp [haccepts]⟩

theorem CommonEventConf.matched_fst {conf entry : CommonEventConf} {result : String}
    (hmatched : conf.matched lookup = some (entry, result)) : entry = conf := by
  unfold CommonEventConf.matched at hmatched
  split at hmatched
  · cases hmatched
  · split at hmatched
    · cases hmatched
      rfl
    · cases hmatched

theorem fillFrom_firstMatch {commonEventConf : List CommonEventConf} {conf : CommonEventConf}
    {result : String} (hfirst : firstMatch lookup commonEventConf = some (conf, result))
    (ueventName commonEventName : String) :
    fillFrom lookup commonEventConf ueventName commonEventName =
      ⟨true, conf.uevent ++ result, conf.eventName⟩ := by
  induction commonEventConf generalizing ueventName commonEventName with
  | nil => cases hfirst
  | cons head tail ih =>
      rw [firstMatch, List.findSome?_cons] at hfirst
      cases hmatched : head.matched lookup with
      | none =>
          rw [hmatched] at hfirst
          obtain ⟨uevent, hfill⟩ := fillFrom_unmatched lookup hmatched tail ueventName commonEventName
          rw [hfill, ih hfirst]
      | some found =>
          rw [hmatched] at hfirst
          cases hfirst
          obtain rfl := CommonEventConf.matched_fst lookup hmatched
          exact fillFrom_matched lookup hmatched tail ueventName commonEventName

-- Without a match the caller is left with the event name of the last entry.
theorem fillFrom_noMatch {commonEventConf : List CommonEventConf}
    (hfirst : firstMatch lookup commonEventConf = none) (ueventName commonEventName : String) :
    (fillFrom lookup commonEventConf ueventName commonEventName).found = false ∧
    (fillFrom lookup commonEventConf ueventName commonEventName).commonEventName =
      (commonEventConf.getLast?.map CommonEventConf.eventName).getD commonEventName := by
  induction commonEventConf generalizing ueventName commonEventName with
  | nil => exact ⟨rfl, rfl⟩
  | cons head tail ih =>
      rw [firstMatch, List.findSome?_cons] at hfirst
      cases hmatched : head.matched lookup with
      | none =>
          rw [hmatched] at hfirst
          obtain ⟨uevent, hfill⟩ := fillFrom_unmatched lookup hmatched tail ueventName commonEventName
          obtain ⟨hfound, hname⟩ := ih hfirst uevent head.eventName
          rw [hfill]
          refine ⟨hfound, hname.trans ?_⟩
          cases tail <;> simp [List.getLast?_cons]
      | some found =>
          rw [hmatched] at hfirst
          cases hfirst

end FillCommonEvent

-- Boot actions change nothing but the uevent.
theorem addBootCommonEvents_info (env : PublishEnv) (commonEventConf : List CommonEventConf)
    (lookup : String → Except BatteryError String) (info : BatteryInfo) :
    ∃ uevent, (addBootCommonEvents env commonEventConf lookup info).1 = { info with uevent := uevent } := by
  unfold addBootCommonEvents
  dsimp only
  split_ifs
  · exact ⟨_, rfl⟩
  · exact ⟨_, rfl⟩
  · exact ⟨_, rfl⟩
  · exact ⟨info.uevent, rfl⟩

section AddBootCommonEvents

variable (env : PublishEnv) (commonEventConf : List CommonEventConf)
  (lookup : String → Except BatteryError String) (info : BatteryInfo)

-- The selected action is carried out, and nothing else is.
def SelectsFirstMatch : Prop :=
  match firstMatch lookup commonEventConf with
  | some (conf, result) =>
      if conf.eventName = COMMON_EVENT_BATTERY_CHANGED then
        addBootCommonEvents env commonEventConf lookup info =
          ({ info with uevent := conf.uevent ++ result ++ "$sendcommonevent" }, [])
      else
        addBootCommonEvents env commonEventConf lookup info =
          ({ info with uevent := "" },
            (publishCustomEvent env { info with uevent := conf.uevent ++ result } conf.eventName).2)
  | none => addBootCommonEvents env commonEventConf lookup info = (info, [])

theorem publishCustomEvent_ne_nil (commonEventName : String) :
    (publishCustomEvent env info commonEventName).2 ≠ [] := by
  unfold publishCustomEvent
  dsimp only
  split <;> simp

theorem addBootCommonEvents_firstMatch {conf : CommonEventConf} {result : String}
    (hfirst : firstMatch lookup commonEventConf = some (conf, result)) :
    SelectsFirstMatch env commonEventConf lookup info := by
  have hfill := fillFrom_firstMatch lookup hfirst "" COMMON_EVENT_BATTERY_CHANGED
  unfold SelectsFirstMatch addBootCommonEvents
  rw [hfirst, fillCommonEvent_eq, hfill]
  by_cases hchanged : conf.eventName = COMMON_EVENT_BATTERY_CHANGED
  · simp [hchanged]
  · simp [hchanged]

-- `AddBootCommonEvents` looks at the event name even when `FillCommonEvent` has
-- returned false, so the last entry is sent although it does not match.
theorem selectsFirstMatch_iff :
    SelectsFirstMatch env commonEventConf lookup info ↔
      (firstMatch lookup commonEventConf).isSome = true ∨
        ∀ last ∈ commonEventConf.getLast?, last.eventName = COMMON_EVENT_BATTERY_CHANGED := by
  cases hfirst : firstMatch lookup commonEventConf with
  | some found =>
      exact iff_of_true (addBootCommonEvents_firstMatch env commonEventConf lookup info hfirst)
        (.inl rfl)
  | none =>
      obtain ⟨hfound, hname⟩ := fillFrom_noMatch lookup hfirst "" COMMON_EVENT_BATTERY_CHANGED
      unfold SelectsFirstMatch addBootCommonEvents
      rw [hfirst, fillCommonEvent_eq]
      simp only [hfound, hname, Bool.false_eq_true, if_false, Option.isSome_none, false_or]
      cases hlast : commonEventConf.getLast? with
      | none => simp
      | some last =>
          by_cases hchanged : last.eventName = COMMON_EVENT_BATTERY_CHANGED
          · simp [hchanged]
          · simp [hchanged, publishCustomEvent_ne_nil]

end AddBootCommonEvents

-- One action, for a scene that the HDI does not know.
theorem not_selectsFirstMatch_lookupError :
    ¬∀ (env : PublishEnv) (commonEventConf : List CommonEventConf)
        (lookup : String → Except BatteryError String) (info : BatteryInfo),
      SelectsFirstMatch env commonEventConf lookup info := by
  intro hselects
  have hnone := hselects ⟨true, fun _ => true, .None, fun _ => true⟩
    [⟨"usual.event.battery.boot", "boot", "wireless", true, "1"⟩] (fun _ => .error .Failure) {}
  have heffects := congrArg Prod.snd hnone
  revert heffects
  decide

end BatteryManager
