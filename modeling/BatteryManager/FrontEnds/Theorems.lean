import BatteryManager.FrontEnds
import Mathlib.Data.List.TakeWhile

namespace BatteryManager.FrontEnds

open Library Protected

-- A text that comes through as it is.
def Short (value : String) : Prop := value.utf8ByteSize < MAX_SIZE - 1 ∧ '\x00' ∉ value.toList

section Calls

variable {η : Type} (transport : Transport) (hdi : BatteryHdi η) (caller : Caller) (world : ServiceWorld η)

-- The call reaches the driver and its answer comes back.
def Reached : Prop := transport = .Served ∧ caller.isSystem = true ∧ world.interface = true

-- The code that the client returns. A failure is what a caller is told that is
-- admitted but does not succeed. Beyond failures and lost connections, an error
-- means that nothing was done.
structure Answered (admitted succeeds : Prop) (code : Int) (state : ServiceWorld η)
    (effects : List ServiceEffect) : Prop where
  ok : code = ERR_OK ↔ succeeds
  failure : code = ERR_FAILURE ↔ admitted ∧ ¬succeeds
  idle : code ≠ ERR_OK → code ≠ ERR_FAILURE → code ≠ ERR_CONNECTION_FAIL → state = world ∧ effects = []

variable {world} in
theorem answered_lost {admitted succeeds : Prop} (hrefused : ¬admitted) (hlost : ¬succeeds)
    (state : ServiceWorld η) (effects : List ServiceEffect) :
    Answered world admitted succeeds ERR_CONNECTION_FAIL state effects where
  ok := iff_of_false (by decide) hlost
  failure := iff_of_false (by decide) fun hadmitted => hrefused hadmitted.1
  idle _ _ hnot := absurd rfl hnot

variable {world} in
theorem answered_denied {admitted succeeds : Prop} (hrefused : ¬admitted) (hdenied : ¬succeeds) :
    Answered world admitted succeeds Protected.BatteryError.SystemApiDenied.code world [] where
  ok := iff_of_false (by decide) hdenied
  failure := iff_of_false (by decide) fun hadmitted => hrefused hadmitted.1
  idle _ _ _ := ⟨rfl, rfl⟩

variable {world} in
theorem answered_called {admitted succeeds : Prop} (hadmitted : admitted) {ret : Int}
    (hcalled : ret = 0 ↔ succeeds) (state : ServiceWorld η) (effects : List ServiceEffect) :
    Answered world admitted succeeds
      (if ret = 0 then Protected.BatteryError.Ok else .Failure).code state effects := by
  by_cases hret : ret = 0
  · rw [if_pos hret]
    have hsucceeds := hcalled.mp hret
    exact ⟨iff_of_true rfl hsucceeds, iff_of_false (by decide) fun hfails => hfails.2 hsucceeds,
      fun hnot => absurd rfl hnot⟩
  · rw [if_neg hret]
    have hfails := mt hcalled.mpr hret
    exact ⟨iff_of_false (by decide) hfails, iff_of_true rfl ⟨hadmitted, hfails⟩,
      fun _ hnot => absurd rfl hnot⟩

variable {world} in
theorem answered_absent {admitted succeeds : Prop} (hadmitted : admitted) (hfails : ¬succeeds) :
    Answered world admitted succeeds Protected.BatteryError.Failure.code world [] where
  ok := iff_of_false (by decide) hfails
  failure := iff_of_true rfl ⟨hadmitted, hfails⟩
  idle _ hnot := absurd rfl hnot

theorem setBatteryConfigInner_answered (sceneName value : String) :
    let reply := setBatteryConfigInner hdi caller world sceneName value
    Answered world
      (caller.isSystem = true ∧ caller.isNativePermissionGranted PERMISSION_POWER_OPTIMIZATION = true)
      (caller.isSystem = true ∧ world.interface = true ∧
        caller.isNativePermissionGranted PERMISSION_POWER_OPTIMIZATION = true ∧
        (hdi.setBatteryConfig sceneName value world.hdi).1 = 0)
      reply.response.code reply.state reply.effects := by
  unfold setBatteryConfigInner
  split
  · rename_i hallowed
    split
    · rename_i hinterface
      exact answered_called hallowed (by simp [hallowed, hinterface]) _ _
    · rename_i habsent
      exact answered_absent hallowed fun h => habsent h.2.1
  · rename_i hrefused
    exact answered_denied hrefused fun h => hrefused ⟨h.1, h.2.2.1⟩

theorem queryConfig_answered {α : Type} (operation : HdiOperation) (call : α → η → (Int × α) × η)
    (result : α) :
    let reply := queryConfig caller world operation call result
    Answered world (caller.isSystem = true)
      (caller.isSystem = true ∧ world.interface = true ∧ (call result world.hdi).1.1 = 0)
      reply.response.1.code reply.state reply.effects := by
  unfold queryConfig
  split
  · rename_i hsystem
    split
    · rename_i hinterface
      exact answered_called hsystem (by simp [hsystem, hinterface]) _ _
    · rename_i habsent
      exact answered_absent hsystem fun h => habsent h.2.1
  · rename_i hrefused
    exact answered_denied hrefused fun h => hrefused h.1

theorem callService_lost {transport : Transport} (hlost : transport ≠ .Served)
    (request : ProtectedRequest) : (callService transport hdi world request).response = none := by
  cases transport with
  | NoProxy => rfl
  | Lost served => cases served <;> rfl
  | Served => exact absurd rfl hlost

-- What the service answers, as the client sees it.
theorem answered_reached {admitted granted : Prop} {code : Int} {state : ServiceWorld η}
    {effects : List ServiceEffect} (hlost : transport ≠ .Served → code = ERR_CONNECTION_FAIL)
    (hserved : transport = .Served →
      Answered world admitted (caller.isSystem = true ∧ world.interface = true ∧ granted) code state
        effects) :
    Answered world (transport = .Served ∧ admitted) (Reached transport caller world ∧ granted) code state
      effects := by
  unfold Reached
  by_cases htransport : transport = .Served
  · simp only [htransport, true_and, and_assoc]
    exact hserved htransport
  · rw [hlost htransport]
    exact answered_lost (fun hadmitted => htransport hadmitted.1)
      (fun hreached => htransport hreached.1.1) _ _

theorem clientSetBatteryConfig_answered (sceneName value : String) :
    let reply := clientSetBatteryConfig transport hdi world caller sceneName value
    Answered world
      (transport = .Served ∧ caller.isSystem = true ∧
        caller.isNativePermissionGranted PERMISSION_POWER_OPTIMIZATION = true)
      (Reached transport caller world ∧
        caller.isNativePermissionGranted PERMISSION_POWER_OPTIMIZATION = true ∧
        (hdi.setBatteryConfig sceneName value world.hdi).1 = 0)
      reply.response reply.state reply.effects := by
  refine answered_reached transport caller world (fun hlost => ?_) ?_
  · simp only [clientSetBatteryConfig, callService_lost hdi world hlost]
  · rintro rfl
    exact setBatteryConfigInner_answered hdi caller world sceneName value

theorem clientGetBatteryConfig_answered (sceneName result : String) :
    let reply := clientGetBatteryConfig transport hdi world caller sceneName result
    Answered world (transport = .Served ∧ caller.isSystem = true)
      (Reached transport caller world ∧ (hdi.getBatteryConfig sceneName result world.hdi).1.1 = 0)
      reply.response.1 reply.state reply.effects := by
  refine answered_reached transport caller world (fun hlost => ?_) ?_
  · simp only [clientGetBatteryConfig, callService_lost hdi world hlost]
  · rintro rfl
    exact queryConfig_answered caller world (.GetBatteryConfig sceneName)
      (hdi.getBatteryConfig sceneName) result

theorem clientIsBatteryConfigSupported_answered (sceneName : String) (result : Bool) :
    let reply := clientIsBatteryConfigSupported transport hdi world caller sceneName result
    Answered world (transport = .Served ∧ caller.isSystem = true)
      (Reached transport caller world ∧ (hdi.isBatteryConfigSupported sceneName result world.hdi).1.1 = 0)
      reply.response.1 reply.state reply.effects := by
  refine answered_reached transport caller world (fun hlost => ?_) ?_
  · simp only [clientIsBatteryConfigSupported, callService_lost hdi world hlost]
  · rintro rfl
    exact queryConfig_answered caller world (.IsBatteryConfigSupported sceneName)
      (hdi.isBatteryConfigSupported sceneName) result

-- What the caller of the JS front end may conclude: nothing is thrown exactly
-- when the call succeeds, undefined exactly when it was admitted and fails, and an
-- error other than a lost connection means that nothing was done.
structure Told {α : Type} (admitted succeeds : Prop) (reply : ServiceReply η (Outcome α)) : Prop where
  silent : reply.response.thrown = none ↔ succeeds
  failure : reply.response.thrown = some .Undefined ↔ admitted ∧ ¬succeeds
  idle : ∀ error, reply.response.thrown = some (.Error error) → error.code ≠ ERR_CONNECTION_FAIL →
    reply.state = world ∧ reply.effects = []

variable {world} in
theorem Answered.told {α : Type} {admitted succeeds : Prop} {code : Int} {state : ServiceWorld η}
    {effects : List ServiceEffect} (hanswered : Answered world admitted succeeds code state effects)
    (value : α) : Told world admitted succeeds ⟨napiOutcome code value, state, effects⟩ := by
  unfold napiOutcome getNapiError isError
  by_cases hok : code = ERR_OK
  · have hsucceeds := hanswered.ok.mp hok
    simp only [hok, ne_eq, not_true_eq_false, if_false]
    exact ⟨iff_of_true rfl hsucceeds, iff_of_false nofun fun hfails => hfails.2 hsucceeds, nofun⟩
  · have hthrows := mt hanswered.ok.mpr hok
    simp only [hok, ne_eq, not_false_eq_true, if_true]
    by_cases hfailure : code = ERR_FAILURE
    · exact ⟨iff_of_false nofun hthrows, iff_of_true (by simp [hfailure]) (hanswered.failure.mp hfailure),
        fun error herror => by simp [hfailure] at herror⟩
    · refine ⟨iff_of_false nofun hthrows,
        iff_of_false (by simp [hfailure]) (mt hanswered.failure.mpr hfailure), ?_⟩
      intro error herror hconnection
      simp only [hfailure, not_false_eq_true, decide_true, Bool.and_self, if_true] at herror
      cases herror
      exact hanswered.idle hok hfailure hconnection

variable {world} in
theorem told_invalid {α : Type} {admitted succeeds : Prop} (hrefused : ¬admitted) (hinvalid : ¬succeeds) :
    Told world admitted succeeds (⟨paramInvalid, world, []⟩ : ServiceReply η (Outcome α)) where
  silent := iff_of_false nofun hinvalid
  failure := iff_of_false nofun fun hadmitted => hrefused hadmitted.1
  idle _ _ _ := ⟨rfl, rfl⟩

end Calls

-- The configuration calls of the JS front end, with any arguments, over any
-- connection, by any caller and in any state of the service.
theorem napiConfig_told {η : Type} (napi : GetValueStringUtf8) (transport : Transport)
    (hdi : BatteryHdi η) (caller : Caller) (argv : List JsValue) (world : ServiceWorld η) :
    Told world
      (∃ sceneName value, argv = [.Text sceneName, .Text value] ∧ transport = .Served ∧
        caller.isSystem = true ∧ caller.isNativePermissionGranted PERMISSION_POWER_OPTIMIZATION = true)
      (∃ sceneName value, argv = [.Text sceneName, .Text value] ∧ Reached transport caller world ∧
        caller.isNativePermissionGranted PERMISSION_POWER_OPTIMIZATION = true ∧
        (hdi.setBatteryConfig (getStringFromNapi napi sceneName) (getStringFromNapi napi value)
          world.hdi).1 = 0)
      (napiSetBatteryConfig transport hdi caller napi argv world) ∧
    Told world
      (∃ sceneName, argv = [.Text sceneName] ∧ transport = .Served ∧ caller.isSystem = true)
      (∃ sceneName, argv = [.Text sceneName] ∧ Reached transport caller world ∧
        (hdi.getBatteryConfig (getStringFromNapi napi sceneName) "" world.hdi).1.1 = 0)
      (napiGetBatteryConfig transport hdi caller napi argv world) ∧
    Told world
      (∃ sceneName, argv = [.Text sceneName] ∧ transport = .Served ∧ caller.isSystem = true)
      (∃ sceneName, argv = [.Text sceneName] ∧ Reached transport caller world ∧
        (hdi.isBatteryConfigSupported (getStringFromNapi napi sceneName) false world.hdi).1.1 = 0)
      (napiIsBatteryConfigSupported transport hdi caller napi argv world) := by
  refine ⟨?_, ?_, ?_⟩
  · unfold napiSetBatteryConfig
    split
    · rename_i sceneName value
      have hanswered := clientSetBatteryConfig_answered transport hdi caller world
        (getStringFromNapi napi sceneName) (getStringFromNapi napi value)
      simpa using hanswered.told _
    · rename_i hargv
      exact told_invalid (fun ⟨sceneName, value, hsame, _⟩ => hargv sceneName value hsame)
        fun ⟨sceneName, value, hsame, _⟩ => hargv sceneName value hsame
  · unfold napiGetBatteryConfig
    split
    · rename_i sceneName
      have hanswered := clientGetBatteryConfig_answered transport hdi caller world
        (getStringFromNapi napi sceneName) ""
      simpa using hanswered.told _
    · rename_i hargv
      exact told_invalid (fun ⟨sceneName, hsame, _⟩ => hargv sceneName hsame)
        fun ⟨sceneName, hsame, _⟩ => hargv sceneName hsame
  · unfold napiIsBatteryConfigSupported
    split
    · rename_i sceneName
      have hanswered := clientIsBatteryConfigSupported_answered transport hdi caller world
        (getStringFromNapi napi sceneName) false
      simpa using hanswered.told _
    · rename_i hargv
      exact told_invalid (fun ⟨sceneName, hsame, _⟩ => hargv sceneName hsame)
        fun ⟨sceneName, hsame, _⟩ => hargv sceneName hsame

end BatteryManager.FrontEnds
