import BatteryManager.SystemBattery.Lemmas

namespace BatteryManager.SystemBattery

open Library

section Ledger

theorem uses_append (log later : List StatusEffect) : uses (log ++ later) = uses log ++ uses later :=
  List.filterMap_append

theorem use_owner {effect : StatusEffect} {use : Use Resource} (huse : effect.use = some use) :
    use.resource.owner = effect.context := by
  cases effect <;> cases huse <;> rfl

-- The part of the ledger that belongs to a context is the ledger of its story.
theorem uses_story (context : Nat) (log : List StatusEffect) :
    (uses log).filter (fun use => use.resource.owner = context) = uses (story context log) := by
  induction log with
  | nil => rfl
  | cons effect rest ih =>
      unfold uses story at ih ⊢
      cases huse : effect.use with
      | none =>
          rw [List.filterMap_cons_none huse, ih, List.filter_cons]
          split
          · rw [List.filterMap_cons_none huse]
          · rfl
      | some use =>
          have howner := use_owner huse
          rw [List.filterMap_cons_some huse, List.filter_cons, List.filter_cons, howner, ih]
          split
          · rw [List.filterMap_cons_some huse]
          · rfl

namespace Request

variable (request : Request)

-- What a request holds while its task waits.
def held : List Resource :=
  ([Callback.Complete, .Fail, .Success].filter request.ref).map (.Reference request.context) ++
    [.Context request.context]

theorem held_nodup : request.held.Nodup := by
  have hnames : [Callback.Complete, .Fail, .Success].Nodup := by decide
  have hreferences : (([Callback.Complete, .Fail, .Success].filter request.ref).map
      (Resource.Reference request.context)).Nodup :=
    List.Nodup.map (fun _ _ hsame => (Resource.Reference.inj hsame).2) (hnames.filter _)
  refine List.nodup_append.mpr ⟨hreferences, by simp, ?_⟩
  intro resource hm other hother
  obtain ⟨name, -, rfl⟩ := List.mem_map.mp hm
  cases List.mem_singleton.mp hother
  exact Resource.noConfusion

theorem mem_held_reference (name : Callback) :
    Resource.Reference request.context name ∈ request.held ↔ request.ref name = true := by
  cases name <;> simp [held]

theorem mem_held_context : Resource.Context request.context ∈ request.held := by
  simp [held]

theorem replay_references : replay [] (uses (.New request.context :: request.references)) =
    some request.held := by
  obtain ⟨context, success, fail, complete⟩ := request
  cases success <;> cases fail <;> cases complete <;> rfl

theorem replay_waiting : replay [] (uses request.waiting) = some request.held := by
  have hsent : uses [.SendEvent request.context true] = [] := rfl
  rw [waiting, uses_append, hsent, List.append_nil]
  exact request.replay_references

theorem replay_unsent :
    replay [] (uses request.unsent) = some (request.held.erase (.Context request.context)) := by
  have hdelete : uses [.SendEvent request.context false, .Delete request.context] =
      [.Release (.Context request.context)] := rfl
  rw [unsent, uses_append, hdelete, replay_append, request.replay_references]
  exact if_pos request.mem_held_context

-- One callback after the other is done with: its reference may be called, and
-- is then given back.
theorem replay_settled {held : List Resource} {name : Callback} {effects : List StatusEffect}
    (hheld : Resource.Reference request.context name ∈ held ↔ request.ref name = true)
    (heffects : uses effects = [.Release (.Reference request.context name)] ∨
      uses effects = [.Write (.Reference request.context name),
        .Release (.Reference request.context name)]) :
    replay held (uses (request.whenHeld name effects)) =
      some (held.erase (.Reference request.context name)) := by
  unfold whenHeld
  split
  · rename_i href
    have hmem := hheld.mpr href
    rcases heffects with heffects | heffects
    · rw [heffects, replay, if_pos hmem]
      rfl
    · rw [heffects, replay, if_pos hmem, replay, if_pos hmem]
      rfl
  · rename_i href
    rw [List.erase_of_not_mem fun hmem => href (hheld.mp hmem)]
    rfl

end Request

-- The callback that tells whether the information was read.
def outcome (isRead : Bool) : Callback := if isRead then .Success else .Fail

-- The `fail` callback is taken exactly where the client gives no answer.
theorem getBatteryStats_eq (env : TaskEnv) (request : Request) :
    ∃ effects, env.getBatteryStats request =
        .GetBatteryInfo request.context env.getBatteryInfo ::
          request.whenHeld (outcome env.getBatteryInfo) effects ++ TaskEnv.completeCallback request ∧
      (effects = [.DeleteReference request.context (outcome env.getBatteryInfo)] ∨
        ∃ arguments, effects =
          [.CallFunction request.context (outcome env.getBatteryInfo) arguments,
            .DeleteReference request.context (outcome env.getBatteryInfo)]) := by
  have hplain : ({} : Error).isError = false := rfl
  have herror : (Error.setErrorMsg COMMON_ERROR_COED GET_BATTERY_ERROR_MSG).isError = true := by decide
  unfold TaskEnv.getBatteryStats
  cases env.getBatteryInfo with
  | true =>
      simp only [if_true, hplain, Bool.false_eq_true, if_false, TaskEnv.successCallback]
      refine ⟨_, rfl, ?_⟩
      split
      · exact .inr ⟨_, rfl⟩
      · exact .inl rfl
  | false =>
      simp only [Bool.false_eq_true, if_false, herror, if_true, TaskEnv.failCallback]
      refine ⟨_, rfl, ?_⟩
      split
      · exact .inr ⟨_, rfl⟩
      · exact .inl rfl

-- What is left once the task has run.
theorem Request.replay_finished (request : Request) (env : TaskEnv) :
    replay [] (uses (request.finished env)) =
      some (((request.held.erase (.Reference request.context (outcome env.getBatteryInfo))).erase
        (.Reference request.context .Complete)).erase (.Context request.context)) := by
  obtain ⟨effects, hstats, heffects⟩ := getBatteryStats_eq env request
  have huses : uses effects = [.Release (.Reference request.context (outcome env.getBatteryInfo))] ∨
      uses effects = [.Write (.Reference request.context (outcome env.getBatteryInfo)),
        .Release (.Reference request.context (outcome env.getBatteryInfo))] := by
    rcases heffects with rfl | ⟨arguments, rfl⟩
    · exact .inl rfl
    · exact .inr rfl
  let first := request.held.erase (.Reference request.context (outcome env.getBatteryInfo))
  have hcontext : ∀ names : List Callback, Resource.Context request.context ∈
      (names.map (Resource.Reference request.context)).foldl List.erase request.held := by
    intro names
    induction names using List.reverseRecOn with
    | nil => exact request.mem_held_context
    | append_singleton before name ih =>
        rw [List.map_append, List.foldl_append]
        exact (List.mem_erase_of_ne (by simp)).mpr ih
  have hcomplete : Resource.Reference request.context .Complete ∈ first ↔ request.ref .Complete = true := by
    rw [← request.mem_held_reference]
    refine List.mem_erase_of_ne ?_
    cases env.getBatteryInfo <;> simp [outcome]
  have hinfo : uses [.GetBatteryInfo request.context env.getBatteryInfo] =
      [.Write (.Context request.context)] := rfl
  have hdelete : uses [.Delete request.context] = [.Release (.Context request.context)] := rfl
  rw [finished, uses_append, replay_append, request.replay_waiting, hstats, uses_append, hdelete,
    List.cons_append, ← List.singleton_append, uses_append, uses_append, hinfo]
  simp only [Option.bind_some, List.append_assoc, List.cons_append, List.nil_append]
  rw [replay, if_pos request.mem_held_context, replay_append,
    request.replay_settled (request.mem_held_reference _) huses, Option.bind_some, replay_append,
    TaskEnv.completeCallback, request.replay_settled hcomplete (.inr rfl), Option.bind_some]
  exact if_pos (hcontext [outcome env.getBatteryInfo, .Complete])

def Pending (runtime : Runtime) (context : Nat) : Prop :=
  ∃ request ∈ runtime.queue, request.context = context

-- What the story of a context leaves held, whatever it is.
theorem replay_ended {context : Nat} {told : List StatusEffect} (hended : Ended context told) :
    ∃ held, replay [] (uses told) = some held ∧ Resource.Context context ∉ held := by
  cases hended with
  | refused =>
      have hempty : replay [] (uses [.New context, .Delete context]) = some [] := by
        simp [uses, StatusEffect.use, replay]
      exact ⟨[], hempty, List.not_mem_nil⟩
  | unsent request hcontext =>
      refine ⟨_, request.replay_unsent, ?_⟩
      rw [← hcontext]
      exact request.held_nodup.not_mem_erase
  | finished request env hcontext =>
      refine ⟨_, request.replay_finished env, ?_⟩
      rw [← hcontext]
      exact ((request.held_nodup.erase _).erase _).not_mem_erase

theorem replay_story {history : List StatusLabel} {runtime : Runtime} {log : List StatusEffect}
    (hrun : StatusRun history runtime log) (context : Nat) :
    ∃ held, replay [] (uses (story context log)) = some held ∧
      (Resource.Context context ∈ held ↔ Pending runtime context) := by
  have hapart := apart_run hrun
  by_cases hpending : Pending runtime context
  · obtain ⟨request, hm, rfl⟩ := hpending
    rw [hapart.waiting request hm]
    exact ⟨_, request.replay_waiting, iff_of_true request.mem_held_context ⟨request, hm, rfl⟩⟩
  · by_cases hmade : context < runtime.nextContext
    · have hgone : context ∉ runtime.queue.map Request.context := by
        intro hm
        obtain ⟨request, hrequest, hsame⟩ := List.mem_map.mp hm
        exact hpending ⟨request, hrequest, hsame⟩
      obtain ⟨held, hreplay, hnone⟩ := replay_ended (hapart.ended context hmade hgone)
      exact ⟨held, hreplay, iff_of_false hnone hpending⟩
    · rw [hapart.unmade context (by omega)]
      exact ⟨[], rfl, iff_of_false List.not_mem_nil hpending⟩

end Ledger

-- In whatever order the requests and their tasks come, nothing is called or
-- given back that is not held, and the contexts that are held are those whose
-- tasks wait.
theorem statusRun_safe {history : List StatusLabel} {runtime : Runtime} {log : List StatusEffect}
    (hrun : StatusRun history runtime log) :
    (∀ before use after resource, use = .Release resource ∨ use = .Write resource →
      uses log = before ++ use :: after → Outstanding before resource) ∧
    ∀ context, Outstanding (uses log) (.Context context) ↔ Pending runtime context := by
  constructor
  · intro before use after resource huse hsplit
    obtain ⟨held, hreplay, -⟩ := replay_story hrun resource.owner
    rw [← uses_story, hsplit] at hreplay
    exact outstanding_of_parts Resource.owner huse ⟨held, hreplay⟩
  · intro context
    obtain ⟨held, hreplay, hheld⟩ := replay_story hrun context
    rw [← uses_story] at hreplay
    have hmine : Outstanding (uses log) (.Context context) ↔ Resource.Context context ∈ held :=
      outstanding_iff_held Resource.owner hreplay
    exact hmine.trans hheld

theorem calls_append (log later : List StatusEffect) : calls (log ++ later) = calls log ++ calls later :=
  List.filterMap_append

theorem calls_references (request : Request) : calls request.references = [] := by
  obtain ⟨context, success, fail, complete⟩ := request
  cases success <;> cases fail <;> cases complete <;> rfl

-- The outcome that a task owes to its script, with what it passes on.
def TaskEnv.answer (env : TaskEnv) : Callback × List Argument :=
  if env.capacity = INVALID_BATT_INT_VALUE ∨ env.chargingState = .Butt then
    (.Fail, [.Message GET_BATTERY_ERROR_MSG, .Code COMMON_ERROR_COED])
  else
    (.Success, [.Response (env.chargingState = .Enable ∨ env.chargingState = .Full) env.capacity])

-- The callbacks that a finished request has given back.
def Settled (context : Nat) (log : List StatusEffect) (callback : Callback) : Prop :=
  ∃ isRead, .GetBatteryInfo context isRead ∈ log ∧ (callback = outcome isRead ∨ callback = .Complete)

-- What is left of the references in a story.
def Told (context : Nat) (told : List StatusEffect) : Prop :=
  ∃ held, replay [] (uses told) = some held ∧ ∀ callback,
    (Resource.Reference context callback ∈ held ↔
      .CreateReference context callback ∈ told ∧ ¬Settled context told callback)

namespace Request

variable (request : Request) (name : Callback)

theorem calls_waiting : calls request.waiting = [] := by
  rw [waiting, calls_append, ← List.singleton_append, calls_append, calls_references]
  rfl

theorem calls_unsent : calls request.unsent = [] := by
  rw [unsent, calls_append, ← List.singleton_append, calls_append, calls_references]
  rfl

end Request

-- A request whose task has run is told to its end, and no other has called
-- anything.
structure Answered (ran : List (Nat × TaskEnv)) (runtime : Runtime) (log : List StatusEffect) : Prop where
  once : (ran.map Prod.fst).Nodup
  finished : ∀ context env, (context, env) ∈ ran → context < runtime.nextContext ∧
    context ∉ runtime.queue.map Request.context ∧
    ∃ request : Request, request.context = context ∧ story context log = request.finished env
  silent : ∀ context, context ∉ ran.map Prod.fst → calls (story context log) = []

-- A new request is about its own context, and calls nothing.
theorem getStatus_own (call : StatusCall) (runtime : Runtime) :
    (∀ effect ∈ (getStatus call runtime).2, effect.context = runtime.nextContext) ∧
      calls (getStatus call runtime).2 = [] ∧
      runtime.nextContext ≤ (getStatus call runtime).1.nextContext ∧
      ∀ context ∈ (getStatus call runtime).1.queue.map Request.context,
        context ∈ runtime.queue.map Request.context ∨ context = runtime.nextContext := by
  unfold getStatus
  split
  · exact ⟨nofun, rfl, Nat.le_refl _, fun _ hm => .inl hm⟩
  split
  · exact ⟨nofun, rfl, Nat.le_refl _, fun _ hm => .inl hm⟩
  dsimp only
  cases hcreated : call.createCallbackRef runtime.nextContext with
  | none => exact ⟨by simp [StatusEffect.context], rfl, Nat.le_succ _, fun _ hm => .inl hm⟩
  | some request =>
      have hcontext := createCallbackRef_context hcreated
      simp only [sendEvent]
      rw [← hcontext]
      split
      · exact ⟨request.waiting_own, request.calls_waiting, Nat.le_succ _, fun context hm => by simpa using hm⟩
      · exact ⟨request.unsent_own, request.calls_unsent, Nat.le_succ _, fun _ hm => .inl hm⟩

theorem Answered.getStatus {ran : List (Nat × TaskEnv)} {runtime : Runtime} {log : List StatusEffect}
    (hanswered : Answered ran runtime log) (call : StatusCall) :
    Answered ran (getStatus call runtime).1 (log ++ (getStatus call runtime).2) := by
  obtain ⟨hown, hcalls, hgrows, hqueue⟩ := getStatus_own call runtime
  refine ⟨hanswered.once, fun context env hran => ?_, fun context hnew => ?_⟩
  · obtain ⟨hmade, hgone, request, hcontext, hstory⟩ := hanswered.finished context env hran
    have hother : runtime.nextContext ≠ context := by omega
    refine ⟨by omega, fun hm => ?_, request, hcontext, ?_⟩
    · rcases hqueue context hm with hm | rfl
      · exact hgone hm
      · exact hother rfl
    · rw [story_unaffected hown hother, hstory]
  · rw [story_append, calls_append, hanswered.silent context hnew, List.nil_append]
    by_cases hsame : runtime.nextContext = context
    · rw [← hsame, story_own hown, hcalls]
    · rw [story_other hsame hown]
      rfl

theorem Answered.ran {ran : List (Nat × TaskEnv)} {runtime : Runtime} {log : List StatusEffect}
    (hanswered : Answered ran runtime log) (hapart : Apart runtime log) {position : Nat} {request : Request}
    (hrequest : runtime.queue[position]? = some request) (env : TaskEnv) :
    Answered (ran ++ [(request.context, env)])
      { runtime with queue := runtime.queue.eraseIdx position }
      (log ++ (env.getBatteryStats request ++ [.Delete request.context])) := by
  have hwaits : request ∈ runtime.queue := List.mem_of_getElem? hrequest
  have hkept : ∀ context, context ∉ runtime.queue.map Request.context →
      context ∉ (runtime.queue.eraseIdx position).map Request.context := by
    intro context hgone hm
    exact hgone ((List.eraseIdx_sublist _ _).map Request.context |>.subset hm)
  have hown : ∀ effect ∈ env.getBatteryStats request ++ [.Delete request.context],
      effect.context = request.context := by
    intro effect hm
    rcases List.mem_append.mp hm with hm | hm
    · exact request.getBatteryStats_own env effect hm
    · cases List.mem_singleton.mp hm
      rfl
  refine ⟨?_, fun context other hran => ?_, fun context hnew => ?_⟩
  · rw [List.map_append, List.map_singleton, List.nodup_append]
    refine ⟨hanswered.once, by simp, fun context hm last hlast => ?_⟩
    cases List.mem_singleton.mp hlast
    obtain ⟨⟨earlier, other⟩, hran, rfl⟩ := List.mem_map.mp hm
    intro hsame
    obtain rfl : earlier = request.context := hsame
    exact (hanswered.finished _ other hran).2.1 (List.mem_map_of_mem hwaits)
  · rcases List.mem_append.mp hran with hran | hran
    · obtain ⟨hmade, hgone, first, hcontext, hstory⟩ := hanswered.finished context other hran
      have hother : request.context ≠ context := by
        rintro rfl
        exact hgone (List.mem_map_of_mem hwaits)
      refine ⟨hmade, hkept context hgone, first, hcontext, ?_⟩
      rw [story_unaffected hown hother, hstory]
    · cases List.mem_singleton.mp hran
      refine ⟨hapart.made request hwaits, ?_, request, rfl, ?_⟩
      · obtain ⟨hposition, rfl⟩ := List.getElem?_eq_some_iff.mp hrequest
        have hperm := (List.getElem_cons_eraseIdx_perm hposition).map Request.context
        have hdistinct := hperm.nodup_iff.mpr hapart.distinct
        rw [List.map_cons, List.nodup_cons] at hdistinct
        exact hdistinct.1
      · rw [story_append, hapart.waiting request hwaits, story_own hown]
        rfl
  · simp only [List.map_append, List.map_singleton, List.mem_append, List.mem_singleton, not_or] at hnew
    rw [story_unaffected hown (Ne.symm hnew.2)]
    exact hanswered.silent context hnew.1

-- A script asks twice, and its runtime runs the second task first.
def statusCall (sent : Bool) : StatusCall where
  infoRead := true
  argc := 1
  options := ⟨.Object, fun _ => some .Function⟩
  referenced := fun _ => true
  sent := sent

def statusHistory : List StatusLabel := [
  .GetStatus (statusCall true), .GetStatus (statusCall true),
  .RunTask 1 ⟨50, .Enable, true, true⟩, .RunTask 0 ⟨-1, .None, true, true⟩,
  .GetStatus (statusCall false)]

theorem statusRun_safe_twice :
    let last := (exec statusStep {} statusHistory).get (by decide)
    (uses last.2).length = 25 ∧
      ∀ context, Outstanding (uses last.2) (.Context context) ↔ Pending last.1 context :=
  ⟨by decide, (statusRun_safe (exec_run statusStep {} statusHistory (by decide))).2⟩

end BatteryManager.SystemBattery
