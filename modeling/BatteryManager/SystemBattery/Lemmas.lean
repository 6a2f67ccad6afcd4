import Mathlib.Data.List.Nodup
import Mathlib.Data.List.Perm.Basic
import BatteryManager.Library.Ledger
import BatteryManager.SystemBattery

namespace BatteryManager.SystemBattery

open Library

inductive Resource
  | Context (context : Nat)
  | Reference (context : Nat) (callback : Callback)
  deriving DecidableEq

def Resource.owner : Resource → Nat
  | .Context context => context
  | .Reference context _ => context

-- What an effect does with the contexts and the references.
def StatusEffect.use : StatusEffect → Option (Use Resource)
  | .New context => some (.Acquire (.Context context))
  | .CreateReference context callback => some (.Acquire (.Reference context callback))
  | .SendEvent _ _ => none
  | .GetBatteryInfo context _ => some (.Write (.Context context))
  | .CallFunction context callback _ => some (.Write (.Reference context callback))
  | .DeleteReference context callback => some (.Release (.Reference context callback))
  | .Delete context => some (.Release (.Context context))

def uses (log : List StatusEffect) : List (Use Resource) := log.filterMap StatusEffect.use

theorem createCallbackRef_context {call : StatusCall} {context : Nat} {request : Request}
    (hcreated : call.createCallbackRef context = some request) : request.context = context := by
  unfold StatusCall.createCallbackRef at hcreated
  split at hcreated
  · cases hcreated
    rfl
  · cases hcreated

-- The part of a log that is about one context.
def story (context : Nat) (log : List StatusEffect) : List StatusEffect :=
  log.filter fun effect => effect.context = context

def StatusEffect.called? : StatusEffect → Option (Callback × List Argument)
  | .CallFunction _ callback arguments => some (callback, arguments)
  | _ => none

def calls (log : List StatusEffect) : List (Callback × List Argument) :=
  log.filterMap StatusEffect.called?

theorem story_append (context : Nat) (log later : List StatusEffect) :
    story context (log ++ later) = story context log ++ story context later := List.filter_append ..

theorem story_own {context : Nat} {effects : List StatusEffect}
    (hown : ∀ effect ∈ effects, effect.context = context) : story context effects = effects := by
  apply List.filter_eq_self.mpr
  intro effect hm
  simpa using hown effect hm

theorem story_other {context other : Nat} (hother : other ≠ context) {effects : List StatusEffect}
    (hown : ∀ effect ∈ effects, effect.context = other) : story context effects = [] := by
  apply List.filter_eq_nil_iff.mpr
  intro effect hm
  rw [hown effect hm]
  simpa using hother

namespace Request

variable (request : Request)

theorem whenHeld_own {name : Callback} {effects : List StatusEffect}
    (hown : ∀ effect ∈ effects, effect.context = request.context) :
    ∀ effect ∈ request.whenHeld name effects, effect.context = request.context := by
  intro effect hm
  unfold whenHeld at hm
  split at hm
  · exact hown effect hm
  · cases hm

theorem references_own : ∀ effect ∈ request.references, effect.context = request.context := by
  intro effect hm
  unfold references at hm
  have hone : ∀ name, ∀ effect ∈ request.whenHeld name [.CreateReference request.context name],
      effect.context = request.context := by
    intro name
    apply request.whenHeld_own
    intro effect hm
    cases List.mem_singleton.mp hm
    rfl
  rcases List.mem_append.mp hm with hm | hm
  · rcases List.mem_append.mp hm with hm | hm
    · exact hone .Success effect hm
    · exact hone .Fail effect hm
  · exact hone .Complete effect hm

-- What a request has done when its task is in the queue.
def waiting : List StatusEffect :=
  .New request.context :: request.references ++ [.SendEvent request.context true]

def unsent : List StatusEffect :=
  .New request.context :: request.references ++
    [.SendEvent request.context false, .Delete request.context]

def finished (env : TaskEnv) : List StatusEffect :=
  request.waiting ++ (env.getBatteryStats request ++ [.Delete request.context])

theorem getBatteryStats_own (env : TaskEnv) :
    ∀ effect ∈ env.getBatteryStats request, effect.context = request.context := by
  intro effect hm
  unfold TaskEnv.getBatteryStats at hm
  dsimp only at hm
  rcases List.mem_append.mp hm with hm | hm
  · rcases List.mem_cons.mp hm with rfl | hm
    · rfl
    · split at hm
      · refine request.whenHeld_own (fun other hother => ?_) effect hm
        split at hother <;> aesop
      · refine request.whenHeld_own (fun other hother => ?_) effect hm
        split at hother <;> aesop
  · refine request.whenHeld_own (fun other hother => ?_) effect hm
    aesop

theorem waiting_own : ∀ effect ∈ request.waiting, effect.context = request.context := by
  intro effect hm
  rcases List.mem_append.mp hm with hm | hm
  · rcases List.mem_cons.mp hm with rfl | hm
    · rfl
    · exact request.references_own effect hm
  · cases List.mem_singleton.mp hm
    rfl

theorem unsent_own : ∀ effect ∈ request.unsent, effect.context = request.context := by
  intro effect hm
  rcases List.mem_append.mp hm with hm | hm
  · rcases List.mem_cons.mp hm with rfl | hm
    · rfl
    · exact request.references_own effect hm
  · rcases List.mem_cons.mp hm with rfl | hm
    · rfl
    · cases List.mem_singleton.mp hm
      rfl

end Request

-- How a request may end: its options are refused, its event is not sent, or its
-- task has run.
inductive Ended (context : Nat) : List StatusEffect → Prop
  | refused : Ended context [.New context, .Delete context]
  | unsent (request : Request) : request.context = context → Ended context request.unsent
  | finished (request : Request) (env : TaskEnv) : request.context = context →
      Ended context (request.finished env)

-- Requests do not get mixed up: each is told by its own part of the log.
structure Apart (runtime : Runtime) (log : List StatusEffect) : Prop where
  distinct : (runtime.queue.map Request.context).Nodup
  made : ∀ request ∈ runtime.queue, request.context < runtime.nextContext
  waiting : ∀ request ∈ runtime.queue, story request.context log = request.waiting
  unmade : ∀ context, runtime.nextContext ≤ context → story context log = []
  ended : ∀ context, context < runtime.nextContext → context ∉ runtime.queue.map Request.context →
    Ended context (story context log)

section Apart

variable {runtime : Runtime} {log out : List StatusEffect} {context : Nat} {request : Request}

-- What is done for one context is no part of the story of another.
theorem story_unaffected {own : Nat} (hown : ∀ effect ∈ out, effect.context = own) (hother : own ≠ context) :
    story context (log ++ out) = story context log := by
  rw [story_append, story_other hother hown, List.append_nil]

variable (hapart : Apart runtime log)
include hapart

theorem Apart.story_made (hown : ∀ effect ∈ out, effect.context = runtime.nextContext) :
    story runtime.nextContext (log ++ out) = out := by
  rw [story_append, hapart.unmade _ (Nat.le_refl _), List.nil_append, story_own hown]

-- A request that ends at once.
theorem Apart.refused (hown : ∀ effect ∈ out, effect.context = runtime.nextContext)
    (hended : Ended runtime.nextContext out) :
    Apart { runtime with nextContext := runtime.nextContext + 1 } (log ++ out) where
  distinct := hapart.distinct
  made := fun request hm => Nat.lt_succ_of_lt (hapart.made request hm)
  waiting := by
    intro request hm
    have hbefore := hapart.made request hm
    rw [story_unaffected hown (by omega)]
    exact hapart.waiting request hm
  unmade := by
    intro context hunmade
    have hlater : runtime.nextContext + 1 ≤ context := hunmade
    rw [story_unaffected hown (by omega)]
    exact hapart.unmade context (by omega)
  ended := by
    intro context hmade hgone
    by_cases hnew : context = runtime.nextContext
    · rw [hnew, hapart.story_made hown]
      exact hended
    · have hbefore : context < runtime.nextContext + 1 := hmade
      rw [story_unaffected hown (Ne.symm hnew)]
      exact hapart.ended context (by omega) hgone

-- A request whose task enters the queue.
theorem Apart.submitted (hcontext : request.context = runtime.nextContext) :
    Apart { nextContext := runtime.nextContext + 1, queue := runtime.queue ++ [request] }
      (log ++ request.waiting) where
  distinct := by
    have hfresh : runtime.nextContext ∉ runtime.queue.map Request.context := by
      intro hm
      obtain ⟨other, hother, hsame⟩ := List.mem_map.mp hm
      exact absurd (hapart.made other hother) (by omega)
    rw [List.map_append, List.map_singleton, hcontext]
    refine List.nodup_append.mpr ⟨hapart.distinct, by simp, ?_⟩
    intro other hother last hlast
    cases List.mem_singleton.mp hlast
    rintro rfl
    exact hfresh hother
  made := by
    intro other hm
    rcases List.mem_append.mp hm with hm | hm
    · exact Nat.lt_succ_of_lt (hapart.made other hm)
    · cases List.mem_singleton.mp hm
      exact hcontext ▸ Nat.lt_succ_self _
  waiting := by
    intro other hm
    rcases List.mem_append.mp hm with hm | hm
    · have hbefore := hapart.made other hm
      rw [story_unaffected request.waiting_own (by omega)]
      exact hapart.waiting other hm
    · cases List.mem_singleton.mp hm
      rw [hcontext]
      exact hapart.story_made fun effect heffect => (request.waiting_own effect heffect).trans hcontext
  unmade := by
    intro context hunmade
    have hlater : runtime.nextContext + 1 ≤ context := hunmade
    rw [story_unaffected request.waiting_own (by omega)]
    exact hapart.unmade context (by omega)
  ended := by
    intro context hmade hgone
    have hbefore : context < runtime.nextContext + 1 := hmade
    simp only [List.map_append, List.map_singleton, List.mem_append, List.mem_singleton, not_or] at hgone
    rw [story_unaffected request.waiting_own (Ne.symm hgone.2)]
    exact hapart.ended context (by omega) hgone.1

-- A task that runs takes its own request out of the queue and no other.
theorem Apart.ran {position : Nat} (hrequest : runtime.queue[position]? = some request) (env : TaskEnv) :
    Apart { runtime with queue := runtime.queue.eraseIdx position }
      (log ++ (env.getBatteryStats request ++ [.Delete request.context])) := by
  obtain ⟨hposition, rfl⟩ := List.getElem?_eq_some_iff.mp hrequest
  have hperm := List.getElem_cons_eraseIdx_perm hposition
  have hdistinct := (hperm.map Request.context).nodup_iff.mpr hapart.distinct
  rw [List.map_cons, List.nodup_cons] at hdistinct
  have hmem : ∀ {other}, other ∈ runtime.queue.eraseIdx position → other ∈ runtime.queue :=
    fun hm => List.mem_of_mem_eraseIdx hm
  have hown : ∀ effect ∈ env.getBatteryStats runtime.queue[position] ++
      [.Delete runtime.queue[position].context], effect.context = runtime.queue[position].context := by
    intro effect hm
    rcases List.mem_append.mp hm with hm | hm
    · exact Request.getBatteryStats_own _ env effect hm
    · cases List.mem_singleton.mp hm
      rfl
  have hthis := List.getElem_mem hposition
  refine ⟨hdistinct.2, fun other hm => hapart.made other (hmem hm), ?_, ?_, ?_⟩
  · intro other hm
    have hother : runtime.queue[position].context ≠ other.context := fun hsame =>
      hdistinct.1 (hsame ▸ List.mem_map_of_mem hm)
    rw [story_unaffected hown hother]
    exact hapart.waiting other (hmem hm)
  · intro context hunmade
    have hlater : runtime.nextContext ≤ context := hunmade
    have hbefore := hapart.made _ hthis
    rw [story_unaffected hown (by omega)]
    exact hapart.unmade context hlater
  · intro context hmade hgone
    by_cases hsame : context = runtime.queue[position].context
    · rw [hsame, story_append, hapart.waiting _ hthis, story_own hown]
      exact .finished _ env rfl
    · rw [story_unaffected hown (Ne.symm hsame)]
      refine hapart.ended context hmade fun hm => ?_
      have hcases := (hperm.map Request.context).mem_iff.mpr hm
      rcases List.mem_cons.mp hcases with hhere | hlater
      · exact hsame hhere
      · exact hgone hlater

theorem apart_getStatus (call : StatusCall) :
    Apart (getStatus call runtime).1 (log ++ (getStatus call runtime).2) := by
  unfold getStatus
  split
  · rw [List.append_nil]
    exact hapart
  split
  · rw [List.append_nil]
    exact hapart
  dsimp only
  cases hcreated : call.createCallbackRef runtime.nextContext with
  | none =>
      simp only
      refine hapart.refused (fun effect hm => ?_) .refused
      rcases List.mem_cons.mp hm with rfl | hm
      · rfl
      · cases List.mem_singleton.mp hm
        rfl
  | some request =>
      have hcontext := createCallbackRef_context hcreated
      simp only [sendEvent]
      rw [← hcontext]
      split
      · have hsubmitted := hapart.submitted hcontext
        rw [← hcontext] at hsubmitted
        exact hsubmitted
      · have hown : ∀ effect ∈ request.unsent, effect.context = runtime.nextContext :=
          fun effect hm => (request.unsent_own effect hm).trans hcontext
        have hunsent := hapart.refused hown (.unsent request hcontext)
        rw [← hcontext] at hunsent
        exact hunsent

theorem apart_step {label : StatusLabel} {next : Runtime}
    (hstep : statusStep runtime label = some (next, out)) : Apart next (log ++ out) := by
  cases label with
  | GetStatus call =>
      have hnext := apart_getStatus hapart call
      rw [Option.some.inj hstep] at hnext
      exact hnext
  | RunTask position env =>
      dsimp only [statusStep] at hstep
      split at hstep
      · rename_i request hrequest
        have hnext := hapart.ran hrequest env
        cases hstep
        exact hnext
      · cases hstep

end Apart

theorem apart_run {history : List StatusLabel} {runtime : Runtime} {log : List StatusEffect}
    (hrun : StatusRun history runtime log) : Apart runtime log := by
  induction hrun with
  | nil => exact ⟨List.nodup_nil, nofun, nofun, fun _ _ => rfl, nofun⟩
  | snoc label _ hstep ih => exact apart_step ih hstep

end BatteryManager.SystemBattery
