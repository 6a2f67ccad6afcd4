import Mathlib.Data.List.Basic
import Mathlib.Data.List.Induction

namespace BatteryManager.Library

variable {σ ι ε : Type*}

-- A machine is a partial step function. A label that is not enabled has no
-- step, and an enabled one gives the next state and the effects it emits.
-- `Run` is every sequence of enabled steps, with the labels and effects so far.
inductive Run (step : σ → ι → Option (σ × List ε)) (start : σ) :
    List ι → σ → List ε → Prop
  | nil : Run step start [] start []
  | snoc {history : List ι} {state next : σ} {log out : List ε} (label : ι) :
      Run step start history state log → step state label = some (next, out) →
      Run step start (history ++ [label]) next (log ++ out)

variable {step : σ → ι → Option (σ × List ε)} {start : σ}

theorem Run.cons {first : σ} {label : ι} {out : List ε} (hstep : step start label = some (first, out))
    {history : List ι} {state : σ} {log : List ε} (hrun : Run step first history state log) :
    Run step start (label :: history) state (out ++ log) := by
  induction hrun with
  | nil => simpa using Run.snoc label Run.nil hstep
  | snoc later _ hlater ih =>
      rw [← List.append_assoc]
      exact .snoc later ih hlater

-- The run with the given labels, if they are all enabled.
def exec (step : σ → ι → Option (σ × List ε)) (start : σ) : List ι → Option (σ × List ε)
  | [] => some (start, [])
  | label :: rest =>
      match step start label with
      | some (next, out) => (exec step next rest).map fun last => (last.1, out ++ last.2)
      | none => none

theorem run_of_exec {history : List ι} {last : σ × List ε}
    (hexec : exec step start history = some last) : Run step start history last.1 last.2 := by
  induction history generalizing start last with
  | nil =>
      cases hexec
      exact .nil
  | cons label rest ih =>
      unfold exec at hexec
      split at hexec
      · rename_i next out hstep
        obtain ⟨later, hlater, rfl⟩ := Option.map_eq_some_iff.mp hexec
        exact (ih hlater).cons hstep
      · cases hexec

theorem exec_run (step : σ → ι → Option (σ × List ε)) (start : σ) (history : List ι)
    (henabled : (exec step start history).isSome = true) :
    Run step start history ((exec step start history).get henabled).1
      ((exec step start history).get henabled).2 :=
  run_of_exec (Option.some_get henabled).symm

-- The induction rule for invariants that mention the history and the effects.
theorem Run.history_invariant (inv : List ι → σ → List ε → Prop) (hnil : inv [] start [])
    (hsnoc : ∀ history state log label next out, Run step start history state log →
      inv history state log → step state label = some (next, out) →
      inv (history ++ [label]) next (log ++ out))
    {history : List ι} {state : σ} {log : List ε} (hrun : Run step start history state log) :
    inv history state log := by
  induction hrun with
  | nil => exact hnil
  | snoc label hrun hstep ih => exact hsnoc _ _ _ label _ _ hrun ih hstep

-- The same rule for a machine in which every label is enabled.
theorem Run.total_invariant {move : σ → ι → σ × List ε} (inv : List ι → σ → List ε → Prop)
    (hnil : inv [] start [])
    (hsnoc : ∀ history state log label, inv history state log →
      inv (history ++ [label]) (move state label).1 (log ++ (move state label).2))
    {history : List ι} {state : σ} {log : List ε}
    (hrun : Run (fun state label => some (move state label)) start history state log) :
    inv history state log := by
  refine hrun.history_invariant inv hnil ?_
  intro history state log label next out _ ih hstep
  have hmoved : move state label = (next, out) := Option.some.inj hstep
  have hnext := hsnoc history state log label ih
  rw [hmoved] at hnext
  exact hnext

theorem exec_concat (history : List ι) (label : ι) :
    exec step start (history ++ [label]) =
      (exec step start history).bind fun last =>
        (step last.1 label).map fun next => (next.1, last.2 ++ next.2) := by
  induction history generalizing start with
  | nil =>
      simp only [List.nil_append, exec, Option.bind_some]
      cases step start label <;> simp
  | cons first rest ih =>
      simp only [List.cons_append, exec]
      cases step start first with
      | none => rfl
      | some next =>
          simp only [ih]
          cases exec step next.1 rest <;> simp [Function.comp_def]

theorem Run.exec_eq {history : List ι} {state : σ} {log : List ε}
    (hrun : Run step start history state log) : exec step start history = some (state, log) := by
  induction hrun with
  | nil => rfl
  | snoc label _ hstep ih => simp [exec_concat, ih, hstep]

-- Every step of a history meets `p` in the state where it is taken. Nothing is
-- asked of what comes after a label that is not enabled.
def EachStep (step : σ → ι → Option (σ × List ε)) (p : σ → ι → Prop) : σ → List ι → Prop
  | _, [] => True
  | state, label :: rest =>
      p state label ∧
        match step state label with
        | some (next, _) => EachStep step p next rest
        | none => True

theorem EachStep.exec {p : σ → ι → Prop} {before after : List ι} {label : ι} {last : σ × List ε}
    (heach : EachStep step p start (before ++ label :: after))
    (hexec : Library.exec step start before = some last) : p last.1 label := by
  induction before generalizing start last with
  | nil =>
      cases hexec
      exact heach.1
  | cons first rest ih =>
      unfold Library.exec at hexec
      split at hexec
      · rename_i next out hstep
        obtain ⟨later, hlater, rfl⟩ := Option.map_eq_some_iff.mp hexec
        have hrest := heach.2
        rw [hstep] at hrest
        have hlast : p later.1 label := ih hrest hlater
        exact hlast
      · cases hexec

theorem EachStep.left {p : σ → ι → Prop} {before after : List ι}
    (heach : EachStep step p start (before ++ after)) : EachStep step p start before := by
  induction before generalizing start with
  | nil => trivial
  | cons label rest ih =>
      refine ⟨heach.1, ?_⟩
      have hrest := heach.2
      cases hstep : step start label with
      | none => trivial
      | some moved =>
          rw [hstep] at hrest
          exact ih hrest

theorem EachStep.concat {p : σ → ι → Prop} {history : List ι} {state : σ} {log : List ε} {label : ι}
    (heach : EachStep step p start history) (hrun : Run step start history state log)
    (hlabel : p state label) : EachStep step p start (history ++ [label]) := by
  have hexec := hrun.exec_eq
  clear hrun
  induction history generalizing start log with
  | nil =>
      cases hexec
      refine ⟨hlabel, ?_⟩
      cases step state label with
      | none => trivial
      | some moved => trivial
  | cons first rest ih =>
      unfold Library.exec at hexec
      split at hexec
      · rename_i next out hstep
        obtain ⟨last, hlast, hsame⟩ := Option.map_eq_some_iff.mp hexec
        cases hsame
        obtain ⟨hfirst, hrest⟩ := heach
        refine ⟨hfirst, ?_⟩
        rw [hstep] at hrest ⊢
        exact ih hrest hlast
      · cases hexec

-- The induction rule for invariants of runs whose steps all meet a condition.
theorem Run.invariant_each {condition : σ → ι → Prop} (inv : List ι → σ → List ε → Prop)
    (hnil : inv [] start [])
    (hsnoc : ∀ history state log label next out, inv history state log → condition state label →
      step state label = some (next, out) → inv (history ++ [label]) next (log ++ out))
    {history : List ι} {state : σ} {log : List ε} (hrun : Run step start history state log)
    (heach : EachStep step condition start history) : inv history state log := by
  induction hrun with
  | nil => exact hnil
  | snoc label hrun hstep ih =>
      exact hsnoc _ _ _ label _ _ (ih heach.left) (heach.exec hrun.exec_eq) hstep

-- The runs of a machine that goes on only where a condition is met.
theorem checkedRun_iff {checked : σ → ι → Option (σ × List ε)} {condition : σ → ι → Prop}
    (inv : σ → Prop)
    (hgoes : ∀ state label, inv state → condition state label →
      checked state label = step state label)
    (hstops : ∀ state label, inv state → ¬condition state label → checked state label = none)
    (hkeeps : ∀ state label next out, inv state → condition state label →
      step state label = some (next, out) → inv next)
    (hstart : inv start) (history : List ι) (state : σ) (log : List ε) :
    Run checked start history state log ↔
      Run step start history state log ∧ EachStep step condition start history := by
  constructor
  · intro hrun
    have hboth : inv state ∧ Run step start history state log ∧ EachStep step condition start history := by
      refine hrun.history_invariant (fun history state log => inv state ∧
        Run step start history state log ∧ EachStep step condition start history) ?_ ?_
      · exact ⟨hstart, .nil, trivial⟩
      · intro history state log label next out _ hbefore hchecked
        obtain ⟨hinv, hplain, heach⟩ := hbefore
        by_cases hcondition : condition state label
        · rw [hgoes state label hinv hcondition] at hchecked
          exact ⟨hkeeps state label next out hinv hcondition hchecked, hplain.snoc label hchecked,
            heach.concat hplain hcondition⟩
        · cases (hstops state label hinv hcondition).symm.trans hchecked
    exact hboth.2
  · rintro ⟨hrun, heach⟩
    have hboth : inv state ∧ Run checked start history state log := by
      refine hrun.invariant_each (fun history state log => inv state ∧ Run checked start history state log)
        ⟨hstart, .nil⟩ ?_ heach
      intro history state log label next out hbefore hcondition hstep
      exact ⟨hkeeps state label next out hbefore.1 hcondition hstep,
        hbefore.2.snoc label ((hgoes state label hbefore.1 hcondition).trans hstep)⟩
    exact hboth.2

-- Every state of a history meets `p`, the first and the last one included.
def EachState (step : σ → ι → Option (σ × List ε)) (p : σ → Prop) : σ → List ι → Prop
  | state, [] => p state
  | state, label :: rest =>
      p state ∧
        match step state label with
        | some (next, _) => EachState step p next rest
        | none => True

theorem EachState.first {p : σ → Prop} {history : List ι} (heach : EachState step p start history) :
    p start := by
  cases history with
  | nil => exact heach
  | cons label rest => exact heach.1

theorem EachState.exec {p : σ → Prop} {before after : List ι} {last : σ × List ε}
    (heach : EachState step p start (before ++ after)) (hexec : exec step start before = some last) :
    p last.1 := by
  induction before generalizing start last with
  | nil =>
      cases hexec
      exact heach.first
  | cons label rest ih =>
      unfold Library.exec at hexec
      split at hexec
      · rename_i next out hstep
        obtain ⟨later, hlater, rfl⟩ := Option.map_eq_some_iff.mp hexec
        have hrest := heach.2
        rw [hstep] at hrest
        have hlast : p later.1 := ih hrest hlater
        exact hlast
      · cases hexec

theorem eachState_iff (p : σ → Prop) (history : List ι) :
    EachState step p start history ↔ ∀ before after state log, history = before ++ after →
      Run step start before state log → p state := by
  constructor
  · rintro heach before after state log rfl hrun
    exact heach.exec hrun.exec_eq
  · intro hall
    induction history generalizing start with
    | nil => exact hall [] [] start [] rfl .nil
    | cons label rest ih =>
        refine ⟨hall [] (label :: rest) start [] rfl .nil, ?_⟩
        cases hstep : step start label with
        | none => trivial
        | some moved =>
            refine ih fun before after state log hsplit hrun => ?_
            exact hall (label :: before) after state _ (by rw [hsplit]; rfl) (hrun.cons hstep)

-- Where the condition on a step is the exact one for the step to keep an
-- invariant, it is the exact one for runs too. `frame` holds in any case.
theorem eachState_iff_eachStep {p : σ → Prop} {condition : σ → ι → Prop} (frame : σ → Prop)
    (hframe : ∀ state label next out, frame state → step state label = some (next, out) → frame next)
    (hexact : ∀ state label next out, frame state → p state → step state label = some (next, out) →
      (p next ↔ condition state label))
    (hdisabled : ∀ state label, frame state → p state → step state label = none → condition state label)
    (hstart : frame start) (hp : p start) (history : List ι) :
    EachState step p start history ↔ EachStep step condition start history := by
  induction history generalizing start with
  | nil => exact iff_of_true hp trivial
  | cons label rest ih =>
      unfold EachState EachStep
      cases hstep : step start label with
      | none => exact iff_of_true ⟨hp, trivial⟩ ⟨hdisabled start label hstart hp hstep, trivial⟩
      | some moved =>
          have hnext := hexact start label moved.1 moved.2 hstart hp hstep
          have hkept := hframe start label moved.1 moved.2 hstart hstep
          constructor
          · rintro ⟨-, hrest⟩
            exact ⟨hnext.mp hrest.first, (ih hkept hrest.first).mp hrest⟩
          · rintro ⟨hcondition, hrest⟩
            have hmoved := hnext.mpr hcondition
            exact ⟨hp, (ih hkept hmoved).mpr hrest⟩

-- The rule for an invariant that is kept by the steps that meet a condition.
theorem eachState_of_eachStep {p : σ → Prop} {condition : σ → ι → Prop} (inv : σ → Prop)
    (hp : ∀ state, inv state → p state)
    (hkeeps : ∀ state label next out, inv state → condition state label →
      step state label = some (next, out) → inv next)
    (hstart : inv start) {history : List ι} (heach : EachStep step condition start history) :
    EachState step p start history := by
  induction history generalizing start with
  | nil => exact hp start hstart
  | cons label rest ih =>
      obtain ⟨hcondition, hrest⟩ := heach
      refine ⟨hp start hstart, ?_⟩
      cases hstep : step start label with
      | none => trivial
      | some moved =>
          rw [hstep] at hrest
          exact ih (hkeeps start label moved.1 moved.2 hstart hcondition hstep) hrest

-- Two conditions that agree in every state with an invariant agree for histories.
theorem eachStep_congr {p q : σ → ι → Prop} (inv : σ → Prop)
    (hnext : ∀ state label next out, inv state → step state label = some (next, out) → inv next)
    (hcongr : ∀ state label, inv state → (p state label ↔ q state label)) (hstart : inv start)
    (history : List ι) : EachStep step p start history ↔ EachStep step q start history := by
  induction history generalizing start with
  | nil => exact Iff.rfl
  | cons label rest ih =>
      unfold EachStep
      rw [hcongr start label hstart]
      cases hstep : step start label with
      | none => exact Iff.rfl
      | some moved => exact and_congr_right fun _ => ih (hnext start label moved.1 moved.2 hstart hstep)

-- The steps before the first one that ends a phase.
def stepUntil (ends : σ → ι → Bool) (step : σ → ι → Option (σ × List ε)) (state : σ) (label : ι) :
    Option (σ × List ε) :=
  if ends state label then none else step state label

theorem stepUntil_eq_some {ends : σ → ι → Bool} {state : σ} {label : ι} {result : σ × List ε}
    (hstep : stepUntil ends step state label = some result) :
    ends state label = false ∧ step state label = some result := by
  unfold stepUntil at hstep
  split at hstep
  · cases hstep
  · rename_i hgoes
    exact ⟨Bool.eq_false_iff.mpr hgoes, hstep⟩

-- What holds when a phase begins, and is kept by every step that does not end
-- it, holds throughout.
theorem Run.invariant_until {ends : σ → ι → Bool} (inv : σ → Prop) (hstart : inv start)
    (hkeeps : ∀ state label next out, inv state → ends state label = false →
      step state label = some (next, out) → inv next)
    {history : List ι} {state : σ} {log : List ε}
    (hrun : Run (stepUntil ends step) start history state log) : inv state := by
  induction hrun with
  | nil => exact hstart
  | snoc label _ hstep ih =>
      obtain ⟨hgoes, hkept⟩ := stepUntil_eq_some hstep
      exact hkeeps _ label _ _ ih hgoes hkept

-- `Since p q history`: some entry satisfies `p`, and no later entry satisfies `q`.
def Since (p q : ι → Prop) (history : List ι) : Prop :=
  ∃ before entry after, history = before ++ entry :: after ∧ p entry ∧ ∀ later ∈ after, ¬q later

@[simp] theorem since_nil (p q : ι → Prop) : ¬Since p q [] := by
  rintro ⟨before, entry, after, hsplit, _⟩
  simp at hsplit

theorem since_concat (p q : ι → Prop) (history : List ι) (label : ι) :
    Since p q (history ++ [label]) ↔ p label ∨ Since p q history ∧ ¬q label := by
  constructor
  · rintro ⟨before, entry, after, hsplit, hp, hq⟩
    rcases List.eq_nil_or_concat after with rfl | ⟨rest, last, rfl⟩
    · obtain ⟨rfl, hlast⟩ := List.append_inj' hsplit rfl
      cases hlast
      exact .inl hp
    · rw [List.concat_eq_append, ← List.cons_append, ← List.append_assoc] at hsplit
      obtain ⟨rfl, hlast⟩ := List.append_inj' hsplit rfl
      cases hlast
      refine .inr ⟨⟨before, entry, rest, rfl, hp, fun later hl => hq later ?_⟩, hq _ ?_⟩
      · simp [hl]
      · simp
  · rintro (hp | ⟨⟨before, entry, after, rfl, hp, hq⟩, hlast⟩)
    · exact ⟨history, label, [], rfl, hp, by simp⟩
    · refine ⟨before, entry, after ++ [label], by simp, hp, ?_⟩
      intro later hl
      rcases List.mem_append.mp hl with hl | hl
      · exact hq later hl
      · cases List.mem_singleton.mp hl
        exact hlast

theorem since_congr {p p' : ι → Prop} (q : ι → Prop) {history : List ι}
    (hcongr : ∀ label ∈ history, p label ↔ p' label) : Since p q history ↔ Since p' q history := by
  have hentry : ∀ before entry after, history = before ++ entry :: after → (p entry ↔ p' entry) := by
    rintro before entry after rfl
    exact hcongr entry (by simp)
  constructor
  · rintro ⟨before, entry, after, hsplit, hp, hq⟩
    exact ⟨before, entry, after, hsplit, (hentry _ _ _ hsplit).mp hp, hq⟩
  · rintro ⟨before, entry, after, hsplit, hp, hq⟩
    exact ⟨before, entry, after, hsplit, (hentry _ _ _ hsplit).mpr hp, hq⟩

-- `Occurs p history`: some entry satisfies `p` together with the entries before it.
def Occurs (p : List ι → ι → Prop) (history : List ι) : Prop :=
  ∃ before entry after, history = before ++ entry :: after ∧ p before entry

@[simp] theorem occurs_nil (p : List ι → ι → Prop) : ¬Occurs p [] := by
  rintro ⟨before, entry, after, hsplit, _⟩
  simp at hsplit

theorem occurs_concat (p : List ι → ι → Prop) (history : List ι) (label : ι) :
    Occurs p (history ++ [label]) ↔ Occurs p history ∨ p history label := by
  constructor
  · rintro ⟨before, entry, after, hsplit, hp⟩
    rcases List.eq_nil_or_concat after with rfl | ⟨rest, last, rfl⟩
    · obtain ⟨rfl, hlast⟩ := List.append_inj' hsplit rfl
      cases hlast
      exact .inr hp
    · rw [List.concat_eq_append, ← List.cons_append, ← List.append_assoc] at hsplit
      obtain ⟨rfl, hlast⟩ := List.append_inj' hsplit rfl
      exact .inl ⟨before, entry, rest, rfl, hp⟩
  · rintro (⟨before, entry, after, rfl, hp⟩ | hp)
    · exact ⟨before, entry, after ++ [label], by simp, hp⟩
    · exact ⟨history, label, [], rfl, hp⟩

-- `OccursLast p history entry`: the entry satisfies `p` together with the entries
-- before it, and no later entry does.
def OccursLast (p : List ι → ι → Prop) (history : List ι) (entry : ι) : Prop :=
  ∃ before after, history = before ++ entry :: after ∧ p before entry ∧
    ∀ between later rest, after = between ++ later :: rest → ¬p (before ++ entry :: between) later

@[simp] theorem occursLast_nil (p : List ι → ι → Prop) (entry : ι) : ¬OccursLast p [] entry := by
  rintro ⟨before, after, hsplit, _⟩
  simp at hsplit

-- `Precedes a b history`: some entry `b` has an entry `a` before it.
def Precedes (first second : ι) : List ι → Prop :=
  Occurs fun before entry => entry = second ∧ first ∈ before

theorem precedes_concat (first second : ι) (history : List ι) (label : ι) :
    Precedes first second (history ++ [label]) ↔
      Precedes first second history ∨ label = second ∧ first ∈ history :=
  occurs_concat _ history label

theorem Precedes.second_mem {first second : ι} {history : List ι}
    (hprecedes : Precedes first second history) : second ∈ history := by
  obtain ⟨before, entry, after, rfl, rfl, -⟩ := hprecedes
  simp

section Latest

variable {α : Type*}

-- The latest thing that an entry of a history tells.
def latest (tells : ι → Option α) (history : List ι) : Option α := history.reverse.findSome? tells

@[simp] theorem latest_nil (tells : ι → Option α) : latest tells [] = none := rfl

theorem latest_concat (tells : ι → Option α) (history : List ι) (label : ι) :
    latest tells (history ++ [label]) = (tells label).or (latest tells history) := by
  unfold latest
  rw [List.reverse_append, List.reverse_singleton, List.singleton_append, List.findSome?_cons]
  cases tells label <;> rfl

-- Where the latest entry to tell anything tells a value, it is the latest value.
theorem latest_join {tells : ι → Option (Option α)} {history : List ι} {value : α}
    (hlatest : latest tells history = some (some value)) :
    latest (fun label => (tells label).join) history = some value := by
  induction history using List.reverseRecOn with
  | nil => cases hlatest
  | append_singleton before label ih =>
      rw [latest_concat] at hlatest ⊢
      cases hlabel : tells label with
      | none =>
          rw [hlabel] at hlatest
          exact ih hlatest
      | some told =>
          rw [hlabel] at hlatest
          cases hlatest
          rfl

theorem latest_join_none {tells : ι → Option (Option α)} {history : List ι}
    (hlatest : latest tells history = none) :
    latest (fun label => (tells label).join) history = none := by
  unfold latest at hlatest ⊢
  rw [List.findSome?_eq_none_iff] at hlatest ⊢
  intro label hlabel
  rw [hlatest label hlabel]
  rfl

-- The latest thing that a step tells, in the state where it is taken.
def latestStep (step : σ → ι → Option (σ × List ε)) (tells : σ → ι → Option α) : σ → List ι → Option α
  | _, [] => none
  | state, label :: rest =>
      match step state label with
      | some (next, _) => (latestStep step tells next rest).or (tells state label)
      | none => tells state label

theorem latestStep_concat (tells : σ → ι → Option α) {history : List ι} {state : σ} {log : List ε}
    (hrun : Run step start history state log) (label : ι) :
    latestStep step tells start (history ++ [label]) =
      (tells state label).or (latestStep step tells start history) := by
  have hexec := hrun.exec_eq
  clear hrun
  induction history generalizing start log with
  | nil =>
      cases hexec
      have hone : latestStep step tells state [label] = tells state label := by
        unfold latestStep
        split
        · rfl
        · rfl
      rw [List.nil_append, hone]
      exact Option.or_none.symm
  | cons first rest ih =>
      unfold exec at hexec
      split at hexec
      · rename_i next out hstep
        obtain ⟨last, hlast, hsame⟩ := Option.map_eq_some_iff.mp hexec
        cases hsame
        simp only [List.cons_append, latestStep, hstep]
        rw [ih hlast, Option.or_assoc]
      · cases hexec

end Latest

section Simulation

variable {τ κ δ : Type*} {below : τ → κ → Option (τ × List δ)}

-- What the steps of a history tell, each in the state where it is taken.
def gather (step : σ → ι → Option (σ × List ε)) (tells : σ → ι → Option κ) : σ → List ι → List κ
  | _, [] => []
  | state, label :: rest =>
      (tells state label).toList ++
        match step state label with
        | some (next, _) => gather step tells next rest
        | none => []

theorem gather_concat (tells : σ → ι → Option κ) {history : List ι} {state : σ} {log : List ε}
    (hrun : Run step start history state log) (label : ι) :
    gather step tells start (history ++ [label]) =
      gather step tells start history ++ (tells state label).toList := by
  have hexec := hrun.exec_eq
  clear hrun
  induction history generalizing start log with
  | nil =>
      cases hexec
      have hone : gather step tells state [label] = (tells state label).toList := by
        unfold gather
        split <;> exact List.append_nil _
      rw [List.nil_append, hone]
      rfl
  | cons first rest ih =>
      unfold exec at hexec
      split at hexec
      · rename_i next out hstep
        obtain ⟨last, hlast, hsame⟩ := Option.map_eq_some_iff.mp hexec
        cases hsame
        simp only [List.cons_append, gather, hstep]
        rw [ih hlast, List.append_assoc]
      · cases hexec

-- Every step is the step below that it tells of, or changes nothing there.
def Simulates (step : σ → ι → Option (σ × List ε)) (below : τ → κ → Option (τ × List δ))
    (tells : σ → ι → Option κ) (view : σ → τ) (shows : ε → Option δ) : Prop :=
  ∀ state label next out, step state label = some (next, out) →
    match tells state label with
    | some call => below (view state) call = some (view next, out.filterMap shows)
    | none => view next = view state ∧ out.filterMap shows = []

-- The refinement rule: a run is a run below.
theorem Run.simulated {tells : σ → ι → Option κ} {view : σ → τ} {shows : ε → Option δ}
    (hsimulates : Simulates step below tells view shows) {history : List ι} {state : σ} {log : List ε}
    (hrun : Run step start history state log) :
    Run below (view start) (gather step tells start history) (view state) (log.filterMap shows) := by
  induction hrun with
  | nil => exact .nil
  | snoc label hrun hstep ih =>
      have hmove := hsimulates _ label _ _ hstep
      rw [gather_concat tells hrun, List.filterMap_append]
      split at hmove
      · rename_i call htells
        rw [htells]
        exact ih.snoc call hmove
      · rename_i htells
        rw [htells, hmove.1, hmove.2, Option.toList_none, List.append_nil, List.append_nil]
        exact ih

end Simulation

end BatteryManager.Library
