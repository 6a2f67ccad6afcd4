import BatteryManager.Dump
import BatteryManager.Service.Mock

namespace BatteryManager.Dump

open Library BatteryService

variable {F : Ffrt}

-- What a dump may ask of the service.
inductive DumpCommand
  | MockUnplugged
  | MockCapacity (capacity : Int)
  | MockUevent (uevent : String)
  | Reset
  deriving DecidableEq

def InRange (capacity : Int) : Prop := CAPACITY_LIMIT_MIN ≤ capacity ∧ capacity ≤ CAPACITY_LIMIT_MAX

instance (capacity : Int) : Decidable (InRange capacity) := inferInstanceAs (Decidable (_ ∧ _))

-- The command that the arguments name. The first one decides, and a value
-- follows only where one belongs.
def commandOf (utils : StringUtils) : List U16String → Option DumpCommand
  | [] => none
  | option :: rest =>
      if option = u16 "-u" then some .MockUnplugged
      else if option = u16 "-r" then some .Reset
      else
        match rest with
        | [value] =>
            let text := utils.str16ToStr8 value
            if option = u16 "--capacity" then
              ((utils.strToInt text).filter fun capacity => InRange capacity).map .MockCapacity
            else if option = u16 "--uevent" then some (.MockUevent text)
            else none
        | _ => none

def DumpCommand.label (env : DumpEnv) : DumpCommand → ServiceLabel
  | .MockUnplugged => .MockUnplugged env.event env.chargeType env.report
  | .MockCapacity capacity => .MockCapacity capacity env.event env.chargeType env.report
  | .MockUevent uevent => .MockUevent uevent env.event env.chargeType env.report
  | .Reset => .Reset env.event env.chargeType env.report

-- Commands are taken from the system alone, once the device has booted, and not
-- in a user version.
def granted (program : DumpBuild) (env : DumpEnv) : Bool :=
  env.isBootCompleted && env.isSystem && !program.userVersion

def acceptedCommand (program : DumpBuild) (env : DumpEnv) (args : List U16String) : Option DumpCommand :=
  if granted program env then commandOf program.utils args else none

section Handlers

-- A handler that leaves the arguments to the others.
def Idle (handler : BatteryService F → Handled F) : Prop :=
  ∀ service, handler service = { handled := false, service := service }

theorem runHandlers_idle {rest : List (BatteryService F → Handled F)} (hrest : ∀ handler ∈ rest, Idle handler)
    (service : BatteryService F) : runHandlers rest service = { handled := false, service := service } := by
  induction rest with
  | nil => rfl
  | cons handler others ih =>
      have hfirst : Idle handler := hrest handler List.mem_cons_self
      have hothers := ih fun other hother => hrest other (List.mem_cons_of_mem _ hother)
      simp [runHandlers, hfirst service, hothers]

theorem runHandlers_cons (handler : BatteryService F → Handled F)
    (rest : List (BatteryService F → Handled F)) (service : BatteryService F) :
    runHandlers (handler :: rest) service =
      { handled := (handler service).handled || (runHandlers rest (handler service).service).handled
        service := (runHandlers rest (handler service).service).service
        effects := (handler service).effects ++ (runHandlers rest (handler service).service).effects
        lines := (handler service).lines ++ (runHandlers rest (handler service).service).lines } := rfl

variable (program : DumpBuild) (config : BatteryConfig) (env : DumpEnv) (option : U16String)
variable (rest : List U16String)

theorem getBatteryInfo_idle (hother : option ≠ u16 "-i") :
    Idle (getBatteryInfo (F := F) env (option :: rest)) := by
  intro service
  simp [getBatteryInfo, hother]

theorem mockUnplugged_idle (hother : option ≠ u16 "-u") :
    Idle (mockUnplugged (F := F) program config env (option :: rest)) := by
  intro service
  simp [mockUnplugged, hother]

theorem reset_idle (hother : option ≠ u16 "-r") :
    Idle (reset (F := F) program config env (option :: rest)) := by
  intro service
  simp [reset, hother]

theorem mockCapacity_idle (hother : option ≠ u16 "--capacity") :
    Idle (mockCapacity (F := F) program config env (option :: rest)) := by
  intro service
  simp [mockCapacity, hother]

theorem mockUevent_idle (hother : option ≠ u16 "--uevent") :
    Idle (mockUevent (F := F) program config env (option :: rest)) := by
  intro service
  simp [mockUevent, hother]

end Handlers

-- The service and the effects are those of one step for the command, or those
-- of no step at all.
def Serves (program : DumpBuild) (config : BatteryConfig) (env : DumpEnv) (service : BatteryService F)
    (command : Option DumpCommand) (next : BatteryService F) (effects : List Effect) : Prop :=
  match command with
  | some command => serviceStep program.build config service (command.label env) = some (next, effects)
  | none => next = service ∧ effects = []

section Serves

variable (program : DumpBuild) (config : BatteryConfig) (env : DumpEnv) (service : BatteryService F)

-- What the arguments ask for, in a version that carries it out.
def offeredCommand (args : List U16String) : Option DumpCommand :=
  if program.userVersion then none else commandOf program.utils args

theorem unlessUserVersion_serves {command : Handled F} {asked : Option DumpCommand}
    (hserves : Serves program config env service asked command.service command.effects) :
    Serves program config env service (if program.userVersion then none else asked)
      (unlessUserVersion program service command).service
      (unlessUserVersion program service command).effects := by
  unfold unlessUserVersion
  split
  · exact ⟨rfl, rfl⟩
  · exact hserves

theorem mockCapacity_serves (value : U16String) :
    Serves program config env service (offeredCommand program [u16 "--capacity", value])
      (mockCapacity program config env [u16 "--capacity", value] service).service
      (mockCapacity program config env [u16 "--capacity", value] service).effects := by
  have hcommand : commandOf program.utils [u16 "--capacity", value] =
      ((program.utils.strToInt (program.utils.str16ToStr8 value)).filter
        fun capacity => InRange capacity).map .MockCapacity := by
    rw [commandOf, if_neg (by decide), if_neg (by decide)]
    exact if_pos rfl
  have haccepted : [u16 "--capacity", value].length = CAPACITY_DUMP_PARAM_SIZE ∧
      [u16 "--capacity", value].head? = some (u16 "--capacity") := ⟨rfl, rfl⟩
  rw [offeredCommand, mockCapacity, if_pos haccepted]
  refine unlessUserVersion_serves program config env service ?_
  rw [hcommand]
  simp only [List.getD_cons_succ, List.getD_cons_zero]
  cases program.utils.strToInt (program.utils.str16ToStr8 value) with
  | none => exact ⟨rfl, rfl⟩
  | some capacity =>
      by_cases hrange : InRange capacity
      · have hinside : ¬(capacity < CAPACITY_LIMIT_MIN ∨ capacity > CAPACITY_LIMIT_MAX) := by
          unfold InRange at hrange
          omega
        rw [Option.filter_some_pos (by simpa using hrange)]
        simp only [if_neg hinside]
        rfl
      · have houtside : capacity < CAPACITY_LIMIT_MIN ∨ capacity > CAPACITY_LIMIT_MAX := by
          unfold InRange at hrange
          omega
        rw [Option.filter_some_neg (by simpa using hrange)]
        simp only [if_pos houtside]
        exact ⟨rfl, rfl⟩

theorem mockUevent_serves (value : U16String) :
    Serves program config env service (offeredCommand program [u16 "--uevent", value])
      (mockUevent program config env [u16 "--uevent", value] service).service
      (mockUevent program config env [u16 "--uevent", value] service).effects := by
  have hcommand : commandOf program.utils [u16 "--uevent", value] =
      some (.MockUevent (program.utils.str16ToStr8 value)) := by
    rw [commandOf, if_neg (by decide), if_neg (by decide)]
    exact (if_neg (by decide)).trans (if_pos rfl)
  have haccepted : [u16 "--uevent", value].length = UEVENT_DUMP_PARAM_SIZE ∧
      [u16 "--uevent", value].head? = some (u16 "--uevent") := ⟨rfl, rfl⟩
  rw [offeredCommand, hcommand, mockUevent, if_pos haccepted]
  exact unlessUserVersion_serves program config env service rfl

theorem mockUnplugged_serves (rest : List U16String) :
    Serves program config env service (offeredCommand program (u16 "-u" :: rest))
      (mockUnplugged program config env (u16 "-u" :: rest) service).service
      (mockUnplugged program config env (u16 "-u" :: rest) service).effects := by
  have hcommand : commandOf program.utils (u16 "-u" :: rest) = some .MockUnplugged := by
    unfold commandOf
    exact if_pos rfl
  have haccepted : (u16 "-u" :: rest).head? = some (u16 "-u") := rfl
  rw [offeredCommand, hcommand, mockUnplugged, if_pos haccepted]
  exact unlessUserVersion_serves program config env service rfl

theorem reset_serves (rest : List U16String) :
    Serves program config env service (offeredCommand program (u16 "-r" :: rest))
      (reset program config env (u16 "-r" :: rest) service).service
      (reset program config env (u16 "-r" :: rest) service).effects := by
  have hcommand : commandOf program.utils (u16 "-r" :: rest) = some .Reset := by
    unfold commandOf
    exact (if_neg (by decide)).trans (if_pos rfl)
  have haccepted : (u16 "-r" :: rest).head? = some (u16 "-r") := rfl
  rw [offeredCommand, hcommand, reset, if_pos haccepted]
  exact unlessUserVersion_serves program config env service rfl

-- Arguments that no command has are left alone by every handler but the one
-- that only prints.
theorem runHandlers_quiet {option : U16String} {rest : List U16String}
    (hunplugged : option ≠ u16 "-u") (hreset : option ≠ u16 "-r")
    (hcapacity : option ≠ u16 "--capacity" ∨ rest.length ≠ 1)
    (huevent : option ≠ u16 "--uevent" ∨ rest.length ≠ 1) :
    let total := runHandlers (handlers program config env (option :: rest)) service
    total.service = service ∧ total.effects = [] := by
  have hfirst : (getBatteryInfo env (option :: rest) service).service = service ∧
      (getBatteryInfo env (option :: rest) service).effects = [] := by
    unfold getBatteryInfo
    split <;> exact ⟨rfl, rfl⟩
  have hcapacityIdle : Idle (mockCapacity (F := F) program config env (option :: rest)) := by
    intro service
    refine if_neg ?_
    rintro ⟨hlength, hoption⟩
    simp only [List.length_cons, CAPACITY_DUMP_PARAM_SIZE] at hlength
    rcases hcapacity with hother | hcount
    · exact hother (by simpa using hoption)
    · omega
  have hueventIdle : Idle (mockUevent (F := F) program config env (option :: rest)) := by
    intro service
    refine if_neg ?_
    rintro ⟨hlength, hoption⟩
    simp only [List.length_cons, UEVENT_DUMP_PARAM_SIZE] at hlength
    rcases huevent with hother | hcount
    · exact hother (by simpa using hoption)
    · omega
  have hunpluggedIdle := mockUnplugged_idle (F := F) program config env option rest hunplugged
  have hresetIdle := reset_idle (F := F) program config env option rest hreset
  have hothers : ∀ first : BatteryService F,
      runHandlers [mockUnplugged program config env (option :: rest),
        mockCapacity program config env (option :: rest), mockUevent program config env (option :: rest),
        reset program config env (option :: rest)] first = { handled := false, service := first } :=
    runHandlers_idle (by simp [hunpluggedIdle, hcapacityIdle, hueventIdle, hresetIdle])
  dsimp only
  rw [handlers, runHandlers_cons, hothers]
  exact ⟨hfirst.1, by simp [hfirst.2]⟩

theorem commandOf_none (utils : StringUtils) {option : U16String} {rest : List U16String}
    (hunplugged : option ≠ u16 "-u") (hreset : option ≠ u16 "-r")
    (hcapacity : option ≠ u16 "--capacity" ∨ rest.length ≠ 1)
    (huevent : option ≠ u16 "--uevent" ∨ rest.length ≠ 1) : commandOf utils (option :: rest) = none := by
  unfold commandOf
  dsimp only
  rw [if_neg hunplugged, if_neg hreset]
  split
  · have hc : option ≠ u16 "--capacity" := hcapacity.resolve_right (by simp)
    have he : option ≠ u16 "--uevent" := huevent.resolve_right (by simp)
    exact (if_neg hc).trans (if_neg he)
  · rfl

theorem quiet_serves {option : U16String} {rest : List U16String}
    (hunplugged : option ≠ u16 "-u") (hreset : option ≠ u16 "-r")
    (hcapacity : option ≠ u16 "--capacity" ∨ rest.length ≠ 1)
    (huevent : option ≠ u16 "--uevent" ∨ rest.length ≠ 1) :
    let total := runHandlers (handlers program config env (option :: rest)) service
    Serves program config env service (offeredCommand program (option :: rest)) total.service
      total.effects := by
  have hnone : offeredCommand program (option :: rest) = none := by
    rw [offeredCommand, commandOf_none program.utils hunplugged hreset hcapacity huevent, ite_self]
  rw [hnone]
  exact runHandlers_quiet program config env service hunplugged hreset hcapacity huevent

theorem runHandlers_serves (option : U16String) (rest : List U16String) :
    let total := runHandlers (handlers program config env (option :: rest)) service
    Serves program config env service (offeredCommand program (option :: rest)) total.service
      total.effects := by
  have hinfo := getBatteryInfo_idle (F := F) env option rest
  have hunplugged := mockUnplugged_idle (F := F) program config env option rest
  have hcapacity := mockCapacity_idle (F := F) program config env option rest
  have huevent := mockUevent_idle (F := F) program config env option rest
  have hreset := reset_idle (F := F) program config env option rest
  unfold Idle at hinfo hunplugged hcapacity huevent hreset
  dsimp only
  by_cases hu : option = u16 "-u"
  · subst hu
    simp only [handlers, runHandlers_cons, runHandlers, hinfo (by decide), hcapacity (by decide),
      huevent (by decide), hreset (by decide), List.nil_append, List.append_nil]
    exact mockUnplugged_serves program config env service rest
  by_cases hr : option = u16 "-r"
  · subst hr
    simp only [handlers, runHandlers_cons, runHandlers, hinfo (by decide), hcapacity (by decide),
      huevent (by decide), hunplugged (by decide), List.nil_append, List.append_nil]
    exact reset_serves program config env service rest
  by_cases hcount : rest.length = 1
  · obtain ⟨value, rfl⟩ := List.length_eq_one_iff.mp hcount
    by_cases hc : option = u16 "--capacity"
    · subst hc
      simp only [handlers, runHandlers_cons, runHandlers, hinfo (by decide), hunplugged (by decide),
        huevent (by decide), hreset (by decide), List.nil_append, List.append_nil]
      exact mockCapacity_serves program config env service value
    by_cases he : option = u16 "--uevent"
    · subst he
      simp only [handlers, runHandlers_cons, runHandlers, hinfo (by decide), hunplugged (by decide),
        hcapacity (by decide), hreset (by decide), List.nil_append, List.append_nil]
      exact mockUevent_serves program config env service value
    · exact quiet_serves program config env service hu hr (.inl hc) (.inl he)
  · exact quiet_serves program config env service hu hr (.inr hcount) (.inr hcount)

end Serves

-- A dump that is refused, and one that only asks for help, does nothing.
theorem dump_serves (program : DumpBuild) (config : BatteryConfig) (env : DumpEnv)
    (args : List U16String) (service : BatteryService F) :
    Serves program config env service (acceptedCommand program env args)
      (dump program config env args service).service
      (dump program config env args service).effects := by
  by_cases hbooted : env.isBootCompleted = true
  · by_cases hsystem : env.isSystem = true
    · have hoffered : acceptedCommand program env args = offeredCommand program args := by
        unfold acceptedCommand granted offeredCommand
        cases program.userVersion <;> simp [hbooted, hsystem]
      rw [hoffered]
      unfold dump
      rw [if_neg (by simpa using hbooted), if_neg (by simpa using hsystem)]
      cases args with
      | nil =>
          have hnone : offeredCommand program [] = none := by simp [offeredCommand, commandOf]
          rw [hnone]
          exact ⟨rfl, rfl⟩
      | cons option rest =>
          by_cases hhelp : option = u16 "-h"
          · subst hhelp
            have hnone : commandOf program.utils (u16 "-h" :: rest) = none :=
              commandOf_none program.utils (by decide) (by decide) (.inl (by decide)) (.inl (by decide))
            rw [if_pos (by simp), offeredCommand, hnone, ite_self]
            exact ⟨rfl, rfl⟩
          · rw [if_neg (by simpa using hhelp)]
            have hserves := runHandlers_serves program config env service option rest
            dsimp only at hserves ⊢
            split <;> exact hserves
    · have hnone : acceptedCommand program env args = none := by simp [acceptedCommand, granted, hsystem]
      rw [hnone, dump, if_neg (by simpa using hbooted), if_pos (by simpa using hsystem)]
      exact ⟨rfl, rfl⟩
  · have hnone : acceptedCommand program env args = none := by simp [acceptedCommand, granted, hbooted]
    rw [hnone, dump, if_pos (by simpa using hbooted)]
    exact ⟨rfl, rfl⟩

-- Dumps between the reports and the restarts of the HDI.
inductive DumpLabel
  | Request (env : DumpEnv) (args : List U16String)
  | Callback (event : HdiBatteryInfo) (chargeType : Option Nat) (env : ReportEnv)
  | Stop
  | Start (env : InitEnv)

def dumpStep (program : DumpBuild) (config : BatteryConfig) (service : BatteryService F) :
    DumpLabel → Option (BatteryService F × List Effect)
  | .Request env args =>
      let reply := dump program config env args service
      some (reply.service, reply.effects)
  | .Callback event chargeType env =>
      some (service.handleBatteryCallbackEvent program.build config env event chargeType)
  | .Stop => some (service.hdiStop, [])
  | .Start env => some (service.hdiStartTask program.build config env)

abbrev DumpRun (program : DumpBuild) (config : BatteryConfig) (enableS4 : Bool) :
    List DumpLabel → BatteryService F → List Effect → Prop :=
  Run (dumpStep program config) (.init program.build config enableS4)

-- The step of the service that stands for one of these, if any does.
def DumpLabel.meaning (program : DumpBuild) : DumpLabel → Option ServiceLabel
  | .Request env args => (acceptedCommand program env args).map (DumpCommand.label env)
  | .Callback event chargeType env => some (.Callback event chargeType env)
  | .Stop => some .Stop
  | .Start env => some (.Start env)

theorem dumpStep_meaning {program : DumpBuild} {config : BatteryConfig} {service next : BatteryService F}
    {label : DumpLabel} {out : List Effect}
    (hstep : dumpStep program config service label = some (next, out)) :
    match label.meaning program with
    | some meant => serviceStep program.build config service meant = some (next, out)
    | none => next = service ∧ out = [] := by
  cases label with
  | Request env args =>
      obtain ⟨rfl, rfl⟩ := Prod.mk.inj (Option.some.inj hstep)
      have hserves := dump_serves program config env args service
      unfold Serves at hserves
      cases hcommand : acceptedCommand program env args with
      | none =>
          rw [hcommand] at hserves
          simp only [DumpLabel.meaning, hcommand, Option.map_none]
          exact hserves
      | some command =>
          rw [hcommand] at hserves
          simp only [DumpLabel.meaning, hcommand, Option.map_some]
          exact hserves
  | Callback event chargeType env => exact hstep
  | Stop => exact hstep
  | Start env => exact hstep

theorem dumpRun_serviceRun {program : DumpBuild} {config : BatteryConfig} {enableS4 : Bool}
    {history : List DumpLabel} {service : BatteryService F} {log : List Effect}
    (hrun : DumpRun program config enableS4 history service log) :
    ServiceRun program.build config enableS4 (history.filterMap (DumpLabel.meaning program)) service
      log := by
  induction hrun with
  | nil => exact .nil
  | snoc label hrun hstep ih =>
      have hmeaning := dumpStep_meaning hstep
      rw [List.filterMap_append]
      cases hlabel : label.meaning program with
      | none =>
          rw [hlabel] at hmeaning
          obtain ⟨rfl, rfl⟩ := hmeaning
          simpa [hlabel] using ih
      | some meant =>
          rw [hlabel] at hmeaning
          simpa [hlabel] using Run.snoc meant ih hmeaning

section Refused

-- A handler that does nothing unless it says so.
def Honest (handler : BatteryService F → Handled F) : Prop :=
  ∀ service, (handler service).handled = false →
    (handler service).service = service ∧ (handler service).effects = []

theorem runHandlers_honest {all : List (BatteryService F → Handled F)}
    (hall : ∀ handler ∈ all, Honest handler) : Honest (runHandlers all) := by
  intro service
  induction all generalizing service with
  | nil => exact fun _ => ⟨rfl, rfl⟩
  | cons handler rest ih =>
      intro hhandled
      rw [runHandlers_cons] at hhandled ⊢
      obtain ⟨hfirst, hrest⟩ := Bool.or_eq_false_iff.mp hhandled
      obtain ⟨hservice, heffects⟩ := hall handler List.mem_cons_self service hfirst
      have hothers := ih (fun other hother => hall other (List.mem_cons_of_mem _ hother)) _ hrest
      refine ⟨hothers.1.trans hservice, ?_⟩
      simp only [heffects, hothers.2, List.append_nil]

variable (program : DumpBuild) (config : BatteryConfig) (env : DumpEnv) (args : List U16String)

theorem unlessUserVersion_honest {command : BatteryService F → Handled F} (hcommand : Honest command) :
    Honest fun service => unlessUserVersion program service (command service) := by
  intro service hhandled
  unfold unlessUserVersion at hhandled ⊢
  split at hhandled
  · cases hhandled
  · rename_i hdebug
    simp only [if_neg hdebug]
    exact hcommand service hhandled

theorem commanded_honest (moved : BatteryService F → BatteryService F × List Effect)
    (line : String) : Honest fun service => commanded (moved service) line :=
  fun _ hhandled => nomatch hhandled

theorem honest_if {condition : Prop} [Decidable condition] {handler : BatteryService F → Handled F}
    (hhandler : Honest handler) :
    Honest fun service => if condition then handler service else { handled := false, service := service } := by
  intro service hhandled
  by_cases hcondition : condition
  · simp only [if_pos hcondition] at hhandled ⊢
    exact hhandler service hhandled
  · simp only [if_neg hcondition, and_self]

theorem mockCapacity_honest : Honest (mockCapacity (F := F) program config env args) := by
  apply honest_if
  apply unlessUserVersion_honest
  intro service hhandled
  split at hhandled
  · exact ⟨rfl, rfl⟩
  · split at hhandled <;> cases hhandled

theorem handlers_honest : ∀ handler ∈ handlers (F := F) program config env args, Honest handler := by
  intro handler hmem
  simp only [handlers, List.mem_cons, List.not_mem_nil, or_false] at hmem
  rcases hmem with rfl | rfl | rfl | rfl | rfl
  · exact honest_if fun _ hhandled => nomatch hhandled
  · exact honest_if (unlessUserVersion_honest program (commanded_honest _ _))
  · exact mockCapacity_honest program config env args
  · exact honest_if (unlessUserVersion_honest program (commanded_honest _ _))
  · exact honest_if (unlessUserVersion_honest program (commanded_honest _ _))

theorem dump_refused (service : BatteryService F)
    (hrefused : (dump program config env args service).code ≠ .Ok) :
    (dump program config env args service).service = service ∧
      (dump program config env args service).effects = [] := by
  unfold dump at hrefused ⊢
  split
  · exact ⟨rfl, rfl⟩
  split
  · exact ⟨rfl, rfl⟩
  split
  · exact ⟨rfl, rfl⟩
  · rename_i hbooted hsystem hargs
    rw [if_neg hbooted, if_neg hsystem, if_neg hargs] at hrefused
    dsimp only at hrefused ⊢
    split
    · rename_i hhandled
      rw [if_pos hhandled] at hrefused
      exact absurd rfl hrefused
    · rename_i hhandled
      exact runHandlers_honest (handlers_honest program config env args) service
        (Bool.eq_false_iff.mpr hhandled)

end Refused

-- Every dump is at most one step of the service, the one that its arguments
-- name, so a run with dumps is a run of the service, and one that fails is none.
theorem dumpRun_refines {program : DumpBuild} {config : BatteryConfig} {enableS4 : Bool}
    {history : List DumpLabel} {service : BatteryService F} {log : List Effect}
    (hrun : DumpRun program config enableS4 history service log) :
    ServiceRun program.build config enableS4 (history.filterMap (DumpLabel.meaning program)) service
        log ∧
      ∀ env args next out, dumpStep program config service (.Request env args) = some (next, out) →
        (dump program config env args service).code ≠ .Ok → next = service ∧ out = [] := by
  refine ⟨dumpRun_serviceRun hrun, ?_⟩
  intro env args next out hstep hrefused
  obtain ⟨rfl, rfl⟩ := Prod.mk.inj (Option.some.inj hstep)
  exact dump_refused program config env args service hrefused

section Mocks

variable {build : Build} {config : BatteryConfig} {service next : BatteryService F}
variable {label : ServiceLabel} {out : List Effect}

def setsMock : ServiceLabel → Bool
  | .MockUnplugged _ _ _ => true
  | .MockCapacity _ _ _ _ => true
  | .MockUevent _ _ _ _ => true
  | _ => false

theorem isMocked_handleBatteryInfo (env : ReportEnv) :
    (service.handleBatteryInfo build config env).1.isMocked = service.isMocked := by
  simp [isMocked]

theorem isMocked_step (hlabel : setsMock label = false) (hunmocked : service.isMocked = false)
    (hstep : serviceStep build config service label = some (next, out)) : next.isMocked = false := by
  cases label with
  | Callback event chargeType env =>
      obtain rfl : (service.handleBatteryCallbackEvent build config env event chargeType).1 = next :=
        congrArg Prod.fst (Option.some.inj hstep)
      unfold handleBatteryCallbackEvent
      rw [hunmocked, if_neg (by decide)]
      dsimp only
      split
      · exact hunmocked
      · exact (isMocked_handleBatteryInfo env).trans hunmocked
  | MockUnplugged event chargeType env => cases hlabel
  | MockCapacity capacity event chargeType env => cases hlabel
  | MockUevent uevent event chargeType env => cases hlabel
  | Reset event chargeType env =>
      obtain rfl : (service.reset build config env event chargeType).1 = next :=
        congrArg Prod.fst (Option.some.inj hstep)
      unfold BatteryService.reset
      split
      · cases build <;> exact isMocked_handleBatteryInfo env
      · exact hunmocked
  | Stop =>
      cases hstep
      exact hunmocked
  | Start env =>
      obtain rfl : (service.hdiStartTask build config env).1 = next :=
        congrArg Prod.fst (Option.some.inj hstep)
      have hregistered : (service.registerBatteryHdiCallback env).isMocked = false := hunmocked
      exact (isMocked_handleBatteryInfo env.report).trans hregistered

theorem isMockCapacity_step (hstep : serviceStep build config service label = some (next, out))
    (hlabel : ∀ capacity event chargeType env, label ≠ .MockCapacity capacity event chargeType env)
    (hmocked : next.isMockCapacity = true) : service.isMockCapacity = true := by
  cases label with
  | Callback event chargeType env =>
      obtain rfl : (service.handleBatteryCallbackEvent build config env event chargeType).1 = next :=
        congrArg Prod.fst (Option.some.inj hstep)
      unfold handleBatteryCallbackEvent at hmocked
      dsimp only at hmocked
      split_ifs at hmocked
      · exact hmocked
      · exact hmocked
      · simpa using hmocked
  | MockUnplugged event chargeType env =>
      obtain rfl : (service.mockUnplugged build config env event chargeType).1 = next :=
        congrArg Prod.fst (Option.some.inj hstep)
      unfold BatteryService.mockUnplugged at hmocked
      split at hmocked
      · simpa using hmocked
      · exact hmocked
  | MockCapacity capacity event chargeType env => exact absurd rfl (hlabel capacity event chargeType env)
  | MockUevent uevent event chargeType env =>
      obtain rfl : (service.mockUevent build config env event chargeType uevent).1 = next :=
        congrArg Prod.fst (Option.some.inj hstep)
      unfold BatteryService.mockUevent at hmocked
      split at hmocked
      · simpa using hmocked
      · exact hmocked
  | Reset event chargeType env =>
      obtain rfl : (service.reset build config env event chargeType).1 = next :=
        congrArg Prod.fst (Option.some.inj hstep)
      unfold BatteryService.reset at hmocked
      split at hmocked
      · cases build <;> simp at hmocked
      · exact hmocked
  | Stop =>
      cases hstep
      exact hmocked
  | Start env =>
      obtain rfl : (service.hdiStartTask build config env).1 = next :=
        congrArg Prod.fst (Option.some.inj hstep)
      simp only [hdiStartTask, initBatteryInfo, handleBatteryInfo_isMockCapacity] at hmocked
      exact hmocked

-- A capacity that is mocked after a step was mocked before it, or by it.
theorem capacityMocked_step (hstep : serviceStep build config service label = some (next, out))
    (hmocked : next.isMockCapacity = true) :
    (service.isMockCapacity = true ∧ next.batteryInfo.capacity = service.batteryInfo.capacity) ∨
      ∃ capacity event chargeType env, label = .MockCapacity capacity event chargeType env ∧
        next.batteryInfo.capacity = capacity := by
  by_cases hends : endsCapacityMock service label = true
  · cases label with
    | MockCapacity capacity event chargeType env =>
        obtain rfl : (service.mockCapacity build config env event chargeType capacity).1 = next :=
          congrArg Prod.fst (Option.some.inj hstep)
        have hset := mockCapacity_mocked build config env event chargeType hends capacity
        exact .inr ⟨capacity, event, chargeType, env, rfl, hset.2⟩
    | Reset event chargeType env =>
        obtain rfl : (service.reset build config env event chargeType).1 = next :=
          congrArg Prod.fst (Option.some.inj hstep)
        have hinterface : service.interface = true := hends
        unfold BatteryService.reset at hmocked
        rw [if_pos hinterface] at hmocked
        cases build <;> simp at hmocked
    | _ => cases hends
  · have hgoes : endsCapacityMock service label = false := Bool.eq_false_iff.mpr hends
    have hbefore : service.isMockCapacity = true := by
      cases label with
      | MockCapacity capacity event chargeType env =>
          simp only [serviceStep, mockCapacity_null build config env event chargeType hgoes] at hstep
          cases hstep
          exact hmocked
      | _ => exact isMockCapacity_step hstep (by simp) hmocked
    have hkept : next.CapacityMocked service.batteryInfo.capacity :=
      CapacityMocked.step ⟨hbefore, rfl⟩ hgoes hstep
    exact .inl ⟨hbefore, hkept.2⟩

-- Along a run, only a command of the run mocks anything.
theorem isMocked_run {enableS4 : Bool} {history : List ServiceLabel} {log : List Effect}
    (hrun : ServiceRun build config enableS4 history service log)
    (hhistory : ∀ label ∈ history, setsMock label = false) : service.isMocked = false := by
  induction hrun with
  | nil => rfl
  | snoc label _ hstep ih =>
      have hbefore := ih fun other hother => hhistory other (List.mem_append_left _ hother)
      exact isMocked_step (hhistory label (by simp)) hbefore hstep

theorem capacityMocked_run {enableS4 : Bool} {history : List ServiceLabel} {log : List Effect}
    (hrun : ServiceRun build config enableS4 history service log) (hmocked : service.isMockCapacity = true) :
    ∃ event chargeType env,
      .MockCapacity service.batteryInfo.capacity event chargeType env ∈ history := by
  induction hrun with
  | nil => cases hmocked
  | snoc label _ hstep ih =>
      rcases capacityMocked_step hstep hmocked with ⟨hbefore, hsame⟩ | ⟨capacity, event, chargeType, env, rfl, rfl⟩
      · obtain ⟨event, chargeType, env, hmem⟩ := ih hbefore
        exact ⟨event, chargeType, env, List.mem_append_left _ (hsame ▸ hmem)⟩
      · exact ⟨event, chargeType, env, by simp⟩

end Mocks

-- Only the one option with a number in range asks for a capacity.
theorem commandOf_capacity {utils : StringUtils} {args : List U16String} {capacity : Int}
    (hcommand : commandOf utils args = some (.MockCapacity capacity)) :
    InRange capacity ∧ ∃ value, args = [u16 "--capacity", value] ∧
      utils.strToInt (utils.str16ToStr8 value) = some capacity := by
  cases args with
  | nil => cases hcommand
  | cons option rest =>
      unfold commandOf at hcommand
      dsimp only at hcommand
      split at hcommand
      · cases hcommand
      split at hcommand
      · cases hcommand
      split at hcommand
      · rename_i value
        split at hcommand
        · rename_i hoption
          obtain ⟨parsed, hparsed, hsame⟩ := Option.map_eq_some_iff.mp hcommand
          obtain ⟨hnumber, hrange⟩ := Option.filter_eq_some_iff.mp hparsed
          cases hsame
          exact ⟨by simpa using hrange, value, by rw [hoption], hnumber⟩
        · split at hcommand <;> cases hcommand
      · cases hcommand

theorem acceptedCommand_capacity {program : DumpBuild} {env : DumpEnv} {args : List U16String}
    {capacity : Int} (haccepted : acceptedCommand program env args = some (.MockCapacity capacity)) :
    env.isBootCompleted = true ∧ env.isSystem = true ∧ InRange capacity ∧
      ∃ value, args = [u16 "--capacity", value] ∧
        program.utils.strToInt (program.utils.str16ToStr8 value) = some capacity := by
  unfold acceptedCommand at haccepted
  split at haccepted
  · rename_i hgranted
    simp only [granted, Bool.and_eq_true] at hgranted
    exact ⟨hgranted.1.1, hgranted.1.2, commandOf_capacity haccepted⟩
  · cases haccepted

-- Whatever is dumped, a user version never runs on mocked data, and any version
-- only ever on a mocked capacity that is a percentage and that the system has
-- asked for in a dump.
theorem dumpRun_mocked {program : DumpBuild} {config : BatteryConfig} {enableS4 : Bool}
    {history : List DumpLabel} {service : BatteryService F} {log : List Effect}
    (hrun : DumpRun program config enableS4 history service log) :
    (program.userVersion = true → service.isMocked = false) ∧
      (service.isMockCapacity = true → InRange service.batteryInfo.capacity ∧
        ∃ env value, .Request env [u16 "--capacity", value] ∈ history ∧
          env.isBootCompleted = true ∧ env.isSystem = true ∧
          program.utils.strToInt (program.utils.str16ToStr8 value) = some service.batteryInfo.capacity) := by
  have hservice := dumpRun_serviceRun hrun
  constructor
  · intro huser
    refine isMocked_run hservice ?_
    intro meant hmem
    obtain ⟨label, -, hlabel⟩ := List.mem_filterMap.mp hmem
    cases label with
    | Request env args =>
        have hnone : acceptedCommand program env args = none := by simp [acceptedCommand, granted, huser]
        simp [DumpLabel.meaning, hnone] at hlabel
    | _ =>
        cases hlabel
        rfl
  · intro hmocked
    obtain ⟨event, chargeType, env, hmem⟩ := capacityMocked_run hservice hmocked
    obtain ⟨label, hrequest, hlabel⟩ := List.mem_filterMap.mp hmem
    cases label with
    | Request asked args =>
        obtain ⟨command, haccepted, hcommand⟩ := Option.map_eq_some_iff.mp hlabel
        cases command with
        | MockCapacity capacity =>
            cases hcommand
            obtain ⟨hboot, hsystem, hrange, value, rfl, hnumber⟩ := acceptedCommand_capacity haccepted
            exact ⟨hrange, asked, value, hrequest, hboot, hsystem, hnumber⟩
        | _ => cases hcommand
    | _ => cases hlabel

-- Arguments in ASCII, and the one number that the run below needs.
def asciiUtils : StringUtils where
  str16ToStr8 text := String.ofList (text.map fun unit => Char.ofNat unit.toNat)
  strToInt text := if text = "7" then some 7 else none

def debugBuild : DumpBuild := { build := .Default, userVersion := false, utils := asciiUtils }

-- The system dumps on a device that has booted and is on its charger.
def systemDump : DumpEnv where
  isBootCompleted := true
  isSystem := true
  currentTime := none
  answers := chargingEvent.answers 1
  errNoInit := -1
  event := chargingEvent
  chargeType := some 1
  report := silentEnv

def mockedHistory : List DumpLabel :=
  [.Start (chargingEvent.startEnv 1), .Request systemDump [u16 "--capacity", u16 "7"],
    .Request systemDump [u16 "-i"], .Callback chargingEvent (some 1) silentEnv]

-- The start, the command and the report are steps of the service, and the dump
-- of the information is none.
theorem dumpRun_refines_mocked :
    let last := (exec (dumpStep debugBuild shippedConfig)
      (init (F := ticketFfrt) .Default shippedConfig true) mockedHistory).get (by decide)
    (mockedHistory.filterMap (DumpLabel.meaning debugBuild)).length = 3 ∧
      ServiceRun debugBuild.build shippedConfig true
        (mockedHistory.filterMap (DumpLabel.meaning debugBuild)) last.1 last.2 :=
  ⟨by decide,
    (dumpRun_refines (exec_run (dumpStep debugBuild shippedConfig) _ mockedHistory (by decide))).1⟩

theorem dumpRun_mocked_percentage :
    let last := (exec (dumpStep debugBuild shippedConfig)
      (init (F := ticketFfrt) .Default shippedConfig true) mockedHistory).get (by decide)
    last.1.isMockCapacity = true ∧ last.1.batteryInfo.capacity = 7 ∧ InRange last.1.batteryInfo.capacity :=
  ⟨by decide, by decide,
    ((dumpRun_mocked (exec_run (dumpStep debugBuild shippedConfig) _ mockedHistory (by decide))).2
      (by decide)).1⟩

end BatteryManager.Dump
