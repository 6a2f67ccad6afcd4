import BatteryManager.FrontEnds.Theorems
import BatteryManager.Getters

namespace BatteryManager.FrontEnds

open Library Protected

def CLI_SUCCESS : Nat := 0
def CLI_FAILURE : Nat := 1

-- What the tool prints: one of the helps, or an object with its data or its error.
inductive CliOutput
  | FullHelp
  | SubcommandHelp (targetCmd : String)
  | Success (key : String) (value : Int)
  | Error (errCode errMsg suggestion : String)
  deriving DecidableEq

-- What the service asks the driver for on behalf of the tool.
inductive CliEffect
  | GetCapacity
  | Protected (effect : ServiceEffect)

abbrev CliReply (η ρ : Type) := Reply (ServiceWorld η) ρ CliEffect

-- The service as the tool finds it. `getCapacity` is the call of the driver that
-- `BatteryHdi` does not have, and an absent answer leaves the argument as it was.
structure CliEnv (η : Type) where
  transport : Transport
  hdi : BatteryHdi η
  getCapacity : η → Option Int × η
  caller : Caller
  isMockCapacity : Bool

def hasHelpFlag (argv : List String) : Bool := argv.any (· = "--help")

section Commands

variable {η : Type} (env : CliEnv η) (world : ServiceWorld η)

def outputSuccess (key : String) (reply : CliReply η Int) : CliReply η (Nat × CliOutput) :=
  ⟨(CLI_SUCCESS, .Success key reply.response), reply.state, reply.effects⟩

def outputError (errCode errMsg suggestion : String) {α : Type} (reply : CliReply η α) :
    CliReply η (Nat × CliOutput) :=
  ⟨(CLI_FAILURE, .Error errCode errMsg suggestion), reply.state, reply.effects⟩

-- A request to the service that was not made.
def unasked : CliReply η Unit := ⟨(), world, []⟩

-- Whoever the caller is.
def getCapacityInner : CliReply η Int :=
  if env.isMockCapacity then ⟨world.batteryInfo.capacity, world, []⟩
  else if world.interface then
    let asked := env.getCapacity world.hdi
    ⟨asked.1.getD BATTERY_FULL_CAPACITY, { world with hdi := asked.2 }, [.GetCapacity]⟩
  else ⟨BATTERY_FULL_CAPACITY, world, []⟩

-- What becomes of a getter over the connection.
def deliver (transport : Transport) (inner : CliReply η Int) : CliReply η Int :=
  match transport with
  | .NoProxy => ⟨INVALID_BATT_INT_VALUE, world, []⟩
  | .Lost false => ⟨INVALID_BATT_INT_VALUE, world, []⟩
  | .Lost true => ⟨INVALID_BATT_INT_VALUE, inner.state, inner.effects⟩
  | .Served => inner

def clientGetCapacity : CliReply η Int := deliver world env.transport (getCapacityInner env world)

def protectedRead (reply : ServiceReply η Int) : CliReply η Int :=
  ⟨reply.response, reply.state, reply.effects.map .Protected⟩

-- The shape of the three commands.
def cmdRead (name key errMsg suggestion : String) (read : CliReply η Int) (argv : List String) :
    CliReply η (Nat × CliOutput) :=
  if argv ≠ [] then
    outputError "ERR_ARG_INVALID"
      ("Unexpected argument for '" ++ name ++ "' command. This command takes no arguments.")
      ("Usage: ohos-batteryManager " ++ name) (unasked world)
  else if read.response = INVALID_BATT_INT_VALUE then
    outputError "ERR_BATT_SERVICE_UNAVAILABLE" errMsg suggestion read
  else outputSuccess key read

def cmdCapacity (argv : List String) : CliReply η (Nat × CliOutput) :=
  cmdRead world "capacity" "capacity"
    "Failed to get battery capacity. BatterySrvClient returned invalid value."
    "Check if powermgr process is running: ps -ef | grep powermgr" (clientGetCapacity env world) argv

def cmdTotalEnergy (argv : List String) : CliReply η (Nat × CliOutput) :=
  cmdRead world "total-energy" "totalEnergy"
    "Failed to get total battery energy. BatterySrvClient returned invalid value."
    "Check if powermgr process is running and caller has system permission."
    (protectedRead (clientGetTotalEnergy env.transport env.hdi world env.caller)) argv

def cmdRemainEnergy (argv : List String) : CliReply η (Nat × CliOutput) :=
  cmdRead world "remain-energy" "remainEnergy"
    "Failed to get remaining battery energy. BatterySrvClient returned invalid value."
    "Check if powermgr process is running and caller has system permission."
    (protectedRead (clientGetRemainEnergy env.transport env.hdi world env.caller)) argv

def commands : List (String × (List String → CliReply η (Nat × CliOutput))) := [
  ("capacity", cmdCapacity env world),
  ("total-energy", cmdTotalEnergy env world),
  ("remain-energy", cmdRemainEnergy env world)]

-- `tool` is the name that the tool is called by, and `argv` what follows it.
def handleCommand (tool : String) (argv : List String) : CliReply η (Nat × CliOutput) :=
  match argv with
  | [] =>
      outputError "ERR_NO_COMMAND" "No command specified."
        ("Run '" ++ tool ++ " --help' for available commands.") (unasked world)
  | cmdName :: rest =>
      if cmdName = "--help" then ⟨(CLI_SUCCESS, .FullHelp), world, []⟩
      else
        match (commands env world).lookup cmdName with
        | none =>
            outputError "ERR_UNKNOWN_COMMAND" ("Unknown command: '" ++ cmdName ++ "'.")
              ("Run '" ++ tool ++ " --help' for available commands.") (unasked world)
        | some handler =>
            if hasHelpFlag rest then ⟨(CLI_SUCCESS, .SubcommandHelp cmdName), world, []⟩
            else handler rest

end Commands

def CliOutput.IsError : CliOutput → Prop
  | .Error _ _ _ => True
  | _ => False

section Disclosure

variable {η : Type} (env : CliEnv η) (world : ServiceWorld η)

-- What is mocked, what the driver answers, or what stands for it.
def capacityOf : Int :=
  if env.isMockCapacity then world.batteryInfo.capacity
  else if world.interface then (env.getCapacity world.hdi).1.getD BATTERY_FULL_CAPACITY
  else BATTERY_FULL_CAPACITY

def energyOf (call : η → Option Int × η) (held : Int) : Option Int :=
  if world.interface then (call world.hdi).1 else some held

-- The values that a caller may see, under the names that they are printed with.
def disclosed (cmd : String) : Option (String × Int) :=
  if env.transport ≠ .Served then none
  else if cmd = "capacity" then some ("capacity", capacityOf env world)
  else if ¬env.caller.isSystem then none
  else if cmd = "total-energy" then
    (energyOf world env.hdi.getTotalEnergy world.batteryInfo.totalEnergy).map ("totalEnergy", ·)
  else if cmd = "remain-energy" then
    (energyOf world env.hdi.getRemainEnergy world.batteryInfo.remainEnergy).map ("remainEnergy", ·)
  else none

def Transport.delivers : Transport → Bool
  | .NoProxy => false
  | .Lost served => served
  | .Served => true

-- What the driver is asked for a query alone, if there is one and the query gets
-- to the service. The capacity is asked for any caller, unless it is mocked, and
-- an energy for a system caller only.
def asked (cmd : String) : List CliEffect :=
  if ¬(env.transport.delivers && world.interface) then []
  else if cmd = "capacity" then if env.isMockCapacity then [] else [.GetCapacity]
  else if ¬env.caller.isSystem then []
  else if cmd = "total-energy" then [.Protected (.Hdi .GetTotalEnergy)]
  else if cmd = "remain-energy" then [.Protected (.Hdi .GetRemainEnergy)]
  else []

def askedBy : List String → List CliEffect
  | [cmd] => asked env world cmd
  | _ => []

-- What a reading of the service gives to the caller, and what it asks for.
structure Gives (read : CliReply η Int) (given : Option Int) (asked : List CliEffect) : Prop where
  value : ∀ value, read.response = value ∧ value ≠ INVALID_BATT_INT_VALUE ↔
    given = some value ∧ value ≠ INVALID_BATT_INT_VALUE
  idle : read.effects = [] → read.state = world
  asks : read.effects = asked

-- What holds of a reply to these arguments.
structure Discloses (argv : List String) (reply : CliReply η (Nat × CliOutput)) : Prop where
  prints : ∀ key value, reply.response.2 = .Success key value ↔
    ∃ cmd, argv = [cmd] ∧ disclosed env world cmd = some (key, value) ∧ value ≠ INVALID_BATT_INT_VALUE
  exit : reply.response.1 = CLI_SUCCESS ↔ ¬reply.response.2.IsError
  idle : reply.effects = [] → reply.state = world
  asks : reply.effects = askedBy env world argv

theorem getCapacityInner_gives :
    Gives world (getCapacityInner env world) (some (capacityOf env world))
      (if world.interface && !env.isMockCapacity then [.GetCapacity] else []) := by
  unfold getCapacityInner capacityOf
  split
  · rename_i hmock
    exact ⟨fun value => by simp, fun _ => rfl, by simp [hmock]⟩
  · rename_i hmock
    split
    · rename_i hinterface
      exact ⟨fun value => by simp, nofun, by simp [hmock, hinterface]⟩
    · rename_i habsent
      exact ⟨fun value => by simp, fun _ => rfl, by simp [habsent]⟩

theorem readEnergy_gives (caller : Caller) (operation : HdiOperation) (call : η → Option Int × η)
    (held : Int) :
    Gives world (protectedRead (readEnergy caller world operation call held))
      (if caller.isSystem then energyOf world call held else none)
      (if world.interface && caller.isSystem then [.Protected (.Hdi operation)] else []) := by
  unfold readEnergy energyOf protectedRead
  split
  · rename_i hsystem
    split
    · rename_i hinterface
      refine ⟨fun value => ?_, nofun, by simp [hsystem, hinterface]⟩
      -- an absent energy reads like an invalid one
      cases (call world.hdi).1 with
      | none => simp +contextual [eq_comm]
      | some answer => simp
    · rename_i habsent
      exact ⟨fun value => by simp, fun _ => rfl, by simp [habsent]⟩
  · rename_i hrefused
    exact ⟨fun value => by simp +contextual [eq_comm], fun _ => rfl, by simp [hrefused]⟩

theorem deliver_gives {inner : CliReply η Int} {given : Option Int} {asked : List CliEffect}
    (hgives : Gives world inner given asked) (transport : Transport) :
    Gives world (deliver world transport inner) (if transport = .Served then given else none)
      (if transport.delivers then asked else []) := by
  have hinvalid (value : Int) : INVALID_BATT_INT_VALUE = value ∧ value ≠ INVALID_BATT_INT_VALUE ↔
      none = some value ∧ value ≠ INVALID_BATT_INT_VALUE := by simp +contextual [eq_comm]
  cases transport with
  | NoProxy => exact ⟨hinvalid, fun _ => rfl, rfl⟩
  | Lost served =>
      cases served with
      | false => exact ⟨hinvalid, fun _ => rfl, rfl⟩
      | true => exact ⟨hinvalid, hgives.idle, hgives.asks⟩
  | Served => exact hgives

-- The two energies come over the connection like the capacity.
theorem protectedRead_clientEnergy {call : ProtectedCall} {inner : ServiceReply η Int}
    (hserved : serveProtected env.hdi world ⟨env.caller, call⟩ = answer .Value inner) :
    protectedRead (clientEnergy env.transport env.hdi world env.caller call) =
      deliver world env.transport (protectedRead inner) := by
  unfold clientEnergy callService
  rw [hserved]
  cases env.transport with
  | NoProxy => rfl
  | Lost served => cases served <;> rfl
  | Served => rfl

-- A reply that prints no value and does nothing.
theorem discloses_silent {argv : List String}
    (hargv : ∀ cmd, argv = [cmd] → disclosed env world cmd = none ∧ asked env world cmd = [])
    {exit : Nat} {output : CliOutput} (hexit : exit = CLI_SUCCESS ↔ ¬output.IsError)
    (houtput : ∀ key value, output ≠ .Success key value) :
    Discloses env world argv ⟨(exit, output), world, []⟩ where
  prints key value := by
    refine iff_of_false (houtput key value) ?_
    rintro ⟨cmd, hcmd, hgiven, -⟩
    simp [(hargv cmd hcmd).1] at hgiven
  exit := hexit
  idle _ := rfl
  asks := by
    unfold askedBy
    split
    · rename_i cmd
      exact (hargv cmd rfl).2.symm
    · rfl

theorem cmdRead_discloses {name key errMsg suggestion : String} {read : CliReply η Int}
    {given : Option Int} (hgives : Gives world read given (asked env world name))
    (hdisclosed : disclosed env world name = given.map (key, ·)) (argv : List String) :
    Discloses env world (name :: argv) (cmdRead world name key errMsg suggestion read argv) := by
  unfold cmdRead
  split
  · rename_i hargv
    refine discloses_silent env world (fun cmd hcmd => absurd (List.cons.inj hcmd).2 hargv) ?_ nofun
    exact iff_of_false nofun (fun hnot => hnot trivial)
  · rename_i hargv
    have hnil : argv = [] := by simpa using hargv
    subst hnil
    split
    · rename_i hinvalid
      refine ⟨fun shown value => iff_of_false nofun ?_, iff_of_false nofun (fun hnot => hnot trivial),
        hgives.idle, hgives.asks⟩
      rintro ⟨cmd, hcmd, hgiven, hvalue⟩
      obtain rfl : name = cmd := (List.cons.inj hcmd).1
      rw [hdisclosed] at hgiven
      obtain ⟨answer, hanswer, hpair⟩ := Option.map_eq_some_iff.mp hgiven
      have hsame : answer = value := congrArg Prod.snd hpair
      subst hsame
      have hread := (hgives.value answer).mpr ⟨hanswer, hvalue⟩
      exact hvalue (hread.1 ▸ hinvalid)
    · rename_i hvalid
      refine ⟨fun shown value => ?_, iff_of_true rfl (fun hnot => hnot.elim), hgives.idle, hgives.asks⟩
      have hread := hgives.value read.response
      constructor
      · rintro hprinted
        cases hprinted
        exact ⟨name, rfl, by simp [hdisclosed, (hread.mp ⟨rfl, hvalid⟩).1], hvalid⟩
      · rintro ⟨cmd, hcmd, hgiven, hvalue⟩
        obtain rfl : name = cmd := (List.cons.inj hcmd).1
        rw [hdisclosed, (hread.mp ⟨rfl, hvalid⟩).1] at hgiven
        cases hgiven
        rfl

-- The two commands that ask the service for an energy.
theorem cmdEnergy_discloses {name key errMsg suggestion : String} {call : ProtectedCall}
    {operation : HdiOperation} {hdiCall : η → Option Int × η} {held : Int}
    (hserved : serveProtected env.hdi world ⟨env.caller, call⟩ =
      answer .Value (readEnergy env.caller world operation hdiCall held))
    (hdisclosed : disclosed env world name =
      (if env.transport = .Served then if env.caller.isSystem then energyOf world hdiCall held else none
        else none).map (key, ·))
    (hasked : asked env world name = if env.transport.delivers then
      if world.interface && env.caller.isSystem then [.Protected (.Hdi operation)] else [] else [])
    (argv : List String) :
    Discloses env world (name :: argv)
      (cmdRead world name key errMsg suggestion
        (protectedRead (clientEnergy env.transport env.hdi world env.caller call)) argv) := by
  have hgives := deliver_gives world (readEnergy_gives world env.caller operation hdiCall held)
    env.transport
  rw [protectedRead_clientEnergy env world hserved]
  rw [← hasked] at hgives
  exact cmdRead_discloses env world hgives hdisclosed argv

theorem commands_discloses {cmdName : String} {handler : List String → CliReply η (Nat × CliOutput)}
    (hlookup : (commands env world).lookup cmdName = some handler) (argv : List String) :
    Discloses env world (cmdName :: argv) (handler argv) := by
  simp only [commands, List.lookup_cons, List.lookup_nil] at hlookup
  split at hlookup
  · rename_i hname
    obtain rfl : cmdName = "capacity" := beq_iff_eq.mp hname
    cases hlookup
    have hgives := deliver_gives world (getCapacityInner_gives env world) env.transport
    have hasked : asked env world "capacity" = if env.transport.delivers then
        if world.interface && !env.isMockCapacity then [.GetCapacity] else [] else [] := by
      unfold asked
      cases env.transport.delivers <;> cases world.interface <;> cases env.isMockCapacity <;> simp
    rw [← hasked] at hgives
    exact cmdRead_discloses env world hgives (by simp [disclosed]) argv
  · split at hlookup
    · rename_i hname
      obtain rfl : cmdName = "total-energy" := beq_iff_eq.mp hname
      cases hlookup
      refine cmdEnergy_discloses env world (by rfl) ?_ ?_ argv
      · unfold disclosed
        by_cases hserved : env.transport = .Served <;> cases env.caller.isSystem <;> simp [hserved]
      · unfold asked
        cases env.transport.delivers <;> cases world.interface <;> cases env.caller.isSystem <;> simp
    · split at hlookup
      · rename_i hname
        obtain rfl : cmdName = "remain-energy" := beq_iff_eq.mp hname
        cases hlookup
        refine cmdEnergy_discloses env world (by rfl) ?_ ?_ argv
        · unfold disclosed
          by_cases hserved : env.transport = .Served <;> cases env.caller.isSystem <;> simp [hserved]
        · unfold asked
          cases env.transport.delivers <;> cases world.interface <;> cases env.caller.isSystem <;> simp
      · cases hlookup

theorem disclosed_unknown {cmdName : String} (hlookup : (commands env world).lookup cmdName = none) :
    disclosed env world cmdName = none ∧ asked env world cmdName = [] := by
  have hcapacity : cmdName ≠ "capacity" := by
    rintro rfl
    cases hlookup
  have htotal : cmdName ≠ "total-energy" := by
    rintro rfl
    cases hlookup
  have hremain : cmdName ≠ "remain-energy" := by
    rintro rfl
    cases hlookup
  exact ⟨by simp [disclosed, hcapacity, htotal, hremain], by simp [asked, hcapacity, htotal, hremain]⟩

-- The tool with any arguments, by any caller and over any connection.
theorem handleCommand_discloses (tool : String) (argv : List String) :
    Discloses env world argv (handleCommand env world tool argv) := by
  unfold handleCommand
  split
  · refine discloses_silent env world (fun cmd hcmd => ?_) ?_ nofun
    · cases hcmd
    · exact iff_of_false nofun (fun hnot => hnot trivial)
  · rename_i cmdName rest
    split
    · rename_i hhelp
      subst hhelp
      refine discloses_silent env world ?_ (iff_of_true rfl (fun hnot => hnot.elim)) nofun
      rintro cmd hcmd
      obtain rfl : "--help" = cmd := (List.cons.inj hcmd).1
      exact disclosed_unknown env world rfl
    · split
      · rename_i hlookup
        refine discloses_silent env world ?_ (iff_of_false nofun (fun hnot => hnot trivial)) nofun
        rintro cmd hcmd
        obtain rfl : cmdName = cmd := (List.cons.inj hcmd).1
        exact disclosed_unknown env world hlookup
      · rename_i handler hlookup
        split
        · rename_i hflag
          refine discloses_silent env world ?_ (iff_of_true rfl (fun hnot => hnot.elim)) nofun
          rintro cmd hcmd
          rw [(List.cons.inj hcmd).2] at hflag
          cases hflag
        · exact commands_discloses env world hlookup rest

end Disclosure

end BatteryManager.FrontEnds
