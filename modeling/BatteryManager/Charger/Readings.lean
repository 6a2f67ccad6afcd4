import BatteryManager.Charger.Provider.Lemmas
import BatteryManager.Charger.Thread.Lemmas

namespace BatteryManager.Charger

open Library

-- What an opened file gives: a line, or nothing when the read fails.
def SysfsFile.opened : SysfsFile → Option (Option (List UInt8))
  | .OpenFails => none
  | .ReadFails => some none
  | .Holds bytes => some (some (line bytes))

-- What is successfully read from a file.
def SysfsFile.content (file : SysfsFile) : Option (List UInt8) := file.opened.join

-- What becomes of a member that is written from an opened file.
def capacityOf : Option (Option (List UInt8)) → Int
  | none => INVALID
  | some none => 0
  | some (some line) => parseInt line

def chargeStateOf : Option (Option (List UInt8)) → BatteryChargeState
  | none => .Reserved
  | some none => .Reserved
  | some (some line) => chargeStateEnumConverter line

namespace ChargerCall

-- The files that a call reads.
def reads : ChargerCall → Option UpdateEnv
  | .CycleMatters _ env => some env
  | .UpdateBatteryInfo env => some env
  | _ => none

def capacityOpened (call : ChargerCall) : Option (Option (List UInt8)) :=
  call.reads.bind fun env => env.capacity.opened

def chargeStateOpened (call : ChargerCall) : Option (Option (List UInt8)) :=
  call.reads.bind fun env => env.chargeState.opened

end ChargerCall

-- The successful reads of a run.
def lastCapacity (history : List ChargerCall) : Option (List UInt8) :=
  latest (fun call => call.capacityOpened.join) history

def lastChargeState (history : List ChargerCall) : Option (List UInt8) :=
  latest (fun call => call.chargeStateOpened.join) history

section Parsers

theorem parseCapacity_opened (file : SysfsFile) (last : Option (Option (List UInt8))) :
    (parseCapacity file (capacityOf last)).2 = capacityOf (file.opened.or last) := by
  rw [parseCapacity_eq]
  cases file <;> rfl

theorem parseChargeState_opened (file : SysfsFile) (last : Option (Option (List UInt8))) :
    (parseChargeState file (chargeStateOf last)).2 = chargeStateOf (file.opened.or last) := by
  rw [parseChargeState_eq]
  cases file <;> rfl

end Parsers

-- The comparisons of `HandleTemperature` and `HandleCapacity`.
def OutOfRange (config : BatteryConfig) (temperature : Int) : Prop :=
  let highTemp := config.getInt "temperature.high" INT32_MAX
  let lowTemp := config.getInt "temperature.low" INT32_MIN
  (temperature ≤ lowTemp ∨ temperature ≥ highTemp) ∧ lowTemp ≠ highTemp

def NotCharging (chargeState : BatteryChargeState) : Prop :=
  chargeState = .Disable ∨ chargeState = .None

namespace ChargerThread

variable (config : BatteryConfig) (thread : ChargerThread)

theorem shutsDown_updateBatteryInfo (env : UpdateEnv) (caller : RebootCaller) :
    ShutsDown caller (thread.updateBatteryInfo config env).2 ↔
      caller = .HandleTemperature ∧ OutOfRange config (parseTemperature env.temperature 0).2 ∨
      caller = .HandleCapacity ∧
        (thread.readBatteryInfo env).capacity > (thread.readBatteryInfo env).lackPowerCapacity ∧
          NotCharging (thread.readBatteryInfo env).chargeState := by
  let read := thread.readBatteryInfo env
  have hled : .DoReboot caller SHUTDOWN_CMD ∉
      (read.led.updateColor env.light config.lightConf read.chargeState read.capacity).effects := by
    intro hmem
    cases BatteryLed.updateColor_effects env.light config.lightConf read.chargeState read.capacity
      read.led _ hmem
  have htemperature : .DoReboot caller SHUTDOWN_CMD ∈
      handleTemperature config (parseTemperature env.temperature 0).2 ↔
      caller = .HandleTemperature ∧ OutOfRange config (parseTemperature env.temperature 0).2 := by
    unfold handleTemperature OutOfRange
    dsimp only
    split
    · rename_i hrange
      simp [hrange]
    · rename_i hrange
      simp [hrange]
  have hcapacity : .DoReboot caller SHUTDOWN_CMD ∈ read.handleCapacity read.capacity ↔
      caller = .HandleCapacity ∧ read.capacity > read.lackPowerCapacity ∧
        NotCharging read.chargeState := by
    unfold handleCapacity NotCharging
    split
    · rename_i hlow
      simp [hlow]
    · rename_i hlow
      simp [hlow]
  unfold ShutsDown updateBatteryInfo
  simp only [List.mem_append, htemperature, hcapacity, hled, or_false, read]

end ChargerThread

namespace ChargerCall

variable (config : BatteryConfig) (thread : ChargerThread) (call : ChargerCall)

-- A call that reads compares what it leaves in the thread, and no other call
-- changes it or shuts down.
theorem execute_reads {env : UpdateEnv} (hreads : call.reads = some env) :
    ChargerThread.SameReadings (call.execute config thread).1 (thread.readBatteryInfo env) ∧
      ∀ caller, ShutsDown caller (call.execute config thread).2 ↔
        ShutsDown caller (thread.updateBatteryInfo config env).2 := by
  cases call with
  | CycleMatters now other =>
      cases hreads
      obtain ⟨⟨epollInterval, animation, hwritten⟩, hout⟩ := thread.cycleMatters_outcome config now env
      unfold ChargerCall.execute
      dsimp only
      rw [hwritten, hout]
      exact ⟨⟨rfl, rfl, rfl⟩, fun _ => Iff.rfl⟩
  | UpdateBatteryInfo other =>
      cases hreads
      obtain ⟨animation, hwritten⟩ := thread.updateBatteryInfo_outcome config env
      unfold ChargerCall.execute
      dsimp only
      rw [hwritten]
      exact ⟨⟨rfl, rfl, rfl⟩, fun _ => Iff.rfl⟩
  | HandleChargingState now => cases hreads
  | HandlePowerKeyState now => cases hreads
  | HandlePowerKey keycode now => cases hreads
  | HandleScreenState now => cases hreads
  | SetKeyState code value now => cases hreads

theorem execute_other (hreads : call.reads = none) :
    ChargerThread.SameReadings (call.execute config thread).1 thread ∧
      ∀ caller, ¬ShutsDown caller (call.execute config thread).2 := by
  cases call with
  | CycleMatters now env => cases hreads
  | UpdateBatteryInfo env => cases hreads
  | HandleChargingState now =>
      refine ⟨?_, thread.not_shutsDown_handleChargingState now⟩
      have houtcome := thread.handleChargingState_outcome now
      unfold ChargerCall.execute
      dsimp only
      generalize thread.handleChargingState now = result at houtcome ⊢
      cases houtcome <;> exact ⟨rfl, rfl, rfl⟩
  | HandlePowerKeyState now =>
      refine ⟨?_, thread.not_shutsDown_handlePowerKey KEY_POWER now⟩
      obtain ⟨_, _, _, _, _, _, hwritten⟩ := thread.handlePowerKeyState_writes now
      unfold ChargerCall.execute
      dsimp only
      rw [hwritten]
      exact ⟨rfl, rfl, rfl⟩
  | HandlePowerKey keycode now =>
      refine ⟨?_, thread.not_shutsDown_handlePowerKey keycode now⟩
      obtain ⟨_, _, _, _, _, _, hwritten⟩ := thread.handlePowerKey_writes keycode now
      unfold ChargerCall.execute
      dsimp only
      rw [hwritten]
      exact ⟨rfl, rfl, rfl⟩
  | HandleScreenState now =>
      refine ⟨?_, thread.not_shutsDown_handleScreenState now⟩
      have houtcome := thread.handleScreenState_outcome now
      unfold ChargerCall.execute
      dsimp only
      generalize thread.handleScreenState now = result at houtcome ⊢
      cases houtcome <;> exact ⟨rfl, rfl, rfl⟩
  | SetKeyState code value now =>
      refine ⟨?_, fun _ => List.not_mem_nil⟩
      obtain ⟨keys, hwritten⟩ := thread.setKeyState_outcome code value now
      unfold ChargerCall.execute
      dsimp only
      rw [hwritten]
      exact ⟨rfl, rfl, rfl⟩

end ChargerCall

-- The members hold what was last written to them.
structure Remembers (config : BatteryConfig) (history : List ChargerCall) (thread : ChargerThread) :
    Prop where
  capacity : thread.capacity = capacityOf (latest ChargerCall.capacityOpened history)
  chargeState : thread.chargeState = chargeStateOf (latest ChargerCall.chargeStateOpened history)
  lackPowerCapacity : thread.lackPowerCapacity = config.getInt "soc.shutdown" 0

theorem Remembers.concat {config : BatteryConfig} {history : List ChargerCall} {thread : ChargerThread}
    (hthread : Remembers config history thread) (call : ChargerCall) :
    Remembers config (history ++ [call]) (call.execute config thread).1 := by
  cases hreads : call.reads with
  | none =>
      have hsame := (call.execute_other config thread hreads).1
      refine ⟨?_, ?_, hsame.lackPowerCapacity.trans hthread.lackPowerCapacity⟩
      · rw [hsame.capacity, latest_concat]
        simpa [ChargerCall.capacityOpened, hreads] using hthread.capacity
      · rw [hsame.chargeState, latest_concat]
        simpa [ChargerCall.chargeStateOpened, hreads] using hthread.chargeState
  | some env =>
      have hsame := (call.execute_reads config thread hreads).1
      refine ⟨?_, ?_, hsame.lackPowerCapacity.trans hthread.lackPowerCapacity⟩
      · rw [hsame.capacity, latest_concat, ChargerCall.capacityOpened, hreads]
        change (parseCapacity env.capacity thread.capacity).2 = _
        rw [hthread.capacity]
        exact parseCapacity_opened env.capacity _
      · rw [hsame.chargeState, latest_concat, ChargerCall.chargeStateOpened, hreads]
        change (parseChargeState env.chargeState thread.chargeState).2 = _
        rw [hthread.chargeState]
        exact parseChargeState_opened env.chargeState _

theorem ChargerRun.remembers {config : BatteryConfig} {available : Bool} {env : LightEnv}
    {history : List ChargerCall} {thread : ChargerThread}
    {log : List ChargerEffect} (hrun : ChargerRun config available env history thread log) :
    Remembers config history thread := by
  refine Run.total_invariant (fun history state _ => Remembers config history state) ⟨rfl, rfl, rfl⟩
    ?_ hrun
  intro history state log call ih
  exact ih.concat call

-- Every call can be made at any time.
theorem chargerRun_exists (config : BatteryConfig) (available : Bool) (env : LightEnv)
    (history : List ChargerCall) : ∃ thread log, ChargerRun config available env history thread log := by
  induction history using List.reverseRecOn with
  | nil => exact ⟨_, _, .nil⟩
  | append_singleton before call ih =>
      obtain ⟨thread, log, hrun⟩ := ih
      exact ⟨_, _, hrun.snoc call rfl⟩

-- A shutdown is asked for on data that was read: the temperature that is out of
-- range is the one of this call, and the charge state and the capacity that ask
-- for it are the latest ones that were read.
structure ShutsDownOnReadings (config : BatteryConfig) (before : List ChargerCall)
    (thread : ChargerThread) (call : ChargerCall) : Prop where
  temperature : ShutsDown .HandleTemperature (call.execute config thread).2 →
    ∃ env line, call.reads = some env ∧ env.temperature.content = some line ∧
      OutOfRange config (parseInt line)
  chargeState : ShutsDown .HandleCapacity (call.execute config thread).2 →
    ∃ line, lastChargeState (before ++ [call]) = some line ∧
      (call.execute config thread).1.chargeState = chargeStateEnumConverter line ∧
      NotCharging (chargeStateEnumConverter line)
  capacity : ShutsDown .HandleCapacity (call.execute config thread).2 →
    ∃ line, lastCapacity (before ++ [call]) = some line ∧
      (call.execute config thread).1.capacity = parseInt line ∧
      parseInt line > config.getInt "soc.shutdown" 0

-- Zero does not pass for a temperature out of range when none is read. With the
-- charger away, neither the initial capacity nor the zero of a failed read is
-- above the shutdown level, unless zero is also the latest capacity.
structure FailsHarmlessly (config : BatteryConfig) (before : List ChargerCall) (call : ChargerCall) :
    Prop where
  temperature : ∀ env, call.reads = some env → env.temperature.content = none → ¬OutOfRange config 0
  neverRead : call.reads.isSome = true →
    NotCharging (chargeStateOf (latest ChargerCall.chargeStateOpened (before ++ [call]))) →
    latest ChargerCall.capacityOpened (before ++ [call]) = none → INVALID ≤ config.getInt "soc.shutdown" 0
  failedRead : call.reads.isSome = true →
    NotCharging (chargeStateOf (latest ChargerCall.chargeStateOpened (before ++ [call]))) →
    latest ChargerCall.capacityOpened (before ++ [call]) = some none →
    0 ≤ config.getInt "soc.shutdown" 0 ∨ (lastCapacity (before ++ [call])).map parseInt = some 0

-- The temperature that is compared is the one that is read, and zero without one.
theorem parseTemperature_read {file : SysfsFile} {line : List UInt8} (hread : file.content = some line) :
    (parseTemperature file 0).2 = parseInt line := by
  rw [parseTemperature_eq]
  cases file with
  | OpenFails => cases hread
  | ReadFails => cases hread
  | Holds bytes =>
      cases hread
      rfl

theorem parseTemperature_unread {file : SysfsFile} (hunread : file.content = none) :
    (parseTemperature file 0).2 = 0 := by
  rw [parseTemperature_eq]
  cases file with
  | OpenFails => rfl
  | ReadFails => rfl
  | Holds bytes => cases hunread

-- A failed read is never taken for a charger that is away.
theorem notCharging_read {history : List ChargerCall}
    (hnot : NotCharging (chargeStateOf (latest ChargerCall.chargeStateOpened history))) :
    (lastChargeState history).map chargeStateEnumConverter =
      some (chargeStateOf (latest ChargerCall.chargeStateOpened history)) := by
  unfold lastChargeState
  cases hlatest : latest ChargerCall.chargeStateOpened history with
  | none =>
      rw [hlatest] at hnot
      rcases hnot with hnot | hnot <;> cases hnot
  | some outcome =>
      cases outcome with
      | none =>
          rw [hlatest] at hnot
          rcases hnot with hnot | hnot <;> cases hnot
      | some line =>
          rw [latest_join hlatest]
          rfl

-- The capacity that is compared is the latest one that was read, unless none was
-- ever opened, or the latest one that was opened could not be read.
theorem capacity_read_iff (history : List ChargerCall) (shutdown : Int) :
    (capacityOf (latest ChargerCall.capacityOpened history) > shutdown →
        (lastCapacity history).map parseInt =
          some (capacityOf (latest ChargerCall.capacityOpened history))) ↔
      (latest ChargerCall.capacityOpened history = none → INVALID ≤ shutdown) ∧
        (latest ChargerCall.capacityOpened history = some none →
          0 ≤ shutdown ∨ (lastCapacity history).map parseInt = some 0) := by
  cases hlatest : latest ChargerCall.capacityOpened history with
  | none =>
      have hnever : lastCapacity history = none := latest_join_none hlatest
      simp [hnever, capacityOf]
  | some outcome =>
      cases outcome with
      | none =>
          simp only [capacityOf, reduceCtorEq, false_implies, true_and, forall_const]
          by_cases hshutdown : 0 ≤ shutdown
          · exact iff_of_true (fun hlow => absurd hlow (Int.not_lt.mpr hshutdown)) (.inl hshutdown)
          · have hlow : 0 > shutdown := Int.not_le.mp hshutdown
            simp [hlow, hshutdown]
      | some line =>
          have hread : lastCapacity history = some line := latest_join hlatest
          simp [hread, capacityOf]

section Call

variable {config : BatteryConfig} {before : List ChargerCall} {thread : ChargerThread} {call : ChargerCall}

theorem shutsDown_temperature {env : UpdateEnv} (hreads : call.reads = some env) :
    ShutsDown .HandleTemperature (call.execute config thread).2 ↔
      OutOfRange config (parseTemperature env.temperature 0).2 := by
  rw [(call.execute_reads config thread hreads).2, thread.shutsDown_updateBatteryInfo]
  simp

theorem Remembers.shutsDown_capacity (hthread : Remembers config before thread) {env : UpdateEnv}
    (hreads : call.reads = some env) :
    ShutsDown .HandleCapacity (call.execute config thread).2 ↔
      capacityOf (latest ChargerCall.capacityOpened (before ++ [call])) >
          config.getInt "soc.shutdown" 0 ∧
        NotCharging (chargeStateOf (latest ChargerCall.chargeStateOpened (before ++ [call]))) := by
  have hnext := hthread.concat call
  obtain ⟨hsame, hshuts⟩ := call.execute_reads config thread hreads
  rw [hshuts, thread.shutsDown_updateBatteryInfo, ← hsame.capacity, ← hsame.chargeState,
    ← hsame.lackPowerCapacity, hnext.capacity, hnext.chargeState, hnext.lackPowerCapacity]
  simp

-- One call, in a thread that remembers its readings.
theorem shutsDownOnReadings_iff (hthread : Remembers config before thread) :
    ShutsDownOnReadings config before thread call ↔ FailsHarmlessly config before call := by
  cases hreads : call.reads with
  | none =>
      have hquiet := (call.execute_other config thread hreads).2
      constructor
      · intro _
        refine ⟨?_, ?_, ?_⟩ <;> simp [hreads]
      · intro _
        exact ⟨fun hshut => absurd hshut (hquiet _), fun hshut => absurd hshut (hquiet _),
          fun hshut => absurd hshut (hquiet _)⟩
  | some env =>
      have hnext := hthread.concat call
      have htemperature : ShutsDown .HandleTemperature (call.execute config thread).2 ↔
          OutOfRange config (parseTemperature env.temperature 0).2 := shutsDown_temperature hreads
      have hcapacity := hthread.shutsDown_capacity hreads
      have hread := capacity_read_iff (before ++ [call]) (config.getInt "soc.shutdown" 0)
      constructor
      · rintro ⟨hontemperature, -, honcapacity⟩
        have hcompared := fun hnot => hread.mp fun hlow => by
          obtain ⟨line, hline, hvalue, -⟩ := honcapacity (hcapacity.mpr ⟨hlow, hnot⟩)
          rw [hnext.capacity] at hvalue
          rw [hline, hvalue, Option.map_some]
        refine ⟨?_, fun _ hnot => (hcompared hnot).1, fun _ hnot => (hcompared hnot).2⟩
        intro other hother hunread hrange
        cases hreads.symm.trans hother
        rw [← parseTemperature_unread hunread] at hrange
        obtain ⟨found, line, hfound, hline, -⟩ := hontemperature (htemperature.mpr hrange)
        cases hreads.symm.trans hfound
        cases hunread.symm.trans hline
      · rintro ⟨hunread, hneverRead, hfailedRead⟩
        have hsome : call.reads.isSome = true := by simp [hreads]
        refine ⟨fun hshut => ?_, fun hshut => ?_, fun hshut => ?_⟩
        · have hrange := htemperature.mp hshut
          cases hline : env.temperature.content with
          | none =>
              rw [parseTemperature_unread hline] at hrange
              exact absurd hrange (hunread env hreads hline)
          | some line =>
              rw [parseTemperature_read hline] at hrange
              exact ⟨env, line, hreads, hline, hrange⟩
        · have hnot := (hcapacity.mp hshut).2
          obtain ⟨line, hline, hvalue⟩ := Option.map_eq_some_iff.mp (notCharging_read hnot)
          rw [← hvalue] at hnot
          exact ⟨line, hline, hnext.chargeState.trans hvalue.symm, hnot⟩
        · obtain ⟨hlow, hnot⟩ := hcapacity.mp hshut
          have hlatest := hread.mpr ⟨hneverRead hsome hnot, hfailedRead hsome hnot⟩ hlow
          obtain ⟨line, hline, hvalue⟩ := Option.map_eq_some_iff.mp hlatest
          rw [← hvalue] at hlow
          exact ⟨line, hline, hnext.capacity.trans hvalue.symm, hlow⟩

end Call

-- In a run, exactly the failures that do no harm keep every shutdown on data
-- that was read.
theorem shutdowns_onReadings_iff (config : BatteryConfig) (available : Bool) (env : LightEnv)
    (history : List ChargerCall) :
    (∀ before call after thread log, history = before ++ call :: after →
        ChargerRun config available env before thread log →
        ShutsDownOnReadings config before thread call) ↔
      ∀ before call after, history = before ++ call :: after → FailsHarmlessly config before call := by
  constructor
  · intro hreadings before call after hsplit
    obtain ⟨thread, log, hrun⟩ := chargerRun_exists config available env before
    exact (shutsDownOnReadings_iff hrun.remembers).mp
      (hreadings before call after thread log hsplit hrun)
  · intro hharmless before call after thread log hsplit hrun
    exact (shutsDownOnReadings_iff hrun.remembers).mpr (hharmless before call after hsplit)

-- A configuration under which no failure does harm, such as the shipped one.
theorem failsHarmlessly_of_config {config : BatteryConfig}
    (hlow : config.getInt "temperature.low" INT32_MIN < 0)
    (hhigh : 0 < config.getInt "temperature.high" INT32_MAX)
    (hshutdown : 0 ≤ config.getInt "soc.shutdown" 0) (before : List ChargerCall) (call : ChargerCall) :
    FailsHarmlessly config before call := by
  refine ⟨?_, ?_, ?_⟩
  · rintro env - - ⟨hlow' | hhigh', -⟩
    · exact absurd hlow (Int.not_lt.mpr hlow')
    · exact absurd hhigh (Int.not_lt.mpr hhigh')
  · intro _ _ _
    exact Int.le_trans (by decide) hshutdown
  · intro _ _ _
    exact .inl hshutdown

-- A battery that must not be used below zero.
def coldConfig : BatteryConfig where
  getInt key defVal := (([("temperature.low", 0), ("temperature.high", 600)] :
    List (String × Int)).lookup key).getD defVal

-- Its temperature file cannot be opened.
def unopenedTemperature : ChargerCall :=
  .UpdateBatteryInfo {
    temperature := .OpenFails
    capacity := .Holds (ascii "40\n")
    chargeState := .Holds (ascii "Charging\n")
    light := ⟨true, true⟩ }

theorem not_onReadings_temperature :
    ¬∀ (config : BatteryConfig) (available : Bool) (env : LightEnv) (history : List ChargerCall)
      (before : List ChargerCall) (call : ChargerCall) (after : List ChargerCall) (thread : ChargerThread)
      (log : List ChargerEffect), history = before ++ call :: after →
      ChargerRun config available env before thread log →
      ShutsDownOnReadings config before thread call := by
  intro hreadings
  have hfirst := hreadings coldConfig true ⟨true, true⟩ [unopenedTemperature] [] unopenedTemperature []
    _ [] rfl .nil
  obtain ⟨env, line, henv, hread, -⟩ := hfirst.temperature (by unfold ShutsDown; decide)
  cases henv
  cases hread

end BatteryManager.Charger
