import BatteryManager.Charger.Uevent

namespace BatteryManager.Charger

open Library

def INT64_MAX : Int := 9223372036854775807

namespace ChargerThread

-- The last step is the conversion to an `int32_t`.
def updateWaitInterval (currentTime : Int) (thread : ChargerThread) : Int :=
  let keyed :=
    if thread.keyWait ≠ INVALID ∧ thread.keyWait < INT64_MAX then thread.keyWait else INT64_MAX
  let nextWait :=
    if thread.backlightWait ≠ INVALID ∧ thread.backlightWait < keyed then thread.backlightWait
    else keyed
  let timeout :=
    if nextWait ≠ INVALID ∧ nextWait ≠ INT64_MAX then
      if nextWait - currentTime > 0 then nextWait - currentTime else 0
    else INVALID
  timeout.bmod 4294967296

-- What `LoopingThreadEntry` passes to `epoll_wait`.
def epollTimeout (currentTime : Int) (thread : ChargerThread) : Int :=
  let waitTimeout := thread.updateWaitInterval currentTime
  if thread.epollInterval < 0 ∨ (waitTimeout > 0 ∧ waitTimeout < thread.epollInterval) then waitTimeout
  else thread.epollInterval

-- `HandlePowerKey` takes the branch that turns the screen on for a key that is down.
def turnsOnByKeydown (now : Int) (thread : ChargerThread) : Bool :=
  let key := thread.keys KEY_POWER
  key.isDown && now < key.timestamp + REBOOT_TIME && thread.backlight.screenState = .ScreenOff

end ChargerThread

-- The calls of one turn of the loop, in order.
inductive LoopPoint
  | CycleMatters
  | HandleChargingState
  | HandlePowerKeyState
  | HandleScreenState
  | EpollWait
  | UeventCallback
  deriving DecidableEq

-- `clock` is the latest time that was read. `turnedOn` is not a member of the
-- thread and no step looks at it: it tells whether the press that the power key
-- is held from has turned the screen on.
structure LoopState where
  thread : ChargerThread
  nevents : Int := 0
  point : LoopPoint := .CycleMatters
  clock : Int
  turnedOn : Bool := false

-- What the call at one point of the loop can be given: the time that it reads,
-- the files, the result of `epoll_wait` and what `recv` stores.
structure LoopInput where
  now : Int
  env : UpdateEnv
  nevents : Int
  received : Option (List UInt8)

-- A step of the loop, or a key event that the input monitor handles in its own
-- thread.
inductive LoopLabel
  | Loop (input : LoopInput)
  | SetKeyState (code : Nat) (value now : Int)

inductive LoopEffect
  | Call (effect : ChargerEffect)
  | EpollWait (timeout : Int)
  deriving DecidableEq

-- The clock is monotonic, and its times leave room in an `int64_t` for what is
-- added to them.
def Ticks (clock now : Int) : Prop := clock ≤ now ∧ now ≤ INT64_MAX - BACKLIGHT_OFF_TIME_MS

instance (clock now : Int) : Decidable (Ticks clock now) :=
  inferInstanceAs (Decidable (_ ∧ _))

namespace LoopState

-- The thread of `Run`, which starts the loop after `Init`.
def start (config : BatteryConfig) (available : Bool) (env : LightEnv) (boot : Nat) : LoopState where
  thread := (ChargerThread.init config available env).1
  clock := boot

def goto (point : LoopPoint) (now : Int) (result : ChargerThread × List ChargerEffect)
    (state : LoopState) : LoopState × List LoopEffect :=
  ({ state with thread := result.1, point := point, clock := now }, result.2.map .Call)

-- One descriptor is registered, so `epoll_wait` reports one event at most.
def step (config : BatteryConfig) (input : LoopInput) (state : LoopState) :
    Option (LoopState × List LoopEffect) :=
  let thread := state.thread
  match state.point with
  | .CycleMatters =>
      let result :=
        if state.nevents = 0 then thread.cycleMatters config input.now input.env else (thread, [])
      some (state.goto .HandleChargingState input.now result)
  | .HandleChargingState =>
      some (state.goto .HandlePowerKeyState input.now (thread.handleChargingState input.now))
  | .HandlePowerKeyState =>
      let turned := { state with turnedOn := state.turnedOn || thread.turnsOnByKeydown input.now }
      some (turned.goto .HandleScreenState input.now (thread.handlePowerKeyState input.now))
  | .HandleScreenState =>
      some (state.goto .EpollWait input.now (thread.handleScreenState input.now))
  | .EpollWait =>
      if input.nevents > 1 then none
      else
        some ({ state with
          nevents := input.nevents
          point := if input.nevents ≤ 0 then .CycleMatters else .UeventCallback
          clock := input.now }, [.EpollWait (thread.epollTimeout input.now)])
  | .UeventCallback =>
      some (state.goto .CycleMatters input.now
        (thread.ueventCallback config input.received input.env))

def setKeyState (code : Nat) (value now : Int) (state : LoopState) : LoopState :=
  let thread := state.thread.setKeyState code value now
  { state with
    thread := thread
    clock := now
    turnedOn := state.turnedOn && (thread.keys KEY_POWER).isDown = (state.thread.keys KEY_POWER).isDown }

end LoopState

def LoopLabel.now : LoopLabel → Int
  | .Loop input => input.now
  | .SetKeyState _ _ now => now

def loopStep (config : BatteryConfig) (state : LoopState) (label : LoopLabel) :
    Option (LoopState × List LoopEffect) :=
  if Ticks state.clock label.now then
    match label with
    | .Loop input => state.step config input
    | .SetKeyState code value now => some (state.setKeyState code value now, [])
  else none

abbrev LoopRun (config : BatteryConfig) (available : Bool) (env : LightEnv) (boot : Nat) :
    List LoopLabel → LoopState → List LoopEffect → Prop :=
  Run (loopStep config) (LoopState.start config available env boot)

end BatteryManager.Charger
