import BatteryManager.Charger.Loop.ChargeStates
import BatteryManager.Charger.Loop.Deadlines
import BatteryManager.Charger.Loop.Screen
import BatteryManager.Charger.Readings
import BatteryManager.Charger.Uevent.Theorems
import BatteryManager.Library.Ledger

namespace BatteryManager.Charger

open Library

-- Whether the calls of `BatteryThread::Init` succeed, in order.
structure InitAnswers where
  epollCreate : Bool
  socket : Bool
  setsockopt : Bool
  bind : Bool
  epollCtl : Bool

inductive Descriptor
  | EpFd
  | UeventFd
  deriving DecidableEq

-- What `Init` leaves to the loop. `callbacks` is the size of `callbacks_`, and
-- `watched` says that the socket is on the interest list.
structure EventLoop where
  epFd : Bool := false
  ueventFd : Bool := false
  callbacks : Nat := 0
  watched : Bool := false
  deriving DecidableEq

abbrev InitTrace := List (Use Descriptor)

def openUeventSocket (answers : InitAnswers) : Bool × InitTrace :=
  if ¬answers.socket then (false, [])
  else if ¬answers.setsockopt then (false, [.Acquire .UeventFd, .Release .UeventFd])
  else if ¬answers.bind then (false, [.Acquire .UeventFd, .Release .UeventFd])
  else (true, [.Acquire .UeventFd])

-- The callback is kept when the socket cannot be registered.
def initUevent (answers : InitAnswers) (loop : EventLoop) : EventLoop × InitTrace :=
  let opened := openUeventSocket answers
  if ¬opened.1 then (loop, opened.2)
  else
    ({ loop with ueventFd := true, callbacks := loop.callbacks + 1, watched := answers.epollCtl },
      opened.2)

-- `StartThread` goes on to `Run` in any case.
def EventLoop.init (answers : InitAnswers) : EventLoop × InitTrace :=
  if ¬answers.epollCreate then ({}, [])
  else
    let uevent := initUevent answers { epFd := true }
    (uevent.1, .Acquire .EpFd :: uevent.2)

-- What `epoll_wait` is documented to answer: it fails without a descriptor or
-- without room for an event, it reports only what is watched, and it returns
-- none only when its time is over.
structure EventLoop.Waits (loop : EventLoop) (timeout nevents : Int) : Prop where
  room : nevents ≤ loop.callbacks
  event : 0 < nevents → loop.watched = true
  timeUp : nevents = 0 → loop.epFd = true ∧ 0 < loop.callbacks ∧ 0 ≤ timeout

instance (loop : EventLoop) (timeout nevents : Int) : Decidable (loop.Waits timeout nevents) :=
  decidable_of_iff
    (nevents ≤ loop.callbacks ∧ (0 < nevents → loop.watched = true) ∧
      (nevents = 0 → loop.epFd = true ∧ 0 < loop.callbacks ∧ 0 ≤ timeout))
    ⟨fun ⟨hroom, hevent, htimeUp⟩ => ⟨hroom, hevent, htimeUp⟩,
      fun ⟨hroom, hevent, htimeUp⟩ => ⟨hroom, hevent, htimeUp⟩⟩

-- A step of the loop over what `Init` has left.
def bootStep (config : BatteryConfig) (loop : EventLoop) (state : LoopState) (label : LoopLabel) :
    Option (LoopState × List LoopEffect) :=
  match label with
  | .Loop input =>
      if state.point = .EpollWait ∧ ¬loop.Waits (state.thread.epollTimeout input.now) input.nevents then none
      else loopStep config state label
  | .SetKeyState _ _ _ => loopStep config state label

abbrev BootRun (config : BatteryConfig) (available : Bool) (env : LightEnv) (boot : Nat)
    (answers : InitAnswers) : List LoopLabel → LoopState → List LoopEffect → Prop :=
  Run (bootStep config (EventLoop.init answers).1) (LoopState.start config available env boot)

-- The socket for the events is there.
def InitAnswers.Opens (answers : InitAnswers) : Prop :=
  answers.epollCreate = true ∧ answers.socket = true ∧ answers.setsockopt = true ∧ answers.bind = true

theorem callbacks_pos_iff (answers : InitAnswers) :
    0 < (EventLoop.init answers).1.callbacks ↔ answers.Opens := by
  obtain ⟨epollCreate, socket, setsockopt, bind, epollCtl⟩ := answers
  unfold InitAnswers.Opens EventLoop.init initUevent openUeventSocket
  cases epollCreate <;> cases socket <;> cases setsockopt <;> cases bind <;> simp

theorem watched_iff (answers : InitAnswers) :
    (EventLoop.init answers).1.watched = true ↔ answers.Opens ∧ answers.epollCtl = true := by
  obtain ⟨epollCreate, socket, setsockopt, bind, epollCtl⟩ := answers
  unfold InitAnswers.Opens EventLoop.init initUevent openUeventSocket
  cases epollCreate <;> cases socket <;> cases setsockopt <;> cases bind <;> simp

theorem unwatched_of_deaf {answers : InitAnswers} (hcallbacks : (EventLoop.init answers).1.callbacks = 0) :
    (EventLoop.init answers).1.watched = false := by
  by_contra hwatched
  have hopens := ((watched_iff answers).mp (Bool.not_eq_false _ ▸ hwatched)).1
  have hpos := (callbacks_pos_iff answers).mpr hopens
  omega

theorem epFd_of_callbacks {answers : InitAnswers} (hpos : 0 < (EventLoop.init answers).1.callbacks) :
    (EventLoop.init answers).1.epFd = true := by
  obtain ⟨hcreated, -⟩ := (callbacks_pos_iff answers).mp hpos
  unfold EventLoop.init initUevent
  rw [if_neg (by simp [hcreated])]
  dsimp only
  split <;> rfl

-- What is left open is what the thread knows of.
theorem init_held (answers : InitAnswers) :
    replay [] (EventLoop.init answers).2 =
      some ((if (EventLoop.init answers).1.ueventFd then [.UeventFd] else []) ++
        (if (EventLoop.init answers).1.epFd then [.EpFd] else [])) := by
  obtain ⟨epollCreate, socket, setsockopt, bind, epollCtl⟩ := answers
  cases epollCreate <;> cases socket <;> cases setsockopt <;> cases bind <;> rfl

section Steps

variable {config : BatteryConfig} {loop : EventLoop} {state next : LoopState} {label : LoopLabel}
variable {out : List LoopEffect}

theorem bootStep_loopStep (hstep : bootStep config loop state label = some (next, out)) :
    loopStep config state label = some (next, out) ∧
      ∀ input, label = .Loop input → state.point = .EpollWait →
        loop.Waits (state.thread.epollTimeout input.now) input.nevents := by
  cases label with
  | SetKeyState code value now => exact ⟨hstep, nofun⟩
  | Loop input =>
      unfold bootStep at hstep
      dsimp only at hstep
      split at hstep
      · cases hstep
      · rename_i hwaits
        refine ⟨hstep, ?_⟩
        rintro other hsame hpoint
        cases hsame
        by_contra hnot
        exact hwaits ⟨hpoint, hnot⟩

-- Only a socket that is watched leads to the callback.
theorem uevent_step (hstep : bootStep config loop state label = some (next, out))
    (hquiet : state.point ≠ .UeventCallback) (hpoint : next.point = .UeventCallback) : loop.watched = true := by
  obtain ⟨hloop, hwaits⟩ := bootStep_loopStep hstep
  cases (loopStep_move hloop).2 with
  | CycleMatters => cases hpoint
  | Skip => cases hpoint
  | HandleChargingState => cases hpoint
  | HandlePowerKeyState => cases hpoint
  | HandleScreenState => cases hpoint
  | UeventCallback input hthere => exact absurd hthere hquiet
  | SetKeyState => exact absurd hpoint hquiet
  | EpollWait input hwait =>
      refine (hwaits input rfl hwait).event ?_
      by_contra hnone
      dsimp only at hpoint
      rw [if_pos (Int.not_lt.mp hnone)] at hpoint
      cases hpoint

-- Once a turn has begun, the battery is not due again.
def NotDue (history : List LoopLabel) (state : LoopState) : Prop :=
  (∃ label ∈ history, label.isLoop = true) → state.point = .CycleMatters → state.nevents ≠ 0

-- Without a callback no time is ever up, since `epoll_wait` fails at once.
theorem notDue_step {history : List LoopLabel} (hnotDue : NotDue history state)
    (hcallbacks : loop.callbacks = 0) (hquiet : state.point ≠ .UeventCallback)
    (hstep : bootStep config loop state label = some (next, out)) : NotDue (history ++ [label]) next := by
  intro hturned hcycle
  obtain ⟨hloop, hwaits⟩ := bootStep_loopStep hstep
  cases (loopStep_move hloop).2 with
  | CycleMatters => cases hcycle
  | Skip => cases hcycle
  | HandleChargingState => cases hcycle
  | HandlePowerKeyState => cases hcycle
  | HandleScreenState => cases hcycle
  | UeventCallback input hthere => exact absurd hthere hquiet
  | EpollWait input hpoint =>
      intro hnone
      have hsome := ((hwaits input rfl hpoint).timeUp hnone).2.1
      omega
  | SetKeyState code value now =>
      refine hnotDue ?_ hcycle
      obtain ⟨label, hlabel, hisLoop⟩ := hturned
      rcases List.mem_append.mp hlabel with hearlier | hlast
      · exact ⟨label, hearlier, hisLoop⟩
      · rw [List.mem_singleton.mp hlast] at hisLoop
        cases hisLoop

end Steps

section FirstTurn

variable {config : BatteryConfig} {loop : EventLoop} {now : Int}

-- The screen was lit at this time, and the power key has not been touched.
structure LitUntouched (now : Int) (thread : ChargerThread) : Prop where
  backlightWait : thread.backlightWait = now - 1
  isDown : (thread.keys KEY_POWER).isDown = false
  isUp : (thread.keys KEY_POWER).isUp = false

namespace LitUntouched

variable {thread : ChargerThread}

theorem handleChargingState (hlit : LitUntouched now thread) :
    LitUntouched now (thread.handleChargingState now).1 := by
  unfold ChargerThread.handleChargingState
  split
  · exact hlit
  · split
    · exact ⟨rfl, hlit.isDown, hlit.isUp⟩
    · exact hlit

theorem handlePowerKeyState (hlit : LitUntouched now thread) :
    LitUntouched now (thread.handlePowerKeyState now).1 := by
  have hignored : thread.handlePowerKey KEY_POWER now = (thread, []) := by
    simp [ChargerThread.handlePowerKey, hlit.isDown, hlit.isUp]
  unfold ChargerThread.handlePowerKeyState
  rw [hignored]
  dsimp only
  split
  · exact ⟨hlit.backlightWait, hlit.isDown, hlit.isUp⟩
  · exact hlit

theorem handleScreenState (hlit : LitUntouched now thread) :
    LitUntouched now (thread.handleScreenState now).1 := by
  have hwait := hlit.backlightWait
  unfold ChargerThread.handleScreenState
  split
  · rename_i hdue
    unfold BACKLIGHT_OFF_TIME_MS at hdue
    omega
  · exact hlit

end LitUntouched

theorem cycleMatters_litUntouched {thread : ChargerThread} (hfresh : thread.started = false)
    (hdown : (thread.keys KEY_POWER).isDown = false) (hup : (thread.keys KEY_POWER).isUp = false)
    (env : UpdateEnv) : LitUntouched now (thread.cycleMatters config now env).1 := by
  obtain ⟨⟨epollInterval, animation, hwritten⟩, -⟩ := thread.cycleMatters_outcome config now env
  rw [hwritten, if_neg (by simp [hfresh])]
  exact ⟨rfl, hdown, hup⟩

theorem bootStep_eq {state : LoopState} {input : LoopInput} (hticks : Ticks state.clock input.now)
    (hwaits : state.point ≠ .EpollWait ∨ loop.Waits (state.thread.epollTimeout input.now) input.nevents) :
    bootStep config loop state (.Loop input) = state.step config input := by
  have hallowed : ¬(state.point = .EpollWait ∧
      ¬loop.Waits (state.thread.epollTimeout input.now) input.nevents) := by
    rintro ⟨hpoint, hnot⟩
    rcases hwaits with hother | hwait
    · exact hother hpoint
    · exact hnot hwait
  have hloop : loopStep config state (.Loop input) = state.step config input := if_pos hticks
  unfold bootStep
  dsimp only
  rw [if_neg hallowed, hloop]

-- The four calls of the first turn, all at the same time.
theorem firstTurn (config : BatteryConfig) (available : Bool) (env : LightEnv) (boot : Nat)
    (loop : EventLoop) (input : LoopInput) (hticks : Ticks boot input.now) :
    ∃ state log, Run (bootStep config loop) (LoopState.start config available env boot)
        (List.replicate 4 (.Loop input)) state log ∧
      state.point = .EpollWait ∧ state.clock = input.now ∧ LitUntouched input.now state.thread := by
  let start := LoopState.start config available env boot
  let first := start.goto .HandleChargingState input.now
    (start.thread.cycleMatters config input.now input.env)
  let second := first.1.goto .HandlePowerKeyState input.now (first.1.thread.handleChargingState input.now)
  let third := LoopState.goto .HandleScreenState input.now
    (second.1.thread.handlePowerKeyState input.now)
    { second.1 with turnedOn := second.1.turnedOn || second.1.thread.turnsOnByKeydown input.now }
  let fourth := third.1.goto .EpollWait input.now (third.1.thread.handleScreenState input.now)
  have hagain : Ticks input.now input.now := ⟨Int.le_refl _, hticks.2⟩
  have hfirst : bootStep config loop start (.Loop input) = some first :=
    bootStep_eq hticks (.inl nofun)
  have hsecond : bootStep config loop first.1 (.Loop input) = some second :=
    bootStep_eq hagain (.inl nofun)
  have hthird : bootStep config loop second.1 (.Loop input) = some third :=
    bootStep_eq hagain (.inl nofun)
  have hfourth : bootStep config loop third.1 (.Loop input) = some fourth :=
    bootStep_eq hagain (.inl nofun)
  have hlit : LitUntouched input.now first.1.thread :=
    cycleMatters_litUntouched rfl rfl rfl input.env
  exact ⟨fourth.1, _, .cons hfirst (.cons hsecond (.cons hthird (.cons hfourth .nil))), rfl, rfl,
    hlit.handleChargingState.handlePowerKeyState.handleScreenState⟩

theorem epollTimeout_lit {thread : ChargerThread} (htimed : thread.Timed now)
    (hlimit : now ≤ INT64_MAX - BACKLIGHT_OFF_TIME_MS) (hlit : LitUntouched now thread) (hpos : 0 < now) :
    0 ≤ thread.epollTimeout now := by
  have hset : thread.backlightWait ≠ INVALID := by
    have hwait := hlit.backlightWait
    unfold INVALID
    omega
  have hdue := ChargerThread.updateWaitInterval_lit htimed hlimit hset
  rcases htimed.epollInterval with hunpolled | hpolled
  · have hnow := (ChargerThread.epollTimeout_unpolled hunpolled).trans hdue
    exact Int.le_of_eq hnow.symm
  · rw [ChargerThread.epollTimeout_polled hpolled, hdue]
    decide

end FirstTurn

-- What the files of the battery hold.
structure Reading where
  capacity : List UInt8
  chargeState : List UInt8

namespace Reading

variable (reading : Reading)

def Found (env : UpdateEnv) : Prop :=
  env.capacity = .Holds reading.capacity ∧ env.chargeState = .Holds reading.chargeState

-- The thread knows what they held.
structure Held (thread : ChargerThread) : Prop where
  capacity : thread.capacity = parseInt (SysfsFile.line reading.capacity)
  chargeState : thread.chargeState = chargeStateEnumConverter (SysfsFile.line reading.chargeState)

-- An update finds the files, and the thread then knows what they hold.
structure Taken (config : BatteryConfig) (loop : EventLoop) (state : LoopState) (input : LoopInput)
    (next : LoopState) : Prop where
  step : ∃ out, bootStep config loop state (.Loop input) = some (next, out)
  updates : state.Updates (.Loop input)
  found : reading.Found input.env
  held : reading.Held next.thread

variable {reading} {config : BatteryConfig} {loop : EventLoop} {state next : LoopState} {input : LoopInput}
variable {out : List LoopEffect}

theorem Found.held {thread next : ChargerThread} (hfound : reading.Found input.env)
    (hsame : ChargerThread.SameReadings next (thread.readBatteryInfo input.env)) : reading.Held next where
  capacity := by
    have hparsed := parseCapacity_eq input.env.capacity thread.capacity
    rw [hfound.1] at hparsed
    rw [hsame.capacity, ChargerThread.readBatteryInfo, hfound.1, hparsed]
  chargeState := by
    have hparsed := parseChargeState_eq input.env.chargeState thread.chargeState
    rw [hfound.2] at hparsed
    rw [hsame.chargeState, ChargerThread.readBatteryInfo, hfound.2, hparsed]

-- Every update takes what it finds.
theorem Found.taken (hfound : reading.Found input.env)
    (hstep : bootStep config loop state (.Loop input) = some (next, out))
    (hupdates : state.Updates (.Loop input)) : reading.Taken config loop state input next := by
  refine ⟨⟨out, hstep⟩, hupdates, hfound, ?_⟩
  obtain ⟨hloop, -⟩ := bootStep_loopStep hstep
  have hgoes : loopStep config state (.Loop input) = state.step config input :=
    if_pos (loopStep_move hloop).1
  rw [hgoes, LoopState.step] at hloop
  rcases hupdates with ⟨hpoint, hnone⟩ | ⟨hpoint, haccepted⟩
  · obtain ⟨⟨epollInterval, animation, hwritten⟩, -⟩ :=
      state.thread.cycleMatters_outcome config input.now input.env
    simp only [hpoint, hnone, if_true] at hloop
    cases hloop
    have hsame : ChargerThread.SameReadings
        (state.thread.cycleMatters config input.now input.env).1 (state.thread.readBatteryInfo input.env) := by
      rw [hwritten]
      exact ⟨rfl, rfl, rfl⟩
    exact hfound.held hsame
  · obtain ⟨animation, hwritten⟩ := state.thread.updateBatteryInfo_outcome config input.env
    have hupdate : state.thread.ueventCallback config input.received input.env =
        state.thread.updateBatteryInfo config input.env := if_pos haccepted
    simp only [hpoint, hupdate] at hloop
    cases hloop
    have hsame : ChargerThread.SameReadings (state.thread.updateBatteryInfo config input.env).1
        (state.thread.readBatteryInfo input.env) := by
      rw [hwritten]
      exact ⟨rfl, rfl, rfl⟩
    exact hfound.held hsame

end Reading

section Runs

variable (config : BatteryConfig) (available : Bool) (env : LightEnv) (boot : Nat) (answers : InitAnswers)

-- In some run the thread takes one reading, and later another one, at such a
-- point of the loop.
def Rereads (there : LoopPoint → Prop) (first second : Reading) : Prop :=
  ∃ before after input input' earlier taken state next log log',
    BootRun config available env boot answers before earlier log ∧
    first.Taken config (EventLoop.init answers).1 earlier input taken ∧
    BootRun config available env boot answers (before ++ .Loop input :: after) state log' ∧
    there state.point ∧ second.Taken config (EventLoop.init answers).1 state input' next

variable {config available env boot answers}
variable {history : List LoopLabel} {state : LoopState} {log : List LoopEffect}

theorem bootRun_timed (hrun : BootRun config available env boot answers history state log) : state.Timed :=
  hrun.history_invariant (fun _ state _ => state.Timed) (LoopState.timed_start config available env boot)
    fun _ _ _ _ _ _ _ htimed hstep => htimed.next (bootStep_loopStep hstep).1

theorem quiet_run (hunwatched : (EventLoop.init answers).1.watched = false)
    (hrun : BootRun config available env boot answers history state log) : state.point ≠ .UeventCallback := by
  refine hrun.history_invariant (fun _ state _ => state.point ≠ .UeventCallback) (by rintro ⟨⟩) ?_
  intro history state log label next out _ hquiet hstep hpoint
  have hwatched := uevent_step hstep hquiet hpoint
  cases hunwatched.symm.trans hwatched

theorem notDue_run (hcallbacks : (EventLoop.init answers).1.callbacks = 0)
    (hrun : BootRun config available env boot answers history state log) : NotDue history state := by
  have hunwatched := unwatched_of_deaf hcallbacks
  refine hrun.history_invariant (fun history state _ => NotDue history state) ?_ ?_
  · rintro ⟨label, hlabel, -⟩
    cases hlabel
  · intro _ _ _ _ _ _ hearlier hnotDue hstep
    exact notDue_step hnotDue hcallbacks (quiet_run hunwatched hearlier) hstep

theorem opens_of_rereads {there : LoopPoint → Prop} {first second : Reading}
    (hrereads : Rereads config available env boot answers there first second) : answers.Opens := by
  obtain ⟨before, after, input, input', earlier, taken, state, next, log, log', -, -, hrun, -, hsecond⟩ :=
    hrereads
  rw [← callbacks_pos_iff]
  by_contra hnone
  have hcallbacks := Nat.eq_zero_of_not_pos hnone
  rcases hsecond.updates with ⟨hcycle, hzero⟩ | ⟨huevent, -⟩
  · exact notDue_run hcallbacks hrun ⟨.Loop input, by simp, rfl⟩ hcycle hzero
  · exact quiet_run (unwatched_of_deaf hcallbacks) hrun huevent

-- The files hold this, `epoll_wait` answers that an event is there or not, and
-- the event is one of the power supply.
def Reading.input (reading : Reading) (now nevents : Int) : LoopInput where
  now := now
  env := {
    temperature := .OpenFails
    capacity := .Holds reading.capacity
    chargeState := .Holds reading.chargeState
    light := ⟨false, false⟩ }
  nevents := nevents
  received := some (ascii POWER_SUPPLY)

theorem powerSupply_accepted : acceptsUevent (some (ascii POWER_SUPPLY)) = true := by
  rw [acceptsUevent_iff, leadingFields_of_last zero_not_mem_powerSupply]
  decide

-- The first turn with its wait.
theorem waited_run (config : BatteryConfig) (available : Bool) (env : LightEnv) (answers : InitAnswers)
    (hboot : (boot : Int) < INT64_MAX - BACKLIGHT_OFF_TIME_MS) (first : Reading) (nevents : Int)
    (hone : nevents ≤ 1)
    (hanswer : ∀ timeout, 0 ≤ timeout → (EventLoop.init answers).1.Waits timeout nevents) :
    let input := first.input (boot + 1) nevents
    ∃ taken state log,
      first.Taken config (EventLoop.init answers).1 (LoopState.start config available env boot) input taken ∧
      BootRun config available env boot answers
        (.Loop input :: (List.replicate 3 (.Loop input) ++ [.Loop input])) state log ∧
      state.nevents = nevents ∧ state.clock = boot + 1 ∧
      state.point = if nevents ≤ 0 then .CycleMatters else .UeventCallback := by
  intro input
  have hticks : Ticks boot (boot + 1) := by
    unfold Ticks
    omega
  obtain ⟨state, log, hrun, hpoint, hclock, hlit⟩ :=
    firstTurn config available env boot (EventLoop.init answers).1 input hticks
  have htimed : state.thread.Timed (boot + 1) := by
    have hthen := bootRun_timed hrun
    unfold LoopState.Timed at hthen
    rw [hclock] at hthen
    exact hthen
  have htimeout := epollTimeout_lit htimed hticks.2 hlit (by omega)
  have hagain : Ticks state.clock input.now := ⟨Int.le_of_eq hclock, hticks.2⟩
  have hstep : bootStep config (EventLoop.init answers).1 state (.Loop input) = state.step config input :=
    bootStep_eq hagain (.inr (hanswer _ htimeout))
  have hwait : state.step config input = some ({ state with
      nevents := nevents
      point := if nevents ≤ 0 then .CycleMatters else .UeventCallback
      clock := boot + 1 }, [.EpollWait (state.thread.epollTimeout (boot + 1))]) := by
    unfold LoopState.step
    simp only [hpoint]
    exact if_neg (Int.not_lt.mpr hone)
  have htaken : bootStep config (EventLoop.init answers).1 (LoopState.start config available env boot)
      (.Loop input) = (LoopState.start config available env boot).step config input :=
    bootStep_eq hticks (.inl nofun)
  have hfound : first.Found input.env := ⟨rfl, rfl⟩
  exact ⟨_, _, _, hfound.taken htaken (.inl ⟨rfl, rfl⟩), hrun.snoc _ (hstep.trans hwait), rfl, rfl, rfl⟩

-- What comes after the wait is an update, of whatever the files then hold.
theorem rereads_of_waited (there : LoopPoint → Prop)
    (hboot : (boot : Int) < INT64_MAX - BACKLIGHT_OFF_TIME_MS) (nevents : Int) (hone : nevents ≤ 1)
    (hanswer : ∀ timeout, 0 ≤ timeout → (EventLoop.init answers).1.Waits timeout nevents)
    (hthere : there (if nevents ≤ 0 then .CycleMatters else .UeventCallback)) (first second : Reading)
    (hdue : nevents = 0 ∨ 0 < nevents) :
    Rereads config available env boot answers there first second := by
  obtain ⟨taken, state, log, hfirst, hrun, hnevents, hclock, hpoint⟩ :=
    waited_run config available env answers hboot first nevents hone hanswer
  let input := second.input (boot + 1) 0
  have hticks : Ticks state.clock input.now := by
    unfold Ticks
    change state.clock ≤ boot + 1 ∧ (boot : Int) + 1 ≤ _
    omega
  have hcalls : state.point ≠ .EpollWait := by
    rw [hpoint]
    split <;> nofun
  have hstep : bootStep config (EventLoop.init answers).1 state (.Loop input) = state.step config input :=
    bootStep_eq hticks (.inl hcalls)
  have hupdates : state.Updates (.Loop input) := by
    rcases hdue with hnone | hsome
    · exact .inl ⟨by rw [hpoint, if_pos (Int.le_of_eq hnone)], hnevents.trans hnone⟩
    · exact .inr ⟨by rw [hpoint, if_neg (Int.not_le.mpr hsome)], powerSupply_accepted⟩
  have hread : (state.step config input).isSome = true := by
    unfold LoopState.step
    rcases hupdates with ⟨hcycle, -⟩ | ⟨huevent, -⟩
    · simp only [hcycle]
      rfl
    · simp only [huevent]
      rfl
  obtain ⟨⟨next, out⟩, hnext⟩ := Option.isSome_iff_exists.mp hread
  have hfound : second.Found input.env := ⟨rfl, rfl⟩
  exact ⟨[], _, _, input, _, taken, state, next, [], log, .nil, hfirst, hrun, hpoint ▸ hthere,
    hfound.taken (hstep.trans hnext) hupdates⟩

theorem rereads_of_opens (hboot : (boot : Int) < INT64_MAX - BACKLIGHT_OFF_TIME_MS) (hopens : answers.Opens)
    (first second : Reading) :
    Rereads config available env boot answers (fun _ => True) first second := by
  have hpos := (callbacks_pos_iff answers).mpr hopens
  refine rereads_of_waited (fun _ => True) hboot 0 (by decide) (fun timeout htimeout => ?_) trivial
    first second (.inl rfl)
  exact ⟨Int.natCast_nonneg _, nofun, fun _ => ⟨epFd_of_callbacks hpos, hpos, htimeout⟩⟩

theorem rereads_of_watched (hboot : (boot : Int) < INT64_MAX - BACKLIGHT_OFF_TIME_MS)
    (hwatched : (EventLoop.init answers).1.watched = true) (first second : Reading) :
    Rereads config available env boot answers (· = .UeventCallback) first second := by
  have hpos := (callbacks_pos_iff answers).mpr ((watched_iff answers).mp hwatched).1
  have hevent (timeout : Int) : (EventLoop.init answers).1.Waits timeout 1 :=
    ⟨by omega, fun _ => hwatched, nofun⟩
  exact rereads_of_waited (· = .UeventCallback) hboot 1 (Int.le_refl 1) (fun timeout _ => hevent timeout) rfl
    first second (.inr (by decide))

-- Nothing stops the loop when `Init` fails: without the socket the thread never
-- takes a second reading, and without its registration it takes none for an
-- event. `Init` leaves no descriptor open but those that the thread keeps.
theorem rereads_iff (config : BatteryConfig) (available : Bool) (env : LightEnv) (answers : InitAnswers)
    (hboot : (boot : Int) < INT64_MAX - BACKLIGHT_OFF_TIME_MS) (first second : Reading) :
    (Rereads config available env boot answers (fun _ => True) first second ↔ answers.Opens) ∧
      (Rereads config available env boot answers (· = .UeventCallback) first second ↔
        answers.Opens ∧ answers.epollCtl = true) ∧
      replay [] (EventLoop.init answers).2 =
        some ((if (EventLoop.init answers).1.ueventFd then [.UeventFd] else []) ++
          (if (EventLoop.init answers).1.epFd then [.EpFd] else [])) := by
  refine ⟨⟨opens_of_rereads, fun hopens => rereads_of_opens hboot hopens first second⟩, ?_,
    init_held answers⟩
  rw [← watched_iff]
  refine ⟨fun hrereads => ?_, fun hwatched => rereads_of_watched hboot hwatched first second⟩
  obtain ⟨_, _, _, _, _, _, state, _, _, _, -, -, hrun, hpoint, -⟩ := hrereads
  by_contra hunwatched
  exact quiet_run (Bool.eq_false_iff.mpr hunwatched) hrun hpoint

-- A socket that cannot be bound, and a charger that is plugged in later.
theorem rereads_iff_unbound :
    ¬Rereads shippedConfig true ⟨true, true⟩ 0 ⟨true, true, true, false, true⟩ (fun _ => True)
      ⟨ascii "40\n", ascii "Discharging\n"⟩ ⟨ascii "40\n", ascii "Charging\n"⟩ := by
  have hiff := rereads_iff shippedConfig true ⟨true, true⟩ ⟨true, true, true, false, true⟩
    (by decide : ((0 : Nat) : Int) < INT64_MAX - BACKLIGHT_OFF_TIME_MS)
    ⟨ascii "40\n", ascii "Discharging\n"⟩ ⟨ascii "40\n", ascii "Charging\n"⟩
  exact fun hrereads => absurd (hiff.1.mp hrereads).2.2.2 (by decide)

end Runs

end BatteryManager.Charger
