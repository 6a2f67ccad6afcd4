import BatteryManager.Charger.Thread.Lemmas

namespace BatteryManager.Charger

-- What can happen around the power key: the input monitor is told of an edge, or
-- the loop looks at the key.
inductive KeyEvent
  | Down (now : Int)
  | Up (now : Int)
  | Handle (now : Int)

namespace KeyEvent

def now : KeyEvent → Int
  | .Down now => now
  | .Up now => now
  | .Handle now => now

def isDown : KeyEvent → Bool
  | .Down _ => true
  | _ => false

def isUp : KeyEvent → Bool
  | .Up _ => true
  | _ => false

def isHandle : KeyEvent → Bool
  | .Handle _ => true
  | _ => false

end KeyEvent

-- A short press with what happens while the key is down, and after it is up
-- until the next press. Edges may be told of more than once.
structure Press where
  down : Int
  held : List KeyEvent
  up : Int
  released : List KeyEvent
  short : up < down + REBOOT_TIME
  held_down : ∀ event ∈ held, event.isUp = false ∧ event.now ≤ up
  released_up : ∀ event ∈ released, event.isDown = false
  handled : ∃ event ∈ released, event.isHandle = true

def Press.events (press : Press) : List KeyEvent :=
  .Down press.down :: press.held ++ .Up press.up :: press.released

namespace ChargerThread

def keyEvent (thread : ChargerThread) : KeyEvent → ChargerThread × List ChargerEffect
  | .Down now => (thread.setKeyState KEY_POWER 1 now, [])
  | .Up now => (thread.setKeyState KEY_POWER 0 now, [])
  | .Handle now => thread.handlePowerKeyState now

def keyEvents (thread : ChargerThread) : List KeyEvent → ChargerThread × List ChargerEffect
  | [] => (thread, [])
  | event :: rest =>
      let moved := thread.keyEvent event
      let last := moved.1.keyEvents rest
      (last.1, moved.2 ++ last.2)

end ChargerThread

def ScreenState.opposite : ScreenState → ScreenState
  | .ScreenOff => .ScreenOn
  | .ScreenOn => .ScreenOff

-- The key latch by itself: what the monitor writes, what the loop consumes, and
-- the screen.
structure Latch where
  isUp : Bool
  isDown : Bool
  timestamp : Int
  turnedOn : Bool
  screen : ScreenState
  deriving DecidableEq

namespace Latch

def edge (isDown : Bool) (now : Int) (latch : Latch) : Latch :=
  if latch.isDown = isDown then latch
  else { latch with
    isUp := true, isDown := isDown, timestamp := if isDown then now else latch.timestamp }

def Long (now : Int) (latch : Latch) : Prop :=
  latch.isDown = true ∧ latch.timestamp + REBOOT_TIME ≤ now

instance (now : Int) (latch : Latch) : Decidable (latch.Long now) := inferInstanceAs (Decidable (_ ∧ _))

def handle (now : Int) (latch : Latch) : Latch :=
  if latch.Long now then { latch with screen := .ScreenOff }
  else if latch.isDown then
    if latch.screen = .ScreenOff then { latch with screen := .ScreenOn, turnedOn := true } else latch
  else if latch.isUp then
    { latch with
      screen := if latch.screen = .ScreenOn ∧ latch.turnedOn = false then .ScreenOff else .ScreenOn
      isUp := false
      turnedOn := false }
  else latch

section Handle

variable (now : Int) (latch : Latch)

theorem handle_long (hlong : latch.Long now) : latch.handle now = { latch with screen := .ScreenOff } :=
  if_pos hlong

theorem handle_lit (hdown : latch.isDown = true) (hshort : now < latch.timestamp + REBOOT_TIME)
    (hon : latch.screen ≠ .ScreenOff) : latch.handle now = latch := by
  rw [handle, if_neg fun hlong => Int.not_le.mpr hshort hlong.2, if_pos hdown, if_neg hon]

theorem handle_dark (hdown : latch.isDown = true) (hshort : now < latch.timestamp + REBOOT_TIME)
    (hoff : latch.screen = .ScreenOff) :
    latch.handle now = { latch with screen := .ScreenOn, turnedOn := true } := by
  rw [handle, if_neg fun hlong => Int.not_le.mpr hshort hlong.2, if_pos hdown, if_pos hoff]

theorem handle_released (hdown : latch.isDown = false) (hup : latch.isUp = true) :
    latch.handle now = { latch with
      screen := if latch.screen = .ScreenOn ∧ latch.turnedOn = false then .ScreenOff else .ScreenOn
      isUp := false
      turnedOn := false } := by
  have hnotDown := Bool.eq_false_iff.mp hdown
  rw [handle, if_neg fun hlong => hnotDown hlong.1, if_neg hnotDown, if_pos hup]

theorem handle_idle (hdown : latch.isDown = false) (hup : latch.isUp = false) :
    latch.handle now = latch := by
  have hnotDown := Bool.eq_false_iff.mp hdown
  rw [handle, if_neg fun hlong => hnotDown hlong.1, if_neg hnotDown, if_neg (Bool.eq_false_iff.mp hup)]

end Handle

def event (latch : Latch) : KeyEvent → Latch
  | .Down now => latch.edge true now
  | .Up now => latch.edge false now
  | .Handle now => latch.handle now

-- Between two presses.
structure AtRest (latch : Latch) : Prop where
  isDown : latch.isDown = false
  isUp : latch.isUp = false
  turnedOn : latch.turnedOn = false

-- During a press: the screen is as it was, or the loop has turned it on since.
def Toggling (initial : ScreenState) (latch : Latch) : Prop :=
  latch.screen = initial ∧ latch.turnedOn = false ∨
    initial = .ScreenOff ∧ latch.screen = .ScreenOn ∧ latch.turnedOn = true

structure Held (initial : ScreenState) (down : Int) (latch : Latch) : Prop where
  isDown : latch.isDown = true
  timestamp : latch.timestamp = down
  toggling : latch.Toggling initial

structure Released (initial : ScreenState) (latch : Latch) : Prop where
  isDown : latch.isDown = false
  isUp : latch.isUp = true
  toggling : latch.Toggling initial

variable {latch : Latch} {initial : ScreenState} {down now : Int}

theorem edge_same (now : Int) {isDown : Bool} (hsame : latch.isDown = isDown) :
    latch.edge isDown now = latch :=
  if_pos hsame

theorem AtRest.edge_down (now : Int) (hrest : latch.AtRest) :
    (latch.edge true now).Held latch.screen now := by
  have hdown : ¬latch.isDown = true := Bool.eq_false_iff.mp hrest.isDown
  rw [edge, if_neg hdown]
  exact ⟨rfl, rfl, .inl ⟨rfl, hrest.turnedOn⟩⟩

theorem Held.edge_up (now : Int) (hheld : latch.Held initial down) :
    (latch.edge false now).Released initial := by
  have hdown : ¬latch.isDown = false := by simp [hheld.isDown]
  rw [edge, if_neg hdown]
  exact ⟨rfl, rfl, hheld.toggling⟩

theorem Held.handle (hheld : latch.Held initial down) (hshort : now < down + REBOOT_TIME) :
    (latch.handle now).Held initial down := by
  rw [← hheld.timestamp] at hshort
  by_cases hoff : latch.screen = .ScreenOff
  · rw [handle_dark now latch hheld.isDown hshort hoff]
    refine ⟨hheld.isDown, hheld.timestamp, .inr ⟨?_, rfl, rfl⟩⟩
    rcases hheld.toggling with ⟨hinitial, -⟩ | ⟨hinitial, -⟩
    · exact hinitial.symm.trans hoff
    · exact hinitial
  · rw [handle_lit now latch hheld.isDown hshort hoff]
    exact hheld

-- The first look at the released key toggles the screen.
theorem Released.handle (now : Int) (hreleased : latch.Released initial) :
    (latch.handle now).AtRest ∧ (latch.handle now).screen = initial.opposite := by
  rw [handle_released now latch hreleased.isDown hreleased.isUp]
  refine ⟨⟨hreleased.isDown, rfl, rfl⟩, ?_⟩
  dsimp only
  rcases hreleased.toggling with ⟨hscreen, hnot⟩ | ⟨hinitial, -, hturned⟩
  · rw [hscreen, hnot]
    cases initial <;> decide
  · rw [hturned, hinitial]
    simp [ScreenState.opposite]

theorem Held.events (hheld : latch.Held initial down) {up : Int} (hup : up < down + REBOOT_TIME)
    {events : List KeyEvent} (hevents : ∀ event ∈ events, event.isUp = false ∧ event.now ≤ up) :
    (events.foldl event latch).Held initial down := by
  induction events generalizing latch with
  | nil => exact hheld
  | cons first rest ih =>
      obtain ⟨hfirst, hrest⟩ := List.forall_mem_cons.mp hevents
      refine ih ?_ hrest
      cases first with
      | Down time =>
          rw [show latch.event (.Down time) = latch from edge_same time hheld.isDown]
          exact hheld
      | Up time => cases hfirst.1
      | Handle time => exact hheld.handle (Int.lt_of_le_of_lt hfirst.2 hup)

-- Without a new press the loop finds nothing to do.
theorem AtRest.events (hrest : latch.AtRest) {events : List KeyEvent}
    (hevents : ∀ event ∈ events, event.isDown = false) : events.foldl event latch = latch := by
  induction events with
  | nil => rfl
  | cons first rest ih =>
      obtain ⟨hfirst, hlater⟩ := List.forall_mem_cons.mp hevents
      have hsame : latch.event first = latch := by
        cases first with
        | Down time => cases hfirst
        | Up time => exact edge_same time hrest.isDown
        | Handle time => exact handle_idle time latch hrest.isDown hrest.isUp
      rw [List.foldl_cons, hsame]
      exact ih hlater

theorem Released.events (hreleased : latch.Released initial) {events : List KeyEvent}
    (hevents : ∀ event ∈ events, event.isDown = false) (hhandled : ∃ event ∈ events, event.isHandle = true) :
    (events.foldl event latch).AtRest ∧ (events.foldl event latch).screen = initial.opposite := by
  induction events with
  | nil =>
      obtain ⟨event, hmem, -⟩ := hhandled
      cases hmem
  | cons first rest ih =>
      obtain ⟨hfirst, hrest⟩ := List.forall_mem_cons.mp hevents
      rw [List.foldl_cons]
      cases first with
      | Down time => cases hfirst
      | Up time =>
          have hlater : ∃ event ∈ rest, event.isHandle = true := by simpa [KeyEvent.isHandle] using hhandled
          rw [show latch.event (.Up time) = latch from edge_same time hreleased.isDown]
          exact ih hrest hlater
      | Handle time =>
          have htoggled := hreleased.handle time
          rw [show latch.event (.Handle time) = latch.handle time from rfl, htoggled.1.events hrest]
          exact htoggled

-- No look at the key finds it down for too long.
def Short : Latch → List KeyEvent → Prop
  | _, [] => True
  | latch, first :: rest =>
      (first.isHandle = true → ¬latch.Long first.now) ∧ (latch.event first).Short rest

theorem short_append (first second : List KeyEvent) :
    latch.Short (first ++ second) ↔ latch.Short first ∧ (first.foldl event latch).Short second := by
  induction first generalizing latch with
  | nil => simp [Short]
  | cons head rest ih => simp [Short, ih, and_assoc]

theorem short_of_up (hup : latch.isDown = false) {events : List KeyEvent}
    (hevents : ∀ event ∈ events, event.isDown = false) : latch.Short events := by
  induction events generalizing latch with
  | nil => trivial
  | cons first rest ih =>
      obtain ⟨hfirst, hrest⟩ := List.forall_mem_cons.mp hevents
      have hnotLong : ¬latch.Long first.now := fun hlong => Bool.eq_false_iff.mp hup hlong.1
      refine ⟨fun _ => hnotLong, ih ?_ hrest⟩
      cases first with
      | Down time => cases hfirst
      | Up time =>
          rw [show latch.event (.Up time) = latch from edge_same time hup]
          exact hup
      | Handle time =>
          change (latch.handle time).isDown = false
          cases hisUp : latch.isUp with
          | false => rw [handle_idle time latch hup hisUp, hup]
          | true => rw [handle_released time latch hup hisUp, hup]

theorem Held.short (hheld : latch.Held initial down) {up : Int} (hup : up < down + REBOOT_TIME)
    {events : List KeyEvent} (hevents : ∀ event ∈ events, event.isUp = false ∧ event.now ≤ up) :
    latch.Short events := by
  induction events generalizing latch with
  | nil => trivial
  | cons first rest ih =>
      obtain ⟨hfirst, hrest⟩ := List.forall_mem_cons.mp hevents
      have hnotLong : ¬latch.Long first.now := by
        rintro ⟨-, hlong⟩
        rw [hheld.timestamp] at hlong
        exact Int.not_lt.mpr hlong (Int.lt_of_le_of_lt hfirst.2 hup)
      have hnext : ([first].foldl event latch).Held initial down :=
        hheld.events hup (by simpa using hfirst)
      exact ⟨fun _ => hnotLong, ih hnext hrest⟩

theorem AtRest.press (hrest : latch.AtRest) (press : Press) :
    (press.events.foldl event latch).AtRest ∧
      (press.events.foldl event latch).screen = latch.screen.opposite ∧ latch.Short press.events := by
  have hdown := hrest.edge_down press.down
  have hheld := hdown.events press.short press.held_down
  have hup := hheld.edge_up press.up
  have htoggled := hup.events press.released_up press.handled
  unfold Press.events
  rw [List.foldl_append]
  refine ⟨htoggled.1, htoggled.2, (short_append _ _).mpr ⟨⟨nofun, ?_⟩, ⟨nofun, ?_⟩⟩⟩
  · exact hdown.short press.short press.held_down
  · exact short_of_up hup.isDown press.released_up

theorem AtRest.presses (hrest : latch.AtRest) (presses : List Press) :
    ((presses.flatMap Press.events).foldl event latch).AtRest ∧
      latch.Short (presses.flatMap Press.events) := by
  induction presses generalizing latch with
  | nil => exact ⟨hrest, trivial⟩
  | cons press rest ih =>
      obtain ⟨hatRest, -, hshort⟩ := hrest.press press
      obtain ⟨hlater, hshorts⟩ := ih hatRest
      rw [List.flatMap_cons, List.foldl_append]
      exact ⟨hlater, (short_append _ _).mpr ⟨hshort, hshorts⟩⟩

end Latch

namespace ChargerThread

def latch (thread : ChargerThread) : Latch where
  isUp := (thread.keys KEY_POWER).isUp
  isDown := (thread.keys KEY_POWER).isDown
  timestamp := (thread.keys KEY_POWER).timestamp
  turnedOn := thread.turnOnByKeydown
  screen := thread.backlight.screenState

-- A handler asks for a reboot or a shutdown.
def Reboots (out : List ChargerEffect) : Prop := ∃ effect ∈ out, effect.isReboot = true

variable (thread : ChargerThread) (now : Int)

theorem setKeyState_latch (value : Int) :
    (thread.setKeyState KEY_POWER value now).latch = thread.latch.edge (value ≠ 0) now := by
  have hpower : ¬KEY_POWER > KEY_MAX := by decide
  unfold setKeyState Latch.edge
  dsimp only
  rw [if_neg hpower]
  by_cases hsame : (thread.keys KEY_POWER).isDown = decide (value ≠ 0)
  · rw [if_pos hsame]
    exact (if_pos hsame).symm
  · rw [if_neg hsame]
    refine Eq.trans ?_ (if_neg hsame).symm
    unfold latch
    simp only [if_pos]

theorem setKeyWait_latch (key : KeyState) (timeout : Int) :
    (thread.setKeyWait key timeout).latch = thread.latch := by
  unfold setKeyWait
  dsimp only
  split <;> rfl

theorem released_latch (released : ChargerThread) (screen : BatteryBacklight) (wait : Int)
    (animation : ChargerAnimation) (hreleased : released = { thread with
      keys := fun other =>
        if other = KEY_POWER then { thread.keys KEY_POWER with isUp := false } else thread.keys other
      turnOnByKeydown := false }) :
    { released with backlight := screen, animation := animation, backlightWait := wait }.latch =
      { thread.latch with isUp := false, turnedOn := false, screen := screen.screenState } := by
  subst hreleased
  unfold latch
  simp only [if_pos]

theorem turnedOnByKeydown_latch (waiting : ChargerThread) (hwaiting : waiting.latch = thread.latch) :
    { waiting with
      backlight := thread.backlight.turnOnScreen.1
      backlightWait := now - 1
      turnOnByKeydown := true : ChargerThread }.updateAnimation.latch =
      { thread.latch with screen := .ScreenOn, turnedOn := true } := by
  rw [← hwaiting, ← thread.backlight.turnOnScreen_screenState]
  rfl

theorem handlePowerKey_latch :
    (thread.handlePowerKey KEY_POWER now).1.latch = thread.latch.handle now := by
  have houtcome := thread.handlePowerKey_outcome KEY_POWER now
  generalize thread.handlePowerKey KEY_POWER now = result at houtcome ⊢
  cases houtcome with
  | Ignored hignored =>
      rcases hignored with hother | ⟨hdown, hshort, hon⟩ | ⟨hdown, hup⟩
      · exact absurd rfl hother
      · exact (Latch.handle_lit now thread.latch hdown hshort hon).symm
      · exact (Latch.handle_idle now thread.latch hdown hup).symm
  | Reboots _ hdown hlong =>
      have hhandled := Latch.handle_long now thread.latch ⟨hdown, hlong⟩
      rw [hhandled, ← thread.backlight.turnOffScreen_screenState]
      rfl
  | TurnsOnByKeydown _ hdown hshort hoff =>
      have hhandled := Latch.handle_dark now thread.latch hdown hshort hoff
      rw [hhandled]
      exact thread.turnedOnByKeydown_latch now _ (thread.setKeyWait_latch _ REBOOT_TIME)
  | TurnsOff released _ hdown hup hon hnot hreleased =>
      have hhandled := Latch.handle_released now thread.latch hdown hup
      rw [hhandled, if_pos ⟨hon, hnot⟩, thread.released_latch released _ _ _ hreleased,
        BatteryBacklight.turnOffScreen_screenState]
  | TurnsOn released _ hdown hup hon hreleased =>
      have hkeeps : ¬(thread.latch.screen = .ScreenOn ∧ thread.latch.turnedOn = false) := by
        rintro ⟨hscreen, hnot⟩
        rcases hon with hoff | hturned
        · exact hoff hscreen
        · cases hturned.symm.trans hnot
      have hhandled := Latch.handle_released now thread.latch hdown hup
      have hlatch := thread.released_latch released thread.backlight.turnOnScreen.1 (now - 1)
        released.animation hreleased
      rw [hhandled, if_neg hkeeps]
      rw [BatteryBacklight.turnOnScreen_screenState] at hlatch
      exact hlatch

theorem handlePowerKeyState_latch :
    (thread.handlePowerKeyState now).1.latch = thread.latch.handle now := by
  rw [← thread.handlePowerKey_latch now]
  unfold handlePowerKeyState
  dsimp only
  split <;> rfl

theorem keyEvent_latch (event : KeyEvent) : (thread.keyEvent event).1.latch = thread.latch.event event := by
  cases event with
  | Down time => exact thread.setKeyState_latch time 1
  | Up time => exact thread.setKeyState_latch time 0
  | Handle time => exact thread.handlePowerKeyState_latch time

theorem keyEvents_latch (events : List KeyEvent) :
    (thread.keyEvents events).1.latch = events.foldl Latch.event thread.latch := by
  induction events generalizing thread with
  | nil => rfl
  | cons event rest ih =>
      unfold keyEvents
      rw [List.foldl_cons, ← thread.keyEvent_latch event]
      exact ih _

-- Only a long press reboots.
theorem not_reboots_turnOnScreen (backlight : BatteryBacklight) : ¬Reboots backlight.turnOnScreen.2 := by
  unfold Reboots BatteryBacklight.turnOnScreen
  split <;> simp [ChargerEffect.isReboot]

theorem not_reboots_turnOffScreen (backlight : BatteryBacklight) : ¬Reboots backlight.turnOffScreen.2 := by
  unfold Reboots BatteryBacklight.turnOffScreen
  split <;> simp [ChargerEffect.isReboot]

theorem not_reboots_nil : ¬Reboots [] := by simp [Reboots]

theorem not_reboots_handlePowerKeyState (hshort : ¬thread.latch.Long now) :
    ¬Reboots (thread.handlePowerKeyState now).2 := by
  change ¬Reboots (thread.handlePowerKey KEY_POWER now).2
  have houtcome := thread.handlePowerKey_outcome KEY_POWER now
  generalize thread.handlePowerKey KEY_POWER now = result at houtcome ⊢
  cases houtcome with
  | Ignored => exact not_reboots_nil
  | Reboots _ hdown hlong => exact absurd ⟨hdown, hlong⟩ hshort
  | TurnsOnByKeydown => exact not_reboots_turnOnScreen thread.backlight
  | TurnsOff => exact not_reboots_turnOffScreen thread.backlight
  | TurnsOn => exact not_reboots_turnOnScreen thread.backlight

theorem not_reboots_keyEvents {events : List KeyEvent} (hshort : thread.latch.Short events) :
    ¬Reboots (thread.keyEvents events).2 := by
  induction events generalizing thread with
  | nil => exact not_reboots_nil
  | cons event rest ih =>
      obtain ⟨hevent, hrest⟩ := hshort
      rw [← thread.keyEvent_latch event] at hrest
      rintro ⟨effect, hmem, hreboot⟩
      rcases List.mem_append.mp hmem with hfirst | hlater
      · cases event with
        | Down time => cases hfirst
        | Up time => cases hfirst
        | Handle time =>
            exact thread.not_reboots_handlePowerKeyState time (hevent rfl) ⟨effect, hfirst, hreboot⟩
      · exact ih _ hrest ⟨effect, hlater, hreboot⟩

end ChargerThread

-- Each short press toggles the screen once, whatever the loop sees of it.
theorem presses_toggle (thread : ChargerThread) (hrest : thread.latch.AtRest) (earlier : List Press)
    (press : Press) (later : List KeyEvent) (hlater : ∀ event ∈ later, event.isDown = false) :
    let before := (thread.keyEvents (earlier.flatMap Press.events)).1
    let after := (before.keyEvents press.events).1
    after.backlight.screenState = before.backlight.screenState.opposite ∧
      (after.keyEvents later).1.backlight.screenState = after.backlight.screenState ∧
      ¬ChargerThread.Reboots
        (thread.keyEvents (earlier.flatMap Press.events ++ press.events ++ later)).2 := by
  intro before after
  obtain ⟨hbefore, hshort⟩ := hrest.presses earlier
  rw [← thread.keyEvents_latch] at hbefore
  obtain ⟨hafter, hscreen, hpress⟩ := hbefore.press press
  have hstays := hafter.events hlater
  have hidle := Latch.short_of_up hafter.isDown hlater
  rw [← before.keyEvents_latch] at hafter hscreen
  rw [← before.keyEvents_latch, ← after.keyEvents_latch] at hstays
  refine ⟨hscreen, congrArg Latch.screen hstays, thread.not_reboots_keyEvents ?_⟩
  rw [Latch.short_append, Latch.short_append, List.foldl_append, ← thread.keyEvents_latch]
  exact ⟨⟨hshort, hpress⟩, hidle⟩

-- The loop looks at the key once while it is down and once after it is up.
def quickPress (down : Int) : Press where
  down := down
  held := [.Handle (down + 100), .Down (down + 200)]
  up := down + 300
  released := [.Up (down + 400), .Handle (down + 500)]
  short := by
    unfold REBOOT_TIME
    omega
  held_down := by simp [KeyEvent.isUp, KeyEvent.now]
  released_up := by simp [KeyEvent.isDown]
  handled := ⟨.Handle (down + 500), by simp, rfl⟩

theorem presses_toggle_quick :
    let before := ((ChargerThread.init shippedConfig true ⟨true, true⟩).1.keyEvents
      ([quickPress 1000].flatMap Press.events)).1
    let after := (before.keyEvents (quickPress 3000).events).1
    before.backlight.screenState = .ScreenOff ∧ after.backlight.screenState = .ScreenOn := by
  intro before after
  have hbefore : before.backlight.screenState = .ScreenOff := by decide
  have htoggles := presses_toggle (ChargerThread.init shippedConfig true ⟨true, true⟩).1 ⟨rfl, rfl, rfl⟩
    [quickPress 1000] (quickPress 3000) [] nofun
  exact ⟨hbefore, htoggles.1.trans (by rw [hbefore]; rfl)⟩

end BatteryManager.Charger
