import BatteryManager.Charger.FbdevDriver.Theorems
import BatteryManager.Library.Run

namespace BatteryManager.Charger

open Library

inductive DevType
  | FbDevice
  | DrmDevice
  | UnknowDevice
  deriving DecidableEq

inductive DisplayDrv
  | Drm (driver : DrmDriver)
  | Fb (driver : FbdevDriver)

-- What `GraphicDev::Init` finds.
structure GraphicEnv where
  drmExists : Bool
  fbExists : Bool
  drm : DrmOutcome
  fb : FbOutcome

-- The bytes that `Flip` takes out of the buffer of its caller.
def DrmDriver.copied (driver : DrmDriver) : Nat :=
  match driver.buff.vaddr with
  | .MapFailed => 0
  | .At address =>
      if memcpyCopies address driver.buff.size true driver.buff.size then driver.buff.size else 0

def FbdevDriver.copied (driver : FbdevDriver) : Nat :=
  if driver.copies then driver.buff.size.toNat else 0

def DrmDriver.getDisplayInfo (driver : DrmDriver) : DisplayInfo where
  width := driver.buff.width
  height := driver.buff.height

namespace DisplayDrv

def init (env : GraphicEnv) : DisplayDrv → DisplayDrv × Bool
  | .Drm driver =>
      let made := (driver.init env.drm).1
      (.Drm made, made.initResult = some true)
  | .Fb driver =>
      let made := driver.init env.fb
      (.Fb made.1, made.2.1)

def copied : DisplayDrv → Nat
  | .Drm driver => driver.copied
  | .Fb driver => driver.copied

def getDisplayInfo : DisplayDrv → DisplayInfo
  | .Drm driver => driver.getDisplayInfo
  | .Fb driver => driver.getDisplayInfo

end DisplayDrv

structure GraphicDev where
  drv : Option DisplayDrv := none

namespace GraphicDev

def getDevType (env : GraphicEnv) : DevType :=
  if env.drmExists then .DrmDevice else if env.fbExists then .FbDevice else .UnknowDevice

def makeDrv : DevType → Option DisplayDrv
  | .DrmDevice => some (.Drm {})
  | .FbDevice => some (.Fb {})
  | .UnknowDevice => none

-- A driver that fails to initialize stays.
def init (env : GraphicEnv) : GraphicDev × Bool :=
  match makeDrv (getDevType env) with
  | none => ({}, false)
  | some drv => ({ drv := some (drv.init env).1 }, (drv.init env).2)

-- `buf` is not a null pointer.
def flip (dev : GraphicDev) : Nat := (dev.drv.map DisplayDrv.copied).getD 0

def getScreenSize (dev : GraphicDev) : UInt16 × UInt16 :=
  let dsInfo := (dev.drv.map DisplayDrv.getDisplayInfo).getD {}
  (UInt16.ofNat dsInfo.width, UInt16.ofNat dsInfo.height)

end GraphicDev

-- The buffer that is drawn to. `length` is the one of the memory at `virAddr`.
structure BufferInfo where
  mode : UInt8
  stride : Nat
  width : UInt16
  height : UInt16
  length : Nat
  deriving DecidableEq

-- `initOnce` is the static variable of `Init`.
structure ChargerGraphicEngine where
  colorMode : UInt8 := 0
  initOnce : Option Bool := none
  sfDev : Option GraphicDev := none
  width : UInt16 := 0
  height : UInt16 := 0
  buffInfo : Option BufferInfo := none

-- A frame that is copied to the display: the bytes that are read, out of a buffer
-- of this length.
structure FrameCopy where
  bytes : Nat
  length : Nat
  deriving DecidableEq

namespace ChargerGraphicEngine

def init (mode : UInt8) (env : GraphicEnv) (engine : ChargerGraphicEngine) : ChargerGraphicEngine :=
  let engine := { engine with colorMode := mode }
  match engine.initOnce with
  | some _ => engine
  | none =>
      let dev := GraphicDev.init env
      if dev.2 then
        { engine with
          initOnce := some true
          sfDev := some dev.1
          width := dev.1.getScreenSize.1
          height := dev.1.getScreenSize.2
          buffInfo := none }
      else { engine with initOnce := some false, sfDev := some dev.1 }

-- A product that does not fit an `int` is undefined, so there is no such step.
def getFBBufferInfo (getByteSizeByColorMode : UInt8 → UInt8) (engine : ChargerGraphicEngine) :
    Option ChargerGraphicEngine :=
  match engine.buffInfo with
  | some _ => some engine
  | none =>
      let pixelBytes := getByteSizeByColorMode engine.colorMode
      if pixelBytes = 0 then some engine
      else if engine.width = 0 ∨ engine.height = 0 then some engine
      else
        let length := engine.width.toNat * engine.height.toNat * pixelBytes.toNat
        if length < 2147483648 then
          some { engine with
            buffInfo := some {
              mode := engine.colorMode
              stride := engine.width.toNat * pixelBytes.toNat
              width := engine.width
              height := engine.height
              length := length } }
        else none

def flush (engine : ChargerGraphicEngine) : List FrameCopy :=
  match engine.sfDev, engine.buffInfo with
  | some dev, some buffInfo => if dev.flip = 0 then [] else [⟨dev.flip, buffInfo.length⟩]
  | _, _ => []

end ChargerGraphicEngine

inductive EngineCall
  | Init (mode : UInt8) (env : GraphicEnv)
  | GetFBBufferInfo
  | Flush

def engineStep (getByteSizeByColorMode : UInt8 → UInt8) (engine : ChargerGraphicEngine) :
    EngineCall → Option (ChargerGraphicEngine × List FrameCopy)
  | .Init mode env => some (engine.init mode env, [])
  | .GetFBBufferInfo =>
      (engine.getFBBufferInfo getByteSizeByColorMode).map fun next => (next, [])
  | .Flush => some (engine, engine.flush)

abbrev EngineRun (getByteSizeByColorMode : UInt8 → UInt8) :
    List EngineCall → ChargerGraphicEngine → List FrameCopy → Prop :=
  Run (engineStep getByteSizeByColorMode) {}

def EngineCall.env? : EngineCall → Option GraphicEnv
  | .Init _ env => some env
  | _ => none

-- Only the first `Init` opens a device.
def firstEnv (history : List EngineCall) : Option GraphicEnv := history.findSome? EngineCall.env?

-- The colour modes that have been asked for.
def modes (history : List EngineCall) : List UInt8 :=
  history.filterMap fun
    | .Init mode _ => some mode
    | _ => none

theorem firstEnv_concat (history : List EngineCall) (label : EngineCall) :
    firstEnv (history ++ [label]) = (firstEnv history).or label.env? := by
  unfold firstEnv
  rw [List.findSome?_append]
  cases label <;> rfl

theorem modes_concat (history : List EngineCall) (label : EngineCall) :
    ∀ mode ∈ modes history, mode ∈ modes (history ++ [label]) := by
  intro mode hmode
  unfold modes at hmode ⊢
  rw [List.filterMap_append]
  exact List.mem_append_left _ hmode

-- What the engine is after a history. The buffer has the size of the screen, in
-- a mode that was asked for.
structure Prepared (getByteSizeByColorMode : UInt8 → UInt8) (history : List EngineCall)
    (engine : ChargerGraphicEngine) : Prop where
  once : engine.initOnce = (firstEnv history).map fun env => (GraphicDev.init env).2
  dev : engine.sfDev = (firstEnv history).map fun env => (GraphicDev.init env).1
  size : ∀ env ∈ firstEnv history, (GraphicDev.init env).2 = true →
    (engine.width, engine.height) = (GraphicDev.init env).1.getScreenSize
  closed : (∀ env ∈ firstEnv history, (GraphicDev.init env).2 = false) →
    engine.width = 0 ∧ engine.buffInfo = none
  mode : firstEnv history = none ∨ engine.colorMode ∈ modes history
  buffer : ∀ buffInfo ∈ engine.buffInfo, ∃ mode ∈ modes history,
    buffInfo.length = engine.width.toNat * engine.height.toNat * (getByteSizeByColorMode mode).toNat

section Engine

variable {getByteSizeByColorMode : UInt8 → UInt8} {history : List EngineCall}
variable {engine : ChargerGraphicEngine} (hprepared : Prepared getByteSizeByColorMode history engine)
include hprepared

theorem Prepared.unopened (hnone : firstEnv history = none) :
    engine.width = 0 ∧ engine.buffInfo = none := by
  apply hprepared.closed
  intro env henv
  rw [hnone] at henv
  exact absurd henv (Option.not_mem_none env)

-- What is prepared does not change while the device is the same, whatever colour
-- mode is asked for.
theorem Prepared.keeps {label : EngineCall} {mode : UInt8}
    (hfirst : firstEnv (history ++ [label]) = firstEnv history)
    (hmode : firstEnv history = none ∨ mode ∈ modes (history ++ [label])) :
    Prepared getByteSizeByColorMode (history ++ [label]) { engine with colorMode := mode } := by
  refine ⟨?_, ?_, ?_, ?_, ?_, ?_⟩
  · rw [hfirst]
    exact hprepared.once
  · rw [hfirst]
    exact hprepared.dev
  · rw [hfirst]
    exact hprepared.size
  · rw [hfirst]
    exact hprepared.closed
  · rw [hfirst]
    exact hmode
  · intro buffInfo hbuff
    obtain ⟨before, hbefore, hlength⟩ := hprepared.buffer buffInfo hbuff
    exact ⟨before, modes_concat history label before hbefore, hlength⟩

-- A later `Init` only takes over the colour mode.
theorem Prepared.again {first : GraphicEnv} (hopened : firstEnv history = some first) (mode : UInt8)
    (env : GraphicEnv) :
    Prepared getByteSizeByColorMode (history ++ [.Init mode env]) (engine.init mode env) := by
  have honce := hprepared.once
  rw [hopened] at honce
  have hengine : engine.init mode env = { engine with colorMode := mode } := by
    unfold ChargerGraphicEngine.init
    dsimp only
    rw [honce]
    rfl
  have hfirst : firstEnv (history ++ [.Init mode env]) = firstEnv history := by
    rw [firstEnv_concat, hopened]
    rfl
  rw [hengine]
  exact hprepared.keeps hfirst (.inr (by simp [modes]))

theorem Prepared.first (hnone : firstEnv history = none) (mode : UInt8) (env : GraphicEnv) :
    Prepared getByteSizeByColorMode (history ++ [.Init mode env]) (engine.init mode env) := by
  have honce := hprepared.once
  rw [hnone, Option.map_none] at honce
  obtain ⟨hwidth, hbuff⟩ := hprepared.unopened hnone
  have hfirst : firstEnv (history ++ [.Init mode env]) = some env := by
    rw [firstEnv_concat, hnone]
    rfl
  have hmode : mode ∈ modes (history ++ [.Init mode env]) := by simp [modes]
  unfold ChargerGraphicEngine.init
  dsimp only
  rw [honce]
  dsimp only
  split
  · rename_i hdev
    refine ⟨?_, ?_, ?_, ?_, .inr hmode, nofun⟩
    · rw [hfirst, Option.map_some, hdev]
    · rw [hfirst, Option.map_some]
    · intro other hother _
      rw [hfirst] at hother
      cases hother
      rfl
    · intro hall
      have hfailed := hall env hfirst
      cases hfailed.symm.trans hdev
  · rename_i hdev
    refine ⟨?_, ?_, ?_, ?_, .inr hmode, ?_⟩
    · rw [hfirst, Option.map_some, Bool.eq_false_iff.mpr hdev]
    · rw [hfirst, Option.map_some]
    · intro other hother hsucceeds
      rw [hfirst] at hother
      cases hother
      exact absurd hsucceeds hdev
    · exact fun _ => ⟨hwidth, hbuff⟩
    · intro buffInfo hsome
      cases hbuff.symm.trans hsome

-- So it is with a call other than `Init`.
theorem Prepared.kept {label : EngineCall} (hlabel : label.env? = none) :
    Prepared getByteSizeByColorMode (history ++ [label]) engine := by
  have hfirst : firstEnv (history ++ [label]) = firstEnv history := by
    rw [firstEnv_concat, hlabel]
    exact Option.or_none
  exact hprepared.keeps hfirst (hprepared.mode.imp_right (modes_concat history label engine.colorMode))

theorem Prepared.getFBBufferInfo {next : ChargerGraphicEngine}
    (hnext : engine.getFBBufferInfo getByteSizeByColorMode = some next) :
    Prepared getByteSizeByColorMode history next := by
  unfold ChargerGraphicEngine.getFBBufferInfo at hnext
  cases hbuff : engine.buffInfo with
  | some buffInfo =>
      rw [hbuff] at hnext
      cases hnext
      exact hprepared
  | none =>
      rw [hbuff] at hnext
      dsimp only at hnext
      split at hnext
      · cases hnext
        exact hprepared
      split at hnext
      · cases hnext
        exact hprepared
      split at hnext
      · rename_i hsized _
        cases hnext
        have hwidth : engine.width ≠ 0 := fun hzero => hsized (.inl hzero)
        refine ⟨hprepared.once, hprepared.dev, hprepared.size, ?_, hprepared.mode, ?_⟩
        · intro hall
          exact absurd (hprepared.closed hall).1 hwidth
        · intro buffInfo hsome
          cases hsome
          refine ⟨engine.colorMode, ?_, rfl⟩
          refine hprepared.mode.resolve_left fun hnone => ?_
          exact hwidth (hprepared.unopened hnone).1
      · cases hnext

theorem prepared_step {label : EngineCall} {next : ChargerGraphicEngine} {out : List FrameCopy}
    (hstep : engineStep getByteSizeByColorMode engine label = some (next, out)) :
    Prepared getByteSizeByColorMode (history ++ [label]) next := by
  cases label with
  | Init mode env =>
      cases hstep
      cases hfirst : firstEnv history with
      | none => exact hprepared.first hfirst mode env
      | some first => exact hprepared.again hfirst mode env
  | GetFBBufferInfo =>
      obtain ⟨moved, hmoved, hsame⟩ := Option.map_eq_some_iff.mp hstep
      cases hsame
      exact (hprepared.getFBBufferInfo hmoved).kept rfl
  | Flush =>
      cases hstep
      exact hprepared.kept rfl

end Engine

theorem prepared_run {getByteSizeByColorMode : UInt8 → UInt8} {history : List EngineCall}
    {engine : ChargerGraphicEngine} {log : List FrameCopy}
    (hrun : EngineRun getByteSizeByColorMode history engine log) :
    Prepared getByteSizeByColorMode history engine := by
  induction hrun with
  | nil =>
      refine ⟨rfl, rfl, ?_, fun _ => ⟨rfl, rfl⟩, .inl rfl, nofun⟩
      exact fun env henv _ => absurd henv (Option.not_mem_none env)
  | snoc label _ hstep ih => exact prepared_step ih hstep

-- What a `Flush` copies, if anything, is a frame of the device that the first
-- `Init` opened.
structure FrameOf (getByteSizeByColorMode : UInt8 → UInt8) (env : GraphicEnv) (mode : UInt8)
    (copy : FrameCopy) : Prop where
  opened : (GraphicDev.init env).2 = true
  bytes : copy.bytes = (GraphicDev.init env).1.flip
  copied : copy.bytes ≠ 0
  length : copy.length = (GraphicDev.init env).1.getScreenSize.1.toNat *
    (GraphicDev.init env).1.getScreenSize.2.toNat * (getByteSizeByColorMode mode).toNat

theorem Prepared.flush {getByteSizeByColorMode : UInt8 → UInt8} {history : List EngineCall}
    {engine : ChargerGraphicEngine} (hprepared : Prepared getByteSizeByColorMode history engine)
    {copy : FrameCopy} (hcopy : copy ∈ engine.flush) :
    ∃ env mode, firstEnv history = some env ∧ mode ∈ modes history ∧
      FrameOf getByteSizeByColorMode env mode copy := by
  unfold ChargerGraphicEngine.flush at hcopy
  split at hcopy
  · rename_i dev buffInfo hdev hbuff
    split at hcopy
    · cases hcopy
    · rename_i hflip
      cases List.mem_singleton.mp hcopy
      have hsfDev := hprepared.dev
      rw [hdev] at hsfDev
      obtain ⟨env, hfirst, rfl⟩ := Option.map_eq_some_iff.mp hsfDev.symm
      obtain ⟨mode, hmode, hlength⟩ := hprepared.buffer buffInfo hbuff
      have hopened : (GraphicDev.init env).2 = true := by
        by_contra hfailed
        have hclosed := hprepared.closed fun other hother => by
          rw [hfirst] at hother
          cases hother
          exact Bool.eq_false_iff.mpr hfailed
        cases hclosed.2.symm.trans hbuff
      obtain ⟨hwidth, hheight⟩ := Prod.mk.inj (hprepared.size env hfirst hopened)
      refine ⟨env, mode, hfirst, hmode, hopened, rfl, hflip, ?_⟩
      rw [hlength, hwidth, hheight]
      rfl
  · cases hcopy

theorem firstEnv_append {history : List EngineCall} {env : GraphicEnv} (hfirst : firstEnv history = some env)
    (label : EngineCall) : firstEnv (history ++ [label]) = some env := by
  rw [firstEnv_concat, hfirst]
  rfl

theorem frames_run {getByteSizeByColorMode : UInt8 → UInt8} {history : List EngineCall}
    {engine : ChargerGraphicEngine} {log : List FrameCopy}
    (hrun : EngineRun getByteSizeByColorMode history engine log) :
    ∀ copy ∈ log, ∃ env mode, firstEnv history = some env ∧ mode ∈ modes history ∧
      FrameOf getByteSizeByColorMode env mode copy := by
  induction hrun with
  | nil => nofun
  | @snoc history engine next log out label hrun hstep ih =>
      intro copy hcopy
      have hframe : ∃ env mode, firstEnv history = some env ∧ mode ∈ modes history ∧
          FrameOf getByteSizeByColorMode env mode copy := by
        rcases List.mem_append.mp hcopy with hbefore | hnow
        · exact ih copy hbefore
        · cases label with
          | Init mode env =>
              cases hstep
              cases hnow
          | GetFBBufferInfo =>
              obtain ⟨moved, -, hsame⟩ := Option.map_eq_some_iff.mp hstep
              cases hsame
              cases hnow
          | Flush =>
              cases hstep
              exact (prepared_run hrun).flush hnow
      obtain ⟨env, mode, hfirst, hmode, hof⟩ := hframe
      exact ⟨env, mode, firstEnv_append hfirst label, modes_concat history label mode hmode, hof⟩

-- The first `Init` finds a frame buffer, and no DRM device.
def GraphicEnv.OpensFb (env : GraphicEnv) (address : Nat) (finfo : FbFixScreeninfo)
    (vinfo : FbVarScreeninfo) : Prop :=
  env.drmExists = false ∧ env.fbExists = true ∧ env.fb.Maps address finfo vinfo

theorem init_opensFb {env : GraphicEnv} {address : Nat} {finfo : FbFixScreeninfo} {vinfo : FbVarScreeninfo}
    (hopens : env.OpensFb address finfo vinfo) :
    (GraphicDev.init env).1.getScreenSize =
      (UInt16.ofNat vinfo.xres.toNat, UInt16.ofNat vinfo.yres.toNat) ∧
    ((GraphicDev.init env).1.flip ≠ 0 →
      (GraphicDev.init env).1.flip = (finfo.lineLength * vinfo.yres).toNat) := by
  obtain ⟨hdrm, hfb, hpath, hfd, hfinfo, hvinfo, hmmap⟩ := hopens
  have hdev : GraphicDev.makeDrv (GraphicDev.getDevType env) = some (.Fb {}) := by
    simp [GraphicDev.getDevType, GraphicDev.makeDrv, hdrm, hfb]
  have hmade : (FbdevDriver.init env.fb {}).1 =
      { fd := env.fb.fd, finfo := finfo, vinfo := vinfo
        buff := {
          width := vinfo.xres, height := vinfo.yres, size := finfo.lineLength * vinfo.yres
          vaddr := .At address } } := by
    simp [FbdevDriver.init, hpath, Int.not_lt.mpr hfd, hfinfo, hvinfo, hmmap]
  have hdrv : (GraphicDev.init env).1.drv = some (.Fb (FbdevDriver.init env.fb {}).1) := by
    unfold GraphicDev.init
    rw [hdev]
    rfl
  unfold GraphicDev.getScreenSize GraphicDev.flip
  rw [hdrv, hmade]
  refine ⟨rfl, fun hflip => ?_⟩
  simp only [Option.map_some, Option.getD_some, DisplayDrv.copied, FbdevDriver.copied] at hflip ⊢
  split at hflip
  · rename_i hcopies
    rw [if_pos hcopies]
  · exact absurd rfl hflip

theorem modesetCreateFb_size (outcome : DrmOutcome) (bo : BufferObject) :
    (modesetCreateFb outcome bo).1.size = (outcome.createDumb.getD {}).size % 4294967296 := by
  unfold modesetCreateFb
  cases outcome.addFb with
  | none => rfl
  | some fbId => cases outcome.mmap <;> rfl

theorem drmInit_size {outcome : DrmOutcome} {driver : DrmDriver}
    (hopened : (driver.drmInit outcome).2.1 = true) :
    (driver.drmInit outcome).1.buff.size = (outcome.createDumb.getD {}).size % 4294967296 := by
  unfold DrmDriver.drmInit at hopened ⊢
  dsimp only at hopened ⊢
  split at hopened
  · cases hopened
  rename_i hfd
  rw [if_neg hfd]
  cases hres : (getResources outcome.cards driver.fd (List.range outcome.maxMinor)).1 with
  | none => simp [hres] at hopened
  | some res =>
      simp only [hres] at hopened ⊢
      cases hconn : (getConnector outcome res).1 with
      | none => simp [hconn] at hopened
      | some found =>
          simp only [hconn] at hopened ⊢
          cases hcrtc : (getCrtc outcome res found.1).1 with
          | none => simp [hcrtc] at hopened
          | some crtc => exact modesetCreateFb_size outcome _

-- The frame of a DRM device is its buffer, whose size is kept in 32 bits.
theorem init_opensDrm {env : GraphicEnv} (hdrm : env.drmExists = true)
    (hopened : (GraphicDev.init env).2 = true) (hflip : (GraphicDev.init env).1.flip ≠ 0) :
    (GraphicDev.init env).1.flip = (env.drm.createDumb.getD {}).size % 4294967296 := by
  let made : DrmDriver := (({} : DrmDriver).init env.drm).1
  have hdev : GraphicDev.init env = ({ drv := some (.Drm made) }, decide (made.initResult = some true)) := by
    simp [GraphicDev.init, GraphicDev.getDevType, GraphicDev.makeDrv, hdrm, DisplayDrv.init, made]
  have hdrmInit : (DrmDriver.drmInit env.drm {}).2.1 = true := by
    rw [hdev] at hopened
    exact Option.some.inj (of_decide_eq_true hopened)
  have hsize : made.buff.size = (env.drm.createDumb.getD {}).size % 4294967296 := drmInit_size hdrmInit
  have hcopied : (GraphicDev.init env).1.flip = made.copied := by
    rw [hdev]
    rfl
  rw [hcopied] at hflip ⊢
  rw [← hsize]
  unfold DrmDriver.copied at hflip ⊢
  split at hflip
  · exact absurd rfl hflip
  · split at hflip
    · rename_i hcopies
      rw [if_pos hcopies]
    · exact absurd rfl hflip

-- What the engine copies to the display, in any run. It is a frame of the device
-- that the first `Init` opened, so there is none where that fails. On a frame
-- buffer it ends within the buffer exactly when the lines of the device are not
-- longer than its pixels, in the colour mode that was asked for.
theorem engineRun_inside {getByteSizeByColorMode : UInt8 → UInt8} {history : List EngineCall}
    {engine : ChargerGraphicEngine} {log : List FrameCopy}
    (hrun : EngineRun getByteSizeByColorMode history engine log) :
    ∀ copy ∈ log, ∃ env mode, firstEnv history = some env ∧ mode ∈ modes history ∧
      (GraphicDev.init env).2 = true ∧
      (env.drmExists = true → copy.bytes = (env.drm.createDumb.getD {}).size % 4294967296) ∧
      ∀ address finfo vinfo, env.OpensFb address finfo vinfo →
        copy.bytes = (finfo.lineLength * vinfo.yres).toNat ∧
        copy.length = vinfo.xres.toNat % 65536 * (vinfo.yres.toNat % 65536) *
          (getByteSizeByColorMode mode).toNat ∧
        (vinfo.xres.toNat < 65536 → vinfo.yres.toNat < 65536 →
          finfo.lineLength.toNat * vinfo.yres.toNat < 4294967296 →
          (copy.bytes ≤ copy.length ↔
            finfo.lineLength.toNat ≤ vinfo.xres.toNat * (getByteSizeByColorMode mode).toNat)) := by
  intro copy hcopy
  obtain ⟨env, mode, hfirst, hmode, hframe⟩ := frames_run hrun copy hcopy
  refine ⟨env, mode, hfirst, hmode, hframe.opened, fun hdrm => ?_, fun address finfo vinfo hopens => ?_⟩
  · exact hframe.bytes.trans (init_opensDrm hdrm hframe.opened (hframe.bytes ▸ hframe.copied))
  obtain ⟨hsize, hflip⟩ := init_opensFb hopens
  have hbytes : copy.bytes = (finfo.lineLength * vinfo.yres).toNat :=
    hframe.bytes.trans (hflip (hframe.bytes ▸ hframe.copied))
  have hlength : copy.length = vinfo.xres.toNat % 65536 * (vinfo.yres.toNat % 65536) *
      (getByteSizeByColorMode mode).toNat := by
    rw [hframe.length, hsize]
    simp
  refine ⟨hbytes, hlength, fun hxres hyres hproduct => ?_⟩
  have hframeBytes : copy.bytes = finfo.lineLength.toNat * vinfo.yres.toNat := by
    rw [hbytes, UInt32.toNat_mul, Nat.mod_eq_of_lt hproduct]
  have hlines : 0 < vinfo.yres.toNat := by
    apply Nat.pos_of_ne_zero
    intro hzero
    rw [hzero, Nat.mul_zero] at hframeBytes
    exact hframe.copied hframeBytes
  have hbuffer : copy.length = vinfo.xres.toNat * (getByteSizeByColorMode mode).toNat * vinfo.yres.toNat := by
    rw [hlength, Nat.mod_eq_of_lt hxres, Nat.mod_eq_of_lt hyres, Nat.mul_right_comm]
  rw [hframeBytes, hbuffer, Nat.mul_le_mul_right_iff hlines]

-- A frame buffer of 3 by 2 pixels of 4 bytes, whose lines are padded to 16 bytes.
def paddedEnv : GraphicEnv where
  drmExists := false
  fbExists := true
  drm := {
    maxMinor := 0
    cards := fun _ => ⟨-1, none, none, fun _ => none⟩
    connectorsByType := fun _ _ => none
    connectors := fun _ => none
    currentEncoder := none
    currentCrtc := none
    encoders := fun _ => none
    crtcs := fun _ _ => none
    createDumb := none
    addFb := none
    mmap := none }
  fb := {
    devPath := "/dev/graphics/fb0"
    fd := 3
    finfo := some { lineLength := 16, smemLen := 32 }
    vinfo := some { xres := 3, yres := 2, bitsPerPixel := 32 }
    mmap := some 4096 }

theorem engineRun_inside_padded :
    ∃ engine log, EngineRun (fun _ => 4) [.Init 0 paddedEnv, .GetFBBufferInfo, .Flush] engine log ∧
      log ≠ [] ∧ ∀ copy ∈ log, ¬copy.bytes ≤ copy.length := by
  have hrun := exec_run (engineStep fun _ => 4) {} [.Init 0 paddedEnv, .GetFBBufferInfo, .Flush] rfl
  refine ⟨_, _, hrun, by decide, fun copy hcopy hinside => ?_⟩
  obtain ⟨env, mode, hfirst, -, -, -, hframe⟩ := engineRun_inside hrun copy hcopy
  cases hfirst
  obtain ⟨-, -, hiff⟩ := hframe 4096 _ _ ⟨rfl, rfl, by decide, by decide, rfl, rfl, rfl⟩
  have hlines := (hiff (by decide) (by decide) (by decide)).mp hinside
  exact absurd hlines (by decide)

end BatteryManager.Charger
