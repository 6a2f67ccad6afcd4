import BatteryManager.Charger.DrmDriver

namespace BatteryManager.Charger

open Library

def PAGE_SIZE : Nat := 4096

-- The kernel maps and unmaps whole pages.
def pagesOf (length : Nat) : Nat := (length + (PAGE_SIZE - 1)) / PAGE_SIZE

inductive FbResource
  | FileDescriptor (fd : Int)
  | Page (number : Nat)
  deriving DecidableEq

abbrev FbTrace := List (Use FbResource)

def pageRange (address length : Nat) : List FbResource :=
  (List.range' (address / PAGE_SIZE) (pagesOf length)).map .Page

structure FbFixScreeninfo where
  lineLength : UInt32 := 0
  smemLen : UInt32 := 0
  deriving DecidableEq

structure FbVarScreeninfo where
  xres : UInt32 := 0
  yres : UInt32 := 0
  bitsPerPixel : UInt32 := 0
  deriving DecidableEq

-- The answer to every call that `Init` can make. A call that fails has no answer.
-- `devPath` is the static variable.
structure FbOutcome where
  devPath : String
  fd : Int
  finfo : Option FbFixScreeninfo
  vinfo : Option FbVarScreeninfo
  mmap : Option Nat

structure FbBufferObject where
  width : UInt32 := 0
  height : UInt32 := 0
  size : UInt32 := 0
  vaddr : Vaddr := .At 0
  deriving DecidableEq

structure FbdevDriver where
  fd : Int := -1
  buff : FbBufferObject := {}
  finfo : FbFixScreeninfo := {}
  vinfo : FbVarScreeninfo := {}
  deriving DecidableEq

structure DisplayInfo where
  width : Nat := 0
  height : Nat := 0
  rowBytes : Nat := 0
  pixelBytes : Nat := 0
  deriving DecidableEq

-- The stores of `memset_s` and `memcpy_s`, which refuse some lengths.
def fillPages (address length : Nat) : FbTrace :=
  if memcpyCopies address length true length then (pageRange address length).map .Write else []

def fbPowerContrl (fd : Int) : FbTrace := if fd < 0 then [] else [.Write (.FileDescriptor fd)]

namespace FbdevDriver

-- The driver, the result, and what was done.
def init (outcome : FbOutcome) (driver : FbdevDriver) : FbdevDriver × Bool × FbTrace :=
  let fd : FbResource := .FileDescriptor outcome.fd
  if outcome.devPath = "" then (driver, false, [])
  else if outcome.fd < 0 then (driver, false, [])
  else
    let opened : FbTrace := .Acquire fd :: (fbPowerContrl outcome.fd ++ fbPowerContrl outcome.fd)
    match outcome.finfo with
    | none => (driver, false, opened ++ [.Write fd, .Release fd])
    | some finfo =>
        match outcome.vinfo with
        | none => ({ driver with finfo := finfo }, false, opened ++ [.Write fd, .Write fd, .Release fd])
        | some vinfo =>
            let buff : FbBufferObject := {
              width := vinfo.xres
              height := vinfo.yres
              size := finfo.lineLength * vinfo.yres
              vaddr := match outcome.mmap with
                | some address => .At address
                | none => .MapFailed }
            let driver := { driver with finfo := finfo, vinfo := vinfo, buff := buff }
            match outcome.mmap with
            | none => (driver, false, opened ++ [.Write fd, .Write fd, .Release fd])
            | some address =>
                ({ driver with fd := outcome.fd }, true,
                  opened ++ [.Write fd, .Write fd] ++
                    (pageRange address finfo.smemLen.toNat).map .Acquire ++
                    fillPages address finfo.smemLen.toNat)

-- Whether a frame is taken from the caller.
def copies (driver : FbdevDriver) : Bool :=
  match driver.buff.vaddr with
  | .MapFailed => false
  | .At address =>
      0 ≤ driver.fd && memcpyCopies address driver.buff.size.toNat true driver.buff.size.toNat

def flip (driver : FbdevDriver) : FbTrace :=
  match driver.buff.vaddr with
  | .MapFailed => []
  | .At address =>
      if driver.copies then
        (pageRange address driver.buff.size.toNat).map .Write ++ [.Write (.FileDescriptor driver.fd)]
      else []

def getDisplayInfo (driver : FbdevDriver) : DisplayInfo where
  width := driver.vinfo.xres.toNat
  height := driver.vinfo.yres.toNat
  rowBytes := driver.finfo.lineLength.toNat
  pixelBytes := driver.vinfo.bitsPerPixel.toNat / 8

-- A hook that is registered is given the descriptor, which is -1 when there is none.
def blank (hook : Bool) (driver : FbdevDriver) : FbTrace :=
  fbPowerContrl driver.fd ++ if hook then fbPowerContrl driver.fd else []

-- What `ReleaseFb` gives back, in its order.
def released (driver : FbdevDriver) : List FbResource :=
  (match driver.buff.vaddr with
    | .MapFailed => []
    | .At address => pageRange address driver.buff.size.toNat) ++ [.FileDescriptor driver.fd]

def releaseFb (driver : FbdevDriver) : FbdevDriver × FbTrace :=
  if driver.fd < 0 then (driver, [])
  else ({ driver with fd := -1 }, driver.released.map .Release)

def exit (driver : FbdevDriver) : FbdevDriver × FbTrace := driver.releaseFb

end FbdevDriver

-- What may be called on a driver that has been made and initialized.
inductive FbCall
  | Flip
  | Blank (hook : Bool)
  | Exit
  deriving DecidableEq

namespace FbdevDriver

def call (driver : FbdevDriver) : FbCall → FbdevDriver × FbTrace
  | .Flip => (driver, driver.flip)
  | .Blank hook => (driver, driver.blank hook)
  | .Exit => driver.exit

-- The calls on one driver, and then its destructor.
def remaining : FbdevDriver → List FbCall → FbTrace
  | driver, [] => driver.releaseFb.2
  | driver, label :: rest => (driver.call label).2 ++ remaining (driver.call label).1 rest

-- `GraphicDev::Init` makes a driver and initializes it once.
def lifetime (outcome : FbOutcome) (calls : List FbCall) : FbTrace :=
  let made := ({} : FbdevDriver).init outcome
  made.2.2 ++ made.1.remaining calls

end FbdevDriver

end BatteryManager.Charger
