import BatteryManager.Library.Ledger
import Mathlib.Data.List.Range

namespace BatteryManager.Charger

open Library

def DRM_MODE_CONNECTED : Nat := 1
def DRM_MODE_CONNECTOR_LVDS : Nat := 7
def DRM_MODE_CONNECTOR_EDP : Nat := 14
def DRM_MODE_CONNECTOR_DSI : Nat := 16
def DRM_MODE_TYPE_PREFERRED : Nat := 8
def SECUREC_MEM_MAX_LEN : Nat := 2147483647
def COLOR_SIZE : Nat := 4

-- What the driver acquires, by the pointer, number or address it is known by.
inductive DrmResource
  | FileDescriptor (fd : Int)
  | Resources (pointer : Nat)
  | Connector (pointer : Nat)
  | Encoder (pointer : Nat)
  | Crtc (pointer : Nat)
  | DumbBuffer (handle : Nat)
  | Framebuffer (fbId : Nat)
  | Mapping (address length : Nat)
  deriving DecidableEq

abbrev DrmTrace := List (Use DrmResource)

structure DrmMode where
  type : Nat
  hdisplay : Nat
  vdisplay : Nat
  deriving DecidableEq, Inhabited

structure DrmModeRes where
  pointer : Nat
  countCrtcs : Nat
  countConnectors : Nat
  countEncoders : Nat
  deriving DecidableEq

structure DrmModeConnector where
  pointer : Nat
  encoderId : Nat
  countEncoders : Nat
  connectorType : Nat
  connection : Nat
  modes : List DrmMode
  deriving DecidableEq

structure DrmModeEncoder where
  pointer : Nat
  crtcId : Nat
  possibleCrtcs : Nat
  deriving DecidableEq

-- What `DRM_IOCTL_MODE_CREATE_DUMB` fills in.
structure DumbBuffer where
  handle : Nat := 0
  pitch : Nat := 0
  size : Nat := 0
  deriving DecidableEq

-- The answers about one of the devices. The connectors are asked for by their
-- place in the list of the resources.
structure DrmCard where
  tmpFd : Int
  cap : Option Nat
  resources : Option DrmModeRes
  connectors : Nat → Option DrmModeConnector

-- The answer to every call that `DrmInit` can make. A call that fails, or that
-- gives a null pointer, has no answer.
structure DrmOutcome where
  maxMinor : Nat
  cards : Nat → DrmCard
  connectorsByType : Nat → Nat → Option DrmModeConnector
  connectors : Nat → Option DrmModeConnector
  currentEncoder : Option DrmModeEncoder
  currentCrtc : Option Nat
  encoders : Nat → Option DrmModeEncoder
  crtcs : Nat → Nat → Option Nat
  createDumb : Option DumbBuffer
  addFb : Option Nat
  mmap : Option Nat

-- A null pointer is the address 0.
inductive Vaddr
  | MapFailed
  | At (address : Nat)
  deriving DecidableEq

structure BufferObject where
  width : Nat := 0
  height : Nat := 0
  pitch : Nat := 0
  handle : Nat := 0
  size : Nat := 0
  vaddr : Vaddr := .At 0
  fbId : Nat := 0
  deriving DecidableEq

-- `initResult` is the static variable of `Init`.
structure DrmDriver where
  fd : Int := -1
  conn : Option DrmModeConnector := none
  res : Option DrmModeRes := none
  crtc : Option Nat := none
  buff : BufferObject := {}
  initResult : Option Bool := none
  deriving DecidableEq

-- `memcpy_s` copies nothing when it refuses its arguments.
def memcpyCopies (destination destMax : Nat) (source : Bool) (count : Nat) : Bool :=
  destination ≠ 0 && source && 0 < count && count ≤ destMax && destMax ≤ SECUREC_MEM_MAX_LEN

-- The loop of the two searches for a connector.
def searchConnector (accepts : DrmModeConnector → Bool) (answer : Nat → Option DrmModeConnector) :
    List Nat → Option DrmModeConnector × DrmTrace
  | [] => (none, [])
  | i :: rest =>
      match answer i with
      | none => searchConnector accepts answer rest
      | some conn =>
          if accepts conn then (some conn, [.Acquire (.Connector conn.pointer)])
          else
            let next := searchConnector accepts answer rest
            (next.1, .Acquire (.Connector conn.pointer) :: .Release (.Connector conn.pointer) :: next.2)

def isConnected (conn : DrmModeConnector) : Bool :=
  0 < conn.modes.length && conn.connection = DRM_MODE_CONNECTED

def getFirstConnector (res : DrmModeRes) (answer : Nat → Option DrmModeConnector) :
    Option DrmModeConnector × DrmTrace :=
  searchConnector isConnected answer (List.range res.countConnectors)

def getConnectorByType (res : DrmModeRes) (answer : Nat → Option DrmModeConnector) (type : Nat) :
    Option DrmModeConnector × DrmTrace :=
  searchConnector (fun conn => conn.connectorType = type && isConnected conn) answer
    (List.range res.countConnectors)

def mainConnector : List Nat :=
  [DRM_MODE_CONNECTOR_LVDS, DRM_MODE_CONNECTOR_EDP, DRM_MODE_CONNECTOR_DSI]

def searchMainConnector (res : DrmModeRes) (answer : Nat → Nat → Option DrmModeConnector) :
    List Nat → Option DrmModeConnector × DrmTrace
  | [] => (none, [])
  | type :: rest =>
      let found := getConnectorByType res (answer type) type
      match found.1 with
      | some conn => (some conn, found.2)
      | none =>
          let next := searchMainConnector res answer rest
          (next.1, found.2 ++ next.2)

-- The preferred mode, or else the first one.
def preferredMode (conn : DrmModeConnector) : Nat :=
  (conn.modes.findIdx? fun mode => mode.type &&& DRM_MODE_TYPE_PREFERRED ≠ 0).getD 0

def getConnector (outcome : DrmOutcome) (res : DrmModeRes) :
    Option (DrmModeConnector × Nat) × DrmTrace :=
  let main := searchMainConnector res outcome.connectorsByType mainConnector
  match main.1 with
  | some conn => (some (conn, preferredMode conn), main.2)
  | none =>
      let first := getFirstConnector res outcome.connectors
      (first.1.map fun conn => (conn, preferredMode conn), main.2 ++ first.2)

-- The first crtc that an encoder can drive.
def possibleCrtc (res : DrmModeRes) (encoder : DrmModeEncoder) : Option Nat :=
  (List.range res.countCrtcs).find? fun j => encoder.possibleCrtcs.testBit j

-- `drmModeGetCrtc`
def askCrtc (answer : Option Nat) : Option Nat × DrmTrace :=
  match answer with
  | some crtc => (some crtc, [.Acquire (.Crtc crtc)])
  | none => (none, [])

def searchEncoder (outcome : DrmOutcome) (res : DrmModeRes) : List Nat → Option Nat × DrmTrace
  | [] => (none, [])
  | i :: rest =>
      match outcome.encoders i with
      | none => searchEncoder outcome res rest
      | some encoder =>
          let asked : DrmTrace := [.Acquire (.Encoder encoder.pointer), .Release (.Encoder encoder.pointer)]
          match possibleCrtc res encoder with
          | some j =>
              let crtc := askCrtc (outcome.crtcs i j)
              (crtc.1, asked ++ crtc.2)
          | none =>
              let next := searchEncoder outcome res rest
              (next.1, asked ++ next.2)

def getCrtc (outcome : DrmOutcome) (res : DrmModeRes) (conn : DrmModeConnector) :
    Option Nat × DrmTrace :=
  let current := if conn.encoderId ≠ 0 then outcome.currentEncoder else none
  match current with
  | some encoder =>
      let asked : DrmTrace := [.Acquire (.Encoder encoder.pointer), .Release (.Encoder encoder.pointer)]
      if encoder.crtcId ≠ 0 then
        let crtc := askCrtc outcome.currentCrtc
        (crtc.1, asked ++ crtc.2)
      else
        let found := searchEncoder outcome res (List.range conn.countEncoders)
        (found.1, asked ++ found.2)
  | none => searchEncoder outcome res (List.range conn.countEncoders)

-- The result and the new value of `fd`.
def getOneResources (card : DrmCard) : Option DrmModeRes × Int × DrmTrace :=
  if card.tmpFd < 0 then (none, -1, [])
  else
    let opened : Use DrmResource := .Acquire (.FileDescriptor card.tmpFd)
    let closed : Use DrmResource := .Release (.FileDescriptor card.tmpFd)
    if card.cap.getD 0 = 0 then (none, -1, [opened, closed])
    else
      match card.resources with
      | none => (none, -1, [opened, closed])
      | some res =>
          let refused : DrmTrace := [closed, .Release (.Resources res.pointer)]
          if 0 < res.countCrtcs ∧ 0 < res.countConnectors ∧ 0 < res.countEncoders then
            let first := getFirstConnector res card.connectors
            match first.1 with
            | some conn =>
                (some res, card.tmpFd, opened :: .Acquire (.Resources res.pointer) :: first.2 ++
                  [.Release (.Connector conn.pointer)])
            | none => (none, -1, opened :: .Acquire (.Resources res.pointer) :: first.2 ++ refused)
          else (none, -1, opened :: .Acquire (.Resources res.pointer) :: refused)

def getResources (cards : Nat → DrmCard) : Int → List Nat → Option DrmModeRes × Int × DrmTrace
  | fd, [] => (none, fd, [])
  | _, i :: rest =>
      let one := getOneResources (cards i)
      match one.1 with
      | some res => (some res, one.2)
      | none =>
          let next := getResources cards one.2.1 rest
          (next.1, next.2.1, one.2.2 ++ next.2.2)

-- The loop that fills the buffer. Each round writes one colour.
def fillBuffer (address length size : Nat) : Nat → Nat → DrmTrace
  | 0, _ => []
  | rounds + 1, i =>
      if i < size ∧ memcpyCopies (address + i) size true COLOR_SIZE then
        .Write (.Mapping address length) :: fillBuffer address length size rounds (i + COLOR_SIZE)
      else []

-- Fields of 32 bits take over the 64 bits of `create.size`.
def modesetCreateFb (outcome : DrmOutcome) (bo : BufferObject) : BufferObject × DrmTrace :=
  let create := outcome.createDumb.getD {}
  let created : DrmTrace :=
    match outcome.createDumb with
    | some dumb => [.Acquire (.DumbBuffer dumb.handle)]
    | none => []
  let bo := { bo with pitch := create.pitch, size := create.size % 4294967296, handle := create.handle }
  match outcome.addFb with
  | none => (bo, created)
  | some fbId =>
      let bo := { bo with fbId := fbId }
      let added : DrmTrace := created ++ [.Acquire (.Framebuffer fbId)]
      match outcome.mmap with
      | none => ({ bo with vaddr := .MapFailed }, added)
      | some address =>
          ({ bo with vaddr := .At address },
            added ++ .Acquire (.Mapping address create.size) ::
              fillBuffer address create.size bo.size bo.size 0)

namespace DrmDriver

-- `drmModeSetCrtc`, at the end, changes nothing of this.
def drmInit (outcome : DrmOutcome) (driver : DrmDriver) : DrmDriver × Bool × DrmTrace :=
  let opened := getResources outcome.cards driver.fd (List.range outcome.maxMinor)
  let driver := { driver with res := opened.1, fd := opened.2.1 }
  if driver.fd < 0 then (driver, false, opened.2.2)
  else
    match opened.1 with
    | none => (driver, false, opened.2.2)
    | some res =>
        let connected := getConnector outcome res
        let driver := { driver with conn := connected.1.map Prod.fst }
        match connected.1 with
        | none => (driver, false, opened.2.2 ++ connected.2)
        | some (conn, modeId) =>
            let encoded := getCrtc outcome res conn
            let driver := { driver with crtc := encoded.1 }
            match encoded.1 with
            | none => (driver, false, opened.2.2 ++ connected.2 ++ encoded.2)
            | some _ =>
                let mode := conn.modes.getD modeId default
                let created := modesetCreateFb outcome
                  { driver.buff with width := mode.hdisplay, height := mode.vdisplay }
                ({ driver with buff := created.1 }, true,
                  opened.2.2 ++ connected.2 ++ encoded.2 ++ created.2)

def init (outcome : DrmOutcome) (driver : DrmDriver) : DrmDriver × DrmTrace :=
  match driver.initResult with
  | some _ => (driver, [])
  | none =>
      let done := driver.drmInit outcome
      ({ done.1 with initResult := some done.2.1 }, done.2.2)

-- `source` tells whether `memcpy_s` takes the source.
def flip (source : Bool) (driver : DrmDriver) : DrmTrace :=
  match driver.buff.vaddr with
  | .MapFailed => []
  | .At address =>
      if memcpyCopies address driver.buff.size source driver.buff.size then
        [.Write (.Mapping address driver.buff.size)]
      else []

-- What `ModesetDestroyFb` gives back, in its order.
def released (driver : DrmDriver) : List DrmResource :=
  (if driver.fd > 0 ∧ driver.buff.fbId ≠ 0 then [.Framebuffer driver.buff.fbId] else []) ++
    (match driver.buff.vaddr with
      | .MapFailed => []
      | .At address => [.Mapping address driver.buff.size]) ++
    (if driver.fd > 0 then [.DumbBuffer driver.buff.handle] else []) ++
    (driver.crtc.toList.map .Crtc) ++
    (driver.conn.toList.map fun conn => .Connector conn.pointer) ++
    (driver.res.toList.map fun res => .Resources res.pointer) ++
    (if driver.fd > 0 then [.FileDescriptor driver.fd] else [])

-- Only the descriptor is reset.
def modesetDestroyFb (driver : DrmDriver) : DrmDriver × DrmTrace :=
  ({ driver with fd := if driver.fd > 0 then -1 else driver.fd }, driver.released.map .Release)

def exit (driver : DrmDriver) : DrmDriver × DrmTrace := driver.modesetDestroyFb

end DrmDriver

inductive DrmCall
  | Init
  | Flip (source : Bool)
  | Exit
  deriving DecidableEq

namespace DrmDriver

def call (outcome : DrmOutcome) (driver : DrmDriver) : DrmCall → DrmDriver × DrmTrace
  | .Init => driver.init outcome
  | .Flip source => (driver, driver.flip source)
  | .Exit => driver.exit

-- The calls on one driver, and then its destructor.
def lifetime (outcome : DrmOutcome) : DrmDriver → List DrmCall → DrmTrace
  | driver, [] => driver.modesetDestroyFb.2
  | driver, label :: rest =>
      let next := driver.call outcome label
      next.2 ++ lifetime outcome next.1 rest

end DrmDriver

end BatteryManager.Charger
