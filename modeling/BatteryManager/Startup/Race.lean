import BatteryManager.Library.Run
import BatteryManager.Startup

namespace BatteryManager

open Library BatteryService

-- The START task and the callback for the common event service, on two threads
-- and without boot actions. An access is one step of one thread on what they
-- share. The callback starts after the service has arrived. It copies and
-- publishes only when the flag is up, and then the START task has finished, so
-- the copy and each publication are single accesses.
inductive Access
  | ServiceArrives
  | HdiRegister
  | HdiWrite
  | HdiCheckService
  | HdiPublish
  | HdiStoreReady
  | CesTestCommonEventReady
  | CesTestHdiReady
  | CesCopy
  | CesCheckService
  | CesPublish
  | CesStoreReady
  deriving DecidableEq

inductive HdiPc
  | Register
  | Write (next : BatteryInfo → BatteryInfo) (rest : List (BatteryInfo → BatteryInfo))
  | CheckService
  | Publish
  | StoreReady
  | Done

inductive CesPc
  | TestCommonEventReady
  | TestHdiReady
  | Copy
  | CheckService (info : BatteryInfo)
  | Publish (info : BatteryInfo)
  | StoreReady
  | Done

structure Race where
  batteryInfo : BatteryInfo := {}
  notify : BatteryNotify
  isBatteryHdiReady : Bool := false
  isCommonEventReady : Bool := false
  serviceExists : Bool := false
  hdi : HdiPc := .Register
  ces : CesPc := .TestCommonEventReady

def HdiPc.fill : List (BatteryInfo → BatteryInfo) → HdiPc
  | [] => .CheckService
  | next :: rest => .Write next rest

-- The capacity levels that the two publications read, which may differ.
structure RaceEnv where
  reader : HdiReader
  hdiLevel : BatteryCapacityLevel
  cesLevel : BatteryCapacityLevel

-- A publication is delivered when the service is there.
def Race.publishEnv (race : Race) (level : BatteryCapacityLevel) : PublishEnv where
  serviceExists := race.serviceExists
  publish := fun _ => race.serviceExists
  capacityLevel := level
  ueventCheck := fun _ => true

-- The first lines of `PublishEvents`.
def Race.known (race : Race) : Bool :=
  race.notify.commonEventInitSuccess || race.serviceExists

def raceStep (env : RaceEnv) (race : Race) : Access → Option (Race × List Effect)
  | .ServiceArrives =>
      if race.serviceExists then none else some ({ race with serviceExists := true }, [])
  | .HdiRegister =>
      match race.hdi with
      | .Register => some ({ race with hdi := .fill env.reader.initWrites }, [])
      | _ => none
  | .HdiWrite =>
      match race.hdi with
      | .Write next rest =>
          some ({ race with batteryInfo := next race.batteryInfo, hdi := .fill rest }, [])
      | _ => none
  | .HdiCheckService =>
      match race.hdi with
      | .CheckService =>
          if race.known then some ({ race with notify := race.notify.known, hdi := .Publish }, [])
          else some ({ race with hdi := .StoreReady }, [])
      | _ => none
  | .HdiPublish =>
      match race.hdi with
      | .Publish =>
          let published := publishKnown (race.publishEnv env.hdiLevel) race.notify race.batteryInfo
          some ({ race with
            notify := published.notify, batteryInfo := published.info, hdi := .StoreReady },
            published.effects)
      | _ => none
  | .HdiStoreReady =>
      match race.hdi with
      | .StoreReady => some ({ race with isBatteryHdiReady := true, hdi := .Done }, [])
      | _ => none
  | .CesTestCommonEventReady =>
      match race.ces with
      | .TestCommonEventReady =>
          if race.serviceExists then
            some ({ race with ces := if race.isCommonEventReady then .Done else .TestHdiReady }, [])
          else none
      | _ => none
  | .CesTestHdiReady =>
      match race.ces with
      | .TestHdiReady =>
          some ({ race with ces := if race.isBatteryHdiReady then .Copy else .Done }, [])
      | _ => none
  | .CesCopy =>
      match race.ces with
      | .Copy => some ({ race with ces := .CheckService { race.batteryInfo with uevent := "" } }, [])
      | _ => none
  | .CesCheckService =>
      match race.ces with
      | .CheckService info =>
          if race.known then some ({ race with notify := race.notify.known, ces := .Publish info }, [])
          else some ({ race with ces := .StoreReady }, [])
      | _ => none
  | .CesPublish =>
      match race.ces with
      | .Publish info =>
          let published := publishKnown (race.publishEnv env.cesLevel) race.notify info
          some ({ race with notify := published.notify, ces := .StoreReady }, published.effects)
      | _ => none
  | .CesStoreReady =>
      match race.ces with
      | .StoreReady => some ({ race with isCommonEventReady := true, ces := .Done }, [])
      | _ => none

abbrev RaceRun (config : BatteryConfig) (env : RaceEnv) : List Access → Race → List Effect → Prop :=
  Run (raceStep env) { notify := .create config }

section Phases

variable (config : BatteryConfig) (env : RaceEnv) (history : List Access) (race : Race)
  (log : List Effect)

-- The initial information has been announced.
def RaceAnnounced : Prop :=
  Announced (config.getInt "soc.low" 20) (env.reader.fillInfo {}) log

-- What is known when the START task is at a given point.
def HdiPhase : HdiPc → Prop
  | .Register => race.batteryInfo = {} ∧ .HdiCheckService ∉ history
  | .Write next rest =>
      (next :: rest).foldl (fun info write => write info) race.batteryInfo = env.reader.fillInfo {} ∧
      .HdiCheckService ∉ history
  | .CheckService => race.batteryInfo = env.reader.fillInfo {} ∧ .HdiCheckService ∉ history
  | .Publish =>
      race.batteryInfo = env.reader.fillInfo {} ∧ race.serviceExists = true ∧
      Precedes .ServiceArrives .HdiCheckService history
  | .StoreReady | .Done =>
      race.batteryInfo = env.reader.fillInfo {} ∧
      (Precedes .ServiceArrives .HdiCheckService history → RaceAnnounced config env log)

-- What is known when the callback is at a given point.
def CesPhase : CesPc → Prop
  | .TestCommonEventReady => race.isCommonEventReady = false ∧ .CesTestHdiReady ∉ history
  | .TestHdiReady => race.serviceExists = true ∧ .CesTestHdiReady ∉ history
  | .Copy =>
      race.serviceExists = true ∧ race.isBatteryHdiReady = true ∧
      Precedes .HdiStoreReady .CesTestHdiReady history
  | .CheckService info | .Publish info =>
      info = { env.reader.fillInfo {} with uevent := "" } ∧ race.serviceExists = true ∧
      Precedes .HdiStoreReady .CesTestHdiReady history
  | .StoreReady | .Done =>
      Precedes .HdiStoreReady .CesTestHdiReady history → RaceAnnounced config env log

structure RaceInvariant : Prop where
  arrived : race.serviceExists = true ↔ .ServiceArrives ∈ history
  known : race.notify.commonEventInitSuccess = true → race.serviceExists = true
  ready : race.isBatteryHdiReady = true ↔ .HdiStoreReady ∈ history
  done : race.isBatteryHdiReady = true → race.hdi = .Done
  notify : Fresh (config.getInt "soc.low" 20) race.notify ∨ RaceAnnounced config env log
  hdi : HdiPhase config env history race log race.hdi
  ces : CesPhase config env history race log race.ces
  quiet : ¬Precedes .ServiceArrives .HdiCheckService history →
    ¬Precedes .HdiStoreReady .CesTestHdiReady history → log = []

end Phases

end BatteryManager
