import BatteryManager.Charger.DrmDriver

namespace BatteryManager.Charger

open Library

-- What the searches of `DrmInit` settle on.

def acceptedConnector (accepts : DrmModeConnector → Bool) (answer : Nat → Option DrmModeConnector)
    (indices : List Nat) : Option DrmModeConnector :=
  indices.findSome? fun i => (answer i).filter accepts

-- A device with dumb buffers, and with a crtc, an encoder and a connector that
-- is connected.
def DrmCard.offered (card : DrmCard) : Option (DrmModeRes × Int) :=
  if card.tmpFd < 0 ∨ card.cap.getD 0 = 0 then none
  else
    (card.resources.filter fun res =>
      (0 < res.countCrtcs ∧ 0 < res.countConnectors ∧ 0 < res.countEncoders) ∧
        (acceptedConnector isConnected card.connectors (List.range res.countConnectors)).isSome).map
      fun res => (res, card.tmpFd)

namespace DrmOutcome

variable (outcome : DrmOutcome)

def offeredCard : Option (DrmModeRes × Int) :=
  (List.range outcome.maxMinor).findSome? fun i => (outcome.cards i).offered

def offeredMain (res : DrmModeRes) (types : List Nat) : Option DrmModeConnector :=
  types.findSome? fun type =>
    acceptedConnector (fun conn => conn.connectorType = type && isConnected conn)
      (outcome.connectorsByType type) (List.range res.countConnectors)

-- The main connectors come before the others.
def offeredConnector (res : DrmModeRes) : Option DrmModeConnector :=
  (outcome.offeredMain res mainConnector).or
    (acceptedConnector isConnected outcome.connectors (List.range res.countConnectors))

-- The first encoder that can drive a crtc, and that crtc.
def offeredEncoder (res : DrmModeRes) (indices : List Nat) : Option (Nat × Nat) :=
  indices.findSome? fun i =>
    (outcome.encoders i).bind fun encoder => (possibleCrtc res encoder).map fun j => (i, j)

def offeredCrtc (res : DrmModeRes) (conn : DrmModeConnector) : Option Nat :=
  let current := if conn.encoderId ≠ 0 then outcome.currentEncoder else none
  if current.any fun encoder => encoder.crtcId ≠ 0 then outcome.currentCrtc
  else
    (outcome.offeredEncoder res (List.range conn.countEncoders)).bind fun found =>
      outcome.crtcs found.1 found.2

end DrmOutcome

def heldConnector (conn : Option DrmModeConnector) : List DrmResource :=
  conn.toList.map fun conn => .Connector conn.pointer

def heldCard (card : Option (DrmModeRes × Int)) : List DrmResource :=
  card.toList.flatMap fun opened => [.Resources opened.1.pointer, .FileDescriptor opened.2]

def heldCrtc (crtc : Option Nat) : List DrmResource := crtc.toList.map .Crtc

-- The buffer is mapped only when it has become a framebuffer.
def DrmOutcome.heldBuffer (outcome : DrmOutcome) : List DrmResource :=
  (outcome.addFb.toList.flatMap fun fbId =>
      (outcome.mmap.toList.map fun address =>
        .Mapping address (outcome.createDumb.getD {}).size) ++ [.Framebuffer fbId]) ++
    outcome.createDumb.toList.map fun dumb => .DumbBuffer dumb.handle

def DrmOutcome.heldOnceTried (outcome : DrmOutcome) (res : DrmModeRes) (fd : Int)
    (conn : DrmModeConnector) (crtc : Nat) : List DrmResource :=
  outcome.heldBuffer ++
    [.Crtc crtc, .Connector conn.pointer, .Resources res.pointer, .FileDescriptor fd]

section Searches

theorem searchConnector_fst (accepts : DrmModeConnector → Bool)
    (answer : Nat → Option DrmModeConnector) (indices : List Nat) :
    (searchConnector accepts answer indices).1 = acceptedConnector accepts answer indices := by
  unfold acceptedConnector
  induction indices with
  | nil => rfl
  | cons i rest ih =>
      rw [searchConnector, List.findSome?_cons]
      cases hanswer : answer i with
      | none => exact ih
      | some conn =>
          by_cases haccepts : accepts conn = true
          · simp [haccepts, Option.filter_some]
          · simp [haccepts, Option.filter_some, ih]

-- The connectors that are refused are given back, and the one that is accepted
-- is kept.
theorem searchConnector_replay (accepts : DrmModeConnector → Bool)
    (answer : Nat → Option DrmModeConnector) (indices : List Nat) (held : List DrmResource) :
    replay held (searchConnector accepts answer indices).2 =
      some (heldConnector (searchConnector accepts answer indices).1 ++ held) := by
  induction indices with
  | nil => rfl
  | cons i rest ih =>
      rw [searchConnector]
      cases hanswer : answer i with
      | none => exact ih
      | some conn =>
          by_cases haccepts : accepts conn = true
          · simp [haccepts, replay, heldConnector]
          · simp [haccepts, replay, ih]

theorem getFirstConnector_fst (res : DrmModeRes) (answer : Nat → Option DrmModeConnector) :
    (getFirstConnector res answer).1 =
      acceptedConnector isConnected answer (List.range res.countConnectors) :=
  searchConnector_fst _ _ _

theorem getFirstConnector_replay (res : DrmModeRes) (answer : Nat → Option DrmModeConnector)
    (held : List DrmResource) :
    replay held (getFirstConnector res answer).2 =
      some (heldConnector (getFirstConnector res answer).1 ++ held) :=
  searchConnector_replay _ _ _ held

-- A device that is not kept leaves nothing behind.
theorem getOneResources_spec (card : DrmCard) (held : List DrmResource) :
    (getOneResources card).1 = card.offered.map Prod.fst ∧
      (getOneResources card).2.1 = (card.offered.map Prod.snd).getD (-1) ∧
      replay held (getOneResources card).2.2 = some (heldCard card.offered ++ held) := by
  unfold getOneResources DrmCard.offered
  by_cases hfd : card.tmpFd < 0
  · simp [hfd, heldCard, replay]
  · by_cases hcap : card.cap.getD 0 = 0
    · simp [hfd, hcap, heldCard, replay]
    · cases hres : card.resources with
      | none => simp [hfd, hcap, heldCard, replay]
      | some res =>
          have hfirst := getFirstConnector_fst res card.connectors
          have hreplay := getFirstConnector_replay res card.connectors
          by_cases hcounts : 0 < res.countCrtcs ∧ 0 < res.countConnectors ∧ 0 < res.countEncoders
          · cases hconn : acceptedConnector isConnected card.connectors (List.range res.countConnectors) with
            | none =>
                rw [hconn] at hfirst
                simp [hfd, hcap, hcounts, hfirst, hconn, Option.filter_some, heldCard, heldConnector, replay,
                  replay_append, hreplay]
            | some conn =>
                rw [hconn] at hfirst
                simp [hfd, hcap, hcounts, hfirst, hconn, Option.filter_some, heldCard, heldConnector, replay,
                  replay_append, hreplay]
          · simp [hfd, hcap, hcounts, Option.filter_some, heldCard, replay]

theorem getResources_eq (cards : Nat → DrmCard) (indices : List Nat) :
    (getResources cards (-1) indices).1 =
        (indices.findSome? fun i => (cards i).offered).map Prod.fst ∧
      (getResources cards (-1) indices).2.1 =
        ((indices.findSome? fun i => (cards i).offered).map Prod.snd).getD (-1) := by
  induction indices with
  | nil => exact ⟨rfl, rfl⟩
  | cons i rest ih =>
      obtain ⟨hres, hfd, -⟩ := getOneResources_spec (cards i) []
      rw [getResources, List.findSome?_cons]
      cases hoffered : (cards i).offered with
      | none =>
          rw [hoffered] at hres hfd
          simp [hres, hfd, ih]
      | some opened =>
          rw [hoffered] at hres hfd
          simp [hres, hfd]

theorem getResources_replay (cards : Nat → DrmCard) (fd : Int) (indices : List Nat)
    (held : List DrmResource) :
    replay held (getResources cards fd indices).2.2 =
      some (heldCard (indices.findSome? fun i => (cards i).offered) ++ held) := by
  induction indices generalizing fd with
  | nil => rfl
  | cons i rest ih =>
      obtain ⟨hres, -, hone⟩ := getOneResources_spec (cards i) held
      rw [getResources, List.findSome?_cons]
      cases hoffered : (cards i).offered with
      | none =>
          rw [hoffered] at hres hone
          simp [hres, replay_append, hone, ih, heldCard]
      | some opened =>
          rw [hoffered] at hres hone
          simp [hres, hone]

theorem offered_nonneg {card : DrmCard} {res : DrmModeRes} {fd : Int}
    (hoffered : card.offered = some (res, fd)) : 0 ≤ fd := by
  unfold DrmCard.offered at hoffered
  split at hoffered
  · cases hoffered
  · rename_i husable
    obtain ⟨kept, -, hkept⟩ := Option.map_eq_some_iff.mp hoffered
    cases hkept
    omega

theorem offeredCard_nonneg {outcome : DrmOutcome} {res : DrmModeRes} {fd : Int}
    (hoffered : outcome.offeredCard = some (res, fd)) : 0 ≤ fd := by
  obtain ⟨i, -, hcard⟩ := List.exists_of_findSome?_eq_some hoffered
  exact offered_nonneg hcard

theorem searchMainConnector_fst (outcome : DrmOutcome) (res : DrmModeRes) (types : List Nat) :
    (searchMainConnector res outcome.connectorsByType types).1 = outcome.offeredMain res types := by
  unfold DrmOutcome.offeredMain
  induction types with
  | nil => rfl
  | cons type rest ih =>
      have hfound : (getConnectorByType res (outcome.connectorsByType type) type).1 =
          acceptedConnector (fun conn => conn.connectorType = type && isConnected conn)
            (outcome.connectorsByType type) (List.range res.countConnectors) :=
        searchConnector_fst _ _ _
      rw [searchMainConnector, List.findSome?_cons, ← hfound]
      cases hconn : (getConnectorByType res (outcome.connectorsByType type) type).1 with
      | none => simp [ih]
      | some conn => simp

theorem searchMainConnector_replay (outcome : DrmOutcome) (res : DrmModeRes) (types : List Nat)
    (held : List DrmResource) :
    replay held (searchMainConnector res outcome.connectorsByType types).2 =
      some (heldConnector (outcome.offeredMain res types) ++ held) := by
  rw [← searchMainConnector_fst]
  induction types with
  | nil => rfl
  | cons type rest ih =>
      have hreplay : ∀ held, replay held (getConnectorByType res (outcome.connectorsByType type) type).2 =
          some (heldConnector (getConnectorByType res (outcome.connectorsByType type) type).1 ++ held) :=
        searchConnector_replay _ _ _
      rw [searchMainConnector]
      cases hconn : (getConnectorByType res (outcome.connectorsByType type) type).1 with
      | none =>
          rw [hconn] at hreplay
          simp [replay_append, hreplay, heldConnector, ih]
      | some conn =>
          rw [hconn] at hreplay
          simp [hreplay]

theorem getConnector_fst (outcome : DrmOutcome) (res : DrmModeRes) :
    (getConnector outcome res).1 =
      (outcome.offeredConnector res).map fun conn => (conn, preferredMode conn) := by
  have hmain := searchMainConnector_fst outcome res mainConnector
  have hfirst := getFirstConnector_fst res outcome.connectors
  unfold getConnector DrmOutcome.offeredConnector
  cases hconn : outcome.offeredMain res mainConnector with
  | none =>
      rw [hconn] at hmain
      simp [hmain, hfirst]
  | some conn =>
      rw [hconn] at hmain
      simp [hmain]

theorem getConnector_replay (outcome : DrmOutcome) (res : DrmModeRes) (held : List DrmResource) :
    replay held (getConnector outcome res).2 =
      some (heldConnector (outcome.offeredConnector res) ++ held) := by
  have hmain := searchMainConnector_fst outcome res mainConnector
  have hmainReplay := searchMainConnector_replay outcome res mainConnector
  have hfirst := getFirstConnector_fst res outcome.connectors
  have hfirstReplay := getFirstConnector_replay res outcome.connectors
  unfold getConnector DrmOutcome.offeredConnector
  cases hconn : outcome.offeredMain res mainConnector with
  | none =>
      rw [hconn] at hmain hmainReplay
      rw [hfirst] at hfirstReplay
      simp [hmain, replay_append, hmainReplay, hfirstReplay, heldConnector]
  | some conn =>
      rw [hconn] at hmain hmainReplay
      simp [hmain, hmainReplay]

theorem askCrtc_replay (answer : Option Nat) (held : List DrmResource) :
    replay held (askCrtc answer).2 = some (heldCrtc answer ++ held) := by
  cases answer <;> rfl

theorem askCrtc_fst (answer : Option Nat) : (askCrtc answer).1 = answer := by
  cases answer <;> rfl

theorem searchEncoder_fst (outcome : DrmOutcome) (res : DrmModeRes) (indices : List Nat) :
    (searchEncoder outcome res indices).1 =
      (outcome.offeredEncoder res indices).bind fun found => outcome.crtcs found.1 found.2 := by
  unfold DrmOutcome.offeredEncoder
  induction indices with
  | nil => rfl
  | cons i rest ih =>
      rw [searchEncoder, List.findSome?_cons]
      cases hencoder : outcome.encoders i with
      | none => simp [ih]
      | some encoder =>
          cases hcrtc : possibleCrtc res encoder with
          | none => simp [hcrtc, ih]
          | some j => simp [hcrtc, askCrtc_fst]

theorem searchEncoder_replay (outcome : DrmOutcome) (res : DrmModeRes) (indices : List Nat)
    (held : List DrmResource) :
    replay held (searchEncoder outcome res indices).2 =
      some (heldCrtc (searchEncoder outcome res indices).1 ++ held) := by
  induction indices with
  | nil => rfl
  | cons i rest ih =>
      rw [searchEncoder]
      cases hencoder : outcome.encoders i with
      | none => simp [ih]
      | some encoder =>
          cases hcrtc : possibleCrtc res encoder with
          | none => simp [hcrtc, replay, ih]
          | some j => simp [hcrtc, replay, askCrtc_fst, askCrtc_replay]

theorem getCrtc_fst (outcome : DrmOutcome) (res : DrmModeRes) (conn : DrmModeConnector) :
    (getCrtc outcome res conn).1 = outcome.offeredCrtc res conn := by
  unfold getCrtc DrmOutcome.offeredCrtc
  dsimp only
  cases hcurrent : (if conn.encoderId ≠ 0 then outcome.currentEncoder else none) with
  | none => simp [searchEncoder_fst]
  | some encoder =>
      by_cases hcrtc : encoder.crtcId ≠ 0
      · simp [hcrtc, askCrtc_fst]
      · simp [hcrtc, searchEncoder_fst]

theorem getCrtc_replay (outcome : DrmOutcome) (res : DrmModeRes) (conn : DrmModeConnector)
    (held : List DrmResource) :
    replay held (getCrtc outcome res conn).2 =
      some (heldCrtc (outcome.offeredCrtc res conn) ++ held) := by
  rw [← getCrtc_fst]
  unfold getCrtc
  dsimp only
  cases hcurrent : (if conn.encoderId ≠ 0 then outcome.currentEncoder else none) with
  | none => exact searchEncoder_replay outcome res _ held
  | some encoder =>
      by_cases hcrtc : encoder.crtcId ≠ 0
      · simp [hcrtc, replay, askCrtc_fst, askCrtc_replay]
      · simp [hcrtc, replay, searchEncoder_replay]

theorem fillBuffer_replay {address length : Nat} {held : List DrmResource}
    (hmem : .Mapping address length ∈ held) (size rounds i : Nat) :
    replay held (fillBuffer address length size rounds i) = some held := by
  induction rounds generalizing i with
  | zero => rfl
  | succ rounds ih =>
      unfold fillBuffer
      split
      · rw [replay, if_pos hmem, ih]
      · rfl

theorem modesetCreateFb_replay (outcome : DrmOutcome) (bo : BufferObject) (held : List DrmResource) :
    replay held (modesetCreateFb outcome bo).2 = some (outcome.heldBuffer ++ held) := by
  unfold modesetCreateFb DrmOutcome.heldBuffer
  cases hfb : outcome.addFb with
  | none => cases outcome.createDumb <;> rfl
  | some fbId =>
      cases hmap : outcome.mmap with
      | none => cases outcome.createDumb <;> rfl
      | some address =>
          cases hdumb : outcome.createDumb with
          | none => simp [replay, fillBuffer_replay]
          | some dumb => simp [replay, fillBuffer_replay]

end Searches

-- Every stage of `DrmInit` before `mmap` succeeds.
structure DrmOutcome.Tries (outcome : DrmOutcome) (res : DrmModeRes) (fd : Int)
    (conn : DrmModeConnector) (crtc fbId : Nat) : Prop where
  offeredCard : outcome.offeredCard = some (res, fd)
  offeredConnector : outcome.offeredConnector res = some conn
  offeredCrtc : outcome.offeredCrtc res conn = some crtc
  addFb : outcome.addFb = some fbId

-- What the buffer then remembers.
structure BufferObject.Created (bo : BufferObject) (outcome : DrmOutcome) (fbId : Nat) : Prop where
  fbId_eq : bo.fbId = fbId
  handle_eq : bo.handle = (outcome.createDumb.getD {}).handle
  size_eq : bo.size = (outcome.createDumb.getD {}).size % 4294967296
  vaddr_eq : bo.vaddr = (outcome.mmap.map Vaddr.At).getD .MapFailed

theorem modesetCreateFb_created {outcome : DrmOutcome} {fbId : Nat} (hfb : outcome.addFb = some fbId)
    (bo : BufferObject) : (modesetCreateFb outcome bo).1.Created outcome fbId := by
  unfold modesetCreateFb
  rw [hfb]
  cases hmap : outcome.mmap with
  | none => exact ⟨rfl, rfl, rfl, by rw [hmap]; rfl⟩
  | some address => exact ⟨rfl, rfl, rfl, by rw [hmap]; rfl⟩

theorem modesetCreateFb_vaddr {outcome : DrmOutcome} (hfb : outcome.addFb = none) (bo : BufferObject) :
    (modesetCreateFb outcome bo).1.vaddr = bo.vaddr := by
  unfold modesetCreateFb
  rw [hfb]

theorem not_mem_heldBuffer {outcome : DrmOutcome} (hfb : outcome.addFb = none) (address length : Nat) :
    .Mapping address length ∉ outcome.heldBuffer := by
  simp [DrmOutcome.heldBuffer, hfb]

namespace DrmDriver

-- The driver after such an attempt.
structure Tried (driver : DrmDriver) (outcome : DrmOutcome) (res : DrmModeRes) (fd : Int)
    (conn : DrmModeConnector) (crtc fbId : Nat) : Prop where
  tries : outcome.Tries res fd conn crtc fbId
  fd_eq : driver.fd = fd
  res_eq : driver.res = some res
  conn_eq : driver.conn = some conn
  crtc_eq : driver.crtc = some crtc
  created : driver.buff.Created outcome fbId

-- The resources that are held when `DrmInit` returns.
inductive Started (outcome : DrmOutcome) (driver : DrmDriver) : List DrmResource → Prop
  | Early {held : List DrmResource} (hvaddr : driver.buff.vaddr = .At 0)
      (hunmapped : ∀ address length, .Mapping address length ∉ held)
      (hfails : ∀ res fd conn crtc fbId, ¬outcome.Tries res fd conn crtc fbId) :
      Started outcome driver held
  | Late {res : DrmModeRes} {fd : Int} {conn : DrmModeConnector} {crtc fbId : Nat}
      (htried : driver.Tried outcome res fd conn crtc fbId) :
      Started outcome driver (outcome.heldOnceTried res fd conn crtc)

theorem drmInit_spec (outcome : DrmOutcome) :
    ∃ held, replay [] (({} : DrmDriver).drmInit outcome).2.2 = some held ∧
      Started outcome (({} : DrmDriver).drmInit outcome).1 held := by
  obtain ⟨hres, hfd⟩ := getResources_eq outcome.cards (List.range outcome.maxMinor)
  have hopened := getResources_replay outcome.cards (-1) (List.range outcome.maxMinor) []
  unfold drmInit
  dsimp only
  cases hcard : outcome.offeredCard with
  | none =>
      have hnone := hcard
      unfold DrmOutcome.offeredCard at hnone
      rw [hnone] at hres hfd hopened
      rw [hfd, if_pos (by decide)]
      refine ⟨[], hopened, .Early rfl (by simp) ?_⟩
      rintro res fd conn crtc fbId ⟨hsome, -, -, -⟩
      rw [hcard] at hsome
      cases hsome
  | some opened =>
      obtain ⟨res, fd⟩ := opened
      have hnonneg : 0 ≤ fd := offeredCard_nonneg hcard
      have hsome := hcard
      unfold DrmOutcome.offeredCard at hsome
      rw [hsome] at hres hfd hopened
      have hopen : ¬(getResources outcome.cards (-1) (List.range outcome.maxMinor)).2.1 < 0 := by
        rw [hfd]
        exact Int.not_lt.mpr hnonneg
      have hconnector := getConnector_fst outcome res
      have hconnected := getConnector_replay outcome res
      rw [if_neg hopen, hres]
      cases hconn : outcome.offeredConnector res with
      | none =>
          rw [hconn] at hconnector hconnected
          simp only [Option.map_some, hconnector, Option.map_none]
          refine ⟨[.Resources res.pointer, .FileDescriptor fd], ?_, .Early rfl (by simp) ?_⟩
          · rw [replay_append, hopened, Option.bind_some, hconnected]
            rfl
          · rintro res' fd' conn crtc fbId ⟨hcard', hconn', -, -⟩
            cases hcard.symm.trans hcard'
            cases hconn.symm.trans hconn'
      | some conn =>
          have hencoder := getCrtc_fst outcome res conn
          have hencoded := getCrtc_replay outcome res conn
          rw [hconn] at hconnector hconnected
          simp only [Option.map_some, hconnector]
          cases hcrtc : outcome.offeredCrtc res conn with
          | none =>
              rw [hcrtc] at hencoder hencoded
              simp only [hencoder]
              refine ⟨[.Connector conn.pointer, .Resources res.pointer, .FileDescriptor fd], ?_,
                .Early rfl (by simp) ?_⟩
              · rw [replay_append, replay_append, hopened, Option.bind_some, hconnected,
                  Option.bind_some, hencoded]
                rfl
              · rintro res' fd' conn' crtc fbId ⟨hcard', hconn', hcrtc', -⟩
                cases hcard.symm.trans hcard'
                cases hconn.symm.trans hconn'
                cases hcrtc.symm.trans hcrtc'
          | some crtc =>
              rw [hcrtc] at hencoder hencoded
              simp only [hencoder]
              refine ⟨outcome.heldOnceTried res fd conn crtc, ?_, ?_⟩
              · rw [replay_append, replay_append, replay_append, hopened, Option.bind_some, hconnected,
                  Option.bind_some, hencoded, Option.bind_some, modesetCreateFb_replay]
                rfl
              · cases hfb : outcome.addFb with
                | none =>
                    refine .Early (modesetCreateFb_vaddr hfb _) ?_ ?_
                    · intro address length hmem
                      rcases List.mem_append.mp hmem with hmem | hmem
                      · exact not_mem_heldBuffer hfb address length hmem
                      · simp at hmem
                    · rintro res' fd' conn' crtc' fbId ⟨-, -, -, hfb'⟩
                      cases hfb.symm.trans hfb'
                | some fbId =>
                    exact .Late ⟨⟨hcard, hconn, hcrtc, hfb⟩, hfd, rfl, rfl, rfl, modesetCreateFb_created hfb _⟩

end DrmDriver

end BatteryManager.Charger
