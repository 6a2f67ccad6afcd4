import BatteryManager.Charger.DrmDriver.Lemmas

namespace BatteryManager.Charger

open Library

-- The calls of `DrmInit` succeed but for `mmap`, which may fail, and what they
-- give can be told from what was never acquired.
def DrmOutcome.Complete (outcome : DrmOutcome) : Prop :=
  ∃ res fd conn crtc fbId dumb, outcome.Tries res fd conn crtc fbId ∧ 0 < fd ∧ fbId ≠ 0 ∧
    outcome.createDumb = some dumb ∧ (outcome.mmap = none ∨ dumb.size < 4294967296)

namespace DrmDriver

variable {outcome : DrmOutcome} {driver : DrmDriver}

-- A trace that only writes to the mapping of the driver.
def OnlyWrites (driver : DrmDriver) (trace : DrmTrace) : Prop :=
  ∀ use ∈ trace, ∃ address, driver.buff.vaddr = .At address ∧
    use = .Write (.Mapping address driver.buff.size)

theorem OnlyWrites.acquire_not_mem {trace : DrmTrace} (honly : driver.OnlyWrites trace)
    (resource : DrmResource) : .Acquire resource ∉ trace := by
  intro hmem
  obtain ⟨address, -, huse⟩ := honly _ hmem
  cases huse

theorem OnlyWrites.count_release {trace : DrmTrace} (honly : driver.OnlyWrites trace)
    (resource : DrmResource) : trace.count (.Release resource) = 0 := by
  refine List.count_eq_zero.mpr ?_
  intro hmem
  obtain ⟨address, -, huse⟩ := honly _ hmem
  cases huse

theorem OnlyWrites.append {first second : DrmTrace} (hfirst : driver.OnlyWrites first)
    (hsecond : driver.OnlyWrites second) : driver.OnlyWrites (first ++ second) := by
  intro use huse
  rcases List.mem_append.mp huse with hmem | hmem
  · exact hfirst use hmem
  · exact hsecond use hmem

theorem onlyWrites_nil : driver.OnlyWrites [] := by
  intro use huse
  cases huse

theorem onlyWrites_flip (source : Bool) : driver.OnlyWrites (driver.flip source) := by
  intro use huse
  unfold flip at huse
  split at huse
  · cases huse
  · rename_i address hvaddr
    split at huse
    · exact ⟨address, hvaddr, List.mem_singleton.mp huse⟩
    · cases huse

-- What a call can do once `Init` has run.
theorem call_cases (outcome : DrmOutcome) (hinit : driver.initResult.isSome = true) (label : DrmCall) :
    (label ≠ .Exit ∧ ∃ writes, driver.call outcome label = (driver, writes) ∧ driver.OnlyWrites writes) ∨
      (label = .Exit ∧ driver.call outcome label = driver.modesetDestroyFb) := by
  cases label with
  | Init =>
      obtain ⟨result, hresult⟩ := Option.isSome_iff_exists.mp hinit
      refine .inl ⟨nofun, [], ?_, onlyWrites_nil⟩
      rw [call, init, hresult]
  | Flip source => exact .inl ⟨nofun, driver.flip source, rfl, onlyWrites_flip source⟩
  | Exit => exact .inr ⟨rfl, rfl⟩

theorem lifetime_cons (outcome : DrmOutcome) (driver : DrmDriver) (label : DrmCall)
    (rest : List DrmCall) :
    driver.lifetime outcome (label :: rest) =
      (driver.call outcome label).2 ++ (driver.call outcome label).1.lifetime outcome rest := rfl

-- After the first `Init` nothing is acquired any more.
theorem lifetime_no_acquire (hinit : driver.initResult.isSome = true) (calls : List DrmCall)
    (resource : DrmResource) : .Acquire resource ∉ driver.lifetime outcome calls := by
  induction calls generalizing driver with
  | nil => simp [lifetime, modesetDestroyFb]
  | cons label rest ih =>
      rw [lifetime_cons]
      intro hmem
      rcases call_cases outcome hinit label with ⟨-, writes, hcall, honly⟩ | ⟨-, hcall⟩
      · rw [hcall] at hmem
        rcases List.mem_append.mp hmem with hwrites | hrest
        · exact honly.acquire_not_mem resource hwrites
        · exact ih hinit hrest
      · rw [hcall] at hmem
        rcases List.mem_append.mp hmem with hexit | hrest
        · simp [modesetDestroyFb] at hexit
        · have hkept : driver.modesetDestroyFb.1.initResult.isSome = true := hinit
          exact ih hkept hrest

theorem released_mapping {address : Nat} (hvaddr : driver.buff.vaddr = .At address) :
    .Mapping address driver.buff.size ∈ driver.released := by
  simp [released, hvaddr]

-- A mapping is given back, whether there is one or not.
theorem lifetime_mapping (outcome : DrmOutcome) (hinit : driver.initResult.isSome = true) {address : Nat}
    (hvaddr : driver.buff.vaddr = .At address) (calls : List DrmCall) :
    .Release (.Mapping address driver.buff.size) ∈ driver.lifetime outcome calls := by
  have hdestroyed : .Release (.Mapping address driver.buff.size) ∈ driver.modesetDestroyFb.2 :=
    List.mem_map.mpr ⟨_, released_mapping hvaddr, rfl⟩
  induction calls with
  | nil => exact hdestroyed
  | cons label rest ih =>
      rw [lifetime_cons]
      rcases call_cases outcome hinit label with ⟨-, writes, hcall, -⟩ | ⟨-, hcall⟩
      · rw [hcall]
        exact List.mem_append_right writes ih
      · rw [hcall]
        exact List.mem_append_left _ hdestroyed

theorem count_map_release (resources : List DrmResource) (resource : DrmResource) :
    (resources.map Use.Release).count (.Release resource) = resources.count resource :=
  List.count_map_of_injective resources _ (fun _ _ hsame => Use.Release.inj hsame) resource

theorem destroyed_count_crtc {crtc : Nat} (hcrtc : driver.crtc = some crtc) :
    driver.modesetDestroyFb.2.count (.Release (.Crtc crtc)) = 1 := by
  rw [modesetDestroyFb, count_map_release, released, hcrtc]
  cases driver.buff.vaddr <;> cases driver.conn <;> cases driver.res <;> split_ifs <;> simp

-- The crtc is given back by every `Exit` and again by the destructor.
theorem lifetime_count_crtc (hinit : driver.initResult.isSome = true) {crtc : Nat}
    (hcrtc : driver.crtc = some crtc) (calls : List DrmCall) :
    (driver.lifetime outcome calls).count (.Release (.Crtc crtc)) = calls.count .Exit + 1 := by
  induction calls generalizing driver with
  | nil => exact destroyed_count_crtc hcrtc
  | cons label rest ih =>
      rw [lifetime_cons, List.count_append]
      rcases call_cases outcome hinit label with ⟨hlabel, writes, hcall, honly⟩ | ⟨rfl, hcall⟩
      · rw [hcall, honly.count_release, ih hinit hcrtc, List.count_cons_of_ne hlabel]
        omega
      · have hrest : (driver.modesetDestroyFb.1.lifetime outcome rest).count (.Release (.Crtc crtc)) =
            rest.count .Exit + 1 := ih hinit hcrtc
        rw [hcall, destroyed_count_crtc hcrtc, hrest, List.count_cons_self]
        omega

-- Without `Exit` everything is given back at the end.
theorem lifetime_of_no_exit (outcome : DrmOutcome) (hinit : driver.initResult.isSome = true)
    {calls : List DrmCall} (hcalls : .Exit ∉ calls) :
    ∃ writes, driver.lifetime outcome calls = writes ++ driver.released.map .Release ∧
      driver.OnlyWrites writes := by
  induction calls with
  | nil => exact ⟨[], rfl, onlyWrites_nil⟩
  | cons label rest ih =>
      obtain ⟨later, hrest, hlater⟩ := ih fun hmem => hcalls (List.mem_cons_of_mem _ hmem)
      rcases call_cases outcome hinit label with ⟨-, writes, hcall, honly⟩ | ⟨rfl, -⟩
      · refine ⟨writes ++ later, ?_, honly.append hlater⟩
        rw [lifetime_cons, hcall, hrest, List.append_assoc]
      · exact absurd List.mem_cons_self hcalls

section Tried

variable {res : DrmModeRes} {fd : Int} {conn : DrmModeConnector} {crtc fbId : Nat}

-- What the driver gives back after `mmap` was tried.
theorem Tried.released_eq (htried : driver.Tried outcome res fd conn crtc fbId) :
    driver.released =
      (if fd > 0 ∧ fbId ≠ 0 then [.Framebuffer fbId] else []) ++
        (outcome.mmap.toList.map fun address =>
          .Mapping address ((outcome.createDumb.getD {}).size % 4294967296)) ++
        (if fd > 0 then [.DumbBuffer (outcome.createDumb.getD {}).handle] else []) ++
        [.Crtc crtc] ++ [.Connector conn.pointer] ++ [.Resources res.pointer] ++
        (if fd > 0 then [.FileDescriptor fd] else []) := by
  unfold released
  rw [htried.fd_eq, htried.res_eq, htried.conn_eq, htried.crtc_eq, htried.created.fbId_eq,
    htried.created.handle_eq, htried.created.size_eq, htried.created.vaddr_eq]
  cases outcome.mmap <;> rfl

theorem Tried.perm_released (htried : driver.Tried outcome res fd conn crtc fbId)
    (hcomplete : outcome.Complete) :
    (outcome.heldOnceTried res fd conn crtc).Perm driver.released := by
  obtain ⟨res', fd', conn', crtc', fbId', dumb, htries, hpos, hne, hdumb, hfits⟩ := hcomplete
  cases htried.tries.offeredCard.symm.trans htries.offeredCard
  cases htried.tries.addFb.symm.trans htries.addFb
  refine List.perm_iff_count.mpr ?_
  intro resource
  rw [htried.released_eq, DrmOutcome.heldOnceTried, DrmOutcome.heldBuffer, hdumb, htried.tries.addFb,
    if_pos ⟨hpos, hne⟩, if_pos hpos, if_pos hpos]
  cases hmap : outcome.mmap with
  | none =>
      simp only [Option.toList_some, Option.toList_none, Option.getD_some, List.flatMap_cons,
        List.flatMap_nil, List.map_cons, List.map_nil, List.count_append, List.count_cons, List.count_nil]
      omega
  | some address =>
      have hlength : dumb.size % 4294967296 = dumb.size := by
        rcases hfits with hfails | hfits
        · cases hmap.symm.trans hfails
        · exact Nat.mod_eq_of_lt hfits
      simp only [Option.toList_some, Option.getD_some, hlength, List.flatMap_cons, List.flatMap_nil,
        List.map_cons, List.map_nil, List.count_append, List.count_cons, List.count_nil]
      omega

-- What is held has to be what the driver gives back.
theorem Tried.complete (htried : driver.Tried outcome res fd conn crtc fbId)
    (hmem : ∀ resource, resource ∈ outcome.heldOnceTried res fd conn crtc ↔ resource ∈ driver.released) :
    outcome.Complete := by
  have hreleased := htried.released_eq
  have hpos : 0 < fd := by
    have hfd := (hmem (.FileDescriptor fd)).mp (by simp [DrmOutcome.heldOnceTried])
    rw [hreleased] at hfd
    simpa using hfd
  have hne : fbId ≠ 0 := by
    have hfb := (hmem (.Framebuffer fbId)).mp
      (by simp [DrmOutcome.heldOnceTried, DrmOutcome.heldBuffer, htried.tries.addFb])
    rw [hreleased] at hfb
    simpa [hpos] using hfb
  -- the handle is given back in any case
  obtain ⟨dumb, hdumb⟩ : ∃ dumb, outcome.createDumb = some dumb := by
    have hhandle := (hmem (.DumbBuffer (outcome.createDumb.getD {}).handle)).mpr
      (by simp [hreleased, hpos])
    cases hdumb : outcome.createDumb with
    | none => simp [DrmOutcome.heldOnceTried, DrmOutcome.heldBuffer, hdumb] at hhandle
    | some dumb => exact ⟨dumb, rfl⟩
  refine ⟨res, fd, conn, crtc, fbId, dumb, htried.tries, hpos, hne, hdumb, ?_⟩
  cases hmap : outcome.mmap with
  | none => exact .inl rfl
  | some address =>
      have hmapping := (hmem (.Mapping address dumb.size)).mp
        (by simp [DrmOutcome.heldOnceTried, DrmOutcome.heldBuffer, htried.tries.addFb, hmap, hdumb])
      rw [hreleased] at hmapping
      have hlength : dumb.size = dumb.size % 4294967296 := by simpa [hmap, hdumb] using hmapping
      right
      omega

end Tried

theorem heldOnceTried_count_crtc (res : DrmModeRes) (fd : Int) (conn : DrmModeConnector) (crtc : Nat) :
    (outcome.heldOnceTried res fd conn crtc).count (.Crtc crtc) = 1 := by
  have hbuffer : .Crtc crtc ∉ outcome.heldBuffer := by simp [DrmOutcome.heldBuffer]
  rw [DrmOutcome.heldOnceTried, List.count_append, List.count_eq_zero.mpr hbuffer]
  simp

-- Every resource is given back once by the calls after `DrmInit` and the
-- destructor just when it is given back by the destructor.
theorem releasedOnce_iff_of_started {held : List DrmResource} {trace : DrmTrace}
    (hstarted : driver.Started outcome held) (hreplay : replay [] trace = some held)
    (hinit : driver.initResult.isSome = true) (calls : List DrmCall) :
    ReleasedOnce (trace ++ driver.lifetime outcome calls) ↔ .Exit ∉ calls ∧ outcome.Complete := by
  have hcounts : ReleasedOnce (trace ++ driver.lifetime outcome calls) → ∀ resource,
      (driver.lifetime outcome calls).count (.Release resource) = held.count resource :=
    fun honce resource => honce.count_release hreplay (lifetime_no_acquire hinit calls resource)
  cases hstarted with
  | Early hvaddr hunmapped hfails =>
      constructor
      · intro honce
        have hmapping := List.count_pos_iff.mpr (lifetime_mapping outcome hinit hvaddr calls)
        rw [hcounts honce] at hmapping
        exact absurd (List.count_pos_iff.mp hmapping) (hunmapped 0 driver.buff.size)
      · rintro ⟨-, res, fd, conn, crtc, fbId, dumb, htries, -⟩
        exact absurd htries (hfails res fd conn crtc fbId)
  | @Late res fd conn crtc fbId htried =>
      constructor
      · intro honce
        have hcalls : .Exit ∉ calls := by
          have hcrtc := hcounts honce (.Crtc crtc)
          rw [lifetime_count_crtc hinit htried.crtc_eq, heldOnceTried_count_crtc] at hcrtc
          refine List.count_eq_zero.mp ?_
          omega
        obtain ⟨writes, hlifetime, hwrites⟩ := lifetime_of_no_exit outcome hinit hcalls
        refine ⟨hcalls, htried.complete ?_⟩
        intro resource
        have hcount := hcounts honce resource
        rw [hlifetime, List.count_append, hwrites.count_release, count_map_release, Nat.zero_add] at hcount
        rw [← List.count_pos_iff, ← List.count_pos_iff, hcount]
      · rintro ⟨hcalls, hcomplete⟩
        obtain ⟨writes, hlifetime, hwrites⟩ := lifetime_of_no_exit outcome hinit hcalls
        have hperm := htried.perm_released hcomplete
        refine releasedOnce_of_replay ?_
        rw [hlifetime, replay_append, hreplay, Option.bind_some, replay_append, replay_write,
          Option.bind_some, replay_release hperm]
        intro use huse
        obtain ⟨address, hvaddr, hwrite⟩ := hwrites use huse
        exact ⟨_, hperm.mem_iff.mpr (released_mapping hvaddr), hwrite⟩

theorem flip_new (source : Bool) : ({} : DrmDriver).flip source = [] := by
  simp [flip, memcpyCopies]

theorem Started.init {held : List DrmResource} (hstarted : driver.Started outcome held)
    (result : Bool) : { driver with initResult := some result }.Started outcome held := by
  cases hstarted with
  | Early hvaddr hunmapped hfails => exact .Early hvaddr hunmapped hfails
  | Late htried =>
      exact .Late ⟨htried.tries, htried.fd_eq, htried.res_eq, htried.conn_eq, htried.crtc_eq, htried.created⟩

-- The calls before the first `Init` can only be `Flip`, for a new driver gives
-- back a mapping at a null pointer.
theorem lifetime_releasedOnce_iff (outcome : DrmOutcome) (calls : List DrmCall) :
    ReleasedOnce (({} : DrmDriver).lifetime outcome calls) ↔
      .Init ∈ calls ∧ .Exit ∉ calls ∧ outcome.Complete := by
  induction calls with
  | nil =>
      have hdestroyed : ({} : DrmDriver).lifetime outcome [] = [.Release (.Mapping 0 0)] := rfl
      rw [hdestroyed]
      simp [not_releasedOnce_release]
  | cons label rest ih =>
      cases label with
      | Init =>
          obtain ⟨held, hreplay, hstarted⟩ := drmInit_spec outcome
          have hinit := hstarted.init (({} : DrmDriver).drmInit outcome).2.1
          have hiff := releasedOnce_iff_of_started hinit hreplay rfl rest
          have hcall : ({} : DrmDriver).call outcome .Init =
              ({ (({} : DrmDriver).drmInit outcome).1 with
                initResult := some (({} : DrmDriver).drmInit outcome).2.1 },
                (({} : DrmDriver).drmInit outcome).2.2) := rfl
          rw [lifetime_cons, hcall, hiff]
          simp
      | Flip source =>
          rw [lifetime_cons, call, flip_new, List.nil_append, ih]
          simp
      | Exit =>
          have hdestroyed : ({} : DrmDriver).lifetime outcome (.Exit :: rest) =
              .Release (.Mapping 0 0) :: ({} : DrmDriver).exit.1.lifetime outcome rest := rfl
          rw [hdestroyed]
          simp [not_releasedOnce_release]

def workingConnector : DrmModeConnector where
  pointer := 200
  encoderId := 2
  countEncoders := 1
  connectorType := DRM_MODE_CONNECTOR_DSI
  connection := DRM_MODE_CONNECTED
  modes := [{ type := DRM_MODE_TYPE_PREFERRED, hdisplay := 2, vdisplay := 2 }]

-- One device on which every call succeeds.
def workingOutcome : DrmOutcome where
  maxMinor := 1
  cards _ :=
    { tmpFd := 5
      cap := some 1
      resources := some { pointer := 100, countCrtcs := 1, countConnectors := 1, countEncoders := 1 }
      connectors _ := some workingConnector }
  connectorsByType _ _ := none
  connectors _ := some workingConnector
  currentEncoder := some { pointer := 300, crtcId := 7, possibleCrtcs := 1 }
  currentCrtc := some 400
  encoders _ := none
  crtcs _ _ := none
  createDumb := some { handle := 1, pitch := 8, size := 16 }
  addFb := some 9
  mmap := some 4096

-- `Exit` and then the destructor free the crtc twice.
theorem lifetime_not_releasedOnce :
    ¬ReleasedOnce (({} : DrmDriver).lifetime workingOutcome [.Init, .Exit]) := by
  intro honce
  exact absurd (honce.balanced (.Crtc 400)) (by decide)

end DrmDriver

end BatteryManager.Charger
