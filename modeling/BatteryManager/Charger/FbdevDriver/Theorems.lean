import BatteryManager.Charger.FbdevDriver

namespace BatteryManager.Charger

open Library

-- What `Init` maps when all of its calls succeed: the address, and the two
-- lengths that the kernel tells.
def FbOutcome.Maps (outcome : FbOutcome) (address : Nat) (finfo : FbFixScreeninfo)
    (vinfo : FbVarScreeninfo) : Prop :=
  outcome.devPath ≠ "" ∧ 0 ≤ outcome.fd ∧ outcome.finfo = some finfo ∧ outcome.vinfo = some vinfo ∧
    outcome.mmap = some address

-- The frame takes up the pages of the frame buffer memory, no more and no less.
def FbOutcome.Matches (outcome : FbOutcome) : Prop :=
  ∀ address finfo vinfo, outcome.Maps address finfo vinfo →
    pagesOf (finfo.lineLength * vinfo.yres).toNat = pagesOf finfo.smemLen.toNat

def FbOutcome.FitsIn (outcome : FbOutcome) : Prop :=
  ∀ address finfo vinfo, outcome.Maps address finfo vinfo →
    pagesOf (finfo.lineLength * vinfo.yres).toNat ≤ pagesOf finfo.smemLen.toNat

theorem pageRange_append (address : Nat) {first second : Nat} (hle : pagesOf first ≤ pagesOf second) :
    ∃ rest, pageRange address second = pageRange address first ++ rest := by
  refine ⟨(List.range' (address / PAGE_SIZE + pagesOf first) (pagesOf second - pagesOf first)).map .Page, ?_⟩
  unfold pageRange
  rw [← List.map_append, List.range'_append_1, Nat.add_sub_cancel' hle]

namespace FbdevDriver

variable {outcome : FbOutcome} {driver : FbdevDriver}

-- A trace that only writes, and only to what is given back later.
def OnlyWrites (driver : FbdevDriver) (trace : FbTrace) : Prop :=
  ∀ use ∈ trace, ∃ resource ∈ driver.released, use = .Write resource

theorem OnlyWrites.append {first second : FbTrace} (hfirst : driver.OnlyWrites first)
    (hsecond : driver.OnlyWrites second) : driver.OnlyWrites (first ++ second) := by
  intro use huse
  rcases List.mem_append.mp huse with hmem | hmem
  · exact hfirst use hmem
  · exact hsecond use hmem

theorem onlyWrites_nil : driver.OnlyWrites [] := by
  intro use huse
  cases huse

theorem OnlyWrites.count_eq_zero {trace : FbTrace} (honly : driver.OnlyWrites trace)
    {use : Use FbResource} (huse : ∀ resource, use ≠ .Write resource) : trace.count use = 0 := by
  apply List.count_eq_zero.mpr
  intro hmem
  obtain ⟨resource, -, hwrite⟩ := honly use hmem
  exact huse resource hwrite

theorem onlyWrites_fbPowerContrl : driver.OnlyWrites (fbPowerContrl driver.fd) := by
  intro use huse
  unfold fbPowerContrl at huse
  split at huse
  · cases huse
  · exact ⟨.FileDescriptor driver.fd, by simp [released], List.mem_singleton.mp huse⟩

theorem onlyWrites_flip : driver.OnlyWrites driver.flip := by
  intro use huse
  unfold flip at huse
  split at huse
  · cases huse
  · rename_i address hvaddr
    split at huse
    · rcases List.mem_append.mp huse with hpage | hpan
      · obtain ⟨resource, hmem, rfl⟩ := List.mem_map.mp hpage
        exact ⟨resource, by simp [released, hvaddr, hmem], rfl⟩
      · exact ⟨.FileDescriptor driver.fd, by simp [released], List.mem_singleton.mp hpan⟩
    · cases huse

theorem onlyWrites_blank (hook : Bool) : driver.OnlyWrites (driver.blank hook) := by
  unfold blank
  cases hook with
  | false => exact onlyWrites_fbPowerContrl.append onlyWrites_nil
  | true => exact onlyWrites_fbPowerContrl.append onlyWrites_fbPowerContrl

theorem flip_closed (hclosed : driver.fd < 0) : driver.flip = [] := by
  have hcopies : driver.copies = false := by
    unfold copies
    split
    · rfl
    · simp only [Bool.and_eq_false_iff, decide_eq_false_iff_not]
      exact .inl (by omega)
  unfold flip
  split
  · rfl
  · rw [hcopies]
    rfl

-- Nothing is done once the driver is closed.
theorem remaining_closed (hclosed : driver.fd < 0) (calls : List FbCall) : driver.remaining calls = [] := by
  have hrelease : driver.releaseFb = (driver, []) := if_pos hclosed
  induction calls with
  | nil => rw [remaining, hrelease]
  | cons label rest ih =>
      have hcall : driver.call label = (driver, []) := by
        cases label with
        | Flip => rw [call, flip_closed hclosed]
        | Blank hook => simp [call, blank, fbPowerContrl, hclosed]
        | Exit => exact hrelease
      rw [remaining, hcall, ih]
      rfl

-- An open driver writes until the first `Exit`, or the destructor, gives
-- everything back.
theorem remaining_opened (hopened : 0 ≤ driver.fd) (calls : List FbCall) :
    ∃ writes, driver.remaining calls = writes ++ driver.released.map .Release ∧
      driver.OnlyWrites writes := by
  have hrelease : driver.releaseFb = ({ driver with fd := -1 }, driver.released.map .Release) :=
    if_neg (by omega)
  induction calls with
  | nil =>
      refine ⟨[], ?_, onlyWrites_nil⟩
      rw [remaining, hrelease, List.nil_append]
  | cons label rest ih =>
      obtain ⟨later, hrest, hlater⟩ := ih
      cases label with
      | Flip =>
          refine ⟨driver.flip ++ later, ?_, onlyWrites_flip.append hlater⟩
          rw [remaining, List.append_assoc, ← hrest]
          rfl
      | Blank hook =>
          refine ⟨driver.blank hook ++ later, ?_, (onlyWrites_blank hook).append hlater⟩
          rw [remaining, List.append_assoc, ← hrest]
          rfl
      | Exit =>
          refine ⟨[], ?_, onlyWrites_nil⟩
          have hclosed : remaining { driver with fd := -1 } rest = [] :=
            remaining_closed (show (-1 : Int) < 0 by decide) rest
          rw [remaining, call, exit, hrelease, hclosed, List.append_nil, List.nil_append]

-- `Init` either leaves the driver closed, with nothing held, or open, with the
-- whole frame buffer memory mapped.
theorem init_cases (outcome : FbOutcome) :
    (∃ closed trace, init outcome {} = (closed, false, trace) ∧ closed.fd < 0 ∧
      replay [] trace = some [] ∧ ∀ address finfo vinfo, ¬outcome.Maps address finfo vinfo) ∨
    ∃ opened trace address finfo vinfo, init outcome {} = (opened, true, trace) ∧
      outcome.Maps address finfo vinfo ∧ opened.fd = outcome.fd ∧ opened.buff.vaddr = .At address ∧
      opened.buff.size = finfo.lineLength * vinfo.yres ∧
      ∃ held, replay [] trace = some held ∧
        held.Perm (pageRange address finfo.smemLen.toNat ++ [.FileDescriptor outcome.fd]) := by
  have hnone : (-1 : Int) < 0 := by decide
  by_cases hpath : outcome.devPath = ""
  · refine .inl ⟨{}, [], by rw [init, if_pos hpath], hnone, rfl, fun _ _ _ hmaps => hmaps.1 hpath⟩
  by_cases hfd : outcome.fd < 0
  · refine .inl ⟨{}, [], by rw [init, if_neg hpath, if_pos hfd], hnone, rfl, fun _ _ _ hmaps => ?_⟩
    have hopen := hmaps.2.1
    omega
  have hpower : fbPowerContrl outcome.fd = [.Write (.FileDescriptor outcome.fd)] := if_neg hfd
  unfold init
  rw [if_neg hpath, if_neg hfd, hpower]
  cases hfinfo : outcome.finfo with
  | none =>
      refine .inl ⟨_, _, rfl, hnone, by simp [replay], fun _ _ _ hmaps => ?_⟩
      cases hfinfo.symm.trans hmaps.2.2.1
  | some finfo =>
      cases hvinfo : outcome.vinfo with
      | none =>
          refine .inl ⟨_, _, rfl, hnone, by simp [replay], fun _ _ _ hmaps => ?_⟩
          cases hvinfo.symm.trans hmaps.2.2.2.1
      | some vinfo =>
          cases hmmap : outcome.mmap with
          | none =>
              refine .inl ⟨_, _, rfl, hnone, by simp [replay], fun _ _ _ hmaps => ?_⟩
              cases hmmap.symm.trans hmaps.2.2.2.2
          | some address =>
              refine .inr ⟨_, _, address, finfo, vinfo, rfl, ?_, rfl, rfl, rfl, ?_⟩
              · exact ⟨hpath, Int.not_lt.mp hfd, hfinfo, hvinfo, hmmap⟩
              · have hpages := replay_acquire [.FileDescriptor outcome.fd]
                  (pageRange address finfo.smemLen.toNat)
                let held := (pageRange address finfo.smemLen.toNat).reverse ++ [.FileDescriptor outcome.fd]
                have hcleared : replay held (fillPages address finfo.smemLen.toNat) = some held := by
                  apply replay_write
                  intro use huse
                  unfold fillPages at huse
                  split at huse
                  · obtain ⟨page, hpage, rfl⟩ := List.mem_map.mp huse
                    exact ⟨page, List.mem_append_left _ (List.mem_reverse.mpr hpage), rfl⟩
                  · cases huse
                refine ⟨held, ?_, (List.reverse_perm _).append_right _⟩
                rw [replay_append, replay_append]
                simp [replay, hpages, hcleared, held]

-- The trace of an open driver: what `Init` acquires, the stores, and what is given
-- back once.
theorem lifetime_opened {opened : FbdevDriver} {trace : FbTrace}
    (hinit : init outcome {} = (opened, true, trace)) (hopened : 0 ≤ opened.fd) (calls : List FbCall) :
    ∃ writes, lifetime outcome calls = trace ++ (writes ++ opened.released.map .Release) ∧
      opened.OnlyWrites writes := by
  obtain ⟨writes, hremaining, honly⟩ := remaining_opened hopened calls
  refine ⟨writes, ?_, honly⟩
  rw [lifetime, hinit, hremaining]

theorem count_map_release (resources : List FbResource) (resource : FbResource) :
    (resources.map Use.Release).count (.Release resource) = resources.count resource :=
  List.count_map_of_injective resources _ (fun _ _ hsame => Use.Release.inj hsame) resource

-- With no page too few, nothing that is not held is written or given back.
theorem lifetime_replay (hfits : outcome.FitsIn) (calls : List FbCall) :
    ∃ held, replay [] (lifetime outcome calls) = some held ∧ (outcome.Matches → held = []) := by
  rcases init_cases outcome with ⟨closed, trace, hinit, hclosed, hreplay, -⟩ |
    ⟨opened, trace, address, finfo, vinfo, hinit, hmaps, hfd, hvaddr, hsize, held, hreplay, hheld⟩
  · refine ⟨[], ?_, fun _ => rfl⟩
    rw [lifetime, hinit]
    dsimp only
    rw [remaining_closed hclosed, List.append_nil, hreplay]
  · obtain ⟨rest, hrest⟩ := pageRange_append address (hfits address finfo vinfo hmaps)
    have hopened : 0 ≤ opened.fd := hfd ▸ hmaps.2.1
    obtain ⟨writes, htrace, honly⟩ := lifetime_opened hinit hopened calls
    have hreleased : opened.released =
        pageRange address (finfo.lineLength * vinfo.yres).toNat ++ [.FileDescriptor outcome.fd] := by
      unfold released
      rw [hvaddr, hsize, hfd]
    have hperm : held.Perm (opened.released ++ rest) := by
      rw [hreleased]
      rw [hrest] at hheld
      refine hheld.trans ?_
      rw [List.append_assoc, List.append_assoc]
      exact List.perm_append_comm.append_left _
    obtain ⟨last, hlast, hleft⟩ := replay_release_part hperm
    refine ⟨last, ?_, fun hmatches => ?_⟩
    · have hwrites : replay held writes = some held := by
        apply replay_write
        intro use huse
        obtain ⟨resource, hmem, rfl⟩ := honly use huse
        exact ⟨resource, hperm.mem_iff.mpr (List.mem_append_left _ hmem), rfl⟩
      rw [htrace, replay_append, hreplay, Option.bind_some, replay_append, hwrites, Option.bind_some, hlast]
    · have hlength := congrArg List.length hrest
      have hpages := hmatches address finfo vinfo hmaps
      simp only [pageRange, List.length_append, List.length_map, List.length_range'] at hlength
      have hempty : rest = [] := List.length_eq_zero_iff.mp (by omega)
      rw [hempty] at hleft
      exact hleft.eq_nil

end FbdevDriver

open FbdevDriver

theorem FbOutcome.Matches.fitsIn {outcome : FbOutcome} (hmatches : outcome.Matches) : outcome.FitsIn :=
  fun address finfo vinfo hmaps => Nat.le_of_eq (hmatches address finfo vinfo hmaps)

-- What is given back has to be what is mapped.
theorem matches_of_releasedOnce {outcome : FbOutcome} {calls : List FbCall}
    (honce : ReleasedOnce (lifetime outcome calls)) : outcome.Matches := by
  intro address finfo vinfo hmaps
  rcases init_cases outcome with ⟨closed, trace, hinit, hclosed, hreplay, hnone⟩ |
    ⟨opened, trace, mapped, fixed, varying, hinit, hother, hfd, hvaddr, hsize, held, hreplay, hheld⟩
  · exact absurd hmaps (hnone address finfo vinfo)
  · obtain rfl : fixed = finfo := Option.some.inj (hother.2.2.1.symm.trans hmaps.2.2.1)
    obtain rfl : varying = vinfo := Option.some.inj (hother.2.2.2.1.symm.trans hmaps.2.2.2.1)
    have hopened : 0 ≤ opened.fd := hfd ▸ hmaps.2.1
    obtain ⟨writes, htrace, honly⟩ := lifetime_opened hinit hopened calls
    rw [htrace] at honce
    have hcount : ∀ resource, opened.released.count resource = held.count resource := by
      intro resource
      have hnew : .Acquire resource ∉ writes ++ opened.released.map .Release := by
        intro hacquire
        rcases List.mem_append.mp hacquire with hwrites | hreleases
        · obtain ⟨other, -, hwrite⟩ := honly _ hwrites
          cases hwrite
        · obtain ⟨other, -, hrelease⟩ := List.mem_map.mp hreleases
          cases hrelease
      have hunreleased : writes.count (.Release resource) = 0 :=
        honly.count_eq_zero fun _ hsame => by cases hsame
      have hgiven := honce.count_release hreplay hnew
      rw [List.count_append, hunreleased, count_map_release, Nat.zero_add] at hgiven
      exact hgiven
    have hlength := ((List.perm_iff_count.mpr hcount).trans hheld).length_eq
    unfold released at hlength
    rw [hvaddr, hsize] at hlength
    simp only [pageRange, List.length_append, List.length_map, List.length_range',
      List.length_singleton] at hlength
    omega

-- Whatever fails in `Init`, and whatever is called afterwards: with no page of
-- the frame outside of the frame buffer memory only what is held is written or
-- given back, and everything is given back once exactly when there is no page of
-- the memory outside of the frame either.
theorem lifetime_releasedOnce (outcome : FbOutcome) (calls : List FbCall) :
    (outcome.FitsIn → ∀ before use after, lifetime outcome calls = before ++ use :: after →
      (∀ resource, use ≠ .Acquire resource) → Outstanding before use.resource) ∧
    (ReleasedOnce (lifetime outcome calls) ↔ outcome.Matches) := by
  refine ⟨fun hfits before use after hsplit huse => ?_, fun honce address finfo vinfo hmaps => ?_,
    fun hmatches => ?_⟩
  · obtain ⟨held, hreplay, -⟩ := lifetime_replay hfits calls
    rw [hsplit] at hreplay
    cases use with
    | Acquire resource => exact absurd rfl (huse resource)
    | Release resource => exact outstanding_of_replay (.inl rfl) hreplay
    | Write resource => exact outstanding_of_replay (.inr rfl) hreplay
  · exact (matches_of_releasedOnce honce) address finfo vinfo hmaps
  · obtain ⟨held, hreplay, hall⟩ := lifetime_replay hmatches.fitsIn calls
    rw [hall hmatches] at hreplay
    exact releasedOnce_of_replay hreplay

end BatteryManager.Charger
