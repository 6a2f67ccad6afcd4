import Mathlib.Data.Finset.Prod
import BatteryManager.Library.Run

namespace BatteryManager

open Library

-- Each incarnation of the service is a remote object of its own. Incarnations
-- and death recipients are numbered in the order of their creation.
structure BatterySrvClient where
  proxy : Option Nat := none
  deathRecipient : Option Nat := none

-- The client and what is around it: the incarnations, the recipients that were
-- added to them, and the death notices that are still to be delivered.
structure ClientSystem where
  client : BatterySrvClient := {}
  started : Nat := 0
  live : Finset Nat := ∅
  created : Nat := 0
  recipients : Finset (Nat × Nat) := ∅
  notices : Finset (Nat × Nat) := ∅

namespace ClientSystem

-- `registry` is what `CheckSystemAbility` returns, live or not, and `added` the
-- answer of `AddDeathRecipient` on a live object.
def connect (registry : Option Nat) (added : Bool) (system : ClientSystem) :
    ClientSystem × Option Nat :=
  match system.client.proxy with
  | some proxy => (system, some proxy)
  | none =>
      match registry with
      | none => (system, none)
      | some remote =>
          let allocated := { system with created := system.created + 1 }
          if remote ∈ system.live ∧ added = true then
            ({ allocated with
                recipients := insert (remote, system.created) system.recipients
                client := { proxy := some remote, deathRecipient := some system.created } },
              some remote)
          else (allocated, none)

-- A removed recipient is not notified any more.
def removeDeathRecipient (remote : Nat) (recipient : Option Nat) (system : ClientSystem) : ClientSystem :=
  match recipient with
  | none => system
  | some drt => { system with
      recipients := system.recipients.erase (remote, drt)
      notices := system.notices.erase (remote, drt) }

def resetProxy (remote : Option Nat) (system : ClientSystem) : ClientSystem :=
  match system.client.proxy, remote with
  | some proxy, some died =>
      if proxy = died then
        { system.removeDeathRecipient proxy system.client.deathRecipient with
          client := { system.client with proxy := none } }
      else system
  | _, _ => system

def start (system : ClientSystem) : ClientSystem :=
  { system with started := system.started + 1, live := insert system.started system.live }

-- The recipients of the dead incarnation are notified at some later time.
def die (incarnation : Nat) (system : ClientSystem) : ClientSystem :=
  { system with
    live := system.live.erase incarnation
    recipients := system.recipients.filter fun added => added.1 ≠ incarnation
    notices := system.notices ∪ system.recipients.filter fun added => added.1 = incarnation }

end ClientSystem

inductive ClientLabel
  | Start
  | Die (incarnation : Nat)
  | Connect (registry : Option Nat) (added : Bool)
  | Deliver (incarnation recipient : Nat)
  deriving DecidableEq

-- A step emits what `Connect` returns.
def clientStep (system : ClientSystem) : ClientLabel → Option (ClientSystem × List (Option Nat))
  | .Start => some (system.start, [])
  | .Die incarnation =>
      if incarnation ∈ system.live then some (system.die incarnation, []) else none
  | .Connect registry added =>
      some ((system.connect registry added).1, [(system.connect registry added).2])
  | .Deliver incarnation recipient =>
      if (incarnation, recipient) ∈ system.notices then
        some ({ system with notices := system.notices.erase (incarnation, recipient) }.resetProxy
          (some incarnation), [])
      else none

abbrev ClientRun : List ClientLabel → ClientSystem → List (Option Nat) → Prop := Run clientStep {}

namespace ClientSystem

-- The cached proxy is live, or its death is about to be noticed.
def Noticed (system : ClientSystem) : Prop :=
  ∀ proxy, system.client.proxy = some proxy →
    proxy ∈ system.live ∨ ∃ recipient, (proxy, recipient) ∈ system.notices

-- Why that is so: the client's own recipient is still with the proxy, or its
-- notice is on the way.
structure Watched (system : ClientSystem) : Prop where
  proxy : ∀ proxy, system.client.proxy = some proxy → ∃ recipient,
    system.client.deathRecipient = some recipient ∧
      ((proxy ∈ system.live ∧ (proxy, recipient) ∈ system.recipients) ∨
        (proxy, recipient) ∈ system.notices)

theorem Watched.noticed {system : ClientSystem} (hwatched : system.Watched) : system.Noticed := by
  intro proxy hproxy
  obtain ⟨recipient, -, ⟨hlive, -⟩ | hnotice⟩ := hwatched.proxy proxy hproxy
  · exact .inl hlive
  · exact .inr ⟨recipient, hnotice⟩

-- A notice of one incarnation leaves the proxy to another one alone.
theorem resetProxy_other (system : ClientSystem) {died other : Nat} (hne : other ≠ died)
    (hproxy : system.client.proxy = some other) : system.resetProxy (some died) = system := by
  unfold resetProxy
  rw [hproxy]
  exact if_neg hne

theorem resetProxy_same (system : ClientSystem) {died : Nat} (hproxy : system.client.proxy = some died) :
    (system.resetProxy (some died)).client.proxy = none := by
  unfold resetProxy
  rw [hproxy]
  simp

theorem resetProxy_none (system : ClientSystem) (remote : Option Nat) (hproxy : system.client.proxy = none) :
    system.resetProxy remote = system := by
  unfold resetProxy
  rw [hproxy]

theorem Watched.connect {system : ClientSystem} (hwatched : system.Watched) (registry : Option Nat)
    (added : Bool) : (system.connect registry added).1.Watched := by
  cases hproxy : system.client.proxy with
  | some proxy =>
      have hsame : (system.connect registry added).1 = system := by simp [ClientSystem.connect, hproxy]
      rw [hsame]
      exact hwatched
  | none =>
      cases registry with
      | none =>
          have hsame : (system.connect none added).1 = system := by simp [ClientSystem.connect, hproxy]
          rw [hsame]
          exact hwatched
      | some remote =>
          simp only [ClientSystem.connect, hproxy]
          split
          · rename_i hadded
            refine ⟨fun proxy hp => ?_⟩
            obtain rfl : remote = proxy := Option.some.inj hp
            exact ⟨system.created, rfl, .inl ⟨hadded.1, Finset.mem_insert_self _ _⟩⟩
          · refine ⟨fun proxy hp => ?_⟩
            exact absurd (hproxy.symm.trans hp) (by simp)

theorem Watched.start {system : ClientSystem} (hwatched : system.Watched) : system.start.Watched := by
  refine ⟨fun proxy hproxy => ?_⟩
  obtain ⟨recipient, hrecipient, ⟨hlive, hadded⟩ | hnotice⟩ := hwatched.proxy proxy hproxy
  · exact ⟨recipient, hrecipient, .inl ⟨Finset.mem_insert_of_mem hlive, hadded⟩⟩
  · exact ⟨recipient, hrecipient, .inr hnotice⟩

theorem Watched.die {system : ClientSystem} (hwatched : system.Watched) (incarnation : Nat) :
    (system.die incarnation).Watched := by
  refine ⟨fun proxy hproxy => ?_⟩
  obtain ⟨recipient, hrecipient, ⟨hlive, hadded⟩ | hnotice⟩ := hwatched.proxy proxy hproxy
  · by_cases hdied : proxy = incarnation
    · refine ⟨recipient, hrecipient, .inr (Finset.mem_union_right _ ?_)⟩
      exact Finset.mem_filter.mpr ⟨hadded, hdied⟩
    · refine ⟨recipient, hrecipient, .inl ⟨Finset.mem_erase.mpr ⟨hdied, hlive⟩, ?_⟩⟩
      exact Finset.mem_filter.mpr ⟨hadded, hdied⟩
  · exact ⟨recipient, hrecipient, .inr (Finset.mem_union_left _ hnotice)⟩

theorem Watched.deliver {system : ClientSystem} (hwatched : system.Watched) (incarnation recipient : Nat) :
    ({ system with notices := system.notices.erase (incarnation, recipient) }.resetProxy
      (some incarnation)).Watched := by
  let taken := { system with notices := system.notices.erase (incarnation, recipient) }
  change (taken.resetProxy (some incarnation)).Watched
  cases hproxy : system.client.proxy with
  | none =>
      rw [resetProxy_none taken (some incarnation) hproxy]
      exact ⟨fun proxy hp => absurd (hproxy.symm.trans hp) (by simp)⟩
  | some current =>
      by_cases hsame : current = incarnation
      · refine ⟨fun proxy hp => ?_⟩
        rw [resetProxy_same taken (hproxy.trans (congrArg some hsame))] at hp
        cases hp
      · rw [resetProxy_other taken hsame hproxy]
        refine ⟨fun proxy hp => ?_⟩
        obtain rfl : current = proxy := Option.some.inj (hproxy.symm.trans hp)
        obtain ⟨own, hown, hlive | hnotice⟩ := hwatched.proxy current hproxy
        · exact ⟨own, hown, .inl hlive⟩
        · refine ⟨own, hown, .inr (Finset.mem_erase.mpr ⟨?_, hnotice⟩)⟩
          exact fun heq => hsame (congrArg Prod.fst heq)

theorem Watched.step {system next : ClientSystem} {label : ClientLabel} {out : List (Option Nat)}
    (hwatched : system.Watched) (hstep : clientStep system label = some (next, out)) : next.Watched := by
  cases label with
  | Start =>
      cases hstep
      exact hwatched.start
  | Die incarnation =>
      simp only [clientStep] at hstep
      split at hstep
      · cases hstep
        exact hwatched.die incarnation
      · cases hstep
  | Connect registry added =>
      cases hstep
      exact hwatched.connect registry added
  | Deliver incarnation recipient =>
      simp only [clientStep] at hstep
      split at hstep
      · cases hstep
        exact hwatched.deliver incarnation recipient
      · cases hstep

end ClientSystem

theorem watched_run {history : List ClientLabel} {system : ClientSystem} {log : List (Option Nat)}
    (hrun : ClientRun history system log) : system.Watched :=
  hrun.history_invariant (fun _ system _ => system.Watched) ⟨fun _ hproxy => by cases hproxy⟩
    fun _ _ _ _ _ _ _ hwatched hstep => hwatched.step hstep

-- A dead proxy is going to be noticed, and in any state a notice only clears the
-- proxy that it is about.
theorem proxy_noticed {history : List ClientLabel} {system : ClientSystem} {log : List (Option Nat)}
    (hrun : ClientRun history system log) :
    system.Noticed ∧ ∀ (before : ClientSystem) incarnation recipient next out,
      clientStep before (.Deliver incarnation recipient) = some (next, out) →
      ∀ other, other ≠ incarnation → before.client.proxy = some other →
        next.client.proxy = some other := by
  refine ⟨(watched_run hrun).noticed, ?_⟩
  intro before incarnation recipient next out hstep other hne hproxy
  simp only [clientStep] at hstep
  split at hstep
  · cases hstep
    let taken := { before with notices := before.notices.erase (incarnation, recipient) }
    have hkept : taken.resetProxy (some incarnation) = taken := taken.resetProxy_other hne hproxy
    exact (congrArg (fun kept => kept.client.proxy) hkept).trans hproxy
  · cases hstep

-- The service dies and starts again, and the notice is still on its way.
theorem proxy_noticed_restarted :
    let last := (exec clientStep {} [.Start, .Connect (some 0) true, .Die 0, .Start]).get (by decide)
    last.1.client.proxy = some 0 ∧ 0 ∉ last.1.live ∧ last.1.Noticed :=
  ⟨by decide, by decide, (proxy_noticed (exec_run clientStep {}
    [.Start, .Connect (some 0) true, .Die 0, .Start] (by decide))).1⟩

end BatteryManager
