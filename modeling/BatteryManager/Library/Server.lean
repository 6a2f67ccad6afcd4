import Mathlib.Data.List.Basic

namespace BatteryManager.Library

variable {σ ι ρ ε : Type*}

-- What a request gives: the answer to the caller, the next state, and what was
-- done to the world outside.
structure Reply (σ ρ ε : Type*) where
  response : ρ
  state : σ
  effects : List ε

-- The requests one after the other. Every effect is kept with the request that
-- it was done for.
def serveAll (serve : σ → ι → Reply σ ρ ε) : σ → List ι → Reply σ (List ρ) (ι × ε)
  | state, [] => ⟨[], state, []⟩
  | state, request :: rest =>
      let reply := serve state request
      let later := serveAll serve reply.state rest
      ⟨reply.response :: later.response, later.state,
        reply.effects.map (fun effect => (request, effect)) ++ later.effects⟩

variable {serve : σ → ι → Reply σ ρ ε}

-- Requests that are refused in every state, with an answer that depends on the
-- request alone, tell nothing about the state and leave it.
theorem serveAll_refused {refusal : ι → ρ} {requests : List ι} (state : σ)
    (hrefused : ∀ request ∈ requests, ∀ state, serve state request = ⟨refusal request, state, []⟩) :
    serveAll serve state requests = ⟨requests.map refusal, state, []⟩ := by
  induction requests with
  | nil => rfl
  | cons request rest ih =>
      have hlater := ih fun other hother => hrefused other (List.mem_cons_of_mem _ hother)
      unfold serveAll
      rw [hrefused request List.mem_cons_self]
      dsimp only
      rw [hlater]
      rfl

-- What every effect of one request has is had by every effect of a run.
theorem serveAll_effects {p : ι → ε → Prop}
    (heffect : ∀ state request, ∀ effect ∈ (serve state request).effects, p request effect)
    (state : σ) (requests : List ι) :
    ∀ entry ∈ (serveAll serve state requests).effects, p entry.1 entry.2 := by
  induction requests generalizing state with
  | nil => nofun
  | cons request rest ih =>
      intro entry hentry
      rcases List.mem_append.mp hentry with hhere | hlater
      · obtain ⟨effect, hmem, rfl⟩ := List.mem_map.mp hhere
        exact heffect state request effect hmem
      · exact ih _ entry hlater

end BatteryManager.Library
