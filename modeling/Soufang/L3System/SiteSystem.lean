import Soufang.Core.Simulation
import Soufang.L3System.Access
import Soufang.L3System.Visibility

/-!
# The site over the system

The results on the tables, the index and the queue are about `system`, where
anybody makes any request at any time. At the site they come from endpoints
behind the filter chain, from the consumer and from the refreshes.

* `site_refines`: a step of the site is, of these, the request `SiteReq.request`
  reads off it, or leaves them alone. This holds of the runs whose requests
  meet any condition too.
* `site_one_document`: so what such runs of the system keep, the site keeps.
-/
namespace Soufang

section
variable {F : Type}

/-- The request of the system that a step at the site makes, for the user of
the session. -/
def SiteReq.request (s : Site F) : SiteReq → Option Req
  | .call client _ e => e.request (LoginUserUtil.getLoginUserId (s.sessions client))
  | .handle c => some (.handle c)
  | .refresh => some .refresh
  | .login _ _ | .ended _ => none

/-- The request of the step, where there is one, meets `C`. -/
def SiteReq.Meets (C : Sys → Req → Prop) (s : Site F) (l : SiteReq) : Prop :=
  ∀ req, l.request s = some req → C s.sys req

theorem SiteReq.request_background {s : Site F} {l : SiteReq} {req : Req} (h : l.background = some req) :
    l.request s = some req := by
  cases l with
  | handle c => exact h
  | refresh => exact h
  | login _ _ | ended _ | call _ _ _ => cases h

end

section
variable {F : Type} [DecidableEq F]

/-- **The site refines the system.** Whatever the clients, the consumer and the
refreshes do, a step of the site is one of the system, for the request it
makes, or changes neither the tables of houses, nor the index, nor the queue. -/
theorem site_refines (cfg : Config F) (init : Site F → Prop) (C : Sys → Req → Prop) :
    LTS.Refines ((site cfg init).restrict (SiteReq.Meets C))
      ((system cfg.env fun t => ∃ s, init s ∧ s.sys = t).restrict C) Site.sys fun _ => True where
  init s h := ⟨trivial, s, h, rfl⟩
  keep _ _ _ _ _ := trivial
  step s l s' _ h := by
    obtain ⟨hs, hC⟩ := h
    have heffect := effect_of_step hs
    cases heffect with
    | @admin client path e token req sys' session role request checked run =>
      have hreq : (SiteReq.call client path e).request s = some req := by
        rw [SiteReq.request, session]
        exact request
      exact Or.inl ⟨req, run, hC req hreq⟩
    | @background _ req sys' request run =>
      exact Or.inl ⟨req, run, hC req (SiteReq.request_background request)⟩
    | subscribe => exact Or.inr (addSubscribeOrder_sys ..)
    | idle | opened | refused | thrown | ended | upload | profile => exact Or.inr rfl

/-- A site with a refreshed index, where a document is created only for a house
without one, never has two documents of a house. -/
theorem site_one_document (cfg : Config F) (hn : cfg.env.nrt = true) (init : Site F → Prop)
    (h : ∀ s, init s → Refreshed s.sys) {s : Site F}
    (hr : ((site cfg init).restrict (SiteReq.Meets (FoundFirst cfg.env))).Reachable s) : OneDocument s.sys.es := by
  have hinit : ∀ t : Sys, (∃ s, init s ∧ s.sys = t) → Refreshed t := by
    rintro _ ⟨s, hs, rfl⟩
    exact h s hs
  exact (site_refines cfg init (FoundFirst cfg.env)).invariant (P := fun t => OneDocument t.es)
    (fun t ht => ((lagging_inductive cfg.env hn hinit).reachable ht).live) hr

end

end Soufang
