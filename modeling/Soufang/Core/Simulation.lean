import Soufang.Core.Lts

/-!
# Refinement between transition systems

`Refines M N abs I`: along `abs`, every step of `M` from a state with the
invariant `I` is a step of `N` or leaves the abstract state alone. Then the
abstraction of a reachable state is reachable (`Refines.reachable`), so what
holds of every reachable state of `N` holds of `M` (`Refines.invariant`).

Where every step of `M` is a step of `N` with a label related to its own, a
run of `M` is a run of `N` (`Run.related`).
-/
namespace Soufang.LTS

variable {S L T K : Type}

structure Refines (M : LTS S L) (N : LTS T K) (abs : S → T) (I : S → Prop) : Prop where
  init : ∀ s, M.init s → I s ∧ N.init (abs s)
  keep : ∀ s l s', I s → M.step s l s' → I s'
  step : ∀ s l s', I s → M.step s l s' → (∃ k, N.step (abs s) k (abs s')) ∨ abs s' = abs s

variable {M : LTS S L} {N : LTS T K} {abs : S → T} {I : S → Prop}

theorem Run.snoc {s s' s'' : S} {ls : List L} {l : L} (hr : M.Run s ls s') (hs : M.step s' l s'') :
    M.Run s (ls ++ [l]) s'' := hr.append (.cons hs (.nil s''))

theorem Reachable.step {s s' : S} {l : L} (hr : M.Reachable s) (hs : M.step s l s') : M.Reachable s' := by
  obtain ⟨s0, ls, h0, hrun⟩ := hr
  exact ⟨s0, ls ++ [l], h0, hrun.snoc hs⟩

theorem Refines.reachable (h : Refines M N abs I) {s : S} (hr : M.Reachable s) : N.Reachable (abs s) := by
  have hboth : M.Inductive fun s => I s ∧ N.Reachable (abs s) := {
    init := fun s h0 => ⟨(h.init s h0).1, abs s, [], (h.init s h0).2, .nil _⟩
    step := fun s l s' hs hstep => by
      obtain ⟨hI, hreach⟩ := hs
      refine ⟨h.keep s l s' hI hstep, ?_⟩
      rcases h.step s l s' hI hstep with ⟨k, hk⟩ | he
      · exact hreach.step hk
      · rw [he]
        exact hreach }
  exact (hboth.reachable hr).2

theorem Refines.invariant (h : Refines M N abs I) {P : T → Prop} (hP : ∀ t, N.Reachable t → P t) {s : S}
    (hr : M.Reachable s) : P (abs s) := hP _ (h.reachable hr)

theorem Run.related {R : L → K → Prop}
    (h : ∀ s l s', M.step s l s' → ∃ k, R l k ∧ N.step (abs s) k (abs s')) {s s' : S} {ls : List L}
    (hr : M.Run s ls s') : ∃ ks, List.Forall₂ R ls ks ∧ N.Run (abs s) ks (abs s') := by
  induction hr with
  | nil s => exact ⟨[], .nil, .nil _⟩
  | cons hs _ ih =>
    obtain ⟨k, hR, hk⟩ := h _ _ _ hs
    obtain ⟨ks, hall, hrun⟩ := ih
    exact ⟨k :: ks, .cons hR hall, .cons hk hrun⟩

end Soufang.LTS
