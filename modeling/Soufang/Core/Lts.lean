import Mathlib

/-!
# Labelled transition systems

The vocabulary of every "for each run" statement of this development: runs,
reachable states, invariants (`Inductive`), the runs whose steps all meet a
condition (`restrict`) or that stay in a set (`within`), and termination of
one party's steps by a measure (`exists_run_of_measure`).

`restrict` keeps the initial states and drops steps, so a run of a restriction
is a run of the system (`Run.of_restrict`, `Reachable.of_restrict`).
-/
namespace Soufang

structure LTS (S L : Type) where
  init : S → Prop
  step : S → L → S → Prop

namespace LTS

variable {S L : Type}

inductive Run (M : LTS S L) : S → List L → S → Prop
  | nil (s : S) : Run M s [] s
  | cons {s s1 s2 : S} {l : L} {ls : List L} : M.step s l s1 → Run M s1 ls s2 → Run M s (l :: ls) s2

def Reachable (M : LTS S L) (s : S) : Prop := ∃ s0 ls, M.init s0 ∧ M.Run s0 ls s

/-- `P` holds initially and every step preserves it. -/
structure Inductive (M : LTS S L) (P : S → Prop) : Prop where
  init : ∀ s, M.init s → P s
  step : ∀ s l s', P s → M.step s l s' → P s'

/-- The system of a partial step function. -/
def ofFn (init : S → Prop) (step : S → L → Option S) : LTS S L :=
  ⟨init, fun s l s' => step s l = some s'⟩

/-- The runs of `M` in which every step meets `C` (a condition on the state
before the step and its label). -/
def restrict (M : LTS S L) (C : S → L → Prop) : LTS S L :=
  ⟨M.init, fun s l s' => M.step s l s' ∧ C s l⟩

/-- The runs of `M` that stay in `P`. -/
def within (M : LTS S L) (P : S → Prop) : LTS S L :=
  ⟨M.init, fun s l s' => M.step s l s' ∧ P s'⟩

theorem Run.append {M : LTS S L} {s s' s'' : S} {ls ls' : List L} (hr : M.Run s ls s')
    (hr' : M.Run s' ls' s'') : M.Run s (ls ++ ls') s'' := by
  induction hr with
  | nil => simpa using hr'
  | cons hstep _ ih => exact .cons hstep (ih hr')

theorem Run.split {M : LTS S L} {ls ls' : List L} : ∀ {s s' : S}, M.Run s (ls ++ ls') s' →
    ∃ s1, M.Run s ls s1 ∧ M.Run s1 ls' s' := by
  induction ls with
  | nil => intro s s' h; exact ⟨s, .nil s, h⟩
  | cons l ls ih =>
    intro s s' h
    cases h with
    | cons hs hr =>
      obtain ⟨s1, h1, h2⟩ := ih hr
      exact ⟨s1, .cons hs h1, h2⟩

theorem Run.preserves {M : LTS S L} {P : S → Prop}
    (hstep : ∀ s l s', P s → M.step s l s' → P s') {s s' : S} {ls : List L}
    (hr : M.Run s ls s') (h : P s) : P s' := by
  induction hr with
  | nil => exact h
  | cons hs _ ih => exact ih (hstep _ _ _ h hs)

/-- A property of the steps so far and the state they lead to. -/
theorem Run.history {M : LTS S L} {P : List L → S → Prop} {s0 : S} (h0 : P [] s0)
    (hstep : ∀ ls s l s', M.Run s0 ls s → P ls s → M.step s l s' → P (ls ++ [l]) s') {ls : List L} {s : S}
    (hr : M.Run s0 ls s) : P ls s := by
  induction ls using List.reverseRecOn generalizing s with
  | nil => cases hr; exact h0
  | append_singleton ls l ih =>
    obtain ⟨s1, h1, h2⟩ := hr.split
    cases h2 with
    | cons hs hn =>
      cases hn
      exact hstep _ _ _ _ h1 (ih h1) hs

theorem Run.mono {M N : LTS S L} {s s' : S} {ls : List L} (hr : M.Run s ls s')
    (h : ∀ s l s', M.step s l s' → N.step s l s') : N.Run s ls s' := by
  induction hr with
  | nil => exact .nil _
  | cons hs _ ih => exact .cons (h _ _ _ hs) ih

theorem Inductive.reachable {M : LTS S L} {P : S → Prop} (h : M.Inductive P) {s : S}
    (hr : M.Reachable s) : P s := by
  obtain ⟨s0, ls, h0, hrun⟩ := hr
  exact hrun.preserves h.step (h.init s0 h0)

theorem Run.of_restrict {M : LTS S L} {C : S → L → Prop} {s s' : S} {ls : List L}
    (h : (M.restrict C).Run s ls s') : M.Run s ls s' := h.mono fun _ _ _ hs => hs.1

theorem Reachable.of_restrict {M : LTS S L} {C : S → L → Prop} {s : S}
    (h : (M.restrict C).Reachable s) : M.Reachable s := by
  obtain ⟨s0, ls, h0, hr⟩ := h
  exact ⟨s0, ls, h0, hr.of_restrict⟩

/-- Where a step that meets `C` keeps the invariant `I`, and one that does not
breaks `P`, the runs that stay in `P` are those whose steps all meet `C`. -/
theorem Run.within_iff {M : LTS S L} {I P : S → Prop} {C : S → L → Prop} (hP : ∀ s, I s → P s)
    (keep : ∀ s l s', I s → M.step s l s' → C s l → I s')
    (lose : ∀ s l s', I s → M.step s l s' → ¬ C s l → ¬ P s') {s s' : S} {ls : List L} (hI : I s) :
    (M.within P).Run s ls s' ↔ (M.restrict C).Run s ls s' := by
  constructor
  · intro h
    induction h with
    | nil => exact .nil _
    | cons hs _ ih =>
      obtain ⟨hs, hp⟩ := hs
      have hC := of_not_not fun hn => lose _ _ _ hI hs hn hp
      exact .cons ⟨hs, hC⟩ (ih (keep _ _ _ hI hs hC))
  · intro h
    induction h with
    | nil => exact .nil _
    | cons hs _ ih =>
      obtain ⟨hs, hC⟩ := hs
      have hI' := keep _ _ _ hI hs hC
      exact .cons ⟨hs, hP _ hI'⟩ (ih hI')

/-- Both conditions at once. -/
theorem Reachable.restrict_restrict {M : LTS S L} {C D : S → L → Prop} {s : S}
    (h : (M.restrict fun s l => C s l ∧ D s l).Reachable s) : ((M.restrict C).restrict D).Reachable s := by
  obtain ⟨s0, ls, h0, hr⟩ := h
  exact ⟨s0, ls, h0, hr.mono fun _ _ _ hs => ⟨⟨hs.1, hs.2.1⟩, hs.2.2⟩⟩

/-- Execute the labels `ls`; `none` when one is disabled or does not meet `C`. -/
def exec (step : S → L → Option S) (C : S → L → Prop) [∀ s l, Decidable (C s l)] :
    S → List L → Option S
  | s, [] => some s
  | s, l :: ls => if C s l then (step s l).bind fun s' => exec step C s' ls else none

theorem run_of_exec {init : S → Prop} {step : S → L → Option S} {C : S → L → Prop}
    [∀ s l, Decidable (C s l)] : ∀ {ls : List L} {s s' : S}, exec step C s ls = some s' →
      ((ofFn init step).restrict C).Run s ls s'
  | [], s, s', h => by
    simp only [exec, Option.some.injEq] at h
    subst h; exact .nil s
  | l :: ls, s, s', h => by
    simp only [exec] at h
    split at h
    · rename_i hC
      obtain ⟨s1, hs, he⟩ := Option.bind_eq_some_iff.mp h
      exact .cons ⟨hs, hC⟩ (run_of_exec he)
    · cases h

/-- The state an execution ends in is reachable. -/
theorem exists_reachable (init : S → Prop) (step : S → L → Option S) (C : S → L → Prop)
    [∀ s l, Decidable (C s l)] (p : S → Prop) {s : S} (h0 : init s) (ls : List L)
    (h : ∃ s' ∈ exec step C s ls, p s') :
    ∃ s', ((ofFn init step).restrict C).Reachable s' ∧ p s' := by
  obtain ⟨s', hs, hp⟩ := h
  exact ⟨s', ⟨s, ls, h0, run_of_exec hs⟩, hp⟩

/-- If, while `P` holds and the work is not finished, every label of `f` is
enabled, keeps `P` and lowers `μ`, then the first labels of `f`, at most
`μ s` of them, finish the work. -/
theorem exists_run_of_measure {M : LTS S L} {P D : S → Prop} (μ : S → Nat) (f : Nat → L)
    (h : ∀ i s, P s → ¬ D s → ∃ s', M.step s (f i) s' ∧ P s' ∧ μ s' < μ s) :
    ∀ n i s, P s → μ s ≤ n →
      ∃ k s', k ≤ n ∧ M.Run s ((List.range' i k).map f) s' ∧ P s' ∧ D s' := by
  intro n
  induction n with
  | zero =>
    intro i s hP hn
    by_cases hD : D s
    · exact ⟨0, s, Nat.le_refl _, .nil s, hP, hD⟩
    · obtain ⟨s', -, -, hlt⟩ := h i s hP hD
      omega
  | succ n ih =>
    intro i s hP hn
    by_cases hD : D s
    · exact ⟨0, s, Nat.zero_le _, .nil s, hP, hD⟩
    · obtain ⟨s', hst, hP', hlt⟩ := h i s hP hD
      obtain ⟨k, s'', hk, hr, hP'', hD''⟩ := ih (i + 1) s' hP' (by omega)
      exact ⟨k + 1, s'', by omega, .cons hst hr, hP'', hD''⟩

end LTS

/-- `ls` runs the steps `l₁` and `l₂`, each in its own order. -/
inductive Interleaving {L : Type} : List L → List L → List L → Prop
  | nil : Interleaving [] [] []
  | left {l : L} {l₁ l₂ ls : List L} : Interleaving l₁ l₂ ls → Interleaving (l :: l₁) l₂ (l :: ls)
  | right {l : L} {l₁ l₂ ls : List L} : Interleaving l₁ l₂ ls → Interleaving l₁ (l :: l₂) (l :: ls)

theorem Interleaving.left_only {L : Type} {l ls : List L} (h : Interleaving l [] ls) : ls = l := by
  generalize he : ([] : List L) = e at h
  induction h with
  | nil => rfl
  | left _ ih => rw [ih he]
  | right _ _ => cases he

theorem Interleaving.right_only {L : Type} {l ls : List L} (h : Interleaving [] l ls) : ls = l := by
  generalize he : ([] : List L) = e at h
  induction h with
  | nil => rfl
  | left _ _ => cases he
  | right _ ih => rw [ih he]

/-- The six schedules of two processes of two steps. -/
theorem Interleaving.two_two {L : Type} {a b c d : L} {ls : List L} (h : Interleaving [a, b] [c, d] ls) :
    ls = [a, b, c, d] ∨ ls = [a, c, b, d] ∨ ls = [a, c, d, b] ∨
      ls = [c, a, b, d] ∨ ls = [c, a, d, b] ∨ ls = [c, d, a, b] := by
  cases h with
  | left h =>
    cases h with
    | left h => exact Or.inl (by rw [h.right_only])
    | right h =>
      cases h with
      | left h => exact Or.inr (Or.inl (by rw [h.right_only]))
      | right h => exact Or.inr (Or.inr (Or.inl (by rw [h.left_only])))
  | right h =>
    cases h with
    | left h =>
      cases h with
      | left h => exact Or.inr (Or.inr (Or.inr (Or.inl (by rw [h.right_only]))))
      | right h => exact Or.inr (Or.inr (Or.inr (Or.inr (Or.inl (by rw [h.left_only])))))
    | right h => exact Or.inr (Or.inr (Or.inr (Or.inr (Or.inr (by rw [h.left_only])))))

end Soufang
