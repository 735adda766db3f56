import Mathlib.Data.List.Basic

/-!
# Sequences of requests

A server takes one request after another; each changes its state and gets an
answer. `RunAgrees` compares a server with a specification that works on an
abstraction of its state: after the sequence the states correspond, and every
request got the answer of the specification.

`runAgrees_iff` is the rule for a server that follows its specification but
for some requests: it agrees on exactly the sequences that avoid them.
-/
namespace Soufang.Requests

variable {σ τ ι ο : Type*}

def run (step : σ → ι → σ × ο) : σ → List ι → σ × List ο
  | s, [] => (s, [])
  | s, i :: is => ((run step (step s i).1 is).1, (step s i).2 :: (run step (step s i).1 is).2)

theorem run_append_state (step : σ → ι → σ × ο) (is js : List ι) (s : σ) :
    (run step s (is ++ js)).1 = (run step (run step s is).1 js).1 := by
  induction is generalizing s with
  | nil => rfl
  | cons i is ih => exact ih (step s i).1

section
variable (abs : σ → τ) (step : σ → ι → σ × ο) (spec : τ → ι → τ × ο)

/-- One request is served as the specification says. -/
structure Agrees (s : σ) (i : ι) : Prop where
  state : abs (step s i).1 = (spec (abs s) i).1
  answer : (step s i).2 = (spec (abs s) i).2

structure RunAgrees (s : σ) (is : List ι) : Prop where
  state : abs (run step s is).1 = (run spec (abs s) is).1
  answers : (run step s is).2 = (run spec (abs s) is).2

/-- No request of the sequence is `Bad` in the state the specification has
when it comes. -/
def Avoids (Bad : τ → ι → Prop) : τ → List ι → Prop
  | _, [] => True
  | t, i :: is => ¬ Bad t i ∧ Avoids Bad (spec t i).1 is

end

section
variable {abs : σ → τ} {step : σ → ι → σ × ο} {spec : τ → ι → τ × ο}

theorem runAgrees_cons {s : σ} {i : ι} {is : List ι} (h : Agrees abs step spec s i) :
    RunAgrees abs step spec s (i :: is) ↔ RunAgrees abs step spec (step s i).1 is := by
  constructor
  · intro hr
    have hstate := hr.state
    have hanswers := hr.answers
    rw [run, run, ← h.state] at hstate hanswers
    exact ⟨hstate, (List.cons.inj hanswers).2⟩
  · intro hr
    have hstate := hr.state
    have hanswers := hr.answers
    rw [h.state] at hstate hanswers
    refine ⟨hstate, ?_⟩
    rw [run, run, h.answer, hanswers]

/-- A server that serves every request right serves every sequence right. -/
theorem runAgrees_of_agrees (h : ∀ s i, Agrees abs step spec s i) (s : σ) (is : List ι) :
    RunAgrees abs step spec s is := by
  induction is generalizing s with
  | nil => exact ⟨rfl, rfl⟩
  | cons i is ih => exact (runAgrees_cons (h s i)).mpr (ih _)

/-- A server that serves the requests that are not `Bad` right, and answers
the others wrong. -/
theorem runAgrees_iff {P : ι → Prop} {Bad : τ → ι → Prop}
    (hgood : ∀ s i, P i → ¬ Bad (abs s) i → Agrees abs step spec s i)
    (hbad : ∀ s i, P i → Bad (abs s) i → (step s i).2 ≠ (spec (abs s) i).2)
    (s : σ) (is : List ι) (hP : ∀ i ∈ is, P i) :
    RunAgrees abs step spec s is ↔ Avoids spec Bad (abs s) is := by
  induction is generalizing s with
  | nil => exact ⟨fun _ => trivial, fun _ => ⟨rfl, rfl⟩⟩
  | cons i is ih =>
    obtain ⟨hi, his⟩ := List.forall_mem_cons.mp hP
    constructor
    · intro hr
      have hok : ¬ Bad (abs s) i := fun hb => hbad s i hi hb (List.cons.inj hr.answers).1
      have ha := hgood s i hi hok
      have hrest := (ih (step s i).1 his).mp ((runAgrees_cons ha).mp hr)
      rw [ha.state] at hrest
      exact ⟨hok, hrest⟩
    · intro havoid
      have ha := hgood s i hi havoid.1
      refine (runAgrees_cons ha).mpr ((ih (step s i).1 his).mpr ?_)
      rw [ha.state]
      exact havoid.2

end

end Soufang.Requests
