import Mathlib.Logic.Function.Iterate

/-!
# A loop that repeats an attempt

`loop attempt again left r` starts from the result `r` of a first attempt and
repeats the attempt as long as its answer asks for it, at most `left` times.
An attempt works on a state, so what one attempt uses up the next one lacks.

`loop_stops` says which attempt the loop returns; `loop_invariant` and
`loop_count` are the rules for what every attempt keeps and for what it counts.
-/
namespace Soufang.Retry

variable {σ ρ : Type*}

def loop (attempt : σ → σ × ρ) (again : ρ → Bool) : Nat → σ × ρ → σ × ρ
  | 0, r => r
  | left + 1, r => if again r.2 then loop attempt again left (attempt r.1) else r

section
variable {attempt : σ → σ × ρ} {again : ρ → Bool}

/-- The loop returns the result after `k` repetitions: the first that does not
ask for another, or the last one allowed. -/
theorem loop_stops (attempt : σ → σ × ρ) (again : ρ → Bool) (left : Nat) (r : σ × ρ) :
    ∃ k ≤ left, loop attempt again left r = (fun r => attempt r.1)^[k] r ∧
      (∀ j < k, again ((fun r => attempt r.1)^[j] r).2 = true) ∧
      (k < left → again ((fun r => attempt r.1)^[k] r).2 = false) := by
  induction left generalizing r with
  | zero => exact ⟨0, Nat.le_refl 0, rfl, fun j hj => absurd hj (Nat.not_lt_zero j), fun h => absurd h (by omega)⟩
  | succ left ih =>
    cases ha : again r.2 with
    | false =>
      refine ⟨0, Nat.zero_le _, ?_, fun j hj => absurd hj (Nat.not_lt_zero j), fun _ => ha⟩
      rw [loop, ha]
      rfl
    | true =>
      obtain ⟨k, hk, he, hbefore, hlast⟩ := ih (attempt r.1)
      refine ⟨k + 1, by omega, ?_, ?_, fun h => hlast (by omega)⟩
      · rw [loop, ha, if_pos rfl, he]
        rfl
      · intro j hj
        cases j with
        | zero => exact ha
        | succ j => exact hbefore j (by omega)

/-- What holds of the first result and is kept by every repetition holds of
the returned result. -/
theorem loop_invariant {P : σ × ρ → Prop} (hstep : ∀ r, again r.2 = true → P r → P (attempt r.1)) (left : Nat)
    {r : σ × ρ} (h : P r) : P (loop attempt again left r) := by
  induction left generalizing r with
  | zero => exact h
  | succ left ih =>
    rw [loop]
    split
    · rename_i ha
      exact ih (hstep r ha h)
    · exact h

/-- A counter that an attempt raises by at most one grows by at most `left`. -/
theorem loop_count (count : σ → Nat) (hone : ∀ s, count (attempt s).1 ≤ count s + 1) (left : Nat) (r : σ × ρ) :
    count (loop attempt again left r).1 ≤ count r.1 + left := by
  induction left generalizing r with
  | zero => exact Nat.le_refl _
  | succ left ih =>
    rw [loop]
    split
    · have hrest := ih (attempt r.1)
      have hfirst := hone r.1
      omega
    · omega

end

end Soufang.Retry
