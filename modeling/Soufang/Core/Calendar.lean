import Mathlib

/-!
# Calendar days

A calendar is given by its midnights. A day lasts from its midnight to the
next, however long that is, and every instant falls on one day.

* `between_iff`: an instant falls on a day between `first` and `last` exactly
  when it is not before the midnight of `first` and before the midnight that
  ends `last`.
-/
namespace Soufang

structure Calendar (τ : Type) [LinearOrder τ] where
  midnight : Int → τ
  mono : StrictMono midnight
  covers : ∀ t, ∃ day, midnight day ≤ t ∧ t < midnight (day + 1)

namespace Calendar

variable {τ : Type} [LinearOrder τ] (cal : Calendar τ)

def OnDay (day : Int) (t : τ) : Prop := cal.midnight day ≤ t ∧ t < cal.midnight (day + 1)

variable {cal} {day first last : Int} {t : τ}

theorem OnDay.first_le_iff (h : cal.OnDay day t) : first ≤ day ↔ cal.midnight first ≤ t := by
  constructor
  · intro hle
    exact (cal.mono.monotone hle).trans h.1
  · intro hle
    by_contra hlt
    have hnext : cal.midnight (day + 1) ≤ cal.midnight first := cal.mono.monotone (by omega)
    exact absurd (hle.trans_lt h.2) (not_lt.mpr hnext)

theorem OnDay.le_last_iff (h : cal.OnDay day t) : day ≤ last ↔ t < cal.midnight (last + 1) := by
  rw [← not_le, ← h.first_le_iff]
  omega

/-- A range of days, open where a bound is missing, as a range of instants. -/
theorem between_iff (cal : Calendar τ) (min max : Option Int) (t : τ) :
    (∃ day, cal.OnDay day t ∧ (∀ first ∈ min, first ≤ day) ∧ ∀ last ∈ max, day ≤ last) ↔
      (∀ first ∈ min, cal.midnight first ≤ t) ∧ ∀ last ∈ max, t < cal.midnight (last + 1) := by
  constructor
  · intro h
    obtain ⟨day, hday, hmin, hmax⟩ := h
    exact ⟨fun first hf => hday.first_le_iff.mp (hmin first hf), fun last hl => hday.le_last_iff.mp (hmax last hl)⟩
  · intro h
    obtain ⟨day, hday⟩ := cal.covers t
    have hday : cal.OnDay day t := hday
    exact ⟨day, hday, fun first hf => hday.first_le_iff.mpr (h.1 first hf),
      fun last hl => hday.le_last_iff.mpr (h.2 last hl)⟩

/-- Days of `n` units. -/
def ofLength (n : Int) (hn : 0 < n) : Calendar Int where
  midnight day := day * n
  mono := by
    intro a b hab
    exact mul_lt_mul_of_pos_right hab hn
  covers t := by
    refine ⟨t / n, Int.ediv_mul_le t (by omega), ?_⟩
    rw [add_mul, one_mul]
    have hlt := Int.lt_ediv_add_one_mul_self t hn
    rwa [add_mul, one_mul] at hlt

end Calendar

end Soufang
