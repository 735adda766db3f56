import Mathlib.Data.List.Infix

/-!
# Deleting every occurrence of a text

`removeAll c s` scans `s` from the left and leaves out each occurrence of `c`
it meets; occurrences do not overlap. Deleting the empty text changes nothing.

* `removeAll_append_self`: an occurrence at the start goes, and the rest is
  scanned as if it stood alone.
* `removeAll_of_not_infix`: without an occurrence nothing changes.
* `mem_removeAll`: nothing is added.
-/
namespace Soufang.Replace

section
variable {α : Type*} [DecidableEq α]

/-- The scan; its number says how many elements of an occurrence are left to skip. -/
def scan (c : List α) : Nat → List α → List α
  | _, [] => []
  | skip + 1, _ :: s => scan c skip s
  | 0, a :: s => if c <+: a :: s then scan c (c.length - 1) s else a :: scan c 0 s

def removeAll (c s : List α) : List α := if c = [] then s else scan c 0 s

theorem scan_skip (c u s : List α) : scan c u.length (u ++ s) = scan c 0 s := by
  induction u with
  | nil => rfl
  | cons a u ih => exact ih

theorem removeAll_append_self (c s : List α) : removeAll c (c ++ s) = removeAll c s := by
  unfold removeAll
  cases c with
  | nil => rfl
  | cons a c =>
    have hprefix : a :: c <+: a :: (c ++ s) := List.prefix_append (a :: c) s
    rw [if_neg (List.cons_ne_nil a c), if_neg (List.cons_ne_nil a c), List.cons_append, scan, if_pos hprefix]
    exact scan_skip (a :: c) c s

theorem removeAll_of_not_infix {c s : List α} (h : ¬ c <:+: s) : removeAll c s = s := by
  unfold removeAll
  have hc : c ≠ [] := by
    rintro rfl
    exact h List.nil_infix
  rw [if_neg hc]
  induction s with
  | nil => rfl
  | cons a s ih =>
    have hprefix : ¬ c <+: a :: s := fun hp => h hp.isInfix
    have htail : ¬ c <:+: s := fun hi => h (List.infix_cons hi)
    rw [scan, if_neg hprefix, ih htail]

theorem mem_scan {c : List α} {a : α} : ∀ {n : Nat} {s : List α}, a ∈ scan c n s → a ∈ s
  | n + 1, b :: s, h => List.mem_cons_of_mem b (mem_scan h)
  | 0, b :: s, h => by
    rw [scan] at h
    split at h
    · exact List.mem_cons_of_mem b (mem_scan h)
    · rcases List.mem_cons.mp h with rfl | h
      · exact List.mem_cons_self
      · exact List.mem_cons_of_mem b (mem_scan h)

theorem mem_removeAll {c s : List α} {a : α} (h : a ∈ removeAll c s) : a ∈ s := by
  unfold removeAll at h
  split at h
  · exact h
  · exact mem_scan h

end

end Soufang.Replace
