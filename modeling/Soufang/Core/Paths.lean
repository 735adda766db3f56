import Mathlib.Data.List.Basic

/-!
# Paths, read textually

A path is a text cut at `/` and `\`. `resolve base s` follows the segments of
`s` from the directory `base`: an empty segment and `.` stay, `..` goes one
directory up and stays at the root, any other goes down. `below s` does so from
an unnamed directory and gives up where the path leaves it.

A plain name is one segment that goes down (`resolve_plain`, `below_plain`).
-/
namespace Soufang.Paths

abbrev Segment := List Char

def isSeparator (c : Char) : Bool := c = '/' || c = '\\'

def segments (s : List Char) : List Segment := s.splitOnP isSeparator

def walk (dir : List Segment) (s : Segment) : List Segment :=
  if s = [] ∨ s = ['.'] then dir
  else if s = ['.', '.'] then dir.dropLast
  else dir ++ [s]

def resolve (base : List Segment) (s : List Char) : List Segment := (segments s).foldl walk base

def walkBelow (dir : List Segment) (s : Segment) : Option (List Segment) :=
  if s = ['.', '.'] ∧ dir = [] then none else some (walk dir s)

def below (s : List Char) : Option (List Segment) := (segments s).foldlM walkBelow []

/-- One segment that names an entry of a directory. -/
structure Plain (s : List Char) : Prop where
  nonempty : s ≠ []
  notSelf : s ≠ ['.']
  notParent : s ≠ ['.', '.']
  whole : ∀ c ∈ s, isSeparator c = false

theorem resolve_append (base : List Segment) (a b : List Char) {sep : Char} (hsep : isSeparator sep = true) :
    resolve base (a ++ sep :: b) = resolve (resolve base a) b := by
  rw [resolve, segments, List.splitOnP_append_cons _ _ hsep, List.foldl_append]
  rfl

section
variable {s : List Char}

theorem segments_plain (h : Plain s) : segments s = [s] := List.splitOnP_eq_singleton h.whole

theorem walk_plain (h : Plain s) (dir : List Segment) : walk dir s = dir ++ [s] := by
  rw [walk, if_neg (not_or.mpr ⟨h.nonempty, h.notSelf⟩), if_neg h.notParent]

theorem resolve_plain (h : Plain s) (base : List Segment) : resolve base s = base ++ [s] := by
  rw [resolve, segments_plain h]
  exact walk_plain h base

theorem below_plain (h : Plain s) : below s = some [s] := by
  have hwalk : walkBelow [] s = some [s] := by
    rw [walkBelow, if_neg fun hp => h.notParent hp.1, walk_plain h]
    rfl
  rw [below, segments_plain h, List.foldlM_cons, hwalk]
  rfl

end

end Soufang.Paths
