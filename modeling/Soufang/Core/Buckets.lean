import Mathlib.Algebra.BigOperators.Group.List.Lemmas
import Soufang.Core.Arrange

/-!
# Counting by key

`buckets l` has one bucket for each key of `l`, with the number of times it
occurs; `top order size l` keeps the first `size` of them by falling count.

* `mem_buckets`, `sum_buckets`: what all the buckets say.
* `top_covers_iff`: the buckets that are kept cover every key exactly if there
  are at most `size` keys; then their counts add up to the whole.
-/
namespace Soufang.Buckets

structure Bucket (κ : Type) where
  key : κ
  count : Nat
  deriving DecidableEq

section
variable {κ : Type} [DecidableEq κ]

def buckets (l : List κ) : List (Bucket κ) := l.dedup.map fun k => ⟨k, l.count k⟩

/-- By falling count. -/
abbrev Order (κ : Type) := SortedArrangement fun a b : Bucket κ => b.count ≤ a.count

def top (order : Order κ) (size : Nat) (l : List κ) : List (Bucket κ) := (order.arrange (buckets l)).take size

theorem mem_buckets {l : List κ} {b : Bucket κ} : b ∈ buckets l ↔ b.key ∈ l ∧ b.count = l.count b.key := by
  obtain ⟨key, count⟩ := b
  simp only [buckets, List.mem_map, List.mem_dedup, Bucket.mk.injEq]
  constructor
  · intro hx
    obtain ⟨k, hk, rfl, rfl⟩ := hx
    exact ⟨hk, rfl⟩
  · intro ⟨hk, hcount⟩
    exact ⟨key, hk, rfl, hcount.symm⟩

theorem nodup_buckets (l : List κ) : (buckets l).Nodup := by
  refine (List.nodup_dedup l).map fun k k' h => ?_
  exact congrArg Bucket.key h

theorem length_buckets (l : List κ) : (buckets l).length = l.dedup.length := List.length_map _

/-- The counts of all buckets add up to the length. -/
theorem sum_buckets (l : List κ) : ((buckets l).map Bucket.count).sum = l.length := by
  rw [buckets, List.map_map]
  exact List.sum_map_count_dedup_eq_length l

variable {order : Order κ} {size : Nat} {l : List κ}

/-- A list of buckets has at most one for a key. -/
theorem find?_key {bs : List (Bucket κ)} (hsub : ∀ b ∈ bs, b ∈ buckets l) (k : κ) :
    bs.find? (fun b => b.key = k) = if ⟨k, l.count k⟩ ∈ bs then some ⟨k, l.count k⟩ else none := by
  cases hf : bs.find? fun b => b.key = k with
  | some b =>
    have hb := List.mem_of_find?_eq_some hf
    have hkey : b.key = k := by simpa using List.find?_some hf
    have hcount := (mem_buckets.mp (hsub b hb)).2
    have heq : b = ⟨k, l.count k⟩ := by rw [← hkey, ← hcount]
    rw [if_pos (heq ▸ hb), heq]
  | none =>
    refine (if_neg fun hmem => ?_).symm
    have hno := List.find?_eq_none.mp hf _ hmem
    simp at hno

theorem mem_buckets_of_mem_top {b : Bucket κ} (h : b ∈ top order size l) : b ∈ buckets l :=
  order.mem_arrange.mp (List.mem_of_mem_take h)

/-- With few keys no bucket is left out. -/
theorem top_perm (h : l.dedup.length ≤ size) : (top order size l).Perm (buckets l) := by
  have hlen : (order.arrange (buckets l)).length ≤ size := by rw [order.length_arrange, length_buckets]; exact h
  rw [top, List.take_of_length_le hlen]
  exact order.perm (buckets l)

/-- Every key that occurs has its bucket. -/
def Covers (l : List κ) (bs : List (Bucket κ)) : Prop := ∀ k, 0 < l.count k → ⟨k, l.count k⟩ ∈ bs

theorem top_covers_iff : Covers l (top order size l) ↔ l.dedup.length ≤ size := by
  constructor
  · intro h
    have hsub : buckets l ⊆ top order size l := by
      intro b hb
      obtain ⟨hkey, hcount⟩ := mem_buckets.mp hb
      have hmem := h b.key (List.count_pos_iff.mpr hkey)
      rwa [← hcount] at hmem
    -- all of them, without repetition, fit among the first `size`
    have hle := ((nodup_buckets l).subperm hsub).length_le
    rw [length_buckets, top, List.length_take] at hle
    omega
  · intro h k hk
    exact (top_perm h).mem_iff.mpr (mem_buckets.mpr ⟨List.count_pos_iff.mp hk, rfl⟩)

theorem sum_top (h : l.dedup.length ≤ size) : ((top order size l).map Bucket.count).sum = l.length := by
  rw [((top_perm h).map Bucket.count).sum_eq, sum_buckets]

end

end Soufang.Buckets
