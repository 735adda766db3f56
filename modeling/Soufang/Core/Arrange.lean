import Soufang.Core.Lts

/-!
# The order in which a store returns rows

A store answers a query with the matching rows in an order of its own: any
permutation when nothing is asked (`Arrangement`), one sorted by the key when
a sort is asked, with ties in any order (`SortedArrangement`). The structures
carry what the store promises, so a result about all of them is one about
every answer the store may give. `window` is the LIMIT/OFFSET of a page.
-/
namespace Soufang

structure Arrangement (α : Type) where
  arrange : List α → List α
  perm : ∀ l, (arrange l).Perm l

structure SortedArrangement {α : Type} (le : α → α → Prop) extends Arrangement α where
  sorted : ∀ l, (arrange l).Pairwise le

namespace Arrangement

variable {α : Type} (o : Arrangement α)

@[simp] theorem mem_arrange {a : α} {l : List α} : a ∈ o.arrange l ↔ a ∈ l := (o.perm l).mem_iff

@[simp] theorem length_arrange (l : List α) : (o.arrange l).length = l.length := (o.perm l).length_eq

/-- Insertion order. -/
def stored (α : Type) : Arrangement α := ⟨fun l => l, fun _ => .refl _⟩

end Arrangement

/-- Sorted by the key `f`, with ties in the order of an insertion sort. -/
def SortedArrangement.insertion {α β : Type} (f : α → β) (le : β → β → Prop) [DecidableRel le]
    [Std.Total le] [IsTrans β le] : SortedArrangement fun a b : α => le (f a) (f b) where
  arrange := List.insertionSort fun a b => le (f a) (f b)
  perm := List.perm_insertionSort _
  sorted :=
    haveI : Std.Total fun a b : α => le (f a) (f b) := ⟨fun a b => Std.Total.total (f a) (f b)⟩
    haveI : IsTrans α fun a b => le (f a) (f b) := ⟨fun _ _ _ => trans_of le⟩
    List.pairwise_insertionSort _

/-- The rows at positions `start`, ..., `start + size - 1`. -/
def window {α : Type} (start size : Nat) (l : List α) : List α := (l.drop start).take size

theorem mem_of_mem_window {α : Type} {start size : Nat} {l : List α} {a : α}
    (h : a ∈ window start size l) : a ∈ l := List.mem_of_mem_drop (List.mem_of_mem_take h)

theorem window_length {α : Type} (start size : Nat) (l : List α) :
    (window start size l).length = min size (l.length - start) := by
  simp [window]

theorem window_map {α β : Type} (f : α → β) (start size : Nat) (l : List α) :
    (window start size l).map f = window start size (l.map f) := by
  simp [window, List.map_take, List.map_drop]

theorem window_eq_nil {α : Type} {start size : Nat} {l : List α} (hs : 0 < size) :
    window start size l = [] ↔ l.length ≤ start := by
  rw [← List.length_eq_zero_iff, window_length]
  omega

end Soufang
