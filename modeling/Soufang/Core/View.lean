import Mathlib
import Soufang.Core.Arrange

/-!
# A materialised view of a table

A replica keeps one copy of each row of a table, under the key of the row.
`View` says that it does: keys are unique on both sides, every row has its
copy, in the relation `R` to it, and every copy has its row.

A view of a table is a view of each selection of it (`View.filter`), so
counting and listing the copies gives what counting and listing the rows gives
(`View.length_eq`, `View.map_perm`, `View.count_eq`).

Two stores that sort by the same value return it in the same sequence
(`sorted_values_eq`); where no two rows share a value they return the rows in
the same order (`sorted_columns_eq`).
-/
namespace Soufang

structure View {κ α β : Type*} (rowKey : α → κ) (copyKey : β → κ) (R : α → β → Prop) (rows : List α)
    (copies : List β) : Prop where
  rowKeys : (rows.map rowKey).Nodup
  copyKeys : (copies.map copyKey).Nodup
  copied : ∀ a ∈ rows, ∃ b ∈ copies, copyKey b = rowKey a ∧ R a b
  sourced : ∀ b ∈ copies, ∃ a ∈ rows, rowKey a = copyKey b

namespace View

variable {κ α β : Type*} {rowKey : α → κ} {copyKey : β → κ} {R : α → β → Prop} {rows : List α} {copies : List β}

/-- A copy is related to the row with its key. -/
theorem related (h : View rowKey copyKey R rows copies) {a : α} {b : β} (ha : a ∈ rows) (hb : b ∈ copies)
    (hk : rowKey a = copyKey b) : R a b := by
  obtain ⟨b', hb', hk', hr⟩ := h.copied a ha
  have hsame : b' = b := List.inj_on_of_nodup_map h.copyKeys hb' hb (hk'.trans hk)
  rwa [hsame] at hr

/-- The row of a copy, and how it relates to it. -/
theorem source (h : View rowKey copyKey R rows copies) {b : β} (hb : b ∈ copies) :
    ∃ a ∈ rows, rowKey a = copyKey b ∧ R a b := by
  obtain ⟨a, ha, hk⟩ := h.sourced b hb
  exact ⟨a, ha, hk, h.related ha hb hk⟩

theorem keys_perm (h : View rowKey copyKey R rows copies) : (copies.map copyKey).Perm (rows.map rowKey) := by
  rw [List.perm_ext_iff_of_nodup h.copyKeys h.rowKeys]
  intro k
  simp only [List.mem_map]
  constructor
  · intro hk
    obtain ⟨b, hb, hbk⟩ := hk
    obtain ⟨a, ha, hak⟩ := h.sourced b hb
    exact ⟨a, ha, hak.trans hbk⟩
  · intro hk
    obtain ⟨a, ha, hak⟩ := hk
    obtain ⟨b, hb, hbk, -⟩ := h.copied a ha
    exact ⟨b, hb, hbk.trans hak⟩

theorem length_eq (h : View rowKey copyKey R rows copies) : copies.length = rows.length := by
  have hlen := h.keys_perm.length_eq
  rwa [List.length_map, List.length_map] at hlen

/-- A selection that reads the same from a row and its copy. -/
theorem filter (h : View rowKey copyKey R rows copies) {p : α → Bool} {q : β → Bool}
    (hpq : ∀ a ∈ rows, ∀ b ∈ copies, R a b → q b = p a) :
    View rowKey copyKey R (rows.filter p) (copies.filter q) := by
  refine ⟨h.rowKeys.sublist (List.filter_sublist.map _), h.copyKeys.sublist (List.filter_sublist.map _), ?_, ?_⟩
  · intro a ha
    obtain ⟨ha, hp⟩ := List.mem_filter.mp ha
    obtain ⟨b, hb, hk, hr⟩ := h.copied a ha
    exact ⟨b, List.mem_filter.mpr ⟨hb, by rw [hpq a ha b hb hr, hp]⟩, hk, hr⟩
  · intro b hb
    obtain ⟨hb, hq⟩ := List.mem_filter.mp hb
    obtain ⟨a, ha, hk, hr⟩ := h.source hb
    exact ⟨a, List.mem_filter.mpr ⟨ha, by rw [← hpq a ha b hb hr, hq]⟩, hk⟩

/-- Counting the copies of a selection. -/
theorem count_eq (h : View rowKey copyKey R rows copies) {p : α → Bool} {q : β → Bool}
    (hpq : ∀ a ∈ rows, ∀ b ∈ copies, R a b → q b = p a) : (copies.filter q).length = (rows.filter p).length :=
  (h.filter hpq).length_eq

/-- A column that a copy takes over. -/
theorem map_perm {γ : Type*} (h : View rowKey copyKey R rows copies) {f : α → γ} {g : β → γ}
    (hfg : ∀ a ∈ rows, ∀ b ∈ copies, R a b → g b = f a) : (copies.map g).Perm (rows.map f) := by
  classical
  rw [List.perm_iff_count]
  intro c
  rw [List.count_eq_length_filter, List.count_eq_length_filter, List.filter_map, List.filter_map,
    List.length_map, List.length_map]
  refine h.count_eq fun a ha b hb hr => ?_
  simp only [Function.comp_apply, hfg a ha b hb hr]

/-- The rows of some copies, one for each and in their order. -/
theorem rowsOf (h : View rowKey copyKey R rows copies) : ∀ {bs : List β}, (∀ b ∈ bs, b ∈ copies) →
    ∃ as : List α, (∀ a ∈ as, a ∈ rows) ∧ List.Forall₂ R as bs
  | [], _ => ⟨[], List.forall_mem_nil _, .nil⟩
  | b :: bs, hbs => by
    obtain ⟨a, ha, -, hr⟩ := h.source (hbs b List.mem_cons_self)
    obtain ⟨as, has, hall⟩ := h.rowsOf fun b' hb' => hbs b' (List.mem_cons_of_mem _ hb')
    refine ⟨a :: as, fun a' ha' => ?_, .cons hr hall⟩
    rcases List.mem_cons.mp ha' with rfl | ha'
    · exact ha
    · exact has a' ha'

/-- A column of them. -/
theorem map_rowsOf {γ : Type*} {f : α → γ} {g : β → γ} (hfg : ∀ a ∈ rows, ∀ b, R a b → g b = f a)
    {as : List α} {bs : List β} (has : ∀ a ∈ as, a ∈ rows) (hall : List.Forall₂ R as bs) : bs.map g = as.map f := by
  induction hall with
  | nil => rfl
  | cons hr _ ih =>
    rw [List.map_cons, List.map_cons, hfg _ (has _ List.mem_cons_self) _ hr,
      ih fun a ha => has a (List.mem_cons_of_mem _ ha)]

end View

/-! ## Sorted answers of two stores -/

section
variable {α β γ κ : Type} {le : κ → κ → Prop} {f : α → κ} {g : β → κ} {l : List α} {l' : List β}

theorem sorted_values_eq (hle : ∀ a b, le a b → le b a → a = b) (o : SortedArrangement fun a b => le (f a) (f b))
    (o' : SortedArrangement fun a b => le (g a) (g b)) (h : (l.map f).Perm (l'.map g)) :
    (o.arrange l).map f = (o'.arrange l').map g := by
  have hperm := ((o.perm l).map f).trans (h.trans ((o'.perm l').map g).symm)
  refine hperm.eq_of_pairwise (fun a b _ _ => hle a b) ?_ ?_
  · exact List.pairwise_map.mpr (o.sorted l)
  · exact List.pairwise_map.mpr (o'.sorted l')

/-- Without ties a further column comes in the same sequence. -/
theorem sorted_columns_eq (hle : ∀ a b, le a b → le b a → a = b) (o : SortedArrangement fun a b => le (f a) (f b))
    (o' : SortedArrangement fun a b => le (g a) (g b)) {c : α → γ} {c' : β → γ}
    (h : (l.map fun a => (f a, c a)).Perm (l'.map fun b => (g b, c' b))) (hn : (l.map f).Nodup) :
    (o.arrange l).map c = (o'.arrange l').map c' := by
  have hpairs : (o.arrange l).map (fun a => (f a, c a)) = (o'.arrange l').map fun b => (g b, c' b) := by
    have hperm : ((o.arrange l).map fun a => (f a, c a)).Perm (l.map fun a => (f a, c a)) := (o.perm l).map _
    have harranged := hperm.trans (h.trans ((o'.perm l').map fun b => (g b, c' b)).symm)
    refine harranged.eq_of_pairwise (?_ : ∀ p q : κ × γ, _ → _ → le p.1 q.1 → le q.1 p.1 → p = q) ?_ ?_
    · -- two pairs with the same value are the same pair
      intro p q hp hq hpq hqp
      have hp : p ∈ l.map fun a => (f a, c a) := hperm.mem_iff.mp hp
      have hq : q ∈ l.map fun a => (f a, c a) := h.symm.mem_iff.mp (((o'.perm l').map _).mem_iff.mp hq)
      obtain ⟨a, ha, rfl⟩ := List.mem_map.mp hp
      obtain ⟨b, hb, rfl⟩ := List.mem_map.mp hq
      rw [List.inj_on_of_nodup_map hn ha hb (hle _ _ hpq hqp)]
    · exact List.pairwise_map.mpr (o.sorted l)
    · exact List.pairwise_map.mpr (o'.sorted l')
  have hsecond := congrArg (List.map Prod.snd) hpairs
  rwa [List.map_map, List.map_map] at hsecond

end

theorem nodup_of_unique_filter {α κ : Type} [DecidableEq κ] {f : α → κ} {l : List α}
    (h : ∀ k, (l.filter fun a => f a = k).length ≤ 1) : (l.map f).Nodup := by
  rw [List.nodup_iff_count_le_one]
  intro k
  rw [List.count_eq_length_filter, List.filter_map, List.length_map]
  exact h k

end Soufang
