import Soufang.Core.Table

/-!
# Tables with several unique keys

`KeyedTable α` is a table whose primary keys are distinct and whose unique
keys (`Keyed.uniques`, each `none` for a row with a NULL there) each hold
distinct values. The fields carry both, so a unique value names at most one
row (`findBy_eq_some`).

`update?` is an UPDATE of one row that may write key columns: `none` when two
rows would share a unique value. An UPDATE that leaves the key columns alone
is never refused (`update?_of_same`).
-/
namespace Soufang

class Keyed (α : Type) where
  id : α → Int
  Value : Type
  decValue : DecidableEq Value
  uniques : List (α → Option Value)

attribute [reducible, instance] Keyed.decValue

structure KeyedTable (α : Type) [Keyed α] where
  rows : List α
  ids : (rows.map Keyed.id).Nodup
  distinct : ∀ k ∈ (Keyed.uniques : List (α → Option (Keyed.Value α))), (rows.filterMap k).Nodup

namespace KeyedTable

/-- Where the values of `k` are distinct, a value names one element. -/
theorem eq_of_nodup_filterMap {α β : Type} {k : α → Option β} {v : β} : ∀ {l : List α},
    (l.filterMap k).Nodup → ∀ {a b : α}, a ∈ l → b ∈ l → k a = some v → k b = some v → a = b := by
  intro l
  induction l with
  | nil => intro _ a b ha; cases ha
  | cons x l ih =>
    intro hn a b ha hb hka hkb
    have hmem : ∀ {c}, c ∈ l → k c = some v → v ∈ l.filterMap k :=
      fun hc hk => List.mem_filterMap.mpr ⟨_, hc, hk⟩
    have htail : (l.filterMap k).Nodup := by
      cases hx : k x with
      | none => rwa [List.filterMap_cons_none hx] at hn
      | some w =>
        rw [List.filterMap_cons_some hx] at hn
        exact (List.nodup_cons.mp hn).2
    have hnot : k x = some v → v ∉ l.filterMap k := fun hx => by
      rw [List.filterMap_cons_some hx] at hn
      exact (List.nodup_cons.mp hn).1
    rcases List.mem_cons.mp ha with rfl | ha'
    · rcases List.mem_cons.mp hb with rfl | hb'
      · rfl
      · exact absurd (hmem hb' hkb) (hnot hka)
    · rcases List.mem_cons.mp hb with rfl | hb'
      · exact absurd (hmem ha' hka) (hnot hkb)
      · exact ih htail ha' hb' hka hkb

variable {α : Type} [Keyed α]

/-- `rows` with the row of key `i` rewritten by `f`. -/
def rewritten (rows : List α) (i : Int) (f : α → α) : List α :=
  rows.map fun a => if Keyed.id a = i then f a else a

theorem ids_rewritten (rows : List α) (i : Int) {f : α → α} (hid : ∀ a, Keyed.id (f a) = Keyed.id a) :
    (rewritten rows i f).map Keyed.id = rows.map Keyed.id := by
  rw [rewritten, List.map_map]
  refine List.map_congr_left fun a _ => ?_
  simp only [Function.comp]
  split <;> simp [hid]

/-- UPDATE of the row with key `i`; `none` when a unique key refuses it. -/
def update? (t : KeyedTable α) (i : Int) (f : α → α) (hid : ∀ a, Keyed.id (f a) = Keyed.id a) :
    Option (KeyedTable α) :=
  if h : ∀ k ∈ (Keyed.uniques : List (α → Option (Keyed.Value α))),
      ((rewritten t.rows i f).filterMap k).Nodup then
    some ⟨rewritten t.rows i f, by rw [ids_rewritten _ _ hid]; exact t.ids, h⟩
  else none

def find? (t : KeyedTable α) (i : Int) : Option α := t.rows.find? fun a => Keyed.id a = i

/-- The row whose unique key `k` holds `v`. -/
def findBy (t : KeyedTable α) (k : α → Option (Keyed.Value α)) (v : Keyed.Value α) : Option α :=
  t.rows.find? fun a => k a = some v

theorem find?_eq_some {t : KeyedTable α} {i : Int} {a : α} :
    t.find? i = some a ↔ a ∈ t.rows ∧ Keyed.id a = i := by
  have hu : ∀ a ∈ t.rows, ∀ b ∈ t.rows, Keyed.id a = i → Keyed.id b = i → a = b := by
    intro a ha b hb hai hbi
    exact List.inj_on_of_nodup_map t.ids ha hb (hai.trans hbi.symm)
  exact find?_eq_some_of_unique hu

theorem findBy_eq_some {t : KeyedTable α} {k : α → Option (Keyed.Value α)} (hk : k ∈ Keyed.uniques)
    {v : Keyed.Value α} {a : α} : t.findBy k v = some a ↔ a ∈ t.rows ∧ k a = some v := by
  have hu : ∀ a ∈ t.rows, ∀ b ∈ t.rows, k a = some v → k b = some v → a = b := by
    intro a ha b hb hav hbv
    exact eq_of_nodup_filterMap (t.distinct k hk) ha hb hav hbv
  exact find?_eq_some_of_unique hu

section update
variable {t t' : KeyedTable α} {i : Int} {f : α → α} {hid : ∀ a, Keyed.id (f a) = Keyed.id a}

theorem update?_rows (h : t.update? i f hid = some t') : t'.rows = rewritten t.rows i f := by
  unfold update? at h
  split at h
  · cases h; rfl
  · cases h

theorem find?_update? (h : t.update? i f hid = some t') (j : Int) :
    t'.find? j = if j = i then (t.find? i).map f else t.find? j := by
  unfold find?
  rw [update?_rows h, rewritten, List.find?_map]
  have hp : ((fun a : α => decide (Keyed.id a = j)) ∘ fun a => if Keyed.id a = i then f a else a) =
      fun a => decide (Keyed.id a = j) := by
    funext a
    simp only [Function.comp]
    split <;> simp [hid]
  rw [hp]
  cases hf : t.rows.find? fun a => decide (Keyed.id a = j) with
  | none =>
    split
    · rename_i hj
      subst hj
      rw [hf]
      rfl
    · rfl
  | some a =>
    have ha : Keyed.id a = j := by simpa using List.find?_some hf
    by_cases hj : j = i
    · subst hj
      simp [hf, ha]
    · simp [ha, hj]

theorem update?_of_same (t : KeyedTable α) (i : Int) {f : α → α} (hid : ∀ a, Keyed.id (f a) = Keyed.id a)
    (hk : ∀ k ∈ (Keyed.uniques : List (α → Option (Keyed.Value α))), ∀ a, k (f a) = k a) :
    ∃ t', t.update? i f hid = some t' := by
  have hsame : ∀ k ∈ (Keyed.uniques : List (α → Option (Keyed.Value α))),
      (rewritten t.rows i f).filterMap k = t.rows.filterMap k := by
    intro k hmem
    rw [rewritten, List.filterMap_map]
    refine List.filterMap_congr fun a _ => ?_
    simp only [Function.comp]
    split
    · exact hk k hmem a
    · rfl
  unfold update?
  rw [dif_pos fun k hmem => by rw [hsame k hmem]; exact t.distinct k hmem]
  exact ⟨_, rfl⟩

end update

end KeyedTable

end Soufang
