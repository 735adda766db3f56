import Mathlib

/-!
# Joining rows through a map

A program that has no join loads rows in several queries, puts the first ones
into a map by their key and lets a loop over the others update the entry each
of them names.

* `putEach`: the map of the rows (`putEach_get`: with distinct keys the entry
  of a key is its row).
* `updateEach`: the loop; `none` when a row names a key that is not in the map
  (`updateEach_isSome`).
* `updateEach_get`: an entry sees the rows with its key and no others, in the
  order of the loop.
-/
namespace Soufang

namespace Lookup

variable {κ α ρ : Type} [DecidableEq κ]

/-- `map.put(key r, entry r)` for each row. -/
def putEach (key : ρ → κ) (entry : ρ → α) : List ρ → (κ → Option α) → κ → Option α
  | [], m => m
  | r :: rest, m => putEach key entry rest (Function.update m (key r) (some (entry r)))

/-- For each row, change the entry of its key in place. -/
def updateEach (key : ρ → κ) (change : α → ρ → α) : List ρ → (κ → Option α) → Option (κ → Option α)
  | [], m => some m
  | r :: rest, m =>
    match m (key r) with
    | none => none
    | some a => updateEach key change rest (Function.update m (key r) (some (change a r)))

variable {key : ρ → κ} {entry : ρ → α} {change : α → ρ → α}

theorem putEach_other {rows : List ρ} {k : κ} (hk : ∀ r ∈ rows, key r ≠ k) (m : κ → Option α) :
    putEach key entry rows m k = m k := by
  induction rows generalizing m with
  | nil => rfl
  | cons r rest ih =>
    rw [putEach, ih fun r hr => hk r (List.mem_cons_of_mem _ hr)]
    exact Function.update_of_ne (hk r List.mem_cons_self).symm _ _

theorem putEach_mem {rows : List ρ} (hn : (rows.map key).Nodup) {r : ρ} (hr : r ∈ rows) (m : κ → Option α) :
    putEach key entry rows m (key r) = some (entry r) := by
  induction rows generalizing m with
  | nil => cases hr
  | cons x rest ih =>
    obtain ⟨hx, hrest⟩ := List.nodup_cons.mp hn
    rcases List.mem_cons.mp hr with rfl | hr
    · rw [putEach, putEach_other]
      · exact Function.update_self ..
      · intro y hy he
        exact hx (he ▸ List.mem_map_of_mem hy)
    · exact ih hrest hr _

/-- The entry of a key is the row with this key. -/
theorem putEach_get {rows : List ρ} (hn : (rows.map key).Nodup) (k : κ) :
    putEach key entry rows (fun _ => none) k = (rows.find? fun r => key r = k).map entry := by
  cases hf : rows.find? fun r => key r = k with
  | none => exact putEach_other (by simpa using List.find?_eq_none.mp hf) _
  | some r =>
    obtain rfl : key r = k := by simpa using List.find?_some hf
    exact putEach_mem hn (List.mem_of_find?_eq_some hf) _

/-- With distinct keys the rows of a key are the one found, or none. -/
theorem filter_eq_find? {rows : List ρ} (hn : (rows.map key).Nodup) (k : κ) :
    (rows.filter fun r => key r = k) = (rows.find? fun r => key r = k).toList := by
  induction rows with
  | nil => rfl
  | cons r rest ih =>
    obtain ⟨hr, hrest⟩ := List.nodup_cons.mp hn
    by_cases hk : key r = k
    · have hnil : (rest.filter fun r => key r = k) = [] := by
        rw [List.filter_eq_nil_iff]
        intro x hx he
        exact hr (List.mem_map.mpr ⟨x, hx, (of_decide_eq_true he).trans hk.symm⟩)
      simp [hk, hnil]
    · simpa [hk] using ih hrest

/-- The loop adds no key and loses none. -/
theorem isSome_update {m : κ → Option α} {k : κ} {a b : α} (ha : m k = some a) (i : κ) :
    (Function.update m k (some b) i).isSome = (m i).isSome := by
  by_cases hi : i = k
  · subst hi
    rw [Function.update_self, ha]
    rfl
  · rw [Function.update_of_ne hi]

/-- The loop ends iff every row names a key of the map. -/
theorem updateEach_isSome {rows : List ρ} {m : κ → Option α} :
    (updateEach key change rows m).isSome ↔ ∀ r ∈ rows, (m (key r)).isSome := by
  induction rows generalizing m with
  | nil => simp [updateEach]
  | cons r rest ih =>
    rw [updateEach, List.forall_mem_cons]
    cases ha : m (key r) with
    | none => simp
    | some a =>
      rw [ih]
      simp only [isSome_update ha, Option.isSome_some, true_and]

/-- An entry after the loop: changed by the rows that name its key. -/
theorem updateEach_get {rows : List ρ} {m m' : κ → Option α} (h : updateEach key change rows m = some m')
    (k : κ) : m' k = (m k).map fun a => (rows.filter fun r => key r = k).foldl change a := by
  induction rows generalizing m with
  | nil =>
    simp only [updateEach, Option.some.injEq] at h
    subst h
    simp
  | cons r rest ih =>
    rw [updateEach] at h
    cases ha : m (key r) with
    | none => simp [ha] at h
    | some a =>
      rw [ha] at h
      rw [ih h]
      by_cases hk : key r = k
      · subst hk
        simp [ha]
      · rw [Function.update_of_ne (Ne.symm hk), List.filter_cons_of_neg (by simpa using hk)]

end Lookup

end Soufang
