import Mathlib.Data.Finset.Insert
import Mathlib.Data.Finset.Erase
import Mathlib.Logic.Function.Basic
import Soufang.Core.Requests

/-!
# A set for every key

A store has a finite set under each key, and knows some of the keys. It takes
insertions and removals; a request for a key it knows answers whether its set
changed, any other is refused.
-/
namespace Soufang.SetStore

@[ext] structure Store (κ α : Type) where
  known : κ → Bool
  sets : κ → Finset α

inductive Op (κ α : Type)
  | insert (k : κ) (a : α)
  | remove (k : κ) (a : α)

section
variable {κ α : Type} [DecidableEq κ] [DecidableEq α]

def Op.key : Op κ α → κ
  | .insert k _ => k
  | .remove k _ => k

/-- The set after the operation. -/
def Op.apply : Op κ α → Finset α → Finset α
  | .insert _ a, t => Insert.insert a t
  | .remove _ a, t => t.erase a

def Store.put (s : Store κ α) (k : κ) (t : Finset α) : Store κ α :=
  { s with sets := Function.update s.sets k t }

omit [DecidableEq α] in
@[simp] theorem Store.put_sets (s : Store κ α) (k k' : κ) (t : Finset α) :
    (s.put k t).sets k' = if k' = k then t else s.sets k' := Function.update_apply _ _ _ _

/-- The store after the operation, and whether it succeeds. -/
def exec (s : Store κ α) (op : Op κ α) : Store κ α × Bool :=
  if s.known op.key then
    (s.put op.key (op.apply (s.sets op.key)), decide (op.apply (s.sets op.key) ≠ s.sets op.key))
  else (s, false)

variable {s : Store κ α} {op : Op κ α}

theorem exec_unknown (h : s.known op.key = false) : exec s op = (s, false) := by
  rw [exec, h]
  rfl

theorem exec_same (h : op.apply (s.sets op.key) = s.sets op.key) : exec s op = (s, false) := by
  have hput : s.put op.key (s.sets op.key) = s := by
    rw [Store.put, Function.update_eq_self]
  unfold exec
  split
  · rw [h, hput, decide_eq_false (not_not_intro rfl)]
  · rfl

theorem exec_changed (hk : s.known op.key = true) (h : op.apply (s.sets op.key) ≠ s.sets op.key) :
    exec s op = (s.put op.key (op.apply (s.sets op.key)), true) := by
  rw [exec, if_pos hk, decide_eq_true h]

section
variable {k : κ} {a : α}

theorem exec_insert_mem (ha : a ∈ s.sets k) : exec s (.insert k a) = (s, false) :=
  exec_same (Finset.insert_eq_self.mpr ha)

theorem exec_insert_new (hk : s.known k = true) (ha : a ∉ s.sets k) :
    exec s (.insert k a) = (s.put k (Insert.insert a (s.sets k)), true) := by
  have hnew : (Op.insert k a).apply (s.sets k) ≠ s.sets k := fun he => ha (Finset.insert_eq_self.mp he)
  exact exec_changed hk hnew

theorem exec_remove_new (ha : a ∉ s.sets k) : exec s (.remove k a) = (s, false) :=
  exec_same (Finset.erase_eq_self.mpr ha)

theorem exec_remove_mem (hk : s.known k = true) (ha : a ∈ s.sets k) :
    exec s (.remove k a) = (s.put k ((s.sets k).erase a), true) := by
  have hgone : (Op.remove k a).apply (s.sets k) ≠ s.sets k := fun he => Finset.erase_eq_self.mp he ha
  exact exec_changed hk hgone

end

/-- The sets of other keys stay. -/
theorem exec_other {k : κ} (h : k ≠ op.key) : (exec s op).1.sets k = s.sets k := by
  unfold exec
  split
  · exact Function.update_of_ne h _ _
  · rfl

/-- A sequence leaves the sets alone whose keys it does not name. -/
theorem run_other {k : κ} (ops : List (Op κ α)) (h : ∀ op ∈ ops, k ≠ op.key) (s : Store κ α) :
    (Requests.run exec s ops).1.sets k = s.sets k := by
  induction ops generalizing s with
  | nil => rfl
  | cons op ops ih =>
    obtain ⟨hop, hops⟩ := List.forall_mem_cons.mp h
    rw [Requests.run, ih hops, exec_other hop]

end

end Soufang.SetStore
