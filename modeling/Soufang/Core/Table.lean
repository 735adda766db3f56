import Soufang.Core.Lts

/-!
# Relational tables with an auto-increment key

A `Table α` is a list of rows in insertion order together with the next
auto-increment value. Its fields carry what the database engine guarantees:
the primary keys are distinct and below `next`, and the values of the unique
key (`Entity.uniq`, `none` for a row the key does not constrain) are
distinct. A table that breaks a key cannot be built, so nothing above this
module proves key uniqueness again.

* `insert?`: one new row under the next key; `none` on a duplicate key.
* `insertAll?`: several rows in one transaction, all or none
  (`insertAll?_isSome`: exactly when the unique values stay distinct).
* `tabulate`: a table given by its rows.
* `modify`: rewrite the row of a key in place.
* `remove`: delete the rows that satisfy a predicate.
-/
namespace Soufang

/-- Rows with a primary key and at most one further unique key. -/
class Entity (α : Type) where
  id : α → Int
  withId : Int → α → α
  id_withId : ∀ i a, id (withId i a) = i
  Uniq : Type
  uniq : α → Option Uniq
  uniq_withId : ∀ i a, uniq (withId i a) = uniq a
  decUniq : DecidableEq Uniq

attribute [reducible, instance] Entity.decUniq
attribute [simp] Entity.id_withId Entity.uniq_withId

/-- Where at most one element satisfies `p`, it is the one found. -/
theorem find?_eq_some_of_unique {α : Type} {p : α → Prop} [DecidablePred p] {l : List α}
    (hu : ∀ a ∈ l, ∀ b ∈ l, p a → p b → a = b) {a : α} : (l.find? fun a => p a) = some a ↔ a ∈ l ∧ p a := by
  constructor
  · intro h
    exact ⟨List.mem_of_find?_eq_some h, by simpa using List.find?_some h⟩
  · intro ⟨ha, hp⟩
    cases h : l.find? fun a => p a with
    | none => exact absurd hp (by simpa using List.find?_eq_none.mp h a ha)
    | some b => rw [hu b (List.mem_of_find?_eq_some h) a ha (by simpa using List.find?_some h) hp]

structure Table (α : Type) [Entity α] where
  rows : List α
  next : Int
  keys : (rows.map Entity.id).Nodup
  fresh : ∀ r ∈ rows, Entity.id r < next
  uniques : (rows.filterMap Entity.uniq).Nodup

namespace Table

variable {α : Type} [Entity α]

theorem ext_rows {t t' : Table α} (h : t.rows = t'.rows) (hn : t.next = t'.next) : t = t' := by
  cases t; cases t'
  simp only at h hn
  subst h; subst hn; rfl

instance [DecidableEq α] : DecidableEq (Table α) := fun t t' =>
  decidable_of_iff (t.rows = t'.rows ∧ t.next = t'.next)
    ⟨fun h => ext_rows h.1 h.2, fun h => h ▸ ⟨rfl, rfl⟩⟩

/-- A new table; the first row gets key 1. -/
def empty : Table α := ⟨[], 1, .nil, by simp, .nil⟩

def find? (t : Table α) (i : Int) : Option α := t.rows.find? fun r => Entity.id r = i

/-- The unique value of `a` is taken. -/
def Clash (t : Table α) (a : α) : Prop :=
  ∃ k ∈ t.rows.filterMap Entity.uniq, Entity.uniq a = some k

instance (t : Table α) (a : α) : Decidable (t.Clash a) :=
  inferInstanceAs (Decidable (∃ k ∈ _, _))

private theorem keys_snoc (t : Table α) (a : α) :
    ((t.rows ++ [Entity.withId t.next a]).map Entity.id).Nodup := by
  rw [List.map_append, List.nodup_append]
  refine ⟨t.keys, by simp, ?_⟩
  intro i hi j hj
  simp only [List.map_cons, List.map_nil, List.mem_singleton, Entity.id_withId] at hj
  obtain ⟨r, hr, rfl⟩ := List.mem_map.mp hi
  have := t.fresh r hr
  omega

private theorem fresh_snoc (t : Table α) (a : α) :
    ∀ r ∈ t.rows ++ [Entity.withId t.next a], Entity.id r < t.next + 1 := by
  intro r hr
  rcases List.mem_append.mp hr with hr | hr
  · have := t.fresh r hr; omega
  · rw [List.mem_singleton.mp hr, Entity.id_withId]; omega

private theorem uniques_snoc {t : Table α} {a : α} (h : ¬ t.Clash a) :
    ((t.rows ++ [Entity.withId t.next a]).filterMap Entity.uniq).Nodup := by
  rw [List.filterMap_append, List.nodup_append]
  refine ⟨t.uniques, ?_, ?_⟩
  · simp only [List.filterMap_cons, List.filterMap_nil, Entity.uniq_withId]
    cases Entity.uniq a <;> simp
  · intro k hk k' hk' he
    subst he
    simp only [List.filterMap_cons, List.filterMap_nil, Entity.uniq_withId] at hk'
    cases hu : Entity.uniq a with
    | none => rw [hu] at hk'; cases hk'
    | some u =>
      rw [hu, List.mem_singleton] at hk'
      exact h ⟨k, hk, by rw [hu, hk']⟩

/-- INSERT of one row; `none` when the unique key refuses it. -/
def insert? (t : Table α) (a : α) : Option (Table α) :=
  if h : t.Clash a then none
  else some ⟨t.rows ++ [Entity.withId t.next a], t.next + 1, keys_snoc t a, fresh_snoc t a,
    uniques_snoc h⟩

/-- INSERT of several rows in one transaction. -/
def insertAll? (t : Table α) (as : List α) : Option (Table α) := as.foldlM insert? t

/-- The rows `as` under the keys `n`, `n + 1`, ... -/
def numbered (n : Int) : List α → List α
  | [] => []
  | a :: as => Entity.withId n a :: numbered (n + 1) as

/-- UPDATE of the row with key `i` by a function that keeps both keys. -/
def modify (t : Table α) (i : Int) (f : α → α) (hid : ∀ a, Entity.id (f a) = Entity.id a)
    (hu : ∀ a, Entity.uniq (f a) = Entity.uniq a) : Table α where
  rows := t.rows.map fun a => if Entity.id a = i then f a else a
  next := t.next
  keys := by
    have h : (Entity.id ∘ fun a : α => if Entity.id a = i then f a else a) = Entity.id := by
      funext a; simp only [Function.comp]; split <;> simp [hid]
    rw [List.map_map, h]; exact t.keys
  fresh := by
    intro r hr
    obtain ⟨a, ha, rfl⟩ := List.mem_map.mp hr
    have := t.fresh a ha
    split <;> simp_all
  uniques := by
    have h : (Entity.uniq ∘ fun a : α => if Entity.id a = i then f a else a) = Entity.uniq := by
      funext a; simp only [Function.comp]; split <;> simp [hu]
    rw [List.filterMap_map, h]; exact t.uniques

theorem nodup_keys (n : Nat) : ((List.range n).map fun i : Nat => (i : Int) + 1).Nodup :=
  List.nodup_range.map fun i j hij => by
    have hij : (i : Int) + 1 = j + 1 := hij
    omega

/-- The rows `f 0`, ..., `f (n - 1)` under the keys 1, ..., n. -/
def tabulate (n : Nat) (f : Nat → α) (hid : ∀ i, Entity.id (f i) = i + 1)
    (hu : (((List.range n).map f).filterMap Entity.uniq).Nodup) : Table α where
  rows := (List.range n).map f
  next := n + 1
  keys := by
    have h : (Entity.id ∘ f) = fun i : Nat => (i : Int) + 1 := funext hid
    rw [List.map_map, h]
    exact nodup_keys n
  fresh := by
    intro r hr
    obtain ⟨i, hi, rfl⟩ := List.mem_map.mp hr
    have := List.mem_range.mp hi
    rw [hid]
    omega
  uniques := hu

/-- DELETE of the rows that satisfy `p`. -/
def remove (t : Table α) (p : α → Bool) : Table α where
  rows := t.rows.filter fun r => !p r
  next := t.next
  keys := t.keys.sublist (List.filter_sublist.map _)
  fresh := fun r hr => t.fresh r (List.mem_filter.mp hr).1
  uniques := t.uniques.sublist (List.filter_sublist.filterMap _)

/-! ## Lookup -/

theorem find?_some {t : Table α} {i : Int} {r : α} (h : t.find? i = some r) :
    r ∈ t.rows ∧ Entity.id r = i :=
  ⟨List.mem_of_find?_eq_some h, by simpa using List.find?_some h⟩

theorem find?_eq_none {t : Table α} {i : Int} :
    t.find? i = none ↔ ∀ r ∈ t.rows, Entity.id r ≠ i := by
  simp [find?, List.find?_eq_none]

theorem id_inj {t : Table α} {a b : α} (ha : a ∈ t.rows) (hb : b ∈ t.rows) (h : Entity.id a = Entity.id b) :
    a = b := List.inj_on_of_nodup_map t.keys ha hb h

/-- Rows are told apart by their ids. -/
theorem forall_id_iff {t : Table α} {p q : α → Prop} :
    (∀ i, (∃ r ∈ t.rows, p r ∧ Entity.id r = i) ↔ ∃ r ∈ t.rows, q r ∧ Entity.id r = i) ↔
      ∀ r ∈ t.rows, (p r ↔ q r) := by
  constructor
  · intro hall r hr
    constructor
    · intro hp
      obtain ⟨r', hr', hq, hid⟩ := (hall (Entity.id r)).mp ⟨r, hr, hp, rfl⟩
      rwa [id_inj hr hr' hid.symm]
    · intro hq
      obtain ⟨r', hr', hp, hid⟩ := (hall (Entity.id r)).mpr ⟨r, hr, hq, rfl⟩
      rwa [id_inj hr hr' hid.symm]
  · intro hall i
    exact exists_congr fun r => and_congr_right fun hr => and_congr_left fun _ => hall r hr

theorem find?_eq_some {t : Table α} {i : Int} {r : α} :
    t.find? i = some r ↔ r ∈ t.rows ∧ Entity.id r = i := by
  have hu : ∀ a ∈ t.rows, ∀ b ∈ t.rows, Entity.id a = i → Entity.id b = i → a = b := by
    intro a ha b hb hai hbi
    exact id_inj ha hb (hai.trans hbi.symm)
  exact find?_eq_some_of_unique hu

theorem find?_next (t : Table α) : t.find? t.next = none :=
  find?_eq_none.mpr fun r hr h => by have := t.fresh r hr; omega

@[simp] theorem find?_empty (i : Int) : (empty : Table α).find? i = none := rfl

/-! ## Insert -/

theorem insert?_some {t t' : Table α} {a : α} (h : t.insert? a = some t') :
    t'.rows = t.rows ++ [Entity.withId t.next a] ∧ t'.next = t.next + 1 := by
  unfold insert? at h
  split at h
  · cases h
  · simp only [Option.some.injEq] at h; subst h; exact ⟨rfl, rfl⟩

theorem insert?_eq_none {t : Table α} {a : α} : t.insert? a = none ↔ t.Clash a := by
  unfold insert?; split <;> simp_all

theorem find?_insert? {t t' : Table α} {a : α} (h : t.insert? a = some t') (i : Int) :
    t'.find? i = if i = t.next then some (Entity.withId t.next a) else t.find? i := by
  obtain ⟨hr, -⟩ := insert?_some h
  have hn := find?_next t
  unfold find? at hn ⊢
  rw [hr, List.find?_append]
  by_cases hi : i = t.next
  · subst hi; rw [hn]; simp
  · have : ¬ t.next = i := fun e => hi e.symm
    simp [hi, this]

theorem not_clash_of_uniq_none {t : Table α} {a : α} (h : Entity.uniq a = none) : ¬ t.Clash a := by
  rintro ⟨k, -, hk⟩; rw [h] at hk; cases hk

theorem insertAll?_some {as : List α} : ∀ {t t' : Table α}, t.insertAll? as = some t' →
    t'.rows = t.rows ++ numbered t.next as := by
  induction as with
  | nil =>
    intro t t' h
    simp only [insertAll?, List.foldlM_nil, Option.pure_def, Option.some.injEq] at h
    subst h; simp [numbered]
  | cons a as ih =>
    intro t t' h
    simp only [insertAll?, List.foldlM_cons, Option.bind_eq_bind] at h
    cases h1 : t.insert? a with
    | none => rw [h1] at h; cases h
    | some t1 =>
      rw [h1] at h
      obtain ⟨hr, hn⟩ := insert?_some h1
      rw [ih h, hr, hn]
      simp [numbered]

/-- A transaction inserts iff the unique values stay distinct. -/
theorem insertAll?_isSome {as : List α} : ∀ {t : Table α}, (t.insertAll? as).isSome ↔
    (t.rows.filterMap Entity.uniq ++ as.filterMap Entity.uniq).Nodup := by
  induction as with
  | nil => intro t; simpa [insertAll?] using t.uniques
  | cons a as ih =>
    intro t
    simp only [insertAll?, List.foldlM_cons, Option.bind_eq_bind]
    cases h1 : t.insert? a with
    | none =>
      obtain ⟨k, hk, hu⟩ := insert?_eq_none.mp h1
      simp only [Option.bind_none, Option.isSome_none, Bool.false_eq_true, false_iff]
      intro hnd
      rw [List.filterMap_cons, hu] at hnd
      exact (List.nodup_append.mp hnd).2.2 k hk k (by simp) rfl
    | some t1 =>
      obtain ⟨hr, -⟩ := insert?_some h1
      have := ih (t := t1)
      rw [hr, List.filterMap_append] at this
      simp only [Option.bind_some]
      refine this.trans ?_
      cases hu : Entity.uniq a <;> simp [hu]

/-- Rows the unique key does not constrain are never refused. -/
theorem insert?_unconstrained {t : Table α} {a : α} (h : Entity.uniq a = none) :
    ∃ t', t.insert? a = some t' :=
  Option.ne_none_iff_exists'.mp fun hn => not_clash_of_uniq_none h (insert?_eq_none.mp hn)

theorem insertAll?_unconstrained {as : List α} {t : Table α} (h : ∀ a ∈ as, Entity.uniq a = none) :
    ∃ t', t.insertAll? as = some t' := by
  refine Option.isSome_iff_exists.mp (insertAll?_isSome.mpr ?_)
  rw [List.filterMap_eq_nil_iff.mpr h, List.append_nil]
  exact t.uniques

theorem length_numbered (n : Int) (as : List α) : (numbered n as).length = as.length := by
  induction as generalizing n with
  | nil => rfl
  | cons a as ih => simp [numbered, ih]

/-- A property the key assignment cannot see holds of the numbered rows when
it holds of the given ones. -/
theorem mem_numbered {n : Int} {as : List α} {r : α} (h : r ∈ numbered n as) :
    ∃ a ∈ as, ∃ i, r = Entity.withId i a := by
  induction as generalizing n with
  | nil => cases h
  | cons a as ih =>
    rcases List.mem_cons.mp h with rfl | h
    · exact ⟨a, List.mem_cons_self, n, rfl⟩
    · obtain ⟨b, hb, i, rfl⟩ := ih h
      exact ⟨b, List.mem_cons_of_mem _ hb, i, rfl⟩

theorem exists_numbered {n : Int} {as : List α} {a : α} (h : a ∈ as) :
    ∃ i, Entity.withId i a ∈ numbered n as := by
  induction as generalizing n with
  | nil => cases h
  | cons b as ih =>
    rcases List.mem_cons.mp h with rfl | h
    · exact ⟨n, List.mem_cons_self⟩
    · obtain ⟨i, hi⟩ := ih (n := n + 1) h
      exact ⟨i, List.mem_cons_of_mem _ hi⟩

section tabulate
variable {n : Nat} {f : Nat → α} (hid : ∀ i, Entity.id (f i) = i + 1)
  (hu : (((List.range n).map f).filterMap Entity.uniq).Nodup)

theorem mem_tabulate {r : α} : r ∈ (tabulate n f hid hu).rows ↔ ∃ i < n, f i = r := by
  simp [tabulate]

theorem find?_tabulate {i : Nat} (hi : i < n) : (tabulate n f hid hu).find? (i + 1) = some (f i) :=
  find?_eq_some.mpr ⟨(mem_tabulate hid hu).mpr ⟨i, hi, rfl⟩, hid i⟩

end tabulate

/-! ## Modify and remove -/

section modify
variable (t : Table α) (i : Int) (f : α → α) (hid : ∀ a, Entity.id (f a) = Entity.id a)
  (hu : ∀ a, Entity.uniq (f a) = Entity.uniq a)

theorem find?_modify (j : Int) :
    (t.modify i f hid hu).find? j = if j = i then (t.find? i).map f else t.find? j := by
  simp only [find?, modify, List.find?_map]
  have hp : ((fun r : α => decide (Entity.id r = j)) ∘ fun a => if Entity.id a = i then f a else a)
      = fun r => decide (Entity.id r = j) := by
    funext a; simp only [Function.comp]; split <;> simp [hid]
  rw [hp]
  cases h : t.rows.find? fun r => decide (Entity.id r = j) with
  | none => split <;> simp_all
  | some r =>
    have hr : Entity.id r = j := by simpa using List.find?_some h
    by_cases hj : j = i
    · subst hj; simp [h, hr]
    · simp [hr, hj]

theorem mem_modify {r : α} :
    r ∈ (t.modify i f hid hu).rows ↔ ∃ a ∈ t.rows, (if Entity.id a = i then f a else a) = r := by
  simp [modify]

end modify

end Table

end Soufang
