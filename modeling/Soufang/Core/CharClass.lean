import Mathlib.Computability.RegularExpressions
import Mathlib.Data.List.Basic

/-!
# Character classes

A character class of a regular expression is the sum of its characters. A word
is in the language of a repeated class exactly if it has that many characters,
all of the class (`mem_oneOf_pow`), or for `+` at least one (`mem_many1`). A
repetition of parts that start with a separator is a list of parts
(`mem_many1_separated`).
-/
namespace Soufang.CharClass

open RegularExpression

section
variable {α : Type*}

def oneOf (cs : List α) : RegularExpression α := (cs.map char).sum

theorem mem_oneOf {cs : List α} {x : List α} : x ∈ (oneOf cs).matches' ↔ ∃ c ∈ cs, x = [c] := by
  unfold oneOf
  induction cs with
  | nil => simp
  | cons c cs ih =>
    rw [List.map_cons, List.sum_cons, matches'_add, Language.mem_add, ih, matches'_char]
    simp only [List.mem_cons, exists_eq_or_imp]
    rfl

theorem mem_char_mul {a : α} {L : Language α} {x : List α} :
    x ∈ (char a).matches' * L ↔ ∃ rest, x = a :: rest ∧ rest ∈ L := by
  rw [matches'_char, Language.mem_mul]
  constructor
  · intro hx
    obtain ⟨_, rfl, rest, hr, hx⟩ := hx
    exact ⟨rest, hx.symm, hr⟩
  · intro ⟨rest, hx, hr⟩
    exact ⟨[a], rfl, rest, hr, hx.symm⟩

/-- `P` matches exactly the characters for which `good` holds. -/
def Matches (P : RegularExpression α) (good : α → Prop) : Prop :=
  ∀ x, x ∈ P.matches' ↔ ∃ c, good c ∧ x = [c]

theorem matches_oneOf {cs : List α} {good : α → Prop} (h : ∀ c, c ∈ cs ↔ good c) : Matches (oneOf cs) good := by
  intro x
  rw [mem_oneOf]
  exact exists_congr fun c => by rw [h c]

theorem Matches.add {P Q : RegularExpression α} {p q : α → Prop} (hP : Matches P p) (hQ : Matches Q q) :
    Matches (P + Q) fun c => p c ∨ q c := by
  intro x
  rw [matches'_add, Language.mem_add, hP x, hQ x, ← exists_or]
  exact exists_congr fun c => or_and_right.symm

theorem Matches.congr {P : RegularExpression α} {p q : α → Prop} (hP : Matches P p) (h : ∀ c, p c ↔ q c) :
    Matches P q := by
  intro x
  rw [hP x]
  exact exists_congr fun c => by rw [h c]

theorem Matches.mem_mul {P : RegularExpression α} {good : α → Prop} (hP : Matches P good) {L : Language α}
    {x : List α} : x ∈ P.matches' * L ↔ ∃ c rest, x = c :: rest ∧ good c ∧ rest ∈ L := by
  rw [Language.mem_mul]
  constructor
  · intro ⟨first, hf, rest, hr, hx⟩
    obtain ⟨c, hc, rfl⟩ := (hP first).mp hf
    exact ⟨c, rest, hx.symm, hc, hr⟩
  · intro ⟨c, rest, hx, hc, hr⟩
    exact ⟨[c], (hP [c]).mpr ⟨c, hc, rfl⟩, rest, hr, hx.symm⟩

/-- Two fixed characters, one of a class, and a rest. -/
theorem Matches.mem_third {a b : α} {P : RegularExpression α} {good : α → Prop} (hP : Matches P good)
    {L : Language α} {x : List α} : x ∈ (char a * (char b * P)).matches' * L ↔
      ∃ c rest, x = a :: b :: c :: rest ∧ good c ∧ rest ∈ L := by
  rw [matches'_mul, matches'_mul, mul_assoc, mul_assoc, mem_char_mul]
  constructor
  · intro hx
    obtain ⟨_, rfl, h⟩ := hx
    obtain ⟨_, rfl, htail⟩ := mem_char_mul.mp h
    obtain ⟨c, rest, rfl, hc, hr⟩ := hP.mem_mul.mp htail
    exact ⟨c, rest, rfl, hc, hr⟩
  · intro ⟨c, rest, hx, hc, hr⟩
    exact ⟨b :: c :: rest, hx, mem_char_mul.mpr ⟨c :: rest, rfl, hP.mem_mul.mpr ⟨c, rest, rfl, hc, hr⟩⟩⟩

theorem mem_oneOf_pow {cs : List α} {n : Nat} {x : List α} :
    x ∈ (oneOf cs ^ n).matches' ↔ x.length = n ∧ ∀ c ∈ x, c ∈ cs := by
  rw [matches'_pow]
  induction n generalizing x with
  | zero =>
    rw [pow_zero, Language.mem_one, List.length_eq_zero_iff]
    constructor
    · rintro rfl
      exact ⟨rfl, fun c hc => absurd hc (List.not_mem_nil)⟩
    · exact fun h => h.1
  | succ n ih =>
    rw [pow_succ', (matches_oneOf fun _ => Iff.rfl).mem_mul]
    constructor
    · intro hx
      obtain ⟨c, rest, rfl, hc, hr⟩ := hx
      obtain ⟨hlen, hall⟩ := ih.mp hr
      exact ⟨by rw [List.length_cons, hlen], List.forall_mem_cons.mpr ⟨hc, hall⟩⟩
    · intro ⟨hlen, hall⟩
      cases x with
      | nil => cases hlen
      | cons c rest =>
        obtain ⟨hc, hrest⟩ := List.forall_mem_cons.mp hall
        exact ⟨c, rest, rfl, hc, ih.mpr ⟨Nat.succ.inj hlen, hrest⟩⟩

/-- One or more, `P+`. -/
def many1 (P : RegularExpression α) : RegularExpression α := P * star P

theorem Matches.mem_star {P : RegularExpression α} {good : α → Prop} (hP : Matches P good) {x : List α} :
    x ∈ (star P).matches' ↔ ∀ c ∈ x, good c := by
  rw [matches'_star, Language.mem_kstar]
  constructor
  · intro hx
    obtain ⟨L, rfl, hL⟩ := hx
    intro c hc
    obtain ⟨y, hy, hcy⟩ := List.mem_flatten.mp hc
    obtain ⟨d, hd, rfl⟩ := (hP y).mp (hL y hy)
    rwa [List.mem_singleton.mp hcy]
  · intro h
    refine ⟨x.map fun c => [c], ?_, ?_⟩
    · induction x with
      | nil => rfl
      | cons c x ih =>
        rw [List.map_cons, List.flatten_cons, ← ih fun d hd => h d (List.mem_cons_of_mem _ hd)]
        rfl
    · intro y hy
      obtain ⟨c, hc, rfl⟩ := List.mem_map.mp hy
      exact (hP [c]).mpr ⟨c, h c hc, rfl⟩

theorem Matches.mem_many1 {P : RegularExpression α} {good : α → Prop} (hP : Matches P good) {x : List α} :
    x ∈ (many1 P).matches' ↔ x ≠ [] ∧ ∀ c ∈ x, good c := by
  rw [many1, matches'_mul, Language.mem_mul]
  constructor
  · intro hx
    obtain ⟨a, ha, b, hb, rfl⟩ := hx
    obtain ⟨c, hc, rfl⟩ := (hP a).mp ha
    exact ⟨List.cons_ne_nil _ _, List.forall_mem_cons.mpr ⟨hc, hP.mem_star.mp hb⟩⟩
  · intro ⟨hne, h⟩
    cases x with
    | nil => exact absurd rfl hne
    | cons c x =>
      obtain ⟨hc, hx⟩ := List.forall_mem_cons.mp h
      exact ⟨[c], (hP [c]).mpr ⟨c, hc, rfl⟩, x, hP.mem_star.mpr hx, rfl⟩

/-- Parts that each follow a separator. -/
def separated (a : α) (parts : List (List α)) : List α := (parts.map fun w => a :: w).flatten

theorem mem_separated {a c : α} {parts : List (List α)} (h : c ∈ separated a parts) :
    c = a ∨ ∃ w ∈ parts, c ∈ w := by
  obtain ⟨y, hy, hc⟩ := List.mem_flatten.mp h
  obtain ⟨w, hw, rfl⟩ := List.mem_map.mp hy
  exact (List.mem_cons.mp hc).imp_right fun h => ⟨w, hw, h⟩

theorem mem_many1_separated {a : α} {P : RegularExpression α} {x : List α} :
    x ∈ (many1 (char a * P)).matches' ↔
      ∃ parts, parts ≠ [] ∧ (∀ w ∈ parts, w ∈ P.matches') ∧ x = separated a parts := by
  have hpart : ∀ y, y ∈ (char a * P).matches' ↔ ∃ w, y = a :: w ∧ w ∈ P.matches' := by
    intro y
    rw [matches'_mul, mem_char_mul]
  have hall : ∀ L : List (List α), (∀ y ∈ L, y ∈ (char a * P).matches') →
      ∃ parts : List (List α), (∀ w ∈ parts, w ∈ P.matches') ∧ L = parts.map fun w => a :: w := by
    intro L
    induction L with
    | nil => exact fun _ => ⟨[], List.forall_mem_nil _, rfl⟩
    | cons y L ih =>
      intro hL
      obtain ⟨hy, hrest⟩ := List.forall_mem_cons.mp hL
      obtain ⟨w, rfl, hw⟩ := (hpart y).mp hy
      obtain ⟨parts, hparts, rfl⟩ := ih hrest
      exact ⟨w :: parts, List.forall_mem_cons.mpr ⟨hw, hparts⟩, rfl⟩
  rw [many1, matches'_mul, matches'_star, Language.mem_mul]
  constructor
  · intro hx
    obtain ⟨u, hu, v, hv, rfl⟩ := hx
    obtain ⟨L, rfl, hL⟩ := Language.mem_kstar.mp hv
    obtain ⟨parts, hparts, hmap⟩ := hall (u :: L) (List.forall_mem_cons.mpr ⟨hu, hL⟩)
    refine ⟨parts, fun hnil => ?_, hparts, ?_⟩
    · rw [hnil] at hmap
      cases hmap
    · rw [separated, ← hmap, List.flatten_cons]
  · intro ⟨parts, hne, hparts, hx⟩
    cases parts with
    | nil => exact absurd rfl hne
    | cons w parts =>
      obtain ⟨hw, hrest⟩ := List.forall_mem_cons.mp hparts
      refine ⟨a :: w, (hpart _).mpr ⟨w, rfl, hw⟩, separated a parts, Language.join_mem_kstar fun y hy => ?_, ?_⟩
      · obtain ⟨w', hw', rfl⟩ := List.mem_map.mp hy
        exact (hpart _).mpr ⟨w', rfl, hrest w' hw'⟩
      · rw [hx]
        rfl

end

/-- The characters from `lo` to `hi`, as `lo-hi` inside a class. -/
def span (lo hi : Char) : List Char := (List.range' lo.toNat (hi.toNat + 1 - lo.toNat)).map Char.ofNat

theorem mem_span {lo hi c : Char} (hhi : hi.toNat < 0xd800) :
    c ∈ span lo hi ↔ lo.toNat ≤ c.toNat ∧ c.toNat ≤ hi.toNat := by
  simp only [span, List.mem_map, List.mem_range'_1]
  constructor
  · intro hx
    obtain ⟨n, hn, rfl⟩ := hx
    have hvalid : n.isValidChar := Or.inl (by omega)
    have htoNat : (Char.ofNat n).toNat = n := by
      rw [Char.ofNat, dif_pos hvalid]
      rfl
    omega
  · intro h
    exact ⟨c.toNat, by omega, Char.ofNat_toNat c⟩

end Soufang.CharClass
