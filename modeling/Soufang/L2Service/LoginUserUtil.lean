import Soufang.Core.CharClass
import Soufang.L2Service.AddressService

/-!
# Telephone numbers

`checkTelephone` compares a text with a regular expression, as a whole. The
login and the request for an SMS code go on only with a number it accepts.

Two of the character classes have one character more than they need: `[5|7]`
and `[0,5-9]`. `checkTelephone_eq_true` says which texts are accepted;
`checkTelephone_right_iff` compares them with the mobile numbers, `IsMobile`.
-/
namespace Soufang

open CharClass RegularExpression

namespace LoginUserUtil

/-- mirrors soufang/src/main/java/com/wf/base/LoginUserUtil.java:12 -/
def PHONE_REGEX : RegularExpression Char :=
  (char '1' * (char '3' * oneOf (span '0' '9')) +
    char '1' * (char '4' * oneOf ['5', '|', '7']) +
    char '1' * (char '5' * (oneOf (span '0' '3') + oneOf (span '5' '9'))) +
    char '1' * (char '8' * oneOf ('0' :: ',' :: span '5' '9'))) *
  oneOf (span '0' '9') ^ 8

/-- `matches` compares the whole text, so the anchors add nothing.
mirrors soufang/src/main/java/com/wf/base/LoginUserUtil.java:37-39 -/
def checkTelephone (target : String) : Bool := PHONE_REGEX.rmatch target.toList

/-! ## The accepted texts -/

def IsDigit (c : Char) : Prop := '0'.toNat ≤ c.toNat ∧ c.toNat ≤ '9'.toNat

instance (c : Char) : Decidable (IsDigit c) := inferInstanceAs (Decidable (_ ∧ _))

/-- The values of three digits that start a mobile number. -/
def MobilePrefix (n : Nat) : Prop :=
  130 ≤ n ∧ n ≤ 139 ∨ n = 145 ∨ n = 147 ∨ 150 ≤ n ∧ n ≤ 153 ∨ 155 ≤ n ∧ n ≤ 159 ∨ n = 180 ∨
    185 ≤ n ∧ n ≤ 189

instance (n : Nat) : Decidable (MobilePrefix n) := inferInstanceAs (Decidable (_ ∨ _))

/-- The number a text of digits stands for. -/
def decimal (l : List Char) : Nat := l.foldl (fun n c => 10 * n + (c.toNat - '0'.toNat)) 0

/-- Eleven digits that start like a mobile number. -/
def IsMobile (t : String) : Prop :=
  t.toList.length = 11 ∧ (∀ c ∈ t.toList, IsDigit c) ∧ MobilePrefix (decimal (t.toList.take 3))

/-- The separators of the two classes, in the place of the third digit. -/
def SeparatorNumber (t : String) : Prop :=
  ∃ rest : List Char, rest.length = 8 ∧ (∀ c ∈ rest, IsDigit c) ∧
    (t.toList = '1' :: '4' :: '|' :: rest ∨ t.toList = '1' :: '8' :: ',' :: rest)

/-- The first three characters, as the expression has them. -/
def Head (a b c : Char) : Prop :=
  a = '1' ∧ (b = '3' ∧ IsDigit c ∨ b = '4' ∧ (c = '5' ∨ c = '|' ∨ c = '7') ∨
    b = '5' ∧ (IsDigit c ∧ c ≠ '4') ∨ b = '8' ∧ (c = '0' ∨ c = ',' ∨ '5'.toNat ≤ c.toNat ∧ IsDigit c))

theorem mem_digits {c : Char} : c ∈ span '0' '9' ↔ IsDigit c := mem_span (by decide)

theorem matches_digit : Matches (oneOf (span '0' '9')) IsDigit := matches_oneOf fun _ => mem_digits

/-- The digits but for 4, as a sum of two classes. -/
theorem matches_not_four :
    Matches (oneOf (span '0' '3') + oneOf (span '5' '9')) fun c => IsDigit c ∧ c ≠ '4' := by
  have hsum := (matches_oneOf fun c => Iff.rfl : Matches (oneOf (span '0' '3')) _).add
    (matches_oneOf fun c => Iff.rfl : Matches (oneOf (span '5' '9')) _)
  refine hsum.congr fun c => ?_
  rw [mem_span (by decide), mem_span (by decide), ne_eq, ← Char.toNat_inj]
  change 48 ≤ c.toNat ∧ c.toNat ≤ 51 ∨ 53 ≤ c.toNat ∧ c.toNat ≤ 57 ↔
    (48 ≤ c.toNat ∧ c.toNat ≤ 57) ∧ ¬ c.toNat = 52
  omega

/-- The class `[0,5-9]`, with its comma. -/
theorem matches_comma : Matches (oneOf ('0' :: ',' :: span '5' '9')) fun c =>
    c = '0' ∨ c = ',' ∨ '5'.toNat ≤ c.toNat ∧ IsDigit c := by
  refine matches_oneOf fun c => ?_
  have hspan : c ∈ span '5' '9' ↔ '5'.toNat ≤ c.toNat ∧ IsDigit c := by
    rw [mem_span (by decide)]
    change 53 ≤ c.toNat ∧ c.toNat ≤ 57 ↔ 53 ≤ c.toNat ∧ 48 ≤ c.toNat ∧ c.toNat ≤ 57
    omega
  rw [List.mem_cons, List.mem_cons, hspan]

/-- Of the four products only the first three characters differ. -/
theorem checkTelephone_eq_true {t : String} :
    checkTelephone t = true ↔ ∃ a b c rest, t.toList = a :: b :: c :: rest ∧ Head a b c ∧
      rest.length = 8 ∧ ∀ r ∈ rest, IsDigit r := by
  have hbar : Matches (oneOf ['5', '|', '7']) fun c => c = '5' ∨ c = '|' ∨ c = '7' :=
    matches_oneOf fun c => by simp
  rw [checkTelephone, rmatch_iff_matches', PHONE_REGEX, matches'_mul, matches'_add, matches'_add, matches'_add,
    add_mul, add_mul, add_mul, Language.mem_add, Language.mem_add, Language.mem_add, matches_digit.mem_third,
    hbar.mem_third, matches_not_four.mem_third, matches_comma.mem_third]
  simp only [mem_oneOf_pow, mem_digits]
  constructor
  · rintro (((⟨c, rest, ht, hc, hr⟩ | ⟨c, rest, ht, hc, hr⟩) | ⟨c, rest, ht, hc, hr⟩) | ⟨c, rest, ht, hc, hr⟩)
    · exact ⟨'1', '3', c, rest, ht, ⟨rfl, Or.inl ⟨rfl, hc⟩⟩, hr⟩
    · exact ⟨'1', '4', c, rest, ht, ⟨rfl, Or.inr (Or.inl ⟨rfl, hc⟩)⟩, hr⟩
    · exact ⟨'1', '5', c, rest, ht, ⟨rfl, Or.inr (Or.inr (Or.inl ⟨rfl, hc⟩))⟩, hr⟩
    · exact ⟨'1', '8', c, rest, ht, ⟨rfl, Or.inr (Or.inr (Or.inr ⟨rfl, hc⟩))⟩, hr⟩
  · intro ⟨a, b, c, rest, ht, ⟨ha, hbc⟩, hr⟩
    subst ha
    obtain ⟨rfl, hc⟩ | ⟨rfl, hc⟩ | ⟨rfl, hc⟩ | ⟨rfl, hc⟩ := hbc
    · exact Or.inl (Or.inl (Or.inl ⟨c, rest, ht, hc, hr⟩))
    · exact Or.inl (Or.inl (Or.inr ⟨c, rest, ht, hc, hr⟩))
    · exact Or.inl (Or.inr ⟨c, rest, ht, hc, hr⟩)
    · exact Or.inr ⟨c, rest, ht, hc, hr⟩

/-- Three digits start a mobile number exactly if the expression has them. -/
theorem mobilePrefix_iff {a b c : Char} (ha : IsDigit a) (hb : IsDigit b) (hc : IsDigit c) :
    MobilePrefix (decimal [a, b, c]) ↔ Head a b c := by
  simp only [IsDigit, Head, MobilePrefix, decimal, List.foldl_cons, List.foldl_nil, ne_eq,
    ← Char.toNat_inj] at ha hb hc ⊢
  simp only [Char.reduceToNat] at ha hb hc ⊢
  omega

/-- A head of the expression is three digits but for the two separators. -/
theorem head_cases {a b c : Char} (h : Head a b c) :
    IsDigit a ∧ IsDigit b ∧ (IsDigit c ∨ a = '1' ∧ (b = '4' ∧ c = '|' ∨ b = '8' ∧ c = ',')) := by
  simp only [IsDigit, Head, ne_eq, ← Char.toNat_inj] at h ⊢
  simp only [Char.reduceToNat] at h ⊢
  omega

theorem isMobile_iff {t : String} : IsMobile t ↔ ∃ a b c rest, t.toList = a :: b :: c :: rest ∧
    Head a b c ∧ IsDigit c ∧ rest.length = 8 ∧ ∀ r ∈ rest, IsDigit r := by
  unfold IsMobile
  constructor
  · intro ⟨hlen, hdigits, hprefix⟩
    obtain ⟨a, b, c, rest, ht⟩ : ∃ a b c rest, t.toList = a :: b :: c :: rest := by
      match hl : t.toList with
      | a :: b :: c :: rest => exact ⟨a, b, c, rest, rfl⟩
      | [] | [_] | [_, _] => simp [hl] at hlen
    rw [ht] at hlen hdigits hprefix
    simp only [List.forall_mem_cons] at hdigits
    obtain ⟨ha, hb, hc, hr⟩ := hdigits
    refine ⟨a, b, c, rest, ht, (mobilePrefix_iff ha hb hc).mp hprefix, hc, ?_, hr⟩
    simp only [List.length_cons] at hlen
    omega
  · intro ⟨a, b, c, rest, ht, hhead, hc, hlen, hr⟩
    obtain ⟨ha, hb, -⟩ := head_cases hhead
    rw [ht]
    refine ⟨?_, ?_, (mobilePrefix_iff ha hb hc).mpr hhead⟩
    · simp only [List.length_cons]
      omega
    · simp only [List.forall_mem_cons]
      exact ⟨ha, hb, hc, hr⟩

theorem separatorNumber_not_mobile {t : String} (h : SeparatorNumber t) : ¬ IsMobile t := by
  obtain ⟨rest, -, -, ht | ht⟩ := h <;> intro hm <;> have hdigits := hm.2.1 <;> rw [ht] at hdigits
  · exact absurd (hdigits '|' (by simp)) (by simp [IsDigit])
  · exact absurd (hdigits ',' (by simp)) (by simp [IsDigit])

/-- What is accepted: the mobile numbers and those with a separator in them. -/
theorem checkTelephone_iff (t : String) : checkTelephone t = true ↔ IsMobile t ∨ SeparatorNumber t := by
  rw [checkTelephone_eq_true, isMobile_iff]
  constructor
  · intro ⟨a, b, c, rest, ht, hhead, hlen, hr⟩
    obtain ⟨-, -, hc | ⟨rfl, ⟨rfl, rfl⟩ | ⟨rfl, rfl⟩⟩⟩ := head_cases hhead
    · exact Or.inl ⟨a, b, c, rest, ht, hhead, hc, hlen, hr⟩
    · exact Or.inr ⟨rest, hlen, hr, Or.inl ht⟩
    · exact Or.inr ⟨rest, hlen, hr, Or.inr ht⟩
  · rintro (⟨a, b, c, rest, ht, hhead, -, hlen, hr⟩ | ⟨rest, hlen, hr, ht | ht⟩)
    · exact ⟨a, b, c, rest, ht, hhead, hlen, hr⟩
    · exact ⟨'1', '4', '|', rest, ht, ⟨rfl, Or.inr (Or.inl ⟨rfl, Or.inr (Or.inl rfl)⟩)⟩, hlen, hr⟩
    · exact ⟨'1', '8', ',', rest, ht, ⟨rfl, Or.inr (Or.inr (Or.inr ⟨rfl, Or.inr (Or.inl rfl)⟩))⟩, hlen, hr⟩

/-- `checkTelephone` answers right on every text but those with a separator in
the place of the third digit. -/
theorem checkTelephone_right_iff (t : String) :
    (checkTelephone t = true ↔ IsMobile t) ↔ ¬ SeparatorNumber t := by
  rw [checkTelephone_iff]
  constructor
  · intro h hs
    exact separatorNumber_not_mobile hs (h.mp (Or.inr hs))
  · intro h
    exact or_iff_left h

/-- `14|12345678` is accepted. -/
theorem checkTelephone_separator :
    ¬ (checkTelephone "14|12345678" = true ↔ IsMobile "14|12345678") := by
  intro h
  have hseparator : SeparatorNumber "14|12345678" :=
    ⟨"12345678".toList, by decide, by simp [IsDigit], Or.inl (by decide)⟩
  have haccepted := (checkTelephone_iff "14|12345678").mpr (Or.inr hseparator)
  exact separatorNumber_not_mobile hseparator (h.mp haccepted)

end LoginUserUtil

end Soufang
