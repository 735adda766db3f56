import Mathlib

/-!
# Form encoding

The texts of `application/x-www-form-urlencoded`: a character of `plain`
stands for itself, a blank is `+`, and every other character is its bytes in
UTF-8, each as `%` with two hexadecimal digits. Pairs are `name=value`, joined
by `&`.

* `decode_encode`: every text is read back.
* `parse_format`: every list of pairs is read back.
-/
namespace Soufang.UrlEncode

def hexDigit (n : Nat) : Char := Char.ofNat (if n < 10 then 48 + n else 55 + n)

def hexValue (c : Char) : Option Nat :=
  if '0' ≤ c ∧ c ≤ '9' then some (c.toNat - 48)
  else if 'A' ≤ c ∧ c ≤ 'F' then some (c.toNat - 55)
  else if 'a' ≤ c ∧ c ≤ 'f' then some (c.toNat - 87)
  else none

def plain (c : Char) : Bool := c.isAlphanum || c = '.' || c = '*' || c = '_' || c = '-'

def percent (b : UInt8) : List Char := ['%', hexDigit (b.toNat / 16), hexDigit (b.toNat % 16)]

def encodeChar (c : Char) : List Char :=
  if plain c then [c] else if c = ' ' then ['+'] else (String.utf8EncodeChar c).flatMap percent

def encode (s : String) : List Char := s.toList.flatMap encodeChar

/-- The bytes a text stands for. -/
def bytes : List Char → Option (List UInt8)
  | [] => some []
  | '+' :: s => (bytes s).map (32 :: ·)
  | '%' :: a :: b :: s =>
    match hexValue a, hexValue b with
    | some high, some low => (bytes s).map (UInt8.ofNat (16 * high + low) :: ·)
    | _, _ => none
  | c :: s => if c ≠ '%' ∧ c.toNat < 128 then (bytes s).map (UInt8.ofNat c.toNat :: ·) else none

def decode (s : List Char) : Option String :=
  (bytes s).bind fun bs => bs.toByteArray.utf8Decode?.map fun cs => String.ofList cs.toList

def formatPair (p : String × String) : List Char := encode p.1 ++ '=' :: encode p.2

def format (ps : List (String × String)) : List Char := ['&'].intercalate (ps.map formatPair)

def parsePair (s : List Char) : Option (String × String) :=
  match decode (s.takeWhile (· ≠ '=')), decode ((s.dropWhile (· ≠ '=')).drop 1) with
  | some name, some value => some (name, value)
  | _, _ => none

/-- An empty text has no pairs. -/
def parse (s : List Char) : Option (List (String × String)) :=
  if s = [] then some [] else (s.splitOn '&').mapM parsePair

/-! ## One text -/

theorem plain_ascii {c : Char} (h : plain c = true) : c.toNat < 128 ∧ c ≠ '+' ∧ c ≠ '%' := by
  refine ⟨?_, ?_, ?_⟩
  · simp only [plain, Char.isAlphanum, Char.isAlpha, Char.isUpper, Char.isLower, Char.isDigit, Bool.or_eq_true,
      Bool.and_eq_true, decide_eq_true_eq] at h
    rcases h with ((((h | h) | rfl) | rfl) | rfl) | rfl
    · rcases h with h | h
      · exact Nat.lt_of_le_of_lt (UInt32.le_iff_toNat_le.mp h.2) (by decide)
      · exact Nat.lt_of_le_of_lt (UInt32.le_iff_toNat_le.mp h.2) (by decide)
    · exact Nat.lt_of_le_of_lt (UInt32.le_iff_toNat_le.mp h.2) (by decide)
    · decide
    · decide
    · decide
    · decide
  · rintro rfl
    exact absurd h (by decide)
  · rintro rfl
    exact absurd h (by decide)

theorem utf8EncodeChar_ascii {c : Char} (h : c.toNat < 128) : String.utf8EncodeChar c = [UInt8.ofNat c.toNat] :=
  if_pos (Nat.le_of_lt_succ h)

theorem hexValue_hexDigit : ∀ n < 16, hexValue (hexDigit n) = some n := by decide

theorem bytes_percent (b : UInt8) (s : List Char) : bytes (percent b ++ s) = (bytes s).map (b :: ·) := by
  have hb : b.toNat < 256 := b.toNat_lt
  have hhigh := hexValue_hexDigit (b.toNat / 16) (by omega)
  have hlow := hexValue_hexDigit (b.toNat % 16) (by omega)
  have hbyte : UInt8.ofNat (16 * (b.toNat / 16) + b.toNat % 16) = b := by
    rw [Nat.div_add_mod, UInt8.ofNat_toNat]
  rw [percent, List.cons_append, List.cons_append, List.cons_append, List.nil_append, bytes, hhigh, hlow]
  dsimp only
  rw [hbyte]

theorem bytes_flatMap_percent (s : List Char) : ∀ bs : List UInt8,
    bytes (bs.flatMap percent ++ s) = (bytes s).map (bs ++ ·)
  | [] => by simp
  | b :: bs => by
    rw [List.flatMap_cons, List.append_assoc, bytes_percent, bytes_flatMap_percent s bs, Option.map_map]
    rfl

theorem bytes_ascii {c : Char} (hc : c.toNat < 128) (hplus : c ≠ '+') (hpercent : c ≠ '%') (s : List Char) :
    bytes (c :: s) = (bytes s).map (String.utf8EncodeChar c ++ ·) := by
  rw [utf8EncodeChar_ascii hc, bytes, if_pos ⟨hpercent, hc⟩]
  · rfl
  · exact hplus
  · intro a b s' h
    exact absurd h hpercent

theorem bytes_encodeChar (c : Char) (s : List Char) :
    bytes (encodeChar c ++ s) = (bytes s).map (String.utf8EncodeChar c ++ ·) := by
  unfold encodeChar
  split
  · rename_i h
    obtain ⟨hc, hplus, hpercent⟩ := plain_ascii h
    exact bytes_ascii hc hplus hpercent s
  · split
    · rename_i h
      rw [h]
      rfl
    · exact bytes_flatMap_percent s _

theorem bytes_encode : ∀ cs s : List Char,
    bytes (cs.flatMap encodeChar ++ s) = (bytes s).map (cs.flatMap String.utf8EncodeChar ++ ·)
  | [], s => by simp
  | c :: cs, s => by
    rw [List.flatMap_cons, List.append_assoc, bytes_encodeChar, bytes_encode cs s, Option.map_map, List.flatMap_cons]
    simp only [Function.comp_def, List.append_assoc]

/-- **Every text is read back.** -/
theorem decode_encode (s : String) : decode (encode s) = some s := by
  have hbytes := bytes_encode s.toList []
  rw [List.append_nil] at hbytes
  have hread : (s.toList.flatMap String.utf8EncodeChar).toByteArray.utf8Decode? = some s.toList.toArray :=
    List.utf8Decode?_utf8Encode
  rw [decode, encode, hbytes]
  simp only [bytes, Option.map_some, List.append_nil, Option.bind_some, hread, String.ofList_toList]

/-- A character that is read as it is, wherever it stands. -/
def literal (c : Char) : Bool := c.toNat < 128 && c ≠ '+' && c ≠ '%' && c ≠ '&' && c ≠ '='

theorem literal_iff {c : Char} : literal c = true ↔ c.toNat < 128 ∧ c ≠ '+' ∧ c ≠ '%' ∧ c ≠ '&' ∧ c ≠ '=' := by
  simp [literal, and_assoc]

theorem literal_of_plain {c : Char} (h : plain c = true) : literal c = true := by
  obtain ⟨hc, hplus, hpercent⟩ := plain_ascii h
  refine literal_iff.mpr ⟨hc, hplus, hpercent, ?_, ?_⟩
  · rintro rfl
    exact absurd h (by decide)
  · rintro rfl
    exact absurd h (by decide)

theorem decode_literal {s : String} (h : ∀ c ∈ s.toList, literal c = true) : decode s.toList = some s := by
  have hbytes : ∀ cs : List Char, (∀ c ∈ cs, literal c = true) →
      bytes cs = some (cs.flatMap String.utf8EncodeChar) := by
    intro cs hcs
    induction cs with
    | nil => rfl
    | cons c cs ih =>
      obtain ⟨hc, hplus, hpercent, -, -⟩ := literal_iff.mp (hcs c List.mem_cons_self)
      rw [bytes_ascii hc hplus hpercent, ih fun a ha => hcs a (List.mem_cons_of_mem _ ha), List.flatMap_cons]
      rfl
  have hread : (s.toList.flatMap String.utf8EncodeChar).toByteArray.utf8Decode? = some s.toList.toArray :=
    List.utf8Decode?_utf8Encode
  rw [decode, hbytes _ h]
  simp only [Option.bind_some, hread, Option.map_some, String.ofList_toList]

/-! ## Pairs -/

/-- The characters of a written text. -/
theorem mem_encode {c : Char} {s : String} (h : c ∈ encode s) : plain c = true ∨ c = '+' ∨ c = '%' := by
  obtain ⟨a, -, h⟩ := List.mem_flatMap.mp h
  unfold encodeChar at h
  split at h
  · rename_i ha
    rw [List.mem_singleton.mp h]
    exact Or.inl ha
  · split at h
    · exact Or.inr (Or.inl (List.mem_singleton.mp h))
    · obtain ⟨b, -, h⟩ := List.mem_flatMap.mp h
      have hdigit : ∀ n < 16, plain (hexDigit n) = true := by decide
      have hb : b.toNat < 256 := b.toNat_lt
      simp only [percent, List.mem_cons, List.not_mem_nil, or_false] at h
      rcases h with rfl | rfl | rfl
      · exact Or.inr (Or.inr rfl)
      · exact Or.inl (hdigit _ (by omega))
      · exact Or.inl (hdigit _ (by omega))

theorem ampersand_not_mem (s : String) : '&' ∉ encode s := fun h => absurd (mem_encode h) (by decide)

theorem equals_not_mem (s : String) : '=' ∉ encode s := fun h => absurd (mem_encode h) (by decide)

theorem formatPair_ne_nil (p : String × String) : formatPair p ≠ [] := by simp [formatPair]

theorem ampersand_not_mem_formatPair (p : String × String) : '&' ∉ formatPair p := by
  intro h
  rcases List.mem_append.mp h with h | h
  · exact ampersand_not_mem _ h
  · rcases List.mem_cons.mp h with h | h
    · exact absurd h (by decide)
    · exact ampersand_not_mem _ h

theorem parsePair_eq {n v : List Char} {name value : String} (hn : '=' ∉ n) (hname : decode n = some name)
    (hvalue : decode v = some value) : parsePair (n ++ '=' :: v) = some (name, value) := by
  have hall : ∀ c ∈ n, decide (c ≠ '=') = true := fun c hc => decide_eq_true fun he => hn (he ▸ hc)
  have htake : (n ++ '=' :: v).takeWhile (· ≠ '=') = n := by
    rw [List.takeWhile_append_of_pos hall]
    simp
  have hdrop : (n ++ '=' :: v).dropWhile (· ≠ '=') = '=' :: v := by
    rw [List.dropWhile_append_of_pos hall]
    simp
  rw [parsePair, htake, hdrop, List.drop_one, List.tail_cons, hname, hvalue]

theorem parsePair_formatPair (p : String × String) : parsePair (formatPair p) = some p :=
  parsePair_eq (equals_not_mem p.1) (decode_encode p.1) (decode_encode p.2)

theorem parse_cons {t : List Char} {ts : List (List Char)} (ht : t ≠ []) (hamp : ∀ u ∈ t :: ts, '&' ∉ u) :
    parse (['&'].intercalate (t :: ts)) = (t :: ts).mapM parsePair := by
  have hne : ['&'].intercalate (t :: ts) ≠ [] := by
    cases ts with
    | nil => rwa [List.intercalate_singleton]
    | cons u ts => simp [List.intercalate_cons_cons]
  rw [parse, if_neg hne, List.splitOn_intercalate '&' hamp (List.cons_ne_nil t ts)]

/-- Pairs that are written one by one, and each read back. -/
theorem parse_map {ps : List (String × String)} {write : String × String → List Char} (hps : ps ≠ [])
    (hne : ∀ p, write p ≠ []) (hamp : ∀ p ∈ ps, '&' ∉ write p) (hread : ∀ p ∈ ps, parsePair (write p) = some p) :
    parse (['&'].intercalate (ps.map write)) = some ps := by
  have hmap : ∀ qs : List (String × String), (∀ p ∈ qs, parsePair (write p) = some p) →
      (qs.map write).mapM parsePair = some qs := by
    intro qs hqs
    induction qs with
    | nil => rfl
    | cons q qs ih =>
      rw [List.map_cons, List.mapM_cons, hqs q List.mem_cons_self, ih fun p hp => hqs p (List.mem_cons_of_mem _ hp)]
      rfl
  rw [← hmap ps hread]
  cases ps with
  | nil => exact absurd rfl hps
  | cons p ps =>
    refine parse_cons (hne p) fun t ht => ?_
    rw [← List.map_cons] at ht
    obtain ⟨q, hq, rfl⟩ := List.mem_map.mp ht
    exact hamp q hq

/-- **Every list of pairs is read back.** -/
theorem parse_format (ps : List (String × String)) : parse (format ps) = some ps := by
  by_cases hps : ps = []
  · rw [hps]
    rfl
  · exact parse_map hps formatPair_ne_nil (fun p _ => ampersand_not_mem_formatPair p)
      fun p _ => parsePair_formatPair p

/-- Pairs of literal characters need no escapes. -/
theorem parse_literal {ps : List (String × String)} (hps : ps ≠ [])
    (h : ∀ p ∈ ps, ∀ c ∈ p.1.toList ++ p.2.toList, literal c = true) :
    parse (['&'].intercalate (ps.map fun p => p.1.toList ++ '=' :: p.2.toList)) = some ps := by
  have hname : ∀ p ∈ ps, ∀ c ∈ p.1.toList, literal c = true := fun p hp c hc => h p hp c (List.mem_append_left _ hc)
  have hvalue : ∀ p ∈ ps, ∀ c ∈ p.2.toList, literal c = true := fun p hp c hc => h p hp c (List.mem_append_right _ hc)
  refine parse_map hps (by simp) (fun p hp hamp => ?_) fun p hp => ?_
  · rcases List.mem_append.mp hamp with hc | hc
    · exact absurd (hname p hp _ hc) (by decide)
    · rcases List.mem_cons.mp hc with hc | hc
      · exact absurd hc (by decide)
      · exact absurd (hvalue p hp _ hc) (by decide)
  · refine parsePair_eq (fun hc => ?_) (decode_literal (hname p hp)) (decode_literal (hvalue p hp))
    exact absurd (hname p hp _ hc) (by decide)

end Soufang.UrlEncode
