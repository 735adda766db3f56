import Mathlib

/-!
# LIKE patterns

In the pattern of an SQL LIKE `%` stands for any text, `_` for any one
character, and a backslash takes the next character as it is. `parse` reads a
pattern, `accepts` compares it with a text; the meaning of a pattern is a
language, the product of the languages of its tokens.

* `accepts_iff`: the comparison decides membership.
* `like_contains`: with a text between two `%` that has none of the three
  characters, LIKE finds exactly the texts that contain it.
-/
namespace Soufang

namespace Like

inductive Token (α : Type) | anyText | anyChar | char (a : α)

section
variable {α : Type}

/-! ## Meaning -/

def Token.language : Token α → Language α
  | .anyText => ⊤
  | .anyChar => {s | ∃ a, s = [a]}
  | .char a => {[a]}

def language (p : List (Token α)) : Language α := (p.map Token.language).prod

@[simp] theorem language_nil : language ([] : List (Token α)) = 1 := rfl

@[simp] theorem language_cons (t : Token α) (p : List (Token α)) : language (t :: p) = t.language * language p :=
  List.prod_cons

theorem mem_anyText {p : List (Token α)} {s : List α} :
    s ∈ language (.anyText :: p) ↔ ∃ rest, rest <:+ s ∧ rest ∈ language p := by
  rw [language_cons, Language.mem_mul]
  constructor
  · intro h
    obtain ⟨pre, -, rest, hr, hs⟩ := h
    exact ⟨rest, ⟨pre, hs⟩, hr⟩
  · intro h
    obtain ⟨rest, ⟨pre, hs⟩, hr⟩ := h
    exact ⟨pre, trivial, rest, hr, hs⟩

theorem mem_anyChar {p : List (Token α)} {s : List α} :
    s ∈ language (.anyChar :: p) ↔ ∃ a rest, s = a :: rest ∧ rest ∈ language p := by
  rw [language_cons, Language.mem_mul]
  constructor
  · intro h
    obtain ⟨_, ⟨a, rfl⟩, rest, hr, hs⟩ := h
    exact ⟨a, rest, hs.symm, hr⟩
  · intro h
    obtain ⟨a, rest, hs, hr⟩ := h
    exact ⟨[a], ⟨a, rfl⟩, rest, hr, hs.symm⟩

theorem mem_char {a : α} {p : List (Token α)} {s : List α} :
    s ∈ language (.char a :: p) ↔ ∃ rest, s = a :: rest ∧ rest ∈ language p := by
  rw [language_cons, Language.mem_mul]
  constructor
  · intro h
    obtain ⟨_, rfl, rest, hr, hs⟩ := h
    exact ⟨rest, hs.symm, hr⟩
  · intro h
    obtain ⟨rest, hs, hr⟩ := h
    exact ⟨[a], rfl, rest, hr, hs.symm⟩

/-- Characters followed by `p`. -/
theorem mem_chars {t s : List α} {p : List (Token α)} :
    s ∈ language (t.map .char ++ p) ↔ ∃ rest, s = t ++ rest ∧ rest ∈ language p := by
  induction t generalizing s with
  | nil => simp
  | cons a t ih =>
    rw [List.map_cons, List.cons_append, mem_char]
    constructor
    · intro h
      obtain ⟨r, hs, hr⟩ := h
      obtain ⟨rest, hr', hrest⟩ := ih.mp hr
      exact ⟨rest, by rw [hs, hr', List.cons_append], hrest⟩
    · intro h
      obtain ⟨rest, hs, hrest⟩ := h
      exact ⟨t ++ rest, hs, ih.mpr ⟨rest, rfl, hrest⟩⟩

/-- Any text, the characters of `t`, any text. -/
theorem mem_contains {t s : List α} :
    s ∈ language (.anyText :: (t.map .char ++ [.anyText])) ↔ t <:+: s := by
  have hall (r : List α) : r ∈ language [Token.anyText] :=
    mem_anyText.mpr ⟨[], List.nil_suffix, rfl⟩
  rw [mem_anyText]
  constructor
  · intro h
    obtain ⟨_, ⟨pre, hs⟩, hr⟩ := h
    obtain ⟨post, rfl, -⟩ := mem_chars.mp hr
    exact ⟨pre, post, by rw [List.append_assoc, hs]⟩
  · intro h
    obtain ⟨pre, post, hs⟩ := h
    exact ⟨t ++ post, ⟨pre, by rw [← List.append_assoc, hs]⟩, mem_chars.mpr ⟨post, rfl, hall post⟩⟩

/-! ## Comparison -/

variable [DecidableEq α]

def accepts : List (Token α) → List α → Bool
  | [], s => s.isEmpty
  | .anyText :: p, s => s.tails.any (accepts p)
  | .anyChar :: _, [] => false
  | .anyChar :: p, _ :: s => accepts p s
  | .char _ :: _, [] => false
  | .char a :: p, b :: s => decide (b = a) && accepts p s

theorem accepts_iff (p : List (Token α)) (s : List α) : accepts p s = true ↔ s ∈ language p := by
  induction p generalizing s with
  | nil => rw [accepts, List.isEmpty_iff, language_nil, Language.mem_one]
  | cons t p ih =>
    cases t with
    | anyText =>
      rw [accepts, List.any_eq_true, mem_anyText]
      simp only [List.mem_tails, ih]
    | anyChar =>
      rw [mem_anyChar]
      cases s with
      | nil => simp [accepts]
      | cons b s => simp [accepts, ih]
    | char a =>
      rw [mem_char]
      cases s with
      | nil => simp [accepts]
      | cons b s => simp [accepts, ih]

end

/-! ## Patterns as texts -/

def parse : List Char → List (Token Char)
  | [] => []
  | '%' :: p => .anyText :: parse p
  | '_' :: p => .anyChar :: parse p
  | '\\' :: c :: p => .char c :: parse p
  | c :: p => .char c :: parse p

def like (pattern text : String) : Bool := accepts (parse pattern.toList) text.toList

/-- No character of the text means anything but itself. -/
def Plain (text : String) : Prop := ∀ c ∈ text.toList, c ≠ '%' ∧ c ≠ '_' ∧ c ≠ '\\'

theorem parse_plain {t : List Char} (h : ∀ c ∈ t, c ≠ '%' ∧ c ≠ '_' ∧ c ≠ '\\') (p : List Char) :
    parse (t ++ p) = t.map .char ++ parse p := by
  induction t with
  | nil => rfl
  | cons c t ih =>
    obtain ⟨h1, h2, h3⟩ := h c List.mem_cons_self
    have hrest := ih fun d hd => h d (List.mem_cons_of_mem c hd)
    rw [List.map_cons, List.cons_append, List.cons_append, ← hrest]
    exact parse.eq_5 c _ h1 h2 (fun d p hc _ => h3 hc)

/-- A plain text is found exactly where it stands. -/
theorem like_contains {text : String} (h : Plain text) (title : String) :
    like ("%" ++ text ++ "%") title = true ↔ text.toList <:+: title.toList := by
  have hparse : parse ("%" ++ text ++ "%").toList = .anyText :: (text.toList.map .char ++ [.anyText]) := by
    rw [String.toList_append, String.toList_append]
    show .anyText :: parse (text.toList ++ ['%']) = _
    rw [parse_plain h]
    rfl
  unfold like
  rw [hparse, accepts_iff, mem_contains]

end Like

end Soufang
