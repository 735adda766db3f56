import Soufang.Core.CharClass
import Soufang.L2Service.AddressService
import Soufang.L2Service.Subscribe
import Soufang.L2Service.UserService

/-!
# Changing one's own profile

`updateUserInfo` refuses an empty value, checks an e-mail against a regular
expression, and hands the change to `modifyUserProfile`.

* `checkEmail_iff`: the accepted texts, read without the expression: cut at
  `@` they are a name and a domain, and the domain cut at the dots has at
  least two labels; names and labels are words.
* `updateUserInfo_cases`: it leaves the users alone, or is an accepted
  `modifyUserProfile` of a checked value.
-/
namespace Soufang

open CharClass RegularExpression

namespace LoginUserUtil

/-- `[a-zA-Z0-9_-]`. -/
def wordClass : List Char := span 'a' 'z' ++ span 'A' 'Z' ++ span '0' '9' ++ ['_', '-']

/-- mirrors soufang/src/main/java/com/wf/base/LoginUserUtil.java:15 -/
def EMAIL_REGEX : RegularExpression Char :=
  many1 (oneOf wordClass) * (char '@' * (many1 (oneOf wordClass) * many1 (char '.' * many1 (oneOf wordClass))))

/-- mirrors soufang/src/main/java/com/wf/base/LoginUserUtil.java:45-47 -/
def checkEmail (target : String) : Bool := EMAIL_REGEX.rmatch target.toList

/-- A text of letters, digits, `_` and `-`. -/
def Word (w : List Char) : Prop := w ≠ [] ∧ ∀ c ∈ w, c ∈ wordClass

/-- A name, `@`, and a domain of two labels or more. -/
def IsEmail (t : String) : Prop :=
  ∃ name domain, t.toList.splitOn '@' = [name, domain] ∧ Word name ∧
    2 ≤ (domain.splitOn '.').length ∧ ∀ label ∈ domain.splitOn '.', Word label

instance (w : List Char) : Decidable (Word w) := inferInstanceAs (Decidable (_ ∧ _))

theorem not_mem_word {c : Char} (hc : c ∉ wordClass) {w : List Char} (hw : Word w) : c ∉ w :=
  fun h => hc (hw.2 c h)

theorem matches_word : Matches (oneOf wordClass) (· ∈ wordClass) := matches_oneOf fun _ => Iff.rfl

theorem mem_word {w : List Char} : w ∈ (many1 (oneOf wordClass)).matches' ↔ Word w := matches_word.mem_many1

/-- Labels behind dots, after a first label. -/
theorem intercalate_dots (label : List Char) (labels : List (List Char)) :
    ['.'].intercalate (label :: labels) = label ++ separated '.' labels := by
  induction labels generalizing label with
  | nil => simp [separated]
  | cons l labels ih =>
    rw [List.intercalate_cons_cons, ih l, separated, separated, List.map_cons, List.flatten_cons]
    simp

/-- The domain part of the expression. -/
theorem mem_domain {domain : List Char} :
    domain ∈ (many1 (oneOf wordClass) * many1 (char '.' * many1 (oneOf wordClass))).matches' ↔
      2 ≤ (domain.splitOn '.').length ∧ ∀ label ∈ domain.splitOn '.', Word label := by
  rw [matches'_mul, Language.mem_mul]
  constructor
  · intro hx
    obtain ⟨label, hl, rest, hr, rfl⟩ := hx
    obtain ⟨labels, hne, hlabels, rfl⟩ := mem_many1_separated.mp hr
    have hwords : ∀ l ∈ label :: labels, Word l :=
      List.forall_mem_cons.mpr ⟨mem_word.mp hl, fun l h => mem_word.mp (hlabels l h)⟩
    have hsplit : (label ++ separated '.' labels).splitOn '.' = label :: labels := by
      rw [← intercalate_dots]
      exact List.splitOn_intercalate '.' (fun l h => not_mem_word (by decide) (hwords l h)) (List.cons_ne_nil _ _)
    rw [hsplit]
    have hpos := List.length_pos_iff.mpr hne
    exact ⟨by rw [List.length_cons]; omega, hwords⟩
  · intro ⟨hlen, hwords⟩
    have hjoin : ['.'].intercalate (domain.splitOn '.') = domain := List.intercalate_splitOn '.'
    cases hs : domain.splitOn '.' with
    | nil => rw [hs] at hlen; cases hlen
    | cons label labels =>
      rw [hs] at hjoin hwords hlen
      obtain ⟨hl, hls⟩ := List.forall_mem_cons.mp hwords
      rw [intercalate_dots] at hjoin
      refine ⟨label, mem_word.mpr hl, separated '.' labels, mem_many1_separated.mpr ⟨labels, ?_, ?_, rfl⟩, hjoin⟩
      · rintro rfl
        rw [List.length_singleton] at hlen
        omega
      · exact fun l h => mem_word.mpr (hls l h)

/-- The labels are words, so the domain has no `@`. -/
theorem not_mem_domain {domain : List Char} (h : ∀ label ∈ domain.splitOn '.', Word label) : '@' ∉ domain := by
  have hjoin : ['.'].intercalate (domain.splitOn '.') = domain := List.intercalate_splitOn '.'
  cases hs : domain.splitOn '.' with
  | nil =>
    rw [hs] at hjoin
    rw [← hjoin]
    exact List.not_mem_nil
  | cons label labels =>
    rw [hs] at hjoin h
    obtain ⟨hl, hls⟩ := List.forall_mem_cons.mp h
    rw [← hjoin, intercalate_dots, List.mem_append]
    intro hmem
    rcases hmem with hmem | hmem
    · exact not_mem_word (by decide) hl hmem
    · rcases mem_separated hmem with hdot | ⟨l, hlm, hmem⟩
      · cases hdot
      · exact not_mem_word (by decide) (hls l hlm) hmem

/-- **The accepted e-mails.** -/
theorem checkEmail_iff (t : String) : checkEmail t = true ↔ IsEmail t := by
  rw [checkEmail, rmatch_iff_matches', EMAIL_REGEX, matches'_mul, Language.mem_mul]
  constructor
  · intro hx
    obtain ⟨name, hn, rest, hr, ht⟩ := hx
    rw [matches'_mul, mem_char_mul] at hr
    obtain ⟨domain, rfl, hd⟩ := hr
    obtain ⟨hlen, hwords⟩ := mem_domain.mp hd
    have hname := mem_word.mp hn
    have hsplit : (['@'].intercalate [name, domain]).splitOn '@' = [name, domain] := by
      refine List.splitOn_intercalate '@' (List.forall_mem_cons.mpr ⟨not_mem_word (by decide) hname, ?_⟩)
        (List.cons_ne_nil _ _)
      exact List.forall_mem_singleton.mpr (not_mem_domain hwords)
    refine ⟨name, domain, ?_, hname, hlen, hwords⟩
    rw [← ht, ← hsplit]
    simp
  · intro h
    obtain ⟨name, domain, ht, hname, hlen, hwords⟩ := h
    have hjoin : ['@'].intercalate (t.toList.splitOn '@') = t.toList := List.intercalate_splitOn '@'
    rw [ht] at hjoin
    refine ⟨name, mem_word.mpr hname, '@' :: domain, ?_, by simpa using hjoin⟩
    rw [matches'_mul, mem_char_mul]
    exact ⟨domain, rfl, mem_domain.mpr ⟨hlen, hwords⟩⟩

end LoginUserUtil

/-- An answer that carries a text. -/
structure TextResponse extends ApiResponse where
  data : Option String
  deriving DecidableEq

namespace TextResponse

def ofMessage (code : Int) (message : Option String) : TextResponse := ⟨⟨code, message⟩, none⟩

def ofSuccess (data : String) : TextResponse :=
  ⟨⟨ApiStatus.SUCCESS.code, some ApiStatus.SUCCESS.standardMessage⟩, some data⟩

def ofStatus (status : ApiStatus) : TextResponse := ⟨⟨status.code, some status.standardMessage⟩, none⟩

end TextResponse

namespace UserController

open UserServiceImpl

/-- mirrors soufang/src/main/java/com/wf/web/controller/user/UserController.java:45-50,59-63 -/
def textResponse (result : ServiceResult Unit) : TextResponse :=
  if result.success then .ofSuccess "" else .ofMessage 400 result.message

/-- mirrors soufang/src/main/java/com/wf/web/controller/user/UserController.java:34-53 -/
def updateUserInfo (encodePassword : Encoder) (fault : Bool) (userId : Long) (profile value : String) (t : Users) :
    Users × Except Exn TextResponse :=
  if value = "" then (t, .ok (.ofStatus .BAD_REQUEST))
  else if profile = "email" ∧ LoginUserUtil.checkEmail value = false then
    (t, .ok (.ofMessage 400 (some "不支持的邮箱格式")))
  else
    match modifyUserProfile encodePassword fault userId (some profile) value t with
    | (t', .error e) => (t', .error e)
    | (t', .ok result) => (t', .ok (textResponse result))

/-- mirrors soufang/src/main/java/com/wf/web/controller/user/UserController.java:55-64 -/
def subscribeHouse (userId : Long) (now : Date) (houseId : Long) (b : Bookings) : Bookings × Except Exn TextResponse :=
  match HouseService.addSubscribeOrder userId now houseId b with
  | (b', .error e) => (b', .error e)
  | (b', .ok result) => (b', .ok (textResponse result))

theorem subscribeHouse_fst (userId : Long) (now : Date) (houseId : Long) (b : Bookings) :
    (subscribeHouse userId now houseId b).1 = (HouseService.addSubscribeOrder userId now houseId b).1 := by
  unfold subscribeHouse
  rcases HouseService.addSubscribeOrder userId now houseId b with ⟨b', e | result⟩ <;> rfl

theorem updateUserInfo_cases (encodePassword : Encoder) (fault : Bool) (userId : Long) (profile value : String)
    (t : Users) :
    (updateUserInfo encodePassword fault userId profile value t).1 = t ∨
      value ≠ "" ∧ (profile = "email" → LoginUserUtil.IsEmail value) ∧
        (updateUserInfo encodePassword fault userId profile value t).1 =
          (modifyUserProfile encodePassword fault userId (some profile) value t).1 := by
  unfold updateUserInfo
  split
  · exact Or.inl rfl
  · rename_i hvalue
    split
    · exact Or.inl rfl
    · rename_i hcheck
      refine Or.inr ⟨hvalue, fun he => ?_, ?_⟩
      · exact (LoginUserUtil.checkEmail_iff value).mp (Bool.not_eq_false _ ▸ fun hf => hcheck ⟨he, hf⟩)
      · rcases modifyUserProfile encodePassword fault userId (some profile) value t with ⟨t', e | result⟩ <;> rfl

end UserController

end Soufang
