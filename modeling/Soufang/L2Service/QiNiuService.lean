import Soufang.Core.Retry

/-!
# Uploads to the object store

The two variants of `uploadFile` and `delete` share one loop: an attempt, then
up to three more while the response asks for a retry. `UploadManager.put` is a
library call. Given a file it reads the file from its start; given a stream it
sends what is left of the stream and leaves nothing.

* `put_iterate`: the state after a number of attempts.
* `uploadFile_whole`: an uploaded file is stored whole.
* `uploads_whole_iff`: the answers with which a stream is stored whole, too.
-/
namespace Soufang

abbrev Content := List UInt8

structure Response where
  needRetry : Bool
  deriving DecidableEq

structure QiniuException where
  deriving DecidableEq

/-- What one call to the store meets. Only a call that is `done` changes the
store. -/
inductive Answer | done | needRetry | threw
  deriving DecidableEq

def Answer.response : Answer → Except QiniuException Response
  | .done => .ok ⟨false⟩
  | .needRetry => .ok ⟨true⟩
  | .threw => .error {}

/-- The bytes the next attempt sends, the number of attempts so far, and the
object in the store. -/
structure Upload where
  source : Content
  attempts : Nat
  object : Option Content
  deriving DecidableEq

namespace QiNiuServiceImpl

/-- `response.needRetry()`; an exception leaves the loop. -/
def needRetry : Except QiniuException Response → Bool
  | .ok response => response.needRetry
  | .error _ => false

/-- `UploadManager.put`. `left` is what an attempt leaves in the source, and
`answers n` what attempt number `n` meets. -/
def put (left : Content → Content) (answers : Nat → Answer) (u : Upload) :
    Upload × Except QiniuException Response :=
  ({ source := left u.source
     attempts := u.attempts + 1
     object := if answers u.attempts = .done then some u.source else u.object },
    (answers u.attempts).response)

def uploading (left : Content → Content) (answers : Nat → Answer) (content : Content) :
    Upload × Except QiniuException Response :=
  Retry.loop (put left answers) needRetry 3 (put left answers ⟨content, 0, none⟩)

/-- mirrors soufang/src/main/java/com/wf/service/house/QiNiuServiceImpl.java:34-43 -/
def uploadFile (answers : Nat → Answer) (file : Content) : Upload × Except QiniuException Response :=
  uploading id answers file

/-- mirrors soufang/src/main/java/com/wf/service/house/QiNiuServiceImpl.java:45-54 -/
def uploadStream (answers : Nat → Answer) (inputStream : Content) : Upload × Except QiniuException Response :=
  uploading (fun _ => []) answers inputStream

/-- `BucketManager.delete` of the object under the key. -/
def deleteOnce (answers : Nat → Answer) (u : Upload) : Upload × Except QiniuException Response :=
  ({ u with
     attempts := u.attempts + 1
     object := if answers u.attempts = .done then none else u.object },
    (answers u.attempts).response)

/-- mirrors soufang/src/main/java/com/wf/service/house/QiNiuServiceImpl.java:56-64 -/
def delete (answers : Nat → Answer) (object : Option Content) : Upload × Except QiniuException Response :=
  Retry.loop (deleteOnce answers) needRetry 3 (deleteOnce answers ⟨[], 0, object⟩)

/-! ## Attempts -/

section
variable {left : Content → Content} {answers : Nat → Answer} {content : Content}

theorem needRetry_response (a : Answer) : needRetry a.response = true ↔ a = .needRetry := by
  cases a <;> simp [needRetry, Answer.response]

/-- A response that asks for no retry is that of an attempt that was done. -/
theorem done_of_response {a : Answer} {response : Response} (h : a.response = .ok response)
    (hr : response.needRetry = false) : a = .done := by
  cases a with
  | done => rfl
  | needRetry =>
    rw [Answer.response, Except.ok.injEq] at h
    subst h
    cases hr
  | threw => cases h

/-- No call makes more than four attempts. -/
theorem uploading_attempts (left : Content → Content) (answers : Nat → Answer) (content : Content) :
    (uploading left answers content).1.attempts ≤ 4 :=
  Retry.loop_count Upload.attempts (fun _ => Nat.le_refl _) 3 (put left answers ⟨content, 0, none⟩)

theorem delete_attempts (answers : Nat → Answer) (object : Option Content) :
    (delete answers object).1.attempts ≤ 4 :=
  Retry.loop_count Upload.attempts (fun _ => Nat.le_refl _) 3 (deleteOnce answers ⟨[], 0, object⟩)

/-- A deletion whose response asks for no retry has removed the object. -/
theorem delete_removes {object : Option Content} {response : Response}
    (h : (delete answers object).2 = .ok response) (hr : response.needRetry = false) :
    (delete answers object).1.object = none := by
  let Removed (r : Upload × Except QiniuException Response) : Prop :=
    ∀ response, r.2 = .ok response → response.needRetry = false → r.1.object = none
  have honce (u : Upload) : Removed (deleteOnce answers u) := by
    intro response he hr
    change (if answers u.attempts = .done then none else u.object) = none
    rw [if_pos (done_of_response he hr)]
  have hall : Removed (delete answers object) :=
    Retry.loop_invariant (fun r _ _ => honce r.1) 3 (honce _)
  exact hall response h hr

/-- After attempt `k`, when all before it asked for a retry. -/
theorem put_iterate (k : Nat) (hretry : ∀ j < k, answers j = .needRetry) :
    (fun r => put left answers r.1)^[k] (put left answers ⟨content, 0, none⟩) =
      ({ source := left^[k + 1] content
         attempts := k + 1
         object := if answers k = .done then some (left^[k] content) else none },
        (answers k).response) := by
  induction k with
  | zero => rfl
  | succ k ih =>
    have hk : answers k ≠ .done := by
      rw [hretry k (Nat.lt_succ_self k)]
      decide
    rw [Function.iterate_succ_apply', ih fun j hj => hretry j (Nat.lt_succ_of_lt hj), if_neg hk]
    simp only [put, ← Function.iterate_succ_apply' left]

/-- A call ends with an attempt `k` that all before it led to; it stops before
the fourth only when this attempt asks for no retry. -/
theorem uploading_cases (left : Content → Content) (answers : Nat → Answer) (content : Content) :
    ∃ k ≤ 3, (∀ j < k, answers j = .needRetry) ∧ (k < 3 → answers k ≠ .needRetry) ∧
      (uploading left answers content).2 = (answers k).response ∧
      (uploading left answers content).1.object =
        if answers k = .done then some (left^[k] content) else none := by
  obtain ⟨k, hk, he, hbefore, hlast⟩ := Retry.loop_stops (put left answers) needRetry 3
    (put left answers ⟨content, 0, none⟩)
  -- the answers before `k` ask for a retry, by induction on their number
  have hretry : ∀ n ≤ k, ∀ j < n, answers j = .needRetry := by
    intro n
    induction n with
    | zero => exact fun _ j hj => absurd hj (Nat.not_lt_zero j)
    | succ n ih =>
      intro hn j hj
      have hprev := ih (Nat.le_of_succ_le hn)
      rcases Nat.lt_succ_iff_lt_or_eq.mp hj with hlt | heq
      · exact hprev j hlt
      · subst heq
        have hb := hbefore j hn
        rw [put_iterate j hprev] at hb
        exact (needRetry_response (answers j)).mp hb
  have hall := hretry k (Nat.le_refl k)
  rw [put_iterate k hall] at he hlast
  refine ⟨k, hk, hall, fun h hneed => ?_, ?_, ?_⟩
  · have hstop := hlast h
    rw [(needRetry_response (answers k)).mpr hneed] at hstop
    cases hstop
  · exact congrArg Prod.snd he
  · exact congrArg (fun r => r.1.object) he

end

/-! ## The stored object -/

/-- At most four attempts, and a response that asks for no retry means that
the content is in the store. -/
def Whole (content : Content) (r : Upload × Except QiniuException Response) : Prop :=
  r.1.attempts ≤ 4 ∧
    ∀ response, r.2 = .ok response → response.needRetry = false → r.1.object = some content

/-- An upload stores the whole content exactly if the attempt that is done
finds it complete. -/
theorem uploading_whole_iff (left : Content → Content) (answers : Nat → Answer) (content : Content) :
    Whole content (uploading left answers content) ↔
      ∀ k ≤ 3, (∀ j < k, answers j = .needRetry) → answers k = .done → left^[k] content = content := by
  obtain ⟨k, hk, hretry, hstop, hresponse, hobject⟩ := uploading_cases left answers content
  constructor
  · intro h i hi hbefore hdone
    -- attempt `i` is the one the call ends with
    have hik : i = k := by
      rcases Nat.lt_trichotomy i k with hlt | heq | hgt
      · rw [hretry i hlt] at hdone
        cases hdone
      · exact heq
      · exact absurd (hbefore k hgt) (hstop (by omega))
    subst hik
    rw [hdone] at hresponse
    have hstored := h.2 ⟨false⟩ hresponse rfl
    rw [hobject, if_pos hdone, Option.some.injEq] at hstored
    exact hstored
  · intro h
    refine ⟨uploading_attempts left answers content, fun response he hr => ?_⟩
    have ha : answers k = .done := done_of_response (hresponse.symm.trans he) hr
    rw [hobject, if_pos ha, h k hk hretry ha]

/-- Every attempt on a file sends all of it. -/
theorem uploadFile_whole (answers : Nat → Answer) (file : Content) : Whole file (uploadFile answers file) := by
  refine (uploading_whole_iff id answers file).mpr fun k _ _ _ => ?_
  rw [Function.iterate_id, id]

/-- Both variants store the whole content exactly if it is empty, or no attempt
after the first is the one that is done. -/
theorem uploads_whole_iff (answers : Nat → Answer) (content : Content) :
    Whole content (uploadFile answers content) ∧ Whole content (uploadStream answers content) ↔
      content = [] ∨ ∀ k, 1 ≤ k → k ≤ 3 → (∀ j < k, answers j = .needRetry) → answers k ≠ .done := by
  have hempty (k : Nat) : (fun _ => [] : Content → Content)^[k + 1] content = [] := by
    rw [Function.iterate_succ_apply']
  rw [and_iff_right (uploadFile_whole answers content), uploadStream, uploading_whole_iff]
  constructor
  · intro h
    rcases eq_or_ne content [] with he | hne
    · exact Or.inl he
    · refine Or.inr fun k h1 h3 hretry hdone => hne ?_
      obtain ⟨n, rfl⟩ : ∃ n, k = n + 1 := ⟨k - 1, by omega⟩
      rw [← h (n + 1) h3 hretry hdone, hempty]
  · intro h k h3 hretry hdone
    cases k with
    | zero => rfl
    | succ n =>
      rcases h with he | hlater
      · rw [hempty, he]
      · exact absurd hdone (hlater (n + 1) (by omega) h3 hretry)

/-- A stream whose first attempt is to be retried is stored without its bytes. -/
theorem uploadStream_truncated :
    ¬ (Whole [1, 2] (uploadFile (fun n => if n = 0 then .needRetry else .done) [1, 2]) ∧
      Whole [1, 2] (uploadStream (fun n => if n = 0 then .needRetry else .done) [1, 2])) := by
  intro h
  have hstored : some [] = some ([1, 2] : Content) := h.2.2 ⟨false⟩ rfl rfl
  cases hstored

end QiNiuServiceImpl

end Soufang
