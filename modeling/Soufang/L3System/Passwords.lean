import Soufang.L2Service.UserService

/-!
# Passwords over whole runs

`profiles` runs profile changes of any users, in any order, from any table of
users. `lastPassword u ls` is the password user `u` set last in the steps
`ls`. `Agreed` is the invariant that ties the two classes together: the
stored password is the last one set, under the salt the login uses.

Login is by name, which is editable too, so `login_iff` is about the name the
user has at the end of the run.
-/
namespace Soufang

open UserServiceImpl

/-- One call of `modifyUserProfile` by the user who is logged in. -/
structure ProfileReq where
  fault : Bool
  userId : Long
  profile : Option String
  value : String

def profileStep (encodePassword : Encoder) (t : Users) (l : ProfileReq) : Option Users :=
  some (modifyUserProfile encodePassword l.fault l.userId l.profile l.value t).1

def profiles (encodePassword : Encoder) : LTS Users ProfileReq :=
  LTS.ofFn (fun _ => True) (profileStep encodePassword)

/-- The request sets the password of `u`. -/
def ProfileReq.SetsPassword (u : Long) (l : ProfileReq) : Prop :=
  l.userId = u ∧ l.profile = some "password" ∧ l.fault = false

instance (u : Long) (l : ProfileReq) : Decidable (l.SetsPassword u) :=
  inferInstanceAs (Decidable (_ ∧ _ ∧ _))

def lastPassword (u : Long) (ls : List ProfileReq) : Option String :=
  (ls.filter fun l => l.SetsPassword u).getLast?.map ProfileReq.value

/-- No two passwords have the same encoding under one salt. -/
def CollisionFree (encodePassword : Encoder) : Prop :=
  ∀ salt p p', encodePassword p salt = encodePassword p' salt → p = p'

/-- After the steps `ls`, the stored passwords are the last ones set. -/
def Agreed (encodePassword : Encoder) (ls : List ProfileReq) (t : Users) : Prop :=
  ∀ u w user, lastPassword u ls = some w → t.find? u = some user →
    user.password = some (encodePassword w u)

theorem lastPassword_snoc (u : Long) (ls : List ProfileReq) (l : ProfileReq) :
    lastPassword u (ls ++ [l]) = if l.SetsPassword u then some l.value else lastPassword u ls := by
  unfold lastPassword
  rw [List.filter_append]
  split
  · rename_i h
    simp [h]
  · rename_i h
    simp [h]

theorem Agreed.step {encodePassword : Encoder} {ls : List ProfileReq} {t : Users}
    (h : Agreed encodePassword ls t) (l : ProfileReq) :
    Agreed encodePassword (ls ++ [l])
      (modifyUserProfile encodePassword l.fault l.userId l.profile l.value t).1 := by
  intro u w user hw hu
  rw [lastPassword_snoc] at hw
  by_cases hl : l.SetsPassword u
  · obtain ⟨rfl, hp, hf⟩ := hl
    rw [if_pos ⟨rfl, hp, hf⟩, Option.some.injEq] at hw
    rw [modifyUserProfile_sets hp hf] at hu
    obtain ⟨old, -, rfl⟩ := Option.map_eq_some_iff.mp hu
    rw [hw]
  · rw [if_neg hl] at hw
    by_cases hid : u = l.userId
    · subst hid
      have hkeep : ((modifyUserProfile encodePassword l.fault l.userId l.profile l.value t).1.find?
          l.userId).map User.password = (t.find? l.userId).map User.password :=
        modifyUserProfile_keeps fun hp => hl ⟨rfl, hp⟩
      rw [hu, Option.map_some] at hkeep
      obtain ⟨old, hold, hpw⟩ := Option.map_eq_some_iff.mp hkeep.symm
      rw [← hpw]
      exact h l.userId w old hw hold
    · rw [modifyUserProfile_other hid] at hu
      exact h u w user hw hu

theorem agreed_run {encodePassword : Encoder} {t t' : Users} {ls : List ProfileReq}
    (hr : (profiles encodePassword).Run t ls t') : Agreed encodePassword ls t' := by
  refine LTS.Run.history ?_ (fun ls s l s' _ h hs => ?_) hr
  · intro u w user hw
    cases hw
  · cases hs
    exact h.step l

/-- The password check of a user whose stored password is the encoding of `w0`. -/
theorem isPasswordValid_iff {encodePassword : Encoder} (hinj : CollisionFree encodePassword) {w w0 : String}
    {salt : Long} :
    isPasswordValid encodePassword (some (encodePassword w0 salt)) w salt = true ↔ w = w0 := by
  simp only [isPasswordValid, Option.getD_some, decide_eq_true_eq]
  constructor
  · intro h
    exact (hinj salt w0 w h).symm
  · intro h
    rw [h]

/-- **Passwords.** After any run of profile changes, a user who set a password
in it can log in exactly under the current name, with some role, and with the
password set last. No request of another user changes the row. -/
theorem login_iff (encodePassword : Encoder) (hinj : CollisionFree encodePassword) (roles : List Role)
    (t t' : Users) (ls : List ProfileReq) (hr : (profiles encodePassword).Run t ls t') :
    (∀ u w0, lastPassword u ls = some w0 → ∀ n w,
      (∃ token, AuthProvider.authenticate encodePassword roles n w t' = .ok token ∧ token.principal.id = u) ↔
        (∃ user, t'.find? u = some user ∧ user.name = some n) ∧ findRolesByUserId roles u ≠ [] ∧ w = w0) ∧
    ∀ pre l post s1 s2, ls = pre ++ l :: post → (profiles encodePassword).Run t pre s1 →
      (profiles encodePassword).step s1 l s2 → ∀ u, u ≠ l.userId → s2.find? u = s1.find? u := by
  refine ⟨fun u w0 hw n w => ?_, fun pre l post s1 s2 _ _ hs u hne => ?_⟩
  · have hpw : ∀ user, t'.find? u = some user → user.password = some (encodePassword w0 u) :=
      fun user hu => agreed_run hr u w0 user hw hu
    rw [authenticate_ok_iff]
    constructor
    · intro ⟨user, hu, hn, hroles, hv⟩
      rw [hpw user hu, isPasswordValid_iff hinj] at hv
      exact ⟨⟨user, hu, hn⟩, hroles, hv⟩
    · intro ⟨⟨user, hu, hn⟩, hroles, hw⟩
      refine ⟨user, hu, hn, hroles, ?_⟩
      rw [hpw user hu, isPasswordValid_iff hinj]
      exact hw
  · cases hs
    exact modifyUserProfile_other hne

namespace Sample

/-- The encoder merges password and salt and hashes; of the hashes only the
one of `wali` for user 1 is written out. -/
def encodePassword (password : String) (salt : Long) : String :=
  let merged := password ++ ("\x7b" ++ toString salt ++ "\x7d")
  if merged = "wali\x7b1\x7d" then "30fb4d68ea3849b00e791a2ec770af8d" else merged

theorem encodePassword_collisionFree : CollisionFree encodePassword := by
  intro salt p p' h
  have hne : ∀ q : String, q ++ ("\x7b" ++ toString salt ++ "\x7d") ≠ "30fb4d68ea3849b00e791a2ec770af8d" := by
    intro q hq
    have hlast : ('\x7b' :: (toString salt).toList ++ ['\x7d']).getLast? = some 'd' := by
      simpa [String.toList_append] using congrArg (fun s : String => s.toList.getLast?) hq
    rw [List.getLast?_concat] at hlast
    exact absurd hlast (by decide)
  simp only [encodePassword] at h
  split at h
  · rename_i hp
    split at h
    · rename_i hp'
      exact (String.append_left_inj _).mp (hp.trans hp'.symm)
    · exact absurd h.symm (hne p')
  · split at h
    · exact absurd h (hne p)
    · exact (String.append_left_inj _).mp h

/-- Users 1 and 2 of `db/xunwu.sql`. -/
def users : Users where
  rows := [⟨1, some "waliwali", some "6fd1aad88b038aeecd9adeccc92b0bd1", some "wali@wali.com", "15111111111"⟩,
    ⟨2, some "admin", some "55b3d0936a3fb63168d57a6bda0ddbbf", some "admin@imooc.com", "1388888888"⟩]
  ids := by decide
  distinct := by decide

def roles : List Role := [⟨1, 1, "USER"⟩, ⟨2, 2, "ADMIN"⟩]

end Sample

/-- User 1 takes the name `wali`, which user 2 is then refused, and sets a
password: the login under the new name and password is the one of user 1. -/
theorem login_renamed : ∃ t', (profiles Sample.encodePassword).Run Sample.users
    [⟨false, 1, some "name", "wali"⟩, ⟨false, 2, some "name", "wali"⟩,
      ⟨false, 1, some "password", "wali"⟩] t' ∧
      ∃ token, AuthProvider.authenticate Sample.encodePassword Sample.roles "wali" "wali" t' = .ok token ∧
        token.principal.id = 1 := by
  obtain ⟨t', hs, hname⟩ : ∃ t' ∈ LTS.exec (profileStep Sample.encodePassword) (fun _ _ => True) Sample.users
      [⟨false, 1, some "name", "wali"⟩, ⟨false, 2, some "name", "wali"⟩,
        ⟨false, 1, some "password", "wali"⟩],
      (t'.find? 1).map User.name = some (some "wali") := by decide +kernel
  have hr : (profiles Sample.encodePassword).Run Sample.users _ t' := (LTS.run_of_exec hs).of_restrict
  obtain ⟨hlogin, -⟩ := login_iff Sample.encodePassword Sample.encodePassword_collisionFree Sample.roles
    Sample.users t' _ hr
  refine ⟨t', hr, (hlogin 1 "wali" (by decide) "wali" "wali").mpr ⟨?_, by decide, rfl⟩⟩
  exact Option.map_eq_some_iff.mp hname

end Soufang
