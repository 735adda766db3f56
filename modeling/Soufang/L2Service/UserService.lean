import Soufang.Core.Keyed
import Soufang.L2Service.HouseService

/-!
# Users: profile changes and login

`modifyUserProfile` changes the name, the e-mail or the password of the user
who is logged in; `authenticate` checks a name and a password. Both encode
with an MD5 encoder of their own, salted with the id of the user. The encoder
is a library: a function of password and salt here.

The names, e-mails and phone numbers of `user` are unique keys; names are
compared exactly. Left out of the rows: status, times and avatar, which
nothing below reads or writes.

* `authenticate_ok_iff`: who may log in.
* `modifyUserProfile_failed`, `modifyUserProfile_other`, `modifyUserProfile_keeps`,
  `modifyUserProfile_sets`: what a profile change does to the rows.
-/
namespace Soufang

/-- mirrors soufang/src/main/java/com/wf/entity/User.java:21-49 -/
structure User where
  id : Long
  name : Option String
  password : Option String
  email : Option String
  phoneNumber : String
  deriving DecidableEq

/-! The unique keys `index_on_username`, `index_on_email` and
`index_on_phone` of `db/xunwu.sql`. -/

instance : Keyed User where
  id := User.id
  Value := String
  decValue := inferInstance
  uniques := [User.name, User.email, fun u => some u.phoneNumber]

abbrev Users := KeyedTable User

/-- mirrors soufang/src/main/java/com/wf/entity/Role.java:14-23 -/
structure Role where
  id : Long
  userId : Long
  name : String

/-- `encodePassword` of the MD5 encoder: of a password and a salt. -/
abbrev Encoder := String → Long → String

/-- Spring compares `"" + encPass` with the encoded input. -/
def isPasswordValid (encodePassword : Encoder) (encPass : Option String) (rawPass : String)
    (salt : Long) : Bool :=
  encPass.getD "null" = encodePassword rawPass salt

/-- The exceptions that refuse a login. -/
inductive AuthenticationException
  | disabled (message : String)
  | credentialsNotFound (message : String)
  | badCredentials (message : String)
  deriving DecidableEq

/-- `UsernamePasswordAuthenticationToken`. -/
structure AuthenticationToken where
  principal : User
  authorities : List String
  deriving DecidableEq

/-- mirrors soufang/src/main/java/com/wf/repository/RoleRepository.java:9 -/
def findRolesByUserId (roles : List Role) (userId : Long) : List Role :=
  roles.filter fun r => r.userId = userId

namespace UserServiceImpl

/-- mirrors soufang/src/main/java/com/wf/service/user/UserServiceImpl.java:35-52 -/
def findUserByName (roles : List Role) (userName : String) (t : Users) :
    Except AuthenticationException (Option (User × List String)) :=
  match t.findBy User.name userName with
  | none => .ok none
  | some user =>
    if (findRolesByUserId roles user.id).isEmpty then .error (.disabled "权限非法")
    else .ok (some (user, (findRolesByUserId roles user.id).map fun role => "ROLE_" ++ role.name))

/-- mirrors soufang/src/main/java/com/wf/repository/UserRepository.java:15-17 -/
def updateUsername (id : Long) (name : String) (t : Users) : Option Users :=
  t.update? id (fun u => { u with name := some name }) fun _ => rfl

/-- mirrors soufang/src/main/java/com/wf/repository/UserRepository.java:19-21 -/
def updateEmail (id : Long) (email : String) (t : Users) : Option Users :=
  t.update? id (fun u => { u with email := some email }) fun _ => rfl

/-- mirrors soufang/src/main/java/com/wf/repository/UserRepository.java:23-25 -/
def updatePassword (id : Long) (password : String) (t : Users) : Option Users :=
  t.update? id (fun u => { u with password := some password }) fun _ => rfl

/-- The end of the transaction: an UPDATE the database refuses, for a key or
for an outside reason (`fault`), changes nothing. -/
def committed (fault : Bool) (t : Users) (r : Option Users) : Users × Except Exn (ServiceResult Unit) :=
  match HouseService.guarded fault r with
  | none => (t, .error .dataIntegrityViolation)
  | some t' => (t', .ok .ok)

/-- mirrors soufang/src/main/java/com/wf/service/user/UserServiceImpl.java:84-105 -/
def modifyUserProfile (encodePassword : Encoder) (fault : Bool) (userId : Long) (profile : Option String)
    (value : String) (t : Users) : Users × Except Exn (ServiceResult Unit) :=
  match profile with
  | none => (t, .ok (.fail "属性不可以为空"))
  | some profile =>
    if profile = "" then (t, .ok (.fail "属性不可以为空"))
    else if profile = "name" then committed fault t (updateUsername userId value t)
    else if profile = "email" then committed fault t (updateEmail userId value t)
    else if profile = "password" then
      committed fault t (updatePassword userId (encodePassword value userId) t)
    else (t, .ok (.fail "不支持的属性"))

end UserServiceImpl

open UserServiceImpl

/-- mirrors soufang/src/main/java/com/wf/security/AuthProvider.java:24-41 -/
def AuthProvider.authenticate (encodePassword : Encoder) (roles : List Role) (userName inputPassword : String)
    (t : Users) : Except AuthenticationException AuthenticationToken :=
  match findUserByName roles userName t with
  | .error e => .error e
  | .ok none => .error (.credentialsNotFound "authError")
  | .ok (some (user, authorities)) =>
    if isPasswordValid encodePassword user.password inputPassword user.id then .ok ⟨user, authorities⟩
    else .error (.badCredentials "authError")

namespace UserServiceImpl

theorem findByName_eq_some {t : Users} {n : String} {user : User} :
    t.findBy User.name n = some user ↔ t.find? user.id = some user ∧ user.name = some n := by
  rw [KeyedTable.findBy_eq_some (by simp [Keyed.uniques]), KeyedTable.find?_eq_some]
  simp [Keyed.id]

theorem findUserByName_eq_some {roles : List Role} {n : String} {t : Users} {user : User}
    {authorities : List String} : findUserByName roles n t = .ok (some (user, authorities)) ↔
      t.find? user.id = some user ∧ user.name = some n ∧ findRolesByUserId roles user.id ≠ [] ∧
        authorities = (findRolesByUserId roles user.id).map fun role => "ROLE_" ++ role.name := by
  rw [← and_assoc, ← findByName_eq_some, findUserByName]
  cases t.findBy User.name n with
  | none => simp
  | some user' =>
    dsimp only
    by_cases hr : findRolesByUserId roles user'.id = []
    · rw [if_pos (List.isEmpty_iff.mpr hr)]
      constructor
      · intro h
        cases h
      · intro ⟨hu, hne, _⟩
        cases hu
        exact absurd hr hne
    · rw [if_neg fun he => hr (List.isEmpty_iff.mp he)]
      simp only [Except.ok.injEq, Option.some.injEq, Prod.mk.injEq]
      constructor
      · intro ⟨hu, ha⟩
        subst hu
        exact ⟨rfl, hr, ha.symm⟩
      · intro ⟨hu, _, ha⟩
        subst hu
        exact ⟨rfl, ha.symm⟩

theorem authenticate_eq_ok {encodePassword : Encoder} {roles : List Role} {n w : String} {t : Users}
    {token : AuthenticationToken} : AuthProvider.authenticate encodePassword roles n w t = .ok token ↔
      findUserByName roles n t = .ok (some (token.principal, token.authorities)) ∧
        isPasswordValid encodePassword token.principal.password w token.principal.id = true := by
  unfold AuthProvider.authenticate
  cases findUserByName roles n t with
  | error e => simp
  | ok found =>
    cases found with
    | none => simp
    | some p =>
      obtain ⟨user, authorities⟩ := p
      obtain ⟨principal, authorities'⟩ := token
      dsimp only
      by_cases hv : isPasswordValid encodePassword user.password w user.id = true
      · rw [if_pos hv]
        simp only [Except.ok.injEq, AuthenticationToken.mk.injEq, Option.some.injEq, Prod.mk.injEq]
        constructor
        · intro ⟨hu, ha⟩
          subst hu
          exact ⟨⟨rfl, ha⟩, hv⟩
        · intro ⟨h, _⟩
          exact h
      · rw [if_neg hv]
        constructor
        · intro h
          cases h
        · intro ⟨h, hv'⟩
          cases h
          exact absurd hv' hv

/-- A login succeeds exactly for a stored user of that name who has a role
and whose password is the encoded input. -/
theorem authenticate_ok_iff {encodePassword : Encoder} {roles : List Role} {n w : String} {t : Users}
    {u : Long} :
    (∃ token, AuthProvider.authenticate encodePassword roles n w t = .ok token ∧ token.principal.id = u) ↔
      ∃ user, t.find? u = some user ∧ user.name = some n ∧ findRolesByUserId roles u ≠ [] ∧
        isPasswordValid encodePassword user.password w u = true := by
  constructor
  · intro ⟨token, h, hid⟩
    subst hid
    obtain ⟨hfound, hv⟩ := authenticate_eq_ok.mp h
    obtain ⟨hu, hn, hr, -⟩ := findUserByName_eq_some.mp hfound
    exact ⟨token.principal, hu, hn, hr, hv⟩
  · intro ⟨user, hu, hn, hr, hv⟩
    have hid : user.id = u := (KeyedTable.find?_eq_some.mp hu).2
    subst hid
    exact ⟨⟨user, (findRolesByUserId roles user.id).map fun role => "ROLE_" ++ role.name⟩,
      authenticate_eq_ok.mpr ⟨findUserByName_eq_some.mpr ⟨hu, hn, hr, rfl⟩, hv⟩, rfl⟩

/-! ## Profile changes -/

section
variable {encodePassword : Encoder} {fault : Bool} {userId : Long} {profile : Option String} {value : String}
  {t : Users}

/-- A transaction leaves the rows alone or commits its UPDATE. -/
theorem committed_cases (fault : Bool) (t : Users) (r : Option Users) :
    (committed fault t r).1 = t ∨ ∃ t', r = some t' ∧ committed fault t r = (t', .ok .ok) := by
  unfold committed HouseService.guarded
  cases fault with
  | true => exact Or.inl rfl
  | false =>
    cases r with
    | none => exact Or.inl rfl
    | some t' => exact Or.inr ⟨t', rfl, rfl⟩

/-- A profile change leaves the rows alone, or it reports success and is one
accepted UPDATE. A password change is only refused for an outside reason. -/
theorem modifyUserProfile_cases (encodePassword : Encoder) (fault : Bool) (userId : Long)
    (profile : Option String) (value : String) (t : Users) :
    ((modifyUserProfile encodePassword fault userId profile value t).1 = t ∧
        ¬ (profile = some "password" ∧ fault = false)) ∨
      ∃ t', modifyUserProfile encodePassword fault userId profile value t = (t', .ok .ok) ∧
        (updateUsername userId value t = some t' ∧ profile = some "name" ∨
          updateEmail userId value t = some t' ∧ profile = some "email" ∨
          updatePassword userId (encodePassword value userId) t = some t' ∧ profile = some "password" ∧
            fault = false) := by
  unfold modifyUserProfile
  cases profile with
  | none => exact Or.inl ⟨rfl, by simp⟩
  | some profile =>
    dsimp only
    split
    · rename_i hp
      exact Or.inl ⟨rfl, by simp [hp]⟩
    · split
      · rename_i hp
        rcases committed_cases fault t (updateUsername userId value t) with he | ⟨t', ht', he⟩
        · exact Or.inl ⟨he, by simp [hp]⟩
        · exact Or.inr ⟨t', he, Or.inl ⟨ht', by rw [hp]⟩⟩
      · split
        · rename_i hp
          rcases committed_cases fault t (updateEmail userId value t) with he | ⟨t', ht', he⟩
          · exact Or.inl ⟨he, by simp [hp]⟩
          · exact Or.inr ⟨t', he, Or.inr (Or.inl ⟨ht', by rw [hp]⟩)⟩
        · split
          · rename_i hp
            obtain ⟨t', ht'⟩ : ∃ t', updatePassword userId (encodePassword value userId) t = some t' :=
              KeyedTable.update?_of_same t userId _ (by simp [Keyed.uniques])
            cases fault with
            | true => exact Or.inl ⟨rfl, by simp⟩
            | false => exact Or.inr ⟨t', by rw [ht']; rfl, Or.inr (Or.inr ⟨ht', by rw [hp], rfl⟩)⟩
          · rename_i hp
            exact Or.inl ⟨rfl, by simp [hp]⟩

/-- A request that does not report success changes nothing. -/
theorem modifyUserProfile_failed
    (h : (modifyUserProfile encodePassword fault userId profile value t).2 ≠ .ok .ok) :
    (modifyUserProfile encodePassword fault userId profile value t).1 = t := by
  rcases modifyUserProfile_cases encodePassword fault userId profile value t with ⟨he, -⟩ | ⟨t', he, -⟩
  · exact he
  · rw [he] at h
    exact absurd rfl h

/-- The row of another user stays as it is. -/
theorem modifyUserProfile_other {u : Long} (hne : u ≠ userId) :
    (modifyUserProfile encodePassword fault userId profile value t).1.find? u = t.find? u := by
  rcases modifyUserProfile_cases encodePassword fault userId profile value t with
    ⟨he, -⟩ | ⟨t', he, ⟨ht, -⟩ | ⟨ht, -⟩ | ⟨ht, -⟩⟩
  · rw [he]
  · rw [he, KeyedTable.find?_update? ht, if_neg hne]
  · rw [he, KeyedTable.find?_update? ht, if_neg hne]
  · rw [he, KeyedTable.find?_update? ht, if_neg hne]

/-- Only an accepted password change changes a password. -/
theorem modifyUserProfile_keeps (h : ¬ (profile = some "password" ∧ fault = false)) :
    ((modifyUserProfile encodePassword fault userId profile value t).1.find? userId).map User.password =
      (t.find? userId).map User.password := by
  rcases modifyUserProfile_cases encodePassword fault userId profile value t with
    ⟨he, -⟩ | ⟨t', he, ⟨ht, -⟩ | ⟨ht, -⟩ | ⟨-, hp⟩⟩
  · rw [he]
  · rw [he, KeyedTable.find?_update? ht, if_pos rfl, Option.map_map]
    rfl
  · rw [he, KeyedTable.find?_update? ht, if_pos rfl, Option.map_map]
    rfl
  · exact absurd hp h

/-- The password is stored encoded with the salt the login uses. -/
theorem modifyUserProfile_sets (hp : profile = some "password") (hf : fault = false) :
    (modifyUserProfile encodePassword fault userId profile value t).1.find? userId =
      (t.find? userId).map fun u => { u with password := some (encodePassword value userId) } := by
  rcases modifyUserProfile_cases encodePassword fault userId profile value t with
    ⟨-, hn⟩ | ⟨t', he, ⟨-, hn⟩ | ⟨-, hn⟩ | ⟨ht, -⟩⟩
  · exact absurd ⟨hp, hf⟩ hn
  · simp [hp] at hn
  · simp [hp] at hn
  · rw [he, KeyedTable.find?_update? ht, if_pos rfl]

end

end UserServiceImpl

end Soufang
