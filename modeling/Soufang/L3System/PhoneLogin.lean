import Soufang.L2Service.LoginUserUtil
import Soufang.L3System.Passwords

/-!
# Login by telephone

`attemptAuthentication` logs in by name and password, or, without a name, by
telephone number and SMS code. The second path loads the user without the
roles; its token has no authorities, whatever roles the user has. For an
unknown number it calls `addUserByPhone`, which only looks again, and the null
it returns is dereferenced.

* `phoneLogin_known`, `phoneLogin_unknown`: what the second path does.
* `phoneLogin_never`: it never gives the session the password login gives.
-/
namespace Soufang

open LoginUserUtil UserServiceImpl

/-- The parameters of a login request. -/
structure LoginRequest where
  username : Option String
  password : Option String
  telephone : Option String
  smsCode : Option String

/-- What ends a login: a refusal, or an exception of the code. -/
inductive LoginFailure
  | refused (e : AuthenticationException)
  | exn (e : Exn)
  deriving DecidableEq

/-- mirrors soufang/src/main/java/com/wf/service/SmsServiceImpl.java:75-79 -/
def SmsServiceImpl.getSmsCode (_telephone : String) : String := "123456"

/-- `String.trim` of Java. -/
def trim (s : String) : String :=
  let blank (c : Char) : Bool := c.toNat ≤ 32
  String.ofList ((s.toList.dropWhile blank).reverse.dropWhile blank).reverse

namespace UserServiceImpl

/-- mirrors soufang/src/main/java/com/wf/service/user/UserServiceImpl.java:78-82 -/
def findUserByTelephone (telephone : String) (t : Users) : Option User :=
  t.findBy (fun u => some u.phoneNumber) telephone

/-- mirrors soufang/src/main/java/com/wf/service/user/UserServiceImpl.java:61-76 -/
def addUserByPhone (roles : List Role) (telephone : String) (t : Users) :
    Except AuthenticationException (Option (User × List String)) :=
  match findUserByTelephone telephone t with
  | none => .ok none
  | some user =>
    if (findRolesByUserId roles user.id).isEmpty then .error (.disabled "权限非法")
    else .ok (some (user, (findRolesByUserId roles user.id).map fun role => "ROLE_" ++ role.name))

end UserServiceImpl

namespace AuthFilter

/-- The branch for a request without a user name. The authorities of a user as
the repository loads it are null, of which the token makes an empty list.
mirrors soufang/src/main/java/com/wf/security/AuthFilter.java:34-50 -/
def byTelephone (roles : List Role) (telephone smsCode : Option String) (t : Users) :
    Except LoginFailure AuthenticationToken :=
  match telephone with
  | none => .error (.refused (.badCredentials "Wrong telephone number"))
  | some telephone =>
    if telephone = "" ∨ checkTelephone telephone = false then
      .error (.refused (.badCredentials "Wrong telephone number"))
    else if smsCode = some (SmsServiceImpl.getSmsCode telephone) then
      match findUserByTelephone telephone t with
      | some user => .ok ⟨user, []⟩
      | none =>
        match addUserByPhone roles telephone t with
        | .error e => .error (.refused e)
        | .ok none => .error (.exn .nullPointer)
        | .ok (some (user, authorities)) => .ok ⟨user, authorities⟩
    else .error (.refused (.badCredentials "smsCodeError"))

/-- The branch for a name is that of the superclass, which trims the name.
Neither branch writes to the table of users.
mirrors soufang/src/main/java/com/wf/security/AuthFilter.java:26-50 -/
def attemptAuthentication (encodePassword : Encoder) (roles : List Role) (request : LoginRequest) (t : Users) :
    Users × Except LoginFailure AuthenticationToken :=
  (t, if request.username.getD "" ≠ "" then
      match AuthProvider.authenticate encodePassword roles (trim (request.username.getD ""))
          (request.password.getD "") t with
      | .ok token => .ok token
      | .error e => .error (.refused e)
    else byTelephone roles request.telephone request.smsCode t)

/-- A number with the code that was stored for it. -/
def phoneRequest (telephone : String) : LoginRequest :=
  ⟨none, none, some telephone, some (SmsServiceImpl.getSmsCode telephone)⟩

section
variable {encodePassword : Encoder} {roles : List Role} {telephone : String} {t : Users} {user : User}

theorem findUserByTelephone_eq_some :
    findUserByTelephone telephone t = some user ↔ user ∈ t.rows ∧ user.phoneNumber = telephone := by
  rw [findUserByTelephone, KeyedTable.findBy_eq_some (by simp [Keyed.uniques]), Option.some.injEq]

theorem checkTelephone_nonempty (h : checkTelephone telephone = true) : telephone ≠ "" := by
  rintro rfl
  obtain ⟨_, _, _, _, ht, -⟩ := checkTelephone_eq_true.mp h
  cases ht

theorem byTelephone_accepted (h : checkTelephone telephone = true) :
    byTelephone roles (some telephone) (some (SmsServiceImpl.getSmsCode telephone)) t =
      match findUserByTelephone telephone t with
      | some user => .ok ⟨user, []⟩
      | none => .error (.exn .nullPointer) := by
  have hpass : ¬ (telephone = "" ∨ checkTelephone telephone = false) := by
    rintro (he | he)
    · exact checkTelephone_nonempty h he
    · rw [h] at he
      cases he
  unfold byTelephone
  dsimp only
  rw [if_neg hpass, if_pos rfl]
  unfold addUserByPhone
  cases findUserByTelephone telephone t <;> rfl

theorem attemptAuthentication_phone :
    attemptAuthentication encodePassword roles (phoneRequest telephone) t =
      (t, byTelephone roles (some telephone) (some (SmsServiceImpl.getSmsCode telephone)) t) := rfl

/-- A user with the number is logged in without authorities. -/
theorem phoneLogin_known (h : checkTelephone telephone = true)
    (hu : findUserByTelephone telephone t = some user) :
    attemptAuthentication encodePassword roles (phoneRequest telephone) t = (t, .ok ⟨user, []⟩) := by
  rw [attemptAuthentication_phone, byTelephone_accepted h, hu]

/-- For an unknown number a null is dereferenced, and no user is stored. -/
theorem phoneLogin_unknown (h : checkTelephone telephone = true)
    (hu : findUserByTelephone telephone t = none) :
    attemptAuthentication encodePassword roles (phoneRequest telephone) t = (t, .error (.exn .nullPointer)) := by
  rw [attemptAuthentication_phone, byTelephone_accepted h, hu]

/-- Another code is refused. -/
theorem phoneLogin_wrong_code (smsCode : Option String) (hs : smsCode ≠ some (SmsServiceImpl.getSmsCode telephone)) :
    ∃ message, (attemptAuthentication encodePassword roles ⟨none, none, some telephone, smsCode⟩ t).2 =
      .error (.refused (.badCredentials message)) := by
  change ∃ message, byTelephone roles (some telephone) smsCode t = _
  unfold byTelephone
  dsimp only
  rw [if_neg hs]
  split
  · exact ⟨_, rfl⟩
  · exact ⟨_, rfl⟩

end

/-! ## The session -/

/-- What a login by telephone with the stored code is to do. -/
structure SameSession (encodePassword : Encoder) (roles : List Role) (telephone : String) (t : Users) : Prop where
  /-- The user of the number gets the authorities of the roles. -/
  granted : ∀ user ∈ t.rows, user.phoneNumber = telephone → findRolesByUserId roles user.id ≠ [] →
    (attemptAuthentication encodePassword roles (phoneRequest telephone) t).2 =
      .ok ⟨user, (findRolesByUserId roles user.id).map fun role => "ROLE_" ++ role.name⟩
  /-- They are those a login by password gets. -/
  same : ∀ name password token, AuthProvider.authenticate encodePassword roles name password t = .ok token →
    token.principal.phoneNumber = telephone →
      (attemptAuthentication encodePassword roles (phoneRequest telephone) t).2 = .ok token
  /-- A user without roles is refused, in both ways. -/
  refused : ∀ user ∈ t.rows, user.phoneNumber = telephone → findRolesByUserId roles user.id = [] →
    (∃ e, (attemptAuthentication encodePassword roles (phoneRequest telephone) t).2 = .error (.refused e)) ∧
      ∀ name password, user.name = some name →
        ∃ e, AuthProvider.authenticate encodePassword roles name password t = .error e
  /-- Without a user of the number one is stored and logged in. -/
  registered : (∀ user ∈ t.rows, user.phoneNumber ≠ telephone) →
    ∃ user authorities, user.phoneNumber = telephone ∧
      user ∈ (attemptAuthentication encodePassword roles (phoneRequest telephone) t).1.rows ∧
      (attemptAuthentication encodePassword roles (phoneRequest telephone) t).2 = .ok ⟨user, authorities⟩

/-- A user of the number is in the table, or none is. -/
theorem phoneNumber_cases (telephone : String) (t : Users) :
    (∃ user ∈ t.rows, user.phoneNumber = telephone ∧ findUserByTelephone telephone t = some user) ∨
      (∀ user ∈ t.rows, user.phoneNumber ≠ telephone) ∧ findUserByTelephone telephone t = none := by
  cases hu : findUserByTelephone telephone t with
  | some user =>
    obtain ⟨hmem, hnumber⟩ := findUserByTelephone_eq_some.mp hu
    exact Or.inl ⟨user, hmem, hnumber, rfl⟩
  | none =>
    refine Or.inr ⟨fun user hmem hnumber => ?_, rfl⟩
    rw [findUserByTelephone_eq_some.mpr ⟨hmem, hnumber⟩] at hu
    cases hu

/-- For no tables of users and roles and for no number does the login by
telephone give the session of the password login. -/
theorem phoneLogin_never (encodePassword : Encoder) (roles : List Role) (telephone : String) (t : Users)
    (h : checkTelephone telephone = true) : ¬ SameSession encodePassword roles telephone t := by
  intro hs
  rcases phoneNumber_cases telephone t with ⟨user, hmem, hnumber, hu⟩ | ⟨hno, hu⟩
  · have hlogin : attemptAuthentication encodePassword roles (phoneRequest telephone) t = (t, .ok ⟨user, []⟩) :=
      phoneLogin_known h hu
    by_cases hroles : findRolesByUserId roles user.id = []
    · obtain ⟨⟨e, he⟩, -⟩ := hs.refused user hmem hnumber hroles
      rw [hlogin] at he
      cases he
    · have hgranted := hs.granted user hmem hnumber hroles
      rw [hlogin, Except.ok.injEq, AuthenticationToken.mk.injEq] at hgranted
      exact hroles (List.map_eq_nil_iff.mp hgranted.2.symm)
  · obtain ⟨user, authorities, -, -, hok⟩ := hs.registered hno
    rw [phoneLogin_unknown h hu] at hok
    cases hok

/-- The number of user 1. -/
theorem checkTelephone_user1 : checkTelephone "15111111111" = true :=
  (checkTelephone_iff "15111111111").mpr (Or.inl ⟨by decide, by simp [IsDigit], by decide⟩)

theorem phoneLogin_never_user1 : checkTelephone "15111111111" = true ∧
    ¬ SameSession Sample.encodePassword Sample.roles "15111111111" Sample.users :=
  ⟨checkTelephone_user1, phoneLogin_never _ _ _ _ checkTelephone_user1⟩

/-- User 1 has the role USER, which a login by telephone does not give. -/
theorem phoneLogin_without_roles : ¬ SameSession Sample.encodePassword Sample.roles "15111111111" Sample.users := by
  intro hs
  obtain ⟨user, hu, hrole⟩ : ∃ user, findUserByTelephone "15111111111" Sample.users = some user ∧
      findRolesByUserId Sample.roles user.id = [⟨1, 1, "USER"⟩] := ⟨_, rfl, rfl⟩
  obtain ⟨hmem, hnumber⟩ := findUserByTelephone_eq_some.mp hu
  have hgranted := hs.granted user hmem hnumber (by rw [hrole]; exact List.cons_ne_nil _ _)
  rw [phoneLogin_known checkTelephone_user1 hu, hrole] at hgranted
  cases hgranted

end AuthFilter

end Soufang
