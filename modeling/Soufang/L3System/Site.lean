import Soufang.L2Service.Security
import Soufang.L2Service.UserInfo
import Soufang.L3System.Integrity
import Soufang.L3System.Passwords
import Soufang.L3System.PhoneLogin
import Soufang.L3System.TagSets
import Soufang.L3System.UploadPhoto

/-!
# The site

The endpoints behind the filter chain, the logins and the index consumer, over
one state and in any order. A client is a session cookie; a request is a path
and an endpoint with its parameters.

Which paths Spring maps to an endpoint is up to the library, of which
`RequestMappings` says what is used. A login that is refused empties the
session; one that ends with another exception leaves it alone. The roles are
read at the login, and no code writes them.

* `Effect`: everything a step can do. `effect_of_step` is the one inversion
  the properties of runs rest on.
* An administrator's call is a request of the system (`Endpoint.request`), so
  the properties of the system hold of the site.
-/
namespace Soufang

open UserServiceImpl

/-- The request mappings, a library: the text of a mapping before its first
variable or wildcard is matched as it stands. -/
structure RequestMappings where
  serves : String → String → Bool
  leading : ∀ root rest path, Literal root → serves (root ++ rest) path = true → root.toList <+: path.toList

/-- What stays while the site runs. -/
structure Config (F : Type) where
  env : Env
  encodePassword : Encoder
  roles : List Role
  host : Host F
  patterns : AntMatcher
  mappings : RequestMappings

structure Site (F : Type) where
  booked : Bookings
  users : Users
  disk : Disk F
  sessions : Nat → Option AuthenticationToken

/-- `faults`, `fault` and `answer` are the outside world's, `now` is the time of
the call. `page` is any endpoint that only reads. -/
inductive Endpoint
  | addHouse (faults : Faults) (now : Date) (form : HouseForm)
  | saveHouse (now : Date) (form : HouseForm)
  | uploadPhoto (upload : PhotoUpload)
  | removeHousePhoto (id : Long) (answer : QiNiuAnswer)
  | updateCover (coverId targetId : Long)
  | addHouseTag (houseId : Long) (tag : Option String)
  | removeHouseTag (houseId : Long) (tag : Option String)
  | operateHouse (id operation : Int)
  | updateUserInfo (fault : Bool) (profile value : String)
  | subscribeHouse (now : Date) (houseId : Long)
  | page

inductive SiteReq
  | login (client : Nat) (request : LoginRequest)
  /-- A logout, or the session times out. -/
  | ended (client : Nat)
  | call (client : Nat) (path : String) (endpoint : Endpoint)
  | handle (calls : Calls)
  | refresh

namespace Endpoint

/-- mirrors soufang/src/main/java/com/wf/web/controller/admin/AdminController.java:89,145,229,253,271,290,312,335
and soufang/src/main/java/com/wf/web/controller/user/UserController.java:34,55 -/
def mapping : Endpoint → Option String
  | .addHouse _ _ _ => some "/admin/add/house"
  | .saveHouse _ _ => some "/admin/house/edit"
  | .uploadPhoto _ => some "/admin/upload/photo"
  | .removeHousePhoto _ _ => some "/admin/house/photo"
  | .updateCover _ _ => some "/admin/house/cover"
  | .addHouseTag _ _ => some "/admin/house/tag"
  | .removeHouseTag _ _ => some "/admin/house/tag"
  | .operateHouse _ _ => some "/admin/house/operate/\x7bid\x7d/\x7boperation\x7d"
  | .updateUserInfo _ _ _ => some "/api/user/info"
  | .subscribeHouse _ _ => some "/api/user/house/subscribe"
  | .page => none

def ServedAt (mappings : RequestMappings) (e : Endpoint) (path : String) : Prop :=
  ∀ m ∈ e.mapping, mappings.serves m path = true

instance (mappings : RequestMappings) (e : Endpoint) (path : String) : Decidable (e.ServedAt mappings path) := by
  unfold ServedAt; infer_instance

end Endpoint

/-- mirrors soufang/src/main/java/com/wf/base/LoginUserUtil.java:18-32 -/
def LoginUserUtil.getLoginUserId (session : Option AuthenticationToken) : Long :=
  match session with
  | none => -1
  | some token => token.principal.id

namespace AdminController

/-- mirrors soufang/src/main/java/com/wf/web/controller/admin/AdminController.java:253-263 -/
def removeHousePhoto (id : Long) (answer : QiNiuAnswer) (db : Db) : Db × DataResponse :=
  let r := HouseService.removePhoto id answer db
  (r.1, tagResponse r.2)

/-- mirrors soufang/src/main/java/com/wf/web/controller/admin/AdminController.java:271-282 -/
def updateCover (coverId targetId : Long) (db : Db) : Db × Except Exn DataResponse :=
  let r := HouseService.updateCover coverId targetId db
  (r.1, r.2.map tagResponse)

end AdminController

namespace Site

variable {F : Type}

abbrev sys (s : Site F) : Sys := s.booked.sys

abbrev db (s : Site F) : Db := s.booked.sys.db

def withSys (s : Site F) (sys : Sys) : Site F := { s with booked := { s.booked with sys := sys } }

def withDb (s : Site F) (db : Db) : Site F := s.withSys { s.sys with db := db }

def withSession (s : Site F) (client : Nat) (session : Option AuthenticationToken) : Site F :=
  { s with sessions := Function.update s.sessions client session }

@[simp] theorem withSys_sys (s : Site F) (sys : Sys) : (s.withSys sys).booked.sys = sys := rfl

theorem withDb_self (s : Site F) : s.withDb s.db = s := rfl

end Site

section
variable {F : Type} [DecidableEq F]

/-- What an endpoint does for a user; the answers are those of the functions it
runs. -/
def Endpoint.perform (cfg : Config F) (user : Long) (s : Site F) : Endpoint → Site F
  | .addHouse faults now f => s.withDb (AdminController.addHouse cfg.env.cdnPrefix faults user now f s.db).1
  | .saveHouse now f => s.withDb (AdminController.saveHouse cfg.env.cdnPrefix now f s.db).1
  | .uploadPhoto u => { s with disk := (AdminController.uploadPhoto cfg.host s.disk u).1 }
  | .removeHousePhoto id answer => s.withDb (AdminController.removeHousePhoto id answer s.db).1
  | .updateCover c t => s.withDb (AdminController.updateCover c t s.db).1
  | .addHouseTag h tag => s.withDb (AdminController.addHouseTag h tag s.db).1
  | .removeHouseTag h tag => s.withDb (AdminController.removeHouseTag h tag s.db).1
  | .operateHouse id op => s.withSys (AdminController.operateHouse id op s.sys).1
  | .updateUserInfo fault profile value =>
    { s with users := (UserController.updateUserInfo cfg.encodePassword fault user profile value s.users).1 }
  | .subscribeHouse now houseId => { s with booked := (UserController.subscribeHouse user now houseId s.booked).1 }
  | .page => s

/-- The login of a client, and its session afterwards. -/
def loginStep (cfg : Config F) (client : Nat) (request : LoginRequest) (s : Site F) : Site F :=
  match (AuthFilter.attemptAuthentication cfg.encodePassword cfg.roles request s.users).2 with
  | .ok token => s.withSession client (some token)
  | .error (.refused _) => s.withSession client none
  | .error (.exn _) => s

def siteStep (cfg : Config F) (s : Site F) : SiteReq → Option (Site F)
  | .login client request => some (loginStep cfg client request s)
  | .ended client => some (s.withSession client none)
  | .call client path e =>
    some (if WebSecurityConfig.authorize cfg.patterns path (s.sessions client) = .proceed ∧
        e.ServedAt cfg.mappings path then
      e.perform cfg (LoginUserUtil.getLoginUserId (s.sessions client)) s else s)
  | .handle c => (step cfg.env s.sys (.handle c)).map s.withSys
  | .refresh => (step cfg.env s.sys .refresh).map s.withSys

def site (cfg : Config F) (init : Site F → Prop) : LTS (Site F) SiteReq := LTS.ofFn init (siteStep cfg)

end

/-! ## What an endpoint asks of the system -/

/-- The request of an endpoint that changes houses. A tag is never added, as
the endpoint for it refuses every tag. -/
def Endpoint.request (user : Long) : Endpoint → Option Req
  | .addHouse faults now f => some (.save faults user now f)
  | .saveHouse now f => some (.update now f)
  | .removeHousePhoto id answer => some (.removePhoto id answer)
  | .updateCover c t => some (.updateCover c t)
  | .removeHouseTag h tag => tag.map (.removeTag h)
  | .operateHouse id op => some (.operateHouse id op)
  | .addHouseTag _ _ | .uploadPhoto _ | .updateUserInfo _ _ _ | .subscribeHouse _ _ | .page => none

/-- The endpoints have checked the form of a save or an update. -/
def Checked (db : Db) : Req → Prop
  | .save _ _ _ f => f.violations = [] ∧ Resolved db f
  | .update _ f => f.violations = [] ∧ Resolved db f
  | _ => True

namespace AdminController

theorem addHouse_cases (cdnPrefix : String) (faults : Faults) (user : Long) (now : Date) (f : HouseForm) (db : Db) :
    (addHouse cdnPrefix faults user now f db).1 = db ∨
      f.violations = [] ∧ Resolved db f ∧
        (addHouse cdnPrefix faults user now f db).1 = (HouseService.save cdnPrefix faults user now f db).1 := by
  unfold addHouse
  cases hv : f.violations with
  | cons v rest => exact Or.inl rfl
  | nil =>
    dsimp only
    split
    · exact Or.inl rfl
    · cases hm : AddressService.findCityAndRegion db f.cityEnName f.regionEnName with
      | error e => exact Or.inl rfl
      | ok m =>
        dsimp only
        split
        · exact Or.inl rfl
        · refine Or.inr ⟨rfl, ⟨m, hm⟩, ?_⟩
          rcases HouseService.save cdnPrefix faults user now f db with ⟨db', e | result⟩ <;> rfl

theorem saveHouse_cases (cdnPrefix : String) (now : Date) (f : HouseForm) (db : Db) :
    (saveHouse cdnPrefix now f db).1 = db ∨
      f.violations = [] ∧ Resolved db f ∧
        (saveHouse cdnPrefix now f db).1 = (HouseService.update cdnPrefix now f db).1 := by
  unfold saveHouse
  cases hv : f.violations with
  | cons v rest => exact Or.inl rfl
  | nil =>
    dsimp only
    cases hm : AddressService.findCityAndRegion db f.cityEnName f.regionEnName with
    | error e => exact Or.inl rfl
    | ok m =>
      dsimp only
      split
      · exact Or.inl rfl
      · refine Or.inr ⟨rfl, ⟨m, hm⟩, ?_⟩
        rcases HouseService.update cdnPrefix now f db with ⟨db', e | result⟩ <;> rfl

/-- With a tag it refuses, and without one the row is refused. -/
theorem addHouseTag_never (houseId : Long) (tag : Option String) (db : Db) : (addHouseTag houseId tag db).1 = db := by
  unfold addHouseTag
  split
  · rfl
  · rename_i h
    obtain rfl : tag = none := of_not_not fun hne => h (Or.inr hne)
    unfold addNullableTag
    cases db.house.find? houseId <;> rfl

theorem removeHouseTag_cases (houseId : Long) (tag : Option String) (db : Db) :
    (removeHouseTag houseId tag db).1 = db ∨
      ∃ t, tag = some t ∧ (removeHouseTag houseId tag db).1 = (HouseService.removeTag houseId t db).1 := by
  unfold removeHouseTag
  cases tag with
  | none => exact Or.inl rfl
  | some t =>
    dsimp only
    split
    · exact Or.inl rfl
    · exact Or.inr ⟨t, rfl, rfl⟩

end AdminController

section
variable {F : Type} [DecidableEq F]

/-- An endpoint leaves the site alone, makes its request of the system, or is
one of the three that are not about houses. -/
theorem perform_cases (cfg : Config F) (user : Long) (e : Endpoint) (s : Site F) :
    e.perform cfg user s = s ∨
      (∃ req sys', e.request user = some req ∧ Checked s.db req ∧ step cfg.env s.sys req = some sys' ∧
        e.perform cfg user s = s.withSys sys') ∨
      (∃ u, e = .uploadPhoto u ∧
        e.perform cfg user s = { s with disk := (AdminController.uploadPhoto cfg.host s.disk u).1 }) ∨
      (∃ fault profile value, e = .updateUserInfo fault profile value ∧ value ≠ "" ∧
        (profile = "email" → LoginUserUtil.IsEmail value) ∧ e.perform cfg user s =
          { s with users := (modifyUserProfile cfg.encodePassword fault user (some profile) value s.users).1 }) ∨
      ∃ now houseId, e = .subscribeHouse now houseId ∧ e.perform cfg user s =
        { s with booked := (HouseService.addSubscribeOrder user now houseId s.booked).1 } := by
  cases e with
  | addHouse faults now f =>
    rcases AdminController.addHouse_cases cfg.env.cdnPrefix faults user now f s.db with he | ⟨hv, hr, he⟩
    · left
      simp only [Endpoint.perform, he, Site.withDb_self]
    · exact Or.inr (Or.inl ⟨_, _, rfl, ⟨hv, hr⟩, rfl, by simp only [Endpoint.perform, he, Site.withDb]⟩)
  | saveHouse now f =>
    rcases AdminController.saveHouse_cases cfg.env.cdnPrefix now f s.db with he | ⟨hv, hr, he⟩
    · left
      simp only [Endpoint.perform, he, Site.withDb_self]
    · exact Or.inr (Or.inl ⟨_, _, rfl, ⟨hv, hr⟩, rfl, by simp only [Endpoint.perform, he, Site.withDb]⟩)
  | uploadPhoto u => exact Or.inr (Or.inr (Or.inl ⟨u, rfl, rfl⟩))
  | removeHousePhoto id answer => exact Or.inr (Or.inl ⟨_, _, rfl, trivial, rfl, rfl⟩)
  | updateCover c t => exact Or.inr (Or.inl ⟨_, _, rfl, trivial, rfl, rfl⟩)
  | addHouseTag h tag =>
    left
    simp only [Endpoint.perform, AdminController.addHouseTag_never, Site.withDb_self]
  | removeHouseTag h tag =>
    rcases AdminController.removeHouseTag_cases h tag s.db with he | ⟨t, rfl, he⟩
    · left
      simp only [Endpoint.perform, he, Site.withDb_self]
    · exact Or.inr (Or.inl ⟨_, _, rfl, trivial, rfl, by simp only [Endpoint.perform, he, Site.withDb]⟩)
  | operateHouse id op => exact Or.inr (Or.inl ⟨_, _, rfl, trivial, rfl, rfl⟩)
  | updateUserInfo fault profile value =>
    rcases UserController.updateUserInfo_cases cfg.encodePassword fault user profile value s.users with
      he | ⟨hv, hemail, he⟩
    · left
      simp only [Endpoint.perform, he]
    · exact Or.inr (Or.inr (Or.inr (Or.inl ⟨fault, profile, value, rfl, hv, hemail,
        by simp only [Endpoint.perform, he]⟩)))
  | subscribeHouse now houseId =>
    refine Or.inr (Or.inr (Or.inr (Or.inr ⟨now, houseId, rfl, ?_⟩)))
    simp only [Endpoint.perform, UserController.subscribeHouse_fst]
  | page => exact Or.inl rfl

end

/-! ## Everything a step can do -/

namespace Endpoint

/-- An endpoint of administrators: it changes houses or stores a photo. -/
def IsAdmin (e : Endpoint) : Prop := (∃ user req, e.request user = some req) ∨ ∃ u, e = .uploadPhoto u

/-- The mappings of administrators lie in three directories. -/
theorem IsAdmin.mapping {e : Endpoint} (ha : e.IsAdmin) : ∃ m, e.mapping = some m ∧
    ∃ root ∈ ["/admin/add/", "/admin/house/", "/admin/upload/"], root.toList <+: m.toList := by
  cases e with
  | addHouse _ _ _ => exact ⟨_, rfl, "/admin/add/", by decide, by decide⟩
  | uploadPhoto _ => exact ⟨_, rfl, "/admin/upload/", by decide, by decide⟩
  | saveHouse _ _ => exact ⟨_, rfl, "/admin/house/", by decide, by decide⟩
  | removeHousePhoto _ _ => exact ⟨_, rfl, "/admin/house/", by decide, by decide⟩
  | updateCover _ _ => exact ⟨_, rfl, "/admin/house/", by decide, by decide⟩
  | addHouseTag _ _ => exact ⟨_, rfl, "/admin/house/", by decide, by decide⟩
  | removeHouseTag _ _ => exact ⟨_, rfl, "/admin/house/", by decide, by decide⟩
  | operateHouse _ _ => exact ⟨_, rfl, "/admin/house/", by decide, by decide⟩
  | updateUserInfo _ _ _ => simp [IsAdmin, request] at ha
  | subscribeHouse _ _ => simp [IsAdmin, request] at ha
  | page => simp [IsAdmin, request] at ha

section
variable {mappings : RequestMappings} {e : Endpoint} {path m root : String}

theorem ServedAt.leading (h : e.ServedAt mappings path) (hm : e.mapping = some m) (hl : Literal root)
    (hr : root.toList <+: m.toList) : root.toList <+: path.toList := by
  obtain ⟨rest, hrest⟩ := hr
  have he : m = root ++ String.ofList rest := by
    rw [← String.toList_inj, String.toList_append, String.toList_ofList, hrest]
  exact mappings.leading root (String.ofList rest) path hl (he ▸ h m (by rw [hm]; rfl))

theorem ServedAt.under (h : e.ServedAt mappings path) (hm : e.mapping = some m) (hl : Literal (root ++ "/"))
    (hr : (root ++ "/").toList <+: m.toList) : Under root path := Or.inr (h.leading hm hl hr)

theorem IsAdmin.under (ha : e.IsAdmin) (h : e.ServedAt mappings path) :
    Under "/admin" path ∧ path ≠ "/admin/login" := by
  obtain ⟨m, hm, root, hroot, hpre⟩ := ha.mapping
  have hl : ∀ root ∈ ["/admin/add/", "/admin/house/", "/admin/upload/"], Literal root ∧
      ("/admin" ++ "/").toList <+: root.toList ∧ ¬ root.toList <+: "/admin/login".toList := by decide
  obtain ⟨hlit, hadmin, hno⟩ := hl root hroot
  have hpath := h.leading hm hlit hpre
  refine ⟨Or.inr (hadmin.trans hpath), ?_⟩
  rintro rfl
  exact hno hpath

end

end Endpoint

/-- The role of an administrator or of a user. -/
def AuthenticationToken.IsUser (token : AuthenticationToken) : Prop :=
  "ROLE_ADMIN" ∈ token.authorities ∨ "ROLE_USER" ∈ token.authorities

section
variable {F : Type} [DecidableEq F]

/-- The steps no client takes, as requests of the system. -/
def SiteReq.background : SiteReq → Option Req
  | .handle c => some (.handle c)
  | .refresh => some .refresh
  | _ => none

/-- Everything a step can do to the site. -/
inductive Effect (cfg : Config F) (s : Site F) : SiteReq → Site F → Prop
  | idle {client : Nat} {path : String} {e : Endpoint} : Effect cfg s (.call client path e) s
  | opened {client : Nat} {request : LoginRequest} {token : AuthenticationToken}
      (login : (AuthFilter.attemptAuthentication cfg.encodePassword cfg.roles request s.users).2 = .ok token) :
      Effect cfg s (.login client request) (s.withSession client (some token))
  | refused {client : Nat} {request : LoginRequest} {e : AuthenticationException}
      (login : (AuthFilter.attemptAuthentication cfg.encodePassword cfg.roles request s.users).2 =
        .error (.refused e)) :
      Effect cfg s (.login client request) (s.withSession client none)
  | thrown {client : Nat} {request : LoginRequest} {e : Exn}
      (login : (AuthFilter.attemptAuthentication cfg.encodePassword cfg.roles request s.users).2 =
        .error (.exn e)) :
      Effect cfg s (.login client request) s
  | ended {client : Nat} : Effect cfg s (.ended client) (s.withSession client none)
  | admin {client : Nat} {path : String} {e : Endpoint} {token : AuthenticationToken} {req : Req} {sys' : Sys}
      (session : s.sessions client = some token) (role : "ROLE_ADMIN" ∈ token.authorities)
      (request : e.request token.principal.id = some req) (checked : Checked s.db req)
      (run : step cfg.env s.sys req = some sys') :
      Effect cfg s (.call client path e) (s.withSys sys')
  | upload {client : Nat} {path : String} {u : PhotoUpload} {token : AuthenticationToken}
      (session : s.sessions client = some token) (role : "ROLE_ADMIN" ∈ token.authorities) :
      Effect cfg s (.call client path (.uploadPhoto u))
        { s with disk := (AdminController.uploadPhoto cfg.host s.disk u).1 }
  | profile {client : Nat} {path : String} {fault : Bool} {profile value : String} {token : AuthenticationToken}
      (session : s.sessions client = some token) (role : token.IsUser) (nonempty : value ≠ "")
      (email : profile = "email" → LoginUserUtil.IsEmail value) :
      Effect cfg s (.call client path (.updateUserInfo fault profile value))
        { s with users := (modifyUserProfile cfg.encodePassword fault token.principal.id (some profile) value
            s.users).1 }
  | subscribe {client : Nat} {path : String} {now : Date} {houseId : Long} {token : AuthenticationToken}
      (session : s.sessions client = some token) (role : token.IsUser) :
      Effect cfg s (.call client path (.subscribeHouse now houseId))
        { s with booked := (HouseService.addSubscribeOrder token.principal.id now houseId s.booked).1 }
  | background {l : SiteReq} {req : Req} {sys' : Sys} (request : l.background = some req)
      (run : step cfg.env s.sys req = some sys') : Effect cfg s l (s.withSys sys')

/-- A request that is let through to an endpoint of administrators. -/
theorem admin_of_proceed {patterns : AntMatcher} {mappings : RequestMappings} {path : String}
    {session : Option AuthenticationToken} {e : Endpoint} (ha : e.IsAdmin) (hs : e.ServedAt mappings path)
    (h : WebSecurityConfig.authorize patterns path session = .proceed) :
    ∃ token, session = some token ∧ "ROLE_ADMIN" ∈ token.authorities := by
  obtain ⟨hu, hne⟩ := ha.under hs
  have hg := WebSecurityConfig.authorize_proceed.mp h _ (WebSecurityConfig.ruleFor_admin hu hne)
  obtain ⟨token, ht, role, hr, hmem⟩ := Access.grants_hasAnyRole.mp hg
  rw [List.mem_singleton.mp hr] at hmem
  exact ⟨token, ht, hmem⟩

/-- A request that is let through below `/api/user`. -/
theorem user_of_proceed {patterns : AntMatcher} {path : String} {session : Option AuthenticationToken}
    (hu : Under "/api/user" path) (h : WebSecurityConfig.authorize patterns path session = .proceed) :
    ∃ token, session = some token ∧ token.IsUser := by
  have hg := WebSecurityConfig.authorize_proceed.mp h _ (WebSecurityConfig.ruleFor_apiUser hu)
  obtain ⟨token, ht, role, hr, hmem⟩ := Access.grants_hasAnyRole.mp hg
  simp only [List.mem_cons, List.not_mem_nil, or_false] at hr
  refine ⟨token, ht, ?_⟩
  rcases hr with rfl | rfl
  · exact Or.inl hmem
  · exact Or.inr hmem

theorem effect_of_call (cfg : Config F) (s : Site F) (client : Nat) {path : String} {e : Endpoint}
    (hp : WebSecurityConfig.authorize cfg.patterns path (s.sessions client) = .proceed)
    (hs : e.ServedAt cfg.mappings path) :
    Effect cfg s (.call client path e) (e.perform cfg (LoginUserUtil.getLoginUserId (s.sessions client)) s) := by
  rcases perform_cases cfg (LoginUserUtil.getLoginUserId (s.sessions client)) e s with
    he | ⟨req, sys', hreq, hc, hrun, he⟩ | ⟨u, rfl, he⟩ | ⟨fault, profile, value, rfl, hv, hemail, he⟩ |
    ⟨now, houseId, rfl, he⟩
  · rw [he]
    exact .idle
  · obtain ⟨token, ht, hrole⟩ := admin_of_proceed (Or.inl ⟨_, req, hreq⟩) hs hp
    rw [he]
    rw [ht] at hreq
    exact .admin ht hrole hreq hc hrun
  · obtain ⟨token, ht, hrole⟩ := admin_of_proceed (Or.inr ⟨u, rfl⟩) hs hp
    rw [he]
    exact .upload ht hrole
  · obtain ⟨token, ht, hrole⟩ := user_of_proceed (hs.under rfl (by decide) (by decide)) hp
    rw [he, ht]
    exact .profile ht hrole hv hemail
  · obtain ⟨token, ht, hrole⟩ := user_of_proceed (hs.under rfl (by decide) (by decide)) hp
    rw [he, ht]
    exact .subscribe ht hrole

theorem effect_of_step {cfg : Config F} {s s' : Site F} {l : SiteReq} (h : siteStep cfg s l = some s') :
    Effect cfg s l s' := by
  cases l with
  | login client request =>
    cases h
    unfold loginStep
    cases hlogin : (AuthFilter.attemptAuthentication cfg.encodePassword cfg.roles request s.users).2 with
    | ok token => exact .opened hlogin
    | error failure =>
      cases failure with
      | refused e => exact .refused hlogin
      | exn e => exact .thrown hlogin
  | ended client =>
    cases h
    exact .ended
  | call client path e =>
    cases h
    split
    · rename_i hp
      exact effect_of_call cfg s client hp.1 hp.2
    · exact .idle
  | handle c =>
    obtain ⟨sys', hrun, rfl⟩ := Option.map_eq_some_iff.mp h
    exact .background rfl hrun
  | refresh =>
    cases h
    exact .background rfl rfl

end

/-! ## A small site -/

namespace Sample

def siteUsers : Users where
  rows := [⟨1, some "wali", some (encodePassword "wali" 1), none, "15111111111"⟩,
    ⟨2, some "admin", some (encodePassword "secret" 2), none, "13888888888"⟩]
  ids := by decide
  distinct := by decide

/-- The mappings without variables at their own paths, the others by the text
in front. -/
def mappings : RequestMappings where
  serves m path := if Literal m then decide (path = m)
    else decide (m.toList.takeWhile (fun c => c ≠ '*' ∧ c ≠ '?' ∧ c ≠ '\x7b') <+: path.toList)
  leading root rest path hl h := by
    split at h
    · rw [decide_eq_true_iff.mp h, String.toList_append]
      exact List.prefix_append _ _
    · refine List.IsPrefix.trans ?_ (decide_eq_true_iff.mp h)
      rw [String.toList_append, List.takeWhile_append_of_pos fun c hc => decide_eq_true (hl c hc)]
      exact List.prefix_append _ _

def config : Config (List Paths.Segment) := ⟨env, encodePassword, roles, host, antMatcher, mappings⟩

/-- Empty tables, one user and one administrator, nobody logged in. -/
def openSite : Site (List Paths.Segment) := ⟨⟨fresh, .empty⟩, siteUsers, fun _ => none, fun _ => none⟩

def adminLogin : LoginRequest := ⟨some "admin", some "secret", none, none⟩

def userLogin : LoginRequest := ⟨some "wali", some "wali", none, none⟩

def addForm : SiteReq := .call 0 "/admin/add/house" (.addHouse .none 0 form)

def rename : SiteReq := .call 0 "/api/user/info" (.updateUserInfo false "name" "lawali")

end Sample

end Soufang
