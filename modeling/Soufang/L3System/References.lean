import Soufang.L3System.Access

/-!
# What the site keeps

No foreign key ties a house to its administrator, or a reservation to its
user; that they are stored, and an administrator has the role, is up to the
sessions. `References` is the invariant, over the whole site.

* `references_kept`: it holds in every state of the site, faults of the
  outside world or not.
* `pages_rendered`: unless an insert of `addHouse` meets a fault, the page and
  the form of every stored house can be rendered, at any time.
* `profiles_checked`: what the users can look like after a run.
-/
namespace Soufang

open UserServiceImpl HouseService

/-! ## Administrators -/

/-- Rewriting columns other than the administrator. -/
theorem adminId_rewriteHouse {t : Table House} {id : Long} {f : House → House} (hf : ∀ a, (f a).adminId = a.adminId)
    {house : House} (hh : house ∈ (rewriteHouse t id f).rows) : ∃ a ∈ t.rows, a.adminId = house.adminId := by
  obtain ⟨a, ha, rfl⟩ := mem_rewriteHouse.mp hh
  refine ⟨a, ha, ?_⟩
  split
  · exact (hf a).symm
  · rfl

theorem adminId_updateStatus {id : Long} {status : Int} {s : Sys} {house : House}
    (hh : house ∈ (updateStatus id status s).1.db.house.rows) : ∃ a ∈ s.db.house.rows, a.adminId = house.adminId := by
  rcases updateStatus_cases id status s with ⟨-, he⟩ | ⟨found, -, -, he⟩
  · rw [he] at hh
    exact ⟨house, hh, rfl⟩
  · rw [he, notifySearch_eq, SearchService.send_db] at hh
    exact adminId_rewriteHouse (f := fun h => { h with status := status }) (fun _ => rfl) hh

/-- A house has the administrator a row had before, or a save stored it for
its user. -/
theorem adminId_step {env : Env} {s s' : Sys} {req : Req} (hs : step env s req = some s') {house : House}
    (hh : house ∈ s'.db.house.rows) : (∃ a ∈ s.db.house.rows, a.adminId = house.adminId) ∨
      ∃ faults user now f, req = .save faults user now f ∧ house.adminId = user := by
  cases req with
  | save faults user now f =>
    cases hs
    rcases save_cases env.cdnPrefix faults user now f s.db with ⟨he, -⟩ | ⟨detail, id, hst⟩
    · dsimp only at hh
      rw [he] at hh
      exact Or.inl ⟨house, hh, rfl⟩
    · rcases hst.mem_house hh with ⟨hmem, -⟩ | rfl
      · exact Or.inl ⟨house, hmem, rfl⟩
      · exact Or.inr ⟨faults, user, now, f, rfl, rfl⟩
  | update now f =>
    cases hs
    dsimp only at hh
    left
    rcases update_cases env.cdnPrefix now f s.db with ⟨he, -⟩ | ⟨loaded, detail, pictures, hl, -, he⟩
    · rw [he] at hh
      exact ⟨house, hh, rfl⟩
    · obtain ⟨-, -, hfind, -⟩ := updateLoad_ok hl
      rw [he] at hh
      obtain ⟨a, ha, rfl⟩ := mem_rewriteHouse.mp hh
      split
      · exact ⟨loaded, (Table.find?_some hfind).1, rfl⟩
      · exact ⟨a, ha, rfl⟩
  | updateStatus id status =>
    cases hs
    exact Or.inl (adminId_updateStatus hh)
  | operateHouse id op =>
    cases hs
    left
    rcases operateHouse_cases id op s with he | ⟨o, -, he⟩
    · rw [he] at hh
      exact ⟨house, hh, rfl⟩
    · rw [he] at hh
      exact adminId_updateStatus hh
  | removePhoto id answer =>
    cases hs
    left
    rcases removePhoto_cases id answer s.db with he | ⟨p, -, -, he⟩
    · simp only [he] at hh
      exact ⟨house, hh, rfl⟩
    · simp only [he] at hh
      exact ⟨house, hh, rfl⟩
  | updateCover c t =>
    cases hs
    rw [updateCover_db] at hh
    exact Or.inl ⟨house, hh, rfl⟩
  | addTag i tag =>
    cases hs
    left
    rcases addTag_cases i tag s.db with he | ⟨found, tags, -, -, -, he⟩
    · simp only [he] at hh
      exact ⟨house, hh, rfl⟩
    · simp only [he] at hh
      exact ⟨house, hh, rfl⟩
  | removeTag i tag =>
    cases hs
    left
    rcases removeTag_cases i tag s.db with he | ⟨found, t, -, -, he⟩
    · simp only [he] at hh
      exact ⟨house, hh, rfl⟩
    · simp only [he] at hh
      exact ⟨house, hh, rfl⟩
  | handle c =>
    rw [(SearchService.handleMessage_docs hs).1] at hh
    exact Or.inl ⟨house, hh, rfl⟩
  | refresh =>
    cases hs
    exact Or.inl ⟨house, hh, rfl⟩

/-! ## The invariant -/

section
variable {F : Type}

def StoredUser (users : Users) (id : Long) : Prop := ∃ user, users.find? id = some user

def HasRole (roles : List Role) (id : Long) (name : String) : Prop := ∃ r ∈ roles, r.userId = id ∧ r.name = name

/-- A stored user with the role ADMIN. -/
def Administrator (cfg : Config F) (users : Users) (id : Long) : Prop :=
  StoredUser users id ∧ HasRole cfg.roles id "ADMIN"

structure References (cfg : Config F) (s : Site F) : Prop where
  /-- Details, pictures and tags belong to stored houses. -/
  rows : Integral s.db
  /-- A session is that of a stored user, with roles the user has. -/
  sessions : ∀ client token, s.sessions client = some token → StoredUser s.users token.principal.id ∧
    ∀ role, "ROLE_" ++ role ∈ token.authorities → HasRole cfg.roles token.principal.id role
  admins : ∀ house ∈ s.db.house.rows, Administrator cfg s.users house.adminId
  /-- A reservation is one of a stored house by a stored user with a role. -/
  reservations : ∀ r ∈ s.booked.subscribe.rows, HasHouse s.db r.houseId ∧ Administrator cfg s.users r.adminId ∧
    StoredUser s.users r.userId ∧ ∃ role ∈ ["ADMIN", "USER"], HasRole cfg.roles r.userId role

/-- No sessions, no houses and no reservations. -/
def Founded (s : Site F) : Prop :=
  (∀ client, s.sessions client = none) ∧ s.booked.subscribe = .empty ∧
    ∃ subway station address, s.db = .empty subway station address

theorem References.founded {cfg : Config F} {s : Site F} (h : Founded s) : References cfg s := by
  obtain ⟨hsessions, hsubscribe, subway, station, address, hdb⟩ := h
  constructor
  · rw [hdb]
    exact .empty subway station address
  · intro client token ht
    rw [hsessions client] at ht
    cases ht
  · intro house hh
    rw [hdb] at hh
    cases hh
  · intro r hr
    rw [hsubscribe] at hr
    cases hr

/-- What a profile change may do to a row. -/
structure Edited (profile value : String) (user user' : User) : Prop where
  phoneNumber : user'.phoneNumber = user.phoneNumber
  email : user'.email = user.email ∨ profile = "email" ∧ user'.email = some value
  name : user'.name = user.name ∨ profile = "name" ∧ user'.name = some value

theorem Edited.refl (profile value : String) (user : User) : Edited profile value user user :=
  ⟨rfl, Or.inl rfl, Or.inl rfl⟩

/-- Every user is still there, with an edited row. -/
theorem modifyUserProfile_find? (encodePassword : Encoder) (fault : Bool) (userId : Long) (profile value : String)
    (t : Users) (u : Long) : ∃ g : User → User, (∀ user, Edited profile value user (g user)) ∧
      (modifyUserProfile encodePassword fault userId (some profile) value t).1.find? u = (t.find? u).map g := by
  by_cases hu : u = userId
  · subst hu
    rcases modifyUserProfile_cases encodePassword fault u (some profile) value t with
      ⟨he, -⟩ | ⟨t', he, ⟨ht, hp⟩ | ⟨ht, hp⟩ | ⟨ht, -⟩⟩
    · exact ⟨id, fun user => .refl profile value user, by rw [he, Option.map_id, id]⟩
    · refine ⟨fun user => { user with name := some value },
        fun user => ⟨rfl, Or.inl rfl, Or.inr ⟨Option.some.inj hp, rfl⟩⟩, ?_⟩
      rw [he, KeyedTable.find?_update? ht, if_pos rfl]
    · refine ⟨fun user => { user with email := some value },
        fun user => ⟨rfl, Or.inr ⟨Option.some.inj hp, rfl⟩, Or.inl rfl⟩, ?_⟩
      rw [he, KeyedTable.find?_update? ht, if_pos rfl]
    · refine ⟨fun user => { user with password := some (encodePassword value u) },
        fun user => ⟨rfl, Or.inl rfl, Or.inl rfl⟩, ?_⟩
      rw [he, KeyedTable.find?_update? ht, if_pos rfl]
  · exact ⟨id, fun user => .refl profile value user, by rw [modifyUserProfile_other hu, Option.map_id, id]⟩

theorem StoredUser.modify {t : Users} {id : Long} (h : StoredUser t id) (encodePassword : Encoder) (fault : Bool)
    (userId : Long) (profile value : String) :
    StoredUser (modifyUserProfile encodePassword fault userId (some profile) value t).1 id := by
  obtain ⟨user, hu⟩ := h
  obtain ⟨g, -, hg⟩ := modifyUserProfile_find? encodePassword fault userId profile value t id
  exact ⟨g user, by rw [hg, hu, Option.map_some]⟩

theorem hasRole_of_isUser {cfg : Config F} {s : Site F} (h : References cfg s) {client : Nat}
    {token : AuthenticationToken} (ht : s.sessions client = some token) (hrole : token.IsUser) :
    ∃ role ∈ ["ADMIN", "USER"], HasRole cfg.roles token.principal.id role := by
  obtain ⟨-, hroles⟩ := h.sessions client token ht
  rcases hrole with hrole | hrole
  · exact ⟨"ADMIN", by simp, hroles "ADMIN" hrole⟩
  · exact ⟨"USER", by simp, hroles "USER" hrole⟩

namespace References

variable {cfg : Config F} {s : Site F}

/-- A request of the system that stores houses for an administrator only. -/
theorem withSys (h : References cfg s) {req : Req} {sys' : Sys} (hs : step cfg.env s.sys req = some sys')
    (hsave : ∀ faults user now f, req = .save faults user now f → Administrator cfg s.users user) :
    References cfg (s.withSys sys') where
  rows := h.rows.grows (grows_step hs)
  sessions := h.sessions
  admins house hh := by
    rcases adminId_step hs hh with ⟨a, ha, he⟩ | ⟨faults, user, now, f, hreq, he⟩
    · rw [← he]
      exact h.admins a ha
    · rw [he]
      exact hsave faults user now f hreq
  reservations r hr := by
    obtain ⟨hhouse, hrest⟩ := h.reservations r hr
    exact ⟨step_hasHouse hs hhouse, hrest⟩

theorem withSession (h : References cfg s) (client : Nat) {session : Option AuthenticationToken}
    (hs : ∀ token, session = some token → StoredUser s.users token.principal.id ∧
      ∀ role, "ROLE_" ++ role ∈ token.authorities → HasRole cfg.roles token.principal.id role) :
    References cfg (s.withSession client session) where
  rows := h.rows
  sessions c token ht := by
    by_cases hc : c = client
    · subst hc
      exact hs token (by simpa [Site.withSession] using ht)
    · exact h.sessions c token (by simpa [Site.withSession, hc] using ht)
  admins := h.admins
  reservations := h.reservations

/-- Users who stay stored. -/
theorem withUsers (h : References cfg s) {users : Users} (hu : ∀ id, StoredUser s.users id → StoredUser users id) :
    References cfg { s with users := users } where
  rows := h.rows
  sessions client token ht := (h.sessions client token ht).imp_left (hu _)
  admins house hh := (h.admins house hh).imp_left (hu _)
  reservations r hr := by
    obtain ⟨hhouse, hadmin, huser, hrole⟩ := h.reservations r hr
    exact ⟨hhouse, hadmin.imp_left (hu _), hu _ huser, hrole⟩

theorem step [DecidableEq F] (h : References cfg s) {s' : Site F} {l : SiteReq} (hs : siteStep cfg s l = some s') :
    References cfg s' := by
  have heffect := effect_of_step hs
  cases heffect with
  | idle => exact h
  | @opened client request token login =>
    refine h.withSession client fun token' ht => ?_
    cases ht
    exact ⟨⟨_, login_stored login⟩, fun role hr => (passwordLogin_of_role login hr).role⟩
  | @refused client request e login => exact h.withSession client fun _ ht => by cases ht
  | thrown login => exact h
  | @ended client => exact h.withSession client fun _ ht => by cases ht
  | @admin client path e token req sys' session role request checked run =>
    refine h.withSys run fun faults user now f hreq => ?_
    subst hreq
    -- the endpoint saves for the user of the session
    have huser : user = token.principal.id := by
      cases e <;> simp_all [Endpoint.request]
    obtain ⟨hstored, hroles⟩ := h.sessions client token session
    rw [huser]
    exact ⟨hstored, hroles "ADMIN" role⟩
  | upload session role => exact { h with rows := h.rows }
  | profile session role nonempty email => exact h.withUsers fun _ hu => hu.modify ..
  | @subscribe client path now houseId token session role =>
    rcases addSubscribeOrder_cases token.principal.id now houseId s.booked with he | ⟨house, t, hf, hi, he⟩
    · rw [he]
      exact h
    · rw [he]
      refine { rows := h.rows, sessions := h.sessions, admins := h.admins, reservations := fun r hr => ?_ }
      rw [(Table.insert?_some hi).1] at hr
      rcases List.mem_append.mp hr with hr | hr
      · exact h.reservations r hr
      · rw [List.mem_singleton.mp hr]
        exact ⟨⟨house, hf⟩, h.admins house (Table.find?_some hf).1, (h.sessions client token session).1,
          hasRole_of_isUser h session role⟩
  | background request run =>
    refine h.withSys run fun faults user now f hreq => ?_
    subst hreq
    cases l <;> cases request

end References

end

section
variable {F : Type} [DecidableEq F]

theorem references_inductive (cfg : Config F) : (site cfg Founded).Inductive (References cfg) where
  init _ h := .founded h
  step _ _ _ h hs := h.step hs

/-- **References.** In every state a site founded with empty tables can reach,
with any faults of the outside world, every detail, picture, tag and
reservation refers to a stored house, the administrator of every house and
reservation is a stored user with the role ADMIN, and the user of every
reservation is a stored user with a role. -/
theorem references_kept (cfg : Config F) (s : Site F) (hr : (site cfg Founded).Reachable s) : References cfg s :=
  (references_inductive cfg).reachable hr

theorem Sample.founded : Founded Sample.openSite := ⟨fun _ => rfl, rfl, _, _, _, rfl⟩

theorem references_kept_added : ∃ s : Site (List Paths.Segment), (site Sample.config Founded).Reachable s ∧
    s.db.house.rows.length = 1 ∧ References Sample.config s := by
  obtain ⟨s, hr, hlen⟩ := LTS.exists_reachable Founded (siteStep Sample.config) (fun _ _ => True)
    (fun s => s.db.house.rows.length = 1) (s := Sample.openSite) Sample.founded
    [.login 0 Sample.adminLogin, Sample.addForm] (by decide +kernel)
  exact ⟨s, hr.of_restrict, hlen, references_kept Sample.config s hr.of_restrict⟩

/-! ## The pages -/

/-- No insert of `addHouse` meets a fault. -/
def Unfaulted (_ : Site F) (l : SiteReq) : Prop :=
  ∀ client path faults now f, l = .call client path (.addHouse faults now f) → faults = .none

omit [DecidableEq F] in
theorem addressed_of_checked {s : Site F} {client : Nat} {path : String} {e : Endpoint} {user : Long} {req : Req}
    (hreq : e.request user = some req) (hc : Checked s.db req) (hu : Unfaulted s (.call client path e)) :
    Addressed s.sys req := by
  cases e with
  | addHouse faults now f =>
    cases hreq
    exact ⟨hu client path faults now f rfl, hc.2⟩
  | saveHouse now f =>
    cases hreq
    exact hc.2
  | removeHouseTag h tag =>
    obtain ⟨t, -, rfl⟩ := Option.map_eq_some_iff.mp hreq
    trivial
  | removeHousePhoto _ _ | updateCover _ _ | operateHouse _ _ =>
    cases hreq
    trivial
  | addHouseTag _ _ | uploadPhoto _ | updateUserInfo _ _ _ | subscribeHouse _ _ | page => cases hreq

theorem allRowed_of_step {cfg : Config F} {s s' : Site F} {l : SiteReq} (h : References cfg s) (ha : AllRowed s.db)
    (hs : siteStep cfg s l = some s') (hu : Unfaulted s l) : AllRowed s'.db := by
  cases effect_of_step hs with
  | admin session role request checked run =>
    exact allRowed_step h.rows ha (addressed_of_checked request checked hu) run
  | @background _ req sys' request run =>
    have hdb : sys'.db = s.db := background_db request run
    rw [Site.db, Site.withSys_sys, hdb]
    exact ha
  | @subscribe client path now houseId token session role =>
    simp only [Site.db, addSubscribeOrder_sys]
    exact ha
  | idle | opened | refused | thrown | ended | upload | profile => exact ha

theorem rendered_inductive (cfg : Config F) :
    ((site cfg Founded).restrict Unfaulted).Inductive fun s => References cfg s ∧ AllRowed s.db where
  init s h := by
    refine ⟨.founded h, ?_⟩
    obtain ⟨-, -, subway, station, address, hdb⟩ := h
    intro house hh
    rw [hdb] at hh
    cases hh
  step s l s' h hs := ⟨h.1.step hs.1, allRowed_of_step h.1 h.2 hs.1 hs.2⟩

/-- **The pages of a house.** In every state a site founded with empty tables
can reach, if no insert of `addHouse` met a fault, the page of every stored
house and the form it is edited in are about this house, for any user, and
whatever was changed since. The count of the page only has not to throw. -/
theorem pages_rendered (cfg : Config F) (s : Site F) (hr : ((site cfg Founded).restrict Unfaulted).Reachable s)
    (order : Buckets.Order String) (answer : Status) (ha : answer ≠ .threw) (user : Long) (house : House)
    (hh : house ∈ s.db.house.rows) :
    (∃ page, HouseController.show order cfg.env answer user house.id s.booked s.users = .ok (some page) ∧
      page.About house) ∧
    ∃ page, AdminController.houseEditPage user (some house.id) s.booked = .ok (some page) ∧ page.About house := by
  obtain ⟨href, hrowed⟩ := (rendered_inductive cfg).reachable hr
  have hready : Renderable s.booked.sys.db s.users house := {
    positive := href.rows.positive house hh
    stored := Table.find?_eq_some.mpr ⟨hh, rfl⟩
    detail := (hrowed house hh).detail
    address := (hrowed house hh).address
    agent := (href.admins house hh).1 }
  exact ⟨show_renderable hready order cfg.env ha user, houseEditPage_renderable hready user⟩

/-- The house the administrator has just added. -/
theorem pages_rendered_added : ∃ s : Site (List Paths.Segment), ∃ house ∈ s.db.house.rows,
    (∃ page, HouseController.show Sample.bucketOrder Sample.env .ok 1 house.id s.booked s.users = .ok (some page) ∧
      page.About house) ∧
    ∃ page, AdminController.houseEditPage 1 (some house.id) s.booked = .ok (some page) ∧ page.About house := by
  have hlogin : siteStep Sample.config Sample.openSite (.login 0 Sample.adminLogin) =
      some (loginStep Sample.config 0 Sample.adminLogin Sample.openSite) := rfl
  obtain ⟨s, hs, hlen⟩ : ∃ s ∈ siteStep Sample.config (loginStep Sample.config 0 Sample.adminLogin Sample.openSite)
      Sample.addForm, s.db.house.rows.length = 1 := by decide +kernel
  have hr : ((site Sample.config Founded).restrict Unfaulted).Reachable s := by
    refine ⟨Sample.openSite, [.login 0 Sample.adminLogin, Sample.addForm], Sample.founded, ?_⟩
    refine .cons ⟨hlogin, ?_⟩ (.cons ⟨hs, ?_⟩ (.nil s))
    · intro client path faults now f hl
      cases hl
    · intro client path faults now f hl
      cases hl
      rfl
  obtain ⟨house, hh⟩ := List.length_eq_one_iff.mp hlen
  have hmem : house ∈ s.db.house.rows := by
    rw [hh]
    exact List.mem_singleton_self house
  exact ⟨s, house, hmem, pages_rendered Sample.config s hr Sample.bucketOrder .ok (by decide) 1 house hmem⟩

/-! ## The profiles -/

/-- What the site can have made of a row. -/
structure ProfileOf (user0 user : User) : Prop where
  phoneNumber : user.phoneNumber = user0.phoneNumber
  email : user.email = user0.email ∨ ∃ e, user.email = some e ∧ LoginUserUtil.IsEmail e
  name : user.name = user0.name ∨ ∃ n, user.name = some n ∧ n ≠ ""

theorem ProfileOf.edited {user0 user user' : User} {profile value : String} (h : ProfileOf user0 user)
    (he : Edited profile value user user') (hv : value ≠ "")
    (hemail : profile = "email" → LoginUserUtil.IsEmail value) : ProfileOf user0 user' where
  phoneNumber := he.phoneNumber.trans h.phoneNumber
  email := by
    rcases he.email with hsame | ⟨hp, hset⟩
    · rw [hsame]
      exact h.email
    · exact Or.inr ⟨value, hset, hemail hp⟩
  name := by
    rcases he.name with hsame | ⟨-, hset⟩
    · rw [hsame]
      exact h.name
    · exact Or.inr ⟨value, hset, hv⟩

/-- **Profiles.** A run of the site adds and removes no user. The phone number
of a user stays; the e-mail is the one from before, or a name, `@`, and a
domain of two labels or more, all of letters, digits, `_` and `-`; the name is
the one from before, or not empty. -/
theorem profiles_checked (cfg : Config F) (init : Site F → Prop) (s0 s : Site F) (ls : List SiteReq)
    (hr : (site cfg init).Run s0 ls s) (u : Long) :
    Option.Rel ProfileOf (s0.users.find? u) (s.users.find? u) := by
  refine hr.preserves (P := fun s => Option.Rel ProfileOf (s0.users.find? u) (s.users.find? u)) ?_ ?_
  · intro s l s' h hs
    cases effect_of_step hs with
    | @profile client path fault profile value token session role nonempty email =>
      obtain ⟨g, hedited, hg⟩ := modifyUserProfile_find? cfg.encodePassword fault token.principal.id profile value
        s.users u
      dsimp only
      rw [hg]
      generalize s.users.find? u = row at h ⊢
      generalize s0.users.find? u = row0 at h ⊢
      cases h with
      | none => exact .none
      | some hrow => exact .some (hrow.edited (hedited _) nonempty email)
    | idle | opened | refused | thrown | ended | admin | upload | subscribe | background => exact h
  · cases s0.users.find? u with
    | none => exact .none
    | some user => exact .some ⟨rfl, Or.inl rfl, Or.inl rfl⟩

theorem profiles_checked_renamed : ∃ s : Site (List Paths.Segment), (site Sample.config Founded).Run Sample.openSite
    [.login 0 Sample.userLogin, Sample.rename] s ∧
    Option.Rel ProfileOf (Sample.siteUsers.find? 1) (s.users.find? 1) := by
  have hlogin : siteStep Sample.config Sample.openSite (.login 0 Sample.userLogin) =
      some (loginStep Sample.config 0 Sample.userLogin Sample.openSite) := rfl
  obtain ⟨s, hs⟩ : ∃ s, siteStep Sample.config (loginStep Sample.config 0 Sample.userLogin Sample.openSite)
      Sample.rename = some s := ⟨_, rfl⟩
  have hr : (site Sample.config Founded).Run Sample.openSite [.login 0 Sample.userLogin, Sample.rename] s :=
    .cons hlogin (.cons hs (.nil s))
  exact ⟨s, hr, profiles_checked Sample.config Founded Sample.openSite s _ hr 1⟩

end

end Soufang
