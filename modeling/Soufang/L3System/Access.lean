import Soufang.L3System.Site

/-!
# Who changes what

A session holds what the login gave it until the next logout or answered login
of its client (`Quiet`), so every session of a run goes back to a login of the
run (`session_of_run`). A session with a role goes back to a login by password
(`passwordLogin_of_role`): one by telephone has no authorities.

* `houses_change`: the house tables and the photos change only through a
  client who logged in with the password of an administrator.
* `users_change`: the row of a user and the reservations of a user change only
  through a client who logged in with the password of this user, and no
  reservation is lost.
-/
namespace Soufang

open UserServiceImpl

/-- The login found a stored user of that name, checked the password, and
found the role. -/
structure PasswordLogin {F : Type} (cfg : Config F) (t : Users) (request : LoginRequest) (token : AuthenticationToken)
    (role : String) : Prop where
  stored : t.find? token.principal.id = some token.principal
  name : token.principal.name = some (trim (request.username.getD ""))
  password : isPasswordValid cfg.encodePassword token.principal.password (request.password.getD "")
    token.principal.id = true
  role : ∃ r ∈ cfg.roles, r.userId = token.principal.id ∧ r.name = role

/-! ## Logins -/

/-- A login by telephone gives no authorities. -/
theorem byTelephone_ok {roles : List Role} {telephone smsCode : Option String} {t : Users}
    {token : AuthenticationToken} (h : AuthFilter.byTelephone roles telephone smsCode t = .ok token) :
    token.authorities = [] ∧ t.find? token.principal.id = some token.principal := by
  unfold AuthFilter.byTelephone at h
  cases telephone with
  | none => cases h
  | some telephone =>
    dsimp only at h
    split at h
    · cases h
    · split at h
      · cases hu : findUserByTelephone telephone t with
        | some user =>
          rw [hu] at h
          cases h
          exact ⟨rfl, KeyedTable.find?_eq_some.mpr ⟨(AuthFilter.findUserByTelephone_eq_some.mp hu).1, rfl⟩⟩
        | none => simp [addUserByPhone, hu] at h
      · cases h

section
variable {F : Type} {cfg : Config F} {t : Users} {request : LoginRequest} {token : AuthenticationToken}

/-- A login goes through by name and password, or by telephone. -/
theorem login_cases
    (h : (AuthFilter.attemptAuthentication cfg.encodePassword cfg.roles request t).2 = .ok token) :
    AuthProvider.authenticate cfg.encodePassword cfg.roles (trim (request.username.getD ""))
        (request.password.getD "") t = .ok token ∨
      AuthFilter.byTelephone cfg.roles request.telephone request.smsCode t = .ok token := by
  unfold AuthFilter.attemptAuthentication at h
  dsimp only at h
  split at h
  · left
    cases ha : AuthProvider.authenticate cfg.encodePassword cfg.roles (trim (request.username.getD ""))
        (request.password.getD "") t with
    | ok token' =>
      rw [ha] at h
      cases h
      rfl
    | error e =>
      rw [ha] at h
      cases h
  · exact Or.inr h

/-- The user of a session is stored at the login. -/
theorem login_stored (h : (AuthFilter.attemptAuthentication cfg.encodePassword cfg.roles request t).2 = .ok token) :
    t.find? token.principal.id = some token.principal := by
  rcases login_cases h with ha | hp
  · obtain ⟨hfound, -⟩ := authenticate_eq_ok.mp ha
    exact (findUserByName_eq_some.mp hfound).1
  · exact (byTelephone_ok hp).2

theorem passwordLogin_of_role {role : String}
    (h : (AuthFilter.attemptAuthentication cfg.encodePassword cfg.roles request t).2 = .ok token)
    (hr : "ROLE_" ++ role ∈ token.authorities) : PasswordLogin cfg t request token role := by
  rcases login_cases h with ha | hp
  · obtain ⟨hfound, hv⟩ := authenticate_eq_ok.mp ha
    obtain ⟨hu, hn, -, hauth⟩ := findUserByName_eq_some.mp hfound
    refine ⟨hu, hn, hv, ?_⟩
    rw [hauth] at hr
    obtain ⟨r, hmem, hname⟩ := List.mem_map.mp hr
    obtain ⟨hmem, hid⟩ := List.mem_filter.mp hmem
    refine ⟨r, hmem, of_decide_eq_true hid, ?_⟩
    have hlist := congrArg String.toList hname
    rw [String.toList_append, String.toList_append] at hlist
    exact String.toList_inj.mp (List.append_cancel_left hlist)
  · rw [(byTelephone_ok hp).1] at hr
    cases hr

end

/-! ## Sessions over a run -/

section
variable {F : Type} [DecidableEq F]

/-- Neither a logout of the client nor a login of it that was answered. -/
def Quiet (cfg : Config F) (client : Nat) (s : Site F) (l : SiteReq) : Prop :=
  l ≠ .ended client ∧ ∀ request, l = .login client request →
    ∃ e, (AuthFilter.attemptAuthentication cfg.encodePassword cfg.roles request s.users).2 = .error (.exn e)

/-- The session of a client is that of a login in the run, after which the
client was quiet. -/
def Opened (cfg : Config F) (init : Site F → Prop) (s0 : Site F) (ls : List SiteReq) (client : Nat)
    (token : AuthenticationToken) (s : Site F) (P : Users → LoginRequest → Prop) : Prop :=
  ∃ pre request post s1 s2, ls = pre ++ .login client request :: post ∧ (site cfg init).Run s0 pre s1 ∧
    siteStep cfg s1 (.login client request) = some s2 ∧ s2.sessions client = some token ∧
    ((site cfg init).restrict (Quiet cfg client)).Run s2 post s ∧ P s1.users request

theorem Opened.imp {cfg : Config F} {init : Site F → Prop} {s0 s : Site F} {ls : List SiteReq} {client : Nat}
    {token : AuthenticationToken} {P Q : Users → LoginRequest → Prop}
    (h : Opened cfg init s0 ls client token s P) (hPQ : ∀ t request, P t request → Q t request) :
    Opened cfg init s0 ls client token s Q := by
  obtain ⟨pre, request, post, s1, s2, hls, hpre, hlogin, htoken, hpost, hP⟩ := h
  exact ⟨pre, request, post, s1, s2, hls, hpre, hlogin, htoken, hpost, hPQ _ _ hP⟩

theorem Opened.snoc {cfg : Config F} {init : Site F → Prop} {s0 s s' : Site F} {ls : List SiteReq} {client : Nat}
    {token : AuthenticationToken} {P : Users → LoginRequest → Prop} (h : Opened cfg init s0 ls client token s P)
    {l : SiteReq} (hs : siteStep cfg s l = some s') (hq : Quiet cfg client s l) :
    Opened cfg init s0 (ls ++ [l]) client token s' P := by
  obtain ⟨pre, request, post, s1, s2, rfl, hpre, hlogin, htoken, hpost, hP⟩ := h
  refine ⟨pre, request, post ++ [l], s1, s2, by simp, hpre, hlogin, htoken, ?_, hP⟩
  exact hpost.append (.cons ⟨hs, hq⟩ (.nil s'))

/-- A step opens the session of a client, closes it, or the client is quiet and
keeps it. -/
theorem session_step {cfg : Config F} {s s' : Site F} {l : SiteReq} (hs : siteStep cfg s l = some s') (client : Nat) :
    (∃ request token, l = .login client request ∧ s'.sessions client = some token ∧
        (AuthFilter.attemptAuthentication cfg.encodePassword cfg.roles request s.users).2 = .ok token) ∨
      s'.sessions client = none ∨ Quiet cfg client s l ∧ s'.sessions client = s.sessions client := by
  have heffect := effect_of_step hs
  have hother : ∀ {c : Nat} {session : Option AuthenticationToken}, c ≠ client →
      (s.withSession c session).sessions client = s.sessions client := fun hne => by
    simp [Site.withSession, Function.update_of_ne (Ne.symm hne)]
  cases heffect with
  | @opened c request token login =>
    by_cases hc : c = client
    · subst hc
      exact Or.inl ⟨request, token, rfl, by simp [Site.withSession], login⟩
    · exact Or.inr (Or.inr ⟨⟨by simp, by simp [hc]⟩, hother hc⟩)
  | @refused c request e login =>
    by_cases hc : c = client
    · subst hc
      exact Or.inr (Or.inl (by simp [Site.withSession]))
    · exact Or.inr (Or.inr ⟨⟨by simp, by simp [hc]⟩, hother hc⟩)
  | @thrown c request e login =>
    refine Or.inr (Or.inr ⟨⟨by simp, fun request' hl => ?_⟩, rfl⟩)
    cases hl
    exact ⟨e, login⟩
  | @ended c =>
    by_cases hc : c = client
    · subst hc
      exact Or.inr (Or.inl (by simp [Site.withSession]))
    · exact Or.inr (Or.inr ⟨⟨by simp [hc], by simp⟩, hother hc⟩)
  | background request run =>
    refine Or.inr (Or.inr ⟨⟨?_, ?_⟩, rfl⟩)
    · rintro rfl
      cases request
    · rintro request' rfl
      cases request
  | idle | admin | upload | profile | subscribe => exact Or.inr (Or.inr ⟨⟨by simp, by simp⟩, rfl⟩)

/-- Every session of a run goes back to its login. -/
theorem session_of_run {cfg : Config F} {init : Site F → Prop} {s0 s : Site F} {ls : List SiteReq}
    (h0 : ∀ client, s0.sessions client = none) (hr : (site cfg init).Run s0 ls s) (client : Nat)
    (token : AuthenticationToken) (ht : s.sessions client = some token) :
    Opened cfg init s0 ls client token s fun t request =>
      (AuthFilter.attemptAuthentication cfg.encodePassword cfg.roles request t).2 = .ok token := by
  refine LTS.Run.history (P := fun ls s => ∀ token, s.sessions client = some token →
    Opened cfg init s0 ls client token s fun t request =>
      (AuthFilter.attemptAuthentication cfg.encodePassword cfg.roles request t).2 = .ok token) ?_ ?_ hr token ht
  · intro token ht
    rw [h0 client] at ht
    cases ht
  · intro ls s l s' hr ih hs token ht
    rcases session_step hs client with ⟨request, token', rfl, htoken, hlogin⟩ | hnone | ⟨hq, hsame⟩
    · rw [htoken, Option.some.injEq] at ht
      subst ht
      exact ⟨ls, request, [], s, s', rfl, hr, hs, htoken, .nil s', hlogin⟩
    · rw [hnone] at ht
      cases ht
    · rw [hsame] at ht
      exact (ih token ht).snoc hs hq

/-- A session that got its authorities from a login by password. -/
def OpenedByPassword (cfg : Config F) (init : Site F → Prop) (s0 : Site F) (ls : List SiteReq) (client : Nat)
    (token : AuthenticationToken) (s : Site F) (role : String) : Prop :=
  Opened cfg init s0 ls client token s fun t request => PasswordLogin cfg t request token role

theorem openedByPassword {cfg : Config F} {init : Site F → Prop} {s0 s : Site F} {ls : List SiteReq}
    (h0 : ∀ client, s0.sessions client = none) (hr : (site cfg init).Run s0 ls s) {client : Nat}
    {token : AuthenticationToken} (ht : s.sessions client = some token) {role : String}
    (hrole : "ROLE_" ++ role ∈ token.authorities) : OpenedByPassword cfg init s0 ls client token s role :=
  (session_of_run h0 hr client token ht).imp fun _ _ hlogin => passwordLogin_of_role hlogin hrole

/-! ## The changes -/

/-- The consumer writes no table. -/
theorem background_db {env : Env} {l : SiteReq} {req : Req} {sys sys' : Sys} (request : l.background = some req)
    (run : step env sys req = some sys') : sys'.db = sys.db := by
  cases l with
  | handle c =>
    cases request
    exact (SearchService.handleMessage_docs run).1
  | refresh =>
    cases request
    cases run
    rfl
  | login _ _ | ended _ | call _ _ _ => cases request

theorem addSubscribeOrder_sys (user : Long) (now : Date) (houseId : Long) (b : Bookings) :
    (HouseService.addSubscribeOrder user now houseId b).1.sys = b.sys := by
  rcases addSubscribeOrder_cases user now houseId b with he | ⟨house, t, -, -, he⟩
  · rw [he]
  · rw [he]

/-- **Houses and photos.** In every run from a site without sessions, a step
that changes the tables of houses or the photos is a call by a client whose
session was opened in the run with the name and the password of a user with
the role ADMIN. -/
theorem houses_change (cfg : Config F) (init : Site F → Prop) (s0 s s' : Site F) (ls : List SiteReq) (l : SiteReq)
    (h0 : ∀ client, s0.sessions client = none) (hr : (site cfg init).Run s0 ls s)
    (hs : (site cfg init).step s l s') (hchange : s'.db ≠ s.db ∨ s'.disk ≠ s.disk) :
    ∃ client path e token, l = .call client path e ∧ s.sessions client = some token ∧
      OpenedByPassword cfg init s0 ls client token s "ADMIN" := by
  have hsame : s'.db = s.db → s'.disk = s.disk → ∃ client path e token, l = .call client path e ∧
      s.sessions client = some token ∧ OpenedByPassword cfg init s0 ls client token s "ADMIN" :=
    fun hdb hdisk => absurd hchange (not_or.mpr ⟨not_not.mpr hdb, not_not.mpr hdisk⟩)
  cases effect_of_step hs with
  | admin session role request checked run =>
    exact ⟨_, _, _, _, rfl, session, openedByPassword h0 hr session role⟩
  | upload session role => exact ⟨_, _, _, _, rfl, session, openedByPassword h0 hr session role⟩
  | background request run => exact hsame (background_db request run) rfl
  | subscribe session role => exact hsame (congrArg Sys.db (addSubscribeOrder_sys ..)) rfl
  | idle | opened | refused | thrown | ended | profile => exact hsame rfl rfl

/-- The administrator logs in and adds a house. -/
theorem houses_change_added : ∃ s s' : Site (List Paths.Segment),
    (site Sample.config fun _ => True).Run Sample.openSite [.login 0 Sample.adminLogin] s ∧ s'.db ≠ s.db ∧
    ∃ client path e token, Sample.addForm = .call client path e ∧ s.sessions client = some token ∧
      OpenedByPassword Sample.config (fun _ => True) Sample.openSite [.login 0 Sample.adminLogin] client token s
        "ADMIN" := by
  have hr : (site Sample.config fun _ => True).Run Sample.openSite [.login 0 Sample.adminLogin]
      (loginStep Sample.config 0 Sample.adminLogin Sample.openSite) := .cons rfl (.nil _)
  obtain ⟨s', hs, hlen⟩ : ∃ s' ∈ siteStep Sample.config (loginStep Sample.config 0 Sample.adminLogin Sample.openSite)
      Sample.addForm, s'.db.house.rows.length = 1 := by decide +kernel
  have hne : s'.db ≠ (loginStep Sample.config 0 Sample.adminLogin Sample.openSite).db := by
    intro he
    rw [he] at hlen
    exact absurd hlen (by decide +kernel)
  exact ⟨_, s', hr, hne, houses_change Sample.config _ _ _ _ _ _ (fun _ => rfl) hr hs (Or.inl hne)⟩

/-- A session with the role of an administrator or of a user. -/
theorem openedByPassword_user {cfg : Config F} {init : Site F → Prop} {s0 s : Site F} {ls : List SiteReq}
    (h0 : ∀ client, s0.sessions client = none) (hr : (site cfg init).Run s0 ls s) {client : Nat}
    {token : AuthenticationToken} (ht : s.sessions client = some token) (hrole : token.IsUser) :
    ∃ role ∈ ["ADMIN", "USER"], OpenedByPassword cfg init s0 ls client token s role := by
  rcases hrole with hrole | hrole
  · exact ⟨"ADMIN", by simp, openedByPassword h0 hr ht hrole⟩
  · exact ⟨"USER", by simp, openedByPassword h0 hr ht hrole⟩

/-- The reservations are those from before, and perhaps one that the user of
the session made. -/
theorem subscribe_step {cfg : Config F} {s s' : Site F} {l : SiteReq} (h : Effect cfg s l s') :
    s'.booked.subscribe = s.booked.subscribe ∨ ∃ client path now houseId token house t,
      l = .call client path (.subscribeHouse now houseId) ∧ s.sessions client = some token ∧ token.IsUser ∧
        s.db.house.find? houseId = some house ∧
        s.booked.subscribe.insert? (HouseService.newSubscribe token.principal.id now houseId house.adminId) = some t ∧
        s'.booked.subscribe = t := by
  cases h with
  | @subscribe client path now houseId token session role =>
    rcases addSubscribeOrder_cases token.principal.id now houseId s.booked with he | ⟨house, t, hf, hi, he⟩
    · exact Or.inl (by rw [he])
    · exact Or.inr ⟨client, path, now, houseId, token, house, t, rfl, session, role, hf, hi, by rw [he]⟩
  | idle | opened | refused | thrown | ended | admin | upload | profile | background => exact Or.inl rfl

/-- **Users and reservations.** In every run from a site without sessions, the
row of a user changes, and a reservation of a user is made, only by a call of
a client whose session was opened in the run with the name and the password of
this user. A reservation that is there stays. -/
theorem users_change (cfg : Config F) (init : Site F → Prop) (s0 s s' : Site F) (ls : List SiteReq) (l : SiteReq)
    (h0 : ∀ client, s0.sessions client = none) (hr : (site cfg init).Run s0 ls s)
    (hs : (site cfg init).step s l s') :
    (∀ u, s'.users.find? u ≠ s.users.find? u → ∃ client path fault profile value token,
      l = .call client path (.updateUserInfo fault profile value) ∧ s.sessions client = some token ∧
        token.principal.id = u ∧ ∃ role ∈ ["ADMIN", "USER"], OpenedByPassword cfg init s0 ls client token s role) ∧
    (∀ r ∈ s.booked.subscribe.rows, r ∈ s'.booked.subscribe.rows) ∧
    ∀ r ∈ s'.booked.subscribe.rows, r ∉ s.booked.subscribe.rows → ∃ client path now token,
      l = .call client path (.subscribeHouse now r.houseId) ∧ s.sessions client = some token ∧
        token.principal.id = r.userId ∧
        ∃ role ∈ ["ADMIN", "USER"], OpenedByPassword cfg init s0 ls client token s role := by
  have heffect := effect_of_step hs
  refine ⟨fun u hne => ?_, ?_⟩
  · cases heffect with
    | @profile client path fault profile value token session role nonempty email =>
      have hu : u = token.principal.id := of_not_not fun ho => hne (modifyUserProfile_other ho)
      exact ⟨client, path, fault, profile, value, token, rfl, session, hu.symm,
        openedByPassword_user h0 hr session role⟩
    | idle | opened | refused | thrown | ended | admin | upload | subscribe | background => exact absurd rfl hne
  · rcases subscribe_step heffect with he |
      ⟨client, path, now, houseId, token, house, t, rfl, session, role, -, hi, he⟩
    · rw [he]
      exact ⟨fun _ h => h, fun _ h hno => absurd h hno⟩
    · rw [he, (Table.insert?_some hi).1]
      refine ⟨fun r h => List.mem_append_left _ h, fun r h hno => ?_⟩
      rcases List.mem_append.mp h with h | h
      · exact absurd h hno
      · rw [List.mem_singleton.mp h]
        exact ⟨client, path, now, token, rfl, session, rfl, openedByPassword_user h0 hr session role⟩

/-- User 1 logs in and takes another name. -/
theorem users_change_renamed : ∃ s s' : Site (List Paths.Segment),
    (site Sample.config fun _ => True).Run Sample.openSite [.login 0 Sample.userLogin] s ∧
    s'.users.find? 1 ≠ s.users.find? 1 ∧
    ∀ u, s'.users.find? u ≠ s.users.find? u → ∃ client path fault profile value token,
      Sample.rename = .call client path (.updateUserInfo fault profile value) ∧ s.sessions client = some token ∧
        token.principal.id = u ∧ ∃ role ∈ ["ADMIN", "USER"], OpenedByPassword Sample.config (fun _ => True)
          Sample.openSite [.login 0 Sample.userLogin] client token s role := by
  have hr : (site Sample.config fun _ => True).Run Sample.openSite [.login 0 Sample.userLogin]
      (loginStep Sample.config 0 Sample.userLogin Sample.openSite) := .cons rfl (.nil _)
  obtain ⟨s', hs, hne⟩ : ∃ s' ∈ siteStep Sample.config (loginStep Sample.config 0 Sample.userLogin Sample.openSite)
      Sample.rename, s'.users.find? 1 ≠
        (loginStep Sample.config 0 Sample.userLogin Sample.openSite).users.find? 1 := by decide +kernel
  obtain ⟨husers, -⟩ := users_change Sample.config _ _ _ _ _ _ (fun _ => rfl) hr hs
  exact ⟨_, s', hr, hne, husers⟩

end

end Soufang
