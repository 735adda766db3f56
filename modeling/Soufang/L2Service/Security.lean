import Soufang.L2Service.LoginUrl
import Soufang.L2Service.UserService

/-!
# Which requests go through

The filter chain takes the first rule of `authorizeRequests` whose pattern
matches the path of a request; a path without a rule is open. The matcher is a
library, given by what the rules use of it (`AntMatcher`). `hasRole` puts
`ROLE_` in front of a role and looks for it in the authorities of the session.
A visitor who is refused is sent to a login page, a user to the page 403.

* `ruleFor_admin`, `ruleFor_user`, `ruleFor_apiUser`: the rule for the paths of
  the three directories that need a role.
* `authorize_loginPage`: the login pages are open, so no visitor is sent from
  one to the next.
-/
namespace Soufang

/-- Text a pattern or a mapping takes literally: no wildcard, no variable. -/
def Literal (s : String) : Prop := ∀ c ∈ s.toList, c ≠ '*' ∧ c ≠ '?' ∧ c ≠ '\x7b'

instance (s : String) : Decidable (Literal s) := List.decidableBAll (fun c => c ≠ '*' ∧ c ≠ '?' ∧ c ≠ '\x7b') s.toList

/-- The Ant matcher of the rules, a library. A path is the one its firewall
hands on, without empty segments. -/
structure AntMatcher where
  pathMatch : String → String → Bool
  literal : ∀ pattern, Literal pattern → ∀ path, pathMatch pattern path = true ↔ path = pattern
  /-- a directory with everything below it -/
  below : ∀ root, Literal root → ∀ path, pathMatch (root ++ "/**") path = true ↔ Under root path

inductive Access
  | permitAll
  | hasAnyRole (roles : List String)
  deriving DecidableEq

namespace Access

/-- The session of a visitor is `none`. -/
def Grants : Access → Option AuthenticationToken → Prop
  | .permitAll, _ => True
  | .hasAnyRole _, none => False
  | .hasAnyRole roles, some token => ∃ role ∈ roles, "ROLE_" ++ role ∈ token.authorities

instance : ∀ (a : Access) (session : Option AuthenticationToken), Decidable (a.Grants session)
  | .permitAll, _ => .isTrue trivial
  | .hasAnyRole _, none => .isFalse id
  | .hasAnyRole roles, some token => inferInstanceAs (Decidable (∃ role ∈ roles, "ROLE_" ++ role ∈ token.authorities))

theorem grants_hasAnyRole {roles : List String} {session : Option AuthenticationToken} :
    (hasAnyRole roles).Grants session ↔
      ∃ token, session = some token ∧ ∃ role ∈ roles, "ROLE_" ++ role ∈ token.authorities := by
  cases session with
  | none => simp [Grants]
  | some token => simp [Grants]

end Access

/-- What becomes of a request. -/
inductive Decision
  | proceed
  | loginPage (url : String)
  | forbidden
  deriving DecidableEq

namespace WebSecurityConfig

/-- mirrors soufang/src/main/java/com/wf/config/WebSecurityConfig.java:31-41 -/
def authorizeRequests : List (String × Access) :=
  [("/admin/login", .permitAll),
   ("/static/**", .permitAll),
   ("/image/**", .permitAll),
   ("/user/login", .permitAll),
   ("/admin/**", .hasAnyRole ["ADMIN"]),
   ("/user/**", .hasAnyRole ["ADMIN", "USER"]),
   ("/api/user/**", .hasAnyRole ["ADMIN", "USER"])]

def ruleFor (patterns : AntMatcher) (path : String) : Option Access :=
  (authorizeRequests.find? fun rule => patterns.pathMatch rule.1 path).map Prod.snd

/-- mirrors soufang/src/main/java/com/wf/config/WebSecurityConfig.java:53-55 -/
def authorize (patterns : AntMatcher) (path : String) (session : Option AuthenticationToken) : Decision :=
  match ruleFor patterns path with
  | none => .proceed
  | some access =>
    if access.Grants session then .proceed
    else if session = none then .loginPage (LoginUrlEntryPoint.loginPage path)
    else .forbidden

variable {patterns : AntMatcher}

theorem authorize_proceed {path : String} {session : Option AuthenticationToken} :
    authorize patterns path session = .proceed ↔
      ∀ access, ruleFor patterns path = some access → access.Grants session := by
  unfold authorize
  cases ruleFor patterns path with
  | none => simp
  | some access =>
    dsimp only
    by_cases hg : access.Grants session
    · simp [hg]
    · rw [if_neg hg]
      split <;> simp [hg]

/-- Of two directories a path is below, one is below the other. -/
theorem under_comparable {a b path : String} (ha : Under a path) (hb : Under b path) :
    a.toList <+: b.toList ∨ b.toList <+: a.toList :=
  List.prefix_or_prefix_of_prefix ha.root_prefix hb.root_prefix

theorem rule_cons (pattern : String) (access : Access) (rules : List (String × Access)) (path : String) :
    (((pattern, access) :: rules).find? fun rule => patterns.pathMatch rule.1 path).map Prod.snd =
      if patterns.pathMatch pattern path = true then some access
      else (rules.find? fun rule => patterns.pathMatch rule.1 path).map Prod.snd := by
  rw [List.find?_cons]
  cases patterns.pathMatch pattern path <;> rfl

/-- The rules by what their patterns match, in their order. -/
theorem ruleFor_eq (path : String) : ruleFor patterns path =
    if path = "/admin/login" then some .permitAll
    else if Under "/static" path then some .permitAll
    else if Under "/image" path then some .permitAll
    else if path = "/user/login" then some .permitAll
    else if Under "/admin" path then some (.hasAnyRole ["ADMIN"])
    else if Under "/user" path then some (.hasAnyRole ["ADMIN", "USER"])
    else if Under "/api/user" path then some (.hasAnyRole ["ADMIN", "USER"])
    else none := by
  have hadminLogin := patterns.literal "/admin/login" (by decide) path
  have huserLogin := patterns.literal "/user/login" (by decide) path
  have hstatic : patterns.pathMatch "/static/**" path = true ↔ _ := patterns.below "/static" (by decide) path
  have himage : patterns.pathMatch "/image/**" path = true ↔ _ := patterns.below "/image" (by decide) path
  have hadmin : patterns.pathMatch "/admin/**" path = true ↔ _ := patterns.below "/admin" (by decide) path
  have huser : patterns.pathMatch "/user/**" path = true ↔ _ := patterns.below "/user" (by decide) path
  have hapi : patterns.pathMatch "/api/user/**" path = true ↔ _ := patterns.below "/api/user" (by decide) path
  simp only [ruleFor, authorizeRequests, rule_cons, List.find?_nil, Option.map_none, hadminLogin, huserLogin, hstatic,
    himage, hadmin, huser, hapi]

/-- The paths below `/admin`, but for the login page. -/
theorem ruleFor_admin {path : String} (hu : Under "/admin" path) (hne : path ≠ "/admin/login") :
    ruleFor patterns path = some (.hasAnyRole ["ADMIN"]) := by
  have hstatic : ¬ Under "/static" path := fun h => absurd (under_comparable hu h) (by decide)
  have himage : ¬ Under "/image" path := fun h => absurd (under_comparable hu h) (by decide)
  have huser : path ≠ "/user/login" := by
    rintro rfl
    exact absurd hu (by decide)
  rw [ruleFor_eq, if_neg hne, if_neg hstatic, if_neg himage, if_neg huser, if_pos hu]

/-- The paths below `/user`, but for the login page. -/
theorem ruleFor_user {path : String} (hu : Under "/user" path) (hne : path ≠ "/user/login") :
    ruleFor patterns path = some (.hasAnyRole ["ADMIN", "USER"]) := by
  have hstatic : ¬ Under "/static" path := fun h => absurd (under_comparable hu h) (by decide)
  have himage : ¬ Under "/image" path := fun h => absurd (under_comparable hu h) (by decide)
  have hadmin : ¬ Under "/admin" path := fun h => absurd (under_comparable hu h) (by decide)
  have hlogin : path ≠ "/admin/login" := by
    rintro rfl
    exact absurd hu (by decide)
  rw [ruleFor_eq, if_neg hlogin, if_neg hstatic, if_neg himage, if_neg hne, if_neg hadmin, if_pos hu]

/-- The paths below `/api/user`. -/
theorem ruleFor_apiUser {path : String} (hu : Under "/api/user" path) :
    ruleFor patterns path = some (.hasAnyRole ["ADMIN", "USER"]) := by
  have hstatic : ¬ Under "/static" path := fun h => absurd (under_comparable hu h) (by decide)
  have himage : ¬ Under "/image" path := fun h => absurd (under_comparable hu h) (by decide)
  have hadmin : ¬ Under "/admin" path := fun h => absurd (under_comparable hu h) (by decide)
  have huser : ¬ Under "/user" path := fun h => absurd (under_comparable hu h) (by decide)
  have hlogin : path ≠ "/admin/login" := by
    rintro rfl
    exact absurd hu (by decide)
  have hlogin' : path ≠ "/user/login" := by
    rintro rfl
    exact absurd hu (by decide)
  rw [ruleFor_eq, if_neg hlogin, if_neg hstatic, if_neg himage, if_neg hlogin', if_neg hadmin, if_neg huser, if_pos hu]

/-- The page a visitor is sent to is open. -/
theorem authorize_loginPage (path : String) (session : Option AuthenticationToken) :
    authorize patterns (LoginUrlEntryPoint.loginPage path) session = .proceed := by
  rw [authorize_proceed]
  intro access ha
  have hopen : ruleFor patterns (LoginUrlEntryPoint.loginPage path) = some .permitAll := by
    rw [ruleFor_eq]
    unfold LoginUrlEntryPoint.loginPage
    split <;> decide
  rw [hopen, Option.some.injEq] at ha
  rw [← ha]
  trivial

end WebSecurityConfig

/-- A matcher for patterns without wildcards but for two stars at the end. -/
def Sample.antMatcher : AntMatcher where
  pathMatch pattern path :=
    if "/**".toList <:+ pattern.toList then
      decide (Under (String.ofList (pattern.toList.take (pattern.toList.length - 3))) path)
    else decide (path = pattern)
  literal pattern hp path := by
    have hno : ¬ "/**".toList <:+ pattern.toList := fun h =>
      (hp '*' (h.subset (by decide))).1 rfl
    rw [if_neg hno, decide_eq_true_iff]
  below root _ path := by
    have hend : "/**".toList <:+ (root ++ "/**").toList := by
      rw [String.toList_append]
      exact List.suffix_append _ _
    have hroot : String.ofList ((root ++ "/**").toList.take ((root ++ "/**").toList.length - 3)) = root := by
      have hlen : (root ++ "/**").toList.length - 3 = root.toList.length := by
        rw [String.toList_append, List.length_append]
        exact Nat.add_sub_cancel _ 3
      rw [hlen, String.toList_append, List.take_left, String.ofList_toList]
    rw [if_pos hend, hroot, decide_eq_true_iff]

end Soufang
