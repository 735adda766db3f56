import Soufang.Core.Register
import Soufang.L2Service.LoginUrl
import Soufang.L2Service.UserService

/-!
# Concurrent failed logins

One `LoginAuthFailHandler` answers every failed login. It stores the address
with the message of the failure in a field of its superclass
(`setDefaultFailureUrl`), and the superclass redirects to the address in the
field. Between the two steps another failed login can store its own address.

Logins are processed at `/login`, so the page is the login page of users also
for administrators (`determineUrl_login`), and the addresses differ in the
message alone.
-/
namespace Soufang

/-- `getMessage` of an exception. -/
def AuthenticationException.getMessage : AuthenticationException → String
  | .disabled message => message
  | .credentialsNotFound message => message
  | .badCredentials message => message

namespace LoginAuthFailHandler

open LoginUrlEntryPoint

/-- mirrors soufang/src/main/java/com/wf/config/WebSecurityConfig.java:42-43 -/
def loginProcessingUrl : String := "/login"

/-- mirrors soufang/src/main/java/com/wf/security/LoginAuthFailHandler.java:22-28 -/
def targetUrl (pathMatch : String → String → Bool) (entries : List (String × String)) (contextPath : String)
    (exception : AuthenticationException) : String :=
  determineUrlToUseForThisRequest pathMatch entries (contextPath ++ loginProcessingUrl) contextPath ++ "?" ++
    exception.getMessage

/-- The failed logins of one handler: `write i` is `setDefaultFailureUrl` for
login `i`, `read i` its redirect to the address in the field.
mirrors soufang/src/main/java/com/wf/security/LoginAuthFailHandler.java:20-31 -/
def failures (pathMatch : String → String → Bool) (entries : List (String × String)) (contextPath : String)
    (exception : Nat → AuthenticationException) : LTS (Register.State String) Register.Ev :=
  Register.lts fun i => targetUrl pathMatch entries contextPath (exception i)

section
variable {pathMatch : String → String → Bool} {entries : List (String × String)}

/-- No context path turns the address of the login into one of `/admin`. -/
theorem not_admin_login (c : String) : ¬ Under "/admin" (withoutText loginProcessingUrl c) := by
  intro h
  have hmem : 'a' ∈ (withoutText loginProcessingUrl c).toList := h.root_prefix.subset (by decide)
  rw [withoutText, String.toList_ofList] at hmem
  exact absurd (Replace.mem_removeAll hmem) (by decide)

theorem determineUrl_login (hm : AntPatterns pathMatch) (ho : entries.Perm authEntryPointMap) (c : String) :
    determineUrlToUseForThisRequest pathMatch entries (c ++ loginProcessingUrl) c = "/user/login" := by
  rw [determineUrl_eq hm ho, loginPage, if_neg (not_admin_login c)]

theorem targetUrl_eq (hm : AntPatterns pathMatch) (ho : entries.Perm authEntryPointMap) (c : String)
    (e : AuthenticationException) : targetUrl pathMatch entries c e = "/user/login?" ++ e.getMessage := by
  rw [targetUrl, determineUrl_login hm ho]
  rfl

theorem url_inj {a b : String} : "/user/login?" ++ a = "/user/login?" ++ b ↔ a = b := by
  rw [← String.toList_inj, ← String.toList_inj, String.toList_append, String.toList_append,
    List.append_cancel_left_eq]

end

/-- **The message of another login.** In every run of failed logins, whatever
the context path, each is redirected to the login page of users with the
message of the login that stored last before the redirect; all of them see
their own messages if and only if at each redirect that login has the message
of the one that is redirected. -/
theorem failure_messages (pathMatch : String → String → Bool) (hm : AntPatterns pathMatch)
    (entries : List (String × String)) (ho : entries.Perm authEntryPointMap) (contextPath : String)
    (exception : Nat → AuthenticationException) (ls : List Register.Ev) (s : Register.State String)
    (hr : (failures pathMatch entries contextPath exception).Run Register.idle ls s) :
    (∀ i url, s.phase i = .read url → ∃ pre j, Register.ReadsAfter ls pre i ∧ Register.lastWriter pre = some j ∧
      url = some ("/user/login?" ++ (exception j).getMessage)) ∧
    ((∀ i url, s.phase i = .read url → url = some ("/user/login?" ++ (exception i).getMessage)) ↔
      ∀ pre i j, Register.ReadsAfter ls pre i → Register.lastWriter pre = some j →
        (exception j).getMessage = (exception i).getMessage) := by
  have ht := Register.traced hr
  have hown := ht.own_iff
  simp only [Register.Own, targetUrl_eq hm ho, url_inj] at hown
  refine ⟨fun i url h => ?_, hown⟩
  obtain ⟨pre, j, hread, hj, hurl⟩ := ht.seen_value h
  exact ⟨pre, j, hread, hj, by rw [hurl, targetUrl_eq hm ho]⟩

end LoginAuthFailHandler

namespace Sample

/-- A wrong password, and then wrong SMS codes. -/
def failedLogin (i : Nat) : AuthenticationException :=
  if i = 0 then .badCredentials "authError" else .badCredentials "smsCodeError"

end Sample

/-- Both logins store their addresses before the first is redirected: it gets
the message of the second. -/
theorem LoginAuthFailHandler.failure_messages_mixed : ∃ s : Register.State String,
    (failures Sample.pathMatch LoginUrlEntryPoint.authEntryPointMap "/soufang" Sample.failedLogin).Run
      Register.idle [.write 0, .write 1, .read 0] s ∧
    ¬ ∀ i url, s.phase i = .read url → url = some ("/user/login?" ++ (Sample.failedLogin i).getMessage) := by
  obtain ⟨s, hs⟩ : ∃ s, LTS.exec (Register.step fun i => targetUrl Sample.pathMatch
      LoginUrlEntryPoint.authEntryPointMap "/soufang" (Sample.failedLogin i)) (fun _ _ => True) Register.idle
      [.write 0, .write 1, .read 0] = some s := ⟨_, rfl⟩
  have hr : (failures Sample.pathMatch LoginUrlEntryPoint.authEntryPointMap "/soufang" Sample.failedLogin).Run
      Register.idle _ s := (LTS.run_of_exec hs).of_restrict
  refine ⟨s, hr, fun hall => ?_⟩
  obtain ⟨-, hown⟩ := failure_messages Sample.pathMatch Sample.antPatterns _ (List.Perm.refl _) "/soufang"
    Sample.failedLogin _ s hr
  have hsame := hown.mp hall [.write 0, .write 1] 0 1 ⟨[], rfl⟩ rfl
  exact absurd hsame (by decide)

end Soufang
