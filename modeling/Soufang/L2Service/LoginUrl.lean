import Soufang.Core.Replace

/-!
# The login page a request is sent to

`determineUrlToUseForThisRequest` deletes the context path from the request
URI and looks for the first pattern of its map that matches what is left.

The matcher is a library: a parameter, of which `AntPatterns` says what is
used. The map is a `HashMap`, whose entries come in any order. The context
path is deleted wherever it occurs, so the answer depends on the path inside
the application without these occurrences.

* `determineUrl_eq`: the answer, in every order of the entries.
* `determineUrl_right_iff`: when it is the page for the path.
-/
namespace Soufang

/-- `String.replace(target, "")` of Java. -/
def withoutText (s target : String) : String := String.ofList (Replace.removeAll target.toList s.toList)

/-- `path` is the directory `root`, or lies below it. -/
def Under (root path : String) : Prop := path = root ∨ (root ++ "/").toList <+: path.toList

instance (root path : String) : Decidable (Under root path) := inferInstanceAs (Decidable (_ ∨ _))

theorem Under.root_prefix {root path : String} (h : Under root path) : root.toList <+: path.toList := by
  rcases h with rfl | h
  · exact List.prefix_refl _
  · rw [String.toList_append] at h
    exact (List.prefix_append root.toList "/".toList).trans h

/-- The Ant pattern `/x/**` matches `/x` and the paths that start with `/x/`,
for the two names the map has. -/
structure AntPatterns (pathMatch : String → String → Bool) : Prop where
  user : ∀ path, pathMatch "/user/**" path = true ↔ Under "/user" path
  admin : ∀ path, pathMatch "/admin/**" path = true ↔ Under "/admin" path

namespace LoginUrlEntryPoint

/-- mirrors soufang/src/main/java/com/wf/security/LoginUrlEntryPoint.java:21-29 -/
def authEntryPointMap : List (String × String) := [("/user/**", "/user/login"), ("/admin/**", "/admin/login")]

/-- mirrors soufang/src/main/java/com/wf/config/WebSecurityConfig.java:73-76 -/
def loginFormUrl : String := "/user/login"

/-- `entries` are those of the map, in the order of the iteration.
mirrors soufang/src/main/java/com/wf/security/LoginUrlEntryPoint.java:38-49 -/
def determineUrlToUseForThisRequest (pathMatch : String → String → Bool) (entries : List (String × String))
    (requestURI contextPath : String) : String :=
  let uri := withoutText requestURI contextPath
  match entries.find? fun authEntry => pathMatch authEntry.1 uri with
  | some authEntry => authEntry.2
  | none => loginFormUrl

/-- The page for a path inside the application. -/
def loginPage (path : String) : String := if Under "/admin" path then "/admin/login" else "/user/login"

/-- The context path in front of the path is deleted first. -/
theorem withoutText_contextPath (c p : String) : withoutText (c ++ p) c = withoutText p c := by
  rw [withoutText, withoutText, String.toList_append, Replace.removeAll_append_self]

/-- Without an occurrence in the path only the one in front is deleted. -/
theorem withoutText_of_not_infix {c p : String} (h : ¬ c.toList <:+: p.toList) : withoutText p c = p := by
  rw [withoutText, Replace.removeAll_of_not_infix h, String.ofList_toList]

/-- No path is under both directories. -/
theorem user_admin_disjoint {path : String} (hu : Under "/user" path) : ¬ Under "/admin" path := by
  intro ha
  rcases List.prefix_or_prefix_of_prefix hu.root_prefix ha.root_prefix with h | h
  · exact absurd h (by decide)
  · exact absurd h (by decide)

section
variable {pathMatch : String → String → Bool} {entries : List (String × String)}

/-- The order of the entries does not matter. -/
theorem determineUrl_eq (hm : AntPatterns pathMatch) (ho : entries.Perm authEntryPointMap) (c p : String) :
    determineUrlToUseForThisRequest pathMatch entries (c ++ p) c = loginPage (withoutText p c) := by
  unfold determineUrlToUseForThisRequest loginPage
  rw [withoutText_contextPath]
  generalize withoutText p c = uri
  dsimp only
  cases hf : entries.find? fun authEntry => pathMatch authEntry.1 uri with
  | none =>
    have hnot : ¬ Under "/admin" uri := by
      intro ha
      have hmem : ("/admin/**", "/admin/login") ∈ entries := ho.mem_iff.mpr (by simp [authEntryPointMap])
      have hno := List.find?_eq_none.mp hf _ hmem
      exact hno ((hm.admin uri).mpr ha)
    rw [if_neg hnot]
    rfl
  | some authEntry =>
    have hmem := ho.mem_iff.mp (List.mem_of_find?_eq_some hf)
    have hmatch := List.find?_some hf
    simp only [authEntryPointMap, List.mem_cons, List.not_mem_nil, or_false] at hmem
    rcases hmem with rfl | rfl
    · rw [if_neg (user_admin_disjoint ((hm.user uri).mp hmatch))]
    · rw [if_pos ((hm.admin uri).mp hmatch)]

end

/-- The entry point answers with the page for the path, in every order of the
entries. -/
def RightAt (pathMatch : String → String → Bool) (c p : String) : Prop :=
  ∀ entries, entries.Perm authEntryPointMap →
    determineUrlToUseForThisRequest pathMatch entries (c ++ p) c = loginPage p

/-- It does exactly if deleting the context path wherever it occurs in the
path neither takes the path out of `/admin` nor brings it there. -/
theorem determineUrl_right_iff {pathMatch : String → String → Bool} (hm : AntPatterns pathMatch) (c p : String) :
    RightAt pathMatch c p ↔ (Under "/admin" (withoutText p c) ↔ Under "/admin" p) := by
  have hpage : RightAt pathMatch c p ↔ loginPage (withoutText p c) = loginPage p := by
    constructor
    · intro h
      rw [← h _ (List.Perm.refl _), determineUrl_eq hm (List.Perm.refl _)]
    · intro h entries ho
      rw [determineUrl_eq hm ho, h]
  rw [hpage, loginPage, loginPage]
  by_cases hc : Under "/admin" (withoutText p c) <;> by_cases hp : Under "/admin" p <;> simp [hc, hp]

/-- A path in which the context path does not occur gets its page. -/
theorem determineUrl_right_of_not_infix {pathMatch : String → String → Bool} (hm : AntPatterns pathMatch)
    {c p : String} (h : ¬ c.toList <:+: p.toList) : RightAt pathMatch c p := by
  intro entries ho
  rw [determineUrl_eq hm ho, withoutText_of_not_infix h]

end LoginUrlEntryPoint

/-- A matcher for patterns that end with two stars. -/
def Sample.pathMatch (pattern path : String) : Bool :=
  decide (Under (String.ofList (pattern.toList.take (pattern.toList.length - 3))) path)

theorem Sample.antPatterns : AntPatterns Sample.pathMatch where
  user _ := decide_eq_true_iff
  admin _ := decide_eq_true_iff

namespace LoginUrlEntryPoint

theorem determineUrl_right_soufang : AntPatterns Sample.pathMatch ∧
    (RightAt Sample.pathMatch "/soufang" "/admin/x" ↔
      (Under "/admin" (withoutText "/admin/x" "/soufang") ↔ Under "/admin" "/admin/x")) :=
  ⟨Sample.antPatterns, determineUrl_right_iff Sample.antPatterns "/soufang" "/admin/x"⟩

/-- With the context path `/a` the admin pages lose their first letters. -/
theorem determineUrl_admin_lost : AntPatterns Sample.pathMatch ∧ ¬ RightAt Sample.pathMatch "/a" "/admin/x" := by
  refine ⟨Sample.antPatterns, fun h => ?_⟩
  have hpage := h _ (List.Perm.refl _)
  rw [determineUrl_eq Sample.antPatterns (List.Perm.refl _)] at hpage
  exact absurd hpage (by decide)

end LoginUrlEntryPoint

end Soufang
