import Soufang.L2Service.SearchService

/-!
# One map point per house

`lbsUpload` asks whether the LBS table has a row of the house and creates or
updates accordingly. A list call that reports an error counts as "no row", so
the upload after it creates a second one.

* `lbsUpload_cases`: the table stays, its rows of the house are rewritten, or
  a row is added.
* `one_point_iff`: starting from an empty table, the houses keep at most one
  row exactly in the runs whose uploads are all `Informed`.
* `two_points`: an upload whose list call fails.
-/
namespace Soufang

open SearchService

/-- A call on the LBS table with the answers of the service; an upload reads
`lbsList` and `lbsWrite` of its `Calls`. -/
inductive LbsCall
  | upload (c : Calls) (p : LbsPoint)
  | remove (delete : Status) (houseId : Long)

def LbsCall.apply (lbs : List LbsPoint) : LbsCall → List LbsPoint
  | .upload c p => (lbsUpload c p lbs).1
  | .remove delete houseId => (removeLbs delete houseId lbs).1

def lbsTable : LTS (List LbsPoint) LbsCall := LTS.ofFn (fun lbs => lbs = []) fun lbs l => some (l.apply lbs)

def OnePoint (lbs : List LbsPoint) : Prop := (lbs.map LbsPoint.houseId).Nodup

/-- An upload that creates a row while the list call failed does so for a
house without one. -/
def Informed (lbs : List LbsPoint) : LbsCall → Prop
  | .upload c p => c.lbsList = .failed → c.lbsWrite = .ok → p.houseId ∉ lbs.map LbsPoint.houseId
  | .remove _ _ => True

instance (lbs : List LbsPoint) (l : LbsCall) : Decidable (Informed lbs l) := by
  unfold Informed; split <;> infer_instance

theorem lbsUpload_cases (c : Calls) (p : LbsPoint) (lbs : List LbsPoint) :
    (¬ (c.lbsList ≠ .threw ∧ c.lbsWrite = .ok) ∧ (lbsUpload c p lbs).1 = lbs) ∨
      (c.lbsList = .ok ∧ p.houseId ∈ lbs.map LbsPoint.houseId ∧
        (lbsUpload c p lbs).1 = lbs.map fun q => if q.houseId = p.houseId then p else q) ∨
      (c.lbsWrite = .ok ∧ (c.lbsList = .ok ∧ p.houseId ∉ lbs.map LbsPoint.houseId ∨ c.lbsList = .failed) ∧
        (lbsUpload c p lbs).1 = lbs ++ [p]) := by
  unfold lbsUpload isLbsDataExists
  cases hl : c.lbsList with
  | threw => exact Or.inl ⟨by simp, rfl⟩
  | failed =>
    cases hw : c.lbsWrite with
    | ok => exact Or.inr (Or.inr ⟨rfl, Or.inr rfl, rfl⟩)
    | failed => exact Or.inl ⟨by simp, rfl⟩
    | threw => exact Or.inl ⟨by simp, rfl⟩
  | ok =>
    cases hw : c.lbsWrite with
    | failed => exact Or.inl ⟨by simp, rfl⟩
    | threw => exact Or.inl ⟨by simp, rfl⟩
    | ok =>
      by_cases hm : p.houseId ∈ lbs.map LbsPoint.houseId
      · have hany : (lbs.any fun q => q.houseId = p.houseId) = true := by simpa using hm
        exact Or.inr (Or.inl ⟨rfl, hm, by simp [hany]⟩)
      · have hany : (lbs.any fun q => q.houseId = p.houseId) = false := by simpa using hm
        exact Or.inr (Or.inr ⟨rfl, Or.inl ⟨rfl, hm⟩, by simp [hany]⟩)

theorem onePoint_snoc {lbs : List LbsPoint} {p : LbsPoint} (h : OnePoint lbs) :
    OnePoint (lbs ++ [p]) ↔ p.houseId ∉ lbs.map LbsPoint.houseId := by
  simp only [OnePoint, List.map_append, List.map_cons, List.map_nil]
  rw [List.nodup_append]
  constructor
  · intro ⟨_, _, hd⟩ hp
    exact hd _ hp _ (List.mem_singleton.mpr rfl) rfl
  · intro hp
    refine ⟨h, List.nodup_singleton _, fun a ha b hb he => hp ?_⟩
    rw [← List.mem_singleton.mp hb, ← he]
    exact ha

theorem onePoint_apply {lbs : List LbsPoint} {l : LbsCall} (h : OnePoint lbs) :
    OnePoint (l.apply lbs) ↔ Informed lbs l := by
  cases l with
  | remove delete houseId =>
    refine iff_of_true ?_ trivial
    cases delete with
    | ok => exact h.sublist (List.filter_sublist.map _)
    | failed => exact h
    | threw => exact h
  | upload c p =>
    simp only [LbsCall.apply, Informed]
    rcases lbsUpload_cases c p lbs with ⟨hn, he⟩ | ⟨hl, -, he⟩ | ⟨hw, hl, he⟩
    · rw [he]
      exact iff_of_true h fun hl hw => absurd ⟨by rw [hl]; decide, hw⟩ hn
    · -- an update keeps the house of each row
      rw [he]
      refine iff_of_true ?_ fun hf => by rw [hl] at hf; cases hf
      have hkeep : (LbsPoint.houseId ∘ fun q : LbsPoint => if q.houseId = p.houseId then p else q) =
          LbsPoint.houseId := by
        funext q
        simp only [Function.comp]
        split
        · exact Eq.symm ‹_›
        · rfl
      rw [OnePoint, List.map_map, hkeep]
      exact h
    · rw [he, onePoint_snoc h]
      rcases hl with ⟨hl, hm⟩ | hl
      · exact iff_of_true hm fun hf => by rw [hl] at hf; cases hf
      · simp [hl, hw]

/-- **One point per house.** A run from the empty table keeps at most one row
per house exactly when its calls are all informed; so these end with at most
one. -/
theorem one_point_iff (ls : List LbsCall) (lbs : List LbsPoint) :
    ((lbsTable.within OnePoint).Run [] ls lbs ↔ (lbsTable.restrict Informed).Run [] ls lbs) ∧
      ((lbsTable.restrict Informed).Run [] ls lbs → OnePoint lbs) := by
  have keep : ∀ lbs l lbs', OnePoint lbs → lbsTable.step lbs l lbs' → Informed lbs l → OnePoint lbs' := by
    intro lbs l lbs' h hs hC
    rw [← Option.some.inj hs]
    exact (onePoint_apply h).mpr hC
  have lose : ∀ lbs l lbs', OnePoint lbs → lbsTable.step lbs l lbs' → ¬ Informed lbs l → ¬ OnePoint lbs' := by
    intro lbs l lbs' h hs hC
    rw [← Option.some.inj hs, onePoint_apply h]
    exact hC
  constructor
  · exact LTS.Run.within_iff (fun _ h => h) keep lose List.nodup_nil
  · intro hr
    refine LTS.Run.preserves ?_ hr List.nodup_nil
    intro lbs l lbs' h ⟨hs, hC⟩
    exact keep lbs l lbs' h hs hC

/-- The point of one house. -/
def Sample.point : LbsPoint := ⟨1, ⟨116, 40⟩, 5000, 80, "龙岗路", "北京"⟩

/-- A failing list call does no harm to a house without a row. -/
theorem one_point_first : ∃ lbs : List LbsPoint, lbs.length = 1 ∧ OnePoint lbs := by
  obtain ⟨lbs, ⟨_, ls, rfl, hr⟩, hl⟩ := LTS.exists_reachable (fun lbs => lbs = [])
    (fun lbs (l : LbsCall) => some (l.apply lbs)) Informed (fun lbs => lbs.length = 1) rfl
    [.upload { Calls.success with lbsList := .failed } Sample.point, .upload .success Sample.point]
    (by decide +kernel)
  exact ⟨lbs, hl, (one_point_iff ls lbs).2 hr⟩

/-- **Two rows of one house.** A successful upload, and one whose list call
reports an error. -/
theorem two_points : ¬ ∀ lbs, lbsTable.Reachable lbs → OnePoint lbs := by
  intro hall
  obtain ⟨lbs, hr, hd⟩ := LTS.exists_reachable (fun lbs => lbs = []) (fun lbs (l : LbsCall) => some (l.apply lbs))
    (fun _ _ => True) (fun lbs => ¬ OnePoint lbs) rfl
    [.upload .success Sample.point, .upload { Calls.success with lbsList := .failed } Sample.point]
    (by unfold OnePoint; decide +kernel)
  exact hd (hall lbs hr.of_restrict)

end Soufang
