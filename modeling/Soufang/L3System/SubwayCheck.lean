import Soufang.L3System.System

/-!
# The subway check of the house form

`wrapperDetailInfo` loads the line and the station a form names, refuses the
form when they do not belong together, and fills the detail otherwise.
`subway_check_iff` says for which forms the check is exact: the form may name
a line and a station or not, but `findOne` refuses a missing id, and the ids
of line and station are compared as boxes, which agree with the numbers only
when these are cached (`sameBox`).
-/
namespace Soufang

namespace HouseService

/-- The line row the form names. -/
def lineOf (db : Db) (f : HouseForm) : Option Subway :=
  f.subwayLineId.bind fun i => db.subway.find? fun s => s.id = i

def stationOf (db : Db) (f : HouseForm) : Option SubwayStation :=
  f.subwayStationId.bind fun i => db.subwayStation.find? fun s => s.id = i

/-- There is no such line or station, or the station is on another line. -/
def Unrelated (db : Db) (f : HouseForm) : Prop :=
  ∀ l ∈ lineOf db f, ∀ s ∈ stationOf db f, s.subwayId ≠ l.id

/-- The check ends without an exception, refuses exactly the unrelated pairs,
and fills the detail with the rows otherwise. -/
structure ChecksSubway (db : Db) (d : HouseDetail) (f : HouseForm) : Prop where
  total : ∃ r, wrapperDetailInfo db d f = .ok r
  refuses : (∃ message, wrapperDetailInfo db d f = .ok (.error message)) ↔ Unrelated db f
  fills : ∀ d', wrapperDetailInfo db d f = .ok (.ok d') → ∃ l s, lineOf db f = some l ∧
    stationOf db f = some s ∧ d'.subwayLineId = some l.id ∧ d'.subwayLineName = some l.name ∧
    d'.subwayStationId = some s.id ∧ d'.subwayStationName = some s.name

/-- The form names a line and, if the line exists, a station; and if the two
belong together, the id of the line is a cached one. -/
structure Comparable (db : Db) (f : HouseForm) : Prop where
  line : f.subwayLineId ≠ none
  station : lineOf db f ≠ none → f.subwayStationId ≠ none
  cached : ∀ l ∈ lineOf db f, ∀ s ∈ stationOf db f, s.subwayId = l.id → -128 ≤ l.id ∧ l.id ≤ 127

/-- The detail filled from the form and the two rows. -/
def filled (d : HouseDetail) (f : HouseForm) (l : Subway) (s : SubwayStation) : HouseDetail :=
  { d with
    subwayLineId := some l.id, subwayLineName := some l.name,
    subwayStationId := some s.id, subwayStationName := some s.name,
    description := f.description, detailAddress := f.detailAddress,
    layoutDesc := f.layoutDesc, rentWay := f.rentWay,
    roundService := f.roundService, traffic := f.traffic }

theorem sameBox_iff {a b : Long} : sameBox a b = true ↔ a = b ∧ -128 ≤ a ∧ a ≤ 127 := by
  simp [sameBox]

/-! ## The five outcomes -/

section
variable {db : Db} {f : HouseForm} (d : HouseDetail)

theorem wrapperDetailInfo_noLine (h : f.subwayLineId = none) :
    wrapperDetailInfo db d f = .error .illegalArgument := by
  simp [wrapperDetailInfo, Db.findSubway, Db.findOne, h]

theorem wrapperDetailInfo_lineMissing (h : f.subwayLineId ≠ none) (hl : lineOf db f = none) :
    wrapperDetailInfo db d f = .ok (.error "Not valid subway line!") := by
  obtain ⟨i, hi⟩ := Option.ne_none_iff_exists'.mp h
  simp only [lineOf, hi, Option.bind_some] at hl
  simp [wrapperDetailInfo, Db.findSubway, Db.findOne, hi, hl]

variable {l : Subway} (hl : lineOf db f = some l)

include hl

theorem wrapperDetailInfo_noStation (h : f.subwayStationId = none) :
    wrapperDetailInfo db d f = .error .illegalArgument := by
  obtain ⟨i, hi, hf⟩ := Option.bind_eq_some_iff.mp hl
  simp [wrapperDetailInfo, Db.findSubway, Db.findSubwayStation, Db.findOne, hi, hf, h]

theorem wrapperDetailInfo_stationMissing (h : f.subwayStationId ≠ none) (hs : stationOf db f = none) :
    wrapperDetailInfo db d f = .ok (.error "Not valid subway station!") := by
  obtain ⟨i, hi, hf⟩ := Option.bind_eq_some_iff.mp hl
  obtain ⟨j, hj⟩ := Option.ne_none_iff_exists'.mp h
  simp only [stationOf, hj, Option.bind_some] at hs
  simp [wrapperDetailInfo, Db.findSubway, Db.findSubwayStation, Db.findOne, hi, hf, hj, hs]

theorem wrapperDetailInfo_found {s : SubwayStation} (hs : stationOf db f = some s) :
    wrapperDetailInfo db d f =
      if sameBox l.id s.subwayId then .ok (.ok (filled d f l s))
      else .ok (.error "Not valid subway station!") := by
  obtain ⟨i, hi, hf⟩ := Option.bind_eq_some_iff.mp hl
  obtain ⟨j, hj, hg⟩ := Option.bind_eq_some_iff.mp hs
  simp only [wrapperDetailInfo, Db.findSubway, Db.findSubwayStation, Db.findOne, hi, hf, hj, hg]
  cases sameBox l.id s.subwayId <;> rfl

end

/-! ## When the check is exact -/

section
variable {db : Db} {d : HouseDetail} {f : HouseForm}

theorem not_checksSubway_of_throws {e : Exn} (hrun : wrapperDetailInfo db d f = .error e) :
    ¬ ChecksSubway db d f := by
  intro h
  obtain ⟨r, hr⟩ := h.total
  rw [hrun] at hr
  cases hr

/-- A refusal is exact when the rows are unrelated. -/
theorem checksSubway_of_refused {message : String} (hrun : wrapperDetailInfo db d f = .ok (.error message))
    (hu : Unrelated db f) : ChecksSubway db d f where
  total := ⟨_, hrun⟩
  refuses := iff_of_true ⟨_, hrun⟩ hu
  fills d' h := by
    rw [hrun] at h
    cases h

variable {l : Subway} {s : SubwayStation} (hl : lineOf db f = some l) (hs : stationOf db f = some s)

include hl hs

theorem unrelated_found : Unrelated db f ↔ s.subwayId ≠ l.id := by simp [Unrelated, hl, hs]

/-- A filled detail is exact when the station is on the line. -/
theorem checksSubway_of_filled (hrun : wrapperDetailInfo db d f = .ok (.ok (filled d f l s)))
    (he : s.subwayId = l.id) : ChecksSubway db d f where
  total := ⟨_, hrun⟩
  refuses := by
    rw [unrelated_found hl hs, hrun]
    simp [he]
  fills d' h := by
    rw [hrun, Except.ok.injEq, Except.ok.injEq] at h
    subst h
    exact ⟨l, s, hl, hs, rfl, rfl, rfl, rfl⟩

/-- Both rows found, only the cached ids matter. -/
theorem comparable_found (hline : f.subwayLineId ≠ none) (hstation : f.subwayStationId ≠ none) :
    Comparable db f ↔ (s.subwayId = l.id → -128 ≤ l.id ∧ l.id ≤ 127) := by
  constructor
  · intro h
    exact h.cached l hl s hs
  · intro h
    refine ⟨hline, fun _ => hstation, fun l' hl' s' hs' => ?_⟩
    rw [hl, Option.mem_some_iff] at hl'
    rw [hs, Option.mem_some_iff] at hs'
    subst hl'; subst hs'
    exact h

/-- Both rows found: the comparison of boxes decides. -/
theorem subway_check_found (hline : f.subwayLineId ≠ none) (hstation : f.subwayStationId ≠ none) :
    ChecksSubway db d f ↔ Comparable db f := by
  have hrun := wrapperDetailInfo_found d hl hs
  rw [comparable_found hl hs hline hstation]
  cases hsame : sameBox l.id s.subwayId with
  | true =>
    obtain ⟨he, hcached⟩ := sameBox_iff.mp hsame
    rw [hsame, if_pos rfl] at hrun
    exact iff_of_true (checksSubway_of_filled hl hs hrun he.symm) fun _ => hcached
  | false =>
    rw [hsame, if_neg Bool.false_ne_true] at hrun
    have hbox : ¬ (l.id = s.subwayId ∧ -128 ≤ l.id ∧ l.id ≤ 127) := by
      rw [← sameBox_iff, hsame]
      decide
    constructor
    · intro h he
      exact absurd he ((unrelated_found hl hs).mp (h.refuses.mp ⟨_, hrun⟩))
    · intro h
      refine checksSubway_of_refused hrun ((unrelated_found hl hs).mpr fun he => ?_)
      exact hbox ⟨he.symm, h he⟩

end

/-- **The subway check.** For all tables, details and forms it is exact iff
the form's ids are comparable. -/
theorem subway_check_iff (db : Db) (d : HouseDetail) (f : HouseForm) :
    ChecksSubway db d f ↔ Comparable db f := by
  by_cases hline : f.subwayLineId = none
  · -- findOne throws before anything else
    exact iff_of_false (not_checksSubway_of_throws (wrapperDetailInfo_noLine d hline)) fun h => h.line hline
  cases hl : lineOf db f with
  | none =>
    refine iff_of_true (checksSubway_of_refused (wrapperDetailInfo_lineMissing d hline hl) ?_)
      ⟨hline, fun h => absurd hl h, ?_⟩
    · intro l h
      rw [hl] at h
      cases h
    · intro l h
      rw [hl] at h
      cases h
  | some l =>
    by_cases hstation : f.subwayStationId = none
    · exact iff_of_false (not_checksSubway_of_throws (wrapperDetailInfo_noStation d hl hstation))
        fun h => h.station (by simp [hl]) hstation
    cases hs : stationOf db f with
    | none =>
      refine iff_of_true (checksSubway_of_refused (wrapperDetailInfo_stationMissing d hl hstation hs) ?_)
        ⟨hline, fun _ => hstation, ?_⟩
      · intro _ _ s h
        rw [hs] at h
        cases h
      · intro _ _ s h
        rw [hs] at h
        cases h
    | some s => exact subway_check_found hl hs hline hstation

/-- **A line with a large id.** Line 128 and its station are refused. -/
theorem large_subway_id : ¬ ∀ (db : Db) (d : HouseDetail) (f : HouseForm), ChecksSubway db d f := by
  intro hall
  have h := hall (.empty [⟨128, "13号线", "bj"⟩] [⟨58, 128, "西二旗"⟩] []) newDetail
    { Sample.form with subwayLineId := some 128 }
  have hunrelated := h.refuses.mp ⟨"Not valid subway station!", rfl⟩
  exact hunrelated _ rfl _ rfl rfl

end HouseService

end Soufang
