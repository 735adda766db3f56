import Soufang.L3System.PageWindow

/-!
# One sort for all listings

`simpleQuery` takes its sort from `HouseSort.generateSort` and, by the
distance to the subway, drops the rows without a subway nearby. The searches
of the index take the key from `HouseSort.getSortKey`, read the direction
themselves, with `SortOrder.fromString`, and drop nothing.

* `ListingSort`: a key, a direction and the condition that goes with the key.
* `Governs`: all four queries list by one `ListingSort`.
* `sorts_alike_iff`: there is one exactly when the direction is asc or desc
  and the key is not the distance.
-/
namespace Soufang

open HouseService

/-- How a listing is sorted; `keep` is the condition on the distance. -/
structure ListingSort where
  key : SortKey
  direction : Direction
  keep : Int → Bool
  /-- by distance the houses without a subway nearby are left out -/
  leaves : if key = .distanceToSubway then keep (-1) = false else ∀ distance, keep distance = true

namespace ListingSort

variable (o : ListingSort)

/-- The answer of a search for the documents with `p`. -/
def searched (eng : Engine) (env : Env) (p : HouseIndexTemplate → Bool) (start : Nat) (size : Int) (es : Es) :
    ServiceMultiResult Long :=
  let found := (es.visible env).filter fun doc => p doc.source && o.keep doc.source.distanceToSubway
  ⟨found.length, (window start size.toNat ((eng.hits o.key o.direction).arrange found)).map
    fun doc => doc.source.houseId⟩

/-- The published houses of the city. -/
def published (rs : RentSearch) (db : Db) : List House :=
  db.house.rows.filter fun h => decide (h.status = HouseStatus.PASSES.value) &&
    decide (h.cityEnName = rs.cityEnName) && o.keep h.distanceToSubway

/-- The page of them that is asked for. -/
def page (eng : Engine) (rs : RentSearch) (db : Db) : List House :=
  window (rs.getStart / rs.getSize * rs.getSize) rs.getSize
    ((eng.rows o.key o.direction).arrange (o.published rs db))

/-- What the index accepts from any caller. -/
def InLimits (start : Nat) (size : Int) : Prop := 0 ≤ size ∧ (start : Int) + size ≤ SearchService.MAX_RESULT_WINDOW

/-- Asked for these parameters, the three searches and `simpleQuery` answer
with their matches sorted by `o`. An empty page of `simpleQuery` fails under
every sort. -/
structure Governs (orderBy orderDirection : Option String) : Prop where
  query : ∀ (eng : Engine) (env : Env) (es : Es) (rs : RentSearch), rs.orderBy = orderBy →
    rs.orderDirection = orderDirection → InLimits rs.getStart rs.getSize →
    SearchService.query eng env .ok rs es =
      .ok (o.searched eng env (SearchService.queryFilter eng rs) rs.getStart rs.getSize es)
  mapQuery : ∀ (eng : Engine) (env : Env) (es : Es) (city : String) (start : Nat) (size : Int),
    InLimits start size → SearchService.mapQuery eng env .ok city orderBy orderDirection start size es =
      .ok (o.searched eng env (fun t => t.cityEnName = city) start size es)
  mapBoundQuery : ∀ (eng : Engine) (env : Env) (es : Es) (m : MapSearch) (left top right bottom : Rat),
    m.orderBy = orderBy → m.orderDirection = orderDirection → m.leftLongitude = some left →
    m.leftLatitude = some top → m.rightLongitude = some right → m.rightLatitude = some bottom → bottom < top →
    left ≠ right → InLimits m.getStart m.getSize → SearchService.mapBoundQuery eng env .ok m es =
      .ok (o.searched eng env (fun t => decide (t.cityEnName = m.cityEnName) &&
        SearchService.inBox left top right bottom t) m.getStart m.getSize es)
  simpleQuery : ∀ (eng : Engine) (cdnPrefix : String) (rs : RentSearch) (db : Db), rs.orderBy = orderBy →
    rs.orderDirection = orderDirection → o.page eng rs db ≠ [] → ∃ dtos : List HouseDTO,
      simpleQuery eng cdnPrefix rs db = .ok ⟨(o.published rs db).length, dtos.map some⟩ ∧
        dtos.map HouseDTO.house = (o.page eng rs db).map (coverDTO cdnPrefix)

end ListingSort

theorem HouseSort.getSortKey_distance {orderBy : Option String} :
    getSortKey orderBy = .distanceToSubway ↔ orderBy = some DISTANCE_TO_SUBWAY_KEY := by
  unfold getSortKey DISTANCE_TO_SUBWAY_KEY
  split <;> simp_all

/-! ## The parameters both paths honour -/

section
variable {orderBy orderDirection : Option String} {d : Direction}

/-- The sort of a key that needs no condition. -/
def ListingSort.plain (orderBy : Option String) (d : Direction)
    (hk : orderBy ≠ some HouseSort.DISTANCE_TO_SUBWAY_KEY) : ListingSort where
  key := HouseSort.getSortKey orderBy
  direction := d
  keep _ := true
  leaves := by
    rw [if_neg fun h => hk (HouseSort.getSortKey_distance.mp h)]
    exact fun _ => rfl

theorem search_sorted (hd : orderDirection.bind directionOf = some d)
    (hk : orderBy ≠ some HouseSort.DISTANCE_TO_SUBWAY_KEY) (eng : Engine) (env : Env)
    (p : HouseIndexTemplate → Bool) {start : Nat} {size : Int} (hlim : ListingSort.InLimits start size) (es : Es) :
    SearchService.search eng env .ok p orderBy orderDirection start size es =
      .ok ((ListingSort.plain orderBy d hk).searched eng env p start size es) := by
  refine SearchService.search_ok_iff.mpr ⟨d, hd, hlim.1, hlim.2, Or.inr ⟨rfl, ?_⟩⟩
  simp only [ListingSort.searched, ListingSort.plain, Bool.and_true]

/-- Without the condition, `simpleFilter` is the filter of `published`. -/
theorem filter_simpleFilter {rs : RentSearch} (hk : orderBy ≠ some HouseSort.DISTANCE_TO_SUBWAY_KEY)
    (ho : rs.orderBy = orderBy) (db : Db) :
    db.house.rows.filter (simpleFilter rs) = (ListingSort.plain orderBy d hk).published rs db := by
  refine List.filter_congr fun h _ => ?_
  simp [simpleFilter, ListingSort.plain, ho, hk]

theorem plain_governs (hd : orderDirection.bind directionOf = some d)
    (hk : orderBy ≠ some HouseSort.DISTANCE_TO_SUBWAY_KEY) :
    (ListingSort.plain orderBy d hk).Governs orderBy orderDirection where
  query := by
    intro eng env es rs ho hdir hlim
    subst ho
    subst hdir
    exact search_sorted hd hk eng env _ hlim es
  mapQuery := by
    intro eng env es city start size hlim
    exact search_sorted hd hk eng env _ hlim es
  mapBoundQuery := by
    intro eng env es m left top right bottom ho hdir hl ht hr hb hhigh hwide hlim
    have hbox : ¬ (top ≤ bottom ∨ left = right) := not_or.mpr ⟨not_le.mpr hhigh, hwide⟩
    subst ho
    subst hdir
    unfold SearchService.mapBoundQuery
    simp only [hl, ht, hr, hb, if_neg hbox]
    exact search_sorted hd hk eng env _ hlim es
  simpleQuery := by
    intro eng cdnPrefix rs db ho hdir hne
    have hfound := filter_simpleFilter (d := d) hk ho db
    have hpage : simplePage eng rs db = (ListingSort.plain orderBy d hk).page eng rs db := by
      unfold simplePage ListingSort.page
      rw [hfound, HouseSort.generateSort, hdir, hd, ho]
      rfl
    rcases simpleQuery_answers eng cdnPrefix rs db with ⟨hnil, -⟩ | ⟨-, dtos, hq, hd'⟩
    · exact absurd (hpage ▸ hnil) hne
    · exact ⟨dtos, hfound ▸ hq, hpage ▸ hd'⟩

end

/-! ## The others -/

/-- House 1 of the sample, but far from any subway: published and indexed. -/
def Sample.remote : Sys :=
  let stored := { Sample.fresh with
    db := (save Sample.env.cdnPrefix .none 2 0 { Sample.form with distanceToSubway := -1 } Sample.fresh.db).1 }
  SearchService.createOrUpdateIndex Sample.env .success ⟨1, .index, 0⟩
    (updateStatus 1 HouseStatus.PASSES.value stored).1

theorem Sample.remote_house : Sample.remote.db.house.rows.length = 1 ∧
    ∀ house ∈ Sample.remote.db.house.rows, house.status = HouseStatus.PASSES.value ∧ house.cityEnName = "bj" ∧
      house.distanceToSubway = -1 := by
  decide +kernel

theorem Sample.remote_doc : (Sample.remote.es.visible Sample.env).length = 1 ∧
    ∀ doc ∈ Sample.remote.es.visible Sample.env, doc.source.cityEnName = "bj" ∧
      doc.source.distanceToSubway = -1 := by
  decide +kernel

namespace ListingSort

variable {o : ListingSort} {orderBy orderDirection : Option String}

/-- The searches answer, so they know the direction. -/
theorem Governs.direction (h : o.Governs orderBy orderDirection) :
    (orderDirection.bind directionOf).isSome := by
  have hq := h.mapQuery (.insertion fun _ _ => false) Sample.env Sample.fresh.es "bj" 0 0 ⟨by omega, by decide⟩
  obtain ⟨d, hd, -⟩ := SearchService.search_ok_iff.mp hq
  rw [hd]
  rfl

/-- `simpleQuery` does not show the remote house by distance. -/
theorem Governs.keep_rows (h : o.Governs (some HouseSort.DISTANCE_TO_SUBWAY_KEY) orderDirection) :
    o.keep (-1) = false := by
  let eng : Engine := .insertion fun _ _ => false
  let rs : RentSearch := ⟨"bj", none, none, none, none, -1, some HouseSort.DISTANCE_TO_SUBWAY_KEY, orderDirection, 0, 5⟩
  by_contra hne
  have hkeep : o.keep (-1) = true := by simpa using hne
  have hall : o.published rs Sample.remote.db = Sample.remote.db.house.rows := by
    refine List.filter_eq_self.mpr fun house hh => ?_
    obtain ⟨hstatus, hcity, hfar⟩ := Sample.remote_house.2 house hh
    simp [hstatus, hcity, hfar, hkeep, rs]
  have hpage : o.page eng rs Sample.remote.db ≠ [] := by
    rw [page, ne_eq, window_eq_nil rs.getSize_pos, Arrangement.length_arrange, hall, Sample.remote_house.1, not_le]
    show 0 / 5 * 5 < 1
    decide
  obtain ⟨dtos, hq, hd⟩ := h.simpleQuery eng "cdn/" rs Sample.remote.db rfl rfl hpage
  have hnone : simplePage eng rs Sample.remote.db = [] := by
    refine List.eq_nil_iff_forall_not_mem.mpr fun house hh => ?_
    obtain ⟨hh, hf⟩ := mem_simplePage hh
    simp [simpleFilter, rs, (Sample.remote_house.2 house hh).2.2] at hf
  rcases simpleQuery_answers eng "cdn/" rs Sample.remote.db with ⟨-, herr⟩ | ⟨hsome, -⟩
  · rw [herr] at hq
    cases hq
  · exact hsome hnone

/-- The index shows it under every key. -/
theorem Governs.keep_docs (h : o.Governs orderBy orderDirection) : o.keep (-1) = true := by
  have hq := h.mapQuery (.insertion fun _ _ => false) Sample.env Sample.remote.es "bj" 0 5 ⟨by omega, by decide⟩
  by_contra hne
  have hkeep : o.keep (-1) = false := by simpa using hne
  obtain ⟨d, -, -, -, ⟨hans, -⟩ | ⟨-, hr⟩⟩ := SearchService.search_ok_iff.mp hq
  · cases hans
  · have htotal := congrArg ServiceMultiResult.total hr
    have hall : ((Sample.remote.es.visible Sample.env).filter fun doc => doc.source.cityEnName = "bj") =
        Sample.remote.es.visible Sample.env :=
      List.filter_eq_self.mpr fun doc hd => by simp [(Sample.remote_doc.2 doc hd).1]
    have hnone : ((Sample.remote.es.visible Sample.env).filter fun doc =>
        decide (doc.source.cityEnName = "bj") && o.keep doc.source.distanceToSubway) = [] :=
      List.filter_eq_nil_iff.mpr fun doc hd => by simp [(Sample.remote_doc.2 doc hd).2, hkeep]
    simp only [searched, hall, hnone, Sample.remote_doc.1, List.length_nil] at htotal
    omega

end ListingSort

/-- The four queries sort alike. -/
def SortsAlike (orderBy orderDirection : Option String) : Prop :=
  ∃ o : ListingSort, o.Governs orderBy orderDirection

/-- **One sort.** All four queries sort by one key in one direction, and by
distance leave out the houses without a subway nearby, exactly when the
direction is asc or desc and the key is not the distance. -/
theorem sorts_alike_iff (orderBy orderDirection : Option String) :
    SortsAlike orderBy orderDirection ↔ (orderDirection.bind directionOf).isSome ∧
      orderBy ≠ some HouseSort.DISTANCE_TO_SUBWAY_KEY := by
  constructor
  · intro h
    obtain ⟨o, ho⟩ := h
    refine ⟨ho.direction, fun hk => ?_⟩
    subst hk
    have hdocs := ho.keep_docs
    rw [ho.keep_rows] at hdocs
    cases hdocs
  · intro h
    obtain ⟨d, hd⟩ := Option.isSome_iff_exists.mp h.1
    exact ⟨_, plain_governs hd h.2⟩

/-- **An empty direction.** `simpleQuery` sorts it as DESC, the searches throw. -/
theorem empty_direction : ¬ ∀ orderBy orderDirection, SortsAlike orderBy orderDirection := by
  intro hall
  obtain ⟨o, ho⟩ := hall (some "price") (some "")
  have hdir := ho.direction
  revert hdir
  decide +kernel

end Soufang
