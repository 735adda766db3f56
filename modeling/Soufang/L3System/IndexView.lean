import Soufang.Core.View
import Soufang.L2Service.MapAggregate
import Soufang.L2Service.QuerySpec
import Soufang.L3System.Freshness

/-!
# The index as a view of the published houses

Three pages count and list the published houses of a city: the map page counts
them by region in the index, the list of the map page loads the hits of the
index, and the house list without keywords reads the rows. In the runs of
`Freshness` with nothing left in the queue the index is a view of the
published rows (`index_view`), so

* `counts_agree`: all pages and all searches count the same houses;
* `pages_agree`: the map list shows, page by page, what the house list shows,
  up to the order of houses with equal sort values.
-/
namespace Soufang

open HouseService SearchService

/-- The houses the public pages are about. -/
def published (db : Db) : List House := db.house.rows.filter fun h => h.status = HouseStatus.PASSES.value

def publishedIn (db : Db) (city : String) : List House := (published db).filter fun h => h.cityEnName = city

/-- The document is the one `createOrUpdateIndex` writes for the house now. -/
def Copies (env : Env) (db : Db) (house : House) (d : EsDoc) : Prop :=
  some d.source = currentTemplate env db house.id

abbrev IndexView (env : Env) (s : Sys) : Prop :=
  View House.id (fun d : EsDoc => d.source.houseId) (Copies env s.db) (published s.db) s.es.docs.rows

theorem mem_published {db : Db} {house : House} :
    house ∈ published db ↔ house ∈ db.house.rows ∧ house.status = HouseStatus.PASSES.value := by
  simp [published]

theorem mem_publishedIn {db : Db} {city : String} {house : House} :
    house ∈ publishedIn db city ↔ house ∈ published db ∧ house.cityEnName = city := by
  simp [publishedIn]

theorem find?_mem {db : Db} {house : House} (h : house ∈ db.house.rows) : db.house.find? house.id = some house :=
  Table.find?_eq_some.mpr ⟨h, rfl⟩

/-- With nothing pending the index holds one current document for each
published house and no other. -/
theorem Fresh.view {env : Env} {s : Sys} (ho : Orderly s) (hf : Fresh env s) (hq : s.queue = []) :
    IndexView env s where
  rowKeys := s.db.house.keys.sublist (List.filter_sublist.map House.id)
  copyKeys := nodup_of_unique_filter ho.single
  copied := by
    intro house hh
    obtain ⟨hmem, hst⟩ := mem_published.mp hh
    have hp : s.db.statusOf house.id = some HouseStatus.PASSES.value := by
      rw [statusOf_find (find?_mem hmem), hst]
    obtain ⟨d, hd, hsrc⟩ := hf house.id hp (messagesOf_nil_of_queue hq _)
    have hdoc : d ∈ s.es.docsOf house.id := by rw [hd]; exact List.mem_singleton_self d
    obtain ⟨hrow, hid⟩ := Es.mem_docsOf.mp hdoc
    exact ⟨d, hrow, hid, hsrc⟩
  sourced := by
    intro d hd
    have hdocs : s.es.docsOf d.source.houseId ≠ [] := List.ne_nil_of_mem (Es.mem_docsOf.mpr ⟨hd, rfl⟩)
    have hp := (ho.idle (messagesOf_nil_of_queue hq _)).mp hdocs
    obtain ⟨house, hfind, hst⟩ := Option.map_eq_some_iff.mp hp
    obtain ⟨hmem, hid⟩ := Table.find?_some hfind
    exact ⟨house, mem_published.mpr ⟨hmem, hst⟩, hid⟩

theorem index_view {env : Env} (hn : env.nrt = false) {subway : List Subway} {station : List SubwayStation}
    {address : List SupportAddress} {s : Sys}
    (hr : ((editing env subway station address).restrict Reindexed).Reachable s) (hq : s.queue = []) :
    IndexView env s := by
  obtain ⟨ho, hf⟩ := (fresh_inductive hn subway station address).reachable hr
  exact hf.view ho hq

/-! ## What a document copies from the row -/

/-- The columns the searches filter, count and sort by. -/
structure SameColumns (house : House) (t : HouseIndexTemplate) : Prop where
  houseId : t.houseId = house.id
  city : t.cityEnName = house.cityEnName
  region : t.regionEnName = house.regionEnName
  district : t.district = house.district
  sorts : ∀ k : SortKey, ∀ esId, k.ofDoc ⟨esId, t⟩ = k.ofHouse house

theorem Copies.columns {env : Env} {db : Db} {house : House} (hh : house ∈ db.house.rows) {d : EsDoc}
    (h : Copies env db house d) : SameColumns house d.source := by
  unfold Copies currentTemplate at h
  rw [find?_mem hh] at h
  cases hd : db.findDetailByHouseId house.id with
  | none => simp [hd] at h
  | some detail =>
    cases ha : addressOf db house with
    | none => simp [hd, ha] at h
    | some address =>
      simp only [hd, ha, Option.some.injEq] at h
      rw [h]
      refine ⟨(findDetail_some hd).2, rfl, rfl, rfl, ?_⟩
      intro k esId
      cases k <;> rfl

section
variable {env : Env} {s : Sys}

theorem columns_published {house : House} (hh : house ∈ published s.db) {d : EsDoc}
    (hc : Copies env s.db house d) : SameColumns house d.source := hc.columns (mem_published.mp hh).1

theorem visible_now (hn : env.nrt = false) (es : Es) : es.visible env = es.docs.rows := by
  simp [Es.visible, hn]

/-- The number of documents with `q` is that of the published houses whose
current template has it. -/
theorem IndexView.count (hv : IndexView env s) (q : HouseIndexTemplate → Bool) :
    (s.es.docs.rows.filter fun d => q d.source).length =
      ((published s.db).filter fun h => (currentTemplate env s.db h.id).any q).length := by
  refine View.count_eq hv fun house _ d _ hc => ?_
  have hc : some d.source = currentTemplate env s.db house.id := hc
  rw [← hc, Option.any_some]

/-- The same for a condition on the copied columns. -/
theorem IndexView.count_columns (hv : IndexView env s) {q : HouseIndexTemplate → Bool} {p : House → Bool}
    (hpq : ∀ house t, SameColumns house t → q t = p house) :
    (s.es.docs.rows.filter fun d => q d.source).length = ((published s.db).filter p).length :=
  View.count_eq hv fun _ hh _ _ hc => hpq _ _ (columns_published hh hc)

theorem IndexView.cityHits_view (hn : env.nrt = false) (hv : IndexView env s) (city : String) :
    View House.id (fun d : EsDoc => d.source.houseId) (Copies env s.db) (publishedIn s.db city)
      (cityHits env city s.es) := by
  rw [cityHits, visible_now hn]
  refine View.filter hv fun house hh d _ hc => ?_
  rw [(columns_published hh hc).city]

theorem IndexView.regionsOf_perm (hn : env.nrt = false) (hv : IndexView env s) (city : String) :
    (regionsOf env city s.es).Perm ((publishedIn s.db city).map House.regionEnName) :=
  (hv.cityHits_view hn city).map_perm fun _ hh _ _ hc =>
    (columns_published (mem_publishedIn.mp hh).1 hc).region

/-- In the city the sort values of the documents are those of the rows. -/
theorem IndexView.sorts_perm (hn : env.nrt = false) (hv : IndexView env s) (city : String) (k : SortKey) :
    ((cityHits env city s.es).map fun d => (k.ofDoc d, d.source.houseId)).Perm
      ((publishedIn s.db city).map fun h => (k.ofHouse h, h.id)) := by
  refine (hv.cityHits_view hn city).map_perm fun house hh d _ hc => ?_
  have hcol := columns_published (mem_publishedIn.mp hh).1 hc
  rw [hcol.sorts k d.esId, hcol.houseId]

end

namespace Sample

def pageEngine : Engine := .insertion fun _ _ => true

def listPage : RentSearch where
  cityEnName := "bj"
  regionEnName := none
  priceBlock := none
  areaBlock := none
  keywords := none
  rentWay := -1
  orderBy := some "price"
  orderDirection := some "asc"
  start := 0
  size := 5

def mapPage : MapSearch where
  cityEnName := "bj"
  orderBy := some "price"
  orderDirection := some "asc"
  leftLongitude := none
  leftLatitude := none
  rightLongitude := none
  rightLatitude := none
  start := 0
  size := 5

/-- Two houses of the city, published and indexed. -/
theorem two_published : ∃ s : Sys,
    ((editing env fresh.db.subway fresh.db.subwayStation fresh.db.supportAddress).restrict Reindexed).Reachable s ∧
      s.queue = [] ∧ (publishedIn s.db "bj").length = 2 ∧
        ((publishedIn s.db "bj").map (HouseSort.getSortKey listPage.orderBy).ofHouse).Nodup := by
  obtain ⟨s, hr, h⟩ := LTS.exists_reachable
    (fun s => s = .fresh fresh.db.subway fresh.db.subwayStation fresh.db.supportAddress)
    (step env) (fun s l => Editing s l ∧ Reindexed s l)
    (fun s => s.queue = [] ∧ (publishedIn s.db "bj").length = 2 ∧
      ((publishedIn s.db "bj").map (HouseSort.getSortKey listPage.orderBy).ofHouse).Nodup)
    rfl
    [.save .none 2 0 form, .save .none 3 5 { form with price := 6000 }, .updateStatus 1 1, .updateStatus 2 1,
      .handle .success, .handle .success]
    (by decide +kernel)
  exact ⟨s, hr.restrict_restrict, h⟩

end Sample

/-! ## Counting -/

theorem simpleFilter_published {rs : RentSearch} (hne : rs.orderBy ≠ some HouseSort.DISTANCE_TO_SUBWAY_KEY) (db : Db) :
    db.house.rows.filter (simpleFilter rs) = publishedIn db rs.cityEnName := by
  simp only [publishedIn, published, List.filter_filter]
  congr 1
  funext house
  simp [simpleFilter, hne, Bool.and_comm]

/-- **Every page counts the same houses.** With nothing left in the queue the
totals of the map page, of the map list and of both searches of the house list
are numbers of published houses, and so is the number of rentals in a
district; the number drawn at a region is right if the city has at most ten
regions with houses and the script finds no inherited property of its name. -/
theorem counts_agree (eng : Engine) (order : Buckets.Order String) (env : Env) (hn : env.nrt = false)
    (subway : List Subway) (station : List SubwayStation) (address : List SupportAddress) (s : Sys)
    (hr : ((editing env subway station address).restrict Reindexed).Reachable s) (hq : s.queue = [])
    (city : String) :
    (∀ r, mapAggregate order env .ok city s.es = .ok r → r.total = (publishedIn s.db city).length ∧
      (((publishedIn s.db city).map House.regionEnName).dedup.length ≤ 10 → ∀ region ∉ OBJECT_PROTOTYPE,
        houseCount r.result region =
          .number (toDouble (((publishedIn s.db city).map House.regionEnName).count region)))) ∧
    (∀ region district, aggregateDistrictHouse order env .ok city region district s.es =
      .ok ((publishedIn s.db city).filter fun h => h.regionEnName = region ∧ h.district = district).length) ∧
    (∀ (m : MapSearch) r, m.cityEnName = city → wholeMapQuery eng env .ok m s.db s.es = .ok r →
      r.total = (publishedIn s.db city).length) ∧
    (∀ (rs : RentSearch) r, rs.cityEnName = city → rs.keywords.getD "" = "" →
      rs.orderBy ≠ some HouseSort.DISTANCE_TO_SUBWAY_KEY → HouseService.query eng env .ok rs s.db s.es = .ok r →
      r.total = (publishedIn s.db city).length) ∧
    (∀ (rs : RentSearch) r, rs.keywords.getD "" ≠ "" → HouseService.query eng env .ok rs s.db s.es = .ok r →
      r.total = ((published s.db).filter fun h =>
        (currentTemplate env s.db h.id).any (queryFilter eng rs)).length) := by
  have hv := index_view hn hr hq
  have hcity : (cityHits env city s.es).length = (publishedIn s.db city).length :=
    (hv.cityHits_view hn city).length_eq
  refine ⟨?_, ?_, ?_, ?_, ?_⟩
  · intro r h
    have hperm := hv.regionsOf_perm hn city
    have htotal : r.total = (cityHits env city s.es).length := by
      cases h
      rfl
    refine ⟨htotal.trans hcity, fun hfew region hregion => ?_⟩
    have hfew : (regionsOf env city s.es).dedup.length ≤ 10 := by
      rwa [hperm.dedup.length_eq]
    rw [houseCount_of_few h hfew hregion, ← count_regionsOf, hperm.count_eq]
  · intro region district
    rw [aggregateDistrictHouse_eq, districtHits, visible_now hn]
    congr 1
    rw [publishedIn, List.filter_filter]
    refine hv.count_columns (q := fun t => decide (t.cityEnName = city) && decide (t.regionEnName = region) &&
      decide (t.district = district)) fun house t hc => ?_
    rw [hc.city, hc.region, hc.district]
    simp only [Bool.decide_and, Bool.and_assoc, Bool.and_comm]
  · intro m r hm h
    subst hm
    obtain ⟨ids, hids, htotal, -⟩ := loaded_ok h
    rw [htotal, search_total hids]
    exact hcity
  · intro rs r hrs hk hne h
    subst hrs
    rw [HouseService.query, if_neg (not_not_intro hk)] at h
    obtain ⟨dtos, -, rfl⟩ := simpleQuery_ok h
    rw [simpleFilter_published hne]
  · intro rs r hk h
    rw [HouseService.query, if_pos hk] at h
    obtain ⟨ids, hids, htotal, -⟩ := loaded_ok h
    rw [htotal, search_total hids, visible_now hn]
    exact hv.count (queryFilter eng rs)

/-- The map page counts two houses, and so does the page of one of them. -/
theorem counts_agree_sample : ∃ s : Sys, s.queue = [] ∧
    (∀ r, mapAggregate Sample.bucketOrder Sample.env .ok "bj" s.es = .ok r → r.total = 2) ∧
    aggregateDistrictHouse Sample.bucketOrder Sample.env .ok "bj" "hdq" "融泽嘉园" s.es =
      .ok ((publishedIn s.db "bj").filter fun h => h.regionEnName = "hdq" ∧ h.district = "融泽嘉园").length := by
  obtain ⟨s, hr, hq, hlen, -⟩ := Sample.two_published
  obtain ⟨hmap, hdistrict, -⟩ :=
    counts_agree Sample.pageEngine Sample.bucketOrder Sample.env rfl _ _ _ s hr hq "bj"
  exact ⟨s, hq, fun r h => (hmap r h).1.trans hlen, hdistrict "hdq" "融泽嘉园"⟩

/-! ## Listing -/

section
variable {eng : Engine} {cdnPrefix : String} {db : Db}

/-- The entry of a house on a list of the houses `ids`. -/
def entryOf (eng : Engine) (cdnPrefix : String) (ids : List Long) (db : Db) (h : House) : HouseDTO :=
  ⟨coverDTO cdnPrefix h, db.findDetailByHouseId h.id,
    ((eng.tags.arrange (db.tag.rows.filter fun t => t.houseId ∈ ids)).filter fun t => t.houseId = h.id).map
      HouseTag.name, []⟩

/-- The answer that shows the given rows. -/
def shown (eng : Engine) (cdnPrefix : String) (db : Db) (total : Nat) (houses : List House) :
    Except Exn (ServiceMultiResult (Option HouseDTO)) :=
  if houses = [] then .error .badSqlGrammar
  else .ok ⟨total, houses.map fun h => some (entryOf eng cdnPrefix (houses.map House.id) db h)⟩

theorem wrapperHouseList_known {ids : List Long} {houses : List House} (hne : ids ≠ [])
    (hknown : ∀ i ∈ ids, ∃ house ∈ houses, house.id = i) :
    wrapperHouseList eng cdnPrefix ids houses db = .ok (houses.map (entryOf eng cdnPrefix ids db)) := by
  have hany : ∀ i ∈ ids, (houses.any fun house => house.id = i) = true := by
    intro i hi
    obtain ⟨house, hh, hid⟩ := hknown i hi
    exact List.any_eq_true.mpr ⟨house, hh, by simp [hid]⟩
  unfold wrapperHouseList
  simp only [if_neg hne]
  rw [if_neg]
  · rfl
  · simp only [Bool.or_eq_true, List.any_eq_true, not_or, not_exists, not_and]
    refine ⟨fun d hd => ?_, fun t ht => ?_⟩
    · have hi := (List.mem_filter.mp hd).2
      simp [hany d.houseId (by simpa using hi)]
    · have hi := (List.mem_filter.mp ((Arrangement.mem_arrange ..).mp ht)).2
      simp [hany t.houseId (by simpa using hi)]

/-- A page of rows read by `simpleQuery`. -/
theorem wrapperHouseList_shown {houses : List House} (hne : houses ≠ []) :
    wrapperHouseList eng cdnPrefix (houses.map House.id) houses db =
      .ok (houses.map (entryOf eng cdnPrefix (houses.map House.id) db)) := by
  refine wrapperHouseList_known (by simpa using hne) fun i hi => ?_
  obtain ⟨house, hh, hid⟩ := List.mem_map.mp hi
  exact ⟨house, hh, hid⟩

/-- Loading the rows of a page by their ids gives the same entries, in the
order of the ids. -/
theorem loaded_shown {total : Nat} (htotal : total ≠ 0) {houses : List House}
    (hrows : ∀ house ∈ houses, house ∈ db.house.rows) :
    loaded eng cdnPrefix db (.ok ⟨total, houses.map House.id⟩) = shown eng cdnPrefix db total houses := by
  unfold loaded shown wrapperHouseResult
  simp only [if_neg htotal]
  by_cases hne : houses = []
  · subst hne
    simp [wrapperHouseList]
  · rw [wrapperHouseList_known, if_neg hne]
    · simp only [Except.ok.injEq, ServiceMultiResult.mk.injEq, true_and, List.map_map]
      refine List.map_congr_left fun house hh => ?_
      -- ids are unique, so the entry found for an id is that of its row
      rw [Function.comp_apply, List.find?_map]
      have hfind : (db.house.rows.filter fun h => h.id ∈ houses.map House.id).find? (fun h => h.id = house.id) =
          some house := by
        refine (find?_eq_some_of_unique fun a ha b hb hia hib => ?_).mpr ⟨?_, rfl⟩
        · exact Table.id_inj (List.mem_of_mem_filter ha) (List.mem_of_mem_filter hb) (hia.trans hib.symm)
        · exact List.mem_filter.mpr ⟨hrows house hh, by simpa using ⟨house, hh, rfl⟩⟩
      have hcover : ((fun dto : HouseDTO => decide (dto.house.id = house.id)) ∘
          entryOf eng cdnPrefix (houses.map House.id) db) = fun h => decide (h.id = house.id) := rfl
      rw [hcover, hfind, Option.map_some]
    · simpa using hne
    · intro i hi
      obtain ⟨house, hh, rfl⟩ := List.mem_map.mp hi
      exact ⟨house, List.mem_filter.mpr ⟨hrows house hh, by simpa using ⟨house, hh, rfl⟩⟩, rfl⟩

end

/-- A request of the map list and one of the house list, without keywords, for
the same page of a city. -/
structure SamePage (m : MapSearch) (rs : RentSearch) (d : Direction) : Prop where
  city : m.cityEnName = rs.cityEnName
  orderBy : m.orderBy = rs.orderBy
  direction : m.orderDirection = rs.orderDirection
  start : m.start = rs.start
  size : m.size = rs.size
  noKeywords : rs.keywords.getD "" = ""
  notByDistance : rs.orderBy ≠ some HouseSort.DISTANCE_TO_SUBWAY_KEY
  directed : rs.orderDirection.bind directionOf = some d
  sized : 1 ≤ rs.size ∧ rs.size ≤ 100
  /-- the house list starts at a page -/
  aligned : rs.getSize ∣ rs.getStart
  inWindow : (rs.getStart : Int) + rs.size ≤ MAX_RESULT_WINDOW

section
variable {eng : Engine} {env : Env} {s : Sys} {m : MapSearch} {rs : RentSearch} {d : Direction}

theorem Direction.le_antisymm (d : Direction) (a b : Int) (h : d.le a b) (h' : d.le b a) : a = b := by
  cases d <;> simp only [Direction.le] at h h' <;> omega

theorem SamePage.getSize (hp : SamePage m rs d) : m.getSize = rs.size ∧ (rs.getSize : Int) = rs.size := by
  obtain ⟨h1, h100⟩ := hp.sized
  constructor
  · rw [MapSearch.getSize, hp.size, if_neg (by omega)]
  · rw [RentSearch.getSize, if_neg (by omega), if_neg (by omega)]
    omega

/-- The documents on the page. -/
def mapPage (eng : Engine) (env : Env) (rs : RentSearch) (d : Direction) (es : Es) : List EsDoc :=
  window rs.getStart rs.getSize
    ((eng.hits (HouseSort.getSortKey rs.orderBy) d).arrange (cityHits env rs.cityEnName es))

theorem mem_mapPage {doc : EsDoc} {es : Es} (h : doc ∈ mapPage eng env rs d es) :
    doc ∈ cityHits env rs.cityEnName es := (Arrangement.mem_arrange ..).mp (mem_of_mem_window h)

theorem mapQuery_page (hp : SamePage m rs d) (es : Es) :
    SearchService.mapQuery eng env .ok m.cityEnName m.orderBy m.orderDirection m.getStart m.getSize es =
      .ok ⟨(cityHits env rs.cityEnName es).length, (mapPage eng env rs d es).map fun doc => doc.source.houseId⟩ := by
  obtain ⟨hsize, hsize'⟩ := hp.getSize
  have hstart : m.getStart = rs.getStart := by rw [MapSearch.getStart, hp.start, RentSearch.getStart]
  refine search_ok_iff.mpr ⟨d, by rw [hp.direction]; exact hp.directed, ?_, ?_, Or.inr ⟨rfl, ?_⟩⟩
  · have := hp.sized
    omega
  · rw [hsize, hstart]
    exact hp.inWindow
  · have hnat : m.getSize.toNat = rs.getSize := by omega
    rw [hnat, hstart, hp.orderBy, hp.city]
    rfl

theorem simplePage_eq (hp : SamePage m rs d) (db : Db) :
    simplePage eng rs db = window rs.getStart rs.getSize
      ((eng.rows (HouseSort.getSortKey rs.orderBy) d).arrange (publishedIn db rs.cityEnName)) := by
  have hsort : HouseSort.generateSort rs.orderBy rs.orderDirection = (HouseSort.getSortKey rs.orderBy, d) := by
    simp [HouseSort.generateSort, hp.directed]
  rw [simplePage, simpleFilter_published hp.notByDistance, Nat.div_mul_cancel hp.aligned, hsort]

theorem simpleQuery_shown (hp : SamePage m rs d) (cdnPrefix : String) (db : Db) :
    simpleQuery eng cdnPrefix rs db =
      shown eng cdnPrefix db (publishedIn db rs.cityEnName).length (simplePage eng rs db) := by
  unfold simpleQuery shown
  dsimp only
  rw [← simpleFilter_published hp.notByDistance]
  by_cases hne : simplePage eng rs db = []
  · rw [if_pos hne]
    rw [simplePage] at hne
    rw [hne]
    simp [wrapperHouseList]
  · rw [if_neg hne, ← simplePage, wrapperHouseList_shown hne]
    simp

theorem mem_rows_of_publishedIn {db : Db} {city : String} {house : House} (h : house ∈ publishedIn db city) :
    house ∈ db.house.rows := (mem_published.mp (mem_publishedIn.mp h).1).1

theorem rows_eq_of_ids {db : Db} {l l' : List House} (hl : ∀ h ∈ l, h ∈ db.house.rows)
    (hl' : ∀ h ∈ l', h ∈ db.house.rows) (he : l.map House.id = l'.map House.id) : l = l' := by
  have hfind : ∀ k : List House, (∀ h ∈ k, h ∈ db.house.rows) → (k.map House.id).map db.house.find? = k.map some := by
    intro k hk
    rw [List.map_map]
    exact List.map_congr_left fun h hh => find?_mem (hk h hh)
  have hmap := congrArg (List.map db.house.find?) he
  rw [hfind l hl, hfind l' hl'] at hmap
  exact List.map_injective_iff.mpr (Option.some_injective House) hmap

variable (eng) in
/-- The map list shows rows of published houses, those of its documents. -/
theorem wholeMapQuery_shown (hn : env.nrt = false) (hv : IndexView env s) (hp : SamePage m rs d)
    (hne : publishedIn s.db rs.cityEnName ≠ []) :
    ∃ houses, (∀ h ∈ houses, h ∈ publishedIn s.db rs.cityEnName) ∧
      List.Forall₂ (Copies env s.db) houses (mapPage eng env rs d s.es) ∧
      wholeMapQuery eng env .ok m s.db s.es =
        shown eng env.cdnPrefix s.db (publishedIn s.db rs.cityEnName).length houses := by
  have hview := hv.cityHits_view hn rs.cityEnName
  have hpage : ∀ doc ∈ mapPage eng env rs d s.es, doc ∈ cityHits env rs.cityEnName s.es := fun _ h => mem_mapPage h
  obtain ⟨houses, hmem, hall⟩ := hview.rowsOf hpage
  refine ⟨houses, hmem, hall, ?_⟩
  have hids : (mapPage eng env rs d s.es).map (fun doc => doc.source.houseId) = houses.map House.id := by
    refine View.map_rowsOf (fun h hh doc hc => ?_) hmem hall
    exact (columns_published (mem_publishedIn.mp hh).1 hc).houseId
  rw [wholeMapQuery, mapQuery_page hp, hids, hview.length_eq]
  apply loaded_shown
  · rwa [ne_eq, List.length_eq_zero_iff]
  · intro house hh
    exact mem_rows_of_publishedIn (hmem house hh)

end

theorem Sample.samePage : SamePage Sample.mapPage Sample.listPage .ASC where
  city := rfl
  orderBy := rfl
  direction := rfl
  start := rfl
  size := rfl
  noKeywords := rfl
  notByDistance := by decide
  directed := by decide +kernel
  sized := by decide
  aligned := by decide
  inWindow := by decide

/-- **The map list shows what the house list shows.** Asked for the same page
of a city that has houses, both answer with rows of its published houses that
have the same sort values, in the same sequence; without ties in the city the
answers are the same. -/
theorem pages_agree (eng : Engine) (env : Env) (hn : env.nrt = false) (subway : List Subway)
    (station : List SubwayStation) (address : List SupportAddress) (s : Sys)
    (hr : ((editing env subway station address).restrict Reindexed).Reachable s) (hq : s.queue = [])
    (m : MapSearch) (rs : RentSearch) (d : Direction) (hp : SamePage m rs d)
    (hne : publishedIn s.db rs.cityEnName ≠ []) :
    ∃ onMap onList,
      (∀ h ∈ onMap, h ∈ publishedIn s.db rs.cityEnName) ∧ (∀ h ∈ onList, h ∈ publishedIn s.db rs.cityEnName) ∧
      wholeMapQuery eng env .ok m s.db s.es =
        shown eng env.cdnPrefix s.db (publishedIn s.db rs.cityEnName).length onMap ∧
      HouseService.query eng env .ok rs s.db s.es =
        shown eng env.cdnPrefix s.db (publishedIn s.db rs.cityEnName).length onList ∧
      onMap.map (HouseSort.getSortKey rs.orderBy).ofHouse = onList.map (HouseSort.getSortKey rs.orderBy).ofHouse ∧
      (((publishedIn s.db rs.cityEnName).map (HouseSort.getSortKey rs.orderBy).ofHouse).Nodup → onMap = onList) := by
  have hv := index_view hn hr hq
  have hperm := hv.sorts_perm hn rs.cityEnName (HouseSort.getSortKey rs.orderBy)
  obtain ⟨onMap, hmem, hall, hmap⟩ := wholeMapQuery_shown eng hn hv hp hne
  have hlist : ∀ h ∈ simplePage eng rs s.db, h ∈ publishedIn s.db rs.cityEnName := by
    intro h hh
    rw [simplePage_eq hp] at hh
    exact (Arrangement.mem_arrange ..).mp (mem_of_mem_window hh)
  have hcol : ∀ h ∈ publishedIn s.db rs.cityEnName, ∀ doc, Copies env s.db h doc → SameColumns h doc.source :=
    fun h hh _ hc => columns_published (mem_publishedIn.mp hh).1 hc
  refine ⟨onMap, simplePage eng rs s.db, hmem, hlist, hmap, ?_, ?_, ?_⟩
  · rw [HouseService.query, if_neg (not_not_intro hp.noKeywords), simpleQuery_shown hp]
  · have hsorted := sorted_values_eq d.le_antisymm (eng.hits (HouseSort.getSortKey rs.orderBy) d)
      (eng.rows (HouseSort.getSortKey rs.orderBy) d) (by simpa [Function.comp_def] using hperm.map Prod.fst)
    have hdocs := View.map_rowsOf (g := (HouseSort.getSortKey rs.orderBy).ofDoc)
      (fun h hh doc hc => (hcol h hh doc hc).sorts _ doc.esId) hmem hall
    rw [← hdocs, simplePage_eq hp, mapPage, window_map, window_map, hsorted]
  · intro hnodup
    have hnodup : ((cityHits env rs.cityEnName s.es).map (HouseSort.getSortKey rs.orderBy).ofDoc).Nodup := by
      have hfst := hperm.map Prod.fst
      simp only [List.map_map, Function.comp_def] at hfst
      exact hfst.nodup_iff.mpr hnodup
    have hsorted := sorted_columns_eq d.le_antisymm (eng.hits (HouseSort.getSortKey rs.orderBy) d)
      (eng.rows (HouseSort.getSortKey rs.orderBy) d) hperm hnodup
    have hids := View.map_rowsOf (g := fun doc : EsDoc => doc.source.houseId)
      (fun h hh doc hc => (hcol h hh doc hc).houseId) hmem hall
    have hpage : onMap.map House.id = (simplePage eng rs s.db).map House.id := by
      rw [← hids, simplePage_eq hp, mapPage, window_map, window_map, hsorted]
    exact rows_eq_of_ids (fun h hh => mem_rows_of_publishedIn (hmem h hh))
      (fun h hh => mem_rows_of_publishedIn (hlist h hh)) hpage

/-- Two published houses, of different prices. -/
theorem pages_agree_sample : ∃ s : Sys, (publishedIn s.db "bj").length = 2 ∧
    wholeMapQuery Sample.pageEngine Sample.env .ok Sample.mapPage s.db s.es =
      HouseService.query Sample.pageEngine Sample.env .ok Sample.listPage s.db s.es := by
  obtain ⟨s, hr, hq, hlen, hnodup⟩ := Sample.two_published
  have hne : publishedIn s.db "bj" ≠ [] := by
    intro h
    rw [h] at hlen
    cases hlen
  obtain ⟨onMap, onList, -, -, hmap, hlist, -, hsame⟩ := pages_agree Sample.pageEngine Sample.env rfl _ _ _ s hr hq
    Sample.mapPage Sample.listPage .ASC Sample.samePage hne
  exact ⟨s, hlen, by rw [hmap, hlist, hsame hnodup]⟩

end Soufang
