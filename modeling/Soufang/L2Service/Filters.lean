import Soufang.L2Service.HandlerSpec
import Soufang.L2Service.HouseSpec
import Soufang.L2Service.QuerySpec

/-!
# The filters of a search form

`HouseService.query` reads the index when there are keywords and the rows
themselves when there are none. `Satisfies` is what the form asks of a house,
`Honours` that a form gets only such houses and that all of them are counted.

With an index in sync (`IndexInSync`) the first path honours every form
(`honours_keywords`). The second knows the city only and leaves out houses
without a distance when it sorts by the distance: `filters_iff` says for which
forms that is enough.
-/
namespace Soufang

open HouseService SearchService

/-! ## What a form asks for -/

/-- Within the bounds of a block; -1 is no bound. -/
def RentValueBlock.Within (b : RentValueBlock) (v : Int) : Prop :=
  (b.min ≠ -1 → b.min ≤ v) ∧ (b.max ≠ -1 → v ≤ b.max)

instance (b : RentValueBlock) (v : Int) : Decidable (b.Within v) := by
  unfold RentValueBlock.Within; infer_instance

/-- A bound of a block is missing or positive; only ALL misses both. -/
structure RentValueBlock.Proper (b : RentValueBlock) : Prop where
  min : b.min = -1 ∨ 0 < b.min
  max : b.max = -1 ∨ 0 < b.max
  all : b.min = -1 → b.max = -1 → b = .ALL

theorem RentValueBlock.matchPrice_proper (key : Option String) : (matchPrice key).Proper := by
  unfold matchPrice
  split <;> exact ⟨by decide, by decide, by decide⟩

theorem RentValueBlock.matchArea_proper (key : Option String) : (matchArea key).Proper := by
  unfold matchArea
  split <;> exact ⟨by decide, by decide, by decide⟩

/-- The range of the index query is the one of the block. -/
theorem SearchService.inBlock_iff {b : RentValueBlock} (hb : b.Proper) {v : Int} :
    inBlock b v = true ↔ b.Within v := by
  have hmin := hb.min
  have hmax := hb.max
  unfold inBlock RentValueBlock.Within
  by_cases hall : b = .ALL
  · subst hall
    simp [RentValueBlock.ALL]
  · simp only [hall, decide_false, Bool.false_or, Bool.and_eq_true, Bool.or_eq_true, Bool.not_eq_true',
      decide_eq_false_iff_not, decide_eq_true_eq]
    constructor
    · rintro ⟨h1, h2⟩
      exact ⟨fun h => by omega, fun h => by omega⟩
    · rintro ⟨h1, h2⟩
      exact ⟨by omega, by omega⟩

theorem SearchService.inRegion_iff {region : Option String} {v : String} :
    inRegion region v = true ↔ ∀ r, region = some r → r ≠ "*" → v = r := by
  cases region with
  | none => simp [inRegion]
  | some r =>
    simp only [inRegion, Bool.or_eq_true, decide_eq_true_eq, Option.some.injEq]
    constructor
    · rintro h r' rfl hne
      exact h.resolve_left hne
    · intro h
      exact or_iff_not_imp_left.mpr (h r rfl)

/-- All conditions of the form, on a house row and its detail row. -/
structure RentSearch.Satisfies (rs : RentSearch) (house : House) (detail : Option HouseDetail) : Prop where
  city : house.cityEnName = rs.cityEnName
  region : ∀ region, rs.regionEnName = some region → region ≠ "*" → house.regionEnName = region
  price : (RentValueBlock.matchPrice rs.priceBlock).Within house.price
  area : (RentValueBlock.matchArea rs.areaBlock).Within house.area
  rentWay : rs.getRentWay ≠ -1 → detail.map HouseDetail.rentWay = some rs.getRentWay

/-- One document for each published house, with its current values. -/
structure IndexInSync (env : Env) (db : Db) (es : Es) : Prop where
  once : ((es.visible env).map fun d => d.source.houseId).Nodup
  current : ∀ d ∈ es.visible env, db.statusOf d.source.houseId = some HouseStatus.PASSES.value ∧
    some d.source = currentTemplate env db d.source.houseId
  all : ∀ h, db.statusOf h = some HouseStatus.PASSES.value → ∃ d ∈ es.visible env, d.source.houseId = h

/-- A published house that the form asks for; with keywords, one whose
document matches them. -/
def RentSearch.Wanted (eng : Engine) (env : Env) (rs : RentSearch) (db : Db) (house : House) : Prop :=
  house.status = HouseStatus.PASSES.value ∧ rs.Satisfies house (db.findDetailByHouseId house.id) ∧
    (rs.keywords.getD "" ≠ "" → ∀ t, currentTemplate env db house.id = some t →
      eng.matchKeywords (rs.keywords.getD "") t = true)

/-- Over every database with an index in sync, each returned house satisfies
the form and each wanted house is counted. -/
def RentSearch.Honoured (eng : Engine) (env : Env) (rs : RentSearch) : Prop :=
  ∀ (db : Db) (es : Es), IndexInSync env db es → ∀ r, HouseService.query eng env .ok rs db es = .ok r →
    (∀ e ∈ r.result, ∃ dto, e = some dto ∧ rs.Satisfies dto.house dto.houseDetail) ∧
    ∀ wanted : List House, wanted.Nodup → (∀ house ∈ wanted, house ∈ db.house.rows ∧ rs.Wanted eng env db house) →
      wanted.length ≤ r.total

/-- The form asks for a city only. -/
structure RentSearch.Unfiltered (rs : RentSearch) : Prop where
  region : ∀ region, rs.regionEnName = some region → region = "*"
  price : RentValueBlock.matchPrice rs.priceBlock = .ALL
  area : RentValueBlock.matchArea rs.areaBlock = .ALL
  rentWay : rs.getRentWay = -1

/-- A document with the values of the rows. -/
theorem currentTemplate_some {env : Env} {db : Db} {h : Long} {t : HouseIndexTemplate}
    (ht : currentTemplate env db h = some t) : ∃ house detail, db.house.find? h = some house ∧
      db.findDetailByHouseId h = some detail ∧ t.houseId = h ∧ t.cityEnName = house.cityEnName ∧
      t.regionEnName = house.regionEnName ∧ t.price = house.price ∧ t.area = house.area ∧
      t.rentWay = detail.rentWay := by
  unfold currentTemplate at ht
  split at ht
  · rename_i house detail hh hd
    split at ht
    · simp only [Option.some.injEq] at ht
      subst ht
      exact ⟨house, detail, hh, hd, (findDetail_some hd).2, rfl, rfl, rfl, rfl, rfl⟩
    · cases ht
  · cases ht

theorem currentTemplate_indexable (env : Env) {db : Db} {h : Long} (hi : Indexable db h) :
    ∃ t, currentTemplate env db h = some t := by
  obtain ⟨house, detail, city, region, hh, hd, ha⟩ := hi
  simp only [currentTemplate, hh, hd, ha]
  exact ⟨_, rfl⟩

/-- The bool query asks what the form asks, of a document with the values of
the rows. -/
theorem queryFilter_iff {eng : Engine} {env : Env} {rs : RentSearch} {db : Db} {h : Long}
    {t : HouseIndexTemplate} (ht : currentTemplate env db h = some t) {house : House}
    (hf : db.house.find? h = some house) :
    queryFilter eng rs t = true ↔
      rs.Satisfies house (db.findDetailByHouseId h) ∧ eng.matchKeywords (rs.keywords.getD "") t = true := by
  obtain ⟨house', detail, hf', hd, -, hcity, hregion, hprice, harea, hway⟩ := currentTemplate_some ht
  rw [hf, Option.some.injEq] at hf'
  subst hf'
  have hrange : rs.getRentWay > -1 ↔ rs.getRentWay ≠ -1 := by
    unfold RentSearch.getRentWay
    split <;> omega
  unfold queryFilter
  rw [hcity, hregion, hprice, harea, hway, hd]
  simp only [Bool.and_eq_true, inRegion_iff, inBlock_iff (RentValueBlock.matchArea_proper _),
    inBlock_iff (RentValueBlock.matchPrice_proper _), decide_eq_true_eq, Bool.or_eq_true,
    Bool.not_eq_true', decide_eq_false_iff_not, hrange]
  constructor
  · rintro ⟨⟨⟨⟨⟨h1, h2⟩, h3⟩, h4⟩, h5⟩, h6⟩
    exact ⟨⟨h1, h2, h4, h3, fun hne => by simpa using h5.resolve_left (not_not.mpr hne)⟩, h6⟩
  · rintro ⟨⟨h1, h2, h4, h3, h5⟩, h6⟩
    exact ⟨⟨⟨⟨⟨h1, h2⟩, h3⟩, h4⟩, or_iff_not_imp_left.mpr fun hne => by simpa using h5 (not_not.mp hne)⟩, h6⟩

/-! ## Forms that are honoured -/

/-- With keywords the index answers, and it filters by all conditions. -/
theorem honoured_keywords (eng : Engine) (env : Env) {rs : RentSearch} (hk : rs.keywords.getD "" ≠ "") :
    rs.Honoured eng env := by
  intro db es hsync r hr
  unfold HouseService.query at hr
  rw [if_pos hk] at hr
  refine ⟨fun e he => ?_, fun wanted hnd hwanted => ?_⟩
  · obtain ⟨ids, hids, id, hid, hentry⟩ := loaded_entry hr he
    obtain ⟨d, hd, hp, rfl⟩ := search_hit hids hid
    obtain ⟨-, hcur⟩ := hsync.current d hd
    obtain ⟨house, -, hf, -⟩ := currentTemplate_some hcur.symm
    have hsat := ((queryFilter_iff hcur.symm hf).mp hp).1
    obtain ⟨dto, rfl, hdto, hdet⟩ := hentry house hf
    have hid : house.id = d.source.houseId := (Table.find?_some hf).2
    rw [← hid] at hsat
    refine ⟨dto, rfl, ?_⟩
    rw [hdto, hdet]
    exact ⟨hsat.city, hsat.region, hsat.price, hsat.area, hsat.rentWay⟩
  · obtain ⟨ids, hids, htotal, -⟩ := loaded_ok hr
    rw [htotal, search_total hids]
    -- the ids of the wanted houses are among those of the hits
    have hsub : wanted.map House.id ⊆
        ((es.visible env).filter fun doc => queryFilter eng rs doc.source).map fun d => d.source.houseId := by
      intro h hh
      obtain ⟨house, hhw, rfl⟩ := List.mem_map.mp hh
      obtain ⟨hmem, hpass, hsat, hmatch⟩ := hwanted house hhw
      have hf : db.house.find? house.id = some house := Table.find?_eq_some.mpr ⟨hmem, rfl⟩
      obtain ⟨d, hd, hid⟩ := hsync.all house.id (by rw [statusOf_find hf, hpass])
      obtain ⟨-, hcur⟩ := hsync.current d hd
      rw [hid] at hcur
      refine List.mem_map.mpr ⟨d, List.mem_filter.mpr ⟨hd, ?_⟩, hid⟩
      exact (queryFilter_iff hcur.symm hf).mpr ⟨hsat, hmatch hk d.source hcur.symm⟩
    have hnodup : (wanted.map House.id).Nodup := by
      refine List.Nodup.map_on (fun a ha b hb hab => ?_) hnd
      exact Table.id_inj (hwanted a ha).1 (hwanted b hb).1 hab
    have hle := (List.subperm_of_subset hnodup hsub).length_le
    simpa using hle

/-- Without keywords the rows of the city are enough when the form asks for no
more. -/
theorem honoured_unfiltered (eng : Engine) (env : Env) {rs : RentSearch} (hk : rs.keywords.getD "" = "")
    (hu : rs.Unfiltered) (hs : rs.orderBy ≠ some HouseSort.DISTANCE_TO_SUBWAY_KEY) : rs.Honoured eng env := by
  intro db es hsync r hr
  unfold HouseService.query at hr
  rw [if_neg (not_not.mpr hk)] at hr
  refine ⟨fun e he => ?_, fun wanted hnd hwanted => ?_⟩
  · obtain ⟨dtos, hw, rfl⟩ := simpleQuery_ok hr
    obtain ⟨dto, hd, rfl⟩ := List.mem_map.mp he
    obtain ⟨house, hh, hdto, -⟩ := wrapperHouseList_house hw hd
    have hfilter := (mem_simplePage hh).2
    simp only [simpleFilter, Bool.and_eq_true, decide_eq_true_eq] at hfilter
    refine ⟨dto, rfl, by rw [hdto]; exact hfilter.1.2, fun region hr hne => absurd (hu.region region hr) hne, ?_, ?_,
      fun hne => absurd hu.rentWay hne⟩
    · rw [hu.price]
      exact ⟨fun h => absurd rfl h, fun h => absurd rfl h⟩
    · rw [hu.area]
      exact ⟨fun h => absurd rfl h, fun h => absurd rfl h⟩
  · obtain ⟨dtos, -, rfl⟩ := simpleQuery_ok hr
    refine (List.subperm_of_subset hnd fun house hh => ?_).length_le
    obtain ⟨hmem, hpass, hsat, -⟩ := hwanted house hh
    refine List.mem_filter.mpr ⟨hmem, ?_⟩
    simp [simpleFilter, hpass, hsat.city, hs]

/-! ## Forms that are not

`Stray.db rs` fills the page that `rs` asks for with published houses of the
city that miss every other condition of the form, and has one more house
without a distance to the subway. -/

/-- A value out of the bounds of the block. -/
def RentValueBlock.outside (b : RentValueBlock) : Int :=
  if b.max ≠ -1 then b.max + 1 else if b.min ≠ -1 then b.min - 1 else 1

theorem RentValueBlock.Proper.outside {b : RentValueBlock} (hb : b.Proper) (h : b.Within b.outside) :
    b = .ALL := by
  obtain ⟨hmin, hmax⟩ := h
  unfold RentValueBlock.outside at hmin hmax
  by_cases hm : b.max = -1
  · by_cases hn : b.min = -1
    · exact hb.all hn hm
    · have := hmin hn
      simp only [hm, hn, ne_eq, not_true_eq_false, if_false, not_false_eq_true, if_true] at this
      omega
  · have := hmax hm
    simp only [hm, ne_eq, not_false_eq_true, if_true] at this
    omega

namespace Stray

variable (rs : RentSearch)

/-- The first position of the page `simpleQuery` shows. -/
def offset : Nat := rs.getStart / rs.getSize * rs.getSize

def region : String := rs.regionEnName.getD "" ++ "1"

def house (i : Nat) : House :=
  { newHouse with
    id := i + 1
    title := "房源"
    price := (RentValueBlock.matchPrice rs.priceBlock).outside
    area := (RentValueBlock.matchArea rs.areaBlock).outside
    status := HouseStatus.PASSES.value
    cityEnName := rs.cityEnName
    regionEnName := region rs
    distanceToSubway := if i = offset rs + 1 then -1 else 0 }

def detail (i : Nat) : HouseDetail :=
  { newDetail with id := i + 1, houseId := i + 1, rentWay := rs.getRentWay + 1 }

def db : Db where
  house := .tabulate (offset rs + 2) (house rs) (fun _ => rfl) (by simp [Entity.uniq])
  detail := .tabulate (offset rs + 2) (detail rs) (fun _ => rfl) (by
    have he : (Entity.uniq ∘ detail rs) = fun i : Nat => some ((i : Int) + 1) := rfl
    rw [List.filterMap_map, he, List.filterMap_eq_map']
    exact Table.nodup_keys _)
  picture := .empty
  tag := .empty
  subway := []
  subwayStation := []
  supportAddress := [⟨1, rs.cityEnName, rs.cityEnName, "", Level.CITY.value⟩,
    ⟨2, rs.cityEnName, region rs, "", Level.REGION.value⟩]

variable {rs}

theorem find_house {i : Nat} (hi : i < offset rs + 2) : (db rs).house.find? (i + 1) = some (house rs i) :=
  Table.find?_tabulate (fun _ => rfl) _ hi

theorem mem_house {h : House} : h ∈ (db rs).house.rows ↔ ∃ i < offset rs + 2, house rs i = h :=
  Table.mem_tabulate (fun _ => rfl) _

theorem find_detail {i : Nat} (hi : i < offset rs + 2) :
    (db rs).findDetailByHouseId (i + 1) = some (detail rs i) :=
  findDetail_eq_some.mpr ⟨(Table.mem_tabulate (fun _ => rfl) _).mpr ⟨i, hi, rfl⟩, rfl⟩

theorem indexable {i : Nat} (hi : i < offset rs + 2) : Indexable (db rs) (i + 1) := by
  refine ⟨house rs i, detail rs i, ⟨1, rs.cityEnName, rs.cityEnName, "", Level.CITY.value⟩,
    ⟨2, rs.cityEnName, region rs, "", Level.REGION.value⟩, find_house hi, find_detail hi, ?_⟩
  have hcity : (db rs).findByEnNameAndLevel (house rs i).cityEnName Level.CITY.value =
      .ok (some ⟨1, rs.cityEnName, rs.cityEnName, "", Level.CITY.value⟩) := by
    simp [Db.findByEnNameAndLevel, db, house, Level.value]
  have hregion : (db rs).findByEnNameAndLevel (house rs i).regionEnName Level.REGION.value =
      .ok (some ⟨2, rs.cityEnName, region rs, "", Level.REGION.value⟩) := by
    simp [Db.findByEnNameAndLevel, db, house, Level.value]
  simp only [addressOf, hcity, hregion]

theorem statusOf_passes {h : Long} : (db rs).statusOf h = some HouseStatus.PASSES.value ↔
    ∃ i < offset rs + 2, h = (i : Int) + 1 := by
  constructor
  · intro hs
    obtain ⟨r, hr, -⟩ := Option.map_eq_some_iff.mp hs
    obtain ⟨hmem, hid⟩ := Table.find?_some hr
    obtain ⟨i, hi, rfl⟩ := mem_house.mp hmem
    exact ⟨i, hi, hid.symm⟩
  · rintro ⟨i, hi, rfl⟩
    rw [statusOf_find (find_house hi)]
    rfl

variable (rs) in
/-- The houses have an index in sync with them. -/
theorem exists_inSync (env : Env) : ∃ es, IndexInSync env (db rs) es := by
  have hex : ∀ i : Nat, ∃ t, i < offset rs + 2 → currentTemplate env (db rs) (i + 1) = some t := by
    intro i
    by_cases hi : i < offset rs + 2
    · obtain ⟨t, ht⟩ := currentTemplate_indexable env (indexable hi)
      exact ⟨t, fun _ => ht⟩
    · exact ⟨template env newHouse newDetail ⟨0, "", "", "", ""⟩ ⟨0, "", "", "", ""⟩ [], fun h => absurd h hi⟩
  choose t ht using hex
  have hid : ∀ i < offset rs + 2, (t i).houseId = i + 1 := by
    intro i hi
    obtain ⟨-, -, -, -, hid, -⟩ := currentTemplate_some (ht i hi)
    exact hid
  let docs : Table EsDoc :=
    .tabulate (offset rs + 2) (fun i => ⟨i + 1, t i⟩) (fun _ => rfl) (by simp [Entity.uniq])
  have hvisible : Es.visible env ⟨docs, docs.rows⟩ = docs.rows := by
    unfold Es.visible
    split <;> rfl
  refine ⟨⟨docs, docs.rows⟩, ?_, ?_, ?_⟩
  · rw [hvisible]
    have hmap : (docs.rows.map fun d => d.source.houseId) =
        (List.range (offset rs + 2)).map fun i : Nat => (i : Int) + 1 := by
      simp only [docs, Table.tabulate, List.map_map]
      exact List.map_congr_left fun i hi => hid i (List.mem_range.mp hi)
    rw [hmap]
    exact Table.nodup_keys _
  · rw [hvisible]
    intro d hd
    obtain ⟨i, hi, rfl⟩ := (Table.mem_tabulate (fun _ => rfl) _).mp hd
    rw [hid i hi]
    exact ⟨statusOf_passes.mpr ⟨i, hi, rfl⟩, (ht i hi).symm⟩
  · rw [hvisible]
    intro h hs
    obtain ⟨i, hi, rfl⟩ := statusOf_passes.mp hs
    exact ⟨⟨i + 1, t i⟩, (Table.mem_tabulate (fun _ => rfl) _).mpr ⟨i, hi, rfl⟩, hid i hi⟩

/-- A house misses every condition but the city. -/
theorem unfiltered {i : Nat} (h : rs.Satisfies (house rs i) (some (detail rs i))) : rs.Unfiltered where
  region := by
    intro r hr
    by_contra hne
    have hreg := h.region r hr hne
    have hlen := congrArg String.length hreg
    simp [house, region, hr] at hlen
  price := (RentValueBlock.matchPrice_proper rs.priceBlock).outside h.price
  area := (RentValueBlock.matchArea_proper rs.areaBlock).outside h.area
  rentWay := by
    by_contra hne
    have hway := h.rentWay hne
    simp [detail] at hway

theorem satisfies (hu : rs.Unfiltered) (i : Nat) : rs.Satisfies (house rs i) (some (detail rs i)) where
  city := rfl
  region r hr hne := absurd (hu.region r hr) hne
  price := by
    rw [hu.price]
    exact ⟨fun h => absurd rfl h, fun h => absurd rfl h⟩
  area := by
    rw [hu.area]
    exact ⟨fun h => absurd rfl h, fun h => absurd rfl h⟩
  rentWay hne := absurd hu.rentWay hne

/-- All houses but the last pass the filter of `simpleQuery`. -/
theorem offset_lt_found : offset rs < ((db rs).house.rows.filter (simpleFilter rs)).length := by
  have hsub : ((List.range (offset rs + 1)).map (house rs)) ⊆ (db rs).house.rows.filter (simpleFilter rs) := by
    intro h hh
    obtain ⟨i, hi, rfl⟩ := List.mem_map.mp hh
    have hi := List.mem_range.mp hi
    refine List.mem_filter.mpr ⟨mem_house.mpr ⟨i, by omega, rfl⟩, ?_⟩
    have hlast : i ≠ offset rs + 1 := by omega
    simp [simpleFilter, house, hlast]
  have hnodup : ((List.range (offset rs + 1)).map (house rs)).Nodup :=
    List.nodup_range.map fun i j hij => by simpa [house] using congrArg House.id hij
  have hle := (List.subperm_of_subset hnodup hsub).length_le
  simp only [List.length_map, List.length_range] at hle
  omega

variable (rs) in
theorem simplePage_ne_nil (eng : Engine) : simplePage eng rs (db rs) ≠ [] := by
  rw [simplePage, ne_eq, window_eq_nil rs.getSize_pos, Arrangement.length_arrange, not_le]
  exact offset_lt_found

theorem query_ok (eng : Engine) (env : Env) (hk : rs.keywords.getD "" = "") (es : Es) :
    ∃ dtos, wrapperHouseList eng env.cdnPrefix ((simplePage eng rs (db rs)).map House.id)
        (simplePage eng rs (db rs)) (db rs) = .ok dtos ∧ dtos ≠ [] ∧
      HouseService.query eng env .ok rs (db rs) es =
        .ok ⟨((db rs).house.rows.filter (simpleFilter rs)).length, dtos.map some⟩ := by
  have hne := simplePage_ne_nil rs eng
  obtain ⟨dtos, hw⟩ := wrapperHouseList_page eng env.cdnPrefix (db rs) hne
  refine ⟨dtos, hw, fun hnil => ?_, ?_⟩
  · have hmap := wrapperHouseList_ok hw
    rw [hnil] at hmap
    exact hne (List.map_eq_nil_iff.mp hmap.symm)
  · unfold HouseService.query
    rw [if_neg (not_not.mpr hk)]
    unfold simpleQuery
    unfold simplePage at hw
    simp only [hw]

/-- A form without keywords that is honoured asks for a city only. -/
theorem honoured {eng : Engine} {env : Env} (hk : rs.keywords.getD "" = "") (hhon : rs.Honoured eng env) :
    rs.Unfiltered ∧ rs.orderBy ≠ some HouseSort.DISTANCE_TO_SUBWAY_KEY := by
  obtain ⟨es, hsync⟩ := exists_inSync rs env
  obtain ⟨dtos, hw, hne, hq⟩ := query_ok eng env hk es
  obtain ⟨hentries, hcount⟩ := hhon _ es hsync _ hq
  have hu : rs.Unfiltered := by
    -- an entry of the page is one of the houses
    obtain ⟨dto, hd⟩ := List.exists_mem_of_ne_nil dtos hne
    obtain ⟨dto', he, hsat⟩ := hentries (some dto) (List.mem_map_of_mem hd)
    cases he
    obtain ⟨h, hh, hdto, hdet⟩ := wrapperHouseList_house hw hd
    obtain ⟨i, hi, rfl⟩ := mem_house.mp (mem_simplePage hh).1
    have hfd : (db rs).findDetailByHouseId (house rs i).id = some (detail rs i) := find_detail hi
    rw [hdto, hdet, hfd] at hsat
    exact unfiltered ⟨hsat.city, hsat.region, hsat.price, hsat.area, hsat.rentWay⟩
  refine ⟨hu, fun hs => ?_⟩
  -- every house is wanted, but the last one is not counted
  have hle := hcount (db rs).house.rows (List.Nodup.of_map _ (db rs).house.keys) fun h hh => by
    obtain ⟨i, hi, rfl⟩ := mem_house.mp hh
    have hfd : (db rs).findDetailByHouseId (house rs i).id = some (detail rs i) := find_detail hi
    refine ⟨hh, rfl, ?_, fun hne => absurd hk hne⟩
    rw [hfd]
    exact satisfies hu i
  have hlt : ((db rs).house.rows.filter (simpleFilter rs)).length < (db rs).house.rows.length := by
    refine List.length_filter_lt_length_iff_exists.mpr
      ⟨house rs (offset rs + 1), mem_house.mpr ⟨_, by omega, rfl⟩, ?_⟩
    simp [simpleFilter, hs, house]
  exact absurd hle (Nat.not_le.mpr hlt)

end Stray

/-- **Both paths.** A form is honoured exactly when it has keywords, or asks
for a city only and does not sort by the distance to the subway. -/
theorem filters_iff (eng : Engine) (env : Env) (rs : RentSearch) :
    rs.Honoured eng env ↔ rs.keywords.getD "" ≠ "" ∨
      (rs.Unfiltered ∧ rs.orderBy ≠ some HouseSort.DISTANCE_TO_SUBWAY_KEY) := by
  constructor
  · exact fun hhon => or_iff_not_imp_left.mpr fun hk => Stray.honoured (not_not.mp hk) hhon
  · rintro (hk | ⟨hu, hs⟩)
    · exact honoured_keywords eng env hk
    · by_cases hk : rs.keywords.getD "" = ""
      · exact honoured_unfiltered eng env hk hu hs
      · exact honoured_keywords eng env hk

/-- **A price out of the block.** The page for prices up to 1000 shows a house
for 1001. -/
theorem price_ignored : ¬ ∀ (eng : Engine) (env : Env) (rs : RentSearch), rs.Honoured eng env := by
  intro hall
  have hu : RentSearch.Unfiltered ⟨"bj", none, some "*-1000", none, none, -1, none, none, 0, 5⟩ :=
    (Stray.honoured rfl (hall (.insertion fun _ _ => false)
      ⟨"cdn/", fun _ _ => ⟨116, 40⟩, fun _ => [], false⟩ _)).1
  exact absurd hu.price (by decide)

end Soufang
