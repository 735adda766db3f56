import Soufang.Core.Buckets
import Soufang.L2Service.HouseQuery

/-!
# Counting houses by region

`mapAggregate` asks the index for the documents of a city, counted by region.
The terms aggregation has no size, so Elasticsearch returns its default of ten
buckets, those with the largest counts; the total is that of the hits. The map
page keeps them in an object by region and draws the count of every region of
the city, 0 for one without a bucket.

* `mapAggregate_covers_iff`: when every region of the city has its bucket.
* `houseCount_right_iff`: when every drawn number is the number of documents,
  as a double; regions with the name of a property all objects have are drawn
  as this property.
* `aggregateDistrictHouse_eq`: the count for one district is always exact, as
  its filter leaves one bucket.
-/
namespace Soufang

open Buckets

/-- mirrors soufang/src/main/java/com/wf/service/search/HouseBucketDTO.java:3-17 -/
abbrev HouseBucketDTO := Bucket String

namespace SearchService

/-- The size of a terms aggregation that sets none. -/
def TERMS_SIZE : Nat := 10

/-- The documents of a city that a search sees. -/
def cityHits (env : Env) (cityEnName : String) (es : Es) : List EsDoc :=
  (es.visible env).filter fun d => d.source.cityEnName = cityEnName

def regionsOf (env : Env) (cityEnName : String) (es : Es) : List String :=
  (cityHits env cityEnName es).map fun d => d.source.regionEnName

/-- mirrors soufang/src/main/java/com/wf/service/search/SearchService.java:358-381 -/
def mapAggregate (order : Order String) (env : Env) (answer : Status) (cityEnName : String) (es : Es) :
    Except Exn (ServiceMultiResult HouseBucketDTO) :=
  match answer with
  | .threw => .error .elasticsearch
  | .failed => .ok ⟨0, []⟩
  | .ok => .ok ⟨(cityHits env cityEnName es).length, top order TERMS_SIZE (regionsOf env cityEnName es)⟩

def districtHits (env : Env) (enName regionName district : String) (es : Es) : List EsDoc :=
  (es.visible env).filter fun d => decide (d.source.cityEnName = enName) &&
    decide (d.source.regionEnName = regionName) && decide (d.source.district = district)

/-- The bucket of the district; a response without buckets counts 0.
mirrors soufang/src/main/java/com/wf/service/search/SearchService.java:328-356 -/
def aggregateDistrictHouse (order : Order String) (env : Env) (answer : Status)
    (enName regionName district : String) (es : Es) : Except Exn Nat :=
  match answer with
  | .threw => .error .elasticsearch
  | .failed => .ok 0
  | .ok =>
    match top order TERMS_SIZE ((districtHits env enName regionName district es).map fun d => d.source.district) with
    | [] => .ok 0
    | terms =>
      match terms.find? fun b => b.key = district with
      | some b => .ok b.count
      | none => .error .nullPointer

/-! ## What the map page draws -/

/-- A count as a JavaScript number: the nearest double, the even one of two. -/
def toDouble (n : Nat) : Nat :=
  let unit := 2 ^ (n.log2 - 52)
  let q := n / unit
  let r := n % unit
  (if unit < 2 * r ∨ 2 * r = unit ∧ q % 2 = 1 then q + 1 else q) * unit

/-- The names `in` finds in every object. -/
def OBJECT_PROTOTYPE : List String :=
  ["__proto__", "constructor", "hasOwnProperty", "isPrototypeOf", "propertyIsEnumerable", "toLocaleString", "toString",
    "valueOf", "__defineGetter__", "__defineSetter__", "__lookupGetter__", "__lookupSetter__"]

/-- What is drawn for a region: a number, or an inherited property. -/
inductive Drawn
  | number (n : Nat)
  | inherited (name : String)
  deriving DecidableEq

/-- A later bucket of the same key would win; a number assigned to `__proto__`
is dropped.
mirrors soufang/src/main/resources/static/js/rent-map.js:4,22-24,46-49 -/
def houseCount (aggData : List HouseBucketDTO) (enName : String) : Drawn :=
  match aggData.reverse.find? fun b => b.key = enName && b.key ≠ "__proto__" with
  | some b => .number (toDouble b.count)
  | none => if enName ∈ OBJECT_PROTOTYPE then .inherited enName else .number 0

/-- Doubles hold the counts up to `2 ^ 53`. -/
theorem toDouble_of_le {n : Nat} (h : n ≤ 2 ^ 53) : toDouble n = n := by
  rcases Nat.lt_or_eq_of_le h with hlt | rfl
  · have hunit : n.log2 - 52 = 0 := by
      by_cases h0 : n = 0
      · rw [h0]
        rfl
      · have := (Nat.log2_lt h0).mpr hlt
        omega
    simp [toDouble, hunit, Nat.mod_one]
  · have hlog : (2 ^ 53).log2 = 53 := Nat.log2_two_pow
    simp only [toDouble, hlog]
    decide

theorem toDouble_pos {n : Nat} (h : 0 < n) : 0 < toDouble n := by
  have hunit : 2 ^ (n.log2 - 52) ≤ n :=
    (Nat.pow_le_pow_right (by decide) (Nat.sub_le _ _)).trans (Nat.log2_self_le h.ne')
  have hpos : 0 < n / 2 ^ (n.log2 - 52) := Nat.div_pos hunit (Nat.two_pow_pos _)
  refine Nat.mul_pos ?_ (Nat.two_pow_pos _)
  split
  · exact Nat.succ_pos _
  · exact hpos

section
variable {env : Env} {city : String} {es : Es}

/-- The number of documents of a region in the city. -/
def regionDocs (env : Env) (city region : String) (es : Es) : Nat :=
  ((cityHits env city es).filter fun d => d.source.regionEnName = region).length

theorem count_regionsOf (env : Env) (city region : String) (es : Es) :
    (regionsOf env city es).count region = regionDocs env city region es := by
  rw [regionsOf, regionDocs, List.count_eq_length_filter, List.filter_map, List.length_map]
  rfl

/-- Every region with documents has a bucket with their number, and the
buckets add up to the total. -/
def CountsCover (env : Env) (city : String) (es : Es)
    (r : Except Exn (ServiceMultiResult HouseBucketDTO)) : Prop :=
  ∃ answer, r = .ok answer ∧
    (∀ region n, 0 < n → regionDocs env city region es = n → ⟨region, n⟩ ∈ answer.result) ∧
    (answer.result.map Bucket.count).sum = answer.total

theorem covers_iff {bs : List HouseBucketDTO} :
    (∀ region n, 0 < n → regionDocs env city region es = n → ⟨region, n⟩ ∈ bs) ↔
      Covers (regionsOf env city es) bs := by
  constructor
  · intro h region hpos
    rw [count_regionsOf] at hpos ⊢
    exact h region _ hpos rfl
  · intro h region _ hpos rfl
    have hmem := h region
    rw [count_regionsOf] at hmem
    exact hmem hpos

theorem length_regionsOf (env : Env) (city : String) (es : Es) :
    (regionsOf env city es).length = (cityHits env city es).length := List.length_map _

theorem mapAggregate_ok_covers {order : Order String} :
    CountsCover env city es (mapAggregate order env .ok city es) ↔ (regionsOf env city es).dedup.length ≤ 10 := by
  constructor
  · intro ⟨_, hr, hcover, _⟩
    cases hr
    exact top_covers_iff.mp (covers_iff.mp hcover)
  · intro hfew
    refine ⟨_, rfl, covers_iff.mpr (top_covers_iff.mpr hfew), ?_⟩
    rw [← length_regionsOf]
    exact sum_top hfew

/-- In a response with status OK the counts cover the city exactly if its
documents lie in at most ten regions. -/
theorem mapAggregate_covers_iff (order : Order String) (env : Env) (answer : Status) (city : String) (es : Es) :
    CountsCover env city es (mapAggregate order env answer city es) ↔
      answer = .ok ∧ (regionsOf env city es).dedup.length ≤ 10 ∨
        answer = .failed ∧ cityHits env city es = [] := by
  cases answer with
  | threw =>
    constructor
    · intro ⟨_, hr, _⟩
      cases hr
    · rintro (⟨hr, -⟩ | ⟨hr, -⟩) <;> cases hr
  | failed =>
    have hnone : CountsCover env city es (mapAggregate order env .failed city es) ↔
        Covers (regionsOf env city es) [] := by
      constructor
      · intro ⟨_, hr, hcover, _⟩
        cases hr
        exact covers_iff.mp hcover
      · exact fun h => ⟨_, rfl, covers_iff.mpr h, rfl⟩
    rw [hnone]
    constructor
    · intro h
      refine Or.inr ⟨rfl, List.eq_nil_iff_forall_not_mem.mpr fun d hd => ?_⟩
      have hregion : d.source.regionEnName ∈ regionsOf env city es := List.mem_map_of_mem hd
      cases h _ (List.count_pos_iff.mpr hregion)
    · rintro (⟨hr, -⟩ | ⟨-, hnil⟩)
      · cases hr
      · intro region hpos
        rw [regionsOf, hnil] at hpos
        cases hpos
  | ok =>
    rw [mapAggregate_ok_covers]
    constructor
    · exact fun hfew => Or.inl ⟨rfl, hfew⟩
    · rintro (⟨-, hfew⟩ | ⟨hr, -⟩)
      · exact hfew
      · cases hr

/-- The number drawn for a region is that of its bucket, if it has one. -/
theorem houseCount_top (order : Order String) (l : List String) {region : String} (hr : region ∉ OBJECT_PROTOTYPE) :
    houseCount (top order TERMS_SIZE l) region =
      .number (if ⟨region, l.count region⟩ ∈ top order TERMS_SIZE l then toDouble (l.count region) else 0) := by
  have hsub : ∀ b ∈ (top order TERMS_SIZE l).reverse, b ∈ buckets l :=
    fun b hb => mem_buckets_of_mem_top (List.mem_reverse.mp hb)
  have hne : region ≠ "__proto__" := by
    rintro rfl
    exact hr (by decide)
  have hown : (fun b : HouseBucketDTO => decide (b.key = region) && decide (b.key ≠ "__proto__")) =
      fun b => decide (b.key = region) := by
    funext b
    by_cases hb : b.key = region
    · simp [hb, hne]
    · simp [hb]
  unfold houseCount
  rw [hown]
  by_cases hmem : ⟨region, l.count region⟩ ∈ top order TERMS_SIZE l
  · rw [find?_key hsub region, if_pos (List.mem_reverse.mpr hmem), if_pos hmem]
  · rw [find?_key hsub region, if_neg fun h => hmem (List.mem_reverse.mp h), if_neg hmem]
    exact if_neg hr

/-- With at most ten regions every number on the map is right. -/
theorem houseCount_of_few {order : Order String} {answer : ServiceMultiResult HouseBucketDTO}
    (h : mapAggregate order env .ok city es = .ok answer) (hfew : (regionsOf env city es).dedup.length ≤ 10)
    {region : String} (hr : region ∉ OBJECT_PROTOTYPE) :
    houseCount answer.result region = .number (toDouble (regionDocs env city region es)) := by
  cases h
  rw [houseCount_top order _ hr, ← count_regionsOf]
  split
  · rfl
  · rename_i hmem
    have hzero : (regionsOf env city es).count region = 0 := by
      by_contra hne
      exact hmem (top_covers_iff.mpr hfew region (Nat.pos_of_ne_zero hne))
    rw [hzero, toDouble_of_le (Nat.zero_le _)]

/-- If no region has an inherited name, the numbers on the map are right
exactly if there are at most ten regions. -/
theorem houseCount_right_iff {order : Order String} {answer : ServiceMultiResult HouseBucketDTO}
    (h : mapAggregate order env .ok city es = .ok answer)
    (hnames : ∀ region ∈ regionsOf env city es, region ∉ OBJECT_PROTOTYPE) :
    (∀ region ∉ OBJECT_PROTOTYPE,
        houseCount answer.result region = .number (toDouble (regionDocs env city region es))) ↔
      (regionsOf env city es).dedup.length ≤ 10 := by
  refine ⟨fun hright => ?_, fun hfew region hr => houseCount_of_few h hfew hr⟩
  cases h
  have hcovers : Covers _ (top order TERMS_SIZE (regionsOf env city es)) ↔ _ := top_covers_iff
  refine hcovers.mp fun region hpos => ?_
  have hr := hnames region (List.count_pos_iff.mp hpos)
  have hdrawn := hright region hr
  rw [houseCount_top order _ hr, ← count_regionsOf, Drawn.number.injEq] at hdrawn
  by_contra hmem
  rw [if_neg hmem] at hdrawn
  exact (toDouble_pos hpos).ne hdrawn

/-- The filter leaves documents of one district, so one bucket. -/
theorem aggregateDistrictHouse_eq (order : Order String) (env : Env) (enName regionName district : String)
    (es : Es) : aggregateDistrictHouse order env .ok enName regionName district es =
      .ok (districtHits env enName regionName district es).length := by
  let l := (districtHits env enName regionName district es).map fun d => d.source.district
  have hlen : l.length = (districtHits env enName regionName district es).length := List.length_map _
  have hall : ∀ k ∈ l, k = district := by
    intro k hk
    obtain ⟨d, hd, rfl⟩ := List.mem_map.mp hk
    simp only [districtHits, List.mem_filter, Bool.and_eq_true, decide_eq_true_eq] at hd
    exact hd.2.2
  have hcount : l.count district = l.length := List.count_eq_length.mpr fun k hk => (hall k hk).symm
  have hfew : l.dedup.length ≤ TERMS_SIZE := by
    have hone : l.dedup.length ≤ [district].length :=
      ((List.nodup_dedup l).subperm fun k hk => by simp [hall k (List.mem_dedup.mp hk)]).length_le
    exact hone.trans (by simp [TERMS_SIZE])
  rw [← hlen, aggregateDistrictHouse]
  cases htop : top order TERMS_SIZE l with
  | nil =>
    have hsum : ((top order TERMS_SIZE l).map Bucket.count).sum = l.length := sum_top hfew
    rw [htop] at hsum
    rw [← hsum]
    rfl
  | cons b bs =>
    have hb : b ∈ buckets l := mem_buckets_of_mem_top (htop ▸ List.mem_cons_self)
    have hpos : 0 < l.count district := by
      rw [hcount]
      exact List.length_pos_of_mem (mem_buckets.mp hb).1
    have hsub : ∀ b ∈ top order TERMS_SIZE l, b ∈ buckets l := fun b hb => mem_buckets_of_mem_top hb
    have hfind := find?_key hsub district
    rw [if_pos (top_covers_iff.mpr hfew district hpos), htop, hcount] at hfind
    dsimp only
    rw [hfind]

end

end SearchService

/-- The largest-count order of an insertion sort. -/
def Sample.bucketOrder : Order String := .insertion Bucket.count (· ≥ ·)

/-- A city with one document in each of eleven regions. -/
def Sample.elevenRegions : Es :=
  let docIn (region : String) : EsDoc := ⟨0, {
    houseId := 1, title := "西二旗", price := 5000, area := 80, createTime := 0, lastUpdateTime := 0
    cityEnName := "bj", regionEnName := region, direction := 1, distanceToSubway := 800
    subwayLineName := none, subwayStationName := none, street := "龙岗路", district := "融泽嘉园"
    description := none, layoutDesc := none, traffic := none, roundService := none, rentWay := 0
    tags := none, suggest := none, location := none }⟩
  let docs := ["a", "b", "c", "d", "e", "f", "g", "h", "i", "j", "k"].foldl
    (fun t region => (t.insert? (docIn region)).getD t) Table.empty
  ⟨docs, docs.rows⟩

/-- An index whose documents are searched at once. -/
def Sample.current : Env := ⟨"cdn/", fun _ _ => ⟨116, 40⟩, fun _ => [], false⟩

namespace SearchService

/-- One of the eleven regions is missing from the answer. -/
theorem mapAggregate_region_lost :
    ¬ CountsCover Sample.current "bj" Sample.elevenRegions
      (mapAggregate Sample.bucketOrder Sample.current .ok "bj" Sample.elevenRegions) := by
  intro h
  exact absurd (mapAggregate_ok_covers.mp h) (by decide)

end SearchService

end Soufang
