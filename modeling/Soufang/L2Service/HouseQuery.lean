import Soufang.Core.Arrange
import Soufang.L2Service.HouseService

/-!
# Listing houses

The searches behind the public pages: `SearchService.query` and the two
`mapQuery`, which answer house ids from the index, and `HouseService.query`,
`wholeMapQuery` and `boundMapQuery`, which load the rows of these ids; a
`query` without keywords reads the rows themselves (`simpleQuery`). The admin
pages list by `adminQuery`.

* `Engine` is what the stores decide: whether a document matches keywords, the
  order of hits and rows with equal sort values, the order of tags.
* `answer` is how the search call ends; `failed` is a response whose status is
  not OK.
* The repository methods with an IN list fail on an empty list: the statement
  then has an empty pair of brackets, which MySQL refuses.
* Texts are compared exactly. `room` and `direction` of a `RentSearch` are not
  read by any search and are left out; so is the case of a missing city, which
  the controllers refuse.
-/
namespace Soufang

/-! ## Sorting -/

inductive Direction | ASC | DESC
  deriving DecidableEq

/-- The keys of `HouseSort.SORT_KEYS`.
mirrors soufang/src/main/java/com/wf/base/HouseSort.java:14-26 -/
inductive SortKey | lastUpdateTime | createTime | price | area | distanceToSubway
  deriving DecidableEq

namespace HouseSort

def DISTANCE_TO_SUBWAY_KEY : String := "distanceToSubway"

/-- mirrors soufang/src/main/java/com/wf/base/HouseSort.java:39-45 -/
def getSortKey : Option String → SortKey
  | some "createTime" => .createTime
  | some "price" => .price
  | some "area" => .area
  | some "distanceToSubway" => .distanceToSubway
  | _ => .lastUpdateTime

end HouseSort

def SortKey.ofHouse (k : SortKey) (h : House) : Int :=
  match k with
  | .lastUpdateTime => h.lastUpdateTime
  | .createTime => h.createTime
  | .price => h.price
  | .area => h.area
  | .distanceToSubway => h.distanceToSubway

def SortKey.ofDoc (k : SortKey) (d : EsDoc) : Int :=
  match k with
  | .lastUpdateTime => d.source.lastUpdateTime
  | .createTime => d.source.createTime
  | .price => d.source.price
  | .area => d.source.area
  | .distanceToSubway => d.source.distanceToSubway

/-- `a` may stand before `b`. -/
def Direction.le : Direction → Int → Int → Prop
  | .ASC, a, b => a ≤ b
  | .DESC, a, b => b ≤ a

instance (d : Direction) : DecidableRel d.le := fun a b => by
  cases d <;> unfold Direction.le <;> infer_instance

instance (d : Direction) : Std.Total d.le :=
  ⟨fun a b => by cases d <;> simp only [Direction.le] <;> omega⟩

instance (d : Direction) : IsTrans Int d.le :=
  ⟨fun a b c => by cases d <;> simp only [Direction.le] <;> omega⟩

/-- `String.toUpperCase` as far as it decides equality with ASC and DESC. -/
def upperCase (s : String) : String := s.map fun c => if c = 'ſ' then 'S' else c.toUpper

/-- The constant of `Sort.Direction` and of `SortOrder` with this name. -/
def directionOf (s : String) : Option Direction :=
  if upperCase s = "ASC" then some .ASC else if upperCase s = "DESC" then some .DESC else none

/-- `HouseSort.generateSort`: an unknown direction is DESC.
mirrors soufang/src/main/java/com/wf/base/HouseSort.java:28-37 -/
def HouseSort.generateSort (key direction : Option String) : SortKey × Direction :=
  (getSortKey key, (direction.bind directionOf).getD .DESC)

/-- `SortOrder.fromString`. -/
def sortOrder : Option String → Except Exn Direction
  | none => .error .nullPointer
  | some s =>
    match directionOf s with
    | none => .error .illegalArgument
    | some d => .ok d

structure Engine where
  matchKeywords : String → HouseIndexTemplate → Bool
  hits : (k : SortKey) → (d : Direction) → SortedArrangement fun a b : EsDoc => d.le (k.ofDoc a) (k.ofDoc b)
  rows : (k : SortKey) → (d : Direction) → SortedArrangement fun a b : House => d.le (k.ofHouse a) (k.ofHouse b)
  tags : Arrangement HouseTag

/-- Stores that sort by insertion, under a given keyword match. -/
def Engine.insertion (matchKeywords : String → HouseIndexTemplate → Bool) : Engine :=
  ⟨matchKeywords, fun k d => .insertion k.ofDoc d.le, fun k d => .insertion k.ofHouse d.le, .stored HouseTag⟩

/-! ## Search forms -/

/-- mirrors soufang/src/main/java/com/wf/base/RentValueBlock.java:33-40 -/
structure RentValueBlock where
  key : String
  min : Int
  max : Int
  deriving DecidableEq

namespace RentValueBlock

def ALL : RentValueBlock := ⟨"*", -1, -1⟩

/-- mirrors soufang/src/main/java/com/wf/base/RentValueBlock.java:20-31,62-75 -/
def matchPrice : Option String → RentValueBlock
  | some "*-1000" => ⟨"*-1000", -1, 1000⟩
  | some "1000-3000" => ⟨"1000-3000", 1000, 3000⟩
  | some "3000-*" => ⟨"3000-*", 3000, -1⟩
  | _ => ALL

def matchArea : Option String → RentValueBlock
  | some "*-30" => ⟨"*-30", -1, 30⟩
  | some "30-50" => ⟨"30-50", 30, 50⟩
  | some "50-*" => ⟨"50-*", 50, -1⟩
  | _ => ALL

end RentValueBlock

/-- mirrors soufang/src/main/java/com/wf/web/form/RentSearch.java:7-31 -/
structure RentSearch where
  cityEnName : String
  regionEnName : Option String
  priceBlock : Option String
  areaBlock : Option String
  keywords : Option String
  rentWay : Int
  orderBy : Option String
  orderDirection : Option String
  start : Int
  size : Int

namespace RentSearch

def getStart (r : RentSearch) : Nat := r.start.toNat

def getSize (r : RentSearch) : Nat := if r.size < 1 then 5 else if r.size > 100 then 100 else r.size.toNat

theorem getSize_pos (r : RentSearch) : 0 < r.getSize := by
  unfold getSize
  split
  · omega
  · split <;> omega

def getRentWay (r : RentSearch) : Int := if r.rentWay > -2 ∧ r.rentWay < 2 then r.rentWay else -1

end RentSearch

/-- mirrors soufang/src/main/java/com/wf/web/form/MapSearch.java:6-28 -/
structure MapSearch where
  cityEnName : String
  orderBy : Option String
  orderDirection : Option String
  leftLongitude : Option Rat
  leftLatitude : Option Rat
  rightLongitude : Option Rat
  rightLatitude : Option Rat
  start : Int
  size : Int

namespace MapSearch

def getStart (m : MapSearch) : Nat := m.start.toNat

def getSize (m : MapSearch) : Int := if m.size > 100 then 100 else m.size

end MapSearch

/-- mirrors soufang/src/main/java/com/wf/web/form/DatatableSearch.java:10-31 -/
structure DatatableSearch where
  start : Int
  length : Int
  status : Option Int
  createTimeMin : Option Date
  createTimeMax : Option Date
  city : Option String
  title : Option String
  direction : Option String
  orderBy : Option String
  deriving DecidableEq

/-! ## Searching the index -/

namespace SearchService

/-- The `lte`/`gte` range of a block; the unlimited block adds no filter.
mirrors soufang/src/main/java/com/wf/service/search/SearchService.java:225-244 -/
def inBlock (b : RentValueBlock) (v : Int) : Bool :=
  decide (b = .ALL) || ((!decide (b.max > 0) || decide (v ≤ b.max)) && (!decide (b.min > 0) || decide (b.min ≤ v)))

/-- A missing region and `*` add no filter.
mirrors soufang/src/main/java/com/wf/service/search/SearchService.java:220-224 -/
def inRegion (region : Option String) (v : String) : Bool :=
  match region with
  | some r => decide (r = "*") || decide (v = r)
  | none => true

/-- The bool query of `query`.
mirrors soufang/src/main/java/com/wf/service/search/SearchService.java:216-259 -/
def queryFilter (eng : Engine) (r : RentSearch) (t : HouseIndexTemplate) : Bool :=
  decide (t.cityEnName = r.cityEnName) && inRegion r.regionEnName t.regionEnName &&
  inBlock (.matchArea r.areaBlock) t.area && inBlock (.matchPrice r.priceBlock) t.price &&
  (!decide (r.getRentWay > -1) || decide (t.rentWay = r.getRentWay)) &&
  eng.matchKeywords (r.keywords.getD "") t

/-- `index.max_result_window` of Elasticsearch. -/
def MAX_RESULT_WINDOW : Int := 10000

/-- A sorted search with `setFrom` and `setSize`.
mirrors soufang/src/main/java/com/wf/service/search/SearchService.java:260-285 -/
def search (eng : Engine) (env : Env) (answer : Status) (p : HouseIndexTemplate → Bool)
    (orderBy orderDirection : Option String) (start : Nat) (size : Int) (es : Es) :
    Except Exn (ServiceMultiResult Long) :=
  match sortOrder orderDirection with
  | .error e => .error e
  | .ok d =>
    if size < 0 then .error .illegalArgument
    else if (start : Int) + size > MAX_RESULT_WINDOW then .error .elasticsearch
    else
      match answer with
      | .threw => .error .elasticsearch
      | .failed => .ok ⟨0, []⟩
      | .ok =>
        let hits := (es.visible env).filter fun doc => p doc.source
        let sorted := (eng.hits (HouseSort.getSortKey orderBy) d).arrange hits
        .ok ⟨hits.length, (window start size.toNat sorted).map fun doc => doc.source.houseId⟩

/-- mirrors soufang/src/main/java/com/wf/service/search/SearchService.java:214-285 -/
def query (eng : Engine) (env : Env) (answer : Status) (r : RentSearch) (es : Es) :
    Except Exn (ServiceMultiResult Long) :=
  search eng env answer (queryFilter eng r) r.orderBy r.orderDirection r.getStart r.getSize es

/-- mirrors soufang/src/main/java/com/wf/service/search/SearchService.java:383-405 -/
def mapQuery (eng : Engine) (env : Env) (answer : Status) (cityEnName : String)
    (orderBy orderDirection : Option String) (start : Nat) (size : Int) (es : Es) :
    Except Exn (ServiceMultiResult Long) :=
  search eng env answer (fun t => t.cityEnName = cityEnName) orderBy orderDirection start size es

/-- `geoBoundingBoxQuery`; a box whose left edge is east of the right one
crosses the date line. -/
def inBox (left top right bottom : Rat) (t : HouseIndexTemplate) : Bool :=
  match t.location with
  | none => false
  | some l => decide (bottom ≤ l.latitude ∧ l.latitude ≤ top) &&
    if left ≤ right then decide (left ≤ l.longitude ∧ l.longitude ≤ right)
    else decide (left ≤ l.longitude ∨ l.longitude ≤ right)

/-- `setCorners` of the client refuses a box without height or width.
mirrors soufang/src/main/java/com/wf/service/search/SearchService.java:407-437 -/
def mapBoundQuery (eng : Engine) (env : Env) (answer : Status) (m : MapSearch) (es : Es) :
    Except Exn (ServiceMultiResult Long) :=
  match m.leftLongitude, m.leftLatitude, m.rightLongitude, m.rightLatitude with
  | some left, some top, some right, some bottom =>
    if top ≤ bottom ∨ left = right then .error .illegalArgument
    else search eng env answer (fun t => decide (t.cityEnName = m.cityEnName) && inBox left top right bottom t)
      m.orderBy m.orderDirection m.getStart m.getSize es
  | _, _, _, _ => .error .nullPointer

end SearchService

/-! ## Loading the houses -/

namespace HouseService

/-- `modelMapper.map(house, HouseDTO.class)` with the cover's full path. -/
def coverDTO (cdnPrefix : String) (h : House) : House :=
  { h with cover := some (cdnPrefix ++ h.cover.getD "null") }

/-- Details and tags of the houses `ids`, put into the DTOs of `houses`; a row
of a house that is not among them makes the loop dereference null.
mirrors soufang/src/main/java/com/wf/service/house/HouseService.java:477-490 -/
def wrapperHouseList (eng : Engine) (cdnPrefix : String) (ids : List Long) (houses : List House) (db : Db) :
    Except Exn (List HouseDTO) :=
  let details := db.detail.rows.filter fun d => d.houseId ∈ ids
  let tags := eng.tags.arrange (db.tag.rows.filter fun t => t.houseId ∈ ids)
  let known (h : Long) : Bool := houses.any fun house => house.id = h
  if ids = [] then .error .badSqlGrammar
  else if details.any (fun d => !known d.houseId) || tags.any (fun t => !known t.houseId) then .error .nullPointer
  else .ok (houses.map fun h => ⟨coverDTO cdnPrefix h, db.findDetailByHouseId h.id,
    (tags.filter fun t => t.houseId = h.id).map HouseTag.name, []⟩)

/-- An id without a row gives a null entry.
mirrors soufang/src/main/java/com/wf/service/house/HouseService.java:416-432 -/
def wrapperHouseResult (eng : Engine) (cdnPrefix : String) (ids : List Long) (db : Db) :
    Except Exn (List (Option HouseDTO)) :=
  match wrapperHouseList eng cdnPrefix ids (db.house.rows.filter fun h => h.id ∈ ids) db with
  | .error e => .error e
  | .ok dtos => .ok (ids.map fun id => dtos.find? fun dto => dto.house.id = id)

/-- The predicate of the specification in `simpleQuery`.
mirrors soufang/src/main/java/com/wf/service/house/HouseService.java:441-450 -/
def simpleFilter (r : RentSearch) (h : House) : Bool :=
  decide (h.status = HouseStatus.PASSES.value) && decide (h.cityEnName = r.cityEnName) &&
    (!decide (r.orderBy = some HouseSort.DISTANCE_TO_SUBWAY_KEY) || decide (h.distanceToSubway > -1))

/-- mirrors soufang/src/main/java/com/wf/service/house/HouseService.java:436-470 -/
def simpleQuery (eng : Engine) (cdnPrefix : String) (r : RentSearch) (db : Db) :
    Except Exn (ServiceMultiResult (Option HouseDTO)) :=
  let (key, d) := HouseSort.generateSort r.orderBy r.orderDirection
  let page := r.getStart / r.getSize
  let found := db.house.rows.filter (simpleFilter r)
  let houses := window (page * r.getSize) r.getSize ((eng.rows key d).arrange found)
  match wrapperHouseList eng cdnPrefix (houses.map House.id) houses db with
  | .error e => .error e
  | .ok dtos => .ok ⟨found.length, dtos.map some⟩

/-- The houses of an answer of the index.
mirrors soufang/src/main/java/com/wf/service/house/HouseService.java:324-329,337-343,347-354 -/
def loaded (eng : Engine) (cdnPrefix : String) (db : Db) :
    Except Exn (ServiceMultiResult Long) → Except Exn (ServiceMultiResult (Option HouseDTO))
  | .error e => .error e
  | .ok r =>
    if r.total = 0 then .ok ⟨0, []⟩
    else
      match wrapperHouseResult eng cdnPrefix r.result db with
      | .error e => .error e
      | .ok houses => .ok ⟨r.total, houses⟩

/-- mirrors soufang/src/main/java/com/wf/service/house/HouseService.java:321-333 -/
def query (eng : Engine) (env : Env) (answer : Status) (r : RentSearch) (db : Db) (es : Es) :
    Except Exn (ServiceMultiResult (Option HouseDTO)) :=
  if r.keywords.getD "" ≠ "" then loaded eng env.cdnPrefix db (SearchService.query eng env answer r es)
  else simpleQuery eng env.cdnPrefix r db

/-- mirrors soufang/src/main/java/com/wf/service/house/HouseService.java:335-344 -/
def wholeMapQuery (eng : Engine) (env : Env) (answer : Status) (m : MapSearch) (db : Db) (es : Es) :
    Except Exn (ServiceMultiResult (Option HouseDTO)) :=
  loaded eng env.cdnPrefix db
    (SearchService.mapQuery eng env answer m.cityEnName m.orderBy m.orderDirection m.getStart m.getSize es)

/-- mirrors soufang/src/main/java/com/wf/service/house/HouseService.java:346-355 -/
def boundMapQuery (eng : Engine) (env : Env) (answer : Status) (m : MapSearch) (db : Db) (es : Es) :
    Except Exn (ServiceMultiResult (Option HouseDTO)) :=
  loaded eng env.cdnPrefix db (SearchService.mapBoundQuery eng env answer m es)

/-- `Sort.Direction.fromString` and the check of `new Sort`. -/
def newSort (direction orderBy : Option String) : Except Exn (Direction × String) :=
  match direction.bind directionOf, orderBy with
  | some d, some property => if property = "" then .error .illegalArgument else .ok (d, property)
  | _, _ => .error .illegalArgument

/-- `new PageRequest` of the page `start / length`. -/
def newPage (start length : Int) : Except Exn (Nat × Nat) :=
  if length = 0 then .error .arithmetic
  else if start.tdiv length < 0 ∨ length < 1 then .error .illegalArgument
  else .ok ((start.tdiv length).toNat, length.toNat)

/-- What the store decides for `adminQuery`: LIKE under the collation of
`title`, and the order of rows by a property, which `House` may not have. -/
structure AdminEngine where
  like : (pattern text : String) → Bool
  rows : (property : String) → Direction → Option (Arrangement House)

/-- The predicate of the specification in `adminQuery`.
mirrors soufang/src/main/java/com/wf/service/house/HouseService.java:122-146 -/
def adminFilter (eng : AdminEngine) (user : Long) (q : DatatableSearch) (h : House) : Bool :=
  decide (h.adminId = user) && decide (h.status ≠ HouseStatus.DELETED.value) &&
    (q.city.all fun city => h.cityEnName = city) && (q.status.all fun status => h.status = status) &&
    (q.createTimeMin.all fun t => t ≤ h.createTime) && (q.createTimeMax.all fun t => h.createTime ≤ t) &&
    (q.title.all fun title => eng.like ("%" ++ title ++ "%") h.title)

/-- mirrors soufang/src/main/java/com/wf/service/house/HouseService.java:116-155 -/
def adminQuery (eng : AdminEngine) (cdnPrefix : String) (user : Long) (q : DatatableSearch) (db : Db) :
    Except Exn (ServiceMultiResult HouseDTO) :=
  match newSort q.direction q.orderBy with
  | .error e => .error e
  | .ok (d, property) =>
    match newPage q.start q.length with
    | .error e => .error e
    | .ok (page, length) =>
      match eng.rows property d with
      | none => .error .propertyReference
      | some order =>
        let found := db.house.rows.filter (adminFilter eng user q)
        .ok ⟨found.length, (window (page * length) length (order.arrange found)).map fun h =>
          ⟨coverDTO cdnPrefix h, none, [], []⟩⟩

end HouseService

end Soufang
