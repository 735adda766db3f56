import Soufang.Core.Table

/-!
# Entities, forms and the database

The rows of `db/xunwu.sql` as the JPA entities declare them, the forms the
admin pages post, and the repositories' queries over one database.

* A `NOT NULL` text column is a `String`, a nullable one an `Option String`.
  `Long` and `int` values are integers and dates are milliseconds; no
  operation below depends on their width.
* A form is one that passed `@Valid`: its `@NotNull` fields are not optional.
  The remaining bean constraints are `HouseForm.violations`.
* Left out, as no operation below reads them: the map coordinates of
  `support_address` and `location` of `house_picture`. Reservations, users and
  roles have tables of their own, in `Subscribe` and `UserService`.
* `last_update_time` also has an `ON UPDATE CURRENT_TIMESTAMP` clause; a
  statement below changes the columns it names.
* Assumption (exact texts): every query, unique key and `LIKE` below compares
  texts character by character. So does the H2 database of the tests; a MySQL
  server does under a binary collation, while its default for the `utf8mb4`
  tables of `db/xunwu.sql` takes texts that differ in the case of letters only
  as equal.
-/
namespace Soufang

abbrev Long := Int
abbrev Date := Int

/-- mirrors soufang/src/main/java/com/wf/base/HouseStatus.java:7-20 -/
inductive HouseStatus | NOT_AUDITED | PASSES | RENTED | DELETED
  deriving DecidableEq

def HouseStatus.value : HouseStatus → Int
  | .NOT_AUDITED => 0
  | .PASSES => 1
  | .RENTED => 2
  | .DELETED => 3

/-- mirrors soufang/src/main/java/com/wf/entity/House.java:15-71 -/
structure House where
  id : Long
  title : String
  adminId : Long
  price : Int
  area : Int
  room : Int
  parlour : Int
  bathroom : Int
  floor : Int
  totalFloor : Int
  watchTimes : Int
  buildYear : Int
  status : Int
  createTime : Date
  lastUpdateTime : Date
  cityEnName : String
  regionEnName : String
  street : String
  district : String
  direction : Int
  cover : Option String
  distanceToSubway : Int
  deriving DecidableEq

/-- mirrors soufang/src/main/java/com/wf/entity/HouseDetail.java:17-53 -/
structure HouseDetail where
  id : Long
  houseId : Long
  description : Option String
  layoutDesc : Option String
  traffic : Option String
  roundService : Option String
  rentWay : Int
  detailAddress : String
  subwayLineId : Option Long
  subwayStationId : Option Long
  subwayLineName : Option String
  subwayStationName : Option String
  deriving DecidableEq

/-- mirrors soufang/src/main/java/com/wf/entity/HousePicture.java:15-33 -/
structure HousePicture where
  id : Long
  houseId : Long
  path : String
  cdnPrefix : String
  width : Int
  height : Int
  deriving DecidableEq

/-- mirrors soufang/src/main/java/com/wf/entity/HouseTag.java:15-31 -/
structure HouseTag where
  id : Long
  houseId : Long
  name : String
  deriving DecidableEq

structure Subway where
  id : Long
  name : String
  cityEnName : String
  deriving DecidableEq

structure SubwayStation where
  id : Long
  subwayId : Long
  name : String
  deriving DecidableEq

/-- `SupportAddress.Level`, whose `value` the column holds.
mirrors soufang/src/main/java/com/wf/entity/SupportAddress.java:96-120 -/
inductive Level | CITY | REGION
  deriving DecidableEq

def Level.value : Level → String
  | .CITY => "city"
  | .REGION => "region"

/-- mirrors soufang/src/main/java/com/wf/entity/SupportAddress.java:15-37 -/
structure SupportAddress where
  id : Long
  belongTo : String
  enName : String
  cnName : String
  level : String
  deriving DecidableEq

/-! The unique keys of `db/xunwu.sql`: `index_on_house_id` on
`house_detail(house_id)`, `index_on_house_id_and_name` on
`house_tag(house_id, name)`. -/

instance : Entity House where
  id := House.id
  withId i h := { h with id := i }
  id_withId _ _ := rfl
  Uniq := Unit
  uniq _ := none
  uniq_withId _ _ := rfl
  decUniq := inferInstance

instance : Entity HouseDetail where
  id := HouseDetail.id
  withId i d := { d with id := i }
  id_withId _ _ := rfl
  Uniq := Long
  uniq d := some d.houseId
  uniq_withId _ _ := rfl
  decUniq := inferInstance

instance : Entity HousePicture where
  id := HousePicture.id
  withId i p := { p with id := i }
  id_withId _ _ := rfl
  Uniq := Unit
  uniq _ := none
  uniq_withId _ _ := rfl
  decUniq := inferInstance

instance : Entity HouseTag where
  id := HouseTag.id
  withId i t := { t with id := i }
  id_withId _ _ := rfl
  Uniq := Long × String
  uniq t := some (t.houseId, t.name)
  uniq_withId _ _ := rfl
  decUniq := inferInstance

/-! ## Forms -/

structure PhotoForm where
  path : String
  width : Int
  height : Int
  deriving DecidableEq

/-- mirrors soufang/src/main/java/com/wf/web/form/HouseForm.java:13-98 -/
structure HouseForm where
  id : Option Long
  title : String
  cityEnName : String
  regionEnName : String
  street : String
  district : String
  detailAddress : String
  room : Int
  parlour : Int
  floor : Int
  totalFloor : Int
  direction : Int
  buildYear : Int
  area : Int
  price : Int
  rentWay : Int
  subwayLineId : Option Long
  subwayStationId : Option Long
  distanceToSubway : Int
  layoutDesc : Option String
  roundService : Option String
  traffic : Option String
  description : Option String
  cover : Option String
  tags : Option (List String)
  photos : Option (List PhotoForm)
  deriving DecidableEq

/-- `String.length()` of Java: UTF-16 code units. -/
def utf16Length (s : String) : Nat :=
  s.toList.foldl (fun n c => n + if c.toNat < 0x10000 then 1 else 2) 0

/-! The messages of annotations without one, from the validator's own English
texts. -/

def minMessage (value : Int) : String := "must be greater than or equal to " ++ toString value
def maxMessage (value : Int) : String := "must be less than or equal to " ++ toString value
def sizeMessage (min max : Nat) : String := "size must be between " ++ toString min ++ " and " ++ toString max

/-- The bean constraints a form with its required fields can still break,
each with its message.
mirrors soufang/src/main/java/com/wf/web/form/HouseForm.java:15-86 -/
def HouseForm.violations (f : HouseForm) : List (String × String) :=
  let check (ok : Bool) (field message : String) := if ok then [] else [(field, message)]
  let size (s : String) (min max : Nat) : Bool := min ≤ utf16Length s && utf16Length s ≤ max
  let nonempty (s : String) : Bool := 1 ≤ utf16Length s
  check (size f.title 1 30) "title" "标题长度必须在1~30之间" ++
  check (nonempty f.cityEnName) "cityEnName" "非法的城市" ++
  check (nonempty f.regionEnName) "regionEnName" "非法的地区" ++
  check (nonempty f.street) "street" "非法的街道" ++
  check (size f.detailAddress 1 30) "detailAddress" "详细地址长度必须在1~30之间" ++
  check (1 ≤ f.room) "room" "非法的卧室数量" ++
  check (1900 ≤ f.buildYear) "buildYear" "非法的建筑起始时间" ++
  check (1 ≤ f.area) "area" (minMessage 1) ++
  check (1 ≤ f.price) "price" (minMessage 1) ++
  check (0 ≤ f.rentWay) "rentWay" (minMessage 0) ++
  check (f.rentWay ≤ 1) "rentWay" (maxMessage 1) ++
  check (f.description.all fun s => size s 0 255) "description" (sizeMessage 0 255)

/-! ## Outcomes -/

/-- The exceptions the modelled code can raise or let through. -/
inductive Exn
  | illegalArgument
  | nullPointer
  | arithmetic
  | dataIntegrityViolation
  | incorrectResultSize
  | badSqlGrammar
  | propertyReference
  | transactionRequired
  | elasticsearch
  deriving DecidableEq

/-- mirrors soufang/src/main/java/com/wf/service/ServiceResult.java:7-79 -/
structure ServiceResult (α : Type) where
  success : Bool
  message : Option String
  result : Option α
  deriving DecidableEq

def ServiceResult.ok {α : Type} : ServiceResult α := ⟨true, none, none⟩
def ServiceResult.of {α : Type} (a : α) : ServiceResult α := ⟨true, none, some a⟩
def ServiceResult.fail {α : Type} (message : String) : ServiceResult α := ⟨false, some message, none⟩
def ServiceResult.notFound {α : Type} : ServiceResult α := .fail "Not Found Resource!"

/-- mirrors soufang/src/main/java/com/wf/service/ServiceMultiResult.java:10-17 -/
structure ServiceMultiResult (α : Type) where
  total : Nat
  result : List α
  deriving DecidableEq

/-! ## The database -/

structure Db where
  house : Table House
  detail : Table HouseDetail
  picture : Table HousePicture
  tag : Table HouseTag
  subway : List Subway
  subwayStation : List SubwayStation
  supportAddress : List SupportAddress
  deriving DecidableEq

/-- No house yet; the subway and address tables are given. -/
def Db.empty (subway : List Subway) (station : List SubwayStation) (address : List SupportAddress) : Db :=
  ⟨.empty, .empty, .empty, .empty, subway, station, address⟩

namespace Db

/-- `CrudRepository.findOne` refuses a null id. -/
def findOne {α : Type} (find : Long → Option α) : Option Long → Except Exn (Option α)
  | none => .error .illegalArgument
  | some i => .ok (find i)

def findSubway (db : Db) : Option Long → Except Exn (Option Subway) :=
  findOne fun i => db.subway.find? fun s => s.id = i

def findSubwayStation (db : Db) : Option Long → Except Exn (Option SubwayStation) :=
  findOne fun i => db.subwayStation.find? fun s => s.id = i

/-- mirrors soufang/src/main/java/com/wf/repository/HouseDetailRepository.java:14 -/
def findDetailByHouseId (db : Db) (houseId : Long) : Option HouseDetail :=
  db.detail.rows.find? fun d => d.houseId = houseId

/-- mirrors soufang/src/main/java/com/wf/repository/HouseTagRepository.java:14 -/
def findTagByNameAndHouseId (db : Db) (name : String) (houseId : Long) : Option HouseTag :=
  db.tag.rows.find? fun t => t.name = name ∧ t.houseId = houseId

def findAllPicturesByHouseId (db : Db) (houseId : Long) : List HousePicture :=
  db.picture.rows.filter fun p => p.houseId = houseId

def findAllTagsByHouseId (db : Db) (houseId : Long) : List HouseTag :=
  db.tag.rows.filter fun t => t.houseId = houseId

/-- A derived query for one row: null without a match, an exception with
several.
mirrors soufang/src/main/java/com/wf/repository/SupportAddressRepository.java:19 -/
def findByEnNameAndLevel (db : Db) (enName level : String) : Except Exn (Option SupportAddress) :=
  match db.supportAddress.filter fun a => a.enName = enName ∧ a.level = level with
  | [] => .ok none
  | [a] => .ok (some a)
  | _ => .error .incorrectResultSize

/-- The status of a house row. -/
def statusOf (db : Db) (id : Long) : Option Int := (db.house.find? id).map House.status

end Db

/-! ## Lookups -/

section
variable {db : Db}

theorem findDetail_some {h : Long} {d : HouseDetail} (hd : db.findDetailByHouseId h = some d) :
    d ∈ db.detail.rows ∧ d.houseId = h :=
  ⟨List.mem_of_find?_eq_some hd, by simpa using List.find?_some hd⟩

theorem findDetail_none {h : Long} :
    db.findDetailByHouseId h = none ↔ ∀ d ∈ db.detail.rows, d.houseId ≠ h := by
  simp [Db.findDetailByHouseId, List.find?_eq_none]

/-- The unique key: a house has at most one detail row. -/
theorem detail_houseIds (db : Db) : (db.detail.rows.map HouseDetail.houseId).Nodup := by
  have hu := db.detail.uniques
  have he : db.detail.rows.filterMap (Entity.uniq (α := HouseDetail)) =
      db.detail.rows.map HouseDetail.houseId :=
    List.filterMap_eq_map (f := HouseDetail.houseId) ▸ rfl
  rwa [he] at hu

theorem detail_inj {d d' : HouseDetail} (hd : d ∈ db.detail.rows) (hd' : d' ∈ db.detail.rows)
    (h : d.houseId = d'.houseId) : d = d' :=
  List.inj_on_of_nodup_map (detail_houseIds db) hd hd' h

theorem findDetail_eq_some {h : Long} {d : HouseDetail} :
    db.findDetailByHouseId h = some d ↔ d ∈ db.detail.rows ∧ d.houseId = h := by
  have hu : ∀ a ∈ db.detail.rows, ∀ b ∈ db.detail.rows, a.houseId = h → b.houseId = h → a = b := by
    intro a ha b hb hah hbh
    exact detail_inj ha hb (hah.trans hbh.symm)
  exact find?_eq_some_of_unique hu

theorem findTag_some {name : String} {h : Long} {t : HouseTag}
    (ht : db.findTagByNameAndHouseId name h = some t) :
    t ∈ db.tag.rows ∧ t.name = name ∧ t.houseId = h :=
  ⟨List.mem_of_find?_eq_some ht, by simpa using List.find?_some ht⟩

theorem findTag_none {name : String} {h : Long} :
    db.findTagByNameAndHouseId name h = none ↔
      ∀ t ∈ db.tag.rows, t.name = name → t.houseId ≠ h := by
  simp [Db.findTagByNameAndHouseId, List.find?_eq_none]

end

end Soufang
