import Soufang.L2Service.SearchService

/-!
# The writing operations of `HouseService`

Each operation maps the database (or, where it sends a message, the system)
to the database after it and what the caller gets: a `ServiceResult` or an
exception.

* `modelMapper.map` copies the equally named properties, nulls included.
* A repository call is its own transaction unless the caller is
  `@Transactional`: `save` is not, so what it stored before a failing call
  stays; `update` and `updateStatus` are, so an exception changes nothing. A
  `@Modifying` query starts none and throws without the caller's (`modifying`).
* `Faults` names the repository calls of `save` that the database refuses
  for a reason outside this model (a text longer than its column, a lost
  connection). A duplicate unique key is refused by the `Table` itself.
-/
namespace Soufang

structure HouseDTO where
  house : House
  houseDetail : Option HouseDetail
  tags : List String
  pictures : List HousePicture
  deriving DecidableEq

structure Faults where
  house : Bool
  detail : Bool
  picture : Bool
  tag : Bool
  deriving DecidableEq

def Faults.none : Faults := ⟨false, false, false, false⟩

/-- The answer of the object store to a delete. -/
inductive QiNiuAnswer
  | ok
  | refused (error : String)
  | exception (message : String)
  deriving DecidableEq

namespace HouseService

/-- `new House()`: numbers are 0; the text columns are null until `mapForm`
sets them. -/
def newHouse : House where
  id := 0
  title := ""
  adminId := 0
  price := 0
  area := 0
  room := 0
  parlour := 0
  bathroom := 0
  floor := 0
  totalFloor := 0
  watchTimes := 0
  buildYear := 0
  status := 0
  createTime := 0
  lastUpdateTime := 0
  cityEnName := ""
  regionEnName := ""
  street := ""
  district := ""
  direction := 0
  cover := none
  distanceToSubway := 0

def newDetail : HouseDetail where
  id := 0
  houseId := 0
  description := none
  layoutDesc := none
  traffic := none
  roundService := none
  rentWay := 0
  detailAddress := ""
  subwayLineId := none
  subwayStationId := none
  subwayLineName := none
  subwayStationName := none

/-- `modelMapper.map(houseForm, house)` but for the id, which the callers
handle. -/
def mapForm (f : HouseForm) (h : House) : House :=
  { h with
    title := f.title, price := f.price, area := f.area, room := f.room, parlour := f.parlour,
    floor := f.floor, totalFloor := f.totalFloor, buildYear := f.buildYear,
    cityEnName := f.cityEnName, regionEnName := f.regionEnName, street := f.street,
    district := f.district, direction := f.direction, cover := f.cover,
    distanceToSubway := f.distanceToSubway }

/-- `==` on two separately loaded `java.lang.Long` boxes. -/
def sameBox (a b : Long) : Bool := decide (a = b ∧ -128 ≤ a ∧ a ≤ 127)

/-- Inner error: the message of the `ServiceResult` it returns.
mirrors soufang/src/main/java/com/wf/service/house/HouseService.java:499-522 -/
def wrapperDetailInfo (db : Db) (d : HouseDetail) (f : HouseForm) :
    Except Exn (Except String HouseDetail) :=
  match db.findSubway f.subwayLineId with
  | .error e => .error e
  | .ok none => .ok (.error "Not valid subway line!")
  | .ok (some subway) =>
    match db.findSubwayStation f.subwayStationId with
    | .error e => .error e
    | .ok none => .ok (.error "Not valid subway station!")
    | .ok (some station) =>
      if !sameBox subway.id station.subwayId then .ok (.error "Not valid subway station!")
      else .ok (.ok { d with
        subwayLineId := some subway.id, subwayLineName := some subway.name,
        subwayStationId := some station.id, subwayStationName := some station.name,
        description := f.description, detailAddress := f.detailAddress,
        layoutDesc := f.layoutDesc, rentWay := f.rentWay,
        roundService := f.roundService, traffic := f.traffic })

/-- mirrors soufang/src/main/java/com/wf/service/house/HouseService.java:530-546 -/
def generatePictures (cdnPrefix : String) (f : HouseForm) (houseId : Long) : List HousePicture :=
  (f.photos.getD []).map fun p => ⟨0, houseId, p.path, cdnPrefix, p.width, p.height⟩

/-- An UPDATE of the columns of one house row other than its id. -/
def rewriteHouse (t : Table House) (id : Long) (f : House → House) : Table House :=
  t.modify id (fun h => { f h with id := h.id }) (fun _ => rfl) (fun _ => rfl)

/-- An UPDATE of the columns of one detail row other than its keys. -/
def rewriteDetail (t : Table HouseDetail) (id : Long) (f : HouseDetail → HouseDetail) : Table HouseDetail :=
  t.modify id (fun d => { f d with id := d.id, houseId := d.houseId }) (fun _ => rfl) (fun _ => rfl)

/-- `CrudRepository.save` of a house: a merge over the row with the given id,
an insert when the id is null or names no row. Returns the id of the row.
mirrors soufang/src/main/java/com/wf/repository/HouseRepository.java:18 -/
def saveHouse (t : Table House) (id : Option Long) (h : House) : Option (Long × Table House) :=
  match id.bind t.find? with
  | some old => some (old.id, rewriteHouse t old.id fun _ => h)
  | none => (t.insert? h).map fun t' => (t.next, t')

/-- A repository call that may be refused for an outside reason. -/
def guarded {α : Type} (fault : Bool) (r : Option α) : Option α := if fault then none else r

/-- The row `save` hands to `houseRepository.save`.
mirrors soufang/src/main/java/com/wf/service/house/HouseService.java:80-85 -/
def savedHouse (user : Long) (now : Date) (f : HouseForm) : House :=
  { mapForm f newHouse with createTime := now, lastUpdateTime := now, adminId := user }

def formTags (f : HouseForm) (houseId : Long) : List HouseTag :=
  (f.tags.getD []).map fun name => ⟨0, houseId, name⟩

/-- The result `save` builds from the stored rows.
mirrors soufang/src/main/java/com/wf/service/house/HouseService.java:94-112 -/
def savedDTO (cdnPrefix : String) (h : House) (d : HouseDetail) (ps : List HousePicture)
    (f : HouseForm) : HouseDTO :=
  ⟨{ h with cover := some (cdnPrefix ++ h.cover.getD "null") }, some d, f.tags.getD [], ps⟩

/-- mirrors soufang/src/main/java/com/wf/service/house/HouseService.java:72-114 -/
def save (cdnPrefix : String) (faults : Faults) (user : Long) (now : Date) (f : HouseForm) (db : Db) :
    Db × Except Exn (ServiceResult HouseDTO) :=
  match wrapperDetailInfo db newDetail f with
  | .error e => (db, .error e)
  | .ok (.error message) => (db, .ok (.fail message))
  | .ok (.ok detail) =>
    let house := savedHouse user now f
    match guarded faults.house (saveHouse db.house f.id house) with
    | none => (db, .error .dataIntegrityViolation)
    | some (id, houses) =>
      let db := { db with house := houses }
      let detail := { detail with houseId := id }
      match guarded faults.detail (db.detail.insert? detail) with
      | none => (db, .error .dataIntegrityViolation)
      | some details =>
        let detail := { detail with id := db.detail.next }
        let db := { db with detail := details }
        let pictures := generatePictures cdnPrefix f id
        match guarded faults.picture (db.picture.insertAll? pictures) with
        | none => (db, .error .dataIntegrityViolation)
        | some picturesStored =>
          let saved := Table.numbered db.picture.next pictures
          let db := { db with picture := picturesStored }
          let dto := savedDTO cdnPrefix { house with id := id } detail saved f
          if (f.tags.getD []).isEmpty then (db, .ok (.of dto))
          else
            match guarded faults.tag (db.tag.insertAll? (formTags f id)) with
            | none => (db, .error .dataIntegrityViolation)
            | some tags => ({ db with tag := tags }, .ok (.of dto))

/-- The reads and checks of `update`: the house row and the rewritten detail.
mirrors soufang/src/main/java/com/wf/service/house/HouseService.java:196-207 -/
def updateLoad (db : Db) (f : HouseForm) : Except Exn (Except String (House × HouseDetail)) :=
  match Db.findOne db.house.find? f.id with
  | .error e => .error e
  | .ok none => .ok (.error "Not Found Resource!")
  | .ok (some house) =>
    match db.findDetailByHouseId house.id with
    | none => .ok (.error "Not Found Resource!")
    | some detail =>
      match wrapperDetailInfo db detail f with
      | .error e => .error e
      | .ok (.error message) => .ok (.error message)
      | .ok (.ok detail) => .ok (.ok (house, detail))

/-- The row `update` hands to `houseRepository.save`: the in-memory copy with
the form over it; without a cover in the form the copy's own stays.
mirrors soufang/src/main/java/com/wf/service/house/HouseService.java:212-217 -/
def updatedHouse (now : Date) (f : HouseForm) (house : House) : House :=
  { mapForm f house with cover := f.cover <|> house.cover, lastUpdateTime := now }

/-- The writes of `update`; the save of the house writes every column.
mirrors soufang/src/main/java/com/wf/service/house/HouseService.java:208-218 -/
def updateStore (cdnPrefix : String) (now : Date) (f : HouseForm) (house : House) (detail : HouseDetail)
    (db : Db) : Option Db :=
  match db.picture.insertAll? (generatePictures cdnPrefix f house.id) with
  | none => none
  | some pictures => some { db with
      picture := pictures
      detail := rewriteDetail db.detail detail.id fun _ => detail
      house := rewriteHouse db.house house.id fun _ => updatedHouse now f house }

/-- mirrors soufang/src/main/java/com/wf/service/house/HouseService.java:193-224 -/
def update (cdnPrefix : String) (now : Date) (f : HouseForm) (db : Db) :
    Db × Except Exn (ServiceResult Unit) :=
  match updateLoad db f with
  | .error e => (db, .error e)
  | .ok (.error message) => (db, .ok (.fail message))
  | .ok (.ok (house, detail)) =>
    match updateStore cdnPrefix now f house detail db with
    | none => (db, .error .dataIntegrityViolation)
    | some db' => (db', .ok .ok)

/-- mirrors soufang/src/main/java/com/wf/service/house/HouseService.java:226-245 -/
def removePhoto (id : Long) (answer : QiNiuAnswer) (db : Db) : Db × ServiceResult Unit :=
  match db.picture.find? id with
  | none => (db, .notFound)
  | some _ =>
    match answer with
    | .ok => ({ db with picture := db.picture.remove fun p => decide (p.id = id) }, .ok)
    | .refused error => (db, .fail error)
    | .exception message => (db, .fail message)

/-- A declared `@Modifying` query: unlike the methods every repository inherits
it has no transaction of its own, and refuses to run without one. -/
def modifying (transaction : Bool) (query : Db → Db) (db : Db) : Except Exn Db :=
  if transaction then .ok (query db) else .error .transactionRequired

/-- mirrors soufang/src/main/java/com/wf/repository/HouseRepository.java:20-22 -/
def setCover (id : Long) (cover : String) (db : Db) : Db :=
  { db with house := rewriteHouse db.house id fun h => { h with cover := some cover } }

/-- Neither this method nor its caller is `@Transactional`.
mirrors soufang/src/main/java/com/wf/service/house/HouseService.java:246-256 -/
def updateCover (coverId targetId : Long) (db : Db) : Db × Except Exn (ServiceResult Unit) :=
  match db.picture.find? coverId with
  | none => (db, .ok .notFound)
  | some cover =>
    match modifying false (setCover targetId cover.path) db with
    | .error e => (db, .error e)
    | .ok db' => (db', .ok .ok)

/-- mirrors soufang/src/main/java/com/wf/service/house/HouseService.java:258-272 -/
def addTag (houseId : Long) (tag : String) (db : Db) : Db × Except Exn (ServiceResult Unit) :=
  match db.house.find? houseId with
  | none => (db, .ok .notFound)
  | some _ =>
    match db.findTagByNameAndHouseId tag houseId with
    | some _ => (db, .ok (.fail "标签已存在"))
    | none =>
      match db.tag.insert? ⟨0, houseId, tag⟩ with
      | none => (db, .error .dataIntegrityViolation)
      | some tags => ({ db with tag := tags }, .ok .ok)

/-- mirrors soufang/src/main/java/com/wf/service/house/HouseService.java:274-288 -/
def removeTag (houseId : Long) (tag : String) (db : Db) : Db × ServiceResult Unit :=
  match db.house.find? houseId with
  | none => (db, .notFound)
  | some _ =>
    match db.findTagByNameAndHouseId tag houseId with
    | none => (db, .fail "标签不存在")
    | some t => ({ db with tag := db.tag.remove fun r => decide (r.id = t.id) }, .ok)

/-- The guards of `updateStatus` on the row it read; `none` lets it pass.
mirrors soufang/src/main/java/com/wf/service/house/HouseService.java:298-308 -/
def statusRefusal (house : House) (status : Int) : Option String :=
  if house.status = status then some "状态没有发生变化"
  else if house.status = HouseStatus.RENTED.value then some "已出租的房源不允许修改状态"
  else if house.status = HouseStatus.DELETED.value then some "已删除的资源不允许操作"
  else none

/-- mirrors soufang/src/main/java/com/wf/repository/HouseRepository.java:28-30 -/
def setStatus (id : Long) (status : Int) (db : Db) : Db :=
  { db with house := rewriteHouse db.house id fun h => { h with status := status } }

/-- The message that belongs to a new status.
mirrors soufang/src/main/java/com/wf/service/house/HouseService.java:312-317 -/
def notifySearch (id : Long) (status : Int) (s : Sys) : Sys :=
  if status = HouseStatus.PASSES.value then SearchService.index id s else SearchService.remove id s

/-- mirrors soufang/src/main/java/com/wf/service/house/HouseService.java:290-319 -/
def updateStatus (id : Long) (status : Int) (s : Sys) : Sys × ServiceResult Unit :=
  match s.db.house.find? id with
  | none => (s, .notFound)
  | some house =>
    match statusRefusal house status with
    | some message => (s, .fail message)
    | none => (notifySearch id status { s with db := setStatus id status s.db }, .ok)

end HouseService

/-- mirrors soufang/src/main/java/com/wf/base/HouseOperation.java:7-15 -/
inductive HouseOperation | PASS | PULL_OUT | DELETE | RENT
  deriving DecidableEq

namespace HouseOperation

def code : HouseOperation → Int
  | .PASS => 1
  | .PULL_OUT => 2
  | .DELETE => 3
  | .RENT => 4

/-- The status each case of the switch in `operateHouse` asks for. -/
def status : HouseOperation → HouseStatus
  | .PASS => .PASSES
  | .PULL_OUT => .NOT_AUDITED
  | .DELETE => .DELETED
  | .RENT => .RENTED

def ofCode (code : Int) : Option HouseOperation :=
  if code = HouseOperation.PASS.code then some .PASS
  else if code = HouseOperation.PULL_OUT.code then some .PULL_OUT
  else if code = HouseOperation.DELETE.code then some .DELETE
  else if code = HouseOperation.RENT.code then some .RENT
  else none

end HouseOperation

/-- An HTTP answer: its code and, where the code sets one, its message. -/
structure ApiResponse where
  code : Int
  message : Option String
  deriving DecidableEq

/-- mirrors soufang/src/main/java/com/wf/web/controller/admin/AdminController.java:335-364 -/
def AdminController.operateHouse (id operation : Int) (s : Sys) : Sys × ApiResponse :=
  if id ≤ 0 then (s, ⟨40005, some "Not valid Params"⟩)
  else
    match HouseOperation.ofCode operation with
    | none => (s, ⟨400, some "Bad Request"⟩)
    | some op =>
      match HouseService.updateStatus id op.status.value s with
      | (s', r) => (s', if r.success then ⟨200, some "OK"⟩ else ⟨400, r.message⟩)

end Soufang
