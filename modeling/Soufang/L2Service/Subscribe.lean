import Soufang.L2Service.HouseQuery

/-!
# Reservations

A user puts a house on the list of houses to visit; the row of
`house_subscribe` names the house, the user and the administrator the house
belongs to. `Bookings` is the system with this table.

`querySubscribeList` shows one page of a user's reservations, each with its
house. The houses are loaded in a second query and put into a map; `Pair.of`
refuses a null, so a reservation whose house is not found fails the call.
-/
namespace Soufang

/-- mirrors soufang/src/main/java/com/wf/base/HouseSubscribeStatus.java:9-32 -/
inductive HouseSubscribeStatus | NO_SUBSCRIBE | IN_ORDER_LIST | IN_ORDER_TIME | FINISH
  deriving DecidableEq

def HouseSubscribeStatus.value : HouseSubscribeStatus → Int
  | .NO_SUBSCRIBE => 0
  | .IN_ORDER_LIST => 1
  | .IN_ORDER_TIME => 2
  | .FINISH => 3

/-- mirrors soufang/src/main/java/com/wf/entity/HouseSubscribe.java:18-53 -/
structure HouseSubscribe where
  id : Long
  houseId : Long
  userId : Long
  adminId : Long
  status : Int
  createTime : Date
  lastUpdateTime : Date
  orderTime : Option Date
  telephone : Option String
  desc : Option String
  deriving DecidableEq

/-! The unique key `index_on_user_and_house` of `db/xunwu.sql`. -/

instance : Entity HouseSubscribe where
  id := HouseSubscribe.id
  withId i r := { r with id := i }
  id_withId _ _ := rfl
  Uniq := Long × Long
  uniq r := some (r.houseId, r.userId)
  uniq_withId _ _ := rfl
  decUniq := inferInstance

structure Bookings where
  sys : Sys
  subscribe : Table HouseSubscribe

namespace HouseService

/-- mirrors soufang/src/main/java/com/wf/repository/HouseSubscribeRespository.java:18 -/
def findByHouseIdAndUserId (t : Table HouseSubscribe) (houseId userId : Long) : Option HouseSubscribe :=
  t.rows.find? fun r => r.houseId = houseId ∧ r.userId = userId

/-- The row `addSubscribeOrder` inserts.
mirrors soufang/src/main/java/com/wf/service/house/HouseService.java:368-375 -/
def newSubscribe (userId : Long) (now : Date) (houseId adminId : Long) : HouseSubscribe where
  id := 0
  houseId := houseId
  userId := userId
  adminId := adminId
  status := HouseSubscribeStatus.IN_ORDER_LIST.value
  createTime := now
  lastUpdateTime := now
  orderTime := none
  telephone := none
  desc := none

/-- mirrors soufang/src/main/java/com/wf/service/house/HouseService.java:357-378 -/
def addSubscribeOrder (userId : Long) (now : Date) (houseId : Long) (b : Bookings) :
    Bookings × Except Exn (ServiceResult Unit) :=
  match findByHouseIdAndUserId b.subscribe houseId userId with
  | some _ => (b, .ok (.fail "已加入预约"))
  | none =>
    match b.sys.db.house.find? houseId with
    | none => (b, .ok (.fail "查无此房"))
    | some house =>
      match b.subscribe.insert? (newSubscribe userId now houseId house.adminId) with
      | none => (b, .error .dataIntegrityViolation)
      | some t => ({ b with subscribe := t }, .ok .ok)

/-! ## The list of a user -/

/-- What the database decides: the order of rows created at the same time,
and the order in which `findAll` returns houses. -/
structure SubscribeEngine where
  rows : SortedArrangement fun a b : HouseSubscribe => Direction.DESC.le a.createTime b.createTime
  houses : Arrangement House

/-- One pair for each reservation, from the map of loaded houses.
mirrors soufang/src/main/java/com/wf/service/house/HouseService.java:408-411 -/
def pairs (houses : List House) : List HouseSubscribe → Except Exn (List (HouseDTO × HouseSubscribe))
  | [] => .ok []
  | s :: rest =>
    match houses.find? fun h => h.id = s.houseId with
    | none => .error .illegalArgument
    | some house =>
      match pairs houses rest with
      | .error e => .error e
      | .ok result => .ok ((⟨house, none, [], []⟩, s) :: result)

/-- `findAll` of no id is empty.
mirrors soufang/src/main/java/com/wf/service/house/HouseService.java:388-414 -/
def wrapper (eng : SubscribeEngine) (total : Nat) (page : List HouseSubscribe) (db : Db) :
    Except Exn (ServiceMultiResult (HouseDTO × HouseSubscribe)) :=
  let houseIds := page.map HouseSubscribe.houseId
  let houses := eng.houses.arrange (db.house.rows.filter fun h => h.id ∈ houseIds)
  match pairs houses page with
  | .error e => .error e
  | .ok result => .ok ⟨total, result⟩

/-- mirrors soufang/src/main/java/com/wf/repository/HouseSubscribeRespository.java:20 -/
def findAllByUserIdAndStatus (t : Table HouseSubscribe) (userId : Long) (status : Int) :
    List HouseSubscribe :=
  t.rows.filter fun r => r.userId = userId ∧ r.status = status

/-- The page `start / size` of the rows found, newest first. -/
def subscribePage (eng : SubscribeEngine) (userId : Long) (status : HouseSubscribeStatus) (page size : Nat)
    (t : Table HouseSubscribe) : List HouseSubscribe :=
  window (page * size) size (eng.rows.arrange (findAllByUserIdAndStatus t userId status.value))

/-- mirrors soufang/src/main/java/com/wf/service/house/HouseService.java:380-387 -/
def querySubscribeList (eng : SubscribeEngine) (userId : Long) (status : HouseSubscribeStatus)
    (start size : Int) (b : Bookings) : Except Exn (ServiceMultiResult (HouseDTO × HouseSubscribe)) :=
  match newPage start size with
  | .error e => .error e
  | .ok (page, size) =>
    wrapper eng (findAllByUserIdAndStatus b.subscribe userId status.value).length
      (subscribePage eng userId status page size b.subscribe) b.sys.db

end HouseService

end Soufang
