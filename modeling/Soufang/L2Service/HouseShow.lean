import Soufang.L2Service.AddressService
import Soufang.L2Service.HouseSpec
import Soufang.L2Service.MapAggregate
import Soufang.L2Service.Subscribe
import Soufang.L2Service.UserService

/-!
# The two pages of one house

`HouseController.show` is the public page of a house, `houseEditPage` the form
an administrator edits it in. Both load the house with `findCompleteOne` and
look up its addresses; the first adds the agent and the number of rentals in
the district, the second the subway line and station.

Each lookup dereferences its row, or gives it to `modelMapper.map`, which
refuses a null. `Renderable` says that the rows are there; then both pages are
shown (`show_renderable`, `houseEditPage_renderable`).

* A `SupportAddressDTO`, `SubwayDTO` and `SubwayStationDTO` have the fields of
  their rows, a `HousePictureDTO` those of a picture; the `address` of a
  `HouseDetailDTO` is the detail address.
* `user` is `getLoginUserId`, -1 for a visitor.
-/
namespace Soufang

/-- A `HouseDTO` with its subscribe status.
mirrors soufang/src/main/java/com/wf/web/dto/HouseDTO.java:11-62 -/
structure CompleteHouse extends HouseDTO where
  subscribeStatus : Int
  deriving DecidableEq

/-- mirrors soufang/src/main/java/com/wf/web/dto/UserDTO.java:6-11 -/
structure UserDTO where
  id : Long
  name : Option String
  phoneNumber : String
  deriving DecidableEq

namespace HouseService

/-- The status of the reservation of a user who is logged in.
mirrors soufang/src/main/java/com/wf/service/house/HouseService.java:185-190 -/
def subscribeStatus (subscribe : Table HouseSubscribe) (user houseId : Long) : Int :=
  if user > 0 then
    match findByHouseIdAndUserId subscribe houseId user with
    | some s => s.status
    | none => HouseSubscribeStatus.NO_SUBSCRIBE.value
  else HouseSubscribeStatus.NO_SUBSCRIBE.value

/-- mirrors soufang/src/main/java/com/wf/service/house/HouseService.java:157-193 -/
def findCompleteOne (subscribe : Table HouseSubscribe) (user id : Long) (db : Db) :
    Except Exn (ServiceResult CompleteHouse) :=
  match db.house.find? id with
  | none => .ok .notFound
  | some house =>
    match db.findDetailByHouseId id with
    | none => .error .illegalArgument
    | some detail => .ok (.of {
        house := house
        houseDetail := some detail
        tags := (db.findAllTagsByHouseId id).map HouseTag.name
        pictures := db.findAllPicturesByHouseId id
        subscribeStatus := subscribeStatus subscribe user house.id })

end HouseService

namespace AddressService

/-- mirrors soufang/src/main/java/com/wf/service/house/AddressServiceImpl.java:146-156 -/
def findSubway (db : Db) (subwayId : Option Long) : Except Exn (ServiceResult Subway) :=
  match subwayId with
  | none => .ok .notFound
  | some _ =>
    match db.findSubway subwayId with
    | .error e => .error e
    | .ok none => .ok .notFound
    | .ok (some subway) => .ok (.of subway)

/-- mirrors soufang/src/main/java/com/wf/service/house/AddressServiceImpl.java:158-163 -/
def findSubwayStation (db : Db) (subwayStationId : Option Long) : Except Exn (ServiceResult SubwayStation) :=
  match db.findSubwayStation subwayStationId with
  | .error e => .error e
  | .ok none => .error .illegalArgument
  | .ok (some station) => .ok (.of station)

end AddressService

/-- mirrors soufang/src/main/java/com/wf/service/user/UserServiceImpl.java:54-59 -/
def UserServiceImpl.findById (userId : Long) (t : Users) : Except Exn (ServiceResult UserDTO) :=
  match t.find? userId with
  | none => .error .illegalArgument
  | some user => .ok (.of ⟨user.id, user.name, user.phoneNumber⟩)

/-- What `house-detail` is rendered with. -/
structure DetailPage where
  city : SupportAddress
  region : SupportAddress
  agent : Option UserDTO
  house : CompleteHouse
  houseCountInDistrict : Nat
  deriving DecidableEq

/-- What `admin/house-edit` is rendered with. -/
structure EditPage where
  house : CompleteHouse
  city : Option SupportAddress
  region : Option SupportAddress
  subway : Option Subway
  station : Option SubwayStation
  deriving DecidableEq

/-- `Map.get`. -/
def addressAt (addressMap : List (Level × SupportAddress)) (level : Level) : Option SupportAddress :=
  (addressMap.find? fun entry => entry.1 = level).map Prod.snd

/-- `none` is the page 404.
mirrors soufang/src/main/java/com/wf/web/controller/house/HouseController.java:173-204 -/
def HouseController.show (order : Buckets.Order String) (env : Env) (answer : Status) (user houseId : Long)
    (b : Bookings) (users : Users) : Except Exn (Option DetailPage) :=
  if houseId ≤ 0 then .ok none
  else
    match HouseService.findCompleteOne b.subscribe user houseId b.sys.db with
    | .error e => .error e
    | .ok serviceResult =>
      match serviceResult.result with
      | none => .ok none
      | some houseDTO =>
        match AddressService.findCityAndRegion b.sys.db houseDTO.house.cityEnName houseDTO.house.regionEnName with
        | .error e => .error e
        | .ok addressMap =>
          match UserServiceImpl.findById houseDTO.house.adminId users with
          | .error e => .error e
          | .ok agent =>
            match addressAt addressMap .CITY, addressAt addressMap .REGION with
            | some city, some region =>
              match SearchService.aggregateDistrictHouse order env answer city.enName region.enName
                  houseDTO.house.district b.sys.es with
              | .error e => .error e
              | .ok count => .ok (some ⟨city, region, agent.result, houseDTO, count⟩)
            | _, _ => .error .nullPointer

/-- `none` is the page 404.
mirrors soufang/src/main/java/com/wf/web/controller/admin/AdminController.java:195-224 -/
def AdminController.houseEditPage (user : Long) (id : Option Long) (b : Bookings) : Except Exn (Option EditPage) :=
  match id with
  | none => .ok none
  | some id =>
    if id < 1 then .ok none
    else
      match HouseService.findCompleteOne b.subscribe user id b.sys.db with
      | .error e => .error e
      | .ok serviceResult =>
        match serviceResult.result with
        | none => .ok none
        | some result =>
          match AddressService.findCityAndRegion b.sys.db result.house.cityEnName result.house.regionEnName with
          | .error e => .error e
          | .ok addressMap =>
            match result.houseDetail with
            | none => .error .nullPointer
            | some detailDTO =>
              match AddressService.findSubway b.sys.db detailDTO.subwayLineId with
              | .error e => .error e
              | .ok subway =>
                match AddressService.findSubwayStation b.sys.db detailDTO.subwayStationId with
                | .error e => .error e
                | .ok station => .ok (some ⟨result, addressAt addressMap .CITY, addressAt addressMap .REGION,
                    subway.result, station.result⟩)

/-! ## Pages whose rows are there -/

/-- Every row the pages of a house look up is there. -/
structure Renderable (db : Db) (users : Users) (house : House) : Prop where
  positive : 0 < house.id
  stored : db.house.find? house.id = some house
  detail : ∃ detail subway station, db.findDetailByHouseId house.id = some detail ∧
    db.findSubway detail.subwayLineId = .ok (some subway) ∧
    db.findSubwayStation detail.subwayStationId = .ok (some station)
  address : ∃ m, AddressService.findCityAndRegion db house.cityEnName house.regionEnName = .ok m
  agent : ∃ user, users.find? house.adminId = some user

/-- The detail page is about the house: its addresses, its agent. -/
structure DetailPage.About (page : DetailPage) (house : House) : Prop where
  ofHouse : page.house.house = house
  city : page.city.enName = house.cityEnName
  region : page.region.enName = house.regionEnName
  inCity : page.region.belongTo = house.cityEnName
  agent : page.agent.map UserDTO.id = some house.adminId

/-- The form holds the house, its addresses, and the subway station it names. -/
structure EditPage.About (page : EditPage) (house : House) : Prop where
  ofHouse : page.house.house = house
  city : page.city.map SupportAddress.enName = some house.cityEnName
  region : page.region.map SupportAddress.enName = some house.regionEnName
  subway : ∃ detail, page.house.houseDetail = some detail ∧ detail.houseId = house.id ∧
    page.subway.map Subway.id = detail.subwayLineId ∧ page.station.map SubwayStation.id = detail.subwayStationId

section
variable {b : Bookings} {users : Users} {house : House}

theorem findCityAndRegion_rows {db : Db} {city region : String} {m : List (Level × SupportAddress)}
    (h : AddressService.findCityAndRegion db city region = .ok m) :
    ∃ c r, addressAt m .CITY = some c ∧ addressAt m .REGION = some r ∧ c.enName = city ∧ r.enName = region ∧
      r.belongTo = city := by
  obtain ⟨c, r, hc, hr, rfl⟩ := AddressService.findCityAndRegion_ok.mp h
  have hcm : c ∈ db.supportAddress.filter fun a => a.enName = city ∧ a.level = Level.CITY.value := by
    rw [hc]; exact List.mem_singleton_self c
  have hrm : r ∈ db.supportAddress.filter fun a => a.enName = region ∧ a.belongTo = city := by
    rw [hr]; exact List.mem_singleton_self r
  have hcity := of_decide_eq_true (List.mem_filter.mp hcm).2
  have hregion := of_decide_eq_true (List.mem_filter.mp hrm).2
  exact ⟨c, r, rfl, rfl, hcity.1, hregion.1, hregion.2⟩

theorem findSubway_id {db : Db} {id : Option Long} {subway : Subway} (h : db.findSubway id = .ok (some subway)) :
    some subway.id = id := by
  cases id with
  | none => cases h
  | some i =>
    have hfind : db.subway.find? (fun s => s.id = i) = some subway := Except.ok.inj h
    rw [Option.some.injEq]
    simpa using List.find?_some hfind

theorem findSubwayStation_id {db : Db} {id : Option Long} {station : SubwayStation}
    (h : db.findSubwayStation id = .ok (some station)) : some station.id = id := by
  cases id with
  | none => cases h
  | some i =>
    have hfind : db.subwayStation.find? (fun s => s.id = i) = some station := Except.ok.inj h
    rw [Option.some.injEq]
    simpa using List.find?_some hfind

theorem findCompleteOne_renderable (hc : Renderable b.sys.db users house) (user : Long) :
    ∃ complete : CompleteHouse, complete.house = house ∧
      complete.houseDetail = b.sys.db.findDetailByHouseId house.id ∧
      HouseService.findCompleteOne b.subscribe user house.id b.sys.db = .ok (.of complete) := by
  obtain ⟨detail, subway, station, hdetail, -, -⟩ := hc.detail
  unfold HouseService.findCompleteOne
  simp only [hc.stored, hdetail]
  exact ⟨_, rfl, rfl, rfl⟩

/-- **The detail page of a complete house.** It is shown unless the count of
the district throws. -/
theorem show_renderable (hc : Renderable b.sys.db users house) (order : Buckets.Order String) (env : Env)
    {answer : Status} (ha : answer ≠ .threw) (user : Long) :
    ∃ page, HouseController.show order env answer user house.id b users = .ok (some page) ∧ page.About house := by
  obtain ⟨complete, hhouse, -, hfound⟩ := findCompleteOne_renderable hc user
  obtain ⟨m, hm⟩ := hc.address
  obtain ⟨c, r, hcity, hregion, hcn, hrn, hbelong⟩ := findCityAndRegion_rows hm
  obtain ⟨agent, hagent⟩ := hc.agent
  have hagentId : agent.id = house.adminId := (KeyedTable.find?_eq_some.mp hagent).2
  obtain ⟨count, hcount⟩ : ∃ count, SearchService.aggregateDistrictHouse order env answer c.enName r.enName
      house.district b.sys.es = .ok count := by
    cases answer with
    | threw => exact absurd rfl ha
    | failed => exact ⟨0, rfl⟩
    | ok => exact ⟨_, SearchService.aggregateDistrictHouse_eq ..⟩
  unfold HouseController.show
  rw [if_neg (not_le.mpr hc.positive)]
  simp only [hfound, ServiceResult.of, hhouse, hm, UserServiceImpl.findById, hagent, hcity, hregion, hcount]
  exact ⟨_, rfl, hhouse, hcn, hrn, hbelong, by simp [hagentId]⟩

/-- **The form of a complete house.** -/
theorem houseEditPage_renderable (hc : Renderable b.sys.db users house) (user : Long) :
    ∃ page, AdminController.houseEditPage user (some house.id) b = .ok (some page) ∧ page.About house := by
  obtain ⟨complete, hhouse, hdet, hfound⟩ := findCompleteOne_renderable hc user
  obtain ⟨m, hm⟩ := hc.address
  obtain ⟨c, r, hcity, hregion, hcn, hrn, -⟩ := findCityAndRegion_rows hm
  obtain ⟨detail, subway, station, hdetail, hsubway, hstation⟩ := hc.detail
  have hline := findSubway_id hsubway
  have hstop := findSubwayStation_id hstation
  rw [hdetail] at hdet
  have hlookup : AddressService.findSubway b.sys.db detail.subwayLineId = .ok (.of subway) := by
    rw [← hline] at hsubway ⊢
    simp only [AddressService.findSubway, hsubway]
  unfold AdminController.houseEditPage
  dsimp only
  rw [if_neg (not_lt.mpr hc.positive)]
  simp only [hfound, ServiceResult.of, hhouse, hm, hdet, hlookup, AddressService.findSubwayStation, hstation]
  refine ⟨_, rfl, hhouse, by simp [hcity, hcn], by simp [hregion, hrn], detail, hdet, ?_, ?_, ?_⟩
  · exact (findDetail_some hdetail).2
  · simpa using hline
  · simpa using hstop

end

end Soufang
