import Soufang.L1Data.Entity

/-!
# Index messages and their handler

`SearchService` keeps one Elasticsearch document and one LBS point for every
published house. `index` and `remove` send a `HouseIndexMessage`; the Kafka
listener `handleMessage` takes one message, changes the two stores and, when a
call reports a failure, sends the message again with `retry + 1`, until
`MAX_RETRY`.

**External calls.** `Calls` holds what the calls of one handler run answer:
success, a reported failure, or an exception that leaves the handler (the
listener container then counts the message as consumed). A create, update or
LBS call that does not succeed changes nothing. A delete-by-query removes at
most the number of documents `Deleted` allows, and reports how many. `Env` is
what the services compute when they succeed (the geocoder, the analyzer).

**Search visibility.** `env.nrt = false`: writes are visible to the next
search at once. `env.nrt = true`: searches and delete-by-query see the
documents of the last `refresh`, updates by document id see the live ones.

**The queue** holds the messages in the topic, oldest first; a message whose
JSON names another operation, or does not parse, is only logged by
`handleMessage` and is not one of this type. `gaveUp` records the messages
`index`/`remove` dropped with the "over 3" error log.
-/
namespace Soufang

/-- mirrors soufang/src/main/java/com/wf/service/search/BaiduMapLocation.java:5-12 -/
structure BaiduMapLocation where
  longitude : Rat
  latitude : Rat
  deriving DecidableEq

/-- mirrors soufang/src/main/java/com/wf/service/search/HouseSuggest.java:3-5 -/
structure HouseSuggest where
  input : String
  weight : Int
  deriving DecidableEq

/-- mirrors soufang/src/main/java/com/wf/service/search/HouseIndexTemplate.java:11-54 -/
structure HouseIndexTemplate where
  houseId : Long
  title : String
  price : Int
  area : Int
  createTime : Date
  lastUpdateTime : Date
  cityEnName : String
  regionEnName : String
  direction : Int
  distanceToSubway : Int
  subwayLineName : Option String
  subwayStationName : Option String
  street : String
  district : String
  description : Option String
  layoutDesc : Option String
  traffic : Option String
  roundService : Option String
  rentWay : Int
  tags : Option (List String)
  suggest : Option (List HouseSuggest)
  location : Option BaiduMapLocation
  deriving DecidableEq

structure EsDoc where
  esId : Int
  source : HouseIndexTemplate
  deriving DecidableEq

instance : Entity EsDoc where
  id := EsDoc.esId
  withId i d := { d with esId := i }
  id_withId _ _ := rfl
  Uniq := Unit
  uniq _ := none
  uniq_withId _ _ := rfl
  decUniq := inferInstance

/-- The index: its live documents and those the last refresh made visible. -/
structure Es where
  docs : Table EsDoc
  searched : List EsDoc

/-- A row of the LBS table, the pairs `lbsUpload` posts.
mirrors soufang/src/main/java/com/wf/service/house/AddressServiceImpl.java:218-231 -/
structure LbsPoint where
  houseId : Long
  location : BaiduMapLocation
  price : Int
  area : Int
  title : String
  address : String
  deriving DecidableEq

inductive Operation | index | remove
  deriving DecidableEq

/-- mirrors soufang/src/main/java/com/wf/service/search/HouseIndexMessage.java:3-20 -/
structure HouseIndexMessage where
  houseId : Long
  operation : Operation
  retry : Int
  deriving DecidableEq

def MAX_RETRY : Int := 3

structure Sys where
  db : Db
  es : Es
  lbs : List LbsPoint
  queue : List HouseIndexMessage
  gaveUp : List HouseIndexMessage

structure AnalyzeToken where
  type : String
  term : String

structure Env where
  cdnPrefix : String
  geocode : String → String → BaiduMapLocation
  analyze : List (Option String) → List AnalyzeToken
  nrt : Bool

inductive Status | ok | failed | threw
  deriving DecidableEq

inductive Deleted
  | all
  | atMost (n : Nat)
  | threw
  deriving DecidableEq

/-- What the external calls of one handler run answer. `search = false`: the
search throws. -/
structure Calls where
  geocode : Status
  search : Bool
  analyze : Status
  write : Status
  delete : Deleted
  lbsList : Status
  lbsWrite : Status
  lbsDelete : Status
  deriving DecidableEq

def Calls.success : Calls := ⟨.ok, true, .ok, .ok, .all, .ok, .ok, .ok⟩

/-! ## The index -/

namespace Es

def docsOf (es : Es) (houseId : Long) : List EsDoc :=
  es.docs.rows.filter fun d => d.source.houseId = houseId

/-- The documents a search sees. -/
def visible (env : Env) (es : Es) : List EsDoc := if env.nrt then es.searched else es.docs.rows

def hits (env : Env) (es : Es) (houseId : Long) : List EsDoc :=
  (es.visible env).filter fun d => d.source.houseId = houseId

def refresh (es : Es) : Es := { es with searched := es.docs.rows }

def setSource (es : Es) (esId : Int) (t : HouseIndexTemplate) : Es :=
  { es with docs := es.docs.modify esId (fun d => { d with source := t }) (fun _ => rfl) (fun _ => rfl) }

/-- The visible documents of the house that are still live. -/
def candidates (env : Env) (es : Es) (houseId : Long) : List EsDoc :=
  (es.docsOf houseId).filter fun d => (es.hits env houseId).any fun v => v.esId = d.esId

/-- As many of them as the call gets to delete. -/
def victims (env : Env) (es : Es) (houseId : Long) : Deleted → List EsDoc
  | .all => es.candidates env houseId
  | .atMost n => (es.candidates env houseId).take n
  | .threw => []

/-- Delete-by-query for a house and the number of deleted documents. -/
def deleteByQuery (env : Env) (outcome : Deleted) (houseId : Long) (es : Es) : Es × Option Nat :=
  match outcome with
  | .threw => (es, none)
  | _ =>
    let gone := es.victims env houseId outcome
    ({ es with docs := es.docs.remove fun d => decide (d ∈ gone) }, some gone.length)

end Es

namespace SearchService

/-- The suggestions for a template: its tokens but numbers and those of one
letter, and its district. -/
def suggestions (env : Env) (t : HouseIndexTemplate) : List HouseSuggest :=
  let tokens := env.analyze [some t.title, t.layoutDesc, t.roundService, t.description,
    t.subwayLineName, t.subwayStationName]
  (tokens.filter fun k => !(k.type = "<NUM>" || utf16Length k.term < 2)).map
      (fun k => { input := k.term, weight := 10 }) ++ [{ input := t.district, weight := 10 }]

/-- `none`: the analyze call throws. Its other result is not used by the
callers: without tokens the template is written without suggestions.
mirrors soufang/src/main/java/com/wf/service/search/SearchService.java:442-472 -/
def updateSuggest (env : Env) (analyze : Status) (t : HouseIndexTemplate) :
    Option HouseIndexTemplate :=
  match analyze with
  | .ok => some { t with suggest := some (suggestions env t) }
  | .failed => some t
  | .threw => none

/-- Second component: the boolean result, `none` when a call throws.
mirrors soufang/src/main/java/com/wf/service/search/SearchService.java:492-510 -/
def create (env : Env) (c : Calls) (t : HouseIndexTemplate) (es : Es) : Es × Option Bool :=
  match updateSuggest env c.analyze t with
  | none => (es, none)
  | some t' =>
    match c.write with
    | .ok =>
      match es.docs.insert? { esId := 0, source := t' } with
      | none => (es, some false)
      | some docs => ({ es with docs := docs }, some true)
    | .failed => (es, some false)
    | .threw => (es, none)

/-- The update names every field of the template, nulls included, so the new
source is the template. A document that is gone makes the call throw.
mirrors soufang/src/main/java/com/wf/service/search/SearchService.java:518-537 -/
def update (env : Env) (c : Calls) (esId : Int) (t : HouseIndexTemplate) (es : Es) :
    Es × Option Bool :=
  match updateSuggest env c.analyze t with
  | none => (es, none)
  | some t' =>
    match c.write with
    | .ok =>
      match es.docs.find? esId with
      | none => (es, none)
      | some _ => (es.setSource esId t', some true)
    | .failed => (es, some false)
    | .threw => (es, none)

/-- mirrors soufang/src/main/java/com/wf/service/search/SearchService.java:542-557 -/
def deleteAndCreate (env : Env) (c : Calls) (totalHit : Nat) (t : HouseIndexTemplate) (es : Es) :
    Es × Option Bool :=
  match es.deleteByQuery env c.delete t.houseId with
  | (es', none) => (es', none)
  | (es', some deleted) =>
    if deleted ≠ totalHit then (es', some false) else create env c t es'

/-- The three ways `createOrUpdateIndex` writes, by the number of hits. -/
def writeOver (env : Env) (c : Calls) (t : HouseIndexTemplate) (es : Es) : List EsDoc → Es × Option Bool
  | [] => create env c t es
  | [d] => update env c d.esId t es
  | hits => deleteAndCreate env c hits.length t es

/-- mirrors soufang/src/main/java/com/wf/service/search/SearchService.java:168-182 -/
def writeTemplate (env : Env) (c : Calls) (houseId : Long) (t : HouseIndexTemplate) (es : Es) :
    Es × Option Bool :=
  if c.search then writeOver env c t es (es.hits env houseId) else (es, none)

/-! ## The LBS table -/

/-- mirrors soufang/src/main/java/com/wf/service/house/AddressServiceImpl.java:265-297 -/
def isLbsDataExists (list : Status) (houseId : Long) (lbs : List LbsPoint) : Option Bool :=
  match list with
  | .ok => some (lbs.any fun p => p.houseId = houseId)
  | .failed => some false
  | .threw => none

/-- mirrors soufang/src/main/java/com/wf/service/house/AddressServiceImpl.java:218-263 -/
def lbsUpload (c : Calls) (p : LbsPoint) (lbs : List LbsPoint) : List LbsPoint × Option Bool :=
  match isLbsDataExists c.lbsList p.houseId lbs with
  | none => (lbs, none)
  | some ex =>
    match c.lbsWrite with
    | .ok =>
      (if ex then lbs.map (fun q => if q.houseId = p.houseId then p else q) else lbs ++ [p], some true)
    | .failed => (lbs, some false)
    | .threw => (lbs, none)

/-- mirrors soufang/src/main/java/com/wf/service/house/AddressServiceImpl.java:298-328 -/
def removeLbs (delete : Status) (houseId : Long) (lbs : List LbsPoint) : List LbsPoint × Option Bool :=
  match delete with
  | .ok => (lbs.filter fun p => p.houseId ≠ houseId, some true)
  | .failed => (lbs, some false)
  | .threw => (lbs, none)

/-! ## Messages -/

/-- The private `index(houseId, retry)` and `remove(houseId, retry)`, which
differ in the operation they send.
mirrors soufang/src/main/java/com/wf/service/search/SearchService.java:192-207,474-485 -/
def send (op : Operation) (houseId : Long) (retry : Int) (s : Sys) : Sys :=
  if retry > MAX_RETRY then { s with gaveUp := s.gaveUp ++ [⟨houseId, op, retry⟩] }
  else { s with queue := s.queue ++ [⟨houseId, op, retry⟩] }

/-- `retry + 1` of a Java `int`. -/
def nextRetry (retry : Int) : Int := if retry = 2147483647 then -2147483648 else retry + 1

theorem nextRetry_eq {retry : Int} (h : retry ≤ MAX_RETRY) : nextRetry retry = retry + 1 :=
  if_neg fun he => absurd (he ▸ h) (by decide)

def index (houseId : Long) (s : Sys) : Sys := send .index houseId 0 s

def remove (houseId : Long) (s : Sys) : Sys := send .remove houseId 0 s

/-! ## The handlers -/

/-- `Date`, number and text fields copied from the two rows, then location
and tags. `houseId` comes from the detail row.
mirrors soufang/src/main/java/com/wf/service/search/SearchService.java:138-164 -/
def template (env : Env) (house : House) (detail : HouseDetail) (city region : SupportAddress)
    (tags : List HouseTag) : HouseIndexTemplate where
  houseId := detail.houseId
  title := house.title
  price := house.price
  area := house.area
  createTime := house.createTime
  lastUpdateTime := house.lastUpdateTime
  cityEnName := house.cityEnName
  regionEnName := house.regionEnName
  direction := house.direction
  distanceToSubway := house.distanceToSubway
  subwayLineName := detail.subwayLineName
  subwayStationName := detail.subwayStationName
  street := house.street
  district := house.district
  description := detail.description
  layoutDesc := detail.layoutDesc
  traffic := detail.traffic
  roundService := detail.roundService
  rentWay := detail.rentWay
  tags := if tags.isEmpty then none else some (tags.map HouseTag.name)
  suggest := none
  location := some (env.geocode city.cnName
    (city.cnName ++ region.cnName ++ house.street ++ house.district ++ detail.detailAddress))

/-- The two address rows; `none` when a lookup throws or its row is missing
(the next line dereferences it).
mirrors soufang/src/main/java/com/wf/service/search/SearchService.java:148-150 -/
def addressOf (db : Db) (house : House) : Option (SupportAddress × SupportAddress) :=
  match db.findByEnNameAndLevel house.cityEnName Level.CITY.value,
      db.findByEnNameAndLevel house.regionEnName Level.REGION.value with
  | .ok (some city), .ok (some region) => some (city, region)
  | _, _ => none

/-- mirrors soufang/src/main/java/com/wf/service/search/SearchService.java:183-185 -/
def lbsPoint (env : Env) (house : House) (detail : HouseDetail) (city region : SupportAddress)
    (houseId : Long) : LbsPoint where
  houseId := houseId
  location := env.geocode city.cnName
    (city.cnName ++ region.cnName ++ house.street ++ house.district ++ detail.detailAddress)
  price := house.price
  area := house.area
  title := house.street ++ house.district
  address := city.cnName ++ region.cnName ++ house.street ++ house.district

/-- mirrors soufang/src/main/java/com/wf/service/search/SearchService.java:131-190 -/
def createOrUpdateIndex (env : Env) (c : Calls) (m : HouseIndexMessage) (s : Sys) : Sys :=
  match s.db.house.find? m.houseId with
  | none => s
  | some house =>
    match s.db.findDetailByHouseId m.houseId with
    | none => s
    | some detail =>
      match addressOf s.db house with
      | none => s
      | some (city, region) =>
        match c.geocode with
        | .threw => s
        | .failed => send .index m.houseId (nextRetry m.retry) s
        | .ok =>
          let t := template env house detail city region (s.db.findAllTagsByHouseId m.houseId)
          match writeTemplate env c m.houseId t s.es with
          | (es, none) => { s with es := es }
          | (es, some success) =>
            match lbsUpload c (lbsPoint env house detail city region m.houseId) s.lbs with
            | (lbs, none) => { s with es := es, lbs := lbs }
            | (lbs, some uploaded) =>
              if !success || !uploaded then
                send .index m.houseId (nextRetry m.retry) { s with es := es, lbs := lbs }
              else { s with es := es, lbs := lbs }

/-- mirrors soufang/src/main/java/com/wf/service/search/SearchService.java:113-129 -/
def removeIndex (env : Env) (c : Calls) (m : HouseIndexMessage) (s : Sys) : Sys :=
  match s.es.deleteByQuery env c.delete m.houseId with
  | (es, none) => { s with es := es }
  | (es, some deleted) =>
    match removeLbs c.lbsDelete m.houseId s.lbs with
    | (lbs, none) => { s with es := es, lbs := lbs }
    | (lbs, some removed) =>
      if !removed || deleted = 0 then
        send .remove m.houseId (nextRetry m.retry) { s with es := es, lbs := lbs }
      else { s with es := es, lbs := lbs }

/-- The listener on the head of the queue; `none` on an empty queue.
mirrors soufang/src/main/java/com/wf/service/search/SearchService.java:93-111 -/
def handleMessage (env : Env) (c : Calls) (s : Sys) : Option Sys :=
  match s.queue with
  | [] => none
  | m :: rest =>
    some (match m.operation with
      | .index => createOrUpdateIndex env c m { s with queue := rest }
      | .remove => removeIndex env c m { s with queue := rest })

end SearchService

end Soufang
