import Soufang.Core.Simulation
import Soufang.L3System.LbsExchange
import Soufang.L3System.System

/-!
# The system with its map services

The system of `System` is told what the geocoder and the LBS table answer, and
has the table in its state. Here the handlers of the listener exchange
requests with the services, whose state the system does not see (`online`).
Every run of the online system is one of that system, with the same requests
(`online_run`).
-/
namespace Soufang

open UrlEncode AddressServiceImpl

/-- The abstract handler behind the lookup of the location, with the template
and the point. -/
def SearchService.writeLocated (env : Env) (c : Calls) (m : HouseIndexMessage) (t : HouseIndexTemplate)
    (p : LbsPoint) (s : Sys) : Sys :=
  match writeTemplate env c m.houseId t s.es with
  | (es, none) => { s with es := es }
  | (es, some success) =>
    match lbsUpload c p s.lbs with
    | (lbs, none) => { s with es := es, lbs := lbs }
    | (lbs, some uploaded) =>
      if !success || !uploaded then send .index m.houseId (nextRetry m.retry) { s with es := es, lbs := lbs }
      else { s with es := es, lbs := lbs }

section
variable {env : Env} {c : Calls} {m : HouseIndexMessage} {s : Sys} {house : House} {detail : HouseDetail}
  {city region : SupportAddress}

theorem SearchService.createOrUpdateIndex_threw (hh : s.db.house.find? m.houseId = some house)
    (hdet : s.db.findDetailByHouseId m.houseId = some detail) (hc : c.geocode = .threw) :
    createOrUpdateIndex env c m s = s := by
  unfold createOrUpdateIndex
  rw [hh]
  dsimp only
  rw [hdet]
  dsimp only
  cases addressOf s.db house with
  | none => rfl
  | some address =>
    dsimp only
    rw [hc]

theorem SearchService.createOrUpdateIndex_unlocated (hh : s.db.house.find? m.houseId = some house)
    (hdet : s.db.findDetailByHouseId m.houseId = some detail) (ha : addressOf s.db house = some (city, region))
    (hc : c.geocode = .failed) : createOrUpdateIndex env c m s = send .index m.houseId (nextRetry m.retry) s := by
  unfold createOrUpdateIndex
  rw [hh]
  dsimp only
  rw [hdet]
  dsimp only
  rw [ha]
  dsimp only
  rw [hc]

theorem SearchService.createOrUpdateIndex_located (hh : s.db.house.find? m.houseId = some house)
    (hdet : s.db.findDetailByHouseId m.houseId = some detail) (ha : addressOf s.db house = some (city, region))
    (hc : c.geocode = .ok) : createOrUpdateIndex env c m s = writeLocated env c m
      (template env house detail city region (s.db.findAllTagsByHouseId m.houseId))
      (lbsPoint env house detail city region m.houseId) s := by
  unfold createOrUpdateIndex
  rw [hh]
  dsimp only
  rw [hdet]
  dsimp only
  rw [ha]
  dsimp only
  rw [hc]
  rfl

end

/-! ## The handlers -/

/-- The system, but for the table, and the state of the services. -/
structure Online (σ : Type) where
  sys : Sys
  web : σ

namespace Online

section
variable {σ : Type}

/-- The handler behind the lookup of the location. The index answers as in `c`.
mirrors soufang/src/main/java/com/wf/service/search/SearchService.java:157-190 -/
def writeLocated (w : Web σ) (env : Env) (c : Calls) (m : HouseIndexMessage) (t : HouseIndexTemplate)
    (p : LbsPoint) (s : Online σ) : Online σ :=
  match SearchService.writeTemplate env c m.houseId t s.sys.es with
  | (es, none) => { s with sys := { s.sys with es := es } }
  | (es, some success) =>
    match lbsUpload w.mapper w.server w.valueOf p s.web with
    | (web, .error _) => { sys := { s.sys with es := es }, web := web }
    | (web, .ok uploaded) =>
      if !success || !uploaded.success then
        { sys := SearchService.send .index m.houseId (SearchService.nextRetry m.retry) { s.sys with es := es }
          web := web }
      else { sys := { s.sys with es := es }, web := web }

/-- A successful lookup has its location in the result.
mirrors soufang/src/main/java/com/wf/service/search/SearchService.java:131-190 -/
def createOrUpdateIndex (w : Web σ) (env : Env) (c : Calls) (m : HouseIndexMessage) (s : Online σ) : Online σ :=
  match s.sys.db.house.find? m.houseId with
  | none => s
  | some house =>
    match s.sys.db.findDetailByHouseId m.houseId with
    | none => s
    | some detail =>
      match SearchService.addressOf s.sys.db house with
      | none => s
      | some (city, region) =>
        let address := city.cnName ++ region.cnName ++ house.street ++ house.district ++ detail.detailAddress
        match getBaiduMapLocation w.mapper w.server city.cnName address s.web with
        | (web, .error _) => { s with web := web }
        | (web, .ok ⟨true, _, some location⟩) =>
          let t := SearchService.template env house detail city region (s.sys.db.findAllTagsByHouseId m.houseId)
          let p := SearchService.lbsPoint env house detail city region m.houseId
          writeLocated w env c m { t with location := some location } { p with location := location }
            { s with web := web }
        | (web, .ok _) =>
          { sys := SearchService.send .index m.houseId (SearchService.nextRetry m.retry) s.sys, web := web }

/-- mirrors soufang/src/main/java/com/wf/service/search/SearchService.java:113-129 -/
def removeIndex (w : Web σ) (env : Env) (c : Calls) (m : HouseIndexMessage) (s : Online σ) : Online σ :=
  match s.sys.es.deleteByQuery env c.delete m.houseId with
  | (es, none) => { s with sys := { s.sys with es := es } }
  | (es, some deleted) =>
    match removeLbs w.mapper w.server m.houseId s.web with
    | (web, .error _) => { sys := { s.sys with es := es }, web := web }
    | (web, .ok removed) =>
      if !removed.success || deleted = 0 then
        { sys := SearchService.send .remove m.houseId (SearchService.nextRetry m.retry) { s.sys with es := es }
          web := web }
      else { sys := { s.sys with es := es }, web := web }

/-- The state with the table that the services have. -/
def abs (table : σ → List LbsPoint) (s : Online σ) : Sys := { s.sys with lbs := table s.web }

variable {w : Web σ} {env : Env} {parseDouble : String → Option Rat} {table : σ → List LbsPoint} {s : Online σ}

theorem abs_send (op : Operation) (h : Long) (r : Int) (sys : Sys) (web : σ) :
    abs table ⟨SearchService.send op h r sys, web⟩ = SearchService.send op h r (abs table ⟨sys, web⟩) := by
  unfold abs SearchService.send
  dsimp only
  split <;> rfl

theorem writeLocated_refines (hd : w.Documented env.geocode parseDouble table) (c : Calls)
    (m : HouseIndexMessage) (t : HouseIndexTemplate) (p : LbsPoint) : ∃ list write : Status,
      abs table (writeLocated w env c m t p s) =
        SearchService.writeLocated env { c with lbsList := list, lbsWrite := write } m t p (abs table s) := by
  obtain ⟨list, write, hupload⟩ := upload_refines hd p s.web c
  have hwrite : SearchService.writeTemplate env { c with lbsList := list, lbsWrite := write } m.houseId t
      (abs table s).es = SearchService.writeTemplate env c m.houseId t s.sys.es := rfl
  have hlbs : (abs table s).lbs = table s.web := rfl
  refine ⟨list, write, ?_⟩
  unfold writeLocated SearchService.writeLocated
  rw [hwrite, hlbs, ← hupload]
  generalize SearchService.writeTemplate env c m.houseId t s.sys.es = written
  obtain ⟨es, _ | success⟩ := written
  · rfl
  · dsimp only
    generalize lbsUpload w.mapper w.server w.valueOf p s.web = uploaded
    obtain ⟨web, e | uploaded⟩ := uploaded
    · rfl
    · dsimp only [reported]
      split
      · exact abs_send ..
      · rfl

theorem createOrUpdateIndex_refines (hd : w.Documented env.geocode parseDouble table) (c : Calls)
    (m : HouseIndexMessage) : ∃ geocode list write : Status,
      abs table (createOrUpdateIndex w env c m s) = SearchService.createOrUpdateIndex env
        { c with geocode := geocode, lbsList := list, lbsWrite := write } m (abs table s) := by
  unfold createOrUpdateIndex
  cases hh : s.sys.db.house.find? m.houseId with
  | none =>
    refine ⟨.ok, .ok, .ok, ?_⟩
    have hh : (abs table s).db.house.find? m.houseId = none := hh
    unfold SearchService.createOrUpdateIndex
    rw [hh]
  | some house =>
    have hh : (abs table s).db.house.find? m.houseId = some house := hh
    dsimp only
    cases hdet : s.sys.db.findDetailByHouseId m.houseId with
    | none =>
      refine ⟨.ok, .ok, .ok, ?_⟩
      have hdet : (abs table s).db.findDetailByHouseId m.houseId = none := hdet
      unfold SearchService.createOrUpdateIndex
      rw [hh]
      dsimp only
      rw [hdet]
    | some detail =>
      have hdet : (abs table s).db.findDetailByHouseId m.houseId = some detail := hdet
      dsimp only
      cases ha : SearchService.addressOf s.sys.db house with
      | none =>
        refine ⟨.ok, .ok, .ok, ?_⟩
        have ha : SearchService.addressOf (abs table s).db house = none := ha
        unfold SearchService.createOrUpdateIndex
        rw [hh]
        dsimp only
        rw [hdet]
        dsimp only
        rw [ha]
      | some address =>
        obtain ⟨city, region⟩ := address
        have ha : SearchService.addressOf (abs table s).db house = some (city, region) := ha
        dsimp only
        obtain ⟨htable, hfound⟩ := geocode_refines hd city.cnName
          (city.cnName ++ region.cnName ++ house.street ++ house.district ++ detail.detailAddress) s.web
        generalize getBaiduMapLocation w.mapper w.server city.cnName _ s.web = located at htable hfound
        obtain ⟨web, outcome⟩ := located
        have hsame : abs table { s with web := web } = abs table s := by
          have htable : table web = table s.web := htable
          unfold abs
          dsimp only
          rw [htable]
        rcases hfound with ⟨e, rfl⟩ | ⟨message, rfl⟩ | rfl
        · refine ⟨.threw, .ok, .ok, hsame.trans ?_⟩
          exact (SearchService.createOrUpdateIndex_threw hh hdet rfl).symm
        · refine ⟨.failed, .ok, .ok, (abs_send ..).trans ((congrArg _ hsame).trans ?_)⟩
          exact (SearchService.createOrUpdateIndex_unlocated hh hdet ha rfl).symm
        · -- what is written are the template and the point of the abstract handler
          obtain ⟨list, write, hwritten⟩ := writeLocated_refines hd { c with geocode := .ok } m
            (SearchService.template env house detail city region (s.sys.db.findAllTagsByHouseId m.houseId))
            (SearchService.lbsPoint env house detail city region m.houseId)
          rw [hsame] at hwritten
          refine ⟨.ok, list, write, hwritten.trans ?_⟩
          exact (SearchService.createOrUpdateIndex_located hh hdet ha rfl).symm

theorem removeIndex_refines (hd : w.Documented env.geocode parseDouble table) (c : Calls)
    (m : HouseIndexMessage) : ∃ delete : Status,
      abs table (removeIndex w env c m s) =
        SearchService.removeIndex env { c with lbsDelete := delete } m (abs table s) := by
  obtain ⟨delete, hremove⟩ := remove_refines hd m.houseId s.web
  have hes : (abs table s).es = s.sys.es := rfl
  have hlbs : (abs table s).lbs = table s.web := rfl
  refine ⟨delete, ?_⟩
  unfold removeIndex SearchService.removeIndex
  dsimp only
  rw [hes, hlbs, ← hremove]
  generalize s.sys.es.deleteByQuery env c.delete m.houseId = gone
  obtain ⟨es, _ | deleted⟩ := gone
  · rfl
  · dsimp only
    generalize removeLbs w.mapper w.server m.houseId s.web = removed
    obtain ⟨web, e | removed⟩ := removed
    · rfl
    · dsimp only [reported]
      split
      · exact abs_send ..
      · rfl

/-! ## Runs -/

/-- mirrors soufang/src/main/java/com/wf/service/search/SearchService.java:93-111 -/
def handleMessage (w : Web σ) (env : Env) (c : Calls) (s : Online σ) : Option (Online σ) :=
  match s.sys.queue with
  | [] => none
  | m :: rest =>
    let s := { s with sys := { s.sys with queue := rest } }
    match m.operation with
    | .index => some (createOrUpdateIndex w env c m s)
    | .remove => some (removeIndex w env c m s)

def step (w : Web σ) (env : Env) (s : Online σ) : Req → Option (Online σ)
  | .handle c => handleMessage w env c s
  | l => (Soufang.step env s.sys l).map fun sys => { s with sys := sys }

/-- The system whose handlers exchange requests with the services. -/
def online (w : Web σ) (env : Env) (init : Online σ → Prop) : LTS (Online σ) Req := LTS.ofFn init (step w env)

/-- The same request; a handler run may have other answers of the geocoder and
the table. -/
inductive Same : Req → Req → Prop
  | handle (c : Calls) (geocode list write delete : Status) : Same (.handle c)
      (.handle { c with geocode := geocode, lbsList := list, lbsWrite := write, lbsDelete := delete })
  | other (l : Req) : Same l l

theorem handleMessage_refines (hd : w.Documented env.geocode parseDouble table) {c : Calls} {s' : Online σ}
    (h : handleMessage w env c s = some s') : ∃ l, Same (.handle c) l ∧
      Soufang.step env (abs table s) l = some (abs table s') := by
  unfold handleMessage at h
  have hqueue : (abs table s).queue = s.sys.queue := rfl
  cases hq : s.sys.queue with
  | nil => rw [hq] at h; cases h
  | cons m rest =>
    rw [hq] at h hqueue
    cases hop : m.operation with
    | index =>
      dsimp only at h
      rw [hop] at h
      cases h
      obtain ⟨geocode, list, write, hc⟩ := createOrUpdateIndex_refines hd c m
      refine ⟨_, .handle c geocode list write c.lbsDelete, ?_⟩
      rw [hc]
      simp only [Soufang.step, SearchService.handleMessage, hqueue, hop]
      rfl
    | remove =>
      dsimp only at h
      rw [hop] at h
      cases h
      obtain ⟨delete, hc⟩ := removeIndex_refines hd c m
      refine ⟨_, .handle c c.geocode c.lbsList c.lbsWrite delete, ?_⟩
      rw [hc]
      simp only [Soufang.step, SearchService.handleMessage, hqueue, hop]
      rfl

theorem updateStatus_abs (id : Long) (status : Int) (sys : Sys) (web : σ) :
    (HouseService.updateStatus id status (abs table ⟨sys, web⟩)).1 =
      abs table ⟨(HouseService.updateStatus id status sys).1, web⟩ := by
  unfold HouseService.updateStatus
  have hdb : (abs table ⟨sys, web⟩).db = sys.db := rfl
  rw [hdb]
  cases sys.db.house.find? id with
  | none => rfl
  | some house =>
    dsimp only
    cases HouseService.statusRefusal house status with
    | some message => rfl
    | none =>
      dsimp only
      rw [notifySearch_eq, notifySearch_eq]
      exact (abs_send _ id 0 { sys with db := HouseService.setStatus id status sys.db } web).symm

/-- The other requests do not touch the table. -/
theorem step_abs {l : Req} (hl : ∀ c, l ≠ .handle c) :
    Soufang.step env (abs table s) l = (Soufang.step env s.sys l).map fun sys => abs table ⟨sys, s.web⟩ := by
  cases l with
  | handle c => exact absurd rfl (hl c)
  | updateStatus id status => exact congrArg some (updateStatus_abs id status s.sys s.web)
  | operateHouse id op =>
    refine congrArg some ?_
    unfold AdminController.operateHouse
    split
    · rfl
    · cases HouseOperation.ofCode op with
      | none => rfl
      | some o => exact updateStatus_abs id o.status.value s.sys s.web
  | save _ _ _ _ | update _ _ | removePhoto _ _ | updateCover _ _ | addTag _ _ | removeTag _ _ | refresh => rfl

theorem step_refines (hd : w.Documented env.geocode parseDouble table) {l : Req} {s' : Online σ}
    (h : step w env s l = some s') : ∃ l', Same l l' ∧
      Soufang.step env (abs table s) l' = some (abs table s') := by
  have hother : (∀ c, l ≠ .handle c) → (Soufang.step env s.sys l).map (fun sys => { s with sys := sys }) = some s' →
      ∃ l', Same l l' ∧ Soufang.step env (abs table s) l' = some (abs table s') := by
    intro hl h
    obtain ⟨sys, hs, rfl⟩ := Option.map_eq_some_iff.mp h
    exact ⟨l, .other l, by rw [step_abs hl, hs]; rfl⟩
  cases l with
  | handle c => exact handleMessage_refines hd h
  | save _ _ _ _ | update _ _ | updateStatus _ _ | operateHouse _ _ | removePhoto _ _ | updateCover _ _
    | addTag _ _ | removeTag _ _ | refresh => exact hother (fun _ hc => by cases hc) h

end

/-- **The services refine the answers.** Let the services do what is
documented with requests whose pairs they read back. Then every run of the
system that exchanges requests with them is, with the table they have, a run
of the system that is told their answers, request by request: whatever the
texts of a house and its address contain, the geocoder is asked for them, the
list call is about the house, and a row that is stored is the point of the
house. -/
theorem online_run {σ : Type} (w : Web σ) (env : Env) (parseDouble : String → Option Rat)
    (table : σ → List LbsPoint) (hd : w.Documented env.geocode parseDouble table) (init : Online σ → Prop)
    (s s' : Online σ) (ls : List Req) (hr : (online w env init).Run s ls s') :
    ∃ ls', List.Forall₂ Same ls ls' ∧
      (system env fun _ => True).Run (abs table s) ls' (abs table s') :=
  LTS.Run.related (fun _ _ _ hs => step_refines hd hs) hr

end Online

/-! ## Services of a table -/

namespace Sample

/-- The trees of the replies below. -/
inductive Json
  | num (n : Int)
  | obj (fields : List (String × Json))

def Json.get : Json → String → Option Json
  | .num _, _ => none
  | .obj fields, name => fields.lookup name

def Json.asInt : Json → Int
  | .num n => n
  | .obj _ => 0

def done : String := "\x7b\"status\":0\x7d"

def located : String := "\x7b\"status\":0,\"result\":\x7b\"location\":\x7b\"lng\":116,\"lat\":40\x7d\x7d\x7d"

def noRow : String := "\x7b\"status\":0,\"size\":0\x7d"

def oneRow : String := "\x7b\"status\":0,\"size\":1\x7d"

/-- Knows the four replies. -/
def readReply (text : String) : Option Json :=
  if text = done then some (.obj [("status", .num 0)])
  else if text = located then
    some (.obj [("status", .num 0), ("result", .obj [("location", .obj [("lng", .num 116), ("lat", .num 40)])])])
  else if text = noRow then some (.obj [("status", .num 0), ("size", .num 0)])
  else if text = oneRow then some (.obj [("status", .num 0), ("size", .num 1)])
  else none

def jsonMapper : ObjectMapper where
  JsonNode := Json
  readTree text := (readReply text).map some
  get := Json.get
  asInt := Json.asInt
  asLong := Json.asInt
  asDouble n := n.asInt
  asText _ := ""

/-- Whole numbers as Java writes them, others as fractions. -/
def valueOf (q : Rat) : String := toString q.num ++ if q.den = 1 then ".0" else "/" ++ toString q.den

def parseDouble (text : String) : Option Rat :=
  match text.toList.splitOn '/' with
  | [whole] => (String.ofList whole.dropLast.dropLast).toInt?.map fun n : Int => (n : Rat)
  | [num, den] => do
    let n ← (String.ofList num).toInt?
    let d ← (String.ofList den).toInt?
    return (n : Rat) / d
  | _ => none

/-- The number of rows whose house is in the range of a query. -/
def counted (form : List (String × String)) (lbs : List LbsPoint) : Option Nat := do
  let range ← form.lookup "houseId"
  match range.toList.splitOn ',' with
  | [low, high] =>
    let low ← (String.ofList low).toInt?
    let high ← (String.ofList high).toInt?
    return lbs.countP fun p => low ≤ p.houseId ∧ p.houseId ≤ high
  | _ => none

/-- The reply to a list call that counts `n` rows. -/
def listed (n : Option Nat) (lbs : List LbsPoint) : List LbsPoint × Option HttpResponse :=
  match n with
  | some 0 => (lbs, some ⟨200, noRow⟩)
  | some 1 => (lbs, some ⟨200, oneRow⟩)
  | _ => (lbs, none)

/-- The rows after a form; `none` for a form it cannot read. -/
def rowsAfter (url : String) (form : List (String × String)) (lbs : List LbsPoint) : Option (List LbsPoint) :=
  if url = LBS_DELETE_API then
    ((form.lookup "houseId").bind String.toInt?).map fun h => lbs.filter fun p => p.houseId ≠ h
  else
    (readPoint parseDouble form).map fun p =>
      if url = LBS_UPDATE_API then lbs.map fun q => if q.houseId = p.houseId then p else q else lbs ++ [p]

/-- The reply to a form. -/
def changed (rows : Option (List LbsPoint)) (lbs : List LbsPoint) : List LbsPoint × Option HttpResponse :=
  match rows with
  | some rows => (rows, some ⟨200, done⟩)
  | none => (lbs, none)

def tableServer : Server (List LbsPoint) where
  get url lbs :=
    if LBS_QUERY_API.toList <+: url.toList then
      listed ((parse (url.toList.drop LBS_QUERY_API.toList.length)).bind fun form => counted form lbs) lbs
    else (lbs, some ⟨200, located⟩)
  post url body lbs := changed ((parse body.toList).bind fun form => rowsAfter url form lbs) lbs

def web : Web (List LbsPoint) := ⟨jsonMapper, tableServer, valueOf⟩

theorem slash_not_mem (n : Int) : '/' ∉ (toString n).toList := fun h =>
  absurd (plain_toString n _ h) (by decide)

theorem comma_not_mem (n : Int) : ',' ∉ (toString n).toList := fun h =>
  absurd (plain_toString n _ h) (by decide)

theorem toInt?_toString (n : Int) : (String.ofList (toString n).toList).toInt? = some n := by
  rw [String.ofList_toList]
  exact Int.toInt?_repr n

theorem splitOn_one {c : Char} {a : List Char} (ha : c ∉ a) : a.splitOn c = [a] := by
  have hmem : ∀ l ∈ [a], c ∉ l := by simpa using ha
  have hjoin := List.splitOn_intercalate c hmem (by simp)
  rwa [List.intercalate_singleton] at hjoin

theorem splitOn_two {c : Char} {a b : List Char} (ha : c ∉ a) (hb : c ∉ b) : (a ++ c :: b).splitOn c = [a, b] := by
  have hmem : ∀ l ∈ [a, b], c ∉ l := by simp [ha, hb]
  have hjoin := List.splitOn_intercalate c hmem (by simp)
  rwa [List.intercalate_cons_cons, List.intercalate_singleton, List.append_assoc, List.singleton_append] at hjoin

theorem parseDouble_valueOf (q : Rat) : parseDouble (valueOf q) = some q := by
  unfold parseDouble valueOf
  have hnum := slash_not_mem q.num
  by_cases hden : q.den = 1
  · have hslash : '/' ∉ (toString q.num).toList ++ ['.', '0'] := by
      rw [List.mem_append]
      exact not_or_intro hnum (by decide)
    have hwhole : ((toString q.num).toList ++ ['.', '0']).dropLast.dropLast = (toString q.num).toList := by simp
    rw [if_pos hden, String.toList_append, show ".0".toList = ['.', '0'] from rfl, splitOn_one hslash]
    dsimp only
    rw [hwhole, toInt?_toString, Option.map_some, Rat.coe_int_num_of_den_eq_one hden]
  · rw [if_neg hden, String.toList_append, String.toList_append, show "/".toList = ['/'] from rfl,
      List.singleton_append]
    have htext : toString q.den = toString (q.den : Int) := rfl
    rw [htext, splitOn_two hnum (slash_not_mem q.den)]
    dsimp only
    rw [toInt?_toString, toInt?_toString]
    exact congrArg some (Rat.num_div_den q)

theorem listed_fst (n : Option Nat) (lbs : List LbsPoint) : (listed n lbs).1 = lbs := by
  unfold listed
  split <;> rfl

theorem get_fst (url : String) (lbs : List LbsPoint) : (tableServer.get url lbs).1 = lbs := by
  unfold tableServer
  dsimp only
  split
  · exact listed_fst ..
  · rfl

theorem get_geoconv (query : String) (lbs : List LbsPoint) :
    tableServer.get (BAIDU_MAP_GEOCONV_API ++ query) lbs = (lbs, some ⟨200, located⟩) := by
  refine if_neg fun h => ?_
  rw [String.toList_append] at h
  rcases List.prefix_or_prefix_of_prefix h (List.prefix_append _ _) with h | h
  · exact absurd h (by decide)
  · exact absurd h (by decide)

theorem get_query {query : String} {form : List (String × String)} (h : parse query.toList = some form)
    (lbs : List LbsPoint) : tableServer.get (LBS_QUERY_API ++ query) lbs = listed (counted form lbs) lbs := by
  have hprefix : LBS_QUERY_API.toList <+: (LBS_QUERY_API ++ query).toList := by
    rw [String.toList_append]
    exact List.prefix_append _ _
  refine (if_pos hprefix).trans ?_
  rw [String.toList_append, List.drop_left, h]
  rfl

theorem post_form {url body : String} {form : List (String × String)} (h : parse body.toList = some form)
    (lbs : List LbsPoint) : tableServer.post url body lbs = changed (rowsAfter url form lbs) lbs := by
  unfold tableServer
  dsimp only
  rw [h, Option.bind_some]

theorem counted_range (low high : Int) (form : List (String × String)) (lbs : List LbsPoint)
    (h : form.lookup "houseId" = some (toString low ++ "," ++ toString high)) :
    counted form lbs = some (lbs.countP fun p => low ≤ p.houseId ∧ p.houseId ≤ high) := by
  have hsplit : (toString low ++ "," ++ toString high).toList.splitOn ',' =
      [(toString low).toList, (toString high).toList] := by
    rw [String.toList_append, String.toList_append, show ",".toList = [','] from rfl, List.append_assoc,
      List.singleton_append]
    exact splitOn_two (comma_not_mem low) (comma_not_mem high)
  unfold counted
  rw [h]
  simp only [Option.bind_eq_bind, Option.bind_some, hsplit, toInt?_toString]
  rfl

theorem readReply_done : readReply done = some (.obj [("status", .num 0)]) := by
  rw [readReply, if_pos rfl]

theorem readReply_located : readReply located = some (.obj [("status", .num 0),
    ("result", .obj [("location", .obj [("lng", .num 116), ("lat", .num 40)])])]) := by
  rw [readReply, if_neg (by decide), if_pos rfl]

theorem readReply_noRow : readReply noRow = some (.obj [("status", .num 0), ("size", .num 0)]) := by
  rw [readReply, if_neg (by decide), if_neg (by decide), if_pos rfl]

theorem readReply_oneRow : readReply oneRow = some (.obj [("status", .num 0), ("size", .num 1)]) := by
  rw [readReply, if_neg (by decide), if_neg (by decide), if_neg (by decide), if_pos rfl]

theorem readTree_eq {text : String} {json : Json} (h : readReply text = some json) :
    jsonMapper.readTree text = some (some json) := congrArg (Option.map some) h

/-- A form that changes the rows is answered with status 0. -/
theorem changed_refused {rows : Option (List LbsPoint)} {lbs : List LbsPoint}
    (h : ∀ tree, ¬ Succeeded jsonMapper (changed rows lbs).2 tree) : (changed rows lbs).1 = lbs := by
  cases rows with
  | none => rfl
  | some rows => exact absurd ⟨_, _, rfl, rfl, readTree_eq readReply_done, rfl, rfl⟩ (h _)

/-- A reply that is read: status 0 and its tree. -/
theorem succeeded_reply {text : String} {json : Json} {tree : Option Json} (hread : readReply text = some json)
    (h : Succeeded jsonMapper (some ⟨200, text⟩) tree) : tree = some json := by
  obtain ⟨response, status, hanswer, -, htree, -, -⟩ := h
  cases hanswer
  rw [readTree_eq hread] at htree
  exact (Option.some.inj htree).symm

theorem documented : web.Documented env.geocode parseDouble id where
  number := parseDouble_valueOf
  geocoder query city address lbs tree result place lng lat _ hs hresult hplace hlng hlat := by
    change Succeeded jsonMapper (tableServer.get _ lbs).2 tree at hs
    rw [get_geoconv] at hs
    cases succeeded_reply readReply_located hs
    cases hresult
    cases hplace
    cases hlng
    cases hlat
    rfl
  query := get_fst
  list query low high lbs tree size hquery hs hsize := by
    change Succeeded jsonMapper (tableServer.get _ lbs).2 tree at hs
    rw [get_query hquery, counted_range low high _ _ rfl] at hs
    change _ = ((lbs.countP fun p => low ≤ p.houseId ∧ p.houseId ≤ high : Nat) : Int)
    generalize lbs.countP _ = n at hs ⊢
    obtain _ | _ | n := n
    · cases succeeded_reply readReply_noRow hs
      cases hsize
      rfl
    · cases succeeded_reply readReply_oneRow hs
      cases hsize
      rfl
    · obtain ⟨_, _, hanswer, -⟩ := hs
      cases hanswer
  create body form p lbs hform hp tree _ := by
    change (tableServer.post _ body lbs).1 = lbs ++ [p]
    rw [post_form hform, rowsAfter, if_neg (by decide), hp, Option.map_some, if_neg (by decide)]
    rfl
  update body form p lbs hform hp tree _ := by
    change (tableServer.post _ body lbs).1 = _
    rw [post_form hform, rowsAfter, if_neg (by decide), hp, Option.map_some, if_pos rfl]
    rfl
  delete body houseId lbs hform tree _ := by
    change (tableServer.post _ body lbs).1 = _
    have hid : (removePairs houseId).lookup "houseId" = some (toString houseId) := rfl
    have hint : (toString houseId).toInt? = some houseId := Int.toInt?_repr houseId
    rw [post_form hform, rowsAfter, if_pos rfl, hid, Option.bind_some, hint]
    rfl
  refused url body lbs h := changed_refused h

/-- The stored house with the services of an empty table. -/
def onlineStored : Online (List LbsPoint) := ⟨stored, []⟩

end Sample

/-- The house is passed and its message handled. -/
theorem Online.online_run_passed : ∃ s' ls',
    (online Sample.web Sample.env fun _ => True).Run Sample.onlineStored
      [.updateStatus 1 HouseStatus.PASSES.value, .handle .success] s' ∧
    List.Forall₂ Same [.updateStatus 1 HouseStatus.PASSES.value, .handle .success] ls' ∧
    (system Sample.env fun _ => True).Run (abs id Sample.onlineStored) ls' (abs id s') := by
  obtain ⟨s', hs⟩ : ∃ s', LTS.exec (step Sample.web Sample.env) (fun _ _ => True) Sample.onlineStored
      [.updateStatus 1 HouseStatus.PASSES.value, .handle .success] = some s' := ⟨_, rfl⟩
  have hr : (online Sample.web Sample.env fun _ => True).Run Sample.onlineStored _ s' :=
    (LTS.run_of_exec hs).of_restrict
  obtain ⟨ls', hall, hrun⟩ := online_run Sample.web Sample.env Sample.parseDouble id Sample.documented _ _ s' _ hr
  exact ⟨s', ls', hr, hall, hrun⟩

end Soufang
