import Soufang.L2Service.QuerySpec
import Soufang.L2Service.Subscribe
import Soufang.L3System.System

/-!
# The reservation list in a running system

`bookings` runs the requests of the system and `addSubscribeOrder` over one
state, in any order. Nothing removes a house (`step_hasHouse`), and a
reservation is only stored for a house that was just found, so every
reservation refers to a stored house (`Referenced`).

`querySubscribeList_complete`: `querySubscribeList` therefore never gives a
null to `Pair.of`, and shows each reservation of its page with its own house.
-/
namespace Soufang

open HouseService SearchService

inductive BookingReq
  | request (l : Req)
  | subscribe (userId : Long) (now : Date) (houseId : Long)

def bookingStep (env : Env) (b : Bookings) : BookingReq → Option Bookings
  | .request l => (step env b.sys l).map fun s => { b with sys := s }
  | .subscribe userId now houseId => some (addSubscribeOrder userId now houseId b).1

def HasHouse (db : Db) (i : Long) : Prop := ∃ house, db.house.find? i = some house

/-- Every reservation refers to a stored house. -/
def Referenced (b : Bookings) : Prop := ∀ r ∈ b.subscribe.rows, HasHouse b.sys.db r.houseId

/-- The system from any state whose reservations refer to stored houses, such
as one without reservations. -/
def bookings (env : Env) : LTS Bookings BookingReq := LTS.ofFn Referenced (bookingStep env)

/-! ## Nothing removes a house -/

theorem hasHouse_iff {db : Db} {i : Long} : HasHouse db i ↔ db.statusOf i ≠ none := by
  unfold HasHouse Db.statusOf
  cases db.house.find? i with
  | none => simp
  | some house => simp

theorem HasHouse.congr {db db' : Db} {i : Long} (h : HasHouse db i) (he : db'.statusOf i = db.statusOf i) :
    HasHouse db' i := by
  rw [hasHouse_iff] at h ⊢
  rwa [he]

theorem save_hasHouse {cdnPrefix : String} {faults : Faults} {user : Long} {now : Date} {f : HouseForm}
    {db : Db} {i : Long} (h : HasHouse db i) : HasHouse (save cdnPrefix faults user now f db).1 i := by
  rcases save_cases cdnPrefix faults user now f db with ⟨he, -⟩ | ⟨detail, id, hs⟩
  · rwa [he]
  · rw [hasHouse_iff] at h ⊢
    rw [statusOf_stored hs]
    split
    · simp
    · exact h

theorem rewriteHouse_hasHouse {db : Db} {id : Long} {f : House → House} {i : Long} (h : HasHouse db i) :
    HasHouse { db with house := rewriteHouse db.house id f } i := by
  obtain ⟨house, hf⟩ := h
  unfold HasHouse
  rw [find?_rewriteHouse]
  split
  · rename_i hi
    subst hi
    exact ⟨_, by rw [hf]; rfl⟩
  · exact ⟨house, hf⟩

theorem updateStatus_hasHouse {id : Long} {status : Int} {s : Sys} {i : Long} (h : HasHouse s.db i) :
    HasHouse (updateStatus id status s).1.db i := by
  rcases updateStatus_cases id status s with ⟨-, he⟩ | ⟨house, -, -, he⟩
  · rwa [he]
  · rw [he, notifySearch_eq, send_db]
    exact rewriteHouse_hasHouse h

theorem step_hasHouse {env : Env} {s s' : Sys} {l : Req} (hs : step env s l = some s') {i : Long}
    (h : HasHouse s.db i) : HasHouse s'.db i := by
  cases l with
  | save faults user now f =>
    cases hs
    exact save_hasHouse h
  | update now f =>
    cases hs
    exact h.congr (statusOf_update ..)
  | updateStatus id status =>
    cases hs
    exact updateStatus_hasHouse h
  | operateHouse id op =>
    cases hs
    rcases operateHouse_cases id op s with he | ⟨o, -, he⟩
    · rwa [he]
    · rw [he]
      exact updateStatus_hasHouse h
  | removePhoto id answer =>
    cases hs
    dsimp only
    rcases removePhoto_cases id answer s.db with he | ⟨p, -, -, he⟩
    · rwa [he]
    · rwa [he]
  | updateCover c t =>
    cases hs
    simpa only [updateCover_db] using h
  | addTag i t =>
    cases hs
    exact h.congr (statusOf_addTag ..)
  | removeTag i t =>
    cases hs
    exact h.congr (statusOf_removeTag ..)
  | handle c =>
    obtain ⟨hdb, -⟩ := handleMessage_docs hs
    rwa [hdb]
  | refresh =>
    cases hs
    exact h

/-! ## Every reservation refers to a stored house -/

/-- `addSubscribeOrder` changes nothing, or it stores one reservation of a
house it found. -/
theorem addSubscribeOrder_cases (userId : Long) (now : Date) (houseId : Long) (b : Bookings) :
    (addSubscribeOrder userId now houseId b).1 = b ∨
      ∃ house t, b.sys.db.house.find? houseId = some house ∧
        b.subscribe.insert? (newSubscribe userId now houseId house.adminId) = some t ∧
        addSubscribeOrder userId now houseId b = ({ b with subscribe := t }, .ok .ok) := by
  unfold addSubscribeOrder
  cases findByHouseIdAndUserId b.subscribe houseId userId with
  | some r => exact Or.inl rfl
  | none =>
    dsimp only
    cases hf : b.sys.db.house.find? houseId with
    | none => exact Or.inl rfl
    | some house =>
      dsimp only
      cases hi : b.subscribe.insert? (newSubscribe userId now houseId house.adminId) with
      | none => exact Or.inl rfl
      | some t => exact Or.inr ⟨house, t, rfl, hi, rfl⟩

/-- A request that does not report success stores nothing. -/
theorem addSubscribeOrder_failed {userId : Long} {now : Date} {houseId : Long} {b : Bookings}
    (h : (addSubscribeOrder userId now houseId b).2 ≠ .ok .ok) :
    (addSubscribeOrder userId now houseId b).1 = b := by
  rcases addSubscribeOrder_cases userId now houseId b with he | ⟨house, t, -, -, he⟩
  · exact he
  · rw [he] at h
    exact absurd rfl h

theorem Referenced.insert {sys : Sys} {t t' : Table HouseSubscribe} {a : HouseSubscribe}
    (h : Referenced ⟨sys, t⟩) (hi : t.insert? a = some t') (ha : HasHouse sys.db a.houseId) :
    Referenced ⟨sys, t'⟩ := by
  intro r hr
  rw [(Table.insert?_some hi).1] at hr
  rcases List.mem_append.mp hr with hr | hr
  · exact h r hr
  · rw [List.mem_singleton.mp hr]
    exact ha

theorem Referenced.step {env : Env} {b b' : Bookings} {l : BookingReq} (h : Referenced b)
    (hs : bookingStep env b l = some b') : Referenced b' := by
  cases l with
  | request l =>
    obtain ⟨s', hs', rfl⟩ := Option.map_eq_some_iff.mp hs
    intro r hr
    exact step_hasHouse hs' (h r hr)
  | subscribe userId now houseId =>
    cases hs
    rcases addSubscribeOrder_cases userId now houseId b with he | ⟨house, t, hf, hi, he⟩
    · rwa [he]
    · rw [he]
      exact h.insert hi ⟨house, hf⟩

theorem referenced_inductive (env : Env) : (bookings env).Inductive Referenced where
  init _ hb := hb
  step _ _ _ h hs := h.step hs

/-! ## The list -/

/-- When every house is found, each reservation gets its own. -/
theorem pairs_ok {houses : List House} {page : List HouseSubscribe}
    (h : ∀ r ∈ page, ∃ house ∈ houses, house.id = r.houseId) :
    ∃ ps, pairs houses page = .ok ps ∧ ps.map Prod.snd = page ∧
      ∀ p ∈ ps, p.1.house ∈ houses ∧ p.1.house.id = p.2.houseId := by
  induction page with
  | nil => exact ⟨[], rfl, rfl, by simp⟩
  | cons r rest ih =>
    obtain ⟨ps, hok, hmap, hps⟩ := ih fun r hr => h r (List.mem_cons_of_mem _ hr)
    cases hf : houses.find? fun h => h.id = r.houseId with
    | none =>
      obtain ⟨house, hh, hid⟩ := h r List.mem_cons_self
      exact absurd hid (by simpa using List.find?_eq_none.mp hf house hh)
    | some house =>
      refine ⟨(⟨house, none, [], []⟩, r) :: ps, ?_, ?_, ?_⟩
      · rw [pairs, hf]
        simp only [hok]
      · simp only [List.map_cons, hmap]
      · intro p hp
        rcases List.mem_cons.mp hp with rfl | hp
        · exact ⟨List.mem_of_find?_eq_some hf, by simpa using List.find?_some hf⟩
        · exact hps p hp

theorem mem_subscribePage {eng : SubscribeEngine} {userId : Long} {status : HouseSubscribeStatus}
    {page size : Nat} {t : Table HouseSubscribe} {r : HouseSubscribe}
    (h : r ∈ subscribePage eng userId status page size t) :
    r ∈ t.rows ∧ r.userId = userId ∧ r.status = status.value := by
  have := mem_of_mem_window h
  rw [Arrangement.mem_arrange, findAllByUserIdAndStatus, List.mem_filter] at this
  simpa using this

/-- `wrapper` of reservations that refer to stored houses. -/
theorem wrapper_ok (eng : SubscribeEngine) (total : Nat) {page : List HouseSubscribe} {db : Db}
    (h : ∀ r ∈ page, HasHouse db r.houseId) :
    ∃ result, wrapper eng total page db = .ok ⟨total, result⟩ ∧ result.map Prod.snd = page ∧
      ∀ p ∈ result, db.house.find? p.2.houseId = some p.1.house ∧ p.1.house.id = p.2.houseId := by
  have hfound : ∀ r ∈ page, ∃ house ∈ eng.houses.arrange
      (db.house.rows.filter fun h => h.id ∈ page.map HouseSubscribe.houseId), house.id = r.houseId := by
    intro r hr
    obtain ⟨house, hf⟩ := h r hr
    obtain ⟨hmem, hid⟩ := Table.find?_some hf
    have hid : house.id = r.houseId := hid
    refine ⟨house, ?_, hid⟩
    rw [Arrangement.mem_arrange, List.mem_filter]
    exact ⟨hmem, by simpa [hid] using ⟨r, hr, rfl⟩⟩
  obtain ⟨ps, hok, hmap, hps⟩ := pairs_ok hfound
  refine ⟨ps, ?_, hmap, ?_⟩
  · simp only [wrapper, hok]
  · intro p hp
    obtain ⟨hmem, hid⟩ := hps p hp
    rw [Arrangement.mem_arrange, List.mem_filter] at hmem
    exact ⟨Table.find?_eq_some.mpr ⟨hmem.1, hid⟩, hid⟩

/-- **The reservation list.** In every reachable state, every page of every
user lists its reservations in order, each with its house. -/
theorem querySubscribeList_complete (env : Env) (b : Bookings) (hb : (bookings env).Reachable b)
    (eng : SubscribeEngine) (userId : Long) (status : HouseSubscribeStatus) (start size : Int)
    (h0 : 0 ≤ start) (h1 : 1 ≤ size) :
    ∃ r, querySubscribeList eng userId status start size b = .ok r ∧
      r.total = (findAllByUserIdAndStatus b.subscribe userId status.value).length ∧
      r.result.map Prod.snd =
        subscribePage eng userId status (start.tdiv size).toNat size.toNat b.subscribe ∧
      ∀ p ∈ r.result, p.1.house.id = p.2.houseId ∧ b.sys.db.house.find? p.2.houseId = some p.1.house := by
  have href := (referenced_inductive env).reachable hb
  have hpage : ∀ r ∈ subscribePage eng userId status (start.tdiv size).toNat size.toNat b.subscribe,
      HasHouse b.sys.db r.houseId := fun r hr => href r (mem_subscribePage hr).1
  obtain ⟨result, hok, hmap, hres⟩ := wrapper_ok eng
    (findAllByUserIdAndStatus b.subscribe userId status.value).length hpage
  refine ⟨⟨_, result⟩, ?_, rfl, hmap, fun p hp => (hres p hp).symm⟩
  rw [querySubscribeList, newPage_ok_iff.mpr ⟨h1, Int.tdiv_nonneg h0 (by omega), rfl⟩]
  exact hok

def Sample.listEngine : SubscribeEngine where
  rows := .insertion HouseSubscribe.createTime Direction.DESC.le
  houses := .stored House

/-- Users 7 and 8 put the same house on their lists; user 7 looks at the
first page of three. -/
theorem querySubscribeList_shared :
    ∃ b, (bookings Sample.env).Reachable b ∧ b.subscribe.rows.length = 2 ∧
      ∃ r, querySubscribeList Sample.listEngine 7 .IN_ORDER_LIST 0 3 b = .ok r ∧ r.total = 1 := by
  obtain ⟨b, hb, hlen, htotal⟩ := LTS.exists_reachable Referenced (bookingStep Sample.env) (fun _ _ => True)
    (fun b => b.subscribe.rows.length = 2 ∧
      (findAllByUserIdAndStatus b.subscribe 7 HouseSubscribeStatus.IN_ORDER_LIST.value).length = 1)
    (s := ⟨Sample.fresh, .empty⟩) (fun _ hr => by cases hr)
    [.request (.save .none 2 0 Sample.form), .subscribe 7 0 1, .subscribe 8 1 1] (by decide +kernel)
  obtain ⟨r, hr, ht, -⟩ := querySubscribeList_complete Sample.env b hb.of_restrict Sample.listEngine 7
    .IN_ORDER_LIST 0 3 (by decide) (by decide)
  exact ⟨b, hb.of_restrict, hlen, r, hr, ht.trans htotal⟩

end Soufang
