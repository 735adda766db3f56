import Soufang.Core.Paging
import Soufang.L3System.Join
import Soufang.L3System.Reservations

/-!
# The page a listing returns

A request asks for the rows from `start` on, `size` of them. The index is
asked for just that; the database listings compute a page number by division
and get the page that starts at a multiple of the size.

* `wrapperHouseResult_shows`, `simpleQuery_shows`: when the two paths of
  `query` answer, and which ids they show.
* `window_iff`: `query` shows the requested window of the ordered matches
  exactly for the requests in `WindowExact`.
* `listing_iff`: a database listing answers, with an empty list past the end,
  exactly for the requests in `ListingExact`.
-/
namespace Soufang

open HouseService

/-- House 1 of the sample, published. -/
def Sample.published : Sys := (updateStatus 1 HouseStatus.PASSES.value Sample.stored).1

/-- A form for all houses of bj, without keywords. -/
def Sample.search (start size : Int) : RentSearch :=
  ⟨"bj", none, none, none, none, -1, none, none, start, size⟩

namespace HouseService

/-! ## What an answer shows -/

/-- The call answers with the houses of these ids, in this order. -/
def Shows (x : Except Exn (ServiceMultiResult (Option HouseDTO))) (ids : List Long) : Prop :=
  ∃ r, x = .ok r ∧ r.result.map (Option.map fun dto => dto.house.id) = ids.map some

/-- A list that is loaded has the stored house of each id, or null. -/
theorem wrapperHouseResult_ids {eng : Engine} {cdnPrefix : String} {ids : List Long} {db : Db}
    {l : List (Option HouseDTO)} (h : wrapperHouseResult eng cdnPrefix ids db = .ok l) :
    ids ≠ [] ∧ l.map (Option.map fun dto => dto.house.id) = ids.map fun i => (db.house.find? i).map House.id := by
  let order : JoinOrder := ⟨.stored _, .stored _, eng.tags⟩
  by_cases hne : ids = []
  · subst hne
    simp [wrapperHouseResult, wrapperHouseList] at h
  · by_cases hk : Loop.Known ids db
        (Loop.idToHouseMap cdnPrefix (order.houses.arrange (db.house.rows.filter fun h => h.id ∈ ids)))
    · rw [Loop.summary_ok rfl hne hk, Except.ok.injEq] at h
      rw [← h, List.map_map]
      refine ⟨hne, List.map_congr_left fun i _ => ?_⟩
      rw [Function.comp_apply, Option.map_map]
      rfl
    · rw [Loop.summary_null hne hk] at h
      cases h

/-- Ids of stored houses can be loaded. -/
theorem wrapperHouseResult_stored (eng : Engine) (cdnPrefix : String) {ids : List Long} {db : Db} (hne : ids ≠ [])
    (h : ∀ i ∈ ids, (db.house.find? i).isSome) : ∃ l, wrapperHouseResult eng cdnPrefix ids db = .ok l := by
  let order : JoinOrder := ⟨.stored _, .stored _, eng.tags⟩
  have hk : Loop.Known ids db
      (Loop.idToHouseMap cdnPrefix (order.houses.arrange (db.house.rows.filter fun h => h.id ∈ ids))) := by
    constructor
    · intro d _ hi
      rw [Loop.idToHouseMap_get hi, Option.isSome_map]
      exact h _ hi
    · intro t _ hi
      rw [Loop.idToHouseMap_get hi, Option.isSome_map]
      exact h _ hi
  exact ⟨_, Loop.summary_ok rfl hne hk⟩

theorem find?_id {db : Db} {i : Long} : (db.house.find? i).map House.id = some i ↔ (db.house.find? i).isSome := by
  cases hf : db.house.find? i with
  | none => simp
  | some house =>
    have hid : house.id = i := (Table.find?_some hf).2
    simp [hid]

theorem wrapperHouseResult_shows (eng : Engine) (cdnPrefix : String) (ids : List Long) (db : Db) :
    (∃ l, wrapperHouseResult eng cdnPrefix ids db = .ok l ∧
      l.map (Option.map fun dto => dto.house.id) = ids.map some) ↔
      ids ≠ [] ∧ ∀ i ∈ ids, (db.house.find? i).isSome := by
  constructor
  · intro h
    obtain ⟨l, hl, hids⟩ := h
    obtain ⟨hne, hfound⟩ := wrapperHouseResult_ids hl
    refine ⟨hne, fun i hi => ?_⟩
    rw [hfound, List.map_inj_left] at hids
    exact find?_id.mp (hids i hi)
  · intro h
    obtain ⟨l, hl⟩ := wrapperHouseResult_stored eng cdnPrefix h.1 h.2
    refine ⟨l, hl, ?_⟩
    rw [(wrapperHouseResult_ids hl).2, List.map_inj_left]
    exact fun i hi => find?_id.mpr (h.2 i hi)

/-- `simpleQuery` answers unless its page is empty. -/
theorem simpleQuery_answers (eng : Engine) (cdnPrefix : String) (rs : RentSearch) (db : Db) :
    simplePage eng rs db = [] ∧ simpleQuery eng cdnPrefix rs db = .error .badSqlGrammar ∨
      simplePage eng rs db ≠ [] ∧ ∃ dtos : List HouseDTO,
        simpleQuery eng cdnPrefix rs db = .ok ⟨(db.house.rows.filter (simpleFilter rs)).length, dtos.map some⟩ ∧
          dtos.map HouseDTO.house = (simplePage eng rs db).map (coverDTO cdnPrefix) := by
  by_cases hne : simplePage eng rs db = []
  · have hw : wrapperHouseList eng cdnPrefix ((simplePage eng rs db).map House.id) (simplePage eng rs db) db =
        .error .badSqlGrammar := by
      rw [hne]
      rfl
    refine Or.inl ⟨hne, ?_⟩
    unfold simplePage at hw
    unfold simpleQuery
    simp only [hw]
  · obtain ⟨dtos, hw⟩ := wrapperHouseList_page eng cdnPrefix db hne
    refine Or.inr ⟨hne, dtos, ?_, wrapperHouseList_ok hw⟩
    unfold simplePage at hw
    unfold simpleQuery
    simp only [hw]

theorem simpleQuery_shows (eng : Engine) (cdnPrefix : String) (rs : RentSearch) (db : Db) (ids : List Long) :
    Shows (simpleQuery eng cdnPrefix rs db) ids ↔
      simplePage eng rs db ≠ [] ∧ (simplePage eng rs db).map House.id = ids := by
  unfold Shows
  rcases simpleQuery_answers eng cdnPrefix rs db with ⟨hnil, hq⟩ | ⟨hne, dtos, hq, hd⟩
  · simp [hq, hnil]
  · have hids : dtos.map (fun dto => dto.house.id) = (simplePage eng rs db).map House.id := by
      have h := congrArg (List.map House.id) hd
      simpa [List.map_map, Function.comp_def, coverDTO] using h
    simp only [hq, Except.ok.injEq, exists_eq_left', List.map_map, ne_eq, hne, not_false_eq_true, true_and]
    rw [show ((Option.map fun dto : HouseDTO => dto.house.id) ∘ some) = some ∘ fun dto => dto.house.id from rfl,
      ← List.map_map, List.map_inj_right (fun _ _ => Option.some.inj), hids]

/-! ## The window of a search form -/

/-- The ids of all houses that match a form, in the order the store answers:
documents of the index with keywords, rows without. -/
def listed (eng : Engine) (env : Env) (rs : RentSearch) (db : Db) (es : Es) : List Long :=
  let (key, d) := HouseSort.generateSort rs.orderBy rs.orderDirection
  if rs.keywords.getD "" ≠ "" then
    ((eng.hits key d).arrange ((es.visible env).filter fun doc => SearchService.queryFilter eng rs doc.source)).map
      fun doc => doc.source.houseId
  else ((eng.rows key d).arrange (db.house.rows.filter (simpleFilter rs))).map House.id

/-- With keywords: a direction, a window inside the limit of the index, and an
answer with a house for each of its ids, or without any. Without: a start that
is a multiple of the size and inside the list. -/
def WindowExact (eng : Engine) (env : Env) (answer : Status) (rs : RentSearch) (db : Db) (es : Es) : Prop :=
  let ids := listed eng env rs db es
  if rs.keywords.getD "" ≠ "" then
    (rs.orderDirection.bind directionOf).isSome ∧
      (rs.getStart : Int) + rs.getSize ≤ SearchService.MAX_RESULT_WINDOW ∧
      match answer with
      | .threw => False
      | .failed => ids.length ≤ rs.getStart
      | .ok => ids = [] ∨ rs.getStart < ids.length ∧
          ∀ i ∈ window rs.getStart rs.getSize ids, (db.house.find? i).isSome
  else rs.getStart % rs.getSize = 0 ∧ rs.getStart < ids.length

theorem listed_nodup {eng : Engine} {env : Env} {rs : RentSearch} {db : Db} {es : Es}
    (hk : ¬ rs.keywords.getD "" ≠ "") : (listed eng env rs db es).Nodup := by
  unfold listed
  simp only [if_neg hk]
  refine (((eng.rows _ _).perm _).map House.id).nodup_iff.mpr ?_
  exact db.house.keys.sublist (List.filter_sublist.map _)

theorem map_simplePage {eng : Engine} {env : Env} {rs : RentSearch} {db : Db} {es : Es}
    (hk : ¬ rs.keywords.getD "" ≠ "") : (simplePage eng rs db).map House.id =
      window (rs.getStart / rs.getSize * rs.getSize) rs.getSize (listed eng env rs db es) := by
  unfold listed simplePage
  simp only [if_neg hk, Paging.window_map]

theorem loaded_none_shows (eng : Engine) (cdnPrefix : String) (db : Db) (expected : List Long) :
    Shows (loaded eng cdnPrefix db (.ok ⟨0, []⟩)) expected ↔ expected = [] := by
  unfold Shows loaded
  simp

/-- The ids of an answer, loaded: there are some, and each has a house. -/
theorem loaded_shows (eng : Engine) (cdnPrefix : String) (db : Db) {total : Nat} (ht : 0 < total) (ids : List Long) :
    Shows (loaded eng cdnPrefix db (.ok ⟨total, ids⟩)) ids ↔ ids ≠ [] ∧ ∀ i ∈ ids, (db.house.find? i).isSome := by
  rw [← wrapperHouseResult_shows eng cdnPrefix]
  unfold Shows loaded
  simp only [show ¬ total = 0 by omega, if_false]
  cases wrapperHouseResult eng cdnPrefix ids db with
  | error e => simp
  | ok l => simp

/-- An answer of the index is the window of the list. -/
theorem query_listed {eng : Engine} {env : Env} {rs : RentSearch} {es : Es} (db : Db)
    (hk : rs.keywords.getD "" ≠ "") {r : ServiceMultiResult Long}
    (h : SearchService.query eng env .ok rs es = .ok r) : r = ⟨(listed eng env rs db es).length,
      window rs.getStart rs.getSize (listed eng env rs db es)⟩ := by
  obtain ⟨d, hd, -, -, ⟨ha, -⟩ | ⟨-, hr⟩⟩ := SearchService.search_ok_iff.mp h
  · cases ha
  · have hlisted : listed eng env rs db es = ((eng.hits (HouseSort.getSortKey rs.orderBy) d).arrange
        ((es.visible env).filter fun doc => SearchService.queryFilter eng rs doc.source)).map
          fun doc => doc.source.houseId := by
      unfold listed
      simp only [if_pos hk, HouseSort.generateSort]
      rw [hd]
      rfl
    rw [hr, hlisted, List.length_map, Arrangement.length_arrange, Paging.window_map, Int.toNat_natCast]

/-- Only an answer of the index is shown. -/
theorem loaded_error_shows {eng : Engine} {cdnPrefix : String} {db : Db}
    {x : Except Exn (ServiceMultiResult Long)} (hx : ¬ ∃ r, x = .ok r) (ids : List Long) :
    ¬ Shows (loaded eng cdnPrefix db x) ids := by
  intro h
  obtain ⟨r, hr, -⟩ := h
  obtain ⟨answer, ha, -⟩ := loaded_ok hr
  exact hx ⟨answer, ha⟩

/-- With keywords the window is the one the index is asked for. -/
theorem loaded_search_shows (eng : Engine) (env : Env) (answer : Status) (rs : RentSearch) (db : Db) (es : Es)
    (hk : rs.keywords.getD "" ≠ "") :
    Shows (loaded eng env.cdnPrefix db (SearchService.query eng env answer rs es))
        (window rs.getStart rs.getSize (listed eng env rs db es)) ↔ WindowExact eng env answer rs db es := by
  have hpos := rs.getSize_pos
  unfold WindowExact
  simp only [if_pos hk]
  by_cases hans : ∃ r, SearchService.query eng env answer rs es = .ok r
  · obtain ⟨r, hr⟩ := hans
    obtain ⟨d, hd, -, hw, hcase⟩ := SearchService.search_ok_iff.mp hr
    rw [hr, hd]
    simp only [Option.isSome_some, hw, true_and]
    rcases hcase with ⟨rfl, rfl⟩ | ⟨rfl, -⟩
    · rw [loaded_none_shows, window_eq_nil hpos]
    · rw [query_listed db hk hr]
      by_cases hnil : listed eng env rs db es = []
      · simp [hnil, loaded_none_shows, window]
      · rw [loaded_shows eng env.cdnPrefix db (List.length_pos_iff.mpr hnil), ne_eq, window_eq_nil hpos, not_le]
        simp only [hnil, false_or]
  · refine iff_of_false (loaded_error_shows hans _) fun h => hans ?_
    -- a request within the conditions has an answer
    obtain ⟨hd, hw, hcase⟩ := h
    obtain ⟨d, hd⟩ := Option.isSome_iff_exists.mp hd
    have hsize : (0 : Int) ≤ rs.getSize := by omega
    cases answer with
    | ok => exact ⟨_, SearchService.search_ok_iff.mpr ⟨d, hd, hsize, hw, Or.inr ⟨rfl, rfl⟩⟩⟩
    | failed => exact ⟨_, SearchService.search_ok_iff.mpr ⟨d, hd, hsize, hw, Or.inl ⟨rfl, rfl⟩⟩⟩
    | threw => exact hcase.elim

/-- **The requested window.** For every form, database, index and answer of the
index, `query` shows the window of the ordered matches at `getStart` of
`getSize`, if and only if the request is `WindowExact`. -/
theorem window_iff (eng : Engine) (env : Env) (answer : Status) (rs : RentSearch) (db : Db) (es : Es) :
    Shows (query eng env answer rs db es) (window rs.getStart rs.getSize (listed eng env rs db es)) ↔
      WindowExact eng env answer rs db es := by
  unfold query
  by_cases hk : rs.keywords.getD "" ≠ ""
  · rw [if_pos hk]
    exact loaded_search_shows eng env answer rs db es hk
  · rw [if_neg hk, simpleQuery_shows, ne_eq, ← List.map_eq_nil_iff, map_simplePage hk]
    unfold WindowExact
    simp only [if_neg hk]
    exact Paging.window_page_iff (listed_nodup hk) rs.getSize_pos

/-- **An unaligned start.** From the second house on there is none, and the
page shows the first one. -/
theorem unaligned_start :
    ¬ ∀ (eng : Engine) (env : Env) (rs : RentSearch) (db : Db) (es : Es),
      Shows (query eng env .ok rs db es) (window rs.getStart rs.getSize (listed eng env rs db es)) := by
  intro hall
  have h := hall (.insertion fun _ _ => false) Sample.env (Sample.search 1 2) Sample.published.db
    Sample.published.es
  have hwindow : window (Sample.search 1 2).getStart (Sample.search 1 2).getSize
      (listed (.insertion fun _ _ => false) Sample.env (Sample.search 1 2) Sample.published.db
        Sample.published.es) = [] := by decide +kernel
  rw [hwindow] at h
  unfold query at h
  rw [if_neg (by decide), simpleQuery_shows] at h
  exact h.1 (List.map_eq_nil_iff.mp h.2)

/-! ## The database listings -/

/-- The requests answered from the database. -/
inductive ListRequest
  | adminQuery (user : Long) (q : DatatableSearch)
  | querySubscribeList (user : Long) (status : HouseSubscribeStatus) (start size : Int)
  | query (rs : RentSearch)

/-- The tables, and what the store decides in each of the three queries. -/
structure ListStores where
  env : Env
  eng : Engine
  admin : AdminEngine
  subscribe : SubscribeEngine
  bookings : Bookings

namespace ListRequest

/-- A sort column and direction the admin listing accepts; no keywords. -/
def Valid (st : ListStores) : ListRequest → Prop
  | .adminQuery _ q => ∃ d property order, newSort q.direction q.orderBy = .ok (d, property) ∧
      st.admin.rows property d = some order
  | .querySubscribeList .. => True
  | .query rs => rs.keywords.getD "" = ""

/-- The total an answer reports and the number of rows it lists. -/
def run (st : ListStores) : ListRequest → Except Exn (Nat × Nat)
  | .adminQuery user q => (HouseService.adminQuery st.admin st.env.cdnPrefix user q st.bookings.sys.db).map
      fun r => (r.total, r.result.length)
  | .querySubscribeList user status start size =>
      (HouseService.querySubscribeList st.subscribe user status start size st.bookings).map
        fun r => (r.total, r.result.length)
  | .query rs => (HouseService.query st.eng st.env .ok rs st.bookings.sys.db st.bookings.sys.es).map
      fun r => (r.total, r.result.length)

def start : ListRequest → Int
  | .adminQuery _ q => q.start
  | .querySubscribeList _ _ start _ => start
  | .query rs => rs.getStart

/-- The request returns; its list is empty when nothing matches or `start` is
past the end. -/
def Answers (st : ListStores) (req : ListRequest) : Prop :=
  ∃ total n, req.run st = .ok (total, n) ∧ (total = 0 ∨ (total : Int) ≤ req.start → n = 0)

/-- The page exists, and it does not reach back behind a start that is past
the end. -/
def PageServes (start size : Int) (total : Nat) : Prop :=
  1 ≤ size ∧ 0 ≤ start.tdiv size ∧ ((total : Int) ≤ start → (total : Int) ≤ start.tdiv size * size)

def ListingExact (st : ListStores) : ListRequest → Prop
  | .adminQuery user q =>
      PageServes q.start q.length (st.bookings.sys.db.house.rows.filter (adminFilter st.admin user q)).length
  | .querySubscribeList user status start size =>
      PageServes start size (findAllByUserIdAndStatus st.bookings.subscribe user status.value).length ∧
        ∀ r ∈ subscribePage st.subscribe user status (start.tdiv size).toNat size.toNat st.bookings.subscribe,
          HasHouse st.bookings.sys.db r.houseId
  | .query rs => rs.getStart < (st.bookings.sys.db.house.rows.filter (simpleFilter rs)).length

end ListRequest

/-- The rows of page `start / size`, counted. -/
theorem page_length {start size : Int} {total : Nat} (h1 : 1 ≤ size) (h0 : 0 ≤ start.tdiv size) :
    (total = 0 ∨ (total : Int) ≤ start → min size.toNat (total - (start.tdiv size).toNat * size.toNat) = 0) ↔
      ((total : Int) ≤ start → (total : Int) ≤ start.tdiv size * size) := by
  have hmul : ((((start.tdiv size).toNat * size.toNat : Nat) : Int)) = start.tdiv size * size := by
    rw [Nat.cast_mul, Int.toNat_of_nonneg h0, Int.toNat_of_nonneg (by omega)]
  have hzero : min size.toNat (total - (start.tdiv size).toNat * size.toNat) = 0 ↔
      (total : Int) ≤ start.tdiv size * size := by
    rw [← hmul]
    omega
  rw [hzero]
  constructor
  · intro h ht
    exact h (Or.inr ht)
  · intro h ht
    rcases ht with ht | ht
    · rw [ht, ← hmul]
      exact Int.natCast_nonneg _
    · exact h ht

/-- `Pair.of` gets no null iff every reservation has its house. -/
theorem pairs_ok_iff {houses : List House} {page : List HouseSubscribe} :
    (∃ ps, pairs houses page = .ok ps) ↔ ∀ r ∈ page, ∃ house ∈ houses, house.id = r.houseId := by
  constructor
  · intro h
    obtain ⟨ps, hps⟩ := h
    induction page generalizing ps with
    | nil => simp
    | cons r rest ih =>
      rw [pairs] at hps
      cases hf : houses.find? fun h => h.id = r.houseId with
      | none => simp [hf] at hps
      | some house =>
        rw [hf] at hps
        simp only at hps
        cases hrest : pairs houses rest with
        | error e => simp [hrest] at hps
        | ok result =>
          rw [List.forall_mem_cons]
          exact ⟨⟨house, List.mem_of_find?_eq_some hf, by simpa using List.find?_some hf⟩, ih result hrest⟩
  · intro h
    obtain ⟨ps, hps, -⟩ := pairs_ok h
    exact ⟨ps, hps⟩

theorem wrapper_answers (eng : SubscribeEngine) (total : Nat) (page : List HouseSubscribe) (db : Db) :
    (∀ r ∈ page, HasHouse db r.houseId) ∧ (∃ result, wrapper eng total page db = .ok ⟨total, result⟩ ∧
        result.map Prod.snd = page) ∨
      (¬ ∀ r ∈ page, HasHouse db r.houseId) ∧ ∃ e, wrapper eng total page db = .error e := by
  by_cases hall : ∀ r ∈ page, HasHouse db r.houseId
  · obtain ⟨result, hok, hmap, -⟩ := wrapper_ok eng total hall
    exact Or.inl ⟨hall, result, hok, hmap⟩
  · refine Or.inr ⟨hall, ?_⟩
    unfold wrapper
    cases hp : pairs (eng.houses.arrange (db.house.rows.filter fun h => h.id ∈ page.map HouseSubscribe.houseId))
        page with
    | error e => exact ⟨e, by simp only [hp]⟩
    | ok ps =>
      refine absurd (fun r hr => ?_) hall
      obtain ⟨house, hh, hid⟩ := pairs_ok_iff.mp ⟨ps, hp⟩ r hr
      rw [Arrangement.mem_arrange, List.mem_filter] at hh
      exact ⟨house, Table.find?_eq_some.mpr ⟨hh.1, hid⟩⟩

/-- `querySubscribeList` answers a page that exists if each of its reservations
has a house. -/
theorem querySubscribeList_answers (eng : SubscribeEngine) (user : Long) (status : HouseSubscribeStatus)
    (start size : Int) (b : Bookings) :
    let page := subscribePage eng user status (start.tdiv size).toNat size.toNat b.subscribe
    let serves := 1 ≤ size ∧ 0 ≤ start.tdiv size ∧ ∀ r ∈ page, HasHouse b.sys.db r.houseId
    serves ∧ (∃ result, querySubscribeList eng user status start size b =
        .ok ⟨(findAllByUserIdAndStatus b.subscribe user status.value).length, result⟩ ∧
          result.map Prod.snd = page) ∨
      ¬ serves ∧ ∃ e, querySubscribeList eng user status start size b = .error e := by
  intro page serves
  unfold querySubscribeList
  cases hp : newPage start size with
  | error e =>
    refine Or.inr ⟨fun h => ?_, e, rfl⟩
    rw [newPage_ok_iff.mpr ⟨h.1, h.2.1, rfl⟩] at hp
    cases hp
  | ok p =>
    obtain ⟨h1, h0, rfl⟩ := newPage_ok_iff.mp hp
    rcases wrapper_answers eng (findAllByUserIdAndStatus b.subscribe user status.value).length page b.sys.db
      with ⟨hall, hok⟩ | ⟨hall, herr⟩
    · exact Or.inl ⟨⟨h1, h0, hall⟩, hok⟩
    · exact Or.inr ⟨fun h => hall h.2.2, herr⟩

namespace ListRequest

/-- A request that answers, from its result. -/
theorem map_ok {β : Type} {x : Except Exn (ServiceMultiResult β)} {total n : Nat} :
    (x.map fun r => (r.total, r.result.length)) = .ok (total, n) ↔
      ∃ r, x = .ok r ∧ r.total = total ∧ r.result.length = n := by
  cases x with
  | error e => simp [Except.map]
  | ok r => simp [Except.map]

theorem adminQuery_iff {st : ListStores} {user : Long} {q : DatatableSearch}
    (hv : (ListRequest.adminQuery user q).Valid st) :
    (ListRequest.adminQuery user q).Answers st ↔ (ListRequest.adminQuery user q).ListingExact st := by
  obtain ⟨d, property, order, hsort, hrows⟩ := hv
  simp only [Answers, ListingExact, run, start, PageServes, map_ok]
  constructor
  · intro h
    obtain ⟨total, n, ⟨r, hr, rfl, rfl⟩, hn⟩ := h
    obtain ⟨_, _, _, -, -, h1, h0, rfl⟩ := adminQuery_ok_iff.mp hr
    refine ⟨h1, h0, (page_length h1 h0).mp fun ht => ?_⟩
    simpa [window_length] using hn ht
  · intro h
    obtain ⟨h1, h0, hpast⟩ := h
    refine ⟨_, _, ⟨_, adminQuery_ok_iff.mpr ⟨d, property, order, hsort, hrows, h1, h0, rfl⟩, rfl, rfl⟩, fun ht => ?_⟩
    simpa [window_length] using (page_length h1 h0).mpr hpast ht

theorem querySubscribeList_iff (st : ListStores) (user : Long) (status : HouseSubscribeStatus) (start size : Int) :
    (ListRequest.querySubscribeList user status start size).Answers st ↔
      (ListRequest.querySubscribeList user status start size).ListingExact st := by
  simp only [Answers, ListingExact, run, ListRequest.start, PageServes, map_ok]
  rcases querySubscribeList_answers st.subscribe user status start size st.bookings with
    ⟨⟨h1, h0, hall⟩, result, hok, hmap⟩ | ⟨hnot, e, herr⟩
  · have hlen : result.length = min size.toNat
        ((findAllByUserIdAndStatus st.bookings.subscribe user status.value).length -
          (start.tdiv size).toNat * size.toNat) := by
      rw [← List.length_map (f := Prod.snd), hmap, subscribePage, window_length, Arrangement.length_arrange]
    simp only [hok, Except.ok.injEq]
    constructor
    · intro h
      obtain ⟨total, n, ⟨_, rfl, rfl, rfl⟩, hn⟩ := h
      refine ⟨⟨h1, h0, (page_length h1 h0).mp fun ht => ?_⟩, hall⟩
      rw [← hlen]
      exact hn ht
    · intro h
      refine ⟨_, _, ⟨_, rfl, rfl, rfl⟩, fun ht => ?_⟩
      rw [hlen]
      exact (page_length h1 h0).mpr h.1.2.2 ht
  · refine iff_of_false ?_ fun h => hnot ⟨h.1.1, h.1.2.1, h.2⟩
    simp [herr]

theorem query_iff {st : ListStores} {rs : RentSearch} (hk : rs.keywords.getD "" = "") :
    (ListRequest.query rs).Answers st ↔ (ListRequest.query rs).ListingExact st := by
  have hpos := rs.getSize_pos
  have hdm := Nat.div_mul_le_self rs.getStart rs.getSize
  simp only [Answers, ListingExact, run, start, HouseService.query, if_neg (not_not.mpr hk)]
  have hlen : (simplePage st.eng rs st.bookings.sys.db).length = min rs.getSize
      ((st.bookings.sys.db.house.rows.filter (simpleFilter rs)).length - rs.getStart / rs.getSize * rs.getSize) := by
    rw [simplePage, window_length, Arrangement.length_arrange]
  rcases simpleQuery_answers st.eng st.env.cdnPrefix rs st.bookings.sys.db with ⟨hnil, hq⟩ | ⟨hne, dtos, hq, hd⟩
  · rw [hnil, List.length_nil] at hlen
    refine iff_of_false (by simp [hq, Except.map]) ?_
    omega
  · have hpage := List.length_pos_iff.mpr hne
    have hdtos : dtos.length = (simplePage st.eng rs st.bookings.sys.db).length := by
      simpa using congrArg List.length hd
    simp only [hq, Except.map, Except.ok.injEq, Prod.mk.injEq, List.length_map]
    constructor
    · intro h
      obtain ⟨total, n, ⟨rfl, rfl⟩, hn⟩ := h
      by_contra hge
      have hzero := hn (Or.inr (by omega))
      omega
    · intro h
      refine ⟨_, _, ⟨rfl, rfl⟩, fun ht => ?_⟩
      omega

/-- **The listings answer.** A valid request returns, with an empty list when
nothing matches or its start is past the end, exactly when it is
`ListingExact`. -/
theorem listing_iff (st : ListStores) {req : ListRequest} (hv : req.Valid st) :
    req.Answers st ↔ req.ListingExact st := by
  cases req with
  | adminQuery user q => exact adminQuery_iff hv
  | querySubscribeList user status start size => exact querySubscribeList_iff st user status start size
  | query rs => exact query_iff hv

/-- The sample's stores around the state `s`, without reservations. -/
def sampleStores (s : Sys) : ListStores where
  env := Sample.env
  eng := .insertion fun _ _ => false
  admin :=
    { like := fun pattern text => pattern = text
      rows := fun property d => if property = "createTime" then
        some (SortedArrangement.insertion House.createTime d.le).toArrangement else none }
  subscribe := Sample.listEngine
  bookings := ⟨s, .empty⟩

theorem listing_of_one : (ListRequest.query (Sample.search 0 5)).Answers (sampleStores Sample.published) := by
  have hv : (ListRequest.query (Sample.search 0 5)).Valid (sampleStores Sample.published) := by
    show (Sample.search 0 5).keywords.getD "" = ""
    decide
  have hone : (Sample.search 0 5).getStart <
      (Sample.published.db.house.rows.filter (simpleFilter (Sample.search 0 5))).length := by decide +kernel
  exact (listing_iff (sampleStores Sample.published) hv).mpr hone

/-- **Nothing to list.** With no published house in the city the page is
empty, and the query for its details has an empty list of ids. -/
theorem listing_of_nothing :
    ¬ ∀ (st : ListStores) (req : ListRequest), req.Valid st → req.Answers st := by
  intro hall
  have hv : (ListRequest.query (Sample.search 0 5)).Valid (sampleStores Sample.fresh) := by
    show (Sample.search 0 5).keywords.getD "" = ""
    decide
  have hnone : ¬ (Sample.search 0 5).getStart <
      (Sample.fresh.db.house.rows.filter (simpleFilter (Sample.search 0 5))).length := by decide +kernel
  exact hnone ((query_iff hv).mp (hall _ _ hv))

end ListRequest

end HouseService

end Soufang
