import Soufang.L2Service.HouseQuery

/-!
# What a listing shows

* `search_ok_iff`, `adminQuery_ok_iff`: when a search answers, and what.
* `search_hit`, `search_total`: an id in an answer of the index belongs to a
  visible document that passes the filter, and the total counts these.
* `loaded_ok`, `loaded_house`, `loaded_entry`: an entry of a list that is loaded
  from the index is the row of one of its ids, cover path aside.
* `simpleQuery_ok`, `simpleQuery_house`: the same for the rows `simpleQuery`
  finds itself.
-/
namespace Soufang

namespace SearchService

variable {eng : Engine} {env : Env} {answer : Status} {p : HouseIndexTemplate → Bool}
  {orderBy orderDirection : Option String} {start : Nat} {size : Int} {es : Es} {r : ServiceMultiResult Long}

theorem sortOrder_eq {direction : Option String} {d : Direction} :
    sortOrder direction = .ok d ↔ direction.bind directionOf = some d := by
  cases direction with
  | none => simp [sortOrder]
  | some s =>
    simp only [sortOrder, Option.bind_some]
    cases directionOf s with
    | none => simp
    | some d' => simp

/-- The ways a search answers. -/
theorem search_ok_iff :
    search eng env answer p orderBy orderDirection start size es = .ok r ↔
      ∃ d, orderDirection.bind directionOf = some d ∧ 0 ≤ size ∧ (start : Int) + size ≤ MAX_RESULT_WINDOW ∧
        (answer = .failed ∧ r = ⟨0, []⟩ ∨
          answer = .ok ∧ r = ⟨((es.visible env).filter fun doc => p doc.source).length,
            (window start size.toNat ((eng.hits (HouseSort.getSortKey orderBy) d).arrange
              ((es.visible env).filter fun doc => p doc.source))).map fun doc => doc.source.houseId⟩) := by
  unfold search
  cases hd : sortOrder orderDirection with
  | error e =>
    simp only [reduceCtorEq, false_iff, not_exists, not_and]
    intro d hd'
    rw [sortOrder_eq.mpr hd'] at hd
    cases hd
  | ok d =>
    have hd' := sortOrder_eq.mp hd
    by_cases hs : size < 0
    · simp only [hs, if_true, reduceCtorEq, false_iff, not_exists, not_and]
      intros
      omega
    · by_cases hw : (start : Int) + size > MAX_RESULT_WINDOW
      · simp only [hs, hw, if_true, if_false, reduceCtorEq, false_iff, not_exists, not_and]
        intros
        omega
      · simp only [hs, hw, if_false, hd', Option.some.injEq, exists_eq_left', show 0 ≤ size by omega,
          show (start : Int) + size ≤ MAX_RESULT_WINDOW by omega, true_and]
        cases answer with
        | ok => simp [eq_comm]
        | failed => simp [eq_comm]
        | threw => simp

theorem search_hit (h : search eng env answer p orderBy orderDirection start size es = .ok r) {id : Long}
    (hid : id ∈ r.result) : ∃ d ∈ es.visible env, p d.source = true ∧ d.source.houseId = id := by
  obtain ⟨d, -, -, -, ⟨-, rfl⟩ | ⟨-, rfl⟩⟩ := search_ok_iff.mp h
  · cases hid
  · obtain ⟨doc, hd, rfl⟩ := List.mem_map.mp hid
    obtain ⟨hd, hp⟩ := List.mem_filter.mp ((Arrangement.mem_arrange ..).mp (mem_of_mem_window hd))
    exact ⟨doc, hd, hp, rfl⟩

theorem search_total (h : search eng env .ok p orderBy orderDirection start size es = .ok r) :
    r.total = ((es.visible env).filter fun doc => p doc.source).length := by
  obtain ⟨d, -, -, -, ⟨ha, -⟩ | ⟨-, rfl⟩⟩ := search_ok_iff.mp h
  · cases ha
  · rfl

end SearchService

namespace HouseService

variable {eng : Engine} {cdnPrefix : String} {db : Db}

theorem wrapperHouseList_ok {ids : List Long} {houses : List House} {dtos : List HouseDTO}
    (h : wrapperHouseList eng cdnPrefix ids houses db = .ok dtos) :
    dtos.map HouseDTO.house = houses.map (coverDTO cdnPrefix) := by
  unfold wrapperHouseList at h
  simp only at h
  split at h
  · cases h
  · split at h
    · cases h
    · simp only [Except.ok.injEq] at h
      subst h
      simp [Function.comp_def]

theorem wrapperHouseList_house {ids : List Long} {houses : List House} {dtos : List HouseDTO}
    (h : wrapperHouseList eng cdnPrefix ids houses db = .ok dtos) {dto : HouseDTO} (hd : dto ∈ dtos) :
    ∃ house ∈ houses, dto.house = coverDTO cdnPrefix house ∧
      dto.houseDetail = db.findDetailByHouseId house.id := by
  unfold wrapperHouseList at h
  simp only at h
  split at h
  · cases h
  · split at h
    · cases h
    · simp only [Except.ok.injEq] at h
      subst h
      obtain ⟨house, hh, rfl⟩ := List.mem_map.mp hd
      exact ⟨house, hh, rfl, rfl⟩

/-- The rows of a page are loaded without an error, unless it is empty. -/
theorem wrapperHouseList_page (eng : Engine) (cdnPrefix : String) (db : Db) {houses : List House} (hne : houses ≠ []) :
    ∃ dtos, wrapperHouseList eng cdnPrefix (houses.map House.id) houses db = .ok dtos := by
  have hknown : ∀ i ∈ houses.map House.id, (houses.any fun house => house.id = i) = true := by
    intro i hi
    obtain ⟨house, hh, rfl⟩ := List.mem_map.mp hi
    exact List.any_eq_true.mpr ⟨house, hh, by simp⟩
  unfold wrapperHouseList
  simp only [List.map_eq_nil_iff, if_neg hne]
  rw [if_neg]
  · exact ⟨_, rfl⟩
  · simp only [Bool.or_eq_true, List.any_eq_true, not_or, not_exists, not_and]
    refine ⟨fun d hd => ?_, fun t ht => ?_⟩
    · have hi := (List.mem_filter.mp hd).2
      simp [hknown d.houseId (by simpa using hi)]
    · have hi := (List.mem_filter.mp ((Arrangement.mem_arrange ..).mp ht)).2
      simp [hknown t.houseId (by simpa using hi)]

/-- A list that is loaded has the total of the index, and is empty or has an
entry for each id. -/
theorem loaded_ok {x : Except Exn (ServiceMultiResult Long)} {r : ServiceMultiResult (Option HouseDTO)}
    (h : loaded eng cdnPrefix db x = .ok r) : ∃ ids, x = .ok ids ∧ r.total = ids.total ∧
      (r.result = [] ∨ ∃ dtos, wrapperHouseList eng cdnPrefix ids.result
          (db.house.rows.filter fun h => h.id ∈ ids.result) db = .ok dtos ∧
        r.result = ids.result.map fun id => dtos.find? fun dto => dto.house.id = id) := by
  unfold loaded at h
  cases x with
  | error e => cases h
  | ok ids =>
    simp only at h
    split at h
    · rename_i h0
      simp only [Except.ok.injEq] at h
      subst h
      exact ⟨ids, rfl, h0.symm, Or.inl rfl⟩
    · unfold wrapperHouseResult at h
      cases hw : wrapperHouseList eng cdnPrefix ids.result
          (db.house.rows.filter fun h => h.id ∈ ids.result) db with
      | error e => simp [hw] at h
      | ok dtos =>
        simp only [hw, Except.ok.injEq] at h
        subst h
        exact ⟨ids, rfl, rfl, Or.inr ⟨dtos, hw, rfl⟩⟩

/-- An entry loaded for an id is the row with this id, if there is one. -/
theorem loaded_entry {x : Except Exn (ServiceMultiResult Long)} {r : ServiceMultiResult (Option HouseDTO)}
    (h : loaded eng cdnPrefix db x = .ok r) {e : Option HouseDTO} (he : e ∈ r.result) :
    ∃ ids, x = .ok ids ∧ ∃ id ∈ ids.result, ∀ house, db.house.find? id = some house →
      ∃ dto, e = some dto ∧ dto.house = coverDTO cdnPrefix house ∧
        dto.houseDetail = db.findDetailByHouseId house.id := by
  obtain ⟨ids, rfl, -, hr | ⟨dtos, hw, hr⟩⟩ := loaded_ok h
  · rw [hr] at he; cases he
  rw [hr] at he
  obtain ⟨id, hid, rfl⟩ := List.mem_map.mp he
  refine ⟨ids, rfl, id, hid, fun house hf => ?_⟩
  obtain ⟨hmem, hhid⟩ := Table.find?_some hf
  have hhid : house.id = id := hhid
  have hin : coverDTO cdnPrefix house ∈ dtos.map HouseDTO.house := by
    rw [wrapperHouseList_ok hw]
    exact List.mem_map_of_mem (List.mem_filter.mpr ⟨hmem, by simp [hhid, hid]⟩)
  obtain ⟨dto0, hd0, he0⟩ := List.mem_map.mp hin
  cases hfd : dtos.find? fun dto => dto.house.id = id with
  | none =>
    have hne := List.find?_eq_none.mp hfd dto0 hd0
    exact absurd hhid (by simpa [he0, coverDTO] using hne)
  | some dto =>
    obtain ⟨house', hh', hdto, hdet⟩ := wrapperHouseList_house hw (List.mem_of_find?_eq_some hfd)
    have hid' : house'.id = id := by
      have hdi := List.find?_some hfd
      rw [decide_eq_true_eq, hdto] at hdi
      exact hdi
    have hsame : house' = house :=
      Table.id_inj (List.mem_of_mem_filter hh') hmem (hid'.trans hhid.symm)
    exact ⟨dto, rfl, by rw [hdto, hsame], by rw [hdet, hsame]⟩

theorem loaded_house {x : Except Exn (ServiceMultiResult Long)} {r : ServiceMultiResult (Option HouseDTO)}
    (h : loaded eng cdnPrefix db x = .ok r) {dto : HouseDTO} (hd : some dto ∈ r.result) :
    ∃ ids, x = .ok ids ∧ ∃ house ∈ db.house.rows, house.id ∈ ids.result ∧ dto.house = coverDTO cdnPrefix house := by
  obtain ⟨ids, rfl, -, hr | ⟨dtos, hw, hr⟩⟩ := loaded_ok h
  · rw [hr] at hd; cases hd
  rw [hr] at hd
  obtain ⟨id, -, hf⟩ := List.mem_map.mp hd
  obtain ⟨house, hh, he, -⟩ := wrapperHouseList_house hw (List.mem_of_find?_eq_some hf)
  obtain ⟨hh, hid⟩ := List.mem_filter.mp hh
  exact ⟨ids, rfl, house, hh, by simpa using hid, he⟩

/-- The rows on the requested page. -/
def simplePage (eng : Engine) (rs : RentSearch) (db : Db) : List House :=
  window (rs.getStart / rs.getSize * rs.getSize) rs.getSize
    ((eng.rows (HouseSort.generateSort rs.orderBy rs.orderDirection).1
      (HouseSort.generateSort rs.orderBy rs.orderDirection).2).arrange (db.house.rows.filter (simpleFilter rs)))

theorem simpleQuery_ok {rs : RentSearch} {r : ServiceMultiResult (Option HouseDTO)}
    (h : simpleQuery eng cdnPrefix rs db = .ok r) : ∃ dtos,
      wrapperHouseList eng cdnPrefix ((simplePage eng rs db).map House.id) (simplePage eng rs db) db = .ok dtos ∧
        r = ⟨(db.house.rows.filter (simpleFilter rs)).length, dtos.map some⟩ := by
  unfold simpleQuery at h
  simp only at h
  split at h
  · cases h
  · rename_i dtos hw
    simp only [Except.ok.injEq] at h
    exact ⟨dtos, hw, h.symm⟩

theorem mem_simplePage {rs : RentSearch} {house : House} (h : house ∈ simplePage eng rs db) :
    house ∈ db.house.rows ∧ simpleFilter rs house = true :=
  List.mem_filter.mp ((Arrangement.mem_arrange ..).mp (mem_of_mem_window h))

theorem simpleQuery_house {rs : RentSearch} {r : ServiceMultiResult (Option HouseDTO)}
    (h : simpleQuery eng cdnPrefix rs db = .ok r) {dto : HouseDTO} (hd : some dto ∈ r.result) :
    ∃ house ∈ db.house.rows, simpleFilter rs house = true ∧ dto.house = coverDTO cdnPrefix house ∧
      dto.houseDetail = db.findDetailByHouseId house.id := by
  obtain ⟨dtos, hw, rfl⟩ := simpleQuery_ok h
  obtain ⟨dto', hd', he⟩ := List.mem_map.mp hd
  simp only [Option.some.injEq] at he
  subst he
  obtain ⟨house, hh, he⟩ := wrapperHouseList_house hw hd'
  obtain ⟨hh, hf⟩ := mem_simplePage hh
  exact ⟨house, hh, hf, he⟩

theorem statusOf_coverDTO {house : House} (hh : house ∈ db.house.rows) {dto : HouseDTO}
    (he : dto.house = coverDTO cdnPrefix house) : db.statusOf dto.house.id = some house.status := by
  have hf : db.house.find? house.id = some house := Table.find?_eq_some.mpr ⟨hh, rfl⟩
  rw [he]
  show (db.house.find? house.id).map House.status = _
  rw [hf]; rfl

theorem newPage_ok_iff {start size : Int} {p : Nat × Nat} :
    newPage start size = .ok p ↔
      1 ≤ size ∧ 0 ≤ start.tdiv size ∧ p = ((start.tdiv size).toNat, size.toNat) := by
  unfold newPage
  by_cases h0 : size = 0
  · simp [h0]
  · by_cases hbad : start.tdiv size < 0 ∨ size < 1
    · simp only [h0, hbad, if_false, if_true, reduceCtorEq, false_iff, not_and]
      intros
      omega
    · simp only [h0, hbad, if_false, Except.ok.injEq, show 1 ≤ size by omega, show 0 ≤ start.tdiv size by omega,
        true_and, eq_comm]

/-- What `adminQuery` answers, and for which searches. -/
theorem adminQuery_ok_iff {admin : AdminEngine} {user : Long} {q : DatatableSearch} {r : ServiceMultiResult HouseDTO} :
    adminQuery admin cdnPrefix user q db = .ok r ↔
      ∃ d property order, newSort q.direction q.orderBy = .ok (d, property) ∧ admin.rows property d = some order ∧
        1 ≤ q.length ∧ 0 ≤ q.start.tdiv q.length ∧
        r = ⟨(db.house.rows.filter (adminFilter admin user q)).length,
          (window ((q.start.tdiv q.length).toNat * q.length.toNat) q.length.toNat
            (order.arrange (db.house.rows.filter (adminFilter admin user q)))).map fun h =>
              ⟨coverDTO cdnPrefix h, none, [], []⟩⟩ := by
  constructor
  · intro h
    unfold adminQuery at h
    split at h
    · cases h
    · rename_i d property hsort
      split at h
      · cases h
      · rename_i page length hpage
        split at h
        · cases h
        · rename_i order hrows
          obtain ⟨h1, h0, hp⟩ := newPage_ok_iff.mp hpage
          obtain ⟨rfl, rfl⟩ := Prod.mk.inj hp
          exact ⟨d, property, order, hsort, hrows, h1, h0, (Except.ok.inj h).symm⟩
  · intro h
    obtain ⟨d, property, order, hsort, hrows, h1, h0, rfl⟩ := h
    unfold adminQuery
    simp only [hsort, newPage_ok_iff.mpr ⟨h1, h0, rfl⟩, hrows]

end HouseService

end Soufang
