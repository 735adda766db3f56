import Soufang.Core.Lookup
import Soufang.L2Service.QuerySpec
import Soufang.L3System.System

/-!
# The join behind a search result

`wrapperHouseResult` loads houses, details and tags in three queries and
merges them in a map from ids to DTOs, which two loops change in place. Here
are these loops as the code runs them, with the rows of each query in an order
of the store's choice.

* `wrapperHouseResult_eq`: the loops compute what `wrapperHouseResult` says,
  for all ids and databases, failures included.
* `join_result`: a list of stored houses is answered entry by entry, each
  with its own house, detail and tags.
-/
namespace Soufang

namespace HouseService

/-- The orders in which the three queries return their rows. -/
structure JoinOrder where
  houses : Arrangement House
  details : Arrangement HouseDetail
  tags : Arrangement HouseTag

namespace Loop

open Lookup

/-- The map of the loaded houses.
mirrors soufang/src/main/java/com/wf/service/house/HouseService.java:418-424 -/
def idToHouseMap (cdnPrefix : String) (houses : List House) : Long → Option HouseDTO :=
  putEach House.id (fun h => ⟨coverDTO cdnPrefix h, none, [], []⟩) houses fun _ => none

/-- `houseDTO.setHouseDetail(detailDTO)`. -/
def setHouseDetail (dto : HouseDTO) (d : HouseDetail) : HouseDTO := { dto with houseDetail := some d }

/-- `houseDTO.getTags().add(houseTag.getName())`; the list is made on demand.
mirrors soufang/src/main/java/com/wf/web/dto/HouseDTO.java:185-190 -/
def addTag (dto : HouseDTO) (t : HouseTag) : HouseDTO := { dto with tags := dto.tags ++ [t.name] }

/-- A row whose house is not in the map makes its loop dereference null.
mirrors soufang/src/main/java/com/wf/service/house/HouseService.java:477-490 -/
def wrapperHouseList (order : JoinOrder) (ids : List Long) (db : Db) (m : Long → Option HouseDTO) :
    Except Exn (Long → Option HouseDTO) :=
  if ids = [] then .error .badSqlGrammar
  else
    match updateEach HouseDetail.houseId setHouseDetail
        (order.details.arrange (db.detail.rows.filter fun d => d.houseId ∈ ids)) m with
    | none => .error .nullPointer
    | some m =>
      match updateEach HouseTag.houseId addTag
          (order.tags.arrange (db.tag.rows.filter fun t => t.houseId ∈ ids)) m with
      | none => .error .nullPointer
      | some m => .ok m

/-- mirrors soufang/src/main/java/com/wf/service/house/HouseService.java:416-432 -/
def wrapperHouseResult (order : JoinOrder) (cdnPrefix : String) (ids : List Long) (db : Db) :
    Except Exn (List (Option HouseDTO)) :=
  let houses := order.houses.arrange (db.house.rows.filter fun h => h.id ∈ ids)
  match wrapperHouseList order ids db (idToHouseMap cdnPrefix houses) with
  | .error e => .error e
  | .ok m => .ok (ids.map m)

/-! ## What the loops leave in an entry -/

theorem foldl_addTag (tags : List HouseTag) (dto : HouseDTO) :
    tags.foldl addTag dto = { dto with tags := dto.tags ++ tags.map HouseTag.name } := by
  induction tags generalizing dto with
  | nil => simp
  | cons t rest ih => simp [ih, addTag]

section
variable {order : JoinOrder} {cdnPrefix : String} {ids : List Long} {db : Db}

theorem filter_of_ids {α : Type} (o : Arrangement α) (key : α → Long) (rows : List α) {i : Long} (hi : i ∈ ids) :
    ((o.arrange (rows.filter fun r => key r ∈ ids)).filter fun r => key r = i).Perm
      (rows.filter fun r => key r = i) := by
  refine ((o.perm _).filter _).trans ?_
  rw [List.filter_filter]
  refine .of_eq (List.filter_congr fun r _ => ?_)
  by_cases hr : key r = i
  · simp [hr, hi]
  · simp [hr]

/-- The details of one house among the rows loaded: its one row, or none. -/
theorem details_of {i : Long} (hi : i ∈ ids) :
    ((order.details.arrange (db.detail.rows.filter fun d => d.houseId ∈ ids)).filter fun d => d.houseId = i) =
      (db.findDetailByHouseId i).toList := by
  have hperm := filter_of_ids order.details HouseDetail.houseId db.detail.rows hi
  rw [filter_eq_find? (detail_houseIds db)] at hperm
  unfold Db.findDetailByHouseId
  cases hf : db.detail.rows.find? fun d => d.houseId = i with
  | none => rw [hf] at hperm; exact hperm.eq_nil
  | some d => rw [hf] at hperm; exact List.perm_singleton.mp hperm

theorem ids_nodup (o : Arrangement House) :
    ((o.arrange (db.house.rows.filter fun h => h.id ∈ ids)).map House.id).Nodup := by
  have hsub : ((db.house.rows.filter fun h => h.id ∈ ids).map House.id).Nodup :=
    db.house.keys.sublist (List.filter_sublist.map _)
  exact ((o.perm _).map House.id).nodup_iff.mpr hsub

theorem find?_of_ids (o : Arrangement House) {i : Long} (hi : i ∈ ids) :
    ((o.arrange (db.house.rows.filter fun h => h.id ∈ ids)).find? fun h => h.id = i) = db.house.find? i := by
  refine Option.ext fun house => ?_
  rw [find?_eq_some_of_unique, Table.find?_eq_some, Arrangement.mem_arrange, List.mem_filter]
  · constructor
    · intro h
      exact ⟨h.1.1, h.2⟩
    · intro h
      have hid : house.id = i := h.2
      exact ⟨⟨h.1, by simp [hid, hi]⟩, hid⟩
  · intro a ha b hb hai hbi
    exact List.inj_on_of_nodup_map (ids_nodup o) ha hb (hai.trans hbi.symm)

/-- The entry of an id before the two loops. -/
theorem idToHouseMap_get {i : Long} (hi : i ∈ ids) :
    idToHouseMap cdnPrefix (order.houses.arrange (db.house.rows.filter fun h => h.id ∈ ids)) i =
      (db.house.find? i).map fun h => ⟨coverDTO cdnPrefix h, none, [], []⟩ := by
  rw [idToHouseMap, putEach_get (ids_nodup order.houses), find?_of_ids order.houses hi]

/-- The DTO of a house with its detail and tags. -/
def joined (order : JoinOrder) (cdnPrefix : String) (ids : List Long) (db : Db) (h : House) : HouseDTO :=
  ⟨coverDTO cdnPrefix h, db.findDetailByHouseId h.id,
    ((order.tags.arrange (db.tag.rows.filter fun t => t.houseId ∈ ids)).filter fun t => t.houseId = h.id).map
      HouseTag.name, []⟩

/-- No loaded row names a house that is not in the map. -/
def Known (ids : List Long) (db : Db) (m : Long → Option HouseDTO) : Prop :=
  (∀ d ∈ db.detail.rows, d.houseId ∈ ids → (m d.houseId).isSome) ∧
    ∀ t ∈ db.tag.rows, t.houseId ∈ ids → (m t.houseId).isSome

theorem forall_arranged {α : Type} (o : Arrangement α) (key : α → Long) (rows : List α) (p : α → Prop) :
    (∀ r ∈ o.arrange (rows.filter fun r => key r ∈ ids), p r) ↔ ∀ r ∈ rows, key r ∈ ids → p r := by
  simp only [Arrangement.mem_arrange, List.mem_filter, decide_eq_true_eq, and_imp]

/-- The loops end with a map exactly when every row is known. -/
theorem wrapperHouseList_known (order : JoinOrder) (hne : ids ≠ []) {m : Long → Option HouseDTO} (hk : Known ids db m) :
    ∃ m', wrapperHouseList order ids db m = .ok m' ∧ ∀ i, m' i = (m i).map fun dto =>
      ((order.tags.arrange (db.tag.rows.filter fun t => t.houseId ∈ ids)).filter fun t => t.houseId = i).foldl
        addTag (((order.details.arrange (db.detail.rows.filter fun d => d.houseId ∈ ids)).filter
          fun d => d.houseId = i).foldl setHouseDetail dto) := by
  unfold wrapperHouseList
  rw [if_neg hne]
  have hd : (updateEach HouseDetail.houseId setHouseDetail
      (order.details.arrange (db.detail.rows.filter fun d => d.houseId ∈ ids)) m).isSome :=
    updateEach_isSome.mpr ((forall_arranged order.details HouseDetail.houseId db.detail.rows _).mpr hk.1)
  obtain ⟨m1, h1⟩ := Option.isSome_iff_exists.mp hd
  have hsome : ∀ i, (m1 i).isSome = (m i).isSome := fun i => by rw [updateEach_get h1, Option.isSome_map]
  have ht : (updateEach HouseTag.houseId addTag
      (order.tags.arrange (db.tag.rows.filter fun t => t.houseId ∈ ids)) m1).isSome := by
    rw [updateEach_isSome, forall_arranged order.tags HouseTag.houseId db.tag.rows fun t => (m1 t.houseId).isSome]
    intro t htr hti
    exact (hsome _).trans (hk.2 t htr hti)
  obtain ⟨m2, h2⟩ := Option.isSome_iff_exists.mp ht
  simp only [h1, h2]
  refine ⟨m2, rfl, fun i => ?_⟩
  rw [updateEach_get h2, updateEach_get h1, Option.map_map]
  rfl

theorem wrapperHouseList_unknown (hne : ids ≠ []) {m : Long → Option HouseDTO} (hk : ¬ Known ids db m) :
    wrapperHouseList order ids db m = .error .nullPointer := by
  unfold wrapperHouseList
  rw [if_neg hne]
  split
  · rfl
  · rename_i m1 h1
    split
    · rfl
    · rename_i m2 h2
      have hsome : ∀ i, (m1 i).isSome = (m i).isSome := fun i => by rw [updateEach_get h1, Option.isSome_map]
      have hd := updateEach_isSome.mp (Option.isSome_iff_exists.mpr ⟨m1, h1⟩)
      have ht := updateEach_isSome.mp (Option.isSome_iff_exists.mpr ⟨m2, h2⟩)
      refine absurd ⟨?_, ?_⟩ hk
      · exact (forall_arranged order.details HouseDetail.houseId db.detail.rows _).mp hd
      · intro t htr hti
        rw [← hsome]
        exact (forall_arranged order.tags HouseTag.houseId db.tag.rows fun t => (m1 t.houseId).isSome).mp ht t htr hti

/-- An id in the list is answered by its house, joined. -/
theorem wrapperHouseResult_ok (hne : ids ≠ [])
    (hk : Known ids db (idToHouseMap cdnPrefix (order.houses.arrange (db.house.rows.filter fun h => h.id ∈ ids)))) :
    wrapperHouseResult order cdnPrefix ids db =
      .ok (ids.map fun i => (db.house.find? i).map (joined order cdnPrefix ids db)) := by
  obtain ⟨m, hm, hget⟩ := wrapperHouseList_known order hne hk
  unfold wrapperHouseResult
  simp only [hm, Except.ok.injEq]
  refine List.map_congr_left fun i hi => ?_
  rw [hget, idToHouseMap_get hi, details_of hi, Option.map_map]
  refine Option.map_congr fun house hh => ?_
  have hid : house.id = i := (Table.find?_some hh).2
  subst hid
  simp only [Function.comp, foldl_addTag, joined]
  cases db.findDetailByHouseId house.id with
  | none => rfl
  | some d => rfl

theorem known_iff {rows : List House} (hr : rows = db.house.rows.filter fun h => h.id ∈ ids) :
    Known ids db (idToHouseMap cdnPrefix (order.houses.arrange (db.house.rows.filter fun h => h.id ∈ ids))) ↔
      (∀ d ∈ db.detail.rows, d.houseId ∈ ids → (rows.any fun house => house.id = d.houseId) = true) ∧
        ∀ t ∈ db.tag.rows, t.houseId ∈ ids → (rows.any fun house => house.id = t.houseId) = true := by
  have hin : ∀ i ∈ ids, (idToHouseMap cdnPrefix
      (order.houses.arrange (db.house.rows.filter fun h => h.id ∈ ids)) i).isSome =
        (rows.any fun house => house.id = i) := by
    intro i hi
    rw [idToHouseMap_get hi, Option.isSome_map, ← find?_of_ids (.stored House) hi, hr, Bool.eq_iff_iff,
      List.find?_isSome, List.any_eq_true]
    rfl
  unfold Known
  constructor
  · intro h
    exact ⟨fun d hd hi => hin _ hi ▸ h.1 d hd hi, fun t ht hi => hin _ hi ▸ h.2 t ht hi⟩
  · intro h
    exact ⟨fun d hd hi => (hin _ hi).trans (h.1 d hd hi), fun t ht hi => (hin _ hi).trans (h.2 t ht hi)⟩

/-- The join as `HouseQuery` states it, without the test for unknown rows. -/
theorem summary_ok {eng : Engine} (he : eng.tags = order.tags) (hne : ids ≠ [])
    (hk : Known ids db (idToHouseMap cdnPrefix (order.houses.arrange (db.house.rows.filter fun h => h.id ∈ ids)))) :
    HouseService.wrapperHouseResult eng cdnPrefix ids db =
      .ok (ids.map fun i => (db.house.find? i).map (joined order cdnPrefix ids db)) := by
  obtain ⟨hd, ht⟩ := (known_iff rfl).mp hk
  unfold HouseService.wrapperHouseResult HouseService.wrapperHouseList
  rw [if_neg hne, if_neg]
  · simp only [Except.ok.injEq]
    refine List.map_congr_left fun i hi => ?_
    rw [List.find?_map, ← find?_of_ids (.stored House) hi, he]
    rfl
  · simp only [Bool.or_eq_true, List.any_eq_true, not_or, not_exists, not_and, Bool.not_eq_true]
    constructor
    · intro d hd'
      obtain ⟨hd', hi⟩ := List.mem_filter.mp hd'
      rw [hd d hd' (of_decide_eq_true hi)]
      rfl
    · intro t ht'
      obtain ⟨ht', hi⟩ := List.mem_filter.mp ((Arrangement.mem_arrange ..).mp ht')
      rw [ht t ht' (of_decide_eq_true hi)]
      rfl

theorem summary_null {eng : Engine} (hne : ids ≠ [])
    (hk : ¬ Known ids db (idToHouseMap cdnPrefix
      (order.houses.arrange (db.house.rows.filter fun h => h.id ∈ ids)))) :
    HouseService.wrapperHouseResult eng cdnPrefix ids db = .error .nullPointer := by
  rw [known_iff rfl] at hk
  unfold HouseService.wrapperHouseResult HouseService.wrapperHouseList
  rw [if_neg hne, if_pos]
  simp only [Bool.or_eq_true, List.any_eq_true, Arrangement.mem_arrange, List.mem_filter, decide_eq_true_eq]
  by_contra hnot
  refine hk ⟨fun d hd hi => ?_, fun t ht hi => ?_⟩
  · by_contra hn
    exact hnot (Or.inl ⟨d, ⟨hd, hi⟩, by simpa using hn⟩)
  · by_contra hn
    exact hnot (Or.inr ⟨t, ⟨ht, hi⟩, by simpa using hn⟩)

/-- **The loops refine the join.** Whatever order the rows come in. -/
theorem wrapperHouseResult_eq {eng : Engine} (he : eng.tags = order.tags) :
    wrapperHouseResult order cdnPrefix ids db = HouseService.wrapperHouseResult eng cdnPrefix ids db := by
  by_cases hne : ids = []
  · subst hne
    rfl
  · by_cases hk : Known ids db
        (idToHouseMap cdnPrefix (order.houses.arrange (db.house.rows.filter fun h => h.id ∈ ids)))
    · rw [wrapperHouseResult_ok hne hk, summary_ok he hne hk]
    · rw [summary_null hne hk, wrapperHouseResult, wrapperHouseList_unknown hne hk]

end

end Loop

/-- **Order and houses are kept.** For stored houses with their detail rows, in
whatever order the stores return rows: one entry for each id, in the order of
the ids, with the house's own detail and its own tags, once for each row. -/
theorem join_result (order : JoinOrder) (cdnPrefix : String) {ids : List Long} {db : Db} (hne : ids ≠ [])
    (h : ∀ i ∈ ids, (db.house.find? i).isSome ∧ (db.findDetailByHouseId i).isSome) :
    ∃ result, Loop.wrapperHouseResult order cdnPrefix ids db = .ok result ∧ result.length = ids.length ∧
      ∀ (n : Nat) (hn : n < ids.length), ∃ dto house detail, result[n]? = some (some dto) ∧
        db.house.find? ids[n] = some house ∧ dto.house = coverDTO cdnPrefix house ∧
        db.findDetailByHouseId ids[n] = some detail ∧ dto.houseDetail = some detail ∧
        dto.tags.Perm ((db.findAllTagsByHouseId ids[n]).map HouseTag.name) := by
  have hknown : Loop.Known ids db
      (Loop.idToHouseMap cdnPrefix (order.houses.arrange (db.house.rows.filter fun h => h.id ∈ ids))) := by
    have hin : ∀ i ∈ ids, (Loop.idToHouseMap cdnPrefix
        (order.houses.arrange (db.house.rows.filter fun h => h.id ∈ ids)) i).isSome := by
      intro i hi
      rw [Loop.idToHouseMap_get hi, Option.isSome_map]
      exact (h i hi).1
    exact ⟨fun d _ hi => hin _ hi, fun t _ hi => hin _ hi⟩
  refine ⟨_, Loop.wrapperHouseResult_ok hne hknown, List.length_map .., ?_⟩
  intro n hn
  have hmem : ids[n] ∈ ids := List.getElem_mem hn
  obtain ⟨hh, hd⟩ := h _ hmem
  obtain ⟨house, hh⟩ := Option.isSome_iff_exists.mp hh
  obtain ⟨detail, hd⟩ := Option.isSome_iff_exists.mp hd
  have hid : house.id = ids[n] := (Table.find?_some hh).2
  refine ⟨Loop.joined order cdnPrefix ids db house, house, detail, ?_, hh, rfl, hd, ?_, ?_⟩
  · rw [List.getElem?_map, List.getElem?_eq_getElem hn, Option.map_some, hh]
    rfl
  · rw [← hd, ← hid]
    rfl
  · rw [← hid]
    exact (Loop.filter_of_ids order.tags HouseTag.houseId db.tag.rows (hid ▸ hmem)).map HouseTag.name

/-- Rows with the newest first. -/
def newestFirst : JoinOrder where
  houses := (SortedArrangement.insertion House.id (· ≥ ·)).toArrangement
  details := (SortedArrangement.insertion HouseDetail.id (· ≥ ·)).toArrangement
  tags := (SortedArrangement.insertion HouseTag.id (· ≥ ·)).toArrangement

/-- Two houses with tags, the second one asked for twice. -/
theorem join_result_sample :
    newestFirst.houses.arrange Sample.tagged.db.house.rows ≠ Sample.tagged.db.house.rows ∧
      ∃ result, Loop.wrapperHouseResult newestFirst "cdn/" [2, 1, 2] Sample.tagged.db = .ok result ∧
        result.length = 3 ∧ ∀ n (hn : n < 3), ∃ dto, result[n]? = some (some dto) ∧
          dto.house.id = ([2, 1, 2] : List Long)[n] ∧
          dto.tags.Perm ([["双卫生间"], ["近地铁", "随时看房"], ["双卫生间"]][n]) := by
  have hstored : ∀ i ∈ ([2, 1, 2] : List Long), (Sample.tagged.db.house.find? i).isSome ∧
      (Sample.tagged.db.findDetailByHouseId i).isSome := by decide +kernel
  have hnames : ∀ n (hn : n < 3),
      (Sample.tagged.db.findAllTagsByHouseId ([2, 1, 2] : List Long)[n]).map HouseTag.name =
        [["双卫生间"], ["近地铁", "随时看房"], ["双卫生间"]][n] := by decide +kernel
  refine ⟨by decide +kernel, ?_⟩
  obtain ⟨result, hr, hlen, hentry⟩ := join_result newestFirst "cdn/" (by decide) hstored
  refine ⟨result, hr, hlen, fun n hn => ?_⟩
  obtain ⟨dto, house, -, hdto, hh, hhouse, -, -, htags⟩ := hentry n hn
  refine ⟨dto, hdto, ?_, hnames n hn ▸ htags⟩
  rw [hhouse]
  exact (Table.find?_some hh).2

end HouseService

end Soufang
