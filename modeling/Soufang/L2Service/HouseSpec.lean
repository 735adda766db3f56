import Soufang.L2Service.HouseService

/-!
# What one request does to the tables

One specification lemma for each operation of `HouseService`: it changes
nothing, or it writes the named tables in the named way.

* `saveHouse_cases`, `save_cases`: the four writes of `save` and the three
  places between them where a refused write leaves what is stored so far.
* `updateLoad_ok`, `update_cases`: `update` refuses or writes all three tables.
* `addTag_cases`, `removeTag_cases`, `removePhoto_cases`: one table each.
* `updateCover_db`, `updateCover_throws`: no table, for want of a transaction.
-/
namespace Soufang

namespace HouseService

theorem find?_rewriteHouse (t : Table House) (i : Long) (f : House → House) (j : Long) :
    (rewriteHouse t i f).find? j =
      if j = i then (t.find? i).map fun h => { f h with id := h.id } else t.find? j :=
  Table.find?_modify ..

theorem mem_rewriteHouse {t : Table House} {i : Long} {f : House → House} {r : House} :
    r ∈ (rewriteHouse t i f).rows ↔ ∃ a ∈ t.rows, (if a.id = i then { f a with id := a.id } else a) = r :=
  Table.mem_modify ..

theorem mem_rewriteDetail {t : Table HouseDetail} {i : Long} {f : HouseDetail → HouseDetail} {r : HouseDetail} :
    r ∈ (rewriteDetail t i f).rows ↔
      ∃ a ∈ t.rows, (if a.id = i then { f a with id := a.id, houseId := a.houseId } else a) = r :=
  Table.mem_modify ..

/-- A merge over the stored row, or an insert under the next id. -/
theorem saveHouse_cases {t t' : Table House} {id : Option Long} {h : House} {i : Long}
    (hs : saveHouse t id h = some (i, t')) :
    (∃ old, id.bind t.find? = some old ∧ i = old.id ∧ t' = rewriteHouse t old.id fun _ => h) ∨
      (id.bind t.find? = none ∧ i = t.next ∧ t.insert? h = some t') := by
  unfold saveHouse at hs
  cases hf : id.bind t.find? with
  | some old =>
    simp only [hf, Option.some.injEq, Prod.mk.injEq] at hs
    exact Or.inl ⟨old, rfl, hs.1.symm, hs.2.symm⟩
  | none =>
    simp only [hf, Option.map_eq_some_iff, Prod.mk.injEq] at hs
    obtain ⟨t1, hi, rfl, rfl⟩ := hs
    exact Or.inr ⟨rfl, rfl, hi⟩

theorem guarded_some {α : Type} {fault : Bool} {r : Option α} {a : α} (h : guarded fault r = some a) :
    fault = false ∧ r = some a := by
  unfold guarded at h
  split at h
  · cases h
  · rename_i hf
    exact ⟨by simpa using hf, h⟩

/-- The rewritten detail keeps its keys. -/
theorem wrapperDetailInfo_keys {db : Db} {d d' : HouseDetail} {f : HouseForm}
    (h : wrapperDetailInfo db d f = .ok (.ok d')) : d'.id = d.id ∧ d'.houseId = d.houseId := by
  unfold wrapperDetailInfo at h
  split at h
  · cases h
  · cases h
  · split at h
    · cases h
    · cases h
    · split at h
      · cases h
      · simp only [Except.ok.injEq] at h
        subst h
        exact ⟨rfl, rfl⟩

/-- `save` gets past `wrapperDetailInfo`. -/
def Wrapped (db : Db) (f : HouseForm) : Prop := ∃ detail, wrapperDetailInfo db newDetail f = .ok (.ok detail)

instance (db : Db) (f : HouseForm) : Decidable (Wrapped db f) :=
  match h : wrapperDetailInfo db newDetail f with
  | .ok (.ok detail) => isTrue ⟨detail, h⟩
  | .ok (.error _) => isFalse fun ⟨_, hd⟩ => by rw [h] at hd; cases hd
  | .error _ => isFalse fun ⟨_, hd⟩ => by rw [h] at hd; cases hd

/-- The tables after a `save` that stored a house row: the later writes
stop at the first one refused. -/
structure Stored (cdnPrefix : String) (faults : Faults) (user : Long) (now : Date) (f : HouseForm)
    (db : Db) (detail : HouseDetail) (id : Long) (db' : Db) : Prop where
  wrapped : wrapperDetailInfo db newDetail f = .ok (.ok detail)
  unrefused : faults.house = false
  house : saveHouse db.house f.id (savedHouse user now f) = some (id, db'.house)
  subway : db'.subway = db.subway
  station : db'.subwayStation = db.subwayStation
  address : db'.supportAddress = db.supportAddress
  run : (guarded faults.detail (db.detail.insert? { detail with houseId := id }) = none ∧
      db'.detail = db.detail ∧ db'.picture = db.picture ∧ db'.tag = db.tag) ∨
    (guarded faults.detail (db.detail.insert? { detail with houseId := id }) = some db'.detail ∧
      ((guarded faults.picture (db.picture.insertAll? (generatePictures cdnPrefix f id)) = none ∧
          db'.picture = db.picture ∧ db'.tag = db.tag) ∨
        (guarded faults.picture (db.picture.insertAll? (generatePictures cdnPrefix f id)) = some db'.picture ∧
          (((f.tags.getD []).isEmpty = true ∧ db'.tag = db.tag) ∨
            ((f.tags.getD []).isEmpty = false ∧ guarded faults.tag (db.tag.insertAll? (formTags f id)) = none ∧
              db'.tag = db.tag) ∨
            guarded faults.tag (db.tag.insertAll? (formTags f id)) = some db'.tag))))

/-- The writes that were not refused. -/
theorem Stored.rest {cdnPrefix : String} {faults : Faults} {user : Long} {now : Date} {f : HouseForm}
    {db db' : Db} {detail : HouseDetail} {id : Long} (hs : Stored cdnPrefix faults user now f db detail id db') :
    (guarded faults.detail (db.detail.insert? { detail with houseId := id }) = none ∧
      db'.detail = db.detail ∧ db'.picture = db.picture ∧ db'.tag = db.tag) ∨
    (db.detail.insert? { detail with houseId := id } = some db'.detail ∧
      ((guarded faults.picture (db.picture.insertAll? (generatePictures cdnPrefix f id)) = none ∧
          db'.picture = db.picture ∧ db'.tag = db.tag) ∨
        (db.picture.insertAll? (generatePictures cdnPrefix f id) = some db'.picture ∧
          (db'.tag = db.tag ∨ db.tag.insertAll? (formTags f id) = some db'.tag)))) := by
  rcases hs.run with hr | ⟨hd, ⟨hr, hp, ht⟩ | ⟨hp, ht⟩⟩
  · exact Or.inl hr
  · exact Or.inr ⟨(guarded_some hd).2, Or.inl ⟨hr, hp, ht⟩⟩
  · refine Or.inr ⟨(guarded_some hd).2, Or.inr ⟨(guarded_some hp).2, ?_⟩⟩
    rcases ht with ⟨-, ht⟩ | ⟨-, -, ht⟩ | ht
    · exact Or.inl ht
    · exact Or.inl ht
    · exact Or.inr (guarded_some ht).2

/-- A house has no unique key that could refuse it. -/
theorem saveHouse_isSome (t : Table House) (id : Option Long) (h : House) : ∃ p, saveHouse t id h = some p := by
  unfold saveHouse
  cases id.bind t.find? with
  | some old => exact ⟨_, rfl⟩
  | none =>
    obtain ⟨t', ht⟩ := Table.insert?_unconstrained (t := t) (a := h) rfl
    exact ⟨(t.next, t'), by simp [ht]⟩

/-- `save` stores nothing, as the form or the house row is refused, or the
house and then a prefix of the rest. -/
theorem save_cases (cdnPrefix : String) (faults : Faults) (user : Long) (now : Date) (f : HouseForm)
    (db : Db) :
    ((save cdnPrefix faults user now f db).1 = db ∧ (¬ Wrapped db f ∨ faults.house = true)) ∨
      ∃ detail id,
        Stored cdnPrefix faults user now f db detail id (save cdnPrefix faults user now f db).1 := by
  unfold save
  cases hw : wrapperDetailInfo db newDetail f with
  | error e => exact Or.inl ⟨rfl, Or.inl fun ⟨_, hd⟩ => by rw [hw] at hd; cases hd⟩
  | ok r =>
    cases r with
    | error message => exact Or.inl ⟨rfl, Or.inl fun ⟨_, hd⟩ => by rw [hw] at hd; cases hd⟩
    | ok detail =>
      dsimp only
      cases hh : guarded faults.house (saveHouse db.house f.id (savedHouse user now f)) with
      | none =>
        refine Or.inl ⟨rfl, Or.inr ?_⟩
        obtain ⟨p, hp⟩ := saveHouse_isSome db.house f.id (savedHouse user now f)
        by_contra hu
        rw [guarded, if_neg hu, hp] at hh
        cases hh
      | some p =>
        obtain ⟨id, houses⟩ := p
        obtain ⟨hu, hh⟩ := guarded_some hh
        refine Or.inr ⟨detail, id, ?_⟩
        dsimp only
        cases hd : guarded faults.detail (db.detail.insert? { detail with houseId := id }) with
        | none => exact ⟨hw, hu, hh, rfl, rfl, rfl, Or.inl ⟨hd, rfl, rfl, rfl⟩⟩
        | some details =>
          dsimp only
          cases hp : guarded faults.picture (db.picture.insertAll? (generatePictures cdnPrefix f id)) with
          | none => exact ⟨hw, hu, hh, rfl, rfl, rfl, Or.inr ⟨hd, Or.inl ⟨hp, rfl, rfl⟩⟩⟩
          | some pictures =>
            dsimp only
            cases he : (f.tags.getD []).isEmpty with
            | true =>
              rw [if_pos rfl]
              exact ⟨hw, hu, hh, rfl, rfl, rfl, Or.inr ⟨hd, Or.inr ⟨hp, Or.inl ⟨he, rfl⟩⟩⟩⟩
            | false =>
              rw [if_neg Bool.false_ne_true]
              cases ht : guarded faults.tag (db.tag.insertAll? (formTags f id)) with
              | none => exact ⟨hw, hu, hh, rfl, rfl, rfl, Or.inr ⟨hd, Or.inr ⟨hp, Or.inr (Or.inl ⟨he, ht, rfl⟩)⟩⟩⟩
              | some tags => exact ⟨hw, hu, hh, rfl, rfl, rfl, Or.inr ⟨hd, Or.inr ⟨hp, Or.inr (Or.inr ht)⟩⟩⟩

theorem updateLoad_ok {db : Db} {f : HouseForm} {house : House} {detail : HouseDetail}
    (h : updateLoad db f = .ok (.ok (house, detail))) :
    ∃ old, f.id = some house.id ∧ db.house.find? house.id = some house ∧
      db.findDetailByHouseId house.id = some old ∧ wrapperDetailInfo db old f = .ok (.ok detail) := by
  unfold updateLoad at h
  cases hid : f.id with
  | none => simp [hid, Db.findOne] at h
  | some id =>
    rw [hid] at h
    simp only [Db.findOne] at h
    cases hf : db.house.find? id with
    | none => simp [hf] at h
    | some house' =>
      rw [hf] at h
      simp only at h
      cases hd : db.findDetailByHouseId house'.id with
      | none => simp [hd] at h
      | some old =>
        rw [hd] at h
        simp only at h
        cases hw : wrapperDetailInfo db old f with
        | error e => simp [hw] at h
        | ok r =>
          cases r with
          | error message => simp [hw] at h
          | ok detail' =>
            simp only [hw, Except.ok.injEq, Prod.mk.injEq] at h
            obtain ⟨rfl, rfl⟩ := h
            have hi : house'.id = id := (Table.find?_some hf).2
            exact ⟨old, by rw [hi], by rw [hi]; exact hf, hd, hw⟩

theorem insertAll?_pictures (t : Table HousePicture) (cdnPrefix : String) (f : HouseForm) (id : Long) :
    ∃ t', t.insertAll? (generatePictures cdnPrefix f id) = some t' :=
  Table.insertAll?_unconstrained fun _ _ => rfl

/-- `update` changes nothing, or it writes the pictures, the detail and the
house of the row it loaded. -/
theorem update_cases (cdnPrefix : String) (now : Date) (f : HouseForm) (db : Db) :
    ((update cdnPrefix now f db).1 = db ∧ ∀ p, updateLoad db f ≠ .ok (.ok p)) ∨
      ∃ house detail pictures, updateLoad db f = .ok (.ok (house, detail)) ∧
        db.picture.insertAll? (generatePictures cdnPrefix f house.id) = some pictures ∧
        update cdnPrefix now f db = ({ db with
          picture := pictures
          detail := rewriteDetail db.detail detail.id fun _ => detail
          house := rewriteHouse db.house house.id fun _ => updatedHouse now f house }, .ok .ok) := by
  unfold update
  cases hl : updateLoad db f with
  | error e => exact Or.inl ⟨rfl, fun p h => by cases h⟩
  | ok r =>
    cases r with
    | error message => exact Or.inl ⟨rfl, fun p h => by cases h⟩
    | ok p =>
      obtain ⟨house, detail⟩ := p
      obtain ⟨pictures, hp⟩ := insertAll?_pictures db.picture cdnPrefix f house.id
      refine Or.inr ⟨house, detail, pictures, rfl, hp, ?_⟩
      simp only [updateStore, hp]

theorem addTag_cases (houseId : Long) (tag : String) (db : Db) :
    (addTag houseId tag db).1 = db ∨
      ∃ house tags, db.house.find? houseId = some house ∧ db.findTagByNameAndHouseId tag houseId = none ∧
        db.tag.insert? ⟨0, houseId, tag⟩ = some tags ∧
        addTag houseId tag db = ({ db with tag := tags }, .ok .ok) := by
  unfold addTag
  cases hh : db.house.find? houseId with
  | none => exact Or.inl rfl
  | some house =>
    dsimp only
    cases ht : db.findTagByNameAndHouseId tag houseId with
    | some t => exact Or.inl rfl
    | none =>
      dsimp only
      cases hi : db.tag.insert? ⟨0, houseId, tag⟩ with
      | none => exact Or.inl rfl
      | some tags => exact Or.inr ⟨house, tags, rfl, rfl, rfl, rfl⟩

theorem removeTag_cases (houseId : Long) (tag : String) (db : Db) :
    (removeTag houseId tag db).1 = db ∨
      ∃ house t, db.house.find? houseId = some house ∧ db.findTagByNameAndHouseId tag houseId = some t ∧
        removeTag houseId tag db =
          ({ db with tag := db.tag.remove fun r => decide (r.id = t.id) }, .ok) := by
  unfold removeTag
  cases hh : db.house.find? houseId with
  | none => exact Or.inl rfl
  | some house =>
    dsimp only
    cases ht : db.findTagByNameAndHouseId tag houseId with
    | none => exact Or.inl rfl
    | some t => exact Or.inr ⟨house, t, rfl, rfl, rfl⟩

theorem removePhoto_cases (id : Long) (answer : QiNiuAnswer) (db : Db) :
    (removePhoto id answer db).1 = db ∨
      ∃ p, db.picture.find? id = some p ∧ answer = .ok ∧
        (removePhoto id answer db).1 = { db with picture := db.picture.remove fun p => decide (p.id = id) } := by
  unfold removePhoto
  cases hp : db.picture.find? id with
  | none => exact Or.inl rfl
  | some p =>
    cases answer with
    | ok => exact Or.inr ⟨p, rfl, rfl, rfl⟩
    | refused error => exact Or.inl rfl
    | exception message => exact Or.inl rfl

/-- No cover is ever changed by choosing another picture. -/
@[simp] theorem updateCover_db (coverId targetId : Long) (db : Db) : (updateCover coverId targetId db).1 = db := by
  unfold updateCover
  cases db.picture.find? coverId with
  | none => rfl
  | some cover => rfl

/-- The method throws exactly for the pictures there are. -/
theorem updateCover_throws {coverId targetId : Long} {db : Db} :
    (updateCover coverId targetId db).2 = .error .transactionRequired ↔
      ∃ cover, db.picture.find? coverId = some cover := by
  unfold updateCover
  cases db.picture.find? coverId with
  | none => simp
  | some cover => simp [modifying]

/-! ## The rows of one house -/

/-- The detail rows after the insert of one. -/
theorem findDetail_insert {db db' : Db} {d : HouseDetail} (hi : db.detail.insert? d = some db'.detail)
    (h : Long) : db'.findDetailByHouseId h =
      (db.findDetailByHouseId h).or (if d.houseId = h then some { d with id := db.detail.next } else none) := by
  simp only [Db.findDetailByHouseId, (Table.insert?_some hi).1, List.find?_append, List.find?_cons,
    List.find?_nil]
  congr 1
  simp only [Entity.withId]
  split <;> simp_all

theorem findDetail_rewrite {db db' : Db} {i : Long} {f : HouseDetail → HouseDetail}
    (he : db'.detail = rewriteDetail db.detail i f) {h : Long}
    (hne : ∀ d ∈ db.detail.rows, d.houseId = h → d.id ≠ i) :
    db'.findDetailByHouseId h = db.findDetailByHouseId h := by
  cases hf : db.findDetailByHouseId h with
  | some d =>
    obtain ⟨hd, hh⟩ := findDetail_some hf
    refine findDetail_eq_some.mpr ⟨?_, hh⟩
    rw [he]
    exact mem_rewriteDetail.mpr ⟨d, hd, if_neg (hne d hd hh)⟩
  | none =>
    refine findDetail_none.mpr fun d hd => ?_
    rw [he] at hd
    obtain ⟨a, ha, rfl⟩ := mem_rewriteDetail.mp hd
    have := findDetail_none.mp hf a ha
    split <;> exact this

/-- Tags inserted for one house are not those of another. -/
theorem findAllTags_insertAll {db db' : Db} {f : HouseForm} {id : Long}
    (hi : db.tag.insertAll? (formTags f id) = some db'.tag) {h : Long} (hne : h ≠ id) :
    db'.findAllTagsByHouseId h = db.findAllTagsByHouseId h := by
  simp only [Db.findAllTagsByHouseId, Table.insertAll?_some hi, List.filter_append]
  refine List.append_right_eq_self.mpr (List.filter_eq_nil_iff.mpr fun t ht => ?_)
  obtain ⟨a, ha, i, rfl⟩ := Table.mem_numbered ht
  obtain ⟨name, -, rfl⟩ := List.mem_map.mp ha
  simpa [Entity.withId] using hne.symm

/-- Pictures inserted for one house are not those of another. -/
theorem findAllPictures_insertAll {db db' : Db} {cdnPrefix : String} {f : HouseForm} {id : Long}
    (hi : db.picture.insertAll? (generatePictures cdnPrefix f id) = some db'.picture) {h : Long} (hne : h ≠ id) :
    db'.findAllPicturesByHouseId h = db.findAllPicturesByHouseId h := by
  simp only [Db.findAllPicturesByHouseId, Table.insertAll?_some hi, List.filter_append]
  refine List.append_right_eq_self.mpr (List.filter_eq_nil_iff.mpr fun t ht => ?_)
  obtain ⟨a, ha, i, rfl⟩ := Table.mem_numbered ht
  obtain ⟨p, -, rfl⟩ := List.mem_map.mp ha
  simpa [Entity.withId] using hne.symm

theorem insert_detail {db : Db} {h : Long} (hn : db.findDetailByHouseId h = none) (d : HouseDetail) :
    db.detail.insert? { d with houseId := h } ≠ none := by
  intro hi
  obtain ⟨k, hk, hu⟩ := Table.insert?_eq_none.mp hi
  obtain ⟨d', hd', hdk⟩ := List.mem_filterMap.mp hk
  simp only [Entity.uniq, Option.some.injEq] at hu hdk
  exact findDetail_none.mp hn d' hd' (hdk.trans hu.symm)

/-- The rows of house `h` are the same in both databases. -/
structure SameRows (h : Long) (db db' : Db) : Prop where
  house : db'.house.find? h = db.house.find? h
  detail : db'.findDetailByHouseId h = db.findDetailByHouseId h
  pictures : db'.findAllPicturesByHouseId h = db.findAllPicturesByHouseId h
  tags : db'.findAllTagsByHouseId h = db.findAllTagsByHouseId h
  address : db'.supportAddress = db.supportAddress

theorem SameRows.refl (h : Long) (db : Db) : SameRows h db db := ⟨rfl, rfl, rfl, rfl, rfl⟩

theorem SameRows.trans {h : Long} {db db1 db2 : Db} (h1 : SameRows h db db1) (h2 : SameRows h db1 db2) :
    SameRows h db db2 :=
  ⟨h2.house.trans h1.house, h2.detail.trans h1.detail, h2.pictures.trans h1.pictures,
    h2.tags.trans h1.tags, h2.address.trans h1.address⟩

theorem sameRows_save (cdnPrefix : String) (faults : Faults) (user : Long) (now : Date) {f : HouseForm}
    {db : Db} (hid : f.id.bind db.house.find? = none) {h : Long} (hne : h ≠ db.house.next) :
    SameRows h db (save cdnPrefix faults user now f db).1 := by
  rcases save_cases cdnPrefix faults user now f db with ⟨he, -⟩ | ⟨detail, id, hst⟩
  · rw [he]; exact .refl h db
  · generalize (save cdnPrefix faults user now f db).1 = db' at hst
    rcases saveHouse_cases hst.house with ⟨old, hf, -, -⟩ | ⟨-, rfl, hi⟩
    · rw [hid] at hf; cases hf
    · have hdetail : db'.findDetailByHouseId h = db.findDetailByHouseId h := by
        rcases hst.rest with ⟨-, hd, -⟩ | ⟨hd, -⟩
        · simp only [Db.findDetailByHouseId, hd]
        · rw [findDetail_insert hd, if_neg (Ne.symm hne), Option.or_none]
      have hpictures : db'.findAllPicturesByHouseId h = db.findAllPicturesByHouseId h := by
        rcases hst.rest with ⟨-, -, hp, -⟩ | ⟨-, ⟨-, hp, -⟩ | ⟨hp, -⟩⟩
        · simp only [Db.findAllPicturesByHouseId, hp]
        · simp only [Db.findAllPicturesByHouseId, hp]
        · exact findAllPictures_insertAll hp hne
      have htags : db'.findAllTagsByHouseId h = db.findAllTagsByHouseId h := by
        rcases hst.rest with ⟨-, -, -, ht⟩ | ⟨-, ⟨-, -, ht⟩ | ⟨-, ht | ht⟩⟩
        · simp only [Db.findAllTagsByHouseId, ht]
        · simp only [Db.findAllTagsByHouseId, ht]
        · simp only [Db.findAllTagsByHouseId, ht]
        · exact findAllTags_insertAll ht hne
      exact ⟨by rw [Table.find?_insert? hi, if_neg hne], hdetail, hpictures, htags, hst.address⟩

/-- The detail row `update` rewrites is the one of the loaded house. -/
theorem detail_of_updateLoad {db : Db} {f : HouseForm} {house : House} {detail : HouseDetail}
    (hl : updateLoad db f = .ok (.ok (house, detail))) :
    detail.houseId = house.id ∧ ∀ d ∈ db.detail.rows, d.id = detail.id ↔ d.houseId = house.id := by
  obtain ⟨old, -, -, hold, hw⟩ := updateLoad_ok hl
  obtain ⟨hid, hhid⟩ := wrapperDetailInfo_keys hw
  obtain ⟨hmem, hh⟩ := findDetail_some hold
  refine ⟨hhid.trans hh, fun d hd => ⟨fun h => ?_, fun h => ?_⟩⟩
  · rw [Table.id_inj hd hmem (h.trans hid), hh]
  · rw [detail_inj hd hmem (h.trans hh.symm), hid]

theorem sameRows_update {cdnPrefix : String} {now : Date} {f : HouseForm} {db : Db} {h : Long}
    (hne : ∀ house detail, updateLoad db f = .ok (.ok (house, detail)) → house.id ≠ h) :
    SameRows h db (update cdnPrefix now f db).1 := by
  rcases update_cases cdnPrefix now f db with ⟨he, -⟩ | ⟨house, detail, pictures, hl, hp, he⟩
  · rw [he]; exact .refl h db
  · have hne := hne house detail hl
    rw [he]
    refine ⟨by rw [find?_rewriteHouse, if_neg hne.symm], findDetail_rewrite rfl ?_,
      findAllPictures_insertAll hp hne.symm, rfl, rfl⟩
    intro d hd hh hdi
    exact hne ((((detail_of_updateLoad hl).2 d hd).mp hdi).symm.trans hh)

theorem sameRows_setStatus {id : Long} {status : Int} {db : Db} {h : Long} (hne : h ≠ id) :
    SameRows h db (setStatus id status db) :=
  ⟨by rw [setStatus, find?_rewriteHouse, if_neg hne], rfl, rfl, rfl, rfl⟩

theorem sameRows_removePhoto {id : Long} {answer : QiNiuAnswer} {db : Db} {h : Long}
    (hne : ∀ p, db.picture.find? id = some p → answer = .ok → p.houseId ≠ h) :
    SameRows h db (removePhoto id answer db).1 := by
  rcases removePhoto_cases id answer db with he | ⟨p, hf, ha, he⟩
  · rw [he]; exact .refl h db
  · rw [he]
    refine ⟨rfl, rfl, ?_, rfl, rfl⟩
    simp only [Db.findAllPicturesByHouseId, Table.remove, List.filter_filter]
    refine List.filter_congr fun r hr => ?_
    by_cases hri : r.id = id
    · have hrp : db.picture.find? id = some r := Table.find?_eq_some.mpr ⟨hr, hri⟩
      simp [hne r hrp ha]
    · simp [hri]

theorem sameRows_addTag {i : Long} {tag : String} {db : Db} {h : Long}
    (hne : (db.house.find? i).isSome → db.findTagByNameAndHouseId tag i = none → i ≠ h) :
    SameRows h db (addTag i tag db).1 := by
  rcases addTag_cases i tag db with he | ⟨house, tags, hf, ht, hi, he⟩
  · rw [he]; exact .refl h db
  · rw [he]
    refine ⟨rfl, rfl, rfl, ?_, rfl⟩
    simp only [Db.findAllTagsByHouseId, (Table.insert?_some hi).1, List.filter_append]
    simp [Entity.withId, hne (by rw [hf]; rfl) ht]

theorem sameRows_removeTag {i : Long} {tag : String} {db : Db} {h : Long}
    (hne : (db.house.find? i).isSome → db.findTagByNameAndHouseId tag i ≠ none → i ≠ h) :
    SameRows h db (removeTag i tag db).1 := by
  rcases removeTag_cases i tag db with he | ⟨house, t, hf, ht, he⟩
  · rw [he]; exact .refl h db
  · rw [he]
    refine ⟨rfl, rfl, rfl, ?_, rfl⟩
    have hne := hne (by rw [hf]; rfl) (by rw [ht]; exact Option.some_ne_none t)
    obtain ⟨htm, -, hth⟩ := findTag_some ht
    simp only [Db.findAllTagsByHouseId, Table.remove, List.filter_filter]
    refine List.filter_congr fun r hr => ?_
    by_cases hrt : r.id = t.id
    · have hrt : r = t := Table.id_inj hr htm hrt
      simp [hrt, hth, hne]
    · simp [hrt]

/-! ## Details belong to houses -/

/-- No detail row names a house that is still to come. -/
def DetailsBelow (db : Db) : Prop := ∀ d ∈ db.detail.rows, d.houseId < db.house.next

theorem DetailsBelow.next {db : Db} (h : DetailsBelow db) : db.findDetailByHouseId db.house.next = none :=
  findDetail_none.mpr fun d hd => (h d hd).ne

theorem saveHouse_next {t t' : Table House} {id : Option Long} {h : House} {i : Long}
    (hs : saveHouse t id h = some (i, t')) : i < t'.next ∧ t.next ≤ t'.next := by
  rcases saveHouse_cases hs with ⟨old, hf, rfl, rfl⟩ | ⟨-, rfl, hi⟩
  · obtain ⟨j, -, hold⟩ := Option.bind_eq_some_iff.mp hf
    exact ⟨t.fresh old (Table.find?_some hold).1, le_refl _⟩
  · rw [(Table.insert?_some hi).2]
    exact ⟨Int.lt_succ _, (Int.lt_succ _).le⟩

theorem DetailsBelow.save {db : Db} (h : DetailsBelow db) (cdnPrefix : String) (faults : Faults)
    (user : Long) (now : Date) (f : HouseForm) :
    DetailsBelow (HouseService.save cdnPrefix faults user now f db).1 := by
  rcases save_cases cdnPrefix faults user now f db with ⟨he, -⟩ | ⟨detail, id, hs⟩
  · rw [he]; exact h
  · generalize (HouseService.save cdnPrefix faults user now f db).1 = db' at hs
    obtain ⟨hlt, hle⟩ := saveHouse_next hs.house
    intro d hd
    rcases hs.rest with ⟨-, he, -⟩ | ⟨hi, -⟩
    · rw [he] at hd
      exact (h d hd).trans_le hle
    · rw [(Table.insert?_some hi).1] at hd
      rcases List.mem_append.mp hd with hd | hd
      · exact (h d hd).trans_le hle
      · rw [List.mem_singleton.mp hd]
        exact hlt

theorem DetailsBelow.update {db : Db} (h : DetailsBelow db) (cdnPrefix : String) (now : Date) (f : HouseForm) :
    DetailsBelow (HouseService.update cdnPrefix now f db).1 := by
  rcases update_cases cdnPrefix now f db with ⟨he, -⟩ | ⟨house, detail, pictures, -, -, he⟩
  · rw [he]; exact h
  · rw [he]
    intro d hd
    obtain ⟨a, ha, rfl⟩ := mem_rewriteDetail.mp hd
    have hlt := h a ha
    split <;> exact hlt

/-- A house that `save` stores for the first time gets its detail row. -/
theorem Stored.detail_of_new {cdnPrefix : String} {faults : Faults} {user : Long} {now : Date} {f : HouseForm}
    {db db' : Db} {detail : HouseDetail} {id : Long} (hs : Stored cdnPrefix faults user now f db detail id db')
    (hd : faults.detail = false) (hn : db.findDetailByHouseId id = none) :
    db.detail.insert? { detail with houseId := id } = some db'.detail := by
  rcases hs.rest with ⟨hr, -⟩ | ⟨hi, -⟩
  · rw [guarded, hd, if_neg (by decide)] at hr
    exact absurd hr (insert_detail hn detail)
  · exact hi

/-- The house row is stored, whatever happens to the others. -/
theorem Stored.find_house {cdnPrefix : String} {faults : Faults} {user : Long} {now : Date} {f : HouseForm}
    {db db' : Db} {detail : HouseDetail} {id : Long} (hs : Stored cdnPrefix faults user now f db detail id db') :
    db'.house.find? id = some { savedHouse user now f with id := id } := by
  rcases saveHouse_cases hs.house with ⟨old, hf, rfl, he⟩ | ⟨-, rfl, hi⟩
  · obtain ⟨i, -, hold⟩ := Option.bind_eq_some_iff.mp hf
    have hi : old.id = i := (Table.find?_some hold).2
    rw [he, find?_rewriteHouse, if_pos rfl, hi, hold, ← hi]
    rfl
  · rw [Table.find?_insert? hi, if_pos rfl]
    rfl

/-- The house rows after `save`: the stored one and the others. -/
theorem Stored.mem_house {cdnPrefix : String} {faults : Faults} {user : Long} {now : Date} {f : HouseForm}
    {db db' : Db} {detail : HouseDetail} {id : Long} (hs : Stored cdnPrefix faults user now f db detail id db')
    {r : House} (hr : r ∈ db'.house.rows) :
    (r ∈ db.house.rows ∧ r.id ≠ id) ∨ r = { savedHouse user now f with id := id } := by
  rcases saveHouse_cases hs.house with ⟨old, -, rfl, he⟩ | ⟨-, rfl, hi⟩
  · rw [he] at hr
    obtain ⟨a, ha, rfl⟩ := mem_rewriteHouse.mp hr
    split
    · rename_i hid
      exact Or.inr (by rw [hid])
    · rename_i hid
      exact Or.inl ⟨ha, hid⟩
  · rw [(Table.insert?_some hi).1] at hr
    rcases List.mem_append.mp hr with hr | hr
    · exact Or.inl ⟨hr, (db.house.fresh r hr).ne⟩
    · exact Or.inr (List.mem_singleton.mp hr)

/-! ## Statuses -/

theorem statusOf_find {db : Db} {id : Long} {house : House} (h : db.house.find? id = some house) :
    db.statusOf id = some house.status := by
  simp [Db.statusOf, h]

theorem statusOf_setStatus (id : Long) (status : Int) (db : Db) (h : Long) :
    (setStatus id status db).statusOf h =
      if h = id then (db.statusOf id).map fun _ => status else db.statusOf h := by
  simp only [Db.statusOf, setStatus, rewriteHouse, Table.find?_modify]
  split <;> simp [Function.comp_def]

/-- The house row `save` stores is NOT_AUDITED. -/
theorem statusOf_stored {cdnPrefix : String} {faults : Faults} {user : Long} {now : Date} {f : HouseForm}
    {db db' : Db} {detail : HouseDetail} {id : Long}
    (hs : Stored cdnPrefix faults user now f db detail id db') (h : Long) :
    db'.statusOf h = if h = id then some HouseStatus.NOT_AUDITED.value else db.statusOf h := by
  rcases saveHouse_cases hs.house with ⟨old, hf, rfl, he⟩ | ⟨-, rfl, hi⟩
  · obtain ⟨i, -, hold⟩ := Option.bind_eq_some_iff.mp hf
    have hi : old.id = i := (Table.find?_some hold).2
    simp only [Db.statusOf, he, find?_rewriteHouse]
    split
    · rw [hi, hold]; rfl
    · rfl
  · simp only [Db.statusOf, Table.find?_insert? hi]
    split <;> rfl

/-- A save that names no stored house adds one. -/
theorem statusOf_save {cdnPrefix : String} {faults : Faults} {user : Long} {now : Date} {f : HouseForm}
    {db db' : Db} {detail : HouseDetail} {id : Long} (hid : f.id.bind db.house.find? = none)
    (hs : Stored cdnPrefix faults user now f db detail id db') (h : Long) :
    id = db.house.next ∧
      db'.statusOf h = if h = db.house.next then some HouseStatus.NOT_AUDITED.value else db.statusOf h := by
  rcases saveHouse_cases hs.house with ⟨old, hf, -, -⟩ | ⟨-, rfl, -⟩
  · rw [hid] at hf; cases hf
  · exact ⟨rfl, statusOf_stored hs h⟩

/-- `update` writes the status it read. -/
theorem statusOf_update (cdnPrefix : String) (now : Date) (f : HouseForm) (db : Db) (h : Long) :
    (update cdnPrefix now f db).1.statusOf h = db.statusOf h := by
  rcases update_cases cdnPrefix now f db with ⟨he, -⟩ | ⟨house, detail, pictures, hl, -, he⟩
  · rw [he]
  · obtain ⟨old, -, hf, -⟩ := updateLoad_ok hl
    rw [he]
    simp only [Db.statusOf, find?_rewriteHouse]
    split
    · rename_i hh
      subst hh
      simp [hf, updatedHouse, mapForm]
    · rfl

theorem statusOf_addTag (houseId : Long) (tag : String) (db : Db) (h : Long) :
    (addTag houseId tag db).1.statusOf h = db.statusOf h := by
  rcases addTag_cases houseId tag db with he | ⟨house, tags, -, -, -, he⟩ <;> rw [he]
  rfl

theorem statusOf_removeTag (houseId : Long) (tag : String) (db : Db) (h : Long) :
    (removeTag houseId tag db).1.statusOf h = db.statusOf h := by
  rcases removeTag_cases houseId tag db with he | ⟨house, t, -, -, he⟩ <;> rw [he]
  rfl

end HouseService

end Soufang
