import Soufang.L2Service.HouseShow
import Soufang.L3System.Reservations

/-!
# References between the tables

`db/xunwu.sql` declares no foreign key: that a detail, a picture or a tag
belongs to a stored house, and that a house has what its pages look up, is up
to the operations.

* `Grows db db'` says what a step may do to the references: houses stay, and a
  new row belongs to a house that is there. One lemma for each operation, and
  `grows_step` for every step.
* `Integral` is what that keeps, over all runs: no row without its house.
* `Rowed` is what the pages of one house look up, agent aside: its detail row
  with a stored line and station, and an address pair that resolves. A step
  keeps it for every house if a save meets no fault and a form names an
  address that resolves (`Addressed`), as the two endpoints check.
-/
namespace Soufang

open HouseService SearchService

/-! ## What a step does to the references -/

structure Grows (db db' : Db) : Prop where
  houses : ∀ i, HasHouse db i → HasHouse db' i
  ids : ∀ house ∈ db'.house.rows, (∃ a ∈ db.house.rows, a.id = house.id) ∨ house.id = db.house.next
  next : db.house.next ≤ db'.house.next
  details : ∀ d ∈ db'.detail.rows, (∃ a ∈ db.detail.rows, a.houseId = d.houseId) ∨ HasHouse db' d.houseId
  pictures : ∀ p ∈ db'.picture.rows, p ∈ db.picture.rows ∨ HasHouse db' p.houseId
  tags : ∀ t ∈ db'.tag.rows, t ∈ db.tag.rows ∨ HasHouse db' t.houseId
  subway : db'.subway = db.subway
  station : db'.subwayStation = db.subwayStation
  address : db'.supportAddress = db.supportAddress

namespace Grows

theorem refl (db : Db) : Grows db db where
  houses _ h := h
  ids house h := Or.inl ⟨house, h, rfl⟩
  next := le_refl _
  details d h := Or.inl ⟨d, h, rfl⟩
  pictures _ h := Or.inl h
  tags _ h := Or.inl h
  subway := rfl
  station := rfl
  address := rfl

/-- Rewriting columns of a house row. -/
theorem rewriteHouse (db : Db) (id : Long) (f : House → House) :
    Grows db { db with house := HouseService.rewriteHouse db.house id f } :=
  { refl db with
    houses := fun _ h => rewriteHouse_hasHouse h
    ids := fun house h => by
      obtain ⟨a, ha, rfl⟩ := mem_rewriteHouse.mp h
      refine Or.inl ⟨a, ha, ?_⟩
      split <;> rfl
    details := fun d h => Or.inl ⟨d, h, rfl⟩
    pictures := fun _ h => Or.inl h
    tags := fun _ h => Or.inl h }

theorem hasHouse_saved {cdnPrefix : String} {faults : Faults} {user : Long} {now : Date} {f : HouseForm}
    {db db' : Db} {detail : HouseDetail} {id : Long}
    (hs : Stored cdnPrefix faults user now f db detail id db') : HasHouse db' id := by
  rw [hasHouse_iff, statusOf_stored hs, if_pos rfl]
  exact Option.some_ne_none _

theorem stored {cdnPrefix : String} {faults : Faults} {user : Long} {now : Date} {f : HouseForm}
    {db db' : Db} {detail : HouseDetail} {id : Long}
    (hs : Stored cdnPrefix faults user now f db detail id db') : Grows db db' where
  houses i h := by
    rw [hasHouse_iff, statusOf_stored hs]
    rw [hasHouse_iff] at h
    split
    · exact Option.some_ne_none _
    · exact h
  ids house h := by
    rcases hs.mem_house h with ⟨hmem, -⟩ | rfl
    · exact Or.inl ⟨house, hmem, rfl⟩
    · rcases saveHouse_cases hs.house with ⟨old, hf, rfl, -⟩ | ⟨-, rfl, -⟩
      · obtain ⟨i, -, hold⟩ := Option.bind_eq_some_iff.mp hf
        exact Or.inl ⟨old, (Table.find?_some hold).1, rfl⟩
      · exact Or.inr rfl
  next := (saveHouse_next hs.house).2
  details d h := by
    rcases hs.rest with ⟨-, he, -⟩ | ⟨hi, -⟩
    · exact Or.inl ⟨d, by rwa [he] at h, rfl⟩
    · rw [(Table.insert?_some hi).1] at h
      rcases List.mem_append.mp h with h | h
      · exact Or.inl ⟨d, h, rfl⟩
      · rw [List.mem_singleton.mp h]
        exact Or.inr (hasHouse_saved hs)
  pictures p h := by
    rcases hs.rest with ⟨-, -, he, -⟩ | ⟨-, ⟨-, he, -⟩ | ⟨hi, -⟩⟩
    · exact Or.inl (by rwa [he] at h)
    · exact Or.inl (by rwa [he] at h)
    · rw [Table.insertAll?_some hi] at h
      rcases List.mem_append.mp h with h | h
      · exact Or.inl h
      · obtain ⟨a, ha, i, rfl⟩ := Table.mem_numbered h
        obtain ⟨q, -, rfl⟩ := List.mem_map.mp ha
        exact Or.inr (hasHouse_saved hs)
  tags t h := by
    rcases hs.rest with ⟨-, -, -, he⟩ | ⟨-, ⟨-, -, he⟩ | ⟨-, he | hi⟩⟩
    · exact Or.inl (by rwa [he] at h)
    · exact Or.inl (by rwa [he] at h)
    · exact Or.inl (by rwa [he] at h)
    · rw [Table.insertAll?_some hi] at h
      rcases List.mem_append.mp h with h | h
      · exact Or.inl h
      · obtain ⟨a, ha, i, rfl⟩ := Table.mem_numbered h
        obtain ⟨name, -, rfl⟩ := List.mem_map.mp ha
        exact Or.inr (hasHouse_saved hs)
  subway := hs.subway
  station := hs.station
  address := hs.address

theorem save (cdnPrefix : String) (faults : Faults) (user : Long) (now : Date) (f : HouseForm) (db : Db) :
    Grows db (HouseService.save cdnPrefix faults user now f db).1 := by
  rcases save_cases cdnPrefix faults user now f db with ⟨he, -⟩ | ⟨detail, id, hs⟩
  · rw [he]; exact refl db
  · exact stored hs

theorem update (cdnPrefix : String) (now : Date) (f : HouseForm) (db : Db) :
    Grows db (HouseService.update cdnPrefix now f db).1 := by
  rcases update_cases cdnPrefix now f db with ⟨he, -⟩ | ⟨house, detail, pictures, hl, hp, he⟩
  · rw [he]; exact refl db
  · obtain ⟨-, -, hfind, -⟩ := updateLoad_ok hl
    rw [he]
    have hrewrite := rewriteHouse db house.id fun _ => updatedHouse now f house
    refine { hrewrite with details := fun d h => ?_, pictures := fun p h => ?_, tags := fun _ h => Or.inl h }
    · obtain ⟨a, ha, rfl⟩ := mem_rewriteDetail.mp h
      refine Or.inl ⟨a, ha, ?_⟩
      split <;> rfl
    · rw [Table.insertAll?_some hp] at h
      rcases List.mem_append.mp h with h | h
      · exact Or.inl h
      · obtain ⟨a, ha, i, rfl⟩ := Table.mem_numbered h
        obtain ⟨q, -, rfl⟩ := List.mem_map.mp ha
        exact Or.inr (hrewrite.houses _ ⟨house, hfind⟩)

theorem removePhoto (id : Long) (answer : QiNiuAnswer) (db : Db) :
    Grows db (HouseService.removePhoto id answer db).1 := by
  rcases removePhoto_cases id answer db with he | ⟨p, -, -, he⟩
  · rw [he]; exact refl db
  · rw [he]
    exact { refl db with
      details := fun d h => Or.inl ⟨d, h, rfl⟩
      pictures := fun _ h => Or.inl (List.mem_filter.mp h).1
      tags := fun _ h => Or.inl h }

theorem addTag (houseId : Long) (tag : String) (db : Db) : Grows db (HouseService.addTag houseId tag db).1 := by
  rcases addTag_cases houseId tag db with he | ⟨house, tags, hf, -, hi, he⟩
  · rw [he]; exact refl db
  · rw [he]
    refine { refl db with
      details := fun d h => Or.inl ⟨d, h, rfl⟩, pictures := fun _ h => Or.inl h, tags := fun t h => ?_ }
    rw [(Table.insert?_some hi).1] at h
    rcases List.mem_append.mp h with h | h
    · exact Or.inl h
    · rw [List.mem_singleton.mp h]
      exact Or.inr ⟨house, hf⟩

theorem removeTag (houseId : Long) (tag : String) (db : Db) :
    Grows db (HouseService.removeTag houseId tag db).1 := by
  rcases removeTag_cases houseId tag db with he | ⟨house, t, -, -, he⟩
  · rw [he]; exact refl db
  · rw [he]
    exact { refl db with
      details := fun d h => Or.inl ⟨d, h, rfl⟩
      pictures := fun _ h => Or.inl h
      tags := fun _ h => Or.inl (List.mem_filter.mp h).1 }

theorem updateStatus (id : Long) (status : Int) (s : Sys) :
    Grows s.db (HouseService.updateStatus id status s).1.db := by
  rcases updateStatus_cases id status s with ⟨-, he⟩ | ⟨house, -, -, he⟩
  · rw [he]; exact refl s.db
  · rw [he, notifySearch_eq, send_db]
    exact rewriteHouse s.db id _

end Grows

theorem grows_step {env : Env} {s s' : Sys} {l : Req} (hs : step env s l = some s') : Grows s.db s'.db := by
  cases l with
  | save faults user now f => cases hs; exact .save ..
  | update now f => cases hs; exact .update ..
  | updateStatus id status => cases hs; exact .updateStatus ..
  | operateHouse id op =>
    cases hs
    rcases operateHouse_cases id op s with he | ⟨o, -, he⟩
    · rw [he]; exact .refl s.db
    · rw [he]; exact .updateStatus ..
  | removePhoto id answer => cases hs; exact .removePhoto ..
  | updateCover c t =>
    cases hs
    rw [updateCover_db]
    exact .refl s.db
  | addTag i t => cases hs; exact .addTag ..
  | removeTag i t => cases hs; exact .removeTag ..
  | handle c =>
    rw [(handleMessage_docs hs).1]
    exact .refl s.db
  | refresh => cases hs; exact .refl s.db

/-! ## No row without its house -/

structure Integral (db : Db) : Prop where
  details : ∀ d ∈ db.detail.rows, HasHouse db d.houseId
  pictures : ∀ p ∈ db.picture.rows, HasHouse db p.houseId
  tags : ∀ t ∈ db.tag.rows, HasHouse db t.houseId
  positive : ∀ house ∈ db.house.rows, 0 < house.id
  next : 0 < db.house.next

theorem Integral.empty (subway : List Subway) (station : List SubwayStation) (address : List SupportAddress) :
    Integral (.empty subway station address) where
  details _ h := by cases h
  pictures _ h := by cases h
  tags _ h := by cases h
  positive _ h := by cases h
  next := Int.one_pos

theorem Integral.grows {db db' : Db} (h : Integral db) (hg : Grows db db') : Integral db' where
  details d hd := by
    rcases hg.details d hd with ⟨a, ha, he⟩ | hhouse
    · rw [← he]
      exact hg.houses _ (h.details a ha)
    · exact hhouse
  pictures p hp := (hg.pictures p hp).elim (fun ho => hg.houses _ (h.pictures p ho)) id
  tags t ht := (hg.tags t ht).elim (fun ho => hg.houses _ (h.tags t ho)) id
  positive house hh := by
    rcases hg.ids house hh with ⟨a, ha, he⟩ | he
    · rw [← he]
      exact h.positive a ha
    · rw [he]
      exact h.next
  next := h.next.trans_le hg.next

/-! ## What the pages of a house look up -/

/-- A detail row with the line and the station it names, and an address pair
that resolves. -/
structure Rowed (db : Db) (house : House) : Prop where
  detail : ∃ detail subway station, db.findDetailByHouseId house.id = some detail ∧
    db.findSubway detail.subwayLineId = .ok (some subway) ∧
    db.findSubwayStation detail.subwayStationId = .ok (some station)
  address : ∃ m, AddressService.findCityAndRegion db house.cityEnName house.regionEnName = .ok m

def AllRowed (db : Db) : Prop := ∀ house ∈ db.house.rows, Rowed db house

/-- The address pair of the form resolves. -/
def Resolved (db : Db) (f : HouseForm) : Prop :=
  ∃ m, AddressService.findCityAndRegion db f.cityEnName f.regionEnName = .ok m

/-- No save meets a fault, and the form of a save or an update names an address
that resolves. -/
def Addressed (s : Sys) : Req → Prop
  | .save faults _ _ f => faults = .none ∧ Resolved s.db f
  | .update _ f => Resolved s.db f
  | _ => True

theorem wrapperDetailInfo_found {db : Db} {d d' : HouseDetail} {f : HouseForm}
    (h : wrapperDetailInfo db d f = .ok (.ok d')) : ∃ subway station,
      db.findSubway d'.subwayLineId = .ok (some subway) ∧
      db.findSubwayStation d'.subwayStationId = .ok (some station) := by
  unfold wrapperDetailInfo at h
  cases hl : db.findSubway f.subwayLineId with
  | error e => simp [hl] at h
  | ok line =>
    cases hs : db.findSubwayStation f.subwayStationId with
    | error e => cases line <;> simp [hl, hs] at h
    | ok stop =>
      cases line with
      | none => simp [hl] at h
      | some subway =>
        cases stop with
        | none => simp [hl, hs] at h
        | some station =>
          simp only [hl, hs] at h
          split at h
          · cases h
          · cases h
            refine ⟨subway, station, ?_, ?_⟩
            · rw [findSubway_id hl]
              exact hl
            · rw [findSubwayStation_id hs]
              exact hs

theorem findCityAndRegion_congr {db db' : Db} (h : db'.supportAddress = db.supportAddress) (city region : String) :
    AddressService.findCityAndRegion db' city region = AddressService.findCityAndRegion db city region := by
  simp only [AddressService.findCityAndRegion, Db.findByEnNameAndLevel, Db.findByEnNameAndBelongTo, h]

/-- A row with the id and the address of a rowed one, over the same detail. -/
theorem Rowed.congr {db db' : Db} {house house' : House} (h : Rowed db house) (hg : Grows db db')
    (hdetail : db'.findDetailByHouseId house.id = db.findDetailByHouseId house.id) (hid : house'.id = house.id)
    (hcity : house'.cityEnName = house.cityEnName) (hregion : house'.regionEnName = house.regionEnName) :
    Rowed db' house' := by
  obtain ⟨detail, subway, station, hd, hsub, hst⟩ := h.detail
  refine ⟨⟨detail, subway, station, ?_, ?_, ?_⟩, ?_⟩
  · rw [hid, hdetail]
    exact hd
  · simpa only [Db.findSubway, hg.subway] using hsub
  · simpa only [Db.findSubwayStation, hg.station] using hst
  · rw [hcity, hregion, findCityAndRegion_congr hg.address]
    exact h.address

/-- Rewriting columns other than the address. -/
theorem AllRowed.rewriteHouse {db : Db} (h : AllRowed db) (id : Long) {f : House → House}
    (hcity : ∀ a, (f a).cityEnName = a.cityEnName) (hregion : ∀ a, (f a).regionEnName = a.regionEnName) :
    AllRowed { db with house := HouseService.rewriteHouse db.house id f } := by
  intro house hh
  obtain ⟨a, ha, rfl⟩ := mem_rewriteHouse.mp hh
  refine (h a ha).congr (.rewriteHouse db id f) rfl ?_ ?_ ?_
  · split <;> rfl
  · split
    · exact hcity a
    · rfl
  · split
    · exact hregion a
    · rfl

/-- The rows of a house that is not the one that was stored. -/
theorem HouseService.Stored.sameRows {cdnPrefix : String} {faults : Faults} {user : Long} {now : Date} {f : HouseForm}
    {db db' : Db} {detail : HouseDetail} {id : Long} (hs : Stored cdnPrefix faults user now f db detail id db')
    {h : Long} (hne : h ≠ id) : SameRows h db db' where
  house := by
    rcases saveHouse_cases hs.house with ⟨old, -, rfl, he⟩ | ⟨-, rfl, hi⟩
    · rw [he, find?_rewriteHouse, if_neg hne]
    · rw [Table.find?_insert? hi, if_neg hne]
  detail := by
    rcases hs.rest with ⟨-, he, -⟩ | ⟨hi, -⟩
    · simp only [Db.findDetailByHouseId, he]
    · rw [findDetail_insert hi, if_neg (Ne.symm hne), Option.or_none]
  pictures := by
    rcases hs.rest with ⟨-, -, he, -⟩ | ⟨-, ⟨-, he, -⟩ | ⟨hi, -⟩⟩
    · simp only [Db.findAllPicturesByHouseId, he]
    · simp only [Db.findAllPicturesByHouseId, he]
    · exact findAllPictures_insertAll hi hne
  tags := by
    rcases hs.rest with ⟨-, -, -, he⟩ | ⟨-, ⟨-, -, he⟩ | ⟨-, he | hi⟩⟩
    · simp only [Db.findAllTagsByHouseId, he]
    · simp only [Db.findAllTagsByHouseId, he]
    · simp only [Db.findAllTagsByHouseId, he]
    · exact findAllTags_insertAll hi hne
  address := hs.address

/-- The stored row gets its detail, or has one from before. -/
theorem detail_stored {cdnPrefix : String} {user : Long} {now : Date} {f : HouseForm} {db db' : Db}
    {detail : HouseDetail} {id : Long} (hi : Integral db) (ha : AllRowed db)
    (hs : Stored cdnPrefix .none user now f db detail id db') : ∃ detail subway station,
      db'.findDetailByHouseId id = some detail ∧ db.findSubway detail.subwayLineId = .ok (some subway) ∧
      db.findSubwayStation detail.subwayStationId = .ok (some station) := by
  cases hd : db.findDetailByHouseId id with
  | none =>
    have hins := hs.detail_of_new rfl hd
    obtain ⟨subway, station, hsub, hst⟩ := wrapperDetailInfo_found hs.wrapped
    refine ⟨{ { detail with houseId := id } with id := db.detail.next }, subway, station, ?_, hsub, hst⟩
    rw [findDetail_insert hins, hd, if_pos rfl, Option.none_or]
  | some old =>
    -- a row with a detail is one that was there
    obtain ⟨house, hf⟩ := hi.details old (findDetail_some hd).1
    rw [(findDetail_some hd).2] at hf
    obtain ⟨hmem, hid⟩ := Table.find?_some hf
    have hid : house.id = id := hid
    obtain ⟨detail', subway, station, hdet, hsub, hst⟩ := (ha house hmem).detail
    rw [hid, hd, Option.some.injEq] at hdet
    subst hdet
    refine ⟨old, subway, station, ?_, hsub, hst⟩
    rcases hs.rest with ⟨-, he, -⟩ | ⟨hins, -⟩
    · simpa only [Db.findDetailByHouseId, he] using hd
    · rw [findDetail_insert hins, hd, Option.some_or]

theorem AllRowed.save {db : Db} (ha : AllRowed db) (hi : Integral db) (cdnPrefix : String) (user : Long)
    (now : Date) {f : HouseForm} (hr : Resolved db f) :
    AllRowed (HouseService.save cdnPrefix .none user now f db).1 := by
  rcases save_cases cdnPrefix .none user now f db with ⟨he, -⟩ | ⟨detail, id, hs⟩
  · rwa [he]
  · have hg := Grows.save cdnPrefix .none user now f db
    generalize (HouseService.save cdnPrefix .none user now f db).1 = db' at hs hg
    intro house hh
    rcases hs.mem_house hh with ⟨hmem, hne⟩ | rfl
    · exact (ha house hmem).congr hg (hs.sameRows hne).detail rfl rfl rfl
    · obtain ⟨d, subway, station, hd, hsub, hst⟩ := detail_stored hi ha hs
      refine ⟨⟨d, subway, station, hd, ?_, ?_⟩, ?_⟩
      · simpa only [Db.findSubway, hg.subway] using hsub
      · simpa only [Db.findSubwayStation, hg.station] using hst
      · rw [findCityAndRegion_congr hg.address]
        exact hr

theorem AllRowed.update {db : Db} (ha : AllRowed db) (cdnPrefix : String) (now : Date) {f : HouseForm}
    (hr : Resolved db f) : AllRowed (HouseService.update cdnPrefix now f db).1 := by
  have hg := Grows.update cdnPrefix now f db
  rcases update_cases cdnPrefix now f db with ⟨he, -⟩ | ⟨loaded, detail, pictures, hl, hp, he⟩
  · rwa [he]
  · have hsame : ∀ h, loaded.id ≠ h → SameRows h db (HouseService.update cdnPrefix now f db).1 := by
      intro h hne
      refine sameRows_update fun house d hl' => ?_
      rw [hl] at hl'
      cases hl'
      exact hne
    rw [he] at hg hsame ⊢
    intro house hh
    obtain ⟨a, hmem, rfl⟩ := mem_rewriteHouse.mp hh
    by_cases hid : a.id = loaded.id
    · rw [if_pos hid]
      obtain ⟨old, -, -, hold, hw⟩ := updateLoad_ok hl
      obtain ⟨hkey, hhouse⟩ := wrapperDetailInfo_keys hw
      obtain ⟨subway, station, hsub, hst⟩ := wrapperDetailInfo_found hw
      refine ⟨⟨detail, subway, station, ?_, ?_, ?_⟩, ?_⟩
      · refine findDetail_eq_some.mpr ⟨mem_rewriteDetail.mpr ⟨old, (findDetail_some hold).1, ?_⟩, ?_⟩
        · rw [if_pos hkey.symm, ← hkey, ← hhouse]
        · rw [hhouse, (findDetail_some hold).2]
          exact hid.symm
      · simpa only [Db.findSubway, hg.subway] using hsub
      · simpa only [Db.findSubwayStation, hg.station] using hst
      · rw [findCityAndRegion_congr hg.address]
        exact hr
    · rw [if_neg hid]
      exact (ha a hmem).congr hg (hsame a.id (Ne.symm hid)).detail rfl rfl rfl

/-- The house table and the details stay. -/
theorem AllRowed.same {db db' : Db} (ha : AllRowed db) (hg : Grows db db') (hhouse : db'.house = db.house)
    (hdetail : db'.detail = db.detail) : AllRowed db' := by
  intro house hh
  rw [hhouse] at hh
  refine (ha house hh).congr hg ?_ rfl rfl rfl
  simp only [Db.findDetailByHouseId, hdetail]

theorem AllRowed.updateStatus {s : Sys} (ha : AllRowed s.db) (id : Long) (status : Int) :
    AllRowed (HouseService.updateStatus id status s).1.db := by
  rcases updateStatus_cases id status s with ⟨-, he⟩ | ⟨house, -, -, he⟩
  · rwa [he]
  · rw [he, notifySearch_eq, send_db]
    exact ha.rewriteHouse id (fun _ => rfl) fun _ => rfl

theorem allRowed_step {env : Env} {s s' : Sys} {l : Req} (hi : Integral s.db) (ha : AllRowed s.db)
    (hl : Addressed s l) (hs : step env s l = some s') : AllRowed s'.db := by
  have hg := grows_step hs
  cases l with
  | save faults user now f =>
    obtain ⟨rfl, hr⟩ := hl
    cases hs
    exact ha.save hi _ _ _ hr
  | update now f => cases hs; exact ha.update _ _ hl
  | updateStatus id status => cases hs; exact ha.updateStatus id status
  | operateHouse id op =>
    cases hs
    rcases operateHouse_cases id op s with he | ⟨o, -, he⟩
    · rwa [he]
    · rw [he]
      exact ha.updateStatus id o.status.value
  | removePhoto id answer =>
    cases hs
    dsimp only at hg ⊢
    rcases removePhoto_cases id answer s.db with he | ⟨p, -, -, he⟩
    · rwa [he]
    · rw [he] at hg ⊢
      exact ha.same hg rfl rfl
  | updateCover c t =>
    cases hs
    simpa only [updateCover_db] using ha
  | addTag i t =>
    cases hs
    dsimp only at hg ⊢
    rcases addTag_cases i t s.db with he | ⟨house, tags, -, -, -, he⟩
    · rwa [he]
    · rw [he] at hg ⊢
      exact ha.same hg rfl rfl
  | removeTag i t =>
    cases hs
    dsimp only at hg ⊢
    rcases removeTag_cases i t s.db with he | ⟨house, tag, -, -, he⟩
    · rwa [he]
    · rw [he] at hg ⊢
      exact ha.same hg rfl rfl
  | handle c =>
    rw [(handleMessage_docs hs).1]
    exact ha
  | refresh => cases hs; exact ha

end Soufang
