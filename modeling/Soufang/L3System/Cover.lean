import Soufang.L3System.System

/-!
# Covers and pictures

The cover of a house is a path, copied from the form or from a picture. The
forms take it from their own photos, and `save` and `update` store these;
`updateCover` would take one from any house, but has no transaction and never
stores it (`updateCover_db`). What is left are `removePhoto`, which does not
look at covers, and a `save` that is stopped after the house row and stores no
pictures.

* `CoverSafe`: neither of the two leaves a cover behind.
* `covers_kept`: the runs in which every cover is the path of a picture of its
  house are those whose steps are `CoverSafe`.
-/
namespace Soufang

open HouseService

/-- The cover, when given, is one of the photos. -/
def CoverAmong (f : HouseForm) : Prop := ∀ c ∈ f.cover, ∃ p ∈ f.photos.getD [], p.path = c

instance (f : HouseForm) : Decidable (CoverAmong f) := by unfold CoverAmong; infer_instance

/-- Saves and edits with a cover among their photos, calls of `updateCover`, and
removals the object store confirms. -/
def Picturing (_ : Sys) : Req → Prop
  | .save _ _ _ f => CoverAmong f
  | .update _ f => CoverAmong f
  | .updateCover _ _ => True
  | .removePhoto _ answer => answer = .ok
  | _ => False

instance (s : Sys) : (l : Req) → Decidable (Picturing s l)
  | .save _ _ _ f => inferInstanceAs (Decidable (CoverAmong f))
  | .update _ f => inferInstanceAs (Decidable (CoverAmong f))
  | .updateCover _ _ => isTrue trivial
  | .removePhoto _ answer => inferInstanceAs (Decidable (answer = .ok))
  | .updateStatus _ _ | .operateHouse _ _ | .addTag _ _ | .removeTag _ _ | .handle _ | .refresh => isFalse id

def picturing (env : Env) (subway : List Subway) (station : List SubwayStation)
    (address : List SupportAddress) : LTS Sys Req :=
  (system env fun s => s = .fresh subway station address).restrict Picturing

/-- The house has a picture with this path. -/
def HasPicture (db : Db) (h : Long) (path : String) : Prop :=
  ∃ p ∈ db.picture.rows, p.houseId = h ∧ p.path = path

instance (db : Db) (h : Long) (path : String) : Decidable (HasPicture db h path) := by
  unfold HasPicture; infer_instance

def CoversKept (db : Db) : Prop := ∀ house ∈ db.house.rows, ∀ c, house.cover = some c → HasPicture db house.id c

/-- A save that stores the house stores its detail and picture rows too. -/
def PhotosStored (faults : Faults) (f : HouseForm) (db : Db) : Prop :=
  faults.detail = false ∧ faults.picture = false ∧
    ∀ house ∈ f.id.bind db.house.find?, db.findDetailByHouseId house.id = none

instance (faults : Faults) (f : HouseForm) (db : Db) : Decidable (PhotosStored faults f db) := by
  unfold PhotosStored; infer_instance

/-- The last picture with the path of its house's cover stays; a save with a
cover that stores the house is not refused its detail and picture rows, or
overwrites a house with a picture for this cover. -/
def CoverSafe (s : Sys) : Req → Prop
  | .removePhoto id _ => ∀ p ∈ s.db.picture.find? id, ∀ house ∈ s.db.house.find? p.houseId,
      house.cover = some p.path →
        ∃ q ∈ s.db.picture.rows, q.id ≠ id ∧ q.houseId = p.houseId ∧ q.path = p.path
  | .save faults _ _ f => ∀ c ∈ f.cover, faults.house = false → Wrapped s.db f →
      PhotosStored faults f s.db ∨ ∃ house ∈ f.id.bind s.db.house.find?, HasPicture s.db house.id c
  | _ => True

instance (s : Sys) : (l : Req) → Decidable (CoverSafe s l)
  | .removePhoto id _ => inferInstanceAs (Decidable (∀ p ∈ s.db.picture.find? id,
      ∀ house ∈ s.db.house.find? p.houseId, house.cover = some p.path →
        ∃ q ∈ s.db.picture.rows, q.id ≠ id ∧ q.houseId = p.houseId ∧ q.path = p.path))
  | .save faults _ _ f => inferInstanceAs (Decidable (∀ c ∈ f.cover, faults.house = false → Wrapped s.db f →
      PhotosStored faults f s.db ∨ ∃ house ∈ f.id.bind s.db.house.find?, HasPicture s.db house.id c))
  | .update _ _ | .updateStatus _ _ | .operateHouse _ _ | .updateCover _ _ | .addTag _ _ | .removeTag _ _
  | .handle _ | .refresh => isTrue trivial

/-! ## The invariant -/

def PicturesBelow (db : Db) : Prop := ∀ p ∈ db.picture.rows, p.houseId < db.house.next

structure Pictured (db : Db) : Prop where
  covers : CoversKept db
  details : DetailsBelow db
  pictures : PicturesBelow db

theorem HasPicture.mono {db db' : Db} {h : Long} {c : String}
    (hsub : ∀ p ∈ db.picture.rows, p ∈ db'.picture.rows) (hp : HasPicture db h c) : HasPicture db' h c := by
  obtain ⟨p, hp, hh, hc⟩ := hp
  exact ⟨p, hsub p hp, hh, hc⟩

/-- The stored photos of a form include its cover. -/
theorem hasPicture_generated {db db' : Db} {cdnPrefix : String} {f : HouseForm} {id : Long}
    (hf : CoverAmong f) (hi : db.picture.insertAll? (generatePictures cdnPrefix f id) = some db'.picture)
    {c : String} (hc : f.cover = some c) : HasPicture db' id c := by
  obtain ⟨p, hp, rfl⟩ := hf c hc
  have hg : (⟨0, id, p.path, cdnPrefix, p.width, p.height⟩ : HousePicture) ∈ generatePictures cdnPrefix f id :=
    List.mem_map_of_mem hp
  obtain ⟨i, hi'⟩ := Table.exists_numbered (n := db.picture.next) hg
  refine ⟨⟨i, id, p.path, cdnPrefix, p.width, p.height⟩, ?_, rfl, rfl⟩
  rw [Table.insertAll?_some hi]
  exact List.mem_append_right _ hi'

/-- Pictures that are added are those of one stored house. -/
theorem PicturesBelow.added {db db' : Db} {cdnPrefix : String} {f : HouseForm} {id : Long} (h : PicturesBelow db)
    (hnext : db.house.next ≤ db'.house.next) (hid : id < db'.house.next)
    (hi : db.picture.insertAll? (generatePictures cdnPrefix f id) = some db'.picture) : PicturesBelow db' := by
  intro p hp
  rw [Table.insertAll?_some hi] at hp
  rcases List.mem_append.mp hp with hp | hp
  · exact (h p hp).trans_le hnext
  · obtain ⟨q, hq, i, rfl⟩ := Table.mem_numbered hp
    obtain ⟨photo, -, rfl⟩ := List.mem_map.mp hq
    exact hid

section
variable {cdnPrefix : String} {faults : Faults} {user : Long} {now : Date} {f : HouseForm} {db db' : Db}
  {detail : HouseDetail} {id : Long}

theorem HouseService.Stored.overwritten (hst : Stored cdnPrefix faults user now f db detail id db') {old : House}
    (hold : old ∈ f.id.bind db.house.find?) : old.id = id := by
  rcases saveHouse_cases hst.house with ⟨old', hold', rfl, -⟩ | ⟨hnone, -, -⟩
  · rw [Option.some.inj (hold.symm.trans hold')]
  · rw [hnone] at hold
    cases hold

/-- What a stored house keeps of the pictures, and what it gets: nothing, for a
refused row, or all of the form's. -/
theorem pictures_stored (hst : Stored cdnPrefix faults user now f db detail id db') :
    (db'.picture = db.picture ∧ (DetailsBelow db → ¬ PhotosStored faults f db)) ∨
      (db.picture.insertAll? (generatePictures cdnPrefix f id) = some db'.picture ∧ PhotosStored faults f db) := by
  rcases hst.run with ⟨hr, -, hp, -⟩ | ⟨hd, ⟨hr, hp, -⟩ | ⟨hp, -⟩⟩
  · refine Or.inl ⟨hp, fun hbelow hs => ?_⟩
    have hdetail : db.findDetailByHouseId id = none := by
      rcases saveHouse_cases hst.house with ⟨old, hf, rfl, -⟩ | ⟨-, rfl, -⟩
      · exact hs.2.2 old hf
      · exact hbelow.next
    rw [guarded, hs.1, if_neg (by decide)] at hr
    exact insert_detail hdetail detail hr
  · refine Or.inl ⟨hp, fun _ hs => ?_⟩
    obtain ⟨t, ht⟩ := insertAll?_pictures db.picture cdnPrefix f id
    rw [guarded, hs.2.1, if_neg (by decide), ht] at hr
    cases hr
  · obtain ⟨hfd, hd⟩ := guarded_some hd
    obtain ⟨hfp, hp⟩ := guarded_some hp
    refine Or.inr ⟨hp, by simpa using hfd, by simpa using hfp, fun house hold => ?_⟩
    -- a detail row of the house would have refused the new one
    by_contra hdet
    obtain ⟨d, hdet⟩ := Option.ne_none_iff_exists'.mp hdet
    obtain ⟨hmem, hh⟩ := findDetail_some hdet
    have hno : db.detail.insert? { detail with houseId := id } = none := by
      rw [hst.overwritten hold] at hh
      exact Table.insert?_eq_none.mpr ⟨id, List.mem_filterMap.mpr ⟨d, hmem, congrArg some hh⟩, rfl⟩
    rw [hno] at hd
    cases hd

theorem pictured_stored (hp : Pictured db) (hf : CoverAmong f)
    (hst : Stored cdnPrefix faults user now f db detail id db')
    (hs : ∀ c ∈ f.cover, PhotosStored faults f db ∨ ∃ house ∈ f.id.bind db.house.find?, HasPicture db house.id c)
    (hd : DetailsBelow db') : Pictured db' := by
  obtain ⟨hlt, hle⟩ := saveHouse_next hst.house
  have hsub : ∀ p ∈ db.picture.rows, p ∈ db'.picture.rows := by
    intro p hmem
    rcases pictures_stored hst with ⟨he, -⟩ | ⟨hi, -⟩
    · rwa [he]
    · rw [Table.insertAll?_some hi]
      exact List.mem_append_left _ hmem
  refine ⟨fun house hh c hc => ?_, hd, ?_⟩
  · rcases hst.mem_house hh with ⟨hold, -⟩ | rfl
    · exact (hp.covers house hold c hc).mono hsub
    · -- the stored row carries the cover of the form
      have hcov : f.cover = some c := hc
      rcases hs c hcov with hps | ⟨old, hold, hpic⟩
      · rcases pictures_stored hst with ⟨-, hno⟩ | ⟨hi, -⟩
        · exact absurd hps (hno hp.details)
        · exact hasPicture_generated hf hi hcov
      · rw [hst.overwritten hold] at hpic
        exact hpic.mono hsub
  · rcases pictures_stored hst with ⟨he, -⟩ | ⟨hi, -⟩
    · intro p hmem
      rw [he] at hmem
      exact (hp.pictures p hmem).trans_le hle
    · exact hp.pictures.added hle hlt hi

/-- A save whose photos are not stored leaves a cover behind, unless the house
it overwrites has a picture for it. -/
theorem not_covers_stored (hp : Pictured db) (hst : Stored cdnPrefix faults user now f db detail id db') {c : String}
    (hc : f.cover = some c) (hps : ¬ PhotosStored faults f db)
    (hno : ¬ ∃ house ∈ f.id.bind db.house.find?, HasPicture db house.id c) : ¬ CoversKept db' := by
  intro hk
  have hpic : db'.picture = db.picture := by
    rcases pictures_stored hst with ⟨he, -⟩ | ⟨-, hs⟩
    · exact he
    · exact absurd hs hps
  have hrow := (Table.find?_some hst.find_house).1
  obtain ⟨p, hmem, hh, hpath⟩ := hk _ hrow c hc
  rw [hpic] at hmem
  rcases saveHouse_cases hst.house with ⟨old, hold, rfl, -⟩ | ⟨-, rfl, -⟩
  · exact hno ⟨old, hold, p, hmem, hh, hpath⟩
  · exact (hp.pictures p hmem).ne hh

end

theorem pictured_save {cdnPrefix : String} {faults : Faults} {user : Long} {now : Date} {f : HouseForm}
    {db : Db} (hp : Pictured db) (hf : CoverAmong f)
    (hs : ∀ c ∈ f.cover, faults.house = false → Wrapped db f →
      PhotosStored faults f db ∨ ∃ house ∈ f.id.bind db.house.find?, HasPicture db house.id c) :
    Pictured (save cdnPrefix faults user now f db).1 := by
  have hd := hp.details.save cdnPrefix faults user now f
  rcases save_cases cdnPrefix faults user now f db with ⟨he, -⟩ | ⟨detail, id, hst⟩
  · rw [he]
    exact hp
  · exact pictured_stored hp hf hst (fun c hc => hs c hc hst.unrefused ⟨detail, hst.wrapped⟩) hd

theorem pictured_update {cdnPrefix : String} {now : Date} {f : HouseForm} {db : Db} (hp : Pictured db)
    (hf : CoverAmong f) : Pictured (update cdnPrefix now f db).1 := by
  rcases update_cases cdnPrefix now f db with ⟨he, -⟩ | ⟨house, detail, pictures, hl, hi, he⟩
  · rw [he]; exact hp
  · obtain ⟨old, -, hfind, hold, hw⟩ := updateLoad_ok hl
    obtain ⟨hmem, -⟩ := Table.find?_some hfind
    have hd := hp.details.update cdnPrefix now f
    rw [he] at hd ⊢
    refine ⟨fun r hr c hc => ?_, hd, hp.pictures.added (le_refl _) (db.house.fresh house hmem) hi⟩
    have hsub : ∀ p ∈ db.picture.rows, p ∈ pictures.rows := fun p hp => by
      rw [Table.insertAll?_some hi]; exact List.mem_append_left _ hp
    obtain ⟨a, ha, rfl⟩ := mem_rewriteHouse.mp hr
    by_cases hid : a.id = house.id
    · have hae : a = house := Table.id_inj ha hmem hid
      subst hae
      rw [if_pos rfl] at hc ⊢
      cases hcov : f.cover with
      | some c' =>
        have hc : f.cover = some c := by simpa [updatedHouse, hcov] using hc
        exact hasPicture_generated hf hi hc
      | none =>
        have hc : a.cover = some c := by simpa [updatedHouse, hcov] using hc
        exact (hp.covers a ha c hc).mono hsub
    · rw [if_neg hid] at hc ⊢
      exact (hp.covers a ha c hc).mono hsub

theorem pictured_removePhoto {id : Long} {answer : QiNiuAnswer} {db : Db} (hp : Pictured db)
    (hs : ∀ p ∈ db.picture.find? id, ∀ house ∈ db.house.find? p.houseId, house.cover = some p.path →
      ∃ q ∈ db.picture.rows, q.id ≠ id ∧ q.houseId = p.houseId ∧ q.path = p.path) :
    Pictured (removePhoto id answer db).1 := by
  rcases removePhoto_cases id answer db with he | ⟨p, hf, -, he⟩
  · rw [he]; exact hp
  · rw [he]
    refine ⟨fun house hh c hc => ?_, hp.details, fun p hp' => hp.pictures p (List.mem_filter.mp hp').1⟩
    obtain ⟨q, hq, hqh, hqc⟩ := hp.covers house hh c hc
    have hkeep : ∀ r ∈ db.picture.rows, r.id ≠ id →
        r ∈ (db.picture.remove fun p => decide (p.id = id)).rows := fun r hr hne =>
      List.mem_filter.mpr ⟨hr, by simpa using hne⟩
    by_cases hid : q.id = id
    · -- the picture of the cover goes: another one carries its path
      have hqp : db.picture.find? id = some q := Table.find?_eq_some.mpr ⟨hq, hid⟩
      have hhouse : db.house.find? q.houseId = some house := Table.find?_eq_some.mpr ⟨hh, hqh.symm⟩
      obtain ⟨r, hr, hrid, hrh, hrp⟩ := hs q hqp house hhouse (by rw [hc, hqc])
      exact ⟨r, hkeep r hr hrid, hrh.trans hqh, hrp.trans hqc⟩
    · exact ⟨q, hkeep q hq hid, hqh, hqc⟩

/-- Removing the last picture of a cover leaves the cover behind. -/
theorem not_covers_removePhoto {id : Long} {db : Db} {p : HousePicture} (hf : db.picture.find? id = some p)
    {house : House} (hh : db.house.find? p.houseId = some house) (hc : house.cover = some p.path)
    (hno : ¬ ∃ q ∈ db.picture.rows, q.id ≠ id ∧ q.houseId = p.houseId ∧ q.path = p.path) :
    ¬ CoversKept (removePhoto id .ok db).1 := by
  intro hk
  obtain ⟨hmem, hid⟩ := Table.find?_some hh
  have he : (removePhoto id .ok db).1 = { db with picture := db.picture.remove fun p => decide (p.id = id) } := by
    simp only [removePhoto, hf]
  rw [he] at hk
  obtain ⟨q, hq, hqh, hqp⟩ := hk house hmem p.path hc
  obtain ⟨hq, hne⟩ := List.mem_filter.mp hq
  exact hno ⟨q, hq, by simpa using hne, hqh.trans hid, hqp⟩

theorem pictured_step {env : Env} {s s' : Sys} {l : Req} (hp : Pictured s.db) (hl : Picturing s l)
    (hs : CoverSafe s l) (h : step env s l = some s') : Pictured s'.db := by
  cases l with
  | save faults user now f =>
    simp only [step, Option.some.injEq] at h
    subst h
    exact pictured_save hp hl hs
  | update now f =>
    simp only [step, Option.some.injEq] at h
    subst h
    exact pictured_update hp hl
  | removePhoto id answer =>
    simp only [step, Option.some.injEq] at h
    subst h
    exact pictured_removePhoto hp hs
  | updateCover coverId targetId =>
    simp only [step, Option.some.injEq] at h
    subst h
    simpa only [updateCover_db] using hp
  | _ => exact hl.elim

theorem not_covers_step {env : Env} {s s' : Sys} {l : Req} (hp : Pictured s.db) (hl : Picturing s l)
    (h : step env s l = some s') (hs : ¬ CoverSafe s l) : ¬ CoversKept s'.db := by
  cases l with
  | save faults user now f =>
    simp only [step, Option.some.injEq] at h
    subst h
    simp only [CoverSafe, not_forall, not_or] at hs
    obtain ⟨c, hc, hunrefused, hw, hps, hno⟩ := hs
    rcases save_cases env.cdnPrefix faults user now f s.db with ⟨-, hnot | hrefused⟩ | ⟨detail, id, hst⟩
    · exact absurd hw hnot
    · rw [hunrefused] at hrefused
      cases hrefused
    · exact not_covers_stored hp hst hc hps hno
  | removePhoto id answer =>
    obtain rfl : answer = .ok := hl
    simp only [step, Option.some.injEq] at h
    subst h
    simp only [CoverSafe, not_forall] at hs
    obtain ⟨p, hf, house, hh, hc, hno⟩ := hs
    exact not_covers_removePhoto hf hh hc hno
  | _ => exact absurd trivial hs

theorem pictured_fresh (subway : List Subway) (station : List SubwayStation) (address : List SupportAddress) :
    Pictured (Sys.fresh subway station address).db where
  covers house hh := by cases hh
  details d hd := by cases hd
  pictures p hp := by cases hp

/-- **Covers are own pictures.** In the runs whose steps are `CoverSafe` every
cover is the path of a picture of its house, and a run that keeps it so is one
of these. -/
theorem covers_kept (env : Env) (subway : List Subway) (station : List SubwayStation)
    (address : List SupportAddress) :
    (∀ s, ((picturing env subway station address).restrict CoverSafe).Reachable s → ∀ house ∈ s.db.house.rows, ∀ c,
      house.cover = some c → ∃ p ∈ s.db.picture.rows, p.houseId = house.id ∧ p.path = c) ∧
      ∀ ls s', ((picturing env subway station address).within fun s => CoversKept s.db).Run
          (.fresh subway station address) ls s' ↔
        ((picturing env subway station address).restrict CoverSafe).Run (.fresh subway station address) ls s' := by
  refine ⟨fun s hr => ?_, fun ls s' => ?_⟩
  · have hinv : ((picturing env subway station address).restrict CoverSafe).Inductive fun s => Pictured s.db := {
      init := by
        rintro s rfl
        exact pictured_fresh subway station address
      step := fun _ _ _ hp h => pictured_step hp h.1.2 h.2 h.1.1 }
    exact (hinv.reachable hr).covers
  · refine LTS.Run.within_iff (I := fun s : Sys => Pictured s.db) (fun _ hp => hp.covers) ?_ ?_
      (pictured_fresh subway station address)
    · exact fun s l s' hp h hs => pictured_step hp h.2 hs h.1
    · exact fun s l s' hp h hs => not_covers_step hp h.2 h.1 hs

/-- An edit makes a new photo the cover, choosing the old one again is in vain,
and the old one is removed. -/
theorem covers_kept_sample :
    ∃ s : Sys, ∃ house ∈ s.db.house.rows, house.cover = some "b.jpg" ∧
      ∃ p ∈ s.db.picture.rows, p.houseId = house.id ∧ p.path = "b.jpg" := by
  obtain ⟨s, hr, house, hh, hc⟩ := LTS.exists_reachable
    (fun s => s = .fresh Sample.fresh.db.subway Sample.fresh.db.subwayStation Sample.fresh.db.supportAddress)
    (step Sample.env) (fun s l => Picturing s l ∧ CoverSafe s l)
    (fun s => ∃ house ∈ s.db.house.rows, house.cover = some "b.jpg")
    rfl
    [.save .none 2 0 Sample.form,
      .update 5 { Sample.form with id := some 1, cover := some "b.jpg", photos := some [⟨"b.jpg", 80, 80⟩] },
      .updateCover 1 1, .removePhoto 1 .ok]
    (by decide +kernel)
  exact ⟨s, house, hh, hc, (covers_kept Sample.env _ _ _).1 s hr.restrict_restrict house hh _ hc⟩

/-- **A cover without its picture.** The only photo of house 1 is its cover;
removing it leaves the cover behind. -/
theorem cover_dangling :
    ¬ ∀ (env : Env) (subway : List Subway) (station : List SubwayStation) (address : List SupportAddress)
      (s : Sys), (picturing env subway station address).Reachable s → ∀ house ∈ s.db.house.rows, ∀ c,
        house.cover = some c → ∃ p ∈ s.db.picture.rows, p.houseId = house.id ∧ p.path = c := by
  intro hall
  obtain ⟨s, hr, hp, house, hh, hc⟩ := LTS.exists_reachable
    (fun s => s = .fresh Sample.fresh.db.subway Sample.fresh.db.subwayStation Sample.fresh.db.supportAddress)
    (step Sample.env) Picturing
    (fun s => s.db.picture.rows = [] ∧ ∃ house ∈ s.db.house.rows, house.cover = some "a.jpg")
    rfl
    [.save .none 2 0 Sample.form, .removePhoto 1 .ok]
    (by decide +kernel)
  obtain ⟨p, hpm, -⟩ := hall Sample.env _ _ _ s hr house hh _ hc
  rw [hp] at hpm
  cases hpm

end Soufang
