import Soufang.L3System.System

/-!
# Adding a house, all or nothing

`save` writes four tables in four transactions. `Complete` is the database
with all of the form stored, `Untouched` the one with none of it. A write that
is refused after the house row leaves neither: `save_atomic_iff` says exactly
when `save` ends in one of the two.
-/
namespace Soufang

namespace HouseService

/-- The row `save` merges over, or the next id. -/
def targetId (f : HouseForm) (db : Db) : Long :=
  match f.id.bind db.house.find? with
  | some old => old.id
  | none => db.house.next

/-- The house with exactly one detail row, all pictures and all tags. -/
structure Complete (cdnPrefix : String) (user : Long) (now : Date) (f : HouseForm) (db db' : Db) : Prop where
  house : db'.house.find? (targetId f db) = some { savedHouse user now f with id := targetId f db }
  detail : ∃ detail, wrapperDetailInfo db newDetail f = .ok (.ok detail) ∧
    (db'.detail.rows.filter fun d => d.houseId = targetId f db) =
      [{ detail with id := db.detail.next, houseId := targetId f db }]
  pictures : db'.picture.rows = db.picture.rows ++
    Table.numbered db.picture.next (generatePictures cdnPrefix f (targetId f db))
  tags : db'.tag.rows = db.tag.rows ++ Table.numbered db.tag.next (formTags f (targetId f db))

/-- All four tables are as they were. -/
structure Untouched (db db' : Db) : Prop where
  house : db'.house.rows = db.house.rows
  detail : db'.detail.rows = db.detail.rows
  picture : db'.picture.rows = db.picture.rows
  tag : db'.tag.rows = db.tag.rows

/-- The detail row is not refused. -/
def DetailTaken (faults : Faults) (f : HouseForm) (db : Db) : Prop :=
  faults.detail = false ∧ db.findDetailByHouseId (targetId f db) = none

/-- The pictures are not refused, or there is nothing left to store. -/
def PicturesTaken (faults : Faults) (f : HouseForm) : Prop :=
  faults.picture = false ∨ (f.photos.getD [] = [] ∧ f.tags.getD [] = [])

/-- The tags are distinct, new to the house and not refused, or there are none. -/
def TagsTaken (faults : Faults) (f : HouseForm) (db : Db) : Prop :=
  f.tags.getD [] = [] ∨ (faults.tag = false ∧ (f.tags.getD []).Nodup ∧
    ∀ name ∈ f.tags.getD [], db.findTagByNameAndHouseId name (targetId f db) = none)

/-- The house row is merged over one that holds the same values. -/
def SameHouse (user : Long) (now : Date) (f : HouseForm) (db : Db) : Prop :=
  ∃ old, f.id.bind db.house.find? = some old ∧ { savedHouse user now f with id := old.id } = old

/-- Either nothing is written, or nothing is refused after the house row; the
last case is a refused detail row after a house row that did not change. -/
def SaveSafe (faults : Faults) (user : Long) (now : Date) (f : HouseForm) (db : Db) : Prop :=
  ¬ Wrapped db f ∨ faults.house = true ∨
    (DetailTaken faults f db ∧ PicturesTaken faults f ∧ TagsTaken faults f db) ∨
    (¬ DetailTaken faults f db ∧ SameHouse user now f db)

section
variable {cdnPrefix : String} {faults : Faults} {user : Long} {now : Date} {f : HouseForm} {db db' : Db}
  {detail : HouseDetail} {id : Long}

theorem Stored.targetId_eq (hs : Stored cdnPrefix faults user now f db detail id db') : targetId f db = id := by
  unfold targetId
  rcases saveHouse_cases hs.house with ⟨old, hf, rfl, -⟩ | ⟨hf, rfl, -⟩ <;> rw [hf]

/-- The house rows stay the same only in a merge of the same values. -/
theorem Stored.house_rows (hs : Stored cdnPrefix faults user now f db detail id db') :
    db'.house.rows = db.house.rows ↔ SameHouse user now f db := by
  rcases saveHouse_cases hs.house with ⟨old, hf, rfl, he⟩ | ⟨hf, rfl, hi⟩
  · obtain ⟨i, -, hold⟩ := Option.bind_eq_some_iff.mp hf
    have hmem := (Table.find?_some hold).1
    constructor
    · intro hrows
      refine ⟨old, hf, ?_⟩
      have hfind : db'.house.find? old.id = db.house.find? old.id := by simp only [Table.find?, hrows]
      have hold : db.house.find? old.id = some old := Table.find?_eq_some.mpr ⟨hmem, rfl⟩
      rw [hs.find_house, hold, Option.some.injEq] at hfind
      exact hfind
    · rintro ⟨old', hf', hsame⟩
      rw [hf, Option.some.injEq] at hf'
      subst hf'
      rw [he]
      refine (List.map_congr_left fun a ha => ?_).trans (List.map_id _)
      split
      · rename_i hid
        have ha : a = old := Table.id_inj ha hmem hid
        subst ha
        exact hsame
      · rfl
  · rw [(Table.insert?_some hi).1]
    refine ⟨fun h => absurd h (by simp), ?_⟩
    rintro ⟨old, hf', -⟩
    rw [hf] at hf'
    cases hf'

/-- The detail row is refused for an outside reason or because the house has
one. -/
theorem Stored.detailTaken (hs : Stored cdnPrefix faults user now f db detail id db') :
    DetailTaken faults f db ↔ guarded faults.detail (db.detail.insert? { detail with houseId := id }) ≠ none := by
  unfold DetailTaken guarded
  rw [hs.targetId_eq]
  cases faults.detail with
  | true => simp
  | false =>
    simp only [true_and, if_neg Bool.false_ne_true]
    refine ⟨fun hn => insert_detail hn detail, fun hi => ?_⟩
    obtain ⟨t, ht⟩ := Option.ne_none_iff_exists'.mp hi
    refine findDetail_none.mpr fun d hd hh => hi (Table.insert?_eq_none.mpr ⟨id, ?_, rfl⟩)
    exact List.mem_filterMap.mpr ⟨d, hd, by rw [← hh]; rfl⟩

/-- The unique key takes tags that are distinct and new to the house. -/
theorem insertAll?_tags : (db.tag.insertAll? (formTags f id)).isSome ↔
    (f.tags.getD []).Nodup ∧ ∀ name ∈ f.tags.getD [], db.findTagByNameAndHouseId name id = none := by
  have hkeys : (formTags f id).filterMap (Entity.uniq (α := HouseTag)) =
      (f.tags.getD []).map fun name => (id, name) := by
    simp only [formTags, List.filterMap_map]
    exact List.filterMap_eq_map (f := fun name => (id, name)) ▸ rfl
  rw [Table.insertAll?_isSome, hkeys, List.nodup_append]
  constructor
  · rintro ⟨-, hnd, hdis⟩
    refine ⟨hnd.of_map _, fun name hname => findTag_none.mpr fun t ht hn hh => ?_⟩
    refine hdis (id, name) (List.mem_filterMap.mpr ⟨t, ht, ?_⟩) (id, name) (List.mem_map_of_mem hname) rfl
    rw [← hn, ← hh]
    rfl
  · rintro ⟨hnd, hnew⟩
    refine ⟨db.tag.uniques, hnd.map fun a b h => (Prod.mk.inj h).2, ?_⟩
    rintro k hk k' hk' rfl
    obtain ⟨t, ht, htk⟩ := List.mem_filterMap.mp hk
    obtain ⟨name, hname, rfl⟩ := List.mem_map.mp hk'
    simp only [Entity.uniq, Option.some.injEq, Prod.mk.injEq] at htk
    exact findTag_none.mp (hnew name hname) t ht htk.2 htk.1

theorem Stored.tagsTaken (hs : Stored cdnPrefix faults user now f db detail id db') :
    TagsTaken faults f db ↔
      f.tags.getD [] = [] ∨ guarded faults.tag (db.tag.insertAll? (formTags f id)) ≠ none := by
  unfold TagsTaken guarded
  rw [hs.targetId_eq]
  cases faults.tag with
  | true => simp
  | false =>
    simp only [true_and, if_neg Bool.false_ne_true]
    rw [← insertAll?_tags, Option.isSome_iff_ne_none]

theorem picturesTaken_iff (cdnPrefix : String) (db : Db) (id : Long) :
    PicturesTaken faults f ↔ (f.photos.getD [] = [] ∧ f.tags.getD [] = []) ∨
      guarded faults.picture (db.picture.insertAll? (generatePictures cdnPrefix f id)) ≠ none := by
  obtain ⟨t, ht⟩ := insertAll?_pictures db.picture cdnPrefix f id
  unfold PicturesTaken guarded
  rw [ht]
  cases faults.picture <;> simp

theorem numbered_eq_nil {α : Type} [Entity α] {n : Int} {as : List α} : Table.numbered n as = [] ↔ as = [] := by
  rw [← List.length_eq_zero_iff, Table.length_numbered, List.length_eq_zero_iff]

/-- With a refused detail row, `save` is complete or untouched iff the house
row did not change. -/
theorem Stored.atomic_detail (hs : Stored cdnPrefix faults user now f db detail id db')
    (hd : db'.detail = db.detail) (hp : db'.picture = db.picture) (ht : db'.tag = db.tag) :
    (Complete cdnPrefix user now f db db' ∨ Untouched db db') ↔ SameHouse user now f db := by
  rw [← hs.house_rows]
  constructor
  · rintro (hc | hu)
    · -- the new detail row is not among the old ones
      obtain ⟨d, -, hrows⟩ := hc.detail
      have hmem : ({ d with id := db.detail.next, houseId := targetId f db } : HouseDetail) ∈ db.detail.rows := by
        rw [hd] at hrows
        exact List.mem_of_mem_filter (hrows ▸ List.mem_singleton_self _)
      exact absurd (db.detail.fresh _ hmem) (lt_irrefl _)
    · exact hu.house
  · intro hrows
    exact Or.inr ⟨hrows, by rw [hd], by rw [hp], by rw [ht]⟩

/-- With the detail row stored, `save` is complete or untouched iff the
pictures and the tags are stored. -/
theorem Stored.atomic_rest (hs : Stored cdnPrefix faults user now f db detail id db')
    (hd : guarded faults.detail (db.detail.insert? { detail with houseId := id }) = some db'.detail) :
    (Complete cdnPrefix user now f db db' ∨ Untouched db db') ↔
      db'.picture.rows = db.picture.rows ++ Table.numbered db.picture.next (generatePictures cdnPrefix f id) ∧
        db'.tag.rows = db.tag.rows ++ Table.numbered db.tag.next (formTags f id) := by
  have hrows := (Table.insert?_some (guarded_some hd).2).1
  have htarget := hs.targetId_eq
  constructor
  · rintro (hc | hu)
    · have hpic := hc.pictures
      have htag := hc.tags
      rw [htarget] at hpic htag
      exact ⟨hpic, htag⟩
    · rw [hu.detail] at hrows
      exact absurd hrows.symm (by simp)
  · rintro ⟨hpic, htag⟩
    refine Or.inl ⟨by rw [htarget]; exact hs.find_house, ⟨detail, hs.wrapped, ?_⟩, by rw [htarget]; exact hpic,
      by rw [htarget]; exact htag⟩
    have hnone : db.findDetailByHouseId id = none := by
      have ht := hs.detailTaken.mpr (by rw [hd]; exact Option.some_ne_none _)
      rw [← htarget]
      exact ht.2
    rw [hrows, List.filter_append, htarget]
    rw [List.filter_eq_nil_iff.mpr fun d hd => by simpa using findDetail_none.mp hnone d hd]
    simp [Entity.withId]

end

/-- **All or nothing.** For all forms, databases and refused writes, `save`
stores the whole house or changes no table exactly when it is `SaveSafe`. -/
theorem save_atomic_iff (cdnPrefix : String) (faults : Faults) (user : Long) (now : Date) (f : HouseForm)
    (db : Db) :
    (Complete cdnPrefix user now f db (save cdnPrefix faults user now f db).1 ∨
      Untouched db (save cdnPrefix faults user now f db).1) ↔ SaveSafe faults user now f db := by
  rcases save_cases cdnPrefix faults user now f db with ⟨he, hr⟩ | ⟨detail, id, hs⟩
  · rw [he]
    refine ⟨fun _ => ?_, fun _ => Or.inr ⟨rfl, rfl, rfl, rfl⟩⟩
    exact hr.imp id Or.inl
  · generalize (save cdnPrefix faults user now f db).1 = db' at hs
    have hsafe : SaveSafe faults user now f db ↔
        (DetailTaken faults f db ∧ PicturesTaken faults f ∧ TagsTaken faults f db) ∨
          (¬ DetailTaken faults f db ∧ SameHouse user now f db) := by
      unfold SaveSafe
      have hw : Wrapped db f := ⟨detail, hs.wrapped⟩
      simp [hw, hs.unrefused]
    rw [hsafe, picturesTaken_iff cdnPrefix db id, hs.tagsTaken]
    rcases hs.run with ⟨hd, hdet, hpic, htag⟩ | ⟨hd, hrest⟩
    · have hn : ¬ DetailTaken faults f db := fun h => hs.detailTaken.mp h hd
      rw [hs.atomic_detail hdet hpic htag]
      simp [hn]
    · have ht : DetailTaken faults f db := hs.detailTaken.mpr (by rw [hd]; exact Option.some_ne_none _)
      rw [hs.atomic_rest hd]
      simp only [ht, true_and, not_true_eq_false, false_and, or_false]
      have hphotos : generatePictures cdnPrefix f id = [] ↔ f.photos.getD [] = [] := List.map_eq_nil_iff
      have htags : formTags f id = [] ↔ f.tags.getD [] = [] := List.map_eq_nil_iff
      rcases hrest with ⟨hp, hpic, htag⟩ | ⟨hp, ⟨he, htag⟩ | ⟨he, hn, htag⟩ | htag⟩
      · rw [hpic, htag, hp]
        simp only [List.self_eq_append_right, numbered_eq_nil, hphotos, htags]
        tauto
      · have he := List.isEmpty_iff.mp he
        rw [(Table.insertAll?_some (guarded_some hp).2), htag, hp]
        simp [he, formTags, Table.numbered]
      · have he : f.tags.getD [] ≠ [] := by simpa using he
        rw [(Table.insertAll?_some (guarded_some hp).2), htag, hn]
        simp [he, numbered_eq_nil, htags]
      · rw [(Table.insertAll?_some (guarded_some hp).2), Table.insertAll?_some (guarded_some htag).2, hp, htag]
        simp

/-- **A house without its tags.** A form with one tag twice stores the house,
its detail and its picture, and then fails. -/
theorem save_partial :
    ¬ ∀ (cdnPrefix : String) (faults : Faults) (user : Long) (now : Date) (f : HouseForm) (db : Db),
      f.violations = [] → Complete cdnPrefix user now f db (save cdnPrefix faults user now f db).1 ∨
        Untouched db (save cdnPrefix faults user now f db).1 := by
  intro hall
  rcases hall "cdn/" .none 2 0 { Sample.form with tags := some ["近地铁", "近地铁"] } Sample.fresh.db
    (by decide +kernel) with hc | hu
  · exact absurd hc.tags (by decide +kernel)
  · exact absurd hu.house (by decide +kernel)

end HouseService

end Soufang
