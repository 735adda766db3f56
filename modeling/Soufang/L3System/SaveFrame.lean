import Soufang.L2Service.AddressService
import Soufang.L3System.SaveAtomic

/-!
# Adding a house changes no other

`save` serves the add page, but its form is that of the edit page and has an
id, which `modelMapper` copies; the repository then merges the form over the
row with that id.

* `CreatesOnly`: every house row stays, and a success adds one row.
* `save_succeeds_iff`: no write is refused.
* `save_creates_iff`: `save` only creates exactly when the form's id names no
  row, or nothing is stored, or the merge changed nothing and a later write
  was refused.
* `save_overwrites`: the add endpoint on a form with the id of a house that
  passed its audit.
-/
namespace Soufang

namespace HouseService

def Succeeds {α : Type} (r : Except Exn (ServiceResult α)) : Prop := ∃ a, r = .ok a ∧ a.success = true

/-- The house rows stay, and on success there is one more. -/
structure CreatesOnly (db : Db) (r : Db × Except Exn (ServiceResult HouseDTO)) : Prop where
  kept : ∀ id house, db.house.find? id = some house → r.1.house.find? id = some house
  added : Succeeds r.2 → ∃ house, r.1.house.rows = db.house.rows ++ [house]

/-- No write after the house row is refused. -/
def RestTaken (faults : Faults) (f : HouseForm) (db : Db) : Prop :=
  DetailTaken faults f db ∧ faults.picture = false ∧ TagsTaken faults f db

def NotOverwriting (faults : Faults) (user : Long) (now : Date) (f : HouseForm) (db : Db) : Prop :=
  ¬ Wrapped db f ∨ faults.house = true ∨ f.id.bind db.house.find? = none ∨
    (SameHouse user now f db ∧ ¬ RestTaken faults f db)

@[simp] theorem not_succeeds_error {α : Type} (e : Exn) : ¬ Succeeds (.error e : Except Exn (ServiceResult α)) := by
  intro ⟨a, h, _⟩
  cases h

@[simp] theorem succeeds_ok {α : Type} (a : ServiceResult α) : Succeeds (.ok a) ↔ a.success = true := by
  constructor
  · intro ⟨b, h, hs⟩
    cases h
    exact hs
  · intro hs
    exact ⟨a, rfl, hs⟩

section
variable {cdnPrefix : String} {faults : Faults} {user : Long} {now : Date} {f : HouseForm} {db : Db}

/-- Once the house row is stored, success means that nothing is refused. -/
theorem save_succeeds {detail : HouseDetail} {id : Long} {houses : Table House}
    (hw : wrapperDetailInfo db newDetail f = .ok (.ok detail))
    (hh : guarded faults.house (saveHouse db.house f.id (savedHouse user now f)) = some (id, houses)) :
    Succeeds (save cdnPrefix faults user now f db).2 ↔
      guarded faults.detail (db.detail.insert? { detail with houseId := id }) ≠ none ∧
        guarded faults.picture (db.picture.insertAll? (generatePictures cdnPrefix f id)) ≠ none ∧
        (f.tags.getD [] = [] ∨ guarded faults.tag (db.tag.insertAll? (formTags f id)) ≠ none) := by
  unfold save
  simp only [hw, hh]
  cases guarded faults.detail (db.detail.insert? { detail with houseId := id }) with
  | none => simp
  | some details =>
    simp only
    cases guarded faults.picture (db.picture.insertAll? (generatePictures cdnPrefix f id)) with
    | none => simp
    | some pictures =>
      simp only
      cases he : (f.tags.getD []).isEmpty with
      | true => simp [List.isEmpty_iff.mp he, ServiceResult.of]
      | false =>
        have hne : f.tags.getD [] ≠ [] := by simpa using he
        rw [if_neg Bool.false_ne_true]
        cases guarded faults.tag (db.tag.insertAll? (formTags f id)) with
        | none => simp [hne]
        | some tags => simp [ServiceResult.of]

/-- **Success of `save`.** The form passes the subway check and no write is
refused. -/
theorem save_succeeds_iff : Succeeds (save cdnPrefix faults user now f db).2 ↔
    Wrapped db f ∧ faults.house = false ∧ RestTaken faults f db := by
  rcases save_cases cdnPrefix faults user now f db with ⟨-, hr⟩ | ⟨detail, id, hs⟩
  · refine iff_of_false ?_ fun ⟨hw, hh, _⟩ => hr.elim (fun hn => hn hw) fun h => by simp [hh] at h
    intro hsucc
    unfold save at hsucc
    cases hw : wrapperDetailInfo db newDetail f with
    | error e => simp [hw] at hsucc
    | ok r =>
      cases r with
      | error message => simp [hw, ServiceResult.fail] at hsucc
      | ok detail =>
        have hh := hr.resolve_left (not_not_intro ⟨detail, hw⟩)
        simp [hw, hh, guarded] at hsucc
  · have hw : Wrapped db f := ⟨detail, hs.wrapped⟩
    have hh : guarded faults.house (saveHouse db.house f.id (savedHouse user now f)) =
        some (id, (save cdnPrefix faults user now f db).1.house) := by
      rw [hs.unrefused, guarded, if_neg Bool.false_ne_true, hs.house]
    obtain ⟨t, ht⟩ := insertAll?_pictures db.picture cdnPrefix f id
    have hpic : guarded faults.picture (db.picture.insertAll? (generatePictures cdnPrefix f id)) ≠ none ↔
        faults.picture = false := by
      rw [ht, guarded]
      cases faults.picture <;> simp
    rw [save_succeeds hs.wrapped hh, hpic, ← hs.detailTaken, ← hs.tagsTaken]
    simp [hw, hs.unrefused, RestTaken]

end

/-- **Creating, not overwriting.** For all databases, forms and refused
writes. -/
theorem save_creates_iff (cdnPrefix : String) (faults : Faults) (user : Long) (now : Date) (f : HouseForm)
    (db : Db) :
    CreatesOnly db (save cdnPrefix faults user now f db) ↔ NotOverwriting faults user now f db := by
  have hsucc : Succeeds (save cdnPrefix faults user now f db).2 ↔
      Wrapped db f ∧ faults.house = false ∧ RestTaken faults f db := save_succeeds_iff
  rcases save_cases cdnPrefix faults user now f db with ⟨he, hr⟩ | ⟨detail, id, hs⟩
  · refine iff_of_true ⟨fun _ _ h => by rw [he]; exact h, fun h => ?_⟩ (hr.imp id Or.inl)
    obtain ⟨hw, hh, -⟩ := hsucc.mp h
    exact (hr.elim (fun hn => hn hw) fun h => by simp [hh] at h).elim
  · have hw : Wrapped db f := ⟨detail, hs.wrapped⟩
    have hnot : NotOverwriting faults user now f db ↔
        f.id.bind db.house.find? = none ∨ (SameHouse user now f db ∧ ¬ RestTaken faults f db) := by
      simp [NotOverwriting, hw, hs.unrefused]
    rw [hnot]
    rcases saveHouse_cases hs.house with ⟨old, hf, hid, hmerge⟩ | ⟨hf, -, hi⟩
    · obtain ⟨i, -, hold⟩ := Option.bind_eq_some_iff.mp hf
      have holdid : db.house.find? id = some old := by
        rw [hid]
        exact Table.find?_eq_some.mpr ⟨(Table.find?_some hold).1, rfl⟩
      constructor
      · intro h
        have hkept := h.kept id old holdid
        rw [hs.find_house, Option.some.injEq] at hkept
        have hsame : SameHouse user now f db := ⟨old, hf, by rw [← hid]; exact hkept⟩
        refine Or.inr ⟨hsame, fun hrest => ?_⟩
        -- a success would have to add a row, but the rows are the same
        obtain ⟨house, hrows⟩ := h.added (hsucc.mpr ⟨hw, hs.unrefused, hrest⟩)
        rw [hs.house_rows.mpr hsame] at hrows
        exact absurd hrows (by simp)
      · intro h
        rcases h with hn | ⟨hsame, hrest⟩
        · rw [hf] at hn
          cases hn
        · refine ⟨fun j house hj => ?_, fun h => absurd (hsucc.mp h).2.2 hrest⟩
          rw [Table.find?, hs.house_rows.mpr hsame]
          exact hj
    · refine iff_of_true ⟨fun j house hj => ?_, fun _ => ⟨_, (Table.insert?_some hi).1⟩⟩ (Or.inl hf)
      rw [Table.find?_insert? hi, if_neg, hj]
      intro he
      rw [he, Table.find?_next] at hj
      cases hj

end HouseService

/-- The sample house after its audit. -/
def Sample.audited : Db := HouseService.setStatus 1 HouseStatus.PASSES.value Sample.stored.db

/-- **A house taken over.** Administrator 3 posts a valid form with the id of
the house of administrator 2 to the add endpoint: it is NOT_AUDITED again and
his own. -/
theorem HouseService.save_overwrites :
    ¬ ∀ (cdnPrefix : String) (faults : Faults) (user : Long) (now : Date) (f : HouseForm) (db : Db),
      f.violations = [] → f.photos ≠ none → f.cover ≠ none →
      (∃ m, AddressService.findCityAndRegion db f.cityEnName f.regionEnName = .ok m ∧ m.length = 2) →
      CreatesOnly db (save cdnPrefix faults user now f db) := by
  intro hall
  have h := hall "cdn/" .none 3 1 { Sample.form with id := some 1 } Sample.audited (by decide +kernel)
    (by decide) (by decide) ⟨_, rfl, rfl⟩
  have hbefore : ∃ house ∈ Sample.audited.house.find? 1, house.status = HouseStatus.PASSES.value := by
    decide +kernel
  have hafter : ∀ house ∈ (save "cdn/" .none 3 1 { Sample.form with id := some 1 }
      Sample.audited).1.house.find? 1, house.status = HouseStatus.NOT_AUDITED.value := by decide +kernel
  obtain ⟨house, hf, hst⟩ := hbefore
  have hst' := hafter house (h.kept 1 house hf)
  rw [hst] at hst'
  exact absurd hst' (by decide)

end Soufang
