import Soufang.L2Service.QuerySpec
import Soufang.L3System.System

/-!
# Who may change a house

`house.admin_id` is the administrator a house belongs to, and `adminQuery`
lists to an administrator the houses with his id (`adminQuery_house`). The
requests that change a house take its id, or the id of one of its pictures,
from the caller and never look at `adminId`.

* `Writes db l h`: the request `l` changes rows of house `h`, read off the
  state before it. `sameRows_iff`: the rows of a stored house stay the same
  exactly when it does not.
* `own_houses_only`: a request keeps the rows of all foreign houses iff it is
  `Authorised`, and in a run of such requests the rows of a house change only
  through its administrator.
-/
namespace Soufang

open HouseService

/-! ## Listing -/

/-- `adminQuery` lists own houses. -/
theorem adminQuery_house {eng : AdminEngine} {cdnPrefix : String} {user : Long} {q : DatatableSearch}
    {db : Db} {r : ServiceMultiResult HouseDTO} (h : adminQuery eng cdnPrefix user q db = .ok r)
    {dto : HouseDTO} (hd : dto ∈ r.result) :
    ∃ house ∈ db.house.rows, house.adminId = user ∧ dto.house = coverDTO cdnPrefix house := by
  obtain ⟨_, _, order, -, -, -, -, rfl⟩ := adminQuery_ok_iff.mp h
  obtain ⟨house, hh, rfl⟩ := List.mem_map.mp hd
  obtain ⟨hh, hf⟩ := List.mem_filter.mp ((Arrangement.mem_arrange ..).mp (mem_of_mem_window hh))
  simp only [adminFilter, Bool.and_eq_true, decide_eq_true_eq] at hf
  exact ⟨house, hh, hf.1.1.1.1.1.1, rfl⟩

/-! ## Which rows a request writes -/

/-- Every request but the one that adds a house. -/
def Targeted : Req → Prop
  | .save _ _ _ _ => False
  | _ => True

/-- The form adds no photo and holds what the rows hold. -/
def Repeats (db : Db) (now : Date) (f : HouseForm) (house : House) (detail : HouseDetail) : Prop :=
  f.photos.getD [] = [] ∧ db.findDetailByHouseId house.id = some detail ∧ updatedHouse now f house = house

/-- The request changes a row that belongs to house `h`. -/
def Writes (db : Db) : Req → Long → Prop
  | .update now f, h => ∃ house detail, updateLoad db f = .ok (.ok (house, detail)) ∧ house.id = h ∧
      ¬ Repeats db now f house detail
  | .updateStatus id status, h => id = h ∧ Accepts db id status
  | .operateHouse id op, h => id = h ∧ 0 < id ∧
      ∃ o, HouseOperation.ofCode op = some o ∧ Accepts db id o.status.value
  | .removePhoto id answer, h => answer = .ok ∧ ∃ p, db.picture.find? id = some p ∧ p.houseId = h
  | .addTag i tag, h => i = h ∧ db.findTagByNameAndHouseId tag i = none
  | .removeTag i tag, h => i = h ∧ db.findTagByNameAndHouseId tag i ≠ none
  | .save _ _ _ _, _ | .updateCover _ _, _ | .handle _, _ | .refresh, _ => False

/-- Administrator `A` writes rows of his own houses only. -/
def Authorised (A : Long) (db : Db) (l : Req) : Prop :=
  ∀ h, Writes db l h → ∀ house, db.house.find? h = some house → house.adminId = A

/-- The rows of the houses of other administrators are the same. -/
def ForeignKept (A : Long) (db db' : Db) : Prop :=
  ∀ h house, db.house.find? h = some house → house.adminId ≠ A → SameRows h db db'

section
variable {db : Db} {h : Long} {house : House}

/-- An update that keeps the rows of the house it loaded repeats them. -/
theorem repeats_of_sameRows {cdnPrefix : String} {now : Date} {f : HouseForm} {detail : HouseDetail}
    (hl : updateLoad db f = .ok (.ok (house, detail)))
    (hs : SameRows house.id db (update cdnPrefix now f db).1) :
    Repeats db now f house detail := by
  obtain ⟨old, -, hfind, hold, hw⟩ := updateLoad_ok hl
  obtain ⟨hid, hhid⟩ := wrapperDetailInfo_keys hw
  rcases update_cases cdnPrefix now f db with ⟨-, hn⟩ | ⟨house', detail', pictures, hl', hp, he⟩
  · exact absurd hl (hn _)
  rw [hl] at hl'
  simp only [Except.ok.injEq, Prod.mk.injEq] at hl'
  obtain ⟨rfl, rfl⟩ := hl'
  rw [he] at hs
  refine ⟨?_, ?_, ?_⟩
  · -- the pictures of the form are those the house got
    have hpic := hs.pictures
    simp only [Db.findAllPicturesByHouseId, Table.insertAll?_some hp, List.filter_append,
      List.append_right_eq_self, List.filter_eq_nil_iff] at hpic
    refine List.eq_nil_iff_forall_not_mem.mpr fun p hpm => ?_
    have hg : (⟨0, house.id, p.path, cdnPrefix, p.width, p.height⟩ : HousePicture) ∈
        generatePictures cdnPrefix f house.id := List.mem_map_of_mem hpm
    obtain ⟨i, hi⟩ := Table.exists_numbered (n := db.picture.next) hg
    exact hpic _ hi (by simp [Entity.withId])
  · -- the detail row that was rewritten is the one found before
    obtain ⟨hmem, hh⟩ := findDetail_some hold
    rw [← hs.detail]
    refine findDetail_eq_some.mpr ⟨mem_rewriteDetail.mpr ⟨old, hmem, ?_⟩, hhid.trans hh⟩
    rw [if_pos hid.symm, ← hid, ← hhid]
  · have hhouse := hs.house
    simp only [find?_rewriteHouse, if_pos, hfind, Option.map_some, Option.some.injEq] at hhouse
    exact hhouse

theorem sameRows_of_repeats {cdnPrefix : String} {now : Date} {f : HouseForm} {detail : HouseDetail}
    (hl : updateLoad db f = .ok (.ok (house, detail))) (hr : Repeats db now f house detail) :
    SameRows house.id db (update cdnPrefix now f db).1 := by
  rcases update_cases cdnPrefix now f db with ⟨he, -⟩ | ⟨house', detail', pictures, hl', hp, he⟩
  · rw [he]
    exact .refl house.id db
  rw [hl] at hl'
  simp only [Except.ok.injEq, Prod.mk.injEq] at hl'
  obtain ⟨rfl, rfl⟩ := hl'
  obtain ⟨hphotos, hdet, hup⟩ := hr
  obtain ⟨old, -, hfind, -, -⟩ := updateLoad_ok hl
  obtain ⟨hmem, hhouse⟩ := findDetail_some hdet
  have hpictures : pictures = db.picture := by
    simp only [generatePictures, hphotos, List.map_nil, Table.insertAll?, List.foldlM_nil,
      Option.pure_def, Option.some.injEq] at hp
    exact hp.symm
  rw [he, hpictures]
  refine ⟨?_, ?_, rfl, rfl, rfl⟩
  · simp only [find?_rewriteHouse, if_pos, hfind, Option.map_some, hup]
  · rw [hdet]
    exact findDetail_eq_some.mpr ⟨mem_rewriteDetail.mpr ⟨detail, hmem, if_pos rfl⟩, hhouse⟩

theorem sameRows_update_iff {cdnPrefix : String} {now : Date} {f : HouseForm} :
    SameRows h db (update cdnPrefix now f db).1 ↔ ¬ Writes db (.update now f) h := by
  constructor
  · rintro hs ⟨house, detail, hl, rfl, hne⟩
    exact hne (repeats_of_sameRows hl hs)
  · intro hn
    by_cases hload : ∃ house detail, updateLoad db f = .ok (.ok (house, detail)) ∧ house.id = h
    · obtain ⟨house, detail, hl, rfl⟩ := hload
      have hr : Repeats db now f house detail := by
        by_contra hr
        exact hn ⟨house, detail, hl, rfl, hr⟩
      exact sameRows_of_repeats hl hr
    · exact sameRows_update fun house detail hl hid => hload ⟨house, detail, hl, hid⟩

theorem updateStatus_db (id : Long) (status : Int) (s : Sys) :
    (¬ Accepts s.db id status ∧ (HouseService.updateStatus id status s).1.db = s.db) ∨
      (Accepts s.db id status ∧ (HouseService.updateStatus id status s).1.db = setStatus id status s.db) := by
  unfold HouseService.updateStatus Accepts
  cases hf : s.db.house.find? id with
  | none => exact Or.inl ⟨by simp, rfl⟩
  | some house =>
    dsimp only
    cases hr : statusRefusal house status with
    | some message => exact Or.inl ⟨by simp [hr], rfl⟩
    | none =>
      refine Or.inr ⟨⟨house, rfl, hr⟩, ?_⟩
      rw [notifySearch_eq]
      simp

theorem sameRows_updateStatus_iff {id : Long} {status : Int} {s : Sys} :
    SameRows h s.db (HouseService.updateStatus id status s).1.db ↔ ¬ (id = h ∧ Accepts s.db id status) := by
  rcases updateStatus_db id status s with ⟨hn, he⟩ | ⟨ha, he⟩
  · rw [he]
    exact ⟨fun _ hw => hn hw.2, fun _ => .refl h s.db⟩
  · rw [he]
    refine ⟨?_, fun hn => sameRows_setStatus fun hh => hn ⟨hh.symm, ha⟩⟩
    rintro hs ⟨rfl, house, hf, hr⟩
    have hhouse := hs.house
    simp only [setStatus, find?_rewriteHouse, if_pos, hf, Option.map_some, Option.some.injEq] at hhouse
    exact (statusRefusal_none hr).1 (congrArg House.status hhouse).symm

theorem sameRows_operateHouse_iff {id op : Int} {s : Sys} :
    SameRows h s.db (AdminController.operateHouse id op s).1.db ↔ ¬ Writes s.db (.operateHouse id op) h := by
  unfold AdminController.operateHouse Writes
  by_cases hid : id ≤ 0
  · rw [if_pos hid]
    exact ⟨fun _ hw => absurd hw.2.1 (by omega), fun _ => .refl h s.db⟩
  · rw [if_neg hid]
    cases ho : HouseOperation.ofCode op with
    | none =>
      refine ⟨fun _ hw => ?_, fun _ => .refl h s.db⟩
      obtain ⟨o, hn, -⟩ := hw.2.2
      rw [ho] at hn
      cases hn
    | some o =>
      refine sameRows_updateStatus_iff.trans (not_congr ⟨fun hw => ?_, fun hw => ?_⟩)
      · exact ⟨hw.1, by omega, o, ho, hw.2⟩
      · obtain ⟨hh, -, o', ho', ha⟩ := hw
        rw [ho, Option.some.injEq] at ho'
        subst ho'
        exact ⟨hh, ha⟩

theorem sameRows_removePhoto_iff {id : Long} {answer : QiNiuAnswer} :
    SameRows h db (removePhoto id answer db).1 ↔ ¬ Writes db (.removePhoto id answer) h := by
  refine ⟨?_, fun hn => sameRows_removePhoto fun p hp ha hh => hn ⟨ha, p, hp, hh⟩⟩
  rintro hs ⟨rfl, p, hp, rfl⟩
  have hmem : p ∈ db.findAllPicturesByHouseId p.houseId :=
    List.mem_filter.mpr ⟨(Table.find?_some hp).1, by simp⟩
  rw [← hs.pictures] at hmem
  have hid : p.id = id := (Table.find?_some hp).2
  have hin := (List.mem_filter.mp hmem).1
  simp only [removePhoto, hp, Table.remove, List.mem_filter, hid] at hin
  simp at hin

theorem sameRows_addTag_iff {i : Long} {tag : String} (hf : db.house.find? h = some house) :
    SameRows h db (addTag i tag db).1 ↔ ¬ Writes db (.addTag i tag) h := by
  refine ⟨?_, fun hn => sameRows_addTag fun _ ht hh => hn ⟨hh, ht⟩⟩
  rintro hs ⟨rfl, ht⟩
  rcases addTag_cases i tag db with he | ⟨-, tags, -, -, hi, he⟩
  · -- a name the house does not have is not refused
    unfold addTag at he hs
    rw [hf] at he
    simp only [ht] at he
    cases hins : db.tag.insert? ⟨0, i, tag⟩ with
    | some tags =>
      rw [hins] at he
      have := congrArg (fun d : Db => d.tag.next) he
      simp only [(Table.insert?_some hins).2] at this
      omega
    | none =>
      obtain ⟨k, hk, hu⟩ := Table.insert?_eq_none.mp hins
      obtain ⟨t, htm, htk⟩ := List.mem_filterMap.mp hk
      simp only [Entity.uniq, Option.some.injEq] at hu htk
      rw [← hu, Prod.mk.injEq] at htk
      exact findTag_none.mp ht t htm htk.2 htk.1
  · have htags := hs.tags
    rw [he] at htags
    simp [Db.findAllTagsByHouseId, (Table.insert?_some hi).1, List.filter_append, Entity.withId] at htags

theorem sameRows_removeTag_iff {i : Long} {tag : String} (hf : db.house.find? h = some house) :
    SameRows h db (removeTag i tag db).1 ↔ ¬ Writes db (.removeTag i tag) h := by
  refine ⟨?_, fun hn => sameRows_removeTag fun _ ht hh => hn ⟨hh, ht⟩⟩
  rintro hs ⟨rfl, ht⟩
  obtain ⟨t, ht⟩ := Option.ne_none_iff_exists'.mp ht
  obtain ⟨htm, -, hth⟩ := findTag_some ht
  have hmem : t ∈ db.findAllTagsByHouseId i := List.mem_filter.mpr ⟨htm, by simpa using hth⟩
  rw [← hs.tags] at hmem
  have hin := (List.mem_filter.mp hmem).1
  simp only [removeTag, hf, ht, Table.remove, List.mem_filter] at hin
  simp at hin

end

/-- The rows of a stored house stay the same iff the request does not write
them. -/
theorem sameRows_iff {env : Env} {s s' : Sys} {l : Req} (hl : Targeted l) (hstep : step env s l = some s')
    {h : Long} {house : House} (hf : s.db.house.find? h = some house) :
    SameRows h s.db s'.db ↔ ¬ Writes s.db l h := by
  cases l with
  | save faults user now f => exact hl.elim
  | handle c =>
    rw [(SearchService.handleMessage_docs hstep).1]
    exact ⟨fun _ => id, fun _ => .refl h s.db⟩
  | refresh =>
    simp only [step, Option.some.injEq] at hstep
    subst hstep
    exact ⟨fun _ => id, fun _ => .refl h s.db⟩
  | update now f =>
    simp only [step, Option.some.injEq] at hstep
    subst hstep
    exact sameRows_update_iff
  | updateStatus id status =>
    simp only [step, Option.some.injEq] at hstep
    subst hstep
    exact sameRows_updateStatus_iff
  | operateHouse id op =>
    simp only [step, Option.some.injEq] at hstep
    subst hstep
    exact sameRows_operateHouse_iff
  | removePhoto id answer =>
    simp only [step, Option.some.injEq] at hstep
    subst hstep
    exact sameRows_removePhoto_iff
  | updateCover c t =>
    simp only [step, Option.some.injEq] at hstep
    subst hstep
    rw [updateCover_db]
    exact ⟨fun _ => id, fun _ => .refl h s.db⟩
  | addTag i tag =>
    simp only [step, Option.some.injEq] at hstep
    subst hstep
    exact sameRows_addTag_iff hf
  | removeTag i tag =>
    simp only [step, Option.some.injEq] at hstep
    subst hstep
    exact sameRows_removeTag_iff hf

/-! ## Authorised requests -/

theorem foreignKept_iff {env : Env} {s s' : Sys} {l : Req} (hl : Targeted l) (hstep : step env s l = some s')
    (A : Long) : ForeignKept A s.db s'.db ↔ Authorised A s.db l := by
  constructor
  · intro hk h hw house hf
    by_contra hne
    exact (sameRows_iff hl hstep hf).mp (hk h house hf hne) hw
  · intro ha h house hf hne
    exact (sameRows_iff hl hstep hf).mpr fun hw => hne (ha h hw house hf)

/-- Requests with the administrator who sends them. -/
def byAdmins (env : Env) : LTS Sys (Long × Req) :=
  (LTS.ofFn (fun _ => True) fun s l => step env s l.2).restrict fun s l =>
    Targeted l.2 ∧ Authorised l.1 s.db l.2

/-- In a run of authorised requests the rows of a house stay the same unless
its administrator sends one. -/
theorem sameRows_run {env : Env} {s s' : Sys} {ls : List (Long × Req)} (hr : (byAdmins env).Run s ls s')
    {h : Long} {house : House} (hf : s.db.house.find? h = some house) (hls : ∀ l ∈ ls, l.1 ≠ house.adminId) :
    SameRows h s.db s'.db := by
  induction hr with
  | nil s => exact .refl h s.db
  | @cons s s1 s2 l ls hs hrun ih =>
    obtain ⟨hstep, htarget, ha⟩ := hs
    have h1 : SameRows h s.db s1.db :=
      (foreignKept_iff htarget hstep l.1).mpr ha h house hf (hls l List.mem_cons_self).symm
    have h2 := ih (h1.house.trans hf) fun l hl => hls l (List.mem_cons_of_mem _ hl)
    exact h1.trans h2

/-- **Own houses only.** What `adminQuery` lists is the administrator's own.
A request of administrator `A` leaves the rows of all foreign houses alone
exactly when it is authorised; in a run of authorised requests no house
changes without a request of its administrator. -/
theorem own_houses_only (eng : AdminEngine) (env : Env) (A : Long) :
    (∀ q db r, adminQuery eng env.cdnPrefix A q db = .ok r → ∀ dto ∈ r.result,
      ∃ house ∈ db.house.rows, house.adminId = A ∧ dto.house = coverDTO env.cdnPrefix house) ∧
    (∀ s l s', Targeted l → step env s l = some s' → (ForeignKept A s.db s'.db ↔ Authorised A s.db l)) ∧
    (∀ s ls s', (byAdmins env).Run s ls s' → ∀ h house, s.db.house.find? h = some house →
      (∀ l ∈ ls, l.1 ≠ house.adminId) → SameRows h s.db s'.db) :=
  ⟨fun _ _ _ h _ hd => adminQuery_house h hd, fun _ _ _ hl hstep => foreignKept_iff hl hstep A,
    fun _ _ _ hr _ _ hf hls => sameRows_run hr hf hls⟩

/-- Two houses, of administrators 2 and 3. -/
def Sample.two : Sys :=
  { Sample.stored with db := (save Sample.env.cdnPrefix .none 3 0 Sample.form Sample.stored.db).1 }

/-- Administrator 3 tags his house. -/
theorem own_houses_only_sample :
    ForeignKept 3 Sample.two.db (addTag 2 "近地铁" Sample.two.db).1 ∧
      (addTag 2 "近地铁" Sample.two.db).1 ≠ Sample.two.db := by
  refine ⟨((own_houses_only ⟨fun pattern text => pattern = "%" ++ text ++ "%", fun _ _ => some (.stored House)⟩
    Sample.env 3).2.1 Sample.two (.addTag 2 "近地铁") _ trivial rfl).mpr ?_, by decide +kernel⟩
  rintro h ⟨rfl, -⟩ house hf
  have hown : ∀ house ∈ Sample.two.db.house.find? 2, house.adminId = 3 := by decide +kernel
  exact hown house hf

/-- **A foreign house changed.** Administrator 3 publishes the house of
administrator 2. -/
theorem foreign_changed :
    ¬ ∀ (env : Env) (subway : List Subway) (station : List SubwayStation) (address : List SupportAddress)
      (s s' : Sys) (A : Long) (l : Req),
        (system env fun s => s = .fresh subway station address).Reachable s → Targeted l →
        step env s l = some s' → ForeignKept A s.db s'.db := by
  intro hall
  obtain ⟨s, hr, house, hf, hne, hstep⟩ := LTS.exists_reachable
    (fun s => s = .fresh Sample.fresh.db.subway Sample.fresh.db.subwayStation Sample.fresh.db.supportAddress)
    (step Sample.env) (fun _ _ => True)
    (fun s => ∃ house ∈ s.db.house.find? 1, house.adminId ≠ 3 ∧
      ∃ s' ∈ step Sample.env s (.updateStatus 1 1), s'.db.house.find? 1 ≠ some house)
    rfl [.save .none 2 0 Sample.form] (by decide +kernel)
  obtain ⟨s', hstep, hchanged⟩ := hstep
  have hk := hall Sample.env _ _ _ s s' 3 (.updateStatus 1 1) hr.of_restrict trivial hstep
  exact hchanged ((hk 1 house hf hne).house.trans hf)

end Soufang
