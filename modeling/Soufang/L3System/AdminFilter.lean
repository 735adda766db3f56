import Soufang.Core.Calendar
import Soufang.Core.Like
import Soufang.L3System.PageWindow

/-!
# The filter of the admin list

The list takes a city, a status, two days and a text, all optional. The days
are bound to their midnights and compared with the time of creation; the text
is put between two `%` and given to LIKE.

* `AdminSearch.Wants`: the houses that are asked for.
* `listed_iff`: what the pages of a search list together.
* `admin_filter_iff`: they list the houses asked for exactly when no row
  falls into one of the two gaps of `FilterExact`.
-/
namespace Soufang

open HouseService

/-- A search as it is typed in: days for the two dates. -/
structure AdminSearch where
  form : DatatableSearch
  createDayMin : Option Int
  createDayMax : Option Int

/-- A LIKE that compares characters exactly. -/
def HouseService.AdminEngine.ofRows (rows : String → Direction → Option (Arrangement House)) : AdminEngine :=
  ⟨Like.like, rows⟩

namespace AdminSearch

variable (cal : Calendar Date) (user : Long) (s : AdminSearch)

/-- The dates of the form are the midnights of the days.
mirrors soufang/src/main/java/com/wf/web/form/DatatableSearch.java:24-27 -/
def bound : DatatableSearch :=
  { s.form with createTimeMin := s.createDayMin.map cal.midnight, createTimeMax := s.createDayMax.map cal.midnight }

/-- The conditions of a search, but for the last day and the title. -/
structure Meets (h : House) : Prop where
  admin : h.adminId = user
  kept : h.status ≠ HouseStatus.DELETED.value
  city : ∀ city ∈ s.form.city, h.cityEnName = city
  status : ∀ status ∈ s.form.status, h.status = status
  first : ∀ day ∈ s.createDayMin, cal.midnight day ≤ h.createTime

/-- The houses a search asks for. -/
structure Wants (h : House) : Prop where
  admin : h.adminId = user
  kept : h.status ≠ HouseStatus.DELETED.value
  city : ∀ city ∈ s.form.city, h.cityEnName = city
  status : ∀ status ∈ s.form.status, h.status = status
  created : ∃ day, cal.OnDay day h.createTime ∧ (∀ first ∈ s.createDayMin, first ≤ day) ∧
    ∀ last ∈ s.createDayMax, day ≤ last
  title : ∀ text ∈ s.form.title, text.toList <:+: h.title.toList

/-- The house is created by the midnight the last day begins with. -/
def ByMidnight (h : House) : Prop := ∀ day ∈ s.createDayMax, h.createTime ≤ cal.midnight day

/-- The house is created before the last day ends. -/
def ByEnd (h : House) : Prop := ∀ day ∈ s.createDayMax, h.createTime < cal.midnight (day + 1)

/-- The pages exist and can be sorted as asked. -/
def Runs (eng : AdminEngine) : Prop :=
  1 ≤ s.form.length ∧ ∃ d property, newSort s.form.direction s.form.orderBy = .ok (d, property) ∧
    (eng.rows property d).isSome

/-- For each house that meets the other conditions: if it is created after the
midnight of the last day but on that day, its title lacks the text; if by
midnight, the text is plain or LIKE finds it just where it stands. A search
that cannot run asks for no house. -/
def FilterExact (eng : AdminEngine) (db : Db) : Prop :=
  (s.Runs eng → ∀ h ∈ db.house.rows, s.Meets cal user h →
    (¬ s.ByMidnight cal h → s.ByEnd cal h → ∃ text ∈ s.form.title, ¬ text.toList <:+: h.title.toList) ∧
    (s.ByMidnight cal h → ∀ text ∈ s.form.title, Like.Plain text ∨
      (Like.like ("%" ++ text ++ "%") h.title = true ↔ text.toList <:+: h.title.toList))) ∧
  (¬ s.Runs eng → ∀ h ∈ db.house.rows, ¬ s.Wants cal user h)

end AdminSearch

/-! ## The pages -/

/-- Some page of the search lists the house of this id. -/
def Listed (eng : AdminEngine) (cdnPrefix : String) (user : Long) (q : DatatableSearch) (db : Db) (id : Long) : Prop :=
  ∃ (start : Int) (r : ServiceMultiResult HouseDTO),
    adminQuery eng cdnPrefix user { q with start := start } db = .ok r ∧ ∃ dto ∈ r.result, dto.house.id = id

/-- An element at `i` is on page `i / k`. -/
theorem Paging.mem_window_of_lt {α : Type} {k : Nat} (hk : 0 < k) {l : List α} {a : α} (h : a ∈ l) :
    ∃ page, a ∈ window (page * k) k l := by
  obtain ⟨i, hi, rfl⟩ := List.getElem_of_mem h
  refine ⟨i / k, List.mem_of_getElem? (i := i % k) ?_⟩
  rw [Paging.window_getElem? (Nat.mod_lt i hk), Nat.div_add_mod' i k]
  exact List.getElem?_eq_getElem hi

/-- **All pages.** A search that runs lists the rows that pass the filter. -/
theorem listed_iff {eng : AdminEngine} {cdnPrefix : String} {user : Long} {q : DatatableSearch} {db : Db} {id : Long} :
    Listed eng cdnPrefix user q db id ↔
      (1 ≤ q.length ∧ ∃ d property, newSort q.direction q.orderBy = .ok (d, property) ∧
        (eng.rows property d).isSome) ∧ ∃ h ∈ db.house.rows, adminFilter eng user q h = true ∧ h.id = id := by
  constructor
  · intro h
    obtain ⟨start, r, hr, dto, hd, hid⟩ := h
    obtain ⟨d, property, order, hsort, hrows, hlen, -, rfl⟩ := adminQuery_ok_iff.mp hr
    obtain ⟨house, hh, rfl⟩ := List.mem_map.mp hd
    obtain ⟨hh, hf⟩ := List.mem_filter.mp ((Arrangement.mem_arrange ..).mp (mem_of_mem_window hh))
    exact ⟨⟨hlen, d, property, hsort, by simp [hrows]⟩, house, hh, hf, hid⟩
  · intro h
    obtain ⟨⟨hlen, d, property, hsort, hrows⟩, house, hh, hf, hid⟩ := h
    obtain ⟨order, hrows⟩ := Option.isSome_iff_exists.mp hrows
    have hmem : house ∈ order.arrange (db.house.rows.filter (adminFilter eng user q)) :=
      (Arrangement.mem_arrange ..).mpr (List.mem_filter.mpr ⟨hh, hf⟩)
    obtain ⟨page, hpage⟩ := Paging.mem_window_of_lt (show 0 < q.length.toNat by omega) hmem
    have hdiv : ((page : Int) * q.length).tdiv q.length = page := Int.mul_tdiv_cancel _ (by omega)
    refine ⟨page * q.length, _, adminQuery_ok_iff.mpr ⟨d, property, order, hsort, hrows, hlen, ?_, rfl⟩,
      ⟨coverDTO cdnPrefix house, none, [], []⟩, List.mem_map_of_mem ?_, hid⟩
    · simp only [hdiv]
      omega
    · simp only [hdiv, Int.toNat_natCast]
      exact hpage

/-! ## The filter -/

namespace AdminSearch

variable {cal : Calendar Date} {user : Long} {s : AdminSearch} {h : House}

theorem adminFilter_iff {rows : String → Direction → Option (Arrangement House)} :
    adminFilter (.ofRows rows) user (s.bound cal) h = true ↔
      s.Meets cal user h ∧ s.ByMidnight cal h ∧ ∀ text ∈ s.form.title, Like.like ("%" ++ text ++ "%") h.title = true := by
  simp only [adminFilter, AdminEngine.ofRows, bound, Bool.and_eq_true, decide_eq_true_eq, Option.all_eq_true,
    Option.all_map, ByMidnight]
  constructor
  · intro h
    obtain ⟨⟨⟨⟨⟨⟨hadmin, hkept⟩, hcity⟩, hstatus⟩, hmin⟩, hmax⟩, htitle⟩ := h
    exact ⟨⟨hadmin, hkept, hcity, hstatus, hmin⟩, hmax, htitle⟩
  · intro h
    obtain ⟨⟨hadmin, hkept, hcity, hstatus, hmin⟩, hmax, htitle⟩ := h
    exact ⟨⟨⟨⟨⟨⟨hadmin, hkept⟩, hcity⟩, hstatus⟩, hmin⟩, hmax⟩, htitle⟩

theorem wants_iff : s.Wants cal user h ↔
    s.Meets cal user h ∧ s.ByEnd cal h ∧ ∀ text ∈ s.form.title, text.toList <:+: h.title.toList := by
  constructor
  · intro hw
    obtain ⟨hmin, hmax⟩ := (cal.between_iff ..).mp hw.created
    exact ⟨⟨hw.admin, hw.kept, hw.city, hw.status, hmin⟩, hmax, hw.title⟩
  · intro hw
    obtain ⟨hm, hmax, htitle⟩ := hw
    exact ⟨hm.admin, hm.kept, hm.city, hm.status, (cal.between_iff ..).mpr ⟨hm.first, hmax⟩, htitle⟩

theorem ByMidnight.byEnd (hb : s.ByMidnight cal h) : s.ByEnd cal h := by
  intro day hd
  exact (hb day hd).trans_lt (cal.mono (by omega))

/-- Where the filter and the wish part, for a house with the other conditions. -/
theorem row_iff {rows : String → Direction → Option (Arrangement House)} (hm : s.Meets cal user h) :
    (adminFilter (.ofRows rows) user (s.bound cal) h = true ↔ s.Wants cal user h) ↔
      (¬ s.ByMidnight cal h → s.ByEnd cal h → ∃ text ∈ s.form.title, ¬ text.toList <:+: h.title.toList) ∧
      (s.ByMidnight cal h → ∀ text ∈ s.form.title, Like.Plain text ∨
        (Like.like ("%" ++ text ++ "%") h.title = true ↔ text.toList <:+: h.title.toList)) := by
  rw [adminFilter_iff, wants_iff]
  by_cases hb : s.ByMidnight cal h
  · simp only [hm, hb, hb.byEnd, not_true, true_and, false_implies, true_implies]
    cases s.form.title with
    | none => simp
    | some text =>
      simp only [Option.mem_def, Option.some.injEq, forall_eq']
      constructor
      · exact Or.inr
      · intro h
        rcases h with hplain | hlike
        · exact Like.like_contains hplain _
        · exact hlike
  · simp only [hm, hb, not_false_eq_true, true_and, false_and, false_implies, true_implies, false_iff, and_true,
      not_and, not_forall, exists_prop]

/-- **The admin list.** Over all its pages a search lists the houses it asks
for and no others, exactly when it is `FilterExact` on the stored rows. -/
theorem admin_filter_iff (rows : String → Direction → Option (Arrangement House)) (cdnPrefix : String)
    (cal : Calendar Date) (user : Long) (s : AdminSearch) (db : Db) :
    (∀ id, Listed (.ofRows rows) cdnPrefix user (s.bound cal) db id ↔
      ∃ h ∈ db.house.rows, s.Wants cal user h ∧ h.id = id) ↔ s.FilterExact cal user (.ofRows rows) db := by
  have hruns (id : Long) : Listed (.ofRows rows) cdnPrefix user (s.bound cal) db id ↔
      s.Runs (.ofRows rows) ∧ ∃ h ∈ db.house.rows, adminFilter (.ofRows rows) user (s.bound cal) h = true ∧ h.id = id :=
    listed_iff
  have hids {p q : House → Prop} : (∀ id, (∃ h ∈ db.house.rows, p h ∧ h.id = id) ↔
      ∃ h ∈ db.house.rows, q h ∧ h.id = id) ↔ ∀ h ∈ db.house.rows, (p h ↔ q h) := Table.forall_id_iff
  simp only [hruns]
  by_cases hr : s.Runs (.ofRows rows)
  · simp only [hr, true_and, FilterExact, not_true, false_implies, true_implies, and_true, hids]
    refine forall₂_congr fun h hh => ?_
    by_cases hm : s.Meets cal user h
    · simp only [hm, true_implies]
      exact row_iff hm
    · refine iff_of_true ?_ (absurd · hm)
      rw [adminFilter_iff, wants_iff]
      simp [hm]
  · simp only [hr, false_and, false_iff, FilterExact, false_implies, true_and, not_false_eq_true, true_implies]
    constructor
    · intro hnone h hh hw
      exact hnone h.id ⟨h, hh, hw, rfl⟩
    · intro hnone id hex
      obtain ⟨h, hh, hw, -⟩ := hex
      exact hnone h hh hw

/-- The sample form, stored by user 2 at noon of day 0. -/
def sampleDb : Db := (save "cdn/" .none 2 43200000 Sample.form Sample.fresh.db).1

/-- Ten houses, the last ones first, created up to day 0. -/
def upToDayZero : AdminSearch :=
  ⟨⟨0, 10, none, none, none, none, none, some "desc", some "createTime"⟩, none, some 0⟩

/-- **The last day.** The house of noon is created on the last day and is not
listed. -/
theorem last_day_missed :
    ¬ ∀ (rows : String → Direction → Option (Arrangement House)) (cdnPrefix : String) (cal : Calendar Date)
      (user : Long) (s : AdminSearch) (db : Db) (id : Long),
      Listed (.ofRows rows) cdnPrefix user (s.bound cal) db id ↔
        ∃ h ∈ db.house.rows, s.Wants cal user h ∧ h.id = id := by
  intro hall
  let rows : String → Direction → Option (Arrangement House) := fun property d =>
    if property = "createTime" then some (SortedArrangement.insertion House.createTime d.le).toArrangement else none
  have hstored : ∃ h ∈ sampleDb.house.rows, h.id = 1 ∧ h.adminId = 2 ∧ h.status = 0 ∧ h.createTime = 43200000 := by
    decide +kernel
  obtain ⟨h, hh, hid, hadmin, hstatus, htime⟩ := hstored
  have hwants : upToDayZero.Wants (.ofLength 86400000 (by decide)) 2 h := by
    refine wants_iff.mpr ⟨⟨hadmin, ?_, ?_, ?_, ?_⟩, ?_, ?_⟩
    · rw [hstatus]
      decide
    · exact fun city hc => absurd hc (by simp [upToDayZero])
    · exact fun status hs => absurd hs (by simp [upToDayZero])
    · exact fun day hd => absurd hd (by simp [upToDayZero])
    · intro day hd
      obtain rfl : 0 = day := by simpa [upToDayZero] using hd
      rw [htime]
      decide
    · exact fun text ht => absurd ht (by simp [upToDayZero])
  obtain ⟨-, h', hh', hf, -⟩ := listed_iff.mp ((hall rows "cdn/" _ 2 upToDayZero sampleDb 1).mpr ⟨h, hh, hwants, hid⟩)
  have hnone : ∀ h ∈ sampleDb.house.rows,
      h.createTime ≤ (Calendar.ofLength 86400000 (by decide)).midnight 0 → False := by
    decide +kernel
  exact hnone h' hh' ((adminFilter_iff.mp hf).2.1 0 rfl)

end AdminSearch

end Soufang
