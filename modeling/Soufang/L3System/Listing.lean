import Soufang.L2Service.QuerySpec
import Soufang.L3System.System

/-!
# Public listings and the status in the database

`simpleQuery` asks the rows for the status; the searches by keywords and on
the map ask the index and then load the rows without looking at the status
again. What they show is published as long as every document, live or still
visible, belongs to a PASSES house (`Covered`). `UpToDate` names the steps that
keep it so; any other step leaves or puts a document of an unpublished house
in the index, which the map lists (`listing_unpublished`).
-/
namespace Soufang

open HouseService SearchService

def Listing (_ : Sys) : Req → Prop
  | .save _ _ _ _ | .updateStatus _ _ | .handle _ | .refresh => True
  | _ => False

/-- A published house has no document. -/
def Unlisted (s : Sys) (h : Long) : Prop :=
  s.db.statusOf h = some HouseStatus.PASSES.value →
    ∀ d ∈ s.es.docs.rows ++ s.es.searched, d.source.houseId ≠ h

/-- A house leaves PASSES, by a status change or by a save over its row, only
without a document, and an index message stores one only for a PASSES house. -/
def UpToDate (s : Sys) : Req → Prop
  | .save faults _ _ f => faults.house = false → Wrapped s.db f →
      ∀ house ∈ f.id.bind s.db.house.find?, Unlisted s house.id
  | .updateStatus id status => status ≠ HouseStatus.PASSES.value → Unlisted s id
  | .handle c => ∀ m ∈ s.queue.head?, m.operation = .index → Stores c s.db m.houseId →
      s.db.statusOf m.houseId = some HouseStatus.PASSES.value
  | _ => True

instance (s : Sys) : (l : Req) → Decidable (Listing s l)
  | .save _ _ _ _ | .updateStatus _ _ | .handle _ | .refresh => isTrue trivial
  | .update _ _ | .operateHouse _ _ | .removePhoto _ _ | .updateCover _ _ | .addTag _ _ | .removeTag _ _ =>
    isFalse id

instance (s : Sys) (h : Long) : Decidable (Unlisted s h) := by unfold Unlisted; infer_instance

instance (s : Sys) : (l : Req) → Decidable (UpToDate s l)
  | .save faults _ _ f => inferInstanceAs (Decidable (faults.house = false → Wrapped s.db f →
      ∀ house ∈ f.id.bind s.db.house.find?, Unlisted s house.id))
  | .updateStatus id status => inferInstanceAs (Decidable (status ≠ HouseStatus.PASSES.value → Unlisted s id))
  | .handle c => inferInstanceAs (Decidable (∀ m ∈ s.queue.head?, m.operation = .index →
      Stores c s.db m.houseId → s.db.statusOf m.houseId = some HouseStatus.PASSES.value))
  | .update _ _ | .operateHouse _ _ | .removePhoto _ _ | .updateCover _ _ | .addTag _ _ | .removeTag _ _
  | .refresh => isTrue trivial

def listing (env : Env) (subway : List Subway) (station : List SubwayStation)
    (address : List SupportAddress) : LTS Sys Req :=
  (system env fun s => s = .fresh subway station address).restrict Listing

/-- Every house the public searches return has status PASSES. -/
def PublishedOnly (eng : Engine) (env : Env) (s : Sys) : Prop :=
  ∀ (answer : Status) (r : ServiceMultiResult (Option HouseDTO)) (dto : HouseDTO), some dto ∈ r.result →
    ((∃ rs, HouseService.query eng env answer rs s.db s.es = .ok r) ∨
      (∃ ms, wholeMapQuery eng env answer ms s.db s.es = .ok r) ∨
      (∃ ms, boundMapQuery eng env answer ms s.db s.es = .ok r)) →
    s.db.statusOf dto.house.id = some HouseStatus.PASSES.value

/-! ## Documents of published houses -/

def Covered (s : Sys) : Prop :=
  ∀ d ∈ s.es.docs.rows ++ s.es.searched, s.db.statusOf d.source.houseId = some HouseStatus.PASSES.value

theorem visible_subset (env : Env) (es : Es) {d : EsDoc} (hd : d ∈ es.visible env) :
    d ∈ es.docs.rows ++ es.searched := by
  unfold Es.visible at hd
  split at hd
  · exact List.mem_append_right _ hd
  · exact List.mem_append_left _ hd

/-- Changing the status of one house away from PASSES. -/
theorem Covered.change {s s' : Sys} (hc : Covered s) (hes : s'.es = s.es) (id : Long) (status : Int)
    (hst : ∀ h, h ≠ id → s'.db.statusOf h = s.db.statusOf h) (hid : s'.db.statusOf id = some status)
    (hu : status ≠ HouseStatus.PASSES.value → Unlisted s id) : Covered s' := by
  intro d hd
  rw [hes] at hd
  by_cases hh : d.source.houseId = id
  · rw [hh, hid]
    by_cases hp : status = HouseStatus.PASSES.value
    · rw [hp]
    · exact absurd hh (hu hp (hh ▸ hc d hd) d hd)
  · rw [hst _ hh]; exact hc d hd

theorem Covered.save {s : Sys} (hc : Covered s) {cdnPrefix : String} {faults : Faults} {user : Long}
    {now : Date} {f : HouseForm}
    (hu : faults.house = false → Wrapped s.db f →
      ∀ house ∈ f.id.bind s.db.house.find?, Unlisted s house.id) :
    Covered { s with db := (HouseService.save cdnPrefix faults user now f s.db).1 } := by
  rcases save_cases cdnPrefix faults user now f s.db with ⟨he, -⟩ | ⟨detail, id, hs⟩
  · rw [he]; exact hc
  · refine hc.change rfl id HouseStatus.NOT_AUDITED.value (fun h hne => ?_) ?_ fun _ => ?_
    · exact (statusOf_stored hs h).trans (if_neg hne)
    · exact (statusOf_stored hs id).trans (if_pos rfl)
    · rcases saveHouse_cases hs.house with ⟨old, hold, rfl, -⟩ | ⟨-, rfl, -⟩
      · exact hu hs.unrefused ⟨detail, hs.wrapped⟩ old hold
      · intro hp
        simp [Db.statusOf, Table.find?_next] at hp

theorem Covered.updateStatus {s : Sys} (hc : Covered s) {id : Long} {status : Int}
    (hu : status ≠ HouseStatus.PASSES.value → Unlisted s id) :
    Covered (HouseService.updateStatus id status s).1 := by
  rcases updateStatus_cases id status s with ⟨-, he⟩ | ⟨house, hf, -, he⟩
  · rw [he]; exact hc
  · rw [he]
    refine hc.change ?_ id status (fun h hne => ?_) ?_ hu
    · rw [notifySearch_eq, send_es]
    · rw [notifySearch_eq, send_db, statusOf_setStatus, if_neg hne]
    · rw [notifySearch_eq, send_db, statusOf_setStatus, if_pos rfl, statusOf_find hf, Option.map_some]

theorem Covered.handle {env : Env} {c : Calls} {s s' : Sys} (hc : Covered s)
    (hu : ∀ m ∈ s.queue.head?, m.operation = .index → Stores c s.db m.houseId →
      s.db.statusOf m.houseId = some HouseStatus.PASSES.value)
    (h : handleMessage env c s = some s') : Covered s' := by
  obtain ⟨hdb, hse, m, rest, hq, hdocs⟩ := handleMessage_docs h
  intro d hd
  rw [hdb]
  rcases List.mem_append.mp hd with hd | hd
  · rcases hdocs d hd with hd | ⟨hh, ho, hs⟩
    · exact hc d (List.mem_append_left _ hd)
    · rw [hh]; exact hu m (by rw [hq]; rfl) ho hs
  · rw [hse] at hd
    exact hc d (List.mem_append_right _ hd)

theorem covered_step {env : Env} {s s' : Sys} {l : Req} (hc : Covered s) (hl : Listing s l)
    (hu : UpToDate s l) (h : step env s l = some s') : Covered s' := by
  cases l with
  | save faults user now f =>
    simp only [step, Option.some.injEq] at h
    subst h
    exact hc.save hu
  | updateStatus id status =>
    simp only [step, Option.some.injEq] at h
    subst h
    exact hc.updateStatus hu
  | handle c => exact hc.handle hu h
  | refresh =>
    simp only [step, Option.some.injEq] at h
    subst h
    intro d hd
    refine hc d (List.mem_append_left _ ?_)
    rcases List.mem_append.mp hd with hd | hd <;> exact hd
  | _ => exact hl.elim

theorem covered_inductive (env : Env) (subway : List Subway) (station : List SubwayStation)
    (address : List SupportAddress) :
    ((listing env subway station address).restrict UpToDate).Inductive Covered where
  init := by rintro s rfl d hd; cases hd
  step _ _ _ hc h := covered_step hc h.1.2 h.2 h.1.1

/-! ## What the searches return -/

theorem loaded_covered (env : Env) {eng : Engine} {cdnPrefix : String} {s : Sys} (hc : Covered s)
    {x : Except Exn (ServiceMultiResult Long)}
    (hx : ∀ ids, x = .ok ids → ∀ id ∈ ids.result, ∃ d ∈ s.es.visible env, d.source.houseId = id)
    {r : ServiceMultiResult (Option HouseDTO)} (h : loaded eng cdnPrefix s.db x = .ok r) {dto : HouseDTO}
    (hd : some dto ∈ r.result) : s.db.statusOf dto.house.id = some HouseStatus.PASSES.value := by
  obtain ⟨ids, rfl, house, -, hid, he⟩ := loaded_house h hd
  obtain ⟨d, hdv, hh⟩ := hx ids rfl _ hid
  have hp := hc d (visible_subset env s.es hdv)
  rw [hh] at hp
  rw [he]
  exact hp

theorem searched_hit {eng : Engine} {env : Env} {answer : Status} {p : HouseIndexTemplate → Bool}
    {orderBy orderDirection : Option String} {start : Nat} {size : Int} {es : Es} :
    ∀ ids, search eng env answer p orderBy orderDirection start size es = .ok ids →
      ∀ id ∈ ids.result, ∃ d ∈ es.visible env, d.source.houseId = id := by
  intro ids h id hid
  obtain ⟨d, hd, -, hh⟩ := search_hit h hid
  exact ⟨d, hd, hh⟩

theorem Covered.publishedOnly {s : Sys} (hc : Covered s) (eng : Engine) (env : Env) :
    PublishedOnly eng env s := by
  rintro answer r dto hd (⟨rs, h⟩ | ⟨ms, h⟩ | ⟨ms, h⟩)
  · unfold HouseService.query at h
    split at h
    · exact loaded_covered env hc searched_hit h hd
    · obtain ⟨house, hh, hf, he, -⟩ := simpleQuery_house h hd
      rw [statusOf_coverDTO hh he]
      simp only [simpleFilter, Bool.and_eq_true, decide_eq_true_eq] at hf
      rw [hf.1.1]
  · exact loaded_covered env hc searched_hit h hd
  · refine loaded_covered env hc (fun ids hx => ?_) h hd
    unfold mapBoundQuery at hx
    split at hx
    · split at hx
      · cases hx
      · exact searched_hit ids hx
    · cases hx

/-- **Listings without lag.** -/
theorem listing_published (env : Env) (subway : List Subway) (station : List SubwayStation)
    (address : List SupportAddress) (s : Sys)
    (hr : ((listing env subway station address).restrict UpToDate).Reachable s) (eng : Engine) :
    PublishedOnly eng env s :=
  ((covered_inductive env subway station address).reachable hr).publishedOnly eng env

/-- House 1 is published and listed, then taken down while it has no document
yet. -/
theorem listing_published_sample :
    ∃ s : Sys, s.db.statusOf 1 = some HouseStatus.NOT_AUDITED.value ∧
      s.db.statusOf 2 = some HouseStatus.PASSES.value ∧ s.es.docsOf 2 ≠ [] ∧
      PublishedOnly (.insertion fun _ _ => true) Sample.env s := by
  obtain ⟨s, hr, h1, h2, hd⟩ := LTS.exists_reachable
    (fun s => s = .fresh Sample.fresh.db.subway Sample.fresh.db.subwayStation Sample.fresh.db.supportAddress)
    (step Sample.env) (fun s l => Listing s l ∧ UpToDate s l)
    (fun s => s.db.statusOf 1 = some HouseStatus.NOT_AUDITED.value ∧
      s.db.statusOf 2 = some HouseStatus.PASSES.value ∧ s.es.docsOf 2 ≠ [])
    rfl
    [.save .none 2 0 Sample.form, .save .none 2 0 Sample.form, .updateStatus 1 1, .updateStatus 2 1,
      .handle { Calls.success with write := .failed }, .updateStatus 1 0, .handle .success]
    (by decide +kernel)
  exact ⟨s, h1, h2, hd, listing_published Sample.env _ _ _ s hr.restrict_restrict _⟩

/-- **An unpublished house is listed.** House 1 is taken down again; before its
remove message is handled the map of its city still shows it. -/
theorem listing_unpublished :
    ¬ ∀ (env : Env) (subway : List Subway) (station : List SubwayStation) (address : List SupportAddress)
      (s : Sys), (listing env subway station address).Reachable s → ∀ eng, PublishedOnly eng env s := by
  intro hall
  obtain ⟨s, hr, hst, r, hq, dto, hd, hid⟩ := LTS.exists_reachable
    (fun s => s = .fresh Sample.fresh.db.subway Sample.fresh.db.subwayStation Sample.fresh.db.supportAddress)
    (step Sample.env) Listing
    (fun s => s.db.statusOf 1 = some HouseStatus.NOT_AUDITED.value ∧
      ∃ r ∈ (wholeMapQuery (.insertion fun _ _ => true) Sample.env .ok
          ⟨"bj", none, some "desc", none, none, none, none, 0, 5⟩ s.db s.es).toOption,
        ∃ dto ∈ r.result.reduceOption, dto.house.id = 1)
    rfl
    [.save .none 2 0 Sample.form, .updateStatus 1 1, .handle .success, .updateStatus 1 0]
    (by decide +kernel)
  have hok : wholeMapQuery (.insertion fun _ _ => true) Sample.env .ok
      ⟨"bj", none, some "desc", none, none, none, none, 0, 5⟩ s.db s.es = .ok r := by
    revert hq
    generalize wholeMapQuery _ _ _ _ _ _ = x
    cases x with
    | error e => intro h; cases h
    | ok r' => intro h; cases h; rfl
  have hp := hall Sample.env _ _ _ s hr (.insertion fun _ _ => true) .ok r dto
    (List.reduceOption_mem_iff.mp hd) (Or.inr (Or.inl ⟨_, hok⟩))
  rw [hid, hst] at hp
  exact absurd hp (by decide)

end Soufang
