import Soufang.L3System.Orderly

/-!
# Publishing converges when nothing fails

Houses are added, operated on one call at a time, and the queue is handled
with calls that succeed (`protocol`).

* `final_kept`, `operateHouse_frame`: a RENTED or DELETED house keeps its
  status; a refused call changes nothing, an accepted one one status.
* `drain`: handling alone empties the queue, since a message that is sent
  again has a higher retry value (`load`).
* `Complete`: every house has its detail and address rows, so an index message
  never ends without a document.
-/
namespace Soufang

open HouseService SearchService

/-- The city and the region of the form have one address row each. -/
def Resolvable (db : Db) (f : HouseForm) : Prop := (addressOf db (mapForm f newHouse)).isSome

instance (db : Db) (f : HouseForm) : Decidable (Resolvable db f) :=
  inferInstanceAs (Decidable ((addressOf db (mapForm f newHouse)).isSome = true))

/-- Steps in which nothing fails. -/
def Smooth (s : Sys) : Req → Prop
  | .save faults _ _ f => faults = .none ∧ f.id = none ∧ Resolvable s.db f
  | .operateHouse _ _ => True
  | .handle c => c = .success
  | _ => False

instance (s : Sys) : (l : Req) → Decidable (Smooth s l)
  | .save faults _ _ f => inferInstanceAs (Decidable (faults = .none ∧ f.id = none ∧ Resolvable s.db f))
  | .operateHouse _ _ => isTrue trivial
  | .handle c => inferInstanceAs (Decidable (c = .success))
  | .updateStatus _ _ | .update _ _ | .removePhoto _ _ | .updateCover _ _ | .addTag _ _ | .removeTag _ _
  | .refresh => isFalse id

def protocol (env : Env) (subway : List Subway) (station : List SubwayStation)
    (address : List SupportAddress) : LTS Sys Req :=
  (system env fun s => s = .fresh subway station address).restrict Smooth

/-! ## Complete houses -/

structure Complete (db : Db) : Prop where
  details : DetailsBelow db
  rows : ∀ h, db.statusOf h ≠ none → Indexable db h

theorem complete_empty (subway : List Subway) (station : List SubwayStation)
    (address : List SupportAddress) : Complete (.empty subway station address) :=
  ⟨fun d hd => by simp [Db.empty, Table.empty] at hd, fun h hs => by simp [Db.empty, Db.statusOf] at hs⟩

theorem complete_save {cdnPrefix : String} {user : Long} {now : Date} {f : HouseForm} {db : Db}
    (hc : Complete db) (hid : f.id = none) (hr : Resolvable db f) :
    Complete (save cdnPrefix .none user now f db).1 := by
  rcases save_cases cdnPrefix .none user now f db with ⟨he, -⟩ | ⟨detail, id, hst⟩
  · rw [he]; exact hc
  · have hbelow := hc.details.save cdnPrefix .none user now f
    generalize (save cdnPrefix .none user now f db).1 = db' at hst hbelow
    have hbind : f.id.bind db.house.find? = none := by rw [hid]; rfl
    have hstatus := fun h => (statusOf_save hbind hst h).2
    obtain ⟨rfl⟩ := (statusOf_save hbind hst 0).1
    obtain ⟨-, hins⟩ : _ ∧ db.house.insert? (savedHouse user now f) = some db'.house := by
      rcases saveHouse_cases hst.house with ⟨old, hf, -, -⟩ | ⟨-, he, hi⟩
      · rw [hbind] at hf; cases hf
      · exact ⟨he, hi⟩
    have hdetail := hst.detail_of_new rfl hc.details.next
    refine ⟨hbelow, fun h hs => ?_⟩
    · by_cases hh : h = db.house.next
      · subst hh
        obtain ⟨p, hp⟩ := Option.isSome_iff_exists.mp hr
        refine ⟨_, _, p.1, p.2, by rw [Table.find?_insert? hins, if_pos rfl],
          by rw [findDetail_insert hdetail, hc.details.next, if_pos rfl]; rfl, ?_⟩
        exact (addressOf_congr hst.address rfl rfl).trans hp
      · rw [hstatus, if_neg hh] at hs
        obtain ⟨house, d, city, region, hf, hd, ha⟩ := hc.rows h hs
        refine ⟨house, d, city, region, by rw [Table.find?_insert? hins, if_neg hh]; exact hf,
          by rw [findDetail_insert hdetail, hd]; rfl, ?_⟩
        exact (addressOf_congr hst.address rfl rfl).trans ha

theorem complete_setStatus {db : Db} (hc : Complete db) (id : Long) (status : Int) :
    Complete (setStatus id status db) := by
  refine ⟨hc.details, fun h hs => ?_⟩
  have hs' : db.statusOf h ≠ none := by
    intro hn
    refine hs ?_
    rw [statusOf_setStatus]
    split
    · rename_i hh; subst hh; rw [hn]; rfl
    · exact hn
  obtain ⟨house, d, city, region, hf, hd, ha⟩ := hc.rows h hs'
  by_cases hh : h = id
  · subst hh
    refine ⟨{ house with status := status }, d, city, region, ?_, hd, ?_⟩
    · simp only [setStatus, find?_rewriteHouse, if_pos, hf, Option.map_some]
    · exact (addressOf_congr rfl rfl rfl).trans ha
  · refine ⟨house, d, city, region, ?_, hd, ?_⟩
    · simp only [setStatus, find?_rewriteHouse, if_neg hh, hf]
    · exact (addressOf_congr rfl rfl rfl).trans ha

theorem complete_operateHouse {s : Sys} (hc : Complete s.db) (id op : Int) :
    Complete (AdminController.operateHouse id op s).1.db := by
  rcases operateHouse_cases id op s with he | ⟨o, -, he⟩
  · rw [he]; exact hc
  · rw [he]
    rcases updateStatus_cases id o.status.value s with ⟨-, he⟩ | ⟨house, -, -, he⟩
    · rw [he]; exact hc
    · rw [he, notifySearch_eq, send_db]
      exact complete_setStatus hc id _

/-! ## The invariant -/

structure Converging (s : Sys) : Prop where
  orderly : Orderly s
  complete : Complete s.db

theorem Converging.indexable {s : Sys} (hs : Converging s) {m : HouseIndexMessage} (hm : m ∈ s.queue) :
    Indexable s.db m.houseId := by
  obtain ⟨v, hv, -⟩ := hs.orderly.stored_of_message hm
  exact hs.complete.rows _ (by rw [hv]; exact Option.some_ne_none _)

theorem Converging.handle {env : Env} (hn : env.nrt = false) {s s' : Sys} (hs : Converging s)
    (h : handleMessage env Calls.success s = some s') : Converging s' := by
  refine ⟨hs.orderly.handle hn (fun m hm _ => hs.indexable (List.mem_of_mem_head? hm)) h, ?_⟩
  obtain ⟨m, rest, es, lbs, again, hh⟩ := handleMessage_handled hn h
  rw [hh.ran.db_eq]
  exact hs.complete

theorem converging_step {env : Env} (hn : env.nrt = false) {s s' : Sys} {l : Req} (hs : Converging s)
    (hl : Smooth s l) (h : step env s l = some s') : Converging s' := by
  cases l with
  | save faults user now f =>
    obtain ⟨rfl, hid, hr⟩ := hl
    simp only [step, Option.some.injEq] at h
    subst h
    exact ⟨hs.orderly.save (by rw [hid]; rfl), complete_save hs.complete hid hr⟩
  | operateHouse id op =>
    simp only [step, Option.some.injEq] at h
    subst h
    exact ⟨hs.orderly.operateHouse id op, complete_operateHouse hs.complete id op⟩
  | handle c =>
    cases hl
    exact hs.handle hn h
  | _ => exact hl.elim

theorem converging_inductive {env : Env} (hn : env.nrt = false) (subway : List Subway)
    (station : List SubwayStation) (address : List SupportAddress) :
    (protocol env subway station address).Inductive Converging where
  init := by
    rintro s rfl
    exact ⟨.fresh subway station address, complete_empty subway station address⟩
  step _ _ _ hs h := converging_step hn hs h.2 h.1

/-! ## Handling alone empties the queue -/

theorem drain {env : Env} (hn : env.nrt = false) (subway : List Subway) (station : List SubwayStation)
    (address : List SupportAddress) {s : Sys} (hs : Converging s) :
    ∃ k s', k ≤ load s ∧
      (protocol env subway station address).Run s (List.replicate k (.handle .success)) s' ∧ s'.queue = [] := by
  obtain ⟨k, s', hk, hr, -, hq⟩ := LTS.exists_run_of_measure
    (M := protocol env subway station address) (P := Converging) (D := fun s => s.queue = []) load
    (fun _ => .handle .success) (fun _ s hs hne => by
      obtain ⟨s', h⟩ := handleMessage_enabled env .success hne
      exact ⟨s', ⟨h, rfl⟩, hs.handle hn h, load_handle hs.orderly.retries h⟩)
    (load s) 0 s hs (Nat.le_refl _)
  rw [List.map_const', List.length_range'] at hr
  exact ⟨k, s', hk, hr, hq⟩

/-! ## Statuses -/

theorem final_kept_updateStatus {s : Sys} {h : Long} {st : Int}
    (hs : s.db.statusOf h = some st) (hf : st = HouseStatus.RENTED.value ∨ st = HouseStatus.DELETED.value)
    (id : Long) (status : Int) : (updateStatus id status s).1.db.statusOf h = some st := by
  rcases updateStatus_cases id status s with ⟨-, he⟩ | ⟨house, hfind, hr, he⟩
  · rw [he]; exact hs
  · rw [he, notifySearch_eq, send_db, statusOf_setStatus]
    obtain ⟨-, hnr, hnd⟩ := statusRefusal_none hr
    split
    · rename_i hh
      subst hh
      rw [statusOf_find hfind, Option.some.injEq] at hs
      rcases hf with rfl | rfl
      · exact absurd hs hnr
      · exact absurd hs hnd
    · exact hs

theorem final_kept {env : Env} (hn : env.nrt = false) {s s' : Sys} {l : Req} (hl : Smooth s l)
    (h : step env s l = some s') {i : Long} {st : Int}
    (hf : st = HouseStatus.RENTED.value ∨ st = HouseStatus.DELETED.value)
    (hs : s.db.statusOf i = some st) : s'.db.statusOf i = some st := by
  cases l with
  | save faults user now f =>
    obtain ⟨-, hid, -⟩ := hl
    simp only [step, Option.some.injEq] at h
    subst h
    rcases save_cases env.cdnPrefix faults user now f s.db with ⟨he, -⟩ | ⟨detail, id, hst⟩
    · rw [he]; exact hs
    · rw [(statusOf_save (by rw [hid]; rfl) hst i).2, if_neg]
      · exact hs
      · rintro rfl
        simp [Db.statusOf, Table.find?_next] at hs
  | operateHouse id op =>
    simp only [step, Option.some.injEq] at h
    subst h
    rcases operateHouse_cases id op s with he | ⟨o, -, he⟩
    · rw [he]; exact hs
    · rw [he]; exact final_kept_updateStatus hs hf id _
  | handle c =>
    obtain ⟨m, rest, es, lbs, again, hh⟩ := handleMessage_handled hn h
    rw [hh.ran.db_eq]; exact hs
  | _ => exact hl.elim

/-- The answer 200 means one status was written, any other that nothing was. -/
theorem operateHouse_frame (id op : Int) (s : Sys) :
    ((AdminController.operateHouse id op s).2.code ≠ 200 → (AdminController.operateHouse id op s).1 = s) ∧
      ((AdminController.operateHouse id op s).2.code = 200 →
        ∃ v : HouseStatus, (AdminController.operateHouse id op s).1.db = setStatus id v.value s.db) := by
  unfold AdminController.operateHouse
  split
  · simp
  · cases ho : HouseOperation.ofCode op with
    | none => simp
    | some o =>
      dsimp only
      rcases updateStatus_cases id o.status.value s with ⟨hr, he⟩ | ⟨house, -, -, he⟩
      · cases hu : HouseService.updateStatus id o.status.value s with
        | mk s' r =>
          rw [hu] at hr he
          simp_all
      · rw [he]
        refine ⟨fun h => absurd rfl h, fun _ => ⟨o.status, ?_⟩⟩
        rw [notifySearch_eq, send_db]

end Soufang
