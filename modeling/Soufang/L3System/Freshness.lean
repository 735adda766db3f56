import Soufang.L3System.Orderly

/-!
# Index documents and the current rows

The document of a house copies its house, detail, tag and address rows. Only
a status change sends an index message: `save`, `update`, `addTag` and
`removeTag` do not, so an edit of a published house reaches the index with the
next status change, if any (`freshness_lost`). `Fresh` holds over the runs
whose edits find the house unpublished or its index message still in the queue
(`Reindexed`).
-/
namespace Soufang

open HouseService SearchService

/-- Edits, status changes and handler runs whose calls succeed. -/
def Editing (_ : Sys) : Req → Prop
  | .save _ _ _ _ | .update _ _ | .addTag _ _ | .removeTag _ _ => True
  | .updateStatus _ status => ∃ v : HouseStatus, status = v.value
  | .handle c => c = .success
  | _ => False

/-- A published house has an index message in the queue. -/
def Awaited (s : Sys) (h : Long) : Prop :=
  s.db.statusOf h = some HouseStatus.PASSES.value →
    ∃ m ∈ s.queue, m.houseId = h ∧ m.operation = .index

/-- An edit that is not refused finds its house `Awaited`; a save names no
stored house, and an index message finds its rows. -/
def Reindexed (s : Sys) : Req → Prop
  | .save _ _ _ f => f.id.bind s.db.house.find? = none
  | .update _ f => ∀ house detail, updateLoad s.db f = .ok (.ok (house, detail)) → Awaited s house.id
  | .addTag h t => s.db.findTagByNameAndHouseId t h = none → Awaited s h
  | .removeTag h t => s.db.findTagByNameAndHouseId t h ≠ none → Awaited s h
  | .handle _ => ∀ m ∈ s.queue.head?, m.operation = .index → Indexable s.db m.houseId
  | _ => True

instance (s : Sys) : (l : Req) → Decidable (Editing s l)
  | .save _ _ _ _ | .update _ _ | .addTag _ _ | .removeTag _ _ => isTrue trivial
  | .updateStatus _ status =>
    decidable_of_iff (∃ v ∈ [HouseStatus.NOT_AUDITED, .PASSES, .RENTED, .DELETED], status = v.value) <| by
      constructor
      · rintro ⟨v, -, h⟩; exact ⟨v, h⟩
      · rintro ⟨v, h⟩; exact ⟨v, by cases v <;> simp, h⟩
  | .handle c => inferInstanceAs (Decidable (c = .success))
  | .operateHouse _ _ | .removePhoto _ _ | .updateCover _ _ | .refresh => isFalse id

instance (s : Sys) (h : Long) : Decidable (Awaited s h) :=
  inferInstanceAs (Decidable (_ → ∃ m ∈ s.queue, _))

instance (s : Sys) : (l : Req) → Decidable (Reindexed s l)
  | .save _ _ _ f => inferInstanceAs (Decidable (f.id.bind s.db.house.find? = none))
  | .update _ f =>
    match h : updateLoad s.db f with
    | .ok (.ok (house, detail)) =>
      decidable_of_iff (Awaited s house.id) <| by
        simp only [Reindexed, h, Except.ok.injEq, Prod.mk.injEq, and_imp]
        exact ⟨fun hm _ _ hh _ => hh ▸ hm, fun hm => hm house detail rfl rfl⟩
    | .ok (.error _) => isTrue fun _ _ he => by rw [h] at he; cases he
    | .error _ => isTrue fun _ _ he => by rw [h] at he; cases he
  | .addTag h t => inferInstanceAs (Decidable (s.db.findTagByNameAndHouseId t h = none → Awaited s h))
  | .removeTag h t => inferInstanceAs (Decidable (s.db.findTagByNameAndHouseId t h ≠ none → Awaited s h))
  | .handle _ =>
    inferInstanceAs (Decidable (∀ m ∈ s.queue.head?, m.operation = .index → Indexable s.db m.houseId))
  | .updateStatus _ _ | .operateHouse _ _ | .removePhoto _ _ | .updateCover _ _ | .refresh => isTrue trivial

def editing (env : Env) (subway : List Subway) (station : List SubwayStation)
    (address : List SupportAddress) : LTS Sys Req :=
  (system env fun s => s = .fresh subway station address).restrict Editing

/-! ## What a template depends on -/

theorem HouseService.SameRows.template {h : Long} {db db' : Db} (hs : SameRows h db db') (env : Env) :
    currentTemplate env db' h = currentTemplate env db h := by
  unfold currentTemplate
  rw [hs.house, hs.detail, hs.tags]
  cases db.house.find? h with
  | none => rfl
  | some house =>
    cases db.findDetailByHouseId h with
    | none => rfl
    | some detail =>
      dsimp only
      rw [addressOf_congr hs.address rfl rfl]

/-- A template does not copy the status. -/
theorem template_setStatus (env : Env) (id : Long) (status : Int) (db : Db) (h : Long) :
    currentTemplate env (setStatus id status db) h = currentTemplate env db h := by
  have hd : (setStatus id status db).findDetailByHouseId h = db.findDetailByHouseId h := rfl
  have ht : (setStatus id status db).findAllTagsByHouseId h = db.findAllTagsByHouseId h := rfl
  unfold currentTemplate
  rw [hd, ht]
  simp only [setStatus, find?_rewriteHouse]
  by_cases hh : h = id
  · subst hh
    cases hf : db.house.find? h with
    | none => simp
    | some house =>
      simp only [if_pos, Option.map_some]
      cases db.findDetailByHouseId h with
      | none => rfl
      | some detail => rfl
  · rw [if_neg hh]
    cases hf : db.house.find? h with
    | none => rfl
    | some house => rfl

/-! ## The invariant -/

/-- A published house without pending messages has its current document. -/
def Fresh (env : Env) (s : Sys) : Prop :=
  ∀ h, s.db.statusOf h = some HouseStatus.PASSES.value → s.messagesOf h = [] →
    ∃ d, s.es.docsOf h = [d] ∧ some d.source = currentTemplate env s.db h

/-- A step that keeps the rows of each published house without pending
messages keeps its document current. -/
theorem Fresh.edit {env : Env} {s s' : Sys} (hs : Fresh env s)
    (hdb : ∀ h, s'.db.statusOf h = s.db.statusOf h) (hes : s'.es = s.es) (hq : s'.queue = s.queue)
    (hrows : ∀ h, s.db.statusOf h = some HouseStatus.PASSES.value → s.messagesOf h = [] →
      SameRows h s.db s'.db) : Fresh env s' := by
  intro h hp hm
  rw [hdb] at hp
  have hm' : s.messagesOf h = [] := by
    rw [← hm]; simp [Sys.messagesOf, hq]
  obtain ⟨d, hd, hsrc⟩ := hs h hp hm'
  exact ⟨d, by rw [hes]; exact hd, by rw [hsrc, (hrows h hp hm').template]⟩

theorem Awaited.messagesOf {s : Sys} {h : Long} (ha : Awaited s h)
    (hp : s.db.statusOf h = some HouseStatus.PASSES.value) : s.messagesOf h ≠ [] := by
  obtain ⟨m, hm, hh, -⟩ := ha hp
  exact List.ne_nil_of_mem (List.mem_filter.mpr ⟨hm, by simpa using hh⟩)

/-- A new house is not published, and the rows of the others stay. -/
theorem Fresh.save {env : Env} {s : Sys} {cdnPrefix : String} {faults : Faults} {user : Long} {now : Date}
    {f : HouseForm} (hs : Fresh env s) (hid : f.id.bind s.db.house.find? = none) :
    Fresh env { s with db := (HouseService.save cdnPrefix faults user now f s.db).1 } := by
  intro h hp hm
  have hne : h ≠ s.db.house.next := by
    rintro rfl
    rcases save_cases cdnPrefix faults user now f s.db with ⟨he, -⟩ | ⟨detail, id, hst⟩
    · rw [he] at hp
      simp [Db.statusOf, Table.find?_next] at hp
    · rw [(statusOf_save hid hst _).2, if_pos rfl] at hp
      exact absurd hp (by decide)
  have hsame := sameRows_save cdnPrefix faults user now hid hne
  have hp' : s.db.statusOf h = some HouseStatus.PASSES.value := by
    rw [← hp]
    simp only [Db.statusOf, hsame.house]
  obtain ⟨d, hd, hsrc⟩ := hs h hp' hm
  exact ⟨d, hd, by rw [hsame.template]; exact hsrc⟩

theorem Fresh.updateStatus {env : Env} {s : Sys} (hs : Fresh env s) (id : Long) (status : Int) :
    Fresh env (HouseService.updateStatus id status s).1 := by
  rcases updateStatus_cases id status s with ⟨-, he⟩ | ⟨house, hf, -, he⟩
  · rw [he]; exact hs
  · rw [he]
    intro h hp hm
    by_cases hh : h = id
    · subst hh
      rw [notifySearch_eq, send_messagesOf _ (show (0 : Int) ≤ MAX_RETRY by decide)] at hm
      simp at hm
    · rw [notifySearch_eq] at hp hm ⊢
      rw [send_messagesOf_other _ hh] at hm
      simp only [send_db, send_es] at hp ⊢
      rw [statusOf_setStatus, if_neg hh] at hp
      obtain ⟨d, hd, hsrc⟩ := hs h hp hm
      exact ⟨d, hd, by rw [template_setStatus]; exact hsrc⟩

/-- The last message of a published house is an index message. -/
theorem Fresh.handle {env : Env} (hn : env.nrt = false) {s s' : Sys} (hs : Fresh env s) (ho : Orderly s)
    (hi : ∀ m ∈ s.queue.head?, m.operation = .index → Indexable s.db m.houseId)
    (h : handleMessage env Calls.success s = some s') : Fresh env s' := by
  have ho' := ho.handle hn hi h
  obtain ⟨m, rest, es, lbs, again, hh⟩ := handleMessage_handled hn h
  intro i hp hm
  have hdb := hh.ran.db_eq
  by_cases hne : i = m.houseId
  · subst hne
    cases hop : m.operation with
    | index =>
      have hC : Completes Calls.success s.es m := by simp [Completes, hop, Calls.success]
      obtain ⟨d, hd, hsrc⟩ := hh.index hop (hh.completes reported_success hC) reported_success
        (hi m (by rw [hh.queue]; rfl) hop)
      exact ⟨d, by rw [hh.ran.es_eq]; exact hd, by rw [hdb]; exact hsrc rfl⟩
    | remove =>
      -- then the index would hold nothing, which nothing pending could repair
      have hdocs := (ho'.idle hm).mpr hp
      rw [hh.ran.es_eq] at hdocs
      exact absurd (hh.removeAll hop rfl).1 hdocs
  · have hcell := hh.ran.cell_other hh.queue hne
    rw [← cell_pend_nil, hcell, cell_pend_nil] at hm
    rw [hdb] at hp ⊢
    obtain ⟨d, hd, hsrc⟩ := hs i hp hm
    exact ⟨d, by rw [hh.ran.es_eq, hh.ran.other i hne]; exact hd, hsrc⟩

theorem fresh_step {env : Env} (hn : env.nrt = false) {s s' : Sys} {l : Req} (ho : Orderly s)
    (hs : Fresh env s) (hl : Editing s l) (hc : Reindexed s l) (h : step env s l = some s') :
    Orderly s' ∧ Fresh env s' := by
  cases l with
  | save faults user now f =>
    simp only [step, Option.some.injEq] at h
    subst h
    exact ⟨ho.save hc, hs.save hc⟩
  | update now f =>
    simp only [step, Option.some.injEq] at h
    subst h
    have hst := statusOf_update env.cdnPrefix now f s.db
    refine ⟨ho.congr hst rfl rfl, hs.edit hst rfl rfl fun h hp hm => sameRows_update ?_⟩
    rintro house detail hl rfl
    exact (hc house detail hl).messagesOf hp hm
  | addTag i tag =>
    simp only [step, Option.some.injEq] at h
    subst h
    have hst := statusOf_addTag i tag s.db
    refine ⟨ho.congr hst rfl rfl, hs.edit hst rfl rfl fun h hp hm => sameRows_addTag ?_⟩
    rintro - ht rfl
    exact (hc ht).messagesOf hp hm
  | removeTag i tag =>
    simp only [step, Option.some.injEq] at h
    subst h
    have hst := statusOf_removeTag i tag s.db
    refine ⟨ho.congr hst rfl rfl, hs.edit hst rfl rfl fun h hp hm => sameRows_removeTag ?_⟩
    rintro - ht rfl
    exact (hc ht).messagesOf hp hm
  | updateStatus id status =>
    obtain ⟨v, rfl⟩ := hl
    simp only [step, Option.some.injEq] at h
    subst h
    exact ⟨ho.updateStatus id v, hs.updateStatus id v.value⟩
  | handle c =>
    cases hl
    exact ⟨ho.handle hn hc h, hs.handle hn ho hc h⟩
  | _ => exact hl.elim

theorem fresh_inductive {env : Env} (hn : env.nrt = false) (subway : List Subway)
    (station : List SubwayStation) (address : List SupportAddress) :
    ((editing env subway station address).restrict Reindexed).Inductive
      fun s => Orderly s ∧ Fresh env s where
  init := by
    rintro s rfl
    exact ⟨.fresh subway station address, fun h hp => by simp [Sys.fresh, Db.empty, Db.statusOf] at hp⟩
  step _ _ _ hs h := fresh_step hn hs.1 hs.2 h.1.2 h.2 h.1.1

/-- **Freshness while edits are reindexed.** -/
theorem freshness_reindexed (env : Env) (hn : env.nrt = false) (subway : List Subway)
    (station : List SubwayStation) (address : List SupportAddress) (s : Sys)
    (hr : ((editing env subway station address).restrict Reindexed).Reachable s) (hq : s.queue = [])
    (h : Long) (hp : s.db.statusOf h = some HouseStatus.PASSES.value) :
    ∃ d, s.es.docsOf h = [d] ∧ some d.source = currentTemplate env s.db h :=
  ((fresh_inductive hn subway station address).reachable hr).2 h hp (messagesOf_nil_of_queue hq h)

/-- A house edited before its publication is handled has its new price in the
index. -/
theorem freshness_reindexed_sample :
    ∃ s : Sys, s.queue = [] ∧ (s.db.house.find? 1).map House.price = some 6000 ∧
      ∃ d, s.es.docsOf 1 = [d] ∧ some d.source = currentTemplate Sample.env s.db 1 := by
  obtain ⟨s, hr, hq, hprice, hp⟩ := LTS.exists_reachable
    (fun s => s = .fresh Sample.fresh.db.subway Sample.fresh.db.subwayStation
      Sample.fresh.db.supportAddress)
    (step Sample.env) (fun s l => Editing s l ∧ Reindexed s l)
    (fun s => s.queue = [] ∧ (s.db.house.find? 1).map House.price = some 6000 ∧
      s.db.statusOf 1 = some HouseStatus.PASSES.value)
    rfl
    [.save .none 2 0 Sample.form, .addTag 1 "近地铁", .updateStatus 1 1,
      .update 5 { Sample.form with id := some 1, price := 6000 }, .handle .success]
    (by decide +kernel)
  exact ⟨s, hq, hprice, freshness_reindexed Sample.env rfl _ _ _ s hr.restrict_restrict hq 1 hp⟩

/-- **An edit does not reach the index.** The price of the published house 1
is changed; nothing is sent, and the document keeps the old price. -/
theorem freshness_lost :
    ¬ ∀ (env : Env) (subway : List Subway) (station : List SubwayStation) (address : List SupportAddress)
      (s : Sys), env.nrt = false → (editing env subway station address).Reachable s → s.queue = [] →
      ∀ h, s.db.statusOf h = some HouseStatus.PASSES.value →
        ∃ d, s.es.docsOf h = [d] ∧ some d.source = currentTemplate env s.db h := by
  intro hall
  obtain ⟨s, hr, hq, hp, hstale⟩ := LTS.exists_reachable
    (fun s => s = .fresh Sample.fresh.db.subway Sample.fresh.db.subwayStation
      Sample.fresh.db.supportAddress)
    (step Sample.env) Editing
    (fun s => s.queue = [] ∧ s.db.statusOf 1 = some HouseStatus.PASSES.value ∧
      ∀ d ∈ s.es.docsOf 1, some d.source ≠ currentTemplate Sample.env s.db 1)
    rfl
    [.save .none 2 0 Sample.form, .updateStatus 1 1, .handle .success,
      .update 5 { Sample.form with id := some 1, price := 6000 }]
    (by decide +kernel)
  obtain ⟨d, hd, hsrc⟩ := hall Sample.env _ _ _ s rfl hr hq 1 hp
  exact hstale d (by rw [hd]; exact List.mem_singleton.mpr rfl) hsrc

end Soufang
