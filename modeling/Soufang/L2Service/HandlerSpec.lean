import Soufang.L2Service.SearchService

/-!
# What one handler run does

One specification lemma for each piece of `SearchService`, so that the system
results never open a handler. With writes visible at once (`env.nrt = false`):

* `writeTemplate_other`, `deleteByQuery_other`: the documents of other houses
  stay.
* `writeTemplate_true`: a write that reports success leaves the house exactly
  one document, the template with its suggestions.
* `createOrUpdateIndex_ends`, `removeIndex_ends`: the ways a handler ends,
  for all searches; the only place where a handler is opened.
* `createOrUpdateIndex_run`, `removeIndex_run`: a run changes the index and
  the LBS table and then, when it has to, sends its own message again
  (`resend`), at most once and with the next retry value.
* `handleMessage_handled`: the two together on the head of the queue.

The last two sections are about all searches: the shape of a run
(`handleMessage_effect`) and the documents it may add (`handleMessage_docs`).
-/
namespace Soufang

namespace Es

theorem mem_docsOf {es : Es} {h : Long} {d : EsDoc} :
    d ∈ es.docsOf h ↔ d ∈ es.docs.rows ∧ d.source.houseId = h := by
  simp [docsOf, List.mem_filter]

theorem hits_immediate {env : Env} (hn : env.nrt = false) (es : Es) (h : Long) :
    es.hits env h = es.docsOf h := by
  simp [hits, visible, hn, docsOf]

theorem victims_sublist (env : Env) (es : Es) (h : Long) (o : Deleted) :
    (es.victims env h o).Sublist (es.docsOf h) := by
  cases o with
  | all => exact List.filter_sublist
  | atMost n => exact (List.take_sublist n _).trans List.filter_sublist
  | threw => exact List.nil_sublist _

theorem candidates_immediate {env : Env} (hn : env.nrt = false) (es : Es) (h : Long) :
    es.candidates env h = es.docsOf h := by
  refine List.filter_eq_self.mpr fun d hd => ?_
  rw [hits_immediate hn]
  exact List.any_eq_true.mpr ⟨d, hd, by simp⟩

theorem docsOf_remove (es : Es) (p : EsDoc → Bool) (h : Long) :
    Es.docsOf { es with docs := es.docs.remove p } h = (es.docsOf h).filter fun d => !p d := by
  simp only [docsOf, Table.remove, List.filter_filter]
  exact List.filter_congr fun d _ => by rw [Bool.and_comm]

theorem docsOf_insert {es : Es} {docs : Table EsDoc} {t : HouseIndexTemplate}
    (hi : es.docs.insert? { esId := 0, source := t } = some docs) (h : Long) :
    Es.docsOf { es with docs := docs } h =
      es.docsOf h ++ if t.houseId = h then [⟨es.docs.next, t⟩] else [] := by
  simp only [docsOf, (Table.insert?_some hi).1, List.filter_append, List.filter_cons, List.filter_nil]
  simp [Entity.withId]

/-- The document with id `d.esId` is `d` itself. -/
theorem eq_of_esId {es : Es} {d d' : EsDoc} (hd : d ∈ es.docs.rows) (hd' : d' ∈ es.docs.rows)
    (h : d'.esId = d.esId) : d' = d :=
  Table.id_inj hd' hd h

theorem mem_setSource {es : Es} {e : Int} {t : HouseIndexTemplate} {d : EsDoc} :
    d ∈ (es.setSource e t).docs.rows ↔
      ∃ a ∈ es.docs.rows, (if a.esId = e then { a with source := t } else a) = d := by
  simp [setSource, Table.modify, Entity.id]

theorem docsOf_setSource {es : Es} {d : EsDoc} (hd : d ∈ es.docs.rows) {t : HouseIndexTemplate}
    (ht : d.source.houseId = t.houseId) (h : Long) :
    (es.setSource d.esId t).docsOf h =
      (es.docsOf h).map fun a => if a.esId = d.esId then { a with source := t } else a := by
  simp only [docsOf, setSource, Table.modify, List.filter_map]
  congr 1
  refine List.filter_congr fun a ha => ?_
  simp only [Function.comp]
  by_cases he : a.esId = d.esId
  · rw [eq_of_esId hd ha he]
    simp [Entity.id, ht]
  · simp [Entity.id, he]

theorem docsOf_setSource_other {es : Es} {d : EsDoc} (hd : d ∈ es.docs.rows)
    {t : HouseIndexTemplate} (ht : d.source.houseId = t.houseId) {h : Long} (hne : h ≠ t.houseId) :
    (es.setSource d.esId t).docsOf h = es.docsOf h := by
  rw [docsOf_setSource hd ht]
  refine (List.map_congr_left fun a ha => ?_).trans (List.map_id _)
  obtain ⟨ha, hh⟩ := mem_docsOf.mp ha
  rw [if_neg, id]
  intro he
  rw [eq_of_esId hd ha he, ht] at hh
  exact hne hh.symm

/-- Delete-by-query for one house keeps the documents of the others. -/
theorem deleteByQuery_other {env : Env} {es es' : Es} {o : Deleted} {h : Long} {n : Option Nat}
    (hq : es.deleteByQuery env o h = (es', n)) {h' : Long} (hne : h' ≠ h) :
    es'.docsOf h' = es.docsOf h' := by
  have hkeep : Es.docsOf { es with docs := es.docs.remove fun d => decide (d ∈ es.victims env h o) } h' =
      es.docsOf h' := by
    rw [docsOf_remove]
    refine List.filter_eq_self.mpr fun d hd => ?_
    have hnot : d ∉ es.victims env h o := fun hv =>
      hne ((mem_docsOf.mp hd).2.symm.trans (mem_docsOf.mp ((victims_sublist env es h o).subset hv)).2)
    simpa using hnot
  cases o with
  | threw => simp only [deleteByQuery, Prod.mk.injEq] at hq; rw [← hq.1]
  | all => simp only [deleteByQuery, Prod.mk.injEq] at hq; rw [← hq.1]; exact hkeep
  | atMost k => simp only [deleteByQuery, Prod.mk.injEq] at hq; rw [← hq.1]; exact hkeep

/-- A delete-by-query that reports success deletes all documents. -/
theorem deleteByQuery_all {env : Env} (hn : env.nrt = false) {es es' : Es} {h : Long} {n : Option Nat}
    (hq : es.deleteByQuery env .all h = (es', n)) :
    es'.docsOf h = [] ∧ n = some (es.docsOf h).length := by
  simp only [deleteByQuery, victims, candidates_immediate hn, Prod.mk.injEq] at hq
  obtain ⟨rfl, rfl⟩ := hq
  refine ⟨?_, rfl⟩
  rw [docsOf_remove, List.filter_eq_nil_iff]
  intro d hd
  simp [hd]

/-- A delete-by-query that reports a failure deletes nothing. -/
theorem deleteByQuery_none {env : Env} {es es' : Es} {h : Long} {n : Option Nat}
    (hq : es.deleteByQuery env (.atMost 0) h = (es', n)) :
    es'.docsOf h = es.docsOf h ∧ n = some 0 := by
  simp only [deleteByQuery, victims, List.take_zero, Prod.mk.injEq] at hq
  obtain ⟨rfl, rfl⟩ := hq
  refine ⟨?_, rfl⟩
  rw [docsOf_remove]
  exact List.filter_eq_self.mpr (by simp)

/-- A delete-by-query that reports as many deletions as the house has
documents deleted them all. -/
theorem deleteByQuery_complete {env : Env} {es es' : Es} {o : Deleted} {h : Long}
    (hq : es.deleteByQuery env o h = (es', some (es.docsOf h).length)) : es'.docsOf h = [] := by
  have hgone : (es.victims env h o).length = (es.docsOf h).length ∧
      es' = { es with docs := es.docs.remove fun d => decide (d ∈ es.victims env h o) } := by
    cases o with
    | threw => simp [deleteByQuery] at hq
    | all => simp only [deleteByQuery, Prod.mk.injEq, Option.some.injEq] at hq; exact ⟨hq.2, hq.1.symm⟩
    | atMost k => simp only [deleteByQuery, Prod.mk.injEq, Option.some.injEq] at hq; exact ⟨hq.2, hq.1.symm⟩
  obtain ⟨hlen, rfl⟩ := hgone
  have heq := (victims_sublist env es h o).eq_of_length hlen
  rw [docsOf_remove, List.filter_eq_nil_iff]
  intro d hd
  simp [heq, hd]

end Es

namespace SearchService

theorem updateSuggest_houseId {env : Env} {a : Status} {t t' : HouseIndexTemplate}
    (h : updateSuggest env a t = some t') : t'.houseId = t.houseId := by
  cases a <;> simp only [updateSuggest, Option.some.injEq, reduceCtorEq] at h <;> rw [← h]

/-- `create` adds one document and reports success, or changes nothing. -/
theorem create_cases {env : Env} {c : Calls} {t : HouseIndexTemplate} {es es' : Es} {r : Option Bool}
    (h : create env c t es = (es', r)) :
    (r = some true ∧ c.write = .ok ∧ ∃ t' docs, updateSuggest env c.analyze t = some t' ∧
        es.docs.insert? { esId := 0, source := t' } = some docs ∧ es' = { es with docs := docs }) ∨
      (r ≠ some true ∧ es' = es) := by
  unfold create at h
  cases hs : updateSuggest env c.analyze t with
  | none =>
    simp only [hs, Prod.mk.injEq] at h
    exact Or.inr ⟨by simp [← h.2], h.1.symm⟩
  | some t' =>
    simp only [hs] at h
    cases hw : c.write with
    | ok =>
      simp only [hw] at h
      cases hi : es.docs.insert? { esId := 0, source := t' } with
      | none => simp only [hi, Prod.mk.injEq] at h; exact Or.inr ⟨by simp [← h.2], h.1.symm⟩
      | some docs =>
        simp only [hi, Prod.mk.injEq] at h
        exact Or.inl ⟨h.2.symm, rfl, t', docs, rfl, hi, h.1.symm⟩
    | failed => simp only [hw, Prod.mk.injEq] at h; exact Or.inr ⟨by simp [← h.2], h.1.symm⟩
    | threw => simp only [hw, Prod.mk.injEq] at h; exact Or.inr ⟨by simp [← h.2], h.1.symm⟩

theorem update_cases {env : Env} {c : Calls} {e : Int} {t : HouseIndexTemplate} {es es' : Es}
    {r : Option Bool} (h : update env c e t es = (es', r)) :
    (r = some true ∧ c.write = .ok ∧ ∃ t' d, updateSuggest env c.analyze t = some t' ∧
        es.docs.find? e = some d ∧ es' = es.setSource e t') ∨
      (r ≠ some true ∧ es' = es) := by
  unfold update at h
  cases hs : updateSuggest env c.analyze t with
  | none =>
    simp only [hs, Prod.mk.injEq] at h
    exact Or.inr ⟨by simp [← h.2], h.1.symm⟩
  | some t' =>
    simp only [hs] at h
    cases hw : c.write with
    | ok =>
      simp only [hw] at h
      cases hf : es.docs.find? e with
      | none => simp only [hf, Prod.mk.injEq] at h; exact Or.inr ⟨by simp [← h.2], h.1.symm⟩
      | some d =>
        simp only [hf, Prod.mk.injEq] at h
        exact Or.inl ⟨h.2.symm, rfl, t', d, rfl, rfl, h.1.symm⟩
    | failed => simp only [hw, Prod.mk.injEq] at h; exact Or.inr ⟨by simp [← h.2], h.1.symm⟩
    | threw => simp only [hw, Prod.mk.injEq] at h; exact Or.inr ⟨by simp [← h.2], h.1.symm⟩

theorem create_other {env : Env} {c : Calls} {t : HouseIndexTemplate} {es es' : Es} {r : Option Bool}
    (h : create env c t es = (es', r)) {h' : Long} (hne : h' ≠ t.houseId) :
    es'.docsOf h' = es.docsOf h' := by
  rcases create_cases h with ⟨-, -, t', docs, hs, hi, rfl⟩ | ⟨-, rfl⟩
  · rw [Es.docsOf_insert hi, updateSuggest_houseId hs, if_neg hne.symm, List.append_nil]
  · rfl

section
variable {env : Env} (hn : env.nrt = false) {c : Calls} {t : HouseIndexTemplate} {es es' : Es}
  {h : Long} {r : Option Bool}

include hn

/-- The hits of a house are its documents. -/
theorem writeTemplate_eq (hs : c.search = true) :
    writeTemplate env c h t es = writeOver env c t es (es.docsOf h) := by
  rw [writeTemplate, if_pos hs, Es.hits_immediate hn]

theorem writeTemplate_other (hw : writeTemplate env c h t es = (es', r)) (ht : t.houseId = h)
    {h' : Long} (hne : h' ≠ h) : es'.docsOf h' = es.docsOf h' := by
  subst ht
  by_cases hs : c.search = true
  · rw [writeTemplate_eq hn hs] at hw
    unfold writeOver at hw
    split at hw
    · exact create_other hw hne
    · rename_i d hd
      obtain ⟨hmem, hh⟩ := Es.mem_docsOf.mp (by rw [hd]; exact List.mem_singleton.mpr rfl : d ∈ es.docsOf t.houseId)
      rcases update_cases hw with ⟨-, -, t', -, hs', -, rfl⟩ | ⟨-, rfl⟩
      · have hid := updateSuggest_houseId hs'
        exact Es.docsOf_setSource_other hmem (hh.trans hid.symm) (by rw [hid]; exact hne)
      · rfl
    · unfold deleteAndCreate at hw
      cases hq : es.deleteByQuery env c.delete t.houseId with
      | mk es1 n =>
        have hother := Es.deleteByQuery_other hq hne
        rw [hq] at hw
        cases n with
        | none => simp only [Prod.mk.injEq] at hw; rw [← hw.1]; exact hother
        | some k =>
          simp only at hw
          split at hw
          · simp only [Prod.mk.injEq] at hw; rw [← hw.1]; exact hother
          · rw [create_other hw hne]; exact hother
  · unfold writeTemplate at hw
    simp only [hs, Bool.false_eq_true, if_false, Prod.mk.injEq] at hw
    rw [hw.1]

/-- A write that reports success leaves exactly one document of the house. -/
theorem writeTemplate_true (hw : writeTemplate env c h t es = (es', some true)) (ht : t.houseId = h) :
    ∃ t' d, updateSuggest env c.analyze t = some t' ∧ es'.docsOf h = [d] ∧ d.source = t' := by
  subst ht
  have hcreate : ∀ {es0 : Es}, create env c t es0 = (es', some true) → es0.docsOf t.houseId = [] →
      ∃ t' d, updateSuggest env c.analyze t = some t' ∧ es'.docsOf t.houseId = [d] ∧ d.source = t' := by
    intro es0 hc hemp
    rcases create_cases hc with ⟨-, -, t', docs, hs', hi, rfl⟩ | ⟨hf, -⟩
    · refine ⟨t', ⟨es0.docs.next, t'⟩, hs', ?_, rfl⟩
      rw [Es.docsOf_insert hi, hemp, if_pos (updateSuggest_houseId hs')]
      rfl
    · exact absurd rfl hf
  by_cases hs : c.search = true
  · rw [writeTemplate_eq hn hs] at hw
    unfold writeOver at hw
    split at hw
    · rename_i hemp
      exact hcreate hw hemp
    · rename_i d hd
      obtain ⟨hmem, hh⟩ := Es.mem_docsOf.mp (by rw [hd]; exact List.mem_singleton.mpr rfl : d ∈ es.docsOf t.houseId)
      rcases update_cases hw with ⟨-, -, t', -, hs', -, rfl⟩ | ⟨hf, -⟩
      · refine ⟨t', { d with source := t' }, hs', ?_, rfl⟩
        rw [Es.docsOf_setSource hmem (hh.trans (updateSuggest_houseId hs').symm), hd]
        simp
      · exact absurd rfl hf
    · unfold deleteAndCreate at hw
      cases hq : es.deleteByQuery env c.delete t.houseId with
      | mk es1 n =>
        rw [hq] at hw
        cases n with
        | none => simp at hw
        | some k =>
          simp only at hw
          split at hw
          · simp at hw
          · rename_i hk
            simp only [ne_eq, not_not] at hk
            subst hk
            exact hcreate hw (Es.deleteByQuery_complete hq)
  · unfold writeTemplate at hw
    simp [hs] at hw

end

/-! ## A whole run -/

theorem addressOf_congr {db db' : Db} (h : db'.supportAddress = db.supportAddress) {house house' : House}
    (hc : house'.cityEnName = house.cityEnName) (hr : house'.regionEnName = house.regionEnName) :
    addressOf db' house' = addressOf db house := by
  simp only [addressOf, Db.findByEnNameAndLevel, h, hc, hr]

/-- What createOrUpdateIndex needs to find in the database. -/
def Indexable (db : Db) (h : Long) : Prop :=
  ∃ house detail city region, db.house.find? h = some house ∧
    db.findDetailByHouseId h = some detail ∧ addressOf db house = some (city, region)

instance (db : Db) (h : Long) : Decidable (Indexable db h) :=
  decidable_of_iff
    (∃ house ∈ db.house.find? h, (db.findDetailByHouseId h).isSome ∧ (addressOf db house).isSome) <| by
    simp only [Indexable, Option.mem_def, Option.isSome_iff_exists, Prod.exists]
    constructor
    · rintro ⟨house, hh, ⟨detail, hd⟩, city, region, ha⟩
      exact ⟨house, detail, city, region, hh, hd, ha⟩
    · rintro ⟨house, detail, city, region, hh, hd, ha⟩
      exact ⟨house, hh, ⟨detail, hd⟩, city, region, ha⟩

/-- The template `createOrUpdateIndex` builds from the rows, with the
suggestions of a successful analysis. -/
def currentTemplate (env : Env) (db : Db) (h : Long) : Option HouseIndexTemplate :=
  match db.house.find? h, db.findDetailByHouseId h with
  | some house, some detail =>
    match addressOf db house with
    | some (city, region) =>
      let t := template env house detail city region (db.findAllTagsByHouseId h)
      some { t with suggest := some (suggestions env t) }
    | none => none
  | _, _ => none

/-- No call throws, and a delete-by-query removes all or nothing. -/
def Reported (c : Calls) : Prop :=
  c.geocode ≠ .threw ∧ c.search = true ∧ c.analyze ≠ .threw ∧ c.write ≠ .threw ∧
    (c.delete = .all ∨ c.delete = .atMost 0) ∧ c.lbsList ≠ .threw ∧ c.lbsWrite ≠ .threw ∧
    c.lbsDelete ≠ .threw

instance (c : Calls) : Decidable (Reported c) := by unfold Reported; infer_instance

theorem reported_success : Reported Calls.success :=
  ⟨by decide, rfl, by decide, by decide, Or.inl rfl, by decide, by decide, by decide⟩

/-- Send the message again, under the next retry value. -/
def resend (again : Bool) (m : HouseIndexMessage) (s : Sys) : Sys :=
  if again then send m.operation m.houseId (nextRetry m.retry) s else s

/-- `es` and `lbs` are the stores after the run, `again` whether the message
is sent again. -/
structure Ran (m : HouseIndexMessage) (s s' : Sys) (es : Es) (lbs : List LbsPoint) (again : Bool) : Prop where
  result : s' = resend again m { s with es := es, lbs := lbs }
  other : ∀ h, h ≠ m.houseId → es.docsOf h = s.es.docsOf h

theorem Ran.idle {m : HouseIndexMessage} {s : Sys} : Ran m s s s.es s.lbs false := ⟨rfl, fun _ _ => rfl⟩

/-- No call throws. -/
structure Answered (c : Calls) : Prop where
  geocode : c.geocode ≠ .threw
  search : c.search = true
  analyze : c.analyze ≠ .threw
  write : c.write ≠ .threw
  delete : c.delete ≠ .threw
  lbsList : c.lbsList ≠ .threw
  lbsWrite : c.lbsWrite ≠ .threw

theorem Reported.answered {c : Calls} (h : Reported c) : Answered c := by
  obtain ⟨hg, hs, ha, hw, hd, hl, hu, -⟩ := h
  refine ⟨hg, hs, ha, hw, ?_, hl, hu⟩
  rcases hd with hd | hd <;> rw [hd] <;> decide

theorem create_answered {env : Env} {c : Calls} (hc : Answered c) {t : HouseIndexTemplate} {es : Es} :
    (create env c t es).2 ≠ none := by
  unfold create
  cases hA : c.analyze with
  | threw => exact absurd hA hc.analyze
  | ok =>
    cases hW : c.write with
    | threw => exact absurd hW hc.write
    | ok => simp only [updateSuggest]; split <;> simp
    | failed => simp [updateSuggest]
  | failed =>
    cases hW : c.write with
    | threw => exact absurd hW hc.write
    | ok => simp only [updateSuggest]; split <;> simp
    | failed => simp [updateSuggest]

theorem update_answered {env : Env} {c : Calls} (hc : Answered c) {t : HouseIndexTemplate} {es : Es}
    {d : EsDoc} (hd : d ∈ es.docs.rows) : (update env c d.esId t es).2 ≠ none := by
  have hf : es.docs.find? d.esId = some d := Table.find?_eq_some.mpr ⟨hd, rfl⟩
  unfold update
  cases hA : c.analyze with
  | threw => exact absurd hA hc.analyze
  | ok =>
    cases hW : c.write with
    | threw => exact absurd hW hc.write
    | ok => simp [updateSuggest, hf]
    | failed => simp [updateSuggest]
  | failed =>
    cases hW : c.write with
    | threw => exact absurd hW hc.write
    | ok => simp [updateSuggest, hf]
    | failed => simp [updateSuggest]

theorem deleteByQuery_answered (env : Env) (es : Es) {o : Deleted} (ho : o ≠ .threw) (h : Long) :
    ∃ es' n, es.deleteByQuery env o h = (es', some n) := by
  cases o with
  | threw => exact absurd rfl ho
  | all => exact ⟨_, _, rfl⟩
  | atMost k => exact ⟨_, _, rfl⟩

/-- Without an exception the write reports a result. -/
theorem writeTemplate_answered {env : Env} (hn : env.nrt = false) {c : Calls} (hc : Answered c)
    {h : Long} {t : HouseIndexTemplate} {es : Es} : (writeTemplate env c h t es).2 ≠ none := by
  rw [writeTemplate_eq hn hc.search]
  unfold writeOver
  split
  · exact create_answered hc
  · rename_i d hd
    have hmem : d ∈ es.docsOf h := by rw [hd]; exact List.mem_singleton.mpr rfl
    exact update_answered hc (Es.mem_docsOf.mp hmem).1
  · unfold deleteAndCreate
    obtain ⟨es1, n, hq⟩ := deleteByQuery_answered env es hc.delete t.houseId
    rw [hq]
    simp only
    split
    · simp
    · exact create_answered hc

theorem lbsUpload_answered {c : Calls} (hc : Answered c) (p : LbsPoint) (lbs : List LbsPoint) :
    (lbsUpload c p lbs).2 ≠ none := by
  have hl := hc.lbsList
  have hw := hc.lbsWrite
  unfold lbsUpload isLbsDataExists
  cases hL : c.lbsList with
  | threw => exact absurd hL hl
  | ok => cases hW : c.lbsWrite <;> simp_all
  | failed => cases hW : c.lbsWrite <;> simp_all

/-! ## Runs that finish their message -/

/-- With these answers the handler has no reason to send `m` again. -/
def Completes (c : Calls) (es : Es) (m : HouseIndexMessage) : Prop :=
  match m.operation with
  | .index => c.geocode = .ok ∧ c.write = .ok ∧ c.lbsWrite = .ok ∧
      (c.delete = .all ∨ (es.docsOf m.houseId).length ≤ 1)
  | .remove => c.delete = .all ∧ c.lbsDelete = .ok ∧ es.docsOf m.houseId ≠ []

instance (c : Calls) (es : Es) (m : HouseIndexMessage) : Decidable (Completes c es m) := by
  unfold Completes; split <;> infer_instance

theorem create_ok {env : Env} {c : Calls} (ha : c.analyze ≠ .threw) (hw : c.write = .ok)
    (t : HouseIndexTemplate) (es : Es) : (create env c t es).2 = some true := by
  have hins : ∀ t', ∃ docs, es.docs.insert? { esId := 0, source := t' } = some docs :=
    fun _ => Table.insert?_unconstrained rfl
  unfold create
  cases hA : c.analyze with
  | threw => exact absurd hA ha
  | ok =>
    obtain ⟨docs, hd⟩ := hins { t with suggest := some (suggestions env t) }
    simp only [updateSuggest, hw, hd]
  | failed =>
    obtain ⟨docs, hd⟩ := hins t
    simp only [updateSuggest, hw, hd]

theorem update_ok {env : Env} {c : Calls} (ha : c.analyze ≠ .threw) (hw : c.write = .ok)
    {d : EsDoc} {es : Es} (hd : d ∈ es.docs.rows) (t : HouseIndexTemplate) :
    (update env c d.esId t es).2 = some true := by
  have hf : es.docs.find? d.esId = some d := Table.find?_eq_some.mpr ⟨hd, rfl⟩
  unfold update
  cases hA : c.analyze with
  | threw => exact absurd hA ha
  | ok => simp only [updateSuggest, hw, hf]
  | failed => simp only [updateSuggest, hw, hf]

theorem writeTemplate_ok {env : Env} (hn : env.nrt = false) {c : Calls} (hc : Reported c)
    (hw : c.write = .ok) {h : Long} {t : HouseIndexTemplate} (ht : t.houseId = h) {es : Es}
    (hd : c.delete = .all ∨ (es.docsOf h).length ≤ 1) : (writeTemplate env c h t es).2 = some true := by
  subst ht
  have ha := hc.2.2.1
  rw [writeTemplate_eq hn hc.2.1]
  unfold writeOver
  split
  · exact create_ok ha hw t es
  · rename_i d hdocs
    have hmem : d ∈ es.docsOf t.houseId := by rw [hdocs]; exact List.mem_singleton.mpr rfl
    exact update_ok ha hw (Es.mem_docsOf.mp hmem).1 t
  · rename_i hnil hone
    rcases hd with hd | hlen
    · unfold deleteAndCreate
      cases hq : es.deleteByQuery env c.delete t.houseId with
      | mk es1 n =>
        rw [hd] at hq
        obtain ⟨-, rfl⟩ := Es.deleteByQuery_all hn hq
        simp only [ne_eq, not_true_eq_false, if_false]
        exact create_ok ha hw t es1
    · match hdocs : es.docsOf t.houseId, hlen with
      | [], _ => exact absurd hdocs hnil
      | [d], _ => exact absurd hdocs (hone d)
      | _ :: _ :: _, h => simp at h

theorem lbsUpload_ok {c : Calls} (hl : c.lbsList ≠ .threw) (hw : c.lbsWrite = .ok) (p : LbsPoint)
    (lbs : List LbsPoint) : (lbsUpload c p lbs).2 = some true := by
  unfold lbsUpload isLbsDataExists
  cases hL : c.lbsList with
  | threw => exact absurd hL hl
  | ok => simp only [hw]
  | failed => simp only [hw]

theorem find_houseId {db : Db} {h : Long} {detail : HouseDetail}
    (hd : db.findDetailByHouseId h = some detail) (env : Env) (house : House)
    (city region : SupportAddress) (tags : List HouseTag) :
    (template env house detail city region tags).houseId = h := (findDetail_some hd).2

/-- The rows of `h` are there, the geocoder answers, and `t` is the template
filled from the rows. -/
structure Located (env : Env) (c : Calls) (db : Db) (h : Long) (t : HouseIndexTemplate) : Prop where
  geocode : c.geocode = .ok
  indexable : Indexable db h
  houseId : t.houseId = h
  plain : t.suggest = none
  current : updateSuggest env .ok t = currentTemplate env db h

/-- The ways an index run ends. -/
inductive IndexRun (env : Env) (c : Calls) (m : HouseIndexMessage) (s : Sys) : Sys → Prop
  | rowsMissing (h : ¬ Indexable s.db m.houseId) : IndexRun env c m s s
  | geocodeThrew (hg : c.geocode = .threw) : IndexRun env c m s s
  | geocodeFailed (hg : c.geocode = .failed) : IndexRun env c m s (resend true m s)
  | writeThrew {t : HouseIndexTemplate} {es : Es} (hl : Located env c s.db m.houseId t)
      (hw : writeTemplate env c m.houseId t s.es = (es, none)) : IndexRun env c m s { s with es := es }
  | uploadThrew {t : HouseIndexTemplate} {es : Es} {success : Bool} {p : LbsPoint} {lbs : List LbsPoint}
      (hl : Located env c s.db m.houseId t) (hw : writeTemplate env c m.houseId t s.es = (es, some success))
      (hu : lbsUpload c p s.lbs = (lbs, none)) : IndexRun env c m s { s with es := es, lbs := lbs }
  | uploaded {t : HouseIndexTemplate} {es : Es} {success ok : Bool} {p : LbsPoint} {lbs : List LbsPoint}
      (hl : Located env c s.db m.houseId t) (hw : writeTemplate env c m.houseId t s.es = (es, some success))
      (hu : lbsUpload c p s.lbs = (lbs, some ok)) :
      IndexRun env c m s (resend (!success || !ok) m { s with es := es, lbs := lbs })

theorem createOrUpdateIndex_ends (env : Env) (c : Calls) {m : HouseIndexMessage} (hm : m.operation = .index)
    (s : Sys) : IndexRun env c m s (createOrUpdateIndex env c m s) := by
  unfold createOrUpdateIndex
  cases hh : s.db.house.find? m.houseId with
  | none => exact .rowsMissing fun ⟨_, _, _, _, hf, _⟩ => by rw [hh] at hf; cases hf
  | some house =>
    dsimp only
    cases hd : s.db.findDetailByHouseId m.houseId with
    | none => exact .rowsMissing fun ⟨_, _, _, _, _, hf, _⟩ => by rw [hd] at hf; cases hf
    | some detail =>
      dsimp only
      cases ha : addressOf s.db house with
      | none =>
        refine .rowsMissing fun ⟨house', _, _, _, hf, _, hf'⟩ => ?_
        rw [hh, Option.some.injEq] at hf
        rw [← hf, ha] at hf'
        cases hf'
      | some p =>
        obtain ⟨city, region⟩ := p
        dsimp only
        cases hg : c.geocode with
        | threw => exact .geocodeThrew hg
        | failed =>
          have hsend : send .index m.houseId (nextRetry m.retry) s = resend true m s := by simp [resend, hm]
          dsimp only
          rw [hsend]
          exact .geocodeFailed hg
        | ok =>
          dsimp only
          have hl : Located env c s.db m.houseId
              (template env house detail city region (s.db.findAllTagsByHouseId m.houseId)) :=
            ⟨hg, ⟨house, detail, city, region, hh, hd, ha⟩, find_houseId hd env house city region _, rfl,
              by simp [currentTemplate, hh, hd, ha, updateSuggest]⟩
          cases hw : writeTemplate env c m.houseId
              (template env house detail city region (s.db.findAllTagsByHouseId m.houseId)) s.es with
          | mk es r =>
            cases r with
            | none => exact .writeThrew hl hw
            | some success =>
              dsimp only
              cases hu : lbsUpload c (lbsPoint env house detail city region m.houseId) s.lbs with
              | mk lbs u =>
                cases u with
                | none => exact .uploadThrew hl hw hu
                | some ok =>
                  have hend := IndexRun.uploaded hl hw hu
                  cases success <;> cases ok <;> simpa [resend, hm] using hend

/-- **An index run.** It leaves the other houses alone; if it does not send
its message again, no call threw and the rows are there, the house has
exactly one document, built from the current rows. When the calls let it
complete it does not. -/
theorem createOrUpdateIndex_run {env : Env} (hn : env.nrt = false) (c : Calls) (m : HouseIndexMessage)
    (hm : m.operation = .index) (s : Sys) :
    ∃ es lbs again, Ran m s (createOrUpdateIndex env c m s) es lbs again ∧
      (again = false → Reported c → Indexable s.db m.houseId →
        ∃ d, es.docsOf m.houseId = [d] ∧
          (c.analyze = .ok → some d.source = currentTemplate env s.db m.houseId)) ∧
      (Reported c → Completes c s.es m → again = false) := by
  have hrun := createOrUpdateIndex_ends env c hm s
  generalize createOrUpdateIndex env c m s = s' at hrun ⊢
  cases hrun with
  | rowsMissing h => exact ⟨s.es, s.lbs, false, .idle, fun _ _ hi => absurd hi h, fun _ _ => rfl⟩
  | geocodeThrew hg => exact ⟨s.es, s.lbs, false, .idle, fun _ hr _ => absurd hg hr.1, fun _ _ => rfl⟩
  | geocodeFailed hg =>
    refine ⟨s.es, s.lbs, true, ⟨rfl, fun _ _ => rfl⟩, fun h => (by cases h), ?_⟩
    intro _ hC
    rw [Completes, hm] at hC
    rw [hg] at hC
    cases hC.1
  | @writeThrew t es hl hw =>
    refine ⟨es, s.lbs, false, ⟨rfl, fun h hne => writeTemplate_other hn hw hl.houseId hne⟩, fun _ hr _ => ?_,
      fun _ _ => rfl⟩
    exact absurd (congrArg Prod.snd hw) (writeTemplate_answered hn hr.answered)
  | @uploadThrew t es success p lbs hl hw hu =>
    refine ⟨es, lbs, false, ⟨rfl, fun h hne => writeTemplate_other hn hw hl.houseId hne⟩, fun _ hr _ => ?_,
      fun _ _ => rfl⟩
    exact absurd (congrArg Prod.snd hu) (lbsUpload_answered hr.answered _ _)
  | @uploaded t es success ok p lbs hl hw hu =>
    refine ⟨es, lbs, !success || !ok, ⟨rfl, fun h hne => writeTemplate_other hn hw hl.houseId hne⟩, ?_, ?_⟩
    · intro hag _ _
      simp only [Bool.or_eq_false_iff, Bool.not_eq_false'] at hag
      obtain ⟨rfl, rfl⟩ := hag
      obtain ⟨t', d, hs, hdocs, hsrc⟩ := writeTemplate_true hn hw hl.houseId
      refine ⟨d, hdocs, fun hA => ?_⟩
      rw [hA] at hs
      rw [hsrc, ← hs]
      exact hl.current
    · intro hr hC
      rw [Completes, hm] at hC
      have hsucc := writeTemplate_ok hn hr hC.2.1 hl.houseId hC.2.2.2
      have hup := lbsUpload_ok hr.2.2.2.2.2.1 hC.2.2.1 p s.lbs
      rw [hw] at hsucc
      rw [hu] at hup
      simp only [Option.some.injEq] at hsucc hup
      rw [hsucc, hup]
      rfl

/-- The ways a remove run ends. -/
inductive RemoveRun (env : Env) (c : Calls) (m : HouseIndexMessage) (s : Sys) : Sys → Prop
  | deleteThrew {es : Es} (hq : s.es.deleteByQuery env c.delete m.houseId = (es, none)) :
      RemoveRun env c m s { s with es := es }
  | lbsThrew {es : Es} {deleted : Nat} {lbs : List LbsPoint}
      (hq : s.es.deleteByQuery env c.delete m.houseId = (es, some deleted))
      (hl : removeLbs c.lbsDelete m.houseId s.lbs = (lbs, none)) :
      RemoveRun env c m s { s with es := es, lbs := lbs }
  | removed {es : Es} {deleted : Nat} {ok : Bool} {lbs : List LbsPoint}
      (hq : s.es.deleteByQuery env c.delete m.houseId = (es, some deleted))
      (hl : removeLbs c.lbsDelete m.houseId s.lbs = (lbs, some ok)) :
      RemoveRun env c m s (resend (!ok || decide (deleted = 0)) m { s with es := es, lbs := lbs })

theorem removeIndex_ends (env : Env) (c : Calls) {m : HouseIndexMessage} (hm : m.operation = .remove)
    (s : Sys) : RemoveRun env c m s (removeIndex env c m s) := by
  unfold removeIndex
  cases hq : s.es.deleteByQuery env c.delete m.houseId with
  | mk es n =>
    cases n with
    | none => exact .deleteThrew hq
    | some deleted =>
      dsimp only
      cases hl : removeLbs c.lbsDelete m.houseId s.lbs with
      | mk lbs r =>
        cases r with
        | none => exact .lbsThrew hq hl
        | some ok =>
          have hend := RemoveRun.removed hq hl
          cases ok <;> by_cases hz : deleted = 0 <;> simpa [resend, hm, hz] using hend

/-- **A remove run.** It leaves the other houses alone; if it does not send
its message again and no call threw, the house has no document. With calls
that succeed it is sent again exactly when there was none. -/
theorem removeIndex_run {env : Env} (hn : env.nrt = false) (c : Calls) (m : HouseIndexMessage)
    (hm : m.operation = .remove) (s : Sys) :
    ∃ es lbs again, Ran m s (removeIndex env c m s) es lbs again ∧
      (again = false → Reported c → es.docsOf m.houseId = []) ∧
      (c.delete = .all → es.docsOf m.houseId = [] ∧
        (c.lbsDelete = .ok → again = (s.es.docsOf m.houseId).isEmpty)) := by
  have hrun := removeIndex_ends env c hm s
  generalize removeIndex env c m s = s' at hrun ⊢
  have hall : ∀ {es n}, s.es.deleteByQuery env c.delete m.houseId = (es, n) → c.delete = .all →
      es.docsOf m.houseId = [] ∧ n = some (s.es.docsOf m.houseId).length := by
    intro es n hq ha
    rw [ha] at hq
    exact Es.deleteByQuery_all hn hq
  cases hrun with
  | @deleteThrew es hq =>
    refine ⟨es, s.lbs, false, ⟨rfl, fun h hne => Es.deleteByQuery_other hq hne⟩, ?_,
      fun ha => by cases (hall hq ha).2⟩
    intro _ hr
    rcases hr.2.2.2.2.1 with hd | hd <;> rw [hd] at hq <;> simp [Es.deleteByQuery] at hq
  | @lbsThrew es deleted lbs hq hl =>
    refine ⟨es, lbs, false, ⟨rfl, fun h hne => Es.deleteByQuery_other hq hne⟩, ?_,
      fun ha => ⟨(hall hq ha).1, ?_⟩⟩
    · intro _ hr
      have := hr.2.2.2.2.2.2.2
      cases hL : c.lbsDelete <;> simp_all [removeLbs]
    · intro hok
      simp [hok, removeLbs] at hl
  | @removed es deleted ok lbs hq hl =>
    refine ⟨es, lbs, !ok || decide (deleted = 0), ⟨rfl, fun h hne => Es.deleteByQuery_other hq hne⟩, ?_,
      fun ha => ⟨(hall hq ha).1, ?_⟩⟩
    · intro hag hr
      simp only [Bool.or_eq_false_iff, decide_eq_false_iff_not] at hag
      rcases hr.2.2.2.2.1 with hd | hd
      · exact (hall hq hd).1
      · rw [hd] at hq
        have := (Es.deleteByQuery_none hq).2
        simp only [Option.some.injEq] at this
        exact absurd this hag.2
    · intro hok
      have hn' := (hall hq ha).2
      simp only [Option.some.injEq] at hn'
      simp only [hok, removeLbs, Prod.mk.injEq, Option.some.injEq] at hl
      rw [← hl.2, hn', Bool.not_true, Bool.false_or]
      cases s.es.docsOf m.houseId <;> simp

/-- The listener takes the head of the queue and runs its handler. -/
theorem handleMessage_cases {env : Env} {c : Calls} {s s' : Sys} (h : handleMessage env c s = some s') :
    ∃ m rest, s.queue = m :: rest ∧
      (m.operation = .index ∧ s' = createOrUpdateIndex env c m { s with queue := rest } ∨
        m.operation = .remove ∧ s' = removeIndex env c m { s with queue := rest }) := by
  unfold handleMessage at h
  cases hq : s.queue with
  | nil => simp [hq] at h
  | cons m rest =>
    simp only [hq, Option.some.injEq] at h
    refine ⟨m, rest, rfl, ?_⟩
    cases ho : m.operation with
    | index => rw [ho] at h; exact Or.inl ⟨rfl, h.symm⟩
    | remove => rw [ho] at h; exact Or.inr ⟨rfl, h.symm⟩

/-- A listener step: it took `m` and left the stores `es` and `lbs`; `again`
tells whether the message was sent again. -/
structure Handled (env : Env) (c : Calls) (s s' : Sys) (m : HouseIndexMessage)
    (rest : List HouseIndexMessage) (es : Es) (lbs : List LbsPoint) (again : Bool) : Prop where
  queue : s.queue = m :: rest
  ran : Ran m { s with queue := rest } s' es lbs again
  index : m.operation = .index → again = false → Reported c → Indexable s.db m.houseId →
    ∃ d, es.docsOf m.houseId = [d] ∧
      (c.analyze = .ok → some d.source = currentTemplate env s.db m.houseId)
  remove : m.operation = .remove → again = false → Reported c → es.docsOf m.houseId = []
  removeAll : m.operation = .remove → c.delete = .all → es.docsOf m.houseId = [] ∧
    (c.lbsDelete = .ok → again = (s.es.docsOf m.houseId).isEmpty)
  completes : Reported c → Completes c s.es m → again = false

theorem handleMessage_handled {env : Env} (hn : env.nrt = false) {c : Calls} {s s' : Sys}
    (h : handleMessage env c s = some s') :
    ∃ m rest es lbs again, Handled env c s s' m rest es lbs again := by
  obtain ⟨m, rest, hq, ⟨ho, rfl⟩ | ⟨ho, rfl⟩⟩ := handleMessage_cases h
  · have hno : m.operation ≠ .remove := by rw [ho]; decide
    obtain ⟨es, lbs, again, hr, hidx, hdone⟩ := createOrUpdateIndex_run hn c m ho { s with queue := rest }
    exact ⟨m, rest, es, lbs, again, hq, hr, fun _ => hidx, fun h => absurd h hno,
      fun h => absurd h hno, hdone⟩
  · have hno : m.operation ≠ .index := by rw [ho]; decide
    obtain ⟨es, lbs, again, hr, hrem, hall⟩ := removeIndex_run hn c m ho { s with queue := rest }
    refine ⟨m, rest, es, lbs, again, hq, hr, fun h => absurd h hno, fun _ => hrem, fun _ => hall, ?_⟩
    intro _ hC
    rw [Completes, ho] at hC
    rw [(hall hC.1).2 hC.2.1]
    simpa using hC.2.2

/-! ## Runs in general, whatever searches see -/

/-- The run reaches the write of a document, and no call before it fails. -/
def Stores (c : Calls) (db : Db) (h : Long) : Prop :=
  c.geocode = .ok ∧ c.search = true ∧ c.analyze ≠ .threw ∧ c.write = .ok ∧ Indexable db h

instance (c : Calls) (db : Db) (h : Long) : Decidable (Stores c db h) := by
  unfold Stores; infer_instance

theorem suggest_not_threw {env : Env} {a : Status} {t t' : HouseIndexTemplate}
    (h : updateSuggest env a t = some t') : a ≠ .threw := by
  rintro rfl; cases h

theorem create_docs {env : Env} {c : Calls} {t : HouseIndexTemplate} {es es' : Es} {r : Option Bool}
    (h : create env c t es = (es', r)) : es'.searched = es.searched ∧
      ∀ d ∈ es'.docs.rows, d ∈ es.docs.rows ∨
        (d.source.houseId = t.houseId ∧ c.analyze ≠ .threw ∧ c.write = .ok) := by
  rcases create_cases h with ⟨-, hw, t', docs, hs, hi, rfl⟩ | ⟨-, rfl⟩
  · refine ⟨rfl, fun d hd => ?_⟩
    rw [(Table.insert?_some hi).1] at hd
    rcases List.mem_append.mp hd with hd | hd
    · exact Or.inl hd
    · rw [List.mem_singleton.mp hd]
      exact Or.inr ⟨updateSuggest_houseId hs, suggest_not_threw hs, hw⟩
  · exact ⟨rfl, fun d hd => Or.inl hd⟩

theorem update_docs {env : Env} {c : Calls} {e : Int} {t : HouseIndexTemplate} {es es' : Es}
    {r : Option Bool} (h : update env c e t es = (es', r)) : es'.searched = es.searched ∧
      ∀ d ∈ es'.docs.rows, d ∈ es.docs.rows ∨
        (d.source.houseId = t.houseId ∧ c.analyze ≠ .threw ∧ c.write = .ok) := by
  rcases update_cases h with ⟨-, hw, t', -, hs, -, rfl⟩ | ⟨-, rfl⟩
  · refine ⟨rfl, fun d hd => ?_⟩
    obtain ⟨a, ha, rfl⟩ := Es.mem_setSource.mp hd
    split
    · exact Or.inr ⟨updateSuggest_houseId hs, suggest_not_threw hs, hw⟩
    · exact Or.inl ha
  · exact ⟨rfl, fun d hd => Or.inl hd⟩

theorem deleteByQuery_docs {env : Env} {es es' : Es} {o : Deleted} {h : Long} {n : Option Nat}
    (hq : es.deleteByQuery env o h = (es', n)) : es'.searched = es.searched ∧
      es'.docs.next = es.docs.next ∧ es'.docs.rows.Sublist es.docs.rows := by
  cases o with
  | threw =>
    simp only [Es.deleteByQuery, Prod.mk.injEq] at hq
    rw [← hq.1]; exact ⟨rfl, rfl, .refl _⟩
  | all =>
    simp only [Es.deleteByQuery, Prod.mk.injEq] at hq
    rw [← hq.1]; exact ⟨rfl, rfl, List.filter_sublist⟩
  | atMost k =>
    simp only [Es.deleteByQuery, Prod.mk.injEq] at hq
    rw [← hq.1]; exact ⟨rfl, rfl, List.filter_sublist⟩

theorem writeTemplate_docs {env : Env} {c : Calls} {h : Long} {t : HouseIndexTemplate} {es es' : Es}
    {r : Option Bool} (hw : writeTemplate env c h t es = (es', r)) : es'.searched = es.searched ∧
      ∀ d ∈ es'.docs.rows, d ∈ es.docs.rows ∨
        (d.source.houseId = t.houseId ∧ c.search = true ∧ c.analyze ≠ .threw ∧ c.write = .ok) := by
  unfold writeTemplate at hw
  by_cases hs : c.search = true
  · rw [if_pos hs] at hw
    unfold writeOver at hw
    split at hw
    · obtain ⟨h1, h2⟩ := create_docs hw
      exact ⟨h1, fun d hd => (h2 d hd).imp id fun ⟨hh, ha, hw⟩ => ⟨hh, hs, ha, hw⟩⟩
    · obtain ⟨h1, h2⟩ := update_docs hw
      exact ⟨h1, fun d hd => (h2 d hd).imp id fun ⟨hh, ha, hw⟩ => ⟨hh, hs, ha, hw⟩⟩
    · unfold deleteAndCreate at hw
      cases hq : es.deleteByQuery env c.delete t.houseId with
      | mk es1 n =>
        obtain ⟨h1, -, h2⟩ := deleteByQuery_docs hq
        rw [hq] at hw
        cases n with
        | none =>
          simp only [Prod.mk.injEq] at hw
          rw [← hw.1]; exact ⟨h1, fun d hd => Or.inl (h2.subset hd)⟩
        | some k =>
          simp only at hw
          split at hw
          · simp only [Prod.mk.injEq] at hw
            rw [← hw.1]; exact ⟨h1, fun d hd => Or.inl (h2.subset hd)⟩
          · obtain ⟨h3, h4⟩ := create_docs hw
            exact ⟨h3.trans h1, fun d hd => (h4 d hd).imp (fun hd => h2.subset hd) fun ⟨hh, ha, hw⟩ => ⟨hh, hs, ha, hw⟩⟩
  · simp only [hs, Bool.false_eq_true, if_false, Prod.mk.injEq] at hw
    rw [← hw.1]; exact ⟨rfl, fun d hd => Or.inl hd⟩

@[simp] theorem send_db (op : Operation) (h : Long) (r : Int) (s : Sys) : (send op h r s).db = s.db := by
  unfold send; split <;> rfl

@[simp] theorem send_es (op : Operation) (h : Long) (r : Int) (s : Sys) : (send op h r s).es = s.es := by
  unfold send; split <;> rfl

@[simp] theorem send_lbs (op : Operation) (h : Long) (r : Int) (s : Sys) : (send op h r s).lbs = s.lbs := by
  unfold send; split <;> rfl

theorem resend_db (again : Bool) (m : HouseIndexMessage) (s : Sys) : (resend again m s).db = s.db := by
  unfold resend; split <;> simp

theorem resend_es (again : Bool) (m : HouseIndexMessage) (s : Sys) : (resend again m s).es = s.es := by
  unfold resend; split <;> simp

theorem resend_lbs (again : Bool) (m : HouseIndexMessage) (s : Sys) : (resend again m s).lbs = s.lbs := by
  unfold resend; split <;> simp

/-- An index run leaves the index as it is or as the write left it, then
changes the LBS table, then may send its message again. -/
theorem createOrUpdateIndex_effect (env : Env) (c : Calls) {m : HouseIndexMessage}
    (hm : m.operation = .index) (s : Sys) :
    ∃ es lbs again, createOrUpdateIndex env c m s = resend again m { s with es := es, lbs := lbs } ∧
      (¬ (c.geocode = .ok ∧ Indexable s.db m.houseId) ∧ es = s.es ∨
        (c.geocode = .ok ∧ Indexable s.db m.houseId) ∧ ∃ t, t.houseId = m.houseId ∧
          es = (writeTemplate env c m.houseId t s.es).1) := by
  have hrun := createOrUpdateIndex_ends env c hm s
  generalize createOrUpdateIndex env c m s = s' at hrun ⊢
  cases hrun with
  | rowsMissing h => exact ⟨s.es, s.lbs, false, rfl, Or.inl ⟨fun hx => h hx.2, rfl⟩⟩
  | geocodeThrew hg => exact ⟨s.es, s.lbs, false, rfl, Or.inl ⟨by simp [hg], rfl⟩⟩
  | geocodeFailed hg => exact ⟨s.es, s.lbs, true, rfl, Or.inl ⟨by simp [hg], rfl⟩⟩
  | @writeThrew t es hl hw =>
    exact ⟨es, s.lbs, false, rfl, Or.inr ⟨⟨hl.geocode, hl.indexable⟩, t, hl.houseId, by rw [hw]⟩⟩
  | @uploadThrew t es success p lbs hl hw hu =>
    exact ⟨es, lbs, false, rfl, Or.inr ⟨⟨hl.geocode, hl.indexable⟩, t, hl.houseId, by rw [hw]⟩⟩
  | @uploaded t es success ok p lbs hl hw hu =>
    exact ⟨es, lbs, !success || !ok, rfl, Or.inr ⟨⟨hl.geocode, hl.indexable⟩, t, hl.houseId, by rw [hw]⟩⟩

/-- A remove run deletes by query, then changes the LBS table, then may send
its message again. -/
theorem removeIndex_effect (env : Env) (c : Calls) {m : HouseIndexMessage} (hm : m.operation = .remove)
    (s : Sys) : ∃ lbs again, removeIndex env c m s =
      resend again m { s with es := (s.es.deleteByQuery env c.delete m.houseId).1, lbs := lbs } := by
  have hrun := removeIndex_ends env c hm s
  generalize removeIndex env c m s = s' at hrun ⊢
  cases hrun with
  | deleteThrew hq => exact ⟨s.lbs, false, by rw [hq]; rfl⟩
  | @lbsThrew es deleted lbs hq hl => exact ⟨lbs, false, by rw [hq]; rfl⟩
  | @removed es deleted ok lbs hq hl => exact ⟨lbs, !ok || decide (deleted = 0), by rw [hq]⟩

/-- A listener step takes the head, changes the two stores and may send the
head again. -/
theorem handleMessage_effect {env : Env} {c : Calls} {s s' : Sys} (h : handleMessage env c s = some s') :
    ∃ m rest es lbs again, s.queue = m :: rest ∧
      s' = resend again m { s with queue := rest, es := es, lbs := lbs } := by
  obtain ⟨m, rest, hq, ⟨ho, he⟩ | ⟨ho, he⟩⟩ := handleMessage_cases h
  · obtain ⟨es, lbs, again, hr, -⟩ := createOrUpdateIndex_effect env c ho { s with queue := rest }
    exact ⟨m, rest, es, lbs, again, hq, he.trans hr⟩
  · obtain ⟨lbs, again, hr⟩ := removeIndex_effect env c ho { s with queue := rest }
    exact ⟨m, rest, _, lbs, again, hq, he.trans hr⟩

/-! ## Documents a run may add, whatever searches see -/

theorem createOrUpdateIndex_docs (env : Env) (c : Calls) {m : HouseIndexMessage} (hm : m.operation = .index)
    (s : Sys) :
    (createOrUpdateIndex env c m s).db = s.db ∧
      (createOrUpdateIndex env c m s).es.searched = s.es.searched ∧
      ∀ d ∈ (createOrUpdateIndex env c m s).es.docs.rows, d ∈ s.es.docs.rows ∨
        (d.source.houseId = m.houseId ∧ Stores c s.db m.houseId) := by
  obtain ⟨es, lbs, again, he, hes⟩ := createOrUpdateIndex_effect env c hm s
  rw [he, resend_db, resend_es]
  rcases hes with ⟨-, rfl⟩ | ⟨⟨hg, hix⟩, t, ht, rfl⟩
  · exact ⟨rfl, rfl, fun _ h => Or.inl h⟩
  · obtain ⟨h1, h2⟩ := writeTemplate_docs (r := (writeTemplate env c m.houseId t s.es).2) (Prod.eta _).symm
    exact ⟨rfl, h1, fun d hd => (h2 d hd).imp id fun ⟨hh, hs, ha, hw⟩ => ⟨hh.trans ht, hg, hs, ha, hw, hix⟩⟩

theorem removeIndex_docs (env : Env) (c : Calls) {m : HouseIndexMessage} (hm : m.operation = .remove)
    (s : Sys) : (removeIndex env c m s).db = s.db ∧ (removeIndex env c m s).es.searched = s.es.searched ∧
      (removeIndex env c m s).es.docs.next = s.es.docs.next ∧
      (removeIndex env c m s).es.docs.rows.Sublist s.es.docs.rows := by
  obtain ⟨lbs, again, he⟩ := removeIndex_effect env c hm s
  rw [he, resend_db, resend_es]
  exact ⟨rfl, deleteByQuery_docs (Prod.eta _).symm⟩

/-- A listener step adds documents only of the house of an index message, and
only when the run `Stores`. -/
theorem handleMessage_docs {env : Env} {c : Calls} {s s' : Sys} (h : handleMessage env c s = some s') :
    s'.db = s.db ∧ s'.es.searched = s.es.searched ∧ ∃ m rest, s.queue = m :: rest ∧
      ∀ d ∈ s'.es.docs.rows, d ∈ s.es.docs.rows ∨
        (d.source.houseId = m.houseId ∧ m.operation = .index ∧ Stores c s.db m.houseId) := by
  obtain ⟨m, rest, hq, ⟨ho, rfl⟩ | ⟨ho, rfl⟩⟩ := handleMessage_cases h
  · obtain ⟨h1, h2, h3⟩ := createOrUpdateIndex_docs env c ho { s with queue := rest }
    exact ⟨h1, h2, m, rest, hq, fun d hd => (h3 d hd).imp id fun ⟨hh, hs⟩ => ⟨hh, ho, hs⟩⟩
  · obtain ⟨h1, h2, -, h3⟩ := removeIndex_docs env c ho { s with queue := rest }
    exact ⟨h1, h2, m, rest, hq, fun d hd => Or.inl (h3.subset hd)⟩

end SearchService

end Soufang
