import Soufang.L3System.System

/-!
# One document per house, when searches lag

With `env.nrt` a search and a delete-by-query see the documents of the last
refresh, which the code never asks for. `createOrUpdateIndex` searches the
house and creates a document when it finds none, so two runs between two
refreshes create two.

* `FoundFirst`: a run that creates a document does so for a house without one.
* `Lagging` is the invariant: with at most one visible document per house the
  handler never takes its third branch, and a document is rewritten only under
  the house it already belongs to.
* `one_document_iff`: the houses keep at most one document exactly in the runs
  whose steps are all `FoundFirst`; a refresh before the handler run is enough
  (`foundFirst_refresh`).
* `two_documents`: without it, a publication and its retry.
-/
namespace Soufang

open SearchService

def OneDocument (es : Es) : Prop := ∀ h, (es.docsOf h).length ≤ 1

/-- No run creates a document for a house that has one the search misses. -/
def FoundFirst (env : Env) (s : Sys) : Req → Prop
  | .handle c => ∀ m ∈ s.queue.head?, m.operation = .index → Stores c s.db m.houseId →
      s.es.hits env m.houseId = [] → s.es.docsOf m.houseId = []
  | _ => True

instance (env : Env) (s : Sys) (l : Req) : Decidable (FoundFirst env s l) := by
  unfold FoundFirst; split <;> infer_instance

/-- The index right after a refresh, with at most one document per house. -/
def Refreshed (s : Sys) : Prop := s.es.searched = s.es.docs.rows ∧ OneDocument s.es

/-- What searches see is an older version of an index with one document per
house: the documents may be gone or rewritten, but belong to the same house. -/
structure Lagging (es : Es) : Prop where
  live : OneDocument es
  seen : ∀ h, (es.searched.filter fun d => d.source.houseId = h).length ≤ 1
  same : ∀ v ∈ es.searched, ∀ d ∈ es.docs.rows, d.esId = v.esId → d.source.houseId = v.source.houseId
  old : ∀ v ∈ es.searched, v.esId < es.docs.next

theorem Lagging.of_refreshed {es : Es} (hs : es.searched = es.docs.rows) (h1 : OneDocument es) :
    Lagging es where
  live := h1
  seen h := by rw [hs]; exact h1 h
  same v hv d hd he := by
    rw [hs] at hv
    rw [Es.eq_of_esId hv hd he]
  old v hv := by
    rw [hs] at hv
    exact es.docs.fresh v hv

theorem hits_lagging {env : Env} (hn : env.nrt = true) (es : Es) (h : Long) :
    es.hits env h = es.searched.filter fun d => d.source.houseId = h := by
  simp [Es.hits, Es.visible, hn]

/-! ## The three ways a step changes the index -/

/-- Documents go. -/
theorem Lagging.shrink {es es' : Es} (hl : Lagging es) (hs : es'.searched = es.searched)
    (hn : es'.docs.next = es.docs.next) (hd : es'.docs.rows.Sublist es.docs.rows) : Lagging es' where
  live h := ((hd.filter _).length_le).trans (hl.live h)
  seen h := by rw [hs]; exact hl.seen h
  same v hv d hd' he := by
    rw [hs] at hv
    exact hl.same v hv d (hd.subset hd') he
  old v hv := by
    rw [hs] at hv
    rw [hn]
    exact hl.old v hv

/-- A document is added for a house without one. -/
theorem Lagging.insert {es : Es} {docs : Table EsDoc} {t : HouseIndexTemplate} (hl : Lagging es)
    (hi : es.docs.insert? { esId := 0, source := t } = some docs) (hnone : es.docsOf t.houseId = []) :
    Lagging { es with docs := docs } where
  live h := by
    rw [Es.docsOf_insert hi]
    split
    · rename_i he
      rw [← he, hnone]
      simp
    · rw [List.append_nil]
      exact hl.live h
  seen := hl.seen
  same v hv d hd he := by
    simp only [(Table.insert?_some hi).1, List.mem_append, List.mem_singleton] at hd
    rcases hd with hd | rfl
    · exact hl.same v hv d hd he
    · -- the new id was never seen
      exact absurd (hl.old v hv) (by rw [← he]; exact Int.lt_irrefl _)
  old v hv := by
    have hnext : docs.next = es.docs.next + 1 := (Table.insert?_some hi).2
    have := hl.old v hv
    show v.esId < docs.next
    omega

/-- A live document that the search found is rewritten for the same house. -/
theorem Lagging.rewrite {es : Es} {v d : EsDoc} {t : HouseIndexTemplate} (hl : Lagging es)
    (hv : v ∈ es.searched) (hd : es.docs.find? v.esId = some d) (ht : t.houseId = v.source.houseId) :
    Lagging (es.setSource v.esId t) := by
  obtain ⟨hmem, hid⟩ := Table.find?_some hd
  have hid : d.esId = v.esId := hid
  have hhouse : d.source.houseId = t.houseId := (hl.same v hv d hmem hid).trans ht.symm
  refine ⟨?_, hl.seen, ?_, hl.old⟩
  · intro h
    rw [← hid, Es.docsOf_setSource hmem hhouse, List.length_map]
    exact hl.live h
  · intro u hu a ha he
    obtain ⟨b, hb, rfl⟩ := Es.mem_setSource.mp ha
    by_cases hbe : b.esId = v.esId
    · rw [if_pos hbe] at he ⊢
      have hv := hl.same v hv b hb hbe
      have hu := hl.same u hu b hb he
      exact ht.trans (hv.symm.trans hu)
    · rw [if_neg hbe] at he ⊢
      exact hl.same u hu b hb he

/-! ## Handler runs -/

section
variable {env : Env} (hn : env.nrt = true) {c : Calls}

include hn

/-- With at most one hit the write creates, rewrites the hit, or does nothing. -/
theorem Lagging.write {h : Long} {t : HouseIndexTemplate} {es : Es} (hl : Lagging es)
    (ht : t.houseId = h)
    (hC : c.search = true → c.analyze ≠ .threw → c.write = .ok → es.hits env h = [] → es.docsOf h = []) :
    Lagging (writeTemplate env c h t es).1 := by
  subst ht
  unfold writeTemplate
  split
  · rename_i hsearch
    have hone : (es.hits env t.houseId).length ≤ 1 := by
      rw [hits_lagging hn]
      exact hl.seen _
    match hhits : es.hits env t.houseId with
    | [] =>
      simp only [writeOver]
      rcases create_cases (Prod.eta (create env c t es)).symm with
        ⟨-, hw, t', docs, hs, hi, he⟩ | ⟨-, he⟩
      · rw [he]
        refine hl.insert hi ?_
        rw [updateSuggest_houseId hs]
        exact hC hsearch (suggest_not_threw hs) hw hhits
      · rw [he]; exact hl
    | [v] =>
      simp only [writeOver]
      have hv : v ∈ es.hits env t.houseId := by rw [hhits]; exact List.mem_singleton.mpr rfl
      rw [hits_lagging hn] at hv
      obtain ⟨hv, hvh⟩ := List.mem_filter.mp hv
      rcases update_cases (Prod.eta (update env c v.esId t es)).symm with
        ⟨-, -, t', d, hs, hd, he⟩ | ⟨-, he⟩
      · rw [he]
        refine hl.rewrite hv hd ?_
        rw [updateSuggest_houseId hs]
        simpa [eq_comm] using hvh
      · rw [he]; exact hl
    | _ :: _ :: _ => simp [hhits] at hone
  · exact hl

theorem Lagging.handle {s s' : Sys} (hl : Lagging s.es) (hC : FoundFirst env s (.handle c))
    (h : handleMessage env c s = some s') : Lagging s'.es := by
  obtain ⟨m, rest, hq, ⟨ho, rfl⟩ | ⟨ho, rfl⟩⟩ := handleMessage_cases h
  · obtain ⟨es, lbs, again, he, hes⟩ := createOrUpdateIndex_effect env c ho { s with queue := rest }
    rw [he, resend_es]
    rcases hes with ⟨-, rfl⟩ | ⟨⟨hg, hix⟩, t, ht, rfl⟩
    · exact hl
    · refine hl.write hn ht fun hs ha hw hh => ?_
      exact hC m (by rw [hq]; rfl) ho ⟨hg, hs, ha, hw, hix⟩ hh
  · obtain ⟨-, hs, hnext, hd⟩ := removeIndex_docs env c ho { s with queue := rest }
    exact hl.shrink hs hnext hd

omit hn in
/-- A run that is not `FoundFirst` leaves the house a second document. -/
theorem not_oneDocument_handle {s s' : Sys} (hC : ¬ FoundFirst env s (.handle c))
    (h : handleMessage env c s = some s') : ¬ OneDocument s'.es := by
  simp only [FoundFirst, not_forall] at hC
  obtain ⟨m, hm, ho, ⟨hg, hs, ha, hw, hix⟩, hh, hd⟩ := hC
  obtain ⟨m', rest, hq, hcase⟩ := handleMessage_cases h
  have hmm : m' = m := by rw [hq] at hm; exact Option.some.inj hm
  subst hmm
  rcases hcase with ⟨-, rfl⟩ | ⟨ho', -⟩
  · obtain ⟨es, lbs, again, he, hes⟩ := createOrUpdateIndex_effect env c ho { s with queue := rest }
    rw [he, resend_es]
    rcases hes with ⟨hno, -⟩ | ⟨-, t, ht, rfl⟩
    · exact absurd ⟨hg, hix⟩ hno
    · have hcreate : (create env c t s.es).2 = some true := create_ok ha hw t s.es
      have hwrite : writeTemplate env c m'.houseId t s.es = create env c t s.es := by
        unfold writeTemplate
        rw [if_pos hs, hh, writeOver]
      rcases create_cases (Prod.eta (create env c t s.es)).symm with ⟨-, -, t', docs, hs', hi, hes⟩ | ⟨hf, -⟩
      · intro hone
        have hone := hone m'.houseId
        simp only at hone
        rw [hwrite, hes, Es.docsOf_insert hi, updateSuggest_houseId hs', if_pos ht,
          List.length_append] at hone
        have hpos := List.length_pos_iff.mpr hd
        simp only [List.length_singleton] at hone
        omega
      · exact absurd hcreate hf
  · rw [ho] at ho'
    cases ho'

end

/-! ## Whole runs -/

/-- Requests do not touch the index. -/
theorem step_es {env : Env} {s s' : Sys} {l : Req} (h : step env s l = some s')
    (hl : ∀ c, l ≠ .handle c) (hr : l ≠ .refresh) : s'.es = s.es := by
  cases l with
  | handle c => exact absurd rfl (hl c)
  | refresh => exact absurd rfl hr
  | updateStatus id status =>
    simp only [step, Option.some.injEq] at h
    rw [← h, updateStatus_es]
  | operateHouse id op =>
    simp only [step, Option.some.injEq] at h
    rw [← h]
    rcases operateHouse_cases id op s with he | ⟨o, -, he⟩
    · rw [he]
    · rw [he, updateStatus_es]
  | _ =>
    simp only [step, Option.some.injEq] at h
    rw [← h]

theorem lagging_step {env : Env} (hn : env.nrt = true) {s s' : Sys} {l : Req} (hl : Lagging s.es)
    (h : step env s l = some s') (hC : FoundFirst env s l) : Lagging s'.es := by
  cases l with
  | handle c => exact hl.handle hn hC h
  | refresh =>
    simp only [step, Option.some.injEq] at h
    rw [← h]
    exact .of_refreshed rfl hl.live
  | _ =>
    rw [step_es h (by simp) (by simp)]
    exact hl

theorem not_oneDocument_step {env : Env} {s s' : Sys} {l : Req} (h : step env s l = some s')
    (hC : ¬ FoundFirst env s l) : ¬ OneDocument s'.es := by
  cases l with
  | handle c => exact not_oneDocument_handle hC h
  | _ => exact absurd trivial hC

/-- A refresh just before the run is enough. -/
theorem foundFirst_refresh {env : Env} (hn : env.nrt = true) (s : Sys) (l : Req) :
    FoundFirst env { s with es := s.es.refresh } l := by
  cases l with
  | handle c =>
    intro m _ _ _ hh
    rw [hits_lagging hn] at hh
    exact hh
  | _ => trivial

theorem lagging_inductive (env : Env) (hn : env.nrt = true) {init : Sys → Prop} (h : ∀ s, init s → Refreshed s) :
    ((system env init).restrict (FoundFirst env)).Inductive fun s : Sys => Lagging s.es where
  init s hs := .of_refreshed (h s hs).1 (h s hs).2
  step _ _ _ hl hstep := lagging_step hn hl hstep.1 hstep.2

/-- **One document per house.** In the runs from a refreshed index that create
a document only for a house without one, the houses have at most one; and a
run that keeps it so is one of these. -/
theorem one_document_iff (env : Env) (hn : env.nrt = true) :
    (∀ s, ((system env Refreshed).restrict (FoundFirst env)).Reachable s → OneDocument s.es) ∧
      ∀ s ls s', Refreshed s →
        (((system env Refreshed).within fun s => OneDocument s.es).Run s ls s' ↔
          ((system env Refreshed).restrict (FoundFirst env)).Run s ls s') := by
  refine ⟨fun s hr => ?_, fun s ls s' hs => ?_⟩
  · exact ((lagging_inductive env hn fun _ h => h).reachable hr).live
  · exact LTS.Run.within_iff (I := fun s : Sys => Lagging s.es) (fun _ hl => hl.live)
      (fun _ _ _ hl h hC => lagging_step hn hl h hC) (fun _ _ _ _ h hC => not_oneDocument_step h hC)
      (.of_refreshed hs.1 hs.2)

/-- The sample world with searches that lag. -/
def Sample.lagging : Env := { Sample.env with nrt := true }

theorem Sample.stored_refreshed : Refreshed Sample.stored :=
  ⟨rfl, fun _ => Nat.zero_le _⟩

/-- A retry after a refresh rewrites the document. -/
theorem one_document_retry : ∃ s : Sys, s.queue = [] ∧ s.es.docsOf 1 ≠ [] ∧ OneDocument s.es := by
  obtain ⟨s, hr, hq, hd⟩ := LTS.exists_reachable Refreshed (step Sample.lagging) (FoundFirst Sample.lagging)
    (fun s => s.queue = [] ∧ s.es.docsOf 1 ≠ []) Sample.stored_refreshed
    [.updateStatus 1 1, .handle { Calls.success with lbsWrite := .failed }, .refresh, .handle .success]
    (by decide +kernel)
  exact ⟨s, hq, hd, (one_document_iff Sample.lagging rfl).1 s hr⟩

/-- The calls the property is about: status changes, handler runs whose calls
succeed or report a failure, and refreshes. -/
def Indexing : Req → Prop
  | .updateStatus _ _ | .refresh => True
  | .handle c => Reported c
  | _ => False

instance (l : Req) : Decidable (Indexing l) := by
  unfold Indexing; split <;> infer_instance

/-- **Two documents of one house.** The house is published; its document is
created, but the LBS upload fails, and the retry comes before a refresh. -/
theorem two_documents :
    ¬ ∀ (env : Env) (s : Sys), env.nrt = true →
      ((system env Refreshed).restrict fun _ l => Indexing l).Reachable s → OneDocument s.es := by
  intro hall
  obtain ⟨s, hr, hd⟩ := LTS.exists_reachable Refreshed (step Sample.lagging) (fun _ l => Indexing l)
    (fun s => (s.es.docsOf 1).length = 2) Sample.stored_refreshed
    [.updateStatus 1 1, .handle { Calls.success with lbsWrite := .failed }, .handle .success]
    (by decide +kernel)
  have hone := hall Sample.lagging s rfl hr 1
  rw [hd] at hone
  exact absurd hone (by decide)

end Soufang
