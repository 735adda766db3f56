import Soufang.L3System.System

/-!
# What one handler run leaves

An index run meets any number of documents of its house: it creates one,
updates the only one, or deletes all and creates one, and each of these calls
may fail. `index_repairs`: a run that is over (its message neither sent again
nor given up, no call threw) leaves exactly one document, the template of the
current rows; every run leaves the other houses alone and no more documents
than there were, or one.

A remove run decides by what this run deleted whether its message is sent
again. `remove_retry_iff`: that is right, in that the message is sent exactly
when a document or an LBS row is left, for the outcomes in `RetriesRight`.
-/
namespace Soufang

namespace SearchService

/-! ## Index runs -/

/-- The template of the current rows, with suggestions when the analysis
answered with tokens. -/
def builtTemplate (env : Env) (analyze : Status) (db : Db) (h : Long) : Option HouseIndexTemplate :=
  (currentTemplate env db h).map fun t =>
    match analyze with
    | .ok => t
    | _ => { t with suggest := none }

theorem Located.built {env : Env} {c : Calls} {db : Db} {h : Long} {t t' : HouseIndexTemplate}
    (hl : Located env c db h t) (hs : updateSuggest env c.analyze t = some t') :
    some t' = builtTemplate env c.analyze db h := by
  have hplain : { t with suggest := none } = t := by
    have hp := hl.plain
    cases t
    simp only at hp
    rw [hp]
  unfold builtTemplate
  rw [← hl.current]
  cases ha : c.analyze with
  | ok =>
    rw [ha] at hs
    simp only [updateSuggest, Option.some.injEq] at hs
    simp [updateSuggest, hs]
  | failed =>
    rw [ha] at hs
    simp only [updateSuggest, Option.some.injEq] at hs
    simp only [updateSuggest, Option.map_some, Option.some.injEq]
    rw [← hs]
    exact hplain.symm
  | threw =>
    rw [ha] at hs
    cases hs

section
variable {env : Env} {c : Calls} {t : HouseIndexTemplate} {es es' : Es} {h : Long} {r : Option Bool}

theorem create_length (hc : create env c t es = (es', r)) :
    (es'.docsOf h).length ≤ (es.docsOf h).length + 1 := by
  rcases create_cases hc with ⟨-, -, t', docs, -, hi, rfl⟩ | ⟨-, rfl⟩
  · rw [Es.docsOf_insert hi, List.length_append]
    split <;> simp
  · omega

theorem deleteByQuery_length {o : Deleted} {n : Option Nat} (hq : es.deleteByQuery env o h = (es', n)) :
    (es'.docsOf h).length ≤ (es.docsOf h).length :=
  ((deleteByQuery_docs hq).2.2.filter _).length_le

/-- After a full delete the new document is the only one. -/
theorem deleteAndCreate_length {n : Nat} (hw : deleteAndCreate env c n t es = (es', r))
    (hn : n = (es.docsOf t.houseId).length) :
    (es'.docsOf t.houseId).length ≤ max (es.docsOf t.houseId).length 1 := by
  unfold deleteAndCreate at hw
  cases hq : es.deleteByQuery env c.delete t.houseId with
  | mk es1 deleted =>
    have hlen := deleteByQuery_length hq
    rw [hq] at hw
    cases deleted with
    | none =>
      simp only [Prod.mk.injEq] at hw
      rw [← hw.1]
      omega
    | some k =>
      simp only at hw
      split at hw
      · simp only [Prod.mk.injEq] at hw
        rw [← hw.1]
        omega
      · rename_i hk
        simp only [ne_eq, not_not] at hk
        have hone := create_length (h := t.houseId) hw
        rw [hk, hn] at hq
        rw [Es.deleteByQuery_complete hq] at hone
        simp only [List.length_nil] at hone
        omega

/-- A write leaves no more documents of the house than there were, or one. -/
theorem writeTemplate_length (hn : env.nrt = false) (hw : writeTemplate env c h t es = (es', r))
    (ht : t.houseId = h) : (es'.docsOf h).length ≤ max (es.docsOf h).length 1 := by
  subst ht
  by_cases hs : c.search = true
  · rw [writeTemplate_eq hn hs] at hw
    unfold writeOver at hw
    split at hw
    · rename_i hnil
      have hlen := create_length (h := t.houseId) hw
      rw [hnil] at hlen ⊢
      exact hlen
    · rename_i d hd
      obtain ⟨hmem, hh⟩ := Es.mem_docsOf.mp (by rw [hd]; exact List.mem_singleton.mpr rfl : d ∈ es.docsOf t.houseId)
      rcases update_cases hw with ⟨-, -, t', -, hs', -, rfl⟩ | ⟨-, rfl⟩
      · rw [Es.docsOf_setSource hmem (hh.trans (updateSuggest_houseId hs').symm), List.length_map]
        exact Nat.le_max_left _ _
      · exact Nat.le_max_left _ _
    · exact deleteAndCreate_length hw rfl
  · unfold writeTemplate at hw
    simp only [hs, Bool.false_eq_true, if_false, Prod.mk.injEq] at hw
    rw [← hw.1]
    exact Nat.le_max_left _ _

end

/-- A run that sends its message again, or would but for the limit. -/
theorem again_of_idle {m : HouseIndexMessage} {again : Bool} {s : Sys} (hq : (resend again m s).queue = s.queue)
    (hg : (resend again m s).gaveUp = s.gaveUp) : again = false := by
  cases again with
  | false => rfl
  | true =>
    simp only [resend, if_true] at hq hg
    unfold send at hq hg
    split at hq
    · rename_i hlt
      simp [hlt] at hg
    · simp at hq

/-- What an index run has to leave. -/
structure Repairs (env : Env) (c : Calls) (m : HouseIndexMessage) (s s' : Sys) : Prop where
  other : ∀ h, h ≠ m.houseId → s'.es.docsOf h = s.es.docsOf h
  settled : s'.queue = s.queue → ∃ d, s'.es.docsOf m.houseId = [d] ∧
    some d.source = builtTemplate env c.analyze s.db m.houseId
  requeued : s'.queue ≠ s.queue → (s'.es.docsOf m.houseId).length ≤ max (s.es.docsOf m.houseId).length 1

/-- **Indexing repairs.** Whatever documents the house has and whatever the
calls answer: the other houses keep theirs, and the house has no more than
before, or one. When the message is neither sent again nor given up, and no
call threw, the house has exactly one, the template of the current rows. -/
theorem index_repairs {env : Env} (hn : env.nrt = false) (c : Calls) {m : HouseIndexMessage}
    (hm : m.operation = .index) {s : Sys} (hi : Indexable s.db m.houseId) :
    let s' := createOrUpdateIndex env c m s
    (∀ h, h ≠ m.houseId → s'.es.docsOf h = s.es.docsOf h) ∧
      (s'.queue = s.queue → s'.gaveUp = s.gaveUp → Answered c → ∃ d, s'.es.docsOf m.houseId = [d] ∧
        some d.source = builtTemplate env c.analyze s.db m.houseId) ∧
      (s'.es.docsOf m.houseId).length ≤ max (s.es.docsOf m.houseId).length 1 := by
  dsimp only
  have hrun := createOrUpdateIndex_ends env c hm s
  generalize createOrUpdateIndex env c m s = s' at hrun ⊢
  cases hrun with
  | rowsMissing h => exact absurd hi h
  | geocodeThrew hg =>
    refine ⟨fun _ _ => rfl, fun _ _ hc => absurd hg hc.geocode, Nat.le_max_left _ _⟩
  | geocodeFailed hg =>
    rw [resend_es]
    refine ⟨fun _ _ => rfl, fun hq hu _ => ?_, Nat.le_max_left _ _⟩
    cases again_of_idle hq hu
  | @writeThrew t es hl hw =>
    refine ⟨fun h hne => writeTemplate_other hn hw hl.houseId hne, fun _ _ hc => ?_,
      writeTemplate_length hn hw hl.houseId⟩
    exact absurd (congrArg Prod.snd hw) (writeTemplate_answered hn hc)
  | @uploadThrew t es success p lbs hl hw hu =>
    refine ⟨fun h hne => writeTemplate_other hn hw hl.houseId hne, fun _ _ hc => ?_,
      writeTemplate_length hn hw hl.houseId⟩
    exact absurd (congrArg Prod.snd hu) (lbsUpload_answered hc _ _)
  | @uploaded t es success ok p lbs hl hw hu =>
    rw [resend_es]
    refine ⟨fun h hne => writeTemplate_other hn hw hl.houseId hne, fun hq hg _ => ?_,
      writeTemplate_length hn hw hl.houseId⟩
    have hag := again_of_idle (s := { s with es := es, lbs := lbs }) hq hg
    simp only [Bool.or_eq_false_iff, Bool.not_eq_false'] at hag
    obtain ⟨rfl, -⟩ := hag
    obtain ⟨t', d, hs, hdocs, hsrc⟩ := writeTemplate_true hn hw hl.houseId
    refine ⟨d, hdocs, ?_⟩
    rw [hsrc]
    exact hl.built hs

/-- House 1 with two documents of an old price. -/
def doubled : Sys :=
  let write (es : Es) : Es :=
    match currentTemplate Sample.env Sample.stored.db 1 with
    | some t => (create Sample.env Calls.success { t with price := 1 } es).1
    | none => es
  { Sample.stored with es := write (write Sample.stored.es) }

/-- The two documents become one, of the current price. -/
theorem index_repairs_sample : (doubled.es.docsOf 1).map (fun d => d.source.price) = [1, 1] ∧
    ∃ d, (createOrUpdateIndex Sample.env Calls.success ⟨1, .index, 0⟩ doubled).es.docsOf 1 = [d] ∧
      d.source.price = 5000 := by
  have hnrt : Sample.env.nrt = false := rfl
  have hindex : (⟨1, .index, 0⟩ : HouseIndexMessage).operation = .index := rfl
  have hrows : Indexable doubled.db (1 : Long) := by decide +kernel
  have hqueue : (createOrUpdateIndex Sample.env Calls.success ⟨1, .index, 0⟩ doubled).queue = doubled.queue := by
    decide +kernel
  have hgaveUp : (createOrUpdateIndex Sample.env Calls.success ⟨1, .index, 0⟩ doubled).gaveUp = doubled.gaveUp := by
    decide +kernel
  have hanswered : Answered Calls.success := by constructor <;> decide
  obtain ⟨d, hd, hsource⟩ := (index_repairs hnrt Calls.success hindex hrows).2.1 hqueue hgaveUp hanswered
  have hprice : (builtTemplate Sample.env .ok doubled.db 1).map HouseIndexTemplate.price = some 5000 := by
    decide +kernel
  refine ⟨by decide +kernel, d, hd, ?_⟩
  rw [show builtTemplate Sample.env .ok doubled.db 1 = some d.source from hsource.symm] at hprice
  exact Option.some.inj hprice

/-- The index message of house 1 at the limit. -/
def lastRetry : HouseIndexMessage := ⟨1, .index, MAX_RETRY⟩

/-- **The last retry.** At `MAX_RETRY` a failed write is given up: nothing is
sent, and the house has no document. -/
theorem last_retry_gives_up :
    ¬ ∀ (env : Env) (c : Calls) (m : HouseIndexMessage) (s : Sys), env.nrt = false → m.operation = .index →
      Indexable s.db m.houseId → Repairs env c m s (createOrUpdateIndex env c m s) := by
  intro hall
  have h := hall Sample.env { Calls.success with write := .failed } lastRetry Sample.stored rfl rfl
    (by decide +kernel)
  obtain ⟨d, hd, -⟩ := h.settled (by decide +kernel)
  have hnone : (createOrUpdateIndex Sample.env { Calls.success with write := .failed } lastRetry
      Sample.stored).es.docsOf 1 = [] := by decide +kernel
  rw [show lastRetry.houseId = 1 from rfl, hnone] at hd
  cases hd

/-! ## Remove runs -/

/-- A document or an LBS row of the house. -/
def Remains (h : Long) (s : Sys) : Prop := s.es.docsOf h ≠ [] ∨ ∃ p ∈ s.lbs, p.houseId = h

/-- The run sent its message again. -/
def Resent (m : HouseIndexMessage) (s s' : Sys) : Prop :=
  s'.queue = s.queue ++ [{ m with retry := m.retry + 1 }]

/-- The outcomes after which the test of `removeIndex` is right, by how the two
deletions end: `gone` are the documents of the house the first one removes. -/
def RetriesRight (env : Env) (c : Calls) (h : Long) (s : Sys) : Prop :=
  let docs := s.es.docsOf h
  let gone := s.es.victims env h c.delete
  let point := ∃ p ∈ s.lbs, p.houseId = h
  match c.delete, c.lbsDelete with
  | .threw, _ => docs = [] ∧ ¬ point
  | _, .threw => gone = docs ∧ ¬ point
  | _, .ok => docs ≠ [] ∧ (gone = [] ∨ gone = docs)
  | _, .failed => gone ≠ docs ∨ point

section
variable {env : Env} {c : Calls} {m : HouseIndexMessage} {s : Sys} {h : Long}

theorem resent_iff {again : Bool} {es : Es} {lbs : List LbsPoint} (hr : m.retry < MAX_RETRY) :
    Resent m s (resend again m { s with es := es, lbs := lbs }) ↔ again = true := by
  unfold Resent
  rw [resend_queue]
  cases again with
  | false => simp [requeued]
  | true => simp [requeued, nextRetry_eq hr.le, show m.retry + 1 ≤ MAX_RETRY by omega]

/-- The documents left after a delete-by-query: none iff it deleted all. -/
theorem docsOf_deleteByQuery {es es' : Es} {o : Deleted} {n : Nat}
    (hq : es.deleteByQuery env o h = (es', some n)) :
    n = (es.victims env h o).length ∧ (es'.docsOf h = [] ↔ es.victims env h o = es.docsOf h) := by
  have hes : es' = { es with docs := es.docs.remove fun d => decide (d ∈ es.victims env h o) } ∧
      n = (es.victims env h o).length := by
    cases o with
    | threw => simp [Es.deleteByQuery] at hq
    | all => simp only [Es.deleteByQuery, Prod.mk.injEq, Option.some.injEq] at hq; exact ⟨hq.1.symm, hq.2.symm⟩
    | atMost k => simp only [Es.deleteByQuery, Prod.mk.injEq, Option.some.injEq] at hq; exact ⟨hq.1.symm, hq.2.symm⟩
  obtain ⟨rfl, hn⟩ := hes
  refine ⟨hn, ?_⟩
  have hsub := Es.victims_sublist env es h o
  have hnodup : (es.docsOf h).Nodup := (List.Nodup.of_map _ es.docs.keys).sublist List.filter_sublist
  rw [Es.docsOf_remove, List.filter_eq_nil_iff]
  constructor
  · intro hall
    have hmem : es.docsOf h ⊆ es.victims env h o := fun d hd => by simpa using hall d hd
    exact hsub.eq_of_length_le (hnodup.subperm hmem).length_le
  · intro he d hd
    simpa [he] using hd

theorem not_remains : ¬ Remains h s ↔ s.es.docsOf h = [] ∧ ¬ ∃ p ∈ s.lbs, p.houseId = h := by
  unfold Remains
  rw [not_or, ne_eq, not_not]

theorem not_resent {es : Es} {lbs : List LbsPoint} : ¬ Resent m s { s with es := es, lbs := lbs } := by
  simp [Resent]

theorem removeLbs_cases {o : Status} {lbs lbs' : List LbsPoint} {r : Option Bool}
    (hl : removeLbs o h lbs = (lbs', r)) :
    (o = .ok ∧ r = some true ∧ ¬ ∃ p ∈ lbs', p.houseId = h) ∨ (o = .failed ∧ r = some false ∧ lbs' = lbs) ∨
      (o = .threw ∧ r = none ∧ lbs' = lbs) := by
  cases o with
  | ok =>
    simp only [removeLbs, Prod.mk.injEq] at hl
    refine Or.inl ⟨rfl, hl.2.symm, ?_⟩
    rw [← hl.1]
    simp
  | failed =>
    simp only [removeLbs, Prod.mk.injEq] at hl
    exact Or.inr (Or.inl ⟨rfl, hl.2.symm, hl.1.symm⟩)
  | threw =>
    simp only [removeLbs, Prod.mk.injEq] at hl
    exact Or.inr (Or.inr ⟨rfl, hl.2.symm, hl.1.symm⟩)

/-- `RetriesRight` for a delete-by-query that answers. -/
theorem retriesRight_answered (hd : c.delete ≠ .threw) : RetriesRight env c h s ↔
    match c.lbsDelete with
    | .threw => s.es.victims env h c.delete = s.es.docsOf h ∧ ¬ ∃ p ∈ s.lbs, p.houseId = h
    | .ok => s.es.docsOf h ≠ [] ∧
        (s.es.victims env h c.delete = [] ∨ s.es.victims env h c.delete = s.es.docsOf h)
    | .failed => s.es.victims env h c.delete ≠ s.es.docsOf h ∨ ∃ p ∈ s.lbs, p.houseId = h := by
  unfold RetriesRight
  cases hD : c.delete with
  | threw => exact absurd hD hd
  | all => cases c.lbsDelete <;> rfl
  | atMost n => cases c.lbsDelete <;> rfl

theorem deleteByQuery_threw {es es' : Es} {o : Deleted} (hq : es.deleteByQuery env o h = (es', none)) :
    o = .threw ∧ es' = es := by
  cases o with
  | threw => simp only [Es.deleteByQuery, Prod.mk.injEq] at hq; exact ⟨rfl, hq.1.symm⟩
  | all => simp [Es.deleteByQuery] at hq
  | atMost n => simp [Es.deleteByQuery] at hq

theorem not_threw_of_deleted {es es' : Es} {o : Deleted} {n : Nat}
    (hq : es.deleteByQuery env o h = (es', some n)) : o ≠ .threw := by
  intro ho
  rw [ho] at hq
  simp [Es.deleteByQuery] at hq

end

/-- **When a remove message is retried.** For every index and LBS table, and
however the two deletions end, the message is sent again exactly when
something of the house is left, if and only if the outcome `RetriesRight`. -/
theorem remove_retry_iff (env : Env) (c : Calls) {m : HouseIndexMessage} (hm : m.operation = .remove)
    (hr : m.retry < MAX_RETRY) (s : Sys) :
    (Resent m s (removeIndex env c m s) ↔ Remains m.houseId (removeIndex env c m s)) ↔
      RetriesRight env c m.houseId s := by
  have hrun := removeIndex_ends env c hm s
  generalize removeIndex env c m s = s' at hrun ⊢
  cases hrun with
  | @deleteThrew es hq =>
    obtain ⟨hd, rfl⟩ := deleteByQuery_threw hq
    rw [iff_false_left not_resent, not_remains, RetriesRight, hd]
  | @lbsThrew es deleted lbs hq hl =>
    obtain ⟨-, hleft⟩ := docsOf_deleteByQuery hq
    rw [iff_false_left not_resent, not_remains, retriesRight_answered (not_threw_of_deleted hq)]
    rcases removeLbs_cases hl with ⟨-, hn, -⟩ | ⟨-, hn, -⟩ | ⟨hL, -, rfl⟩
    · cases hn
    · cases hn
    · rw [hL]
      exact and_congr hleft Iff.rfl
  | @removed es deleted ok lbs hq hl =>
    obtain ⟨rfl, hleft⟩ := docsOf_deleteByQuery hq
    have hsub := Es.victims_sublist env s.es m.houseId c.delete
    rw [resent_iff hr, retriesRight_answered (not_threw_of_deleted hq)]
    unfold Remains
    rw [resend_es, resend_lbs, ne_eq, hleft]
    rcases removeLbs_cases hl with ⟨hL, hok, hgone⟩ | ⟨hL, hok, rfl⟩ | ⟨-, hok, -⟩
    · -- only the documents decide: the message is sent when none was deleted
      rw [hL]
      simp only [Option.some.injEq] at hok
      subst hok
      by_cases hnil : s.es.victims env m.houseId c.delete = []
      · simp [hnil, hgone]
      · have hdocs : s.es.docsOf m.houseId ≠ [] := by
          intro h
          rw [h] at hsub
          exact hnil (List.sublist_nil.mp hsub)
        simp [hnil, hgone, hdocs]
    · -- the message is sent whatever was deleted
      rw [hL]
      simp only [Option.some.injEq] at hok
      subst hok
      simp
    · cases hok

/-- A document and an LBS row, both deleted. -/
theorem remove_retry_indexed :
    let s := createOrUpdateIndex Sample.env Calls.success ⟨1, .index, 0⟩ Sample.stored
    Resent ⟨1, .remove, 0⟩ s (removeIndex Sample.env Calls.success ⟨1, .remove, 0⟩ s) ↔
      Remains 1 (removeIndex Sample.env Calls.success ⟨1, .remove, 0⟩ s) :=
  (remove_retry_iff Sample.env Calls.success (m := ⟨1, .remove, 0⟩) rfl (by decide) _).mpr
    ⟨by decide +kernel, Or.inr (by decide +kernel)⟩

/-- **Nothing to remove.** A remove message for a house without document and
LBS row is sent again, though both deletions succeed. -/
theorem remove_retry_of_nothing :
    ¬ ∀ (env : Env) (c : Calls) (m : HouseIndexMessage) (s : Sys), m.operation = .remove →
      m.retry < MAX_RETRY → (c.delete = .all ∨ c.delete = .atMost 0) →
      (c.lbsDelete = .ok ∨ c.lbsDelete = .failed) →
      (Resent m s (removeIndex env c m s) ↔ Remains m.houseId (removeIndex env c m s)) := by
  intro hall
  have h := hall Sample.env Calls.success ⟨1, .remove, 0⟩ Sample.fresh rfl (by decide) (Or.inl rfl) (Or.inl rfl)
  have hsent : Resent ⟨1, .remove, 0⟩ Sample.fresh
      (removeIndex Sample.env Calls.success ⟨1, .remove, 0⟩ Sample.fresh) := by
    unfold Resent
    decide +kernel
  exact absurd (h.mp hsent) (not_remains.mpr ⟨by decide +kernel, by decide +kernel⟩)

end SearchService

end Soufang
