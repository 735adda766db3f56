import Soufang.L3System.System

/-!
# The index agrees with the statuses

Status changes and message handling whose calls may report failures, from a
state in which exactly the PASSES houses have a document. A message that is
sent again goes behind the newer ones, and its handler does not look at the
status, so a retried message can undo a later one (`agreement_lost`). While no
message that may have to be sent again has an opposite one of its house behind
it (`InTurn`), each cell stays settled, and the index agrees with the statuses
when the queue is empty.
-/
namespace Soufang

open HouseService SearchService
open Changelog (Settled InOrder settled_step)

/-- Exactly the published houses have a document, and nothing is pending. -/
structure InSync (s : Sys) : Prop where
  idle : s.queue = []
  kept : s.gaveUp = []
  exact_docs : ∀ h, s.es.docsOf h ≠ [] ↔ s.db.statusOf h = some HouseStatus.PASSES.value

/-- Status changes, and handler runs whose calls report their outcome. -/
def Publishing (_ : Sys) : Req → Prop
  | .updateStatus _ _ => True
  | .operateHouse _ _ => True
  | .handle c => Reported c
  | _ => False

/-- The next message finds its rows, and it completes unless the messages of
its house behind it all ask for the same operation. -/
def InTurn (s : Sys) : Req → Prop
  | .handle c => ∀ m ∈ s.queue.head?, (m.operation = .index → Indexable s.db m.houseId) ∧
      (Completes c s.es m ∨ ∀ x ∈ s.queue.tail, x.houseId = m.houseId → x.operation = m.operation)
  | _ => True

instance (s : Sys) : (l : Req) → Decidable (Publishing s l)
  | .updateStatus _ _ | .operateHouse _ _ => isTrue trivial
  | .handle c => inferInstanceAs (Decidable (Reported c))
  | .save _ _ _ _ | .update _ _ | .removePhoto _ _ | .updateCover _ _ | .addTag _ _ | .removeTag _ _
  | .refresh => isFalse id

instance (s : Sys) : (l : Req) → Decidable (InTurn s l)
  | .handle c => inferInstanceAs (Decidable (∀ m ∈ s.queue.head?, (m.operation = .index → Indexable s.db m.houseId) ∧
      (Completes c s.es m ∨ ∀ x ∈ s.queue.tail, x.houseId = m.houseId → x.operation = m.operation)))
  | .save _ _ _ _ | .update _ _ | .updateStatus _ _ | .operateHouse _ _ | .removePhoto _ _
  | .updateCover _ _ | .addTag _ _ | .removeTag _ _ | .refresh => isTrue trivial

def publishing (env : Env) : LTS Sys Req := (system env InSync).restrict Publishing

/-- No chain of the queue was given up, or every cell is settled. -/
def Agree (s : Sys) : Prop := s.gaveUp = [] → ∀ h, Settled (cell h s)

/-- Without documents, no house may be published. -/
theorem InSync.of_empty {s : Sys} (hq : s.queue = []) (hg : s.gaveUp = []) (hd : s.es.docs.rows = [])
    (hh : ∀ r ∈ s.db.house.rows, r.status ≠ HouseStatus.PASSES.value) : InSync s := by
  refine ⟨hq, hg, fun h => ?_⟩
  have hnot : s.db.statusOf h ≠ some HouseStatus.PASSES.value := by
    intro hs
    obtain ⟨r, hr, hst⟩ := Option.map_eq_some_iff.mp hs
    exact hh r (Table.find?_some hr).1 hst
  simp [Es.docsOf, hd, hnot]

theorem InSync.agree {s : Sys} (hs : InSync s) : Agree s := by
  intro _ h
  have hp : (cell h s).pend = [] := cell_pend_nil.mpr (messagesOf_nil_of_queue hs.idle h)
  rw [Settled, Changelog.Cell.outcome, hp]
  have he := hs.exact_docs h
  show held s.es h = passes s.db h
  rw [Bool.eq_iff_iff, held_eq_true, he]
  simp [passes]

/-- A status change settles its cell and leaves the others. -/
theorem settled_updateStatus {s : Sys} (hs : ∀ h, Settled (cell h s)) (id : Long) (status : Int) (h : Long) :
    Settled (cell h (updateStatus id status s).1) := by
  rcases updateStatus_cases id status s with ⟨-, he⟩ | ⟨house, hf, -, he⟩
  · rw [he]; exact hs h
  · rw [he]
    by_cases hh : h = id
    · subst hh
      exact settled_step (hs h) (a := .change _) trivial (cell_updateStatus hf)
    · rw [cell_updateStatus_other hh]; exact hs h

theorem settled_operateHouse {s : Sys} (hs : ∀ h, Settled (cell h s)) (id op : Int) (h : Long) :
    Settled (cell h (AdminController.operateHouse id op s).1) := by
  rcases operateHouse_cases id op s with he | ⟨o, -, he⟩
  · rw [he]; exact hs h
  · rw [he]; exact settled_updateStatus hs id o.status.value h

theorem gaveUp_updateStatus (id : Long) (status : Int) (s : Sys) :
    (updateStatus id status s).1.gaveUp = s.gaveUp := by
  rcases updateStatus_cases id status s with ⟨-, he⟩ | ⟨house, -, -, he⟩
  · rw [he]
  · rw [he, notifySearch_eq]; simp [send, MAX_RETRY]

theorem gaveUp_operateHouse (id op : Int) (s : Sys) :
    (AdminController.operateHouse id op s).1.gaveUp = s.gaveUp := by
  rcases operateHouse_cases id op s with he | ⟨o, -, he⟩
  · rw [he]
  · rw [he, gaveUp_updateStatus]

/-- A message in turn leaves its cell settled, or its chain is given up. -/
theorem agree_handle {env : Env} (hn : env.nrt = false) {c : Calls} (hc : Reported c) {s s' : Sys}
    (hs : Agree s) (ht : InTurn s (.handle c)) (hstep : handleMessage env c s = some s') : Agree s' := by
  intro hg h
  obtain ⟨m, rest, es, lbs, again, hh⟩ := handleMessage_handled hn hstep
  obtain ⟨hidx, hturn⟩ := ht m (by rw [hh.queue]; rfl)
  rw [hh.queue, List.tail_cons] at hturn
  have hg' := hh.ran.gaveUp_eq
  rw [hg] at hg'
  obtain ⟨hg0, hover⟩ := List.append_eq_nil_iff.mp hg'.symm
  have hs := hs hg0
  by_cases hne : h = m.houseId
  · subst hne
    cases again with
    | false => exact settled_step (hs _) (a := .done) trivial (hh.cell_done hc hidx)
    | true =>
      have hle : nextRetry m.retry ≤ MAX_RETRY := by
        by_contra hlt
        simp [not_le.mp hlt] at hover
      have hact := hh.ran.cell_self hh.queue
      rw [runAct, Bool.true_and, decide_eq_true hle, if_pos rfl] at hact
      refine settled_step (hs _) ?_ hact
      have hrest : ∀ x ∈ rest, x.houseId = m.houseId → x.operation = m.operation := by
        rcases hturn with hC | hrest
        · exact absurd (hh.completes hc hC) (by decide)
        · exact hrest
      -- every pending message of the house asks for the same operation
      intro b t hp x hx
      simp only [cell, messagesOf_cons_self hh.queue, List.map_cons, List.cons.injEq] at hp
      obtain ⟨rfl, rfl⟩ := hp
      obtain ⟨y, hy, rfl⟩ := List.mem_map.mp hx
      obtain ⟨hy, hyh⟩ := List.mem_filter.mp hy
      rw [hrest y hy (by simpa using hyh)]
  · rw [hh.ran.cell_other hh.queue hne]; exact hs h

theorem agree_step {env : Env} (hn : env.nrt = false) {s s' : Sys} {l : Req} (hs : Agree s)
    (hp : Publishing s l) (ht : InTurn s l) (h : step env s l = some s') : Agree s' := by
  cases l with
  | updateStatus id status =>
    simp only [step, Option.some.injEq] at h
    subst h
    intro hg
    rw [gaveUp_updateStatus] at hg
    exact settled_updateStatus (hs hg) id status
  | operateHouse id op =>
    simp only [step, Option.some.injEq] at h
    subst h
    intro hg
    rw [gaveUp_operateHouse] at hg
    exact settled_operateHouse (hs hg) id op
  | handle c => exact agree_handle hn hp hs ht h
  | _ => exact hp.elim

theorem agree_inductive {env : Env} (hn : env.nrt = false) :
    ((publishing env).restrict InTurn).Inductive Agree :=
  ⟨fun _ hs => InSync.agree hs, fun _ _ _ hs h => agree_step hn hs h.1.2 h.2 h.1.1⟩

/-- **Agreement in turn.** -/
theorem agreement_in_turn (env : Env) (hn : env.nrt = false) (s : Sys)
    (hr : ((publishing env).restrict InTurn).Reachable s) (hq : s.queue = []) (hg : s.gaveUp = [])
    (h : Long) : s.es.docsOf h ≠ [] ↔ s.db.statusOf h = some HouseStatus.PASSES.value := by
  have hset := (agree_inductive hn).reachable hr hg h
  have hidle := hset.idle (cell_pend_nil.mpr (messagesOf_nil_of_queue hq h))
  rw [← held_eq_true]
  show (cell h s).held = true ↔ _
  rw [hidle]
  simp [cell, passes]

/-- A publication whose LBS upload fails once is indexed by its retry. -/
theorem agreement_in_turn_retry :
    ∃ s : Sys, s.queue = [] ∧ s.gaveUp = [] ∧ s.es.docsOf 1 ≠ [] ∧
      s.db.statusOf 1 = some HouseStatus.PASSES.value := by
  obtain ⟨s, hr, hq, hg, hd⟩ := LTS.exists_reachable InSync (step Sample.env)
    (fun s l => Publishing s l ∧ InTurn s l)
    (fun s => s.queue = [] ∧ s.gaveUp = [] ∧ s.es.docsOf 1 ≠ [])
    (InSync.of_empty (s := Sample.stored) (by decide +kernel) rfl rfl (by decide +kernel))
    [.operateHouse 1 1, .handle { Calls.success with lbsWrite := .failed }, .handle .success]
    (by decide +kernel)
  exact ⟨s, hq, hg, hd, (agreement_in_turn Sample.env rfl s hr.restrict_restrict hq hg 1).mp hd⟩

/-- **A retry undoes a later change.** House 1 is published and taken down
again; the index message creates the document, but its LBS upload fails, so it
goes behind the remove message and creates the document once more. -/
theorem agreement_lost :
    ¬ ∀ (env : Env) (s : Sys), env.nrt = false → (publishing env).Reachable s → s.queue = [] →
      s.gaveUp = [] → ∀ h, s.es.docsOf h ≠ [] ↔ s.db.statusOf h = some HouseStatus.PASSES.value := by
  intro hall
  obtain ⟨s, hr, hq, hg, hd, hs⟩ := LTS.exists_reachable InSync (step Sample.env)
    Publishing
    (fun s => s.queue = [] ∧ s.gaveUp = [] ∧ s.es.docsOf 1 ≠ [] ∧
      s.db.statusOf 1 = some HouseStatus.NOT_AUDITED.value)
    (InSync.of_empty (s := Sample.stored) (by decide +kernel) rfl rfl (by decide +kernel))
    [.operateHouse 1 1, .operateHouse 1 2, .handle { Calls.success with lbsWrite := .failed },
      .handle .success, .handle .success]
    (by decide +kernel)
  have hst := (hall Sample.env s rfl hr hq hg 1).mp hd
  rw [hs] at hst
  exact absurd hst (by decide)

end Soufang
