import Soufang.L3System.System

/-!
# The queue when every call succeeds

`Orderly` relates each house to its documents and its messages in the queue:

* a house that is not stored has neither;
* a stored house has one of the four statuses, at most one document and a
  calm cell: while it is NOT_AUDITED or PASSES its messages alternate,
  starting with the opposite of what the index holds, so a remove message
  always finds its document; only behind the last remove message of a RENTED
  or DELETED house are there messages that find nothing and are sent again;
* no message has a retry value over `MAX_RETRY`.

One lemma for each kind of step (`Orderly.save`, `Orderly.congr`,
`Orderly.updateStatus`, `Orderly.handle`).
-/
namespace Soufang

open HouseService SearchService
open Changelog (Calm calm_done calm_again calm_change)

/-- RENTED and DELETED: the statuses `statusRefusal` does not let go. -/
def HouseStatus.final : HouseStatus → Bool
  | .RENTED | .DELETED => true
  | .NOT_AUDITED | .PASSES => false

theorem HouseStatus.live {u : HouseStatus} (hr : u.value ≠ HouseStatus.RENTED.value)
    (hd : u.value ≠ HouseStatus.DELETED.value) : u.final = false := by
  cases u with
  | NOT_AUDITED => rfl
  | PASSES => rfl
  | RENTED => exact absurd rfl hr
  | DELETED => exact absurd rfl hd

/-- Leaving a live status for a live one toggles PASSES. -/
theorem HouseStatus.toggles {u v : HouseStatus} (hu : u.final = false) (hne : u.value ≠ v.value) :
    if v.final then decide (v.value = HouseStatus.PASSES.value) = false
    else decide (v.value = HouseStatus.PASSES.value) = !decide (u.value = HouseStatus.PASSES.value) := by
  cases u <;> cases v <;> first | rfl | exact absurd rfl hne | cases hu

structure Orderly (s : Sys) : Prop where
  absent : ∀ h, s.db.statusOf h = none → s.es.docsOf h = [] ∧ s.messagesOf h = []
  stored : ∀ h st, s.db.statusOf h = some st →
    ∃ v : HouseStatus, st = v.value ∧ Calm v.final (cell h s)
  single : ∀ h, (s.es.docsOf h).length ≤ 1
  retries : ∀ m ∈ s.queue, m.retry ≤ MAX_RETRY

namespace Orderly

theorem fresh (subway : List Subway) (station : List SubwayStation) (address : List SupportAddress) :
    Orderly (.fresh subway station address) where
  absent _ _ := ⟨rfl, rfl⟩
  stored h st hs := by simp [Sys.fresh, Db.empty, Db.statusOf] at hs
  single _ := Nat.zero_le _
  retries m hm := by simp [Sys.fresh] at hm

/-- What does not touch a status, a document or a message keeps it. -/
theorem congr {s s' : Sys} (hs : Orderly s) (hdb : ∀ h, s'.db.statusOf h = s.db.statusOf h)
    (hes : s'.es = s.es) (hq : s'.queue = s.queue) : Orderly s' := by
  have hm : ∀ h, s'.messagesOf h = s.messagesOf h := fun h => by simp [Sys.messagesOf, hq]
  have hcell : ∀ h, cell h s' = cell h s := fun h => cell_congr (hdb h) (by rw [hes]) (hm h)
  refine ⟨fun h hn => ?_, fun h st hst => ?_, fun h => ?_, fun m hmem => ?_⟩
  · rw [hes, hm]
    exact hs.absent h (by rw [← hdb]; exact hn)
  · rw [hcell]
    exact hs.stored h st (by rw [← hdb]; exact hst)
  · rw [hes]; exact hs.single h
  · exact hs.retries m (by rw [← hq]; exact hmem)

/-- A new house: no document, no message. -/
theorem save {s : Sys} (hs : Orderly s) {cdnPrefix : String} {faults : Faults} {user : Long} {now : Date}
    {f : HouseForm} (hid : f.id.bind s.db.house.find? = none) :
    Orderly { s with db := (HouseService.save cdnPrefix faults user now f s.db).1 } := by
  rcases save_cases cdnPrefix faults user now f s.db with ⟨he, -⟩ | ⟨detail, id, hst⟩
  · rw [he]; exact hs
  · have hstatus := fun h => (statusOf_save hid hst h).2
    have hnext : s.db.statusOf s.db.house.next = none := by
      simp [Db.statusOf, Table.find?_next]
    refine ⟨fun h hn => ?_, fun h st hst' => ?_, hs.single, hs.retries⟩
    · by_cases hh : h = s.db.house.next
      · rw [hstatus, if_pos hh] at hn; cases hn
      · rw [hstatus, if_neg hh] at hn
        exact hs.absent h hn
    · by_cases hh : h = s.db.house.next
      · subst hh
        rw [hstatus, if_pos rfl, Option.some.injEq] at hst'
        subst hst'
        obtain ⟨hdocs, hmsgs⟩ := hs.absent _ hnext
        refine ⟨.NOT_AUDITED, rfl, ?_⟩
        have hcell : cell s.db.house.next
            { s with db := (HouseService.save cdnPrefix faults user now f s.db).1 } = ⟨false, false, []⟩ := by
          simp only [cell, passes, hstatus, if_pos, held, hdocs, Changelog.Cell.mk.injEq]
          refine ⟨by decide, rfl, ?_⟩
          rw [List.map_eq_nil_iff]
          exact hmsgs
        rw [hcell]
        exact ⟨rfl, trivial⟩
      · have hcell : cell h { s with db := (HouseService.save cdnPrefix faults user now f s.db).1 } =
            cell h s := cell_congr (by rw [hstatus, if_neg hh]) rfl rfl
        rw [hcell]
        rw [hstatus, if_neg hh] at hst'
        exact hs.stored h st hst'

/-- An accepted change goes from NOT_AUDITED or PASSES to another status, and
the cell of its house stays calm. -/
theorem calm_updateStatus {s : Sys} (hs : Orderly s) {id : Long} {v : HouseStatus} {house : House}
    (hf : s.db.house.find? id = some house) (hr : statusRefusal house v.value = none) :
    Calm v.final (cell id (notifySearch id v.value { s with db := setStatus id v.value s.db })) := by
  obtain ⟨hne, hnr, hnd⟩ := statusRefusal_none hr
  have hself := statusOf_find hf
  obtain ⟨u, hu, hcalm⟩ := hs.stored id _ hself
  rw [hu] at hne hnr hnd
  have hlive := HouseStatus.live hnr hnd
  rw [hlive] at hcalm
  refine calm_change hcalm ?_ (cell_updateStatus hf)
  have hwant : (cell id s).want = decide (u.value = HouseStatus.PASSES.value) := by
    simp [cell, passes, hself, hu]
  rw [hwant]
  exact HouseStatus.toggles hlive hne

theorem updateStatus {s : Sys} (hs : Orderly s) (id : Long) (v : HouseStatus) :
    Orderly (HouseService.updateStatus id v.value s).1 := by
  rcases updateStatus_cases id v.value s with ⟨-, he⟩ | ⟨house, hf, hr, he⟩
  · rw [he]; exact hs
  · rw [he]
    have hself := statusOf_find hf
    have hstatus : ∀ h, (notifySearch id v.value { s with db := setStatus id v.value s.db }).db.statusOf h =
        if h = id then some v.value else s.db.statusOf h := by
      intro h
      rw [notifySearch_eq, send_db, statusOf_setStatus, hself]
      rfl
    have hes : (notifySearch id v.value { s with db := setStatus id v.value s.db }).es = s.es := by
      rw [notifySearch_eq, send_es]
    refine ⟨fun h hn => ?_, fun h st hst => ?_, fun h => ?_, fun m hm => ?_⟩
    · by_cases hh : h = id
      · rw [hstatus, if_pos hh] at hn; cases hn
      · rw [hstatus, if_neg hh] at hn
        obtain ⟨hdocs, hmsgs⟩ := hs.absent h hn
        refine ⟨by rw [hes]; exact hdocs, ?_⟩
        rw [notifySearch_eq, send_messagesOf_other _ hh]
        exact hmsgs
    · by_cases hh : h = id
      · subst hh
        rw [hstatus, if_pos rfl, Option.some.injEq] at hst
        exact ⟨v, hst.symm, hs.calm_updateStatus hf hr⟩
      · rw [hstatus, if_neg hh] at hst
        obtain ⟨u, hu, hcalm⟩ := hs.stored h st hst
        exact ⟨u, hu, by rw [cell_updateStatus_other hh]; exact hcalm⟩
    · rw [hes]; exact hs.single h
    · rw [notifySearch_eq] at hm
      simp only [send, show ¬ (0 : Int) > MAX_RETRY by decide, if_false, List.mem_append,
        List.mem_singleton] at hm
      rcases hm with hm | rfl
      · exact hs.retries m hm
      · show (0 : Int) ≤ MAX_RETRY
        decide

theorem operateHouse {s : Sys} (hs : Orderly s) (id op : Int) :
    Orderly (AdminController.operateHouse id op s).1 := by
  rcases operateHouse_cases id op s with he | ⟨o, -, he⟩
  · rw [he]; exact hs
  · rw [he]; exact hs.updateStatus id o.status

/-- The house of a queued message is stored. -/
theorem stored_of_message {s : Sys} (hs : Orderly s) {m : HouseIndexMessage} (hm : m ∈ s.queue) :
    ∃ v : HouseStatus, s.db.statusOf m.houseId = some v.value ∧ Calm v.final (cell m.houseId s) := by
  cases hst : s.db.statusOf m.houseId with
  | none =>
    have hmsgs := (hs.absent _ hst).2
    have hmem : m ∈ s.messagesOf m.houseId := List.mem_filter.mpr ⟨hm, by simp⟩
    rw [hmsgs] at hmem; cases hmem
  | some st =>
    obtain ⟨v, rfl, hcalm⟩ := hs.stored _ _ hst
    exact ⟨v, rfl, hcalm⟩

/-- The cell of the handled house stays calm: a message is sent again only
when a removal finds nothing. -/
theorem calm_handled {s s' : Sys} {env : Env} {m : HouseIndexMessage}
    {rest : List HouseIndexMessage} {es : Es} {lbs : List LbsPoint} {again : Bool}
    (hh : Handled env Calls.success s s' m rest es lbs again)
    (hi : m.operation = .index → Indexable s.db m.houseId) {final : Bool}
    (hcalm : Calm final (cell m.houseId s)) : Calm final (cell m.houseId s') := by
  cases hag : again with
  | false =>
    subst hag
    exact calm_done hcalm (hh.cell_done reported_success hi)
  | true =>
    subst hag
    have hrem : m.operation = .remove := by
      cases ho : m.operation with
      | remove => rfl
      | index =>
        have hC : Completes Calls.success s.es m := by
          simp [Completes, ho, Calls.success]
        exact absurd (hh.completes reported_success hC) (by decide)
    obtain ⟨hes, hag⟩ := hh.removeAll hrem rfl
    have hnone : s.es.docsOf m.houseId = [] := by simpa using (hag rfl).symm
    have hpend : (cell m.houseId s).pend = false ::
        (Sys.messagesOf { s with queue := rest } m.houseId).map fun m => m.operation.adds := by
      simp only [cell, messagesOf_cons_self hh.queue, List.map_cons, hrem, Operation.adds]
    have hact := hh.ran.cell_self hh.queue
    rw [held_eq_false.mpr hes, runAct] at hact
    split at hact
    · exact calm_again hcalm hpend (held_eq_false.mpr hnone) hact
    · rw [Changelog.giveUp_done hpend] at hact
      exact calm_done hcalm hact

/-- Documents after a handler run: none or one of the handled house. -/
theorem single_handled {s s' : Sys} (hs : Orderly s) {env : Env} {m : HouseIndexMessage}
    {rest : List HouseIndexMessage} {es : Es} {lbs : List LbsPoint} {again : Bool}
    (hh : Handled env Calls.success s s' m rest es lbs again)
    (hi : m.operation = .index → Indexable s.db m.houseId) (h : Long) :
    (s'.es.docsOf h).length ≤ 1 := by
  rw [hh.ran.es_eq]
  by_cases hne : h = m.houseId
  · subst hne
    cases ho : m.operation with
    | index =>
      have hC : Completes Calls.success s.es m := by simp [Completes, ho, Calls.success]
      obtain ⟨d, hd, -⟩ := hh.index ho (hh.completes reported_success hC) reported_success (hi ho)
      simp [hd]
    | remove => simp [(hh.removeAll ho rfl).1]
  · rw [hh.ran.other h hne]; exact hs.single h

theorem handle {env : Env} (hn : env.nrt = false) {s s' : Sys} (hs : Orderly s)
    (hi : ∀ m ∈ s.queue.head?, m.operation = .index → Indexable s.db m.houseId)
    (h : handleMessage env Calls.success s = some s') : Orderly s' := by
  obtain ⟨m, rest, es, lbs, again, hh⟩ := handleMessage_handled hn h
  have hi := hi m (by rw [hh.queue]; rfl)
  have hmem : m ∈ s.queue := by rw [hh.queue]; exact List.mem_cons_self
  obtain ⟨v, hv, hcalm⟩ := hs.stored_of_message hmem
  refine ⟨fun h hst => ?_, fun h st hst => ?_, hs.single_handled hh hi, fun x hx => ?_⟩
  · rw [hh.ran.db_eq] at hst
    have hne : h ≠ m.houseId := by rintro rfl; rw [hv] at hst; cases hst
    obtain ⟨hdocs, hmsgs⟩ := hs.absent h hst
    have hcell := hh.ran.cell_other hh.queue hne
    refine ⟨by rw [hh.ran.es_eq, hh.ran.other h hne]; exact hdocs, ?_⟩
    rw [← cell_pend_nil, hcell, cell_pend_nil]
    exact hmsgs
  · rw [hh.ran.db_eq] at hst
    by_cases hne : h = m.houseId
    · subst hne
      rw [hv, Option.some.injEq] at hst
      exact ⟨v, hst.symm, calm_handled hh hi hcalm⟩
    · rw [hh.ran.cell_other hh.queue hne]
      exact hs.stored h st hst
  · rw [hh.ran.queue_eq] at hx
    rcases List.mem_append.mp hx with hx | hx
    · exact hs.retries x (by rw [hh.queue]; exact List.mem_cons_of_mem _ hx)
    · unfold requeued at hx
      split at hx
      · rename_i hle
        rw [List.mem_singleton.mp hx]
        exact of_decide_eq_true (Bool.and_eq_true_iff.mp hle).2
      · cases hx

/-- With nothing pending the index holds exactly the PASSES houses. -/
theorem idle {s : Sys} (hs : Orderly s) {h : Long} (hm : s.messagesOf h = []) :
    s.es.docsOf h ≠ [] ↔ s.db.statusOf h = some HouseStatus.PASSES.value := by
  rw [← held_eq_true]
  cases hst : s.db.statusOf h with
  | none => simp [(hs.absent h hst).1]
  | some st =>
    obtain ⟨v, -, hcalm⟩ := hs.stored h st hst
    show (cell h s).held = true ↔ _
    rw [hcalm.1.idle (cell_pend_nil.mpr hm)]
    simp [cell, passes, hst]

end Orderly

end Soufang
