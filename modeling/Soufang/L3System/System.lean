import Soufang.L2Service.HandlerSpec
import Soufang.L2Service.HouseSpec
import Soufang.Core.Changelog

/-!
# The system: requests and the index consumer over one state

`system env init` runs the operations of `HouseService` and `AdminController`
and the listener of `SearchService` over `Sys`, one at a time in any order.
The properties of whole runs are stated over restrictions of it.

`cell h s` is house `h` seen as one key of a replicated set: the source wants
it while its status is PASSES, the replica holds it while it has a document,
and the log holds its messages. Every step of the system is a step of each
cell or leaves it alone:

* `updateStatus_cases`, `cell_updateStatus`: an accepted call is a `change`;
* `Ran.cell_self`, `Ran.cell_other`: a handler run is `giveUp` or `again` on
  the cell of its message, and the identity on the others;
* `Handled.cell_done`: it is `done` when the message is not sent again.
-/
namespace Soufang

/-- Requests, handler runs, and the refresh that shows the live documents to
searches. -/
inductive Req
  | save (faults : Faults) (user : Long) (now : Date) (form : HouseForm)
  | update (now : Date) (form : HouseForm)
  | updateStatus (id : Long) (status : Int)
  | operateHouse (id operation : Int)
  | removePhoto (id : Long) (answer : QiNiuAnswer)
  | updateCover (coverId targetId : Long)
  | addTag (houseId : Long) (tag : String)
  | removeTag (houseId : Long) (tag : String)
  | handle (calls : Calls)
  | refresh

def step (env : Env) (s : Sys) : Req → Option Sys
  | .save faults user now f =>
    some { s with db := (HouseService.save env.cdnPrefix faults user now f s.db).1 }
  | .update now f => some { s with db := (HouseService.update env.cdnPrefix now f s.db).1 }
  | .updateStatus id status => some (HouseService.updateStatus id status s).1
  | .operateHouse id op => some (AdminController.operateHouse id op s).1
  | .removePhoto id answer => some { s with db := (HouseService.removePhoto id answer s.db).1 }
  | .updateCover c t => some { s with db := (HouseService.updateCover c t s.db).1 }
  | .addTag h t => some { s with db := (HouseService.addTag h t s.db).1 }
  | .removeTag h t => some { s with db := (HouseService.removeTag h t s.db).1 }
  | .handle c => SearchService.handleMessage env c s
  | .refresh => some { s with es := s.es.refresh }

def system (env : Env) (init : Sys → Prop) : LTS Sys Req := LTS.ofFn init (step env)

/-- Empty tables, index and queue over given subways and addresses. -/
def Sys.fresh (subway : List Subway) (station : List SubwayStation) (address : List SupportAddress) : Sys :=
  ⟨.empty subway station address, ⟨.empty, []⟩, [], [], []⟩

/-! ## A small world for concrete runs -/

namespace Sample

def env : Env where
  cdnPrefix := "cdn/"
  geocode _ _ := ⟨116, 40⟩
  analyze _ := []
  nrt := false

def form : HouseForm where
  id := none
  title := "西二旗"
  cityEnName := "bj"
  regionEnName := "hdq"
  street := "龙岗路"
  district := "融泽嘉园"
  detailAddress := "1号楼"
  room := 2
  parlour := 1
  floor := 3
  totalFloor := 6
  direction := 1
  buildYear := 2010
  area := 80
  price := 5000
  rentWay := 0
  subwayLineId := some 4
  subwayStationId := some 58
  distanceToSubway := 800
  layoutDesc := none
  roundService := none
  traffic := none
  description := none
  cover := some "a.jpg"
  tags := none
  photos := some [⟨"a.jpg", 100, 100⟩]

/-- One subway line with one station, one city with one region. -/
def fresh : Sys :=
  .fresh [⟨4, "13号线", "bj"⟩] [⟨58, 4, "西二旗"⟩]
    [⟨1, "bj", "bj", "北京", "city"⟩, ⟨2, "bj", "hdq", "海淀区", "region"⟩]

/-- The form stored by user 2 as house 1, which is NOT_AUDITED. -/
def stored : Sys := { fresh with db := (HouseService.save env.cdnPrefix .none 2 0 form fresh.db).1 }

/-- Houses 1 and 2, with the tags of their forms. -/
def tagged : Sys :=
  let save (tags : List String) (db : Db) : Db :=
    (HouseService.save env.cdnPrefix .none 2 0 { form with tags := some tags } db).1
  { fresh with db := save ["双卫生间"] (save ["近地铁", "随时看房"] fresh.db) }

end Sample

/-! ## One house as a replicated key -/

open Changelog (Cell)
open HouseService SearchService

def passes (db : Db) (h : Long) : Bool := decide (db.statusOf h = some HouseStatus.PASSES.value)

def held (es : Es) (h : Long) : Bool := !(es.docsOf h).isEmpty

def Sys.messagesOf (s : Sys) (h : Long) : List HouseIndexMessage :=
  s.queue.filter fun m => m.houseId = h

/-- The handler runs the messages of the queue can still cause. -/
def load (s : Sys) : Nat := (s.queue.map fun m => (MAX_RETRY + 1 - m.retry).toNat).sum

def Operation.adds : Operation → Bool
  | .index => true
  | .remove => false

def cell (h : Long) (s : Sys) : Cell where
  want := passes s.db h
  held := held s.es h
  pend := (s.messagesOf h).map fun m => m.operation.adds

@[simp] theorem held_eq_false {es : Es} {h : Long} : held es h = false ↔ es.docsOf h = [] := by
  simp [held]

@[simp] theorem held_eq_true {es : Es} {h : Long} : held es h = true ↔ es.docsOf h ≠ [] := by
  simp [held]

theorem cell_pend_nil {h : Long} {s : Sys} : (cell h s).pend = [] ↔ s.messagesOf h = [] := by
  simp [cell]

/-- A cell depends on the status, the documents and the messages of its house. -/
theorem cell_congr {h : Long} {s s' : Sys} (hdb : s'.db.statusOf h = s.db.statusOf h)
    (hes : s'.es.docsOf h = s.es.docsOf h) (hq : s'.messagesOf h = s.messagesOf h) :
    cell h s' = cell h s := by
  simp [cell, passes, held, hdb, hes, hq]

theorem messagesOf_nil_of_queue {s : Sys} (hq : s.queue = []) (h : Long) : s.messagesOf h = [] := by
  simp [Sys.messagesOf, hq]

/-! ## Sending -/

theorem send_messagesOf {op : Operation} {h : Long} {r : Int} (s : Sys) (hr : r ≤ MAX_RETRY) :
    (send op h r s).messagesOf h = s.messagesOf h ++ [⟨h, op, r⟩] := by
  simp [send, Sys.messagesOf, List.filter_append, show ¬ r > MAX_RETRY by omega]

theorem send_messagesOf_other {op : Operation} {h h' : Long} {r : Int} (s : Sys) (hne : h' ≠ h) :
    (send op h r s).messagesOf h' = s.messagesOf h' := by
  unfold send
  split
  · rfl
  · simp [Sys.messagesOf, List.filter_append, hne.symm]

theorem notifySearch_eq (id : Long) (status : Int) (s : Sys) :
    notifySearch id status s =
      send (if status = HouseStatus.PASSES.value then .index else .remove) id 0 s := by
  unfold notifySearch
  split <;> rfl

/-! ## Status changes -/

/-- `updateStatus` finds the house and does not refuse the status. -/
def Accepts (db : Db) (id : Long) (status : Int) : Prop :=
  ∃ house, db.house.find? id = some house ∧ statusRefusal house status = none

/-- `updateStatus` refuses and changes nothing, or it writes the status of the
one row and sends one message. -/
theorem updateStatus_cases (id : Long) (status : Int) (s : Sys) :
    ((updateStatus id status s).2.success = false ∧ (updateStatus id status s).1 = s) ∨
      ∃ house, s.db.house.find? id = some house ∧ statusRefusal house status = none ∧
        updateStatus id status s = (notifySearch id status { s with db := setStatus id status s.db }, .ok) := by
  unfold updateStatus
  cases hf : s.db.house.find? id with
  | none => exact Or.inl ⟨rfl, rfl⟩
  | some house =>
    dsimp only
    cases hr : statusRefusal house status with
    | some message => exact Or.inl ⟨rfl, rfl⟩
    | none => exact Or.inr ⟨house, rfl, hr, rfl⟩

theorem updateStatus_es (id : Long) (status : Int) (s : Sys) : (updateStatus id status s).1.es = s.es := by
  rcases updateStatus_cases id status s with ⟨-, he⟩ | ⟨house, -, -, he⟩
  · rw [he]
  · rw [he, notifySearch_eq, send_es]

theorem statusRefusal_none {house : House} {status : Int} (h : statusRefusal house status = none) :
    house.status ≠ status ∧ house.status ≠ HouseStatus.RENTED.value ∧
      house.status ≠ HouseStatus.DELETED.value := by
  unfold statusRefusal at h
  split at h
  · cases h
  · split at h
    · cases h
    · split at h
      · cases h
      · exact ⟨‹_›, ‹_›, ‹_›⟩

/-- `operateHouse` is `updateStatus` for a known operation, or changes nothing. -/
theorem operateHouse_cases (id op : Int) (s : Sys) :
    (AdminController.operateHouse id op s).1 = s ∨
      ∃ o, HouseOperation.ofCode op = some o ∧
        (AdminController.operateHouse id op s).1 = (updateStatus id o.status.value s).1 := by
  unfold AdminController.operateHouse
  split
  · exact Or.inl rfl
  · cases ho : HouseOperation.ofCode op with
    | none => exact Or.inl rfl
    | some o => exact Or.inr ⟨o, rfl, rfl⟩

/-- An accepted status change is a `change` of the cell of its house. -/
theorem cell_updateStatus {id : Long} {status : Int} {s : Sys} {house : House}
    (hf : s.db.house.find? id = some house) :
    Changelog.step (cell id s) (.change (decide (status = HouseStatus.PASSES.value))) =
      some (cell id (notifySearch id status { s with db := setStatus id status s.db })) := by
  rw [notifySearch_eq]
  simp only [Changelog.step, Option.some.injEq, cell, passes, send_db, send_es,
    send_messagesOf _ (show (0 : Int) ≤ MAX_RETRY by decide), statusOf_setStatus, if_pos,
    statusOf_find hf, Option.map_some, List.map_append, List.map_cons, List.map_nil]
  by_cases hs : status = HouseStatus.PASSES.value
  · simp [hs, Operation.adds, Sys.messagesOf]
  · simp [hs, Operation.adds, Sys.messagesOf]

theorem cell_updateStatus_other {id : Long} {status : Int} {s : Sys} {h : Long} (hne : h ≠ id) :
    cell h (notifySearch id status { s with db := setStatus id status s.db }) = cell h s := by
  rw [notifySearch_eq]
  refine cell_congr ?_ (by simp) ?_
  · simp [statusOf_setStatus, hne]
  · rw [send_messagesOf_other _ hne]; rfl

/-! ## Handler runs -/

section
variable {m : HouseIndexMessage} {rest : List HouseIndexMessage} {s s' : Sys} {es : Es}
  {lbs : List LbsPoint} {again : Bool}

theorem messagesOf_cons_self (hq : s.queue = m :: rest) :
    s.messagesOf m.houseId = m :: Sys.messagesOf { s with queue := rest } m.houseId := by
  simp [Sys.messagesOf, hq]

theorem messagesOf_cons_other (hq : s.queue = m :: rest) {h : Long} (hne : h ≠ m.houseId) :
    s.messagesOf h = Sys.messagesOf { s with queue := rest } h := by
  simp [Sys.messagesOf, hq, hne.symm]

namespace SearchService

theorem Ran.db_eq (hr : Ran m { s with queue := rest } s' es lbs again) : s'.db = s.db := by
  rw [hr.result, resend_db]

theorem Ran.es_eq (hr : Ran m { s with queue := rest } s' es lbs again) : s'.es = es := by
  rw [hr.result, resend_es]

/-- The message put back at the end of the queue, if any. -/
def requeued (again : Bool) (m : HouseIndexMessage) : List HouseIndexMessage :=
  if again && decide (nextRetry m.retry ≤ MAX_RETRY) then [{ m with retry := nextRetry m.retry }] else []

theorem resend_queue (again : Bool) (m : HouseIndexMessage) (s : Sys) :
    (resend again m s).queue = s.queue ++ requeued again m := by
  unfold resend requeued
  cases again with
  | false => simp
  | true =>
    by_cases hle : nextRetry m.retry ≤ MAX_RETRY
    · simp [send, hle, not_lt.mpr hle]
    · simp [send, hle, not_le.mp hle]

theorem Ran.queue_eq (hr : Ran m { s with queue := rest } s' es lbs again) :
    s'.queue = rest ++ requeued again m := by
  rw [hr.result, resend_queue]

theorem Ran.gaveUp_eq (hr : Ran m { s with queue := rest } s' es lbs again) :
    s'.gaveUp = s.gaveUp ++
      if again && decide (MAX_RETRY < nextRetry m.retry) then [{ m with retry := nextRetry m.retry }] else [] := by
  rw [hr.result]
  unfold resend
  cases again with
  | false => simp
  | true =>
    by_cases hlt : MAX_RETRY < nextRetry m.retry
    · simp [send, hlt]
    · simp [send, hlt]

theorem handleMessage_enabled (env : Env) (c : Calls) {s : Sys} (hne : s.queue ≠ []) :
    ∃ s', handleMessage env c s = some s' := by
  obtain ⟨m, rest, hq⟩ := List.exists_cons_of_ne_nil hne
  unfold handleMessage
  rw [hq]
  exact ⟨_, rfl⟩

/-- The queue after a listener step, whatever the calls answer. -/
theorem handleMessage_queue {env : Env} {c : Calls} {s s' : Sys} (h : handleMessage env c s = some s') :
    ∃ m rest again, s.queue = m :: rest ∧ s'.queue = rest ++ requeued again m := by
  obtain ⟨m, rest, es, lbs, again, hq, rfl⟩ := handleMessage_effect h
  exact ⟨m, rest, again, hq, resend_queue again m _⟩

theorem load_handle {env : Env} {c : Calls} {s s' : Sys} (hs : ∀ m ∈ s.queue, m.retry ≤ MAX_RETRY)
    (h : handleMessage env c s = some s') : load s' < load s := by
  obtain ⟨m, rest, again, hq, hq'⟩ := handleMessage_queue h
  have hle := hs m (by rw [hq]; exact List.mem_cons_self)
  simp only [load, hq, hq', List.map_append, List.sum_append, List.map_cons, List.sum_cons]
  unfold requeued
  split
  · simp only [List.map_cons, List.map_nil, List.sum_cons, List.sum_nil, nextRetry_eq hle]
    omega
  · simp only [List.map_nil, List.sum_nil]
    omega

/-- What a run does to the cell of its house, by what it leaves there. -/
def runAct (m : HouseIndexMessage) (again held : Bool) : Changelog.Act :=
  if again && decide (nextRetry m.retry ≤ MAX_RETRY) then .again held else .giveUp held

theorem Ran.cell_self (hq : s.queue = m :: rest) (hr : Ran m { s with queue := rest } s' es lbs again) :
    Changelog.step (cell m.houseId s) (runAct m again (held es m.houseId)) =
      some (cell m.houseId s') := by
  have hpend : (cell m.houseId s).pend = m.operation.adds ::
      (Sys.messagesOf { s with queue := rest } m.houseId).map fun m => m.operation.adds := by
    simp only [cell, messagesOf_cons_self hq, List.map_cons]
  have hpend' : (cell m.houseId s').pend =
      ((Sys.messagesOf { s with queue := rest } m.houseId) ++ requeued again m).map
        fun m => m.operation.adds := by
    simp only [cell, Sys.messagesOf, hr.queue_eq, List.filter_append, List.map_append]
    congr 2
    unfold requeued
    split <;> simp
  have hcell' : cell m.houseId s' = ⟨(cell m.houseId s).want, held es m.houseId,
      ((Sys.messagesOf { s with queue := rest } m.houseId) ++ requeued again m).map
        fun m => m.operation.adds⟩ := by
    rw [← hpend']
    simp [cell, hr.db_eq, hr.es_eq]
  rw [hcell']
  unfold runAct requeued
  split
  · simp [Changelog.step, hpend]
  · simp [Changelog.step, hpend]

theorem Ran.cell_other (hq : s.queue = m :: rest) (hr : Ran m { s with queue := rest } s' es lbs again)
    {h : Long} (hne : h ≠ m.houseId) : cell h s' = cell h s := by
  refine cell_congr (by rw [hr.db_eq]) (by rw [hr.es_eq]; exact hr.other h hne) ?_
  rw [messagesOf_cons_other hq hne]
  simp only [Sys.messagesOf, hr.queue_eq, List.filter_append]
  unfold requeued
  split <;> simp [hne.symm]

/-- A run that does not send its message again completes the change. -/
theorem Handled.cell_done {env : Env} {c : Calls} (hh : Handled env c s s' m rest es lbs false)
    (hc : Reported c) (hi : m.operation = .index → Indexable s.db m.houseId) :
    Changelog.step (cell m.houseId s) .done = some (cell m.houseId s') := by
  have hheld : held es m.houseId = m.operation.adds := by
    cases ho : m.operation with
    | index =>
      obtain ⟨d, hd, -⟩ := hh.index ho rfl hc (hi ho)
      simp [held, hd, Operation.adds]
    | remove => simp [held, hh.remove ho rfl hc, Operation.adds]
  have hpend : (cell m.houseId s).pend = m.operation.adds ::
      (Sys.messagesOf { s with queue := rest } m.houseId).map fun m => m.operation.adds := by
    simp only [cell, messagesOf_cons_self hh.queue, List.map_cons]
  rw [← Changelog.giveUp_done hpend, ← hheld]
  exact hh.ran.cell_self hh.queue

end SearchService

end

end Soufang
