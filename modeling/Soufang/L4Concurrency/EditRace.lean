import Soufang.L3System.System

/-!
# An edit and a status change at once

`update` and `updateStatus` on one house, each in two atomic steps: `update`
loads the rows into memory (`load`) and later writes every column of them
(`store`); `updateStatus` runs its guards on the row (`read`) and later writes
the status column and sends its message (`write`). `load_store` and
`read_write` are the operations undisturbed.

The in-memory copy of the house carries the status it was loaded with, so a
status written between `load` and `store` is overwritten. `edit_race_iff`: that
is the only schedule that loses one of the two updates.
-/
namespace Soufang.EditRace

open HouseService
open SearchService (send_db)

structure Params where
  cdnPrefix : String
  now : Date
  form : HouseForm
  id : Long
  status : Int

structure State where
  sys : Sys
  loaded : Option (House × HouseDetail)
  passed : Bool

inductive Ev | load | store | read | write
  deriving DecidableEq

/-- A step of a request that succeeds; `none` when it is refused or throws.
mirrors soufang/src/main/java/com/wf/service/house/HouseService.java:196-218,293-317 -/
def step (p : Params) (s : State) : Ev → Option State
  | .load =>
    match updateLoad s.sys.db p.form with
    | .ok (.ok r) => some { s with loaded := some r }
    | _ => none
  | .store =>
    s.loaded.bind fun r =>
      (updateStore p.cdnPrefix p.now p.form r.1 r.2 s.sys.db).map fun db => { s with sys := { s.sys with db := db } }
  | .read =>
    match s.sys.db.house.find? p.id with
    | none => none
    | some house =>
      match statusRefusal house p.status with
      | some _ => none
      | none => some { s with passed := true }
  | .write =>
    if s.passed then
      some { s with sys := notifySearch p.id p.status { s.sys with db := setStatus p.id p.status s.sys.db } }
    else none

def lts (p : Params) : LTS State Ev := LTS.ofFn (fun s => s.loaded = none ∧ s.passed = false) (step p)

/-- The row has every value of the form; without a cover in the form, any. -/
def Carries (f : HouseForm) (h : House) : Prop :=
  h = { mapForm f h with cover := f.cover <|> h.cover }

/-- Both updates arrived. -/
def Both (p : Params) (s : State) : Prop :=
  ∃ house, s.sys.db.house.find? p.id = some house ∧ house.status = p.status ∧ Carries p.form house

/-! ## The operations undisturbed -/

theorem load_store (p : Params) (s : State) (h : (update p.cdnPrefix p.now p.form s.sys.db).2 = .ok .ok) :
    ∃ s', (lts p).Run s [.load, .store] s' ∧
      s'.sys = { s.sys with db := (update p.cdnPrefix p.now p.form s.sys.db).1 } := by
  unfold update at h ⊢
  cases hl : updateLoad s.sys.db p.form with
  | error e => simp [hl] at h
  | ok r =>
    cases r with
    | error message => simp [hl, ServiceResult.fail, ServiceResult.ok] at h
    | ok r =>
      obtain ⟨house, detail⟩ := r
      simp only [hl] at h ⊢
      cases hs : updateStore p.cdnPrefix p.now p.form house detail s.sys.db with
      | none => simp [hs] at h
      | some db =>
        have h1 : (lts p).step s .load { s with loaded := some (house, detail) } := by
          simp only [lts, LTS.ofFn, step, hl]
        have h2 : (lts p).step { s with loaded := some (house, detail) } .store
            { s with loaded := some (house, detail), sys := { s.sys with db := db } } := by
          simp only [lts, LTS.ofFn, step, Option.bind_some, hs, Option.map_some]
        exact ⟨_, .cons h1 (.cons h2 (.nil _)), rfl⟩

theorem read_write (p : Params) (s : State) (h : (updateStatus p.id p.status s.sys).2.success = true) :
    ∃ s', (lts p).Run s [.read, .write] s' ∧ s'.sys = (updateStatus p.id p.status s.sys).1 := by
  rcases updateStatus_cases p.id p.status s.sys with ⟨hf, -⟩ | ⟨house, hf, hr, he⟩
  · rw [hf] at h; cases h
  · have h1 : (lts p).step s .read { s with passed := true } := by
      simp only [lts, LTS.ofFn, step, hf, hr]
    have h2 : (lts p).step { s with passed := true } .write
        ⟨notifySearch p.id p.status { s.sys with db := setStatus p.id p.status s.sys.db }, s.loaded, true⟩ := by
      simp only [lts, LTS.ofFn, step, if_true]
    refine ⟨_, .cons h1 (.cons h2 (.nil _)), ?_⟩
    rw [he]

/-! ## What each step sees and leaves -/

theorem of_load {p : Params} {s s' : State} (h : (lts p).step s .load s') :
    ∃ house detail, s' = { s with loaded := some (house, detail) } ∧ p.form.id = some house.id ∧
      s.sys.db.house.find? house.id = some house := by
  simp only [lts, LTS.ofFn, step] at h
  split at h
  · rename_i r hl
    obtain ⟨house, detail⟩ := r
    obtain ⟨old, hid, hf, -⟩ := updateLoad_ok hl
    simp only [Option.some.injEq] at h
    exact ⟨house, detail, h.symm, hid, hf⟩
  · cases h

/-- The form names the house it is stored in. -/
theorem of_load_target {p : Params} {s s' : State} (hid : p.form.id = some p.id) (h : (lts p).step s .load s') :
    ∃ house detail, s' = { s with loaded := some (house, detail) } ∧ house.id = p.id ∧
      s.sys.db.house.find? p.id = some house := by
  obtain ⟨house, detail, he, hform, hf⟩ := of_load h
  rw [hid, Option.some.injEq] at hform
  rw [← hform] at hf
  exact ⟨house, detail, he, hform.symm, hf⟩

theorem of_store {p : Params} {s s' : State} (h : (lts p).step s .store s') {house : House}
    {detail : HouseDetail} (hl : s.loaded = some (house, detail)) :
    s'.loaded = s.loaded ∧ s'.passed = s.passed ∧ ∀ i, s'.sys.db.house.find? i =
      if i = house.id then (s.sys.db.house.find? i).map fun h => { updatedHouse p.now p.form house with id := h.id }
      else s.sys.db.house.find? i := by
  simp only [lts, LTS.ofFn, step, hl, Option.bind_some, Option.map_eq_some_iff] at h
  obtain ⟨db, hs, rfl⟩ := h
  unfold updateStore at hs
  split at hs
  · cases hs
  · simp only [Option.some.injEq] at hs
    subst hs
    refine ⟨hl.symm, rfl, fun i => ?_⟩
    simp only [find?_rewriteHouse]
    split
    · rename_i hi; rw [hi]
    · rfl

theorem of_read {p : Params} {s s' : State} (h : (lts p).step s .read s') :
    ∃ house, s' = { s with passed := true } ∧ s.sys.db.house.find? p.id = some house ∧
      house.status ≠ p.status := by
  simp only [lts, LTS.ofFn, step] at h
  split at h
  · cases h
  · rename_i house hf
    split at h
    · cases h
    · rename_i hr
      simp only [Option.some.injEq] at h
      exact ⟨house, h.symm, hf, (statusRefusal_none hr).1⟩

theorem of_write {p : Params} {s s' : State} (h : (lts p).step s .write s') :
    s'.loaded = s.loaded ∧ s'.passed = s.passed ∧ s'.sys.db.house.find? p.id =
      (s.sys.db.house.find? p.id).map fun h => { h with status := p.status } := by
  simp only [lts, LTS.ofFn, step, Option.ite_none_right_eq_some, Option.some.injEq] at h
  obtain ⟨-, rfl⟩ := h
  refine ⟨rfl, rfl, ?_⟩
  simp only [notifySearch_eq, send_db, setStatus, find?_rewriteHouse, if_pos]

theorem carries_updated (now : Date) (f : HouseForm) (house : House) (id : Long) (st : Int) :
    Carries f { updatedHouse now f house with id := id, status := st } := by
  simp only [Carries, updatedHouse, mapForm]
  cases f.cover <;> rfl

/-! ## The six schedules -/

/-- Behind a `store`, the house row is the form over the loaded row. -/
theorem row_of_store {p : Params} {s s' : State} (h : (lts p).step s .store s') {house r : House}
    {detail : HouseDetail} (hl : s.loaded = some (house, detail)) (hid : house.id = p.id)
    (hrow : s.sys.db.house.find? p.id = some r) :
    s'.sys.db.house.find? p.id = some { updatedHouse p.now p.form house with id := r.id } := by
  rw [(of_store h hl).2.2, if_pos hid.symm, hrow, Option.map_some]

/-- A status written after the store arrives, and leaves the form. -/
theorem both_of_store_write {p : Params} {s s' : State} (h : (lts p).step s .write s') {house : House}
    {id : Long}
    (hrow : s.sys.db.house.find? p.id = some { updatedHouse p.now p.form house with id := id }) :
    Both p s' := by
  refine ⟨_, ?_, rfl, carries_updated p.now p.form house id p.status⟩
  rw [(of_write h).2.2, hrow, Option.map_some]

/-- A store writes the status of the loaded row. -/
theorem both_of_store {p : Params} {s s' : State} (h : (lts p).step s .store s') {house r : House}
    {detail : HouseDetail} (hl : s.loaded = some (house, detail)) (hid : house.id = p.id)
    (hrow : s.sys.db.house.find? p.id = some r) : Both p s' ↔ house.status = p.status := by
  have hrow' := row_of_store h hl hid hrow
  constructor
  · rintro ⟨house', hf, hst, -⟩
    rw [hrow', Option.some.injEq] at hf
    rw [← hst, ← hf]
    rfl
  · intro hst
    exact ⟨_, hrow', hst, carries_updated p.now p.form house r.id house.status⟩

/-- A store of a row that was loaded before the write takes the status back. -/
theorem not_both_of_stale {p : Params} {s s1 s' : State} (hw : (lts p).step s .write s1)
    (hs : (lts p).step s1 .store s') {house : House} {detail : HouseDetail}
    (hl : s.loaded = some (house, detail)) (hid : house.id = p.id)
    (hf : s.sys.db.house.find? p.id = some house) (hne : house.status ≠ p.status) : ¬ Both p s' := by
  obtain ⟨hl1, -, hrow⟩ := of_write hw
  rw [hf, Option.map_some] at hrow
  exact fun hb => hne ((both_of_store hs (hl1.trans hl) hid hrow).mp hb)

theorem run_four {p : Params} {s s' : State} {a b c d : Ev} (h : (lts p).Run s [a, b, c, d] s') :
    ∃ s1 s2 s3, (lts p).step s a s1 ∧ (lts p).step s1 b s2 ∧ (lts p).step s2 c s3 ∧ (lts p).step s3 d s' := by
  cases h with
  | cons h1 h =>
    cases h with
    | cons h2 h =>
      cases h with
      | cons h3 h =>
        cases h with
        | cons h4 h => cases h; exact ⟨_, _, _, h1, h2, h3, h4⟩

/-- **When both updates arrive.** For every initial state, form and status, in
every schedule of an `update` and an `updateStatus` of the same house that
both succeed: exactly when the status is not written between the load and the
store. -/
theorem edit_race_iff (p : Params) (s s' : State) (ls : List Ev) (hid : p.form.id = some p.id)
    (hls : Interleaving [.load, .store] [.read, .write] ls) (hr : (lts p).Run s ls s') :
    Both p s' ↔ ¬ [.load, .write, .store].Sublist ls := by
  rcases hls.two_two with rfl | rfl | rfl | rfl | rfl | rfl
  · -- load, store, read, write
    obtain ⟨s1, s2, s3, h1, h2, h3, h4⟩ := run_four hr
    obtain ⟨house, detail, rfl, hi, hf⟩ := of_load_target hid h1
    have hrow := row_of_store h2 rfl hi hf
    obtain ⟨-, rfl, -⟩ := of_read h3
    exact iff_of_true (both_of_store_write h4 hrow) (by decide)
  · -- load, read, store, write
    obtain ⟨s1, s2, s3, h1, h2, h3, h4⟩ := run_four hr
    obtain ⟨house, detail, rfl, hi, hf⟩ := of_load_target hid h1
    obtain ⟨-, rfl, -⟩ := of_read h2
    have hrow := row_of_store h3 rfl hi hf
    exact iff_of_true (both_of_store_write h4 hrow) (by decide)
  · -- load, read, write, store: the loaded status is the one the guards saw
    obtain ⟨s1, s2, s3, h1, h2, h3, h4⟩ := run_four hr
    obtain ⟨house, detail, rfl, hi, hf⟩ := of_load_target hid h1
    obtain ⟨old, rfl, hold, hne⟩ := of_read h2
    have hsame : house = old := Option.some.inj (hf.symm.trans hold)
    rw [← hsame] at hne
    exact iff_of_false (not_both_of_stale h3 h4 rfl hi hf hne) (by decide)
  · -- read, load, store, write
    obtain ⟨s1, s2, s3, h1, h2, h3, h4⟩ := run_four hr
    obtain ⟨-, rfl, -⟩ := of_read h1
    obtain ⟨house, detail, rfl, hi, hf⟩ := of_load_target hid h2
    exact iff_of_true (both_of_store_write h4 (row_of_store h3 rfl hi hf)) (by decide)
  · -- read, load, write, store
    obtain ⟨s1, s2, s3, h1, h2, h3, h4⟩ := run_four hr
    obtain ⟨old, rfl, hold, hne⟩ := of_read h1
    obtain ⟨house, detail, rfl, hi, hf⟩ := of_load_target hid h2
    have hsame : house = old := Option.some.inj (hf.symm.trans hold)
    rw [← hsame] at hne
    exact iff_of_false (not_both_of_stale h3 h4 rfl hi hf hne) (by decide)
  · -- read, write, load, store: the written status is loaded
    obtain ⟨s1, s2, s3, h1, h2, h3, h4⟩ := run_four hr
    obtain ⟨old, rfl, hold, -⟩ := of_read h1
    obtain ⟨-, -, hrow⟩ := of_write h2
    obtain ⟨house, detail, rfl, hi, hf⟩ := of_load_target hid h3
    refine iff_of_true ((both_of_store h4 rfl hi hf).mpr ?_) (by decide)
    rw [hrow] at hf
    obtain ⟨h, -, rfl⟩ := Option.map_eq_some_iff.mp hf
    rfl

/-- An edit of house 1 that lowers its price, and its publication. -/
def sample : Params :=
  ⟨Sample.env.cdnPrefix, 5, { Sample.form with id := some 1, price := 4500 }, 1, HouseStatus.PASSES.value⟩

def idle : State := ⟨Sample.stored, none, false⟩

theorem edit_race_store_first : ∃ s', (lts sample).Run idle [.load, .read, .store, .write] s' ∧ Both sample s' := by
  obtain ⟨s', hs, -⟩ : ∃ s' ∈ LTS.exec (step sample) (fun _ _ => True) idle [.load, .read, .store, .write],
      s'.passed = true := by decide +kernel
  have hr : (lts sample).Run idle _ s' := (LTS.run_of_exec hs).of_restrict
  exact ⟨s', hr, (edit_race_iff sample idle s' _ rfl (.left (.right (.left (.right .nil)))) hr).mpr (by decide)⟩

/-- **The status change is lost.** The edit of house 1 loads the row before
and stores it after the publication; the house is NOT_AUDITED again, with an
index message in the queue. -/
theorem status_lost :
    ¬ ∀ (p : Params) (s s' : State) (ls : List Ev), p.form.id = some p.id →
      Interleaving [.load, .store] [.read, .write] ls → (lts p).Run s ls s' → Both p s' := by
  intro hall
  obtain ⟨s', hs, hst⟩ : ∃ s' ∈ LTS.exec (step sample) (fun _ _ => True) idle [.load, .read, .write, .store],
      (s'.sys.db.house.find? 1).map House.status = some HouseStatus.NOT_AUDITED.value := by decide +kernel
  have hr : (lts sample).Run idle _ s' := (LTS.run_of_exec hs).of_restrict
  obtain ⟨house, hf, hp, -⟩ := hall sample idle s' _ rfl (.left (.right (.right (.left .nil)))) hr
  have hf : s'.sys.db.house.find? 1 = some house := hf
  rw [hf, Option.map_some, Option.some.injEq, hp] at hst
  exact absurd hst (by decide)

end Soufang.EditRace
