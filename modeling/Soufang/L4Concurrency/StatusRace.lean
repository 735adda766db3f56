import Soufang.L3System.System

/-!
# Concurrent status changes

`updateStatus` in three atomic steps: it reads the row and runs the guards
(`read`), writes the status column (`write`) and sends the message (`send`).
Any number of requests run interleaved; `run_alone` is a request that runs
undisturbed, which is the operation of `HouseService`.

The UPDATE does not repeat the guards, so a request that read the row before
another one wrote RENTED or DELETED still writes its own status after it.
`finalKept_iff`: that is the only way a final status is lost.
-/
namespace Soufang.StatusRace

open HouseService
open SearchService (send_db)

structure Request where
  id : Long
  status : Int

inductive Phase | start | passed | written | finished
  deriving DecidableEq

structure State where
  sys : Sys
  phase : Nat → Phase

inductive Ev
  | read (i : Nat)
  | write (i : Nat)
  | send (i : Nat)
  deriving DecidableEq

def State.at (s : State) (i : Nat) (p : Phase) : State := { s with phase := Function.update s.phase i p }

/-- mirrors soufang/src/main/java/com/wf/service/house/HouseService.java:293-308 -/
def check (r : Request) (db : Db) : Phase :=
  match db.house.find? r.id with
  | none => .finished
  | some house =>
    match statusRefusal house r.status with
    | some _ => .finished
    | none => .passed

/-- mirrors soufang/src/main/java/com/wf/service/house/HouseService.java:309-310 -/
def written (r : Request) (i : Nat) (s : State) : State :=
  { s.at i .written with sys := { s.sys with db := setStatus r.id r.status s.sys.db } }

/-- mirrors soufang/src/main/java/com/wf/service/house/HouseService.java:312-317 -/
def sent (r : Request) (i : Nat) (s : State) : State :=
  { s.at i .finished with sys := notifySearch r.id r.status s.sys }

def step (reqs : Nat → Request) (s : State) : Ev → Option State
  | .read i => if s.phase i = .start then some (s.at i (check (reqs i) s.sys.db)) else none
  | .write i => if s.phase i = .passed then some (written (reqs i) i s) else none
  | .send i => if s.phase i = .written then some (sent (reqs i) i s) else none

def lts (reqs : Nat → Request) : LTS State Ev := LTS.ofFn (fun s => ∀ i, s.phase i = .start) (step reqs)

/-- RENTED and DELETED. -/
def Final (st : Int) : Prop := st = HouseStatus.RENTED.value ∨ st = HouseStatus.DELETED.value

/-- A status that is final after some steps of the run `ls` is the same after
any more of them. -/
def FinalKept (reqs : Nat → Request) (s : State) (ls : List Ev) : Prop :=
  ∀ pre mid post s1 s2, ls = pre ++ mid ++ post → (lts reqs).Run s pre s1 → (lts reqs).Run s1 mid s2 →
    ∀ h st, Final st → s1.sys.db.statusOf h = some st → s2.sys.db.statusOf h = some st

/-- A request writes after another one wrote a different, final status of
the same house behind its read. -/
def Overtaken (reqs : Nat → Request) (ls : List Ev) : Prop :=
  ∃ i j, (reqs i).id = (reqs j).id ∧ Final (reqs j).status ∧ (reqs i).status ≠ (reqs j).status ∧
    [.read i, .write j, .write i].Sublist ls

theorem check_passed {r : Request} {db : Db} (h : check r db = .passed) :
    ∃ house, db.house.find? r.id = some house ∧ statusRefusal house r.status = none := by
  unfold check at h
  cases hf : db.house.find? r.id with
  | none => rw [hf] at h; cases h
  | some house =>
    rw [hf] at h
    dsimp only at h
    cases hr : statusRefusal house r.status with
    | some message => rw [hr] at h; cases h
    | none => exact ⟨house, rfl, hr⟩

/-- What a step does to the phases and the statuses. -/
structure Effect (reqs : Nat → Request) (s : State) (e : Ev) (s' : State) : Prop where
  passes : ∀ i, s'.phase i = .passed → s.phase i = .passed ∨
    e = .read i ∧ ∃ house, s.sys.db.house.find? (reqs i).id = some house ∧
      statusRefusal house (reqs i).status = none
  starts : ∀ i, s'.phase i ≠ .start → s.phase i ≠ .start ∨ e = .read i
  status : ∀ h, s'.sys.db.statusOf h = s.sys.db.statusOf h ∨
    ∃ k, e = .write k ∧ s.phase k = .passed ∧ h = (reqs k).id ∧
      s'.sys.db.statusOf h = (s.sys.db.statusOf h).map fun _ => (reqs k).status

theorem phase_at (s : State) (k : Nat) (p : Phase) (i : Nat) :
    (s.at k p).phase i = if i = k then p else s.phase i := by
  simp [State.at, Function.update_apply]

theorem step_effect {reqs : Nat → Request} {s s' : State} {e : Ev} (h : step reqs s e = some s') :
    Effect reqs s e s' := by
  cases e with
  | read k =>
    simp only [step, Option.ite_none_right_eq_some, Option.some.injEq] at h
    obtain ⟨-, rfl⟩ := h
    refine ⟨fun i hp => ?_, fun i hp => ?_, fun h => Or.inl rfl⟩
    · rw [phase_at] at hp
      split at hp
      · rename_i hk; subst hk
        exact Or.inr ⟨rfl, check_passed hp⟩
      · exact Or.inl hp
    · rw [phase_at] at hp
      split at hp
      · rename_i hk; exact Or.inr (by rw [hk])
      · exact Or.inl hp
  | write k =>
    simp only [step, Option.ite_none_right_eq_some, Option.some.injEq] at h
    obtain ⟨hk, rfl⟩ := h
    have hphase : ∀ i, (written (reqs k) k s).phase i = if i = k then .written else s.phase i := phase_at s k _
    refine ⟨fun i hp => ?_, fun i hp => ?_, fun h => ?_⟩
    · rw [hphase] at hp
      split at hp
      · cases hp
      · exact Or.inl hp
    · rw [hphase] at hp
      split at hp
      · rename_i hik; exact Or.inl (by rw [hik, hk]; decide)
      · exact Or.inl hp
    · simp only [written, statusOf_setStatus]
      split
      · rename_i hh; subst hh; exact Or.inr ⟨k, rfl, hk, rfl, rfl⟩
      · exact Or.inl rfl
  | send k =>
    simp only [step, Option.ite_none_right_eq_some, Option.some.injEq] at h
    obtain ⟨hk, rfl⟩ := h
    have hphase : ∀ i, (sent (reqs k) k s).phase i = if i = k then .finished else s.phase i := phase_at s k _
    refine ⟨fun i hp => ?_, fun i hp => ?_, fun h => Or.inl ?_⟩
    · rw [hphase] at hp
      split at hp
      · cases hp
      · exact Or.inl hp
    · rw [hphase] at hp
      split at hp
      · rename_i hik; exact Or.inl (by rw [hik, hk]; decide)
      · exact Or.inl hp
    · rw [sent, notifySearch_eq, send_db]

/-! ## A request alone -/

/-- Undisturbed, the steps of a request are `updateStatus`. -/
theorem run_alone (reqs : Nat → Request) (i : Nat) (s : State) (hs : s.phase i = .start) :
    ∃ ls s', (lts reqs).Run s ls s' ∧ s'.phase i = .finished ∧
      s'.sys = (updateStatus (reqs i).id (reqs i).status s.sys).1 := by
  have hread : (lts reqs).step s (.read i) (s.at i (check (reqs i) s.sys.db)) := if_pos hs
  have hself : ∀ (s : State) p, (s.at i p).phase i = p := fun s p => Function.update_self ..
  unfold updateStatus
  cases hf : s.sys.db.house.find? (reqs i).id with
  | none =>
    refine ⟨[.read i], _, .cons hread (.nil _), ?_, rfl⟩
    rw [hself, check, hf]
  | some house =>
    dsimp only
    cases hr : statusRefusal house (reqs i).status with
    | some message =>
      refine ⟨[.read i], _, .cons hread (.nil _), ?_, rfl⟩
      rw [hself, check, hf]
      simp only [hr]
    | none =>
      have hc : check (reqs i) s.sys.db = .passed := by
        rw [check, hf]
        simp only [hr]
      rw [hc] at hread
      exact ⟨[.read i, .write i, .send i], _, .cons hread (.cons (if_pos (hself s .passed))
        (.cons (if_pos (hself _ .written)) (.nil _))), hself _ .finished, rfl⟩

/-! ## How a final status is lost -/

/-- What a request that passed its guards saw, and what happened since:
`hist` holds the steps so far. -/
structure Inv (reqs : Nat → Request) (hist : List Ev) (s : State) : Prop where
  row : ∀ i, s.phase i = .passed → s.sys.db.statusOf (reqs i).id ≠ none
  hasRead : ∀ i, s.phase i ≠ .start → .read i ∈ hist
  since : ∀ i st, s.phase i = .passed → s.sys.db.statusOf (reqs i).id = some st → Final st →
    ∃ j, (reqs i).id = (reqs j).id ∧ (reqs j).status = st ∧ [.read i, .write j].Sublist hist

theorem Inv.start {reqs : Nat → Request} {s : State} (hs : ∀ i, s.phase i = .start) : Inv reqs [] s where
  row i h := by rw [hs] at h; cases h
  hasRead i h := absurd (hs i) h
  since i st h := by rw [hs] at h; cases h

theorem Inv.step {reqs : Nat → Request} {hist : List Ev} {s s' : State} {e : Ev} (hi : Inv reqs hist s)
    (h : step reqs s e = some s') : Inv reqs (hist ++ [e]) s' := by
  have he := step_effect h
  refine ⟨fun i hp => ?_, fun i hp => ?_, fun i st hp hst hf => ?_⟩
  · have hrow : s.sys.db.statusOf (reqs i).id ≠ none := by
      rcases he.passes i hp with hp | ⟨-, house, hh, -⟩
      · exact hi.row i hp
      · simp [statusOf_find hh]
    rcases he.status (reqs i).id with hsame | ⟨k, -, -, -, hmap⟩
    · rw [hsame]; exact hrow
    · rw [hmap]; simpa using hrow
  · rcases he.starts i hp with hp | rfl
    · exact List.mem_append_left _ (hi.hasRead i hp)
    · simp
  · rcases he.status (reqs i).id with hsame | ⟨k, rfl, -, hid, hmap⟩
    · rw [hsame] at hst
      rcases he.passes i hp with hp | ⟨-, house, hh, hr⟩
      · obtain ⟨j, hid, hj, hsub⟩ := hi.since i st hp hst hf
        exact ⟨j, hid, hj, hsub.trans (List.sublist_append_left hist [e])⟩
      · -- the guards do not pass on a final status
        obtain ⟨-, hnr, hnd⟩ := statusRefusal_none hr
        rw [statusOf_find hh, Option.some.injEq] at hst
        subst hst
        rcases hf with hf | hf
        · exact absurd hf hnr
        · exact absurd hf hnd
    · rcases he.passes i hp with hp | ⟨he', -⟩
      · rw [hmap] at hst
        obtain ⟨st0, -, rfl⟩ := Option.map_eq_some_iff.mp hst
        have hread := hi.hasRead i (by rw [hp]; decide)
        exact ⟨k, hid, rfl, (List.singleton_sublist.mpr hread).append (List.Sublist.refl [Ev.write k])⟩
      · cases he'

theorem Inv.run {reqs : Nat → Request} {s s' : State} {hist ls : List Ev} (hi : Inv reqs hist s)
    (hr : (lts reqs).Run s ls s') : Inv reqs (hist ++ ls) s' := by
  refine hr.history (P := fun ls s => Inv reqs (hist ++ ls) s) (by simpa using hi) fun ls s e s' _ h hs => ?_
  rw [← List.append_assoc]
  exact h.step hs

/-- A step that changes a final status is the write of an overtaken request. -/
theorem overtaken_of_change {reqs : Nat → Request} {hist : List Ev} {s s' : State} {e : Ev}
    (hi : Inv reqs hist s) (h : StatusRace.step reqs s e = some s') {i : Long} {st : Int} (hf : Final st)
    (hst : s.sys.db.statusOf i = some st) (hne : s'.sys.db.statusOf i ≠ some st) :
    Overtaken reqs (hist ++ [e]) := by
  rcases (step_effect h).status i with hsame | ⟨k, rfl, hk, rfl, hmap⟩
  · exact absurd (hsame.trans hst) hne
  · rw [hmap, hst, Option.map_some, Ne, Option.some.injEq] at hne
    obtain ⟨j, hid, hj, hsub⟩ := hi.since k st hk hst hf
    exact ⟨k, j, hid, hj ▸ hf, hj ▸ hne, hsub.append (List.Sublist.refl [Ev.write k])⟩

theorem kept_of_not_overtaken {reqs : Nat → Request} {s s' : State} {ls : List Ev}
    (hr : (lts reqs).Run s ls s') : ∀ {hist : List Ev}, Inv reqs hist s → ¬ Overtaken reqs (hist ++ ls) →
      ∀ {i st}, Final st → s.sys.db.statusOf i = some st → s'.sys.db.statusOf i = some st := by
  induction hr with
  | nil => intro _ _ _ _ _ _ hst; exact hst
  | @cons s s1 s2 e ls hs _ ih =>
    intro hist hi hno i st hf hst
    have hi1 : Inv reqs (hist ++ [e]) s1 := hi.step hs
    refine ih hi1 ?_ hf ?_
    · rwa [List.append_assoc, List.singleton_append]
    · by_contra hne
      obtain ⟨k, j, hid, hfj, hnej, hsub⟩ := overtaken_of_change hi hs hf hst hne
      refine hno ⟨k, j, hid, hfj, hnej, hsub.trans ?_⟩
      exact (List.Sublist.refl hist).append (List.singleton_sublist.mpr List.mem_cons_self)

theorem status_written {reqs : Nat → Request} {hist : List Ev} {s s' : State} {k : Nat}
    (hi : Inv reqs hist s) (h : (lts reqs).Run s [.write k] s') :
    s'.sys.db.statusOf (reqs k).id = some (reqs k).status := by
  cases h with
  | cons hs hr =>
    cases hr
    simp only [lts, LTS.ofFn, StatusRace.step, Option.ite_none_right_eq_some, Option.some.injEq] at hs
    obtain ⟨hk, rfl⟩ := hs
    obtain ⟨st, hst⟩ := Option.ne_none_iff_exists'.mp (hi.row k hk)
    simp only [written, statusOf_setStatus, if_true, hst, Option.map_some]

theorem split_of_mem {e : Ev} {l : List Ev} (h : e ∈ l) : ∃ a b, l = a ++ [e] ++ b := by
  obtain ⟨a, b, rfl⟩ := List.append_of_mem h
  exact ⟨a, b, by simp⟩

/-- **When final statuses are kept.** In every run of every set of requests:
exactly when no request writes after a different final status of its house
was written behind its read. -/
theorem finalKept_iff (reqs : Nat → Request) (s s' : State) (ls : List Ev) (h0 : ∀ i, s.phase i = .start)
    (hr : (lts reqs).Run s ls s') : FinalKept reqs s ls ↔ ¬ Overtaken reqs ls := by
  have hi : Inv reqs [] s := .start h0
  constructor
  · rintro hk ⟨i, j, hid, hf, hne, hsub⟩
    obtain ⟨r1, r2, rfl, -, hsub⟩ := List.cons_sublist_iff.mp hsub
    obtain ⟨q1, q2, rfl, hj, hsub2⟩ := List.cons_sublist_iff.mp hsub
    obtain ⟨a, b, rfl⟩ := split_of_mem hj
    obtain ⟨c, d, rfl⟩ := split_of_mem (List.singleton_sublist.mp hsub2)
    -- `pre` ends with the write of `j`, `mid` with the write of `i`
    have he : r1 ++ (a ++ [Ev.write j] ++ b ++ (c ++ [Ev.write i] ++ d)) =
        (r1 ++ a) ++ [.write j] ++ ((b ++ c) ++ [.write i]) ++ d := by simp
    rw [he] at hr hk
    obtain ⟨s2, hr, -⟩ := hr.split
    obtain ⟨s1, hpre, hmid⟩ := hr.split
    have hkept := hk _ _ _ s1 s2 rfl hpre hmid (reqs j).id (reqs j).status hf
    obtain ⟨sj, hrj, hwj⟩ := hpre.split
    obtain ⟨si, hri, hwi⟩ := hmid.split
    have hij := hi.run hrj
    have hii := (hij.run hwj).run hri
    have h1 := status_written hij hwj
    have h2 := status_written hii hwi
    rw [hid, hkept h1, Option.some.injEq] at h2
    exact hne h2.symm
  · intro hno pre mid post s1 s2 hls hpre hmid h st hf hst
    refine kept_of_not_overtaken hmid (hi.run hpre) ?_ hf hst
    rintro ⟨i, j, hid, hfj, hne, hsub⟩
    refine hno ⟨i, j, hid, hfj, hne, ?_⟩
    rw [hls]
    simpa using hsub.trans (List.sublist_append_left ([] ++ pre ++ mid) post)

/-- Request 0 rents house 1 out, every other one deletes it. -/
def rentOrDelete (i : Nat) : Request :=
  if i = 0 then ⟨1, HouseStatus.RENTED.value⟩ else ⟨1, HouseStatus.DELETED.value⟩

def idle : State := ⟨Sample.stored, fun _ => .start⟩

/-- One request after the other: the second one is refused. -/
theorem finalKept_sequential : FinalKept rentOrDelete idle [.read 0, .write 0, .send 0, .read 1] := by
  have hr : ∃ s', (lts rentOrDelete).Run idle [.read 0, .write 0, .send 0, .read 1] s' := by
    obtain ⟨s', hs, -⟩ : ∃ s' ∈ LTS.exec (step rentOrDelete) (fun _ _ => True) idle
        [.read 0, .write 0, .send 0, .read 1], True := by decide +kernel
    exact ⟨s', (LTS.run_of_exec hs).of_restrict⟩
  obtain ⟨s', hr⟩ := hr
  refine (finalKept_iff rentOrDelete idle s' _ (fun _ => rfl) hr).mpr ?_
  rintro ⟨i, j, -, -, hne, hsub⟩
  have hi : i = 0 := by simpa using hsub.subset (show Ev.write i ∈ _ by simp)
  have hj : j = 0 := by simpa using hsub.subset (show Ev.write j ∈ _ by simp)
  exact hne (by rw [hi, hj])

/-- **A final status is lost.** Both requests read the house before either
writes; the house rented out by request 0 is deleted by request 1. -/
theorem final_lost :
    ¬ ∀ (reqs : Nat → Request) (s s' : State) (ls : List Ev), (∀ i, s.phase i = .start) →
      (lts reqs).Run s ls s' → FinalKept reqs s ls := by
  intro hall
  obtain ⟨s1, hs1, hst1, s2, hs2, hst2⟩ :
      ∃ s1 ∈ LTS.exec (step rentOrDelete) (fun _ _ => True) idle [.read 0, .read 1, .write 0],
        s1.sys.db.statusOf 1 = some HouseStatus.RENTED.value ∧
        ∃ s2 ∈ LTS.exec (step rentOrDelete) (fun _ _ => True) s1 [.write 1],
          s2.sys.db.statusOf 1 = some HouseStatus.DELETED.value := by decide +kernel
  have hpre : (lts rentOrDelete).Run idle _ s1 := (LTS.run_of_exec hs1).of_restrict
  have hmid : (lts rentOrDelete).Run s1 _ s2 := (LTS.run_of_exec hs2).of_restrict
  have hkept := hall rentOrDelete idle s2 _ (fun _ => rfl) (hpre.append hmid) _ _ [] s1 s2
    (List.append_nil _).symm hpre hmid 1 _ (Or.inl rfl) hst1
  rw [hkept] at hst2
  exact absurd hst2 (by decide)

end Soufang.StatusRace
