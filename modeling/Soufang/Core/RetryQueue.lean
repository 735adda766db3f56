import Soufang.Core.Lts

/-!
# A queue whose consumer puts work back

Each submission sends a first job; the consumer takes the oldest job and may
send it once more, as the next attempt, up to a bound. A job that is sent may
get lost on the way to the queue.

`Inv` says, for each submission, that its attempts were sent in order from 0,
and that the queue holds at most the last of them. It is kept by every step
(`Inv.submit`, `Inv.take`), and with it no submission sends more than
`bound + 1` jobs (`Inv.attempts`) and the queue is no longer than the number of
submissions (`Inv.length_le`).
-/
namespace Soufang.RetryQueue

structure Job where
  origin : Nat
  attempt : Nat

/-- `sent` is the history, `calls` the number of submissions so far. -/
structure State where
  queue : List Job
  sent : List Job
  calls : Nat

def start : State := ⟨[], [], 0⟩

/-- Send a job, which reaches the queue or not. -/
def State.emit (s : State) (delivered : Bool) (j : Job) : State :=
  { s with queue := s.queue ++ if delivered then [j] else [], sent := s.sent ++ [j] }

def State.submit (s : State) (delivered : Bool) : State :=
  { s with calls := s.calls + 1 }.emit delivered ⟨s.calls, 0⟩

/-- Take the head `j` with `rest` behind it. -/
def State.take (s : State) (bound : Nat) (again delivered : Bool) (j : Job) (rest : List Job) : State :=
  if again && decide (j.attempt + 1 ≤ bound) then
    { s with queue := rest }.emit delivered ⟨j.origin, j.attempt + 1⟩
  else { s with queue := rest }

/-- The attempts submission `k` has sent, in order. -/
def State.attempts (s : State) (k : Nat) : List Nat :=
  (s.sent.filter fun j => j.origin = k).map Job.attempt

structure Inv (bound : Nat) (s : State) : Prop where
  attempts : ∀ k, ∃ n ≤ bound + 1, s.attempts k = List.range n
  latest : ∀ j ∈ s.queue, s.attempts j.origin = List.range (j.attempt + 1)
  known : ∀ j ∈ s.sent, j.origin < s.calls
  single : (s.queue.map Job.origin).Nodup

theorem Inv.start (bound : Nat) : Inv bound start where
  attempts _ := ⟨0, Nat.zero_le _, rfl⟩
  latest j hj := by cases hj
  known j hj := by cases hj
  single := List.nodup_nil

section
variable {bound : Nat} {s : State}

theorem attempts_emit (delivered : Bool) (j : Job) (k : Nat) :
    (s.emit delivered j).attempts k = s.attempts k ++ if j.origin = k then [j.attempt] else [] := by
  simp only [State.attempts, State.emit, List.filter_append, List.map_append]
  congr 1
  by_cases hk : j.origin = k <;> simp [hk]

/-- A job of the queue is one of the sent ones, so its submission is known
and its attempt within the bound. -/
theorem Inv.queued (h : Inv bound s) {j : Job} (hj : j ∈ s.queue) : j.origin < s.calls ∧ j.attempt ≤ bound := by
  have hlast := h.latest j hj
  constructor
  · have hmem : j.attempt ∈ s.attempts j.origin := by
      rw [hlast]
      exact List.mem_range.mpr (Nat.lt_succ_self _)
    obtain ⟨i, hi, -⟩ := List.mem_map.mp hmem
    obtain ⟨hi, ho⟩ := List.mem_filter.mp hi
    have := h.known i hi
    simp only [decide_eq_true_eq] at ho
    omega
  · obtain ⟨n, hn, ha⟩ := h.attempts j.origin
    rw [hlast] at ha
    have := congrArg List.length ha
    simp only [List.length_range] at this
    omega

/-- No more jobs are queued than there were submissions. -/
theorem Inv.length_le (h : Inv bound s) : s.queue.length ≤ s.calls := by
  have hsub : s.queue.map Job.origin ⊆ List.range s.calls := by
    intro k hk
    obtain ⟨j, hj, rfl⟩ := List.mem_map.mp hk
    exact List.mem_range.mpr (h.queued hj).1
  have hle := (h.single.subperm hsub).length_le
  rw [List.length_map, List.length_range] at hle
  exact hle

/-- The next attempt of a submission that has no job in the queue. -/
theorem Inv.emit (h : Inv bound s) (delivered : Bool) {k a : Nat} (hk : k < s.calls)
    (ha : s.attempts k = List.range a) (hb : a ≤ bound) (hq : k ∉ s.queue.map Job.origin) :
    Inv bound (s.emit delivered ⟨k, a⟩) := by
  have hself : (s.emit delivered ⟨k, a⟩).attempts k = List.range (a + 1) := by
    rw [attempts_emit, if_pos rfl, ha, List.range_succ]
  have hother : ∀ k', k' ≠ k → (s.emit delivered ⟨k, a⟩).attempts k' = s.attempts k' := by
    intro k' hne
    rw [attempts_emit, if_neg fun he => hne he.symm, List.append_nil]
  refine ⟨?_, ?_, ?_, ?_⟩
  · intro k'
    by_cases hk' : k' = k
    · rw [hk', hself]
      exact ⟨a + 1, by omega, rfl⟩
    · rw [hother k' hk']
      exact h.attempts k'
  · intro j hj
    rcases List.mem_append.mp hj with hj | hj
    · have hne : j.origin ≠ k := fun he => hq (he ▸ List.mem_map_of_mem hj)
      rw [hother _ hne]
      exact h.latest j hj
    · cases delivered with
      | false => cases hj
      | true =>
        rw [if_pos rfl, List.mem_singleton] at hj
        rw [hj]
        exact hself
  · intro j hj
    rcases List.mem_append.mp hj with hj | hj
    · exact h.known j hj
    · rw [List.mem_singleton.mp hj]
      exact hk
  · cases delivered with
    | false =>
      simp only [State.emit, Bool.false_eq_true, if_false, List.append_nil]
      exact h.single
    | true =>
      simp only [State.emit, if_pos, List.map_append, List.map_cons, List.map_nil]
      refine List.nodup_append.mpr ⟨h.single, List.nodup_singleton _, ?_⟩
      intro i hi j hj he
      rw [List.mem_singleton.mp hj] at he
      exact hq (he ▸ hi)

theorem Inv.submit (h : Inv bound s) (delivered : Bool) : Inv bound (s.submit delivered) := by
  have hnew : s.attempts s.calls = List.range 0 := by
    simp only [State.attempts, List.range_zero, List.map_eq_nil_iff, List.filter_eq_nil_iff]
    intro j hj
    have := h.known j hj
    simp only [decide_eq_true_eq]
    omega
  have hcalls : Inv bound { s with calls := s.calls + 1 } :=
    ⟨h.attempts, h.latest, fun j hj => Nat.lt_succ_of_lt (h.known j hj), h.single⟩
  refine hcalls.emit delivered (Nat.lt_succ_self _) hnew (Nat.zero_le _) ?_
  intro hk
  obtain ⟨j, hj, ho⟩ := List.mem_map.mp hk
  have := (h.queued hj).1
  omega

theorem Inv.take (h : Inv bound s) {j : Job} {rest : List Job} (hq : s.queue = j :: rest)
    (again delivered : Bool) : Inv bound (s.take bound again delivered j rest) := by
  have hj : j ∈ s.queue := by rw [hq]; exact List.mem_cons_self
  have hsingle := h.single
  rw [hq, List.map_cons, List.nodup_cons] at hsingle
  have hrest : Inv bound { s with queue := rest } :=
    ⟨h.attempts, fun i hi => h.latest i (by rw [hq]; exact List.mem_cons_of_mem _ hi), h.known, hsingle.2⟩
  unfold State.take
  split
  · rename_i hagain
    simp only [Bool.and_eq_true, decide_eq_true_eq] at hagain
    exact hrest.emit delivered (h.queued hj).1 (h.latest j hj) hagain.2 hsingle.1
  · exact hrest

end

end Soufang.RetryQueue
