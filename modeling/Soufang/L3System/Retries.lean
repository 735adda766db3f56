import Soufang.Core.RetryQueue
import Soufang.L2Service.Delivery
import Soufang.L3System.System

/-!
# Bounded retries

A call of `index` or `remove` sends a message, and a handler run may send the
message it took once more. `Traced` records beside the system which call each
message goes back to: a call's messages are its own, those of a handler run
belong to the call of the message it took.

`Traced.abs` forgets the system and leaves a `RetryQueue`: `abs_call` and
`abs_handle` show that the steps are those of the library, whatever the
external calls answer and however the sends end. `bounded_retries` reads the
library's invariant back; that the queue runs empty is a matter of `load`.
-/
namespace Soufang

open SearchService

structure Traced where
  sys : Sys
  calls : Nat
  tags : List Nat
  sent : List (Nat × HouseIndexMessage)

/-- A call of `ISearchService.index` or `remove`, a handler run, and anything
else the application does to the stores; the first two with the end of their
send. -/
inductive Event
  | call (op : Operation) (houseId : Long) (o : Sending)
  | handle (c : Calls) (o : Sending)
  | elsewhere (db : Db) (es : Es) (lbs : List LbsPoint)

namespace Traced

/-- Call `k` caused the messages `s` has over `queue`. -/
def record (t : Traced) (k : Nat) (tags : List Nat) (queue : List HouseIndexMessage) (s : Sys)
    (o : Sending) : Traced :=
  { t with
    sys := o.deliver queue s
    tags := tags ++ ((o.deliver queue s).added queue).map fun _ => k
    sent := t.sent ++ (s.added queue).map fun m => (k, m) }

def step (env : Env) (t : Traced) : Event → Option Traced
  | .call op h o =>
    some { t.record t.calls t.tags t.sys.queue (notify op h t.sys) o with calls := t.calls + 1 }
  | .handle c o => (handleMessage env c t.sys).map fun s =>
      t.record (t.tags.headD 0) t.tags.tail t.sys.queue.tail s o
  | .elsewhere db es lbs => some { t with sys := { t.sys with db := db, es := es, lbs := lbs } }

/-- The messages call `k` has sent, in order. -/
def sentBy (t : Traced) (k : Nat) : List HouseIndexMessage :=
  (t.sent.filter fun p => p.1 = k).map Prod.snd

/-- The messages of call `k` in the queue. -/
def queuedOf (t : Traced) (k : Nat) : List HouseIndexMessage :=
  ((t.tags.zip t.sys.queue).filter fun p => p.1 = k).map Prod.snd

/-- No call yet; any stores, and an empty queue. -/
def Initial (t : Traced) : Prop := t.sys.queue = [] ∧ t.calls = 0 ∧ t.tags = [] ∧ t.sent = []

end Traced

def tracing (env : Env) : LTS Traced Event := LTS.ofFn Traced.Initial (Traced.step env)

/-! ## The retry queue behind the trace -/

open RetryQueue (Job)

def job (p : Nat × HouseIndexMessage) : Job := ⟨p.1, p.2.retry.toNat⟩

def Traced.abs (t : Traced) : RetryQueue.State where
  queue := (t.tags.zip t.sys.queue).map job
  sent := t.sent.map job
  calls := t.calls

/-- Every message in the queue has its call, and no retry value is negative. -/
structure Traced.Sound (t : Traced) : Prop where
  tagged : t.tags.length = t.sys.queue.length
  queued : ∀ m ∈ t.sys.queue, 0 ≤ m.retry
  sent : ∀ p ∈ t.sent, 0 ≤ p.2.retry
  inv : RetryQueue.Inv 3 t.abs

theorem notify_queue (op : Operation) (h : Long) (s : Sys) : (notify op h s).queue = s.queue ++ [⟨h, op, 0⟩] := by
  cases op <;> simp [notify, index, remove, send, MAX_RETRY]

theorem deliver_queue {o : Sending} {queue added : List HouseIndexMessage} {s : Sys}
    (h : s.queue = queue ++ added) :
    (o.deliver queue s).queue = queue ++ if o = .delivered then added else [] := by
  cases o <;> simp [Sending.deliver, h]

theorem added_of_queue {queue added : List HouseIndexMessage} {s : Sys} (h : s.queue = queue ++ added) :
    s.added queue = added := by
  rw [Sys.added, h, List.drop_left]

section
variable {env : Env} {t : Traced}

/-- What `record` does, by the messages the call sends. -/
theorem Traced.record_eq (k : Nat) (tags : List Nat) {queue added : List HouseIndexMessage} {s : Sys}
    (o : Sending) (h : s.queue = queue ++ added) :
    (t.record k tags queue s o).sys.queue = queue ++ (if o = .delivered then added else []) ∧
      (t.record k tags queue s o).tags = tags ++ (if o = .delivered then added else []).map (fun _ => k) ∧
      (t.record k tags queue s o).sent = t.sent ++ added.map fun m => (k, m) := by
  have hq := deliver_queue (o := o) h
  refine ⟨hq, ?_, ?_⟩
  · show tags ++ _ = _
    rw [added_of_queue hq]
  · show t.sent ++ _ = _
    rw [added_of_queue h]

/-- The message of a call or a run is emitted by the retry queue. -/
theorem Traced.abs_record {k : Nat} {tags : List Nat} {queue : List HouseIndexMessage} {m : HouseIndexMessage}
    {s : Sys} (o : Sending) (h : s.queue = queue ++ [m]) (htags : tags.length = queue.length) :
    (t.record k tags queue s o).abs =
      RetryQueue.State.emit ⟨(tags.zip queue).map job, t.sent.map job, t.calls⟩ (decide (o = .delivered))
        (job (k, m)) := by
  obtain ⟨hq, ht, hs⟩ := t.record_eq k tags o h
  simp only [Traced.abs, RetryQueue.State.emit, hq, ht, hs, List.zip_append htags, List.map_append]
  by_cases ho : o = .delivered <;> simp [ho, Traced.record]

theorem Traced.abs_record_nil {k : Nat} {tags : List Nat} {queue : List HouseIndexMessage} {s : Sys}
    (o : Sending) (h : s.queue = queue) :
    (t.record k tags queue s o).abs = ⟨(tags.zip queue).map job, t.sent.map job, t.calls⟩ := by
  obtain ⟨hq, ht, hs⟩ := t.record_eq k tags o (show s.queue = queue ++ [] by simpa using h)
  simp only [Traced.abs, hq, ht, hs, ite_self, List.map_nil, List.append_nil]
  rfl

/-- A call submits. -/
theorem Traced.abs_call (ht : t.Sound) {op : Operation} {h : Long} {o : Sending} {t' : Traced}
    (hs : t.step env (.call op h o) = some t') : t'.abs = t.abs.submit (decide (o = .delivered)) := by
  simp only [Traced.step, Option.some.injEq] at hs
  subst hs
  have habs := t.abs_record (k := t.calls) o (notify_queue op h t.sys) ht.tagged
  exact congrArg (fun q : RetryQueue.State => { q with calls := t.calls + 1 }) habs

theorem Traced.Sound.retry_le (ht : t.Sound) : ∀ m ∈ t.sys.queue, m.retry ≤ MAX_RETRY := by
  intro m hm
  rw [← List.map_snd_zip ht.tagged.ge] at hm
  obtain ⟨p, hp, rfl⟩ := List.mem_map.mp hm
  have hle := (ht.inv.queued (List.mem_map_of_mem (f := job) hp)).2
  show p.2.retry ≤ 3
  simp only [job] at hle
  omega

/-- A handler run takes. -/
theorem Traced.abs_handle (ht : t.Sound) {c : Calls} {o : Sending} {t' : Traced}
    (hs : t.step env (.handle c o) = some t') :
    ∃ j rest again, t.abs.queue = j :: rest ∧
      t'.abs = t.abs.take 3 again (decide (o = .delivered)) j rest := by
  simp only [Traced.step, Option.map_eq_some_iff] at hs
  obtain ⟨s, hm, rfl⟩ := hs
  obtain ⟨m, rest, again, hq, hq'⟩ := handleMessage_queue hm
  have htagged := ht.tagged
  rw [hq, List.length_cons] at htagged
  obtain ⟨k, ks, hks⟩ := List.exists_cons_of_length_eq_add_one htagged
  have hlen : ks.length = rest.length := by
    rw [hks, List.length_cons] at htagged
    omega
  have hretry : 0 ≤ m.retry := ht.queued m (by rw [hq]; exact List.mem_cons_self)
  have hnext : nextRetry m.retry = m.retry + 1 := nextRetry_eq (ht.retry_le m (by rw [hq]; exact List.mem_cons_self))
  refine ⟨job (k, m), (ks.zip rest).map job, again, ?_, ?_⟩
  · simp [Traced.abs, hq, hks]
  · rw [hq, hks, List.headD_cons, List.tail_cons, List.tail_cons]
    have hbound : decide ((job (k, m)).attempt + 1 ≤ 3) = decide (m.retry + 1 ≤ MAX_RETRY) := by
      refine decide_eq_decide.mpr ?_
      show m.retry.toNat + 1 ≤ 3 ↔ m.retry + 1 ≤ 3
      omega
    unfold RetryQueue.State.take
    rw [hbound]
    unfold requeued at hq'
    rw [hnext] at hq'
    split
    · rename_i hagain
      rw [if_pos hagain] at hq'
      rw [t.abs_record o hq' hlen]
      have hjob : job (k, { m with retry := m.retry + 1 }) = ⟨k, m.retry.toNat + 1⟩ := by
        simp only [job, Job.mk.injEq, true_and]
        omega
      rw [hjob]
      rfl
    · rename_i hagain
      rw [if_neg hagain, List.append_nil] at hq'
      rw [t.abs_record_nil o hq']
      rfl

/-! ## Every reachable trace -/

/-- Recording keeps the tags in step and the retry values non-negative. -/
theorem Traced.Sound.record (ht : t.Sound) {k : Nat} {tags : List Nat} {queue added : List HouseIndexMessage}
    {s : Sys} (o : Sending) (h : s.queue = queue ++ added) (htags : tags.length = queue.length)
    (hqueue : ∀ m ∈ queue, 0 ≤ m.retry) (hadded : ∀ m ∈ added, 0 ≤ m.retry) :
    (t.record k tags queue s o).tags.length = (t.record k tags queue s o).sys.queue.length ∧
      (∀ m ∈ (t.record k tags queue s o).sys.queue, 0 ≤ m.retry) ∧
      ∀ p ∈ (t.record k tags queue s o).sent, 0 ≤ p.2.retry := by
  obtain ⟨hq, hts, hsent⟩ := t.record_eq k tags o h
  rw [hq, hts, hsent]
  refine ⟨by simp [htags], ?_, ?_⟩
  · intro m hm
    rcases List.mem_append.mp hm with hm | hm
    · exact hqueue m hm
    · split at hm
      · exact hadded m hm
      · cases hm
  · intro p hp
    rcases List.mem_append.mp hp with hp | hp
    · exact ht.sent p hp
    · obtain ⟨m, hm, rfl⟩ := List.mem_map.mp hp
      exact hadded m hm

theorem Traced.Sound.call (ht : t.Sound) {op : Operation} {h : Long} {o : Sending} {t' : Traced}
    (hs : t.step env (.call op h o) = some t') : t'.Sound := by
  have habs := Traced.abs_call ht hs
  simp only [Traced.step, Option.some.injEq] at hs
  subst hs
  obtain ⟨htags, hqueue, hsent⟩ := ht.record (k := t.calls) o (notify_queue op h t.sys) ht.tagged ht.queued
    (by simp)
  exact ⟨htags, hqueue, hsent, habs ▸ ht.inv.submit _⟩

theorem Traced.Sound.handle (ht : t.Sound) {c : Calls} {o : Sending} {t' : Traced}
    (hs : t.step env (.handle c o) = some t') : t'.Sound := by
  obtain ⟨j, jobs, again, hjobs, habs⟩ := Traced.abs_handle ht hs
  simp only [Traced.step, Option.map_eq_some_iff] at hs
  obtain ⟨s, hm, rfl⟩ := hs
  obtain ⟨m, rest, again', hq, hq'⟩ := handleMessage_queue hm
  have htail : t.sys.queue.tail = rest := by rw [hq, List.tail_cons]
  have hlen : t.tags.tail.length = t.sys.queue.tail.length := by
    rw [List.length_tail, List.length_tail, ht.tagged]
  have hadded : ∀ x ∈ requeued again' m, 0 ≤ x.retry := by
    have hretry : 0 ≤ m.retry := ht.queued m (by rw [hq]; exact List.mem_cons_self)
    intro x hx
    unfold requeued at hx
    split at hx
    · rw [List.mem_singleton.mp hx]
      show 0 ≤ nextRetry m.retry
      rw [nextRetry_eq (ht.retry_le m (by rw [hq]; exact List.mem_cons_self))]
      omega
    · cases hx
  obtain ⟨htags, hqueue, hsent⟩ := ht.record (k := t.tags.headD 0) o (by rw [htail]; exact hq') hlen
    (fun x hx => ht.queued x (List.mem_of_mem_tail hx)) hadded
  exact ⟨htags, hqueue, hsent, habs ▸ ht.inv.take hjobs _ _⟩

theorem sound_step {t' : Traced} {l : Event} (ht : t.Sound) (hs : t.step env l = some t') : t'.Sound := by
  cases l with
  | call op h o => exact ht.call hs
  | handle c o => exact ht.handle hs
  | elsewhere db es lbs =>
    simp only [Traced.step, Option.some.injEq] at hs
    subst hs
    exact ⟨ht.tagged, ht.queued, ht.sent, ht.inv⟩

theorem sound_inductive (env : Env) : (tracing env).Inductive Traced.Sound where
  init := by
    intro t ⟨hq, hc, htags, hsent⟩
    refine ⟨by simp [htags, hq], ?_, ?_, ?_⟩
    · rw [hq]
      exact fun _ h => by cases h
    · rw [hsent]
      exact fun _ h => by cases h
    · have habs : t.abs = RetryQueue.start := by
        rw [Traced.abs, hc, htags, hsent]
        rfl
      exact habs ▸ .start 3
  step _ _ _ ht hs := sound_step ht hs

/-! ## What the invariant says of the messages -/

theorem Traced.Sound.sentBy (ht : t.Sound) (k : Nat) :
    ∃ n ≤ 4, (t.sentBy k).map HouseIndexMessage.retry = (List.range n).map Int.ofNat := by
  obtain ⟨n, hn, ha⟩ := ht.inv.attempts k
  refine ⟨n, hn, ?_⟩
  rw [← ha]
  simp only [Traced.sentBy, Traced.abs, RetryQueue.State.attempts, List.filter_map, List.map_map]
  refine List.map_congr_left fun p hp => ?_
  have := ht.sent p (List.mem_filter.mp hp).1
  show p.2.retry = Int.ofNat p.2.retry.toNat
  exact (Int.toNat_of_nonneg this).symm

theorem Traced.Sound.queuedOf (ht : t.Sound) (k : Nat) : (t.queuedOf k).length ≤ 1 := by
  have hcount := List.nodup_iff_count_le_one.mp ht.inv.single k
  simp only [Traced.abs, List.map_map, List.count, List.countP_map] at hcount
  rw [Traced.queuedOf, List.length_map, ← List.countP_eq_length_filter]
  exact hcount

/-- Four handler runs for each call are left at most. -/
theorem Traced.Sound.load_le (ht : t.Sound) : load t.sys ≤ 4 * t.calls := by
  have hlen : t.sys.queue.length ≤ t.calls := by
    have hle := ht.inv.length_le
    simp only [Traced.abs, List.length_map, List.length_zip, ht.tagged, Nat.min_self] at hle
    exact hle
  have hsum : load t.sys ≤ t.sys.queue.length * 4 := by
    refine (List.sum_le_card_nsmul _ 4 ?_).trans (by simp)
    intro x hx
    obtain ⟨m, hm, rfl⟩ := List.mem_map.mp hx
    have := ht.queued m hm
    simp only [MAX_RETRY]
    omega
  omega

theorem load_deliver (o : Sending) {queue added : List HouseIndexMessage} {s : Sys}
    (h : s.queue = queue ++ added) : load (o.deliver queue s) ≤ load s := by
  have hq := deliver_queue (o := o) h
  simp only [load, hq, h, List.map_append, List.sum_append]
  split <;> simp

/-- Every handler run lowers the load. -/
theorem Traced.Sound.handle_load (ht : t.Sound) {c : Calls} {o : Sending} {t' : Traced}
    (hs : t.step env (.handle c o) = some t') : load t'.sys < load t.sys := by
  simp only [Traced.step, Option.map_eq_some_iff] at hs
  obtain ⟨s, hm, rfl⟩ := hs
  obtain ⟨m, rest, again, hq, hq'⟩ := handleMessage_queue hm
  have htail : t.sys.queue.tail = rest := by rw [hq, List.tail_cons]
  refine Nat.lt_of_le_of_lt ?_ (load_handle ht.retry_le hm)
  exact load_deliver o (by rw [htail]; exact hq')

end

/-- **Bounded retries.** Whatever the external calls answer and however the
sends end: a call sends at most four messages, with retry values 0, 1, 2, ...
up to `MAX_RETRY`, at most one of them is in the queue, and four handler runs
for each call empty it. -/
theorem bounded_retries (env : Env) (t : Traced) (hr : (tracing env).Reachable t) :
    (∀ k, ∃ n ≤ 4, (t.sentBy k).map HouseIndexMessage.retry = (List.range n).map Int.ofNat) ∧
      (∀ k, ∀ m ∈ t.sentBy k, m.retry ≤ MAX_RETRY) ∧
      t.tags.length = t.sys.queue.length ∧ (∀ k, (t.queuedOf k).length ≤ 1) ∧
      ∀ ends : Nat → Calls × Sending, ∃ n ≤ 4 * t.calls, ∃ t',
        (tracing env).Run t ((List.range n).map fun i => .handle (ends i).1 (ends i).2) t' ∧
          t'.sys.queue = [] := by
  have ht := (sound_inductive env).reachable hr
  refine ⟨ht.sentBy, ?_, ht.tagged, ht.queuedOf, ?_⟩
  · intro k m hm
    obtain ⟨n, hn, he⟩ := ht.sentBy k
    have hmem : m.retry ∈ (List.range n).map Int.ofNat := he ▸ List.mem_map_of_mem hm
    obtain ⟨i, hi, hie⟩ := List.mem_map.mp hmem
    have := List.mem_range.mp hi
    show m.retry ≤ 3
    rw [← hie]
    show (i : Int) ≤ 3
    omega
  · intro ends
    obtain ⟨n, t', hn, hrun, -, hq⟩ := LTS.exists_run_of_measure (M := tracing env) (P := Traced.Sound)
      (D := fun t => t.sys.queue = []) (fun t => load t.sys) (fun i => .handle (ends i).1 (ends i).2)
      (fun i t ht hne => by
        obtain ⟨s, hs⟩ := handleMessage_enabled env (ends i).1 hne
        have hstep : ∃ t', t.step env (.handle (ends i).1 (ends i).2) = some t' := by
          simp only [Traced.step, hs]
          exact ⟨_, rfl⟩
        obtain ⟨t', hstep⟩ := hstep
        exact ⟨t', hstep, ht.handle hstep, ht.handle_load hstep⟩)
      (load t.sys) 0 t ht (Nat.le_refl _)
    rw [← List.range_eq_range'] at hrun
    exact ⟨n, hn.trans ht.load_le, t', hrun, hq⟩

/-- The index message of a house whose geocoding always fails is sent four
times. -/
theorem bounded_retries_failing : ∃ t : Traced, (t.sentBy 0).length = 4 ∧ t.sys.queue = [] ∧
    ∀ k, (t.queuedOf k).length ≤ 1 := by
  obtain ⟨t, hr, hsent, hq⟩ := LTS.exists_reachable Traced.Initial (Traced.step Sample.env) (fun _ _ => True)
    (fun t => (t.sentBy 0).length = 4 ∧ t.sys.queue = []) (s := ⟨Sample.stored, 0, [], []⟩)
    ⟨rfl, rfl, rfl, rfl⟩
    (.call .index 1 .delivered :: List.replicate 4 (.handle { Calls.success with geocode := .failed } .delivered))
    (by decide +kernel)
  exact ⟨t, hsent, hq, (bounded_retries Sample.env t hr.of_restrict).2.2.2.1⟩

end Soufang
