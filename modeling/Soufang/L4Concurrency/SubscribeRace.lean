import Soufang.L3System.Reservations

/-!
# Concurrent reservations

`addSubscribeOrder` in three atomic steps: it looks up the pair (`lookPair`),
looks up the house (`lookHouse`) and inserts the row (`insert`). Any number of
requests run interleaved with each other and with the requests of the system
(`other`); `run_alone` is a request that runs undisturbed, which is the
operation of `HouseService`.

Two requests for one pair can both find it absent. The unique key of the
table then refuses the second insert, and that request ends with an
exception: `one_reservation`.
-/
namespace Soufang.SubscribeRace

open HouseService

structure Request where
  userId : Long
  houseId : Long
  now : Date

/-- `found` carries the owner of the house that was looked up. -/
inductive Phase
  | start
  | absent
  | found (adminId : Long)
  | finished (result : Except Exn (ServiceResult Unit))
  deriving DecidableEq

structure State where
  book : Bookings
  phase : Nat → Phase

inductive Ev
  | lookPair (i : Nat)
  | lookHouse (i : Nat)
  | insert (i : Nat)
  | other (l : Req)

def State.at (s : State) (i : Nat) (p : Phase) : State := { s with phase := Function.update s.phase i p }

/-- mirrors soufang/src/main/java/com/wf/service/house/HouseService.java:359-363 -/
def lookPair (r : Request) (b : Bookings) : Phase :=
  match findByHouseIdAndUserId b.subscribe r.houseId r.userId with
  | some _ => .finished (.ok (.fail "已加入预约"))
  | none => .absent

/-- mirrors soufang/src/main/java/com/wf/service/house/HouseService.java:364-367 -/
def lookHouse (r : Request) (b : Bookings) : Phase :=
  match b.sys.db.house.find? r.houseId with
  | none => .finished (.ok (.fail "查无此房"))
  | some house => .found house.adminId

/-- mirrors soufang/src/main/java/com/wf/service/house/HouseService.java:368-377 -/
def insert (r : Request) (adminId : Long) (b : Bookings) : Bookings × Phase :=
  match b.subscribe.insert? (newSubscribe r.userId r.now r.houseId adminId) with
  | none => (b, .finished (.error .dataIntegrityViolation))
  | some t => ({ b with subscribe := t }, .finished (.ok .ok))

def step (env : Env) (reqs : Nat → Request) (s : State) : Ev → Option State
  | .lookPair i =>
    match s.phase i with
    | .start => some (s.at i (lookPair (reqs i) s.book))
    | _ => none
  | .lookHouse i =>
    match s.phase i with
    | .absent => some (s.at i (lookHouse (reqs i) s.book))
    | _ => none
  | .insert i =>
    match s.phase i with
    | .found adminId =>
      match insert (reqs i) adminId s.book with
      | (b, p) => some { s.at i p with book := b }
    | _ => none
  | .other l => (Soufang.step env s.book.sys l).map fun sys => { s with book := { s.book with sys := sys } }

def lts (env : Env) (reqs : Nat → Request) : LTS State Ev :=
  LTS.ofFn (fun s => ∀ i, s.phase i = .start) (step env reqs)

/-- Request `i` is for house `h` and user `u`. -/
def Asks (reqs : Nat → Request) (h u : Long) (i : Nat) : Prop := (reqs i).houseId = h ∧ (reqs i).userId = u

def Reserved (t : Table HouseSubscribe) (h u : Long) : Prop := ∃ r ∈ t.rows, r.houseId = h ∧ r.userId = u

/-- In the run `ls` from `s0` request `i` looked up its house while `adminId`
owned it. -/
def LookedUp (env : Env) (reqs : Nat → Request) (s0 : State) (ls : List Ev) (i : Nat)
    (adminId : Long) : Prop :=
  ∃ pre post s1 house, ls = pre ++ .lookHouse i :: post ∧ (lts env reqs).Run s0 pre s1 ∧
    s1.book.sys.db.house.find? (reqs i).houseId = some house ∧ house.adminId = adminId

theorem phase_at (s : State) (k : Nat) (p : Phase) (i : Nat) :
    (s.at k p).phase i = if i = k then p else s.phase i := by
  simp [State.at, Function.update_apply]

theorem phase_self (s : State) (k : Nat) (p : Phase) : (s.at k p).phase k = p := Function.update_self ..

/-! ## The unique key -/

theorem find_eq_none {t : Table HouseSubscribe} {h u : Long} :
    findByHouseIdAndUserId t h u = none ↔ ¬ Reserved t h u := by
  simp [findByHouseIdAndUserId, Reserved, List.find?_eq_none]

theorem clash_iff {t : Table HouseSubscribe} {u : Long} {now : Date} {h adminId : Long} :
    t.Clash (newSubscribe u now h adminId) ↔ Reserved t h u := by
  simp only [Table.Clash, Reserved, Entity.uniq, newSubscribe, List.mem_filterMap, Option.some.injEq]
  constructor
  · intro ⟨k, ⟨r, hr, hk⟩, he⟩
    rw [← he, Prod.mk.injEq] at hk
    exact ⟨r, hr, hk.1, hk.2⟩
  · intro ⟨r, hr, hh, hu⟩
    exact ⟨(h, u), ⟨r, hr, by rw [hh, hu]⟩, rfl⟩

theorem insert?_none {t : Table HouseSubscribe} {u : Long} {now : Date} {h adminId : Long} :
    t.insert? (newSubscribe u now h adminId) = none ↔ Reserved t h u := by
  rw [Table.insert?_eq_none, clash_iff]

theorem reserved_insert {t t' : Table HouseSubscribe} {a : HouseSubscribe} (hi : t.insert? a = some t')
    {h u : Long} : Reserved t' h u ↔ Reserved t h u ∨ (a.houseId = h ∧ a.userId = u) := by
  unfold Reserved
  rw [(Table.insert?_some hi).1]
  simp only [List.mem_append, List.mem_singleton, or_and_right, exists_or, exists_eq_left]
  rfl

/-- No two rows have the same house and user. -/
theorem pairs_nodup (t : Table HouseSubscribe) : (t.rows.map fun r => (r.houseId, r.userId)).Nodup := by
  have h : t.rows.filterMap Entity.uniq = t.rows.map fun r => (r.houseId, r.userId) :=
    congrFun List.filterMap_eq_map t.rows
  rw [← h]
  exact t.uniques

/-! ## What a step does -/

inductive Moves (env : Env) (reqs : Nat → Request) (s : State) : Ev → State → Prop
  | absent (i : Nat) (hp : s.phase i = .start)
      (hr : ¬ Reserved s.book.subscribe (reqs i).houseId (reqs i).userId) :
      Moves env reqs s (.lookPair i) (s.at i .absent)
  | joined (i : Nat) (hp : s.phase i = .start)
      (hr : Reserved s.book.subscribe (reqs i).houseId (reqs i).userId) :
      Moves env reqs s (.lookPair i) (s.at i (.finished (.ok (.fail "已加入预约"))))
  | found (i : Nat) (house : House) (hp : s.phase i = .absent)
      (hf : s.book.sys.db.house.find? (reqs i).houseId = some house) :
      Moves env reqs s (.lookHouse i) (s.at i (.found house.adminId))
  | noHouse (i : Nat) (hp : s.phase i = .absent) (hf : ¬ HasHouse s.book.sys.db (reqs i).houseId) :
      Moves env reqs s (.lookHouse i) (s.at i (.finished (.ok (.fail "查无此房"))))
  | inserted (i : Nat) (adminId : Long) (t : Table HouseSubscribe) (hp : s.phase i = .found adminId)
      (hi : s.book.subscribe.insert?
        (newSubscribe (reqs i).userId (reqs i).now (reqs i).houseId adminId) = some t) :
      Moves env reqs s (.insert i)
        { s.at i (.finished (.ok .ok)) with book := { s.book with subscribe := t } }
  | refused (i : Nat) (adminId : Long) (hp : s.phase i = .found adminId)
      (hr : Reserved s.book.subscribe (reqs i).houseId (reqs i).userId) :
      Moves env reqs s (.insert i) (s.at i (.finished (.error .dataIntegrityViolation)))
  | other (l : Req) (sys : Sys) (hs : Soufang.step env s.book.sys l = some sys) :
      Moves env reqs s (.other l) { s with book := { s.book with sys := sys } }

theorem step_moves {env : Env} {reqs : Nat → Request} {s s' : State} {e : Ev}
    (h : step env reqs s e = some s') : Moves env reqs s e s' := by
  cases e with
  | lookPair i =>
    simp only [step] at h
    cases hp : s.phase i with
    | start =>
      rw [hp] at h
      cases h
      unfold lookPair
      cases hf : findByHouseIdAndUserId s.book.subscribe (reqs i).houseId (reqs i).userId with
      | none => exact .absent i hp (find_eq_none.mp hf)
      | some r =>
        refine .joined i hp (Classical.byContradiction fun hn => ?_)
        rw [find_eq_none.mpr hn] at hf
        cases hf
    | absent => rw [hp] at h; cases h
    | found adminId => rw [hp] at h; cases h
    | finished r => rw [hp] at h; cases h
  | lookHouse i =>
    simp only [step] at h
    cases hp : s.phase i with
    | absent =>
      rw [hp] at h
      cases h
      unfold lookHouse
      cases hf : s.book.sys.db.house.find? (reqs i).houseId with
      | none => exact .noHouse i hp fun ⟨house, hh⟩ => by rw [hf] at hh; cases hh
      | some house => exact .found i house hp hf
    | start => rw [hp] at h; cases h
    | found adminId => rw [hp] at h; cases h
    | finished r => rw [hp] at h; cases h
  | insert i =>
    simp only [step] at h
    cases hp : s.phase i with
    | found adminId =>
      rw [hp] at h
      cases h
      unfold insert
      cases hi : s.book.subscribe.insert?
          (newSubscribe (reqs i).userId (reqs i).now (reqs i).houseId adminId) with
      | none => exact .refused i adminId hp (insert?_none.mp hi)
      | some t => exact .inserted i adminId t hp hi
    | start => rw [hp] at h; cases h
    | absent => rw [hp] at h; cases h
    | finished r => rw [hp] at h; cases h
  | other l =>
    obtain ⟨sys, hs, rfl⟩ := Option.map_eq_some_iff.mp h
    exact .other l sys hs

/-! ## A request alone -/

/-- Undisturbed, the steps of a request are `addSubscribeOrder`. -/
theorem run_alone (env : Env) (reqs : Nat → Request) (i : Nat) (s : State) (hs : s.phase i = .start) :
    ∃ ls s', (lts env reqs).Run s ls s' ∧
      (s'.book, s'.phase i) =
        ((addSubscribeOrder (reqs i).userId (reqs i).now (reqs i).houseId s.book).1,
          .finished (addSubscribeOrder (reqs i).userId (reqs i).now (reqs i).houseId s.book).2) := by
  have hpair : (lts env reqs).step s (.lookPair i) (s.at i (lookPair (reqs i) s.book)) := by
    simp only [lts, LTS.ofFn, step, hs]
  unfold addSubscribeOrder
  unfold lookPair at hpair
  cases hf : findByHouseIdAndUserId s.book.subscribe (reqs i).houseId (reqs i).userId with
  | some r =>
    rw [hf] at hpair
    exact ⟨_, _, .cons hpair (.nil _), by rw [phase_self]; rfl⟩
  | none =>
    rw [hf] at hpair
    have hhouse : (lts env reqs).step (s.at i .absent) (.lookHouse i)
        ((s.at i .absent).at i (lookHouse (reqs i) s.book)) := by
      simp only [lts, LTS.ofFn, step, phase_self]
      rfl
    unfold lookHouse at hhouse
    cases hh : s.book.sys.db.house.find? (reqs i).houseId with
    | none =>
      rw [hh] at hhouse
      exact ⟨_, _, .cons hpair (.cons hhouse (.nil _)), by rw [phase_self]; rfl⟩
    | some house =>
      rw [hh] at hhouse
      have hins : (lts env reqs).step ((s.at i .absent).at i (.found house.adminId)) (.insert i)
          { ((s.at i .absent).at i (.found house.adminId)).at i (insert (reqs i) house.adminId s.book).2 with
            book := (insert (reqs i) house.adminId s.book).1 } := by
        simp only [lts, LTS.ofFn, step, phase_self]
        rfl
      refine ⟨_, _, .cons hpair (.cons hhouse (.cons hins (.nil _))), ?_⟩
      dsimp only
      rw [phase_self]
      unfold insert
      cases s.book.subscribe.insert?
          (newSubscribe (reqs i).userId (reqs i).now (reqs i).houseId house.adminId) with
      | none => rfl
      | some t => rfl

/-! ## Where the rows come from -/

/-- The rows and the owners read so far, after the steps `ls` from `s0`. -/
structure Traced (env : Env) (reqs : Nat → Request) (s0 : State) (ls : List Ev) (s : State) : Prop where
  found : ∀ i adminId, s.phase i = .found adminId →
    HasHouse s.book.sys.db (reqs i).houseId ∧ LookedUp env reqs s0 ls i adminId
  rows : ∃ new, s.book.subscribe.rows = s0.book.subscribe.rows ++ new ∧
    ∀ r ∈ new, HasHouse s.book.sys.db r.houseId ∧
      ∃ i, Asks reqs r.houseId r.userId i ∧ s.phase i = .finished (.ok .ok) ∧
        LookedUp env reqs s0 ls i r.adminId
  houses : ∀ h, HasHouse s0.book.sys.db h → HasHouse s.book.sys.db h

section
variable {env : Env} {reqs : Nat → Request} {s0 s s' : State} {ls : List Ev} {e : Ev}

theorem LookedUp.snoc {i : Nat} {adminId : Long} (h : LookedUp env reqs s0 ls i adminId) (e : Ev) :
    LookedUp env reqs s0 (ls ++ [e]) i adminId := by
  obtain ⟨pre, post, s1, house, rfl, hr, hf, ha⟩ := h
  exact ⟨pre, post ++ [e], s1, house, by simp, hr, hf, ha⟩

theorem Traced.start (hs : ∀ i, s.phase i = .start) : Traced env reqs s [] s where
  found i adminId h := by rw [hs] at h; cases h
  rows := ⟨[], by simp, by simp⟩
  houses h hh := hh

/-- A request that has not finished moves to the phase `p`. -/
theorem Traced.at (ht : Traced env reqs s0 ls s) {k : Nat} {p : Phase} (hk : ∀ r, s.phase k ≠ .finished r)
    (hp : ∀ adminId, p = .found adminId →
      HasHouse s.book.sys.db (reqs k).houseId ∧ LookedUp env reqs s0 (ls ++ [e]) k adminId) :
    Traced env reqs s0 (ls ++ [e]) (s.at k p) where
  found i adminId h := by
    rw [phase_at] at h
    split at h
    · rename_i hik
      subst hik
      exact hp adminId h
    · obtain ⟨hh, hl⟩ := ht.found i adminId h
      exact ⟨hh, hl.snoc e⟩
  rows := by
    obtain ⟨new, hnew, hrows⟩ := ht.rows
    refine ⟨new, hnew, fun r hr => ?_⟩
    obtain ⟨hh, i, ha, hi, hl⟩ := hrows r hr
    refine ⟨hh, i, ha, ?_, hl.snoc e⟩
    rw [phase_at, if_neg fun hik => hk _ (hik ▸ hi)]
    exact hi
  houses := ht.houses

theorem Traced.step (hrun : (lts env reqs).Run s0 ls s) (ht : Traced env reqs s0 ls s)
    (hm : Moves env reqs s e s') : Traced env reqs s0 (ls ++ [e]) s' := by
  cases hm with
  | absent i hp hr => exact ht.at (by rw [hp]; simp) (by simp)
  | joined i hp hr => exact ht.at (by rw [hp]; simp) (by simp)
  | found i house hp hf =>
    refine ht.at (by rw [hp]; simp) fun adminId he => ?_
    cases he
    exact ⟨⟨house, hf⟩, ls, [], s, house, rfl, hrun, hf, rfl⟩
  | noHouse i hp hf => exact ht.at (by rw [hp]; simp) (by simp)
  | refused i adminId hp hr => exact ht.at (by rw [hp]; simp) (by simp)
  | inserted i adminId t hp hi =>
    obtain ⟨hhouse, hlook⟩ := ht.found i adminId hp
    have ht' : Traced env reqs s0 (ls ++ [.insert i]) (s.at i (.finished (.ok .ok))) :=
      ht.at (by rw [hp]; simp) (by simp)
    refine ⟨ht'.found, ?_, ht'.houses⟩
    obtain ⟨new, hnew, hrows⟩ := ht'.rows
    have hnew : s.book.subscribe.rows = s0.book.subscribe.rows ++ new := hnew
    refine ⟨new ++ [Entity.withId s.book.subscribe.next
      (newSubscribe (reqs i).userId (reqs i).now (reqs i).houseId adminId)], ?_, fun r hr => ?_⟩
    · rw [(Table.insert?_some hi).1, hnew, List.append_assoc]
    · rcases List.mem_append.mp hr with hr | hr
      · exact hrows r hr
      · rw [List.mem_singleton.mp hr]
        exact ⟨hhouse, i, ⟨rfl, rfl⟩, phase_self .., hlook.snoc _⟩
  | other l sys hs =>
    refine ⟨fun i adminId h => ?_, ?_, fun h hh => step_hasHouse hs (ht.houses h hh)⟩
    · obtain ⟨hh, hl⟩ := ht.found i adminId h
      exact ⟨step_hasHouse hs hh, hl.snoc _⟩
    · obtain ⟨new, hnew, hrows⟩ := ht.rows
      refine ⟨new, hnew, fun r hr => ?_⟩
      obtain ⟨hh, i, ha, hi, hl⟩ := hrows r hr
      exact ⟨step_hasHouse hs hh, i, ha, hi, hl.snoc _⟩

/-! ## One winner -/

/-- Request `i` is for the pair and reported success. -/
def Won (reqs : Nat → Request) (h u : Long) (s : State) (i : Nat) : Prop :=
  Asks reqs h u i ∧ s.phase i = .finished (.ok .ok)

/-- The house exists; the pair is still open and no request for it has
finished, or it is reserved and one request won it. -/
structure Contest (reqs : Nat → Request) (h u : Long) (s : State) : Prop where
  house : HasHouse s.book.sys.db h
  settled : (¬ Reserved s.book.subscribe h u ∧ ∀ i, Asks reqs h u i → ∀ r, s.phase i ≠ .finished r) ∨
    (Reserved s.book.subscribe h u ∧ ∃! i, Won reqs h u s i)

variable {h u : Long}

theorem won_at {k : Nat} {p : Phase} (hk : s.phase k ≠ .finished (.ok .ok))
    (hp : p ≠ .finished (.ok .ok)) (i : Nat) : Won reqs h u (s.at k p) i ↔ Won reqs h u s i := by
  unfold Won
  rw [phase_at]
  split
  · rename_i hik
    subst hik
    simp [hk, hp]
  · rfl

/-- A phase change that finishes no request for the open pair and wins nothing. -/
theorem Contest.at (hc : Contest reqs h u s) {k : Nat} {p : Phase} (hk : s.phase k ≠ .finished (.ok .ok))
    (hp : p ≠ .finished (.ok .ok))
    (hopen : Asks reqs h u k → ¬ Reserved s.book.subscribe h u → ∀ r, p ≠ .finished r) :
    Contest reqs h u (s.at k p) := by
  refine ⟨hc.house, ?_⟩
  rcases hc.settled with ⟨hn, hall⟩ | ⟨hr, hone⟩
  · refine Or.inl ⟨hn, fun i ha r => ?_⟩
    rw [phase_at]
    split
    · rename_i hik
      subst hik
      exact hopen ha hn r
    · exact hall i ha r
  · exact Or.inr ⟨hr, by simpa only [won_at hk hp] using hone⟩

theorem Contest.inserted (hc : Contest reqs h u s) {i : Nat} {adminId : Long} {t : Table HouseSubscribe}
    (hi : s.book.subscribe.insert?
      (newSubscribe (reqs i).userId (reqs i).now (reqs i).houseId adminId) = some t) :
    Contest reqs h u { s.at i (.finished (.ok .ok)) with book := { s.book with subscribe := t } } := by
  have hfree : ¬ Reserved s.book.subscribe (reqs i).houseId (reqs i).userId := fun hr => by
    rw [insert?_none.mpr hr] at hi
    cases hi
  have hres := reserved_insert hi (h := h) (u := u)
  refine ⟨hc.house, ?_⟩
  by_cases ha : Asks reqs h u i
  · -- the pair was open, and `i` is the first to finish
    obtain ⟨rfl, rfl⟩ := ha
    rcases hc.settled with ⟨-, hall⟩ | ⟨hr, -⟩
    · refine Or.inr ⟨hres.mpr (Or.inr ⟨rfl, rfl⟩), i, ⟨⟨rfl, rfl⟩, phase_self ..⟩, fun j ⟨haj, hj⟩ => ?_⟩
      by_contra hne
      rw [show ({ s.at i _ with book := _ } : State).phase j = s.phase j by
        simp only [phase_at, if_neg hne]] at hj
      exact hall j haj _ hj
    · exact absurd hr hfree
  · have hsame : ∀ j, Asks reqs h u j → (s.at i (.finished (.ok .ok))).phase j = s.phase j := by
      intro j haj
      have hne : j ≠ i := fun hji => ha (hji ▸ haj)
      rw [phase_at, if_neg hne]
    have hres : Reserved t h u ↔ Reserved s.book.subscribe h u := hres.trans (or_iff_left ha)
    rcases hc.settled with ⟨hn, hall⟩ | ⟨hr, j, ⟨haj, hj⟩, huniq⟩
    · refine Or.inl ⟨fun hr => hn (hres.mp hr), fun j haj r => ?_⟩
      dsimp only
      rw [hsame j haj]
      exact hall j haj r
    · refine Or.inr ⟨hres.mpr hr, j, ⟨haj, (hsame j haj).trans hj⟩, fun k ⟨hak, hk⟩ => ?_⟩
      exact huniq k ⟨hak, (hsame k hak).symm.trans hk⟩

theorem Contest.step (hc : Contest reqs h u s) (hm : Moves env reqs s e s') : Contest reqs h u s' := by
  cases hm with
  | absent i hp hr => exact hc.at (by rw [hp]; simp) (by simp) (by simp)
  | found i house hp hf => exact hc.at (by rw [hp]; simp) (by simp) (by simp)
  | joined i hp hr =>
    refine hc.at (by rw [hp]; simp) (by simp [ServiceResult.ok, ServiceResult.fail]) fun ha hn => absurd ?_ hn
    obtain ⟨rfl, rfl⟩ := ha
    exact hr
  | noHouse i hp hf =>
    refine hc.at (by rw [hp]; simp) (by simp [ServiceResult.ok, ServiceResult.fail]) fun ha => absurd ?_ hf
    obtain ⟨rfl, rfl⟩ := ha
    exact hc.house
  | refused i adminId hp hr =>
    refine hc.at (by rw [hp]; simp) (by simp) fun ha hn => absurd ?_ hn
    obtain ⟨rfl, rfl⟩ := ha
    exact hr
  | inserted i adminId t hp hi => exact hc.inserted hi
  | other l sys hs => exact ⟨step_hasHouse hs hc.house, hc.settled⟩

/-- **One reservation.** After any run: no pair has two rows; what the run
stored has the owner its house had when the request that stored it looked the
house up; the house of every row exists, unless it was already missing at the
start; and of the requests made for a pair that was free and whose house
existed, one reported success once all of them have finished. -/
theorem one_reservation (env : Env) (reqs : Nat → Request) (s s' : State) (ls : List Ev)
    (h0 : ∀ i, s.phase i = .start) (hr : (lts env reqs).Run s ls s') :
    (s'.book.subscribe.rows.map fun r => (r.houseId, r.userId)).Nodup ∧
    (∃ new, s'.book.subscribe.rows = s.book.subscribe.rows ++ new ∧
      ∀ r ∈ new, ∃ i, Won reqs r.houseId r.userId s' i ∧ LookedUp env reqs s ls i r.adminId) ∧
    (∀ r ∈ s'.book.subscribe.rows, HasHouse s'.book.sys.db r.houseId ∨
      r ∈ s.book.subscribe.rows ∧ ¬ HasHouse s.book.sys.db r.houseId) ∧
    ∀ h u, ¬ Reserved s.book.subscribe h u → HasHouse s.book.sys.db h →
      (∃ i, Asks reqs h u i ∧ s'.phase i ≠ .start) →
      (∀ i, Asks reqs h u i → s'.phase i = .start ∨ ∃ r, s'.phase i = .finished r) →
      ∃! i, Won reqs h u s' i := by
  have ht : Traced env reqs s ls s' :=
    LTS.Run.history (.start h0) (fun _ _ _ _ hrun ht hs => ht.step hrun (step_moves hs)) hr
  obtain ⟨new, hnew, hrows⟩ := ht.rows
  refine ⟨pairs_nodup _, ⟨new, hnew, fun r hr => ?_⟩, fun r hr => ?_, fun h u hn hh hmade hall => ?_⟩
  · obtain ⟨-, i, ha, hi, hl⟩ := hrows r hr
    exact ⟨i, ⟨ha, hi⟩, hl⟩
  · rw [hnew] at hr
    rcases List.mem_append.mp hr with hr | hr
    · by_cases hh : HasHouse s.book.sys.db r.houseId
      · exact Or.inl (ht.houses _ hh)
      · exact Or.inr ⟨hr, hh⟩
    · exact Or.inl (hrows r hr).1
  · have hstart : Contest reqs h u s := ⟨hh, Or.inl ⟨hn, fun i _ r => by rw [h0]; simp⟩⟩
    have hc : Contest reqs h u s' := hr.preserves (fun _ _ _ hc hs => hc.step (step_moves hs)) hstart
    rcases hc.settled with ⟨-, hopen⟩ | ⟨-, hone⟩
    · obtain ⟨i, ha, hi⟩ := hmade
      rcases hall i ha with hs | ⟨r, hf⟩
      · exact absurd hs hi
      · exact absurd hf (hopen i ha r)
    · exact hone

/-- Requests 0 and 1 of user 7 for house 1; every other one is of user 8. -/
def twoClicks (i : Nat) : Request := if i < 2 then ⟨7, 1, i⟩ else ⟨8, 1, i⟩

def idle : State := ⟨⟨Sample.stored, .empty⟩, fun _ => .start⟩

/-- Both requests find the pair absent; one row is stored and one of them
reports success. -/
theorem one_reservation_twice : ∃ s', (lts Sample.env twoClicks).Run idle
    [.lookPair 0, .lookPair 1, .lookHouse 0, .lookHouse 1, .insert 1, .insert 0] s' ∧
      (s'.book.subscribe.rows.map fun r => (r.houseId, r.userId)).Nodup ∧ ∃! i, Won twoClicks 1 7 s' i := by
  obtain ⟨s', hs, h0, h1⟩ : ∃ s' ∈ LTS.exec (step Sample.env twoClicks) (fun _ _ => True) idle
      [.lookPair 0, .lookPair 1, .lookHouse 0, .lookHouse 1, .insert 1, .insert 0],
      s'.phase 0 = .finished (.error .dataIntegrityViolation) ∧ s'.phase 1 = .finished (.ok .ok) := by
    refine ⟨_, rfl, ?_, ?_⟩
    · decide +kernel
    · decide +kernel
  have hr : (lts Sample.env twoClicks).Run idle _ s' := (LTS.run_of_exec hs).of_restrict
  obtain ⟨hnd, -, -, hone⟩ := one_reservation Sample.env twoClicks idle s' _ (fun _ => rfl) hr
  refine ⟨s', hr, hnd, hone 1 7 ?_ ?_ ⟨0, ⟨rfl, rfl⟩, by rw [h0]; simp⟩ fun i hi => ?_⟩
  · intro ⟨r, hr, _⟩
    cases hr
  · rw [hasHouse_iff]
    decide +kernel
  · have hi : i < 2 := by
      by_contra hge
      have hu := hi.2
      rw [twoClicks, if_neg hge] at hu
      exact absurd hu (show (8 : Int) ≠ 7 by decide)
    obtain rfl | rfl : i = 0 ∨ i = 1 := by omega
    · exact Or.inr ⟨_, h0⟩
    · exact Or.inr ⟨_, h1⟩

end

end Soufang.SubscribeRace
