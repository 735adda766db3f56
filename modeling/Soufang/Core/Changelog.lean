import Soufang.Core.Lts

/-!
# A replica fed by a change log

One key of a set that is copied from a source to a replica through a queue.
The source changes whether it `want`s the key and appends the change to the
log; a consumer takes the oldest change and either completes it (`done`: the
replica now agrees with that change), puts it back behind all others
(`again`, the replica left in any state), or drops it (`giveUp`).

Two invariants, both about where the log leaves the replica:

* `Settled`: completing what is pending ends in what the source wants. Kept
  by `again` when the change overtakes no opposite change (`InOrder`,
  `settled_step`).
* `Calm`: while the key is live the pending changes alternate, starting
  with the opposite of what the replica holds; a finished key may have
  removals left over behind them. In a calm cell a removal that finds nothing
  to remove is followed by removals only (`calm_idle_rest`), so putting it
  back is in order.
-/
namespace Soufang.Changelog

/-- `pend` holds the pending changes, oldest first; `true` is "add". -/
structure Cell where
  want : Bool
  held : Bool
  pend : List Bool
  deriving DecidableEq, Repr

inductive Act
  | change (b : Bool)
  | done
  | again (held : Bool)
  | giveUp (held : Bool)
  deriving DecidableEq, Repr

def step (c : Cell) : Act → Option Cell
  | .change b => some { c with want := b, pend := c.pend ++ [b] }
  | .done =>
    match c.pend with
    | [] => none
    | b :: t => some { c with held := b, pend := t }
  | .again h =>
    match c.pend with
    | [] => none
    | b :: t => some { c with held := h, pend := t ++ [b] }
  | .giveUp h =>
    match c.pend with
    | [] => none
    | _ :: t => some { c with held := h, pend := t }

/-- What the replica holds once the pending changes are completed in order. -/
def Cell.outcome (c : Cell) : Bool := c.pend.getLastD c.held

def Settled (c : Cell) : Prop := c.outcome = c.want

/-- No change is put back behind an opposite one, and none is dropped. -/
def InOrder (c : Cell) : Act → Prop
  | .again _ => ∀ b t, c.pend = b :: t → ∀ x ∈ t, x = b
  | .giveUp _ => False
  | _ => True

theorem Settled.idle {c : Cell} (h : Settled c) (hp : c.pend = []) : c.held = c.want := by
  simpa [Settled, Cell.outcome, hp] using h

theorem outcome_cons (w h b : Bool) (t : List Bool) :
    Cell.outcome ⟨w, h, b :: t⟩ = Cell.outcome ⟨w, b, t⟩ := by
  cases t <;> simp [Cell.outcome, List.getLastD]

theorem getLastD_of_forall {b : Bool} : ∀ {t : List Bool}, (∀ x ∈ t, x = b) → t.getLastD b = b
  | [], _ => rfl
  | a :: t, h => by
    rw [List.getLastD_cons, h a List.mem_cons_self]
    exact getLastD_of_forall fun x hx => h x (List.mem_cons_of_mem _ hx)

theorem settled_step {c c' : Cell} {a : Act} (h : Settled c) (ho : InOrder c a)
    (hs : step c a = some c') : Settled c' := by
  obtain ⟨w, hd, p⟩ := c
  cases a with
  | change b =>
    simp only [step, Option.some.injEq] at hs
    subst hs
    simp [Settled, Cell.outcome]
  | done =>
    cases p with
    | nil => cases hs
    | cons b t =>
      simp only [step, Option.some.injEq] at hs
      subst hs
      rw [Settled, outcome_cons] at h
      exact h
  | again hd' =>
    cases p with
    | nil => cases hs
    | cons b t =>
      simp only [step, Option.some.injEq] at hs
      subst hs
      have hb : Cell.outcome ⟨w, b, t⟩ = b := getLastD_of_forall (ho b t rfl)
      rw [Settled, outcome_cons, hb] at h
      simpa [Settled, Cell.outcome, List.getLastD_concat] using h
  | giveUp hd' => exact ho.elim

/-! ## Logs that alternate -/

/-- Every pending change is a change: `p` alternates, starting with `!h`. -/
def Alternates : Bool → List Bool → Prop
  | _, [] => True
  | h, b :: t => b = !h ∧ Alternates b t

/-- An alternating log followed by removals. -/
def Winds : Bool → List Bool → Prop
  | h, p => (∀ x ∈ p, x = false) ∨
    match p with
    | [] => True
    | b :: t => b = !h ∧ Winds b t

/-- `final`: the source will not change the key again. -/
def Calm (final : Bool) (c : Cell) : Prop :=
  Settled c ∧ if final then c.want = false ∧ Winds c.held c.pend else Alternates c.held c.pend

theorem winds_cons {h b : Bool} {t : List Bool} :
    Winds h (b :: t) ↔ (∀ x ∈ b :: t, x = false) ∨ (b = !h ∧ Winds b t) := by
  conv_lhs => unfold Winds

theorem winds_of_forall {h : Bool} {p : List Bool} (hp : ∀ x ∈ p, x = false) : Winds h p := by
  unfold Winds; exact Or.inl hp

theorem alternates_concat {b : Bool} : ∀ {h : Bool} {p : List Bool}, Alternates h p →
    b = !(p.getLastD h) → Alternates h (p ++ [b])
  | h, [], _, hb => ⟨hb, trivial⟩
  | h, a :: t, ⟨ha, ht⟩, hb => ⟨ha, alternates_concat ht (by rwa [List.getLastD_cons] at hb)⟩

theorem winds_concat_false : ∀ {h : Bool} {p : List Bool}, Alternates h p → Winds h (p ++ [false])
  | h, [], _ => winds_of_forall (by simp)
  | h, a :: t, ⟨ha, ht⟩ => by
    rw [List.cons_append, winds_cons]
    exact Or.inr ⟨ha, winds_concat_false ht⟩

/-- Completing the oldest change keeps the rest of a winding log. -/
theorem winds_tail {h b : Bool} {t : List Bool} (hw : Winds h (b :: t)) : Winds b t := by
  rcases winds_cons.mp hw with hall | ⟨-, ht⟩
  · exact winds_of_forall fun x hx => hall x (List.mem_cons_of_mem _ hx)
  · exact ht

/-- A removal that finds nothing to remove is followed by removals only, and
only a finished key has one. -/
theorem calm_idle_rest {final : Bool} {c : Cell} (hc : Calm final c) {t : List Bool}
    (hp : c.pend = false :: t) (hh : c.held = false) : final = true ∧ ∀ x ∈ t, x = false := by
  obtain ⟨-, hc⟩ := hc
  cases final with
  | true =>
    simp only [if_true] at hc
    rw [hp, hh, winds_cons] at hc
    rcases hc.2 with hall | ⟨hb, -⟩
    · exact ⟨rfl, fun x hx => hall x (List.mem_cons_of_mem _ hx)⟩
    · cases hb
  | false =>
    simp only [Bool.false_eq_true, if_false, hp, hh, Alternates] at hc
    exact absurd hc.1 (by simp)

theorem calm_done {final : Bool} {c c' : Cell} (hc : Calm final c) (hs : step c .done = some c') :
    Calm final c' := by
  refine ⟨settled_step (a := .done) hc.1 trivial hs, ?_⟩
  have h2 := hc.2
  obtain ⟨w, h, p⟩ := c
  cases p with
  | nil => cases hs
  | cons b t =>
    simp only [step, Option.some.injEq] at hs
    subst hs
    cases final with
    | true =>
      simp only [if_true] at h2 ⊢
      exact ⟨h2.1, winds_tail h2.2⟩
    | false =>
      simp only [Bool.false_eq_true, if_false, Alternates] at h2 ⊢
      exact h2.2

/-- Putting back a removal that found nothing keeps the cell calm. -/
theorem calm_again {final : Bool} {c c' : Cell} (hc : Calm final c) {t : List Bool}
    (hp : c.pend = false :: t) (hh : c.held = false) (hs : step c (.again false) = some c') :
    Calm final c' := by
  obtain ⟨rfl, ht⟩ := calm_idle_rest hc hp hh
  have hw : c.want = false := by
    have := hc.2
    simp only [if_true] at this
    exact this.1
  have ho : InOrder c (.again false) := by
    intro b t' hp'
    rw [hp] at hp'
    simp only [List.cons.injEq] at hp'
    obtain ⟨rfl, rfl⟩ := hp'
    exact ht
  refine ⟨settled_step hc.1 ho hs, ?_⟩
  simp only [step, hp, Option.some.injEq] at hs
  subst hs
  simp only [if_true]
  refine ⟨hw, winds_of_forall fun x hx => ?_⟩
  rcases List.mem_append.mp hx with hx | hx
  · exact ht x hx
  · exact List.mem_singleton.mp hx

/-- Dropping a change whose effect is there is completing it. -/
theorem giveUp_done {c : Cell} {b : Bool} {t : List Bool} (hp : c.pend = b :: t) :
    step c (.giveUp b) = step c .done := by
  obtain ⟨w, h, p⟩ := c
  simp only at hp
  subst hp
  rfl

/-- A live key changes to the opposite of what was wanted. -/
theorem calm_change {final : Bool} {c c' : Cell} (hc : Calm false c) {b : Bool}
    (hb : if final then b = false else b = !c.want) (hs : step c (.change b) = some c') :
    Calm final c' := by
  refine ⟨settled_step (a := .change b) hc.1 trivial hs, ?_⟩
  obtain ⟨h1, h2⟩ := hc
  simp only [Bool.false_eq_true, if_false] at h2
  simp only [step, Option.some.injEq] at hs
  subst hs
  cases final with
  | true =>
    simp only [if_true] at hb ⊢
    subst hb
    exact ⟨rfl, winds_concat_false h2⟩
  | false =>
    simp only [Bool.false_eq_true, if_false] at hb ⊢
    refine alternates_concat h2 ?_
    rw [hb, ← h1]; rfl

end Soufang.Changelog
