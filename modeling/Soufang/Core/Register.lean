import Soufang.Core.Lts

/-!
# A cell that many parties share

Every party writes its value into one cell and later reads the cell; the steps
of the parties come in any order. A party sees the value of the last writer
before its read (`Traced`), so all parties see their own values exactly in the
runs where at each read the last writer has the reader's value (`own_iff`).
-/
namespace Soufang.Register

inductive Phase (α : Type)
  | start
  | written
  | read (seen : Option α)

structure State (α : Type) where
  cell : Option α
  phase : Nat → Phase α

inductive Ev
  | write (i : Nat)
  | read (i : Nat)
  deriving DecidableEq

section
variable {α : Type}

def step (value : Nat → α) (s : State α) : Ev → Option (State α)
  | .write i =>
    match s.phase i with
    | .start => some ⟨some (value i), Function.update s.phase i .written⟩
    | _ => none
  | .read i =>
    match s.phase i with
    | .written => some { s with phase := Function.update s.phase i (.read s.cell) }
    | _ => none

def idle : State α := ⟨none, fun _ => .start⟩

def lts (value : Nat → α) : LTS (State α) Ev := LTS.ofFn (· = idle) (step value)

/-- The last party that wrote in the steps `ls`. -/
def lastWriter : List Ev → Option Nat
  | [] => none
  | .write i :: ls => (lastWriter ls).or (some i)
  | .read _ :: ls => lastWriter ls

theorem lastWriter_append (ls ls' : List Ev) : lastWriter (ls ++ ls') = (lastWriter ls').or (lastWriter ls) := by
  induction ls with
  | nil => rw [List.nil_append, lastWriter, Option.or_none]
  | cons e ls ih =>
    cases e with
    | write i => rw [List.cons_append, lastWriter, lastWriter, ih, Option.or_assoc]
    | read i => rw [List.cons_append, lastWriter, lastWriter, ih]

theorem lastWriter_isSome {i : Nat} : ∀ {ls : List Ev}, .write i ∈ ls → ∃ j, lastWriter ls = some j
  | .write j :: ls, _ => by
    rw [lastWriter]
    cases hl : lastWriter ls with
    | none => exact ⟨j, rfl⟩
    | some k => exact ⟨k, rfl⟩
  | .read _ :: ls, h => by
    rcases List.mem_cons.mp h with h | h
    · cases h
    · obtain ⟨j, hj⟩ := lastWriter_isSome h
      exact ⟨j, hj⟩

/-- In `ls` party `i` reads after the steps `pre`. -/
def ReadsAfter (ls pre : List Ev) (i : Nat) : Prop := ∃ post, ls = pre ++ .read i :: post

theorem ReadsAfter.mem {ls pre : List Ev} {i : Nat} (h : ReadsAfter ls pre i) : .read i ∈ ls := by
  obtain ⟨post, rfl⟩ := h
  exact List.mem_append_right _ List.mem_cons_self

/-- A read of `ls` and one more step is one of `ls` or that step. -/
theorem readsAfter_snoc {ls pre : List Ev} {e : Ev} {i : Nat} :
    ReadsAfter (ls ++ [e]) pre i ↔ ReadsAfter ls pre i ∨ (pre = ls ∧ e = .read i) := by
  constructor
  · intro h
    obtain ⟨post, h⟩ := h
    cases post using List.reverseRecOn with
    | nil =>
      obtain ⟨hls, he⟩ := List.append_inj' h rfl
      cases he
      exact Or.inr ⟨hls.symm, rfl⟩
    | append_singleton post e' =>
      rw [← List.cons_append, ← List.append_assoc] at h
      obtain ⟨hls, -⟩ := List.append_inj' h rfl
      exact Or.inl ⟨post, hls⟩
  · rintro (h | ⟨rfl, rfl⟩)
    · obtain ⟨post, rfl⟩ := h
      exact ⟨post ++ [e], by simp⟩
    · exact ⟨[], rfl⟩

/-- The cell and the phases after the steps `ls`. -/
structure Traced (value : Nat → α) (ls : List Ev) (s : State α) : Prop where
  cell : s.cell = (lastWriter ls).map value
  wrote : ∀ i, s.phase i ≠ .start → .write i ∈ ls
  reads : ∀ i, .read i ∈ ls → ∃ v, s.phase i = .read v
  seen : ∀ i v, s.phase i = .read v ↔ ∃ pre, ReadsAfter ls pre i ∧ v = (lastWriter pre).map value
  after : ∀ pre i, ReadsAfter ls pre i → .write i ∈ pre

section
variable {value : Nat → α} {s s' : State α} {ls : List Ev}

theorem Traced.start : Traced value [] idle where
  cell := rfl
  wrote i h := absurd rfl h
  reads i h := by cases h
  seen i v := by
    constructor
    · intro h
      cases h
    · intro h
      obtain ⟨pre, hr, -⟩ := h
      cases hr.mem
  after pre i h := by cases h.mem

theorem Traced.write (ht : Traced value ls s) {k : Nat} (hk : s.phase k = .start) :
    Traced value (ls ++ [.write k]) ⟨some (value k), Function.update s.phase k .written⟩ := by
  have hnew : ∀ i, i ≠ k → Function.update s.phase k .written i = s.phase i := fun i hi =>
    Function.update_of_ne hi _ _
  have hunread : .read k ∉ ls := by
    intro h
    obtain ⟨v, hv⟩ := ht.reads k h
    rw [hk] at hv
    cases hv
  have hsnoc : ∀ pre i, ReadsAfter (ls ++ [.write k]) pre i ↔ ReadsAfter ls pre i := by
    intro pre i
    rw [readsAfter_snoc]
    exact or_iff_left fun h => by cases h.2
  refine ⟨?_, fun i h => ?_, fun i h => ?_, fun i v => ?_, fun pre i h => ht.after pre i ((hsnoc pre i).mp h)⟩
  · rw [lastWriter_append]
    rfl
  · by_cases hi : i = k
    · rw [hi]
      exact List.mem_append_right _ List.mem_cons_self
    · exact List.mem_append_left _ (ht.wrote i fun hs => h ((hnew i hi).trans hs))
  · have hmem : .read i ∈ ls := by simpa using h
    have hi : i ≠ k := fun hik => hunread (hik ▸ hmem)
    obtain ⟨v, hv⟩ := ht.reads i hmem
    exact ⟨v, (hnew i hi).trans hv⟩
  · simp only [hsnoc]
    by_cases hi : i = k
    · subst hi
      rw [Function.update_self]
      constructor
      · intro h
        cases h
      · intro h
        obtain ⟨pre, hr, -⟩ := h
        exact absurd hr.mem hunread
    · rw [hnew i hi]
      exact ht.seen i v

theorem Traced.read (ht : Traced value ls s) {k : Nat} (hk : s.phase k = .written) :
    Traced value (ls ++ [.read k]) { s with phase := Function.update s.phase k (.read s.cell) } := by
  have hnew : ∀ i, i ≠ k → Function.update s.phase k (.read s.cell) i = s.phase i := fun i hi =>
    Function.update_of_ne hi _ _
  have hunread : .read k ∉ ls := by
    intro h
    obtain ⟨v, hv⟩ := ht.reads k h
    rw [hk] at hv
    cases hv
  have hwrote : .write k ∈ ls := ht.wrote k (by rw [hk]; simp)
  refine ⟨?_, fun i h => ?_, fun i h => ?_, fun i v => ?_, fun pre i h => ?_⟩
  · rw [lastWriter_append]
    exact ht.cell
  · by_cases hi : i = k
    · rw [hi]
      exact List.mem_append_left _ hwrote
    · exact List.mem_append_left _ (ht.wrote i fun hs => h ((hnew i hi).trans hs))
  · by_cases hi : i = k
    · exact ⟨s.cell, by rw [hi]; exact Function.update_self ..⟩
    · have hmem : .read i ∈ ls := by simpa [hi] using h
      obtain ⟨v, hv⟩ := ht.reads i hmem
      exact ⟨v, (hnew i hi).trans hv⟩
  · dsimp only
    by_cases hi : i = k
    · -- the only read of `k` is this one
      subst hi
      rw [Function.update_self]
      constructor
      · intro h
        cases h
        exact ⟨ls, readsAfter_snoc.mpr (Or.inr ⟨rfl, rfl⟩), ht.cell⟩
      · intro h
        obtain ⟨pre, hr, rfl⟩ := h
        rcases readsAfter_snoc.mp hr with hr | ⟨rfl, _⟩
        · exact absurd hr.mem hunread
        · rw [ht.cell]
    · rw [hnew i hi, ht.seen i v]
      refine exists_congr fun pre => and_congr_left fun _ => ?_
      rw [readsAfter_snoc]
      exact (or_iff_left fun h => by cases h.2; exact hi rfl).symm
  · rcases readsAfter_snoc.mp h with hr | ⟨rfl, he⟩
    · exact ht.after pre i hr
    · cases he
      exact hwrote

theorem traced (hr : (lts value).Run idle ls s) : Traced value ls s := by
  refine LTS.Run.history .start (fun ls s e s' _ ht hs => ?_) hr
  cases e with
  | write k =>
    simp only [lts, LTS.ofFn, step] at hs
    cases hk : s.phase k with
    | start =>
      rw [hk] at hs
      cases hs
      exact ht.write hk
    | written => rw [hk] at hs; cases hs
    | read v => rw [hk] at hs; cases hs
  | read k =>
    simp only [lts, LTS.ofFn, step] at hs
    cases hk : s.phase k with
    | written =>
      rw [hk] at hs
      cases hs
      exact ht.read hk
    | start => rw [hk] at hs; cases hs
    | read v => rw [hk] at hs; cases hs

/-- Every value that was seen is the one of the last writer before the read,
and some party had written. -/
theorem Traced.seen_value (ht : Traced value ls s) {i : Nat} {v : Option α} (h : s.phase i = .read v) :
    ∃ pre j, ReadsAfter ls pre i ∧ lastWriter pre = some j ∧ v = some (value j) := by
  obtain ⟨pre, hr, rfl⟩ := (ht.seen i v).mp h
  obtain ⟨j, hj⟩ := lastWriter_isSome (ht.after pre i hr)
  exact ⟨pre, j, hr, hj, by rw [hj]; rfl⟩

/-- Every party that has read saw its own value. -/
def Own (value : Nat → α) (s : State α) : Prop := ∀ i v, s.phase i = .read v → v = some (value i)

theorem Traced.own_iff (ht : Traced value ls s) :
    Own value s ↔ ∀ pre i j, ReadsAfter ls pre i → lastWriter pre = some j → value j = value i := by
  constructor
  · intro h pre i j hr hj
    have hown := h i _ ((ht.seen i _).mpr ⟨pre, hr, rfl⟩)
    rw [hj] at hown
    exact Option.some.inj hown
  · intro h i v hv
    obtain ⟨pre, j, hr, hj, rfl⟩ := ht.seen_value hv
    rw [h pre i j hr hj]

end

end

end Soufang.Register
