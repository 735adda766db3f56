import Soufang.Core.Arrange

/-!
# Pages of a sorted listing

A client reads a listing page by page, each page in a request of its own. The
store sorts by a key each time and is free in the order of equal keys, so the
pages are windows of different lists (`walk`).

* `window_page_iff`: the window at the last multiple of `k` below `s` is the
  one at `s` only if `s` is that multiple.
* `walk_perm`: if no two neighbours across a page border have equal keys
  (`Splits`), every walk shows each row once.
* `exists_walk_repeats`: otherwise some store shows a row twice.
-/
namespace Soufang

/-- Answers `l'` to `l` and sorts everything else like `o`. -/
def SortedArrangement.override {α : Type} [DecidableEq α] {le : α → α → Prop} (o : SortedArrangement le)
    (l l' : List α) (hp : l'.Perm l) (hs : l'.Pairwise le) : SortedArrangement le where
  arrange x := if x = l then l' else o.arrange x
  perm x := by
    split
    · rename_i hx
      rw [hx]
      exact hp
    · exact o.perm x
  sorted x := by
    split
    · exact hs
    · exact o.sorted x

namespace Paging

variable {α β : Type}

/-! ## One page -/

theorem window_map {γ : Type} (f : α → γ) (s k : Nat) (l : List α) :
    window s k (l.map f) = (window s k l).map f := by
  simp [window]

theorem window_getElem? {s k i : Nat} (hi : i < k) (l : List α) : (window s k l)[i]? = l[s + i]? := by
  simp [window, hi]

theorem getElem?_nodup_inj {l : List α} (hn : l.Nodup) {i j : Nat} (hi : i < l.length) (h : l[i]? = l[j]?) :
    i = j := by
  have hj : j < l.length := by
    by_contra hj
    rw [List.getElem?_eq_none (by omega : l.length ≤ j), List.getElem?_eq_getElem hi] at h
    cases h
  rw [List.getElem?_eq_getElem hi, List.getElem?_eq_getElem hj, Option.some.injEq] at h
  exact (List.Nodup.getElem_inj_iff hn).mp h

/-- The page of `s` that starts at a multiple of its size is the window at `s`
and not empty iff `s` is that multiple and inside the list. -/
theorem window_page_iff {l : List α} (hn : l.Nodup) {s k : Nat} (hk : 0 < k) :
    (window (s / k * k) k l ≠ [] ∧ window (s / k * k) k l = window s k l) ↔ s % k = 0 ∧ s < l.length := by
  have hdm := Nat.div_add_mod s k
  rw [Nat.mul_comm] at hdm
  constructor
  · intro h
    obtain ⟨hne, heq⟩ := h
    rw [ne_eq, window_eq_nil hk, not_le] at hne
    have hfirst := congrArg (fun w => w[0]?) heq
    simp only [window_getElem? hk, Nat.add_zero] at hfirst
    have hs := getElem?_nodup_inj hn hne hfirst
    omega
  · intro h
    have hs : s / k * k = s := by omega
    rw [hs, ne_eq, window_eq_nil hk]
    exact ⟨by omega, rfl⟩

/-- Something follows a window that is not empty iff the list is longer. -/
theorem window_followed_iff {l : List α} (hn : l.Nodup) {s k : Nat} (hne : window s k l ≠ []) :
    (∃ before rest, rest ≠ [] ∧ l = before ++ window s k l ++ rest) ↔ s + k < l.length := by
  have hk : 0 < k := by
    rcases Nat.eq_zero_or_pos k with h | h
    · simp [window, h] at hne
    · exact h
  have hs : s < l.length := by
    have h := mt (window_eq_nil hk).mpr hne
    omega
  constructor
  · intro h
    obtain ⟨before, rest, hrest, hl⟩ := h
    have hlen := congrArg List.length hl
    have hpos := List.length_pos_iff.mpr hrest
    have hbefore : s = before.length := by
      apply getElem?_nodup_inj hn hs
      rw [← Nat.add_zero s, ← window_getElem? hk l]
      conv => rhs; rw [hl]
      rw [List.append_assoc, List.getElem?_append_right (Nat.le_refl _), Nat.sub_self,
        List.getElem?_append_left (List.length_pos_iff.mpr hne)]
    rw [List.length_append, List.length_append, window_length] at hlen
    omega
  · intro h
    refine ⟨l.take s, l.drop (s + k), ?_, ?_⟩
    · rw [ne_eq, List.drop_eq_nil_iff]
      omega
    · rw [window, ← List.drop_drop, List.append_assoc, List.take_append_drop, List.take_append_drop]

/-! ## All pages -/

/-- The pages of `k` rows that `n` rows need. -/
def pages (k n : Nat) : Nat := (n + k - 1) / k

theorem le_pages {k : Nat} (hk : 0 < k) (n : Nat) : n ≤ pages k n * k := by
  unfold pages
  have h1 := Nat.div_add_mod (n + k - 1) k
  have h2 := Nat.mod_lt (n + k - 1) hk
  rw [Nat.mul_comm] at h1
  omega

theorem lt_pages_iff {k : Nat} (hk : 0 < k) {i n : Nat} : i < pages k n ↔ i * k < n := by
  unfold pages
  rw [Nat.lt_div_iff_mul_lt hk]
  omega

/-- The windows `0, k, 2 k, ...` of the answers to `n` requests. -/
def walk (k n : Nat) (answers : Nat → List α) : List α :=
  (List.range n).flatMap fun i => window (i * k) k (answers i)

theorem walk_succ (k n : Nat) (answers : Nat → List α) :
    walk k (n + 1) answers = walk k n answers ++ window (n * k) k (answers n) := by
  simp [walk, List.range_succ]

/-- Without ties the pages are those of one list. -/
theorem walk_const (k n : Nat) (l : List α) : walk k n (fun _ => l) = l.take (n * k) := by
  induction n with
  | zero => simp [walk]
  | succ n ih => rw [walk_succ, ih, Nat.succ_mul, List.take_add, window]

theorem walk_perm_of_windows {k n : Nat} {answers : Nat → List α} {l : List α}
    (h : ∀ i < n, (window (i * k) k (answers i)).Perm (window (i * k) k l)) :
    (walk k n answers).Perm (l.take (n * k)) := by
  rw [← walk_const]
  induction n with
  | zero => simp [walk]
  | succ n ih =>
    rw [walk_succ, walk_succ]
    exact (ih fun i hi => h i (by omega)).append (h n (by omega))

/-! ## Ties at a page border -/

/-- No page of `k` rows ends between two equal keys. -/
def Splits (k : Nat) (keys : List β) : Prop :=
  ∀ i < keys.length, 0 < i → i * k < keys.length → keys[i * k - 1]? ≠ keys[i * k]?

instance [DecidableEq β] (k : Nat) (keys : List β) : Decidable (Splits k keys) := by
  unfold Splits; infer_instance

section
variable {f : α → β} {le : β → β → Prop} [Std.Total le] [IsTrans β le] [Std.Antisymm le] {l l' : List α}

omit [Std.Total le] [IsTrans β le] in
/-- The keys of a sorted answer do not depend on the order of ties. -/
theorem keys_eq (hp : l'.Perm l) (hs' : l'.Pairwise fun a b => le (f a) (f b))
    (hs : l.Pairwise fun a b => le (f a) (f b)) : l'.map f = l.map f := by
  have hanti : ∀ a b, a ∈ l'.map f → b ∈ l.map f → le a b → le b a → a = b :=
    fun _ _ _ _ => Std.Antisymm.antisymm _ _
  exact List.Perm.eq_of_pairwise hanti (List.pairwise_map.mpr hs') (List.pairwise_map.mpr hs) (hp.map f)

omit [IsTrans β le] [Std.Antisymm le] in
theorem le_of_le_index (hs : l.Pairwise fun a b => le (f a) (f b)) {i j : Nat} (hij : i ≤ j)
    (hj : j < l.length) : le (f l[i]) (f l[j]) := by
  rcases Nat.eq_or_lt_of_le hij with h | h
  · subst h
    exact (Std.Total.total (r := le) (f l[i]) (f l[i])).elim id id
  · exact List.pairwise_iff_getElem.mp hs i j (by omega) hj h

open Classical in
/-- The rows before a border without a tie are those with smaller keys. -/
theorem take_eq_filter (hs : l.Pairwise fun a b => le (f a) (f b)) {j : Nat} (hj : 0 < j)
    (hlt : j < l.length) (hne : f l[j - 1] ≠ f l[j]) :
    l.take j = l.filter fun a => ¬ le (f l[j]) (f a) := by
  have hbefore : ∀ a ∈ l.take j, ¬ le (f l[j]) (f a) := by
    intro a ha hle
    obtain ⟨i, hi, rfl⟩ := List.mem_take_iff_getElem.mp ha
    have h1 := trans_of le hle (le_of_le_index hs (show i ≤ j - 1 by omega) (by omega))
    have h2 := le_of_le_index hs (show j - 1 ≤ j by omega) hlt
    exact hne (Std.Antisymm.antisymm _ _ h2 h1)
  have hafter : ∀ a ∈ l.drop j, le (f l[j]) (f a) := by
    intro a ha
    obtain ⟨i, hi, rfl⟩ := List.mem_drop_iff_getElem.mp ha
    exact le_of_le_index hs (by omega) _
  generalize f l[j] = key at hbefore hafter ⊢
  have hsplit : l.filter (fun a => ¬ le key (f a)) =
      (l.take j).filter (fun a => ¬ le key (f a)) ++ (l.drop j).filter fun a => ¬ le key (f a) := by
    rw [← List.filter_append, List.take_append_drop]
  rw [hsplit, List.filter_eq_self.mpr (by simpa using hbefore), List.filter_eq_nil_iff.mpr (by simpa using hafter),
    List.append_nil]

theorem take_perm (hp : l'.Perm l) (hs' : l'.Pairwise fun a b => le (f a) (f b))
    (hs : l.Pairwise fun a b => le (f a) (f b)) {k : Nat} (h : Splits k (l.map f)) (i : Nat) :
    (l'.take (i * k)).Perm (l.take (i * k)) := by
  have hlen := hp.length_eq
  rcases Nat.eq_zero_or_pos (i * k) with h0 | h0
  · simp [h0]
  · rcases Nat.lt_or_ge (i * k) l.length with hlt | hge
    · have hkeys := keys_eq hp hs' hs
      have hat : ∀ {n : Nat} (hn : n < l.length) (hn' : n < l'.length), f l'[n] = f l[n] := by
        intro n hn hn'
        have hget := congrArg (fun m => m[n]?) hkeys
        simpa [List.getElem?_eq_getElem hn, List.getElem?_eq_getElem hn'] using hget
      have hpred : i * k - 1 < l.length := by omega
      have hlt' : i * k < l'.length := by omega
      have hpred' : i * k - 1 < l'.length := by omega
      have hi : 0 < i := Nat.pos_of_mul_pos_right h0
      have hil : i < l.length := Nat.lt_of_le_of_lt (Nat.le_mul_of_pos_right i (Nat.pos_of_mul_pos_left h0)) hlt
      have hne := h i (by simpa using hil) hi (by simpa using hlt)
      have hne : f l[i * k - 1] ≠ f l[i * k] := by
        simpa [List.getElem?_eq_getElem hlt, List.getElem?_eq_getElem hpred] using hne
      have hne' : f l'[i * k - 1] ≠ f l'[i * k] := by
        rw [hat hpred, hat hlt]
        exact hne
      classical
      rw [take_eq_filter hs h0 hlt hne, take_eq_filter hs' h0 hlt' hne', hat hlt]
      exact hp.filter _
    · rw [List.take_of_length_le hge, List.take_of_length_le (by omega)]
      exact hp

/-- **Pages without ties at their borders.** However each request orders equal
keys, the pages together hold every row once. -/
theorem walk_perm {k n : Nat} {answers : Nat → List α}
    (ha : ∀ i, (answers i).Perm l ∧ (answers i).Pairwise fun a b => le (f a) (f b))
    (hs : l.Pairwise fun a b => le (f a) (f b)) (h : Splits k (l.map f)) (hn : l.length ≤ n * k) :
    (walk k n answers).Perm l := by
  have hwindow : ∀ i, (window (i * k) k (answers i)).Perm (window (i * k) k l) := by
    intro i
    have h0 := take_perm (ha i).1 (ha i).2 hs h i
    have h1 := take_perm (ha i).1 (ha i).2 hs h (i + 1)
    rw [Nat.succ_mul, List.take_add, List.take_add] at h1
    exact (List.perm_append_left_iff _).mp ((h0.append_right _).symm.trans h1)
  have hperm := walk_perm_of_windows (n := n) fun i _ => hwindow i
  rwa [List.take_of_length_le hn] at hperm

/-- Two neighbours of a list, and what is around them. -/
theorem split_at {j : Nat} (hj : 0 < j) (hlt : j < l.length) :
    ∃ before a b after, l = before ++ a :: b :: after ∧ before.length = j - 1 ∧ l[j - 1]? = some a ∧ l[j]? = some b := by
  have hpred : j - 1 < l.length := by omega
  refine ⟨l.take (j - 1), l[j - 1], l[j], l.drop (j + 1), ?_, by rw [List.length_take]; omega,
    List.getElem?_eq_getElem hpred, List.getElem?_eq_getElem hlt⟩
  have h1 := List.drop_eq_getElem_cons hpred
  have h2 := List.drop_eq_getElem_cons hlt
  rw [show j - 1 + 1 = j by omega, h2] at h1
  rw [← h1, List.take_append_drop]

omit [Std.Total le] [IsTrans β le] [Std.Antisymm le] in
/-- **A tie at a page border.** One request that orders the two rows the other
way makes the client see one of them twice. -/
theorem exists_walk_repeats {k : Nat} (hk : 0 < k) (hs : l.Pairwise fun a b => le (f a) (f b))
    (h : ¬ Splits k (l.map f)) :
    ∃ l' n, l'.Perm l ∧ (l'.Pairwise fun a b => le (f a) (f b)) ∧
      ¬ (walk k (pages k l.length) fun i => if i = n then l' else l).Nodup := by
  unfold Splits at h
  push Not at h
  obtain ⟨i, -, hi, hik, htie⟩ := h
  rw [List.length_map] at hik
  have hpos : 0 < i * k := Nat.mul_pos hi hk
  obtain ⟨before, a, b, after, hl, hlen, ha, hb⟩ := split_at hpos hik
  have hf : f a = f b := by simpa [ha, hb] using htie
  refine ⟨before ++ b :: a :: after, i, ?_, ?_, ?_⟩
  · rw [hl]
    exact (List.Perm.swap a b after).append_left before
  · have hkeys : (before ++ b :: a :: after).map f = l.map f := by rw [hl]; simp [hf]
    rw [← List.pairwise_map (f := f), hkeys, List.pairwise_map]
    exact hs
  · -- `a` is the last row of page `i - 1` and the first one of page `i`
    intro hn
    have hdisj := List.pairwise_iff_getElem.mp (List.nodup_flatMap.mp hn).2 (i - 1) i
      (by rw [List.length_range, lt_pages_iff hk, Nat.sub_mul]; omega)
      (by rw [List.length_range, lt_pages_iff hk]; exact hik) (by omega)
    simp only [Function.onFun, List.getElem_range, if_neg (show ¬ i - 1 = i by omega), if_true] at hdisj
    have hstart : (i - 1) * k + k = i * k := by
      rw [← Nat.succ_mul, show (i - 1).succ = i by omega]
    have hlast : a ∈ window ((i - 1) * k) k l := by
      apply List.mem_of_getElem? (i := k - 1)
      rw [window_getElem? (by omega), show (i - 1) * k + (k - 1) = i * k - 1 by omega, ha]
    have hfirst : a ∈ window (i * k) k (before ++ b :: a :: after) := by
      apply List.mem_of_getElem? (i := 0)
      rw [window_getElem? hk, Nat.add_zero, List.getElem?_append_right (by omega), hlen,
        show i * k - (i * k - 1) = 1 by omega]
      rfl
    exact hdisj hlast hfirst

/-! ## A store that sorts each time -/

/-- `o` is any one answer: it has the sorted keys. -/
theorem walk_arranged {k : Nat} (hk : 0 < k) {base : List α} {o : SortedArrangement fun a b => le (f a) (f b)}
    (h : Splits k ((o.arrange base).map f)) (os : Nat → SortedArrangement fun a b => le (f a) (f b)) :
    (walk k (pages k base.length) fun i => (os i).arrange base).Perm base := by
  have ha : ∀ i, ((os i).arrange base).Perm (o.arrange base) ∧
      ((os i).arrange base).Pairwise fun a b => le (f a) (f b) :=
    fun i => ⟨((os i).perm base).trans (o.perm base).symm, (os i).sorted base⟩
  have hlen : (o.arrange base).length ≤ pages k base.length * k := by
    rw [(o.perm base).length_eq]
    exact le_pages hk _
  exact (walk_perm ha (o.sorted base) h hlen).trans (o.perm base)

omit [Std.Total le] [IsTrans β le] [Std.Antisymm le] in
theorem splits_of_walks [DecidableEq α] {k : Nat} (hk : 0 < k) {base : List α}
    (o : SortedArrangement fun a b => le (f a) (f b))
    (h : ∀ os : Nat → SortedArrangement fun a b => le (f a) (f b),
      (walk k (pages k base.length) fun i => (os i).arrange base).Nodup) :
    Splits k ((o.arrange base).map f) := by
  by_contra hnot
  obtain ⟨l', n, hp, hs, hrepeats⟩ := exists_walk_repeats hk (o.sorted base) hnot
  rw [(o.perm base).length_eq] at hrepeats
  apply hrepeats
  have hn := h fun i => if i = n then o.override base l' (hp.trans (o.perm base)) hs else o
  have hanswers : (fun i => (if i = n then o.override base l' (hp.trans (o.perm base)) hs else o).arrange base) =
      fun i => if i = n then l' else o.arrange base := by
    funext i
    split
    · simp [SortedArrangement.override]
    · rfl
  rwa [hanswers] at hn

end

end Paging

end Soufang
