import Soufang.L3System.PageWindow

/-!
# Walking through the pages

A client asks for the pages 0, k, 2 k, ... of a form, each in a request of its
own. Between the requests the houses stay as they are, but the store may order
houses with equal sort values differently each time (`engs i` answers request
`i`).

* `page_simple`, `page_index`, `page_index_ok`: one page is a window of the
  matches as the store orders them for this request.
* `walk_iff`: the pages together show every matching house once, whatever the
  store does with ties, exactly for the requests in `WalkExact`.
-/
namespace Soufang

open HouseService Paging

instance (d : Direction) : Std.Antisymm d.le :=
  ⟨fun a b => by cases d <;> simp only [Direction.le] <;> omega⟩

/-- The key a form sorts by, as `HouseSort` reads it. -/
def RentSearch.sortKey (rs : RentSearch) : SortKey := (HouseSort.generateSort rs.orderBy rs.orderDirection).1

def RentSearch.sortDirection (rs : RentSearch) : Direction :=
  (HouseSort.generateSort rs.orderBy rs.orderDirection).2

namespace HouseService

/-- The request for page `i`. -/
def pageRequest (rs : RentSearch) (i : Nat) : RentSearch := { rs with start := i * rs.size }

def matchingDocs (eng : Engine) (env : Env) (rs : RentSearch) (es : Es) : List EsDoc :=
  (es.visible env).filter fun doc => SearchService.queryFilter eng rs doc.source

def matchingHouses (rs : RentSearch) (db : Db) : List House := db.house.rows.filter (simpleFilter rs)

/-- The houses that match a form, each once. -/
def matchingIds (eng : Engine) (env : Env) (rs : RentSearch) (db : Db) (es : Es) : List Long :=
  if rs.keywords.getD "" ≠ "" then ((matchingDocs eng env rs es).map fun doc => doc.source.houseId).dedup
  else (matchingHouses rs db).map House.id

/-- The total the answers report. -/
def matchingTotal (eng : Engine) (env : Env) (rs : RentSearch) (db : Db) (es : Es) : Nat :=
  if rs.keywords.getD "" ≠ "" then (matchingDocs eng env rs es).length else (matchingHouses rs db).length

/-- The entries of the first `n` pages, one after the other. -/
def concatenated (results : Nat → ServiceMultiResult (Option HouseDTO)) (n : Nat) : List (Option HouseDTO) :=
  (List.range n).flatMap fun i => (results i).result

/-- For every choice of the store at each request, the pages up to the total
are answered and hold every matching house once. -/
def WalksOnce (eng : Engine) (env : Env) (rs : RentSearch) (db : Db) (es : Es) : Prop :=
  ∀ engs : Nat → Engine, (∀ i, (engs i).matchKeywords = eng.matchKeywords) →
    ∃ results : Nat → ServiceMultiResult (Option HouseDTO),
      (∀ i, i * rs.size.toNat < matchingTotal eng env rs db es →
        query (engs i) env .ok (pageRequest rs i) db es = .ok (results i)) ∧
      ((concatenated results (pages rs.size.toNat (matchingTotal eng env rs db es))).map
        (Option.map fun dto => dto.house.id)).Perm ((matchingIds eng env rs db es).map some)

/-- No page border between two equal sort values. With keywords, unless
nothing matches: a direction, pages inside the limit of the index, and one
document for each matching house, which is stored. -/
def WalkExact (eng : Engine) (env : Env) (rs : RentSearch) (db : Db) (es : Es) : Prop :=
  let k := rs.size.toNat
  if rs.keywords.getD "" ≠ "" then
    let docs := matchingDocs eng env rs es
    docs = [] ∨ ((rs.orderDirection.bind directionOf).isSome ∧
      ((pages k docs.length * k : Nat) : Int) ≤ SearchService.MAX_RESULT_WINDOW ∧
      (docs.map fun doc => doc.source.houseId).Nodup ∧
      (∀ doc ∈ docs, (db.house.find? doc.source.houseId).isSome) ∧
      Splits k (((eng.hits rs.sortKey rs.sortDirection).arrange docs).map rs.sortKey.ofDoc))
  else Splits k (((eng.rows rs.sortKey rs.sortDirection).arrange (matchingHouses rs db)).map rs.sortKey.ofHouse)

section
variable {rs : RentSearch} (h1 : 1 ≤ rs.size) (h2 : rs.size ≤ 100)
include h1 h2

theorem pageRequest_size (i : Nat) : (pageRequest rs i).getSize = rs.size.toNat := by
  have hs : (pageRequest rs i).size = rs.size := rfl
  unfold RentSearch.getSize
  rw [hs, if_neg (by omega), if_neg (by omega)]

omit h2 in
theorem pageRequest_start (i : Nat) : (pageRequest rs i).getStart = i * rs.size.toNat := by
  have hs : (pageRequest rs i).start = i * rs.size := rfl
  unfold RentSearch.getStart
  rw [hs]
  have hcast : ((i : Int) * rs.size) = ((i * rs.size.toNat : Nat) : Int) := by
    rw [Nat.cast_mul, Int.toNat_of_nonneg (by omega)]
  rw [hcast, Int.toNat_natCast]

/-! ## One page -/

/-- A page below the total, from the database. -/
theorem page_simple (e : Engine) (env : Env) {db : Db} (es : Es) (hk : ¬ rs.keywords.getD "" ≠ "") {i : Nat}
    (hi : i * rs.size.toNat < (matchingHouses rs db).length) :
    ∃ r, query e env .ok (pageRequest rs i) db es = .ok r ∧
      r.result.map (Option.map fun dto => dto.house.id) =
        (window (i * rs.size.toNat) rs.size.toNat
          ((e.rows rs.sortKey rs.sortDirection).arrange (matchingHouses rs db))).map
          fun house => some house.id := by
  have hpage : simplePage e (pageRequest rs i) db = window (i * rs.size.toNat) rs.size.toNat
      ((e.rows rs.sortKey rs.sortDirection).arrange (matchingHouses rs db)) := by
    unfold simplePage
    rw [pageRequest_size h1 h2, pageRequest_start h1, Nat.mul_div_cancel _ (by omega)]
    rfl
  have hne : simplePage e (pageRequest rs i) db ≠ [] := by
    rw [hpage, ne_eq, window_eq_nil (by omega), Arrangement.length_arrange]
    omega
  obtain ⟨r, hr, hids⟩ := (simpleQuery_shows e env.cdnPrefix (pageRequest rs i) db _).mpr ⟨hne, rfl⟩
  refine ⟨r, ?_, ?_⟩
  · unfold query
    rw [if_neg (by exact hk), hr]
  · rw [hids, hpage, List.map_map]
    rfl

/-- The answer of the index for a page. -/
theorem page_search {e : Engine} {env : Env} {es : Es} {i : Nat} {ids : ServiceMultiResult Long} :
    SearchService.query e env .ok (pageRequest rs i) es = .ok ids ↔
      (rs.orderDirection.bind directionOf).isSome ∧
        ((i * rs.size.toNat + rs.size.toNat : Nat) : Int) ≤ SearchService.MAX_RESULT_WINDOW ∧
        ids = ⟨(matchingDocs e env rs es).length, (window (i * rs.size.toNat) rs.size.toNat
          ((e.hits rs.sortKey rs.sortDirection).arrange (matchingDocs e env rs es))).map
          fun doc => doc.source.houseId⟩ := by
  unfold SearchService.query
  rw [SearchService.search_ok_iff, pageRequest_size h1 h2, pageRequest_start h1, Int.toNat_natCast, ← Nat.cast_add]
  unfold RentSearch.sortKey RentSearch.sortDirection HouseSort.generateSort
  constructor
  · intro h
    obtain ⟨d, hd, -, hw, ⟨ha, -⟩ | ⟨-, hids⟩⟩ := h
    · cases ha
    · have hd : rs.orderDirection.bind directionOf = some d := hd
      rw [hd]
      exact ⟨rfl, hw, hids⟩
  · intro h
    obtain ⟨hd, hw, hids⟩ := h
    obtain ⟨d, hd⟩ := Option.isSome_iff_exists.mp hd
    rw [hd] at hids
    exact ⟨d, hd, by omega, hw, Or.inr ⟨rfl, hids⟩⟩

/-- A page below the total, from the index: the houses of a window of the
documents, null for a document without a house. -/
theorem page_index_ok {e : Engine} {env : Env} {db : Db} {es : Es} (hk : rs.keywords.getD "" ≠ "") {i : Nat}
    (hi : i * rs.size.toNat < (matchingDocs e env rs es).length) {r : ServiceMultiResult (Option HouseDTO)}
    (hq : query e env .ok (pageRequest rs i) db es = .ok r) :
    (rs.orderDirection.bind directionOf).isSome ∧
      ((i * rs.size.toNat + rs.size.toNat : Nat) : Int) ≤ SearchService.MAX_RESULT_WINDOW ∧
      r.result.map (Option.map fun dto => dto.house.id) =
        (window (i * rs.size.toNat) rs.size.toNat
          ((e.hits rs.sortKey rs.sortDirection).arrange (matchingDocs e env rs es))).map
          fun doc => (db.house.find? doc.source.houseId).map House.id := by
  unfold query at hq
  rw [if_pos (by exact hk)] at hq
  obtain ⟨ids, hs, -⟩ := loaded_ok hq
  obtain ⟨hd, hw, rfl⟩ := (page_search h1 h2).mp hs
  refine ⟨hd, hw, ?_⟩
  rw [hs] at hq
  simp only [loaded, show ¬ (matchingDocs e env rs es).length = 0 by omega, if_false] at hq
  split at hq
  · cases hq
  · rename_i l hl
    rw [Except.ok.injEq] at hq
    rw [← hq, (wrapperHouseResult_ids hl).2, List.map_map]
    rfl

/-- Such a page is answered when the direction is one, the window is inside
the limit and the houses are there. -/
theorem page_index (e : Engine) (env : Env) {db : Db} {es : Es} (hk : rs.keywords.getD "" ≠ "") {i : Nat}
    (hi : i * rs.size.toNat < (matchingDocs e env rs es).length)
    (hd : (rs.orderDirection.bind directionOf).isSome)
    (hw : ((i * rs.size.toNat + rs.size.toNat : Nat) : Int) ≤ SearchService.MAX_RESULT_WINDOW)
    (hstored : ∀ doc ∈ matchingDocs e env rs es, (db.house.find? doc.source.houseId).isSome) :
    ∃ r, query e env .ok (pageRequest rs i) db es = .ok r := by
  have hne : (window (i * rs.size.toNat) rs.size.toNat
      ((e.hits rs.sortKey rs.sortDirection).arrange (matchingDocs e env rs es))).map
      (fun doc => doc.source.houseId) ≠ [] := by
    rw [ne_eq, List.map_eq_nil_iff, window_eq_nil (by omega), Arrangement.length_arrange]
    omega
  obtain ⟨l, hl⟩ := wrapperHouseResult_stored e env.cdnPrefix hne fun j hj => by
    obtain ⟨doc, hdoc, rfl⟩ := List.mem_map.mp hj
    exact hstored doc ((Arrangement.mem_arrange ..).mp (mem_of_mem_window hdoc))
  unfold query
  rw [if_pos (by exact hk), (page_search h1 h2).mpr ⟨hd, hw, rfl⟩]
  simp only [loaded, show ¬ (matchingDocs e env rs es).length = 0 by omega, if_false, hl]
  exact ⟨_, rfl⟩

omit h1 h2

/-! ## All pages -/

theorem concatenated_map {α : Type} {results : Nat → ServiceMultiResult (Option HouseDTO)} {answers : Nat → List α}
    {g : α → Option Long} {k n : Nat} (h : ∀ i < n, (results i).result.map (Option.map fun dto => dto.house.id) =
      (window (i * k) k (answers i)).map g) :
    (concatenated results n).map (Option.map fun dto => dto.house.id) = (walk k n answers).map g := by
  induction n with
  | zero => rfl
  | succ n ih =>
    have hsucc : concatenated results (n + 1) = concatenated results n ++ (results n).result := by
      simp [concatenated, List.range_succ]
    rw [hsucc, walk_succ, List.map_append, List.map_append, ih fun i hi => h i (by omega), h n (by omega)]

/-- The engine that orders rows by one key and direction as `o` does. -/
def withRows (eng : Engine) (key : SortKey) (d : Direction)
    (o : SortedArrangement fun a b : House => d.le (key.ofHouse a) (key.ofHouse b)) : Engine :=
  { eng with rows := fun key' d' => if h : key = key' ∧ d = d' then h.1 ▸ h.2 ▸ o else eng.rows key' d' }

def withHits (eng : Engine) (key : SortKey) (d : Direction)
    (o : SortedArrangement fun a b : EsDoc => d.le (key.ofDoc a) (key.ofDoc b)) : Engine :=
  { eng with hits := fun key' d' => if h : key = key' ∧ d = d' then h.1 ▸ h.2 ▸ o else eng.hits key' d' }

theorem withRows_rows (eng : Engine) (key : SortKey) (d : Direction)
    (o : SortedArrangement fun a b : House => d.le (key.ofHouse a) (key.ofHouse b)) :
    (withRows eng key d o).rows key d = o := by
  simp [withRows]

theorem withHits_hits (eng : Engine) (key : SortKey) (d : Direction)
    (o : SortedArrangement fun a b : EsDoc => d.le (key.ofDoc a) (key.ofDoc b)) :
    (withHits eng key d o).hits key d = o := by
  simp [withHits]

include h1 h2

/-- The pages of the database, as answered for the requests of `engs`. -/
theorem walk_simple_ids {engs : Nat → Engine} {env : Env} {db : Db} {es : Es} (hk : ¬ rs.keywords.getD "" ≠ "")
    {results : Nat → ServiceMultiResult (Option HouseDTO)}
    (hq : ∀ i, i * rs.size.toNat < (matchingHouses rs db).length →
      query (engs i) env .ok (pageRequest rs i) db es = .ok (results i)) :
    (concatenated results (pages rs.size.toNat (matchingHouses rs db).length)).map
        (Option.map fun dto => dto.house.id) =
      (walk rs.size.toNat (pages rs.size.toNat (matchingHouses rs db).length) fun i =>
        ((engs i).rows rs.sortKey rs.sortDirection).arrange (matchingHouses rs db)).map
        fun house => some house.id := by
  refine concatenated_map fun i hi => ?_
  have hi := (lt_pages_iff (by omega)).mp hi
  obtain ⟨r, hr, hpage⟩ := page_simple h1 h2 (engs i) env es hk hi
  rw [hq i hi, Except.ok.injEq] at hr
  rw [hr, hpage]

theorem walk_simple_iff (eng : Engine) (env : Env) (db : Db) (es : Es) (hk : ¬ rs.keywords.getD "" ≠ "") :
    WalksOnce eng env rs db es ↔ WalkExact eng env rs db es := by
  have hpos : 0 < rs.size.toNat := by omega
  unfold WalksOnce WalkExact matchingIds matchingTotal
  simp only [if_neg hk, List.map_map]
  constructor
  · intro h
    refine splits_of_walks hpos _ fun os => ?_
    obtain ⟨results, hq, hperm⟩ := h (fun i => withRows eng rs.sortKey rs.sortDirection (os i)) fun _ => rfl
    rw [walk_simple_ids h1 h2 hk hq] at hperm
    simp only [withRows_rows] at hperm
    have hn : ((matchingHouses rs db).map (some ∘ House.id)).Nodup := by
      rw [← List.map_map]
      exact (db.house.keys.sublist (List.filter_sublist.map _)).map (Option.some_injective _)
    exact List.Nodup.of_map _ (hperm.nodup_iff.mpr hn)
  · intro h engs _
    have hpage : ∀ i, i * rs.size.toNat < (matchingHouses rs db).length →
        ∃ r, query (engs i) env .ok (pageRequest rs i) db es = .ok r := by
      intro i hi
      obtain ⟨r, hr, -⟩ := page_simple h1 h2 (engs i) env es hk hi
      exact ⟨r, hr⟩
    have : Nonempty (ServiceMultiResult (Option HouseDTO)) := ⟨⟨0, []⟩⟩
    choose! results hq using hpage
    refine ⟨results, hq, ?_⟩
    rw [walk_simple_ids h1 h2 hk hq]
    exact (walk_arranged hpos h fun i => (engs i).rows rs.sortKey rs.sortDirection).map _

omit h1 h2 in
theorem matchingDocs_congr {e eng : Engine} (h : e.matchKeywords = eng.matchKeywords) (env : Env)
    (rs : RentSearch) (es : Es) : matchingDocs e env rs es = matchingDocs eng env rs es := by
  unfold matchingDocs SearchService.queryFilter
  rw [h]

omit h1 h2 in
theorem map_find?_id {db : Db} {docs : List EsDoc} (h : ∀ doc ∈ docs, (db.house.find? doc.source.houseId).isSome) :
    docs.map (fun doc => (db.house.find? doc.source.houseId).map House.id) =
      (docs.map fun doc => doc.source.houseId).map some := by
  rw [List.map_map]
  exact List.map_congr_left fun doc hdoc => find?_id.mpr (h doc hdoc)

/-- The pages of the index, as answered for the requests of `engs`. -/
theorem walk_index_ids {eng : Engine} {env : Env} {db : Db} {es : Es} (hk : rs.keywords.getD "" ≠ "")
    {engs : Nat → Engine} (hm : ∀ i, (engs i).matchKeywords = eng.matchKeywords)
    {results : Nat → ServiceMultiResult (Option HouseDTO)}
    (hq : ∀ i, i * rs.size.toNat < (matchingDocs eng env rs es).length →
      query (engs i) env .ok (pageRequest rs i) db es = .ok (results i)) :
    (concatenated results (pages rs.size.toNat (matchingDocs eng env rs es).length)).map
        (Option.map fun dto => dto.house.id) =
      (walk rs.size.toNat (pages rs.size.toNat (matchingDocs eng env rs es).length) fun i =>
        ((engs i).hits rs.sortKey rs.sortDirection).arrange (matchingDocs eng env rs es)).map
        fun doc => (db.house.find? doc.source.houseId).map House.id := by
  refine concatenated_map fun i hi => ?_
  have hi := (lt_pages_iff (by omega)).mp hi
  have hdocs := matchingDocs_congr (hm i) env rs es
  have hpage := page_index_ok h1 h2 hk (by rw [hdocs]; exact hi) (hq i hi)
  rw [hpage.2.2, hdocs]

theorem walk_index_of_once {eng : Engine} {env : Env} {db : Db} {es : Es} (hk : rs.keywords.getD "" ≠ "")
    (hne : matchingDocs eng env rs es ≠ [])
    (h : WalksOnce eng env rs db es) : WalkExact eng env rs db es := by
  have hpos : 0 < rs.size.toNat := by omega
  have hlen := List.length_pos_iff.mpr hne
  unfold WalksOnce matchingIds matchingTotal at h
  simp only [if_pos hk] at h
  unfold WalkExact
  simp only [if_pos hk, hne, false_or]
  have hnodup : (((matchingDocs eng env rs es).map fun doc => doc.source.houseId).dedup.map some).Nodup :=
    (List.nodup_dedup _).map (Option.some_injective _)
  -- one store that never changes its mind already shows most of it
  obtain ⟨results, hq, hperm⟩ := h (fun _ => eng) fun _ => rfl
  have hfirst : 0 < pages rs.size.toNat (matchingDocs eng env rs es).length := (lt_pages_iff hpos).mpr (by omega)
  have hlast := (lt_pages_iff hpos).mp (Nat.sub_lt hfirst Nat.one_pos)
  obtain ⟨hd, hw, -⟩ := page_index_ok h1 h2 hk hlast (hq _ hlast)
  rw [← Nat.succ_mul, Nat.succ_eq_add_one, Nat.sub_add_cancel hfirst] at hw
  rw [walk_index_ids h1 h2 hk (fun _ => rfl) hq, walk_const, List.take_of_length_le] at hperm
  · have hstored : ∀ doc ∈ matchingDocs eng env rs es, (db.house.find? doc.source.houseId).isSome := by
      intro doc hdoc
      have hmem := hperm.subset (List.mem_map_of_mem ((Arrangement.mem_arrange ..).mpr hdoc))
      obtain ⟨j, -, hj⟩ := List.mem_map.mp hmem
      rw [← Option.isSome_map (f := House.id), ← hj]
      rfl
    refine ⟨hd, hw, ?_, hstored, ?_⟩
    · rw [map_find?_id fun doc hdoc => hstored doc ((Arrangement.mem_arrange ..).mp hdoc)] at hperm
      have hn := List.Nodup.of_map _ (hperm.nodup_iff.mpr hnodup)
      exact (((eng.hits rs.sortKey rs.sortDirection).perm _).map _).nodup_iff.mp hn
    · refine splits_of_walks hpos _ fun os => ?_
      obtain ⟨results', hq', hperm'⟩ := h (fun i => withHits eng rs.sortKey rs.sortDirection (os i)) fun _ => rfl
      have hm : ∀ i, (withHits eng rs.sortKey rs.sortDirection (os i)).matchKeywords = eng.matchKeywords :=
        fun _ => rfl
      rw [walk_index_ids h1 h2 hk hm hq'] at hperm'
      have hn := List.Nodup.of_map _ (hperm'.nodup_iff.mpr hnodup)
      simpa only [withHits_hits] using hn
  · rw [Arrangement.length_arrange]
    exact le_pages hpos _

theorem walk_index_once {eng : Engine} {env : Env} {db : Db} {es : Es} (hk : rs.keywords.getD "" ≠ "")
    (h : WalkExact eng env rs db es) : WalksOnce eng env rs db es := by
  have hpos : 0 < rs.size.toNat := by omega
  unfold WalkExact at h
  simp only [if_pos hk] at h
  unfold WalksOnce matchingIds matchingTotal
  simp only [if_pos hk]
  intro engs hm
  have hdocs := fun i => matchingDocs_congr (hm i) env rs es
  have hpage : ∀ i, i * rs.size.toNat < (matchingDocs eng env rs es).length →
      ∃ r, query (engs i) env .ok (pageRequest rs i) db es = .ok r := by
    intro i hi
    have hne : matchingDocs eng env rs es ≠ [] := by
      intro hnil
      simp [hnil] at hi
    obtain ⟨hd, hw, -, hstored, -⟩ := h.resolve_left hne
    have hle : i * rs.size.toNat + rs.size.toNat ≤
        pages rs.size.toNat (matchingDocs eng env rs es).length * rs.size.toNat := by
      rw [← Nat.succ_mul]
      exact Nat.mul_le_mul_right _ ((lt_pages_iff hpos).mpr hi)
    exact page_index h1 h2 (engs i) env hk (by rw [hdocs i]; exact hi) hd (by omega) (by rw [hdocs i]; exact hstored)
  have : Nonempty (ServiceMultiResult (Option HouseDTO)) := ⟨⟨0, []⟩⟩
  choose! results hq using hpage
  refine ⟨results, hq, ?_⟩
  rw [walk_index_ids h1 h2 hk hm hq]
  rcases h with hnil | ⟨-, -, hn, hstored, hsplits⟩
  · have hzero : pages rs.size.toNat (matchingDocs eng env rs es).length = 0 := by
      by_contra hne
      have hi := (lt_pages_iff hpos).mp (Nat.pos_of_ne_zero hne)
      simp [hnil] at hi
    rw [hzero, hnil]
    simp [walk]
  · rw [hn.dedup, ← map_find?_id hstored]
    exact (walk_arranged hpos hsplits fun i => (engs i).hits rs.sortKey rs.sortDirection).map _

/-- **Every house once.** For every form with a page size from 1 to 100 and
every unchanged database and index: the pages up to the total together show
each matching house once, however the store orders equal sort values at each
request, exactly for the forms that are `WalkExact` there. -/
theorem walk_iff (eng : Engine) (env : Env) (db : Db) (es : Es) :
    WalksOnce eng env rs db es ↔ WalkExact eng env rs db es := by
  by_cases hk : rs.keywords.getD "" ≠ ""
  · constructor
    · intro h
      by_cases hnil : matchingDocs eng env rs es = []
      · unfold WalkExact
        rw [if_pos hk]
        exact Or.inl hnil
      · exact walk_index_of_once h1 h2 hk hnil h
    · exact walk_index_once h1 h2 hk
  · exact walk_simple_iff h1 h2 eng env db es hk

end

/-- All houses of bj by price, one a page. -/
def Sample.byPrice : RentSearch := ⟨"bj", none, none, none, none, -1, some "price", some "asc", 0, 1⟩

theorem walk_published :
    WalksOnce (.insertion fun _ _ => false) Sample.env Sample.byPrice Sample.published.db Sample.published.es := by
  have hexact : WalkExact (.insertion fun _ _ => false) Sample.env Sample.byPrice Sample.published.db
      Sample.published.es := by
    unfold WalkExact
    rw [if_neg (by decide)]
    decide +kernel
  exact (walk_iff (by decide) (by decide) _ _ _ _).mpr hexact

/-- Two houses for one price, both published. -/
def Sample.twoPublished : Sys :=
  let s := { Sample.stored with db := (save Sample.env.cdnPrefix .none 2 0 Sample.form Sample.stored.db).1 }
  (updateStatus 2 HouseStatus.PASSES.value (updateStatus 1 HouseStatus.PASSES.value s).1).1

/-- **Equal prices.** The two requests order the houses differently, and both
show the same one. -/
theorem walk_of_equal_prices :
    ¬ ∀ (eng : Engine) (env : Env) (rs : RentSearch) (db : Db) (es : Es), 1 ≤ rs.size → rs.size ≤ 100 →
      (rs.orderDirection.bind directionOf).isSome → WalksOnce eng env rs db es := by
  intro hall
  have h := hall (.insertion fun _ _ => false) Sample.env Sample.byPrice Sample.twoPublished.db
    Sample.twoPublished.es (by decide) (by decide) (by decide +kernel)
  rw [walk_simple_iff (by decide) (by decide) _ _ _ _ (by decide), WalkExact, if_neg (by decide)] at h
  exact absurd h (by decide +kernel)

end HouseService

end Soufang
