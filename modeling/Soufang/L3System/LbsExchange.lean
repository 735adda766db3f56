import Soufang.L2Service.BaiduMap

/-!
# Exchanges with the map services

`Documented` says what the services do with a request whose pairs are read
back; a row is read from the form of an upload, and a request without an
answer of status 0 has changed nothing. Then every exchange has an outcome
that the statuses of `SearchService` allow:

* `upload_refines`, `remove_refines`: those of the LBS table, and its rows.
* `geocode_refines`: a location that is found is that of the address.
-/
namespace Soufang

open UrlEncode AddressServiceImpl

/-- The JSON library, the services and the text of a number. -/
structure Web (σ : Type) where
  mapper : ObjectMapper
  server : Server σ
  valueOf : Rat → String

/-- What the services do with a request whose pairs are read back: `locate` is
the geocoder, `table` the LBS table in the state of the services. -/
structure Web.Documented {σ : Type} (w : Web σ) (locate : String → String → BaiduMapLocation)
    (parseDouble : String → Option Rat) (table : σ → List LbsPoint) : Prop where
  /-- A number is read as it was written. -/
  number : ∀ q, parseDouble (w.valueOf q) = some q
  /-- The geocoder answers with the location of the address in the city. -/
  geocoder : ∀ query city address s tree result place lng lat,
    parse query.toList = some [("address", address), ("city", city), ("output", "json"), ("ak", BAIDU_MAP_KEY)] →
    Succeeded w.mapper (w.server.get (BAIDU_MAP_GEOCONV_API ++ query) s).2 tree →
    w.mapper.field tree "result" = .ok result → w.mapper.field (some result) "location" = .ok place →
    w.mapper.field (some place) "lng" = .ok lng → w.mapper.field (some place) "lat" = .ok lat →
    ⟨w.mapper.asDouble lng, w.mapper.asDouble lat⟩ = locate city address
  /-- A query changes no row. -/
  query : ∀ url s, table (w.server.get url s).1 = table s
  /-- The list call counts the rows in a range of the column. -/
  list : ∀ query low high s tree size,
    parse query.toList = some [("geotable_id", "175730"), ("ak", BAIDU_MAP_KEY),
      ("houseId", toString (low : Int) ++ "," ++ toString (high : Int))] →
    Succeeded w.mapper (w.server.get (LBS_QUERY_API ++ query) s).2 tree →
    w.mapper.field tree "size" = .ok size →
    w.mapper.asLong size = ((table s).countP fun p => low ≤ p.houseId ∧ p.houseId ≤ high : Nat)
  create : ∀ body form p s, parse body.toList = some form → readPoint parseDouble form = some p →
    (∀ tree, Succeeded w.mapper (w.server.post LBS_CREATE_API body s).2 tree →
      table (w.server.post LBS_CREATE_API body s).1 = table s ++ [p])
  update : ∀ body form p s, parse body.toList = some form → readPoint parseDouble form = some p →
    (∀ tree, Succeeded w.mapper (w.server.post LBS_UPDATE_API body s).2 tree →
      table (w.server.post LBS_UPDATE_API body s).1 =
        (table s).map fun q => if q.houseId = p.houseId then p else q)
  delete : ∀ body houseId s, parse body.toList = some (removePairs houseId) →
    (∀ tree, Succeeded w.mapper (w.server.post LBS_DELETE_API body s).2 tree →
      table (w.server.post LBS_DELETE_API body s).1 = (table s).filter fun p => p.houseId ≠ houseId)
  /-- A form whose answer does not report status 0 has changed nothing. -/
  refused : ∀ url body s, (∀ tree, ¬ Succeeded w.mapper (w.server.post url body s).2 tree) →
    table (w.server.post url body s).1 = table s

section
variable {σ : Type} {w : Web σ} {locate : String → String → BaiduMapLocation} {parseDouble : String → Option Rat}
  {table : σ → List LbsPoint}

/-! ## The exchanges -/

/-- What a caller sees of an outcome. -/
def reported : Except Exn (ServiceResult Unit) → Option Bool
  | .error _ => none
  | .ok result => some result.success

def Status.reported : Status → Option Bool
  | .ok => some true
  | .failed => some false
  | .threw => none

/-- A form is accepted, refused, or its answer makes the code throw. -/
theorem form_status {mapper : ObjectMapper} {unread refused : ServiceResult Unit}
    {message : mapper.JsonNode → ServiceResult Unit} (hunread : unread.success = false)
    (hrefused : refused.success = false) (hmessage : ∀ node, (message node).success = false)
    (answer : Option HttpResponse) :
    ∃ st : Status, (st = .ok ↔ ∃ tree, Succeeded mapper answer tree) ∧
      reported (readAnswer mapper unread refused (fun jsonNode _ => (mapper.field jsonNode "message").map message)
        (fun _ => .ok .ok) answer) = st.reported := by
  by_cases h : ∃ tree, Succeeded mapper answer tree
  · obtain ⟨tree, ht⟩ := h
    refine ⟨.ok, iff_of_true rfl ⟨tree, ht⟩, ?_⟩
    rw [readAnswer_succeeded ht]
    rfl
  · have hfailed : (Status.failed = .ok) ↔ ∃ tree, Succeeded mapper answer tree := iff_of_false (by decide) h
    have hthrew : (Status.threw = .ok) ↔ ∃ tree, Succeeded mapper answer tree := iff_of_false (by decide) h
    rcases readAnswer_refused (not_exists.mp h) with he | he | ⟨tree, status, he⟩ | ⟨e, he⟩
    · exact ⟨.failed, hfailed, by rw [he]; exact congrArg some hunread⟩
    · exact ⟨.failed, hfailed, by rw [he]; exact congrArg some hrefused⟩
    · rw [he]
      cases mapper.field tree "message" with
      | error e => exact ⟨.threw, hthrew, rfl⟩
      | ok node => exact ⟨.failed, hfailed, congrArg some (hmessage node)⟩
    · exact ⟨.threw, hthrew, by rw [he]; rfl⟩

theorem readUpload_status (mapper : ObjectMapper) (answer : Option HttpResponse) :
    ∃ st : Status, (st = .ok ↔ ∃ tree, Succeeded mapper answer tree) ∧
      reported (readUpload mapper answer) = st.reported := by
  unfold readUpload
  exact form_status rfl rfl (fun _ => rfl) answer

theorem readRemove_status (mapper : ObjectMapper) (answer : Option HttpResponse) :
    ∃ st : Status, (st = .ok ↔ ∃ tree, Succeeded mapper answer tree) ∧
      reported (readRemove mapper answer) = st.reported := by
  unfold readRemove
  exact form_status rfl rfl (fun _ => rfl) answer

/-- The table after a form whose answer has the status `st`. -/
theorem table_after (hd : w.Documented locate parseDouble table) {url body : String} {s : σ} {st : Status}
    {rows : List LbsPoint} (hok : st = .ok ↔ ∃ tree, Succeeded w.mapper (w.server.post url body s).2 tree)
    (hrows : ∀ tree, Succeeded w.mapper (w.server.post url body s).2 tree →
      table (w.server.post url body s).1 = rows) :
    table (w.server.post url body s).1 = if st = .ok then rows else table s := by
  by_cases h : ∃ tree, Succeeded w.mapper (w.server.post url body s).2 tree
  · rw [if_pos (hok.mpr h)]
    obtain ⟨tree, ht⟩ := h
    exact hrows tree ht
  · rw [if_neg fun hst => h (hok.mp hst)]
    exact hd.refused url body s (not_exists.mp h)

theorem parse_body (form : List (String × String)) : parse (String.ofList (format form)).toList = some form := by
  rw [String.toList_ofList, parse_format]

theorem remove_refines (hd : w.Documented locate parseDouble table) (houseId : Long) (s : σ) : ∃ delete : Status,
    (table (removeLbs w.mapper w.server houseId s).1, reported (removeLbs w.mapper w.server houseId s).2) =
      SearchService.removeLbs delete houseId (table s) := by
  obtain ⟨st, hok, hreported⟩ := readRemove_status w.mapper
    (w.server.post LBS_DELETE_API (String.ofList (format (removePairs houseId))) s).2
  have htable := table_after hd hok fun tree ht => hd.delete _ houseId s (parse_body _) tree ht
  refine ⟨st, ?_⟩
  unfold removeLbs
  rw [Prod.map_fst, Prod.map_snd, id, htable, hreported]
  cases st <;> rfl

/-- The list call, as the abstract table answers it. -/
def existing : Except Exn Bool → Option Bool
  | .error _ => none
  | .ok ex => some ex

theorem countP_house (lbs : List LbsPoint) (h : Long) :
    (0 < ((lbs.countP fun p => h ≤ p.houseId ∧ p.houseId ≤ h : Nat) : Int)) ↔
      (lbs.any fun p => p.houseId = h) = true := by
  rw [Int.natCast_pos, List.countP_pos_iff, List.any_eq_true]
  refine exists_congr fun p => and_congr_right fun _ => ?_
  rw [decide_eq_true_iff, decide_eq_true_iff]
  exact ⟨fun ⟨hl, hr⟩ => le_antisymm hr hl, fun he => ⟨he.ge, he.le⟩⟩

theorem exists_refines (hd : w.Documented locate parseDouble table) (houseId : Long) (s : σ) : ∃ list : Status,
    table (isLbsDataExists w.mapper w.server houseId s).1 = table s ∧
    existing (isLbsDataExists w.mapper w.server houseId s).2 =
      SearchService.isLbsDataExists list houseId (table s) := by
  have htable : table (isLbsDataExists w.mapper w.server houseId s).1 = table s := hd.query _ s
  have hlist := hd.list (lbsQuery houseId) houseId houseId s
  unfold isLbsDataExists at htable ⊢
  rw [Prod.map_fst] at htable
  rw [Prod.map_fst, Prod.map_snd]
  generalize w.server.get (LBS_QUERY_API ++ lbsQuery houseId) s = answered at htable hlist
  obtain ⟨web, answer⟩ := answered
  unfold readExists
  by_cases h : ∃ tree, Succeeded w.mapper answer tree
  · obtain ⟨tree, ht⟩ := h
    rw [readAnswer_succeeded ht]
    cases hsize : w.mapper.field tree "size" with
    | error e => exact ⟨.threw, htable, rfl⟩
    | ok size =>
      refine ⟨.ok, htable, congrArg some ?_⟩
      change decide (0 < w.mapper.asLong size) = _
      rw [hlist tree size (parse_lbsQuery houseId) ht hsize]
      exact Bool.eq_iff_iff.mpr (decide_eq_true_iff.trans (countP_house (table s) houseId))
  · rcases readAnswer_refused (not_exists.mp h) with he | he | ⟨tree, status, he⟩ | ⟨e, he⟩
    · exact ⟨.failed, htable, by rw [he]; rfl⟩
    · exact ⟨.failed, htable, by rw [he]; rfl⟩
    · exact ⟨.failed, htable, by rw [he]; rfl⟩
    · exact ⟨.threw, htable, by rw [he]; rfl⟩

theorem upload_refines (hd : w.Documented locate parseDouble table) (p : LbsPoint) (s : σ) (c : Calls) :
    ∃ list write : Status,
      (table (lbsUpload w.mapper w.server w.valueOf p s).1,
          reported (lbsUpload w.mapper w.server w.valueOf p s).2) =
        SearchService.lbsUpload { c with lbsList := list, lbsWrite := write } p (table s) := by
  obtain ⟨list, htable, hexists⟩ := exists_refines hd p.houseId s
  unfold lbsUpload
  generalize isLbsDataExists w.mapper w.server p.houseId s = asked at htable hexists
  obtain ⟨web, e | ex⟩ := asked
  · refine ⟨list, .ok, ?_⟩
    unfold SearchService.lbsUpload
    dsimp only
    rw [← hexists, ← htable]
    rfl
  · have hpost : ∀ api rows, (∀ tree,
        Succeeded w.mapper (w.server.post api (String.ofList (format (uploadPairs w.valueOf p))) web).2 tree →
          table (w.server.post api (String.ofList (format (uploadPairs w.valueOf p))) web).1 = rows) →
        ∃ write : Status,
          table (w.server.post api (String.ofList (format (uploadPairs w.valueOf p))) web).1 =
            (if write = .ok then rows else table s) ∧
          reported (readUpload w.mapper
            (w.server.post api (String.ofList (format (uploadPairs w.valueOf p))) web).2) = write.reported := by
      intro api rows hrows
      obtain ⟨st, hok, hreported⟩ := readUpload_status w.mapper
        (w.server.post api (String.ofList (format (uploadPairs w.valueOf p))) web).2
      refine ⟨st, ?_, hreported⟩
      rw [table_after hd hok hrows]
      congr 1
    have hweb : table web = table s := htable
    have hform := parse_body (uploadPairs w.valueOf p)
    have hpoint := readPoint_uploadPairs hd.number p
    have hlist : some ex = SearchService.isLbsDataExists list p.houseId (table s) := hexists
    dsimp only
    rw [Prod.map_fst, Prod.map_snd, id]
    cases ex with
    | true =>
      obtain ⟨write, htable', hreported⟩ := hpost LBS_UPDATE_API _ (hd.update _ _ p web hform hpoint)
      refine ⟨list, write, ?_⟩
      unfold SearchService.lbsUpload
      dsimp only
      rw [← hlist, if_pos rfl, htable', hreported, hweb]
      cases write <;> rfl
    | false =>
      obtain ⟨write, htable', hreported⟩ := hpost LBS_CREATE_API _ (hd.create _ _ p web hform hpoint)
      refine ⟨list, write, ?_⟩
      unfold SearchService.lbsUpload
      dsimp only
      rw [← hlist, if_neg Bool.false_ne_true, htable', hreported, hweb]
      cases write <;> rfl

/-- A location that is found is that of the address in the city. -/
theorem readLocation_cases (hd : w.Documented locate parseDouble table) {city address query : String} {s : σ}
    {tree : Option w.mapper.JsonNode} (hquery : parse query.toList =
      some [("address", address), ("city", city), ("output", "json"), ("ak", BAIDU_MAP_KEY)])
    (ht : Succeeded w.mapper (w.server.get (BAIDU_MAP_GEOCONV_API ++ query) s).2 tree) :
    (∃ e, readLocation w.mapper tree = .error e) ∨ readLocation w.mapper tree = .ok (.of (locate city address)) := by
  unfold readLocation
  cases hresult : w.mapper.field tree "result" with
  | error e => exact Or.inl ⟨e, rfl⟩
  | ok result =>
    cases hplace : w.mapper.field (some result) "location" with
    | error e => exact Or.inl ⟨e, by simp only [hplace, bind, Except.bind]⟩
    | ok place =>
      cases hlng : w.mapper.field (some place) "lng" with
      | error e => exact Or.inl ⟨e, by simp only [hplace, hlng, bind, Except.bind]⟩
      | ok lng =>
        cases hlat : w.mapper.field (some place) "lat" with
        | error e => exact Or.inl ⟨e, by simp only [hplace, hlng, hlat, bind, Except.bind]⟩
        | ok lat =>
          have hlocated := hd.geocoder query city address s tree result place lng lat hquery ht hresult hplace hlng hlat
          refine Or.inr ?_
          simp only [hplace, hlng, hlat, hlocated, bind, Except.bind, pure, Except.pure]

theorem geocode_refines (hd : w.Documented locate parseDouble table) (city address : String) (s : σ) :
    table (getBaiduMapLocation w.mapper w.server city address s).1 = table s ∧
    ((∃ e, (getBaiduMapLocation w.mapper w.server city address s).2 = .error e) ∨
      (∃ message, (getBaiduMapLocation w.mapper w.server city address s).2 = .ok (.fail message)) ∨
      (getBaiduMapLocation w.mapper w.server city address s).2 = .ok (.of (locate city address))) := by
  refine ⟨hd.query _ s, ?_⟩
  unfold getBaiduMapLocation
  rw [Prod.map_snd]
  unfold readGeoconv
  by_cases h : ∃ tree, Succeeded w.mapper
      (w.server.get (BAIDU_MAP_GEOCONV_API ++ geoconvQuery city address) s).2 tree
  · obtain ⟨tree, ht⟩ := h
    rw [readAnswer_succeeded ht]
    rcases readLocation_cases hd (parse_geoconvQuery city address) ht with he | he
    · exact Or.inl he
    · exact Or.inr (Or.inr he)
  · rcases readAnswer_refused (not_exists.mp h) with he | he | ⟨tree, status, he⟩ | ⟨e, he⟩
    · exact Or.inr (Or.inl ⟨_, he⟩)
    · exact Or.inr (Or.inl ⟨_, he⟩)
    · exact Or.inr (Or.inl ⟨_, he⟩)
    · exact Or.inl ⟨e, he⟩

end

end Soufang
