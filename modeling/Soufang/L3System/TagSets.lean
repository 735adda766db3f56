import Soufang.Core.Requests
import Soufang.Core.SetStore
import Soufang.L2Service.AddressService
import Soufang.L2Service.HouseSpec
import Soufang.L3System.System

/-!
# The tags of a house as a set

POST and DELETE of `admin/house/tag` are to insert a tag into the set of a
house and to remove it. The services do this: a sequence of `addTag` and
`removeTag` agrees with a store of sets (`services_agree`). The endpoint of
POST refuses every request that has a tag, by the guard `tag != null`, so it
agrees on the sequences that post no new tag (`endpoints_agree_iff`).

A request without the parameter `tag` does not reach the endpoints; what they
do with a null is part of their definitions.
-/
namespace Soufang

open SetStore

namespace AdminController

/-- mirrors soufang/src/main/java/com/wf/web/controller/admin/AdminController.java:298-303,320-325 -/
def tagResponse (result : ServiceResult Unit) : DataResponse :=
  if result.success then .ofStatus .SUCCESS else .ofMessage ApiStatus.BAD_REQUEST.code result.message

/-- `addTag` with a name that may be null: no row has one, and the column
refuses it. -/
def addNullableTag (houseId : Long) (tag : Option String) (db : Db) : Db × Except Exn (ServiceResult Unit) :=
  match tag with
  | some tag => HouseService.addTag houseId tag db
  | none =>
    match db.house.find? houseId with
    | none => (db, .ok .notFound)
    | some _ => (db, .error .dataIntegrityViolation)

/-- mirrors soufang/src/main/java/com/wf/web/controller/admin/AdminController.java:290-304 -/
def addHouseTag (houseId : Long) (tag : Option String) (db : Db) : Db × Except Exn DataResponse :=
  if houseId < 1 ∨ tag ≠ none then (db, .ok (.ofStatus .BAD_REQUEST))
  else
    match addNullableTag houseId tag db with
    | (db', .error e) => (db', .error e)
    | (db', .ok result) => (db', .ok (tagResponse result))

/-- mirrors soufang/src/main/java/com/wf/web/controller/admin/AdminController.java:312-326 -/
def removeHouseTag (houseId : Long) (tag : Option String) (db : Db) : Db × Except Exn DataResponse :=
  match tag with
  | none => (db, .ok (.ofStatus .BAD_REQUEST))
  | some tag =>
    if houseId < 1 then (db, .ok (.ofStatus .BAD_REQUEST))
    else ((HouseService.removeTag houseId tag db).1, .ok (tagResponse (HouseService.removeTag houseId tag db).2))

end AdminController

namespace TagSets

open AdminController HouseService

/-- The houses there are, and the set of tags of each. -/
def storeOf (db : Db) : Store Long String where
  known h := (db.house.find? h).isSome
  sets h := ((db.findAllTagsByHouseId h).map HouseTag.name).toFinset

/-- A request to the services, and whether it reports success. -/
def serviceStep (db : Db) : Op Long String → Db × Bool
  | .insert h tag => ((addTag h tag db).1, decide ((addTag h tag db).2 = .ok .ok))
  | .remove h tag => ((removeTag h tag db).1, (removeTag h tag db).2.success)

/-- The answer is one of status 200. -/
def answeredSuccess : Except Exn DataResponse → Bool
  | .ok r => r.code = ApiStatus.SUCCESS.code
  | .error _ => false

/-- A request to the endpoints, and whether it answers success. -/
def endpointStep (db : Db) : Op Long String → Db × Bool
  | .insert h tag => ((addHouseTag h (some tag) db).1, answeredSuccess (addHouseTag h (some tag) db).2)
  | .remove h tag => ((removeHouseTag h (some tag) db).1, answeredSuccess (removeHouseTag h (some tag) db).2)

/-! ## The services -/

section
variable {db : Db} {h : Long} {tag : String}

theorem mem_sets {t : String} : t ∈ (storeOf db).sets h ↔ ∃ r ∈ db.tag.rows, r.houseId = h ∧ r.name = t := by
  simp [storeOf, Db.findAllTagsByHouseId, and_assoc]

theorem known_iff : (storeOf db).known h = true ↔ ∃ house, db.house.find? h = some house := Option.isSome_iff_exists

theorem findTag_none_iff : db.findTagByNameAndHouseId tag h = none ↔ tag ∉ (storeOf db).sets h := by
  rw [findTag_none, mem_sets]
  constructor
  · intro hno ⟨r, hr, hh, hn⟩
    exact hno r hr hn hh
  · intro hno r hr hn hh
    exact hno ⟨r, hr, hh, hn⟩

/-- The unique key: no house has a tag twice. -/
theorem tag_keys (db : Db) : (db.tag.rows.map fun r => (r.houseId, r.name)).Nodup := by
  have hu := db.tag.uniques
  have he : db.tag.rows.filterMap (Entity.uniq (α := HouseTag)) = db.tag.rows.map fun r => (r.houseId, r.name) :=
    List.filterMap_eq_map (f := fun r : HouseTag => (r.houseId, r.name)) ▸ rfl
  rwa [he] at hu

theorem tag_inj {r r' : HouseTag} (hr : r ∈ db.tag.rows) (hr' : r' ∈ db.tag.rows) (hh : r.houseId = r'.houseId)
    (hn : r.name = r'.name) : r = r' :=
  List.inj_on_of_nodup_map (tag_keys db) hr hr' (Prod.ext hh hn)

/-- A tag the house does not have can be stored. -/
theorem insert_tag (hno : tag ∉ (storeOf db).sets h) : ∃ tags, db.tag.insert? ⟨0, h, tag⟩ = some tags := by
  refine Option.ne_none_iff_exists'.mp fun hn => ?_
  obtain ⟨key, hkey, hsame⟩ := Table.insert?_eq_none.mp hn
  obtain ⟨r, hr, hrkey⟩ := List.mem_filterMap.mp hkey
  rw [← hrkey] at hsame
  have heq : (h, tag) = (r.houseId, r.name) := Option.some.inj hsame
  exact hno (mem_sets.mpr ⟨r, hr, (congrArg Prod.fst heq).symm, (congrArg Prod.snd heq).symm⟩)

theorem storeOf_insert {tags : Table HouseTag} (hi : db.tag.insert? ⟨0, h, tag⟩ = some tags) :
    storeOf { db with tag := tags } = (storeOf db).put h (insert tag ((storeOf db).sets h)) := by
  refine Store.ext rfl (funext fun k => Finset.ext fun t => ?_)
  have hrows : tags.rows = db.tag.rows ++ [⟨db.tag.next, h, tag⟩] := (Table.insert?_some hi).1
  rw [mem_sets, hrows, Store.put_sets]
  simp only [List.mem_append, List.mem_singleton, or_and_right, exists_or, exists_eq_left]
  by_cases hk : k = h
  · subst hk
    rw [if_pos rfl, Finset.mem_insert, mem_sets, or_comm]
    simp [eq_comm]
  · rw [if_neg hk, mem_sets]
    simp [Ne.symm hk]

/-- The rows a removal by id leaves. -/
theorem mem_removed {t r : HouseTag} (ht : t ∈ db.tag.rows) :
    r ∈ (db.tag.remove fun r => decide (r.id = t.id)).rows ↔
      r ∈ db.tag.rows ∧ ¬ (r.houseId = t.houseId ∧ r.name = t.name) := by
  simp only [Table.remove, List.mem_filter, Bool.not_eq_true', decide_eq_false_iff_not]
  refine and_congr_right fun hr => not_congr ?_
  constructor
  · intro he
    rw [Table.id_inj hr ht he]
    exact ⟨rfl, rfl⟩
  · intro h
    rw [tag_inj hr ht h.1 h.2]

theorem storeOf_remove {t : HouseTag} (ht : t ∈ db.tag.rows) :
    storeOf { db with tag := db.tag.remove fun r => decide (r.id = t.id) } =
      (storeOf db).put t.houseId (((storeOf db).sets t.houseId).erase t.name) := by
  refine Store.ext rfl (funext fun k => Finset.ext fun name => ?_)
  rw [mem_sets, Store.put_sets]
  simp only [mem_removed ht]
  by_cases hk : k = t.houseId
  · subst hk
    rw [if_pos rfl, Finset.mem_erase, mem_sets]
    constructor
    · intro h
      obtain ⟨r, ⟨hr, hne⟩, hh, rfl⟩ := h
      exact ⟨fun hn => hne ⟨hh, hn⟩, r, hr, hh, rfl⟩
    · intro h
      obtain ⟨hne, r, hr, hh, rfl⟩ := h
      exact ⟨r, ⟨hr, fun h => hne h.2⟩, hh, rfl⟩
  · rw [if_neg hk, mem_sets]
    constructor
    · intro h
      obtain ⟨r, ⟨hr, -⟩, hh, hn⟩ := h
      exact ⟨r, hr, hh, hn⟩
    · intro h
      obtain ⟨r, hr, hh, hn⟩ := h
      exact ⟨r, ⟨hr, fun h => hk (hh.symm.trans h.1)⟩, hh, hn⟩

/-- A request the server refuses and the store does not carry out. -/
theorem agrees_of_refused {step : Db → Op Long String → Db × Bool} {op : Op Long String}
    (hstep : step db op = (db, false)) (hspec : exec (storeOf db) op = (storeOf db, false)) :
    Requests.Agrees storeOf step exec db op := ⟨by rw [hstep, hspec], by rw [hstep, hspec]⟩

theorem unknown_of_none (hh : db.house.find? h = none) : (storeOf db).known h = false := by
  simp [storeOf, hh]

theorem addTag_agrees (db : Db) (h : Long) (tag : String) :
    Requests.Agrees storeOf serviceStep exec db (.insert h tag) := by
  cases hh : db.house.find? h with
  | none =>
    have hstep : addTag h tag db = (db, .ok .notFound) := by
      unfold addTag
      rw [hh]
    refine agrees_of_refused ?_ (exec_unknown (unknown_of_none hh))
    rw [serviceStep, hstep]
    rfl
  | some house =>
    cases ht : db.findTagByNameAndHouseId tag h with
    | some t =>
      have hmem : tag ∈ (storeOf db).sets h := by
        by_contra hno
        rw [findTag_none_iff.mpr hno] at ht
        cases ht
      have hstep : addTag h tag db = (db, .ok (.fail "标签已存在")) := by
        unfold addTag
        simp only [hh, ht]
      refine agrees_of_refused ?_ (exec_insert_mem hmem)
      rw [serviceStep, hstep]
      rfl
    | none =>
      have hno := findTag_none_iff.mp ht
      obtain ⟨tags, hi⟩ := insert_tag hno
      have hstep : addTag h tag db = ({ db with tag := tags }, .ok .ok) := by
        unfold addTag
        simp only [hh, ht, hi]
      have hspec := exec_insert_new (known_iff.mpr ⟨house, hh⟩) hno
      constructor
      · rw [serviceStep, hstep, hspec]
        exact storeOf_insert hi
      · rw [serviceStep, hstep, hspec]
        rfl

theorem removeTag_agrees (db : Db) (h : Long) (tag : String) :
    Requests.Agrees storeOf serviceStep exec db (.remove h tag) := by
  cases hh : db.house.find? h with
  | none =>
    have hstep : removeTag h tag db = (db, .notFound) := by
      unfold removeTag
      rw [hh]
    refine agrees_of_refused ?_ (exec_unknown (unknown_of_none hh))
    rw [serviceStep, hstep]
    rfl
  | some house =>
    cases ht : db.findTagByNameAndHouseId tag h with
    | none =>
      have hno := findTag_none_iff.mp ht
      have hstep : removeTag h tag db = (db, .fail "标签不存在") := by
        unfold removeTag
        simp only [hh, ht]
      refine agrees_of_refused ?_ (exec_remove_new hno)
      rw [serviceStep, hstep]
      rfl
    | some t =>
      obtain ⟨hr, rfl, rfl⟩ := findTag_some ht
      have hmem : t.name ∈ (storeOf db).sets t.houseId := mem_sets.mpr ⟨t, hr, rfl, rfl⟩
      have hstep : removeTag t.houseId t.name db =
          ({ db with tag := db.tag.remove fun r => decide (r.id = t.id) }, .ok) := by
        unfold removeTag
        simp only [hh, ht]
      have hspec := exec_remove_mem (known_iff.mpr ⟨house, hh⟩) hmem
      constructor
      · rw [serviceStep, hstep, hspec]
        exact storeOf_remove hr
      · rw [serviceStep, hstep, hspec]
        rfl

end

/-- The services keep the sets of tags and report what changes. -/
theorem services_agree (db : Db) (ops : List (Op Long String)) :
    Requests.RunAgrees storeOf serviceStep exec db ops := by
  refine Requests.runAgrees_of_agrees (fun db op => ?_) db ops
  cases op with
  | insert h tag => exact addTag_agrees db h tag
  | remove h tag => exact removeTag_agrees db h tag

/-! ## The endpoints -/

section
variable {db : Db} {h : Long} {tag : String}

/-- A posted tag is refused by the guard. -/
theorem endpointStep_insert (db : Db) (h : Long) (tag : String) : endpointStep db (.insert h tag) = (db, false) := by
  have hguard : addHouseTag h (some tag) db = (db, .ok (.ofStatus .BAD_REQUEST)) :=
    if_pos (Or.inr (Option.some_ne_none tag))
  rw [endpointStep, hguard]
  rfl

/-- A removal goes to the service. -/
theorem endpointStep_remove (hh : 1 ≤ h) : endpointStep db (.remove h tag) = serviceStep db (.remove h tag) := by
  have hpass : removeHouseTag h (some tag) db = ((removeTag h tag db).1, .ok (tagResponse (removeTag h tag db).2)) :=
    if_neg (not_lt.mpr hh)
  rw [endpointStep, serviceStep, hpass]
  unfold tagResponse answeredSuccess
  cases (removeTag h tag db).2.success <;> rfl

end

/-- The request posts a tag that an existing house does not have. -/
def PostsNewTag (s : Store Long String) : Op Long String → Prop
  | .insert h tag => s.known h = true ∧ tag ∉ s.sets h
  | .remove _ _ => False

/-- What the endpoints are to do in a sequence of requests: leave each house
with the tags the insertions and removals give it, answer success where the
house exists and its set changes, leave other houses alone, and store no tag
twice. -/
structure KeepsSets (db : Db) (ops : List (Op Long String)) : Prop where
  agrees : Requests.RunAgrees storeOf endpointStep exec db ops
  others : ∀ h, (∀ op ∈ ops, h ≠ op.key) →
    (storeOf (Requests.run endpointStep db ops).1).sets h = (storeOf db).sets h
  noDuplicates : ∀ n, ((Requests.run endpointStep db (ops.take n)).1.tag.rows.map fun r => (r.houseId, r.name)).Nodup

theorem keepsSets_iff_agrees {db : Db} {ops : List (Op Long String)} :
    KeepsSets db ops ↔ Requests.RunAgrees storeOf endpointStep exec db ops := by
  constructor
  · exact KeepsSets.agrees
  · intro ha
    refine ⟨ha, fun h hno => ?_, fun n => tag_keys _⟩
    rw [ha.state, run_other ops hno]

theorem runAgrees_iff_avoids (db : Db) (ops : List (Op Long String)) (hids : ∀ op ∈ ops, 1 ≤ op.key) :
    Requests.RunAgrees storeOf endpointStep exec db ops ↔
      Requests.Avoids exec PostsNewTag (storeOf db) ops := by
  refine Requests.runAgrees_iff (fun db op hid hok => ?_) (fun db op _ hbad => ?_) db ops hids
  · cases op with
    | insert h tag =>
      refine agrees_of_refused (endpointStep_insert db h tag) ?_
      -- an unknown house, or a tag it has
      cases hk : (storeOf db).known h with
      | false => exact exec_unknown hk
      | true =>
        refine exec_insert_mem ?_
        by_contra hno
        exact hok ⟨hk, hno⟩
    | remove h tag =>
      have ha := removeTag_agrees db h tag
      have hstep : endpointStep db (.remove h tag) = serviceStep db (.remove h tag) := endpointStep_remove hid
      exact ⟨by rw [hstep, ha.state], by rw [hstep, ha.answer]⟩
  · cases op with
    | insert h tag =>
      obtain ⟨hk, hno⟩ := hbad
      rw [endpointStep_insert, exec_insert_new hk hno]
      exact Bool.false_ne_true
    | remove h tag => exact hbad.elim

/-- The endpoints keep the sets exactly in the sequences that post no new tag. -/
theorem endpoints_agree_iff (db : Db) (ops : List (Op Long String)) (hids : ∀ op ∈ ops, 1 ≤ op.key) :
    KeepsSets db ops ↔ Requests.Avoids exec PostsNewTag (storeOf db) ops :=
  keepsSets_iff_agrees.trans (runAgrees_iff_avoids db ops hids)

/-- A tag of house 1 is removed, one that the house keeps is posted. -/
theorem endpoints_agree_two :
    (endpointStep Sample.tagged.db (.remove 1 "近地铁")).1 ≠ Sample.tagged.db ∧
      (endpointStep Sample.tagged.db (.remove 1 "近地铁")).2 = true ∧
        KeepsSets Sample.tagged.db [.remove 1 "近地铁", .insert 1 "随时看房"] := by
  have hids : ∀ op ∈ [Op.remove 1 "近地铁", Op.insert 1 "随时看房"], (1 : Long) ≤ op.key := by
    simp [Op.key]
  refine ⟨by decide +kernel, by decide +kernel, (endpoints_agree_iff Sample.tagged.db _ hids).mpr ?_⟩
  refine ⟨id, fun hposts => hposts.2 ?_, trivial⟩
  decide +kernel

/-- A tag is posted for house 1, and is not stored. -/
theorem posted_tag_refused : ¬ KeepsSets Sample.stored.db [.insert 1 "近地铁"] := by
  intro h
  have hids : ∀ op ∈ [Op.insert 1 "近地铁"], (1 : Long) ≤ op.key := by simp [Op.key]
  have havoid := (runAgrees_iff_avoids Sample.stored.db _ hids).mp h.agrees
  exact havoid.1 ⟨by decide, by decide⟩

end TagSets

end Soufang
