import Soufang.L2Service.HouseService

/-!
# The address check of the two house forms

`findCityAndRegion` looks up the city and the region a form names; the add and
the edit endpoint of `AdminController` answer `NOT_VALID_PARAM` when its map
does not hold both.

* `Validates` is what the check is for: no exception, the map holds the rows
  of the right level, and the endpoints refuse exactly the other pairs.
* `validation_iff`: that is so exactly for the pairs that `Resolves`. The
  method dereferences both lookups before its callers see the map, and asks
  neither lookup for the level and the parent together.

The errors of a form are those of `HouseForm.violations`, in the order of the
fields; texts are compared exactly.
-/
namespace Soufang

/-- mirrors soufang/src/main/java/com/wf/repository/SupportAddressRepository.java:21 -/
def Db.findByEnNameAndBelongTo (db : Db) (enName belongTo : String) : Except Exn (Option SupportAddress) :=
  match db.supportAddress.filter fun a => a.enName = enName ∧ a.belongTo = belongTo with
  | [] => .ok none
  | [a] => .ok (some a)
  | _ => .error .incorrectResultSize

/-- `modelMapper.map` refuses a null source; a `SupportAddressDTO` has the
fields of the row.
mirrors soufang/src/main/java/com/wf/service/house/AddressServiceImpl.java:90-101 -/
def AddressService.findCityAndRegion (db : Db) (cityEnName regionEnName : String) :
    Except Exn (List (Level × SupportAddress)) :=
  match db.findByEnNameAndLevel cityEnName Level.CITY.value with
  | .error e => .error e
  | .ok none => .error .nullPointer
  | .ok (some city) =>
    match db.findByEnNameAndBelongTo regionEnName city.enName with
    | .error e => .error e
    | .ok none => .error .illegalArgument
    | .ok (some region) => .ok [(.CITY, city), (.REGION, region)]

/-! ## The endpoints -/

/-- mirrors soufang/src/main/java/com/wf/base/ApiResponse.java:68-75 -/
inductive ApiStatus
  | SUCCESS
  | BAD_REQUEST
  | NOT_FOUND
  | INTERNAL_SERVER_ERROR
  | NOT_VALID_PARAM
  | NOT_SUPPORTED_OPERATION
  | NOT_LOGIN
  deriving DecidableEq

def ApiStatus.code : ApiStatus → Int
  | .SUCCESS => 200
  | .BAD_REQUEST => 400
  | .NOT_FOUND => 404
  | .INTERNAL_SERVER_ERROR => 500
  | .NOT_VALID_PARAM => 40005
  | .NOT_SUPPORTED_OPERATION => 40006
  | .NOT_LOGIN => 50000

def ApiStatus.standardMessage : ApiStatus → String
  | .SUCCESS => "OK"
  | .BAD_REQUEST => "Bad Request"
  | .NOT_FOUND => "Not Found"
  | .INTERNAL_SERVER_ERROR => "Unknown Internal Error"
  | .NOT_VALID_PARAM => "Not valid Params"
  | .NOT_SUPPORTED_OPERATION => "Operation not supported"
  | .NOT_LOGIN => "Not Login"

/-- What the two endpoints put into an answer: the new house, or a status. -/
inductive ApiData
  | house (dto : HouseDTO)
  | status (s : ApiStatus)
  deriving DecidableEq

/-- An answer that carries data. -/
structure DataResponse extends ApiResponse where
  data : Option ApiData
  deriving DecidableEq

namespace DataResponse

/-- mirrors soufang/src/main/java/com/wf/base/ApiResponse.java:55-64 -/
def ofMessage (code : Int) (message : Option String) : DataResponse := ⟨⟨code, message⟩, none⟩

def ofSuccess (data : Option ApiData) : DataResponse :=
  ⟨⟨ApiStatus.SUCCESS.code, some ApiStatus.SUCCESS.standardMessage⟩, data⟩

def ofStatus (status : ApiStatus) : DataResponse := ⟨⟨status.code, some status.standardMessage⟩, none⟩

end DataResponse

namespace AdminController

/-- mirrors soufang/src/main/java/com/wf/web/controller/admin/AdminController.java:145-168 -/
def addHouse (cdnPrefix : String) (faults : Faults) (user : Long) (now : Date) (f : HouseForm) (db : Db) :
    Db × Except Exn DataResponse :=
  match f.violations with
  | (_, message) :: _ => (db, .ok (.ofMessage 400 (some message)))
  | [] =>
    if f.photos = none ∨ f.cover = none then (db, .ok (.ofMessage 400 (some "必须上传图片")))
    else
      match AddressService.findCityAndRegion db f.cityEnName f.regionEnName with
      | .error e => (db, .error e)
      | .ok addressMap =>
        if addressMap.length ≠ 2 then (db, .ok (.ofStatus .NOT_VALID_PARAM))
        else
          match HouseService.save cdnPrefix faults user now f db with
          | (db', .error e) => (db', .error e)
          | (db', .ok result) =>
            (db', .ok (.ofSuccess (if result.success then result.result.map .house
              else some (.status .NOT_VALID_PARAM))))

/-- mirrors soufang/src/main/java/com/wf/web/controller/admin/AdminController.java:229-246 -/
def saveHouse (cdnPrefix : String) (now : Date) (f : HouseForm) (db : Db) : Db × Except Exn DataResponse :=
  match f.violations with
  | (_, message) :: _ => (db, .ok (.ofMessage 400 (some message)))
  | [] =>
    match AddressService.findCityAndRegion db f.cityEnName f.regionEnName with
    | .error e => (db, .error e)
    | .ok addressMap =>
      if addressMap.length ≠ 2 then (db, .ok (.ofSuccess (some (.status .NOT_VALID_PARAM))))
      else
        match HouseService.update cdnPrefix now f db with
        | (db', .error e) => (db', .error e)
        | (db', .ok result) =>
          (db', .ok (if result.success then .ofSuccess none
            else .ofMessage ApiStatus.BAD_REQUEST.code result.message))

end AdminController

/-! ## What the check is for -/

namespace AddressService

def IsCity (db : Db) (city : String) (a : SupportAddress) : Prop :=
  a ∈ db.supportAddress ∧ a.enName = city ∧ a.level = Level.CITY.value

def IsRegion (db : Db) (city region : String) (a : SupportAddress) : Prop :=
  a ∈ db.supportAddress ∧ a.enName = region ∧ a.belongTo = city ∧ a.level = Level.REGION.value

/-- There is such a city, and it has such a region. -/
def ValidPair (db : Db) (city region : String) : Prop :=
  (∃ a, IsCity db city a) ∧ ∃ a, IsRegion db city region a

/-- The map holds the city and, if the pair is valid, the region. -/
structure MapExact (db : Db) (city region : String) (m : List (Level × SupportAddress)) : Prop where
  hasCity : (∃ a, (Level.CITY, a) ∈ m) ↔ ∃ a, IsCity db city a
  hasRegion : (∃ a, (Level.REGION, a) ∈ m) ↔ ValidPair db city region
  cityRow : ∀ a, (Level.CITY, a) ∈ m → IsCity db city a
  regionRow : ∀ a, (Level.REGION, a) ∈ m → IsRegion db city region a

/-- The lookup answers, exactly, and the endpoints refuse the form for its
address exactly when the pair is not valid. -/
structure Validates (db : Db) (city region : String) : Prop where
  map : ∃ m, findCityAndRegion db city region = .ok m ∧ MapExact db city region m
  add : ∀ cdnPrefix faults user now (f : HouseForm), f.cityEnName = city → f.regionEnName = region →
    f.violations = [] → f.photos ≠ none → f.cover ≠ none →
    ((AdminController.addHouse cdnPrefix faults user now f db).2 = .ok (.ofStatus .NOT_VALID_PARAM) ↔
      ¬ ValidPair db city region)
  edit : ∀ cdnPrefix now (f : HouseForm), f.cityEnName = city → f.regionEnName = region →
    f.violations = [] →
    ((AdminController.saveHouse cdnPrefix now f db).2 = .ok (.ofSuccess (some (.status .NOT_VALID_PARAM))) ↔
      ¬ ValidPair db city region)

/-- One row is a city of the name, one row has the name of the region and
belongs to it, and that row is a region. -/
def Resolves (db : Db) (city region : String) : Prop :=
  ∃ c r, (db.supportAddress.filter fun a => a.enName = city ∧ a.level = Level.CITY.value) = [c] ∧
    (db.supportAddress.filter fun a => a.enName = region ∧ a.belongTo = city) = [r] ∧
    r.level = Level.REGION.value

/-- The unique key of `support_address`. -/
def UniqueAddresses (db : Db) : Prop :=
  (db.supportAddress.map fun a => (a.enName, a.level, a.belongTo)).Nodup

instance (db : Db) : Decidable (UniqueAddresses db) := by unfold UniqueAddresses; infer_instance

section
variable {db : Db} {city region : String}

theorem findByEnNameAndLevel_some {enName level : String} {a : SupportAddress} :
    db.findByEnNameAndLevel enName level = .ok (some a) ↔
      (db.supportAddress.filter fun a => a.enName = enName ∧ a.level = level) = [a] := by
  unfold Db.findByEnNameAndLevel
  split
  · rename_i h
    rw [h]
    simp
  · rename_i b h
    rw [h]
    simp
  · rename_i _ h
    simp only [reduceCtorEq, false_iff]
    exact h a

theorem findByEnNameAndBelongTo_some {enName belongTo : String} {a : SupportAddress} :
    db.findByEnNameAndBelongTo enName belongTo = .ok (some a) ↔
      (db.supportAddress.filter fun a => a.enName = enName ∧ a.belongTo = belongTo) = [a] := by
  unfold Db.findByEnNameAndBelongTo
  split
  · rename_i h
    rw [h]
    simp
  · rename_i b h
    rw [h]
    simp
  · rename_i _ h
    simp only [reduceCtorEq, false_iff]
    exact h a

/-- The lookup answers iff both queries find exactly one row, and then the
map holds these two. -/
theorem findCityAndRegion_ok {m : List (Level × SupportAddress)} :
    findCityAndRegion db city region = .ok m ↔
      ∃ c r, (db.supportAddress.filter fun a => a.enName = city ∧ a.level = Level.CITY.value) = [c] ∧
        (db.supportAddress.filter fun a => a.enName = region ∧ a.belongTo = city) = [r] ∧
        m = [(.CITY, c), (.REGION, r)] := by
  have hname : ∀ c, (db.supportAddress.filter fun a => a.enName = city ∧ a.level = Level.CITY.value) = [c] →
      c.enName = city := by
    intro c hc
    have hm : c ∈ db.supportAddress.filter fun a => a.enName = city ∧ a.level = Level.CITY.value := by
      rw [hc]; exact List.mem_singleton_self c
    have hp := of_decide_eq_true (List.mem_filter.mp hm).2
    exact hp.1
  unfold findCityAndRegion
  constructor
  · intro h
    cases hc : db.findByEnNameAndLevel city Level.CITY.value with
    | error e => simp [hc] at h
    | ok o =>
      cases o with
      | none => simp [hc] at h
      | some c =>
        have hc' := findByEnNameAndLevel_some.mp hc
        simp only [hc, hname c hc'] at h
        cases hr : db.findByEnNameAndBelongTo region city with
        | error e => simp [hr] at h
        | ok o =>
          cases o with
          | none => simp [hr] at h
          | some r =>
            simp only [hr, Except.ok.injEq] at h
            exact ⟨c, r, hc', findByEnNameAndBelongTo_some.mp hr, h.symm⟩
  · intro ⟨c, r, hc, hr, hm⟩
    simp only [findByEnNameAndLevel_some.mpr hc, hname c hc, findByEnNameAndBelongTo_some.mpr hr, hm]

theorem isCity_iff {c : SupportAddress}
    (hc : (db.supportAddress.filter fun a => a.enName = city ∧ a.level = Level.CITY.value) = [c])
    (a : SupportAddress) : IsCity db city a ↔ a = c := by
  rw [← List.mem_singleton, ← hc, List.mem_filter]
  simp [IsCity]

theorem isRegion_iff {r : SupportAddress}
    (hr : (db.supportAddress.filter fun a => a.enName = region ∧ a.belongTo = city) = [r])
    (a : SupportAddress) : IsRegion db city region a ↔ a = r ∧ r.level = Level.REGION.value := by
  have hm : a ∈ db.supportAddress ∧ a.enName = region ∧ a.belongTo = city ↔ a = r := by
    rw [show a = r ↔ a ∈ [r] from List.mem_singleton.symm, ← hr, List.mem_filter]
    simp
  unfold IsRegion
  rw [← hm]
  constructor
  · intro ⟨ha, hn, hb, hl⟩
    have har := hm.mp ⟨ha, hn, hb⟩
    exact ⟨⟨ha, hn, hb⟩, har ▸ hl⟩
  · intro ⟨h, hl⟩
    have har := hm.mp h
    exact ⟨h.1, h.2.1, h.2.2, har ▸ hl⟩

theorem Resolves.validPair (h : Resolves db city region) : ValidPair db city region := by
  obtain ⟨c, r, hc, hr, hl⟩ := h
  exact ⟨⟨c, (isCity_iff hc c).mpr rfl⟩, ⟨r, (isRegion_iff hr r).mpr ⟨rfl, hl⟩⟩⟩

theorem mapExact_iff {m : List (Level × SupportAddress)} (hm : findCityAndRegion db city region = .ok m) :
    MapExact db city region m ↔ Resolves db city region := by
  obtain ⟨c, r, hc, hr, rfl⟩ := findCityAndRegion_ok.mp hm
  constructor
  · intro h
    have hreg := h.regionRow r (by simp)
    exact ⟨c, r, hc, hr, ((isRegion_iff hr r).mp hreg).2⟩
  · intro h
    have hv := h.validPair
    obtain ⟨_, r', _, hr', hl⟩ := h
    rw [hr, List.cons.injEq] at hr'
    obtain ⟨rfl, -⟩ := hr'
    refine ⟨?_, ?_, ?_, ?_⟩
    · exact iff_of_true ⟨c, by simp⟩ hv.1
    · exact iff_of_true ⟨r, by simp⟩ hv
    · intro a ha
      simpa [isCity_iff hc] using ha
    · intro a ha
      simpa [isRegion_iff hr, hl] using ha

/-- A map that answers has both keys, so neither endpoint refuses the pair. -/
theorem length_of_ok {m : List (Level × SupportAddress)} (hm : findCityAndRegion db city region = .ok m) :
    m.length = 2 := by
  obtain ⟨c, r, -, -, rfl⟩ := findCityAndRegion_ok.mp hm
  rfl

theorem addHouse_not_refused {m : List (Level × SupportAddress)} {f : HouseForm}
    (hm : findCityAndRegion db f.cityEnName f.regionEnName = .ok m) (hv : f.violations = [])
    (hp : f.photos ≠ none) (hc : f.cover ≠ none) (cdnPrefix : String) (faults : Faults) (user : Long)
    (now : Date) :
    (AdminController.addHouse cdnPrefix faults user now f db).2 ≠ .ok (.ofStatus .NOT_VALID_PARAM) := by
  unfold AdminController.addHouse
  simp only [hv, hp, hc, or_self, if_false, hm, length_of_ok hm, ne_eq, not_true_eq_false]
  split
  · simp
  · simp [DataResponse.ofSuccess, DataResponse.ofStatus, ApiStatus.code]

theorem saveHouse_not_refused {m : List (Level × SupportAddress)} {f : HouseForm}
    (hm : findCityAndRegion db f.cityEnName f.regionEnName = .ok m) (hv : f.violations = [])
    (cdnPrefix : String) (now : Date) :
    (AdminController.saveHouse cdnPrefix now f db).2 ≠
      .ok (.ofSuccess (some (.status .NOT_VALID_PARAM))) := by
  unfold AdminController.saveHouse
  simp only [hv, hm, length_of_ok hm, ne_eq, not_true_eq_false, if_false]
  split
  · simp
  · split <;> simp [DataResponse.ofSuccess, DataResponse.ofMessage]

end

/-- **The address check.** It does what it is for exactly on the pairs that
resolve: on every other pair the lookup throws, or takes a row that is no
region. -/
theorem validation_iff (db : Db) (city region : String) :
    Validates db city region ↔ Resolves db city region := by
  constructor
  · intro h
    obtain ⟨m, hm, he⟩ := h.map
    exact (mapExact_iff hm).mp he
  · intro h
    have hv := h.validPair
    obtain ⟨c, r, hc, hr, hl⟩ := h
    have hm := findCityAndRegion_ok.mpr ⟨c, r, hc, hr, rfl⟩
    refine ⟨⟨_, hm, (mapExact_iff hm).mpr ⟨c, r, hc, hr, hl⟩⟩, ?_, ?_⟩
    · intro cdnPrefix faults user now f hcity hregion hviol hphotos hcover
      subst hcity; subst hregion
      exact iff_of_false (addHouse_not_refused hm hviol hphotos hcover cdnPrefix faults user now)
        (not_not_intro hv)
    · intro cdnPrefix now f hcity hregion hviol
      subst hcity; subst hregion
      exact iff_of_false (saveHouse_not_refused hm hviol cdnPrefix now) (not_not_intro hv)

/-- **A missing city.** With one city and one region, asking for another city
ends in a null pointer exception instead of a refusal. -/
theorem missing_city :
    ¬ ∀ (db : Db) (city region : String), UniqueAddresses db → Validates db city region := by
  intro hall
  have h := hall (.empty [] [] [⟨1, "bj", "bj", "北京", "city"⟩, ⟨2, "bj", "hdq", "海淀区", "region"⟩])
    "sh" "hdq" (by decide +kernel)
  obtain ⟨m, hm, -⟩ := h.map
  have hthrow : findCityAndRegion (.empty [] []
      [⟨1, "bj", "bj", "北京", "city"⟩, ⟨2, "bj", "hdq", "海淀区", "region"⟩]) "sh" "hdq" =
      .error .nullPointer := by rfl
  rw [hthrow] at hm
  cases hm

end AddressService

end Soufang
