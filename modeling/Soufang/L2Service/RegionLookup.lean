import Soufang.L2Service.AddressService
import Soufang.L2Service.HandlerSpec

/-!
# The region of a form and the region of the index

A form is accepted for the rows `findCityAndRegion` finds: the region by its
name and its city. The indexer looks the same two names up again to geocode
the address of the house, and asks for the region by its name and its level.
Neither pair of columns is the key of the table.

* `SameRows`: for every house with these names the indexer finds the two rows
  the form was accepted for, and its document is located at their address.
* `sameRows_of_owned`, `owned_of_sameRows`: that is so exactly when the city
  owns the region alone.
-/
namespace Soufang

namespace AddressService

/-- The row with the region's name and the city as its parent is a region, and
no other city has a region of that name. -/
structure OwnsAlone (db : Db) (city region : String) : Prop where
  isRegion : ∀ a ∈ db.supportAddress, a.enName = region → a.belongTo = city → a.level = Level.REGION.value
  alone : ∀ a ∈ db.supportAddress, a.enName = region → a.level = Level.REGION.value → a.belongTo = city

/-- The indexer finds the rows `c` and `r` for every house with these names,
and geocodes their address. -/
structure SameRows (db : Db) (city region : String) (c r : SupportAddress) : Prop where
  lookup : ∀ house : House, house.cityEnName = city → house.regionEnName = region →
    db.findByEnNameAndLevel house.cityEnName Level.CITY.value = .ok (some c) ∧
      db.findByEnNameAndLevel house.regionEnName Level.REGION.value = .ok (some r) ∧
      SearchService.addressOf db house = some (c, r)
  geocoded : ∀ (env : Env) (h : Long) (house : House) (detail : HouseDetail), house.cityEnName = city →
    house.regionEnName = region → db.house.find? h = some house → db.findDetailByHouseId h = some detail →
    ∃ t, SearchService.currentTemplate env db h = some t ∧ t.location = some (env.geocode c.cnName
      (c.cnName ++ r.cnName ++ house.street ++ house.district ++ detail.detailAddress))

section
variable {db : Db} {city region : String} {c r : SupportAddress}

/-- Where both lookups of the form answer, the region's row by name and level
is the one by name and parent iff the city owns it alone. -/
theorem ownsAlone_iff (hr : (db.supportAddress.filter fun a => a.enName = region ∧ a.belongTo = city) = [r]) :
    OwnsAlone db city region ↔
      (db.supportAddress.filter fun a => a.enName = region ∧ a.level = Level.REGION.value) = [r] := by
  have hmem : ∀ a, a ∈ db.supportAddress ∧ a.enName = region ∧ a.belongTo = city ↔ a = r := by
    intro a
    rw [show a = r ↔ a ∈ [r] from List.mem_singleton.symm, ← hr, List.mem_filter]
    simp
  constructor
  · intro h
    rw [← hr]
    apply List.filter_congr
    intro a ha
    by_cases hn : a.enName = region
    · have hiff : a.level = Level.REGION.value ↔ a.belongTo = city := ⟨h.alone a ha hn, h.isRegion a ha hn⟩
      simp [hn, hiff]
    · simp [hn]
  · intro h
    have hlevel : ∀ a, a ∈ db.supportAddress ∧ a.enName = region ∧ a.level = Level.REGION.value ↔ a = r := by
      intro a
      rw [show a = r ↔ a ∈ [r] from List.mem_singleton.symm, ← h, List.mem_filter]
      simp
    constructor
    · intro a ha hn hb
      exact ((hlevel a).mpr ((hmem a).mp ⟨ha, hn, hb⟩)).2.2
    · intro a ha hn hl
      exact ((hmem a).mpr ((hlevel a).mp ⟨ha, hn, hl⟩)).2.2

theorem addressOf_some {house : House} :
    SearchService.addressOf db house = some (c, r) ↔
      db.findByEnNameAndLevel house.cityEnName Level.CITY.value = .ok (some c) ∧
        db.findByEnNameAndLevel house.regionEnName Level.REGION.value = .ok (some r) := by
  unfold SearchService.addressOf
  constructor
  · intro h
    split at h
    · rename_i hc hr
      simp only [Option.some.injEq, Prod.mk.injEq] at h
      rw [hc, hr, h.1, h.2]
      exact ⟨rfl, rfl⟩
    · cases h
  · intro h
    rw [h.1, h.2]

theorem sameRows_of_owned
    (hc : (db.supportAddress.filter fun a => a.enName = city ∧ a.level = Level.CITY.value) = [c])
    (hr : (db.supportAddress.filter fun a => a.enName = region ∧ a.belongTo = city) = [r])
    (h : OwnsAlone db city region) : SameRows db city region c r := by
  have hcity := findByEnNameAndLevel_some.mpr hc
  have hregion := findByEnNameAndLevel_some.mpr ((ownsAlone_iff hr).mp h)
  have hlookup : ∀ house : House, house.cityEnName = city → house.regionEnName = region →
      SearchService.addressOf db house = some (c, r) := by
    intro house hn hn'
    rw [addressOf_some, hn, hn']
    exact ⟨hcity, hregion⟩
  constructor
  · intro house hn hn'
    exact ⟨hn ▸ hcity, hn' ▸ hregion, hlookup house hn hn'⟩
  · intro env h house detail hn hn' hh hd
    simp only [SearchService.currentTemplate, hh, hd, hlookup house hn hn']
    exact ⟨_, rfl, rfl⟩

/-- A house with the two names; the other columns do not matter. -/
def houseAt (city region : String) : House where
  id := 1
  title := ""
  adminId := 1
  price := 1
  area := 1
  room := 1
  parlour := 0
  bathroom := 0
  floor := 1
  totalFloor := 1
  watchTimes := 0
  buildYear := 2000
  status := 0
  createTime := 0
  lastUpdateTime := 0
  cityEnName := city
  regionEnName := region
  street := ""
  district := ""
  direction := 0
  cover := none
  distanceToSubway := -1

theorem owned_of_sameRows
    (hr : (db.supportAddress.filter fun a => a.enName = region ∧ a.belongTo = city) = [r])
    (h : SameRows db city region c r) : OwnsAlone db city region := by
  obtain ⟨-, hregion, -⟩ := h.lookup (houseAt city region) rfl rfl
  exact (ownsAlone_iff hr).mpr (findByEnNameAndLevel_some.mp hregion)

end

/-- **One region for the form and the index.** Where the form is accepted for
the rows `c` and `r`, the indexer finds the same two exactly when the city
owns the region alone. -/
theorem same_region_iff {db : Db} {city region : String} {m : List (Level × SupportAddress)}
    {c r : SupportAddress} (hm : findCityAndRegion db city region = .ok m) (hc : (Level.CITY, c) ∈ m)
    (hr : (Level.REGION, r) ∈ m) : SameRows db city region c r ↔ OwnsAlone db city region := by
  obtain ⟨c', r', hc', hr', rfl⟩ := findCityAndRegion_ok.mp hm
  have hce : c = c' := by simpa using hc
  have hre : r = r' := by simpa using hr
  subst hce hre
  exact ⟨owned_of_sameRows hr', sameRows_of_owned hc' hr'⟩

namespace Towns

def bj : SupportAddress := ⟨1, "bj", "bj", "北京", "city"⟩
def bjHdq : SupportAddress := ⟨2, "bj", "hdq", "海淀区", "region"⟩
def nj : SupportAddress := ⟨3, "nj", "nj", "南京", "city"⟩
def njHdq : SupportAddress := ⟨4, "nj", "hdq", "花地区", "region"⟩

end Towns

open Towns in
theorem same_region_of_one_city : SameRows (.empty [] [] [bj, bjHdq]) "bj" "hdq" bj bjHdq :=
  (same_region_iff (m := [(.CITY, bj), (.REGION, bjHdq)]) rfl (by simp) (by simp)).mpr
    ⟨by decide +kernel, by decide +kernel⟩

open Towns in
/-- **Two cities with one abbreviation.** The form is accepted for the region
of bj, and the lookup of the indexer throws. -/
theorem shared_abbreviation :
    ¬ ∀ (db : Db) (city region : String) (m : List (Level × SupportAddress)) (c r : SupportAddress),
      UniqueAddresses db → findCityAndRegion db city region = .ok m → (Level.CITY, c) ∈ m →
        (Level.REGION, r) ∈ m → SameRows db city region c r := by
  intro hall
  have h := hall (.empty [] [] [bj, bjHdq, nj, njHdq]) "bj" "hdq" [(.CITY, bj), (.REGION, bjHdq)] bj bjHdq
    (by decide +kernel) rfl (by simp) (by simp)
  obtain ⟨-, hregion, -⟩ := h.lookup (houseAt "bj" "hdq") rfl rfl
  have hthrow : (Db.empty [] [] [bj, bjHdq, nj, njHdq]).findByEnNameAndLevel "hdq" "region" =
      .error .incorrectResultSize := by rfl
  rw [show (houseAt "bj" "hdq").regionEnName = "hdq" from rfl, Level.value, hthrow] at hregion
  cases hregion

end AddressService

end Soufang
