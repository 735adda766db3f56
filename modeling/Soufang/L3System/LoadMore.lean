import Soufang.L2Service.AddressService
import Soufang.L3System.PageWindow

/-!
# The load-more flag

`UserController.subscribeList` tells the client whether there are more
reservations than it has been given. The page comes from `start / size`, the
flag from `start + size`, a 32-bit sum.

* `more_iff`: the flag is right, in that it is set exactly when a reservation
  follows the last one returned, if and only if the request is `MoreExact`.
* `moreExact_aligned`: so it is for a client that starts at 0 and adds the
  size, while the sum fits.
-/
namespace Soufang

open HouseService

/-- A Java `int` sum. -/
def wrapInt32 (n : Int) : Int := (n + 2147483648) % 4294967296 - 2147483648

/-- mirrors soufang/src/main/java/com/wf/base/HouseSubscribeStatus.java:24-31 -/
def HouseSubscribeStatus.of (value : Int) : HouseSubscribeStatus :=
  if value = 1 then .IN_ORDER_LIST else if value = 2 then .IN_ORDER_TIME
  else if value = 3 then .FINISH else .NO_SUBSCRIBE

/-- An answer with one page of a list. -/
structure ListResponse extends ApiResponse where
  data : List (HouseDTO × HouseSubscribe)
  more : Bool

/-- mirrors soufang/src/main/java/com/wf/base/ApiResponse.java:59-61 -/
def ListResponse.ofSuccess (data : List (HouseDTO × HouseSubscribe)) : ListResponse :=
  ⟨⟨ApiStatus.SUCCESS.code, some ApiStatus.SUCCESS.standardMessage⟩, data, false⟩

/-- mirrors soufang/src/main/java/com/wf/web/controller/user/UserController.java:66-80 -/
def UserController.subscribeList (eng : SubscribeEngine) (userId : Long) (start size status : Int) (b : Bookings) :
    Except Exn ListResponse :=
  match querySubscribeList eng userId (.of status) start size b with
  | .error e => .error e
  | .ok result =>
    if result.result.length = 0 then .ok (.ofSuccess result.result)
    else .ok { ListResponse.ofSuccess result.result with
      more := decide ((result.total : Int) > wrapInt32 (start + size)) }

/-! ## The flag -/

/-- All reservations of the user with this status, as the store orders them. -/
def matchingSubscribes (eng : SubscribeEngine) (userId : Long) (status : HouseSubscribeStatus) (b : Bookings) :
    List HouseSubscribe :=
  eng.rows.arrange (findAllByUserIdAndStatus b.subscribe userId status.value)

/-- The flag is set iff rows were returned and another one follows them. -/
def MoreRight (list : List HouseSubscribe) (r : ListResponse) : Prop :=
  r.more = true ↔ r.data ≠ [] ∧ ∃ before rest, rest ≠ [] ∧ list = before ++ r.data.map Prod.snd ++ rest

/-- The page is empty; or the sum fits and no row lies between the end of the
page and the sum; or the sum wraps and a row follows the page. -/
def MoreExact (total : Nat) (start size : Int) : Prop :=
  let first := start.tdiv size * size
  (total : Int) ≤ first ∨
    if start + size < 2147483648 then (total : Int) ≤ first + size ∨ start + size < total
    else first + size < total

/-- A start that is a multiple of the size, and a sum that fits. -/
theorem moreExact_aligned (total : Nat) {start size : Int} (h0 : 0 ≤ start) (hs : start % size = 0)
    (hfit : start + size < 2147483648) : MoreExact total start size := by
  have hfirst : start.tdiv size * size = start := by
    rw [Int.tdiv_eq_ediv_of_nonneg h0, Int.ediv_mul_cancel (Int.dvd_of_emod_eq_zero hs)]
  simp only [MoreExact, hfirst, if_pos hfit]
  omega

theorem wrapInt32_fits {n : Int} (h0 : 0 ≤ n) (h : n < 2147483648) : wrapInt32 n = n := by
  unfold wrapInt32
  omega

theorem wrapInt32_wraps {n : Int} (h : 2147483648 ≤ n) (h1 : n < 4294967296) : wrapInt32 n < 0 := by
  unfold wrapInt32
  omega

theorem matchingSubscribes_nodup (eng : SubscribeEngine) (userId : Long) (status : HouseSubscribeStatus)
    (b : Bookings) : (matchingSubscribes eng userId status b).Nodup := by
  refine (eng.rows.perm _).nodup_iff.mpr ?_
  exact (List.Nodup.of_map _ b.subscribe.keys).sublist List.filter_sublist

/-- What the endpoint answers: a page of the list and the flag. -/
theorem subscribeList_ok {eng : SubscribeEngine} {userId : Long} {start size status : Int} {b : Bookings}
    {r : ListResponse} (h : UserController.subscribeList eng userId start size status b = .ok r) :
    r.data.map Prod.snd = window ((start.tdiv size).toNat * size.toNat) size.toNat
        (matchingSubscribes eng userId (.of status) b) ∧
      (r.more = true ↔ r.data ≠ [] ∧
        wrapInt32 (start + size) < (matchingSubscribes eng userId (.of status) b).length) := by
  unfold UserController.subscribeList at h
  rcases querySubscribeList_answers eng userId (.of status) start size b with
    ⟨-, result, hok, hmap⟩ | ⟨-, e, herr⟩
  · simp only [hok] at h
    have hlen : (matchingSubscribes eng userId (.of status) b).length = (findAllByUserIdAndStatus b.subscribe userId
        (HouseSubscribeStatus.of status).value).length := Arrangement.length_arrange ..
    split at h
    · rename_i hzero
      simp only [Except.ok.injEq] at h
      subst h
      exact ⟨hmap, by simp [ListResponse.ofSuccess, List.length_eq_zero_iff.mp hzero]⟩
    · rename_i hzero
      simp only [Except.ok.injEq] at h
      subst h
      refine ⟨hmap, ?_⟩
      rw [hlen]
      simpa [ListResponse.ofSuccess] using fun _ => hzero
  · simp [herr] at h

/-- **The load-more flag.** With Java arithmetic, for every start and size and
every list, the flag of an answer is right exactly when the request is
`MoreExact`. -/
theorem more_iff (eng : SubscribeEngine) (userId : Long) {start size : Int} (status : Int) (b : Bookings)
    {r : ListResponse} (h0 : 0 ≤ start) (h0' : start < 2147483648) (h1 : 1 ≤ size) (h1' : size < 2147483648)
    (hr : UserController.subscribeList eng userId start size status b = .ok r) :
    MoreRight (matchingSubscribes eng userId (.of status) b) r ↔
      MoreExact (matchingSubscribes eng userId (.of status) b).length start size := by
  obtain ⟨hdata, hmore⟩ := subscribeList_ok hr
  have hn := matchingSubscribes_nodup eng userId (.of status) b
  generalize matchingSubscribes eng userId (.of status) b = list at hdata hmore hn ⊢
  have hdiv : 0 ≤ start.tdiv size := Int.tdiv_nonneg h0 (by omega)
  have hfirst : ((((start.tdiv size).toNat * size.toNat : Nat) : Int)) = start.tdiv size * size := by
    rw [Nat.cast_mul, Int.toNat_of_nonneg hdiv, Int.toNat_of_nonneg (by omega)]
  have hle : start.tdiv size * size ≤ start := by
    rw [Int.tdiv_eq_ediv_of_nonneg h0]
    exact Int.ediv_mul_le start (by omega)
  unfold MoreRight MoreExact
  rw [hmore, hdata]
  have hempty : r.data = [] ↔ (list.length : Int) ≤ start.tdiv size * size := by
    rw [← List.map_eq_nil_iff (f := Prod.snd), hdata, window_eq_nil (by omega), ← hfirst]
    omega
  by_cases hnil : r.data = []
  · simp [hnil, hempty.mp hnil]
  · have hne : window ((start.tdiv size).toNat * size.toNat) size.toNat list ≠ [] := by
      rw [← hdata, ne_eq, List.map_eq_nil_iff]
      exact hnil
    have hpage := mt hempty.mpr hnil
    have hrest : (start.tdiv size).toNat * size.toNat + size.toNat < list.length ↔
        start.tdiv size * size + size < list.length := by
      rw [← hfirst]
      omega
    rw [Paging.window_followed_iff hn hne, hrest]
    simp only [hnil, hpage, ne_eq, not_false_eq_true, true_and, false_or]
    by_cases hfit : start + size < 2147483648
    · rw [if_pos hfit, wrapInt32_fits (by omega) hfit]
      omega
    · have hwrap := wrapInt32_wraps (show 2147483648 ≤ start + size by omega) (by omega)
      rw [if_neg hfit]
      omega

/-- User 7 has put the house of the sample on the list. -/
def Sample.booked : Bookings := (addSubscribeOrder 7 0 1 ⟨Sample.stored, .empty⟩).1

theorem subscribeList_booked (start size : Int)
    (h : (UserController.subscribeList Sample.listEngine 7 start size 1 Sample.booked).toOption.isSome = true) :
    ∃ r, UserController.subscribeList Sample.listEngine 7 start size 1 Sample.booked = .ok r := by
  cases hr : UserController.subscribeList Sample.listEngine 7 start size 1 Sample.booked with
  | error e => simp [hr, Except.toOption] at h
  | ok r => exact ⟨r, rfl⟩

/-- The first page of three. -/
theorem more_booked : ∃ r, UserController.subscribeList Sample.listEngine 7 0 3 1 Sample.booked = .ok r ∧
    MoreRight (matchingSubscribes Sample.listEngine 7 (.of 1) Sample.booked) r := by
  obtain ⟨r, hr⟩ := subscribeList_booked 0 3 (by decide +kernel)
  refine ⟨r, hr, ?_⟩
  exact (more_iff Sample.listEngine 7 1 Sample.booked (by decide) (by decide) (by decide) (by decide) hr).mpr
    (moreExact_aligned _ (by decide) (by decide) (by decide))

/-- **A sum that wraps.** One reservation, asked for from 1 on: the page is the
first one and holds it, the sum is negative and the flag is set. -/
theorem more_after_the_last :
    ¬ ∀ (eng : SubscribeEngine) (userId : Long) (start size status : Int) (b : Bookings) (r : ListResponse),
      0 ≤ start → start < 2147483648 → 1 ≤ size → size < 2147483648 →
      UserController.subscribeList eng userId start size status b = .ok r →
      MoreRight (matchingSubscribes eng userId (.of status) b) r := by
  intro hall
  obtain ⟨r, hr⟩ := subscribeList_booked 1 2147483647 (by decide +kernel)
  have h := hall _ _ _ _ _ _ r (by decide) (by decide) (by decide) (by decide) hr
  obtain ⟨hdata, hmore⟩ := subscribeList_ok hr
  have hone : (matchingSubscribes Sample.listEngine 7 (.of 1) Sample.booked).length = 1 := by decide +kernel
  have hset : r.more = true := by
    rw [hmore, ne_eq, ← List.map_eq_nil_iff (f := Prod.snd), hdata, window_eq_nil (by decide), hone]
    decide
  obtain ⟨-, before, rest, hrest, hl⟩ := h.mp hset
  have hlen := congrArg List.length hl
  have hpos := List.length_pos_iff.mpr hrest
  rw [List.length_append, List.length_append, hdata, window_length, hone] at hlen
  have hwindow : min (2147483647 : Int).toNat (1 - ((1 : Int).tdiv 2147483647).toNat * (2147483647 : Int).toNat) = 1 := by
    decide
  omega

end Soufang
