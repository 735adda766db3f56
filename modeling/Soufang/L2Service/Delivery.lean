import Soufang.L2Service.HouseService

/-!
# Sending a message can fail

`index` and `remove` encode the message and hand it to the Kafka template.
`SearchService.send` is the case that all goes well; here the message may also
get lost after `send` returned (its future is not inspected), `send` may throw,
or the encoding may fail, which is only logged.

Every method that sends does so as its last action, so a message that is not
delivered makes no other difference to the stores: `deliver` takes the queue
without the messages of the call.

`updateStatusIn` is `updateStatus` with its transaction: an exception of the
body rolls the update back, and the commit after the body may fail.
-/
namespace Soufang

inductive Sending
  | delivered
  | lost
  | threw
  | notEncoded
  deriving DecidableEq

/-- The state `s` after a call, if its messages came through; `queue` is the
topic without them.
mirrors soufang/src/main/java/com/wf/service/search/SearchService.java:196-207,474-485 -/
def Sending.deliver (o : Sending) (queue : List HouseIndexMessage) (s : Sys) : Sys :=
  match o with
  | .delivered => s
  | .lost | .threw | .notEncoded => { s with queue := queue }

/-- The messages a call added to those it found. -/
def Sys.added (s : Sys) (before : List HouseIndexMessage) : List HouseIndexMessage :=
  s.queue.drop before.length

namespace SearchService

/-- mirrors soufang/src/main/java/com/wf/service/search/SearchService.java:192-195,210-212 -/
def notify (op : Operation) (houseId : Long) (s : Sys) : Sys :=
  match op with
  | .index => index houseId s
  | .remove => remove houseId s

end SearchService

namespace HouseService

/-- The body and its transaction; second component `none`: an exception
reaches the caller. The update is visible after the commit only.
mirrors soufang/src/main/java/com/wf/service/house/HouseService.java:290-319 -/
def updateStatusIn (o : Sending) (commit : Bool) (id : Long) (status : Int) (s : Sys) :
    Sys × Option (ServiceResult Unit) :=
  match s.db.house.find? id with
  | none => (s, if commit then some .notFound else none)
  | some house =>
    match statusRefusal house status with
    | some message => (s, if commit then some (.fail message) else none)
    | none =>
      let sent := o.deliver s.queue (notifySearch id status s)
      if o = .threw then (sent, none)
      else if commit then ({ sent with db := setStatus id status s.db }, some .ok)
      else (sent, none)

/-- With no failure this is `updateStatus`. -/
theorem updateStatusIn_ok (id : Long) (status : Int) (s : Sys) :
    updateStatusIn .delivered true id status s =
      ((updateStatus id status s).1, some (updateStatus id status s).2) := by
  unfold updateStatusIn updateStatus
  cases s.db.house.find? id with
  | none => rfl
  | some house =>
    dsimp only
    cases statusRefusal house status with
    | some message => rfl
    | none =>
      by_cases hs : status = HouseStatus.PASSES.value
      · simp [Sending.deliver, notifySearch, hs, SearchService.index, SearchService.send, MAX_RETRY]
      · simp [Sending.deliver, notifySearch, hs, SearchService.remove, SearchService.send, MAX_RETRY]

end HouseService

end Soufang
