import Soufang.L2Service.Delivery
import Soufang.L3System.System

/-!
# The status and its message, both or neither

`updateStatus` writes the status in a transaction and sends the message that
makes the index follow from within it. `status_message_iff` goes through every
way the two can end: the message may fail without an exception, and the commit
may fail when the message is out.
-/
namespace Soufang

open HouseService SearchService

/-- The message that belongs to a new status. -/
def statusMessage (id : Long) (status : Int) : HouseIndexMessage :=
  ⟨id, if status = HouseStatus.PASSES.value then .index else .remove, 0⟩

/-- The house has the new status, and did not before. -/
def StatusCommitted (id : Long) (status : Int) (s s' : Sys) : Prop :=
  s.db.statusOf id ≠ some status ∧ s'.db.statusOf id = some status

def MessageDelivered (id : Long) (status : Int) (s s' : Sys) : Prop :=
  s'.queue = s.queue ++ [statusMessage id status]

/-- Nothing is to be done, or `send` throws before the commit, or the two
succeed or fail together. -/
def EndTogether (o : Sending) (commit : Bool) (id : Long) (status : Int) (s : Sys) : Prop :=
  ¬ Accepts s.db id status ∨ o = .threw ∨ (o = .delivered ↔ commit = true)

theorem notifySearch_queue (id : Long) (status : Int) (s : Sys) :
    (notifySearch id status s).queue = s.queue ++ [statusMessage id status] := by
  rw [notifySearch_eq]
  simp [send, statusMessage, MAX_RETRY]

theorem notifySearch_db (id : Long) (status : Int) (s : Sys) : (notifySearch id status s).db = s.db := by
  rw [notifySearch_eq, send_db]

theorem updateStatusIn_refused {o : Sending} {commit : Bool} {id : Long} {status : Int} {s : Sys}
    (h : ¬ Accepts s.db id status) : (updateStatusIn o commit id status s).1 = s := by
  unfold updateStatusIn
  cases hf : s.db.house.find? id with
  | none => rfl
  | some house =>
    dsimp only
    cases hr : statusRefusal house status with
    | some message => rfl
    | none => exact absurd ⟨house, hf, hr⟩ h

/-- An accepted call: the message came through iff it was delivered, the
status did iff `send` did not throw and the commit succeeded. -/
theorem updateStatusIn_accepted (o : Sending) (commit : Bool) {id : Long} {status : Int} {s : Sys}
    (h : Accepts s.db id status) :
    (StatusCommitted id status s (updateStatusIn o commit id status s).1 ↔ o ≠ .threw ∧ commit = true) ∧
      (MessageDelivered id status s (updateStatusIn o commit id status s).1 ↔ o = .delivered) := by
  obtain ⟨house, hf, hr⟩ := h
  have hold : s.db.statusOf id ≠ some status := by
    rw [statusOf_find hf]
    exact fun he => (statusRefusal_none hr).1 (Option.some.inj he)
  have hnew : (setStatus id status s.db).statusOf id = some status := by
    rw [statusOf_setStatus, if_pos rfl, statusOf_find hf]
    rfl
  have hsend := notifySearch_queue id status s
  have hdb := notifySearch_db id status s
  have hdeliver : (o.deliver s.queue (notifySearch id status s)).db = s.db := by
    cases o <;> exact hdb
  have hqueue : (o.deliver s.queue (notifySearch id status s)).queue = s.queue ++ [statusMessage id status] ↔
      o = .delivered := by
    cases o <;> simp [Sending.deliver, hsend]
  unfold updateStatusIn StatusCommitted MessageDelivered
  simp only [hf, hr]
  by_cases ho : o = .threw
  · rw [if_pos ho]
    refine ⟨iff_of_false ?_ fun h => h.1 ho, hqueue⟩
    intro hcommitted
    exact hold (hdeliver ▸ hcommitted.2)
  · rw [if_neg ho]
    cases commit with
    | true => exact ⟨iff_of_true ⟨hold, hnew⟩ ⟨ho, rfl⟩, hqueue⟩
    | false =>
      refine ⟨iff_of_false ?_ (by simp), hqueue⟩
      intro hcommitted
      exact hold (hdeliver ▸ hcommitted.2)

/-- **Status and message.** For every database, queue and combination of
outcomes the two come together iff they `EndTogether`. -/
theorem status_message_iff (o : Sending) (commit : Bool) (id : Long) (status : Int) (s : Sys) :
    (StatusCommitted id status s (updateStatusIn o commit id status s).1 ↔
        MessageDelivered id status s (updateStatusIn o commit id status s).1) ↔
      EndTogether o commit id status s := by
  by_cases h : Accepts s.db id status
  · obtain ⟨hc, hm⟩ := updateStatusIn_accepted o commit h
    rw [hc, hm]
    unfold EndTogether
    cases o <;> cases commit <;> simp [h]
  · rw [updateStatusIn_refused h]
    refine iff_of_true (iff_of_false ?_ ?_) (Or.inl h)
    · intro ⟨hn, he⟩
      exact hn he
    · intro he
      simp [MessageDelivered] at he

/-- **A status without its message.** The send of the index message of house 1
fails after it returned. -/
theorem message_lost :
    ¬ ∀ (o : Sending) (commit : Bool) (id : Long) (status : Int) (s : Sys),
      StatusCommitted id status s (updateStatusIn o commit id status s).1 ↔
        MessageDelivered id status s (updateStatusIn o commit id status s).1 := by
  intro hall
  have h := hall .lost true 1 1 Sample.stored
  have hcommitted : StatusCommitted 1 1 Sample.stored (updateStatusIn .lost true 1 1 Sample.stored).1 := by
    unfold StatusCommitted
    decide +kernel
  have hempty : (updateStatusIn .lost true 1 1 Sample.stored).1.queue = [] := by decide +kernel
  have hdelivered := h.mp hcommitted
  rw [MessageDelivered, hempty] at hdelivered
  simp at hdelivered

end Soufang
