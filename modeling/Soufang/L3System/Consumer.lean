import Soufang.L3System.System

/-!
# The consumer and the texts it is sent

Kafka delivers a text. `handleMessage` reads it as JSON, catches an exception
of the reader, and runs the handler of the operation. `readValue` is the JSON
library: it fails, or answers null or a message whose fields may be missing.

The handlers here say which exception they let through as well; their state is
that of the handlers on typed messages (`createOrUpdateIndex_state`,
`removeIndex_state`, `handleMessage_typed`).

`handleMessage_survives_iff` tells the texts that the consumer survives.
-/
namespace Soufang

/-- The fields of a message as the JSON has them; `retry` is a Java `int`.
mirrors soufang/src/main/java/com/wf/service/search/HouseIndexMessage.java:8-12 -/
structure RawIndexMessage where
  houseId : Option Long
  operation : Option String
  retry : Int
  deriving DecidableEq

structure IOException where
  deriving DecidableEq

abbrev ReadValue := String → Except IOException (Option RawIndexMessage)

/-- What a handler lets through: an exception of its own or of a repository,
or one from a call to a service. -/
inductive Thrown
  | exn (e : Exn)
  | service
  deriving DecidableEq

/-- mirrors soufang/src/main/java/com/wf/service/search/HouseIndexMessage.java:4-5 -/
def Operation.value : Operation → String
  | .index => "index"
  | .remove => "remove"

/-- A reader that knows the JSON literal `null` and rejects every other text. -/
def Sample.readNull : ReadValue := fun content => if content = "null" then .ok none else .error {}

namespace Listener

open SearchService

/-- Why `addressOf` has no answer. -/
def addressException (db : Db) (house : House) : Exn :=
  match db.findByEnNameAndLevel house.cityEnName Level.CITY.value,
      db.findByEnNameAndLevel house.regionEnName Level.REGION.value with
  | .error e, _ => e
  | _, .error e => e
  | _, _ => .nullPointer

/-- The repository refuses a null id.
mirrors soufang/src/main/java/com/wf/service/search/SearchService.java:131-190 -/
def createOrUpdateIndex (env : Env) (c : Calls) (message : RawIndexMessage) (s : Sys) : Sys × Option Thrown :=
  match message.houseId with
  | none => (s, some (.exn .illegalArgument))
  | some houseId =>
    match s.db.house.find? houseId with
    | none => (s, none)
    | some house =>
      match s.db.findDetailByHouseId houseId with
      | none => (s, none)
      | some detail =>
        match addressOf s.db house with
        | none => (s, some (.exn (addressException s.db house)))
        | some (city, region) =>
          match c.geocode with
          | .threw => (s, some .service)
          | .failed => (send .index houseId (nextRetry message.retry) s, none)
          | .ok =>
            let t := template env house detail city region (s.db.findAllTagsByHouseId houseId)
            match writeTemplate env c houseId t s.es with
            | (es, none) => ({ s with es := es }, some .service)
            | (es, some success) =>
              match lbsUpload c (lbsPoint env house detail city region houseId) s.lbs with
              | (lbs, none) => ({ s with es := es, lbs := lbs }, some .service)
              | (lbs, some uploaded) =>
                (if !success || !uploaded then
                  send .index houseId (nextRetry message.retry) { s with es := es, lbs := lbs }
                else { s with es := es, lbs := lbs }, none)

/-- A term query refuses a null value.
mirrors soufang/src/main/java/com/wf/service/search/SearchService.java:113-129 -/
def removeIndex (env : Env) (c : Calls) (message : RawIndexMessage) (s : Sys) : Sys × Option Thrown :=
  match message.houseId with
  | none => (s, some (.exn .illegalArgument))
  | some houseId =>
    match s.es.deleteByQuery env c.delete houseId with
    | (es, none) => ({ s with es := es }, some .service)
    | (es, some deleted) =>
      match removeLbs c.lbsDelete houseId s.lbs with
      | (lbs, none) => ({ s with es := es, lbs := lbs }, some .service)
      | (lbs, some removed) =>
        (if !removed || deleted = 0 then
          send .remove houseId (nextRetry message.retry) { s with es := es, lbs := lbs }
        else { s with es := es, lbs := lbs }, none)

/-- A null message or a null operation makes the `switch` throw.
mirrors soufang/src/main/java/com/wf/service/search/SearchService.java:92-111 -/
def handleMessage (readValue : ReadValue) (env : Env) (c : Calls) (content : String) (s : Sys) :
    Sys × Option Thrown :=
  match readValue content with
  | .error _ => (s, none)
  | .ok none => (s, some (.exn .nullPointer))
  | .ok (some message) =>
    match message.operation with
    | none => (s, some (.exn .nullPointer))
    | some operation =>
      if operation = Operation.index.value then createOrUpdateIndex env c message s
      else if operation = Operation.remove.value then removeIndex env c message s
      else (s, none)

/-! ## The handlers on typed messages -/

section
variable {env : Env} {c : Calls} {s : Sys} {houseId : Long} {operation : Option String} {retry : Int}

theorem createOrUpdateIndex_state : (createOrUpdateIndex env c ⟨some houseId, operation, retry⟩ s).1 =
    SearchService.createOrUpdateIndex env c ⟨houseId, .index, retry⟩ s := by
  unfold createOrUpdateIndex SearchService.createOrUpdateIndex
  dsimp only
  cases s.db.house.find? houseId with
  | none => rfl
  | some house =>
    cases s.db.findDetailByHouseId houseId with
    | none => rfl
    | some detail =>
      dsimp only
      cases addressOf s.db house with
      | none => rfl
      | some address =>
        cases c.geocode with
        | threw => rfl
        | failed => rfl
        | ok =>
          dsimp only
          generalize writeTemplate env c houseId _ s.es = written
          obtain ⟨es, _ | success⟩ := written
          · rfl
          · dsimp only
            generalize lbsUpload c _ s.lbs = uploaded
            obtain ⟨lbs, _ | uploaded⟩ := uploaded <;> rfl

theorem removeIndex_state : (removeIndex env c ⟨some houseId, operation, retry⟩ s).1 =
    SearchService.removeIndex env c ⟨houseId, .remove, retry⟩ s := by
  unfold removeIndex SearchService.removeIndex
  dsimp only
  generalize s.es.deleteByQuery env c.delete houseId = gone
  obtain ⟨es, _ | deleted⟩ := gone
  · rfl
  · dsimp only
    generalize removeLbs c.lbsDelete houseId s.lbs = removed
    obtain ⟨lbs, _ | removed⟩ := removed <;> rfl

/-- The listener on a typed message is the consumer on a text that is read as
this message. -/
theorem handleMessage_typed {readValue : ReadValue} {content : String} {m : HouseIndexMessage}
    (hread : readValue content = .ok (some ⟨some m.houseId, some m.operation.value, m.retry⟩)) :
    SearchService.handleMessage env c { s with queue := m :: s.queue } =
      some (handleMessage readValue env c content s).1 := by
  unfold handleMessage SearchService.handleMessage
  rw [hread]
  obtain ⟨h, op, r⟩ := m
  cases op with
  | index =>
    dsimp only
    rw [if_pos rfl, createOrUpdateIndex_state]
  | remove =>
    dsimp only
    rw [if_neg (by decide), if_pos rfl, removeIndex_state]

end

/-! ## Texts the consumer survives -/

/-- Nothing but the text gives a handler a reason to throw: every call
answers, the documents a search finds are live, and the addresses of the
stored houses resolve. -/
structure Calm (env : Env) (c : Calls) (s : Sys) : Prop where
  answered : Answered c
  lbsDelete : c.lbsDelete ≠ .threw
  live : ∀ d ∈ s.es.visible env, d ∈ s.es.docs.rows
  addresses : ∀ house ∈ s.db.house.rows, addressOf s.db house ≠ none

section
variable {env : Env} {c : Calls} {s : Sys}

theorem writeTemplate_calm (h : Calm env c s) (houseId : Long) (t : HouseIndexTemplate) :
    (writeTemplate env c houseId t s.es).2 ≠ none := by
  rw [writeTemplate, if_pos h.answered.search]
  unfold writeOver
  split
  · exact create_answered h.answered
  · rename_i d hd
    have hmem : d ∈ s.es.hits env houseId := by rw [hd]; exact List.mem_singleton.mpr rfl
    exact update_answered h.answered (h.live d (List.mem_filter.mp hmem).1)
  · unfold deleteAndCreate
    obtain ⟨es1, n, hq⟩ := deleteByQuery_answered env s.es h.answered.delete t.houseId
    rw [hq]
    dsimp only
    split
    · simp
    · exact create_answered h.answered

/-- With a house id the handlers let no exception through. -/
theorem createOrUpdateIndex_calm (h : Calm env c s) (houseId : Long) (operation : Option String) (retry : Int) :
    (createOrUpdateIndex env c ⟨some houseId, operation, retry⟩ s).2 = none := by
  unfold createOrUpdateIndex
  dsimp only
  cases hh : s.db.house.find? houseId with
  | none => rfl
  | some house =>
    cases s.db.findDetailByHouseId houseId with
    | none => rfl
    | some detail =>
      dsimp only
      cases ha : addressOf s.db house with
      | none => exact absurd ha (h.addresses house (Table.find?_some hh).1)
      | some address =>
        cases hg : c.geocode with
        | threw => exact absurd hg h.answered.geocode
        | failed => rfl
        | ok =>
          dsimp only
          have hw := writeTemplate_calm h houseId
            (template env house detail address.1 address.2 (s.db.findAllTagsByHouseId houseId))
          have hl := lbsUpload_answered h.answered (lbsPoint env house detail address.1 address.2 houseId) s.lbs
          cases hw' : writeTemplate env c houseId
              (template env house detail address.1 address.2 (s.db.findAllTagsByHouseId houseId)) s.es with
          | mk es success =>
            cases hl' : lbsUpload c (lbsPoint env house detail address.1 address.2 houseId) s.lbs with
            | mk lbs uploaded =>
              rw [hw'] at hw
              rw [hl'] at hl
              cases success with
              | none => exact absurd rfl hw
              | some success =>
                cases uploaded with
                | none => exact absurd rfl hl
                | some uploaded => rfl

theorem removeIndex_calm (h : Calm env c s) (houseId : Long) (operation : Option String) (retry : Int) :
    (removeIndex env c ⟨some houseId, operation, retry⟩ s).2 = none := by
  unfold removeIndex
  dsimp only
  obtain ⟨es, deleted, hq⟩ := deleteByQuery_answered env s.es h.answered.delete houseId
  rw [hq]
  cases hd : c.lbsDelete with
  | threw => exact absurd hd h.lbsDelete
  | ok => rfl
  | failed => rfl

end

/-- What was read is a message for one of the two handlers, with a house id. -/
def IsTask (d : Except IOException (Option RawIndexMessage)) : Prop :=
  ∃ message houseId, d = .ok (some message) ∧ message.houseId = some houseId ∧
    (message.operation = some Operation.index.value ∨ message.operation = some Operation.remove.value)

/-- What was read is null, or lacks the operation, or the house id an index or
remove message needs. -/
def Incomplete (d : Except IOException (Option RawIndexMessage)) : Prop :=
  d = .ok none ∨ ∃ message, d = .ok (some message) ∧ (message.operation = none ∨
    message.houseId = none ∧ (message.operation = some Operation.index.value ∨
      message.operation = some Operation.remove.value))

/-- No exception escapes that only the text gives a reason for, and a text
that is no task changes neither the index, the LBS table nor the queue. -/
structure Survives (readValue : ReadValue) (content : String) : Prop where
  caught : ∀ env c s, Calm env c s → (handleMessage readValue env c content s).2 = none
  idle : ¬ IsTask (readValue content) → ∀ env c s, (handleMessage readValue env c content s).1 = s

/-- A text that is no task changes nothing; it throws exactly if it is
incomplete. -/
theorem handleMessage_idle {readValue : ReadValue} {content : String} (h : ¬ IsTask (readValue content))
    (env : Env) (c : Calls) (s : Sys) : (handleMessage readValue env c content s).1 = s ∧
      ((handleMessage readValue env c content s).2 = none ↔ ¬ Incomplete (readValue content)) := by
  unfold handleMessage
  cases hd : readValue content with
  | error e => simp [Incomplete]
  | ok d =>
    rw [hd] at h
    cases d with
    | none => simp [Incomplete]
    | some message =>
      obtain ⟨houseId, operation, retry⟩ := message
      cases operation with
      | none => simp [Incomplete]
      | some operation =>
        dsimp only
        split
        · rename_i hop
          cases houseId with
          | none => simp [createOrUpdateIndex, Incomplete, hop]
          | some houseId => exact absurd ⟨_, houseId, rfl, rfl, Or.inl (congrArg some hop)⟩ h
        · rename_i hindex
          split
          · rename_i hop
            cases houseId with
            | none => simp [removeIndex, Incomplete, hop]
            | some houseId => exact absurd ⟨_, houseId, rfl, rfl, Or.inr (congrArg some hop)⟩ h
          · rename_i hremove
            simp [Incomplete, hindex, hremove]

theorem handleMessage_task {readValue : ReadValue} {content : String} (h : IsTask (readValue content))
    {env : Env} {c : Calls} {s : Sys} (hs : Calm env c s) :
    (handleMessage readValue env c content s).2 = none := by
  obtain ⟨⟨_, operation, retry⟩, houseId, hd, rfl, hop⟩ := h
  unfold handleMessage
  rw [hd]
  rcases hop with hop | hop <;> cases hop <;> dsimp only
  · rw [if_pos rfl]
    exact createOrUpdateIndex_calm hs houseId _ retry
  · rw [if_neg (by decide), if_pos rfl]
    exact removeIndex_calm hs houseId _ retry

theorem Incomplete.not_task {d : Except IOException (Option RawIndexMessage)} (h : Incomplete d) : ¬ IsTask d := by
  intro hx
  obtain ⟨message, houseId, rfl, hid, hop⟩ := hx
  rcases h with h | ⟨message', h, hmissing⟩
  · cases h
  · cases h
    rcases hmissing with hnone | ⟨hnone, -⟩
    · rw [hnone] at hop
      rcases hop with hop | hop <;> cases hop
    · rw [hnone] at hid
      cases hid

theorem calm_fresh : Calm Sample.env .success Sample.fresh where
  answered := reported_success.answered
  lbsDelete := by decide
  live _ hd := hd
  addresses _ hh := by cases hh

/-- An incomplete message stops the consumer with an exception. -/
theorem not_survives {readValue : ReadValue} {content : String} (h : Incomplete (readValue content)) :
    ¬ Survives readValue content := by
  intro hs
  have hcaught := hs.caught Sample.env .success Sample.fresh calm_fresh
  exact (handleMessage_idle h.not_task _ _ _).2.mp hcaught h

/-- The consumer survives exactly the texts that are not read as an incomplete
message. -/
theorem handleMessage_survives_iff (readValue : ReadValue) (content : String) :
    Survives readValue content ↔ ¬ Incomplete (readValue content) := by
  constructor
  · exact fun hs h => not_survives h hs
  · intro h
    refine ⟨fun env c s hcalm => ?_, fun ht env c s => (handleMessage_idle ht env c s).1⟩
    by_cases ht : IsTask (readValue content)
    · exact handleMessage_task ht hcalm
    · exact (handleMessage_idle ht env c s).2.mpr h

/-- The text `null` makes the consumer throw. -/
theorem handleMessage_null : ¬ Survives Sample.readNull "null" := not_survives (Or.inl rfl)

end Listener

end Soufang
