import Soufang.Core.Simulation
import Soufang.L3System.Consumer

/-!
# The queue of texts

Kafka holds texts. `notify` and the handlers send the JSON of a message, the
listener reads whatever text is next, and anybody may have published to the
topic. `texts` is the system over such a queue, `system` the one over
messages.

`write` and `readValue` are the JSON library; `Codec` is the round trip of a
message through it. Texts that are read as no task of the consumer (`decode`)
are foreign.

* `behind`: no operation looks at what is already in the queue.
* `texts_refine`: the system over texts, with foreign texts anywhere in the
  queue, refines the one over messages, and every state of that one occurs.
-/
namespace Soufang

open SearchService HouseService

structure TextSys where
  sys : Sys
  texts : List String

inductive TextReq
  | request (l : Req)
  /-- A text from outside. -/
  | publish (content : String)

namespace TextSys

/-- The messages of the outbox go to the topic. -/
def produce (write : HouseIndexMessage → String) (texts : List String) (s : Sys) : TextSys :=
  ⟨{ s with queue := [] }, texts ++ s.queue.map write⟩

end TextSys

/-- `sys.queue` is the outbox of one request; it is empty in between. An
exception of the listener is logged by the container, and the text is gone. -/
def textStep (write : HouseIndexMessage → String) (readValue : ReadValue) (env : Env) (t : TextSys) :
    TextReq → Option TextSys
  | .request (.handle c) =>
    match t.texts with
    | [] => none
    | content :: rest => some (.produce write rest (Listener.handleMessage readValue env c content t.sys).1)
  | .request l => (step env t.sys l).map (.produce write t.texts)
  | .publish content => some { t with texts := t.texts ++ [content] }

def texts (write : HouseIndexMessage → String) (readValue : ReadValue) (env : Env) (init : TextSys → Prop) :
    LTS TextSys TextReq := LTS.ofFn init (textStep write readValue env)

/-- The message a text is a task for. -/
def decode (readValue : ReadValue) (content : String) : Option HouseIndexMessage :=
  match readValue content with
  | .ok (some ⟨some houseId, some operation, retry⟩) =>
    if operation = Operation.index.value then some ⟨houseId, .index, retry⟩
    else if operation = Operation.remove.value then some ⟨houseId, .remove, retry⟩
    else none
  | _ => none

/-- A message is read as it was written. -/
def Codec (write : HouseIndexMessage → String) (readValue : ReadValue) : Prop :=
  ∀ m, readValue (write m) = .ok (some ⟨some m.houseId, some m.operation.value, m.retry⟩)

/-! ## What is already in the queue -/

/-- The same state behind a longer queue. -/
def Sys.behind (q : List HouseIndexMessage) (s : Sys) : Sys := { s with queue := q ++ s.queue }

section
variable {q : List HouseIndexMessage} {s : Sys}

@[simp] theorem behind_db : (s.behind q).db = s.db := rfl

@[simp] theorem behind_es : (s.behind q).es = s.es := rfl

@[simp] theorem behind_lbs : (s.behind q).lbs = s.lbs := rfl

theorem send_behind (op : Operation) (h : Long) (r : Int) :
    send op h r (s.behind q) = (send op h r s).behind q := by
  unfold send
  split
  · rfl
  · simp [Sys.behind, List.append_assoc]

theorem updateStatus_behind (id : Long) (status : Int) :
    (updateStatus id status (s.behind q)).1 = (updateStatus id status s).1.behind q := by
  unfold updateStatus
  rw [behind_db]
  cases s.db.house.find? id with
  | none => rfl
  | some house =>
    dsimp only
    cases statusRefusal house status with
    | some message => rfl
    | none =>
      dsimp only
      rw [notifySearch_eq, notifySearch_eq]
      exact send_behind (s := { s with db := setStatus id status s.db }) _ id 0

theorem createOrUpdateIndex_behind (env : Env) (c : Calls) (m : HouseIndexMessage) :
    createOrUpdateIndex env c m (s.behind q) = (createOrUpdateIndex env c m s).behind q := by
  unfold createOrUpdateIndex
  rw [behind_db, behind_es, behind_lbs]
  cases s.db.house.find? m.houseId with
  | none => rfl
  | some house =>
    cases s.db.findDetailByHouseId m.houseId with
    | none => rfl
    | some detail =>
      dsimp only
      cases addressOf s.db house with
      | none => rfl
      | some address =>
        cases c.geocode with
        | threw => rfl
        | failed => exact send_behind .index m.houseId (nextRetry m.retry)
        | ok =>
          dsimp only
          generalize writeTemplate env c m.houseId _ s.es = written
          obtain ⟨es, _ | success⟩ := written
          · rfl
          · dsimp only
            generalize lbsUpload c _ s.lbs = uploaded
            obtain ⟨lbs, _ | uploaded⟩ := uploaded
            · rfl
            · dsimp only
              split
              · exact send_behind (s := { s with es := es, lbs := lbs }) .index m.houseId (nextRetry m.retry)
              · rfl

theorem removeIndex_behind (env : Env) (c : Calls) (m : HouseIndexMessage) :
    removeIndex env c m (s.behind q) = (removeIndex env c m s).behind q := by
  unfold removeIndex
  rw [behind_es, behind_lbs]
  generalize s.es.deleteByQuery env c.delete m.houseId = gone
  obtain ⟨es, _ | deleted⟩ := gone
  · rfl
  · dsimp only
    generalize removeLbs c.lbsDelete m.houseId s.lbs = removed
    obtain ⟨lbs, _ | removed⟩ := removed
    · rfl
    · dsimp only
      split
      · exact send_behind (s := { s with es := es, lbs := lbs }) .remove m.houseId (nextRetry m.retry)
      · rfl

/-- A request adds its messages behind those that are there. -/
theorem step_behind {env : Env} {l : Req} (hl : ∀ c, l ≠ .handle c) :
    step env (s.behind q) l = (step env s l).map (Sys.behind q) := by
  cases l with
  | handle c => exact absurd rfl (hl c)
  | updateStatus id status => exact congrArg some (updateStatus_behind id status)
  | operateHouse id op =>
    refine congrArg some ?_
    unfold AdminController.operateHouse
    split
    · rfl
    · cases HouseOperation.ofCode op with
      | none => rfl
      | some o => exact updateStatus_behind id o.status.value
  | save _ _ _ _ | update _ _ | removePhoto _ _ | updateCover _ _ | addTag _ _ | removeTag _ _ | refresh => rfl

end

/-! ## Texts and messages -/

section
variable {write : HouseIndexMessage → String} {readValue : ReadValue}

theorem decode_write (hc : Codec write readValue) (m : HouseIndexMessage) :
    decode readValue (write m) = some m := by
  obtain ⟨houseId, op, retry⟩ := m
  unfold decode
  rw [hc]
  cases op with
  | index => exact if_pos rfl
  | remove =>
    have hne : Operation.remove.value ≠ Operation.index.value := by decide
    exact (if_neg hne).trans (if_pos rfl)

theorem decode_eq_some {content : String} {m : HouseIndexMessage} (h : decode readValue content = some m) :
    readValue content = .ok (some ⟨some m.houseId, some m.operation.value, m.retry⟩) := by
  unfold decode at h
  split at h
  · rename_i houseId operation retry hr
    split at h
    · rename_i hop
      cases h
      rw [hr, hop]
    · split at h
      · rename_i hop
        cases h
        rw [hr, hop]
      · cases h
  · cases h

theorem decode_none {content : String} (h : decode readValue content = none) :
    ¬ Listener.IsTask (readValue content) := by
  intro ht
  obtain ⟨⟨_, _, retry⟩, houseId, hr, rfl, hop⟩ := ht
  unfold decode at h
  rw [hr] at h
  rcases hop with rfl | rfl
  · simp at h
  · simp [Operation.value] at h

/-- The messages the texts of the queue are tasks for. -/
def messages (readValue : ReadValue) (t : TextSys) : Sys :=
  { t.sys with queue := t.texts.filterMap (decode readValue) }

theorem decode_texts (hc : Codec write readValue) (q : List HouseIndexMessage) :
    (q.map write).filterMap (decode readValue) = q := by
  rw [List.filterMap_map]
  exact (List.filterMap_congr fun m _ => decode_write hc m).trans List.filterMap_some

theorem messages_produce (hc : Codec write readValue) (texts : List String) (s : Sys) :
    messages readValue (.produce write texts s) = s.behind (texts.filterMap (decode readValue)) := by
  unfold messages TextSys.produce Sys.behind
  dsimp only
  rw [List.filterMap_append, decode_texts hc]

end

/-! ## The refinement -/

/-- The handler of the operation of a message. -/
def runTask (env : Env) (c : Calls) (m : HouseIndexMessage) (s : Sys) : Sys :=
  match m.operation with
  | .index => createOrUpdateIndex env c m s
  | .remove => removeIndex env c m s

theorem runTask_behind (env : Env) (c : Calls) (m : HouseIndexMessage) (q : List HouseIndexMessage) (s : Sys) :
    runTask env c m (s.behind q) = (runTask env c m s).behind q := by
  unfold runTask
  cases m.operation with
  | index => exact createOrUpdateIndex_behind env c m
  | remove => exact removeIndex_behind env c m

theorem handle_cons {env : Env} {c : Calls} {m : HouseIndexMessage} {rest : List HouseIndexMessage} {s : Sys}
    (hq : s.queue = m :: rest) : step env s (.handle c) = some (runTask env c m { s with queue := rest }) := by
  cases s
  cases hq
  rfl

/-- The listener on a text that is a task. -/
theorem listener_task {readValue : ReadValue} {content : String} {m : HouseIndexMessage}
    (h : decode readValue content = some m) (env : Env) (c : Calls) (s : Sys) :
    (Listener.handleMessage readValue env c content s).1 = runTask env c m s := by
  have htyped : step env { s with queue := m :: s.queue } (.handle c) = some _ :=
    Listener.handleMessage_typed (decode_eq_some h)
  have hcons : step env { s with queue := m :: s.queue } (.handle c) = some (runTask env c m s) := handle_cons rfl
  exact (Option.some.inj (hcons.symm.trans htyped)).symm

section
variable {write : HouseIndexMessage → String} {readValue : ReadValue} {env : Env} {init : Sys → Prop}
  {C : Sys → Req → Prop}

/-- The requests meet `C` on the messages, and only foreign texts come from
outside. -/
def Lawful (readValue : ReadValue) (C : Sys → Req → Prop) (t : TextSys) (l : TextReq) : Prop :=
  (∀ req, l = .request req → C (messages readValue t) req) ∧
    ∀ content, l = .publish content → decode readValue content = none

/-- The queue holds nothing but foreign texts and texts of messages. -/
def TextInit (readValue : ReadValue) (init : Sys → Prop) (t : TextSys) : Prop :=
  t.sys.queue = [] ∧ init (messages readValue t)

theorem messages_behind {t : TextSys} (hq : t.sys.queue = []) :
    messages readValue t = t.sys.behind (t.texts.filterMap (decode readValue)) := by
  unfold messages Sys.behind
  rw [hq, List.append_nil]

/-- A request other than a handler run. -/
theorem textStep_request {t : TextSys} {l : Req} (hl : ∀ c, l ≠ .handle c) :
    textStep write readValue env t (.request l) = (step env t.sys l).map (.produce write t.texts) := by
  cases l with
  | handle c => exact absurd rfl (hl c)
  | save _ _ _ _ | update _ _ | updateStatus _ _ | operateHouse _ _ | removePhoto _ _ | updateCover _ _
  | addTag _ _ | removeTag _ _ | refresh => rfl

theorem request_step (hc : Codec write readValue) {t t' : TextSys} (hq : t.sys.queue = []) {l : Req}
    (hl : ∀ c, l ≠ .handle c) (hs : textStep write readValue env t (.request l) = some t') :
    step env (messages readValue t) l = some (messages readValue t') := by
  rw [textStep_request hl] at hs
  obtain ⟨s', hstep, rfl⟩ := Option.map_eq_some_iff.mp hs
  rw [messages_behind hq, step_behind hl, hstep, messages_produce hc, Option.map_some]

/-- The listener runs the task of its text, or nothing. -/
theorem listener_step (hc : Codec write readValue) {t t' : TextSys} (hq : t.sys.queue = []) {c : Calls}
    (hs : textStep write readValue env t (.request (.handle c)) = some t') :
    step env (messages readValue t) (.handle c) = some (messages readValue t') ∨
      messages readValue t' = messages readValue t := by
  cases ht : t.texts with
  | nil => simp [textStep, ht] at hs
  | cons content rest =>
    simp only [textStep, ht, Option.some.injEq] at hs
    subst hs
    rw [messages_produce hc, messages_behind hq, ht]
    cases hd : decode readValue content with
    | some m =>
      left
      rw [List.filterMap_cons_some hd, listener_task hd, ← runTask_behind]
      have hcons : (t.sys.behind (m :: rest.filterMap (decode readValue))).queue =
          m :: rest.filterMap (decode readValue) := by
        rw [Sys.behind, hq, List.append_nil]
      rw [handle_cons hcons]
      simp [Sys.behind, hq]
    | none =>
      right
      rw [List.filterMap_cons_none hd, (Listener.handleMessage_idle (decode_none hd) env c t.sys).1]

theorem textStep_queue {t t' : TextSys} {l : TextReq} (hq : t.sys.queue = [])
    (hs : textStep write readValue env t l = some t') : t'.sys.queue = [] := by
  cases l with
  | publish content =>
    cases hs
    exact hq
  | request l =>
    by_cases hl : ∃ c, l = .handle c
    · obtain ⟨c, rfl⟩ := hl
      cases ht : t.texts with
      | nil => simp [textStep, ht] at hs
      | cons content rest =>
        simp only [textStep, ht, Option.some.injEq] at hs
        rw [← hs]
        rfl
    · rw [textStep_request fun c he => hl ⟨c, he⟩] at hs
      obtain ⟨s', -, rfl⟩ := Option.map_eq_some_iff.mp hs
      rfl

/-- The system over texts refines the one over messages. -/
theorem refines_messages (hc : Codec write readValue) :
    LTS.Refines ((texts write readValue env (TextInit readValue init)).restrict (Lawful readValue C))
      ((system env init).restrict C) (messages readValue) fun t => t.sys.queue = [] where
  init t h := h
  keep t l t' hq hs := textStep_queue hq hs.1
  step t l t' hq hs := by
    obtain ⟨hs, hreq, hforeign⟩ := hs
    cases l with
    | publish content =>
      cases hs
      right
      unfold messages
      dsimp only
      rw [List.filterMap_append, List.filterMap_cons_none (hforeign content rfl), List.filterMap_nil, List.append_nil]
    | request l =>
      by_cases hl : ∃ c, l = .handle c
      · obtain ⟨c, rfl⟩ := hl
        exact (listener_step hc hq hs).imp_left fun h => ⟨.handle c, h, hreq _ rfl⟩
      · exact Or.inl ⟨l, request_step hc hq (fun c he => hl ⟨c, he⟩) hs, hreq l rfl⟩

/-- The texts of a queue of messages. -/
def written (write : HouseIndexMessage → String) (s : Sys) : TextSys := .produce write [] s

theorem messages_written (hc : Codec write readValue) (s : Sys) : messages readValue (written write s) = s := by
  rw [written, messages_produce hc]
  rfl

/-- Every step over messages is one over their texts. -/
theorem written_step (hc : Codec write readValue) {s s' : Sys} {l : Req} (hs : step env s l = some s') :
    textStep write readValue env (written write s) (.request l) = some (written write s') := by
  have hout : s = Sys.behind s.queue { s with queue := [] } := by simp [Sys.behind]
  have hproduce : ∀ (q : List HouseIndexMessage) (s1 : Sys), s' = s1.behind q →
      TextSys.produce write (q.map write) s1 = written write s' := by
    intro q s1 he
    rw [he]
    simp [written, TextSys.produce, Sys.behind]
  by_cases hl : ∃ c, l = .handle c
  · obtain ⟨c, rfl⟩ := hl
    cases hq : s.queue with
    | nil => simp [step, handleMessage, hq] at hs
    | cons m rest =>
      rw [handle_cons hq, Option.some.injEq] at hs
      have hrest : ({ s with queue := rest } : Sys) = Sys.behind rest { s with queue := [] } := by simp [Sys.behind]
      rw [hrest, runTask_behind] at hs
      unfold textStep written TextSys.produce
      rw [hq]
      simp only [List.nil_append, List.map_cons, Option.some.injEq]
      rw [listener_task (decode_write hc m)]
      exact hproduce rest _ hs.symm
  · have hno : ∀ c, l ≠ .handle c := fun c he => hl ⟨c, he⟩
    rw [hout, step_behind hno] at hs
    obtain ⟨s1, hs1, he⟩ := Option.map_eq_some_iff.mp hs
    rw [textStep_request hno]
    change (step env { s with queue := [] } l).map (TextSys.produce write (s.queue.map write)) = _
    rw [hs1, Option.map_some, hproduce s.queue s1 he.symm]

theorem refines_written (hc : Codec write readValue) :
    LTS.Refines ((system env init).restrict C)
      ((texts write readValue env (TextInit readValue init)).restrict (Lawful readValue C)) (written write)
      fun _ => True where
  init s h := ⟨trivial, rfl, by rwa [messages_written hc]⟩
  keep _ _ _ _ _ := trivial
  step s l s' _ hs := by
    obtain ⟨hs, hC⟩ := hs
    refine Or.inl ⟨.request l, written_step hc hs, fun req he => ?_, fun content he => by cases he⟩
    cases he
    rwa [messages_written hc]

/-- **The queue of texts.** With foreign texts published at any time, the
states of the system over texts, read as messages, are exactly the states of
the system over messages, for the runs whose requests meet any condition. -/
theorem texts_refine (write : HouseIndexMessage → String) (readValue : ReadValue) (env : Env) (init : Sys → Prop)
    (C : Sys → Req → Prop) (hc : Codec write readValue) (s : Sys) :
    ((system env init).restrict C).Reachable s ↔
      ∃ t, ((texts write readValue env (TextInit readValue init)).restrict (Lawful readValue C)).Reachable t ∧
        messages readValue t = s := by
  constructor
  · intro hr
    exact ⟨written write s, (refines_written hc).reachable hr, messages_written hc s⟩
  · intro h
    obtain ⟨t, hr, rfl⟩ := h
    exact (refines_messages hc).reachable hr

end

/-! ## The JSON of a message -/

namespace Sample

def intChars : Int → List Char
  | .ofNat n => Nat.toDigits 10 n
  | .negSucc n => '-' :: Nat.toDigits 10 (n + 1)

def readInt : List Char → Int
  | '-' :: digits => -(Nat.ofDigitChars 10 digits 0 : Int)
  | digits => Nat.ofDigitChars 10 digits 0

/-- The three fields of a message, without the commas between them. -/
def jsonFields (m : HouseIndexMessage) : List (List Char) :=
  ["\x7b\"houseId\":".toList ++ intChars m.houseId,
   "\"operation\":\"".toList ++ m.operation.value.toList ++ ['"'],
   "\"retry\":".toList ++ intChars m.retry ++ "\x7d".toList]

def writeJson (m : HouseIndexMessage) : String := String.ofList ([','].intercalate (jsonFields m))

/-- Reads the fields in the order they are written in. -/
def readJson : ReadValue := fun content =>
  match content.toList.splitOn ',' with
  | [houseId, operation, retry] =>
    .ok (some ⟨some (readInt (houseId.drop 11)), some (String.ofList ((operation.drop 13).dropLast)),
      readInt ((retry.drop 8).dropLast)⟩)
  | _ => .error {}

theorem readInt_intChars (i : Int) : readInt (intChars i) = i := by
  cases i with
  | negSucc n =>
    simp only [intChars, readInt, Nat.ofDigitChars_ten_toDigits]
    rfl
  | ofNat n =>
    have hdigit : ∀ c ∈ Nat.toDigits 10 n, c.isDigit = true := fun c hc =>
      Nat.isDigit_of_mem_toDigits (by decide) (by decide) hc
    have hread : ∀ l : List Char, (∀ c ∈ l, c.isDigit = true) → readInt l = Nat.ofDigitChars 10 l 0 := by
      intro l hl
      unfold readInt
      split
      · exact absurd (hl '-' List.mem_cons_self) (by decide)
      · rfl
    rw [intChars, hread _ hdigit, Nat.ofDigitChars_ten_toDigits]
    rfl

theorem comma_not_mem_intChars (i : Int) : ',' ∉ intChars i := by
  have hdigits : ∀ n, ',' ∉ Nat.toDigits 10 n := fun n h =>
    absurd (Nat.isDigit_of_mem_toDigits (by decide) (by decide) h) (by decide)
  cases i with
  | ofNat n => exact hdigits n
  | negSucc n =>
    rw [intChars, List.mem_cons]
    rintro (h | h)
    · cases h
    · exact hdigits _ h

theorem codec_json : Codec writeJson readJson := by
  intro m
  have hcommas : ∀ field ∈ jsonFields m, ',' ∉ field := by
    intro field hf
    simp only [jsonFields, List.mem_cons, List.not_mem_nil, or_false] at hf
    have hid := comma_not_mem_intChars m.houseId
    have hretry := comma_not_mem_intChars m.retry
    rcases hf with rfl | rfl | rfl
    · simp [hid]
    · cases m.operation <;> decide
    · simp [hretry]
  have hsplit : (writeJson m).toList.splitOn ',' = jsonFields m := by
    rw [writeJson, String.toList_ofList]
    exact List.splitOn_intercalate ',' hcommas (List.cons_ne_nil _ _)
  have hop : (("\"operation\":\"".toList ++ m.operation.value.toList ++ ['"']).drop 13).dropLast =
      m.operation.value.toList := by
    cases m.operation <;> rfl
  have hretry : (("\"retry\":".toList ++ intChars m.retry ++ "\x7d".toList).drop 8).dropLast = intChars m.retry := by
    rw [List.append_assoc]
    change (intChars m.retry ++ ['\x7d']).dropLast = _
    exact List.dropLast_concat
  unfold readJson
  rw [hsplit, jsonFields]
  dsimp only
  have hid : ("\x7b\"houseId\":".toList ++ intChars m.houseId).drop 11 = intChars m.houseId := rfl
  rw [hid, hop, hretry, readInt_intChars, readInt_intChars, String.ofList_toList]

end Sample

/-- The house of `stored`, passed: its message is in the queue. -/
theorem texts_refine_passed : ∃ t, ((texts Sample.writeJson Sample.readJson Sample.env
      (TextInit Sample.readJson (· = Sample.stored))).restrict (Lawful Sample.readJson fun _ _ => True)).Reachable t ∧
    (messages Sample.readJson t).queue = [⟨1, .index, 0⟩] := by
  obtain ⟨s, hr, hq⟩ := LTS.exists_reachable (· = Sample.stored) (step Sample.env) (fun _ _ => True)
    (fun s => s.queue = [⟨1, .index, 0⟩]) rfl [.updateStatus 1 HouseStatus.PASSES.value] (by decide +kernel)
  obtain ⟨t, ht, hm⟩ := (texts_refine Sample.writeJson Sample.readJson Sample.env (· = Sample.stored)
    (fun _ _ => True) Sample.codec_json s).mp hr
  exact ⟨t, ht, by rw [hm]; exact hq⟩

end Soufang
