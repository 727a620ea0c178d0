import HanamiNetwork.Blossoms.Trigger
import HanamiNetwork.Messaging.Callbacks
import HanamiNetwork.Messaging.Permission

/-!
# Processing an event

`MessagingEvent` (`messaging_event.cpp`): an event that comes out of the queue is parsed,
mapped to an endpoint and triggered, and its outcome is sent back to the session it came
from. Every way through `processEvent` that comes to an end sends one response. Two things keep
it from its end: a regex of a blossom that `std::regex` rejects, which throws, and a text that
is too long for the buffer of a response. An event is answered once exactly if neither is met
(`answeredOnce_iff`), and what is left to say about it is when its response is one of success.
-/

namespace HanamiNetwork

open HanamiNetwork.Basis

section

variable (x : World) (k : Controller)

/-- `sendErrorMessage`. -/
def sendErrorMessage (context : DataMap) (inputValues : JsonItem) (errorMessage : Str) : Traced Effect Unit :=
  if k.supportShiori = false then return ()
  else
    let userId := x.getStringByKey context (str "id")
    if userId = [] then return ()
    else
      match k.shioriClient with
      | none => return ()
      | some client =>
        let msg : ErrorLogMessage :=
          { userid := userId
            context := x.mapToString context true
            values := x.jsonToString inputValues true
            component := x.localComponent
            errormsg := errorMessage }
        match x.serialize msg with
        | none => return ()
        | some buffer => do
          let _ ← sendGenericMessage x client x.SHIORI_ERROR_LOG_MESSAGE_TYPE buffer ⟨[]⟩ ()
            fun session message error _ =>
            let (ret, error) := x.sendNormalMessage session message error
            return (ret, error, ())
          return ()

namespace MessagingEvent

variable (ev : MessagingEvent)

/-- The token of the request. -/
def token (inputValues : JsonItem) : Str := x.jsonGetString (inputValues.get (str "token"))

/-- The input values, without the token unless the request is about tokens. -/
def withoutToken (inputValues : JsonItem) : JsonItem :=
  if ev.targetId ≠ str "v1/auth" then inputValues.remove (str "token") else inputValues

/-- `skipPermission`. -/
def skipPermission : Bool :=
  x.sessionIdentifier ev.session ≠ str "torii"
    || ev.targetId ≠ str "v1/auth"
    || ev.targetId ≠ str "v1/token"
    || ev.targetId ≠ str "v1/token/internal"

/-- `trigger`. -/
def trigger (resultingItems : DataMap) (inputValues : JsonItem) (endpoint : EndpointEntry) (r : Refs) :
    Traced Effect (Bool × DataMap × Refs) := do
  let token := token x inputValues
  let inputValues := ev.withoutToken inputValues
  let (ret, context, r) ← checkPermission x k .empty token (ev.skipPermission x) r
  if ret = false then
    return (false, resultingItems, r.setCode x.UNAUTHORIZED_RTYPE.toUInt64)
  else
    let content ← Traced.ofOption inputValues.content
    let (ret, resultingItems, r) ← triggerBlossom x.toLibs k.registeredBlossoms resultingItems endpoint.name
      endpoint.group context content.toMap r
    if ret = false then
      LOG_ERROR r.error
      sendErrorMessage x k context inputValues (x.errorToString r.error)
      return (false, resultingItems, r)
    else
      return (true, resultingItems, r)

/-- `processEvent`. -/
def processEvent : Traced Effect Bool :=
  match x.parse ev.inputValues ⟨[]⟩ with
  | (none, error) => do
    LOG_ERROR error
    sendResponseMessage x ⟨false, x.BAD_REQUEST_RTYPE, x.errorToString error⟩ ev.session ev.blockerId
    return false
  | (some inputValues, error) =>
    match k.mapEndpoint ev.targetId ev.httpType with
    | none => do
      let error := error.addMeesage
        (str "endpoint not found for id " ++ ev.targetId ++ str " and type " ++ str (toString ev.httpType.toNat))
      LOG_ERROR error
      sendResponseMessage x ⟨false, x.NOT_IMPLEMENTED_RTYPE, x.errorToString error⟩ ev.session ev.blockerId
      return false
    | some entry => do
      let (ret, resultingItems, r) ← ev.trigger x k .empty inputValues entry ⟨x.initialStatus, error⟩
      let type : HttpResponseTypes := r.status.statusCode.toUInt32
      if ret = true then
        sendResponseMessage x ⟨true, type, x.mapToString resultingItems false⟩ ev.session ev.blockerId
      else
        sendResponseMessage x ⟨false, type, r.status.errorMessage⟩ ev.session ev.blockerId
      return true

end MessagingEvent

end

/-! ### What triggering leaves behind -/

theorem ofKinds_sendErrorMessage (x : World) (k : Controller) (context : DataMap) (inputValues : JsonItem)
    (errorMessage : Str) : OfKinds [.lock, .message] (sendErrorMessage x k context inputValues errorMessage) := by
  unfold sendErrorMessage
  dsimp only
  split_ifs
  · exact Traced.emits_pure _
  · exact Traced.emits_pure _
  · split
    · exact Traced.emits_pure _
    · split
      · exact Traced.emits_pure _
      · refine Traced.Emits.bind ?_ fun _ => Traced.emits_pure _
        refine (ofKinds_emit (by simp [Effect.kind])).bind fun _ => ?_
        refine emits_withLock (by simp [Effect.kind]) (by simp [Effect.kind]) ?_
        split
        · exact Traced.emits_pure _
        · exact (ofKinds_emit (by simp [Effect.kind])).bind fun _ => Traced.emits_pure _

theorem value_sendErrorMessage (x : World) (k : Controller) (context : DataMap) (inputValues : JsonItem)
    (errorMessage : Str) : (sendErrorMessage x k context inputValues errorMessage).value = some () := by
  unfold sendErrorMessage
  dsimp only
  split_ifs
  · rfl
  · rfl
  · split
    · rfl
    · split
      · rfl
      · rename_i client _ _ _ _
        cases hs : client.session <;> simp [sendGenericMessage, value_withLock, hs]

namespace MessagingEvent

variable {x : World} {k : Controller} {ev : MessagingEvent}

theorem ofKinds_trigger_of_checkPermission {kinds : List EffectKind} (hsub : [.log, .lock, .task, .message] ⊆ kinds)
    (resultingItems : DataMap) (inputValues : JsonItem) (endpoint : EndpointEntry) (r : Refs)
    (hcheck : OfKinds kinds (checkPermission x k .empty (token x inputValues) (ev.skipPermission x) r)) :
    OfKinds kinds (ev.trigger x k resultingItems inputValues endpoint r) := by
  refine Traced.Emits.bind hcheck fun ⟨ret, context, r⟩ => ?_
  dsimp only
  split_ifs
  · exact Traced.emits_pure _
  · refine (Traced.emits_ofOption _).bind fun content => ?_
    refine ((ofKinds_triggerBlossom _ _ _ _ _ context r content.toMap).mono fun _ hk => hsub ?_).bind
      fun ⟨ret, items, r⟩ => ?_
    · simp at hk ⊢
      tauto
    dsimp only
    split_ifs
    · refine (ofKinds_emit (hsub (by simp [Effect.kind]))).bind fun _ => ?_
      refine ((ofKinds_sendErrorMessage x k _ _ _).mono fun _ hk => hsub ?_).bind fun _ => Traced.emits_pure _
      simp at hk ⊢
      tauto
    · exact Traced.emits_pure _

theorem ofKinds_trigger (resultingItems : DataMap) (inputValues : JsonItem) (endpoint : EndpointEntry) (r : Refs) :
    OfKinds [.log, .lock, .request, .task, .message] (ev.trigger x k resultingItems inputValues endpoint r) :=
  ofKinds_trigger_of_checkPermission (by simp) _ _ _ _ ((ofKinds_checkPermission x k _ _ _ r).mono (by simp))

/-- A task is run by the blossom that is triggered, once the permission check has passed. -/
theorem runTask_mem_trigger_iff {resultingItems : DataMap} {inputValues : JsonItem} {endpoint : EndpointEntry}
    {r : Refs} {groupName itemName : Str} {input ctx : DataMap} :
    .runTask groupName itemName input ctx ∈ (ev.trigger x k resultingItems inputValues endpoint r).effects ↔
      ∃ context r' values,
        (checkPermission x k .empty (token x inputValues) (ev.skipPermission x) r).value = some (true, context, r') ∧
        (ev.withoutToken inputValues).toMap = some values ∧
        .runTask groupName itemName input ctx ∈ (triggerBlossom x.toLibs k.registeredBlossoms resultingItems
          endpoint.name endpoint.group context values r').effects := by
  rw [trigger, Traced.mem_effects_bind]
  constructor
  · rintro (he | ⟨⟨ret, context, r'⟩, hc, he⟩)
    · exact absurd he ((ofKinds_checkPermission x k _ _ _ r).not_mem (by simp [Effect.kind]))
    cases ret with
    | false => exact absurd he List.not_mem_nil
    | true =>
      rcases Traced.mem_effects_bind.mp he with he | ⟨content, hcontent, he⟩
      · exact absurd he List.not_mem_nil
      rcases Traced.mem_effects_bind.mp he with he | ⟨⟨ret, items, r''⟩, -, he⟩
      · cases hm : content.toMap with
        | none =>
          rw [hm] at he
          exact (runTask_not_mem_triggerBlossom_null _ _ _ _ _ _ _ he).elim
        | some values =>
          rw [hm] at he
          exact ⟨context, r', values, hc, (Option.bind_eq_some_iff.mpr ⟨content, hcontent, hm⟩), he⟩
      · -- what is left only reports the error
        cases ret with
        | true => exact absurd he List.not_mem_nil
        | false =>
          rcases Traced.mem_effects_bind.mp he with he | ⟨-, -, he⟩
          · simp [LOG_ERROR] at he
          rcases Traced.mem_effects_bind.mp he with he | ⟨-, -, he⟩
          · exact absurd he ((ofKinds_sendErrorMessage x k _ _ _).not_mem (by simp [Effect.kind]))
          · exact absurd he List.not_mem_nil
  · rintro ⟨context, r', values, hc, hv, he⟩
    obtain ⟨content, hcontent, hm⟩ := Option.bind_eq_some_iff.mp hv
    rw [← hm] at he
    refine .inr ⟨(true, context, r'), hc, ?_⟩
    exact Traced.mem_effects_bind.mpr (.inr ⟨content, hcontent, Traced.mem_effects_bind.mpr (.inl he)⟩)

theorem isSome_toMap_withoutToken (ev : MessagingEvent) {inputValues : JsonItem} {values : DataMap}
    (h : inputValues.toMap = some values) : (ev.withoutToken inputValues).toMap.isSome := by
  unfold withoutToken
  split_ifs
  · simp [JsonItem.remove, h]
  · simp [h]

/-! ### The stages of an event -/

/-- The permission check of an event. -/
def permission (x : World) (k : Controller) (ev : MessagingEvent) (inputValues : JsonItem) (r : Refs) :
    Traced Effect (Bool × DataMap × Refs) :=
  checkPermission x k .empty (token x inputValues) (ev.skipPermission x) r

/-- The event gets as far as `triggerBlossom`, which is called with these arguments. -/
def Reaches (x : World) (k : Controller) (ev : MessagingEvent) (entry : EndpointEntry) (context : DataMap)
    (initialValues : Option DataMap) (r : Refs) : Prop :=
  ∃ inputValues error content, x.parse ev.inputValues ⟨[]⟩ = (some inputValues, error) ∧
    k.mapEndpoint ev.targetId ev.httpType = some entry ∧
    (permission x k ev inputValues ⟨x.initialStatus, error⟩).value = some (true, context, r) ∧
    (ev.withoutToken inputValues).content = some content ∧ initialValues = content.toMap

/-- All stages of the event succeed, and the task leaves this output. -/
def Succeeds (x : World) (k : Controller) (ev : MessagingEvent) (output : DataMap) : Prop :=
  ∃ entry context r, ∃ values : DataMap, Reaches x k ev entry context values r ∧
    StagesPass x.toLibs k.registeredBlossoms entry.name entry.group context values r output

/-- What is taken for granted of an event. -/
structure Processable (x : World) (k : Controller) (ev : MessagingEvent) : Prop where
  /-- If the input values are parsed, they are an object. -/
  object : ∀ inputValues error, x.parse ev.inputValues ⟨[]⟩ = (some inputValues, error) →
    ∃ values, inputValues.toMap = some values
  /-- The permission check has a result. -/
  permission : ∀ inputValues error, x.parse ev.inputValues ⟨[]⟩ = (some inputValues, error) →
    (permission x k ev inputValues ⟨x.initialStatus, error⟩).value.isSome
  /-- The task leaves items. -/
  task : ∀ entry context r, ∀ values : DataMap, Reaches x k ev entry context values r →
    LeavesItems k.registeredBlossoms entry.name entry.group context values r

/-- A request with permission comes to whatever its blossom comes to, unless its content is null. -/
theorem value_trigger_of_permission {inputValues : JsonItem} {r r' : Refs} {context : DataMap}
    (hc : (permission x k ev inputValues r).value = some (true, context, r')) (resultingItems : DataMap)
    (endpoint : EndpointEntry) : (ev.trigger x k resultingItems inputValues endpoint r).value =
      (ev.withoutToken inputValues).content.bind fun content =>
        (triggerBlossom x.toLibs k.registeredBlossoms resultingItems endpoint.name endpoint.group context
          content.toMap r').value := by
  rw [permission] at hc
  cases hm : (ev.withoutToken inputValues).content with
  | none => simp [trigger, hc, hm]
  | some content =>
    cases hb : (triggerBlossom x.toLibs k.registeredBlossoms resultingItems endpoint.name endpoint.group context
      content.toMap r').value with
    | none => simp [trigger, hc, hm, hb]
    | some outcome =>
      obtain ⟨ret, items, r''⟩ := outcome
      cases ret <;> simp [trigger, hc, hm, hb, LOG_ERROR, value_sendErrorMessage]

section

variable {entry : EndpointEntry} {context : DataMap} {initialValues : Option DataMap} {r : Refs}
variable (h : Reaches x k ev entry context initialValues r)
include h

theorem Reaches.value_trigger {inputValues : JsonItem} {error : ErrorContainer}
    (hp : x.parse ev.inputValues ⟨[]⟩ = (some inputValues, error)) (resultingItems : DataMap) :
    (ev.trigger x k resultingItems inputValues entry ⟨x.initialStatus, error⟩).value =
      (triggerBlossom x.toLibs k.registeredBlossoms resultingItems entry.name entry.group context initialValues
        r).value := by
  obtain ⟨inputValues', error', content, hp', -, hc, hm, rfl⟩ := h
  obtain ⟨rfl, rfl⟩ : inputValues = inputValues' ∧ error = error' := by
    simpa using hp.symm.trans hp'
  rw [value_trigger_of_permission hc, hm, Option.bind_some]

/-- There is one way to reach a blossom. -/
theorem Reaches.unique {entry' : EndpointEntry} {context' : DataMap} {initialValues' : Option DataMap} {r' : Refs}
    (h' : Reaches x k ev entry' context' initialValues' r') :
    entry = entry' ∧ context = context' ∧ initialValues = initialValues' ∧ r = r' := by
  obtain ⟨inputValues, error, content, hp, he, hc, hm, rfl⟩ := h
  obtain ⟨inputValues', error', content', hp', he', hc', hm', rfl⟩ := h'
  obtain ⟨rfl, rfl⟩ : inputValues = inputValues' ∧ error = error' := by
    simpa using hp.symm.trans hp'
  obtain ⟨-, rfl, rfl⟩ : True ∧ context = context' ∧ r = r' := by
    simpa using hc.symm.trans hc'
  obtain rfl := Option.some_inj.mp (hm.symm.trans hm')
  exact ⟨Option.some_inj.mp (he.symm.trans he'), rfl, rfl, rfl⟩

end

/-- An event that reaches its blossom with a map succeeds if all stages from there on pass. -/
theorem Reaches.succeeds_iff {entry : EndpointEntry} {context values : DataMap} {r : Refs}
    (h : Reaches x k ev entry context values r) (output : DataMap) : ev.Succeeds x k output ↔
      StagesPass x.toLibs k.registeredBlossoms entry.name entry.group context values r output := by
  constructor
  · rintro ⟨entry', context', r', values', h', hs⟩
    obtain ⟨rfl, rfl, heq, rfl⟩ := h.unique h'
    obtain rfl := Option.some_inj.mp heq
    exact hs
  · exact fun hs => ⟨entry, context, r, values, h, hs⟩

/-! ### The response -/

/-- The response that sends back what triggering left. -/
def outcomeResponse (x : World) (outcome : Bool × DataMap × Refs) : ResponseMessage where
  success := outcome.1
  type := outcome.2.2.status.statusCode.toUInt32
  responseContent := if outcome.1 = true then x.mapToString outcome.2.1 false else outcome.2.2.status.errorMessage

/-- The response an event comes to, unless it crashes before; whether it can be sent is another matter. -/
def reply (x : World) (k : Controller) (ev : MessagingEvent) : Option ResponseMessage :=
  match x.parse ev.inputValues ⟨[]⟩ with
  | (none, error) => some ⟨false, x.BAD_REQUEST_RTYPE, x.errorToString error⟩
  | (some inputValues, error) =>
    match k.mapEndpoint ev.targetId ev.httpType with
    | none => some ⟨false, x.NOT_IMPLEMENTED_RTYPE, x.errorToString (error.addMeesage
        (str "endpoint not found for id " ++ ev.targetId ++ str " and type " ++ str (toString ev.httpType.toNat)))⟩
    | some entry =>
      (ev.trigger x k .empty inputValues entry ⟨x.initialStatus, error⟩).value.map (outcomeResponse x)

/-- Sending a response to where the event came from. -/
def answer (x : World) (ev : MessagingEvent) (response : ResponseMessage) : Effect :=
  .sendResponse ev.session response (responseMessage x.padding response) ev.blockerId

@[simp] theorem kind_answer (x : World) (ev : MessagingEvent) (response : ResponseMessage) :
    (ev.answer x response).kind = .response := rfl

/-- The response is sent if it fits, and crashes the server if not. -/
theorem sendResponseMessage_eq (x : World) (ev : MessagingEvent) (response : ResponseMessage) :
    sendResponseMessage x response ev.session ev.blockerId =
      if response.Fits then Traced.emit (ev.answer x response) else Traced.ofOption none := by
  split_ifs with h
  · exact sendResponseMessage_of_fits h
  · exact sendResponseMessage_of_not_fits h

theorem filter_response_trigger (x : World) (k : Controller) (ev : MessagingEvent) (resultingItems : DataMap)
    (inputValues : JsonItem) (endpoint : EndpointEntry) (r : Refs) :
    (ev.trigger x k resultingItems inputValues endpoint r).effects.filter (fun e => e.kind = .response) = [] := by
  refine Traced.Emits.filter_eq_nil (Traced.Emits.mono (fun e he => ?_)
    (ofKinds_trigger resultingItems inputValues endpoint r))
  refine decide_eq_false fun hk => ?_
  rw [hk] at he
  exact absurd he (by decide)

theorem responses_bind_sendResponseMessage (x : World) (ev : MessagingEvent) {p : Traced Effect ResponseMessage}
    (hp : p.effects.filter (fun e => e.kind = .response) = []) (ret : Bool) {q : Traced Effect Bool}
    (hq : q = p >>= fun response => do
      sendResponseMessage x response ev.session ev.blockerId
      return ret) :
    q.value.isSome = (p.value.filter (·.Fits)).isSome ∧
      q.effects.filter (fun e => e.kind = .response) = ((p.value.filter (·.Fits)).map (ev.answer x)).toList := by
  subst hq
  cases hv : p.value with
  | none => simp [hv, hp]
  | some response => by_cases hfits : response.Fits <;> simp [hv, hp, hfits, sendResponseMessage_eq, Option.filter_some]

/-- **What is sent**: the response of the event, once and to where the event came from, unless there is none or
it does not fit; the event is then not processed to its end. -/
theorem processEvent_reply (x : World) (k : Controller) (ev : MessagingEvent) :
    (ev.processEvent x k).value.isSome = ((ev.reply x k).filter (·.Fits)).isSome ∧
      (ev.processEvent x k).effects.filter (fun e => e.kind = .response) =
        (((ev.reply x k).filter (·.Fits)).map (ev.answer x)).toList := by
  obtain ⟨⟨item, error⟩, hp⟩ : ∃ p, x.parse ev.inputValues ⟨[]⟩ = p := ⟨_, rfl⟩
  cases item with
  | none =>
    simp only [processEvent, reply, hp]
    exact responses_bind_sendResponseMessage x ev (p := (fun _ => _) <$> LOG_ERROR error) (by simp [LOG_ERROR])
      false rfl
  | some inputValues =>
    cases he : k.mapEndpoint ev.targetId ev.httpType with
    | none =>
      simp only [processEvent, reply, hp, he]
      exact responses_bind_sendResponseMessage x ev (p := (fun _ => _) <$> LOG_ERROR _) (by simp [LOG_ERROR]) false rfl
    | some entry =>
      have hfilter := filter_response_trigger x k ev .empty inputValues entry ⟨x.initialStatus, error⟩
      simp only [processEvent, reply, hp, he]
      rw [← Traced.value_map]
      refine responses_bind_sendResponseMessage x ev (by rw [Traced.effects_map]; exact hfilter) true ?_
      rw [bind_map_left]
      refine bind_congr fun outcome => ?_
      obtain ⟨ret, items, r⟩ := outcome
      cases ret <;> rfl

/-- A response that is sent is the one the event comes to, and fits. -/
theorem sendResponse_mem_processEvent_iff {session : SessionId} {response : ResponseMessage} {message : Message}
    {blockerId : UInt64} : .sendResponse session response message blockerId ∈ (ev.processEvent x k).effects ↔
      ev.reply x k = some response ∧ response.Fits ∧
        .sendResponse session response message blockerId = ev.answer x response := by
  have hmem : .sendResponse session response message blockerId ∈ (ev.processEvent x k).effects ↔
      .sendResponse session response message blockerId ∈
        (ev.processEvent x k).effects.filter (fun e => e.kind = .response) := by
    simp [List.mem_filter]
  rw [hmem, (processEvent_reply x k ev).2, Option.mem_toList, Option.map_eq_some_iff]
  constructor
  · rintro ⟨response', hfilter, heq⟩
    obtain ⟨hr, hfits⟩ := Option.filter_eq_some_iff.mp hfilter
    obtain ⟨-, rfl, -, -⟩ := Effect.sendResponse.inj heq
    exact ⟨hr, of_decide_eq_true hfits, heq.symm⟩
  · rintro ⟨hr, hfits, heq⟩
    exact ⟨response, Option.filter_eq_some_iff.mpr ⟨hr, decide_eq_true hfits⟩, heq.symm⟩

/-- Behind an endpoint, the response is what triggering leaves. -/
theorem reply_of_endpoint {inputValues : JsonItem} {error : ErrorContainer} {entry : EndpointEntry}
    (hp : x.parse ev.inputValues ⟨[]⟩ = (some inputValues, error))
    (he : k.mapEndpoint ev.targetId ev.httpType = some entry) : ev.reply x k =
      (ev.trigger x k .empty inputValues entry ⟨x.initialStatus, error⟩).value.map (outcomeResponse x) := by
  simp only [reply, hp, he]

/-! ### Exactly one answer -/

/-- The response that is sent, and what it says. -/
structure Answers (x : World) (k : Controller) (ev : MessagingEvent) (response : ResponseMessage) : Prop where
  /-- It is the only response, and goes to the session and the blocker-id of the event. -/
  once : (ev.processEvent x k).effects.filter (fun e => e.kind = .response) =
    [.sendResponse ev.session response (responseMessage x.padding response) ev.blockerId]
  /-- It is one of success exactly if all stages succeed. -/
  success : response.success = true ↔ ∃ output, ev.Succeeds x k output
  /-- It then holds the output. -/
  content : ∀ output, ev.Succeeds x k output → response.responseContent = x.mapToString output false

/-- The event is processed to its end, and answered once. -/
def AnsweredOnce (x : World) (k : Controller) (ev : MessagingEvent) : Prop :=
  (ev.processEvent x k).value.isSome ∧ ∃ response, Answers x k ev response

/-- The texts an event is to be answered with, by the stage it fails in, or by its output. -/
inductive AnswerText (x : World) (k : Controller) (ev : MessagingEvent) : Str → Prop where
  /-- The input values are not parsed. -/
  | unparsable {error : ErrorContainer} (hp : x.parse ev.inputValues ⟨[]⟩ = (none, error)) :
      AnswerText x k ev (x.errorToString error)
  /-- There is no endpoint. -/
  | noEndpoint {inputValues : JsonItem} {error : ErrorContainer}
      (hp : x.parse ev.inputValues ⟨[]⟩ = (some inputValues, error))
      (he : k.mapEndpoint ev.targetId ev.httpType = none) : AnswerText x k ev (x.errorToString (error.addMeesage
        (str "endpoint not found for id " ++ ev.targetId ++ str " and type " ++ str (toString ev.httpType.toNat))))
  /-- The permission is refused. -/
  | refused {inputValues : JsonItem} {error : ErrorContainer} {entry : EndpointEntry} {context : DataMap} {r : Refs}
      (hp : x.parse ev.inputValues ⟨[]⟩ = (some inputValues, error))
      (he : k.mapEndpoint ev.targetId ev.httpType = some entry)
      (hc : (permission x k ev inputValues ⟨x.initialStatus, error⟩).value = some (false, context, r)) :
      AnswerText x k ev r.status.errorMessage
  /-- There is no blossom, or it fails. -/
  | failed {entry : EndpointEntry} {context : DataMap} {initialValues : Option DataMap} {r : Refs} {errorMessage : Str}
      (hreach : Reaches x k ev entry context initialValues r)
      (hf : FailureMessage x.toLibs k.registeredBlossoms entry.name entry.group context r initialValues errorMessage) :
      AnswerText x k ev errorMessage
  /-- All stages succeed. -/
  | succeeded {output : DataMap} (hs : ev.Succeeds x k output) : AnswerText x k ev (x.mapToString output false)

/-- The text that the event is to be answered with fits into a response. -/
def TextFits (x : World) (k : Controller) (ev : MessagingEvent) : Prop :=
  ∀ text, AnswerText x k ev text → ResponseHeader.sizeOf + text.length < 2 ^ 32

/-- No regex that the values of the event get to throws. -/
def Matchable (x : World) (k : Controller) (ev : MessagingEvent) : Prop :=
  ∀ entry context r, ∀ values : DataMap, Reaches x k ev entry context values r →
    NoRegexThrows x.toLibs k.registeredBlossoms entry.name entry.group values

section

variable {entry : EndpointEntry} {context : DataMap} {initialValues : Option DataMap} {r : Refs}
variable (h : Reaches x k ev entry context initialValues r)
include h

theorem Reaches.reply_eq : ev.reply x k =
    (triggerBlossom x.toLibs k.registeredBlossoms .empty entry.name entry.group context initialValues r).value.map
      (outcomeResponse x) := by
  obtain ⟨inputValues, error, content, hp, he, -, -, -⟩ := id h
  rw [reply_of_endpoint hp he, h.value_trigger hp]

/-- The texts of an event that reaches its blossom. -/
theorem Reaches.answerText_iff (text : Str) : AnswerText x k ev text ↔
    FailureMessage x.toLibs k.registeredBlossoms entry.name entry.group context r initialValues text ∨
      ∃ output, ev.Succeeds x k output ∧ text = x.mapToString output false := by
  constructor
  · obtain ⟨inputValues, error, content, hp, he, hc, -, -⟩ := id h
    intro ht
    cases ht with
    | unparsable hp' => cases hp.symm.trans hp'
    | noEndpoint _ he' => cases he.symm.trans he'
    | refused hp' _ hc' =>
      cases hp.symm.trans hp'
      cases hc.symm.trans hc'
    | failed hreach hf =>
      obtain ⟨rfl, rfl, rfl, rfl⟩ := h.unique hreach
      exact .inl hf
    | succeeded hs => exact .inr ⟨_, hs, rfl⟩
  · rintro (hf | ⟨output, hs, rfl⟩)
    · exact .failed h hf
    · exact .succeeded hs

end

/-- An event that comes to a response without reaching its blossom is one to be answered with a failure. -/
theorem reply_of_not_reaches {response : ResponseMessage} (hr : ev.reply x k = some response)
    (hnot : ∀ entry context initialValues r, ¬ Reaches x k ev entry context initialValues r) :
    response.success = false ∧ ∀ text, AnswerText x k ev text ↔ text = response.responseContent := by
  have hsucceeds : ∀ output, ¬ ev.Succeeds x k output := fun output ⟨entry, context, r, values, hreach, _⟩ =>
    hnot entry context values r hreach
  obtain ⟨⟨item, error⟩, hp⟩ : ∃ p, x.parse ev.inputValues ⟨[]⟩ = p := ⟨_, rfl⟩
  cases item with
  | none =>
    simp only [reply, hp, Option.some.injEq] at hr
    subst hr
    refine ⟨rfl, fun text => ⟨fun ht => ?_, ?_⟩⟩
    · cases ht with
      | unparsable hp' => cases hp.symm.trans hp'; rfl
      | noEndpoint hp' | refused hp' => cases hp.symm.trans hp'
      | failed hreach => exact absurd hreach (hnot _ _ _ _)
      | succeeded hs => exact absurd hs (hsucceeds _)
    · rintro rfl
      exact .unparsable hp
  | some inputValues =>
    cases he : k.mapEndpoint ev.targetId ev.httpType with
    | none =>
      simp only [reply, hp, he, Option.some.injEq] at hr
      subst hr
      refine ⟨rfl, fun text => ⟨fun ht => ?_, ?_⟩⟩
      · cases ht with
        | unparsable hp' => cases hp.symm.trans hp'
        | noEndpoint hp' => cases hp.symm.trans hp'; rfl
        | refused _ he' => cases he.symm.trans he'
        | failed hreach => exact absurd hreach (hnot _ _ _ _)
        | succeeded hs => exact absurd hs (hsucceeds _)
      · rintro rfl
        exact .noEndpoint hp he
    | some entry =>
      rw [reply_of_endpoint hp he] at hr
      cases hc : (permission x k ev inputValues ⟨x.initialStatus, error⟩).value with
      | none =>
        rw [permission] at hc
        simp [trigger, hc] at hr
      | some outcome =>
        obtain ⟨ret, context, r⟩ := outcome
        cases ret with
        | true =>
          rw [value_trigger_of_permission hc] at hr
          cases hm : (ev.withoutToken inputValues).content with
          | none => simp [hm] at hr
          | some content => exact absurd ⟨inputValues, error, content, hp, he, hc, hm, rfl⟩ (hnot _ _ _ _)
        | false =>
          have hvalue : (ev.trigger x k .empty inputValues entry ⟨x.initialStatus, error⟩).value =
              some (false, .empty, r.setCode x.UNAUTHORIZED_RTYPE.toUInt64) := by
            rw [permission] at hc
            simp [trigger, hc]
          rw [hvalue] at hr
          cases hr
          refine ⟨rfl, fun text => ⟨fun ht => ?_, ?_⟩⟩
          · cases ht with
            | unparsable hp' => cases hp.symm.trans hp'
            | noEndpoint _ he' => cases he.symm.trans he'
            | refused hp' _ hc' =>
              cases hp.symm.trans hp'
              cases hc.symm.trans hc'
              rfl
            | failed hreach => exact absurd hreach (hnot _ _ _ _)
            | succeeded hs => exact absurd hs (hsucceeds _)
          · rintro rfl
            have ht := AnswerText.refused hp he hc
            exact ht

/-- An event whose blossom returns succeeds exactly if it returns true. -/
theorem Reaches.succeeds_iff_of_value {entry : EndpointEntry} {context : DataMap} {initialValues : Option DataMap}
    {r r' : Refs} {ret : Bool} {items : DataMap} (h : Reaches x k ev entry context initialValues r)
    (hv : (triggerBlossom x.toLibs k.registeredBlossoms .empty entry.name entry.group context initialValues r).value =
      some (ret, items, r')) (output : DataMap) : ev.Succeeds x k output ↔ ret = true ∧ items = output := by
  cases initialValues with
  | some values => rw [h.succeeds_iff, stagesPass_iff_of_value hv]
  | none =>
    obtain rfl : ret = false := by
      cases hb : getBlossom k.registeredBlossoms entry.group entry.name with
      | none => rw [triggerBlossom_noBlossom _ _ _ _ _ _ _ hb] at hv; cases hv; rfl
      | some b => rw [triggerBlossom_null _ _ _ _ _ _ _ hb] at hv; cases hv
    refine ⟨fun ⟨_, _, _, _, h', _⟩ => ?_, fun hret => absurd hret.1 (by decide)⟩
    obtain ⟨-, -, heq, -⟩ := h.unique h'
    cases heq

section

variable {response : ResponseMessage} (hr : ev.reply x k = some response)
include hr

/-- The text of the response an event comes to is the one it is to be answered with. -/
theorem answerText_iff (text : Str) : AnswerText x k ev text ↔ text = response.responseContent := by
  by_cases hreaches : ∃ entry context initialValues r, Reaches x k ev entry context initialValues r
  · obtain ⟨entry, context, initialValues, r, hreach⟩ := hreaches
    rw [hreach.reply_eq] at hr
    obtain ⟨⟨ret, items, r'⟩, hv, rfl⟩ := Option.map_eq_some_iff.mp hr
    simp only [hreach.answerText_iff, failureMessage_iff .empty, hreach.succeeds_iff_of_value hv, hv]
    cases ret <;> simp [outcomeResponse, eq_comm]
  · simp only [not_exists] at hreaches
    exact (reply_of_not_reaches hr hreaches).2 text

theorem textFits_iff : TextFits x k ev ↔ response.Fits := by
  simp only [TextFits, answerText_iff hr, forall_eq]
  rfl

/-- That response is one of success exactly if all stages succeed, and then holds the output. -/
theorem success_of_reply : (response.success = true ↔ ∃ output, ev.Succeeds x k output) ∧
    ∀ output, ev.Succeeds x k output → response.responseContent = x.mapToString output false := by
  by_cases hreaches : ∃ entry context initialValues r, Reaches x k ev entry context initialValues r
  · obtain ⟨entry, context, initialValues, r, hreach⟩ := hreaches
    rw [hreach.reply_eq] at hr
    obtain ⟨⟨ret, items, r'⟩, hv, rfl⟩ := Option.map_eq_some_iff.mp hr
    simp only [hreach.succeeds_iff_of_value hv]
    cases ret <;> simp [outcomeResponse]
  · simp only [not_exists] at hreaches
    have hnot : ∀ output, ¬ ev.Succeeds x k output := fun output ⟨entry, context, r, values, hreach, _⟩ =>
      hreaches entry context values r hreach
    simp [(reply_of_not_reaches hr hreaches).1, hnot]

end

/-- An event comes to a response unless a regex throws. -/
theorem Processable.isSome_reply_iff (h : Processable x k ev) : (ev.reply x k).isSome ↔ Matchable x k ev := by
  obtain ⟨⟨item, error⟩, hp⟩ : ∃ p, x.parse ev.inputValues ⟨[]⟩ = p := ⟨_, rfl⟩
  cases item with
  | none =>
    refine ⟨fun _ _ _ _ _ ⟨_, _, _, hp', _⟩ => ?_, fun _ => by simp only [reply, hp, Option.isSome_some]⟩
    cases hp.symm.trans hp'
  | some inputValues =>
    cases he : k.mapEndpoint ev.targetId ev.httpType with
    | none =>
      refine ⟨fun _ _ _ _ _ ⟨_, _, _, _, he', _⟩ => ?_, fun _ => by simp only [reply, hp, he, Option.isSome_some]⟩
      cases he.symm.trans he'
    | some entry =>
      obtain ⟨m, hm⟩ := h.object inputValues error hp
      obtain ⟨values, hv⟩ := Option.isSome_iff_exists.mp (isSome_toMap_withoutToken ev hm)
      obtain ⟨content, hcontent, hmap⟩ := Option.bind_eq_some_iff.mp hv
      obtain ⟨⟨ret, context, r⟩, hc⟩ := Option.isSome_iff_exists.mp (h.permission inputValues error hp)
      cases ret with
      | false =>
        rw [reply_of_endpoint hp he, Option.isSome_map]
        refine ⟨fun _ _ _ _ _ ⟨_, _, _, hp', _, hc', _⟩ => ?_, fun _ => ?_⟩
        · cases hp.symm.trans hp'
          cases hc.symm.trans hc'
        · rw [MessagingEvent.permission] at hc
          simp [trigger, hc]
      | true =>
        have hreach : Reaches x k ev entry context values r :=
          ⟨inputValues, error, content, hp, he, hc, hcontent, hmap.symm⟩
        rw [hreach.reply_eq, Option.isSome_map, isSome_value_iff_of_leavesItems _ _ (h.task _ _ _ _ hreach)]
        constructor
        · intro hregex entry' context' r' values' hreach'
          obtain ⟨rfl, rfl, heq, rfl⟩ := hreach.unique hreach'
          obtain rfl := Option.some_inj.mp heq
          exact hregex
        · exact fun hmatch => hmatch entry context r values hreach

/-- An event is processed to its end exactly if it comes to a response, and the text of it fits. -/
theorem isSome_value_processEvent_iff (x : World) (k : Controller) (ev : MessagingEvent) :
    (ev.processEvent x k).value.isSome ↔ (ev.reply x k).isSome ∧ TextFits x k ev := by
  rw [(processEvent_reply x k ev).1]
  cases hr : ev.reply x k with
  | none => simp
  | some response => by_cases hfits : response.Fits <;> simp [textFits_iff hr, hfits, Option.filter_some]

/-- An event that is processed to its end has sent the response it comes to, and no other. -/
theorem responses_of_value (h : (ev.processEvent x k).value.isSome) : ∃ response, ev.reply x k = some response ∧
    (ev.processEvent x k).effects.filter (fun e => e.kind = .response) =
      [.sendResponse ev.session response (responseMessage x.padding response) ev.blockerId] := by
  obtain ⟨hvalue, hresponses⟩ := processEvent_reply x k ev
  rw [hvalue] at h
  obtain ⟨response, hfilter⟩ := Option.isSome_iff_exists.mp h
  rw [hfilter] at hresponses
  exact ⟨response, (Option.filter_eq_some_iff.mp hfilter).1, hresponses⟩

/-- **When there is exactly one answer**: every event is answered once, on its own session with its own blocker-id,
with success exactly if all its stages succeed, and then with the output, unless a regex throws or the text is too
long for a response. -/
theorem answeredOnce_iff (x : World) (k : Controller) (ev : MessagingEvent) (h : Processable x k ev) :
    AnsweredOnce x k ev ↔ Matchable x k ev ∧ TextFits x k ev := by
  rw [← h.isSome_reply_iff, ← isSome_value_processEvent_iff]
  refine ⟨And.left, fun hv => ⟨hv, ?_⟩⟩
  obtain ⟨response, hr, honce⟩ := responses_of_value hv
  obtain ⟨hsuccess, hcontent⟩ := success_of_reply hr
  exact ⟨response, honce, hsuccess, hcontent⟩

end MessagingEvent

/-- A server with one blossom behind one endpoint, and no other component around. -/
def greeterController : Controller where
  registeredBlossoms := greeters
  endpointRules := (∅ : StdMap _).insert (str "v1/greet")
    ((∅ : Std.ExtTreeMap HttpRequestType EndpointEntry).insert 2 ⟨0, str "test", str "greet"⟩)
  misakiClient := none
  supportShiori := false
  shioriClient := none

/-- A request for that blossom without values. -/
def greetEvent : MessagingEvent := ⟨2, str "v1/greet", str "\x7b\x7d", 0, 7⟩

theorem mapEndpoint_greeterController : greeterController.mapEndpoint (str "v1/greet") 2 =
    some ⟨0, str "test", str "greet"⟩ := by
  simp [Controller.mapEndpoint, greeterController]

theorem processable_of_greet {k : Controller}
    (hk : k.mapEndpoint (str "v1/greet") 2 = some ⟨0, str "test", str "greet"⟩)
    (hb : ∀ b, getBlossom k.registeredBlossoms (str "test") (str "greet") = some b → b.runTask = greet) :
    MessagingEvent.Processable literalWorld k greetEvent := by
  refine ⟨?_, ?_, ?_⟩
  · intro inputValues error hp
    obtain ⟨rfl, -⟩ : JsonItem.ofMap .empty = inputValues ∧ _ := by
      simpa [literalWorld, greetEvent] using hp
    exact ⟨.empty, JsonItem.toMap_ofMap .empty⟩
  · intro inputValues error hp
    obtain ⟨rfl, rfl⟩ : JsonItem.ofMap .empty = inputValues ∧ ⟨[]⟩ = error := by
      simpa [literalWorld, greetEvent] using hp
    rfl
  · rintro entry context r values ⟨-, -, -, -, he, -, -, -⟩ b hblossom t ht -
    obtain rfl := Option.some_inj.mp (hk.symm.trans he)
    subst ht
    rw [Blossom.task, hb b hblossom]
    exact greet_gives_items _ context r

theorem processable_greetEvent : MessagingEvent.Processable literalWorld greeterController greetEvent :=
  processable_of_greet mapEndpoint_greeterController fun b hb => by
    obtain rfl := Option.some_inj.mp (getBlossom_greeters.symm.trans hb)
    rfl

/-- The request for the blossom is answered once. -/
theorem answeredOnce_greetEvent : MessagingEvent.AnsweredOnce literalWorld greeterController greetEvent := by
  have hr : greetEvent.reply literalWorld greeterController = some ⟨true, 0, str "\x7b\x7d"⟩ := rfl
  exact (MessagingEvent.answeredOnce_iff literalWorld greeterController greetEvent processable_greetEvent).mpr
    ⟨processable_greetEvent.isSome_reply_iff.mp (Option.isSome_of_eq_some hr),
      (MessagingEvent.textFits_iff hr).mpr (by decide)⟩

/-- The same blossom, with a regex that is none. -/
def unclosedCalls : List FieldCall :=
  [.registerInputField (str "name") .stringType false [],
    .addFieldDefault (str "name") (some (.value (.string (str "joe")))),
    .addFieldRegex (str "name") (str "[")]

/-- A server with that blossom behind the endpoint. -/
def unclosedController : Controller :=
  { greeterController with
    registeredBlossoms := (∅ : RegisteredBlossoms).insert (str "test")
      ((∅ : StdMap (Option Blossom)).insert (str "greet") (some (.ofCalls unclosedCalls false greet))) }

/-- The request crashes the server when the default is matched, and is not answered. -/
theorem not_answeredOnce_unclosedRegex : MessagingEvent.Processable literalWorld unclosedController greetEvent ∧
    ¬ MessagingEvent.AnsweredOnce literalWorld unclosedController greetEvent := by
  have hr : greetEvent.reply literalWorld unclosedController = none := rfl
  refine ⟨processable_of_greet ?_ fun b hb => ?_, fun h => ?_⟩
  · simp [Controller.mapEndpoint, unclosedController, greeterController]
  · obtain rfl : Blossom.ofCalls unclosedCalls false greet = b := by
      simpa [getBlossom, unclosedController] using hb
    rfl
  · have hv := h.1
    rw [(MessagingEvent.processEvent_reply ..).1, hr] at hv
    cases hv

end HanamiNetwork
