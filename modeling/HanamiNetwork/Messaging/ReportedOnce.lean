import HanamiNetwork.Messaging.Gate
import HanamiNetwork.Messaging.SelfLock

/-!
# Reporting a failed blossom

There are two ways from a blossom that fails to shiori. `triggerBlossom` and `trigger` log its
error, which calls `sendGenericErrorMessage`; and `trigger` calls `sendErrorMessage`, which
is there for requests of a user and leaves the others to the first way. The first way does
not leave any request to the second, however: `reportedOnce_iff` says that a failure is
reported once exactly if the context names no user.

Whatever is logged on the way is the one error container of the request. It is reported when
it is logged first, and not again; a send that is accepted logs nothing of its own.
-/

namespace HanamiNetwork

open HanamiNetwork.Basis

/-- A trace that logs one error container, with the report of it where it is logged first. -/
def reportContainer (x : World) (reportOf : ErrorContainer → Report) : List Effect → Reporter → List Effect
  | [], _ => []
  | .logError error :: es, s => .logError error :: ((sendGenericErrorMessage x 0 (reportOf error) s).effects ++ es)
  | e :: es, s => e :: reportContainer x reportOf es s

/-- What `sendGenericErrorMessage` finds, with the flag down. -/
def Controller.reporter (k : Controller) : Reporter := ⟨k.supportShiori, k.shioriClient, false⟩

/-- Shiori is supported, its client is there, and messages for it can be serialised. -/
structure ShioriReady (x : World) (k : Controller) (reportOf : ErrorContainer → Report) (client : Client) : Prop where
  /-- Shiori is supported. -/
  supported : k.supportShiori = true
  /-- Its client is there. -/
  client : k.shioriClient = some client
  /-- The user-specific message is serialised. -/
  serialised : ∀ message, (x.serialize message).isSome
  /-- So is that of a report. -/
  reported : ∀ error, (reportOf error).buffer.isSome

theorem filter_report {x : World} {k : Controller} {reportOf : ErrorContainer → Report} {client : Client}
    (h : ShioriReady x k reportOf client) (error : ErrorContainer) :
    ∃ buffer, (sendGenericErrorMessage x 0 (reportOf error) k.reporter).effects.filter Effect.isGenericMessage =
      [.genericMessage client.id x.SHIORI_ERROR_LOG_MESSAGE_TYPE buffer] := by
  obtain ⟨buffer, hb⟩ := Option.isSome_iff_exists.mp (h.reported error)
  have hhands : Hands k.reporter (reportOf error) client buffer := ⟨h.supported, rfl, h.client, hb⟩
  obtain ⟨nested, hcall⟩ := effects_of_hands x 0 hhands
  exact ⟨buffer, by rw [hcall, filter_handOver]⟩

/-- Whatever tasks and logs come before, a trace that logs its error hands over one report. -/
theorem filter_reportContainer {x : World} {k : Controller} {reportOf : ErrorContainer → Report} {client : Client}
    (h : ShioriReady x k reportOf client) {es : List Effect} (hes : ∀ e ∈ es, e.kind ∈ [.log, .task])
    (error : ErrorContainer) (es' : List Effect) :
    ∃ buffer, (reportContainer x reportOf (es ++ .logError error :: es') k.reporter).filter Effect.isGenericMessage =
      .genericMessage client.id x.SHIORI_ERROR_LOG_MESSAGE_TYPE buffer :: es'.filter Effect.isGenericMessage := by
  have hquiet : ∀ e : Effect, e.kind ∈ [.log, .task] → e.isGenericMessage = false := by
    intro e he
    cases e <;> simp [Effect.kind] at he <;> rfl
  induction es with
  | nil =>
    obtain ⟨buffer, hreport⟩ := filter_report h error
    exact ⟨buffer, by simp [reportContainer, hreport, Effect.isGenericMessage]⟩
  | cons e es ih =>
    obtain ⟨he, hrest⟩ := List.forall_mem_cons.mp hes
    clear hes
    cases e with
    | logError first =>
      obtain ⟨buffer, hreport⟩ := filter_report h first
      have hnone : es.filter Effect.isGenericMessage = [] :=
        List.filter_eq_nil_iff.mpr fun e he => by simp [hquiet e (hrest e he)]
      exact ⟨buffer, by simp [reportContainer, hreport, hnone, Effect.isGenericMessage]⟩
    | runTask groupName itemName input context =>
      obtain ⟨buffer, hreport⟩ := ih hrest
      exact ⟨buffer, by simpa [reportContainer, Effect.isGenericMessage] using hreport⟩
    | _ => simp [Effect.kind] at he

theorem filter_sendErrorMessage {x : World} {k : Controller} {reportOf : ErrorContainer → Report} {client : Client}
    (h : ShioriReady x k reportOf client) (context : DataMap) (inputValues : JsonItem) (errorMessage : Str) :
    ∃ buffer, (sendErrorMessage x k context inputValues errorMessage).effects.filter Effect.isGenericMessage =
      if x.getStringByKey context (str "id") = [] then []
      else [.genericMessage client.id x.SHIORI_ERROR_LOG_MESSAGE_TYPE buffer] := by
  let msg : ErrorLogMessage :=
    { userid := x.getStringByKey context (str "id")
      context := x.mapToString context true
      values := x.jsonToString inputValues true
      component := x.localComponent
      errormsg := errorMessage }
  obtain ⟨buffer, hb⟩ := Option.isSome_iff_exists.mp (h.serialised msg)
  refine ⟨buffer, ?_⟩
  split_ifs with hid
  · simp [sendErrorMessage, hid]
  · cases hs : client.session <;>
      simp [sendErrorMessage, h.supported, h.client, hid, msg, hb, hs, sendGenericMessage, withLock,
        List.filter_cons, Effect.isGenericMessage]

namespace MessagingEvent

variable (x : World) (k : Controller) (ev : MessagingEvent)

/-- The call of `triggerBlossom` fails; the blossom is triggered with this context. -/
def BlossomFails (resultingItems : DataMap) (inputValues : JsonItem) (endpoint : EndpointEntry) (r : Refs)
    (context : DataMap) : Prop :=
  ∃ r' content result r'', accepted x (token x inputValues) r = some (context, r') ∧
    (ev.withoutToken inputValues).content = some content ∧
    (triggerBlossom x.toLibs k.registeredBlossoms resultingItems endpoint.name endpoint.group context content.toMap
      r').value = some (false, result, r'')

/-- One message is handed over while the request is triggered, and it is one for shiori. -/
def ReportedOnce (reportOf : ErrorContainer → Report) (resultingItems : DataMap) (inputValues : JsonItem)
    (endpoint : EndpointEntry) (r : Refs) (client : Client) : Prop :=
  ∃ buffer, (reportContainer x reportOf (ev.trigger x k resultingItems inputValues endpoint r).effects
      k.reporter).filter Effect.isGenericMessage =
    [.genericMessage client.id x.SHIORI_ERROR_LOG_MESSAGE_TYPE buffer]

variable {x k ev}

theorem permission_of_accepted {inputValues : JsonItem} {r r' : Refs} {context : DataMap}
    (h : accepted x (token x inputValues) r = some (context, r')) :
    permission x k ev inputValues r = ⟨[], some (true, context, r')⟩ := by
  have hparses : TokenParses x (token x inputValues) r.error := by
    by_contra hnot
    obtain ⟨ht, hp⟩ := not_or.mp hnot
    simp [accepted, ht, Option.not_isSome_iff_eq_none.mp hp] at h
  ext1
  · rw [permission, skipPermission_eq_true, (checkPermission_skipped ..).1]
  · rw [value_permission_of_parses k ev hparses, h]
    rfl

/-- What triggering a request whose blossom fails leaves behind. -/
theorem effects_trigger_of_failed {inputValues : JsonItem} {r r' r'' : Refs} {context result : DataMap}
    {content : DataItem} {resultingItems : DataMap} {endpoint : EndpointEntry}
    (ha : accepted x (token x inputValues) r = some (context, r'))
    (hv : (ev.withoutToken inputValues).content = some content)
    (hf : (triggerBlossom x.toLibs k.registeredBlossoms resultingItems endpoint.name endpoint.group context
      content.toMap r').value = some (false, result, r'')) :
    (ev.trigger x k resultingItems inputValues endpoint r).effects =
      (triggerBlossom x.toLibs k.registeredBlossoms resultingItems endpoint.name endpoint.group context content.toMap
        r').effects ++ .logError r''.error ::
      (sendErrorMessage x k context (ev.withoutToken inputValues) (x.errorToString r''.error)).effects := by
  have hcheck : permission x k ev inputValues r = ⟨[], some (true, context, r')⟩ := permission_of_accepted ha
  rw [permission] at hcheck
  simp [trigger, hcheck, hv, hf, LOG_ERROR]

theorem messages_of_blossomFails {reportOf : ErrorContainer → Report} {client : Client} {resultingItems : DataMap}
    {inputValues : JsonItem} {endpoint : EndpointEntry} {r : Refs} {context : DataMap}
    (hready : ShioriReady x k reportOf client)
    (hfails : BlossomFails x k ev resultingItems inputValues endpoint r context) :
    ∃ first second, (reportContainer x reportOf (ev.trigger x k resultingItems inputValues endpoint r).effects
        k.reporter).filter Effect.isGenericMessage =
      .genericMessage client.id x.SHIORI_ERROR_LOG_MESSAGE_TYPE first ::
        if x.getStringByKey context (str "id") = [] then []
        else [.genericMessage client.id x.SHIORI_ERROR_LOG_MESSAGE_TYPE second] := by
  obtain ⟨r', content, result, r'', ha, hv, hf⟩ := hfails
  obtain ⟨second, hsecond⟩ := filter_sendErrorMessage hready context (ev.withoutToken inputValues)
    (x.errorToString r''.error)
  obtain ⟨first, hfirst⟩ := filter_reportContainer hready
    (ofKinds_triggerBlossom x.toLibs k.registeredBlossoms resultingItems endpoint.name endpoint.group context r'
      content.toMap) r''.error
    (sendErrorMessage x k context (ev.withoutToken inputValues) (x.errorToString r''.error)).effects
  exact ⟨first, second, by rw [effects_trigger_of_failed ha hv hf, hfirst, hsecond]⟩

/-- **When a failure is reported once**: with shiori ready, exactly if the context names no user. -/
theorem reportedOnce_iff (x : World) (k : Controller) (ev : MessagingEvent) (reportOf : ErrorContainer → Report)
    (resultingItems : DataMap) (inputValues : JsonItem) (endpoint : EndpointEntry) (r : Refs) (client : Client)
    (context : DataMap) (hready : ShioriReady x k reportOf client)
    (hfails : BlossomFails x k ev resultingItems inputValues endpoint r context) :
    ReportedOnce x k ev reportOf resultingItems inputValues endpoint r client ↔
      x.getStringByKey context (str "id") = [] := by
  obtain ⟨first, second, hmessages⟩ := messages_of_blossomFails hready hfails
  rw [ReportedOnce, hmessages]
  split_ifs with hid <;> simp [hid]

/-- The server with one blossom, with shiori around. -/
def shioriController : Controller :=
  { greeterController with
    supportShiori := true
    shioriClient := some shioriClient }

/-- A world in which every token is the one of a user. -/
def userWorld : World :=
  { literalWorld with
    getJwtTokenPayload := fun _ error =>
      (some (.ofMap (DataMap.empty.insert (str "id") (some (.value (.string (str "joe")))) true)), error) }

/-- Values that the blossom refuses: the name does not match. -/
def strangerValues : DataMap := DataMap.empty.insert (str "name") (some (.value (.string (str "jim")))) true

/-- The same, with a token. -/
def strangerWithToken : DataMap := strangerValues.insert (str "token") (some (.value (.string (str "t")))) true

/-- A report that is sent. -/
def sentReport (error : ErrorContainer) : Report :=
  .mk error.messages.flatten (some error.messages.flatten) true ⟨[]⟩ []

theorem content_withoutToken_greetEvent (m : DataMap) :
    (greetEvent.withoutToken (.ofMap m)).content = (JsonItem.ofMap (m.remove (str "token"))).content := by
  have hne : greetEvent.targetId ≠ str "v1/auth" := by decide
  simp [withoutToken, hne, JsonItem.remove, JsonItem.toMap_ofMap]

/-- A request without a token is reported once. -/
theorem reportedOnce_iff_stranger :
    ReportedOnce literalWorld shioriController greetEvent sentReport .empty (.ofMap strangerValues)
        ⟨0, str "test", str "greet"⟩ freshRefs shioriClient ↔
      literalWorld.getStringByKey .empty (str "id") = [] :=
  reportedOnce_iff literalWorld shioriController greetEvent sentReport .empty (.ofMap strangerValues)
    ⟨0, str "test", str "greet"⟩ freshRefs shioriClient .empty ⟨rfl, rfl, fun _ => rfl, fun _ => rfl⟩
    ⟨freshRefs, _, _, _, if_pos (by decide), content_withoutToken_greetEvent _, rfl⟩

/-- The request of a user is reported twice. -/
theorem not_reportedOnce_user :
    ∃ context, ShioriReady userWorld shioriController sentReport shioriClient ∧
      BlossomFails userWorld shioriController greetEvent .empty (.ofMap strangerWithToken)
        ⟨0, str "test", str "greet"⟩ freshRefs context ∧
      ¬ ReportedOnce userWorld shioriController greetEvent sentReport .empty (.ofMap strangerWithToken)
        ⟨0, str "test", str "greet"⟩ freshRefs shioriClient := by
  have hready : ShioriReady userWorld shioriController sentReport shioriClient :=
    ⟨rfl, rfl, fun _ => rfl, fun _ => rfl⟩
  have hfails : ∃ context, BlossomFails userWorld shioriController greetEvent .empty (.ofMap strangerWithToken)
      ⟨0, str "test", str "greet"⟩ freshRefs context ∧ userWorld.getStringByKey context (str "id") ≠ [] := by
    refine ⟨_, ⟨freshRefs, _, _, _, rfl, content_withoutToken_greetEvent _, rfl⟩, ?_⟩
    decide
  obtain ⟨context, hfails, hid⟩ := hfails
  obtain ⟨first, second, hmessages⟩ := messages_of_blossomFails hready hfails
  rw [if_neg hid] at hmessages
  refine ⟨context, hready, hfails, ?_⟩
  rintro ⟨buffer, honce⟩
  rw [hmessages] at honce
  simp at honce

end MessagingEvent

end HanamiNetwork
