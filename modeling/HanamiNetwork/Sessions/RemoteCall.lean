import HanamiNetwork.Messaging.RoundTrip
import HanamiNetwork.Sessions.Answers

/-!
# Remote calls

A call of `triggerSakuraFile` on one side, a server with its other sessions and requests on the
other, and the session layer between them, which may lose a request or its response, but
invents and confuses nothing (`Relays`). `remoteCall` says that the call is then one of the
service: what it returns is what the service has for this very request, whatever else goes on
at the server, and in whatever order.

The bytes on both ways are those of the encoders, and the bound on the size of the request is that
of the wire format.
-/

namespace HanamiNetwork

open HanamiNetwork.Basis

/-- What the session layer promises of a request: a reply is a response that the server sent on the
session and with the blocker-id with which it got the request. -/
def Relays (y : World) (env : Environment) (es : List SessionEvent) (message : Message) (reply : Option DataBuffer) :
    Prop :=
  ∀ data, reply = some data → ∃ heap buf peer blockerId response sent heap', Delivers heap message buf ∧
    .arrive peer blockerId buf ∈ es ∧
    .sendResponse peer response sent blockerId ∈ (Serving.initial.run y env es).trace ∧ Delivers heap' sent data

/-- The response is what the service has for the event. -/
structure Returned (x : World) (k : Controller) (ev : MessagingEvent) (response : ResponseMessage) : Prop where
  /-- It is that of the service. -/
  served : serve x k ev.request = some response
  /-- It is one of success exactly if all stages succeed. -/
  success : response.success = true ↔ ∃ output, ev.Succeeds x k output
  /-- It then holds the output. -/
  content : ∀ output, ev.Succeeds x k output → response.responseContent = x.mapToString output false

theorem returned_of_serve {x : World} {k : Controller} {ev : MessagingEvent} {response : ResponseMessage}
    (h : serve x k ev.request = some response) : Returned x k ev response := by
  obtain ⟨hsuccess, hcontent⟩ := MessagingEvent.success_of_serve x k ev h
  exact ⟨h, hsuccess, hcontent⟩

/-- A call is one of the service, or lost. -/
structure RemoteCall (x : World) (env : Environment) (taken : List MessagingEvent) (request : RequestMessage)
    (before : ResponseMessage) (reply : Option DataBuffer) (ret : Bool) (response : ResponseMessage) : Prop where
  /-- The call succeeds exactly if there is a reply. -/
  replied : ret = true ↔ reply.isSome
  /-- It then returns what the service has for the request, which was taken from the queue. -/
  returned : ret = true → ∃ i ev, taken[i]? = some ev ∧ ev.request = request ∧
    Returned (env i).1 (env i).2 ev response
  /-- Otherwise it says so. -/
  lost : ret = false → response = { before with success := false, type := x.INTERNAL_SERVER_ERROR_RTYPE }

variable {x y : World} {env : Environment} {es : List SessionEvent} {request : RequestMessage}

/-- A reply decodes to what the service has for the request. -/
theorem returned_of_relays {reply : Option DataBuffer} {data : DataBuffer} (hreply : reply = some data)
    (hfits : SakuraTriggerHeader.sizeOf + request.id.length + request.inputValues.length < 2 ^ 32)
    (hfresh : ((Serving.arrivals es).map Serving.ticket).Nodup)
    (hrelays : Relays y env es (requestMessage x.padding request) reply) :
    data.usedBufferSize ≠ 0 ∧ ∃ i ev, (Serving.initial.run y env es).taken[i]? = some ev ∧ ev.request = request ∧
      Returned (env i).1 (env i).2 ev (decodeResponse data.mem).1 := by
  obtain ⟨heap, buf, peer, blockerId, r, sent, heap', hbuf, harrive, hsent, hdata⟩ := hrelays data hreply
  have hev : MessagingEvent.ofRequest request peer blockerId ∈ Serving.arrivals es := by
    refine List.mem_flatMap.mpr ⟨_, harrive, ?_⟩
    rw [SessionEvent.arriving, receive_requestMessage hfits hbuf]
    exact List.mem_singleton_self _
  obtain ⟨i, hi, hserve, rfl⟩ := Serving.served_of_sent hfresh hev hsent
  obtain ⟨hused, hdecode⟩ := decode_responseMessage (fits_of_serve hserve) hdata
  refine ⟨hused, i, _, hi, MessagingEvent.request_ofRequest request peer blockerId, ?_⟩
  rw [hdecode]
  exact returned_of_serve hserve

/-- **Calling a server is calling its service**: what a call over a session returns is what the
server's service has for this very request, at the turn the request had in the queue, or the
call fails because there was no reply. -/
theorem remoteCall {c : Client} {session : SessionId} (hs : c.session = some session) (before : ResponseMessage)
    (error : ErrorContainer)
    (hfits : SakuraTriggerHeader.sizeOf + request.id.length + request.inputValues.length < 2 ^ 32)
    (hfresh : ((Serving.arrivals es).map Serving.ticket).Nodup)
    (hrelays : Relays y env es (requestMessage x.padding request)
      (x.sendRequest session (requestMessage x.padding request) error).1) :
    ∃ ret response error', (triggerSakuraFile x c before request error).value = some (ret, response, error') ∧
      RemoteCall x env (Serving.initial.run y env es).taken request before
        (x.sendRequest session (requestMessage x.padding request) error).1 ret response := by
  obtain ⟨⟨reply, error₁⟩, hreply⟩ : ∃ p, x.sendRequest session (requestMessage x.padding request) error = p :=
    ⟨_, rfl⟩
  rw [hreply] at hrelays ⊢
  cases reply with
  | none =>
    refine ⟨false, { before with success := false, type := x.INTERNAL_SERVER_ERROR_RTYPE },
      (error₁.addMeesage (str "Timeout while triggering sakura-file with id: " ++ request.id)).addMeesage
        (str "Failed to trigger sakura-file."), ?_, by simp, by simp, fun _ => rfl⟩
    simp [triggerSakuraFile, value_withLock, hs, createRequest, hreply, LOG_ERROR]
  | some data =>
    obtain ⟨hused, hreturned⟩ := returned_of_relays rfl hfits hfresh hrelays
    refine ⟨true, (decodeResponse data.mem).1, error₁, ?_, by simp, fun _ => hreturned, by simp⟩
    simp [triggerSakuraFile, value_withLock, hs, createRequest, hreply, processResponse_of_used hused]

/-! ### A call of the greeter -/

/-- The request for the greeter. -/
def greetRequest : RequestMessage := ⟨str "v1/greet", 2, str "\x7b\x7d"⟩

/-- What the greeter sends back. -/
def greeting : ResponseMessage := ⟨true, 0, str "\x7b\x7d"⟩

/-- The request arrives at the greeter, and is processed. -/
def greetRun : List SessionEvent :=
  [.arrive 0 7 ((requestMessage literalWorld.padding greetRequest).received fun _ => 0), .process]

/-- The session layer of a client that brings back the greeting. -/
def greetedWorld : World := { literalWorld with
  sendRequest _ _ error := (some ((responseMessage literalWorld.padding greeting).received fun _ => 0), error) }

theorem arriving_greetRequest : (standaloneDataCallback 0 7
    ((requestMessage literalWorld.padding greetRequest).received fun _ => 0)).events = [greetEvent] := by
  rw [receive_requestMessage (by decide) (Message.delivers_received _ _)]
  rfl

theorem arrivals_greetRun : Serving.arrivals greetRun = [greetEvent] := by
  simp [Serving.arrivals, greetRun, SessionEvent.arriving, arriving_greetRequest]

theorem sent_greetRun {session : SessionId} {response : ResponseMessage} {message : Message} {blockerId : UInt64} :
    .sendResponse session response message blockerId ∈
      (Serving.initial.run literalWorld (fun _ => (literalWorld, greeterController)) greetRun).trace ↔
    session = 0 ∧ response = greeting ∧ message = responseMessage literalWorld.padding greeting ∧ blockerId = 7 := by
  have htrace : (Serving.initial.run literalWorld (fun _ => (literalWorld, greeterController)) greetRun).trace =
      (greetEvent.processEvent literalWorld greeterController).effects := by
    simp [Serving.run, greetRun, Serving.step, Serving.initial, System.step, System.initial, SessionEvent.callback,
      SessionEvent.arriving, arriving_greetRequest, deletedSessions]
  have hserve : serve literalWorld greeterController greetEvent.request = some greeting := by decide
  have hmem : .sendResponse session response message blockerId ∈
      (greetEvent.processEvent literalWorld greeterController).effects.filter (fun e => e.kind = .response) ↔ _ :=
    List.mem_filter
  rw [htrace, ← and_iff_left (a := _ ∈ _) (show decide ((Effect.sendResponse session response message
    blockerId).kind = .response) = true from rfl), ← hmem, MessagingEvent.responses_processEvent_eq, hserve]
  simp [MessagingEvent.answer, greetEvent]

/-- The greeter is called, and greets. -/
theorem remoteCall_greetRequest :
    ∃ ret response error', (triggerSakuraFile greetedWorld ⟨0, str "greeter", [], 0, some 3⟩
        greetedWorld.initialResponse greetRequest ⟨[]⟩).value = some (ret, response, error') ∧
      RemoteCall greetedWorld (fun _ => (literalWorld, greeterController))
        (Serving.initial.run literalWorld (fun _ => (literalWorld, greeterController)) greetRun).taken greetRequest
        greetedWorld.initialResponse (greetedWorld.sendRequest 3 (requestMessage greetedWorld.padding greetRequest)
          ⟨[]⟩).1 ret response := by
  refine remoteCall rfl _ _ (by decide) (by simp [arrivals_greetRun]) ?_
  intro data hdata
  obtain rfl := Option.some_inj.mp hdata
  exact ⟨_, _, 0, 7, greeting, _, _, Message.delivers_received (fun _ => 0) _, List.mem_cons_self,
    sent_greetRun.mpr ⟨rfl, rfl, rfl, rfl⟩, Message.delivers_received (fun _ => 0) _⟩

end HanamiNetwork
