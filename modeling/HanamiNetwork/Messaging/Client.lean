import HanamiNetwork.Data.World

/-!
# The messaging client

`HanamiMessagingClient` (`hanami_messaging_client.cpp`): a client object with its session,
the messages it builds and sends over it, and the responses it takes apart. Whatever sends
or closes runs under the client's `m_sessionLock`; the lock shows in the trace.

The messages are built apart from the functions that send them (`requestMessage`,
`genericMessage`, and `responseMessage` of the other side), and the response is taken
apart by `decodeResponse`.
-/

namespace HanamiNetwork

open HanamiNetwork.Basis

/-- `HanamiMessagingClient`. -/
structure Client where
  /-- The object, and with it its `m_sessionLock`. -/
  id : ClientId
  /-- `m_remoteIdentifier`. -/
  remoteIdentifier : Str
  /-- `m_address`. -/
  address : Str
  /-- `m_port`. -/
  port : UInt16
  /-- `m_session`. -/
  session : Option SessionId

/-- The error message of every function that finds no session. -/
def noSession : Str := str "Hanami-client is not initialized with a session"

/-! ### Building messages -/

/-- The buffer `createRequest` builds. -/
def requestMessage (pad : ℕ → UInt8) (request : RequestMessage) : Message :=
  let totalSize : UInt64 := UInt64.ofNat SakuraTriggerHeader.sizeOf + UInt64.ofNat request.id.length +
    UInt64.ofNat request.inputValues.length
  let header : SakuraTriggerHeader :=
    { idSize := UInt32.ofNat request.id.length
      requestType := request.httpType
      inputValuesSize := UInt32.ofNat request.inputValues.length }
  -- the 32-bit `positionCounter`, behind the header and behind the id
  let position₁ : UInt32 := 0 + UInt32.ofNat SakuraTriggerHeader.sizeOf
  let position₂ : UInt32 := position₁ + UInt32.ofNat request.id.length
  { size := totalSize
    writes := [(0, header.bytes pad), (position₁.toNat, request.id), (position₂.toNat, request.inputValues)] }

/-- The buffer `sendGenericMessage` and `sendGenericRequest` build. -/
def genericMessage (pad : ℕ → UInt8) (subType : UInt32) (data : List UInt8) : Message :=
  let dataSize : UInt64 := UInt64.ofNat data.length
  let header : SakuraGenericHeader := { size := dataSize.toUInt32, subType := subType }
  { size := UInt64.ofNat SakuraGenericHeader.sizeOf + dataSize
    writes := [(0, header.bytes pad), (SakuraGenericHeader.sizeOf, data)] }

/-- The buffer `sendResponseMessage` builds; its size is a sum of 32 bits. -/
def responseMessage (pad : ℕ → UInt8) (response : ResponseMessage) : Message :=
  let responseMessageSize : UInt32 :=
    UInt32.ofNat ResponseHeader.sizeOf + UInt32.ofNat response.responseContent.length
  let responseHeader : ResponseHeader :=
    { success := response.success
      responseType := response.type
      messageSize := UInt32.ofNat response.responseContent.length }
  let positionCounter : UInt32 := 0 + UInt32.ofNat ResponseHeader.sizeOf
  { size := responseMessageSize.toUInt64
    writes := [(0, responseHeader.bytes pad), (positionCounter.toNat, response.responseContent)] }

/-- The size of the message fits into its 32 bits. -/
def ResponseMessage.Fits (response : ResponseMessage) : Prop :=
  ResponseHeader.sizeOf + response.responseContent.length < 2 ^ 32

instance (response : ResponseMessage) : Decidable response.Fits := inferInstanceAs (Decidable (_ < _))

/-- `sendResponseMessage` (`messaging_event.cpp`), of its three arguments that make the response. It
copies before it sends, so a copy to outside of the buffer lets it crash. -/
def sendResponseMessage (x : World) (response : ResponseMessage) (session : SessionId) (blockerId : UInt64) :
    Traced Effect Unit :=
  let message := responseMessage x.padding response
  if message.Inside then Traced.emit (.sendResponse session response message blockerId) else Traced.ofOption none

/-! ### Sending generic messages -/

/-- `sendGenericMessage`; `send` is `sendNormalMessage` of the session, with what it changes of `s`. -/
def sendGenericMessage {σ : Type} (x : World) (c : Client) (subType : UInt32) (data : List UInt8)
    (error : ErrorContainer) (s : σ)
    (send : SessionId → Message → ErrorContainer → σ → Traced Effect (Bool × ErrorContainer × σ)) :
    Traced Effect (Bool × ErrorContainer × σ) := do
  Traced.emit (.genericMessage c.id subType data)
  withLock c.id <| match c.session with
    | none => pure (false, error.addMeesage noSession, s)
    | some session => do
      let message := genericMessage x.padding subType data
      Traced.emit (.sendNormalMessage session message)
      send session message error s

/-- `sendGenericRequest`. -/
def sendGenericRequest (x : World) (c : Client) (subType : UInt32) (data : List UInt8) (error : ErrorContainer) :
    Traced Effect (Option DataBuffer × ErrorContainer) :=
  withLock c.id <| match c.session with
    | none => pure (none, error.addMeesage noSession)
    | some session => do
      let message := genericMessage x.padding subType data
      let (result, error) := x.sendRequest session message error
      Traced.emit (.sendRequest session message result)
      return (result, error)

/-! ### Requests -/

/-- What `processResponse` takes out of a response, and what it reads of it. -/
def decodeResponse (m : Mem) : ResponseMessage × List Span :=
  let header := ResponseHeader.read m
  let pos : UInt32 := UInt32.ofNat ResponseHeader.sizeOf
  let messageSpan : Span := ⟨pos.toNat, header.messageSize.toNat⟩
  ({ success := header.success
     type := header.responseType
     responseContent := readAt m messageSpan.off messageSpan.len },
    [messageSpan, ⟨8, 4⟩, ⟨1, 1⟩, ⟨4, 4⟩])

/-- `processResponse`. -/
def processResponse (response : ResponseMessage) (responseData : DataBuffer) (error : ErrorContainer) :
    Traced Effect (Bool × ResponseMessage × ErrorContainer) := do
  if responseData.usedBufferSize = 0 ∨ responseData.data.isNone then
    let error := error.addMeesage (str "missing message-content")
    LOG_ERROR error
    return (false, response, error)
  else
    return (true, (decodeResponse responseData.mem).1, error)

/-- `createRequest`. -/
def createRequest (x : World) (session : SessionId) (response : ResponseMessage) (request : RequestMessage)
    (error : ErrorContainer) : Traced Effect (Bool × ResponseMessage × ErrorContainer) := do
  let message := requestMessage x.padding request
  let (responseData, error) := x.sendRequest session message error
  Traced.emit (.sendRequest session message responseData)
  match responseData with
  | none =>
    let error := error.addMeesage (str "Timeout while triggering sakura-file with id: " ++ request.id)
    LOG_ERROR error
    return (false, response, error)
  | some responseData => processResponse response responseData error

/-- `triggerSakuraFile`. -/
def triggerSakuraFile (x : World) (c : Client) (response : ResponseMessage) (request : RequestMessage)
    (error : ErrorContainer) : Traced Effect (Bool × ResponseMessage × ErrorContainer) :=
  withLock c.id <| match c.session with
    | none => pure (false, response, error.addMeesage noSession)
    | some session => do
      let (ret, response, error) ← createRequest x session response request error
      if ret = false then
        let response := { response with success := false, type := x.INTERNAL_SERVER_ERROR_RTYPE }
        return (false, response, error.addMeesage (str "Failed to trigger sakura-file."))
      else
        return (true, response, error)

/-! ### Closing -/

/-- What a call of `closeSession` gives. -/
structure CloseOutcome where
  /-- The value that is returned. -/
  closed : Bool
  /-- The messages that are put into the error container. -/
  messages : List Str

/-- `closeClient`. -/
def closeClient (c : Client) (outcome : CloseOutcome) (error : ErrorContainer) :
    Traced Effect (Bool × Client × ErrorContainer) :=
  withLock c.id <| match c.session with
    | none => pure (false, c, error.addMeesage noSession)
    | some session => do
      Traced.emit (.closeSession session)
      let error : ErrorContainer := ⟨error.messages ++ outcome.messages⟩
      if outcome.closed = false then
        return (false, c, error.addMeesage (str "Closing Hanami-client failed"))
      else
        Traced.emit (.deleteSession session)
        return (true, { c with session := none }, error)

/-- `~HanamiMessagingClient`, which closes the client first. -/
def deleteClient (c : Client) (outcome : CloseOutcome) : Traced Effect Unit := do
  let (ret, c, error) ← closeClient c outcome ⟨[]⟩
  if ret = false then LOG_ERROR error
  Traced.emit (.deleteClient c.id)

/-- `replaceSession`. -/
def replaceSession (c : Client) (newSession : SessionId) : Client := { c with session := some newSession }

/-! ### What the functions leave behind -/

section

variable {x : World} {pad : ℕ → UInt8} {response : ResponseMessage} {session : SessionId} {blockerId : UInt64}

theorem responseMessage_size (h : response.Fits) :
    (responseMessage pad response).size.toNat = 12 + response.responseContent.length := by
  simp only [ResponseMessage.Fits, ResponseHeader.sizeOf] at h
  simp only [responseMessage, ResponseHeader.sizeOf, UInt32.toNat_toUInt64]
  exact toNat_ofNat_add (a := 12) h

/-- The buffer of a response is large enough exactly if its size has not wrapped. -/
theorem inside_responseMessage_iff : (responseMessage pad response).Inside ↔ response.Fits := by
  have h12 : (0 + UInt32.ofNat 12).toNat = 12 := rfl
  constructor
  · intro h
    have hcontent := h _ (List.mem_cons_of_mem _ List.mem_cons_self)
    have hlt := (UInt32.ofNat ResponseHeader.sizeOf + UInt32.ofNat response.responseContent.length).toNat_lt
    simp only [responseMessage, ResponseHeader.sizeOf, UInt32.toNat_toUInt64, h12] at hcontent hlt
    exact hcontent.trans_lt hlt
  · intro h w hw
    rw [responseMessage_size h]
    simp only [responseMessage, List.mem_cons, List.not_mem_nil, or_false, ResponseHeader.sizeOf, h12] at hw
    rcases hw with rfl | rfl
    · simp [ResponseHeader.sizeOf]
    · exact le_rfl

theorem sendResponseMessage_of_fits (h : response.Fits) : sendResponseMessage x response session blockerId =
    Traced.emit (.sendResponse session response (responseMessage x.padding response) blockerId) :=
  if_pos (inside_responseMessage_iff.mpr h)

theorem sendResponseMessage_of_not_fits (h : ¬ response.Fits) :
    sendResponseMessage x response session blockerId = Traced.ofOption none :=
  if_neg (mt inside_responseMessage_iff.mp h)

end

theorem processResponse_empty {response : ResponseMessage} {data : DataBuffer} {error : ErrorContainer}
    (h : data.usedBufferSize = 0 ∨ data.data.isNone) : processResponse response data error =
      ⟨[.logError (error.addMeesage (str "missing message-content"))],
        some (false, response, error.addMeesage (str "missing message-content"))⟩ := by
  simp only [processResponse, h, if_true]
  rfl

theorem processResponse_of_used {response : ResponseMessage} {data : DataBuffer} {error : ErrorContainer}
    (h : data.usedBufferSize ≠ 0) : processResponse response data error =
      ⟨[], some (true, (decodeResponse data.mem).1, error)⟩ := by
  have hd : ¬ (data.usedBufferSize = 0 ∨ data.data.isNone) := by
    rintro (h' | h')
    · exact h h'
    · have hs := data.hasData h
      rw [Option.isNone_iff_eq_none.mp h'] at hs
      cases hs
  simp only [processResponse, hd, if_false]
  rfl

section

variable {c : Client} {session : SessionId} {outcome : CloseOutcome}

theorem closeClient_of_none (h : c.session = none) (outcome : CloseOutcome) (error : ErrorContainer) :
    closeClient c outcome error = ⟨[.lock c.id, .unlock c.id], some (false, c, error.addMeesage noSession)⟩ := by
  simp only [closeClient, h]
  rfl

theorem closeClient_of_failed (h : c.session = some session) (ho : outcome.closed = false) (error : ErrorContainer) :
    closeClient c outcome error = ⟨[.lock c.id, .closeSession session, .unlock c.id],
      some (false, c, (ErrorContainer.mk (error.messages ++ outcome.messages)).addMeesage
        (str "Closing Hanami-client failed"))⟩ := by
  simp only [closeClient, h, ho]
  rfl

theorem closeClient_of_closed (h : c.session = some session) (ho : outcome.closed = true) (error : ErrorContainer) :
    closeClient c outcome error = ⟨[.lock c.id, .closeSession session, .deleteSession session, .unlock c.id],
      some (true, { c with session := none }, ⟨error.messages ++ outcome.messages⟩)⟩ := by
  simp only [closeClient, h, ho]
  rfl

end

/-- Asking a client for something takes a lock, sends a request and logs errors. -/
theorem ofKinds_triggerSakuraFile (x : World) (c : Client) (response : ResponseMessage) (request : RequestMessage)
    (error : ErrorContainer) : OfKinds [.log, .lock, .request] (triggerSakuraFile x c response request error) := by
  have hprocess : ∀ response data error, OfKinds [.log, .lock, .request] (processResponse response data error) := by
    intro response data error
    unfold processResponse
    split_ifs
    · exact (ofKinds_emit (by simp [Effect.kind])).bind fun _ => Traced.emits_pure _
    · exact Traced.emits_pure _
  have hcreate : ∀ session, OfKinds [.log, .lock, .request] (createRequest x session response request error) := by
    intro session
    refine (ofKinds_emit (by simp [Effect.kind])).bind fun _ => ?_
    split
    · exact (ofKinds_emit (by simp [Effect.kind])).bind fun _ => Traced.emits_pure _
    · exact hprocess _ _ _
  refine emits_withLock (by simp [Effect.kind]) (by simp [Effect.kind]) ?_
  split
  · exact Traced.emits_pure _
  · refine (hcreate _).bind fun ⟨ret, response, error⟩ => ?_
    dsimp only
    split_ifs <;> exact Traced.emits_pure _

end HanamiNetwork
