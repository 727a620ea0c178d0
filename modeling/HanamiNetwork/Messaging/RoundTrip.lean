import HanamiNetwork.Messaging.Callbacks
import HanamiNetwork.Messaging.Client

/-!
# The wire round trip

A sender copies a header and its parts into a buffer, one behind the other; the session
layer delivers the bytes; a decoder takes them apart again. As long as the header and
the parts together are shorter than `2³²` bytes, what the decoder gets is what the
sender was given, whatever the padding of the header and the rest of the memory hold,
and the decoder reads the bytes that were written and no others.

Each of the three formats has a lemma about its decoder (`receive_requestMessage` and so
on), which says what is decoded and what is read, and each sender one about the message it
hands to the session layer (`firstSent_createRequest` and so on); `round_trip` puts them
together.
-/

namespace HanamiNetwork

open HanamiNetwork.Basis

/-- The offsets a decoder consumed. -/
def Consumed (reads : List Span) (o : ℕ) : Prop := ∃ s ∈ reads, s.Touches o

/-- The offsets a sender wrote. -/
def Message.Wrote (msg : Message) (o : ℕ) : Prop := ∃ w ∈ msg.writes, w.1 ≤ o ∧ o < w.1 + w.2.length

variable {pad : ℕ → UInt8} {heap : Mem} {buf : DataBuffer}

/-! ### Requests -/

section

variable {request : RequestMessage}

/-- The header `createRequest` writes. -/
def requestHeader (request : RequestMessage) : SakuraTriggerHeader :=
  ⟨request.httpType, UInt32.ofNat request.id.length, UInt32.ofNat request.inputValues.length⟩

/-- A short request is built from three parts, one behind the other. -/
theorem requestMessage_writes (h : SakuraTriggerHeader.sizeOf + request.id.length +
    request.inputValues.length < 2 ^ 32) : (requestMessage pad request).writes =
      [(0, (requestHeader request).bytes pad), (16, request.id),
        (16 + request.id.length, request.inputValues)] := by
  simp only [SakuraTriggerHeader.sizeOf] at h
  have hpos := toNat_ofNat_add (a := 16) (b := request.id.length) (by omega)
  simp only [requestMessage, SakuraTriggerHeader.sizeOf, UInt32.zero_add, hpos]
  rfl

theorem requestMessage_size (h : SakuraTriggerHeader.sizeOf + request.id.length +
    request.inputValues.length < 2 ^ 32) : (requestMessage pad request).size.toNat =
      16 + request.id.length + request.inputValues.length := by
  simp only [SakuraTriggerHeader.sizeOf] at h
  simp only [requestMessage, SakuraTriggerHeader.sizeOf, UInt64.toNat_add, UInt64.toNat_ofNat']
  omega

theorem holds_requestMessage (h : SakuraTriggerHeader.sizeOf + request.id.length +
    request.inputValues.length < 2 ^ 32) (hd : Delivers heap (requestMessage pad request) buf) :
    Holds buf.mem 0 ((requestHeader request).bytes pad ++ request.id ++ request.inputValues) := by
  refine hd.holds ?_ ?_ ?_
  · rw [requestMessage_writes h]
    simp [Consecutive, SakuraTriggerHeader.sizeOf]
  · rw [requestMessage_writes h]
    simp
  · rw [requestMessage_size h]
    simp [SakuraTriggerHeader.sizeOf, Nat.add_assoc]

theorem receive_requestMessage (h : SakuraTriggerHeader.sizeOf + request.id.length +
    request.inputValues.length < 2 ^ 32) (hd : Delivers heap (requestMessage pad request) buf)
    (session : SessionId) (blockerId : UInt64) : standaloneDataCallback session blockerId buf =
      { reads := [⟨0, 1⟩, ⟨4, 4⟩, ⟨8, 4⟩, ⟨12, 4⟩, ⟨16, request.id.length⟩,
          ⟨16 + request.id.length, request.inputValues.length⟩]
        events := [⟨request.httpType, request.id, request.inputValues, session, blockerId⟩]
        requests := [] } := by
  have hm := holds_requestMessage h hd
  rw [List.append_assoc, holds_append, holds_append] at hm
  obtain ⟨hheader, hid, hvalues⟩ := hm
  obtain ⟨htype, hread⟩ := SakuraTriggerHeader.read_of_holds hheader
  simp only [SakuraTriggerHeader.length_bytes, SakuraTriggerHeader.sizeOf, Nat.zero_add] at h hid hvalues
  have hused : buf.usedBufferSize ≠ 0 := by
    intro h0
    have := congrArg UInt64.toNat (h0.symm.trans hd.size)
    rw [requestMessage_size (by simpa [SakuraTriggerHeader.sizeOf] using h), UInt64.toNat_zero] at this
    omega
  have hi : (UInt32.ofNat request.id.length).toNat = request.id.length := toNat_ofNat_of_lt (by omega)
  have hv : (UInt32.ofNat request.inputValues.length).toNat = request.inputValues.length :=
    toNat_ofNat_of_lt (by omega)
  have hp : ((16 : UInt32) + UInt32.ofNat request.id.length).toNat = 16 + request.id.length :=
    toNat_ofNat_add (a := 16) (by omega)
  have h16 : (16 : UInt32).toNat = 16 := rfl
  rw [standaloneDataCallback_trigger hused htype]
  simp only [receiveTrigger, hread, requestHeader, hi, hv, hp, h16]
  rw [show readAt buf.mem 16 request.id.length = request.id from hid,
    show readAt buf.mem (16 + request.id.length) request.inputValues.length = request.inputValues from hvalues]

/-- The offsets the decoder of a request consumes: all that were written but the padding. -/
theorem consumed_requestMessage (h : SakuraTriggerHeader.sizeOf + request.id.length +
    request.inputValues.length < 2 ^ 32) (hd : Delivers heap (requestMessage pad request) buf)
    (session : SessionId) (blockerId : UInt64) (o : ℕ) :
    Consumed (standaloneDataCallback session blockerId buf).reads o ↔
      (requestMessage pad request).Wrote o ∧ o ∉ [1, 2, 3] := by
  rw [receive_requestMessage h hd]
  simp only [Consumed, Span.Touches, Message.Wrote, requestMessage_writes h, List.mem_cons, List.not_mem_nil,
    or_false, exists_eq_or_imp, exists_eq_left, SakuraTriggerHeader.length_bytes, SakuraTriggerHeader.sizeOf]
  omega

end

/-! ### Generic messages -/

section

variable {subType : UInt32} {data : List UInt8}

theorem genericMessage_size (h : SakuraGenericHeader.sizeOf + data.length < 2 ^ 32) :
    (genericMessage pad subType data).size.toNat = 12 + data.length := by
  simp only [SakuraGenericHeader.sizeOf] at h
  simp only [genericMessage, SakuraGenericHeader.sizeOf, UInt64.toNat_add, UInt64.toNat_ofNat']
  omega

/-- The header of a generic message announces the whole body. -/
theorem toNat_dataSize (h : SakuraGenericHeader.sizeOf + data.length < 2 ^ 32) :
    (UInt64.ofNat data.length).toUInt32.toNat = data.length := by
  simp only [SakuraGenericHeader.sizeOf] at h
  rw [UInt64.toNat_toUInt32, UInt64.toNat_ofNat']
  omega

theorem receive_genericMessage (h : SakuraGenericHeader.sizeOf + data.length < 2 ^ 32)
    (hd : Delivers heap (genericMessage pad subType data) buf) (session : SessionId) (blockerId : UInt64) :
    standaloneDataCallback session blockerId buf =
      { reads := [⟨0, 1⟩, ⟨4, 4⟩, ⟨8, 4⟩, ⟨12, data.length⟩]
        events := []
        requests := [⟨session, subType, data, UInt64.ofNat data.length, blockerId⟩] } := by
  have hm : Holds buf.mem 0
      (SakuraGenericHeader.bytes pad ⟨subType, (UInt64.ofNat data.length).toUInt32⟩ ++ data) := by
    refine hd.holds ?_ (by simp [genericMessage]) ?_
    · simp [genericMessage, Consecutive, SakuraGenericHeader.sizeOf]
    · rw [genericMessage_size h]
      simp [SakuraGenericHeader.sizeOf]
  obtain ⟨hheader, hbody⟩ := holds_append.mp hm
  obtain ⟨htype, hread⟩ := SakuraGenericHeader.read_of_holds hheader
  simp only [SakuraGenericHeader.length_bytes, SakuraGenericHeader.sizeOf, Nat.zero_add] at h hbody
  have hused : buf.usedBufferSize ≠ 0 := by
    intro h0
    have := congrArg UInt64.toNat (h0.symm.trans hd.size)
    rw [genericMessage_size (by simpa [SakuraGenericHeader.sizeOf] using h), UInt64.toNat_zero] at this
    omega
  have hsize : (UInt64.ofNat data.length).toUInt32.toNat = data.length := toNat_dataSize h
  have hsize64 : (UInt64.ofNat data.length).toUInt32.toUInt64 = UInt64.ofNat data.length := by
    apply UInt64.toNat_inj.mp
    rw [UInt32.toNat_toUInt64, hsize, UInt64.toNat_ofNat']
    omega
  rw [standaloneDataCallback_generic hused htype]
  simp only [receiveGeneric, hread, hsize, hsize64, SakuraGenericHeader.sizeOf]
  rw [show readAt buf.mem 12 data.length = data from hbody]

/-- The offsets the decoder of a generic message and its handler consume: all that were
written but the padding. -/
theorem consumed_genericMessage (h : SakuraGenericHeader.sizeOf + data.length < 2 ^ 32)
    (hd : Delivers heap (genericMessage pad subType data) buf) (session : SessionId) (blockerId : UInt64)
    (o : ℕ) : Consumed (standaloneDataCallback session blockerId buf).reads o ↔
      (genericMessage pad subType data).Wrote o ∧ o ∉ [1, 2, 3] := by
  rw [receive_genericMessage h hd]
  simp only [Consumed, Span.Touches, Message.Wrote, genericMessage, List.mem_cons, List.not_mem_nil, or_false,
    exists_eq_or_imp, exists_eq_left, SakuraGenericHeader.length_bytes, SakuraGenericHeader.sizeOf]
  omega

end

/-! ### Responses -/

section

variable {response : ResponseMessage}

/-- What `processResponse` makes of a delivered response, and what it reads. -/
theorem decode_responseMessage (h : ResponseHeader.sizeOf + response.responseContent.length < 2 ^ 32)
    (hd : Delivers heap (responseMessage pad response) buf) : buf.usedBufferSize ≠ 0 ∧
      decodeResponse buf.mem = (response,
        [⟨12, response.responseContent.length⟩, ⟨8, 4⟩, ⟨1, 1⟩, ⟨4, 4⟩]) := by
  have hm : Holds buf.mem 0 (ResponseHeader.bytes pad ⟨response.success, response.type,
      UInt32.ofNat response.responseContent.length⟩ ++ response.responseContent) := by
    refine hd.holds ?_ (by simp [responseMessage]) ?_
    · simp [responseMessage, Consecutive, ResponseHeader.sizeOf]
    · rw [responseMessage_size h]
      simp [ResponseHeader.sizeOf]
  obtain ⟨hheader, hbody⟩ := holds_append.mp hm
  obtain ⟨-, hread⟩ := ResponseHeader.read_of_holds hheader
  have hfits := h
  simp only [ResponseHeader.length_bytes, ResponseHeader.sizeOf, Nat.zero_add] at h hbody
  constructor
  · intro h0
    have := congrArg UInt64.toNat (h0.symm.trans hd.size)
    rw [responseMessage_size hfits, UInt64.toNat_zero] at this
    omega
  · have hlen : (UInt32.ofNat response.responseContent.length).toNat = response.responseContent.length :=
      toNat_ofNat_of_lt (by omega)
    have h12 : (UInt32.ofNat 12).toNat = 12 := rfl
    simp only [decodeResponse, hread, hlen, ResponseHeader.sizeOf, h12]
    rw [show readAt buf.mem 12 response.responseContent.length = response.responseContent from hbody]

/-- The offsets the decoder of a response consumes: all that were written but the padding
and the type, which `processResponse` does not look at. -/
theorem consumed_responseMessage (h : ResponseHeader.sizeOf + response.responseContent.length < 2 ^ 32)
    (hd : Delivers heap (responseMessage pad response) buf) (o : ℕ) :
    Consumed (decodeResponse buf.mem).2 o ↔ (responseMessage pad response).Wrote o ∧ o ∉ [0, 2, 3] := by
  rw [(decode_responseMessage h hd).2]
  have h12 : (0 + UInt32.ofNat 12).toNat = 12 := rfl
  simp only [Consumed, Span.Touches, Message.Wrote, responseMessage, List.mem_cons, List.not_mem_nil, or_false,
    exists_eq_or_imp, exists_eq_left, ResponseHeader.length_bytes, ResponseHeader.sizeOf, h12]
  omega

end

/-! ### What is sent -/

/-- The message an effect hands to the session layer. -/
def Effect.message : Effect → Option Message
  | .sendNormalMessage _ message => some message
  | .sendRequest _ message _ => some message
  | .sendResponse _ _ message _ => some message
  | _ => none

/-- The first message a computation hands to the session layer. -/
def firstSent {α : Type} (p : Traced Effect α) : Option Message := (p.effects.filterMap Effect.message).head?

section

variable (x : World) (c : Client) (subType : UInt32) (data : List UInt8) (error : ErrorContainer)

theorem firstSent_createRequest (session : SessionId) (response : ResponseMessage) (request : RequestMessage) :
    firstSent (createRequest x session response request error) = some (requestMessage x.padding request) := by
  simp [firstSent, createRequest, Effect.message]

theorem firstSent_sendGenericMessage {σ : Type} (s : σ)
    (send : SessionId → Message → ErrorContainer → σ → Traced Effect (Bool × ErrorContainer × σ)) :
    firstSent (sendGenericMessage x c subType data error s send) =
      c.session.map fun _ => genericMessage x.padding subType data := by
  cases hs : c.session <;> simp [firstSent, sendGenericMessage, withLock, hs, Effect.message, List.filterMap_cons]

theorem firstSent_sendGenericRequest : firstSent (sendGenericRequest x c subType data error) =
    c.session.map fun _ => genericMessage x.padding subType data := by
  cases hs : c.session <;> simp [firstSent, sendGenericRequest, withLock, hs, Effect.message, List.filterMap_cons]

theorem firstSent_sendResponseMessage (response : ResponseMessage) (session : SessionId) (blockerId : UInt64) :
    firstSent (sendResponseMessage x response session blockerId) =
      if response.Fits then some (responseMessage x.padding response) else none := by
  by_cases h : response.Fits
  · simp [firstSent, sendResponseMessage_of_fits h, h, Effect.message]
  · simp [firstSent, sendResponseMessage_of_not_fits h, h]

end

/-! ### The round trip -/

/-- The callback passes on exactly these events and calls, and consumes the bytes of the message
that are not padding. -/
structure Decodes (received : Received) (message : Message) (events : List MessagingEvent)
    (requests : List GenericRequest) : Prop where
  /-- The events in the queue. -/
  events : received.events = events
  /-- The calls of `processGenericRequest`. -/
  requests : received.requests = requests
  /-- The bytes. -/
  consumed : ∀ o, Consumed received.reads o ↔ message.Wrote o ∧ o ∉ [1, 2, 3]

theorem decodes_genericMessage {subType : UInt32} {data : List UInt8}
    (h : SakuraGenericHeader.sizeOf + data.length < 2 ^ 32) (hd : Delivers heap (genericMessage pad subType data) buf)
    (session : SessionId) (blockerId : UInt64) :
    Decodes (standaloneDataCallback session blockerId buf) (genericMessage pad subType data) []
      [⟨session, subType, data, UInt64.ofNat data.length, blockerId⟩] := by
  refine ⟨?_, ?_, consumed_genericMessage h hd session blockerId⟩ <;> rw [receive_genericMessage h hd]

/-- **The wire round trip**: a request, a generic message and a response that are shorter than `2³²` bytes are
handed to the session layer, and whatever the padding and the rest of the memory hold, they come out of their
decoders as they went into their senders, and the decoders consume the bytes that were written. -/
theorem round_trip (x : World) :
    (∀ (request : RequestMessage) (sender : SessionId) (response : ResponseMessage) (error : ErrorContainer),
      SakuraTriggerHeader.sizeOf + request.id.length + request.inputValues.length < 2 ^ 32 →
      firstSent (createRequest x sender response request error) = some (requestMessage x.padding request) ∧
      ∀ heap buf, Delivers heap (requestMessage x.padding request) buf → ∀ session blockerId,
        Decodes (standaloneDataCallback session blockerId buf) (requestMessage x.padding request)
          [⟨request.httpType, request.id, request.inputValues, session, blockerId⟩] []) ∧
    (∀ (c : Client) (subType : UInt32) (data : List UInt8) (error : ErrorContainer) (σ : Type) (s : σ)
      (send : SessionId → Message → ErrorContainer → σ → Traced Effect (Bool × ErrorContainer × σ)),
      SakuraGenericHeader.sizeOf + data.length < 2 ^ 32 →
      firstSent (sendGenericMessage x c subType data error s send) =
        c.session.map (fun _ => genericMessage x.padding subType data) ∧
      firstSent (sendGenericRequest x c subType data error) =
        c.session.map (fun _ => genericMessage x.padding subType data) ∧
      ∀ heap buf, Delivers heap (genericMessage x.padding subType data) buf → ∀ session blockerId,
        Decodes (standaloneDataCallback session blockerId buf) (genericMessage x.padding subType data) []
          [⟨session, subType, data, UInt64.ofNat data.length, blockerId⟩]) ∧
    (∀ (response : ResponseMessage) (session : SessionId) (blockerId : UInt64),
      ResponseHeader.sizeOf + response.responseContent.length < 2 ^ 32 →
      firstSent (sendResponseMessage x response session blockerId) = some (responseMessage x.padding response) ∧
      ∀ heap buf, Delivers heap (responseMessage x.padding response) buf →
        ∀ (entry : ResponseMessage) (error : ErrorContainer),
          (processResponse entry buf error).value = some (true, response, error) ∧
          ∀ o, Consumed (decodeResponse buf.mem).2 o ↔
            (responseMessage x.padding response).Wrote o ∧ o ∉ [0, 2, 3]) := by
  refine ⟨?_, ?_, ?_⟩
  · intro request sender response error h
    refine ⟨firstSent_createRequest .., fun heap buf hd session blockerId => ?_⟩
    refine ⟨?_, ?_, consumed_requestMessage h hd session blockerId⟩ <;> rw [receive_requestMessage h hd]
  · intro c subType data error σ s send h
    exact ⟨firstSent_sendGenericMessage .., firstSent_sendGenericRequest .., fun heap buf hd session blockerId =>
      decodes_genericMessage h hd session blockerId⟩
  · intro response session blockerId h
    refine ⟨(firstSent_sendResponseMessage ..).trans (if_pos h), fun heap buf hd entry error => ?_⟩
    obtain ⟨hused, hdec⟩ := decode_responseMessage h hd
    exact ⟨by rw [processResponse_of_used hused, hdec], consumed_responseMessage h hd⟩

/-- A request for `a` with the values `b`, through the whole way. -/
theorem round_trip_a_b :
    let message := requestMessage literalWorld.padding ⟨str "a", 1, str "b"⟩
    firstSent (createRequest literalWorld 3 literalWorld.initialResponse ⟨str "a", 1, str "b"⟩ ⟨[]⟩) = some message ∧
      Decodes (standaloneDataCallback 7 9 (message.received fun _ => 0)) message [⟨1, str "a", str "b", 7, 9⟩] [] := by
  obtain ⟨hsent, hdecodes⟩ := (round_trip literalWorld).1 ⟨str "a", 1, str "b"⟩ 3 literalWorld.initialResponse ⟨[]⟩
    (by decide)
  exact ⟨hsent, hdecodes (fun _ => 0) _ (Message.delivers_received _ _) 7 9⟩

end HanamiNetwork
