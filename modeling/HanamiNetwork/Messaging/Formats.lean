import HanamiNetwork.Messaging.RoundTrip

/-!
# The formats

What the senders can put on the wire, said by the receiver: the three formats as sets of buffers.
A buffer may come from a sender exactly if its type is that of the format, and the lengths in its
header add up to its size (`ExactBuffer`). What it was sent for is then what the decoder makes of
it, and nothing else; so that no two requests, generic messages or responses have a buffer in
common, whatever is in the padding. Each format has its lemma, and `formats_iff` is all three.

The byte for the success of a response has to be zero or one on top of that: the decoder takes any
other for a success too.
-/

namespace HanamiNetwork

open HanamiNetwork.Basis

theorem holds_word32 (m : Mem) (off : ℕ) : Holds m off (le32 (word32 m off)) := by
  show [m off, m (off + 1), m (off + 2), m (off + 3)] = le32 (word32 m off)
  have h0 := (m off).toNat_lt
  have h1 := (m (off + 1)).toNat_lt
  have h2 := (m (off + 2)).toNat_lt
  have h3 := (m (off + 3)).toNat_lt
  simp only [le32, word32, UInt32.toNat_ofNat', List.cons.injEq, and_true]
  refine ⟨?_, ?_, ?_, ?_⟩ <;> apply UInt8.toNat_inj.mp <;> rw [UInt8.toNat_ofNat'] <;> omega

/-- A message whose copies lie one behind the other and fill the buffer is delivered as a buffer of its size
that holds its bytes. -/
theorem delivers_iff_holds {heap : Mem} {msg : Message} (hc : Consecutive 0 msg.writes)
    (hsize : (msg.writes.map (·.2)).flatten.length = msg.size.toNat) (buf : DataBuffer) :
    Delivers heap msg buf ↔ buf.usedBufferSize = msg.size ∧ Holds buf.mem 0 (msg.writes.map (·.2)).flatten := by
  have himage := holds_memcpyAll hc heap
  constructor
  · exact fun hd => ⟨hd.size, hd.holds hc rfl hsize.le⟩
  · rintro ⟨hused, hholds⟩
    refine ⟨hused, fun i hi => ?_⟩
    have hboth : readAt buf.mem 0 msg.size.toNat = readAt (msg.image heap) 0 msg.size.toNat := by
      rw [← hsize]
      exact hholds.trans himage.symm
    have hat := congrArg (·[i]?) hboth
    simp only [getElem?_readAt, if_pos hi, Nat.zero_add] at hat
    exact Option.some_inj.mp hat

/-- The buffer may be what a sender sent for `a`. -/
def MayBeSent {α : Type} (message : (ℕ → UInt8) → α → Message) (size : α → ℕ) (buf : DataBuffer) (a : α) : Prop :=
  size a < 2 ^ 32 ∧ ∃ heap pad, Delivers heap (message pad a) buf

/-- The buffer has the type of a format, and the lengths its header announces add up to its size. -/
structure ExactBuffer (type : UInt8) (announced : Mem → ℕ) (buf : DataBuffer) : Prop where
  /-- The type. -/
  type : buf.mem 0 = type
  /-- The size. -/
  size : announced buf.mem = buf.usedBufferSize.toNat
  /-- It is one of 32 bits. -/
  short : buf.usedBufferSize.toNat < 2 ^ 32

theorem ExactBuffer.used_ne {type : UInt8} {announced : Mem → ℕ} {buf : DataBuffer}
    (h : ExactBuffer type announced buf) (hpos : ∀ m, 0 < announced m) : buf.usedBufferSize ≠ 0 := by
  intro h0
  have hsize := h.size
  rw [h0, UInt64.toNat_zero] at hsize
  exact (hpos buf.mem).ne' hsize

/-! ### Requests -/

/-- The size of a request. -/
def RequestMessage.size (request : RequestMessage) : ℕ :=
  SakuraTriggerHeader.sizeOf + request.id.length + request.inputValues.length

/-- The lengths of a request. -/
def RequestMessage.announced (m : Mem) : ℕ :=
  SakuraTriggerHeader.sizeOf + (SakuraTriggerHeader.read m).idSize.toNat +
    (SakuraTriggerHeader.read m).inputValuesSize.toNat

theorem SakuraTriggerHeader.holds_read {m : Mem} (ht : m 0 = SAKURA_TRIGGER_MESSAGE) :
    Holds m 0 ((read m).bytes m) := by
  simp only [bytes, read, holds_append, List.length_append, List.length_cons, List.length_nil, length_le32]
  refine ⟨⟨⟨?_, holds_word32 m _⟩, holds_word32 m _⟩, holds_word32 m _⟩
  rw [← ht]
  rfl

/-- The events for an exact buffer are those for the two parts behind its header. -/
theorem events_of_exact {buf : DataBuffer} (h : ExactBuffer SAKURA_TRIGGER_MESSAGE RequestMessage.announced buf)
    (session : SessionId) (blockerId : UInt64) : (standaloneDataCallback session blockerId buf).events =
      [⟨(SakuraTriggerHeader.read buf.mem).requestType,
        readAt buf.mem 16 (SakuraTriggerHeader.read buf.mem).idSize.toNat,
        readAt buf.mem (16 + (SakuraTriggerHeader.read buf.mem).idSize.toNat)
          (SakuraTriggerHeader.read buf.mem).inputValuesSize.toNat, session, blockerId⟩] := by
  have hused := h.used_ne fun m => by simp [RequestMessage.announced, SakuraTriggerHeader.sizeOf]
  have hsize := h.size
  have hshort := h.short
  simp only [RequestMessage.announced, SakuraTriggerHeader.sizeOf] at hsize
  have hpos : (16 + (SakuraTriggerHeader.read buf.mem).idSize).toNat =
      16 + (SakuraTriggerHeader.read buf.mem).idSize.toNat := by
    rw [UInt32.toNat_add]
    exact Nat.mod_eq_of_lt (by rw [show (16 : UInt32).toNat = 16 from rfl]; omega)
  rw [standaloneDataCallback_trigger hused h.type]
  simp only [receiveTrigger, hpos]
  rfl

/-- A short request is delivered as a buffer of its size with the header and the two parts. -/
theorem delivers_requestMessage_iff {heap : Mem} {pad : ℕ → UInt8} {request : RequestMessage} {buf : DataBuffer}
    (hshort : request.size < 2 ^ 32) : Delivers heap (requestMessage pad request) buf ↔
      buf.usedBufferSize.toNat = request.size ∧
      Holds buf.mem 0 ((requestHeader request).bytes pad ++ (request.id ++ request.inputValues)) := by
  have hsent : (requestMessage pad request).size.toNat = request.size := requestMessage_size hshort
  have hwrites : ((requestMessage pad request).writes.map (·.2)).flatten =
      (requestHeader request).bytes pad ++ (request.id ++ request.inputValues) := by
    rw [requestMessage_writes hshort]
    simp
  have hconsecutive : Consecutive 0 (requestMessage pad request).writes := by
    rw [requestMessage_writes hshort]
    simp [Consecutive, SakuraTriggerHeader.sizeOf]
  rw [delivers_iff_holds hconsecutive, hwrites, ← UInt64.toNat_inj, hsent]
  rw [hwrites, hsent, List.length_append, List.length_append, SakuraTriggerHeader.length_bytes, RequestMessage.size,
    Nat.add_assoc]

/-- The buffers of requests are exactly those with the right type and size, and each is that of the request it is
decoded to. -/
theorem sentRequest_iff (buf : DataBuffer) (request : RequestMessage) (session : SessionId) (blockerId : UInt64) :
    MayBeSent requestMessage RequestMessage.size buf request ↔
      ExactBuffer SAKURA_TRIGGER_MESSAGE RequestMessage.announced buf ∧
      (standaloneDataCallback session blockerId buf).events =
        [⟨request.httpType, request.id, request.inputValues, session, blockerId⟩] := by
  constructor
  · rintro ⟨hshort, heap, pad, hd⟩
    obtain ⟨hsize, hm⟩ := (delivers_requestMessage_iff hshort).mp hd
    obtain ⟨htype, hread⟩ := SakuraTriggerHeader.read_of_holds (holds_append.mp hm).1
    refine ⟨⟨htype, ?_, hsize ▸ hshort⟩, by rw [receive_requestMessage hshort hd]⟩
    rw [RequestMessage.size] at hshort
    rw [RequestMessage.announced, hread, hsize, requestHeader, toNat_ofNat_of_lt (by omega),
      toNat_ofNat_of_lt (by omega), RequestMessage.size]
  · rintro ⟨hexact, hevents⟩
    rw [events_of_exact hexact] at hevents
    simp only [List.cons.injEq, MessagingEvent.mk.injEq, and_true] at hevents
    obtain ⟨hhttp, hid, hvalues⟩ := hevents
    have hidSize := congrArg List.length hid
    have hvaluesSize := congrArg List.length hvalues
    rw [length_readAt] at hidSize hvaluesSize
    have hheader : requestHeader request = SakuraTriggerHeader.read buf.mem := by
      rw [requestHeader, ← hhttp, ← hidSize, ← hvaluesSize, UInt32.ofNat_toNat, UInt32.ofNat_toNat]
    have hsize : request.size = buf.usedBufferSize.toNat := by
      rw [RequestMessage.size, ← hidSize, ← hvaluesSize]
      exact hexact.size
    have hshort : request.size < 2 ^ 32 := hsize ▸ hexact.short
    refine ⟨hshort, buf.mem, buf.mem, (delivers_requestMessage_iff hshort).mpr ⟨hsize.symm, ?_⟩⟩
    -- the padding of the sent header is what is in the buffer there
    rw [hheader, holds_append, holds_append]
    refine ⟨SakuraTriggerHeader.holds_read hexact.type, ?_, ?_⟩
    · rw [Holds, ← hidSize]
      exact hid
    · rw [Holds, ← hvaluesSize, ← hidSize]
      exact hvalues

/-! ### Generic messages -/

/-- The size of a generic message with a sub-type and a body. -/
def genericSize (message : UInt32 × List UInt8) : ℕ := SakuraGenericHeader.sizeOf + message.2.length

/-- The lengths of a generic message. -/
def genericAnnounced (m : Mem) : ℕ := SakuraGenericHeader.sizeOf + (SakuraGenericHeader.read m).size.toNat

theorem SakuraGenericHeader.holds_read {m : Mem} (ht : m 0 = SAKURA_GENERIC_MESSAGE) :
    Holds m 0 ((read m).bytes m) := by
  simp only [bytes, read, holds_append, List.length_append, List.length_cons, List.length_nil, length_le32]
  refine ⟨⟨?_, holds_word32 m _⟩, holds_word32 m _⟩
  rw [← ht]
  rfl

theorem toUInt32_ofNat {n : ℕ} (h : n < 2 ^ 32) : (UInt64.ofNat n).toUInt32 = UInt32.ofNat n := by
  apply UInt32.toNat_inj.mp
  rw [toNat_ofNat_of_lt h, UInt64.toNat_toUInt32, UInt64.toNat_ofNat']
  omega

theorem delivers_genericMessage_iff {heap : Mem} {pad : ℕ → UInt8} {message : UInt32 × List UInt8}
    {buf : DataBuffer} (hshort : genericSize message < 2 ^ 32) :
    Delivers heap (genericMessage pad message.1 message.2) buf ↔
      buf.usedBufferSize.toNat = genericSize message ∧ Holds buf.mem 0
        (SakuraGenericHeader.bytes pad ⟨message.1, UInt32.ofNat message.2.length⟩ ++ message.2) := by
  have hsent : (genericMessage pad message.1 message.2).size.toNat = genericSize message := genericMessage_size hshort
  have hbody : message.2.length < 2 ^ 32 := by
    rw [genericSize] at hshort
    omega
  have hwrites : ((genericMessage pad message.1 message.2).writes.map (·.2)).flatten =
      SakuraGenericHeader.bytes pad ⟨message.1, UInt32.ofNat message.2.length⟩ ++ message.2 := by
    simp [genericMessage, toUInt32_ofNat hbody]
  rw [delivers_iff_holds (by simp [genericMessage, Consecutive, SakuraGenericHeader.sizeOf]), hwrites,
    ← UInt64.toNat_inj, hsent]
  rw [hwrites, hsent, List.length_append, SakuraGenericHeader.length_bytes, genericSize]

/-- The buffers of generic messages are exactly those with the right type and size, and each is that of the
sub-type and body the handler gets. -/
theorem sentGeneric_iff (buf : DataBuffer) (message : UInt32 × List UInt8) (session : SessionId)
    (blockerId : UInt64) :
    MayBeSent (fun pad message => genericMessage pad message.1 message.2) genericSize buf message ↔
      ExactBuffer SAKURA_GENERIC_MESSAGE genericAnnounced buf ∧
      (standaloneDataCallback session blockerId buf).requests =
        [⟨session, message.1, message.2, UInt64.ofNat message.2.length, blockerId⟩] := by
  constructor
  · rintro ⟨hshort, heap, pad, hd⟩
    obtain ⟨hsize, hm⟩ := (delivers_genericMessage_iff hshort).mp hd
    obtain ⟨htype, hread⟩ := SakuraGenericHeader.read_of_holds (holds_append.mp hm).1
    refine ⟨⟨htype, ?_, hsize ▸ hshort⟩, by rw [receive_genericMessage hshort hd]⟩
    rw [genericSize] at hshort
    rw [genericAnnounced, hread, hsize, toNat_ofNat_of_lt (by omega), genericSize]
  · rintro ⟨hexact, hrequests⟩
    have hused := hexact.used_ne fun m => by simp [genericAnnounced, SakuraGenericHeader.sizeOf]
    rw [standaloneDataCallback_generic hused hexact.type] at hrequests
    simp only [receiveGeneric, List.cons.injEq, GenericRequest.mk.injEq, true_and, and_true] at hrequests
    obtain ⟨hsub, hbody, -⟩ := hrequests
    have hbodySize := congrArg List.length hbody
    rw [length_readAt] at hbodySize
    have hsize : genericSize message = buf.usedBufferSize.toNat := by
      rw [genericSize, ← hbodySize]
      exact hexact.size
    have hshort : genericSize message < 2 ^ 32 := hsize ▸ hexact.short
    refine ⟨hshort, buf.mem, buf.mem, (delivers_genericMessage_iff hshort).mpr ⟨hsize.symm, ?_⟩⟩
    rw [← hbodySize, UInt32.ofNat_toNat, ← hsub, holds_append]
    refine ⟨SakuraGenericHeader.holds_read hexact.type, ?_⟩
    rw [Holds, ← hbodySize]
    exact hbody

/-! ### Responses -/

/-- The size of a response. -/
def ResponseMessage.size (response : ResponseMessage) : ℕ := ResponseHeader.sizeOf + response.responseContent.length

/-- The lengths of a response. -/
def ResponseMessage.announced (m : Mem) : ℕ := ResponseHeader.sizeOf + (ResponseHeader.read m).messageSize.toNat

/-- The struct that is read from memory lies there, if its byte for the success is one of the two that are
written. -/
theorem ResponseHeader.holds_read {m : Mem} (ht : m 0 = RESPONSE_MESSAGE) (hs : m 1 = 0 ∨ m 1 = 1) :
    Holds m 0 ((read m).bytes m) := by
  have hsuccess : (if (read m).success then 1 else 0 : UInt8) = m 1 := by
    rcases hs with hs | hs <;> simp [read, hs]
  simp only [bytes, holds_append, List.length_append, List.length_cons, List.length_nil, length_le32]
  refine ⟨⟨?_, holds_word32 m _⟩, holds_word32 m _⟩
  rw [← ht, hsuccess]
  rfl

theorem delivers_responseMessage_iff {heap : Mem} {pad : ℕ → UInt8} {response : ResponseMessage} {buf : DataBuffer}
    (hshort : response.size < 2 ^ 32) : Delivers heap (responseMessage pad response) buf ↔
      buf.usedBufferSize.toNat = response.size ∧ Holds buf.mem 0 (ResponseHeader.bytes pad
        ⟨response.success, response.type, UInt32.ofNat response.responseContent.length⟩ ++
          response.responseContent) := by
  have hsent : (responseMessage pad response).size.toNat = response.size := responseMessage_size hshort
  have hwrites : ((responseMessage pad response).writes.map (·.2)).flatten = ResponseHeader.bytes pad
      ⟨response.success, response.type, UInt32.ofNat response.responseContent.length⟩ ++
        response.responseContent := by
    simp [responseMessage]
  rw [delivers_iff_holds (by simp [responseMessage, Consecutive, ResponseHeader.sizeOf]), hwrites,
    ← UInt64.toNat_inj, hsent]
  rw [hwrites, hsent, List.length_append, ResponseHeader.length_bytes, ResponseMessage.size]

/-- The buffers of responses are exactly those with the right type and size and a byte for the success that is
zero or one, and each is that of the response it is decoded to. -/
theorem sentResponse_iff (buf : DataBuffer) (response : ResponseMessage) :
    MayBeSent responseMessage ResponseMessage.size buf response ↔
      ExactBuffer RESPONSE_MESSAGE ResponseMessage.announced buf ∧ (buf.mem 1 = 0 ∨ buf.mem 1 = 1) ∧
      (decodeResponse buf.mem).1 = response := by
  constructor
  · rintro ⟨hshort, heap, pad, hd⟩
    obtain ⟨hsize, hm⟩ := (delivers_responseMessage_iff hshort).mp hd
    have hheader := (holds_append.mp hm).1
    obtain ⟨htype, hread⟩ := ResponseHeader.read_of_holds hheader
    refine ⟨⟨htype, ?_, hsize ▸ hshort⟩, ?_, by rw [(decode_responseMessage hshort hd).2]⟩
    · rw [ResponseMessage.size] at hshort
      rw [ResponseMessage.announced, hread, hsize, toNat_ofNat_of_lt (by omega), ResponseMessage.size]
    · have hbyte := congrArg (·[1]?) hheader
      simp only [getElem?_readAt, ResponseHeader.bytes] at hbyte
      cases hflag : response.success
      · exact .inl (by simpa [hflag] using hbyte)
      · exact .inr (by simpa [hflag] using hbyte)
  · rintro ⟨hexact, hsuccess, hdecoded⟩
    have hflag := congrArg ResponseMessage.success hdecoded
    have htype := congrArg ResponseMessage.type hdecoded
    have htext := congrArg ResponseMessage.responseContent hdecoded
    simp only [decodeResponse] at hflag htype htext
    have htextSize := congrArg List.length htext
    rw [length_readAt] at htextSize
    have hsize : response.size = buf.usedBufferSize.toNat := by
      rw [ResponseMessage.size, ← htextSize]
      exact hexact.size
    have hshort : response.size < 2 ^ 32 := hsize ▸ hexact.short
    refine ⟨hshort, buf.mem, buf.mem, (delivers_responseMessage_iff hshort).mpr ⟨hsize.symm, ?_⟩⟩
    rw [← htextSize, UInt32.ofNat_toNat, ← hflag, ← htype, holds_append]
    refine ⟨ResponseHeader.holds_read hexact.type hsuccess, ?_⟩
    rw [Holds, ← htextSize]
    exact htext

/-! ### All formats -/

/-- **What the formats are**: the buffers that may have been sent for a request, a generic message or a response
are exactly those of the right type whose announced lengths add up to their size and which the decoder takes
for it. -/
theorem formats_iff (buf : DataBuffer) (session : SessionId) (blockerId : UInt64) :
    (∀ request, MayBeSent requestMessage RequestMessage.size buf request ↔
      ExactBuffer SAKURA_TRIGGER_MESSAGE RequestMessage.announced buf ∧
      (standaloneDataCallback session blockerId buf).events =
        [⟨request.httpType, request.id, request.inputValues, session, blockerId⟩]) ∧
    (∀ message, MayBeSent (fun pad message => genericMessage pad message.1 message.2) genericSize buf message ↔
      ExactBuffer SAKURA_GENERIC_MESSAGE genericAnnounced buf ∧
      (standaloneDataCallback session blockerId buf).requests =
        [⟨session, message.1, message.2, UInt64.ofNat message.2.length, blockerId⟩]) ∧
    (∀ response, MayBeSent responseMessage ResponseMessage.size buf response ↔
      ExactBuffer RESPONSE_MESSAGE ResponseMessage.announced buf ∧ (buf.mem 1 = 0 ∨ buf.mem 1 = 1) ∧
      (decodeResponse buf.mem).1 = response) :=
  ⟨fun request => sentRequest_iff buf request session blockerId,
    fun message => sentGeneric_iff buf message session blockerId, sentResponse_iff buf⟩

end HanamiNetwork
