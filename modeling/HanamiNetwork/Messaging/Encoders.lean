import HanamiNetwork.Messaging.RoundTrip

/-!
# The sizes the encoders compute

The lengths of ids, values, bodies and texts are numbers of 64 bits; the headers have 32
bits for them, and so have the counter that places the parts of a request and the sum that
is the size of a response. No encoder looks at a length before it computes with it.

`Message.Exact` says of a message that nothing was lost on the way. Each encoder gets a
lemma that says for which lengths this is so; `encoders_exact_iff` puts them together. A
response goes wrong first, and worst: when the sum wraps, its buffer is too small for what
is written into it.
-/

namespace HanamiNetwork

open HanamiNetwork.Basis

/-- The message is a header and these parts, and no number in it has lost a bit; `announced` are the
lengths the header names. -/
structure Message.Exact (msg : Message) (headerSize : ℕ) (announced : Mem → List ℕ) (parts : List (List UInt8)) :
    Prop where
  /-- The buffer has room for the header and the parts, and no more. -/
  size : msg.size.toNat = headerSize + (parts.map List.length).sum
  /-- Nothing is written outside of the buffer. -/
  inside : msg.Inside
  /-- Each part is placed directly behind the one before it. -/
  consecutive : Consecutive 0 msg.writes
  /-- The header comes first, and names the lengths of the parts. -/
  header : ∃ header, header.length = headerSize ∧ msg.writes.map Prod.snd = header :: parts ∧
    announced (ofBytes header) = parts.map List.length

/-- Parts placed one behind the other in a buffer of the right size stay inside it. -/
theorem Message.Exact.of_consecutive {msg : Message} {headerSize : ℕ} {announced : Mem → List ℕ}
    {parts : List (List UInt8)} (header : List UInt8)
    (hsize : msg.size.toNat = headerSize + (parts.map List.length).sum)
    (hc : Consecutive 0 msg.writes) (hlen : header.length = headerSize)
    (hparts : msg.writes.map Prod.snd = header :: parts)
    (hannounced : announced (ofBytes header) = parts.map List.length) : msg.Exact headerSize announced parts := by
  refine ⟨hsize, fun w hw => ?_, hc, header, hlen, hparts, hannounced⟩
  have hsum : (msg.writes.map fun w => w.2.length).sum = headerSize + (parts.map List.length).sum := by
    rw [show (fun w : ℕ × List UInt8 => w.2.length) = List.length ∘ Prod.snd from rfl, ← List.map_map, hparts,
      List.map_cons, List.sum_cons, hlen]
  have := hc.inside w hw
  omega

theorem toNat_ofNat_iff {n : ℕ} : (UInt32.ofNat n).toNat = n ↔ n < 2 ^ 32 :=
  ⟨fun h => h ▸ UInt32.toNat_lt _, toNat_ofNat_of_lt⟩

variable {pad : ℕ → UInt8}

/-! ### Requests -/

/-- A request is built without loss. -/
def RequestExact (request : RequestMessage) (msg : Message) : Prop :=
  msg.Exact SakuraTriggerHeader.sizeOf
    (fun m => [(SakuraTriggerHeader.read m).idSize.toNat, (SakuraTriggerHeader.read m).inputValuesSize.toNat])
    [request.id, request.inputValues]

theorem requestExact_iff (request : RequestMessage) : RequestExact request (requestMessage pad request) ↔
    SakuraTriggerHeader.sizeOf + request.id.length < 2 ^ 32 ∧ request.inputValues.length < 2 ^ 32 := by
  constructor
  · intro h
    obtain ⟨header, -, hparts, hannounced⟩ := h.header
    obtain rfl : (requestHeader request).bytes pad = header := (List.cons.inj hparts).1
    simp only [SakuraTriggerHeader.read_ofBytes, requestHeader, List.map_cons, List.map_nil, List.cons.injEq,
      and_true] at hannounced
    obtain ⟨-, hvalues⟩ := hannounced
    obtain ⟨-, -, hpos, -⟩ := h.consecutive
    have hlt := (UInt32.ofNat SakuraTriggerHeader.sizeOf + UInt32.ofNat request.id.length).toNat_lt
    simp only [UInt32.zero_add, SakuraTriggerHeader.length_bytes, Nat.zero_add] at hpos
    rw [hpos] at hlt
    exact ⟨hlt, toNat_ofNat_iff.mp hvalues⟩
  · rintro ⟨hid, hvalues⟩
    have hpos := toNat_ofNat_add hid
    simp only [SakuraTriggerHeader.sizeOf] at hid hpos
    refine .of_consecutive ((requestHeader request).bytes pad) ?_ ?_ rfl rfl ?_
    · simp only [requestMessage, SakuraTriggerHeader.sizeOf, UInt64.toNat_add, UInt64.toNat_ofNat', List.map_cons,
        List.map_nil, List.sum_cons, List.sum_nil]
      omega
    · simp only [requestMessage, Consecutive, SakuraTriggerHeader.sizeOf, UInt32.zero_add, hpos]
      simp [SakuraTriggerHeader.sizeOf]
    · simp only [SakuraTriggerHeader.read_ofBytes, requestHeader, List.map_cons, List.map_nil]
      rw [toNat_ofNat_of_lt (by omega), toNat_ofNat_of_lt hvalues]

/-! ### Generic messages -/

/-- A generic message is built without loss. -/
def GenericExact (data : List UInt8) (msg : Message) : Prop :=
  msg.Exact SakuraGenericHeader.sizeOf (fun m => [(SakuraGenericHeader.read m).size.toNat]) [data]

theorem genericExact_iff (subType : UInt32) (data : List UInt8) :
    GenericExact data (genericMessage pad subType data) ↔ data.length < 2 ^ 32 := by
  have hsize : (UInt64.ofNat data.length).toUInt32.toNat = data.length ↔ data.length < 2 ^ 32 := by
    rw [UInt64.toNat_toUInt32, UInt64.toNat_ofNat']
    omega
  constructor
  · intro h
    obtain ⟨header, -, hparts, hannounced⟩ := h.header
    obtain rfl : SakuraGenericHeader.bytes pad ⟨subType, (UInt64.ofNat data.length).toUInt32⟩ = header :=
      (List.cons.inj hparts).1
    simp only [SakuraGenericHeader.read_ofBytes, List.map_cons, List.map_nil, List.cons.injEq, and_true] at hannounced
    exact hsize.mp hannounced
  · intro h
    refine .of_consecutive (SakuraGenericHeader.bytes pad ⟨subType, (UInt64.ofNat data.length).toUInt32⟩) ?_ ?_ rfl
      rfl ?_
    · simp only [genericMessage, SakuraGenericHeader.sizeOf, UInt64.toNat_add, UInt64.toNat_ofNat', List.map_cons,
        List.map_nil, List.sum_cons, List.sum_nil]
      omega
    · simp [genericMessage, Consecutive, SakuraGenericHeader.sizeOf]
    · simp only [SakuraGenericHeader.read_ofBytes, List.map_cons, List.map_nil, hsize.mpr h]

/-! ### Responses -/

/-- A response is built without loss. -/
def ResponseExact (response : ResponseMessage) (msg : Message) : Prop :=
  msg.Exact ResponseHeader.sizeOf (fun m => [(ResponseHeader.read m).messageSize.toNat]) [response.responseContent]

theorem responseExact_iff (response : ResponseMessage) : ResponseExact response (responseMessage pad response) ↔
    ResponseHeader.sizeOf + response.responseContent.length < 2 ^ 32 := by
  constructor
  · intro h
    have hlt := (UInt32.ofNat ResponseHeader.sizeOf + UInt32.ofNat response.responseContent.length).toNat_lt
    have hsize := h.size
    simp only [responseMessage, UInt32.toNat_toUInt64, List.map_cons, List.map_nil, List.sum_cons, List.sum_nil,
      Nat.add_zero] at hsize
    rwa [hsize] at hlt
  · intro h
    refine .of_consecutive (ResponseHeader.bytes pad
      ⟨response.success, response.type, UInt32.ofNat response.responseContent.length⟩) ?_ ?_ rfl rfl ?_
    · simp only [responseMessage, UInt32.toNat_toUInt64, toNat_ofNat_add h, List.map_cons, List.map_nil,
        List.sum_cons, List.sum_nil, Nat.add_zero]
    · simp [responseMessage, Consecutive, ResponseHeader.sizeOf]
    · simp only [ResponseHeader.read_ofBytes, List.map_cons, List.map_nil]
      rw [toNat_ofNat_of_lt (by omega)]

/-! ### All encoders -/

/-- The computation hands a message with `P` to the session layer, or refuses to send and returns. -/
def Sends {α : Type} (P : Message → Prop) (p : Traced Effect α) : Prop :=
  match firstSent p with
  | some msg => P msg
  | none => p.value.isSome

/-- A response that is too long for its buffer is neither handed over nor refused. -/
theorem sends_sendResponseMessage_iff (x : World) (response : ResponseMessage) (session : SessionId)
    (blockerId : UInt64) : Sends (ResponseExact response) (sendResponseMessage x response session blockerId) ↔
      ResponseHeader.sizeOf + response.responseContent.length < 2 ^ 32 := by
  rw [Sends, firstSent_sendResponseMessage]
  split_ifs with h
  · exact responseExact_iff response
  · rw [sendResponseMessage_of_not_fits h]
    exact iff_of_false Bool.false_ne_true h

/-- **For which lengths the encoders are exact**: a request when its id ends and its input values are
shorter than `2³²` bytes, a generic message when its body is, and a response when it is as a whole. -/
theorem encoders_exact_iff (x : World) :
    (∀ (session : SessionId) (response : ResponseMessage) (request : RequestMessage) (error : ErrorContainer),
      Sends (RequestExact request) (createRequest x session response request error) ↔
        SakuraTriggerHeader.sizeOf + request.id.length < 2 ^ 32 ∧ request.inputValues.length < 2 ^ 32) ∧
    (∀ (c : Client) (subType : UInt32) (data : List UInt8) (error : ErrorContainer) (σ : Type) (s : σ)
      (send : SessionId → Message → ErrorContainer → σ → Traced Effect (Bool × ErrorContainer × σ)),
      Sends (GenericExact data) (sendGenericMessage x c subType data error s send) ↔
        c.session = none ∨ data.length < 2 ^ 32) ∧
    (∀ (c : Client) (subType : UInt32) (data : List UInt8) (error : ErrorContainer),
      Sends (GenericExact data) (sendGenericRequest x c subType data error) ↔
        c.session = none ∨ data.length < 2 ^ 32) ∧
    (∀ (response : ResponseMessage) (session : SessionId) (blockerId : UInt64),
      Sends (ResponseExact response) (sendResponseMessage x response session blockerId) ↔
        ResponseHeader.sizeOf + response.responseContent.length < 2 ^ 32) := by
  refine ⟨?_, ?_, ?_, ?_⟩
  · intro session response request error
    simp only [Sends, firstSent_createRequest, requestExact_iff]
  · intro c subType data error σ s send
    simp only [Sends, firstSent_sendGenericMessage]
    cases hs : c.session <;> simp [genericExact_iff, sendGenericMessage, value_withLock, hs]
  · intro c subType data error
    simp only [Sends, firstSent_sendGenericRequest]
    cases hs : c.session <;> simp [genericExact_iff, sendGenericRequest, value_withLock, hs]
  · intro response session blockerId
    exact sends_sendResponseMessage_iff x response session blockerId

/-- A response with this many bytes of text. -/
def longResponse (length : ℕ) : ResponseMessage := ⟨true, 200, List.replicate length 0⟩

/-- With `2³²` bytes in all, the size of the buffer wraps to zero, and the header is written outside of it. -/
theorem not_sends_longResponse : ¬ Sends (ResponseExact (longResponse (2 ^ 32 - 12)))
    (sendResponseMessage literalWorld (longResponse (2 ^ 32 - 12)) 0 0) := by
  rw [sends_sendResponseMessage_iff]
  intro hfits
  have hlen : (longResponse (2 ^ 32 - 12)).responseContent.length = 2 ^ 32 - 12 := List.length_replicate
  rw [hlen, ResponseHeader.sizeOf] at hfits
  omega

end HanamiNetwork
