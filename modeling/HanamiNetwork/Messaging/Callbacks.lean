import HanamiNetwork.Data.World

/-!
# Decoding incoming messages

`standaloneDataCallback` (`callbacks.h`) takes a received buffer apart: a trigger
message becomes a `MessagingEvent` in the queue, a generic message a call of
`processGenericRequest`. The model records what the callback does with the message and,
as spans, what it reads of the buffer; the body of a generic message is read by the
handler it is handed to.

The callback looks at no length but the `0` of an empty message. What it takes to stay
inside the received bytes is therefore up to the sender: `LengthsFit`, and an id that
does not push the 32-bit `pos` over its end. `staysInside_iff` says that this is exact.
-/

namespace HanamiNetwork

open HanamiNetwork.Basis

/-- `MessagingEvent`. -/
structure MessagingEvent where
  /-- `m_httpType`. -/
  httpType : HttpRequestType
  /-- `m_targetId`. -/
  targetId : Str
  /-- `m_inputValues`. -/
  inputValues : Str
  /-- `m_session`. -/
  session : SessionId
  /-- `m_blockerId`. -/
  blockerId : UInt64
  deriving DecidableEq

/-- A call of `processGenericRequest`. -/
structure GenericRequest where
  /-- The session the message came in on. -/
  session : SessionId
  /-- The sub-type. -/
  subType : UInt32
  /-- The `dataSize` bytes the pointer to the body points at. -/
  data : List UInt8
  /-- The size of the body. -/
  dataSize : UInt64
  /-- The blocker-id. -/
  blockerId : UInt64
  deriving DecidableEq

/-- What a callback did with a message. -/
structure Received where
  /-- What was read of the buffer. -/
  reads : List Span
  /-- The events that were placed in the queue. -/
  events : List MessagingEvent
  /-- The calls of `processGenericRequest`. -/
  requests : List GenericRequest

/-- Nothing was done. -/
def Received.nothing : Received := ⟨[], [], []⟩

/-- The branch for `SAKURA_TRIGGER_MESSAGE`. -/
def receiveTrigger (session : SessionId) (blockerId : UInt64) (m : Mem) : Received :=
  let header := SakuraTriggerHeader.read m
  let pos : UInt32 := 16
  let idSpan : Span := ⟨pos.toNat, header.idSize.toNat⟩
  -- the sum is one of 32 bits
  let pos := pos + header.idSize
  let valuesSpan : Span := ⟨pos.toNat, header.inputValuesSize.toNat⟩
  { reads := [⟨4, 4⟩, ⟨8, 4⟩, ⟨12, 4⟩, idSpan, valuesSpan]
    events := [{ httpType := header.requestType
                 targetId := readAt m idSpan.off idSpan.len
                 inputValues := readAt m valuesSpan.off valuesSpan.len
                 session := session
                 blockerId := blockerId }]
    requests := [] }

/-- The branch for `SAKURA_GENERIC_MESSAGE`. -/
def receiveGeneric (session : SessionId) (blockerId : UInt64) (m : Mem) : Received :=
  let header := SakuraGenericHeader.read m
  let bodySpan : Span := ⟨SakuraGenericHeader.sizeOf, header.size.toNat⟩
  { reads := [⟨4, 4⟩, ⟨8, 4⟩, bodySpan]
    events := []
    requests := [{ session := session
                   subType := header.subType
                   data := readAt m bodySpan.off bodySpan.len
                   dataSize := header.size.toUInt64
                   blockerId := blockerId }] }

/-- `standaloneDataCallback`. -/
def standaloneDataCallback (session : SessionId) (blockerId : UInt64) (data : DataBuffer) : Received :=
  if data.usedBufferSize = 0 then .nothing
  else
    let type := data.mem 0
    let trigger := if type = SAKURA_TRIGGER_MESSAGE then receiveTrigger session blockerId data.mem else .nothing
    let generic := if type = SAKURA_GENERIC_MESSAGE then receiveGeneric session blockerId data.mem else .nothing
    { reads := ⟨0, 1⟩ :: (trigger.reads ++ generic.reads)
      events := trigger.events ++ generic.events
      requests := trigger.requests ++ generic.requests }

section

variable {session : SessionId} {blockerId : UInt64} {data : DataBuffer}

theorem standaloneDataCallback_trigger (h0 : data.usedBufferSize ≠ 0)
    (ht : data.mem 0 = SAKURA_TRIGGER_MESSAGE) : standaloneDataCallback session blockerId data =
      { receiveTrigger session blockerId data.mem with
        reads := ⟨0, 1⟩ :: (receiveTrigger session blockerId data.mem).reads } := by
  have hg : data.mem 0 ≠ SAKURA_GENERIC_MESSAGE := by rw [ht]; decide
  simp [standaloneDataCallback, h0, ht, Received.nothing, SAKURA_TRIGGER_MESSAGE, SAKURA_GENERIC_MESSAGE]

theorem standaloneDataCallback_generic (h0 : data.usedBufferSize ≠ 0)
    (hg : data.mem 0 = SAKURA_GENERIC_MESSAGE) : standaloneDataCallback session blockerId data =
      { receiveGeneric session blockerId data.mem with
        reads := ⟨0, 1⟩ :: (receiveGeneric session blockerId data.mem).reads } := by
  simp [standaloneDataCallback, h0, hg, Received.nothing, SAKURA_TRIGGER_MESSAGE, SAKURA_GENERIC_MESSAGE]

theorem standaloneDataCallback_other (h0 : data.usedBufferSize ≠ 0)
    (ht : data.mem 0 ≠ SAKURA_TRIGGER_MESSAGE) (hg : data.mem 0 ≠ SAKURA_GENERIC_MESSAGE) :
    standaloneDataCallback session blockerId data = ⟨[⟨0, 1⟩], [], []⟩ := by
  simp [standaloneDataCallback, h0, ht, hg, Received.nothing]

end

/-! ### Staying inside the message -/

/-- The lengths in the header fit in the received bytes. -/
def LengthsFit (data : DataBuffer) : Prop :=
  let used := data.usedBufferSize.toNat
  (data.mem 0 = SAKURA_TRIGGER_MESSAGE →
    let header := SakuraTriggerHeader.read data.mem
    SakuraTriggerHeader.sizeOf + header.idSize.toNat + header.inputValuesSize.toNat ≤ used) ∧
  (data.mem 0 = SAKURA_GENERIC_MESSAGE →
    SakuraGenericHeader.sizeOf + (SakuraGenericHeader.read data.mem).size.toNat ≤ used)

instance (data : DataBuffer) : Decidable (LengthsFit data) := inferInstanceAs (Decidable (_ ∧ _))

/-- The 32-bit `pos` of a trigger message does not wrap. -/
def PosFits (data : DataBuffer) : Prop :=
  data.mem 0 = SAKURA_TRIGGER_MESSAGE →
    SakuraTriggerHeader.sizeOf + (SakuraTriggerHeader.read data.mem).idSize.toNat < 2 ^ 32

/-- The callback stays inside the message: it reads no byte behind the received ones, `pos`
does not wrap, and a message whose lengths do not fit is not passed on. -/
structure StaysInside (session : SessionId) (blockerId : UInt64) (data : DataBuffer) : Prop where
  /-- Every offset that is read is one of a received byte. -/
  reads : ∀ s ∈ (standaloneDataCallback session blockerId data).reads, ∀ o, s.Touches o →
    o < data.usedBufferSize.toNat
  /-- `pos` does not wrap. -/
  pos : PosFits data
  /-- A message whose lengths do not fit is not passed on. -/
  refused : ¬ LengthsFit data → (standaloneDataCallback session blockerId data).events = [] ∧
    (standaloneDataCallback session blockerId data).requests = []

/-- A message that is passed on although its lengths do not fit is one that goes wrong. -/
theorem StaysInside.lengthsFit {session : SessionId} {blockerId : UInt64} {data : DataBuffer}
    (h0 : data.usedBufferSize ≠ 0) (h : StaysInside session blockerId data) : LengthsFit data := by
  by_contra hfit
  obtain ⟨he, hr⟩ := h.refused hfit
  by_cases ht : data.mem 0 = SAKURA_TRIGGER_MESSAGE
  · rw [standaloneDataCallback_trigger h0 ht] at he
    cases he
  by_cases hg : data.mem 0 = SAKURA_GENERIC_MESSAGE
  · rw [standaloneDataCallback_generic h0 hg] at hr
    cases hr
  exact hfit ⟨fun h => absurd h ht, fun h => absurd h hg⟩

theorem receiveTrigger_within {session : SessionId} {blockerId : UInt64} {m : Mem} {used : ℕ}
    (hle : SakuraTriggerHeader.sizeOf + (SakuraTriggerHeader.read m).idSize.toNat +
      (SakuraTriggerHeader.read m).inputValuesSize.toNat ≤ used)
    (hlt : SakuraTriggerHeader.sizeOf + (SakuraTriggerHeader.read m).idSize.toNat < 2 ^ 32) :
    ∀ s ∈ (receiveTrigger session blockerId m).reads, s.Within used := by
  have h16 : (16 : UInt32).toNat = 16 := rfl
  have hpos : ((16 : UInt32) + (SakuraTriggerHeader.read m).idSize).toNat =
      16 + (SakuraTriggerHeader.read m).idSize.toNat := by
    rw [UInt32.toNat_add]
    exact Nat.mod_eq_of_lt hlt
  simp only [SakuraTriggerHeader.sizeOf] at hle
  simp only [receiveTrigger, List.forall_mem_cons, Span.Within, hpos, h16]
  refine ⟨?_, ?_, ?_, ?_, ?_, fun _ h => absurd h List.not_mem_nil⟩ <;> omega

theorem receiveGeneric_within {session : SessionId} {blockerId : UInt64} {m : Mem} {used : ℕ}
    (hle : SakuraGenericHeader.sizeOf + (SakuraGenericHeader.read m).size.toNat ≤ used) :
    ∀ s ∈ (receiveGeneric session blockerId m).reads, s.Within used := by
  simp only [SakuraGenericHeader.sizeOf] at hle
  simp only [receiveGeneric, List.forall_mem_cons, Span.Within, SakuraGenericHeader.sizeOf]
  refine ⟨?_, ?_, ?_, fun _ h => absurd h List.not_mem_nil⟩ <;> omega

theorem reads_within {session : SessionId} {blockerId : UInt64} {data : DataBuffer}
    (h0 : data.usedBufferSize ≠ 0) (hfit : LengthsFit data) (hpos : PosFits data) :
    ∀ s ∈ (standaloneDataCallback session blockerId data).reads, s.Within data.usedBufferSize.toNat := by
  have hfirst : (⟨0, 1⟩ : Span).Within data.usedBufferSize.toNat :=
    .inr (Nat.pos_of_ne_zero fun h => h0 (UInt64.toNat_inj.mp h))
  by_cases ht : data.mem 0 = SAKURA_TRIGGER_MESSAGE
  · rw [standaloneDataCallback_trigger h0 ht]
    exact List.forall_mem_cons.mpr ⟨hfirst, receiveTrigger_within (hfit.1 ht) (hpos ht)⟩
  by_cases hg : data.mem 0 = SAKURA_GENERIC_MESSAGE
  · rw [standaloneDataCallback_generic h0 hg]
    exact List.forall_mem_cons.mpr ⟨hfirst, receiveGeneric_within (hfit.2 hg)⟩
  · rw [standaloneDataCallback_other h0 ht hg]
    exact List.forall_mem_cons.mpr ⟨hfirst, fun _ h => absurd h List.not_mem_nil⟩

/-- **The server-side decoder stays inside the message exactly when the sender lets it**: of
a message of a known type, the header and the parts it announces must be there, and the
id must not push `pos` over the end of its 32 bits. -/
theorem staysInside_iff (session : SessionId) (blockerId : UInt64) (data : DataBuffer)
    (h0 : data.usedBufferSize ≠ 0) :
    StaysInside session blockerId data ↔ LengthsFit data ∧ PosFits data := by
  constructor
  · exact fun h => ⟨h.lengthsFit h0, h.pos⟩
  · rintro ⟨hfit, hpos⟩
    exact ⟨fun s hs => (Span.within_iff s _).mp (reads_within h0 hfit hpos s hs), hpos,
      fun h => absurd hfit h⟩

/-- A message of one byte, the type of a trigger message, with zeros behind it. -/
def truncatedTrigger : DataBuffer := ⟨some fun _ => 0, 1, fun _ => rfl⟩

/-- The truncated message is passed on, although its header is not there. -/
theorem not_staysInside_truncatedTrigger :
    ¬ ∀ (session : SessionId) (blockerId : UInt64) (data : DataBuffer), data.usedBufferSize ≠ 0 →
      StaysInside session blockerId data := by
  intro h
  have hs := (h 0 0 truncatedTrigger (by decide)).lengthsFit (by decide)
  exact absurd (hs.1 rfl) (by decide)

/-- A trigger message with an id of five bytes and values of two. -/
def greetTrigger : DataBuffer :=
  ⟨some fun o => ([0, 0, 0, 0, 2, 0, 0, 0, 5, 0, 0, 0, 2, 0, 0, 0] ++ str "greet" ++ str "\x7b\x7d").getD o 0, 23,
    fun _ => rfl⟩

/-- It is read to its end, and no further. -/
theorem staysInside_greetTrigger : StaysInside 0 0 greetTrigger :=
  (staysInside_iff 0 0 greetTrigger (by decide)).mpr ⟨by decide, fun _ => by decide⟩

end HanamiNetwork
