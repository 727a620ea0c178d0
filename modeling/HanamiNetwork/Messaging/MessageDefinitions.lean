import HanamiNetwork.Basis.Memory
import HanamiNetwork.Data.Items

/-!
# Message definitions

The three headers of `message_definitions.h` as they lie in memory, the buffers they
are sent in, and the messages that the senders build.

The layout is the one the supported platform gives the structs (Linux on x64, an
enumeration being a 32-bit integer): every 32-bit field at a multiple of four, padding
before it, lowest byte first. The padding bytes hold whatever was there; they are a
parameter (`pad`), byte `i` of a struct being `pad i` if it is padding.

A sender allocates a buffer and copies the parts of the message into it. A `Message`
is that: the allocated size and the copies in turn, each at the offset the sender
computes. What the buffer holds afterwards is its `image`.
-/

namespace HanamiNetwork

open HanamiNetwork.Basis

/-! ### Numbers of 32 bits -/

theorem toNat_ofNat_of_lt {n : ℕ} (h : n < 2 ^ 32) : (UInt32.ofNat n).toNat = n := by
  rw [UInt32.toNat_ofNat']
  exact Nat.mod_eq_of_lt h

theorem toNat_ofNat_add {a b : ℕ} (h : a + b < 2 ^ 32) : (UInt32.ofNat a + UInt32.ofNat b).toNat = a + b := by
  rw [UInt32.toNat_add, toNat_ofNat_of_lt (by omega), toNat_ofNat_of_lt (by omega)]
  exact Nat.mod_eq_of_lt h

/-! ### Message types -/

/-- `SAKURA_TRIGGER_MESSAGE`. -/
def SAKURA_TRIGGER_MESSAGE : UInt8 := 0

/-- `SAKURA_GENERIC_MESSAGE`. -/
def SAKURA_GENERIC_MESSAGE : UInt8 := 1

/-- `RESPONSE_MESSAGE`. -/
def RESPONSE_MESSAGE : UInt8 := 4

/-! ### Headers -/

/-- `SakuraTriggerHeader`, but for its constant `type`. -/
structure SakuraTriggerHeader where
  /-- At offset 4. -/
  requestType : HttpRequestType
  /-- At offset 8. -/
  idSize : UInt32
  /-- At offset 12. -/
  inputValuesSize : UInt32
  deriving DecidableEq

namespace SakuraTriggerHeader

/-- `sizeof (SakuraTriggerHeader)`. -/
def sizeOf : ℕ := 16

/-- The struct in memory. -/
def bytes (pad : ℕ → UInt8) (h : SakuraTriggerHeader) : List UInt8 :=
  [SAKURA_TRIGGER_MESSAGE, pad 1, pad 2, pad 3] ++ le32 h.requestType ++ le32 h.idSize ++ le32 h.inputValuesSize

/-- The struct at the start of memory. -/
def read (m : Mem) : SakuraTriggerHeader := ⟨word32 m 4, word32 m 8, word32 m 12⟩

@[simp] theorem length_bytes (pad : ℕ → UInt8) (h : SakuraTriggerHeader) : (h.bytes pad).length = sizeOf := rfl

theorem read_of_holds {m : Mem} {pad : ℕ → UInt8} {h : SakuraTriggerHeader} (hm : Holds m 0 (h.bytes pad)) :
    m 0 = SAKURA_TRIGGER_MESSAGE ∧ read m = h := by
  simp only [bytes, holds_append, List.length_append, List.length_cons, List.length_nil, length_le32] at hm
  obtain ⟨⟨⟨h0, h4⟩, h8⟩, h12⟩ := hm
  have h0' : [m 0, m 1, m 2, m 3] = [SAKURA_TRIGGER_MESSAGE, pad 1, pad 2, pad 3] := h0
  exact ⟨(List.cons.inj h0').1, by rw [read, h4.word32_eq, h8.word32_eq, h12.word32_eq]⟩

@[simp] theorem read_ofBytes (pad : ℕ → UInt8) (h : SakuraTriggerHeader) : read (ofBytes (h.bytes pad)) = h :=
  (read_of_holds (holds_ofBytes _)).2

end SakuraTriggerHeader

/-- `SakuraGenericHeader`, but for its constant `type`. -/
structure SakuraGenericHeader where
  /-- At offset 4. -/
  subType : UInt32
  /-- At offset 8. -/
  size : UInt32
  deriving DecidableEq

namespace SakuraGenericHeader

/-- `sizeof (SakuraGenericHeader)`. -/
def sizeOf : ℕ := 12

/-- The struct in memory. -/
def bytes (pad : ℕ → UInt8) (h : SakuraGenericHeader) : List UInt8 :=
  [SAKURA_GENERIC_MESSAGE, pad 1, pad 2, pad 3] ++ le32 h.subType ++ le32 h.size

/-- The struct at the start of memory. -/
def read (m : Mem) : SakuraGenericHeader := ⟨word32 m 4, word32 m 8⟩

@[simp] theorem length_bytes (pad : ℕ → UInt8) (h : SakuraGenericHeader) : (h.bytes pad).length = sizeOf := rfl

theorem read_of_holds {m : Mem} {pad : ℕ → UInt8} {h : SakuraGenericHeader} (hm : Holds m 0 (h.bytes pad)) :
    m 0 = SAKURA_GENERIC_MESSAGE ∧ read m = h := by
  simp only [bytes, holds_append, List.length_append, List.length_cons, List.length_nil, length_le32] at hm
  obtain ⟨⟨h0, h4⟩, h8⟩ := hm
  have h0' : [m 0, m 1, m 2, m 3] = [SAKURA_GENERIC_MESSAGE, pad 1, pad 2, pad 3] := h0
  exact ⟨(List.cons.inj h0').1, by rw [read, h4.word32_eq, h8.word32_eq]⟩

@[simp] theorem read_ofBytes (pad : ℕ → UInt8) (h : SakuraGenericHeader) : read (ofBytes (h.bytes pad)) = h :=
  (read_of_holds (holds_ofBytes _)).2

end SakuraGenericHeader

/-- `ResponseHeader`, but for its `type`. -/
structure ResponseHeader where
  /-- At offset 1. -/
  success : Bool
  /-- At offset 4. -/
  responseType : HttpResponseTypes
  /-- At offset 8. -/
  messageSize : UInt32
  deriving DecidableEq

namespace ResponseHeader

/-- `sizeof (ResponseHeader)`. -/
def sizeOf : ℕ := 12

/-- The struct in memory. -/
def bytes (pad : ℕ → UInt8) (h : ResponseHeader) : List UInt8 :=
  [RESPONSE_MESSAGE, if h.success then 1 else 0, pad 2, pad 3] ++ le32 h.responseType ++ le32 h.messageSize

/-- The struct at the start of memory. -/
def read (m : Mem) : ResponseHeader := ⟨m 1 != 0, word32 m 4, word32 m 8⟩

@[simp] theorem length_bytes (pad : ℕ → UInt8) (h : ResponseHeader) : (h.bytes pad).length = sizeOf := rfl

theorem read_of_holds {m : Mem} {pad : ℕ → UInt8} {h : ResponseHeader} (hm : Holds m 0 (h.bytes pad)) :
    m 0 = RESPONSE_MESSAGE ∧ read m = h := by
  simp only [bytes, holds_append, List.length_append, List.length_cons, List.length_nil, length_le32] at hm
  obtain ⟨⟨h0, h4⟩, h8⟩ := hm
  have h0' : [m 0, m 1, m 2, m 3] = [RESPONSE_MESSAGE, if h.success then 1 else 0, pad 2, pad 3] := h0
  simp only [List.cons.injEq] at h0'
  refine ⟨h0'.1, ?_⟩
  rw [read, h4.word32_eq, h8.word32_eq, h0'.2.1]
  cases h with
  | mk success responseType messageSize => cases success <;> rfl

@[simp] theorem read_ofBytes (pad : ℕ → UInt8) (h : ResponseHeader) : read (ofBytes (h.bytes pad)) = h :=
  (read_of_holds (holds_ofBytes _)).2

end ResponseHeader

/-! ### Buffers and messages -/

/-- `DataBuffer`. A buffer with used bytes has memory to hold them. -/
structure DataBuffer where
  /-- The memory, null if there is none. -/
  data : Option Mem
  /-- How many of its bytes belong to the message. -/
  usedBufferSize : UInt64
  /-- Used bytes lie in memory. -/
  hasData : usedBufferSize ≠ 0 → data.isSome

/-- The memory of the buffer. -/
def DataBuffer.mem (buf : DataBuffer) : Mem := buf.data.getD fun _ => 0

/-- A message as a sender builds it. -/
structure Message where
  /-- The size of the allocated buffer, which is also the size that is sent. -/
  size : UInt64
  /-- The copies into the buffer, in turn. -/
  writes : List (ℕ × List UInt8)

/-- What the buffer holds when it is sent; `heap` is what it held when it was allocated. -/
def Message.image (heap : Mem) (msg : Message) : Mem := memcpyAll heap msg.writes

/-- Nothing is copied to outside of the buffer. -/
def Message.Inside (msg : Message) : Prop := ∀ w ∈ msg.writes, w.1 + w.2.length ≤ msg.size.toNat

instance (msg : Message) : Decidable msg.Inside := inferInstanceAs (Decidable (∀ w ∈ msg.writes, _))

/-- The session layer delivers the message unchanged: the received buffer has its size and
its bytes. Behind them may be anything. -/
structure Delivers (heap : Mem) (msg : Message) (buf : DataBuffer) : Prop where
  /-- The size. -/
  size : buf.usedBufferSize = msg.size
  /-- The bytes. -/
  bytes : ∀ i < msg.size.toNat, buf.mem i = msg.image heap i

/-- The buffer that holds the sent one. -/
def Message.received (heap : Mem) (msg : Message) : DataBuffer := ⟨some (msg.image heap), msg.size, fun _ => rfl⟩

theorem Message.delivers_received (heap : Mem) (msg : Message) : Delivers heap msg (msg.received heap) :=
  ⟨rfl, fun _ _ => rfl⟩

/-- A delivered message whose parts were copied one behind the other holds them in one run. -/
theorem Delivers.holds {heap : Mem} {msg : Message} {buf : DataBuffer} (h : Delivers heap msg buf)
    (hc : Consecutive 0 msg.writes) {bs : List UInt8} (hbs : (msg.writes.map (·.2)).flatten = bs)
    (hsize : bs.length ≤ msg.size.toNat) : Holds buf.mem 0 bs := by
  subst hbs
  exact (holds_memcpyAll hc heap).congr fun i _ hi => h.bytes i (by omega)

end HanamiNetwork
