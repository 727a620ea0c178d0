import Mathlib.Data.List.Basic
import Mathlib.Tactic.Linarith

/-!
# Bytes in memory

Memory from some address on is a function from offsets to bytes: every offset has a
byte, also one that a program has no business to read, so that a read past the end of
a buffer is a read like any other and can be talked about. A `Span` is what one read
touches.

* `readAt m off len` — the bytes a read of `len` bytes at `off` gives, and
  `Holds m off bs` — the bytes `bs` lie at `off`.
* `memcpy m off bs` — memory after `bs` is copied to `off`.
* `le32`, `word32` — 32-bit words as they lie in memory, lowest byte first.
* `memcpyAll` — several copies in turn. When each begins where the one before it
  ended, they leave one run of bytes (`holds_memcpyAll`).
-/

namespace HanamiNetwork.Basis

/-- Memory from an address on. -/
abbrev Mem := ℕ → UInt8

/-- The `len` bytes at `off`. -/
def readAt (m : Mem) (off len : ℕ) : List UInt8 := (List.range len).map fun i => m (off + i)

@[simp] theorem length_readAt (m : Mem) (off len : ℕ) : (readAt m off len).length = len := by
  simp [readAt]

@[simp] theorem readAt_zero (m : Mem) (off : ℕ) : readAt m off 0 = [] := rfl

@[simp] theorem getElem?_readAt (m : Mem) (off len i : ℕ) :
    (readAt m off len)[i]? = if i < len then some (m (off + i)) else none := by
  rw [readAt, List.getElem?_map]
  split_ifs with h
  · rw [List.getElem?_range h, Option.map_some]
  · rw [List.getElem?_eq_none (by simpa using h), Option.map_none]

/-- A read of `a + b` bytes is a read of `a` bytes and one of `b` bytes behind it. -/
theorem readAt_add (m : Mem) (off a b : ℕ) :
    readAt m off (a + b) = readAt m off a ++ readAt m (off + a) b := by
  simp [readAt, List.range_add, Nat.add_assoc]

/-- Reads see only the bytes they touch. -/
theorem readAt_congr {m m' : Mem} {off len : ℕ} (h : ∀ i, off ≤ i → i < off + len → m i = m' i) :
    readAt m off len = readAt m' off len := by
  refine List.map_congr_left fun i hi => h _ (Nat.le_add_right _ _) ?_
  have := List.mem_range.mp hi
  omega

/-- The bytes `bs` lie in memory from `off` on. -/
def Holds (m : Mem) (off : ℕ) (bs : List UInt8) : Prop := readAt m off bs.length = bs

theorem holds_append {m : Mem} {off : ℕ} {as bs : List UInt8} :
    Holds m off (as ++ bs) ↔ Holds m off as ∧ Holds m (off + as.length) bs := by
  rw [Holds, List.length_append, readAt_add]
  constructor
  · exact fun h => List.append_inj h (length_readAt _ _ _)
  · rintro ⟨ha, hb⟩
    rw [ha, hb]

/-- Memories that agree on a run of bytes hold the same there. -/
theorem Holds.congr {m m' : Mem} {off : ℕ} {bs : List UInt8} (h : Holds m off bs)
    (hm : ∀ i, off ≤ i → i < off + bs.length → m' i = m i) : Holds m' off bs :=
  (readAt_congr hm).trans h

/-- Memory that holds bytes at its start, and zeros behind them. -/
def ofBytes (bs : List UInt8) : Mem := fun i => bs.getD i 0

theorem holds_ofBytes (bs : List UInt8) : Holds (ofBytes bs) 0 bs := by
  apply List.ext_getElem?
  intro i
  rw [getElem?_readAt]
  split_ifs with hi
  · rw [ofBytes, Nat.zero_add, List.getD_eq_getElem?_getD, List.getElem?_eq_getElem hi, Option.getD_some]
  · rw [List.getElem?_eq_none (Nat.le_of_not_lt hi)]

/-! ### Words -/

/-- A 32-bit word as four bytes, lowest first. -/
def le32 (v : UInt32) : List UInt8 :=
  [UInt8.ofNat v.toNat, UInt8.ofNat (v.toNat / 2 ^ 8), UInt8.ofNat (v.toNat / 2 ^ 16),
    UInt8.ofNat (v.toNat / 2 ^ 24)]

/-- The 32-bit word at `off`. -/
def word32 (m : Mem) (off : ℕ) : UInt32 :=
  UInt32.ofNat ((m off).toNat + 2 ^ 8 * (m (off + 1)).toNat + 2 ^ 16 * (m (off + 2)).toNat +
    2 ^ 24 * (m (off + 3)).toNat)

@[simp] theorem length_le32 (v : UInt32) : (le32 v).length = 4 := rfl

theorem Holds.word32_eq {m : Mem} {off : ℕ} {v : UInt32} (h : Holds m off (le32 v)) :
    word32 m off = v := by
  have h' : [m off, m (off + 1), m (off + 2), m (off + 3)] = le32 v := h
  simp only [le32, List.cons.injEq, and_true] at h'
  obtain ⟨h0, h1, h2, h3⟩ := h'
  have hv := v.toNat_lt
  rw [word32, h0, h1, h2, h3]
  apply UInt32.toNat_inj.mp
  simp only [UInt8.toNat_ofNat', UInt32.toNat_ofNat']
  omega

/-! ### Copies -/

/-- Memory after the bytes `bs` are copied to `off`. -/
def memcpy (m : Mem) (off : ℕ) (bs : List UInt8) : Mem := fun i =>
  if off ≤ i ∧ i < off + bs.length then bs.getD (i - off) 0 else m i

theorem memcpy_of_lt {m : Mem} {off i : ℕ} {bs : List UInt8} (h : i < off) : memcpy m off bs i = m i :=
  if_neg fun h' => absurd h'.1 (Nat.not_le_of_lt h)

theorem holds_memcpy (m : Mem) (off : ℕ) (bs : List UInt8) : Holds (memcpy m off bs) off bs := by
  apply List.ext_getElem?
  intro i
  rw [getElem?_readAt]
  split_ifs with hi
  · rw [memcpy, if_pos ⟨Nat.le_add_right _ _, by omega⟩, Nat.add_sub_cancel_left,
      List.getD_eq_getElem?_getD, List.getElem?_eq_getElem hi, Option.getD_some]
  · rw [List.getElem?_eq_none (Nat.le_of_not_lt hi)]

theorem Holds.memcpy_before {m : Mem} {off off' : ℕ} {as bs : List UInt8} (h : Holds m off' as)
    (hoff : off' + as.length ≤ off) : Holds (memcpy m off bs) off' as :=
  h.congr fun i _ hi => memcpy_of_lt (by omega)

/-- Several copies in turn, each to its own offset. -/
def memcpyAll (m : Mem) (writes : List (ℕ × List UInt8)) : Mem :=
  writes.foldl (fun m w => memcpy m w.1 w.2) m

/-- Every write begins where the one before it ended, the first one at `off`. -/
def Consecutive : ℕ → List (ℕ × List UInt8) → Prop
  | _, [] => True
  | off, w :: ws => w.1 = off ∧ Consecutive (off + w.2.length) ws

/-- Consecutive writes stay below the sum of their lengths. -/
theorem Consecutive.inside {ws : List (ℕ × List UInt8)} {off : ℕ} (h : Consecutive off ws) :
    ∀ w ∈ ws, w.1 + w.2.length ≤ off + (ws.map fun w => w.2.length).sum := by
  induction ws generalizing off with
  | nil => exact fun w hw => absurd hw List.not_mem_nil
  | cons w ws ih =>
    obtain ⟨hw, hws⟩ := h
    rw [List.forall_mem_cons, List.map_cons, List.sum_cons]
    refine ⟨by omega, fun w' hw' => ?_⟩
    have := ih hws w' hw'
    omega

/-- Consecutive copies, behind what lies there already, leave one run of bytes. -/
theorem Holds.memcpyAll {start : ℕ} {ws : List (ℕ × List UInt8)} {m : Mem} {bs : List UInt8}
    (h : Holds m start bs) (hc : Consecutive (start + bs.length) ws) :
    Holds (memcpyAll m ws) start (bs ++ (ws.map (·.2)).flatten) := by
  induction ws generalizing m bs with
  | nil => simpa [Basis.memcpyAll] using h
  | cons w ws ih =>
    obtain ⟨hw, hws⟩ := hc
    have hb : Holds (memcpy m w.1 w.2) start (bs ++ w.2) := by
      refine holds_append.mpr ⟨h.memcpy_before (by omega), ?_⟩
      rw [← hw]
      exact holds_memcpy m w.1 w.2
    have := ih hb (by rwa [List.length_append, ← Nat.add_assoc])
    simpa [Basis.memcpyAll, List.append_assoc] using this

theorem holds_memcpyAll {start : ℕ} {ws : List (ℕ × List UInt8)} (hc : Consecutive start ws) (m : Mem) :
    Holds (memcpyAll m ws) start (ws.map (·.2)).flatten := by
  have hnil : Holds m start [] := rfl
  simpa only [List.nil_append] using hnil.memcpyAll hc

/-! ### What a read touches -/

/-- A read of `len` bytes at `off`. -/
structure Span where
  /-- The first offset. -/
  off : ℕ
  /-- How many bytes. -/
  len : ℕ
  deriving DecidableEq, Repr

/-- The read touches offset `o`. -/
def Span.Touches (s : Span) (o : ℕ) : Prop := s.off ≤ o ∧ o < s.off + s.len

instance (s : Span) (o : ℕ) : Decidable (s.Touches o) := inferInstanceAs (Decidable (_ ∧ _))

/-- The read stays below `size`. -/
def Span.Within (s : Span) (size : ℕ) : Prop := s.len = 0 ∨ s.off + s.len ≤ size

instance (s : Span) (size : ℕ) : Decidable (s.Within size) := inferInstanceAs (Decidable (_ ∨ _))

/-- A read stays below `size` when it touches no offset from `size` on. -/
theorem Span.within_iff (s : Span) (size : ℕ) : s.Within size ↔ ∀ o, s.Touches o → o < size := by
  unfold Span.Within Span.Touches
  constructor
  · intro h o ho
    omega
  · intro h
    by_cases hl : s.len = 0
    · exact .inl hl
    · have := h (s.off + s.len - 1) ⟨by omega, by omega⟩
      exact .inr (by omega)

end HanamiNetwork.Basis
