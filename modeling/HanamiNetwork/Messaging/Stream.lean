import HanamiNetwork.Messaging.Client

/-!
# Streaming a stack-buffer

`sendStreamMessage` for a `StackBuffer` (`hanami_messaging_client.cpp`) hands the blocks of
the buffer to the session, one after the other. Its loop counts up to the number of blocks,
while it takes the blocks it has sent out of the buffer: counter and number meet halfway.

What is sent is sent in order, and what is not sent is kept (`sendBlocks_kept`,
`sendBlocks_ordered`). Where the loop ends is said by `sendBlocks_ends`; `streamsAll_iff`
says what is left of streaming the whole buffer.
-/

namespace HanamiNetwork

open HanamiNetwork.Basis

/-- What a call of `sendStreamData` gives. -/
structure SendOutcome where
  /-- The value that is returned. -/
  sent : Bool
  /-- The messages that are put into the error container. -/
  messages : List Str

/-- A call of `sendStreamData`. -/
structure StreamCall where
  /-- The block it is about. -/
  block : DataBuffer
  /-- Whether a reply is expected. -/
  replyExpected : Bool
  /-- The value that was returned. -/
  sent : Bool

/-- What streaming leaves behind. -/
inductive StreamEffect where
  /-- `m_sessionLock` of a client is taken. -/
  | lock (client : ClientId)
  /-- `m_sessionLock` of a client is released. -/
  | unlock (client : ClientId)
  /-- `sendStreamData` is called on a session. -/
  | sendStreamData (session : SessionId) (call : StreamCall)

/-- The calls of `sendStreamData`, first one first. -/
def streamCalls {α : Type} (p : Traced StreamEffect α) : List StreamCall :=
  p.effects.filterMap fun
    | .sendStreamData _ call => some call
    | _ => none

/-- The loop of `sendStreamMessage`, with its counter `i`; `k` is how many calls were made before, and
`send k` what the next one gives. -/
def sendBlocks (session : SessionId) (send : ℕ → SendOutcome) (i : UInt32) (k : ℕ) (blocks : List DataBuffer)
    (error : ErrorContainer) : Traced StreamEffect (Bool × List DataBuffer × ErrorContainer) :=
  match blocks with
  | [] => return (true, [], error)
  | buf :: rest =>
    if i.toNat < (buf :: rest).length then do
      let expReply : Bool := i.toNat = (buf :: rest).length - 1
      let outcome := send k
      Traced.emit (.sendStreamData session ⟨buf, expReply, outcome.sent⟩)
      let error : ErrorContainer := ⟨error.messages ++ outcome.messages⟩
      if outcome.sent = false then
        return (false, buf :: rest, error)
      else
        sendBlocks session send (i + 1) (k + 1) rest error
    else
      return (true, buf :: rest, error)

/-- `sendStreamMessage` for a `StackBuffer`, of which it returns what is left. -/
def sendStreamMessage (c : Client) (send : ℕ → SendOutcome) (data : List DataBuffer) (error : ErrorContainer) :
    Traced StreamEffect (Bool × List DataBuffer × ErrorContainer) := do
  Traced.emit (.lock c.id)
  let result ← match c.session with
    | none => pure (false, data, error.addMeesage noSession)
    | some session => sendBlocks session send 0 0 data error
  Traced.emit (.unlock c.id)
  return result

/-- `sendStreamMessage` for a pointer and a size. -/
def sendStreamPointer (c : Client) (outcome : SendOutcome) (data : DataBuffer) (replyExpected : Bool)
    (error : ErrorContainer) : Traced StreamEffect (Bool × ErrorContainer) := do
  Traced.emit (.lock c.id)
  let result ← match c.session with
    | none => pure (false, error.addMeesage noSession)
    | some session => do
      Traced.emit (.sendStreamData session ⟨data, replyExpected, outcome.sent⟩)
      pure (outcome.sent, ⟨error.messages ++ outcome.messages⟩)
  Traced.emit (.unlock c.id)
  return result

/-! ### One turn of the loop -/

section

variable (session : SessionId) (send : ℕ → SendOutcome) (i : UInt32) (k : ℕ) (buf : DataBuffer)
  (rest blocks : List DataBuffer) (error : ErrorContainer)

/-- The call that is made in one turn. -/
def turnCall : StreamCall := ⟨buf, i.toNat = rest.length, (send k).sent⟩

variable {session send i k buf rest}

theorem sendBlocks_done (h : ¬ i.toNat ≤ rest.length) :
    sendBlocks session send i k (buf :: rest) error = ⟨[], some (true, buf :: rest, error)⟩ := by
  rw [sendBlocks, if_neg (by rw [List.length_cons]; omega)]
  rfl

theorem sendBlocks_failed (h : i.toNat ≤ rest.length) (hs : (send k).sent = false) :
    sendBlocks session send i k (buf :: rest) error = ⟨[.sendStreamData session (turnCall send i k buf rest)],
      some (false, buf :: rest, ⟨error.messages ++ (send k).messages⟩)⟩ := by
  rw [sendBlocks, if_pos (by rw [List.length_cons]; omega)]
  simp only [hs, if_true]
  simp [Traced.ext_iff, turnCall, hs]

theorem sendBlocks_next (h : i.toNat ≤ rest.length) (hs : (send k).sent = true) :
    sendBlocks session send i k (buf :: rest) error =
      (let next := sendBlocks session send (i + 1) (k + 1) rest ⟨error.messages ++ (send k).messages⟩
       ⟨.sendStreamData session (turnCall send i k buf rest) :: next.effects, next.value⟩) := by
  rw [sendBlocks, if_pos (by rw [List.length_cons]; omega)]
  simp [Traced.ext_iff, turnCall, hs]

/-! ### The whole loop -/

variable {error}

/-- What was sent and what is left are the blocks that were there. -/
theorem sendBlocks_kept {blocks : List DataBuffer} {ret : Bool} {left : List DataBuffer} {error' : ErrorContainer}
    (h : (sendBlocks session send i k blocks error).value = some (ret, left, error')) :
    ((streamCalls (sendBlocks session send i k blocks error)).filter StreamCall.sent).map StreamCall.block ++ left =
      blocks := by
  induction blocks generalizing i k error with
  | nil =>
    cases h
    rfl
  | cons buf rest ih =>
    by_cases hi : i.toNat ≤ rest.length
    · cases hs : (send k).sent with
      | false =>
        rw [sendBlocks_failed error hi hs] at h ⊢
        cases h
        simp [streamCalls, turnCall, hs]
      | true =>
        rw [sendBlocks_next error hi hs] at h ⊢
        have := ih h
        simpa [streamCalls, turnCall, hs] using this
    · rw [sendBlocks_done error hi] at h ⊢
      cases h
      rfl

variable (session send i k error) in
/-- The blocks are handed over in order, each once at most. -/
theorem sendBlocks_ordered (blocks : List DataBuffer) :
    (streamCalls (sendBlocks session send i k blocks error)).map StreamCall.block <+: blocks := by
  induction blocks generalizing i k error with
  | nil => exact List.prefix_rfl
  | cons buf rest ih =>
    by_cases hi : i.toNat ≤ rest.length
    · cases hs : (send k).sent with
      | false =>
        rw [sendBlocks_failed error hi hs]
        exact List.prefix_append [buf] rest
      | true =>
        rw [sendBlocks_next error hi hs]
        exact List.cons_prefix_cons.mpr ⟨rfl, ih ..⟩
    · rw [sendBlocks_done error hi]
      exact List.nil_prefix

variable {n : ℕ} {blocks : List DataBuffer}

theorem toNat_counter_succ (hi : i.toNat = k % 2 ^ 32) : (i + 1).toNat = (k + 1) % 2 ^ 32 := by
  rw [UInt32.toNat_add, hi, UInt32.toNat_one]
  omega

variable (session send blocks error) in
/-- The call in which a reply is expected is the one where counter and number meet. -/
theorem sendBlocks_reply (hi : i.toNat = k % 2 ^ 32) (hn : n = k + blocks.length) {t : ℕ} {call : StreamCall}
    (hcall : (streamCalls (sendBlocks session send i k blocks error))[t]? = some call) :
    call.replyExpected = true ↔ (k + t) + (k + t) % 2 ^ 32 + 1 = n := by
  induction blocks generalizing i k error t with
  | nil => simp [sendBlocks, streamCalls] at hcall
  | cons buf rest ih =>
    rw [List.length_cons] at hn
    have hturn : (turnCall send i k buf rest).replyExpected = true ↔ k + k % 2 ^ 32 + 1 = n := by
      simp only [turnCall, decide_eq_true_eq, hi]
      omega
    by_cases hlt : i.toNat ≤ rest.length
    · cases hs : (send k).sent with
      | false =>
        rw [sendBlocks_failed error hlt hs] at hcall
        cases t with
        | zero =>
          obtain rfl := Option.some_inj.mp hcall
          exact hturn
        | succ t => simp [streamCalls] at hcall
      | true =>
        rw [sendBlocks_next error hlt hs] at hcall
        cases t with
        | zero =>
          obtain rfl := Option.some_inj.mp hcall
          exact hturn
        | succ t =>
          have := ih _ (toNat_counter_succ hi) (by omega) hcall
          rwa [show k + 1 + t = k + (t + 1) by omega] at this
    · rw [sendBlocks_done error hlt] at hcall
      simp [streamCalls] at hcall

/-- The loop over `n` blocks, from turn `k` on, ends in turn `j` after a number of calls: at the first turn
whose call fails, or at the first one whose counter has reached the number of blocks that are left. -/
structure LoopEnds (send : ℕ → SendOutcome) (n k calls j : ℕ) (ret : Bool) (left : List DataBuffer) : Prop where
  /-- It is a later turn. -/
  le : k ≤ j
  /-- The calls of the turns before succeed, and their counters do not reach that number. -/
  turns : ∀ t, k ≤ t → t < j → (send t).sent = true ∧ t + t % 2 ^ 32 < n
  /-- Each of them removes a block. -/
  length_left : j + left.length = n
  /-- If the loop fails, the call of turn `j` does. -/
  failed : ret = false → j + j % 2 ^ 32 < n ∧ (send j).sent = false ∧ calls = j - k + 1
  /-- If it does not, the counter has reached the number in turn `j`. -/
  done : ret = true → n ≤ j + j % 2 ^ 32 ∧ calls = j - k

theorem LoopEnds.of_next {calls j : ℕ} {ret : Bool} {left : List DataBuffer}
    (h : LoopEnds send n (k + 1) calls j ret left) (hs : (send k).sent = true) (hk : k + k % 2 ^ 32 < n) :
    LoopEnds send n k (calls + 1) j ret left where
  le := Nat.le_of_succ_le h.le
  turns t h1 h2 := by
    rcases Nat.eq_or_lt_of_le h1 with rfl | h1
    · exact ⟨hs, hk⟩
    · exact h.turns t h1 h2
  length_left := h.length_left
  failed hret := by
    obtain ⟨hj, hsj, hcalls⟩ := h.failed hret
    have := h.le
    exact ⟨hj, hsj, by omega⟩
  done hret := by
    obtain ⟨hj, hcalls⟩ := h.done hret
    have := h.le
    exact ⟨hj, by omega⟩

variable (session send blocks error) in
theorem sendBlocks_ends (hi : i.toNat = k % 2 ^ 32) (hn : n = k + blocks.length) :
    ∃ j ret left error', (sendBlocks session send i k blocks error).value = some (ret, left, error') ∧
      LoopEnds send n k (streamCalls (sendBlocks session send i k blocks error)).length j ret left := by
  induction blocks generalizing i k error with
  | nil =>
    refine ⟨k, true, [], error, rfl, le_rfl, fun t h1 h2 => by omega, hn.symm, nofun, fun _ => ⟨?_, ?_⟩⟩
    · rw [List.length_nil] at hn
      omega
    · rw [Nat.sub_self]
      rfl
  | cons buf rest ih =>
    rw [List.length_cons] at hn
    by_cases hlt : i.toNat ≤ rest.length
    · cases hs : (send k).sent with
      | false =>
        rw [sendBlocks_failed error hlt hs]
        refine ⟨k, false, buf :: rest, _, rfl, le_rfl, fun t h1 h2 => by omega, by rw [List.length_cons, hn],
          fun _ => ⟨by omega, hs, ?_⟩, nofun⟩
        rw [Nat.sub_self]
        rfl
      | true =>
        rw [sendBlocks_next error hlt hs]
        obtain ⟨j, ret, left, error', hv, hends⟩ :=
          ih ⟨error.messages ++ (send k).messages⟩ (toNat_counter_succ hi) (by omega)
        exact ⟨j, ret, left, error', hv, hends.of_next hs (by omega)⟩
    · rw [sendBlocks_done error hlt]
      refine ⟨k, true, buf :: rest, error, rfl, le_rfl, fun t h1 h2 => by omega, by rw [List.length_cons, hn], nofun,
        fun _ => ⟨by omega, ?_⟩⟩
      rw [Nat.sub_self]
      rfl

end

/-! ### Streaming all blocks -/

/-- The whole buffer is streamed, or what is not sent is kept and the call returns false. -/
structure StreamsAll (c : Client) (send : ℕ → SendOutcome) (data : List DataBuffer) (error : ErrorContainer) :
    Prop where
  /-- The blocks are handed over in order, each once at most. -/
  ordered : (streamCalls (sendStreamMessage c send data error)).map StreamCall.block <+: data
  /-- What was sent and what is left are the blocks that were there; and true is returned exactly if all
  were sent and none is left. -/
  returned : ∃ ret left error', (sendStreamMessage c send data error).value = some (ret, left, error') ∧
    ((streamCalls (sendStreamMessage c send data error)).filter StreamCall.sent).map StreamCall.block ++ left = data ∧
    (ret = true ↔
      ((streamCalls (sendStreamMessage c send data error)).filter StreamCall.sent).map StreamCall.block = data ∧
        left = [])
  /-- A reply is expected for the last block, and for no other. -/
  reply : ∀ t call, (streamCalls (sendStreamMessage c send data error))[t]? = some call →
    (call.replyExpected = true ↔ t + 1 = data.length)

/-- A call fails in the first half of the turns: in all turns up to it, the counter stays below the index of
the last block that is left. -/
def FailsEarly (send : ℕ → SendOutcome) (n : ℕ) : Prop :=
  ∃ j, (send j).sent = false ∧ ∀ k ≤ j, k + k % 2 ^ 32 + 1 < n

section

variable {c : Client} (send : ℕ → SendOutcome) (data : List DataBuffer) (error : ErrorContainer)

theorem sendStreamMessage_of_none (hc : c.session = none) : sendStreamMessage c send data error =
    ⟨[.lock c.id, .unlock c.id], some (false, data, error.addMeesage noSession)⟩ := by
  simp only [sendStreamMessage, hc]
  rfl

theorem sendStreamMessage_of_some {session : SessionId} (hc : c.session = some session) :
    (sendStreamMessage c send data error).value = (sendBlocks session send 0 0 data error).value ∧
      streamCalls (sendStreamMessage c send data error) = streamCalls (sendBlocks session send 0 0 data error) := by
  obtain ⟨j, ret, left, error', hv, -⟩ := sendBlocks_ends session send error data (i := 0) (k := 0) rfl rfl
  constructor
  · simp [sendStreamMessage, hc, hv]
  · simp [sendStreamMessage, hc, hv, streamCalls]

/-- Of two blocks or more, the counter reaches the number of those that are left before all are sent. -/
theorem le_one_of_turns {n : ℕ} (h : ∀ t < n, t + t % 2 ^ 32 < n) : n ≤ 1 := by
  by_contra hn
  have h1 := h (n - 1) (by omega)
  have h2 := h (n - 2) (by omega)
  omega

variable {send data error}

/-- A loop in which a call fails early fails itself, and ends as early. -/
theorem LoopEnds.of_failsEarly {n calls j : ℕ} {ret : Bool} {left : List DataBuffer}
    (h : LoopEnds send n 0 calls j ret left) (hearly : FailsEarly send n) :
    ret = false ∧ ∀ t ≤ j, t + t % 2 ^ 32 + 1 < n := by
  obtain ⟨j', hs', hj'⟩ := hearly
  have hle : j ≤ j' := by
    by_contra hlt
    rw [(h.turns j' j'.zero_le (by omega)).1] at hs'
    cases hs'
  refine ⟨?_, fun t ht => hj' t (by omega)⟩
  cases ret with
  | false => rfl
  | true =>
    have h1 := (h.done rfl).1
    have h2 := hj' j hle
    omega

/-- What it takes to stream the whole buffer over a session. -/
theorem failsEarly_of_streamsAll (h : StreamsAll c send data error) {session : SessionId}
    (hc : c.session = some session) : data.length ≤ 1 ∨ FailsEarly send data.length := by
  obtain ⟨hvalue, hcalls⟩ := sendStreamMessage_of_some send data error hc
  obtain ⟨j, ret, left, error', hv, hends⟩ :=
    sendBlocks_ends session send error data (i := 0) (k := 0) rfl (Nat.zero_add _).symm
  obtain ⟨ret', left', error'', hv', -, hret⟩ := h.returned
  rw [hvalue, hv] at hv'
  cases hv'
  have hleft := hends.length_left
  cases ret with
  | true =>
    rw [(hret.mp rfl).2, List.length_nil] at hleft
    exact .inl (le_one_of_turns fun t ht => (hends.turns t t.zero_le (by omega)).2)
  | false =>
    obtain ⟨hj, hs, hlen⟩ := hends.failed rfl
    have hbelow : ∀ t ≤ j, t + t % 2 ^ 32 < data.length := fun t ht =>
      (Nat.lt_or_eq_of_le ht).elim (fun ht => (hends.turns t t.zero_le ht).2) fun ht => ht ▸ hj
    refine or_iff_not_imp_left.mpr fun htwo => ⟨j, hs, fun k hk => ?_⟩
    by_contra hmeet
    -- a reply was expected in turn `k`, which is not the last one
    obtain ⟨call, hcall⟩ : ∃ call, (streamCalls (sendBlocks session send 0 0 data error))[k]? = some call :=
      ⟨_, List.getElem?_eq_getElem (by omega)⟩
    have hexpected := (sendBlocks_reply session send error data rfl (Nat.zero_add _).symm hcall).mpr
      (by have := hbelow k hk; omega)
    have hlast := (h.reply k call (by rw [hcalls, hcall])).mp hexpected
    have hthis := hbelow k hk
    have hprev := hbelow (k - 1) (by omega)
    omega

/-- A buffer of one block at most, or whose streaming fails early, is streamed as it should be. -/
theorem streamsAll_of_failsEarly (h : data.length ≤ 1 ∨ FailsEarly send data.length) {session : SessionId}
    (hc : c.session = some session) : StreamsAll c send data error := by
  obtain ⟨hvalue, hcalls⟩ := sendStreamMessage_of_some send data error hc
  obtain ⟨j, ret, left, error', hv, hends⟩ :=
    sendBlocks_ends session send error data (i := 0) (k := 0) rfl (Nat.zero_add _).symm
  have hkept := sendBlocks_kept hv
  have hordered := sendBlocks_ordered session send 0 0 error data
  have hleft := hends.length_left
  constructor
  · rwa [hcalls]
  · refine ⟨ret, left, error', by rw [hvalue, hv], by rwa [hcalls], ?_⟩
    rw [hcalls]
    constructor
    · rintro rfl
      have hnil : left = [] := by
        rcases h with hone | hfail
        · have hj := (hends.done rfl).1
          exact List.eq_nil_of_length_eq_zero (by omega)
        · exact absurd (hends.of_failsEarly hfail).1 (by simp)
      rw [hnil, List.append_nil] at hkept
      exact ⟨hkept, hnil⟩
    · rintro ⟨-, rfl⟩
      cases ret with
      | true => rfl
      | false =>
        have hj := (hends.failed rfl).1
        rw [List.length_nil] at hleft
        omega
  · intro t call hcall
    rw [hcalls] at hcall
    have hreply := sendBlocks_reply session send error data rfl (Nat.zero_add _).symm hcall
    have hlen := hordered.length_le
    rw [List.length_map] at hlen
    have ht := (List.getElem?_eq_some_iff.mp hcall).1
    rw [hreply, Nat.zero_add]
    rcases h with hone | hfail
    · omega
    · obtain ⟨hret, hbelow⟩ := hends.of_failsEarly hfail
      have hcalls := (hends.failed hret).2.2
      have hlt := hbelow t (by omega)
      omega

end

/-- **When the whole buffer is streamed**: with a session, exactly if the buffer has one block at most, or a
call fails in the first half of the turns. -/
theorem streamsAll_iff (c : Client) (send : ℕ → SendOutcome) (data : List DataBuffer) (error : ErrorContainer) :
    StreamsAll c send data error ↔ (c.session = none ∧ data ≠ []) ∨
      (c.session ≠ none ∧ (data.length ≤ 1 ∨ FailsEarly send data.length)) := by
  cases hc : c.session with
  | none =>
    have hnone := sendStreamMessage_of_none send data error hc
    simp only [true_and, ne_eq, not_true_eq_false, false_and, or_false]
    constructor
    · rintro h rfl
      obtain ⟨ret, left, error', hv, hkept, hret⟩ := h.returned
      rw [hnone] at hv hkept hret
      cases hv
      exact absurd (hret.mpr ⟨rfl, rfl⟩) Bool.false_ne_true
    · intro hdata
      refine ⟨?_, ⟨false, data, error.addMeesage noSession, ?_, ?_, ?_⟩, ?_⟩ <;> rw [hnone]
      · exact List.nil_prefix
      · rfl
      · exact ⟨fun h => absurd h Bool.false_ne_true, fun h => absurd h.2 hdata⟩
      · intro t call hcall
        cases t <;> cases hcall
  | some session =>
    simp only [reduceCtorEq, false_and, false_or, ne_eq, not_false_eq_true, true_and]
    exact ⟨fun h => failsEarly_of_streamsAll h hc, fun h => streamsAll_of_failsEarly h hc⟩

/-- A client with a session. -/
def connectedClient : Client := ⟨1, str "sagiri", str "127.0.0.1", 1234, some 5⟩

/-- Two blocks. -/
def twoBlocks : List DataBuffer := [⟨some fun _ => 1, 4, fun _ => rfl⟩, ⟨some fun _ => 2, 4, fun _ => rfl⟩]

/-- Of two blocks, one is sent, and true is returned. -/
theorem not_streamsAll_twoBlocks : ¬ StreamsAll connectedClient (fun _ => ⟨true, []⟩) twoBlocks ⟨[]⟩ := by
  intro h
  obtain ⟨ret, left, error', hv, -, hret⟩ := h.returned
  cases hv
  exact absurd (congrArg List.length (hret.mp rfl).2) (by decide)

end HanamiNetwork
