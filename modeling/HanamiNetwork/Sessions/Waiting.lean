import HanamiNetwork.Basis.Polling
import HanamiNetwork.Sessions.Shortcuts

/-!
# Waiting for the connection

`waitForAllConnected` (`hanami_messaging_client.cpp`): the caller sleeps, 10 ms at a time,
until the client has a session, its thread is aborted, or the timeout is over. The session
and the abort flag belong to other threads, which may change them between any two reads.

The loop is a poll with a bounded number of turns (`waitForAllConnected_eq_poll`), so it
always comes to an end. How many turns it takes depends on `microTimeout`, a product of 32
bits that is widened too late: it is the timeout in microseconds up to 4294 seconds, and
wraps from there on. `waitHonoursTimeout_iff` says that the timeout is honoured up to there
and no further; beyond, a session that comes in time can be missed (`missed_of_long`).

Here also: whom `initClients` reports, which waits one second for each of its clients
(`mem_messages_initClients`).
-/

namespace HanamiNetwork

open HanamiNetwork.Basis

/-- What waiting leaves behind. -/
inductive WaitEffect where
  /-- `sleepThread`, of a number of microseconds. -/
  | sleepThread (microSeconds : UInt64)
  deriving DecidableEq

/-- `microTimeout`. Both factors have 32 bits, and so has their product; only then it is widened. -/
def microTimeout (timeout : UInt32) : UInt64 := (timeout * 1000000).toUInt64

theorem toNat_microTimeout (timeout : UInt32) :
    (microTimeout timeout).toNat = timeout.toNat * 1000000 % 2 ^ 32 := by
  simp [microTimeout]

/-- The counter of the loop does not wrap while there is time left. -/
theorem toNat_nextTimeout {timeout : UInt32} {actualTimeout : UInt64} (h : actualTimeout < microTimeout timeout) :
    (actualTimeout + 10000).toNat = actualTimeout.toNat + 10000 := by
  have hlt : actualTimeout.toNat < (microTimeout timeout).toNat := h
  rw [toNat_microTimeout] at hlt
  rw [UInt64.toNat_add]
  refine Nat.mod_eq_of_lt ?_
  show actualTimeout.toNat + 10000 < 2 ^ 64
  omega

section

variable (abort : ℕ → Bool) (session : ℕ → Option SessionId)

/-- The loop of `waitForAllConnected`, with its counter `actualTimeout`; `k` is how many turns were taken
before, `abort k` what the next one finds `m_abort` to be, and `session k` what it finds `m_session` to be. -/
def waitLoop (timeout : UInt32) (actualTimeout : UInt64) (k : ℕ) : Traced WaitEffect Bool :=
  if h : abort k = false ∧ actualTimeout < microTimeout timeout then
    if session k ≠ none then return true
    else do
      Traced.emit (.sleepThread 10000)
      waitLoop timeout (actualTimeout + 10000) (k + 1)
  else return false
termination_by (microTimeout timeout).toNat - actualTimeout.toNat
decreasing_by
  have hlt : actualTimeout.toNat < (microTimeout timeout).toNat := h.2
  rw [toNat_nextTimeout h.2]
  omega

/-- `waitForAllConnected`. -/
def waitForAllConnected (timeout : UInt32) : Traced WaitEffect Bool := waitLoop abort session timeout 0 0

/-! ### The loop as a poll -/

/-- What a turn with time left ends the loop with, if it does. -/
def turnResult (k : ℕ) : Option Bool :=
  if abort k then some false
  else if session k ≠ none then some true
  else none

/-- How many turns there is time for. -/
def turnsLeft (timeout : UInt32) (actualTimeout : UInt64) : ℕ :=
  ((microTimeout timeout).toNat - actualTimeout.toNat + 9999) / 10000

theorem turnsLeft_of_over {timeout : UInt32} {actualTimeout : UInt64} (h : ¬ actualTimeout < microTimeout timeout) :
    turnsLeft timeout actualTimeout = 0 := by
  have hle : (microTimeout timeout).toNat ≤ actualTimeout.toNat := Nat.le_of_not_lt h
  rw [turnsLeft, Nat.sub_eq_zero_of_le hle]

theorem turnsLeft_of_lt {timeout : UInt32} {actualTimeout : UInt64} (h : actualTimeout < microTimeout timeout) :
    turnsLeft timeout actualTimeout = turnsLeft timeout (actualTimeout + 10000) + 1 := by
  have hlt : actualTimeout.toNat < (microTimeout timeout).toNat := h
  rw [turnsLeft, turnsLeft, toNat_nextTimeout h]
  omega

theorem waitLoop_eq_poll (timeout : UInt32) (actualTimeout : UInt64) (k : ℕ) :
    waitLoop abort session timeout actualTimeout k =
      poll (.sleepThread 10000) (turnResult abort session) false (turnsLeft timeout actualTimeout) k := by
  induction actualTimeout, k using waitLoop.induct abort session timeout with
  | case1 actualTimeout k h hs =>
    rw [waitLoop, dif_pos h, if_pos hs, turnsLeft_of_lt h.2, poll_of_some (a := true) (by simp [turnResult, h.1, hs])]
    rfl
  | case2 actualTimeout k h hs ih =>
    have hs' : session k = none := not_not.mp hs
    rw [waitLoop, dif_pos h, if_neg hs, turnsLeft_of_lt h.2, poll_of_none (by simp [turnResult, h.1, hs']), ← ih]
    exact Traced.emit_bind _ _
  | case3 actualTimeout k h =>
    rw [waitLoop, dif_neg h]
    by_cases hlt : actualTimeout < microTimeout timeout
    · have ha : abort k = true := by simpa [hlt] using h
      rw [turnsLeft_of_lt hlt, poll_of_some (a := false) (by simp [turnResult, ha])]
      rfl
    · rw [turnsLeft_of_over hlt]
      rfl

variable (timeout : UInt32)

/-- How many turns there are for a timeout. -/
def turns : ℕ := turnsLeft timeout 0

theorem waitForAllConnected_eq_poll : waitForAllConnected abort session timeout =
    poll (.sleepThread 10000) (turnResult abort session) false (turns timeout) 0 :=
  waitLoop_eq_poll abort session timeout 0 0

/-! ### What the wait does, whatever the timeout -/

variable {abort session timeout}

theorem turnResult_eq_none_iff {k : ℕ} :
    turnResult abort session k = none ↔ abort k = false ∧ session k = none := by
  by_cases ha : abort k <;> by_cases hs : session k = none <;> simp [turnResult, ha, hs]

theorem turnResult_eq_true_iff {k : ℕ} :
    turnResult abort session k = some true ↔ abort k = false ∧ session k ≠ none := by
  by_cases ha : abort k <;> by_cases hs : session k = none <;> simp [turnResult, ha, hs]

theorem turnResult_eq_false_iff {k : ℕ} : turnResult abort session k = some false ↔ abort k = true := by
  by_cases ha : abort k <;> by_cases hs : session k = none <;> simp [turnResult, ha, hs]

theorem ends_waitForAllConnected : (waitForAllConnected abort session timeout).value.isSome ∧
    (waitForAllConnected abort session timeout).effects.length ≤ 429497 := by
  have hturns : turns timeout ≤ 429497 := by
    rw [turns, turnsLeft, toNat_microTimeout]
    omega
  rw [waitForAllConnected_eq_poll]
  exact ⟨(returns_poll _ _).1, (returns_poll _ _).2.trans hturns⟩

theorem waitForAllConnected_of_none (h : ∀ k < turns timeout, abort k = false ∧ session k = none) :
    waitForAllConnected abort session timeout =
      ⟨List.replicate (turns timeout) (.sleepThread 10000), some false⟩ := by
  rw [waitForAllConnected_eq_poll]
  apply poll_unanswered
  intro k hk
  rw [Nat.zero_add]
  exact turnResult_eq_none_iff.mpr (h k hk)

theorem waitForAllConnected_of_result {k : ℕ} {result : Bool} (hk : k < turns timeout)
    (h : ∀ j < k, abort j = false ∧ session j = none) (hresult : turnResult abort session k = some result) :
    waitForAllConnected abort session timeout = ⟨List.replicate k (.sleepThread 10000), some result⟩ := by
  rw [waitForAllConnected_eq_poll]
  refine poll_answered hk ?_ ?_
  · intro j hj
    rw [Nat.zero_add]
    exact turnResult_eq_none_iff.mpr (h j hj)
  · rwa [Nat.zero_add]

/-- The wait returns `true` exactly if one of its turns finds a session before the thread is aborted. -/
theorem waitForAllConnected_eq_true_iff : (waitForAllConnected abort session timeout).value = some true ↔
    ∃ k < turns timeout, (∀ j ≤ k, abort j = false) ∧ session k ≠ none := by
  rcases unanswered_or_answered (turnResult abort session) (turns timeout) with h | ⟨m, hm, result, h, hresult⟩
  · -- no turn has a result
    have hnone := fun k hk => turnResult_eq_none_iff.mp (h k hk)
    rw [waitForAllConnected_of_none hnone]
    constructor
    · intro hv
      cases hv
    · rintro ⟨k, hk, -, hs⟩
      exact absurd (hnone k hk).2 hs
  · have hnone := fun j hj => turnResult_eq_none_iff.mp (h j hj)
    rw [waitForAllConnected_of_result hm hnone hresult]
    constructor
    · intro hv
      obtain rfl : result = true := by simpa using hv
      obtain ⟨ha, hs⟩ := turnResult_eq_true_iff.mp hresult
      refine ⟨m, hm, ?_, hs⟩
      intro j hj
      rcases hj.lt_or_eq with hj | rfl
      · exact (hnone j hj).1
      · exact ha
    · rintro ⟨k, hk, ha, hs⟩
      have hmk : m ≤ k := by
        by_contra hlt
        exact hs (hnone k (Nat.lt_of_not_le hlt)).2
      cases result with
      | true => rfl
      | false => exact absurd (turnResult_eq_false_iff.mp hresult) (by simp [ha m hmk])

end

/-! ### Honouring the timeout -/

/-- The product is the timeout in microseconds as long as it fits. -/
theorem toNat_microTimeout_eq_iff (timeout : UInt32) :
    (microTimeout timeout).toNat = timeout.toNat * 1000000 ↔ timeout.toNat ≤ 4294 := by
  rw [toNat_microTimeout]
  omega

theorem turns_eq_iff (timeout : UInt32) : turns timeout = 100 * timeout.toNat ↔ timeout.toNat ≤ 4294 := by
  rw [turns, turnsLeft, toNat_microTimeout]
  simp only [UInt64.toNat_zero]
  omega

/-- The wait honours its timeout: it ends; with no session and no abort it gives up after 100 sleeps of
10 ms for each second; and a session that is there in that time is found at once. -/
structure WaitHonoursTimeout (timeout : UInt32) : Prop where
  /-- The timeout in microseconds is computed without loss. -/
  lossless : (microTimeout timeout).toNat = timeout.toNat * 1000000
  /-- The wait ends, whatever the other threads do. -/
  terminates (abort : ℕ → Bool) (session : ℕ → Option SessionId) :
    (waitForAllConnected abort session timeout).value.isSome
  /-- It gives up when the time is over. -/
  timesOut (abort : ℕ → Bool) (session : ℕ → Option SessionId)
    (ha : ∀ k < 100 * timeout.toNat, abort k = false) (hs : ∀ k < 100 * timeout.toNat, session k = none) :
    waitForAllConnected abort session timeout =
      ⟨List.replicate (100 * timeout.toNat) (.sleepThread 10000), some false⟩
  /-- It ends with the first turn that finds a session. -/
  connects (abort : ℕ → Bool) (session : ℕ → Option SessionId) (k : ℕ) (hk : k < 100 * timeout.toNat)
    (ha : ∀ j ≤ k, abort j = false) (hs : ∀ j < k, session j = none) (hsome : session k ≠ none) :
    waitForAllConnected abort session timeout = ⟨List.replicate k (.sleepThread 10000), some true⟩

/-- With nothing going on around it, the wait sleeps as often as it has turns. -/
theorem WaitHonoursTimeout.turns_eq {timeout : UInt32} (h : WaitHonoursTimeout timeout) :
    turns timeout = 100 * timeout.toNat := by
  have hquiet := h.timesOut (fun _ => false) (fun _ => none) (fun _ _ => rfl) (fun _ _ => rfl)
  rw [waitForAllConnected_of_none fun _ _ => ⟨rfl, rfl⟩] at hquiet
  simpa using congrArg (fun p => p.effects.length) hquiet

/-- The timeout is honoured up to 4294 seconds, the last one whose microseconds fit into 32 bits. -/
theorem waitHonoursTimeout_iff (timeout : UInt32) : WaitHonoursTimeout timeout ↔ timeout.toNat ≤ 4294 := by
  constructor
  · intro h
    exact (turns_eq_iff timeout).mp h.turns_eq
  · intro h
    have hturns := (turns_eq_iff timeout).mpr h
    constructor
    case lossless => exact (toNat_microTimeout_eq_iff timeout).mpr h
    case terminates => exact fun _ _ => ends_waitForAllConnected.1
    case timesOut =>
      intro abort session ha hs
      rw [← hturns] at ha hs ⊢
      exact waitForAllConnected_of_none fun k hk => ⟨ha k hk, hs k hk⟩
    case connects =>
      intro abort session k hk ha hs hsome
      rw [← hturns] at hk
      exact waitForAllConnected_of_result hk (fun j hj => ⟨ha j hj.le, hs j hj⟩)
        (turnResult_eq_true_iff.mpr ⟨ha k le_rfl, hsome⟩)

/-- With 4295 seconds the product wraps to 32704 microseconds: the wait gives up after four sleeps. -/
theorem not_waitHonoursTimeout_4295 : ¬ WaitHonoursTimeout 4295 := by
  intro h
  have hturns := h.turns_eq
  have hfour : turns 4295 = 4 := by decide
  rw [hfour] at hturns
  exact absurd hturns (by decide)

/-- With a timeout that does not fit, a session that comes in time can be missed. -/
theorem missed_of_long {timeout : UInt32} (h : 4294 < timeout.toNat) :
    ∃ (session : ℕ → Option SessionId) (k : ℕ), k < 100 * timeout.toNat ∧ session k ≠ none ∧
      (waitForAllConnected (fun _ => false) session timeout).value = some false := by
  have hlt : turns timeout < 100 * timeout.toNat := by
    rw [turns, turnsLeft, toNat_microTimeout]
    omega
  let session : ℕ → Option SessionId := fun k => if k < turns timeout then none else some 0
  have hnone : ∀ k < turns timeout, (fun _ => false : ℕ → Bool) k = false ∧ session k = none :=
    fun k hk => ⟨rfl, if_pos hk⟩
  refine ⟨session, turns timeout, hlt, by simp [session], ?_⟩
  rw [waitForAllConnected_of_none hnone]

/-! ### Waiting for every client -/

/-- The clients that are connected when `initClients` waits for them, one second each. -/
def connectedInTime (abort : Client → ℕ → Bool) (session : Client → ℕ → Option SessionId) (c : Client) : Bool :=
  (waitForAllConnected (abort c) (session c) 1).value = some true

theorem connectedInTime_iff {abort : Client → ℕ → Bool} {session : Client → ℕ → Option SessionId} {c : Client} :
    connectedInTime abort session c = true ↔ ∃ k < 100, (∀ j ≤ k, abort c j = false) ∧ session c k ≠ none := by
  have hturns : turns 1 = 100 := by decide
  simp only [connectedInTime, decide_eq_true_eq, waitForAllConnected_eq_true_iff, hturns]

theorem foldl_addMeesage {α : Type} (test : α → Bool) (message : α → Str) (entries : List α)
    (error : ErrorContainer) :
    (entries.foldl (fun error entry => if test entry then error else error.addMeesage (message entry))
      error).messages = error.messages ++ (entries.filter fun entry => !test entry).map message := by
  induction entries generalizing error with
  | nil => simp
  | cons entry entries ih =>
    rw [List.foldl_cons, ih]
    cases h : test entry <;> simp [ErrorContainer.addMeesage, h]

/-- What `initClients` adds to the error: one message for each client that has no session in time. -/
theorem mem_messages_initClients (x : Network) (abort : Client → ℕ → Bool) (session : Client → ℕ → Option SessionId)
    (s : Initialization) (configGroups : List Str) (error : ErrorContainer) (message : Str) :
    let result := (initClients x (connectedInTime abort session) s configGroups error).2
    message ∈ result.2.messages ↔ message ∈ error.messages ∨
      ∃ name c, result.1.messaging.clients[name]? = some c ∧
        (∀ k < 100, (∀ j ≤ k, abort c j = false) → session c k = none) ∧
        message = str "Failed to initalize connection for client '" ++ name ++ str "'" := by
  intro result
  have hlate : ∀ c, connectedInTime abort session c = false ↔
      ∀ k < 100, (∀ j ≤ k, abort c j = false) → session c k = none := by
    intro c
    rw [← Bool.not_eq_true, connectedInTime_iff]
    push Not
    rfl
  have hmessages : result.2.messages = error.messages ++
      (result.1.messaging.clients.toList.filter fun entry => !connectedInTime abort session entry.2).map
        fun entry => str "Failed to initalize connection for client '" ++ entry.1 ++ str "'" :=
    foldl_addMeesage (fun entry : Str × Client => connectedInTime abort session entry.2) _ _ error
  rw [hmessages, List.mem_append, List.mem_map]
  apply or_congr_right
  constructor
  · rintro ⟨⟨name, c⟩, hmem, rfl⟩
    obtain ⟨hc, hnot⟩ := List.mem_filter.mp hmem
    exact ⟨name, c, Std.ExtTreeMap.mem_toList_iff_getElem?_eq_some.mp hc, (hlate c).mp (by simpa using hnot), rfl⟩
  · rintro ⟨name, c, hc, hnot, rfl⟩
    refine ⟨(name, c), List.mem_filter.mpr ⟨Std.ExtTreeMap.mem_toList_iff_getElem?_eq_some.mpr hc, ?_⟩, rfl⟩
    simpa using (hlate c).mpr hnot

end HanamiNetwork
