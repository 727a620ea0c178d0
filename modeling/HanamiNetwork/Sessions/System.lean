import HanamiNetwork.Basis.Run
import HanamiNetwork.Sessions.Connections

/-!
# The server side

What happens to the sessions of a server, one event after the other: sessions are created,
closed and fail, messages arrive on them, and the thread of the event queue takes the next
event and processes it. The state is the clients, the queue, and two lists that only the
specification reads: the sessions that were deleted, and the sessions that were accepted
and have not been closed since.

The steps are those of the callbacks; a step that closes a session is read off
`removeInternalClient` by `System.step_closing`.
-/

namespace HanamiNetwork

open HanamiNetwork.Basis

/-- What happens to the server. -/
inductive SessionEvent where
  /-- `sessionCreateCallback`, with what closing gives if the session is rejected. -/
  | create (session : SessionId) (outcome : CloseOutcome)
  /-- `sessionCloseCallback`, with what the two tries to close the session of the client give. -/
  | close (session : SessionId) (first second : CloseOutcome)
  /-- `errorCallback`, likewise. -/
  | error (session : SessionId) (message : Str) (first second : CloseOutcome)
  /-- `standaloneDataCallback`. -/
  | arrive (session : SessionId) (blockerId : UInt64) (data : DataBuffer)
  /-- `MessagingEventQueue::run` takes an event from the queue and processes it. -/
  | process

/-- The state of the server. -/
structure System where
  /-- The clients. -/
  messaging : HanamiMessaging
  /-- The event queue. -/
  queue : List MessagingEvent
  /-- The sessions that were deleted. -/
  deleted : List SessionId
  /-- The sessions that were accepted, and for which no close or error callback has happened since. -/
  accepted : List SessionId

/-- The state at the start. -/
def System.initial : System := ⟨⟨∅, ∅, 0⟩, [], [], []⟩

namespace SessionEvent

/-- The session a close or an error is about, and what the tries to close give. -/
def closing : SessionEvent → Option (SessionId × CloseOutcome × CloseOutcome)
  | close session first second => some (session, first, second)
  | error session _ first second => some (session, first, second)
  | _ => none

/-- The events that arrive. -/
def arriving : SessionEvent → List MessagingEvent
  | arrive session blockerId data => (standaloneDataCallback session blockerId data).events
  | _ => []

/-- What the callback does with the clients. -/
def callback (x : World) (m : HanamiMessaging) : SessionEvent → Traced Effect HanamiMessaging
  | create session outcome => sessionCreateCallback false session (x.sessionIdentifier session) outcome m
  | close session first second => sessionCloseCallback false (x.sessionIdentifier session) first second m
  | error session message first second => errorCallback x false session message first second m
  | arrive _ _ _ => return m
  | process => return m

/-- The event is the creation of a session that is accepted. -/
def accepts (x : World) (m : HanamiMessaging) : SessionEvent → Option SessionId
  | create session outcome =>
    if (m.addInternalClient (x.sessionIdentifier session) session outcome).value.any Prod.fst then some session
    else none
  | _ => none

end SessionEvent

/-- One event. -/
def System.step (x : World) (s : System) (e : SessionEvent) : System :=
  let p := e.callback x s.messaging
  { messaging := p.value.getD s.messaging
    queue := match e with
      | .process => s.queue.tail
      | _ => s.queue ++ e.arriving
    deleted := s.deleted ++ deletedSessions p.effects
    accepted := (e.accepts x s.messaging).toList ++
      s.accepted.filter fun session => some session ≠ e.closing.map Prod.fst }

/-! ### What a step does -/

theorem System.step_process (x : World) (s : System) : s.step x .process = { s with queue := s.queue.tail } := by
  simp [step, SessionEvent.callback, SessionEvent.accepts, SessionEvent.closing, deletedSessions]

section

variable {x : World} {s : System} {e : SessionEvent} {session : SessionId} {first second : CloseOutcome}

/-- The sessions a step deletes: that of the client that is registered under the identifier of
the closing session, if one of the tries to close it succeeds. -/
def SessionEvent.deletes (x : World) (m : HanamiMessaging) (e : SessionEvent) : List SessionId :=
  e.closing.elim [] fun (session, first, second) =>
    if first.closed || second.closed then
      (m.incomingClients[x.sessionIdentifier session]?.bind Client.session).toList
    else []

/-- The trace of a closing step is that of the removal, and logged errors. -/
theorem callback_closing (h : e.closing = some (session, first, second)) (m : HanamiMessaging) :
    let p := m.removeInternalClient (x.sessionIdentifier session) first second
    (e.callback x m).value = p.value.map Prod.snd ∧
      deletedSessions (e.callback x m).effects = deletedSessions p.effects ∧
      ∀ effect ∈ (e.callback x m).effects, effect ∈ p.effects ∨ ∃ error, effect = .logError error := by
  intro p
  have hp : p.value.isSome := by
    cases hc : m.incomingClients[x.sessionIdentifier session]? with
    | none => simp [p, removeInternalClient_of_none hc]
    | some c => simp [p, (removeInternalClient_of_client hc).value]
  obtain ⟨⟨ret, m'⟩, hv⟩ := Option.isSome_iff_exists.mp hp
  cases e with
  | create session outcome => cases h
  | arrive session blockerId data => cases h
  | process => cases h
  | close session' first' second' =>
    obtain ⟨rfl, rfl, rfl⟩ := h
    have heffects : (SessionEvent.callback x m (.close session first second)).effects = p.effects := by
      simp [SessionEvent.callback, sessionCloseCallback, p]
    rw [heffects]
    exact ⟨by simp [SessionEvent.callback, sessionCloseCallback, p, hv], rfl, fun effect he => .inl he⟩
  | error session' message first' second' =>
    obtain ⟨rfl, rfl, rfl⟩ := h
    obtain ⟨error₁, error₂, heffects⟩ : ∃ error₁ error₂,
        (SessionEvent.callback x m (.error session message first second)).effects =
          .logError error₁ :: (p.effects ++ [.logError error₂]) :=
      ⟨_, _, by simp [SessionEvent.callback, errorCallback, LOG_ERROR, p, hv]; exact ⟨rfl, rfl⟩⟩
    rw [heffects]
    refine ⟨by simp [SessionEvent.callback, errorCallback, LOG_ERROR, p, hv], by simp [deletedSessions], ?_⟩
    intro effect he
    rcases List.mem_cons.mp he with rfl | he
    · exact .inr ⟨_, rfl⟩
    · rcases List.mem_append.mp he with he | he
      · exact .inl he
      · exact .inr ⟨_, List.mem_singleton.mp he⟩

/-- A step with no closing touches no client that is there, and deletes no session. -/
theorem callback_other (h : e.closing = none) (m : HanamiMessaging) :
    deletedSessions (e.callback x m).effects = [] := by
  cases e with
  | create session outcome =>
    cases hc : m.incomingClients[x.sessionIdentifier session]? with
    | none => simp [SessionEvent.callback, sessionCreateCallback, addInternalClient_of_none hc, deletedSessions]
    | some c => simp [SessionEvent.callback, sessionCreateCallback, addInternalClient_of_client hc, deletedSessions]
  | close session first second => cases h
  | error session message first second => cases h
  | arrive session blockerId data => rfl
  | process => rfl

theorem deleted_step : (s.step x e).deleted = s.deleted ++ e.deletes x s.messaging := by
  simp only [System.step, SessionEvent.deletes]
  congr 1
  cases h : e.closing with
  | none => exact callback_other h s.messaging
  | some closing =>
    obtain ⟨session, first, second⟩ := closing
    rw [(callback_closing h s.messaging).2.1]
    cases hc : s.messaging.incomingClients[x.sessionIdentifier session]? with
    | none => simp [removeInternalClient_of_none hc, deletedSessions, hc]
    | some c => simp [(removeInternalClient_of_client hc).deleted, hc]

theorem messaging_of_closing (h : e.closing = some (session, first, second)) :
    (s.step x e).messaging = { s.messaging with
      incomingClients := s.messaging.incomingClients.erase (x.sessionIdentifier session) } := by
  simp only [System.step, (callback_closing h s.messaging).1]
  cases hc : s.messaging.incomingClients[x.sessionIdentifier session]? with
  | none =>
    have herase : s.messaging.incomingClients.erase (x.sessionIdentifier session) = s.messaging.incomingClients := by
      apply Std.ExtTreeMap.ext_getElem?
      intro key
      rw [Std.ExtTreeMap.getElem?_erase]
      split_ifs with hk
      · obtain rfl : x.sessionIdentifier session = key := by simpa using hk
        exact hc.symm
      · rfl
    rw [removeInternalClient_of_none hc, herase]
    rfl
  | some c => simp [(removeInternalClient_of_client hc).value]

end

end HanamiNetwork
