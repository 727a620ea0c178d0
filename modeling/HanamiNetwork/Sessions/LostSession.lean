import HanamiNetwork.Basis.OrderedMap
import HanamiNetwork.Basis.Run
import HanamiNetwork.Sessions.Outgoing

/-!
# Losing an outgoing session

The session of an outgoing client is closed by its peer, or fails. The callback of the
session layer is told the session; it is the client that has to let go of it, so that its
thread can connect again.

* `sessionCloseCallback` does nothing for a session of the client side.
* `errorCallback` closes the client of that name in `m_clients`. That is the owner of the
  session, unless the owner is a temporary client, which is in no map; and it may be a
  client that holds another session.

`releasesOwner_iff` says which runs are free of this.
-/

namespace HanamiNetwork

open HanamiNetwork.Basis

/-- Where an outgoing client is found. -/
inductive ClientRef where
  /-- Under its name in `m_clients`. -/
  | named (name : Str)
  /-- With the caller of `createTemporaryClient`, in the order of the calls. -/
  | temporary (index : ℕ)

/-- What happens to the outgoing clients. Closing a session succeeds. -/
inductive OutgoingEvent where
  /-- `initClients` comes to a group. -/
  | initClient (groupName : Str)
  /-- `createTemporaryClient` is called. -/
  | createTemporaryClient (remoteIdentifier target : Str) (started : Bool) (messages : List Str)
  /-- `connectClient` is called. -/
  | connectClient (client : ClientRef) (started : Bool) (messages : List Str)
  /-- `closeClient` is called. -/
  | closeClient (client : ClientRef) (messages : List Str)
  /-- The thread of a client in `m_clients` tests `m_session`. -/
  | runTest (name : Str)
  /-- The thread, if its test was passed, connects. -/
  | runConnect (name : Str) (started : Bool) (messages : List Str)
  /-- `sessionCloseCallback` is called for a session of the client side. -/
  | sessionClose (session : SessionId) (messages : List Str)
  /-- `errorCallback` is called for a session of the client side. -/
  | error (session : SessionId) (message : Str) (messages : List Str)

/-- The outgoing clients and their sessions. -/
structure OutgoingSystem where
  /-- The clients in `m_clients`. -/
  messaging : HanamiMessaging
  /-- The temporary clients. -/
  temporary : List Client
  /-- `m_sessionIdentifier` of the sessions. -/
  identifiers : SessionId → Str
  /-- The next session that is started. -/
  nextSession : SessionId
  /-- The clients whose thread has passed its test and is about to connect. -/
  pending : List Str

namespace OutgoingSystem

/-- The state at the start; no session has been started, so that the identifiers are not yet set. -/
def initial (identifiers : SessionId → Str) : OutgoingSystem := ⟨⟨∅, ∅, 0⟩, [], identifiers, 0, []⟩

/-- The client at a place. -/
def client (s : OutgoingSystem) : ClientRef → Option Client
  | .named name => s.messaging.clients[name]?
  | .temporary index => s.temporary[index]?

/-- Put a client to its place. -/
def setClient (s : OutgoingSystem) (c : Client) : ClientRef → OutgoingSystem
  | .named name => { s with messaging := { s.messaging with clients := s.messaging.clients.insert name c } }
  | .temporary index => { s with temporary := s.temporary.set index c }

/-- The state after a client at a place was changed by what it did with its sessions. -/
def connected (s : OutgoingSystem) (place : ClientRef) (c : Client) (identifiers : SessionId → Str) :
    OutgoingSystem :=
  { s.setClient c place with identifiers := identifiers, nextSession := s.nextSession + 1 }

variable (x : Network)

/-- One event. -/
def step (s : OutgoingSystem) : OutgoingEvent → OutgoingSystem
  | .initClient groupName => { s with messaging := HanamiNetwork.initClient x s.messaging groupName }
  | .createTemporaryClient remoteIdentifier target started messages =>
    match (HanamiNetwork.createTemporaryClient x (startFresh s.nextSession started messages) s.messaging.nextClient
        remoteIdentifier target s.identifiers ⟨[]⟩).value with
    | some (newClient, identifiers, _) =>
      { s with
        messaging := { s.messaging with nextClient := s.messaging.nextClient + 1 }
        temporary := s.temporary ++ newClient.toList
        identifiers := identifiers
        nextSession := s.nextSession + 1 }
    | none => s
  | .connectClient place started messages =>
    match s.client place with
    | none => s
    | some c =>
      match (HanamiNetwork.connectClient x (startFresh s.nextSession started messages) c s.identifiers
          ⟨[]⟩).value with
      | some (_, c, identifiers, _) => s.connected place c identifiers
      | none => s
  | .closeClient place messages =>
    match s.client place with
    | none => s
    | some c =>
      match (HanamiNetwork.closeClient c ⟨true, messages⟩ ⟨[]⟩).value with
      | some (_, c, _) => s.setClient c place
      | none => s
  | .runTest name =>
    { s with pending := if (s.messaging.clients[name]?).any runTest then name :: s.pending else s.pending }
  | .runConnect name started messages =>
    if name ∈ s.pending then
      match s.client (.named name) with
      | none => s
      | some c =>
        match (runConnect x (startFresh s.nextSession started messages) c s.identifiers).value with
        | some (c, identifiers) => { s.connected (.named name) c identifiers with pending := s.pending.erase name }
        | none => s
    else s
  | .sessionClose session messages =>
    let outcome : CloseOutcome := ⟨true, messages⟩
    let p := sessionCloseCallback true (s.identifiers session) outcome outcome s.messaging
    { s with messaging := p.value.getD s.messaging }
  | .error session message messages =>
    let outcome : CloseOutcome := ⟨true, messages⟩
    let world := { x.toWorld with sessionIdentifier := s.identifiers }
    let p := errorCallback world true session message outcome outcome s.messaging
    { s with messaging := p.value.getD s.messaging }

end OutgoingSystem

/-! ### What the callbacks do -/

theorem value_closeClient (c : Client) (messages : List Str) (error : ErrorContainer) :
    ∃ ret error', (closeClient c ⟨true, messages⟩ error).value = some (ret, { c with session := none }, error') := by
  cases hs : c.session with
  | none =>
    rw [closeClient_of_none hs, ← hs]
    exact ⟨_, _, rfl⟩
  | some session =>
    rw [closeClient_of_closed hs rfl]
    exact ⟨_, _, rfl⟩

/-- The clients after the client of a name has been closed. -/
def HanamiMessaging.closed (m : HanamiMessaging) (name : Str) : HanamiMessaging :=
  match m.clients[name]? with
  | none => m
  | some c => { m with clients := m.clients.insert name { c with session := none } }

theorem HanamiMessaging.getElem?_closed (m : HanamiMessaging) (name key : Str) :
    (m.closed name).clients[key]? =
      if key = name then m.clients[key]?.map fun c => { c with session := none } else m.clients[key]? := by
  unfold closed
  cases h : m.clients[name]? with
  | none =>
    split_ifs with hk
    · rw [hk, h, Option.map_none]
    · rfl
  | some c =>
    rw [Std.ExtTreeMap.getElem?_insert]
    split_ifs with hc hk hk
    · rw [hk, h, Option.map_some]
    · exact absurd (Std.LawfulEqOrd.eq_of_compare hc).symm hk
    · exact absurd (hk ▸ Std.ReflOrd.compare_self) hc
    · rfl

theorem HanamiMessaging.value_closeClient (m : HanamiMessaging) (name : Str) (messages : List Str)
    (error : ErrorContainer) :
    ∃ ret error', (m.closeClient name ⟨true, messages⟩ error).value = some (ret, m.closed name, error') := by
  unfold HanamiMessaging.closeClient closed
  cases m.clients[name]? with
  | none => exact ⟨false, error, rfl⟩
  | some c =>
    obtain ⟨ret, error', hv⟩ := HanamiNetwork.value_closeClient c messages error
    exact ⟨ret, error', by simp [hv]⟩

theorem value_errorCallback (x : World) (session : SessionId) (message : Str) (messages : List Str)
    (second : CloseOutcome) (m : HanamiMessaging) :
    (errorCallback x true session message ⟨true, messages⟩ second m).value =
      some (m.closed (x.sessionIdentifier session)) := by
  obtain ⟨ret, error', hv⟩ := m.value_closeClient (x.sessionIdentifier session) messages
    ((ErrorContainer.addMeesage ⟨[]⟩ message).addMeesage
      (str "try to close session after error with identifier: '" ++ x.sessionIdentifier session ++ str "'"))
  simp [errorCallback, hv, LOG_ERROR, -List.append_assoc]

namespace OutgoingSystem

variable {x : Network} {s : OutgoingSystem}

theorem step_connectClient (place : ClientRef) (started : Bool) (messages : List Str) :
    s.step x (.connectClient place started messages) = (s.client place).elim s fun c =>
      s.connected place (c.connected s.nextSession started)
        (c.identifiersConnected s.nextSession started s.identifiers) := by
  cases hc : s.client place with
  | none => simp [step, hc]
  | some c =>
    obtain ⟨error', hv⟩ := value_connectClient x c s.identifiers s.nextSession started messages ⟨[]⟩
    simp [step, hc, hv]

theorem step_runConnect (name : Str) (started : Bool) (messages : List Str) :
    s.step x (.runConnect name started messages) =
      if name ∈ s.pending then (s.client (.named name)).elim s fun c =>
        { s.connected (.named name) (c.connected s.nextSession started)
            (c.identifiersConnected s.nextSession started s.identifiers) with pending := s.pending.erase name }
      else s := by
  cases hc : s.client (.named name) with
  | none => simp [step, hc]
  | some c => simp [step, hc, value_runConnect]

theorem step_closeClient (place : ClientRef) (messages : List Str) :
    s.step x (.closeClient place messages) =
      (s.client place).elim s fun c => s.setClient { c with session := none } place := by
  cases hc : s.client place with
  | none => simp [step, hc]
  | some c =>
    obtain ⟨ret, error', hv⟩ := value_closeClient c messages ⟨[]⟩
    simp [step, hc, hv]

theorem step_sessionClose (session : SessionId) (messages : List Str) :
    s.step x (.sessionClose session messages) = s := rfl

theorem step_error (session : SessionId) (message : Str) (messages : List Str) :
    s.step x (.error session message messages) =
      { s with messaging := s.messaging.closed (s.identifiers session) } := by
  simp [step, value_errorCallback]

theorem client_temporary_step_error (session : SessionId) (message : Str) (messages : List Str) (index : ℕ) :
    (s.step x (.error session message messages)).client (.temporary index) = s.client (.temporary index) := by
  rw [step_error]
  rfl

theorem client_named_step_error (session : SessionId) (message : Str) (messages : List Str) (name : Str) :
    (s.step x (.error session message messages)).client (.named name) =
      if name = s.identifiers session then (s.client (.named name)).map fun c => { c with session := none }
      else s.client (.named name) := by
  rw [step_error]
  exact s.messaging.getElem?_closed (s.identifiers session) name

end OutgoingSystem

/-! ### Letting go of a session -/

/-- The session that is lost. -/
def OutgoingEvent.lost : OutgoingEvent → Option SessionId
  | .sessionClose session _ => some session
  | .error session _ _ => some session
  | _ => none

/-- A session that is lost is released, and no client that holds another one is touched. -/
structure ReleasesOwner (x : Network) (s : OutgoingSystem) (e : OutgoingEvent) : Prop where
  /-- No client holds the session. -/
  released : ∀ session, e.lost = some session → ∀ place c, (s.step x e).client place = some c →
    c.session ≠ some session
  /-- A client that holds another session is as it was. -/
  others : ∀ session, e.lost = some session → ∀ place c other, s.client place = some c → c.session = some other →
    other ≠ session → (s.step x e).client place = some c

/-- A session is closed by its peer only when nobody holds it; it fails only when no temporary client holds
it, and the client of its name in `m_clients` holds no other one. -/
def FindsOwner (s : OutgoingSystem) : OutgoingEvent → Prop
  | .sessionClose session _ => ∀ place c, s.client place = some c → c.session ≠ some session
  | .error session _ _ =>
    (∀ index c, s.client (.temporary index) = some c → c.session ≠ some session) ∧
      ∀ c, s.client (.named (s.identifiers session)) = some c → c.session = none ∨ c.session = some session
  | _ => True

/-- The sessions of the clients in `m_clients` bear their names. -/
structure SessionsNamed (s : OutgoingSystem) : Prop where
  /-- A client is found under its name. -/
  name : ∀ (name : Str) (c : Client), s.messaging.clients[name]? = some c → c.remoteIdentifier = name
  /-- Its session bears this name, and has been started. -/
  session : ∀ (name : Str) (c : Client) (session : SessionId), s.messaging.clients[name]? = some c →
    c.session = some session → s.identifiers session = name ∧ session < s.nextSession

section

variable {x : Network} {s : OutgoingSystem} {e : OutgoingEvent}

/-- **The exact condition of a step.** -/
theorem releasesOwner_step_iff (h : SessionsNamed s) : ReleasesOwner x s e ↔ FindsOwner s e := by
  cases e with
  | initClient | createTemporaryClient | connectClient | closeClient | runTest | runConnect =>
    exact iff_of_true ⟨nofun, nofun⟩ trivial
  | sessionClose session messages =>
    constructor
    · exact fun hr => hr.released session rfl
    · rintro hf
      refine ⟨?_, ?_⟩
      · rintro _ ⟨⟩ place c hc
        exact hf place c hc
      · rintro _ ⟨⟩ place c other hc - -
        exact hc
  | error session message messages =>
    have htemporary := OutgoingSystem.client_temporary_step_error (x := x) (s := s) session message messages
    have hnamed := OutgoingSystem.client_named_step_error (x := x) (s := s) session message messages
    constructor
    · intro hr
      refine ⟨fun index c hc => hr.released session rfl (.temporary index) c ((htemporary index).trans hc), ?_⟩
      intro c hc
      by_contra hnot
      obtain ⟨hnone, hne⟩ := not_or.mp hnot
      obtain ⟨other, hother⟩ := Option.ne_none_iff_exists'.mp hnone
      have hkept := hr.others session rfl (.named (s.identifiers session)) c other hc hother
        fun heq => hne (heq ▸ hother)
      rw [hnamed, if_pos rfl, hc, Option.map_some, Option.some_inj] at hkept
      rw [← hkept] at hother
      cases hother
    · rintro ⟨hf, hown⟩
      refine ⟨?_, ?_⟩
      · rintro _ ⟨⟩ (name | index) c hc
        · rw [hnamed] at hc
          split_ifs at hc with hname
          · obtain ⟨c', -, rfl⟩ := Option.map_eq_some_iff.mp hc
            exact nofun
          · -- a client that holds the session bears its name
            exact fun hs => hname (h.session name c session hc hs).1.symm
        · rw [htemporary] at hc
          exact hf index c hc
      · rintro _ ⟨⟩ (name | index) c other hc hs hne
        · rw [hnamed]
          split_ifs with hname
          · subst hname
            rcases hown c hc with hn | hn
            · rw [hs] at hn
              cases hn
            · exact absurd (Option.some_inj.mp (hs.symm.trans hn)) hne
          · exact hc
        · rw [htemporary]
          exact hc

/-! ### Names stay right -/

/-- Names stay right if every client is as it was, or bears its name and holds a session that does. -/
theorem SessionsNamed.of_clients {s' : OutgoingSystem} (h : SessionsNamed s) (hn : s.nextSession ≤ s'.nextSession)
    (hi : ∀ session < s.nextSession, s'.identifiers session = s.identifiers session)
    (hc : ∀ (name : Str) (c : Client), s'.messaging.clients[name]? = some c → s.messaging.clients[name]? = some c ∨
      (c.remoteIdentifier = name ∧
        ∀ session, c.session = some session → s'.identifiers session = name ∧ session < s'.nextSession)) :
    SessionsNamed s' := by
  constructor
  · intro name c hget
    rcases hc name c hget with hold | hnew
    · exact h.name name c hold
    · exact hnew.1
  · intro name c session hget hs
    rcases hc name c hget with hold | hnew
    · obtain ⟨hid, hlt⟩ := h.session name c session hold hs
      exact ⟨(hi session hlt).trans hid, lt_of_lt_of_le hlt hn⟩
    · exact hnew.2 session hs

/-- Connecting names the new session only. -/
theorem Client.identifiersConnected_of_lt (c : Client) {session other : SessionId} (h : other < session)
    (started : Bool) (identifiers : SessionId → Str) :
    c.identifiersConnected session started identifiers other = identifiers other := by
  unfold Client.identifiersConnected
  split_ifs
  · exact Function.update_of_ne h.ne ..
  · rfl

/-- Names stay right when a client connects. -/
theorem SessionsNamed.connected (h : SessionsNamed s) {place : ClientRef} {c : Client} (hc : s.client place = some c)
    (started : Bool) : SessionsNamed (s.connected place (c.connected s.nextSession started)
      (c.identifiersConnected s.nextSession started s.identifiers)) := by
  cases place with
  | temporary index =>
    exact h.of_clients (Nat.le_succ _) (fun session hlt => c.identifiersConnected_of_lt hlt started _)
      fun name c' hget => .inl hget
  | named name =>
    refine h.of_clients (Nat.le_succ _) (fun session hlt => c.identifiersConnected_of_lt hlt started _) ?_
    intro key c' hget
    rcases getElem?_of_insert hget with ⟨rfl, rfl⟩ | hget
    · have hname := h.name key c hc
      cases started with
      | false => exact .inl hc
      | true =>
        refine .inr ⟨hname, fun session hs => ?_⟩
        obtain rfl : s.nextSession = session := Option.some_inj.mp hs
        refine ⟨?_, Nat.lt_succ_self _⟩
        show Function.update s.identifiers s.nextSession c.remoteIdentifier s.nextSession = key
        rw [Function.update_self, hname]
    · exact .inl hget

theorem newClient_eq_some {id : ClientId} {remoteIdentifier target : Str} {c : Client}
    (h : newClient x id remoteIdentifier target = some c) :
    c.remoteIdentifier = remoteIdentifier ∧ c.session = none := by
  unfold newClient at h
  dsimp only at h
  split_ifs at h
  obtain rfl := Option.some_inj.mp h
  exact ⟨rfl, rfl⟩

theorem value_createTemporaryClient (x : Network) (session : SessionId) (started : Bool) (messages : List Str)
    (id : ClientId) (remoteIdentifier target : Str) (identifiers : SessionId → Str) (error : ErrorContainer) :
    ∃ newClient identifiers' error', (createTemporaryClient x (startFresh session started messages) id remoteIdentifier
        target identifiers error).value = some (newClient, identifiers', error') ∧
      ∀ other < session, identifiers' other = identifiers other := by
  unfold createTemporaryClient
  cases hnew : newClient x id remoteIdentifier target with
  | none => exact ⟨none, identifiers, error, rfl, fun _ _ => rfl⟩
  | some c =>
    obtain ⟨error', hv⟩ := value_connectClient x c identifiers session started messages error
    have hid := fun other (hlt : other < session) => c.identifiersConnected_of_lt hlt started identifiers
    cases started with
    | true => exact ⟨some (c.connected session true), _, error', by simp [hv], hid⟩
    | false =>
      refine ⟨none, _, error', ?_, hid⟩
      simp [hv, deleteClient, closeClient_of_none (newClient_eq_some hnew).2, Client.connected, LOG_ERROR]

/-- The clients after `initClients` has come to a group: those that were there, and a new one without a session. -/
theorem client_step_initClient {groupName name : Str} {c : Client}
    (h : (s.step x (.initClient groupName)).messaging.clients[name]? = some c) :
    s.messaging.clients[name]? = some c ∨ (c.remoteIdentifier = name ∧ c.session = none) := by
  cases hnew : newClient x s.messaging.nextClient groupName groupName with
  | none =>
    simp only [OutgoingSystem.step, initClient, hnew] at h
    exact .inl h
  | some new =>
    simp only [OutgoingSystem.step, initClient, hnew] at h
    rcases getElem?_of_insertIfNew h with ⟨rfl, rfl⟩ | hold
    · exact .inr (newClient_eq_some hnew)
    · exact .inl hold

/-- What is changed for a temporary client: the clients in `m_clients` are left alone, and the new session
only is named. -/
theorem step_createTemporaryClient (s : OutgoingSystem) (remoteIdentifier target : Str) (started : Bool)
    (messages : List Str) : ∃ temporary identifiers',
    s.step x (.createTemporaryClient remoteIdentifier target started messages) =
      { s with
        messaging := { s.messaging with nextClient := s.messaging.nextClient + 1 }
        temporary := temporary
        identifiers := identifiers'
        nextSession := s.nextSession + 1 } ∧
      ∀ other < s.nextSession, identifiers' other = s.identifiers other := by
  obtain ⟨c, identifiers', error', hv, hid⟩ := value_createTemporaryClient x s.nextSession started messages
    s.messaging.nextClient remoteIdentifier target s.identifiers ⟨[]⟩
  exact ⟨s.temporary ++ c.toList, identifiers', by simp only [OutgoingSystem.step, hv], hid⟩

theorem sessionsNamed_step (h : SessionsNamed s) (e : OutgoingEvent) : SessionsNamed (s.step x e) := by
  cases e with
  | initClient groupName =>
    refine h.of_clients le_rfl (fun _ _ => rfl) fun name c hget => ?_
    rcases client_step_initClient hget with hold | ⟨hname, hs⟩
    · exact .inl hold
    · refine .inr ⟨hname, ?_⟩
      rw [hs]
      exact nofun
  | createTemporaryClient remoteIdentifier target started messages =>
    obtain ⟨temporary, identifiers', hstep, hid⟩ :=
      step_createTemporaryClient (x := x) s remoteIdentifier target started messages
    rw [hstep]
    exact h.of_clients (Nat.le_succ _) hid fun name c hget => .inl hget
  | connectClient place started messages =>
    rw [OutgoingSystem.step_connectClient]
    cases hc : s.client place with
    | none => exact h
    | some c => exact h.connected hc started
  | closeClient place messages =>
    rw [OutgoingSystem.step_closeClient]
    cases hc : s.client place with
    | none => exact h
    | some c =>
      cases place with
      | temporary index => exact ⟨h.name, h.session⟩
      | named name =>
        refine h.of_clients le_rfl (fun _ _ => rfl) fun key c' hget => ?_
        rcases getElem?_of_insert hget with ⟨rfl, rfl⟩ | hget
        · exact .inr ⟨h.name key c hc, nofun⟩
        · exact .inl hget
  | runTest name => exact ⟨h.name, h.session⟩
  | runConnect name started messages =>
    rw [OutgoingSystem.step_runConnect]
    split_ifs
    · cases hc : s.client (.named name) with
      | none => exact h
      | some c =>
        have hconnected := h.connected hc started
        exact ⟨hconnected.name, hconnected.session⟩
    · exact h
  | sessionClose session messages =>
    rw [OutgoingSystem.step_sessionClose]
    exact h
  | error session message messages =>
    rw [OutgoingSystem.step_error]
    refine h.of_clients le_rfl (fun _ _ => rfl) fun name c' hget => ?_
    have hget' := (s.messaging.getElem?_closed (s.identifiers session) name).symm.trans hget
    split_ifs at hget' with hname
    · obtain ⟨c, hc, rfl⟩ := Option.map_eq_some_iff.mp hget'
      exact .inr ⟨h.name name c hc, nofun⟩
    · exact .inl hget'

end

/-- **When a lost session is released by its owner, and by nobody else**: exactly if it was given up before its
peer closes it, and fails only in the hands of a client in `m_clients` whose name it bears. -/
theorem releasesOwner_iff (x : Network) (identifiers : SessionId → Str) (es : List OutgoingEvent) :
    Along (OutgoingSystem.step x) (ReleasesOwner x) (.initial identifiers) es ↔
      Along (OutgoingSystem.step x) FindsOwner (.initial identifiers) es := by
  have hnamed : Throughout (OutgoingSystem.step x) SessionsNamed (.initial identifiers) es :=
    .of_step (fun _ e h => sessionsNamed_step h e) (by constructor <;> simp [OutgoingSystem.initial]) es
  exact Throughout.along_congr (I := SessionsNamed) (fun _ _ h => releasesOwner_step_iff h) hnamed

/-- A client connects, and its peer closes the session. -/
def closedByPeer : List OutgoingEvent :=
  [.initClient (str "misaki"), .runTest (str "misaki"), .runConnect (str "misaki") true [], .sessionClose 0 []]

/-- The client keeps the closed session. -/
theorem not_releasesOwner_closedByPeer :
    ¬ Along (OutgoingSystem.step literalNetwork) (ReleasesOwner literalNetwork) (.initial fun _ => [])
      closedByPeer := by
  rintro ⟨-, -, -, h, -⟩
  exact absurd rfl (h.released 0 rfl (.named (str "misaki")) ⟨0, str "misaki", str "/tmp/sock", 0, some 0⟩ rfl)

end HanamiNetwork
