import HanamiNetwork.Messaging.Callbacks
import HanamiNetwork.Messaging.Client

/-!
# Connections

The clients of `HanamiMessaging` (`hanami_messaging.cpp`) and the callbacks of the session
layer that add and remove them (`callbacks.h`). An incoming client is registered under the
identifier its session announced, and is removed by that identifier.

What a removal does is said once, in `removeInternalClient_of_client` and
`removeInternalClient_of_none`; the order in which it closes, logs and deletes is left to
the definitions.
-/

namespace HanamiNetwork

open HanamiNetwork.Basis

/-- `HanamiMessaging`, as far as its clients go. -/
structure HanamiMessaging where
  /-- `m_incomingClients`. -/
  incomingClients : StdMap Client
  /-- `m_clients`. -/
  clients : StdMap Client
  /-- The address of the next client that is created. -/
  nextClient : ClientId

namespace HanamiMessaging

/-- `addInternalClient`; `outcome` is what closing a rejected session gives. -/
def addInternalClient (m : HanamiMessaging) (identifier : Str) (newSession : SessionId) (outcome : CloseOutcome) :
    Traced Effect (Bool × HanamiMessaging) :=
  match m.incomingClients[identifier]? with
  | some _ => do
    Traced.emit (.closeSession newSession)
    LOG_ERROR ⟨outcome.messages⟩
    return (false, m)
  | none =>
    let newInternalClient := replaceSession ⟨m.nextClient, identifier, [], 0, none⟩ newSession
    return (true, { m with
      incomingClients := m.incomingClients.insert identifier newInternalClient
      nextClient := m.nextClient + 1 })

/-- `removeInternalClient`; `first` and `second` are what the two tries to close the session give,
the one of `closeClient` and the one of the destructor. -/
def removeInternalClient (m : HanamiMessaging) (identifier : Str) (first second : CloseOutcome) :
    Traced Effect (Bool × HanamiMessaging) :=
  match m.incomingClients[identifier]? with
  | some tempSession => do
    let m := { m with incomingClients := m.incomingClients.erase identifier }
    let (ret, tempSession, error) ← closeClient tempSession first ⟨[]⟩
    if ret = false then LOG_ERROR error
    deleteClient tempSession second
    return (true, m)
  | none => return (false, m)

/-- `HanamiMessaging::closeClient`. -/
def closeClient (m : HanamiMessaging) (remoteIdentifier : Str) (outcome : CloseOutcome) (error : ErrorContainer) :
    Traced Effect (Bool × HanamiMessaging × ErrorContainer) :=
  match m.clients[remoteIdentifier]? with
  | some client => do
    let (ret, client, error) ← HanamiNetwork.closeClient client outcome error
    return (ret, { m with clients := m.clients.insert remoteIdentifier client }, error)
  | none => return (false, m, error)

end HanamiMessaging

/-! ### The callbacks -/

/-- `sessionCreateCallback`. -/
def sessionCreateCallback (isClientSide : Bool) (session : SessionId) (identifier : Str) (outcome : CloseOutcome)
    (m : HanamiMessaging) : Traced Effect HanamiMessaging :=
  if isClientSide = false then do
    let (_, m) ← m.addInternalClient identifier session outcome
    return m
  else return m

/-- `sessionCloseCallback`. -/
def sessionCloseCallback (isClientSide : Bool) (identifier : Str) (first second : CloseOutcome)
    (m : HanamiMessaging) : Traced Effect HanamiMessaging :=
  if isClientSide = false then do
    let (_, m) ← m.removeInternalClient identifier first second
    return m
  else return m

/-- `errorCallback`. -/
def errorCallback (x : World) (isClientSide : Bool) (session : SessionId) (message : Str)
    (first second : CloseOutcome) (m : HanamiMessaging) : Traced Effect HanamiMessaging := do
  let error := ErrorContainer.addMeesage ⟨[]⟩ message
  LOG_ERROR error
  let identifier := x.sessionIdentifier session
  let error := error.addMeesage
    (str "try to close session after error with identifier: '" ++ identifier ++ str "'")
  if isClientSide = true then
    let (_, m, error) ← m.closeClient identifier first error
    LOG_ERROR error
    return m
  else
    let (_, m) ← m.removeInternalClient identifier first second
    LOG_ERROR error
    return m

/-! ### What they do -/

/-- The sessions a trace deletes. -/
def deletedSessions (es : List Effect) : List SessionId := es.filterMap fun
  | .deleteSession session => some session
  | _ => none

section

variable {m : HanamiMessaging} {identifier : Str} {first second outcome : CloseOutcome} {c : Client}

theorem addInternalClient_of_client (h : m.incomingClients[identifier]? = some c) (newSession : SessionId) :
    m.addInternalClient identifier newSession outcome =
      ⟨[.closeSession newSession, .logError ⟨outcome.messages⟩], some (false, m)⟩ := by
  simp only [HanamiMessaging.addInternalClient, h]
  rfl

theorem addInternalClient_of_none (h : m.incomingClients[identifier]? = none) (newSession : SessionId) :
    m.addInternalClient identifier newSession outcome =
      ⟨[], some (true, { m with
        incomingClients := m.incomingClients.insert identifier ⟨m.nextClient, identifier, [], 0, some newSession⟩
        nextClient := m.nextClient + 1 })⟩ := by
  simp only [HanamiMessaging.addInternalClient, h]
  rfl

theorem removeInternalClient_of_none (h : m.incomingClients[identifier]? = none) :
    m.removeInternalClient identifier first second = ⟨[], some (false, m)⟩ := by
  simp only [HanamiMessaging.removeInternalClient, h]
  rfl

/-- A client is removed; it and its session are all that is closed and deleted. -/
structure Removal (m : HanamiMessaging) (identifier : Str) (first second : CloseOutcome) (c : Client)
    (p : Traced Effect (Bool × HanamiMessaging)) : Prop where
  /-- The entry is erased. -/
  value : p.value = some (true, { m with incomingClients := m.incomingClients.erase identifier })
  /-- No other session is closed. -/
  closed : ∀ session, .closeSession session ∈ p.effects → c.session = some session
  /-- The session is deleted, once, if one of the tries to close it succeeds. -/
  deleted : deletedSessions p.effects = if first.closed || second.closed then c.session.toList else []
  /-- No other client is deleted. -/
  deletedClient : ∀ client, .deleteClient client ∈ p.effects → client = c.id

theorem removeInternalClient_of_client (h : m.incomingClients[identifier]? = some c) :
    Removal m identifier first second c (m.removeInternalClient identifier first second) := by
  cases hs : c.session with
  | none =>
    have hclose := fun outcome => closeClient_of_none hs outcome ⟨[]⟩
    constructor <;> simp [HanamiMessaging.removeInternalClient, h, deleteClient, hclose, hs, LOG_ERROR, deletedSessions]
  | some session =>
    cases hf : first.closed with
    | true =>
      have hclose := closeClient_of_closed hs hf ⟨[]⟩
      have hagain := closeClient_of_none (c := { c with session := none }) rfl second ⟨[]⟩
      constructor <;> simp [HanamiMessaging.removeInternalClient, h, deleteClient, hclose, hagain, hs, hf, LOG_ERROR,
        deletedSessions]
    | false =>
      have hclose := closeClient_of_failed hs hf ⟨[]⟩
      cases hc : second.closed with
      | true =>
        have hagain := closeClient_of_closed hs hc ⟨[]⟩
        constructor <;> simp [HanamiMessaging.removeInternalClient, h, deleteClient, hclose, hagain, hs, hf, hc,
          LOG_ERROR, deletedSessions]
      | false =>
        have hagain := closeClient_of_failed hs hc ⟨[]⟩
        constructor <;> simp [HanamiMessaging.removeInternalClient, h, deleteClient, hclose, hagain, hs, hf, hc,
          LOG_ERROR, deletedSessions]

end

end HanamiNetwork
