import HanamiNetwork.Sessions.Connections
import Mathlib.Logic.Function.Basic

/-!
# Outgoing clients

How a client gets its session: `connectClient`, the turns of the thread that reconnects it
(`run`), and the two functions that make clients, `createTemporaryClient` and the loop of
`initClients` (`hanami_messaging_client.cpp`, `hanami_messaging.cpp`).

What these call is a `Network` that is added to the world; whether a session can be started
is decided anew each time. `m_sessionIdentifier` is a variable of the session, so the
identifiers of the sessions are handed through.
-/

namespace HanamiNetwork

open HanamiNetwork.Basis

/-- The world, with what it takes to connect. -/
structure Network extends World where
  /-- `isUuid`. -/
  isUuid : Str → Bool
  /-- `IPV4_REGEX`. -/
  IPV4_REGEX : Str
  /-- It is a regex. -/
  regexMatch_IPV4_REGEX : ∀ text, (regexMatch IPV4_REGEX text).isSome
  /-- `GET_STRING_CONFIG`, of the group and the item. -/
  GET_STRING_CONFIG : Str → Str → Str
  /-- `GET_INT_CONFIG`, of the group and the item. -/
  GET_INT_CONFIG : Str → Str → Int64

/-- A network in the world that takes regexes literally, with one address for every target. -/
def literalNetwork : Network where
  toWorld := literalWorld
  isUuid _ := false
  IPV4_REGEX := str "127.0.0.1"
  regexMatch_IPV4_REGEX _ := rfl
  GET_STRING_CONFIG _ _ := str "/tmp/sock"
  GET_INT_CONFIG _ _ := 0

/-- A call that starts a session. -/
inductive SessionStart where
  /-- `startTcpSession`. -/
  | tcp (address : Str) (port : UInt16) (identifier sessionIdentifier : Str)
  /-- `startUnixDomainSession`. -/
  | unixDomain (address identifier sessionIdentifier : Str)

/-- What a call that starts a session gives. -/
structure StartOutcome where
  /-- The session, if one was started. -/
  session : Option SessionId
  /-- The messages that are put into the error container. -/
  messages : List Str

section

variable (x : Network) (start : SessionStart → StartOutcome)

/-- `connectClient`. -/
def connectClient (c : Client) (identifiers : SessionId → Str) (error : ErrorContainer) :
    Traced Effect (Bool × Client × (SessionId → Str) × ErrorContainer) :=
  let localIdent := if x.isUuid c.remoteIdentifier then c.remoteIdentifier else x.localComponent
  let outcome :=
    if x.regexMatch x.IPV4_REGEX c.address = some true then
      start (.tcp c.address c.port localIdent (str "HanamiClient"))
    else start (.unixDomain c.address localIdent (str "HanamiClient"))
  let error : ErrorContainer := ⟨error.messages ++ outcome.messages⟩
  match outcome.session with
  | none =>
    let error := error.addMeesage (str "Failed to initialize session to address '" ++ c.address ++ str "'")
    return (false, c, identifiers, error)
  | some newSession => do
    let identifiers := Function.update identifiers newSession c.remoteIdentifier
    let c ← withLock c.id (pure (replaceSession c newSession))
    return (true, c, identifiers, error)

/-- The test in the loop of `run`. -/
def runTest (c : Client) : Bool := c.session.isNone

/-- What follows in the loop of `run` if the test is passed. -/
def runConnect (c : Client) (identifiers : SessionId → Str) : Traced Effect (Client × (SessionId → Str)) := do
  let (ret, c, identifiers, error) ← connectClient x start c identifiers ⟨[]⟩
  if ret = false then
    LOG_ERROR (error.addMeesage (str "create connection to '" ++ c.remoteIdentifier ++ str "' failed"))
  return (c, identifiers)

/-- A new client for an address from the config, if there is one. -/
def newClient (id : ClientId) (remoteIdentifier target : Str) : Option Client :=
  let address := x.GET_STRING_CONFIG target (str "address")
  if address ≠ [] then
    some ⟨id, remoteIdentifier, address, (x.GET_INT_CONFIG target (str "port")).toUInt64.toUInt16, none⟩
  else none

/-- `createTemporaryClient`. -/
def createTemporaryClient (id : ClientId) (remoteIdentifier target : Str) (identifiers : SessionId → Str)
    (error : ErrorContainer) : Traced Effect (Option Client × (SessionId → Str) × ErrorContainer) :=
  match newClient x id remoteIdentifier target with
  | none => return (none, identifiers, error)
  | some newClient => do
    let (ret, newClient, identifiers, error) ← connectClient x start newClient identifiers error
    if ret = false then
      deleteClient newClient ⟨false, []⟩
      return (none, identifiers, error)
    else
      return (some newClient, identifiers, error)

/-- The body of the loop of `initClients`. -/
def initClient (m : HanamiMessaging) (groupName : Str) : HanamiMessaging :=
  match newClient x m.nextClient groupName groupName with
  | none => m
  | some newClient =>
    { m with clients := m.clients.insertIfNew groupName newClient, nextClient := m.nextClient + 1 }

end

/-! ### What connecting does -/

/-- Starting a session gives this one, or none. -/
def startFresh (session : SessionId) (started : Bool) (messages : List Str) : SessionStart → StartOutcome :=
  fun _ => ⟨if started then some session else none, messages⟩

/-- The client after it has tried to connect. -/
def Client.connected (c : Client) (session : SessionId) (started : Bool) : Client :=
  if started then { c with session := some session } else c

/-- The identifiers after the client has tried to connect: the new session bears its name. -/
def Client.identifiersConnected (c : Client) (session : SessionId) (started : Bool) (identifiers : SessionId → Str) :
    SessionId → Str :=
  if started then Function.update identifiers session c.remoteIdentifier else identifiers

section

variable (x : Network) (c : Client) (identifiers : SessionId → Str) (session : SessionId) (started : Bool)
  (messages : List Str)

theorem value_connectClient (error : ErrorContainer) :
    ∃ error', (connectClient x (startFresh session started messages) c identifiers error).value =
      some (started, c.connected session started, c.identifiersConnected session started identifiers, error') := by
  cases started with
  | false =>
    simp only [connectClient, startFresh, ite_self, Bool.false_eq_true, if_false]
    exact ⟨_, rfl⟩
  | true =>
    simp only [connectClient, startFresh, ite_self, if_true]
    exact ⟨_, rfl⟩

theorem value_runConnect : (runConnect x (startFresh session started messages) c identifiers).value =
    some (c.connected session started, c.identifiersConnected session started identifiers) := by
  obtain ⟨error', hv⟩ := value_connectClient x c identifiers session started messages ⟨[]⟩
  cases started <;> simp [runConnect, hv, LOG_ERROR]

end

end HanamiNetwork
