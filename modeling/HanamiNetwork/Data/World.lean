import HanamiNetwork.Basis.Trace
import HanamiNetwork.Messaging.MessageDefinitions

/-!
# The world around

What the code of this repository calls and does not contain, and what it does that can
be seen from outside.

* `Libs` — the library functions the blossoms and their validation use, `World` — the
  rest: the JSON parser, the payload of a token, the session layer, protobuf, and the
  numbers of their enumerations. Each is arbitrary; the laws among the fields are what
  the code relies on.
* `Effect` — what a call leaves behind: errors logged, locks taken, messages handed to
  the session layer, tasks of blossoms run.

A regular expression that `std::regex` rejects throws an exception, and nothing catches it:
matching then gives no answer, and whoever asks for one crashes.
-/

namespace HanamiNetwork

open HanamiNetwork.Basis

/-- The libraries below the blossoms. -/
structure Libs where
  /-- `std::regex_match(text, std::regex(pattern))`, of the pattern and the text; there is no value
  if the constructor or the match throws. -/
  regexMatch : Str → Str → Option Bool
  /-- `DataValue::getString`. -/
  getString : DataValue → Str
  /-- The string of a string value is that string. -/
  getString_string : ∀ s, getString (.string s) = s
  /-- `DataItem::toString`. -/
  itemToString : DataItem → Str
  /-- `ErrorContainer::toString`. -/
  errorToString : ErrorContainer → Str
  /-- `TableItem::toString(200, true)`, of the rows. -/
  tableToString : List (Str × Str) → Str

/-- `ErrorLog_Message`, the message that reports an error to shiori. -/
structure ErrorLogMessage where
  /-- `userid`. -/
  userid : Str
  /-- `context`. -/
  context : Str
  /-- `values`. -/
  values : Str
  /-- `component`. -/
  component : Str
  /-- `errormsg`. -/
  errormsg : Str
  deriving DecidableEq

/-- The rest of the world. -/
structure World extends Libs where
  /-- `JsonItem::parse`: the parsed item, if there is one, and the error container. -/
  parse : Str → ErrorContainer → Option JsonItem × ErrorContainer
  /-- `getJwtTokenPayload`: the payload of the token, unverified. -/
  getJwtTokenPayload : Str → ErrorContainer → Option JsonItem × ErrorContainer
  /-- `JsonItem::getString`. -/
  jsonGetString : JsonItem → Str
  /-- `JsonItem::toString(indent)`. -/
  jsonToString : JsonItem → Bool → Str
  /-- `DataMap::toString(indent)`. -/
  mapToString : DataMap → Bool → Str
  /-- `DataMap::getStringByKey`. -/
  getStringByKey : DataMap → Str → Str
  /-- `session->m_sessionIdentifier`. -/
  sessionIdentifier : SessionId → Str
  /-- `session->sendRequest`: the response, null if there is none. -/
  sendRequest : SessionId → Message → ErrorContainer → Option DataBuffer × ErrorContainer
  /-- `session->sendNormalMessage`. -/
  sendNormalMessage : SessionId → Message → ErrorContainer → Bool × ErrorContainer
  /-- `ByteSizeLong` and `SerializeToArray`: the bytes, if serialising succeeds. -/
  serialize : ErrorLogMessage → Option (List UInt8)
  /-- `SupportedComponents::getInstance()->localComponent`. -/
  localComponent : Str
  /-- A fresh `BlossomStatus`. -/
  initialStatus : BlossomStatus
  /-- A fresh `ResponseMessage`. -/
  initialResponse : ResponseMessage
  /-- `GET_TYPE`. -/
  GET_TYPE : HttpRequestType
  /-- `BAD_REQUEST_RTYPE`. -/
  BAD_REQUEST_RTYPE : HttpResponseTypes
  /-- `UNAUTHORIZED_RTYPE`. -/
  UNAUTHORIZED_RTYPE : HttpResponseTypes
  /-- `INTERNAL_SERVER_ERROR_RTYPE`. -/
  INTERNAL_SERVER_ERROR_RTYPE : HttpResponseTypes
  /-- `NOT_IMPLEMENTED_RTYPE`. -/
  NOT_IMPLEMENTED_RTYPE : HttpResponseTypes
  /-- `SHIORI_ERROR_LOG_MESSAGE_TYPE`. -/
  SHIORI_ERROR_LOG_MESSAGE_TYPE : UInt32
  /-- What the padding bytes of a header hold. -/
  padding : ℕ → UInt8

/-! ### A world to run in -/

/-- Libraries that take a regex literally, but for one that opens a bracket expression and does not
close it, and print only strings. -/
def literalLibs : Libs where
  regexMatch pattern text := if pattern = str "^[$" then none else some (pattern = str "^" ++ text ++ str "$")
  getString
    | .string s => s
    | _ => []
  getString_string _ := rfl
  itemToString
    | .value (.string s) => s
    | _ => []
  errorToString error := error.messages.flatten
  tableToString rows := (rows.map Prod.snd).flatten

/-- A world whose parser knows `{}`, whose sessions are those of `torii`, and which answers no
request and accepts no token. -/
def literalWorld : World where
  toLibs := literalLibs
  parse text error :=
    if text = str "\x7b\x7d" then (some (.ofMap .empty), error) else (none, error.addMeesage (str "syntax error"))
  getJwtTokenPayload _ error := (none, error.addMeesage (str "invalid token"))
  jsonGetString item := item.content.elim [] fun
    | .value v => literalLibs.getString v
    | _ => []
  jsonToString _ _ := str "\x7b\x7d"
  mapToString _ _ := str "\x7b\x7d"
  getStringByKey m key := (m.get key).elim [] fun
    | .value v => literalLibs.getString v
    | _ => []
  sessionIdentifier _ := str "torii"
  sendRequest _ _ error := (none, error)
  sendNormalMessage _ _ error := (true, error)
  serialize message := some message.errormsg
  localComponent := str "local"
  initialStatus := ⟨0, []⟩
  initialResponse := ⟨false, 0, []⟩
  GET_TYPE := 2
  BAD_REQUEST_RTYPE := 400
  UNAUTHORIZED_RTYPE := 401
  INTERNAL_SERVER_ERROR_RTYPE := 500
  NOT_IMPLEMENTED_RTYPE := 501
  SHIORI_ERROR_LOG_MESSAGE_TYPE := 1
  padding _ := 0

/-! ### Effects -/

/-- What a call leaves behind. -/
inductive Effect where
  /-- `LOG_ERROR(error)`. -/
  | logError (error : ErrorContainer)
  /-- `sendGenericErrorMessage` is called, from inside this many calls of itself. -/
  | genericErrorMessage (depth : ℕ)
  /-- `m_sessionLock` of a client is taken. -/
  | lock (client : ClientId)
  /-- `m_sessionLock` of a client is released. -/
  | unlock (client : ClientId)
  /-- `sendGenericMessage` is called on a client. -/
  | genericMessage (client : ClientId) (subType : UInt32) (data : List UInt8)
  /-- `sendNormalMessage` is called on a session. -/
  | sendNormalMessage (session : SessionId) (message : Message)
  /-- `sendRequest` is called on a session, and gives a response or none. -/
  | sendRequest (session : SessionId) (message : Message) (reply : Option DataBuffer)
  /-- `sendResponse` is called on a session, with the message built from `response`. -/
  | sendResponse (session : SessionId) (response : ResponseMessage) (message : Message) (blockerId : UInt64)
  /-- `closeSession` is called on a session. -/
  | closeSession (session : SessionId)
  /-- A session is deleted. -/
  | deleteSession (session : SessionId)
  /-- A client is deleted. -/
  | deleteClient (client : ClientId)
  /-- `runTask` of the blossom registered under a group and a name is called. -/
  | runTask (blossomGroupName blossomName : Str) (input context : DataMap)

/-- The kinds of effects. -/
inductive EffectKind where
  /-- An error is logged. -/
  | log
  /-- A lock is taken or released. -/
  | lock
  /-- A message is sent that has no answer. -/
  | message
  /-- A request is sent. -/
  | request
  /-- A response is sent. -/
  | response
  /-- A session or a client is closed or deleted. -/
  | close
  /-- A task is run. -/
  | task
  deriving DecidableEq

/-- The kind of an effect. -/
def Effect.kind : Effect → EffectKind
  | logError _ => .log
  | genericErrorMessage _ => .message
  | lock _ => .lock
  | unlock _ => .lock
  | genericMessage _ _ _ => .message
  | sendNormalMessage _ _ => .message
  | sendRequest _ _ _ => .request
  | sendResponse _ _ _ _ => .response
  | closeSession _ => .close
  | deleteSession _ => .close
  | deleteClient _ => .close
  | runTask _ _ _ _ => .task

@[simp] theorem Effect.kind_logError (error : ErrorContainer) : (logError error).kind = .log := rfl

@[simp] theorem Effect.kind_sendResponse (session : SessionId) (response : ResponseMessage) (message : Message)
    (blockerId : UInt64) : (sendResponse session response message blockerId).kind = .response := rfl

/-- The computation leaves effects of these kinds behind. -/
def OfKinds {α : Type} (kinds : List EffectKind) (p : Traced Effect α) : Prop :=
  Traced.Emits (fun e => e.kind ∈ kinds) p

theorem ofKinds_emit {kinds : List EffectKind} {e : Effect} (h : e.kind ∈ kinds) : OfKinds kinds (Traced.emit e) :=
  (Traced.emits_emit _).mpr h

theorem OfKinds.mono {α : Type} {kinds kinds' : List EffectKind} (h : kinds ⊆ kinds') {p : Traced Effect α}
    (hp : OfKinds kinds p) : OfKinds kinds' p :=
  Traced.Emits.mono (fun _ he => h he) hp

/-- A computation has no effects of any other kind. -/
theorem OfKinds.not_mem {α : Type} {kinds : List EffectKind} {p : Traced Effect α} (h : OfKinds kinds p) {e : Effect}
    (he : e.kind ∉ kinds) : e ∉ p.effects :=
  fun hmem => he (h e hmem)

/-- `LOG_ERROR(error)`. -/
def LOG_ERROR (error : ErrorContainer) : Traced Effect Unit := Traced.emit (.logError error)

/-- The scope of a `std::lock_guard` on a client's `m_sessionLock`. -/
def withLock {α : Type} (client : ClientId) (body : Traced Effect α) : Traced Effect α := do
  Traced.emit (.lock client)
  let a ← body
  Traced.emit (.unlock client)
  return a

theorem value_withLock {α : Type} (client : ClientId) (body : Traced Effect α) :
    (withLock client body).value = body.value := by
  cases h : body.value <;> simp [withLock, h]

theorem emits_withLock {α : Type} {Q : Effect → Prop} {client : ClientId} {body : Traced Effect α}
    (hl : Q (.lock client)) (hu : Q (.unlock client)) (h : Traced.Emits Q body) :
    Traced.Emits Q (withLock client body) :=
  ((Traced.emits_emit _).mpr hl).bind fun _ => h.bind fun _ =>
    ((Traced.emits_emit _).mpr hu).bind fun _ => Traced.emits_pure _

end HanamiNetwork
