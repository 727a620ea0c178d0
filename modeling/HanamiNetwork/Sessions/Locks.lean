import HanamiNetwork.Basis.Threads
import HanamiNetwork.Messaging.Gate
import HanamiNetwork.Messaging.SelfLock
import HanamiNetwork.Messaging.Stream
import HanamiNetwork.Sessions.Outgoing

/-!
# What threads lock

What a thread locks is the `m_sessionLock` of a client and the `m_incominglock` of the incoming
clients, and every error it logs is reported to shiori, under the lock of shiori's client. A
call is given by its acts (`ClientCall.acts`, `Call.acts`), read off the functions that are
modelled elsewhere. `m_incominglock` is not part of those; what takes it beside other locks has it
here (`addInternalClientActs`, `removeInternalClientActs`, `errorCallbackActs`). The session layer
does not call back on the thread that calls it.

Acts have traces of locks (`LockTrace`), one for each way their reports can go, each report taken
in one piece (`Sessions/ReportRace.lean` is about the flag that those of several threads share). Acts
outside a lock and under one are `trace_of_plain`, `sound_locked` and `tidy_locked`: the mutexes are
always taken in order, and the only one that is taken twice is that of shiori's client, by an error
that is logged under it.
-/

namespace HanamiNetwork

open HanamiNetwork.Basis

/-- The mutexes. -/
inductive Mutex where
  /-- `m_incominglock`. -/
  | incoming
  /-- `m_sessionLock` of a client. -/
  | session (client : ClientId)
  deriving DecidableEq

/-- What a thread does. -/
inductive Act where
  /-- An effect. -/
  | effect (e : Effect)
  /-- `m_incominglock` is taken. -/
  | lockIncoming
  /-- `m_incominglock` is released. -/
  | unlockIncoming

namespace Act

/-- What an act does to the mutexes. -/
def lockEvent : Act → Option (LockEvent Mutex)
  | effect (.lock client) => some (.acquire (.session client))
  | effect (.unlock client) => some (.release (.session client))
  | effect _ => none
  | lockIncoming => some (.acquire .incoming)
  | unlockIncoming => some (.release .incoming)

/-- The act logs an error. -/
def Logs : Act → Prop
  | effect (.logError _) => True
  | _ => False

end Act

/-- The mutexes of a report. -/
def reportLocks (x : World) (report : Report) (s : Reporter) : List (LockEvent Mutex) :=
  (sendGenericErrorMessage x 0 report s).effects.filterMap fun e => (Act.effect e).lockEvent

/-- The mutexes that acts take and release, with the reports of the errors they log. What becomes of
a report is open, but for the client of shiori, which is the client `shiori` if it is there. -/
inductive LockTrace (shiori : Option ClientId) : List Act → List (LockEvent Mutex) → Prop where
  /-- Nothing is done. -/
  | nil : LockTrace shiori [] []
  /-- An error is logged, and reported. -/
  | log {a : Act} {acts : List Act} {es : List (LockEvent Mutex)} (ha : a.Logs) (x : World) (report : Report)
      (s : Reporter) (hs : ∀ client, s.shioriClient = some client → shiori = some client.id) :
      LockTrace shiori acts es → LockTrace shiori (a :: acts) (reportLocks x report s ++ es)
  /-- Anything else is done. -/
  | act {a : Act} {acts : List Act} {es : List (LockEvent Mutex)} (ha : ¬ a.Logs) :
      LockTrace shiori acts es → LockTrace shiori (a :: acts) (a.lockEvent.toList ++ es)

/-! ### The calls -/

/-- The acts of a trace. -/
def actsOf (es : List Effect) : List Act := es.map Act.effect

/-- The locks of `sendStreamMessage`. -/
def streamActs (es : List StreamEffect) : List Act := es.filterMap fun
  | .lock client => some (.effect (.lock client))
  | .unlock client => some (.effect (.unlock client))
  | .sendStreamData _ _ => none

/-- `addInternalClient`, with its lock and those of the constructor and of `replaceSession`. -/
def addInternalClientActs (m : HanamiMessaging) (identifier : Str) (newSession : SessionId) (outcome : CloseOutcome) :
    List Act :=
  match m.incomingClients[identifier]? with
  | some _ =>
    [.lockIncoming, .unlockIncoming, .effect (.closeSession newSession), .effect (.logError ⟨outcome.messages⟩)]
  | none =>
    [.lockIncoming, .effect (.lock m.nextClient), .effect (.unlock m.nextClient), .effect (.lock m.nextClient),
      .effect (.unlock m.nextClient), .unlockIncoming]

/-- `removeInternalClient`, with its lock. -/
def removeInternalClientActs (m : HanamiMessaging) (identifier : Str) (first second : CloseOutcome) : List Act :=
  .lockIncoming :: .unlockIncoming :: actsOf (m.removeInternalClient identifier first second).effects

/-- `getIncomingClient`. -/
def getIncomingClientActs : List Act := [.lockIncoming, .unlockIncoming]

/-- `setStreamCallback`; what it sets is in the session. -/
def setStreamCallback (c : Client) : Traced Effect Bool := withLock c.id (pure c.session.isSome)

/-- `errorCallback`, with the lock of `removeInternalClient`. -/
def errorCallbackActs (x : World) (m : HanamiMessaging) (isClientSide : Bool) (session : SessionId) (message : Str)
    (first second : CloseOutcome) : List Act :=
  if isClientSide = true then actsOf (errorCallback x true session message first second m).effects
  else
    let error := ErrorContainer.addMeesage ⟨[]⟩ message
    let identifier := x.sessionIdentifier session
    [.effect (.logError error)] ++ removeInternalClientActs m identifier first second ++
      [.effect (.logError (error.addMeesage
        (str "try to close session after error with identifier: '" ++ identifier ++ str "'")))]

/-- A call on a client or on the clients. -/
inductive ClientCall where
  /-- `triggerSakuraFile`. -/
  | triggerSakuraFile (x : World) (c : Client) (response : ResponseMessage) (request : RequestMessage)
      (error : ErrorContainer)
  /-- `sendGenericMessage`. -/
  | sendGenericMessage (x : World) (c : Client) (subType : UInt32) (data : List UInt8) (error : ErrorContainer)
  /-- `sendGenericRequest`. -/
  | sendGenericRequest (x : World) (c : Client) (subType : UInt32) (data : List UInt8) (error : ErrorContainer)
  /-- `sendStreamMessage`. -/
  | sendStreamMessage (c : Client) (send : ℕ → SendOutcome) (data : List DataBuffer) (error : ErrorContainer)
  /-- `sendStreamMessage` for a pointer. -/
  | sendStreamPointer (c : Client) (outcome : SendOutcome) (data : DataBuffer) (replyExpected : Bool)
      (error : ErrorContainer)
  /-- `setStreamCallback`. -/
  | setStreamCallback (c : Client)
  /-- `closeClient`. -/
  | closeClient (c : Client) (outcome : CloseOutcome) (error : ErrorContainer)
  /-- The destructor. -/
  | deleteClient (c : Client) (outcome : CloseOutcome)
  /-- `connectClient`. -/
  | connectClient (x : Network) (start : SessionStart → StartOutcome) (c : Client) (identifiers : SessionId → Str)
      (error : ErrorContainer)
  /-- A turn of the loop of `run`, past its test. -/
  | runConnect (x : Network) (start : SessionStart → StartOutcome) (c : Client) (identifiers : SessionId → Str)
  /-- `addInternalClient`. -/
  | addInternalClient (m : HanamiMessaging) (identifier : Str) (newSession : SessionId) (outcome : CloseOutcome)
  /-- `removeInternalClient`. -/
  | removeInternalClient (m : HanamiMessaging) (identifier : Str) (first second : CloseOutcome)
  /-- `getIncomingClient`. -/
  | getIncomingClient
  /-- `errorCallback`. -/
  | errorCallback (x : World) (m : HanamiMessaging) (isClientSide : Bool) (session : SessionId) (message : Str)
      (first second : CloseOutcome)

/-- What a call does. -/
def ClientCall.acts : ClientCall → List Act
  | triggerSakuraFile x c response request error =>
    actsOf (HanamiNetwork.triggerSakuraFile x c response request error).effects
  | sendGenericMessage x c subType data error =>
    actsOf (HanamiNetwork.sendGenericMessage x c subType data error () fun session message error _ =>
      let (ret, error) := x.sendNormalMessage session message error
      return (ret, error, ())).effects
  | sendGenericRequest x c subType data error =>
    actsOf (HanamiNetwork.sendGenericRequest x c subType data error).effects
  | sendStreamMessage c send data error => streamActs (HanamiNetwork.sendStreamMessage c send data error).effects
  | sendStreamPointer c outcome data replyExpected error =>
    streamActs (HanamiNetwork.sendStreamPointer c outcome data replyExpected error).effects
  | setStreamCallback c => actsOf (HanamiNetwork.setStreamCallback c).effects
  | closeClient c outcome error => actsOf (HanamiNetwork.closeClient c outcome error).effects
  | deleteClient c outcome => actsOf (HanamiNetwork.deleteClient c outcome).effects
  | connectClient x start c identifiers error =>
    actsOf (HanamiNetwork.connectClient x start c identifiers error).effects
  | runConnect x start c identifiers => actsOf (HanamiNetwork.runConnect x start c identifiers).effects
  | addInternalClient m identifier newSession outcome => addInternalClientActs m identifier newSession outcome
  | removeInternalClient m identifier first second => removeInternalClientActs m identifier first second
  | getIncomingClient => getIncomingClientActs
  | errorCallback x m isClientSide session message first second =>
    errorCallbackActs x m isClientSide session message first second

/-- A call, or an event of the queue with the calls its task makes. -/
inductive Call where
  /-- A call. -/
  | client (call : ClientCall)
  /-- `processEvent`, with what is called while a task is run. -/
  | processEvent (x : World) (k : Controller) (ev : MessagingEvent) (calls : List ClientCall)

/-- What is called during an effect. -/
def taskCalls (calls : List ClientCall) : Effect → List ClientCall
  | .runTask _ _ _ _ => calls
  | _ => []

/-- The acts of an effect, with what is called during it. -/
def taskActs (calls : List ClientCall) (e : Effect) : List Act :=
  .effect e :: (taskCalls calls e).flatMap ClientCall.acts

/-- What a call does. -/
def Call.acts : Call → List Act
  | client call => call.acts
  | processEvent x k ev calls => (ev.processEvent x k).effects.flatMap (taskActs calls)

/-- The calls on clients that a call comes to. -/
def Call.clientCalls : Call → List ClientCall
  | client call => [call]
  | processEvent x k ev calls => (ev.processEvent x k).effects.flatMap (taskCalls calls)

/-- The call waits for an answer of shiori that does not come, or is empty. -/
def ClientCall.AwaitsShiori (shiori : Option ClientId) : ClientCall → Prop
  | triggerSakuraFile x c _ request error => shiori = some c.id ∧ Unanswered x c request error
  | _ => False

/-! ### Traces -/

/-- The order of the mutexes: that of the incoming clients first, that of shiori's client last. -/
def mutexRank (shiori : Option ClientId) : Mutex → ℕ
  | .incoming => 0
  | .session client => if shiori = some client then 2 else 1

section

variable {shiori : Option ClientId} {acts acts' : List Act} {es : List (LockEvent Mutex)}

theorem reportLocks_eq (x : World) (report : Report) {s : Reporter}
    (hs : ∀ client, s.shioriClient = some client → shiori = some client.id) : reportLocks x report s = [] ∨
      ∃ client, shiori = some client ∧ reportLocks x report s = guarded (.session client) [] := by
  by_cases hh : ∃ client buffer, Hands s report client buffer
  · obtain ⟨client, buffer, hh⟩ := hh
    obtain ⟨nested, hcall⟩ := effects_of_hands x 0 hh
    refine .inr ⟨client.id, hs client hh.2.2.1, ?_⟩
    rw [reportLocks, hcall]
    unfold handOver
    cases client.session <;> simp [Act.lockEvent, guarded]
  · obtain ⟨s', hcall⟩ := effects_of_not_hands x 0 fun client buffer hh' => hh ⟨client, buffer, hh'⟩
    rw [reportLocks, hcall]
    exact .inl rfl

theorem exists_lockTrace (shiori : Option ClientId) (acts : List Act) : ∃ es, LockTrace shiori acts es := by
  induction acts with
  | nil => exact ⟨_, .nil⟩
  | cons a acts ih =>
    obtain ⟨es, h⟩ := ih
    by_cases ha : a.Logs
    · exact ⟨_, .log ha literalWorld (.mk [] none false ⟨[]⟩ []) ⟨false, none, false⟩ nofun h⟩
    · exact ⟨_, .act ha h⟩

theorem lockTrace_append : LockTrace shiori (acts ++ acts') es ↔
    ∃ es₁ es₂, es = es₁ ++ es₂ ∧ LockTrace shiori acts es₁ ∧ LockTrace shiori acts' es₂ := by
  induction acts generalizing es with
  | nil =>
    constructor
    · exact fun h => ⟨[], es, rfl, .nil, h⟩
    · rintro ⟨_, es₂, rfl, h, h'⟩
      cases h
      exact h'
  | cons a acts ih =>
    constructor
    · intro h
      cases h with
      | log ha x report s hs h =>
        obtain ⟨es₁, es₂, rfl, h₁, h₂⟩ := ih.mp h
        exact ⟨_, es₂, (List.append_assoc ..).symm, .log ha x report s hs h₁, h₂⟩
      | act ha h =>
        obtain ⟨es₁, es₂, rfl, h₁, h₂⟩ := ih.mp h
        exact ⟨_, es₂, (List.append_assoc ..).symm, .act ha h₁, h₂⟩
    · rintro ⟨_, es₂, rfl, h, h₂⟩
      cases h with
      | log ha x report s hs h =>
        rw [List.append_assoc]
        exact .log ha x report s hs (ih.mpr ⟨_, es₂, rfl, h, h₂⟩)
      | act ha h =>
        rw [List.append_assoc]
        exact .act ha (ih.mpr ⟨_, es₂, rfl, h, h₂⟩)

theorem lockTrace_of_not_logs (hl : ∀ a ∈ acts, ¬ a.Logs) (h : LockTrace shiori acts es) :
    es = acts.filterMap Act.lockEvent := by
  induction h with
  | nil => rfl
  | @log a acts _ ha => exact absurd ha (hl a List.mem_cons_self)
  | @act a acts es ha h ih =>
    rw [ih fun a' ha' => hl a' (List.mem_cons_of_mem a ha'), List.filterMap_cons]
    cases a.lockEvent <;> rfl

/-- The traces of the acts take the mutexes in order, and leave none behind. -/
def Sound (shiori : Option ClientId) (acts : List Act) : Prop :=
  ∀ es, LockTrace shiori acts es → Block (mutexRank shiori) es

/-- The acts take no mutex that is held. -/
def Tidy (shiori : Option ClientId) (acts : List Act) : Prop := ∀ es, LockTrace shiori acts es → NoRelock [] es

theorem Sound.append (h : Sound shiori acts) (h' : Sound shiori acts') : Sound shiori (acts ++ acts') := by
  intro es hes
  obtain ⟨es₁, es₂, rfl, h₁, h₂⟩ := lockTrace_append.mp hes
  exact (h es₁ h₁).append (h' es₂ h₂)

theorem sound_nil : Sound shiori [] := by
  intro es hes
  cases hes
  exact Block.nil

theorem Sound.flatMap {α : Type} {f : α → List Act} {l : List α} (h : ∀ a ∈ l, Sound shiori (f a)) :
    Sound shiori (l.flatMap f) := by
  induction l with
  | nil => exact sound_nil
  | cons a l ih =>
    rw [List.flatMap_cons]
    exact (h a List.mem_cons_self).append (ih fun a' ha' => h a' (List.mem_cons_of_mem a ha'))

theorem tidy_append (h : Sound shiori acts) :
    Tidy shiori (acts ++ acts') ↔ Tidy shiori acts ∧ Tidy shiori acts' := by
  constructor
  · intro ht
    constructor
    · intro es₁ h₁
      obtain ⟨es₂, h₂⟩ := exists_lockTrace shiori acts'
      exact ((noRelock_append [] es₁ es₂).mp (ht _ (lockTrace_append.mpr ⟨_, _, rfl, h₁, h₂⟩))).1
    · intro es₂ h₂
      obtain ⟨es₁, h₁⟩ := exists_lockTrace shiori acts
      have hn := ((noRelock_append [] es₁ es₂).mp (ht _ (lockTrace_append.mpr ⟨_, _, rfl, h₁, h₂⟩))).2
      rwa [(h es₁ h₁).balanced] at hn
  · rintro ⟨ht, ht'⟩ es hes
    obtain ⟨es₁, es₂, rfl, h₁, h₂⟩ := lockTrace_append.mp hes
    rw [noRelock_append, (h es₁ h₁).balanced]
    exact ⟨ht es₁ h₁, ht' es₂ h₂⟩

theorem tidy_nil : Tidy shiori [] := by
  intro es hes
  cases hes
  trivial

theorem tidy_flatMap {α : Type} {f : α → List Act} {l : List α} (h : ∀ a ∈ l, Sound shiori (f a)) :
    Tidy shiori (l.flatMap f) ↔ ∀ a ∈ l, Tidy shiori (f a) := by
  induction l with
  | nil => exact ⟨fun _ => nofun, fun _ => tidy_nil⟩
  | cons a l ih =>
    rw [List.flatMap_cons, tidy_append (h a List.mem_cons_self), ih fun a' ha' => h a' (List.mem_cons_of_mem a ha'),
      List.forall_mem_cons]

/-! ### Acts outside and inside a lock -/

/-- The acts take and release nothing. -/
def Plain (acts : List Act) : Prop := ∀ a ∈ acts, a.lockEvent = none

/-- What the reports of plain acts do, whatever is held. -/
theorem trace_of_plain (hp : Plain acts) (h : LockTrace shiori acts es) (held : List Mutex) :
    heldAfter held es = held ∧ Orderly (mutexRank shiori) held es ∧
      ((∀ a ∈ acts, ¬ a.Logs) ∨ (∀ client, shiori = some client → .session client ∉ held) → NoRelock held es) := by
  induction h with
  | nil => exact ⟨rfl, trivial, fun _ => trivial⟩
  | @act a acts es ha h ih =>
    obtain ⟨ih₁, ih₂, ih₃⟩ := ih fun a' ha' => hp a' (List.mem_cons_of_mem a ha')
    rw [hp a List.mem_cons_self, Option.toList_none, List.nil_append]
    exact ⟨ih₁, ih₂, fun hor => ih₃ (hor.imp_left fun hl a' ha' => hl a' (List.mem_cons_of_mem a ha'))⟩
  | @log a acts es ha x report s hs h ih =>
    obtain ⟨ih₁, ih₂, ih₃⟩ := ih fun a' ha' => hp a' (List.mem_cons_of_mem a ha')
    rcases reportLocks_eq x report hs with hnone | ⟨client, hclient, hone⟩
    · rw [hnone, List.nil_append]
      exact ⟨ih₁, ih₂, fun hor => ih₃ (hor.imp_left fun hl a' ha' => hl a' (List.mem_cons_of_mem a ha'))⟩
    · rw [hone, heldAfter_append, orderly_append, noRelock_append, heldAfter_guarded rfl, orderly_guarded,
        noRelock_guarded]
      refine ⟨ih₁, ⟨⟨fun m _ => ?_, trivial⟩, ih₂⟩, fun hor => ?_⟩
      · -- the mutex of shiori's client ranks above all others
        cases m with
        | incoming => exact .inr (by simp [mutexRank, hclient])
        | session client' =>
          by_cases hc : client' = client
          · exact .inl (by rw [hc])
          · have hne : client ≠ client' := fun h => hc h.symm
            exact .inr (by simp [mutexRank, hclient, hne])
      · rcases hor with hl | hfree
        · exact absurd ha (hl a List.mem_cons_self)
        · exact ⟨⟨hfree client hclient, trivial⟩, ih₃ (.inr hfree)⟩

theorem sound_of_plain (hp : Plain acts) : Sound shiori acts := fun _ hes =>
  ⟨(trace_of_plain hp hes []).2.1, (trace_of_plain hp hes []).1⟩

theorem tidy_of_plain (hp : Plain acts) : Tidy shiori acts := fun _ hes =>
  (trace_of_plain hp hes []).2.2 (.inr fun _ _ => List.not_mem_nil)

/-- Acts under the lock of a client. -/
def locked (client : ClientId) (acts : List Act) : List Act :=
  .effect (.lock client) :: (acts ++ [.effect (.unlock client)])

theorem lockTrace_locked {client : ClientId} (h : LockTrace shiori (locked client acts) es) :
    ∃ es', es = guarded (.session client) es' ∧ LockTrace shiori acts es' := by
  cases h with
  | log ha => exact absurd ha id
  | act ha h =>
    obtain ⟨es', _, rfl, h₁, h₂⟩ := lockTrace_append.mp h
    cases h₂ with
    | log ha => exact absurd ha id
    | act ha h₂ =>
      cases h₂
      exact ⟨es', rfl, h₁⟩

theorem sound_locked {client : ClientId} (hp : Plain acts) : Sound shiori (locked client acts) := by
  intro es hes
  obtain ⟨es', rfl, h⟩ := lockTrace_locked hes
  obtain ⟨hheld, horderly, -⟩ := trace_of_plain hp h [.session client]
  exact ⟨orderly_guarded.mpr ⟨nofun, horderly⟩, heldAfter_guarded hheld⟩

theorem tidy_locked {client : ClientId} (hp : Plain acts) (hl : (∀ a ∈ acts, ¬ a.Logs) ∨ shiori ≠ some client) :
    Tidy shiori (locked client acts) := by
  intro es hes
  obtain ⟨es', rfl, h⟩ := lockTrace_locked hes
  refine (noRelock_guarded [] _ es').mpr ⟨List.not_mem_nil, ?_⟩
  refine (trace_of_plain hp h [.session client]).2.2 (hl.imp_right fun hne client' hclient hmem => ?_)
  obtain rfl : client' = client := by simpa using hmem
  exact hne hclient

end

end HanamiNetwork
