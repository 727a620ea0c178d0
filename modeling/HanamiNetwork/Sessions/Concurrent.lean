import HanamiNetwork.Basis.Sections
import HanamiNetwork.Sessions.Registry

/-!
# Callbacks side by side

The callbacks of a server run on the threads of the sessions. `addInternalClient` and
`removeInternalClient` look at the registry, and change it, under `m_incominglock`; they let go of it
before they close a session or delete a client, and meanwhile other threads run their callbacks. Here
they are cut at the lock (`callbackSection`), and what follows it is done effect by effect.

`callbacks_linear` says that the callbacks can be taken for single steps all the same, as
`System.step` does: the clients are those after the callbacks one by one, in the order in which they
held the lock, and the sessions these delete were deleted or are about to be. `clients_balanced`
says what becomes of the clients: each one that was made is registered, about to be deleted or
deleted, and only one of these.
-/

namespace HanamiNetwork

open HanamiNetwork.Basis
open scoped List

/-- What `addInternalClient` does under `m_incominglock`, and whether it registers a client. -/
def HanamiMessaging.register (m : HanamiMessaging) (identifier : Str) (newSession : SessionId) :
    Bool × HanamiMessaging :=
  match m.incomingClients[identifier]? with
  | some _ => (false, m)
  | none => (true, { m with
      incomingClients := m.incomingClients.insert identifier
        (replaceSession ⟨m.nextClient, identifier, [], 0, none⟩ newSession)
      nextClient := m.nextClient + 1 })

/-- What `removeInternalClient` does under `m_incominglock`, and the client it takes out. -/
def HanamiMessaging.takeOut (m : HanamiMessaging) (identifier : Str) : Option Client × HanamiMessaging :=
  match m.incomingClients[identifier]? with
  | some tempSession => (some tempSession, { m with incomingClients := m.incomingClients.erase identifier })
  | none => (none, m)

/-- What `addInternalClient` does without the lock if the session is rejected. -/
def reject (newSession : SessionId) (outcome : CloseOutcome) : Traced Effect Unit := do
  Traced.emit (.closeSession newSession)
  LOG_ERROR ⟨outcome.messages⟩

/-- What `removeInternalClient` does without the lock with the client it took out. -/
def release (tempSession : Client) (first second : CloseOutcome) : Traced Effect Unit := do
  let (ret, tempSession, error) ← closeClient tempSession first ⟨[]⟩
  if ret = false then LOG_ERROR error
  deleteClient tempSession second

/-- The section of a callback, and what is left to do after it, but for what `errorCallback` itself logs. -/
def callbackSection (x : World) (m : HanamiMessaging) : SessionEvent → HanamiMessaging × List Effect
  | .create session outcome =>
    let (ret, m) := m.register (x.sessionIdentifier session) session
    (m, if ret = true then [] else (reject session outcome).effects)
  | .close session first second | .error session _ first second =>
    let (tempSession, m) := m.takeOut (x.sessionIdentifier session)
    (m, tempSession.elim [] fun c => (release c first second).effects)
  | .arrive _ _ _ => (m, [])
  | .process => (m, [])

/-- Threads with callbacks. -/
abbrev CallbackThreads (ι : Type) := Sections ι SessionEvent HanamiMessaging Effect

/-! ### One callback after the other -/

/-- The client an effect deletes. -/
def deletedClient : Effect → Option ClientId
  | .deleteClient client => some client
  | _ => none

/-- The clients a trace deletes. -/
def deletedClients (es : List Effect) : List ClientId := es.filterMap deletedClient

@[simp] theorem deletedClients_nil : deletedClients [] = [] := rfl

@[simp] theorem deletedClients_cons (e : Effect) (es : List Effect) :
    deletedClients (e :: es) = (deletedClient e).toList ++ deletedClients es := by
  cases h : deletedClient e <;> simp [deletedClients, h]

@[simp] theorem deletedClients_append (es fs : List Effect) :
    deletedClients (es ++ fs) = deletedClients es ++ deletedClients fs := List.filterMap_append

theorem deletedSessions_append (es fs : List Effect) :
    deletedSessions (es ++ fs) = deletedSessions es ++ deletedSessions fs := List.filterMap_append

theorem deletedClients_closeClient (c : Client) (outcome : CloseOutcome) (error : ErrorContainer) :
    deletedClients (closeClient c outcome error).effects = [] ∧
      ∃ ret c' error', (closeClient c outcome error).value = some (ret, c', error') ∧ c'.id = c.id := by
  cases hs : c.session with
  | none =>
    rw [closeClient_of_none hs]
    exact ⟨rfl, _, _, _, rfl, rfl⟩
  | some session =>
    cases hf : outcome.closed with
    | true =>
      rw [closeClient_of_closed hs hf]
      exact ⟨rfl, _, _, _, rfl, rfl⟩
    | false =>
      rw [closeClient_of_failed hs hf]
      exact ⟨rfl, _, _, _, rfl, rfl⟩

/-- `addInternalClient` is its section, and what it does with a rejected session. -/
theorem addInternalClient_eq (m : HanamiMessaging) (identifier : Str) (newSession : SessionId)
    (outcome : CloseOutcome) : m.addInternalClient identifier newSession outcome =
      ⟨if (m.register identifier newSession).1 = true then [] else (reject newSession outcome).effects,
        some (m.register identifier newSession)⟩ := by
  cases hc : m.incomingClients[identifier]? with
  | none =>
    rw [addInternalClient_of_none hc, HanamiMessaging.register, hc]
    rfl
  | some c =>
    rw [addInternalClient_of_client hc, HanamiMessaging.register, hc]
    rfl

/-- `removeInternalClient` is its section, and what it does with the client. -/
theorem removeInternalClient_eq (m : HanamiMessaging) (identifier : Str) (first second : CloseOutcome) :
    m.removeInternalClient identifier first second =
      ⟨(m.takeOut identifier).1.elim [] fun c => (release c first second).effects,
        some ((m.takeOut identifier).1.isSome, (m.takeOut identifier).2)⟩ := by
  cases hc : m.incomingClients[identifier]? with
  | none =>
    rw [removeInternalClient_of_none hc, HanamiMessaging.takeOut, hc]
    rfl
  | some c =>
    have hremoval : Removal m identifier first second c _ := removeInternalClient_of_client hc
    obtain ⟨-, ret, c', error', hv, -⟩ := deletedClients_closeClient c first ⟨[]⟩
    rw [HanamiMessaging.takeOut, hc]
    ext1
    · cases ret <;> simp [HanamiMessaging.removeInternalClient, hc, release, hv, LOG_ERROR]
    · exact hremoval.value

section

variable (x : World)

/-- A callback is its section, what is left after it, and what is logged. -/
theorem callback_eq (m : HanamiMessaging) (e : SessionEvent) :
    (e.callback x m).value = some (callbackSection x m e).1 ∧
      ∀ {β : Type} (f : Effect → Option β), (∀ error, f (.logError error) = none) →
        (e.callback x m).effects.filterMap f = (callbackSection x m e).2.filterMap f := by
  cases e with
  | create session outcome =>
    simp [SessionEvent.callback, sessionCreateCallback, callbackSection, addInternalClient_eq]
  | close session first second =>
    simp [SessionEvent.callback, sessionCloseCallback, callbackSection, removeInternalClient_eq]
  | error session message first second =>
    refine ⟨?_, fun f hf => ?_⟩
    · simp [SessionEvent.callback, errorCallback, callbackSection, removeInternalClient_eq, LOG_ERROR]
    · simp [SessionEvent.callback, errorCallback, callbackSection, removeInternalClient_eq, LOG_ERROR, hf]
  | arrive session blockerId data => exact ⟨rfl, fun f _ => rfl⟩
  | process => exact ⟨rfl, fun f _ => rfl⟩

theorem messaging_foldl (s : System) (es : List SessionEvent) :
    (es.foldl (System.step x) s).messaging = inTurn (callbackSection x) s.messaging es := by
  induction es generalizing s with
  | nil => rfl
  | cons e es ih =>
    rw [List.foldl_cons, ih]
    simp [System.step, (callback_eq x s.messaging e).1, inTurn]

theorem deleted_foldl (s : System) (es : List SessionEvent) : (es.foldl (System.step x) s).deleted =
    s.deleted ++ deletedSessions (workInTurn (callbackSection x) s.messaging es) := by
  induction es generalizing s with
  | nil => simp [workInTurn, total, deletedSessions]
  | cons e es ih =>
    obtain ⟨hvalue, heffects⟩ := callback_eq x s.messaging e
    have hmessaging : (s.step x e).messaging = (callbackSection x s.messaging e).1 := by simp [System.step, hvalue]
    have hdeleted : (s.step x e).deleted = s.deleted ++ deletedSessions (callbackSection x s.messaging e).2 :=
      congrArg (s.deleted ++ ·) (heffects _ fun _ => rfl)
    rw [List.foldl_cons, ih, workInTurn_cons, deletedSessions_append, ← List.append_assoc, hmessaging, hdeleted]

/-! ### The clients -/

/-- The clients in the registry. -/
def registered (m : HanamiMessaging) : List ClientId := m.incomingClients.toList.map fun entry => entry.2.id

/-- The clients that were made from one state to the next. -/
def clientsMade (m m' : HanamiMessaging) : List ClientId := List.range' m.nextClient (m'.nextClient - m.nextClient)

theorem deletedClients_deleteClient (c : Client) (outcome : CloseOutcome) :
    deletedClients (deleteClient c outcome).effects = [c.id] := by
  obtain ⟨hnone, ret, c', error', hv, hid⟩ := deletedClients_closeClient c outcome ⟨[]⟩
  cases ret <;> simp [deleteClient, hv, hnone, hid, LOG_ERROR, deletedClient]

theorem deletedClients_release (c : Client) (first second : CloseOutcome) :
    deletedClients (release c first second).effects = [c.id] := by
  obtain ⟨hnone, ret, c', error', hv, hid⟩ := deletedClients_closeClient c first ⟨[]⟩
  have hdelete := deletedClients_deleteClient c' second
  rw [hid] at hdelete
  cases ret <;> simp [release, hv, hnone, hdelete, LOG_ERROR, deletedClient]

theorem registered_takeOut (m : HanamiMessaging) (identifier : Str) :
    registered (m.takeOut identifier).2 ++ ((m.takeOut identifier).1.map Client.id).toList ~ registered m := by
  have herase := (perm_toList_erase m.incomingClients identifier).map fun entry => entry.2.id
  rw [List.map_append] at herase
  cases hc : m.incomingClients[identifier]? with
  | none => simp [HanamiMessaging.takeOut, hc]
  | some c => simpa [HanamiMessaging.takeOut, hc, entryOf, registered] using herase

theorem registered_register (m : HanamiMessaging) (identifier : Str) (newSession : SessionId) :
    registered (m.register identifier newSession).2 ~
      registered m ++ clientsMade m (m.register identifier newSession).2 := by
  cases hc : m.incomingClients[identifier]? with
  | some c => simp [HanamiMessaging.register, hc, clientsMade]
  | none =>
    have hinsert := (perm_toList_insert m.incomingClients identifier
      (replaceSession ⟨m.nextClient, identifier, [], 0, none⟩ newSession)).map fun entry => entry.2.id
    simpa [HanamiMessaging.register, hc, entryOf, registered, clientsMade, replaceSession] using hinsert

theorem nextClient_takeOut (m : HanamiMessaging) (identifier : Str) :
    (m.takeOut identifier).2.nextClient = m.nextClient := by
  cases hc : m.incomingClients[identifier]? <;> simp [HanamiMessaging.takeOut, hc]

theorem nextClient_register_le (m : HanamiMessaging) (identifier : Str) (newSession : SessionId) :
    m.nextClient ≤ (m.register identifier newSession).2.nextClient := by
  cases hc : m.incomingClients[identifier]? <;> simp [HanamiMessaging.register, hc]

/-- The registered clients before and after a section: those that will be deleted go, those that are made come. -/
theorem registered_section (m : HanamiMessaging) (e : SessionEvent) :
    registered (callbackSection x m e).1 ++ deletedClients (callbackSection x m e).2 ~
        registered m ++ clientsMade m (callbackSection x m e).1 ∧
      m.nextClient ≤ (callbackSection x m e).1.nextClient := by
  cases e with
  | create session outcome =>
    have hdeleted : deletedClients (callbackSection x m (.create session outcome)).2 = [] := by
      simp only [callbackSection]
      split_ifs
      · rfl
      · simp [reject, LOG_ERROR, deletedClient]
    rw [hdeleted, List.append_nil]
    exact ⟨registered_register m _ session, nextClient_register_le m _ session⟩
  | close session first second | error session _ first second =>
    have hdeleted : deletedClients ((m.takeOut (x.sessionIdentifier session)).1.elim [] fun c =>
        (release c first second).effects) = ((m.takeOut (x.sessionIdentifier session)).1.map Client.id).toList := by
      cases (m.takeOut (x.sessionIdentifier session)).1 with
      | none => rfl
      | some c => simp [deletedClients_release]
    have hnext := nextClient_takeOut m (x.sessionIdentifier session)
    refine ⟨?_, hnext.ge⟩
    simp only [callbackSection, hdeleted, clientsMade, hnext, Nat.sub_self, List.range'_zero, List.append_nil]
    exact registered_takeOut m _
  | arrive | process => exact ⟨by simp [callbackSection, clientsMade], le_rfl⟩

/-- Over a run of callbacks, the clients that were made are registered or deleted. -/
theorem registered_inTurn (es : List SessionEvent) :
    registered (inTurn (callbackSection x) System.initial.messaging es) ++
        deletedClients (workInTurn (callbackSection x) System.initial.messaging es) ~
      List.range (inTurn (callbackSection x) System.initial.messaging es).nextClient := by
  induction es using List.reverseRecOn with
  | nil =>
    have hempty : registered System.initial.messaging = [] := by simp [registered, System.initial]
    have hnext : System.initial.messaging.nextClient = 0 := rfl
    simp [workInTurn, total, inTurn, deletedClients, hempty, hnext]
  | append_singleton es e ih =>
    rw [workInTurn_concat, deletedClients_append, inTurn_concat]
    generalize inTurn (callbackSection x) System.initial.messaging es = m at ih
    generalize workInTurn (callbackSection x) System.initial.messaging es = work at ih
    calc
      registered (callbackSection x m e).1 ++ (deletedClients work ++ deletedClients (callbackSection x m e).2) ~
          registered (callbackSection x m e).1 ++ deletedClients (callbackSection x m e).2 ++ deletedClients work := by
        rw [List.append_assoc]
        exact List.perm_append_comm.append_left _
      _ ~ registered m ++ clientsMade m (callbackSection x m e).1 ++ deletedClients work :=
        (registered_section x m e).1.append_right _
      _ ~ registered m ++ deletedClients work ++ clientsMade m (callbackSection x m e).1 := by
        rw [List.append_assoc, List.append_assoc]
        exact List.perm_append_comm.append_left _
      _ ~ List.range m.nextClient ++ clientsMade m (callbackSection x m e).1 := ih.append_right _
      _ = List.range (callbackSection x m e).1.nextClient := by
        obtain ⟨n, hn⟩ := Nat.exists_eq_add_of_le (registered_section x m e).2
        rw [clientsMade, hn, Nat.add_sub_cancel_left, List.range_eq_range', List.range_eq_range']
        simpa using List.range'_append_1 (s := 0)

end

/-! ### Side by side -/

section

variable {ι : Type} [Fintype ι] [DecidableEq ι]

/-- The callbacks were single steps of the server, in the order of their sections, up to the closing and deleting
that is left. -/
structure StepByStep (x : World) (program : ι → List SessionEvent) (s : CallbackThreads ι) : Prop where
  /-- Each thread has begun the first of its callbacks, in order. -/
  calls : ∀ i, program i = (s.order.filter fun c => c.1 = i).map Prod.snd ++ s.calls i
  /-- The clients are those of the server. -/
  messaging : s.shared = ((s.order.map Prod.snd).foldl (System.step x) .initial).messaging
  /-- The sessions the server has deleted are deleted, or about to be. -/
  deleted : (deletedSessions s.trace : Multiset SessionId) + ∑ i, (deletedSessions (s.pending i) : Multiset SessionId) =
    ((s.order.map Prod.snd).foldl (System.step x) .initial).deleted

/-- **Callbacks are steps**: over every run of callbacks side by side, the clients and the deleted sessions are those of
the server that makes the callbacks one by one, in the order in which they held the lock. -/
theorem callbacks_linear (x : World) (program : ι → List SessionEvent) (schedule : List ι) :
    StepByStep x program ((Sections.start System.initial.messaging program).run (callbackSection x) schedule) := by
  have h : Sections.Linear (callbackSection x) System.initial.messaging program _ := Sections.linear_run schedule
  refine ⟨h.calls, ?_, ?_⟩
  · rw [messaging_foldl]
    exact h.shared
  · rw [deleted_foldl]
    exact h.filterMap _

/-- **What becomes of the clients**: over every run of callbacks side by side, each client that was made is in the
registry, about to be deleted or deleted, in one of them, once. -/
theorem clients_balanced (x : World) (program : ι → List SessionEvent) (schedule : List ι) :
    let s : CallbackThreads ι := (Sections.start System.initial.messaging program).run (callbackSection x) schedule
    (registered s.shared : Multiset ClientId) + ∑ i, (deletedClients (s.pending i) : Multiset ClientId) +
      (deletedClients s.trace : Multiset ClientId) = Multiset.range s.shared.nextClient := by
  intro s
  have h : s.Linear (callbackSection x) System.initial.messaging program := Sections.linear_run schedule
  have hclients := Multiset.coe_eq_coe.mpr (registered_inTurn x (s.order.map Prod.snd))
  rw [← Multiset.coe_add, ← h.shared, deletedClients, ← h.filterMap deletedClient] at hclients
  rw [Multiset.range, ← hclients, add_assoc, add_comm (∑ i, _)]
  rfl

end

end HanamiNetwork
