import HanamiNetwork.Sessions.Locks

/-!
# Deadlocks

Many threads use the clients: those of the components, one for each client that reconnects, that
of the event queue, and those of the session layer with its callbacks.

`neverStuck_calls_iff` is about any number of threads, each making any calls, in any interleaving,
and with any outcome of the calls and of the reports: no thread is ever stuck exactly if none
of them waits for an answer of shiori that does not come, or is empty. Each call is sound (`sound_acts`), and
tidy but for that one (`tidy_acts_iff`); the rest is the general theorem about ordered locks.
-/

namespace HanamiNetwork

open HanamiNetwork.Basis

section

variable {α : Type} {shiori : Option ClientId} {kinds : List EffectKind} {p : Traced Effect α}

theorem lockEvent_of_kind {e : Effect} (h : e.kind ≠ .lock) : (Act.effect e).lockEvent = none := by
  cases e <;> first | rfl | exact absurd rfl h

theorem not_logs_of_kind {e : Effect} (h : e.kind ≠ .log) : ¬ (Act.effect e).Logs := by
  cases e <;> first | exact id | exact absurd rfl h

theorem kind_ne_of_kinds {kind : EffectKind} (h : OfKinds kinds p) (hk : kind ∉ kinds) :
    ∀ e ∈ p.effects, e.kind ≠ kind :=
  fun e he heq => hk (heq ▸ h e he)

theorem plain_of_kinds (h : OfKinds kinds p) (hk : .lock ∉ kinds) : Plain (actsOf p.effects) := by
  intro a ha
  obtain ⟨e, he, rfl⟩ := List.mem_map.mp ha
  exact lockEvent_of_kind (kind_ne_of_kinds h hk e he)

theorem not_logs_of_kinds (h : OfKinds kinds p) (hk : .log ∉ kinds) : ∀ a ∈ actsOf p.effects, ¬ a.Logs := by
  intro a ha
  obtain ⟨e, he, rfl⟩ := List.mem_map.mp ha
  exact not_logs_of_kind (kind_ne_of_kinds h hk e he)

theorem actsOf_withLock (client : ClientId) (h : p.value.isSome) :
    actsOf (withLock client p).effects = locked client (actsOf p.effects) := by
  obtain ⟨a, ha⟩ := Option.isSome_iff_exists.mp h
  simp [withLock, ha, actsOf, locked]

theorem actsOf_append (es fs : List Effect) : actsOf (es ++ fs) = actsOf es ++ actsOf fs := List.map_append

/-! ### The calls on clients -/

theorem kinds_of_answered {x : World} {c : Client} {request : RequestMessage} {error : ErrorContainer}
    (h : ¬ Unanswered x c request error) (response : ResponseMessage) :
    ∃ acts, actsOf (triggerSakuraFile x c response request error).effects = locked c.id acts ∧ Plain acts ∧
      ∀ a ∈ acts, ¬ a.Logs := by
  cases hs : c.session with
  | none =>
    exact ⟨[], by simp [triggerSakuraFile, withLock, hs, actsOf, locked], nofun, nofun⟩
  | some session =>
    simp only [Unanswered, hs, Option.some.injEq, exists_eq_left', not_forall] at h
    obtain ⟨data, hdata, hused⟩ := h
    refine ⟨[.effect (.sendRequest session (requestMessage x.padding request) (some data))], ?_, ?_, ?_⟩
    · simp [triggerSakuraFile, createRequest, withLock, hs, hdata, processResponse_of_used hused, actsOf, locked]
    · simp [Plain, Act.lockEvent]
    · simp [Act.Logs]

theorem sound_triggerSakuraFile (x : World) (c : Client) (response : ResponseMessage) (request : RequestMessage)
    (error : ErrorContainer) : Sound shiori (actsOf (triggerSakuraFile x c response request error).effects) := by
  by_cases hu : Unanswered x c request error
  · obtain ⟨session, reply, error', heffects⟩ := effects_of_unanswered response hu
    rw [heffects]
    show Sound shiori (locked c.id (actsOf [.sendRequest session (requestMessage x.padding request) reply,
      .logError error']))
    exact sound_locked (by simp [Plain, actsOf, Act.lockEvent])
  · obtain ⟨acts, heq, hp, -⟩ := kinds_of_answered hu response
    rw [heq]
    exact sound_locked hp

/-- A request is tidy unless shiori does not answer it. -/
theorem tidy_triggerSakuraFile_iff (x : World) (c : Client) (response : ResponseMessage) (request : RequestMessage)
    (error : ErrorContainer) : Tidy shiori (actsOf (triggerSakuraFile x c response request error).effects) ↔
      ¬ (shiori = some c.id ∧ Unanswered x c request error) := by
  by_cases hu : Unanswered x c request error
  · obtain ⟨session, reply, error', heffects⟩ := effects_of_unanswered response hu
    have hacts : actsOf (triggerSakuraFile x c response request error).effects = locked c.id
        (actsOf [.sendRequest session (requestMessage x.padding request) reply, .logError error']) := by
      rw [heffects]
      rfl
    rw [hacts]
    constructor
    · rintro ht ⟨hshiori, -⟩
      -- the report is handed to the client whose lock is held
      have hreport : reportLocks x (.mk [] (some []) true ⟨[]⟩ []) ⟨true, some c, false⟩ =
          guarded (.session c.id) [] := by
        rw [reportLocks, sendGenericErrorMessage_of_lowered]
        cases hs : c.session <;> simp [handOver, hs, Act.lockEvent, guarded]
      have htrace : LockTrace shiori (locked c.id
          (actsOf [.sendRequest session (requestMessage x.padding request) reply, .logError error'])) _ :=
        .act id <| .act id <| .log (a := .effect (.logError error')) trivial x (.mk [] (some []) true ⟨[]⟩ [])
          ⟨true, some c, false⟩ (fun client hc => by rw [hshiori, Option.some_inj.mp hc]) <| .act id .nil
      have hn := ht _ htrace
      rw [hreport] at hn
      exact hn.2.1 List.mem_cons_self
    · intro hnot
      refine tidy_locked (by simp [Plain, actsOf, Act.lockEvent]) (.inr fun hshiori => hnot ⟨hshiori, hu⟩)
  · obtain ⟨acts, heq, hp, hl⟩ := kinds_of_answered hu response
    rw [heq]
    exact iff_of_true (tidy_locked hp (.inl hl)) fun h => hu h.2

/-- Acts that are sound and tidy. -/
structure Fine (shiori : Option ClientId) (acts : List Act) : Prop where
  /-- Sound. -/
  sound : Sound shiori acts
  /-- Tidy. -/
  tidy : Tidy shiori acts

theorem Fine.append {acts acts' : List Act} (h : Fine shiori acts) (h' : Fine shiori acts') :
    Fine shiori (acts ++ acts') :=
  ⟨h.sound.append h'.sound, (tidy_append h.sound).mpr ⟨h.tidy, h'.tidy⟩⟩

theorem fine_of_plain {acts : List Act} (h : Plain acts) : Fine shiori acts := ⟨sound_of_plain h, tidy_of_plain h⟩

theorem fine_locked {client : ClientId} {acts : List Act} (hp : Plain acts) (hl : ∀ a ∈ acts, ¬ a.Logs) :
    Fine shiori (locked client acts) :=
  ⟨sound_locked hp, tidy_locked hp (.inl hl)⟩

theorem fine_bind {β : Type} {f : α → Traced Effect β} (hp : Fine shiori (actsOf p.effects))
    (hf : ∀ a, Fine shiori (actsOf (f a).effects)) : Fine shiori (actsOf (p >>= f).effects) := by
  rw [Traced.effects_bind, actsOf_append]
  cases h : p.value with
  | none => exact hp.append (fine_of_plain nofun)
  | some a => exact hp.append (hf a)

theorem fine_pure (a : α) : Fine shiori (actsOf (pure a : Traced Effect α).effects) := fine_of_plain nofun

theorem fine_emit {e : Effect} (h : e.kind ≠ .lock) : Fine shiori (actsOf (Traced.emit e).effects) :=
  fine_of_plain fun _ ha => by
    obtain rfl := List.mem_singleton.mp ha
    exact lockEvent_of_kind h

theorem fine_withLock (kinds : List EffectKind) (client : ClientId) (h : OfKinds kinds p) (hlock : .lock ∉ kinds)
    (hlog : .log ∉ kinds) (hv : p.value.isSome) : Fine shiori (actsOf (withLock client p).effects) := by
  rw [actsOf_withLock client hv]
  exact fine_locked (plain_of_kinds h hlock) (not_logs_of_kinds h hlog)

theorem fine_sendGenericMessage (x : World) (c : Client) (subType : UInt32) (data : List UInt8) (error : ErrorContainer)
    (send : SessionId → Message → ErrorContainer → Unit → Bool × ErrorContainer × Unit) :
    Fine shiori (actsOf (sendGenericMessage x c subType data error () fun session message error s =>
      pure (send session message error s)).effects) := by
  refine fine_bind (fine_emit (by simp [Effect.kind])) fun _ => ?_
  refine fine_withLock [.message] c.id ?_ (by simp) (by simp) ?_
  · split
    · exact Traced.emits_pure _
    · exact (ofKinds_emit (by simp [Effect.kind])).bind fun _ => Traced.emits_pure _
  · cases c.session <;> simp

theorem fine_sendGenericRequest (x : World) (c : Client) (subType : UInt32) (data : List UInt8)
    (error : ErrorContainer) : Fine shiori (actsOf (sendGenericRequest x c subType data error).effects) := by
  refine fine_withLock [.request] c.id ?_ (by simp) (by simp) ?_
  · split
    · exact Traced.emits_pure _
    · exact (ofKinds_emit (by simp [Effect.kind])).bind fun _ => Traced.emits_pure _
  · cases c.session <;> simp

/-- The loop over the blocks returns, and takes no lock. -/
theorem sendBlocks_returns (session : SessionId) (send : ℕ → SendOutcome) (i : UInt32) (k : ℕ)
    (blocks : List DataBuffer) (error : ErrorContainer) : (sendBlocks session send i k blocks error).value.isSome ∧
      streamActs (sendBlocks session send i k blocks error).effects = [] := by
  induction blocks generalizing i k error with
  | nil => exact ⟨rfl, rfl⟩
  | cons buf rest ih =>
    by_cases hi : i.toNat ≤ rest.length
    · cases hs : (send k).sent with
      | false =>
        rw [sendBlocks_failed error hi hs]
        exact ⟨rfl, rfl⟩
      | true =>
        rw [sendBlocks_next error hi hs]
        exact ih ..
    · rw [sendBlocks_done error hi]
      exact ⟨rfl, rfl⟩

theorem fine_sendStreamMessage (c : Client) (send : ℕ → SendOutcome) (data : List DataBuffer)
    (error : ErrorContainer) : Fine shiori (streamActs (sendStreamMessage c send data error).effects) := by
  have hlocked : streamActs (sendStreamMessage c send data error).effects = locked c.id [] := by
    cases hs : c.session with
    | none => simp [sendStreamMessage, hs, streamActs, locked]
    | some session =>
      obtain ⟨hv, hacts⟩ := sendBlocks_returns session send 0 0 data error
      obtain ⟨result, hresult⟩ := Option.isSome_iff_exists.mp hv
      have hsend : sendStreamMessage c send data error = ⟨.lock c.id ::
          ((sendBlocks session send 0 0 data error).effects ++ [.unlock c.id]), some result⟩ := by
        simp [sendStreamMessage, hs, Traced.ext_iff, hresult]
      rw [hsend, streamActs, List.filterMap_cons, List.filterMap_append]
      rw [streamActs] at hacts
      simp [hacts, locked]
  rw [hlocked]
  exact fine_locked nofun nofun

theorem fine_sendStreamPointer (c : Client) (outcome : SendOutcome) (data : DataBuffer) (replyExpected : Bool)
    (error : ErrorContainer) :
    Fine shiori (streamActs (sendStreamPointer c outcome data replyExpected error).effects) := by
  have hlocked : streamActs (sendStreamPointer c outcome data replyExpected error).effects = locked c.id [] := by
    cases hs : c.session <;> simp [sendStreamPointer, hs, streamActs, locked]
  rw [hlocked]
  exact fine_locked nofun nofun

theorem fine_setStreamCallback (c : Client) : Fine shiori (actsOf (setStreamCallback c).effects) :=
  fine_withLock [] c.id (Traced.emits_pure _) (by simp) (by simp) rfl

theorem fine_closeClient (c : Client) (outcome : CloseOutcome) (error : ErrorContainer) :
    Fine shiori (actsOf (closeClient c outcome error).effects) := by
  refine fine_withLock [.close] c.id ?_ (by simp) (by simp) ?_
  · split
    · exact Traced.emits_pure _
    · refine (ofKinds_emit (by simp [Effect.kind])).bind fun _ => ?_
      dsimp only
      split_ifs
      · exact Traced.emits_pure _
      · exact (ofKinds_emit (by simp [Effect.kind])).bind fun _ => Traced.emits_pure _
  · cases c.session <;> cases outcome.closed <;> simp

theorem fine_deleteClient (c : Client) (outcome : CloseOutcome) :
    Fine shiori (actsOf (deleteClient c outcome).effects) := by
  refine fine_bind (fine_closeClient c outcome _) fun result => ?_
  obtain ⟨ret, c, error⟩ := result
  dsimp only
  split_ifs
  · exact fine_bind (fine_emit (by simp [Effect.kind])) fun _ => fine_emit (by simp [Effect.kind])
  · exact fine_bind (fine_pure _) fun _ => fine_emit (by simp [Effect.kind])

theorem fine_connectClient (x : Network) (start : SessionStart → StartOutcome) (c : Client)
    (identifiers : SessionId → Str) (error : ErrorContainer) :
    Fine shiori (actsOf (connectClient x start c identifiers error).effects) := by
  unfold connectClient
  dsimp only
  split
  · exact fine_pure _
  · exact fine_bind (fine_withLock [] c.id (Traced.emits_pure _) (by simp) (by simp) rfl) fun _ => fine_pure _

theorem fine_runConnect (x : Network) (start : SessionStart → StartOutcome) (c : Client)
    (identifiers : SessionId → Str) : Fine shiori (actsOf (runConnect x start c identifiers).effects) := by
  refine fine_bind (fine_connectClient x start c identifiers _) fun result => ?_
  obtain ⟨ret, c, identifiers, error⟩ := result
  dsimp only
  split_ifs
  · exact fine_bind (fine_emit (by simp [Effect.kind])) fun _ => fine_pure _
  · exact fine_pure _

theorem fine_removeInternalClient (m : HanamiMessaging) (identifier : Str) (first second : CloseOutcome) :
    Fine shiori (actsOf (m.removeInternalClient identifier first second).effects) := by
  unfold HanamiMessaging.removeInternalClient
  split
  · refine fine_bind (fine_closeClient _ first _) fun result => ?_
    obtain ⟨ret, c, error⟩ := result
    dsimp only
    split_ifs
    · exact fine_bind (fine_emit (by simp [Effect.kind])) fun _ => fine_bind (fine_deleteClient c second) fun _ =>
        fine_pure _
    · exact fine_bind (fine_deleteClient c second) fun _ => fine_pure _
  · exact fine_pure _

theorem fine_incoming : Fine shiori [.lockIncoming, .unlockIncoming] := by
  constructor
  all_goals
    intro es hes
    obtain rfl := lockTrace_of_not_logs (by simp [Act.Logs]) hes
  · exact ⟨by simp [Orderly, Act.lockEvent], by simp [heldAfter, Act.lockEvent]⟩
  · simp [NoRelock, Act.lockEvent]

/-- The client that is made under the mutex of the incoming clients is a new one. -/
theorem fine_addInternalClient (m : HanamiMessaging) (identifier : Str) (newSession : SessionId)
    (outcome : CloseOutcome) : Fine shiori (addInternalClientActs m identifier newSession outcome) := by
  unfold addInternalClientActs
  split
  · show Fine shiori ([.lockIncoming, .unlockIncoming] ++
      actsOf [.closeSession newSession, .logError ⟨outcome.messages⟩])
    exact fine_incoming.append (fine_of_plain (by simp [Plain, actsOf, Act.lockEvent]))
  · constructor
    all_goals
      intro es hes
      obtain rfl := lockTrace_of_not_logs (by simp [Act.Logs]) hes
    · refine ⟨?_, by simp [heldAfter, Act.lockEvent]⟩
      by_cases hc : shiori = some m.nextClient <;> simp [Orderly, Act.lockEvent, mutexRank, hc]
    · simp [NoRelock, Act.lockEvent]

theorem fine_errorCallback (x : World) (m : HanamiMessaging) (isClientSide : Bool) (session : SessionId) (message : Str)
    (first second : CloseOutcome) :
    Fine shiori (errorCallbackActs x m isClientSide session message first second) := by
  have hlog : ∀ error, Fine shiori [.effect (.logError error)] := fun error =>
    fine_of_plain (by simp [Plain, Act.lockEvent])
  unfold errorCallbackActs
  split_ifs
  · unfold errorCallback HanamiMessaging.closeClient
    refine fine_bind (hlog _) fun _ => fine_bind ?_ fun result => fine_bind (hlog _) fun _ => fine_pure _
    split
    · exact fine_bind (fine_closeClient _ first _) fun _ => fine_pure _
    · exact fine_pure _
  · exact ((hlog _).append (fine_incoming.append (fine_removeInternalClient m _ first second))).append (hlog _)

theorem sound_acts (call : ClientCall) : Sound shiori call.acts := by
  cases call with
  | triggerSakuraFile x c response request error => exact sound_triggerSakuraFile x c response request error
  | sendGenericMessage x c subType data error => exact (fine_sendGenericMessage x c subType data error _).sound
  | sendGenericRequest x c subType data error => exact (fine_sendGenericRequest x c subType data error).sound
  | sendStreamMessage c send data error => exact (fine_sendStreamMessage c send data error).sound
  | sendStreamPointer c outcome data replyExpected error =>
    exact (fine_sendStreamPointer c outcome data replyExpected error).sound
  | setStreamCallback c => exact (fine_setStreamCallback c).sound
  | closeClient c outcome error => exact (fine_closeClient c outcome error).sound
  | deleteClient c outcome => exact (fine_deleteClient c outcome).sound
  | connectClient x start c identifiers error => exact (fine_connectClient x start c identifiers error).sound
  | runConnect x start c identifiers => exact (fine_runConnect x start c identifiers).sound
  | addInternalClient m identifier newSession outcome =>
    exact (fine_addInternalClient m identifier newSession outcome).sound
  | removeInternalClient m identifier first second =>
    exact fine_incoming.sound.append (fine_removeInternalClient m identifier first second).sound
  | getIncomingClient => exact fine_incoming.sound
  | errorCallback x m isClientSide session message first second =>
    exact (fine_errorCallback x m isClientSide session message first second).sound

/-- Every call on a client is tidy, but for one. -/
theorem tidy_acts_iff (call : ClientCall) : Tidy shiori call.acts ↔ ¬ call.AwaitsShiori shiori := by
  cases call with
  | triggerSakuraFile x c response request error => exact tidy_triggerSakuraFile_iff x c response request error
  | sendGenericMessage x c subType data error =>
    exact iff_of_true (fine_sendGenericMessage x c subType data error _).tidy id
  | sendGenericRequest x c subType data error =>
    exact iff_of_true (fine_sendGenericRequest x c subType data error).tidy id
  | sendStreamMessage c send data error => exact iff_of_true (fine_sendStreamMessage c send data error).tidy id
  | sendStreamPointer c outcome data replyExpected error =>
    exact iff_of_true (fine_sendStreamPointer c outcome data replyExpected error).tidy id
  | setStreamCallback c => exact iff_of_true (fine_setStreamCallback c).tidy id
  | closeClient c outcome error => exact iff_of_true (fine_closeClient c outcome error).tidy id
  | deleteClient c outcome => exact iff_of_true (fine_deleteClient c outcome).tidy id
  | connectClient x start c identifiers error =>
    exact iff_of_true (fine_connectClient x start c identifiers error).tidy id
  | runConnect x start c identifiers => exact iff_of_true (fine_runConnect x start c identifiers).tidy id
  | addInternalClient m identifier newSession outcome =>
    exact iff_of_true (fine_addInternalClient m identifier newSession outcome).tidy id
  | removeInternalClient m identifier first second =>
    exact iff_of_true (fine_incoming.append (fine_removeInternalClient m identifier first second)).tidy id
  | getIncomingClient => exact iff_of_true fine_incoming.tidy id
  | errorCallback x m isClientSide session message first second =>
    exact iff_of_true (fine_errorCallback x m isClientSide session message first second).tidy id

/-! ### Events of the queue -/

/-- A trace of an event, with what its task calls: it is sound, and tidy if these calls are. -/
structure FineWithTasks (shiori : Option ClientId) (calls : List ClientCall) (es : List Effect) : Prop where
  /-- It is sound. -/
  sound : Sound shiori (es.flatMap (taskActs calls))
  /-- It is tidy if the calls are. -/
  tidy_iff : Tidy shiori (es.flatMap (taskActs calls)) ↔
    ∀ call ∈ es.flatMap (taskCalls calls), ¬ call.AwaitsShiori shiori

variable {calls : List ClientCall} {es fs : List Effect}

theorem FineWithTasks.append (h : FineWithTasks shiori calls es) (h' : FineWithTasks shiori calls fs) :
    FineWithTasks shiori calls (es ++ fs) := by
  constructor
  · rw [List.flatMap_append]
    exact h.sound.append h'.sound
  · rw [List.flatMap_append, List.flatMap_append, tidy_append h.sound, h.tidy_iff, h'.tidy_iff, List.forall_mem_append]

theorem fineWithTasks_nil : FineWithTasks shiori calls [] := ⟨sound_nil, iff_of_true tidy_nil nofun⟩

theorem fineWithTasks_of_kind (h : ∀ e ∈ es, e.kind ≠ .lock) : FineWithTasks shiori calls es := by
  induction es with
  | nil => exact fineWithTasks_nil
  | cons e es ih =>
    have he : Fine shiori [.effect e] := fine_of_plain fun a ha => by
      obtain rfl := List.mem_singleton.mp ha
      exact lockEvent_of_kind (h e List.mem_cons_self)
    show FineWithTasks shiori calls ([e] ++ es)
    refine FineWithTasks.append ⟨?_, ?_⟩ (ih fun e' he' => h e' (List.mem_cons_of_mem e he'))
    · simpa [taskActs] using he.sound.append (Sound.flatMap fun call _ => sound_acts call)
    · have hcalls : Tidy shiori ((taskCalls calls e).flatMap ClientCall.acts) ↔ _ :=
        tidy_flatMap fun call _ => sound_acts call
      have happ : Tidy shiori ([.effect e] ++ (taskCalls calls e).flatMap ClientCall.acts) ↔ _ :=
        tidy_append he.sound
      rw [hcalls, and_iff_right he.tidy] at happ
      simp only [tidy_acts_iff] at happ
      simpa [taskActs] using happ

theorem fineWithTasks_of_fine (h : Fine shiori (actsOf es)) (hk : ∀ e ∈ es, e.kind ≠ .task) :
    FineWithTasks shiori calls es := by
  have hcalls : ∀ e ∈ es, taskCalls calls e = [] := by
    intro e he
    have hke := hk e he
    cases e <;> first | rfl | exact absurd rfl hke
  have hacts : es.flatMap (taskActs calls) = actsOf es := by
    rw [actsOf, List.map_eq_flatMap]
    refine List.flatMap_congr fun e he => ?_
    simp [taskActs, hcalls e he]
  have hnone : es.flatMap (taskCalls calls) = [] := List.flatMap_eq_nil_iff.mpr hcalls
  exact ⟨hacts ▸ h.sound, by rw [hacts, hnone]; exact iff_of_true h.tidy nofun⟩

theorem fineWithTasks_bind {β : Type} {f : α → Traced Effect β} (hp : FineWithTasks shiori calls p.effects)
    (hf : ∀ a, FineWithTasks shiori calls (f a).effects) : FineWithTasks shiori calls (p >>= f).effects := by
  rw [Traced.effects_bind]
  cases h : p.value with
  | none => exact hp.append fineWithTasks_nil
  | some a => exact hp.append (hf a)

theorem fineWithTasks_emit {e : Effect} (h : e.kind ≠ .lock) :
    FineWithTasks shiori calls (Traced.emit e).effects :=
  fineWithTasks_of_kind fun e' he' => by
    obtain rfl := List.mem_singleton.mp he'
    exact h

theorem fine_sendErrorMessage (x : World) (k : Controller) (context : DataMap) (inputValues : JsonItem)
    (errorMessage : Str) : Fine shiori (actsOf (sendErrorMessage x k context inputValues errorMessage).effects) := by
  unfold sendErrorMessage
  dsimp only
  split_ifs
  · exact fine_pure _
  · exact fine_pure _
  · split
    · exact fine_pure _
    · split
      · exact fine_pure _
      · exact fine_bind (fine_sendGenericMessage ..) fun _ => fine_pure _

theorem fineWithTasks_trigger (x : World) (k : Controller) (ev : MessagingEvent) (resultingItems : DataMap)
    (inputValues : JsonItem) (endpoint : EndpointEntry) (r : Refs) :
    FineWithTasks shiori calls (ev.trigger x k resultingItems inputValues endpoint r).effects := by
  refine fineWithTasks_bind ?_ fun result => ?_
  · rw [MessagingEvent.skipPermission_eq_true, (checkPermission_skipped ..).1]
    exact fineWithTasks_nil
  · obtain ⟨ret, context, r⟩ := result
    dsimp only
    split_ifs
    · exact fineWithTasks_nil
    · refine fineWithTasks_bind (by rw [Traced.effects_ofOption]; exact fineWithTasks_nil) fun values => ?_
      refine fineWithTasks_bind ?_ fun result => ?_
      · exact fineWithTasks_of_kind (kind_ne_of_kinds (ofKinds_triggerBlossom _ _ _ _ _ _ _ _) (by simp))
      · obtain ⟨ret, items, r⟩ := result
        dsimp only
        split_ifs
        · refine fineWithTasks_bind (fineWithTasks_emit (by simp [Effect.kind])) fun _ => ?_
          exact fineWithTasks_bind (fineWithTasks_of_fine (fine_sendErrorMessage ..)
            (kind_ne_of_kinds (ofKinds_sendErrorMessage _ _ _ _ _) (by simp))) fun _ => fineWithTasks_nil
        · exact fineWithTasks_nil

theorem fineWithTasks_processEvent (x : World) (k : Controller) (ev : MessagingEvent) (calls : List ClientCall) :
    FineWithTasks shiori calls (ev.processEvent x k).effects := by
  have hlog : ∀ error, FineWithTasks shiori calls (LOG_ERROR error).effects := fun error =>
    fineWithTasks_emit (by simp [Effect.kind])
  have hsend : ∀ response,
      FineWithTasks shiori calls (sendResponseMessage x response ev.session ev.blockerId).effects := by
    intro response
    rw [MessagingEvent.sendResponseMessage_eq]
    split_ifs
    · exact fineWithTasks_emit (by simp)
    · exact fineWithTasks_nil
  unfold MessagingEvent.processEvent
  split
  · exact fineWithTasks_bind (hlog _) fun _ => fineWithTasks_bind (hsend _) fun _ => fineWithTasks_nil
  · split
    · exact fineWithTasks_bind (hlog _) fun _ => fineWithTasks_bind (hsend _) fun _ => fineWithTasks_nil
    · refine fineWithTasks_bind (fineWithTasks_trigger ..) fun result => ?_
      obtain ⟨ret, items, r⟩ := result
      dsimp only
      split_ifs <;> exact fineWithTasks_bind (hsend _) fun _ => fineWithTasks_nil

/-! ### All threads -/

theorem sound_call (call : Call) : Sound shiori call.acts := by
  cases call with
  | client call => exact sound_acts call
  | processEvent x k ev calls => exact (fineWithTasks_processEvent x k ev calls).sound

theorem tidy_call_iff (call : Call) :
    Tidy shiori call.acts ↔ ∀ c ∈ call.clientCalls, ¬ c.AwaitsShiori shiori := by
  cases call with
  | client call =>
    rw [Call.acts, tidy_acts_iff, Call.clientCalls, List.forall_mem_singleton]
  | processEvent x k ev calls => exact (fineWithTasks_processEvent x k ev calls).tidy_iff

end

/-- **When no thread is ever stuck**: however the calls of the threads are interleaved, and whatever
becomes of the errors they log, all threads can come to their end with all mutexes released,
exactly if no thread calls `triggerSakuraFile` on shiori's client and gets no answer, or an empty one. -/
theorem neverStuck_calls_iff {ι : Type} [Fintype ι] [DecidableEq ι] (shiori : Option ClientId) (calls : ι → List Call) :
    (∀ program, (∀ i, LockTrace shiori ((calls i).flatMap Call.acts) (program i)) → Threads.NeverStuck program) ↔
      ∀ i, ∀ call ∈ calls i, ∀ c ∈ call.clientCalls, ¬ c.AwaitsShiori shiori := by
  have hsound : ∀ i, Sound shiori ((calls i).flatMap Call.acts) := fun i => Sound.flatMap fun call _ => sound_call call
  have htidy : ∀ i, Tidy shiori ((calls i).flatMap Call.acts) ↔
      ∀ call ∈ calls i, ∀ c ∈ call.clientCalls, ¬ c.AwaitsShiori shiori := by
    intro i
    rw [tidy_flatMap fun call _ => sound_call call]
    simp only [tidy_call_iff]
  simp only [← htidy]
  constructor
  · intro h i es hes
    choose others hothers using fun j => exists_lockTrace shiori ((calls j).flatMap Call.acts)
    have hprogram : ∀ j, LockTrace shiori ((calls j).flatMap Call.acts) (Function.update others i es j) := by
      intro j
      by_cases hj : j = i
      · subst hj
        rwa [Function.update_self]
      · rw [Function.update_of_ne hj]
        exact hothers j
    have hnever := (Threads.neverStuck_iff fun j => hsound j _ (hprogram j)).mp (h _ hprogram) i
    rwa [Function.update_self] at hnever
  · intro h program hprogram
    exact (Threads.neverStuck_iff fun i => hsound i _ (hprogram i)).mpr fun i => h i _ (hprogram i)

end HanamiNetwork
