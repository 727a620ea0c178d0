import HanamiNetwork.Basis.Worker
import HanamiNetwork.Messaging.Service
import HanamiNetwork.Sessions.Queue
import Mathlib.Data.List.Nodup

/-!
# Requests and their answers

The server as a whole: the callbacks of the session layer put requests into the queue, and
`MessagingEventQueue::run` takes them out and processes them, in any order of steps. What an
event finds around it when its turn comes (`env i`, for the `i`-th event that is taken) is
arbitrary, so that blossoms and endpoints may come and go, and a task may answer the same
request differently each time.

An event is processed on the session that it came in on. If that session has been deleted
before the event has its turn (`Sessions.Queue`), `trigger` and `sendResponse` use an object that
is gone. Nothing is said of what they do then: the event is the `stale` one of the server, and
the thread of the queue ends with it.

* `answeredInOrder` — over every run, the responses sent are those the service has for the
  requests taken so far, in the order in which the requests arrived, each sent once and to where
  its request came from.
* `allAnswered_iff` — after enough rounds of the queue thread, all of them are answered, exactly if
  none of them brings the server down and none has its turn on a session that is gone.
* `served_of_sent` — what is sent on a session with a blocker-id is what the service has for the
  request that arrived with them.
-/

namespace HanamiNetwork

open HanamiNetwork.Basis

/-- The server with its queue thread. -/
structure Serving where
  /-- The clients and the queue. -/
  system : System
  /-- The events that were taken from the queue and processed, first one first. -/
  taken : List MessagingEvent
  /-- The event whose session was gone when it was taken from the queue. -/
  stale : Option MessagingEvent
  /-- What has been done so far. -/
  trace : List Effect
  /-- The thread of the queue is there. -/
  running : Bool

/-- The surroundings in which each event is processed. -/
abbrev Environment := ℕ → World × Controller

namespace Serving

/-- The start. -/
def initial : Serving := ⟨.initial, [], none, [], true⟩

variable (x : World) (env : Environment)

/-- One event. With `process`, the loop of `MessagingEventQueue::run` goes round once: it sleeps if
there is no event. -/
def step (s : Serving) : SessionEvent → Serving
  | .process =>
    match s.running, s.system.queue with
    | true, ev :: _ =>
      if ev.session ∈ s.system.deleted then
        { s with system := s.system.step x .process, stale := some ev, running := false }
      else
        let p := ev.processEvent (env s.taken.length).1 (env s.taken.length).2
        { s with
          system := s.system.step x .process
          taken := s.taken ++ [ev]
          trace := s.trace ++ p.effects
          running := p.value.isSome }
    | _, _ => s
  | e => { s with
      system := s.system.step x e
      trace := s.trace ++ (e.callback x s.system.messaging).effects }

/-- A run. -/
def run (s : Serving) (es : List SessionEvent) : Serving := es.foldl (step x env) s

/-- The requests that have arrived in a run. -/
def arrivals (es : List SessionEvent) : List MessagingEvent := es.flatMap SessionEvent.arriving

/-- The response to the `i`-th event that is taken, sent to where the event came from. -/
def reply (i : ℕ) (ev : MessagingEvent) : Option Effect :=
  (serve (env i).1 (env i).2 ev.request).map (ev.answer (env i).1)

/-- The responses that were sent. -/
def responses (s : Serving) : List Effect := s.trace.filter fun e => e.kind = .response

/-- The requests are answered as the service has it. -/
structure InOrder (arrived : List MessagingEvent) (s : Serving) : Prop where
  /-- No request is lost, duplicated or overtaken. -/
  fifo : arrived = s.taken ++ s.stale.toList ++ s.system.queue
  /-- The responses are those of the requests taken. -/
  responses : s.responses = s.taken.zipIdx.flatMap fun p => (reply env p.2 p.1).toList
  /-- The thread is there as long as there is a response to every request taken, and no stale one. -/
  running : s.running = true ↔ s.stale = none ∧
    ∀ p ∈ s.taken.zipIdx, (serve (env p.2).1 (env p.2).2 p.1.request).isSome

/-! ### The worker behind it -/

/-- What becomes of the `i`-th event that is taken. -/
def processing (i : ℕ) (ev : MessagingEvent) : Traced Effect Bool := ev.processEvent (env i).1 (env i).2

/-- The queue and its thread. -/
def worker (s : Serving) : Worker MessagingEvent Effect :=
  ⟨s.system.queue, s.taken, s.stale, s.trace, s.running⟩

/-- What an event is to the queue and its thread. -/
def workerEvent (s : Serving) : SessionEvent → WorkerEvent MessagingEvent Effect
  | .process => .work fun ev => ev.session ∉ s.system.deleted
  | e => .beside e.arriving (e.callback x s.system.messaging).effects

theorem worker_step (s : Serving) (e : SessionEvent) :
    (s.step x env e).worker = s.worker.step (processing env) (workerEvent x s e) := by
  cases e with
  | process =>
    obtain ⟨⟨messaging, queue, deleted, accepted⟩, taken, stale, trace, running⟩ := s
    cases running with
    | false => rfl
    | true =>
      cases queue with
      | nil => rfl
      | cons ev queue =>
        by_cases hs : ev.session ∈ deleted <;> simp [step, worker, Worker.step, workerEvent, hs] <;> rfl
  | create session outcome => rfl
  | close session first second => rfl
  | error session message first second => rfl
  | arrive session blockerId data => rfl

theorem jobs_workerEvent (s : Serving) (e : SessionEvent) : (workerEvent x s e).jobs = e.arriving := by
  cases e <;> rfl

end Serving

/-! ### The callbacks send no response -/

theorem ofKinds_closeClient (c : Client) (outcome : CloseOutcome) (error : ErrorContainer) :
    OfKinds [.log, .lock, .close] (closeClient c outcome error) := by
  refine emits_withLock (by simp [Effect.kind]) (by simp [Effect.kind]) ?_
  split
  · exact Traced.emits_pure _
  · refine (ofKinds_emit (by simp [Effect.kind])).bind fun _ => ?_
    dsimp only
    split_ifs
    · exact Traced.emits_pure _
    · exact (ofKinds_emit (by simp [Effect.kind])).bind fun _ => Traced.emits_pure _

theorem ofKinds_removeInternalClient (m : HanamiMessaging) (identifier : Str) (first second : CloseOutcome) :
    OfKinds [.log, .lock, .close] (m.removeInternalClient identifier first second) := by
  have hlog : ∀ error, OfKinds [.log, .lock, .close] (LOG_ERROR error) := fun error =>
    ofKinds_emit (by simp [Effect.kind])
  have hdelete : ∀ c, OfKinds [.log, .lock, .close] (deleteClient c second) := by
    intro c
    refine (ofKinds_closeClient c second _).bind fun result => ?_
    obtain ⟨ret, c, error⟩ := result
    dsimp only
    split_ifs
    · exact (hlog _).bind fun _ => ofKinds_emit (by simp [Effect.kind])
    · exact Traced.Emits.bind (Traced.emits_pure _) fun _ => ofKinds_emit (by simp [Effect.kind])
  unfold HanamiMessaging.removeInternalClient
  split
  · refine (ofKinds_closeClient _ first _).bind fun result => ?_
    obtain ⟨ret, c, error⟩ := result
    dsimp only
    split_ifs
    · exact (hlog _).bind fun _ => (hdelete c).bind fun _ => Traced.emits_pure _
    · exact (hdelete c).bind fun _ => Traced.emits_pure _
  · exact Traced.emits_pure _

theorem ofKinds_callback (x : World) (m : HanamiMessaging) (e : SessionEvent) :
    OfKinds [.log, .lock, .close] (e.callback x m) := by
  have hlog : ∀ error, OfKinds [.log, .lock, .close] (LOG_ERROR error) := fun error =>
    ofKinds_emit (by simp [Effect.kind])
  cases e with
  | create session outcome =>
    refine Traced.Emits.bind ?_ fun _ => Traced.emits_pure _
    unfold HanamiMessaging.addInternalClient
    split
    · exact (ofKinds_emit (by simp [Effect.kind])).bind fun _ => (hlog _).bind fun _ => Traced.emits_pure _
    · exact Traced.emits_pure _
  | close session first second =>
    exact (ofKinds_removeInternalClient m _ first second).bind fun _ => Traced.emits_pure _
  | error session message first second =>
    exact (hlog _).bind fun _ => (ofKinds_removeInternalClient m _ first second).bind fun _ =>
      (hlog _).bind fun _ => Traced.emits_pure _
  | arrive session blockerId data => exact Traced.emits_pure _
  | process => exact Traced.emits_pure _

namespace Serving

variable {x : World} {env : Environment}

/-- The callbacks leave effects of no other kind beside the worker. -/
theorem spares_workerEvent {kind : EffectKind} (hk : kind ∉ [.log, .lock, .close]) (s : Serving) (e : SessionEvent) :
    (workerEvent x s e).Spares fun e => e.kind = kind := by
  have hspares : ∀ e : SessionEvent, (e.callback x s.system.messaging).effects.filter (fun e => e.kind = kind) = [] :=
    fun e => (ofKinds_callback x s.system.messaging e).filter_eq_nil hk
  cases e with
  | process => trivial
  | create session outcome => exact hspares _
  | close session first second => exact hspares _
  | error session message first second => exact hspares _
  | arrive session blockerId data => exact hspares _

theorem inOrder_of_faithful {arrived : List MessagingEvent} {s : Serving}
    (h : s.worker.Faithful (processing env) (fun e => e.kind = .response) arrived) : InOrder env arrived s := by
  refine ⟨h.fifo, h.trace.trans ?_, h.running.trans ?_⟩
  · simp only [Worker.output, processing, MessagingEvent.responses_processEvent_eq]
    rfl
  · simp only [processing, MessagingEvent.value_processEvent_eq]
    rfl

/-- Over every run, what is done of one kind is what the requests taken lead to. -/
theorem faithful_kind {kind : EffectKind} (hk : kind ∉ [.log, .lock, .close]) (es : List SessionEvent) :
    (initial.run x env es).worker.Faithful (processing env) (fun e => e.kind = kind) (arrivals es) := by
  have h := Worker.faithful_run (step x env) (worker_step x env) (spares_workerEvent hk) (jobs_workerEvent x)
    (s := initial) Worker.faithful_initial es
  rwa [List.nil_append] at h

theorem faithful (es : List SessionEvent) : (initial.run x env es).worker.Faithful (processing env)
    (fun e => e.kind = .response) (arrivals es) :=
  faithful_kind (by decide) es

/-- **Requests are answered in order**: over every run, the responses sent are exactly those to the
requests taken so far, one each and none if the server crashed on it, in the order in which the
requests arrived, and each goes to where its request came from; the thread ends with the first request that
the server crashes on, or whose session is gone when it has its turn. -/
theorem answeredInOrder (x : World) (env : Environment) (es : List SessionEvent) :
    InOrder env (arrivals es) (initial.run x env es) :=
  inOrder_of_faithful (faithful es)

/-! ### All requests -/

/-- Every request that has arrived is taken and answered, and the server is still there. -/
structure AllAnswered (env : Environment) (arrived : List MessagingEvent) (s : Serving) : Prop where
  /-- All are taken. -/
  taken : s.taken = arrived
  /-- There is one response for each, in order. -/
  responses : s.responses.map some = arrived.zipIdx.map fun p => reply env p.2 p.1
  /-- The queue thread is there. -/
  running : s.running = true

theorem map_some_replies {arrived : List (MessagingEvent × ℕ)}
    (h : ∀ p ∈ arrived, (serve (env p.2).1 (env p.2).2 p.1.request).isSome) :
    (arrived.flatMap fun p => (reply env p.2 p.1).toList).map some = arrived.map fun p => reply env p.2 p.1 := by
  induction arrived with
  | nil => rfl
  | cons p arrived ih =>
    obtain ⟨response, hresponse⟩ := Option.isSome_iff_exists.mp (h p List.mem_cons_self)
    simp only [List.flatMap_cons, List.map_append, List.map_cons]
    rw [ih fun q hq => h q (List.mem_cons_of_mem p hq)]
    simp [reply, hresponse]

/-- As long as the thread is running, what happens is what happens to the system. -/
theorem system_step {s : Serving} (h : s.running = true) (e : SessionEvent) :
    (s.step x env e).system = s.system.step x e := by
  cases e with
  | create session outcome => rfl
  | close session first second => rfl
  | error session message first second => rfl
  | arrive session blockerId data => rfl
  | process =>
    cases hq : s.system.queue with
    | cons ev queue =>
      simp only [step, h, hq]
      split_ifs <;> rfl
    | nil =>
      have hsleep : s.system.step x .process = s.system := by rw [System.step_process, hq, List.tail_nil, ← hq]
      simp only [step, h, hq, hsleep]

/-- A step that leaves the thread running processes no event on a session that is gone. -/
theorem processesLive_of_running {s : Serving} {e : SessionEvent} (h : (s.step x env e).running = true) :
    ProcessesLive s.system e := by
  rintro rfl ev hev
  have hrun : (s.worker.step (processing env) (workerEvent x s .process)).running = true := by
    rw [← worker_step]
    exact h
  exact of_decide_eq_true ((Worker.queue_of_running_step hrun).2 ev hev)

theorem along_of_running {es : List SessionEvent} {s : Serving} (h : (s.run x env es).running = true) :
    Along (System.step x) ProcessesLive s.system es := by
  induction es generalizing s with
  | nil => trivial
  | cons e es ih =>
    have hafter : (s.step x env e).running = true := Worker.running_of_run (step x env) (worker_step x env) es h
    have hbefore : s.running = true := Worker.running_of_run (step x env) (worker_step x env) (e :: es) h
    have hrest := ih h
    rw [system_step hbefore] at hrest
    exact ⟨processesLive_of_running hafter, hrest⟩

/-- If the system processes no event on a session that is gone, none is stale. -/
theorem stale_of_along {es : List SessionEvent} {s : Serving} (hs : s.stale = none)
    (h : s.running = true → Along (System.step x) ProcessesLive s.system es) : (s.run x env es).stale = none := by
  induction es generalizing s with
  | nil => exact hs
  | cons e es ih =>
    have hstep : (s.step x env e).stale = none := by
      cases e with
      | create session outcome => exact hs
      | close session first second => exact hs
      | error session message first second => exact hs
      | arrive session blockerId data => exact hs
      | process =>
        cases hrun : s.running with
        | false => simpa [step, hrun] using hs
        | true =>
          cases hq : s.system.queue with
          | nil => simpa [step, hrun, hq] using hs
          | cons ev queue =>
            have hlive : ev.session ∉ s.system.deleted := (h hrun).1 rfl ev (by rw [hq]; rfl)
            simpa [step, hrun, hq, hlive] using hs
    refine ih hstep fun hafter => ?_
    have hbefore : s.running = true := Worker.running_of_run (step x env) (worker_step x env) [e] hafter
    rw [system_step hbefore]
    exact (h hbefore).2

/-- **When all requests are answered**: once the queue thread has gone round often enough, every
request that arrived is answered exactly once, exactly if none of them brings the server down, and none has its turn
on a session that is gone. -/
theorem allAnswered_iff (x : World) (env : Environment) (es : List SessionEvent) (n : ℕ) :
    AllAnswered env (arrivals es)
        (initial.run x env (es ++ List.replicate ((arrivals es).length + n) .process)) ↔
      (∀ p ∈ (arrivals es).zipIdx, (serve (env p.2).1 (env p.2).2 p.1.request).isSome) ∧
        Along (System.step x) ProcessesLive .initial
          (es ++ List.replicate ((arrivals es).length + n) .process) := by
  generalize hm : (arrivals es).length + n = m
  have harrivals : arrivals (es ++ List.replicate m .process) = arrivals es := by
    simp [arrivals, SessionEvent.arriving]
  have horder : InOrder env (arrivals (es ++ List.replicate m .process))
      (initial.run x env (es ++ List.replicate m .process)) := inOrder_of_faithful (faithful _)
  rw [harrivals] at horder
  constructor
  · intro h
    refine ⟨?_, along_of_running h.running⟩
    rw [← h.taken]
    exact (horder.running.mp h.running).2
  · rintro ⟨hserved, hlive⟩
    have hstale : (initial.run x env (es ++ List.replicate m .process)).stale = none :=
      stale_of_along rfl fun _ => hlive
    have hfifo := horder.fifo
    rw [hstale, Option.toList_none, List.append_nil] at hfifo
    have hrun := horder.running.mpr ⟨hstale, fun p hp => hserved p (by
      rw [hfifo, List.zipIdx_append]
      exact List.mem_append_left _ hp)⟩
    have hlen : (initial.run x env es).worker.queue.length ≤ m := by
      have hmid : InOrder env (arrivals es) (initial.run x env es) := inOrder_of_faithful (faithful es)
      have hlength := congrArg List.length hmid.fifo
      simp only [worker, List.length_append] at hlength ⊢
      omega
    have hqueue : (initial.run x env (es ++ List.replicate m .process)).worker.queue = [] := by
      rw [run, List.foldl_append] at hrun ⊢
      rw [Worker.queue_of_running (step x env) (worker_step x env) (fun _ => ⟨_, rfl⟩) m hrun]
      exact List.drop_eq_nil_of_le hlen
    have htaken : arrivals es = (initial.run x env (es ++ List.replicate m .process)).taken := by
      rw [hfifo]
      exact (congrArg _ hqueue).trans (List.append_nil _)
    refine ⟨htaken.symm, ?_, hrun⟩
    rw [horder.responses, ← htaken]
    exact map_some_replies hserved

/-! ### One request among others -/

/-- A session and a blocker-id, by which an answer finds its request. -/
def ticket (ev : MessagingEvent) : SessionId × UInt64 := (ev.session, ev.blockerId)

/-- What is sent to a request that no other request shares its ticket with is its own response. -/
theorem served_of_sent {es : List SessionEvent} (hfresh : ((arrivals es).map ticket).Nodup) {ev : MessagingEvent}
    (hev : ev ∈ arrivals es) {response : ResponseMessage} {message : Message}
    (hsent : .sendResponse ev.session response message ev.blockerId ∈ (initial.run x env es).trace) :
    ∃ i, (initial.run x env es).taken[i]? = some ev ∧ serve (env i).1 (env i).2 ev.request = some response ∧
      message = responseMessage (env i).1.padding response := by
  obtain ⟨i, job, hjob, he⟩ := (Worker.mem_trace_iff (@faithful x env es) (by simp)).mp hsent
  have hmem : .sendResponse ev.session response message ev.blockerId ∈
      (processing env i job).effects.filter (fun e => e.kind = .response) := List.mem_filter.mpr ⟨he, by simp⟩
  rw [processing, MessagingEvent.responses_processEvent_eq, Option.mem_toList, Option.map_eq_some_iff] at hmem
  obtain ⟨response', hserve, heq⟩ := hmem
  obtain ⟨hsession, rfl, rfl, hblocker⟩ := Effect.sendResponse.inj heq
  have hin : job ∈ arrivals es := by
    have horder : InOrder env (arrivals es) (initial.run x env es) := inOrder_of_faithful (faithful es)
    rw [horder.fifo, List.append_assoc]
    exact List.mem_append_left _ (List.mem_of_getElem? hjob)
  obtain rfl := List.inj_on_of_nodup_map hfresh hin hev (Prod.ext hsession hblocker)
  exact ⟨i, hjob, hserve, rfl⟩

end Serving

end HanamiNetwork
