import HanamiNetwork.Sessions.Answers

/-!
# Requests and their tasks

What the requests that arrive make the server run, said without sessions and queues: a request
has a task (`taskOf`), or none. The task is that of the blossom behind the endpoint. Its input
is what the request holds, without the token and with the defaults of the blossom, and its
context is the payload of the token together with the token.

* `tasks_processEvent_eq` — an event runs the task of its request, once, and no other.
* `tasksInOrder` — so does the server, over every run.

The task of a request depends on nothing but the request: neither on the session that it came in
on, nor on what other sessions do meanwhile. A request whose session is gone when it has its turn
is not processed: the thread ends with it, and nothing is said of its task.
-/

namespace HanamiNetwork

open HanamiNetwork.Basis

/-- The task of a blossom that is triggered, if its input passes. -/
def blossomTask (x : Libs) (registered : RegisteredBlossoms) (blossomName blossomGroupName : Str)
    (context values : DataMap) : Option Effect :=
  (getBlossom registered blossomGroupName blossomName).bind fun b =>
    if b.inputComplete values = .passed ∧ b.inputCheck x values = .passed then
      some (.runTask blossomGroupName blossomName (b.fillDefaultValues values) context)
    else none

/-- The task of a request, with its input and its context, if it has one. -/
def taskOf (x : World) (k : Controller) (request : RequestMessage) : Option Effect :=
  match x.parse request.inputValues ⟨[]⟩ with
  | (none, _) => none
  | (some inputValues, error) =>
    (k.mapEndpoint request.id request.httpType).bind fun entry =>
      (skippedContext x .empty (MessagingEvent.token x inputValues) error).bind fun context =>
        (if request.id ≠ str "v1/auth" then inputValues.remove (str "token") else inputValues).toMap.bind fun values =>
          blossomTask x.toLibs k.registeredBlossoms entry.name entry.group context values

/-- A call runs the task of the blossom, once; without a map of values it runs none. -/
theorem tasks_triggerBlossom_eq (x : Libs) (registered : RegisteredBlossoms) (result : DataMap)
    (blossomName blossomGroupName : Str) (context : DataMap) (initialValues : Option DataMap) (r : Refs) :
    (triggerBlossom x registered result blossomName blossomGroupName context initialValues r).effects.filter
        (fun e => e.kind = .task) =
      (initialValues.bind (blossomTask x registered blossomName blossomGroupName context)).toList := by
  cases initialValues with
  | none =>
    cases hb : getBlossom registered blossomGroupName blossomName with
    | none => simp [triggerBlossom_noBlossom x registered result blossomName blossomGroupName context r hb]
    | some b => simp [triggerBlossom_null x registered result blossomName blossomGroupName context r hb]
  | some values =>
    have hout := triggerBlossom_outcome x registered result blossomName blossomGroupName context values r
    generalize triggerBlossom x registered result blossomName blossomGroupName context values r = p at hout
    rw [Option.bind_some]
    cases hout with
    | noBlossom hb => simp [blossomTask, hb]
    | inputIncomplete hb hc => simp [blossomTask, hb, hc, Effect.kind]
    | inputInvalid hb hc hi => simp [blossomTask, hb, hc, hi, Effect.kind]
    | inputThrows hb hc hi => simp [blossomTask, hb, hc, hi]
    | taskFailed hb hc hi | noOutput hb hc hi | outputInvalid hb hc hi | outputIncomplete hb hc hi | done hb hc hi =>
      simp [blossomTask, hb, hc, hi, Effect.kind]

/-- A skipped check that refuses has no context. -/
theorem skippedContext_eq_none {x : World} (k : Controller) {context : DataMap} {token : Str} {r : Refs}
    (hne : ∀ context' r', (checkPermission x k context token true r).value ≠ some (true, context', r')) :
    skippedContext x context token r.error = none := by
  refine Option.eq_none_iff_forall_ne_some.mpr fun context' hc => ?_
  obtain ⟨r', hr⟩ := ((checkPermission_skipped x k context token r).2 context').mpr hc
  exact hne context' r' hr

@[simp] theorem kind_logError (error : ErrorContainer) : (Effect.logError error).kind = .log := rfl

namespace MessagingEvent

variable (x : World) (k : Controller) (ev : MessagingEvent)

theorem tasks_trigger_eq (resultingItems : DataMap) (inputValues : JsonItem) (endpoint : EndpointEntry) (r : Refs) :
    (ev.trigger x k resultingItems inputValues endpoint r).effects.filter (fun e => e.kind = .task) =
      ((skippedContext x .empty (token x inputValues) r.error).bind fun context =>
        (ev.withoutToken inputValues).toMap.bind fun values =>
          blossomTask x.toLibs k.registeredBlossoms endpoint.name endpoint.group context values).toList := by
  obtain ⟨heffects, hcontext⟩ := checkPermission_skipped x k .empty (token x inputValues) r
  rw [trigger, skipPermission_eq_true]
  cases hv : (checkPermission x k .empty (token x inputValues) true r).value with
  | none =>
    rw [skippedContext_eq_none k fun context r' h => by simp [hv] at h]
    simp [heffects, hv]
  | some outcome =>
    obtain ⟨ret, context, r'⟩ := outcome
    cases ret with
    | false =>
      rw [skippedContext_eq_none k fun context r' h => by simp [hv] at h]
      simp [heffects, hv]
    | true =>
      rw [(hcontext context).mp ⟨r', hv⟩, Option.bind_some, JsonItem.toMap]
      cases hm : (ev.withoutToken inputValues).content with
      | none => simp [heffects, hv]
      | some content =>
        have htasks := tasks_triggerBlossom_eq x.toLibs k.registeredBlossoms resultingItems endpoint.name
          endpoint.group context content.toMap r'
        rw [Option.bind_some, ← htasks]
        cases ht : (triggerBlossom x.toLibs k.registeredBlossoms resultingItems endpoint.name endpoint.group context
            content.toMap r').value with
        | none => simp [heffects, hv, ht]
        | some outcome =>
          obtain ⟨ret, items, r''⟩ := outcome
          cases ret with
          | true => simp [heffects, hv, ht]
          | false =>
            have hreport := (ofKinds_sendErrorMessage x k context (ev.withoutToken inputValues)
              (x.errorToString r''.error)).filter_eq_nil (show EffectKind.task ∉ [.lock, .message] by decide)
            simp [heffects, hv, ht, hreport, LOG_ERROR]

theorem tasks_sendResponseMessage (response : ResponseMessage) :
    (sendResponseMessage x response ev.session ev.blockerId).effects.filter (fun e => e.kind = .task) = [] := by
  rw [sendResponseMessage_eq]
  split_ifs <;> simp

/-- **An event runs the task of its request**, once. -/
theorem tasks_processEvent_eq : (ev.processEvent x k).effects.filter (fun e => e.kind = .task) =
    (taskOf x k ev.request).toList := by
  obtain ⟨⟨item, error⟩, hp⟩ : ∃ p, x.parse ev.inputValues ⟨[]⟩ = p := ⟨_, rfl⟩
  cases item with
  | none =>
    have hsent := tasks_sendResponseMessage x ev
    simp [processEvent, taskOf, request, hp, LOG_ERROR, hsent]
  | some inputValues =>
    cases he : k.mapEndpoint ev.targetId ev.httpType with
    | none =>
      have hsent := tasks_sendResponseMessage x ev
      simp [processEvent, taskOf, request, hp, he, LOG_ERROR, hsent]
    | some entry =>
      have htrigger := tasks_trigger_eq x k ev .empty inputValues entry ⟨x.initialStatus, error⟩
      have htask : (taskOf x k ev.request).toList = ((ev.trigger x k .empty inputValues entry
          ⟨x.initialStatus, error⟩).effects.filter fun e => e.kind = .task) := by
        rw [htrigger]
        simp only [taskOf, request, hp, he, Option.bind_some]
        rfl
      rw [htask]
      cases hv : (ev.trigger x k .empty inputValues entry ⟨x.initialStatus, error⟩).value with
      | none => simp [processEvent, hp, he, hv]
      | some outcome =>
        obtain ⟨ret, items, r⟩ := outcome
        have hsent := tasks_sendResponseMessage x ev
        cases ret <;> simp [processEvent, hp, he, hv, hsent]

end MessagingEvent

namespace Serving

/-- The tasks that were run are those of the requests taken. -/
structure TasksInOrder (env : Environment) (arrived : List MessagingEvent) (s : Serving) : Prop where
  /-- No request is lost, duplicated or overtaken. -/
  fifo : arrived = s.taken ++ s.stale.toList ++ s.system.queue
  /-- The tasks are those of the requests taken. -/
  tasks : s.trace.filter (fun e => e.kind = .task) =
    s.taken.zipIdx.flatMap fun p => (taskOf (env p.2).1 (env p.2).2 p.1.request).toList

/-- **Tasks are run in order**: over every run, the tasks run are exactly those of the requests taken so far,
one each at most, in the order in which the requests arrived. -/
theorem tasksInOrder (x : World) (env : Environment) (es : List SessionEvent) :
    TasksInOrder env (arrivals es) (initial.run x env es) := by
  have h : (initial.run x env es).worker.Faithful (processing env) (fun e => e.kind = .task) (arrivals es) :=
    faithful_kind (by decide) es
  refine ⟨h.fifo, h.trace.trans ?_⟩
  simp only [Worker.output, processing, MessagingEvent.tasks_processEvent_eq]
  rfl

end Serving

end HanamiNetwork
