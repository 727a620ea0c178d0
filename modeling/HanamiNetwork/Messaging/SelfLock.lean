import HanamiNetwork.Basis.Mutex
import HanamiNetwork.Messaging.ErrorLog

/-!
# Logging under a lock

`triggerSakuraFile` holds the lock of its client while it sends the request and takes the
response apart, and logs an error if there is no response or an empty one. Every logged
error is reported to shiori, which takes the lock of shiori's client. `noSelfDeadlock_iff`
says when the thread ends up waiting for itself.

The trace of a call is completed by `reportErrors`: each `logError` is followed by the
trace of the report of that error.
-/

namespace HanamiNetwork

open HanamiNetwork.Basis

/-- What an effect does to the locks. -/
def Effect.lockEvent : Effect → Option (LockEvent ClientId)
  | .lock client => some (.acquire client)
  | .unlock client => some (.release client)
  | _ => none

/-- The locks a trace takes and releases. -/
def locks (es : List Effect) : List (LockEvent ClientId) := es.filterMap Effect.lockEvent

/-- A trace with the reports of the errors it logs; `reportOf` says how the report of an error goes. -/
def reportErrors (x : World) (reportOf : ErrorContainer → Report) : List Effect → Reporter → List Effect
  | [], _ => []
  | .logError error :: es, s =>
    let report := sendGenericErrorMessage x 0 (reportOf error) s
    .logError error :: (report.effects ++ reportErrors x reportOf es (report.value.getD s))
  | e :: es, s => e :: reportErrors x reportOf es s

/-- The thread that calls `triggerSakuraFile` never tries to take a lock it holds. -/
def NoSelfDeadlock (x : World) (reportOf : ErrorContainer → Report) (s : Reporter) (c : Client)
    (response : ResponseMessage) (request : RequestMessage) (error : ErrorContainer) : Prop :=
  NoRelock [] (locks (reportErrors x reportOf (triggerSakuraFile x c response request error).effects s))

/-- The request is sent, and there is no response or an empty one. -/
def Unanswered (x : World) (c : Client) (request : RequestMessage) (error : ErrorContainer) : Prop :=
  ∃ session, c.session = some session ∧
    ∀ data, (x.sendRequest session (requestMessage x.padding request) error).1 = some data →
      data.usedBufferSize = 0

/-- An error that is logged now is handed to this client. -/
def ReportsTo (s : Reporter) (client : ClientId) : Prop :=
  s.supportShiori = true ∧ s.whileSendError = false ∧ s.shioriClient.map Client.id = some client

section

variable {x : World} {reportOf : ErrorContainer → Report} {s : Reporter} {c : Client}
  {request : RequestMessage} {error : ErrorContainer} (response : ResponseMessage)

/-- The trace of a call that is not answered: one error is logged, under the lock. -/
theorem effects_of_unanswered (h : Unanswered x c request error) :
    ∃ session reply error', (triggerSakuraFile x c response request error).effects =
      [.lock c.id, .sendRequest session (requestMessage x.padding request) reply, .logError error', .unlock c.id] := by
  obtain ⟨session, hs, hempty⟩ := h
  obtain ⟨⟨reply, error₁⟩, hreply⟩ : ∃ p, x.sendRequest session (requestMessage x.padding request) error = p :=
    ⟨_, rfl⟩
  rw [hreply] at hempty
  cases reply with
  | none =>
    refine ⟨session, none, error₁.addMeesage (str "Timeout while triggering sakura-file with id: " ++ request.id), ?_⟩
    simp [triggerSakuraFile, createRequest, withLock, hs, hreply, LOG_ERROR]
  | some data =>
    refine ⟨session, some data, error₁.addMeesage (str "missing message-content"), ?_⟩
    simp [triggerSakuraFile, createRequest, withLock, hs, hreply, processResponse_empty (.inl (hempty data rfl))]

/-- The locks of a call that is not answered are those of the report, inside the lock of the client. -/
theorem locks_of_unanswered (h : Unanswered x c request error) :
    ∃ error', locks (reportErrors x reportOf (triggerSakuraFile x c response request error).effects s) =
      guarded c.id (locks (sendGenericErrorMessage x 0 (reportOf error') s).effects) := by
  obtain ⟨session, reply, error', heffects⟩ := effects_of_unanswered response h
  refine ⟨error', ?_⟩
  simp [heffects, reportErrors, locks, List.filterMap_cons, Effect.lockEvent, guarded]

theorem locks_of_answered (h : ¬ Unanswered x c request error) :
    locks (reportErrors x reportOf (triggerSakuraFile x c response request error).effects s) = guarded c.id [] := by
  cases hs : c.session with
  | none => simp [triggerSakuraFile, withLock, hs, reportErrors, locks, Effect.lockEvent, guarded]
  | some session =>
    simp only [Unanswered, hs, Option.some.injEq, exists_eq_left', not_forall] at h
    obtain ⟨data, hdata, hused⟩ := h
    simp [triggerSakuraFile, createRequest, withLock, hs, hdata, processResponse_of_used hused, reportErrors, locks,
      List.filterMap_cons, Effect.lockEvent, guarded]

theorem locks_handOver (depth : ℕ) (client : Client) (buffer : List UInt8) (nested : List Report) :
    locks (handOver x depth client buffer nested) = guarded client.id [] := by
  unfold handOver
  cases client.session <;> simp [locks, List.filterMap_cons, Effect.lockEvent, guarded]

theorem locks_report (report : Report) :
    locks (sendGenericErrorMessage x 0 report s).effects = [] ∨
      ∃ client, ReportsTo s client ∧ locks (sendGenericErrorMessage x 0 report s).effects = guarded client [] := by
  by_cases hh : ∃ client buffer, Hands s report client buffer
  · obtain ⟨client, buffer, hh⟩ := hh
    obtain ⟨nested, hcall⟩ := effects_of_hands x 0 hh
    refine .inr ⟨client.id, ⟨hh.1, hh.2.1, by simp [hh.2.2.1]⟩, ?_⟩
    rw [hcall]
    exact locks_handOver 0 client buffer nested
  · obtain ⟨s', hcall⟩ := effects_of_not_hands x 0 fun client buffer hh' => hh ⟨client, buffer, hh'⟩
    rw [hcall]
    exact .inl rfl

/-- A report whose message can be serialised takes the lock of the client it is handed to. -/
theorem locks_report_of_buffer {client : ClientId} (h : ReportsTo s client) {report : Report} {buffer : List UInt8}
    (hb : report.buffer = some buffer) :
    locks (sendGenericErrorMessage x 0 report s).effects = guarded client [] := by
  obtain ⟨hsupport, hflag, hclient⟩ := h
  obtain ⟨c, hc, rfl⟩ := Option.map_eq_some_iff.mp hclient
  obtain ⟨nested, hcall⟩ := effects_of_hands x 0 ⟨hsupport, hflag, hc, hb⟩
  rw [hcall]
  exact locks_handOver 0 c buffer nested

end

/-- **When logging under the lock is safe**: whatever becomes of the reports, the thread never tries
to take a lock it holds, exactly if the request is answered or no error is reported to the
client itself. -/
theorem noSelfDeadlock_iff (x : World) (s : Reporter) (c : Client) (response : ResponseMessage)
    (request : RequestMessage) (error : ErrorContainer) :
    (∀ reportOf, NoSelfDeadlock x reportOf s c response request error) ↔
      ¬ (Unanswered x c request error ∧ ReportsTo s c.id) := by
  by_cases hu : Unanswered x c request error
  · constructor
    · rintro h ⟨-, hr⟩
      -- a report that is serialised wants the lock that is held
      have hlock := h fun _ => .mk [] (some []) true ⟨[]⟩ []
      obtain ⟨error', hlocks⟩ := locks_of_unanswered response hu
      rw [NoSelfDeadlock, hlocks, noRelock_guarded, locks_report_of_buffer hr rfl, noRelock_guarded] at hlock
      exact hlock.2.1 List.mem_cons_self
    · intro h reportOf
      obtain ⟨error', hlocks⟩ := locks_of_unanswered response hu
      rw [NoSelfDeadlock, hlocks, noRelock_guarded]
      refine ⟨List.not_mem_nil, ?_⟩
      rcases locks_report (reportOf error') with hnone | ⟨client, hr, hone⟩
      · rw [hnone]
        trivial
      · rw [hone, noRelock_guarded]
        refine ⟨fun hmem => ?_, trivial⟩
        rw [List.mem_singleton] at hmem
        exact h ⟨hu, hmem ▸ hr⟩
  · refine ⟨fun _ h => hu h.1, fun _ reportOf => ?_⟩
    rw [NoSelfDeadlock, locks_of_answered response hu, noRelock_guarded]
    exact ⟨List.not_mem_nil, trivial⟩

/-- The client of shiori. -/
def shioriClient : Client := ⟨0, str "shiori", str "127.0.0.1", 1337, some 0⟩

/-- A request to shiori that is not answered is reported to shiori, under the lock. -/
theorem not_noSelfDeadlock_shiori :
    ¬ NoSelfDeadlock literalWorld (fun _ => .mk [] (some []) true ⟨[]⟩ []) ⟨true, some shioriClient, false⟩
      shioriClient ⟨false, 0, []⟩ ⟨str "v1/test", 2, str "\x7b\x7d"⟩ ⟨[]⟩ := by
  unfold NoSelfDeadlock
  decide

end HanamiNetwork
