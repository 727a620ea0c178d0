import HanamiNetwork.Basis.Run
import HanamiNetwork.Messaging.Client

/-!
# Reporting errors to shiori

`sendGenericErrorMessage` (`hanami_messaging.cpp`), which is called for every error that is
logged, and hands it to the client of shiori. Sending can go wrong and log errors itself;
the flag `m_whileSendError` is there to stop that from coming back here.

A `Report` is one call with everything that is not up to the code: what serialising gives,
what the send returns, and the errors that are logged inside the send, each of which is
a report of its own. `neverSilenced_iff` says which runs of calls keep the flag down.
-/

namespace HanamiNetwork

open HanamiNetwork.Basis

/-- A call of `sendGenericErrorMessage`, and how it goes. -/
inductive Report where
  /-- `errorMessage`, the bytes that serialising gives, the value and the error container
  of the send, and the errors that are logged inside it. -/
  | mk (errorMessage : Str) (buffer : Option (List UInt8)) (sent : Bool) (error : ErrorContainer)
    (nested : List Report)

/-- What serialising the message gives. -/
def Report.buffer : Report → Option (List UInt8)
  | mk _ buffer _ _ _ => buffer

/-- What the function reads and writes. -/
structure Reporter where
  /-- `support[SHIORI]`. -/
  supportShiori : Bool
  /-- `shioriClient`. -/
  shioriClient : Option Client
  /-- `m_whileSendError`. -/
  whileSendError : Bool

section

variable (x : World)

mutual

/-- `sendGenericErrorMessage`, from inside `depth` calls of itself. -/
def sendGenericErrorMessage (depth : ℕ) : Report → Reporter → Traced Effect Reporter
  | .mk _ buffer sent sendError nested, s => do
    Traced.emit (.genericErrorMessage depth)
    if s.supportShiori = false then return s
    else if s.whileSendError = true then return s
    else
      let s := { s with whileSendError := true }
      match s.shioriClient with
      | none => return s
      | some client =>
        match buffer with
        | none => return { s with whileSendError := false }
        | some buffer => do
          let (ret, _, s) ← sendGenericMessage x client x.SHIORI_ERROR_LOG_MESSAGE_TYPE buffer ⟨[]⟩ s
            fun _ _ _ s => do
              let s ← handleErrorCallbacks (depth + 1) nested s
              return (sent, sendError, s)
          if ret = false then return { s with whileSendError := false }
          else return { s with whileSendError := false }

/-- `handleErrorCallback`, for one logged error after the other. -/
def handleErrorCallbacks (depth : ℕ) : List Report → Reporter → Traced Effect Reporter
  | [], s => return s
  | report :: reports, s => do
    let s ← sendGenericErrorMessage depth report s
    handleErrorCallbacks depth reports s

end

/-! ### What a call does -/

variable {x} {depth : ℕ} {s : Reporter}

theorem sendGenericErrorMessage_of_raised (h : s.whileSendError = true) (report : Report) :
    sendGenericErrorMessage x depth report s = ⟨[.genericErrorMessage depth], some s⟩ := by
  cases report
  ext <;> simp [sendGenericErrorMessage, h]

theorem handleErrorCallbacks_of_raised (h : s.whileSendError = true) (reports : List Report) :
    handleErrorCallbacks x depth reports s = ⟨reports.map fun _ => .genericErrorMessage depth, some s⟩ := by
  induction reports with
  | nil => rfl
  | cons report reports ih =>
    rw [handleErrorCallbacks, sendGenericErrorMessage_of_raised h, Traced.bind_of_value rfl, ih]
    rfl

/-- The trace of a message that is handed over, with the errors that are logged on the way. -/
def handOver (x : World) (depth : ℕ) (client : Client) (buffer : List UInt8) (nested : List Report) : List Effect :=
  .genericErrorMessage depth :: .genericMessage client.id x.SHIORI_ERROR_LOG_MESSAGE_TYPE buffer ::
    .lock client.id ::
      ((client.session.elim [] fun session =>
        .sendNormalMessage session (genericMessage x.padding x.SHIORI_ERROR_LOG_MESSAGE_TYPE buffer) ::
          nested.map fun _ => .genericErrorMessage (depth + 1)) ++ [.unlock client.id])

theorem sendGenericErrorMessage_of_lowered {supportShiori : Bool} {shioriClient : Option Client}
    (errorMessage : Str) (buffer : Option (List UInt8)) (sent : Bool) (error : ErrorContainer)
    (nested : List Report) :
    sendGenericErrorMessage x depth (.mk errorMessage buffer sent error nested)
        ⟨supportShiori, shioriClient, false⟩ =
      match supportShiori, shioriClient, buffer with
      | false, _, _ => ⟨[.genericErrorMessage depth], some ⟨supportShiori, shioriClient, false⟩⟩
      | true, none, _ => ⟨[.genericErrorMessage depth], some ⟨supportShiori, shioriClient, true⟩⟩
      | true, some _, none => ⟨[.genericErrorMessage depth], some ⟨supportShiori, shioriClient, false⟩⟩
      | true, some client, some buffer =>
        ⟨handOver x depth client buffer nested, some ⟨supportShiori, shioriClient, false⟩⟩ := by
  cases supportShiori with
  | false => ext <;> simp [sendGenericErrorMessage]
  | true =>
    cases shioriClient with
    | none => ext <;> simp [sendGenericErrorMessage]
    | some client =>
      cases buffer with
      | none => ext <;> simp [sendGenericErrorMessage]
      | some buffer =>
        -- the errors that are logged inside the send find the flag up
        have hnested : handleErrorCallbacks x (depth + 1) nested ⟨true, some client, true⟩ = _ :=
          handleErrorCallbacks_of_raised rfl nested
        cases hs : client.session with
        | none => ext <;> simp [sendGenericErrorMessage, sendGenericMessage, withLock, hs, handOver]
        | some session =>
          ext <;> simp [sendGenericErrorMessage, sendGenericMessage, withLock, hs, handOver, hnested]

/-- The call hands the bytes to the client. -/
def Hands (s : Reporter) (report : Report) (client : Client) (buffer : List UInt8) : Prop :=
  s.supportShiori = true ∧ s.whileSendError = false ∧ s.shioriClient = some client ∧ report.buffer = some buffer

theorem effects_of_hands (x : World) (depth : ℕ) {report : Report} {client : Client} {buffer : List UInt8}
    (h : Hands s report client buffer) :
    ∃ nested, sendGenericErrorMessage x depth report s = ⟨handOver x depth client buffer nested, some s⟩ := by
  obtain ⟨supportShiori, shioriClient, whileSendError⟩ := s
  obtain ⟨errorMessage, _, sent, error, nested⟩ := report
  obtain ⟨rfl, rfl, rfl, rfl⟩ := h
  exact ⟨nested, sendGenericErrorMessage_of_lowered ..⟩

theorem effects_of_not_hands (x : World) (depth : ℕ) {report : Report}
    (h : ∀ client buffer, ¬ Hands s report client buffer) :
    ∃ s', sendGenericErrorMessage x depth report s = ⟨[.genericErrorMessage depth], some s'⟩ := by
  cases hflag : s.whileSendError with
  | true => exact ⟨s, sendGenericErrorMessage_of_raised hflag report⟩
  | false =>
    obtain ⟨supportShiori, shioriClient, whileSendError⟩ := s
    subst hflag
    obtain ⟨errorMessage, buffer, sent, error, nested⟩ := report
    rw [sendGenericErrorMessage_of_lowered]
    cases supportShiori with
    | false => exact ⟨_, rfl⟩
    | true =>
      cases shioriClient with
      | none => exact ⟨_, rfl⟩
      | some client =>
        cases buffer with
        | none => exact ⟨_, rfl⟩
        | some buffer => exact absurd ⟨rfl, rfl, rfl, rfl⟩ (h client buffer)

/-! ### Runs -/

/-- What happens to the reporter. -/
inductive ReporterEvent where
  /-- `sendGenericErrorMessage` is called. -/
  | call (report : Report)
  /-- `support[SHIORI]` changes. -/
  | setSupport (supportShiori : Bool)
  /-- `shioriClient` changes. -/
  | setClient (shioriClient : Option Client)

/-- The state after an event; a call always returns. -/
def reporterStep (x : World) (s : Reporter) : ReporterEvent → Reporter
  | .call report => (sendGenericErrorMessage x 0 report s).value.getD s
  | .setSupport supportShiori => { s with supportShiori := supportShiori }
  | .setClient shioriClient => { s with shioriClient := shioriClient }

/-- The effect is a call of `sendGenericMessage`. -/
def Effect.isGenericMessage : Effect → Bool
  | .genericMessage _ _ _ => true
  | _ => false

/-- What one call is to do. -/
structure ReportsOnce (x : World) (s : Reporter) (report : Report) : Prop where
  /-- The call returns. -/
  returns : (sendGenericErrorMessage x 0 report s).value.isSome
  /-- With shiori supported and its client there, exactly one message is handed to it. -/
  handed : s.supportShiori = true → ∀ client, s.shioriClient = some client →
    ∀ buffer, report.buffer = some buffer →
    (sendGenericErrorMessage x 0 report s).effects.filter Effect.isGenericMessage =
      [.genericMessage client.id x.SHIORI_ERROR_LOG_MESSAGE_TYPE buffer]
  /-- Errors logged inside the send do not go deeper than one call. -/
  nested : ∀ depth, .genericErrorMessage depth ∈ (sendGenericErrorMessage x 0 report s).effects → depth ≤ 1

/-- The flag is down before and after every call, and every call does what it is to do. -/
structure NeverSilenced (x : World) (s : Reporter) (es : List ReporterEvent) : Prop where
  /-- The flag is down. -/
  lowered : Throughout (reporterStep x) (fun s => s.whileSendError = false) s es
  /-- Calls report once. -/
  reports : Along (reporterStep x) (fun s e => ∀ report, e = .call report → ReportsOnce x s report) s es

/-- An event is no call that finds shiori supported and its client null. -/
def ClientReady (s : Reporter) (e : ReporterEvent) : Prop :=
  ∀ report, e = .call report → s.supportShiori = true → s.shioriClient ≠ none

theorem filter_handOver (client : Client) (buffer : List UInt8) (nested : List Report) :
    (handOver x depth client buffer nested).filter Effect.isGenericMessage =
      [.genericMessage client.id x.SHIORI_ERROR_LOG_MESSAGE_TYPE buffer] := by
  unfold handOver
  cases client.session <;> simp [List.filter_cons, Effect.isGenericMessage]

theorem depth_handOver {client : Client} {buffer : List UInt8} {nested : List Report} {d : ℕ}
    (h : .genericErrorMessage d ∈ handOver x depth client buffer nested) : d = depth ∨ d = depth + 1 := by
  unfold handOver at h
  cases hs : client.session with
  | none =>
    simp only [hs, Option.elim_none, List.nil_append, List.mem_cons, List.not_mem_nil, Effect.genericErrorMessage.injEq,
      reduceCtorEq, or_false] at h
    exact .inl h
  | some session =>
    simp only [hs, Option.elim_some, List.cons_append, List.mem_cons, List.mem_append, List.mem_map, List.not_mem_nil,
      Effect.genericErrorMessage.injEq, reduceCtorEq, false_or, or_false] at h
    rcases h with h | ⟨_, _, h⟩
    · exact .inl h
    · exact .inr h.symm

/-- **With the flag down, a call reports once.** -/
theorem reportsOnce_of_lowered (h : s.whileSendError = false) (report : Report) : ReportsOnce x s report := by
  by_cases hh : ∃ client buffer, Hands s report client buffer
  · obtain ⟨client, buffer, hh⟩ := hh
    obtain ⟨nested, hcall⟩ := effects_of_hands x 0 hh
    refine ⟨by simp [hcall], fun _ client' hc buffer' hb => ?_, fun d hd => ?_⟩
    · obtain rfl := Option.some_inj.mp (hc.symm.trans hh.2.2.1)
      obtain rfl := Option.some_inj.mp (hb.symm.trans hh.2.2.2)
      rw [hcall]
      exact filter_handOver client' buffer' nested
    · rw [hcall] at hd
      rcases depth_handOver hd with rfl | rfl <;> omega
  · have hnot : ∀ client buffer, ¬ Hands s report client buffer := fun client buffer hh' => hh ⟨client, buffer, hh'⟩
    obtain ⟨s', hcall⟩ := effects_of_not_hands x 0 hnot
    refine ⟨by simp [hcall], fun hs client hc buffer hb => ?_, fun d hd => ?_⟩
    · exact absurd ⟨hs, h, hc, hb⟩ (hnot client buffer)
    · have hd : d = 0 := by simpa [hcall] using hd
      omega

/-- An event keeps the flag down exactly if it is no call that finds the client null. -/
theorem lowered_step_iff (h : s.whileSendError = false) (e : ReporterEvent) :
    (reporterStep x s e).whileSendError = false ↔ ClientReady s e := by
  obtain ⟨supportShiori, shioriClient, whileSendError⟩ := s
  subst h
  cases e with
  | setSupport supportShiori' => simp [reporterStep, ClientReady]
  | setClient shioriClient' => simp [reporterStep, ClientReady]
  | call report =>
    obtain ⟨errorMessage, buffer, sent, error, nested⟩ := report
    rw [reporterStep, sendGenericErrorMessage_of_lowered]
    cases supportShiori with
    | false => simp [ClientReady]
    | true =>
      cases shioriClient with
      | none => simp [ClientReady]
      | some client => cases buffer <;> simp [ClientReady]

end

/-- **When error reporting is never silenced**: the flag stays down, and every call reports once,
exactly if no call is made while shiori is supported and its client is null. -/
theorem neverSilenced_iff (x : World) (supportShiori : Bool) (shioriClient : Option Client)
    (es : List ReporterEvent) :
    NeverSilenced x ⟨supportShiori, shioriClient, false⟩ es ↔
      Along (reporterStep x) ClientReady ⟨supportShiori, shioriClient, false⟩ es := by
  have hiff : Throughout (reporterStep x) (fun s => s.whileSendError = false)
      ⟨supportShiori, shioriClient, false⟩ es ↔ _ :=
    throughout_iff_along (E := fun _ _ => True) (fun _ e hs _ => lowered_step_iff hs e) rfl
      (Along.of_forall (fun _ _ => trivial) _ _)
  constructor
  · exact fun h => hiff.mp h.lowered
  · intro h
    have hlow := hiff.mpr h
    exact ⟨hlow, hlow.along fun s e hs report _ => reportsOnce_of_lowered hs report⟩

/-- A call before the client of shiori exists, the client, and another call. -/
def earlyReport : List ReporterEvent :=
  [.call (.mk (str "early") (some []) true ⟨[]⟩ []), .setClient (some ⟨0, str "shiori", [], 0, some 0⟩),
    .call (.mk (str "late") (some []) true ⟨[]⟩ [])]

/-- The early call leaves the flag up, and the late one hands over nothing. -/
theorem not_neverSilenced_earlyReport : ¬ NeverSilenced literalWorld ⟨true, none, false⟩ earlyReport := by
  intro h
  have hlate := (h.reports.2.2.1 _ rfl).handed rfl _ rfl _ rfl
  exact absurd (congrArg List.length hlate) (by decide)

end HanamiNetwork
