import HanamiNetwork.Messaging.Gate

/-!
# Which error code reaches the caller

`getPermission`, `checkPermission`, `triggerBlossom` and `trigger` write to the same status
on their ways out, and `processEvent` sends what is left there. `FailedStage` lists the
stages and the code each of them records.

* The codes of the validations and of the task stay as they are (`code_of_failedStage`).
* The code of the token's payload is replaced by `trigger`, and an unknown blossom records
  none, so that the response shows a fresh status. `keepsErrorCode_iff` says that nothing
  else goes wrong with the responses that are sent; one whose text is too long is not.

The codes around misaki would be replaced as well (`code_of_refused`), but no event asks
misaki (`skipPermission_eq_true`).
-/

namespace HanamiNetwork

open HanamiNetwork.Basis

/-- A check that asks misaki replaces the code of whatever went wrong. -/
theorem code_of_refused {x : World} {k : Controller} {context context' : DataMap} {token : Str} {r r' : Refs}
    (ht : token ≠ []) (h : (checkPermission x k context token false r).value = some (false, context', r')) :
    r'.status.statusCode = x.UNAUTHORIZED_RTYPE.toUInt64 := by
  cases hg : (getPermission x k token r).value with
  | none => simp [checkPermission, ht, hg] at h
  | some reply =>
    obtain ⟨parsedResult, r''⟩ := reply
    cases parsedResult with
    | none =>
      simp only [checkPermission, Bool.false_eq_true, if_false, ht, Traced.value_bind, hg, Option.bind_some,
        Traced.value_pure, Option.some.injEq, Prod.mk.injEq, true_and] at h
      rw [← h.2]
      rfl
    | some parsedResult => simp [checkPermission, ht, hg] at h

namespace MessagingEvent

variable (x : World) (k : Controller) (ev : MessagingEvent)

section

variable (inputValues : JsonItem) (entry : EndpointEntry) (r : Refs)

/-- The stages an event can fail in once its endpoint is known, each with the status code it records. -/
inductive FailedStage : UInt64 → Prop where
  /-- There is no token to check. -/
  | tokenMissing (hs : ev.skipPermission x = false) (ht : token x inputValues = []) :
      FailedStage x.BAD_REQUEST_RTYPE.toUInt64
  /-- The token is not checked, but its payload is not parsed. -/
  | payloadUnparsable (hs : ev.skipPermission x = true) (hp : ¬ TokenParses x (token x inputValues) r.error) :
      FailedStage x.BAD_REQUEST_RTYPE.toUInt64
  /-- There is no client for misaki. -/
  | misakiMissing (hs : ev.skipPermission x = false) (ht : token x inputValues ≠ []) (hm : k.misakiClient = none) :
      FailedStage x.INTERNAL_SERVER_ERROR_RTYPE.toUInt64
  /-- Misaki is not reached. -/
  | misakiUnreachable {client : Client} {responseMsg : ResponseMessage} {error : ErrorContainer}
      (hs : ev.skipPermission x = false) (ht : token x inputValues ≠ []) (hm : k.misakiClient = some client)
      (hr : (triggerSakuraFile x client x.initialResponse (authRequest x (token x inputValues)) r.error).value =
        some (false, responseMsg, error)) : FailedStage x.INTERNAL_SERVER_ERROR_RTYPE.toUInt64
  /-- Misaki rejects the token. -/
  | misakiRejects {client : Client} {responseMsg : ResponseMessage} {error : ErrorContainer}
      (hs : ev.skipPermission x = false) (ht : token x inputValues ≠ []) (hm : k.misakiClient = some client)
      (hr : (triggerSakuraFile x client x.initialResponse (authRequest x (token x inputValues)) r.error).value =
        some (true, responseMsg, error))
      (hn : responseMsg.type = x.UNAUTHORIZED_RTYPE ∨ responseMsg.success = false) :
      FailedStage responseMsg.type.toUInt64
  /-- The answer of misaki is not parsed. -/
  | misakiUnparsable {client : Client} {responseMsg : ResponseMessage} {error : ErrorContainer}
      (hs : ev.skipPermission x = false) (ht : token x inputValues ≠ []) (hm : k.misakiClient = some client)
      (hr : (triggerSakuraFile x client x.initialResponse (authRequest x (token x inputValues)) r.error).value =
        some (true, responseMsg, error))
      (hn : ¬ (responseMsg.type = x.UNAUTHORIZED_RTYPE ∨ responseMsg.success = false))
      (hp : (x.parse responseMsg.responseContent error).1 = none) :
      FailedStage x.INTERNAL_SERVER_ERROR_RTYPE.toUInt64
  /-- The input is not complete, or its values do not pass. -/
  | inputRefused {context values : DataMap} {r' : Refs} {b : Blossom}
      (hreach : Reaches x k ev entry context values r')
      (hb : getBlossom k.registeredBlossoms entry.group entry.name = some b)
      (h : b.inputComplete values ≠ .passed ∨ b.inputCheck x.toLibs values ≠ .passed) : FailedStage 400
  /-- The task returns false. -/
  | taskFailed {context values : DataMap} {r' : Refs} {b : Blossom} {t : TaskResult}
      (hreach : Reaches x k ev entry context values r')
      (hb : getBlossom k.registeredBlossoms entry.group entry.name = some b)
      (hc : b.inputComplete values = .passed) (hi : b.inputCheck x.toLibs values = .passed)
      (ht : b.task entry.name entry.group context values r' = t) (hret : t.ret = false) :
      FailedStage t.refs.status.statusCode
  /-- The output values do not pass, or the output is not complete. -/
  | outputRefused {context values output : DataMap} {r' : Refs} {b : Blossom} {t : TaskResult}
      (hreach : Reaches x k ev entry context values r')
      (hb : getBlossom k.registeredBlossoms entry.group entry.name = some b)
      (hc : b.inputComplete values = .passed) (hi : b.inputCheck x.toLibs values = .passed)
      (ht : b.task entry.name entry.group context values r' = t) (hret : t.ret = true)
      (ho : t.leaf.output.toMap = some output)
      (h : b.outputCheck x.toLibs output ≠ .passed ∨ b.outputComplete output ≠ .passed) : FailedStage 500

/-- The response carries the code of the stage that failed. -/
structure CarriesCode (response : ResponseMessage) : Prop where
  /-- A stage that failed has recorded a code. -/
  recorded : ∃ code, FailedStage x k ev inputValues entry r code
  /-- It is the type of the response. -/
  kept : ∀ code, FailedStage x k ev inputValues entry r code → response.type = code.toUInt32
  /-- It is not what a status starts with. -/
  written : response.type ≠ x.initialStatus.statusCode.toUInt32

end

/-- Every answer of failure after the endpoint lookup carries the code of the stage that failed. -/
def KeepsErrorCode : Prop :=
  ∀ inputValues error entry, x.parse ev.inputValues ⟨[]⟩ = (some inputValues, error) →
    k.mapEndpoint ev.targetId ev.httpType = some entry →
    ∀ session response message blockerId,
      .sendResponse session response message blockerId ∈ (ev.processEvent x k).effects → response.success = false →
      CarriesCode x k ev inputValues entry ⟨x.initialStatus, error⟩ response

/-- The token is missing or its payload is parsed, the blossom is known, and its task, if it fails with a message
that can be sent, sets a code. -/
def CodesWritten : Prop :=
  ∀ inputValues error entry, x.parse ev.inputValues ⟨[]⟩ = (some inputValues, error) →
    k.mapEndpoint ev.targetId ev.httpType = some entry →
    TokenParses x (token x inputValues) error ∧
    ∀ context r, accepted x (token x inputValues) ⟨x.initialStatus, error⟩ = some (context, r) →
      (ev.withoutToken inputValues).content.isSome →
      ∃ b, getBlossom k.registeredBlossoms entry.group entry.name = some b ∧
        ∀ values, (ev.withoutToken inputValues).toMap = some values → b.inputComplete values = .passed →
          b.inputCheck x.toLibs values = .passed →
          ∀ t, b.task entry.name entry.group context values r = t → t.ret = false →
            ResponseHeader.sizeOf + t.refs.status.errorMessage.length < 2 ^ 32 →
            t.refs.status.statusCode.toUInt32 ≠ x.initialStatus.statusCode.toUInt32

/-- What is taken for granted of the numbers and of a fresh status: the numbers of the enumeration differ, and the
status has none of the codes of the validations, and no message that could not be sent. -/
structure DistinctCodes : Prop where
  /-- `UNAUTHORIZED_RTYPE` is not `BAD_REQUEST_RTYPE`. -/
  unauthorized : x.UNAUTHORIZED_RTYPE ≠ x.BAD_REQUEST_RTYPE
  /-- A fresh status does not say that the input is at fault. -/
  input : x.initialStatus.statusCode.toUInt32 ≠ 400
  /-- It does not say that the output is at fault. -/
  output : x.initialStatus.statusCode.toUInt32 ≠ 500
  /-- Its message fits into a response. -/
  message : ResponseHeader.sizeOf + x.initialStatus.errorMessage.length < 2 ^ 32

variable {x k ev}

section

variable {inputValues : JsonItem} {error : ErrorContainer} {entry : EndpointEntry}
/-- A known blossom that fails has failed in a stage that recorded a code, which is not that of a fresh status. -/
theorem exists_failedStage (hx : DistinctCodes x) {context values items : DataMap} {r r' : Refs} {b : Blossom}
    (hreach : Reaches x k ev entry context values r)
    (hb : getBlossom k.registeredBlossoms entry.group entry.name = some b)
    (hwritten : b.inputComplete values = .passed → b.inputCheck x.toLibs values = .passed →
      ∀ t, b.task entry.name entry.group context values r = t → t.ret = false →
        ResponseHeader.sizeOf + t.refs.status.errorMessage.length < 2 ^ 32 →
        t.refs.status.statusCode.toUInt32 ≠ x.initialStatus.statusCode.toUInt32)
    (hv : (triggerBlossom x.toLibs k.registeredBlossoms .empty entry.name entry.group context values r).value =
      some (false, items, r')) (hfits : ResponseHeader.sizeOf + r'.status.errorMessage.length < 2 ^ 32) :
    ∃ code, FailedStage x k ev inputValues entry ⟨x.initialStatus, error⟩ code ∧
      code.toUInt32 ≠ x.initialStatus.statusCode.toUInt32 := by
  by_cases hin : b.inputComplete values = .passed ∧ b.inputCheck x.toLibs values = .passed
  · obtain ⟨hc, hi⟩ := hin
    obtain ⟨t, ht⟩ : ∃ t, b.task entry.name entry.group context values r = t := ⟨_, rfl⟩
    cases hret : t.ret with
    | false =>
      rw [(allOrNothing_of_value hv).task rfl b hb hc hi t ht hret] at hfits
      exact ⟨_, .taskFailed hreach hb hc hi ht hret, hwritten hc hi t ht hret hfits⟩
    | true =>
      have hleaves := (isSome_value_triggerBlossom_iff _).mp (Option.isSome_of_eq_some hv)
      obtain ⟨output, ho, hn⟩ := hleaves.2 b hb hc hi t ht hret
      refine ⟨500, .outputRefused hreach hb hc hi ht hret ho ?_, hx.output.symm⟩
      by_contra hpass
      obtain ⟨hout, hoc⟩ : b.outputCheck x.toLibs output = .passed ∧ b.outputComplete output = .passed := by
        simpa [not_or] using hpass
      obtain ⟨r'', hv'⟩ := value_of_stagesPass .empty ⟨b, t, hb, hc, hi, ht, hret, ho, hout, hoc⟩ (hn hout hoc)
      rw [hv] at hv'
      cases hv'
  · exact ⟨400, .inputRefused hreach hb (not_and_or.mp hin), hx.input.symm⟩

variable (hp : x.parse ev.inputValues ⟨[]⟩ = (some inputValues, error))
  (he : k.mapEndpoint ev.targetId ev.httpType = some entry)
include hp

/-- Past the token, the code of the stage that failed is the one that is left. -/
theorem code_of_failedStage (hparses : TokenParses x (token x inputValues) error) {items : DataMap} {r' : Refs}
    (hv : (ev.trigger x k .empty inputValues entry ⟨x.initialStatus, error⟩).value = some (false, items, r'))
    {code : UInt64} (h : FailedStage x k ev inputValues entry ⟨x.initialStatus, error⟩ code) :
    r'.status.statusCode = code := by
  cases h with
  | tokenMissing hs | misakiMissing hs | misakiUnreachable hs | misakiRejects hs | misakiUnparsable hs =>
    rw [skipPermission_eq_true] at hs
    cases hs
  | payloadUnparsable hs hn => exact absurd hparses hn
  | inputRefused hreach hb h =>
    rw [hreach.value_trigger hp] at hv
    exact (allOrNothing_of_value hv).input rfl _ hb h
  | taskFailed hreach hb hc hi ht hret =>
    rw [hreach.value_trigger hp] at hv
    rw [(allOrNothing_of_value hv).task rfl _ hb hc hi _ ht hret]
  | outputRefused hreach hb hc hi ht hret ho h =>
    rw [hreach.value_trigger hp] at hv
    exact (allOrNothing_of_value hv).output rfl _ hb hc hi _ ht hret _ ho h

include he

theorem reaches_of_accepted (hparses : TokenParses x (token x inputValues) error) {context values : DataMap}
    {r : Refs} (ha : accepted x (token x inputValues) ⟨x.initialStatus, error⟩ = some (context, r))
    (hm : (ev.withoutToken inputValues).toMap = some values) : Reaches x k ev entry context values r := by
  obtain ⟨content, hcontent, hmap⟩ := Option.bind_eq_some_iff.mp hm
  refine ⟨inputValues, error, content, hp, he, ?_, hcontent, hmap.symm⟩
  rw [value_permission_of_parses k ev hparses, ha]
  rfl

end

/-- **When the error code reaches the caller**: exactly if the token is missing or taken apart, the blossom
is known, and a task that fails sets a code. -/
theorem keepsErrorCode_iff (x : World) (k : Controller) (ev : MessagingEvent) (hx : DistinctCodes x) :
    KeepsErrorCode x k ev ↔ CodesWritten x k ev := by
  constructor
  · intro h inputValues error entry hp he
    have hcarries : ∀ items r', (ev.trigger x k .empty inputValues entry ⟨x.initialStatus, error⟩).value =
        some (false, items, r') → ResponseHeader.sizeOf + r'.status.errorMessage.length < 2 ^ 32 →
        CarriesCode x k ev inputValues entry ⟨x.initialStatus, error⟩ (outcomeResponse x (false, items, r')) :=
      fun items r' hv hfits => h inputValues error entry hp he _ _ _ _ (sendResponse_mem_processEvent_iff.mpr
        ⟨by rw [reply_of_endpoint hp he, hv]; rfl, hfits, rfl⟩) rfl
    have hparses : TokenParses x (token x inputValues) error := by
      by_contra hn
      obtain ⟨r', hmessage, hv⟩ :=
        value_trigger_of_not_parses (r := ⟨x.initialStatus, error⟩) k ev .empty entry hn
      have hfits : ResponseHeader.sizeOf + r'.status.errorMessage.length < 2 ^ 32 := hmessage ▸ hx.message
      have hkept := (hcarries _ _ hv hfits).kept _ (.payloadUnparsable (skipPermission_eq_true x ev) hn)
      exact hx.unauthorized (by simpa [outcomeResponse, Refs.setCode] using hkept)
    refine ⟨hparses, fun context r ha hcontent => ?_⟩
    obtain ⟨content, hcontent⟩ := Option.isSome_iff_exists.mp hcontent
    cases hb : getBlossom k.registeredBlossoms entry.group entry.name with
    | none =>
      have hv := value_trigger_of_parses (r := ⟨x.initialStatus, error⟩) k ev .empty entry hparses
      rw [ha, hcontent, Option.bind_some, Option.bind_some, triggerBlossom_noBlossom _ _ _ _ _ _ _ hb] at hv
      have hstatus := status_of_accepted ha
      refine absurd ?_ (hcarries _ _ hv (by simpa [Refs.addMeesage, hstatus] using hx.message)).written
      simp [outcomeResponse, hstatus]
    | some b =>
      refine ⟨b, rfl, fun values hm hc hi t ht hret hfits hcode => ?_⟩
      have hv := (reaches_of_accepted hp he hparses ha hm).value_trigger hp .empty
      rw [triggerBlossom_growFailed hb hc (growBlossom_taskFailed hi ht hret)] at hv
      refine absurd ?_ (hcarries _ _ hv hfits).written
      simpa [outcomeResponse, createErrorOf] using hcode
  · intro h inputValues error entry hp he session response message blockerId hmem hfail
    obtain ⟨hparses, hblossom⟩ := h inputValues error entry hp he
    obtain ⟨hr, hfits, -⟩ := sendResponse_mem_processEvent_iff.mp hmem
    rw [reply_of_endpoint hp he] at hr
    obtain ⟨⟨ret, items, r'⟩, hv, rfl⟩ := Option.map_eq_some_iff.mp hr
    obtain rfl : ret = false := hfail
    obtain ⟨⟨context, r⟩, ha, content, hcontent, hvalue⟩ : ∃ a, accepted x (token x inputValues)
        ⟨x.initialStatus, error⟩ = some a ∧ ∃ content, (ev.withoutToken inputValues).content = some content ∧
          (triggerBlossom x.toLibs k.registeredBlossoms .empty entry.name entry.group a.1 content.toMap a.2).value =
            some (false, items, r') := by
      rw [value_trigger_of_parses k ev .empty entry hparses] at hv
      simpa [Option.bind_eq_some_iff] using hv
    obtain ⟨b, hb, hwritten⟩ := hblossom context r ha (Option.isSome_of_eq_some hcontent)
    cases hm : content.toMap with
    | none =>
      rw [hm, triggerBlossom_null _ _ _ _ _ _ _ hb] at hvalue
      cases hvalue
    | some values =>
      rw [hm] at hvalue
      have hmap : (ev.withoutToken inputValues).toMap = some values :=
        Option.bind_eq_some_iff.mpr ⟨content, hcontent, hm⟩
      obtain ⟨code, hstage, hne⟩ := exists_failedStage hx (reaches_of_accepted hp he hparses ha hmap) hb
        (hwritten values hmap) hvalue hfits
      refine ⟨⟨code, hstage⟩, fun code' hstage' => ?_, ?_⟩
      · rw [← code_of_failedStage hp hparses hv hstage']
        rfl
      · rw [← code_of_failedStage hp hparses hv hstage] at hne
        exact hne

/-- The numbers of the enumeration, and a status that starts with zero. -/
theorem keepsErrorCode_iff_literalWorld :
    KeepsErrorCode literalWorld greeterController greetEvent ↔
      CodesWritten literalWorld greeterController greetEvent :=
  keepsErrorCode_iff literalWorld greeterController greetEvent ⟨by decide, by decide, by decide, by decide⟩

/-- A server whose endpoint has no blossom. -/
def emptyController : Controller := { greeterController with registeredBlossoms := ∅ }

/-- The request is answered with the code of a fresh status. -/
theorem not_keepsErrorCode_unknownBlossom : ¬ KeepsErrorCode literalWorld emptyController greetEvent := by
  intro h
  have hcarries := h (.ofMap .empty) ⟨[]⟩ ⟨0, str "test", str "greet"⟩ rfl mapEndpoint_greeterController
    0 ⟨false, 0, []⟩ _ 7 (.tail _ (.head [])) rfl
  exact hcarries.written rfl

end MessagingEvent

end HanamiNetwork
