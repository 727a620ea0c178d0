import HanamiNetwork.Blossoms.Blossom
import HanamiNetwork.Messaging.Client

/-!
# Permissions

`checkPermission` and `getPermission` (`permission.cpp`): a token is either only taken
apart, or sent to misaki to be checked; what comes back fills the context of the task.

* `checkPermission_skipped` — what a check that is skipped does: it asks nobody.
* `ofKinds_checkPermission` — what any check leaves behind.
-/

namespace HanamiNetwork

open HanamiNetwork.Basis

/-- `EndpointEntry`. -/
structure EndpointEntry where
  /-- `type`, as a number. -/
  type : UInt32
  /-- `group`. -/
  group : Str
  /-- `name`. -/
  name : Str

/-- What an event finds in `HanamiMessaging::getInstance()` and `SupportedComponents::getInstance()`. -/
structure Controller where
  /-- `m_registeredBlossoms`. -/
  registeredBlossoms : RegisteredBlossoms
  /-- `endpointRules`. -/
  endpointRules : StdMap (Std.ExtTreeMap HttpRequestType EndpointEntry)
  /-- `misakiClient`. -/
  misakiClient : Option Client
  /-- `support[SHIORI]`. -/
  supportShiori : Bool
  /-- `shioriClient`. -/
  shioriClient : Option Client

/-- `mapEndpoint`; the result is what the entry is copied into. -/
def Controller.mapEndpoint (k : Controller) (id : Str) (type : HttpRequestType) : Option EndpointEntry :=
  match k.endpointRules[id]? with
  | none => none
  | some rules => rules[type]?

section

variable (x : World) (k : Controller)

/-- The request that asks misaki for a token. -/
def authRequest (token : Str) : RequestMessage :=
  { id := str "v1/auth"
    httpType := x.GET_TYPE
    inputValues := str "\x7b\"token\":\"" ++ token ++ str "\"\x7d" }

/-- `getPermission`; the item is the parsed result, if there is one. -/
def getPermission (token : Str) (r : Refs) : Traced Effect (Option JsonItem × Refs) :=
  match k.misakiClient with
  | none =>
    return (none, (r.setCode x.INTERNAL_SERVER_ERROR_RTYPE.toUInt64).addMeesage
      (str "Misaki is not correctly initilized."))
  | some misakiClient => do
    let (ret, responseMsg, error) ← triggerSakuraFile x misakiClient x.initialResponse (authRequest x token) r.error
    let r := { r with error := error }
    if ret = false then
      return (none, (r.setCode x.INTERNAL_SERVER_ERROR_RTYPE.toUInt64).addMeesage
        (str "Unable send validation for token-request."))
    else if responseMsg.type = x.UNAUTHORIZED_RTYPE ∨ responseMsg.success = false then
      let r := (r.setCode responseMsg.type.toUInt64).setMessage responseMsg.responseContent
      return (none, r.addMeesage responseMsg.responseContent)
    else
      match x.parse responseMsg.responseContent r.error with
      | (none, error) =>
        return (none, ({ r with error := error }.setCode x.INTERNAL_SERVER_ERROR_RTYPE.toUInt64).addMeesage
          (str "Unable to parse auth-reponse."))
      | (some parsedResult, error) => return (some parsedResult, { r with error := error })

/-- The context that is filled with a parsed result and the token. -/
def fillContext (token : Str) (parsedResult : JsonItem) : Option DataMap :=
  parsedResult.toMap.map fun context => context.insert (str "token") (some (.value (.string token))) false

/-- `checkPermission`. -/
def checkPermission (context : DataMap) (token : Str) (skipPermission : Bool) (r : Refs) :
    Traced Effect (Bool × DataMap × Refs) :=
  if skipPermission = true then
    if token = [] then return (true, context, r)
    else
      match x.getJwtTokenPayload token r.error with
      | (none, error) => return (false, context, { r with error := error }.setCode x.BAD_REQUEST_RTYPE.toUInt64)
      | (some parsedResult, error) => do
        let context ← Traced.ofOption (fillContext token parsedResult)
        return (true, context, { r with error := error })
  else
    if token = [] then
      let r := (r.setCode x.BAD_REQUEST_RTYPE.toUInt64).setMessage
        (str "Token is required but missing in the request.")
      return (false, context, r.addMeesage (str "Token is missing in request"))
    else do
      let (parsedResult, r) ← getPermission x k token r
      match parsedResult with
      | none => return (false, context, r.setCode x.UNAUTHORIZED_RTYPE.toUInt64)
      | some parsedResult => do
        let context ← Traced.ofOption (fillContext token parsedResult)
        return (true, context, r)

end

/-- The context of a check that is skipped, if it passes. -/
def skippedContext (x : World) (context : DataMap) (token : Str) (error : ErrorContainer) : Option DataMap :=
  if token = [] then some context
  else (x.getJwtTokenPayload token error).1.bind (fillContext token)

/-- A check that is skipped asks nobody, and passes if there is no token or its payload is a map. -/
theorem checkPermission_skipped (x : World) (k : Controller) (context : DataMap) (token : Str) (r : Refs) :
    (checkPermission x k context token true r).effects = [] ∧
      ∀ context', (∃ r', (checkPermission x k context token true r).value = some (true, context', r')) ↔
        skippedContext x context token r.error = some context' := by
  unfold checkPermission skippedContext
  by_cases ht : token = []
  · simp [ht]
  · obtain ⟨⟨item, error⟩, hp⟩ : ∃ p, x.getJwtTokenPayload token r.error = p := ⟨_, rfl⟩
    cases item with
    | none => simp [ht, hp]
    | some item => cases hf : fillContext token item <;> simp [ht, hp, hf]

theorem ofKinds_getPermission (x : World) (k : Controller) (token : Str) (r : Refs) :
    OfKinds [.log, .lock, .request] (getPermission x k token r) := by
  unfold getPermission
  split
  · exact Traced.emits_pure _
  · refine (ofKinds_triggerSakuraFile x _ _ _ _).bind fun ⟨ret, responseMsg, error⟩ => ?_
    dsimp only
    split_ifs
    · exact Traced.emits_pure _
    · exact Traced.emits_pure _
    · split <;> exact Traced.emits_pure _

theorem ofKinds_checkPermission (x : World) (k : Controller) (context : DataMap) (token : Str)
    (skipPermission : Bool) (r : Refs) :
    OfKinds [.log, .lock, .request] (checkPermission x k context token skipPermission r) := by
  unfold checkPermission
  split_ifs
  · exact Traced.emits_pure _
  · split
    · exact Traced.emits_pure _
    · exact (Traced.emits_ofOption _).bind fun _ => Traced.emits_pure _
  · exact Traced.emits_pure _
  · refine (ofKinds_getPermission x k token r).bind fun ⟨parsedResult, r⟩ => ?_
    dsimp only
    split
    · exact Traced.emits_pure _
    · exact (Traced.emits_ofOption _).bind fun _ => Traced.emits_pure _

end HanamiNetwork
