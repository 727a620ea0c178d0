import HanamiNetwork.Messaging.Event

/-!
# The gate of torii

Requests that come in over the session of `torii` are meant to be checked by misaki, unless
they are for one of the three endpoints that hand out tokens. The decision is the
expression `skipPermission`, a disjunction of four inequations of which two always hold
(`skipPermission_eq_true`): the check is skipped for every request, and misaki is never asked.

`gated_iff` says what is left of the gate: a task is never run without permission exactly
if it is not run at all. `value_trigger_of_parses` and `value_trigger_of_not_parses` say what
triggering returns in view of this.
-/

namespace HanamiNetwork

open HanamiNetwork.Basis

namespace MessagingEvent

variable (x : World) (k : Controller) (ev : MessagingEvent)

/-- The context comes from the reply of misaki to the request for the token, which was received,
was parsed, and grants the permission. -/
structure Authorised (token : Str) (context : DataMap) (es : List Effect) : Prop where
  /-- There is a token. -/
  nonempty : token ≠ []
  /-- There is such a reply. -/
  reply : ∃ client session data error inputValues error', k.misakiClient = some client ∧
    client.session = some session ∧
    .sendRequest session (requestMessage x.padding (authRequest x token)) (some data) ∈ es ∧
    data.usedBufferSize ≠ 0 ∧
    (decodeResponse data.mem).1.success = true ∧ (decodeResponse data.mem).1.type ≠ x.UNAUTHORIZED_RTYPE ∧
    x.parse (decodeResponse data.mem).1.responseContent error = (some inputValues, error') ∧
    fillContext token inputValues = some context

/-- Every task that is run while the event is triggered is run with permission. -/
def Gated (resultingItems : DataMap) (inputValues : JsonItem) (endpoint : EndpointEntry) (r : Refs) : Prop :=
  ∀ groupName itemName input context,
    .runTask groupName itemName input context ∈ (ev.trigger x k resultingItems inputValues endpoint r).effects →
    Authorised x k (token x inputValues) context (ev.trigger x k resultingItems inputValues endpoint r).effects

/-- The request is refused before its task is run: its token cannot be taken apart, it has no
blossom, or its input does not pass. -/
def RefusedEarly (inputValues : JsonItem) (endpoint : EndpointEntry) (r : Refs) : Prop :=
  ∀ context, skippedContext x .empty (token x inputValues) r.error = some context →
    ∀ values, (ev.withoutToken inputValues).toMap = some values →
    ∀ b, getBlossom k.registeredBlossoms endpoint.group endpoint.name = some b →
    b.inputComplete values ≠ .passed ∨ b.inputCheck x.toLibs values ≠ .passed

/-- No target is all of `v1/auth`, `v1/token` and `v1/token/internal`. -/
theorem skipPermission_eq_true : ev.skipPermission x = true := by
  by_cases h : ev.targetId = str "v1/auth"
  · have hne : ev.targetId ≠ str "v1/token" := by rw [h]; decide
    simp [skipPermission, hne]
  · simp [skipPermission, h]

variable {x k ev}

theorem sendRequest_not_mem_trigger (resultingItems : DataMap) (inputValues : JsonItem) (endpoint : EndpointEntry)
    (r : Refs) (session : SessionId) (message : Message) (reply : Option DataBuffer) :
    .sendRequest session message reply ∉ (ev.trigger x k resultingItems inputValues endpoint r).effects := by
  have hcheck : OfKinds [.log, .lock, .task, .message]
      (checkPermission x k .empty (token x inputValues) (ev.skipPermission x) r) := by
    intro e he
    rw [skipPermission_eq_true, (checkPermission_skipped ..).1] at he
    cases he
  exact (ofKinds_trigger_of_checkPermission (by simp) resultingItems inputValues endpoint r hcheck).not_mem
    (by simp [Effect.kind])

/-- A task is run exactly if the request is not refused before. -/
theorem exists_runTask_iff (resultingItems : DataMap) (inputValues : JsonItem) (endpoint : EndpointEntry) (r : Refs) :
    (∃ groupName itemName input context, .runTask groupName itemName input context ∈
      (ev.trigger x k resultingItems inputValues endpoint r).effects) ↔
    ¬ RefusedEarly x k ev inputValues endpoint r := by
  have hskip := (checkPermission_skipped x k .empty (token x inputValues) r).2
  simp only [runTask_mem_trigger_iff, runTask_mem_triggerBlossom_iff, skipPermission_eq_true]
  constructor
  · rintro ⟨groupName, itemName, input, ctx, context, r', values, hc, hv, rfl, rfl, rfl, b, hb, hcomplete, hcheck,
      rfl⟩ hrefused
    rcases hrefused ctx ((hskip ctx).mp ⟨r', hc⟩) values hv b hb with h | h
    · exact h hcomplete
    · exact h hcheck
  · intro hnot
    simp only [RefusedEarly, not_forall, not_or, not_not] at hnot
    obtain ⟨context, hcontext, values, hv, b, hb, hcomplete, hcheck⟩ := hnot
    obtain ⟨r', hc⟩ := (hskip context).mpr hcontext
    exact ⟨_, _, _, _, context, r', values, hc, hv, rfl, rfl, rfl, b, hb, hcomplete, hcheck, rfl⟩

/-- **What is left of the gate**: no task is run without permission exactly if the request is refused
before its task is run. -/
theorem gated_iff (x : World) (k : Controller) (ev : MessagingEvent) (resultingItems : DataMap)
    (inputValues : JsonItem) (endpoint : EndpointEntry) (r : Refs) :
    Gated x k ev resultingItems inputValues endpoint r ↔ RefusedEarly x k ev inputValues endpoint r := by
  constructor
  · intro h
    by_contra hnot
    obtain ⟨groupName, itemName, input, context, hrun⟩ :=
      (exists_runTask_iff resultingItems inputValues endpoint r).mpr hnot
    obtain ⟨-, _, _, _, _, _, _, -, -, hasked, -⟩ := h groupName itemName input context hrun
    exact sendRequest_not_mem_trigger resultingItems inputValues endpoint r _ _ _ hasked
  · intro h groupName itemName input context hrun
    exact absurd h ((exists_runTask_iff resultingItems inputValues endpoint r).mp
      ⟨groupName, itemName, input, context, hrun⟩)

/-! ### What triggering returns -/

/-- There is no token, or its payload is parsed. -/
def TokenParses (x : World) (token : Str) (error : ErrorContainer) : Prop :=
  token = [] ∨ (x.getJwtTokenPayload token error).1.isSome

/-- The context and the references a blossom is triggered with, if the token is accepted. -/
def accepted (x : World) (token : Str) (r : Refs) : Option (DataMap × Refs) :=
  if token = [] then some (.empty, r)
  else (x.getJwtTokenPayload token r.error).1.bind fun payload =>
    (fillContext token payload).map fun context =>
      (context, { r with error := (x.getJwtTokenPayload token r.error).2 })

theorem status_of_accepted {token : Str} {r r' : Refs} {context : DataMap}
    (h : accepted x token r = some (context, r')) : r'.status = r.status := by
  unfold accepted at h
  split_ifs at h with ht
  · cases h
    rfl
  · obtain ⟨payload, -, h⟩ := Option.bind_eq_some_iff.mp h
    obtain ⟨_, -, h⟩ := Option.map_eq_some_iff.mp h
    cases h
    rfl

section

variable {inputValues : JsonItem} {r : Refs}

/-- A token that cannot be taken apart is refused, and the code of the check is replaced. -/
theorem value_trigger_of_not_parses (k : Controller) (ev : MessagingEvent) (resultingItems : DataMap)
    (endpoint : EndpointEntry) (h : ¬ TokenParses x (token x inputValues) r.error) :
    ∃ r' : Refs, r'.status.errorMessage = r.status.errorMessage ∧
      (ev.trigger x k resultingItems inputValues endpoint r).value =
        some (false, resultingItems, r'.setCode x.UNAUTHORIZED_RTYPE.toUInt64) := by
  obtain ⟨ht, hp⟩ := not_or.mp h
  obtain ⟨⟨item, error⟩, hpay⟩ : ∃ p, x.getJwtTokenPayload (token x inputValues) r.error = p := ⟨_, rfl⟩
  cases item with
  | some item => exact absurd (by simp [hpay]) hp
  | none =>
    refine ⟨{ r with error := error }.setCode x.BAD_REQUEST_RTYPE.toUInt64, rfl, ?_⟩
    simp [trigger, skipPermission_eq_true, checkPermission, ht, hpay]

/-- Any other token is accepted, unless its payload is no map and the call crashes. -/
theorem value_permission_of_parses (k : Controller) (ev : MessagingEvent)
    (h : TokenParses x (token x inputValues) r.error) : (permission x k ev inputValues r).value =
      (accepted x (token x inputValues) r).map fun a => (true, a.1, a.2) := by
  rw [permission, skipPermission_eq_true]
  unfold checkPermission accepted
  by_cases ht : token x inputValues = []
  · simp [ht]
  · obtain ⟨⟨item, error⟩, hpay⟩ : ∃ p, x.getJwtTokenPayload (token x inputValues) r.error = p := ⟨_, rfl⟩
    cases item with
    | none =>
      rcases h with h | h
      · exact absurd h ht
      · simp [hpay] at h
    | some item => cases hf : fillContext (token x inputValues) item <;> simp [ht, hpay, hf]

/-- The blossom is then triggered, unless the input values have no content and the call crashes. -/
theorem value_trigger_of_parses (k : Controller) (ev : MessagingEvent) (resultingItems : DataMap)
    (endpoint : EndpointEntry) (h : TokenParses x (token x inputValues) r.error) :
    (ev.trigger x k resultingItems inputValues endpoint r).value =
      (accepted x (token x inputValues) r).bind fun a => (ev.withoutToken inputValues).content.bind fun content =>
        (triggerBlossom x.toLibs k.registeredBlossoms resultingItems endpoint.name endpoint.group a.1 content.toMap
          a.2).value := by
  have hcheck := value_permission_of_parses k ev h
  cases ha : accepted x (token x inputValues) r with
  | none =>
    rw [ha, permission] at hcheck
    simp [trigger, hcheck]
  | some a =>
    rw [ha] at hcheck
    exact value_trigger_of_permission hcheck resultingItems endpoint

end

/-- A request that comes in over `torii` without a token, for an ordinary endpoint, runs its task. -/
theorem not_gated_greetEvent :
    literalWorld.sessionIdentifier greetEvent.session = str "torii" ∧
      greetEvent.targetId ∉ [str "v1/auth", str "v1/token", str "v1/token/internal"] ∧
      ¬ Gated literalWorld greeterController greetEvent .empty (.ofMap .empty) ⟨0, str "test", str "greet"⟩
        freshRefs := by
  refine ⟨rfl, by decide, fun h => ?_⟩
  exact (h (str "test") (str "greet") (greeter.fillDefaultValues .empty) .empty (.head [])).nonempty (by decide)

end MessagingEvent

end HanamiNetwork
