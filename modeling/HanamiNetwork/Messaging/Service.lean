import HanamiNetwork.Messaging.Gate

/-!
# The service behind the messages

What the server is for, said without sessions, blocker-ids, queues and buffers: a request
has a response (`serve`), or brings the server down. `MessagingEvent` refines this:

* `value_processEvent_eq`, `responses_processEvent_eq` — an event is processed to its end exactly
  if its request is served; it then sends the response, once, to where the event came from, and
  sends no other.
* `success_of_serve` — a response that is served is one of success exactly if all stages
  succeed, and then holds the output.
-/

namespace HanamiNetwork

open HanamiNetwork.Basis

theorem OfKinds.filter_eq_nil {α : Type} {kinds : List EffectKind} {p : Traced Effect α} (h : OfKinds kinds p)
    {kind : EffectKind} (hk : kind ∉ kinds) : p.effects.filter (fun e => e.kind = kind) = [] := by
  refine Traced.Emits.filter_eq_nil (Traced.Emits.mono (fun e he => decide_eq_false fun heq => ?_) h)
  exact hk (heq ▸ he)

/-- What the server makes of a request before it looks at the size: the response, unless it crashes. -/
def compose (x : World) (k : Controller) (request : RequestMessage) : Option ResponseMessage :=
  match x.parse request.inputValues ⟨[]⟩ with
  | (none, error) => some ⟨false, x.BAD_REQUEST_RTYPE, x.errorToString error⟩
  | (some inputValues, error) =>
    match k.mapEndpoint request.id request.httpType with
    | none => some ⟨false, x.NOT_IMPLEMENTED_RTYPE, x.errorToString (error.addMeesage
        (str "endpoint not found for id " ++ request.id ++ str " and type " ++
          str (toString request.httpType.toNat)))⟩
    | some entry =>
      let token := MessagingEvent.token x inputValues
      if token ≠ [] ∧ (x.getJwtTokenPayload token error).1 = none then
        some ⟨false, x.UNAUTHORIZED_RTYPE, x.initialStatus.errorMessage⟩
      else do
        let (context, r) ← MessagingEvent.accepted x token ⟨x.initialStatus, error⟩
        let content ← (if request.id ≠ str "v1/auth" then inputValues.remove (str "token") else inputValues).content
        let outcome ←
          (triggerBlossom x.toLibs k.registeredBlossoms .empty entry.name entry.group context content.toMap r).value
        some (MessagingEvent.outcomeResponse x outcome)

/-- What the server makes of a request: the response, unless it crashes. -/
def serve (x : World) (k : Controller) (request : RequestMessage) : Option ResponseMessage :=
  (compose x k request).filter (·.Fits)

theorem fits_of_serve {x : World} {k : Controller} {request : RequestMessage} {response : ResponseMessage}
    (h : serve x k request = some response) : response.Fits :=
  of_decide_eq_true (Option.filter_eq_some_iff.mp h).2

namespace MessagingEvent

/-- The request of an event. -/
def request (ev : MessagingEvent) : RequestMessage := ⟨ev.targetId, ev.httpType, ev.inputValues⟩

/-- The event a request becomes on a session. -/
def ofRequest (request : RequestMessage) (session : SessionId) (blockerId : UInt64) : MessagingEvent :=
  ⟨request.httpType, request.id, request.inputValues, session, blockerId⟩

@[simp] theorem request_ofRequest (request : RequestMessage) (session : SessionId) (blockerId : UInt64) :
    (ofRequest request session blockerId).request = request := rfl

variable (x : World) (k : Controller) (ev : MessagingEvent)

/-- The response to an event is the one to its request. -/
theorem reply_eq_compose : ev.reply x k = compose x k ev.request := by
  obtain ⟨⟨item, error⟩, hp⟩ : ∃ p, x.parse ev.inputValues ⟨[]⟩ = p := ⟨_, rfl⟩
  cases item with
  | none => simp only [reply, compose, request, hp]
  | some inputValues =>
    cases he : k.mapEndpoint ev.targetId ev.httpType with
    | none => simp only [reply, compose, request, hp, he]
    | some entry =>
      simp only [reply, compose, request, hp, he]
      have hrefused : (token x inputValues ≠ [] ∧ (x.getJwtTokenPayload (token x inputValues) error).1 = none) ↔
          ¬ TokenParses x (token x inputValues) error := by
        rw [TokenParses, not_or, Option.not_isSome_iff_eq_none]
      by_cases hparses : TokenParses x (token x inputValues) error
      · rw [if_neg (mt hrefused.mp (not_not.mpr hparses)), value_trigger_of_parses k ev .empty entry hparses]
        simp only [Option.map_eq_bind, Option.bind_assoc]
        rfl
      · -- the message of the status is the one it started with
        obtain ⟨r', hmessage, hv⟩ := value_trigger_of_not_parses (r := ⟨x.initialStatus, error⟩) k ev .empty entry
          hparses
        rw [if_pos (hrefused.mpr hparses), hv]
        simp [outcomeResponse, Refs.setCode, hmessage]

theorem value_processEvent_eq : (ev.processEvent x k).value.isSome = (serve x k ev.request).isSome := by
  rw [(processEvent_reply x k ev).1, reply_eq_compose, serve]

/-- **The response of the service is what is sent**, once and to where the event came from. -/
theorem responses_processEvent_eq : (ev.processEvent x k).effects.filter (fun e => e.kind = .response) =
    ((serve x k ev.request).map (ev.answer x)).toList := by
  rw [(processEvent_reply x k ev).2, reply_eq_compose, serve]

theorem success_of_serve {response : ResponseMessage} (hs : serve x k ev.request = some response) :
    (response.success = true ↔ ∃ output, ev.Succeeds x k output) ∧
      ∀ output, ev.Succeeds x k output → response.responseContent = x.mapToString output false := by
  rw [serve, ← reply_eq_compose] at hs
  exact success_of_reply (Option.filter_eq_some_iff.mp hs).1

end MessagingEvent

end HanamiNetwork
