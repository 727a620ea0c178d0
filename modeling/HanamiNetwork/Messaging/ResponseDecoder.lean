import HanamiNetwork.Messaging.Client

/-!
# Decoding responses

The client side takes responses apart in `processResponse`, which refuses an empty one and
looks at no other length: it reads a header and as many bytes behind it as the header
announces. What it takes to stay inside the response is that these are there
(`responseSafe_iff`); the peer decides about it.
-/

namespace HanamiNetwork

open HanamiNetwork.Basis

/-- What `processResponse` reads of a response. -/
def responseReads (responseData : DataBuffer) : List Span :=
  if responseData.usedBufferSize = 0 ∨ responseData.data.isNone then [] else (decodeResponse responseData.mem).2

/-- The header and the content it announces are among the used bytes. -/
def ResponseFits (responseData : DataBuffer) : Prop :=
  ResponseHeader.sizeOf + (ResponseHeader.read responseData.mem).messageSize.toNat ≤ responseData.usedBufferSize.toNat

/-- A response is decoded within its bytes, or refused by `processResponse` and by all that call it. -/
structure ResponseSafe (x : World) (responseData : DataBuffer) : Prop where
  /-- Every offset that is read is one of a used byte. -/
  reads : ∀ s ∈ responseReads responseData, ∀ o, s.Touches o → o < responseData.usedBufferSize.toNat
  /-- A response that is too short is refused, and the response object is left as it was. -/
  refused : ¬ ResponseFits responseData → ∀ response error, ∃ error',
    (processResponse response responseData error).value = some (false, response, error')
  /-- So is the request it was the response to, with an internal error. -/
  triggered : ¬ ResponseFits responseData → ∀ c session response request error, c.session = some session →
    (x.sendRequest session (requestMessage x.padding request) error).1 = some responseData →
    ∃ response' error', (triggerSakuraFile x c response request error).value = some (false, response', error') ∧
      response'.success = false ∧ response'.type = x.INTERNAL_SERVER_ERROR_RTYPE

theorem responseReads_empty {responseData : DataBuffer} (h : responseData.usedBufferSize = 0) :
    responseReads responseData = [] :=
  if_pos (.inl h)

theorem responseReads_within {responseData : DataBuffer} (h : ResponseFits responseData) :
    ∀ s ∈ responseReads responseData, s.Within responseData.usedBufferSize.toNat := by
  have h12 : (12 : UInt32).toNat = 12 := rfl
  unfold responseReads
  split_ifs
  · exact fun s hs => absurd hs List.not_mem_nil
  · simp only [ResponseFits, ResponseHeader.sizeOf] at h
    simp only [decodeResponse, List.forall_mem_cons, Span.Within, ResponseHeader.sizeOf]
    refine ⟨.inr ?_, ?_, ?_, ?_, fun _ hs => absurd hs List.not_mem_nil⟩
    · exact h
    all_goals omega

theorem triggerSakuraFile_refused {x : World} {c : Client} {session : SessionId} {response : ResponseMessage}
    {request : RequestMessage} {error : ErrorContainer} {responseData : DataBuffer} (hc : c.session = some session)
    (hr : (x.sendRequest session (requestMessage x.padding request) error).1 = some responseData)
    (h : responseData.usedBufferSize = 0) :
    ∃ response' error', (triggerSakuraFile x c response request error).value = some (false, response', error') ∧
      response'.success = false ∧ response'.type = x.INTERNAL_SERVER_ERROR_RTYPE := by
  obtain ⟨error', hcreate⟩ : ∃ error', (createRequest x session response request error).value =
      some (false, response, error') := by
    simp only [createRequest, hr, processResponse_empty (.inl h)]
    exact ⟨_, rfl⟩
  refine ⟨{ response with success := false, type := x.INTERNAL_SERVER_ERROR_RTYPE },
    error'.addMeesage (str "Failed to trigger sakura-file."), ?_, rfl, rfl⟩
  rw [triggerSakuraFile, value_withLock, hc]
  simp only [Traced.value_bind, hcreate, Option.bind_some]
  rfl

/-- **When the client-side decoder stays inside the response**: exactly if the response is empty, or holds
what its header announces. -/
theorem responseSafe_iff (x : World) (responseData : DataBuffer) :
    ResponseSafe x responseData ↔ responseData.usedBufferSize = 0 ∨ ResponseFits responseData := by
  constructor
  · intro h
    by_contra hnot
    obtain ⟨hused, hfits⟩ := not_or.mp hnot
    obtain ⟨error', hrefused⟩ := h.refused hfits x.initialResponse ⟨[]⟩
    rw [processResponse_of_used hused] at hrefused
    cases hrefused
  · rintro (hempty | hfits)
    · refine ⟨fun s hs => ?_, fun _ response error => ?_, fun _ c session response request error hc hr => ?_⟩
      · rw [responseReads_empty hempty] at hs
        cases hs
      · rw [processResponse_empty (.inl hempty)]
        exact ⟨_, rfl⟩
      · exact triggerSakuraFile_refused hc hr hempty
    · exact ⟨fun s hs => (Span.within_iff s _).mp (responseReads_within hfits s hs), fun h => absurd hfits h,
        fun h => absurd hfits h⟩

/-- A response of four bytes, with zeros behind them. -/
def truncatedResponse : DataBuffer := ⟨some fun _ => 0, 4, fun _ => rfl⟩

/-- The truncated response is accepted. -/
theorem not_responseSafe_truncatedResponse : ¬ ResponseSafe literalWorld truncatedResponse := by
  intro h
  have hshort : ¬ ResponseFits truncatedResponse := fun h => absurd (Nat.le_of_add_right_le h) (by decide)
  obtain ⟨error', hrefused⟩ := h.refused hshort literalWorld.initialResponse ⟨[]⟩
  rw [processResponse_of_used (by decide)] at hrefused
  cases hrefused

end HanamiNetwork
