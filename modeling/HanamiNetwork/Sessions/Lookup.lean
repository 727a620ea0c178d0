import HanamiNetwork.Sessions.Concurrent

/-!
# Clients that were looked up

`getIncomingClient` finds a client under `m_incominglock` and returns its address without it, while
the callbacks of other threads add and remove clients. So the address can be used as long as no
callback has removed the client, and not a moment longer: `lookedUp_run` says which callbacks
these are, for a client that is looked up at any point of any run of callbacks side by side.
-/

namespace HanamiNetwork

open HanamiNetwork.Basis

/-- The client of an incoming session. -/
def HanamiMessaging.getIncomingClient (m : HanamiMessaging) (identifier : Str) : Option Client :=
  m.incomingClients[identifier]?

/-- A callback that removes the client with this name. -/
def SessionEvent.Removes (x : World) (identifier : Str) (e : SessionEvent) : Prop :=
  ∃ closing, e.closing = some closing ∧ x.sessionIdentifier closing.1 = identifier

section

variable {x : World} {m : HanamiMessaging} {identifier : Str} {c : Client}

/-! ### Sections -/

/-- A registered client stays under its name unless the section removes it. -/
theorem getIncomingClient_section {e : SessionEvent} (hc : m.getIncomingClient identifier = some c)
    (he : ¬ e.Removes x identifier) : (callbackSection x m e).1.getIncomingClient identifier = some c := by
  rw [HanamiMessaging.getIncomingClient] at hc ⊢
  cases e with
  | create session outcome =>
    cases hs : m.incomingClients[x.sessionIdentifier session]? with
    | some other => simpa [callbackSection, HanamiMessaging.register, hs] using hc
    | none =>
      have hne : x.sessionIdentifier session ≠ identifier := fun h => by
        rw [h, hc] at hs
        cases hs
      simp [callbackSection, HanamiMessaging.register, hs, Std.ExtTreeMap.getElem?_insert, hne, hc]
  | close session first second | error session _ first second =>
    have hne : x.sessionIdentifier session ≠ identifier := fun h => he ⟨_, rfl, h⟩
    cases hs : m.incomingClients[x.sessionIdentifier session]? with
    | none => simpa [callbackSection, HanamiMessaging.takeOut, hs] using hc
    | some other => simp [callbackSection, HanamiMessaging.takeOut, hs, Std.ExtTreeMap.getElem?_erase, hne, hc]
  | arrive | process => exact hc

theorem deletedClients_section {e : SessionEvent} (hc : m.getIncomingClient identifier = some c)
    (he : e.Removes x identifier) : c.id ∈ deletedClients (callbackSection x m e).2 := by
  obtain ⟨closing, he, rfl⟩ := he
  rw [HanamiMessaging.getIncomingClient] at hc
  cases e with
  | close session first second | error session _ first second =>
    obtain rfl := Option.some.inj he
    simp [callbackSection, HanamiMessaging.takeOut, hc, deletedClients_release]
  | create | arrive | process => cases he

/-! ### Runs -/

/-- A registered client stays under its name as long as no callback removes it. -/
theorem getIncomingClient_inTurn {es : List SessionEvent} (hc : m.getIncomingClient identifier = some c)
    (hes : ∀ e ∈ es, ¬ e.Removes x identifier) :
    (inTurn (callbackSection x) m es).getIncomingClient identifier = some c := by
  induction es generalizing m with
  | nil => exact hc
  | cons e es ih =>
    obtain ⟨he, hes⟩ := List.forall_mem_cons.mp hes
    exact ih (getIncomingClient_section hc he) hes

theorem deletedClients_inTurn {es : List SessionEvent} (hc : m.getIncomingClient identifier = some c)
    (hes : ∃ e ∈ es, e.Removes x identifier) : c.id ∈ deletedClients (workInTurn (callbackSection x) m es) := by
  induction es generalizing m with
  | nil => simp at hes
  | cons e es ih =>
    rw [workInTurn_cons, deletedClients_append, List.mem_append]
    by_cases he : e.Removes x identifier
    · exact .inl (deletedClients_section hc he)
    · refine .inr (ih (getIncomingClient_section hc he) ?_)
      obtain ⟨e', he', hremoves⟩ := hes
      obtain rfl | he' := List.mem_cons.mp he'
      · exact absurd hremoves he
      · exact ⟨e', he', hremoves⟩

/-- No client is deleted while it is registered. -/
theorem not_deleted_of_getIncomingClient {es : List SessionEvent}
    (hc : (inTurn (callbackSection x) System.initial.messaging es).getIncomingClient identifier = some c) :
    c.id ∉ deletedClients (workInTurn (callbackSection x) System.initial.messaging es) := by
  have hnodup : (registered (inTurn (callbackSection x) System.initial.messaging es) ++
      deletedClients (workInTurn (callbackSection x) System.initial.messaging es)).Nodup :=
    (registered_inTurn x es).nodup_iff.mpr List.nodup_range
  refine fun hdeleted => List.disjoint_of_nodup_append hnodup ?_ hdeleted
  exact List.mem_map.mpr ⟨(identifier, c), Std.ExtTreeMap.mem_toList_iff_getElem?_eq_some.mpr hc, rfl⟩

end

/-! ### Side by side -/

section

variable {ι : Type}

/-- The client is not deleted, and no callback that has begun will delete it. -/
def Spared (s : CallbackThreads ι) (client : ClientId) : Prop :=
  client ∉ deletedClients s.trace ∧ ∀ i, client ∉ deletedClients (s.pending i)

/-- What has become of a client that was looked up: `since` are the callbacks that have held the lock since then. -/
structure LookedUp (x : World) (identifier : Str) (c : Client) (since : List (ι × SessionEvent))
    (s : CallbackThreads ι) : Prop where
  /-- It is found again exactly if none of them removes it. -/
  found : s.shared.getIncomingClient identifier = some c ↔ ∀ call ∈ since, ¬ call.2.Removes x identifier
  /-- It can be used exactly if none of them removes it. -/
  spared : Spared s c.id ↔ ∀ call ∈ since, ¬ call.2.Removes x identifier

variable [Fintype ι] [DecidableEq ι]

/-- A client is spared exactly if the callbacks one by one do not delete it. -/
theorem spared_iff {x : World} {program : ι → List SessionEvent} {s : CallbackThreads ι}
    (h : s.Linear (callbackSection x) System.initial.messaging program) (client : ClientId) :
    Spared s client ↔
      client ∉ deletedClients (workInTurn (callbackSection x) System.initial.messaging (s.order.map Prod.snd)) := by
  have hwork : client ∈ (deletedClients s.trace : Multiset ClientId) +
        ∑ i, (deletedClients (s.pending i) : Multiset ClientId) ↔
      client ∈ deletedClients (workInTurn (callbackSection x) System.initial.messaging (s.order.map Prod.snd)) := by
    rw [deletedClients, deletedClients, ← Multiset.mem_coe, ← h.filterMap deletedClient]
    rfl
  rw [← hwork, Multiset.mem_add, Multiset.mem_sum, Spared]
  simp

/-- **How long a client can be used**: if a thread looks it up at any point of a run of callbacks side by side, it can
be used, and is found again, until a callback that removes it has held the lock. -/
theorem lookedUp_run (x : World) (program : ι → List SessionEvent) (schedule later : List ι) :
    let s : CallbackThreads ι := (Sections.start System.initial.messaging program).run (callbackSection x) schedule
    ∃ since, (s.run (callbackSection x) later).order = s.order ++ since ∧ ∀ identifier c,
      s.shared.getIncomingClient identifier = some c →
        LookedUp x identifier c since (s.run (callbackSection x) later) := by
  intro s
  obtain ⟨since, hsince⟩ := Sections.order_run (callbackSection x) s later
  refine ⟨since, hsince, fun identifier c hc => ?_⟩
  have hs : s.Linear (callbackSection x) System.initial.messaging program := Sections.linear_run schedule
  have hs' : (s.run (callbackSection x) later).Linear (callbackSection x) System.initial.messaging program := by
    have hrun : s.run (callbackSection x) later =
        (Sections.start System.initial.messaging program).run (callbackSection x) (schedule ++ later) :=
      List.foldl_append.symm
    rw [hrun]
    exact Sections.linear_run _
  generalize s.run (callbackSection x) later = s' at hsince hs'
  have horder : s'.order.map Prod.snd = s.order.map Prod.snd ++ since.map Prod.snd := by rw [hsince, List.map_append]
  have hkept (hnone : ∀ call ∈ since, ¬ call.2.Removes x identifier) :
      s'.shared.getIncomingClient identifier = some c := by
    rw [hs'.shared, horder, inTurn_append, ← hs.shared]
    exact getIncomingClient_inTurn hc (List.forall_mem_map.mpr hnone)
  have hspared (hfound : s'.shared.getIncomingClient identifier = some c) : Spared s' c.id := by
    rw [spared_iff hs']
    rw [hs'.shared] at hfound
    exact not_deleted_of_getIncomingClient hfound
  have hlost (h : Spared s' c.id) : ∀ call ∈ since, ¬ call.2.Removes x identifier := by
    intro call hcall hremoves
    refine (spared_iff hs' _).mp h ?_
    rw [horder, workInTurn_append, deletedClients_append, ← hs.shared]
    exact List.mem_append_right _ (deletedClients_inTurn hc ⟨_, List.mem_map_of_mem hcall, hremoves⟩)
  exact ⟨⟨fun h => hlost (hspared h), hkept⟩, ⟨hlost, fun h => hspared (hkept h)⟩⟩

end

/-- A session is created on one thread and closed on another. -/
def createdAndClosed : Fin 2 → List SessionEvent
  | 0 => [.create 3 ⟨true, []⟩]
  | 1 => [.close 3 ⟨true, []⟩ ⟨true, []⟩]

/-- The client is looked up after the first callback, and the second one removes it. -/
theorem lookedUp_createdAndClosed :
    let s : CallbackThreads (Fin 2) :=
      (Sections.start System.initial.messaging createdAndClosed).run (callbackSection literalWorld) [0]
    ∃ since, (s.run (callbackSection literalWorld) [1]).order = s.order ++ since ∧
      LookedUp literalWorld (str "torii") ⟨0, str "torii", [], 0, some 3⟩ since
        (s.run (callbackSection literalWorld) [1]) := by
  obtain ⟨since, hsince, h⟩ := lookedUp_run literalWorld createdAndClosed [0] [1]
  refine ⟨since, hsince, h (str "torii") _ ?_⟩
  simp [Sections.run, Sections.step, Sections.start, createdAndClosed, callbackSection, HanamiMessaging.register,
    HanamiMessaging.getIncomingClient, System.initial, literalWorld, replaceSession]

end HanamiNetwork
