import HanamiNetwork.Basis.OrderedMap
import HanamiNetwork.Sessions.System

/-!
# The registry of incoming sessions

Clients are added to `m_incomingClients` for a session and removed by a name. Two sessions
may announce the same name; the second one is rejected, but its close, which is sure to
come, removes the client of the first. `registrySafe_iff` says which runs are free of this:
those in which no session closes while the client under its name is that of another.

`RegistryExact` is the invariant, `FreshClients` what tells the clients apart.
-/

namespace HanamiNetwork

open HanamiNetwork.Basis

/-- The registry holds exactly the clients of the accepted sessions, under their identifiers. -/
structure RegistryExact (x : World) (s : System) : Prop where
  /-- Every entry is the client of a session that was accepted under its key. -/
  entry : ∀ (identifier : Str) (c : Client), s.messaging.incomingClients[identifier]? = some c →
    ∃ session ∈ s.accepted, x.sessionIdentifier session = identifier ∧ c.session = some session
  /-- Every accepted session has its client in the registry. -/
  accepted : ∀ session ∈ s.accepted, ∃ c, s.messaging.incomingClients[x.sessionIdentifier session]? = some c ∧
    c.session = some session

/-- The client is the one that is registered for a session. -/
def RegisteredFor (m : HanamiMessaging) (session : SessionId) (identifier : Str) (c : Client) : Prop :=
  m.incomingClients[identifier]? = some c ∧ c.session = some session

/-- A close or an error leaves the clients of other sessions alone: it does not remove, close or
delete them. -/
def LeavesOthers (x : World) (s : System) (e : SessionEvent) : Prop :=
  ∀ closing, e.closing.map Prod.fst = some closing → ∀ session identifier c, session ≠ closing →
    RegisteredFor s.messaging session identifier c →
    RegisteredFor (s.step x e).messaging session identifier c ∧
    .closeSession session ∉ (e.callback x s.messaging).effects ∧
    session ∉ deletedSessions (e.callback x s.messaging).effects ∧
    .deleteClient c.id ∉ (e.callback x s.messaging).effects

/-- The registry is exact in every state of the run, and no step touches the client of another session. -/
structure RegistrySafe (x : World) (s : System) (es : List SessionEvent) : Prop where
  /-- In every state, the registry is exact. -/
  exact : Throughout (System.step x) (RegistryExact x) s es
  /-- Every close and error leaves the others alone. -/
  leavesOthers : Along (System.step x) (LeavesOthers x) s es

/-- A session that closes or fails does not find the client of another under its identifier. -/
def FindsOwnClient (x : World) (s : System) (e : SessionEvent) : Prop :=
  ∀ closing, e.closing.map Prod.fst = some closing → ∀ c,
    s.messaging.incomingClients[x.sessionIdentifier closing]? = some c → c.session = some closing

/-- Clients are told apart by their addresses. -/
structure FreshClients (m : HanamiMessaging) : Prop where
  /-- The next address is a new one. -/
  next : ∀ (identifier : Str) (c : Client), m.incomingClients[identifier]? = some c → c.id < m.nextClient
  /-- Two entries are two clients. -/
  distinct : ∀ (identifier identifier' : Str) (c c' : Client), m.incomingClients[identifier]? = some c →
    m.incomingClients[identifier']? = some c' → c.id = c'.id → identifier = identifier'

section

variable {x : World} {s : System} {e : SessionEvent}

/-! ### Steps -/

/-- The clients after the creation of a session: a new one if its name was free. -/
theorem step_create (x : World) (s : System) (session : SessionId) (outcome : CloseOutcome) :
    (∃ c, s.messaging.incomingClients[x.sessionIdentifier session]? = some c ∧
      (s.step x (.create session outcome)).messaging = s.messaging ∧
      (s.step x (.create session outcome)).accepted = s.accepted) ∨
    (s.messaging.incomingClients[x.sessionIdentifier session]? = none ∧
      (s.step x (.create session outcome)).messaging =
        { s.messaging with
          incomingClients := s.messaging.incomingClients.insert (x.sessionIdentifier session)
            ⟨s.messaging.nextClient, x.sessionIdentifier session, [], 0, some session⟩
          nextClient := s.messaging.nextClient + 1 } ∧
      (s.step x (.create session outcome)).accepted = session :: s.accepted) := by
  cases hc : s.messaging.incomingClients[x.sessionIdentifier session]? with
  | some c =>
    refine .inl ⟨c, rfl, ?_, ?_⟩ <;>
      simp [System.step, SessionEvent.callback, sessionCreateCallback, SessionEvent.accepts, SessionEvent.closing,
        addInternalClient_of_client hc]
  | none =>
    refine .inr ⟨rfl, ?_, ?_⟩ <;>
      simp [System.step, SessionEvent.callback, sessionCreateCallback, SessionEvent.accepts, SessionEvent.closing,
        addInternalClient_of_none hc]

theorem step_rest (x : World) (s : System) (hc : e.closing = none)
    (ha : ∀ session outcome, e ≠ .create session outcome) :
    (s.step x e).messaging = s.messaging ∧ (s.step x e).accepted = s.accepted := by
  cases e with
  | create session outcome => exact absurd rfl (ha session outcome)
  | close session first second => cases hc
  | error session message first second => cases hc
  | arrive session blockerId data => simp [System.step, SessionEvent.callback, SessionEvent.accepts, hc]
  | process => simp [System.step, SessionEvent.callback, SessionEvent.accepts, hc]

theorem step_closing (x : World) (s : System) {closing : SessionId} (h : e.closing.map Prod.fst = some closing) :
    (s.step x e).messaging = { s.messaging with
        incomingClients := s.messaging.incomingClients.erase (x.sessionIdentifier closing) } ∧
      (s.step x e).accepted = s.accepted.filter (· ≠ closing) := by
  obtain ⟨⟨closing', first, second⟩, hc, rfl⟩ := Option.map_eq_some_iff.mp h
  refine ⟨messaging_of_closing hc, ?_⟩
  have ha : e.accepts x s.messaging = none := by cases e <;> first | rfl | cases hc
  simp [System.step, ha, hc]

/-- A creation keeps the registry exact. -/
theorem registryExact_create (h : RegistryExact x s) (session : SessionId) (outcome : CloseOutcome) :
    RegistryExact x (s.step x (.create session outcome)) := by
  rcases step_create x s session outcome with ⟨c, -, hm, ha⟩ | ⟨hnone, hm, ha⟩
  · exact ⟨by rw [hm, ha]; exact h.entry, by rw [hm, ha]; exact h.accepted⟩
  · constructor
    · intro identifier c hget
      rw [hm] at hget
      rw [ha]
      rcases getElem?_of_insert hget with ⟨rfl, rfl⟩ | hget
      · exact ⟨session, List.mem_cons_self, rfl, rfl⟩
      · obtain ⟨t, ht, hid, hs⟩ := h.entry identifier c hget
        exact ⟨t, List.mem_cons_of_mem _ ht, hid, hs⟩
    · intro t ht
      rw [ha] at ht
      rw [hm, Std.ExtTreeMap.getElem?_insert]
      rcases List.mem_cons.mp ht with rfl | ht
      · exact ⟨_, if_pos Std.compare_self, rfl⟩
      · obtain ⟨c, hget, hs⟩ := h.accepted t ht
        refine ⟨c, ?_, hs⟩
        rw [if_neg, hget]
        intro hk
        have hid : x.sessionIdentifier session = x.sessionIdentifier t := by simpa using hk
        rw [← hid, hnone] at hget
        cases hget

/-- A closing keeps the registry exact exactly if it finds its own client. -/
theorem registryExact_closing_iff (h : RegistryExact x s) {closing : SessionId}
    (hc : e.closing.map Prod.fst = some closing) :
    RegistryExact x (s.step x e) ↔ FindsOwnClient x s e := by
  obtain ⟨hm, ha⟩ := step_closing x s hc
  constructor
  · intro h' closing' hc' c hget
    obtain rfl := Option.some_inj.mp (hc.symm.trans hc')
    obtain ⟨t, ht, hid, hs⟩ := h.entry _ c hget
    by_contra hne
    -- the client of `t` is erased, although `t` is still accepted
    have ht' : t ∈ (s.step x e).accepted := by
      rw [ha, List.mem_filter]
      refine ⟨ht, ?_⟩
      simp only [ne_eq, decide_eq_true_eq]
      rintro rfl
      exact hne hs
    obtain ⟨c', hget', -⟩ := h'.accepted t ht'
    rw [hm, getElem?_erase_eq_some] at hget'
    exact hget'.1 hid
  · intro hown
    constructor
    · intro identifier c hget
      rw [hm, getElem?_erase_eq_some] at hget
      obtain ⟨t, ht, hid, hs⟩ := h.entry identifier c hget.2
      refine ⟨t, ?_, hid, hs⟩
      rw [ha, List.mem_filter]
      refine ⟨ht, ?_⟩
      simp only [ne_eq, decide_eq_true_eq]
      rintro rfl
      exact hget.1 hid.symm
    · intro t ht
      rw [ha, List.mem_filter, decide_eq_true_eq] at ht
      obtain ⟨c, hget, hs⟩ := h.accepted t ht.1
      refine ⟨c, ?_, hs⟩
      rw [hm, getElem?_erase_eq_some]
      refine ⟨fun hid => ht.2 ?_, hget⟩
      rw [hid] at hget
      exact Option.some_inj.mp (hs.symm.trans (hown closing hc c hget))

/-- **The exact condition of a step.** -/
theorem registryExact_step_iff (h : RegistryExact x s) (e : SessionEvent) :
    RegistryExact x (s.step x e) ↔ FindsOwnClient x s e := by
  cases hc : e.closing.map Prod.fst with
  | some closing => exact registryExact_closing_iff h hc
  | none =>
    refine iff_of_true ?_ fun closing hclosing => by rw [hc] at hclosing; cases hclosing
    cases e with
    | create session outcome => exact registryExact_create h session outcome
    | close session first second => cases hc
    | error session message first second => cases hc
    | arrive session blockerId data =>
      obtain ⟨hm, ha⟩ := step_rest x s (e := .arrive session blockerId data) rfl nofun
      exact ⟨by rw [hm, ha]; exact h.entry, by rw [hm, ha]; exact h.accepted⟩
    | process =>
      obtain ⟨hm, ha⟩ := step_rest x s (e := .process) rfl nofun
      exact ⟨by rw [hm, ha]; exact h.entry, by rw [hm, ha]; exact h.accepted⟩

theorem freshClients_step (h : FreshClients s.messaging) (e : SessionEvent) : FreshClients (s.step x e).messaging := by
  cases hc : e.closing.map Prod.fst with
  | some closing =>
    rw [(step_closing x s hc).1]
    constructor
    · intro identifier c hget
      exact h.next identifier c (getElem?_erase_eq_some.mp hget).2
    · intro identifier identifier' c c' hget hget'
      exact h.distinct _ _ c c' (getElem?_erase_eq_some.mp hget).2 (getElem?_erase_eq_some.mp hget').2
  | none =>
    by_cases hcreate : ∃ session outcome, e = .create session outcome
    · obtain ⟨session, outcome, rfl⟩ := hcreate
      rcases step_create x s session outcome with ⟨c, -, hm, -⟩ | ⟨hnone, hm, -⟩
      · rwa [hm]
      · rw [hm]
        constructor
        · intro identifier c hget
          rcases getElem?_of_insert hget with ⟨-, rfl⟩ | hget
          · exact Nat.lt_succ_self _
          · exact Nat.lt_succ_of_lt (h.next identifier c hget)
        · intro identifier identifier' c c' hget hget' hid
          rcases getElem?_of_insert hget with ⟨rfl, rfl⟩ | hget <;>
            rcases getElem?_of_insert hget' with ⟨rfl, rfl⟩ | hget'
          · rfl
          · exact absurd hid.symm (h.next identifier' c' hget').ne
          · exact absurd hid (h.next identifier c hget).ne
          · exact h.distinct identifier identifier' c c' hget hget' hid
    · have hrest := step_rest x s (Option.map_eq_none_iff.mp hc) fun session outcome he =>
        hcreate ⟨session, outcome, he⟩
      rwa [hrest.1]

/-- A closing that finds its own client leaves the others alone. -/
theorem leavesOthers_of_findsOwnClient (hfresh : FreshClients s.messaging) (h : FindsOwnClient x s e) :
    LeavesOthers x s e := by
  intro closing hc session identifier c hne hreg
  have hid : identifier ≠ x.sessionIdentifier closing := by
    rintro rfl
    exact hne (Option.some_inj.mp (hreg.2.symm.trans (h closing hc c hreg.1)))
  refine ⟨?_, ?_⟩
  · rw [(step_closing x s hc).1]
    exact ⟨getElem?_erase_eq_some.mpr ⟨hid, hreg.1⟩, hreg.2⟩
  obtain ⟨⟨closing', first, second⟩, hclosing, rfl⟩ := Option.map_eq_some_iff.mp hc
  obtain ⟨-, hdeleted, heffects⟩ := callback_closing (x := x) hclosing s.messaging
  rw [hdeleted]
  cases hget : s.messaging.incomingClients[x.sessionIdentifier closing']? with
  | none =>
    rw [removeInternalClient_of_none hget] at heffects ⊢
    refine ⟨fun he => ?_, nofun, fun he => ?_⟩ <;> rcases heffects _ he with he | ⟨_, he⟩ <;> cases he
  | some c' =>
    have hown := h closing' hc c' hget
    have hremoval : Removal s.messaging (x.sessionIdentifier closing') first second c' _ :=
      removeInternalClient_of_client hget
    refine ⟨fun he => ?_, fun he => ?_, fun he => ?_⟩
    · rcases heffects _ he with he | ⟨_, he⟩
      · exact hne (Option.some_inj.mp ((hremoval.closed session he).symm.trans hown))
      · cases he
    · rw [hremoval.deleted, hown] at he
      split_ifs at he
      · exact hne (List.mem_singleton.mp he)
      · cases he
    · rcases heffects _ he with he | ⟨_, he⟩
      · exact hid (hfresh.distinct _ _ c c' hreg.1 hget (hremoval.deletedClient c.id he))
      · cases he

end

/-- **When the registry is safe**: it is exact in every state, and no close or error touches the
client of another session, exactly if no session closes or fails while the client under its
identifier is that of another. -/
theorem registrySafe_iff (x : World) (es : List SessionEvent) :
    RegistrySafe x .initial es ↔ Along (System.step x) (FindsOwnClient x) .initial es := by
  have hinitial : RegistryExact x .initial := ⟨fun _ _ h => by simp [System.initial] at h, nofun⟩
  have hfresh : Throughout (System.step x) (fun s => FreshClients s.messaging) .initial es :=
    Throughout.of_step (fun s e h => freshClients_step h e)
      ⟨fun _ _ h => by simp [System.initial] at h, fun _ _ _ _ h => by simp [System.initial] at h⟩ es
  have hiff : Throughout (System.step x) (RegistryExact x) .initial es ↔ _ :=
    throughout_iff_along (I := RegistryExact x) (E := fun _ _ => True)
      (fun _ e hs _ => registryExact_step_iff hs e) hinitial (Along.of_forall (fun _ _ => trivial) _ _)
  constructor
  · exact fun h => hiff.mp h.exact
  · intro h
    refine ⟨hiff.mpr h, ?_⟩
    have hboth := along_and.mpr ⟨hfresh.along fun s e hs => hs, h⟩
    exact hboth.mono fun s e hse => leavesOthers_of_findsOwnClient hse.1 hse.2

/-- Two sessions announce the same name; the second one is rejected, and closes. -/
def rejectedCloses : List SessionEvent :=
  [.create 1 ⟨true, []⟩, .create 2 ⟨true, []⟩, .close 2 ⟨true, []⟩ ⟨false, []⟩]

/-- The close of the rejected session removes the client of the first one. -/
theorem not_registrySafe_rejectedCloses : ¬ RegistrySafe literalWorld .initial rejectedCloses := by
  intro h
  obtain ⟨c, hget, -⟩ := h.exact.2.2.2.accepted 1 (by decide)
  exact absurd (Option.isSome_iff_exists.mpr ⟨c, hget⟩) (by decide)

end HanamiNetwork
