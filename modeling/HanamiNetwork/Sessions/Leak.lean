import HanamiNetwork.Basis.Run
import HanamiNetwork.Sessions.Outgoing

/-!
# Sessions that are lost track of

A client is connected from two sides: by calls of `connectClient`, and by its thread, which
tests `m_session` and connects later. `replaceSession` overwrites whatever session is there.
A session that is overwritten is open and held by nobody, and is never closed.

`noLeak_iff` says which runs lose no session: those in which a session is only started while
there is none. `Tracked` is what holds in any case.
-/

namespace HanamiNetwork

open HanamiNetwork.Basis

/-- What happens to a client. -/
inductive ClientEvent where
  /-- `connectClient` is called, and a session is started or not. -/
  | connectClient (started : Bool) (messages : List Str)
  /-- `closeClient` is called. -/
  | closeClient (outcome : CloseOutcome)
  /-- The thread tests `m_session`. -/
  | runTest
  /-- The thread, if its test was passed, connects. -/
  | runConnect (started : Bool) (messages : List Str)

/-- A client and its sessions. -/
structure ClientState where
  /-- The client. -/
  client : Client
  /-- The identifiers of the sessions. -/
  identifiers : SessionId → Str
  /-- The next session that is started. -/
  nextSession : SessionId
  /-- The test of the thread was passed, and it is about to connect. -/
  pending : Bool
  /-- The sessions that were ever started. -/
  obtained : List SessionId
  /-- The sessions that were closed. -/
  closed : List SessionId

/-- A client that was just made. -/
def ClientState.made (id : ClientId) (remoteIdentifier address : Str) (port : UInt16)
    (identifiers : SessionId → Str) : ClientState :=
  ⟨⟨id, remoteIdentifier, address, port, none⟩, identifiers, 0, false, [], []⟩

/-- The state after the client has tried to connect. -/
def ClientState.connected (s : ClientState) (started : Bool) (c : Client) (identifiers : SessionId → Str) :
    ClientState :=
  { s with
    client := c
    identifiers := identifiers
    nextSession := s.nextSession + 1
    obtained := if started then s.nextSession :: s.obtained else s.obtained }

/-- One event. -/
def ClientState.step (x : Network) (s : ClientState) : ClientEvent → ClientState
  | .connectClient started messages =>
    match (connectClient x (startFresh s.nextSession started messages) s.client s.identifiers ⟨[]⟩).value with
    | some (_, c, identifiers, _) => s.connected started c identifiers
    | none => s
  | .closeClient outcome =>
    let p := closeClient s.client outcome ⟨[]⟩
    match p.value with
    | some (_, c, _) => { s with client := c, closed := deletedSessions p.effects ++ s.closed }
    | none => s
  | .runTest => { s with pending := s.pending || runTest s.client }
  | .runConnect started messages =>
    if s.pending then
      match (runConnect x (startFresh s.nextSession started messages) s.client s.identifiers).value with
      | some (c, identifiers) => { s.connected started c identifiers with pending := false }
      | none => s
    else s

/-- The event starts a session. -/
def ClientEvent.starts (s : ClientState) : ClientEvent → Bool
  | .connectClient started _ => started
  | .runConnect started _ => s.pending && started
  | _ => false

/-! ### Steps -/

/-- From `s` to `s'` a session was started, which became the current one. -/
structure SessionStarted (s s' : ClientState) : Prop where
  /-- It is the current one. -/
  session : s'.client.session = some s.nextSession
  /-- It was started. -/
  obtained : s'.obtained = s.nextSession :: s.obtained
  /-- None was closed. -/
  closed : s'.closed = s.closed
  /-- The next one is another one. -/
  nextSession : s'.nextSession = s.nextSession + 1

/-- From `s` to `s'` the current session was closed. -/
structure SessionClosed (s s' : ClientState) (session : SessionId) : Prop where
  /-- It was the current one. -/
  before : s.client.session = some session
  /-- There is none now. -/
  after : s'.client.session = none
  /-- None was started. -/
  obtained : s'.obtained = s.obtained
  /-- It was closed. -/
  closed : s'.closed = session :: s.closed
  /-- The next one is the same. -/
  nextSession : s'.nextSession = s.nextSession

/-- From `s` to `s'` no session was started or closed. -/
structure SessionsKept (s s' : ClientState) : Prop where
  /-- The current one is the same. -/
  session : s'.client.session = s.client.session
  /-- None was started. -/
  obtained : s'.obtained = s.obtained
  /-- None was closed. -/
  closed : s'.closed = s.closed
  /-- A number may have been used up. -/
  nextSession : s.nextSession ≤ s'.nextSession

section

variable {x : Network} {s s' : ClientState} {e : ClientEvent}

/-- What a client that tries to connect does to its sessions, whether or not its thread is waiting to. -/
theorem connected_cases (s : ClientState) (started pending : Bool) (identifiers : SessionId → Str) :
    let s' := { s.connected started (s.client.connected s.nextSession started) identifiers with pending := pending }
    (started = true → SessionStarted s s') ∧ (started = false → SessionsKept s s') := by
  constructor
  · rintro rfl
    constructor <;> rfl
  · rintro rfl
    exact ⟨rfl, rfl, rfl, Nat.le_succ _⟩

/-- A step starts a session, which becomes the current one; or closes the current one; or changes no
session. -/
theorem step_cases (x : Network) (s : ClientState) (e : ClientEvent) :
    (e.starts s = true ∧ SessionStarted s (s.step x e)) ∨
    (e.starts s = false ∧ ∃ session, SessionClosed s (s.step x e) session) ∨
    (e.starts s = false ∧ SessionsKept s (s.step x e)) := by
  cases e with
  | connectClient started messages =>
    obtain ⟨error', hv⟩ := value_connectClient x s.client s.identifiers s.nextSession started messages ⟨[]⟩
    have hconnected := connected_cases s started s.pending (s.client.identifiersConnected s.nextSession started
      s.identifiers)
    simp only [ClientState.step, hv, ClientEvent.starts]
    cases started with
    | false => exact .inr (.inr ⟨rfl, hconnected.2 rfl⟩)
    | true => exact .inl ⟨rfl, hconnected.1 rfl⟩
  | closeClient outcome =>
    cases hs : s.client.session with
    | none =>
      refine .inr (.inr ⟨rfl, ?_⟩)
      constructor <;> simp [ClientState.step, closeClient_of_none hs, hs, deletedSessions]
    | some session =>
      cases hc : outcome.closed with
      | false =>
        refine .inr (.inr ⟨rfl, ?_⟩)
        constructor <;> simp [ClientState.step, closeClient_of_failed hs hc, hs, deletedSessions]
      | true =>
        refine .inr (.inl ⟨rfl, session, ?_⟩)
        constructor <;> simp [ClientState.step, closeClient_of_closed hs hc, hs, deletedSessions]
  | runTest => exact .inr (.inr ⟨rfl, rfl, rfl, rfl, le_rfl⟩)
  | runConnect started messages =>
    have hv := value_runConnect x s.client s.identifiers s.nextSession started messages
    have hconnected := connected_cases s started false (s.client.identifiersConnected s.nextSession started
      s.identifiers)
    cases hp : s.pending with
    | false =>
      have hstep : s.step x (.runConnect started messages) = s := by simp [ClientState.step, hp]
      refine .inr (.inr ⟨by simp [ClientEvent.starts, hp], ?_⟩)
      rw [hstep]
      exact ⟨rfl, rfl, rfl, le_rfl⟩
    | true =>
      simp only [ClientState.step, hp, if_true, hv, ClientEvent.starts, Bool.true_and]
      cases started with
      | false => exact .inr (.inr ⟨rfl, hconnected.2 rfl⟩)
      | true => exact .inl ⟨rfl, hconnected.1 rfl⟩

/-- What holds of the sessions of a client in any case. -/
structure Tracked (s : ClientState) : Prop where
  /-- The next session is a new one. -/
  fresh : ∀ session ∈ s.obtained, session < s.nextSession
  /-- The current session was started. -/
  obtained : ∀ session, s.client.session = some session → session ∈ s.obtained
  /-- It is open. -/
  current : ∀ session, s.client.session = some session → session ∉ s.closed
  /-- What was closed was started. -/
  closed : ∀ session ∈ s.closed, session ∈ s.obtained

theorem Tracked.of_started (h : Tracked s) (hs : SessionStarted s s') : Tracked s' := by
  constructor
  case fresh =>
    rw [hs.obtained, hs.nextSession, List.forall_mem_cons]
    exact ⟨Nat.lt_succ_self _, fun session hmem => Nat.lt_succ_of_lt (h.fresh session hmem)⟩
  case obtained =>
    intro session hcur
    obtain rfl := Option.some_inj.mp (hs.session.symm.trans hcur)
    rw [hs.obtained]
    exact List.mem_cons_self
  case current =>
    intro session hcur hmem
    obtain rfl := Option.some_inj.mp (hs.session.symm.trans hcur)
    rw [hs.closed] at hmem
    exact absurd (h.fresh _ (h.closed _ hmem)) (lt_irrefl _)
  case closed =>
    intro session hmem
    rw [hs.closed] at hmem
    rw [hs.obtained]
    exact List.mem_cons_of_mem _ (h.closed session hmem)

theorem Tracked.of_closed {session : SessionId} (h : Tracked s) (hs : SessionClosed s s' session) : Tracked s' := by
  constructor
  case fresh =>
    rw [hs.obtained, hs.nextSession]
    exact h.fresh
  case obtained =>
    intro session' hcur
    rw [hs.after] at hcur
    cases hcur
  case current =>
    intro session' hcur
    rw [hs.after] at hcur
    cases hcur
  case closed =>
    rw [hs.closed, hs.obtained, List.forall_mem_cons]
    exact ⟨h.obtained session hs.before, h.closed⟩

theorem Tracked.of_kept (h : Tracked s) (hs : SessionsKept s s') : Tracked s' := by
  constructor
  case fresh =>
    rw [hs.obtained]
    exact fun session hmem => lt_of_lt_of_le (h.fresh session hmem) hs.nextSession
  case obtained =>
    rw [hs.session, hs.obtained]
    exact h.obtained
  case current =>
    rw [hs.session, hs.closed]
    exact h.current
  case closed =>
    rw [hs.closed, hs.obtained]
    exact h.closed

theorem tracked_step (h : Tracked s) (e : ClientEvent) : Tracked (s.step x e) := by
  rcases step_cases x s e with ⟨-, hs⟩ | ⟨-, session, hs⟩ | ⟨-, hs⟩
  · exact h.of_started hs
  · exact h.of_closed hs
  · exact h.of_kept hs

/-! ### Losing no session -/

/-- Every session is the current one or closed, and one is open at most. -/
structure NoLeak (s : ClientState) : Prop where
  /-- A session that was started is the current one, or was closed. -/
  kept : ∀ session ∈ s.obtained, s.client.session = some session ∨ session ∈ s.closed
  /-- Two sessions that are open are the same. -/
  one : ∀ session ∈ s.obtained, ∀ session' ∈ s.obtained, session ∉ s.closed → session' ∉ s.closed →
    session = session'

theorem NoLeak.of_kept (h : ∀ session ∈ s.obtained, s.client.session = some session ∨ session ∈ s.closed) :
    NoLeak s := by
  refine ⟨h, fun session hs session' hs' hopen hopen' => ?_⟩
  have h1 := (h session hs).resolve_right hopen
  have h2 := (h session' hs').resolve_right hopen'
  exact Option.some_inj.mp (h1.symm.trans h2)

/-- A session that is started takes the place of the one that was there, which is lost. -/
theorem noLeak_started_iff (h : NoLeak s) (ht : Tracked s) (hs : SessionStarted s s') :
    NoLeak s' ↔ s.client.session = none := by
  constructor
  · intro h'
    rw [Option.eq_none_iff_forall_ne_some]
    intro session hcur
    have hmem := ht.obtained session hcur
    rcases h'.kept session (by rw [hs.obtained]; exact List.mem_cons_of_mem _ hmem) with hnew | hclosed
    · obtain rfl := Option.some_inj.mp (hs.session.symm.trans hnew)
      exact lt_irrefl _ (ht.fresh _ hmem)
    · rw [hs.closed] at hclosed
      exact ht.current session hcur hclosed
  · intro hnone
    refine .of_kept ?_
    rw [hs.obtained, hs.session, hs.closed, List.forall_mem_cons]
    refine ⟨.inl rfl, fun session hmem => .inr ((h.kept session hmem).resolve_left ?_)⟩
    rw [hnone]
    exact nofun

theorem NoLeak.of_closed {session : SessionId} (h : NoLeak s) (hs : SessionClosed s s' session) : NoLeak s' := by
  refine .of_kept ?_
  rw [hs.obtained, hs.closed]
  intro session' hmem
  rcases h.kept session' hmem with hcur | hclosed
  · obtain rfl := Option.some_inj.mp (hs.before.symm.trans hcur)
    exact .inr List.mem_cons_self
  · exact .inr (List.mem_cons_of_mem _ hclosed)

theorem NoLeak.of_sessionsKept (h : NoLeak s) (hs : SessionsKept s s') : NoLeak s' := by
  refine .of_kept ?_
  rw [hs.obtained, hs.session, hs.closed]
  exact h.kept

/-- A session is only started while there is none. -/
def StartsWhenNone (s : ClientState) (e : ClientEvent) : Prop := e.starts s = true → s.client.session = none

/-- **The exact condition of a step.** -/
theorem noLeak_step_iff (h : NoLeak s) (ht : Tracked s) : NoLeak (s.step x e) ↔ StartsWhenNone s e := by
  rcases step_cases x s e with ⟨hstarts, hs⟩ | ⟨hstarts, session, hs⟩ | ⟨hstarts, hs⟩
  · rw [noLeak_started_iff h ht hs]
    exact ⟨fun hnone _ => hnone, fun hnone => hnone hstarts⟩
  · exact iff_of_true (h.of_closed hs) (fun hc => absurd hc (by simp [hstarts]))
  · exact iff_of_true (h.of_sessionsKept hs) (fun hc => absurd hc (by simp [hstarts]))

end

/-- **When a client loses no session**: exactly if every session is started while there is none. -/
theorem noLeak_iff (x : Network) (id : ClientId) (remoteIdentifier address : Str) (port : UInt16)
    (identifiers : SessionId → Str) (es : List ClientEvent) :
    Throughout (ClientState.step x) NoLeak (.made id remoteIdentifier address port identifiers) es ↔
      Along (ClientState.step x) StartsWhenNone (.made id remoteIdentifier address port identifiers) es := by
  have htracked : Throughout (ClientState.step x) Tracked (.made id remoteIdentifier address port identifiers) es :=
    .of_step (fun _ e h => tracked_step h e) (by constructor <;> simp [ClientState.made]) es
  exact throughout_iff_along (fun _ _ h ht => noLeak_step_iff h ht) (.of_kept (by simp [ClientState.made]))
    (htracked.along fun _ _ h => h)

/-- The thread tests the session, `connectClient` is called, and then the thread connects. -/
def connectedTwice : List ClientEvent := [.runTest, .connectClient true [], .runConnect true []]

/-- The first session is lost. -/
theorem not_noLeak_connectedTwice : ¬ Throughout (ClientState.step literalNetwork) NoLeak
    (.made 1 (str "misaki") (str "/tmp/sock") 0 fun _ => []) connectedTwice := by
  intro h
  rcases h.2.2.2.kept 0 (by decide) with hcur | hclosed
  · exact absurd hcur (by decide)
  · exact absurd hclosed (by decide)

end HanamiNetwork
