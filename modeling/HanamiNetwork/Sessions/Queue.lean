import HanamiNetwork.Sessions.System

/-!
# Queued events

A queued event keeps a pointer to the session it arrived on, and its answer is sent over
that session when its turn comes. Nothing ties the life of the session to the queue:
closing the client that is registered under the identifier of a session deletes the
session of that client, whether it has events in the queue or not. `noDeadSession_iff` says
which runs stay clear of that.
-/

namespace HanamiNetwork

open HanamiNetwork.Basis

/-- The session of every queued event is still there. -/
def QueueLive (s : System) : Prop := ∀ event ∈ s.queue, event.session ∉ s.deleted

/-- The event that is taken from the queue, if any, is one whose session is still there. -/
def ProcessesLive (s : System) (e : SessionEvent) : Prop :=
  e = .process → ∀ event, s.queue.head? = some event → event.session ∉ s.deleted

/-- No event is processed on a dead session. -/
structure NoDeadSession (x : World) (s : System) (es : List SessionEvent) : Prop where
  /-- In every state, the sessions of the queued events are there. -/
  queue : Throughout (System.step x) QueueLive s es
  /-- Every event is processed on a session that is there. -/
  processed : Along (System.step x) ProcessesLive s es

/-- The event neither arrives on a deleted session nor deletes a session with a queued event. -/
def SparesQueue (x : World) (s : System) (e : SessionEvent) : Prop :=
  (∀ event ∈ e.arriving, event.session ∉ s.deleted) ∧
    ∀ session ∈ e.deletes x s.messaging, ∀ event ∈ s.queue, event.session ≠ session

/-- An event keeps the queue alive exactly if it spares it. -/
theorem queueLive_step_iff (x : World) {s : System} (h : QueueLive s) (e : SessionEvent) :
    QueueLive (s.step x e) ↔ SparesQueue x s e := by
  unfold QueueLive SparesQueue
  rw [deleted_step]
  cases hc : e.closing with
  | some closing =>
    have hq : (s.step x e).queue = s.queue ∧ e.arriving = [] := by
      cases e <;> simp [SessionEvent.closing] at hc <;> simp [System.step, SessionEvent.arriving]
    rw [hq.1, hq.2]
    simp only [List.mem_append, not_or, List.not_mem_nil, false_implies, implies_true, true_and]
    constructor
    · exact fun hl session hs event he heq => (hl event he).2 (heq ▸ hs)
    · exact fun hs event he => ⟨h event he, fun hd => hs _ hd event he rfl⟩
  | none =>
    have hd : e.deletes x s.messaging = [] := by rw [SessionEvent.deletes, hc, Option.elim_none]
    simp only [hd, List.append_nil, List.not_mem_nil, false_implies, implies_true, and_true]
    cases e with
    | create session outcome =>
      simp only [System.step, SessionEvent.arriving, List.append_nil, List.not_mem_nil, false_implies, implies_true,
        iff_true]
      exact h
    | close session first second => cases hc
    | error session message first second => cases hc
    | arrive session blockerId data =>
      simp only [System.step, List.mem_append]
      exact ⟨fun hl event he => hl event (.inr he), fun ha event he => he.elim (h event) (ha event)⟩
    | process =>
      simp only [System.step, SessionEvent.arriving, List.not_mem_nil, false_implies, implies_true, iff_true]
      exact fun event he => h event (List.mem_of_mem_tail he)

/-- **When no event is processed on a dead session**: exactly if no event arrives on a deleted
session, and no step deletes a session while one of its events is queued. -/
theorem noDeadSession_iff (x : World) (es : List SessionEvent) :
    NoDeadSession x .initial es ↔ Along (System.step x) (SparesQueue x) .initial es := by
  have hinitial : QueueLive .initial := nofun
  have hiff : Throughout (System.step x) QueueLive .initial es ↔ _ :=
    throughout_iff_along (I := QueueLive) (E := fun _ _ => True) (fun _ e hs _ => queueLive_step_iff x hs e) hinitial
      (Along.of_forall (fun _ _ => trivial) _ _)
  constructor
  · exact fun h => hiff.mp h.queue
  · intro h
    have hlive := hiff.mpr h
    refine ⟨hlive, hlive.along fun s e hs he event hhead => ?_⟩
    exact hs event (List.mem_of_mem_head? hhead)

/-- A session is created, a trigger message arrives on it, the session closes, and the event is processed. -/
def closedInTime : List SessionEvent :=
  [.create 1 ⟨true, []⟩, .arrive 1 0 ⟨some fun _ => 0, 16, fun _ => rfl⟩, .close 1 ⟨true, []⟩ ⟨false, []⟩, .process]

/-- The event is processed on the deleted session. -/
theorem not_noDeadSession_closedInTime : ¬ NoDeadSession literalWorld .initial closedInTime :=
  fun h => h.processed.2.2.2.1 rfl _ rfl (by decide)

end HanamiNetwork
