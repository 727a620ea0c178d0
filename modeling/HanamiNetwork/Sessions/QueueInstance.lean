import HanamiNetwork.Messaging.Callbacks
import Mathlib.Data.Finset.Card

/-!
# The instance of the queue

`MessagingEventQueue::getInstance` makes the queue when it is called first, and starts its thread.
It is called by the callbacks, on the threads of the sessions, for each request that arrives. No
lock keeps two threads from both finding that there is no queue yet, and from making one each.

The model takes the reads and writes of `m_instance` one by one, with any steps of other threads
in between; `program i` are the requests that arrive on thread `i`.

* `split_iff` — requests can come to lie in two queues, exactly if they arrive on two threads.
* `lost_iff` — a request can come to lie in a queue whose thread is never started, exactly if
  they arrive on three threads.
* `fifo_of_ready` — neither happens if the queue is asked for once before the first request.
-/

namespace HanamiNetwork

/-- A `MessagingEventQueue` object, by the number of those made before it. -/
abbrev QueueId := ℕ

/-- What a thread does next in its callback. -/
inductive CallPoint where
  /-- The test of `m_instance` in `getInstance`. -/
  | test
  /-- `m_instance = new MessagingEventQueue`. -/
  | create
  /-- `m_instance->startThread()`. -/
  | start
  /-- `return m_instance`. -/
  | load
  /-- `addEventToQueue` of the queue that was returned. -/
  | add (queue : QueueId)
  deriving DecidableEq

/-- The threads that call `getInstance`, and the queues. -/
structure QueueCalls (ι : Type) where
  /-- `m_instance`. -/
  m_instance : Option QueueId
  /-- How many queues were made. -/
  made : ℕ
  /-- The queues whose thread was started. -/
  started : QueueId → Bool
  /-- The events that were added to each queue. -/
  events : QueueId → List MessagingEvent
  /-- The events of each thread; a callback is there for the first one. -/
  todo : ι → List MessagingEvent
  /-- Where each thread is in its callback. -/
  point : ι → CallPoint

namespace QueueCalls

variable {ι : Type}

/-- The start. -/
def start (program : ι → List MessagingEvent) : QueueCalls ι :=
  ⟨none, 0, fun _ => false, fun _ => [], program, fun _ => .test⟩

/-- The start, if the queue was asked for before. -/
def ready (program : ι → List MessagingEvent) : QueueCalls ι :=
  ⟨some 0, 1, fun q => q == 0, fun _ => [], program, fun _ => .test⟩

variable [DecidableEq ι]

/-- A thread gets to another point of its callback. -/
def goTo (s : QueueCalls ι) (i : ι) (point : CallPoint) : QueueCalls ι :=
  { s with point := Function.update s.point i point }

/-- One step of one thread, if an event is there. -/
def step (s : QueueCalls ι) (i : ι) : QueueCalls ι :=
  match s.todo i with
  | [] => s
  | event :: events =>
    match s.point i, s.m_instance with
    | .test, none => s.goTo i .create
    | .test, some _ => s.goTo i .load
    | .create, _ => { s.goTo i .start with m_instance := some s.made, made := s.made + 1 }
    | .start, some q => { s.goTo i .load with started := Function.update s.started q true }
    | .load, some q => s.goTo i (.add q)
    | .add q, _ =>
      { s.goTo i .test with
        events := Function.update s.events q (s.events q ++ [event])
        todo := Function.update s.todo i events }
    -- there is an instance behind the test
    | .start, none => s
    | .load, none => s

/-- A run, in which the threads take turns in any order. -/
def run (s : QueueCalls ι) (schedule : List ι) : QueueCalls ι := schedule.foldl step s

/-- `ready` is the start after one call of `getInstance`, for all that the other threads see of it. -/
theorem run_start_getInstance {program : ι → List MessagingEvent} {i : ι} (h : program i ≠ []) :
    (start program).run [i, i, i, i] = (ready program).goTo i (.add 0) := by
  obtain ⟨event, events, hi⟩ := List.exists_cons_of_ne_nil h
  have hstarted : Function.update (fun _ => false) 0 true = fun q : QueueId => q == 0 := by
    funext q
    by_cases hq : q = 0 <;> simp [hq]
  simp [run, step, start, ready, goTo, hi, hstarted]

/-- What a step of a thread does. -/
inductive StepCase (s : QueueCalls ι) (i : ι) : QueueCalls ι → Prop where
  /-- Nothing. -/
  | idle : StepCase s i s
  /-- The test finds no queue. -/
  | testNone (ht : s.todo i ≠ []) (hp : s.point i = .test) (hq : s.m_instance = none) :
      StepCase s i (s.goTo i .create)
  /-- The test finds a queue. -/
  | testSome {q : QueueId} (ht : s.todo i ≠ []) (hp : s.point i = .test) (hq : s.m_instance = some q) :
      StepCase s i (s.goTo i .load)
  /-- A queue is made. -/
  | create (ht : s.todo i ≠ []) (hp : s.point i = .create) :
      StepCase s i { s.goTo i .start with m_instance := some s.made, made := s.made + 1 }
  /-- The thread of the queue is started. -/
  | start {q : QueueId} (ht : s.todo i ≠ []) (hp : s.point i = .start) (hq : s.m_instance = some q) :
      StepCase s i { s.goTo i .load with started := Function.update s.started q true }
  /-- The queue is returned. -/
  | load {q : QueueId} (ht : s.todo i ≠ []) (hp : s.point i = .load) (hq : s.m_instance = some q) :
      StepCase s i (s.goTo i (.add q))
  /-- The event is added. -/
  | add {q : QueueId} {event : MessagingEvent} {events : List MessagingEvent} (ht : s.todo i = event :: events)
      (hp : s.point i = .add q) :
      StepCase s i { s.goTo i .test with
        events := Function.update s.events q (s.events q ++ [event])
        todo := Function.update s.todo i events }

theorem stepCase (s : QueueCalls ι) (i : ι) : StepCase s i (s.step i) := by
  cases ht : s.todo i with
  | nil =>
    rw [step, ht]
    exact .idle
  | cons event events =>
    have hne : s.todo i ≠ [] := by simp [ht]
    cases hp : s.point i with
    | test =>
      cases hq : s.m_instance with
      | none =>
        simp only [step, ht, hp, hq]
        exact .testNone hne hp hq
      | some q =>
        simp only [step, ht, hp, hq]
        exact .testSome hne hp hq
    | create =>
      simp only [step, ht, hp]
      exact .create hne hp
    | start =>
      cases hq : s.m_instance with
      | none =>
        simp only [step, ht, hp, hq]
        exact .idle
      | some q =>
        simp only [step, ht, hp, hq]
        exact .start hne hp hq
    | load =>
      cases hq : s.m_instance with
      | none =>
        simp only [step, ht, hp, hq]
        exact .idle
      | some q =>
        simp only [step, ht, hp, hq]
        exact .load hne hp hq
    | add q =>
      simp only [step, ht, hp]
      exact .add ht hp

@[simp] theorem point_goTo (s : QueueCalls ι) (i : ι) (point : CallPoint) (j : ι) :
    (s.goTo i point).point j = if j = i then point else s.point j := Function.update_apply _ _ _ _

/-! ### What holds in every run -/

/-- An event was added to the queue, or a thread is about to add one. -/
def Used (s : QueueCalls ι) (q : QueueId) : Prop := s.events q ≠ [] ∨ ∃ i, s.point i = .add q

/-- The thread is not about to make a queue, or to start one. -/
def Outside (s : QueueCalls ι) (i : ι) : Prop := s.point i ≠ .create ∧ s.point i ≠ .start

/-- What holds in every run. -/
structure Inv (program : ι → List MessagingEvent) (s : QueueCalls ι) : Prop where
  /-- The events of a thread are some of those it had. -/
  todo : ∀ i, s.todo i ≠ [] → program i ≠ []
  /-- A thread is in its callback for an event. -/
  inside : ∀ i, s.point i ≠ .test → s.todo i ≠ []
  /-- The queue was started, or some thread is about to start one. -/
  starter : ∀ q, s.m_instance = some q → s.started q = true ∨ ∃ i, s.point i = .start
  /-- If a queue is used, some thread has passed all of `getInstance`, and will never make one. -/
  user : ∀ q, s.Used q → s.m_instance ≠ none ∧ ∃ i, program i ≠ [] ∧ s.Outside i

section

variable {program : ι → List MessagingEvent} {s s' : QueueCalls ι} {i : ι}

omit [DecidableEq ι] in
theorem inv_start : Inv program (start program) :=
  ⟨fun _ h => h, fun _ h => absurd rfl h, nofun, by rintro q (h | ⟨i, h⟩) <;> simp [start] at h⟩

theorem point_of_ne (hs : StepCase s i s') {j : ι} (hji : j ≠ i) : s'.point j = s.point j := by
  cases hs with
  | idle => rfl
  | add | testNone | testSome | create | start | load => simp [hji]

theorem todo_step (h : ∀ i, s.todo i ≠ [] → program i ≠ []) (hs : StepCase s i s') :
    ∀ i, s'.todo i ≠ [] → program i ≠ [] := by
  cases hs with
  | add ht hp =>
    intro j hj
    by_cases hji : j = i
    · exact hji ▸ h i (by simp [ht])
    · exact h j (by simpa [hji] using hj)
  | idle | testNone | testSome | create | start | load => exact h

theorem inside_step (h : ∀ i, s.point i ≠ .test → s.todo i ≠ []) (hs : StepCase s i s') :
    ∀ i, s'.point i ≠ .test → s'.todo i ≠ [] := by
  intro j hj
  by_cases hji : j = i
  · subst hji
    cases hs with
    | idle => exact h j hj
    | add ht hp => simp at hj
    | testNone ht | testSome ht | create ht | start ht | load ht => exact ht
  · rw [point_of_ne hs hji] at hj
    cases hs with
    | add => simpa [hji] using h j hj
    | idle | testNone | testSome | create | start | load => exact h j hj

theorem starter_step (h : ∀ q, s.m_instance = some q → s.started q = true ∨ ∃ i, s.point i = .start)
    (hs : StepCase s i s') : ∀ q, s'.m_instance = some q → s'.started q = true ∨ ∃ i, s'.point i = .start := by
  intro q hq'
  cases hs with
  | idle => exact h q hq'
  | testNone ht hp hq => simp [goTo, hq] at hq'
  | create ht hp => exact .inr ⟨i, by simp⟩
  | start ht hp hq =>
    obtain rfl : _ = q := Option.some_inj.mp (hq.symm.trans hq')
    exact .inl (by simp)
  | testSome ht hp | load ht hp | add ht hp =>
    refine (h q hq').imp_right fun hstart => ?_
    obtain ⟨j, hj⟩ := hstart
    have hji : j ≠ i := by
      rintro rfl
      rw [hp] at hj
      cases hj
    exact ⟨j, by simpa [hji] using hj⟩

theorem used_of_step (hs : StepCase s i s') {q : QueueId} (hu : s'.Used q) :
    s.Used q ∨ s.point i = .load ∧ s.m_instance = some q := by
  rcases hu with hu | ⟨j, hj⟩
  · cases hs with
    | @add q' event events ht hp =>
      by_cases hq : q = q'
      · exact .inl (.inr ⟨i, hq ▸ hp⟩)
      · exact .inl (.inl (by simpa [hq] using hu))
    | idle | testNone | testSome | create | start | load => exact .inl (.inl hu)
  · by_cases hji : j = i
    · subst hji
      cases hs with
      | idle => exact .inl (.inr ⟨j, hj⟩)
      | load ht hp hq =>
        rw [point_goTo, if_pos rfl] at hj
        obtain rfl := CallPoint.add.inj hj
        exact .inr ⟨hp, hq⟩
      | testNone | testSome | create | start | add => simp at hj
    · exact .inl (.inr ⟨j, (point_of_ne hs hji).symm.trans hj⟩)

/-- Once there is a queue, a thread that is not about to make one will not come to it. -/
theorem outside_step (hs : StepCase s i s') (hi : s.m_instance ≠ none) {j : ι} (h : s.Outside j) : s'.Outside j := by
  by_cases hji : j = i
  · subst hji
    cases hs with
    | idle => exact h
    | testNone ht hp hq => exact absurd hq hi
    | create ht hp => exact absurd hp h.1
    | start ht hp => exact absurd hp h.2
    | testSome | load | add => simp [Outside]
  · rwa [Outside, point_of_ne hs hji]

theorem instance_step (hs : StepCase s i s') (hi : s.m_instance ≠ none) : s'.m_instance ≠ none := by
  cases hs with
  | create => simp
  | idle | testNone | testSome | start | load | add => exact hi

theorem inv_step (h : Inv program s) (hs : StepCase s i s') : Inv program s' := by
  refine ⟨todo_step h.todo hs, inside_step h.inside hs, starter_step h.starter hs, fun q hu => ?_⟩
  rcases used_of_step hs hu with hu | ⟨hp, hq⟩
  · obtain ⟨hi, j, hj, hout⟩ := h.user q hu
    exact ⟨instance_step hs hi, j, hj, outside_step hs hi hout⟩
  · have hi : s.m_instance ≠ none := by simp [hq]
    have hbusy := h.todo i (h.inside i (by simp [hp]))
    exact ⟨instance_step hs hi, i, hbusy, outside_step hs hi (by simp [Outside, hp])⟩

/-- A queue stays the one there is, as long as no thread is about to make another. -/
theorem made_step (hs : StepCase s i s') {q : QueueId} (hq : s.m_instance = some q) (h : ∀ j, s.point j ≠ .create) :
    s'.m_instance = some q ∧ ∀ j, s'.point j ≠ .create := by
  constructor
  · cases hs with
    | create ht hp => exact absurd hp (h i)
    | idle | testNone | testSome | start | load | add => exact hq
  · intro j
    by_cases hji : j = i
    · subst hji
      cases hs with
      | idle => exact h j
      | testNone ht hp hq' => simp [hq] at hq'
      | create ht hp => exact absurd hp (h j)
      | testSome | start | load | add => simp
    · rw [point_of_ne hs hji]
      exact h j

theorem run_induction {P : QueueCalls ι → Prop} (h : ∀ s i s', P s → StepCase s i s' → P s') (hs : P s)
    (schedule : List ι) : P (s.run schedule) := by
  induction schedule generalizing s with
  | nil => exact hs
  | cons i schedule ih => exact ih (h s i _ hs (stepCase s i))

end

/-! ### Lost requests -/

/-- Requests arrive on this many threads. -/
def ArriveOn (n : ℕ) (program : ι → List MessagingEvent) : Prop :=
  ∃ threads : Finset ι, threads.card = n ∧ ∀ i ∈ threads, program i ≠ []

/-- The queue has events, and whatever the threads do, its own is not started. -/
def Lost (s : QueueCalls ι) (q : QueueId) : Prop :=
  s.events q ≠ [] ∧ ∀ schedule, (s.run schedule).started q = false

/-- A queue that is used was started, or is the one that the next thread will start. -/
def Sure (s : QueueCalls ι) : Prop := ∀ q, s.Used q → s.started q = true ∨ s.m_instance = some q

section

variable {program : ι → List MessagingEvent} {s s' : QueueCalls ι} {i : ι}

theorem started_step (hs : StepCase s i s') {q : QueueId} (h : s.started q = true) : s'.started q = true := by
  cases hs with
  | @start q' ht hp hq => by_cases hqq : q = q' <;> simp [hqq, h]
  | idle | testNone | testSome | create | load | add => exact h

theorem started_step_of_start {q : QueueId} (ht : s.todo i ≠ []) (hp : s.point i = .start)
    (hq : s.m_instance = some q) : (s.step i).started q = true := by
  obtain ⟨event, events, ht⟩ := List.exists_cons_of_ne_nil ht
  simp [step, ht, hp, hq]

/-- With two threads, who makes a queue and who starts another are all there are. -/
theorem sure_step (hthree : ¬ ArriveOn 3 program) (h : Inv program s) (hsure : s.Sure) (hs : StepCase s i s') :
    s'.Sure := by
  intro q hu
  rcases used_of_step hs hu with hused | ⟨hp, hq⟩
  · rcases hsure q hused with hstarted | hq
    · exact .inl (started_step hs hstarted)
    · cases hs with
      | create ht hp =>
        rcases h.starter q hq with hstarted | ⟨j, hj⟩
        · exact .inl hstarted
        · -- `i` makes a queue, `j` starts one, and `k` has used one
          obtain ⟨-, k, hk, hout⟩ := h.user q hused
          refine absurd ⟨{i, j, k}, ?_, ?_⟩ hthree
          · have hij : i ≠ j := by rintro rfl; simp [hp] at hj
            have hik : i ≠ k := by rintro rfl; exact hout.1 hp
            have hjk : j ≠ k := by rintro rfl; exact hout.2 hj
            exact Finset.card_eq_three.mpr ⟨i, j, k, hij, hik, hjk, rfl⟩
          · simp only [Finset.mem_insert, Finset.mem_singleton, forall_eq_or_imp, forall_eq]
            exact ⟨h.todo i ht, h.todo j (h.inside j (by simp [hj])), hk⟩
      | idle | testNone | testSome | start | load | add => exact .inr hq
  · cases hs with
    | create ht hp' => simp [hp'] at hp
    | idle | testNone | testSome | start | load | add => exact .inr hq

/-- The thread of a queue that was replaced is not started any more, once nobody makes another. -/
theorem not_started_run {q q' : QueueId} (hne : q ≠ q') (h : s.m_instance = some q' ∧ (∀ j, s.point j ≠ .create) ∧
    s.started q = false) (schedule : List ι) : (s.run schedule).started q = false := by
  refine (run_induction (P := fun s => s.m_instance = some q' ∧ (∀ j, s.point j ≠ .create) ∧
    s.started q = false) ?_ h schedule).2.2
  rintro s i s' ⟨hq, hcreate, hstarted⟩ hs
  obtain ⟨hq', hcreate'⟩ := made_step hs hq hcreate
  refine ⟨hq', hcreate', ?_⟩
  cases hs with
  | start ht hp hq'' =>
    obtain rfl := Option.some_inj.mp (hq.symm.trans hq'')
    simpa [hne] using hstarted
  | idle | testNone | testSome | create | load | add => exact hstarted

/-- **When a request can be lost**: exactly if requests arrive on three threads. -/
theorem lost_iff (program : ι → List MessagingEvent) :
    (∃ schedule q, ((start program).run schedule).Lost q) ↔ ArriveOn 3 program := by
  constructor
  · rintro ⟨schedule, q, hevents, hlost⟩
    by_contra hthree
    obtain ⟨hinv, hsure⟩ : Inv program ((start program).run schedule) ∧ ((start program).run schedule).Sure := by
      refine run_induction (P := fun s => Inv program s ∧ s.Sure) ?_ ⟨inv_start, ?_⟩ schedule
      · exact fun s i s' h hs => ⟨inv_step h.1 hs, sure_step hthree h.1 h.2 hs⟩
      · rintro q (h | ⟨i, h⟩) <;> simp [start] at h
    have hnot := hlost []
    rcases hsure q (.inl hevents) with hstarted | hq
    · exact absurd hstarted (by simpa [run] using hnot)
    · rcases hinv.starter q hq with hstarted | ⟨i, hi⟩
      · exact absurd hstarted (by simpa [run] using hnot)
      · -- the thread that is about to start a queue starts this one
        have hstarted := started_step_of_start (hinv.inside i (by simp [hi])) hi hq
        exact absurd hstarted (by simpa [run] using hlost [i])
  · rintro ⟨threads, hcard, hbusy⟩
    obtain ⟨i, j, k, hij, hik, hjk, rfl⟩ := Finset.card_eq_three.mp hcard
    simp only [Finset.mem_insert, Finset.mem_singleton, forall_eq_or_imp, forall_eq] at hbusy
    obtain ⟨hi, hj, hk⟩ := hbusy
    obtain ⟨ei, esi, hi⟩ := List.exists_cons_of_ne_nil hi
    obtain ⟨ej, esj, hj⟩ := List.exists_cons_of_ne_nil hj
    obtain ⟨ek, esk, hk⟩ := List.exists_cons_of_ne_nil hk
    refine ⟨[i, j, i, k, k, k, j], 0, ?_, not_started_run (show 0 ≠ 1 by decide) ?_⟩
    · simp [run, step, start, goTo, hi, hj, hk, hij, hjk, hij.symm, hik.symm, hjk.symm]
    · simp only [run, List.foldl_cons, List.foldl_nil, step, start, goTo, hi, hj]
      simp [Function.update_apply, hij, hjk, hij.symm, hik.symm, hjk.symm, hi, hj, hk]
      grind

end

/-! ### Two queues -/

/-- Two queues have events. -/
def Split (s : QueueCalls ι) : Prop := ∃ q q', q ≠ q' ∧ s.events q ≠ [] ∧ s.events q' ≠ []

/-- There is no queue, or one that stays the only one. -/
structure Single (s : QueueCalls ι) : Prop where
  /-- No thread will make a second one. -/
  made : s.m_instance = none ∧ s.made = 0 ∨ s.m_instance = some 0 ∧ ∀ i, s.point i ≠ .create
  /-- No other one is used. -/
  used : ∀ q, s.Used q → q = 0

section

variable {program : ι → List MessagingEvent} {s s' : QueueCalls ι} {i : ι}

theorem eq_of_create (htwo : ¬ ArriveOn 2 program) (h : Inv program s) {j : ι} (hi : s.point i = .create)
    (hj : s.point j = .create) : j = i := by
  by_contra hne
  refine htwo ⟨{j, i}, Finset.card_eq_two.mpr ⟨j, i, hne, rfl⟩, ?_⟩
  simp only [Finset.mem_insert, Finset.mem_singleton, forall_eq_or_imp, forall_eq]
  exact ⟨h.todo j (h.inside j (by simp [hj])), h.todo i (h.inside i (by simp [hi]))⟩

theorem single_step (htwo : ¬ ArriveOn 2 program) (h : Inv program s) (hsingle : s.Single) (hs : StepCase s i s') :
    s'.Single := by
  refine ⟨?_, fun q hu => ?_⟩
  · rcases hsingle.made with ⟨hnone, hmade⟩ | ⟨hzero, hpoint⟩
    · cases hs with
      | create ht hp =>
        refine .inr ⟨by rw [hmade], fun j hj => ?_⟩
        by_cases hji : j = i
        · simp [hji] at hj
        · exact hji (eq_of_create htwo h hp (by simpa [hji] using hj))
      | idle | testNone | testSome | start | load | add => exact .inl ⟨by assumption, by assumption⟩
    · exact .inr (made_step hs hzero hpoint)
  · rcases used_of_step hs hu with hu | ⟨-, hq⟩
    · exact hsingle.used q hu
    · rcases hsingle.made with ⟨hnone, -⟩ | ⟨hzero, -⟩
      · rw [hnone] at hq
        cases hq
      · exact (Option.some_inj.mp (hzero.symm.trans hq)).symm

/-- **When the requests are split up**: exactly if requests arrive on two threads. -/
theorem split_iff (program : ι → List MessagingEvent) :
    (∃ schedule, ((start program).run schedule).Split) ↔ ArriveOn 2 program := by
  constructor
  · rintro ⟨schedule, q, q', hne, hq, hq'⟩
    by_contra htwo
    obtain ⟨-, hsingle⟩ : Inv program ((start program).run schedule) ∧ ((start program).run schedule).Single := by
      refine run_induction (P := fun s => Inv program s ∧ s.Single) ?_ ⟨inv_start, .inl ⟨rfl, rfl⟩, ?_⟩ schedule
      · exact fun s i s' h hs => ⟨inv_step h.1 hs, single_step htwo h.1 h.2 hs⟩
      · rintro q (h | ⟨i, h⟩) <;> simp [start] at h
    exact hne ((hsingle.used q (.inl hq)).trans (hsingle.used q' (.inl hq')).symm)
  · rintro ⟨threads, hcard, hbusy⟩
    obtain ⟨i, j, hij, rfl⟩ := Finset.card_eq_two.mp hcard
    simp only [Finset.mem_insert, Finset.mem_singleton, forall_eq_or_imp, forall_eq] at hbusy
    obtain ⟨hi, hj⟩ := hbusy
    obtain ⟨ei, esi, hi⟩ := List.exists_cons_of_ne_nil hi
    obtain ⟨ej, esj, hj⟩ := List.exists_cons_of_ne_nil hj
    refine ⟨[i, j, i, i, i, i, j, j, j, j], 0, 1, by decide, ?_, ?_⟩
    · simp [run, step, start, goTo, hi, hj, hij, hij.symm]
    · simp [run, step, start, goTo, hi, hj, hij, hij.symm]

end

/-! ### A queue that was asked for before -/

/-- The queue has the events of all threads that were handed over, in the order in which they were. -/
structure Fifo (program : ι → List MessagingEvent) (adds : List (ι × MessagingEvent)) (s : QueueCalls ι) : Prop where
  /-- The queue has all of them. -/
  events : s.events 0 = adds.map Prod.snd
  /-- No other queue has any. -/
  others : ∀ q ≠ 0, s.events q = []
  /-- Each thread has handed over the first of its own, in order, each once. -/
  perThread : ∀ i, program i = (adds.filter fun a => a.1 = i).map Prod.snd ++ s.todo i
  /-- The thread of the queue was started. -/
  started : s.started 0 = true

/-- All threads use the queue that was there. -/
structure Settled (s : QueueCalls ι) : Prop where
  /-- It is the one there is. -/
  made : s.m_instance = some 0 ∧ ∀ i, s.point i ≠ .create
  /-- No other one is used. -/
  added : ∀ i q, s.point i = .add q → q = 0

section

variable {program : ι → List MessagingEvent} {s s' : QueueCalls ι} {i : ι}

theorem settled_step (h : s.Settled) (hs : StepCase s i s') : s'.Settled := by
  refine ⟨made_step hs h.made.1 h.made.2, fun j q hj => ?_⟩
  by_cases hji : j = i
  · subst hji
    cases hs with
    | idle => exact h.added j q hj
    | load ht hp hq =>
      rw [point_goTo, if_pos rfl] at hj
      obtain rfl := CallPoint.add.inj hj
      exact (Option.some_inj.mp (h.made.1.symm.trans hq)).symm
    | testNone | testSome | create | start | add => simp at hj
  · exact h.added j q ((point_of_ne hs hji).symm.trans hj)

theorem fifo_step {adds : List (ι × MessagingEvent)} (h : Fifo program adds s) (hsettled : s.Settled)
    (hs : StepCase s i s') : ∃ adds', Fifo program adds' s' := by
  have hstarted := started_step hs h.started
  cases hs with
  | @add q event events ht hp =>
    obtain rfl := hsettled.added i q hp
    refine ⟨adds ++ [(i, event)], ?_, fun q hq => ?_, fun j => ?_, hstarted⟩
    · simp [h.events]
    · simpa [hq] using h.others q hq
    · rw [h.perThread j]
      by_cases hji : j = i
      · subst hji
        simp [ht]
      · have hij : ¬ i = j := fun hij => hji hij.symm
        simp [hji, hij]
  | create ht hp => exact absurd hp (hsettled.made.2 i)
  | idle | testNone | testSome | start | load => exact ⟨adds, h.events, h.others, h.perThread, hstarted⟩

/-- **A queue that was asked for before**: over every run of any number of threads, all requests come into the one
queue, each once and those of each thread in their order, and its thread was started. -/
theorem fifo_of_ready (program : ι → List MessagingEvent) (schedule : List ι) :
    ∃ adds, Fifo program adds ((ready program).run schedule) := by
  refine (run_induction (P := fun s => (∃ adds, Fifo program adds s) ∧ s.Settled) ?_ ⟨⟨[], ?_⟩, ?_⟩ schedule).1
  · rintro s i s' ⟨⟨adds, h⟩, hsettled⟩ hs
    exact ⟨fifo_step h hsettled hs, settled_step hsettled hs⟩
  · exact ⟨rfl, fun _ _ => rfl, fun _ => rfl, rfl⟩
  · exact ⟨⟨rfl, nofun⟩, nofun⟩

end

end QueueCalls

end HanamiNetwork
