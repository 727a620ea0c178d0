import HanamiNetwork.Basis.Trace

/-!
# A queue and its worker

Jobs arrive in a queue, in any number and at any time, and one worker takes them from the
front and processes one after the other. What becomes of a job may differ from job to job
(`process i` is what becomes of the `i`-th job that is taken); processing a job that does
not return stops the worker. So does a job that cannot be processed when its turn comes, of
which nothing else is known (`spoiled`).

* `Faithful` — the jobs that have arrived are those that were taken, the one that stopped the
  worker, if there is one, and those in the queue, in this order, and what the worker has
  left behind is what the jobs taken leave behind, one after the other. `faithful_run` says
  that this holds of every run of a machine one side of which is a worker, whatever else the
  machine does.
* `queue_of_running` — a worker that has not been stopped gets through the queue.
-/

namespace HanamiNetwork.Basis

universe u

variable {α ω β : Type u}

/-- A queue and its worker. -/
structure Worker (α ω : Type u) where
  /-- The jobs in the queue. -/
  queue : List α
  /-- The jobs that were taken and processed, first one first. -/
  taken : List α
  /-- The job that could not be processed. -/
  spoiled : Option α
  /-- All effects so far. -/
  trace : List ω
  /-- The worker has not been stopped. -/
  running : Bool

/-- What happens to a queue and its worker. -/
inductive WorkerEvent (α ω : Type u) where
  /-- Something goes on beside the worker, which puts these jobs into the queue and leaves these effects. -/
  | beside (jobs : List α) (effects : List ω)
  /-- The worker looks for a job; those that pass the test can be processed. -/
  | work (sound : α → Bool)

namespace Worker

/-- The start. -/
def initial : Worker α ω := ⟨[], [], none, [], true⟩

variable (process : ℕ → α → Traced ω β)

/-- The worker takes a job and processes it. -/
def take (w : Worker α ω) (job : α) (queue : List α) : Worker α ω :=
  let p := process w.taken.length job
  { w with queue := queue, taken := w.taken ++ [job], trace := w.trace ++ p.effects, running := p.value.isSome }

/-- The worker is stopped by a job. -/
def spoil (w : Worker α ω) (job : α) (queue : List α) : Worker α ω :=
  { w with queue := queue, spoiled := some job, running := false }

/-- One event. A worker that was stopped does nothing, nor does one that finds no job. -/
def step (w : Worker α ω) : WorkerEvent α ω → Worker α ω
  | .beside jobs effects => { w with queue := w.queue ++ jobs, trace := w.trace ++ effects }
  | .work sound =>
    match w.running, w.queue with
    | true, job :: queue => if sound job then w.take process job queue else w.spoil job queue
    | _, _ => w

end Worker

/-- The jobs an event brings. -/
def WorkerEvent.jobs : WorkerEvent α ω → List α
  | beside jobs _ => jobs
  | work _ => []

/-- What goes on beside the worker has no effect of this kind. -/
def WorkerEvent.Spares (t : ω → Bool) : WorkerEvent α ω → Prop
  | beside _ effects => effects.filter t = []
  | work _ => True

namespace Worker

variable (process : ℕ → α → Traced ω β) (t : ω → Bool)

/-- What the jobs leave behind of the effects that count. -/
def output (jobs : List α) : List ω := jobs.zipIdx.flatMap fun p => (process p.2 p.1).effects.filter t

/-- The worker has done what it was given. -/
structure Faithful (arrived : List α) (w : Worker α ω) : Prop where
  /-- No job is lost, duplicated or overtaken. -/
  fifo : arrived = w.taken ++ w.spoiled.toList ++ w.queue
  /-- What is left behind is what the jobs leave behind. -/
  trace : w.trace.filter t = output process t w.taken
  /-- The worker was stopped exactly if a job could not be processed or did not return. -/
  running : w.running = true ↔ w.spoiled = none ∧ ∀ p ∈ w.taken.zipIdx, (process p.2 p.1).value.isSome

variable {process t}

theorem output_concat (jobs : List α) (job : α) : output process t (jobs ++ [job]) =
    output process t jobs ++ (process jobs.length job).effects.filter t := by
  simp [output, List.zipIdx_append]

theorem faithful_step {arrived : List α} {w : Worker α ω} (h : Faithful process t arrived w) {e : WorkerEvent α ω}
    (he : e.Spares t) : Faithful process t (arrived ++ e.jobs) (w.step process e) := by
  cases e with
  | beside jobs effects =>
    have hs : effects.filter t = [] := he
    exact ⟨by simp [step, WorkerEvent.jobs, h.fifo], by simp [step, h.trace, hs], h.running⟩
  | work sound =>
    obtain ⟨queue, taken, spoiled, trace, running⟩ := w
    cases running with
    | false => simpa [step, WorkerEvent.jobs] using h
    | true =>
      obtain ⟨rfl, hbefore⟩ : spoiled = none ∧ ∀ p ∈ taken.zipIdx, (process p.2 p.1).value.isSome := h.running.mp rfl
      have ht : trace.filter t = output process t taken := h.trace
      cases queue with
      | nil => simpa [step, WorkerEvent.jobs] using h
      | cons job queue =>
        by_cases hsound : sound job = true
        · refine ⟨?_, ?_, ?_⟩
          · simpa [step, hsound, take, WorkerEvent.jobs] using h.fifo
          · simp [step, hsound, take, output_concat, ht]
          · simp only [step, hsound, if_true, take, List.zipIdx_append, List.mem_append, or_imp, forall_and,
              List.zipIdx_cons, List.zipIdx_nil, List.mem_singleton, forall_eq, true_and]
            simp only [Nat.zero_add]
            exact ⟨fun hj => ⟨hbefore, hj⟩, fun hj => hj.2⟩
        · refine ⟨?_, ?_, ?_⟩
          · simpa [step, hsound, spoil, WorkerEvent.jobs] using h.fifo
          · simpa [step, hsound, spoil] using ht
          · simp [step, hsound, spoil]

theorem faithful_initial : Faithful process t [] (initial : Worker α ω) :=
  ⟨rfl, rfl, by simp [initial]⟩

theorem running_of_step {w : Worker α ω} {e : WorkerEvent α ω} (h : (w.step process e).running = true) :
    w.running = true := by
  by_contra hn
  cases e with
  | beside jobs effects => exact hn h
  | work sound =>
    simp [step, Bool.eq_false_iff.mpr hn] at h

/-- A worker that is running after it has looked for a job has taken the first one, which could be processed. -/
theorem queue_of_running_step {w : Worker α ω} {sound : α → Bool}
    (h : (w.step process (.work sound)).running = true) :
    (w.step process (.work sound)).queue = w.queue.tail ∧ ∀ job, w.queue.head? = some job → sound job = true := by
  have hrun := running_of_step h
  cases hq : w.queue with
  | nil => simp [step, hrun, hq]
  | cons job queue =>
    simp only [step, hrun, hq] at h ⊢
    split_ifs at h ⊢ with hsound
    · simp [take, hsound]
    · cases h

section

/- A machine one side of which is a worker: `view` is the worker, and `event` what an input of the
machine is to it. -/
variable {σ ι : Type*} (step : σ → ι → σ) {view : σ → Worker α ω} {event : σ → ι → WorkerEvent α ω}
  {jobs : ι → List α} (hsim : ∀ s e, view (step s e) = (view s).step process (event s e))
include hsim

/-- **Every run is faithful**, in any order of arrivals and work. -/
theorem faithful_run (hspares : ∀ s e, (event s e).Spares t) (hjobs : ∀ s e, (event s e).jobs = jobs e)
    {arrived : List α} {s : σ} (h : Faithful process t arrived (view s)) (es : List ι) :
    Faithful process t (arrived ++ es.flatMap jobs) (view (es.foldl step s)) := by
  induction es generalizing arrived s with
  | nil => simpa using h
  | cons e es ih =>
    have hstep := faithful_step h (hspares s e)
    rw [← hsim, hjobs] at hstep
    simpa [List.append_assoc] using ih hstep

theorem running_of_run (es : List ι) {s : σ} (h : (view (es.foldl step s)).running = true) :
    (view s).running = true := by
  induction es generalizing s with
  | nil => exact h
  | cons e es ih =>
    have hstep := ih h
    rw [hsim] at hstep
    exact running_of_step hstep

/-- **A worker gets through its queue**, if it is running to the end. -/
theorem queue_of_running {e : ι} (he : ∀ s, ∃ sound, event s e = .work sound) (n : ℕ) {s : σ}
    (h : (view ((List.replicate n e).foldl step s)).running = true) :
    (view ((List.replicate n e).foldl step s)).queue = (view s).queue.drop n := by
  induction n generalizing s with
  | zero => rfl
  | succ n ih =>
    have hrun := running_of_run step hsim (List.replicate n e) h
    obtain ⟨sound, hevent⟩ := he s
    rw [List.replicate_succ, List.foldl_cons, ih h]
    rw [hsim, hevent] at hrun ⊢
    rw [(queue_of_running_step hrun).1, List.drop_tail]

end

theorem mem_trace_iff {arrived : List α} {w : Worker α ω} (h : Faithful process t arrived w) {e : ω} (he : t e = true) :
    e ∈ w.trace ↔ ∃ i job, w.taken[i]? = some job ∧ e ∈ (process i job).effects := by
  have hmem : e ∈ w.trace ↔ e ∈ w.trace.filter t := by simp [he]
  rw [hmem, h.trace, output, List.mem_flatMap]
  constructor
  · rintro ⟨⟨job, i⟩, hj, he'⟩
    exact ⟨i, job, List.mem_zipIdx_iff_getElem?.mp hj, (List.mem_filter.mp he').1⟩
  · rintro ⟨i, job, hj, he'⟩
    exact ⟨(job, i), List.mem_zipIdx_iff_getElem?.mpr hj, List.mem_filter.mpr ⟨he', he⟩⟩

end Worker

end HanamiNetwork.Basis
