import HanamiNetwork.Basis.Ledger
import Mathlib.Algebra.Order.Group.Multiset

/-!
# Calls with one section

Threads that make calls side by side. Each call does what it does to the shared state in one section,
under a lock, and leaves the rest of its work for afterwards (`enter` gives both). The work that is
left is done piece by piece, in between the sections and the work of the other threads.

`linear_run` says that the threads could as well have made their calls one after the other, in the
order of the sections: the shared state is the same, and what was done so far and what is still
to be done is what these calls do.
-/

namespace HanamiNetwork.Basis

universe u v w z

/-- Threads, the state they share, and what they have done. -/
structure Sections (ι : Type u) (κ : Type v) (σ : Type w) (ω : Type z) where
  /-- The shared state. -/
  shared : σ
  /-- The calls each thread will make. -/
  calls : ι → List κ
  /-- What the last call of each thread has still to do. -/
  pending : ι → List ω
  /-- The calls whose section is over, first one first, with their threads. -/
  order : List (ι × κ)
  /-- What was done after the sections. -/
  trace : List ω

variable {ι : Type u} {κ : Type v} {σ : Type w} {ω : Type z}

namespace Sections

/-- The start. -/
def start (shared : σ) (program : ι → List κ) : Sections ι κ σ ω := ⟨shared, program, fun _ => [], [], []⟩

variable [DecidableEq ι] (enter : σ → κ → σ × List ω)

/-- One step of one thread: a piece of work, or the section of its next call. -/
def step (s : Sections ι κ σ ω) (i : ι) : Sections ι κ σ ω :=
  match s.pending i, s.calls i with
  | e :: es, _ => { s with pending := Function.update s.pending i es, trace := s.trace ++ [e] }
  | [], k :: ks =>
    { s with
      shared := (enter s.shared k).1
      calls := Function.update s.calls i ks
      pending := Function.update s.pending i (enter s.shared k).2
      order := s.order ++ [(i, k)] }
  | [], [] => s

/-- A run, in which the threads take turns in any order. -/
def run (s : Sections ι κ σ ω) (schedule : List ι) : Sections ι κ σ ω := schedule.foldl (step enter) s

/-- The sections come one after the other: those that are over stay so, in their order. -/
theorem order_run (s : Sections ι κ σ ω) (schedule : List ι) :
    ∃ since, (s.run enter schedule).order = s.order ++ since := by
  induction schedule generalizing s with
  | nil => exact ⟨[], (List.append_nil _).symm⟩
  | cons i schedule ih =>
    obtain ⟨since, hsince⟩ := ih (s.step enter i)
    have hstep : ∃ first, (s.step enter i).order = s.order ++ first := by
      simp only [step]
      split
      · exact ⟨[], (List.append_nil _).symm⟩
      · exact ⟨_, rfl⟩
      · exact ⟨[], (List.append_nil _).symm⟩
    obtain ⟨first, hfirst⟩ := hstep
    exact ⟨first ++ since, by rw [← List.append_assoc, ← hfirst, ← hsince]; rfl⟩

end Sections

/-! ### One call after the other -/

/-- What becomes of the state if the calls are made one after the other. -/
def inTurn (enter : σ → κ → σ × List ω) (s : σ) (ks : List κ) : σ := ks.foldl (fun s k => (enter s k).1) s

/-- What is done if the calls are made one after the other. -/
def workInTurn (enter : σ → κ → σ × List ω) (s : σ) (ks : List κ) : List ω :=
  total (fun s k => (enter s k).1) (fun s k => (enter s k).2) s ks

section

variable (enter : σ → κ → σ × List ω)

theorem inTurn_append (s : σ) (ks ks' : List κ) : inTurn enter s (ks ++ ks') = inTurn enter (inTurn enter s ks) ks' :=
  List.foldl_append

theorem inTurn_concat (s : σ) (ks : List κ) (k : κ) :
    inTurn enter s (ks ++ [k]) = (enter (inTurn enter s ks) k).1 := by simp [inTurn]

theorem workInTurn_cons (s : σ) (k : κ) (ks : List κ) :
    workInTurn enter s (k :: ks) = (enter s k).2 ++ workInTurn enter (enter s k).1 ks := rfl

theorem workInTurn_append (s : σ) (ks ks' : List κ) :
    workInTurn enter s (ks ++ ks') = workInTurn enter s ks ++ workInTurn enter (inTurn enter s ks) ks' := by
  induction ks generalizing s with
  | nil => simp [workInTurn, total, inTurn]
  | cons k ks ih =>
    rw [List.cons_append, workInTurn_cons, workInTurn_cons, ih, List.append_assoc]
    rfl

theorem workInTurn_concat (s : σ) (ks : List κ) (k : κ) :
    workInTurn enter s (ks ++ [k]) = workInTurn enter s ks ++ (enter (inTurn enter s ks) k).2 := by
  rw [workInTurn_append, workInTurn_cons]
  simp [workInTurn, total]

end

namespace Sections

variable [Fintype ι] (enter : σ → κ → σ × List ω)

/-- All that is still to be done. -/
def pendingWork (s : Sections ι κ σ ω) : Multiset ω := ∑ i, (s.pending i : Multiset ω)

variable [DecidableEq ι]

/-- The threads have done the calls one after the other, up to the work that is left. -/
structure Linear (init : σ) (program : ι → List κ) (s : Sections ι κ σ ω) : Prop where
  /-- The shared state is that after the calls. -/
  shared : s.shared = inTurn enter init (s.order.map Prod.snd)
  /-- Each thread has made the first of its calls, in order. -/
  calls : ∀ i, program i = (s.order.filter fun c => c.1 = i).map Prod.snd ++ s.calls i
  /-- What was done and what is left is what the calls do. -/
  work : (s.trace : Multiset ω) + s.pendingWork = (workInTurn enter init (s.order.map Prod.snd) : Multiset ω)

theorem Linear.filterMap {enter : σ → κ → σ × List ω} {init : σ} {program : ι → List κ} {s : Sections ι κ σ ω}
    (h : Linear enter init program s) {β : Type*} (f : ω → Option β) :
    (s.trace.filterMap f : Multiset β) + ∑ i, ((s.pending i).filterMap f : Multiset β) =
      ((workInTurn enter init (s.order.map Prod.snd)).filterMap f : Multiset β) := by
  let hom : Multiset ω →+ Multiset β :=
    { toFun := Multiset.filterMap f
      map_zero' := Multiset.filterMap_zero f
      map_add' := Multiset.filterMap_add f }
  have hwork := congrArg hom h.work
  rw [map_add, pendingWork, map_sum] at hwork
  exact hwork

theorem sum_update (pending : ι → List ω) (i : ι) (es : List ω) :
    ∑ j, (Function.update pending i es j : Multiset ω) + (pending i : Multiset ω) =
      ∑ j, (pending j : Multiset ω) + (es : Multiset ω) := by
  have hsum := sum_add_of_eq_off (f := fun j => (Function.update pending i es j : Multiset ω))
    (g := fun j => (pending j : Multiset ω)) i fun j hj => by rw [Function.update_of_ne hj]
  rwa [Function.update_self] at hsum

variable {enter} {init : σ} {program : ι → List κ} {s : Sections ι κ σ ω}

theorem linear_start : Linear enter init program (start init program) :=
  ⟨rfl, fun _ => rfl, by simp [start, pendingWork, workInTurn, total]⟩

theorem linear_step (h : Linear enter init program s) (i : ι) : Linear enter init program (s.step enter i) := by
  cases hp : s.pending i with
  | cons e es =>
    have hsum := sum_update s.pending i es
    have hhead : ((e :: es : List ω) : Multiset ω) = {e} + es := rfl
    rw [hp, hhead, ← add_assoc] at hsum
    simp only [step, hp]
    refine ⟨h.shared, h.calls, ?_⟩
    rw [← h.work, pendingWork, pendingWork, ← add_right_cancel hsum, ← Multiset.coe_add, Multiset.coe_singleton]
    abel
  | nil =>
    cases hc : s.calls i with
    | nil =>
      simp only [step, hp, hc]
      exact h
    | cons k ks =>
      have hsum := sum_update s.pending i (enter s.shared k).2
      rw [hp, Multiset.coe_nil, add_zero] at hsum
      simp only [step, hp, hc]
      refine ⟨?_, fun j => ?_, ?_⟩
      · rw [List.map_append, List.map_singleton, inTurn_concat, ← h.shared]
      · rw [h.calls j]
        by_cases hj : j = i
        · subst hj
          simp [hc]
        · have hij : ¬ i = j := fun hij => hj hij.symm
          simp [hj, hij]
      · rw [pendingWork, hsum, List.map_append, List.map_singleton, workInTurn_concat, ← Multiset.coe_add, ← h.work,
          ← h.shared, pendingWork, add_assoc]

/-- **The calls are made one after the other**, over every run, in the order of their sections. -/
theorem linear_run (schedule : List ι) : Linear enter init program ((start init program).run enter schedule) := by
  have h : ∀ s : Sections ι κ σ ω, Linear enter init program s → Linear enter init program (s.run enter schedule) := by
    induction schedule with
    | nil => exact fun s hs => hs
    | cons i schedule ih => exact fun s hs => ih _ (linear_step hs i)
  exact h _ linear_start

end Sections

end HanamiNetwork.Basis
