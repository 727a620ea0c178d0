import HanamiNetwork.Basis.Mutex
import Mathlib.Algebra.BigOperators.Group.Finset.Basic
import Mathlib.Algebra.Order.BigOperators.Group.Finset
import Mathlib.Data.Finset.Max
import Mathlib.Data.Fintype.Basic
import Mathlib.Logic.Relation

/-!
# Threads and their locks

Several threads, each with the locks it will take and release, in any interleaving: a mutex is
taken only while no thread holds it.

Locks that are taken in the order of their ranks (`Orderly`) cannot make threads wait for each
other in a circle. What is left is a thread that waits for itself: `neverStuck_iff` says that from
every state that can be reached all threads can still come to their end, exactly if none of them
tries to take a mutex it holds itself.
-/

namespace HanamiNetwork.Basis

universe u v

variable {ι : Type v} {μ : Type u}

/-- Threads, with what is ahead of them and what they hold. -/
structure Threads (ι : Type v) (μ : Type u) where
  /-- What each thread will do. -/
  todo : ι → List (LockEvent μ)
  /-- The mutexes each thread holds. -/
  held : ι → List μ

section

variable [DecidableEq μ]

/-- Every mutex that is taken is held already, or ranks above all that are held. -/
def Orderly (rank : μ → ℕ) : List μ → List (LockEvent μ) → Prop
  | _, [] => True
  | held, .acquire m :: es => (∀ m' ∈ held, m' = m ∨ rank m' < rank m) ∧ Orderly rank (m :: held) es
  | held, .release m :: es => Orderly rank (held.erase m) es

/-- A trace that takes its mutexes in order, and leaves none behind. -/
structure Block (rank : μ → ℕ) (es : List (LockEvent μ)) : Prop where
  /-- In order. -/
  orderly : Orderly rank [] es
  /-- None behind. -/
  balanced : heldAfter [] es = []

variable {rank : μ → ℕ}

theorem heldAfter_append (held : List μ) (es fs : List (LockEvent μ)) :
    heldAfter held (es ++ fs) = heldAfter (heldAfter held es) fs := by
  induction es generalizing held with
  | nil => rfl
  | cons e es ih => cases e <;> simp [heldAfter, ih]

theorem orderly_append (held : List μ) (es fs : List (LockEvent μ)) :
    Orderly rank held (es ++ fs) ↔ Orderly rank held es ∧ Orderly rank (heldAfter held es) fs := by
  induction es generalizing held with
  | nil => simp [heldAfter, Orderly]
  | cons e es ih =>
    cases e with
    | acquire m => simp only [List.cons_append, Orderly, heldAfter, ih, and_assoc]
    | release m => simp only [List.cons_append, Orderly, heldAfter, ih]

theorem heldAfter_guarded {held : List μ} {m : μ} {es : List (LockEvent μ)}
    (h : heldAfter (m :: held) es = m :: held) : heldAfter held (guarded m es) = held := by
  simp [guarded, heldAfter, heldAfter_append, h]

theorem orderly_guarded {held : List μ} {m : μ} {es : List (LockEvent μ)} :
    Orderly rank held (guarded m es) ↔
      (∀ m' ∈ held, m' = m ∨ rank m' < rank m) ∧ Orderly rank (m :: held) es := by
  rw [guarded, Orderly, orderly_append]
  simp [Orderly]

theorem Block.append {es fs : List (LockEvent μ)} (h : Block rank es) (h' : Block rank fs) : Block rank (es ++ fs) := by
  constructor
  · rw [orderly_append, h.balanced]
    exact ⟨h.orderly, h'.orderly⟩
  · rw [heldAfter_append, h.balanced, h'.balanced]

theorem Block.nil : Block rank ([] : List (LockEvent μ)) := ⟨trivial, rfl⟩

end

namespace Threads

/-- The start of a program. -/
def start (program : ι → List (LockEvent μ)) : Threads ι μ := ⟨program, fun _ => []⟩

/-- All threads are at their end, and no mutex is held. -/
def Done (s : Threads ι μ) : Prop := ∀ i, s.todo i = [] ∧ s.held i = []

variable [DecidableEq ι] [DecidableEq μ]

/-- A thread goes on. -/
def advance (s : Threads ι μ) (i : ι) (es : List (LockEvent μ)) (held : List μ) : Threads ι μ :=
  ⟨Function.update s.todo i es, Function.update s.held i held⟩

/-- One step of one thread. -/
inductive Step : Threads ι μ → Threads ι μ → Prop where
  /-- A mutex is taken that no thread holds. -/
  | acquire {s : Threads ι μ} {i : ι} {m : μ} {es : List (LockEvent μ)} (h : s.todo i = .acquire m :: es)
      (hfree : ∀ j, m ∉ s.held j) : Step s (s.advance i es (m :: s.held i))
  /-- A mutex is released. -/
  | release {s : Threads ι μ} {i : ι} {m : μ} {es : List (LockEvent μ)} (h : s.todo i = .release m :: es) :
      Step s (s.advance i es ((s.held i).erase m))

/-- Whatever the threads get into, all of them can still come to their end. -/
def NeverStuck (program : ι → List (LockEvent μ)) : Prop :=
  ∀ s, Relation.ReflTransGen Step (start program) s → ∃ s', Relation.ReflTransGen Step s s' ∧ s'.Done

/-- What the steps keep of the threads of a program. -/
structure Inv (rank : μ → ℕ) (program : ι → List (LockEvent μ)) (s : Threads ι μ) : Prop where
  /-- What is ahead is in order. -/
  orderly : ∀ i, Orderly rank (s.held i) (s.todo i)
  /-- In the end nothing is held. -/
  balanced : ∀ i, heldAfter (s.held i) (s.todo i) = []
  /-- Whether a thread comes to wait for itself is still open. -/
  noRelock : ∀ i, NoRelock [] (program i) ↔ NoRelock (s.held i) (s.todo i)

variable {rank : μ → ℕ} {program : ι → List (LockEvent μ)} {s s' : Threads ι μ}

omit [DecidableEq ι] in
theorem inv_start (h : ∀ i, Block rank (program i)) : Inv rank program (start program) :=
  ⟨fun i => (h i).orderly, fun i => (h i).balanced, fun _ => Iff.rfl⟩

omit [DecidableEq μ] in
theorem forall_advance {P : ι → List μ → List (LockEvent μ) → Prop} {i : ι} {es : List (LockEvent μ)} {held : List μ}
    (hi : P i held es) (h : ∀ j, P j (s.held j) (s.todo j)) :
    ∀ j, P j ((s.advance i es held).held j) ((s.advance i es held).todo j) := by
  intro j
  by_cases hj : j = i
  · subst hj
    simpa [advance] using hi
  · simpa [advance, Function.update_of_ne hj] using h j

theorem inv_step (h : Inv rank program s) (hs : Step s s') : Inv rank program s' := by
  cases hs with
  | @acquire i m es htodo hfree =>
    have ho := h.orderly i
    have hb := h.balanced i
    have hn := h.noRelock i
    rw [htodo] at ho hb hn
    simp only [NoRelock, hfree i, not_false_eq_true, true_and] at hn
    exact ⟨forall_advance (P := fun _ held es => Orderly rank held es) ho.2 h.orderly,
      forall_advance (P := fun _ held es => heldAfter held es = []) hb h.balanced,
      forall_advance (P := fun i held es => NoRelock [] (program i) ↔ NoRelock held es) hn h.noRelock⟩
  | @release i m es htodo =>
    have ho := h.orderly i
    have hb := h.balanced i
    have hn := h.noRelock i
    rw [htodo] at ho hb hn
    exact ⟨forall_advance (P := fun _ held es => Orderly rank held es) ho h.orderly,
      forall_advance (P := fun _ held es => heldAfter held es = []) hb h.balanced,
      forall_advance (P := fun i held es => NoRelock [] (program i) ↔ NoRelock held es) hn h.noRelock⟩

theorem inv_of_reachable (h : Inv rank program s) (hs : Relation.ReflTransGen Step s s') : Inv rank program s' := by
  induction hs with
  | refl => exact h
  | tail _ hstep ih => exact inv_step ih hstep

variable [Fintype ι]

/-- What is ahead of all threads. -/
def remaining (s : Threads ι μ) : ℕ := ∑ i, (s.todo i).length

omit [DecidableEq μ] in
theorem remaining_advance_lt {i : ι} {e : LockEvent μ} {es : List (LockEvent μ)} {held : List μ}
    (h : s.todo i = e :: es) : (s.advance i es held).remaining < s.remaining := by
  refine Finset.sum_lt_sum (fun j _ => ?_) ⟨i, Finset.mem_univ i, ?_⟩
  · by_cases hj : j = i
    · subst hj
      simp [advance, h]
    · simp [advance, Function.update_of_ne hj]
  · simp [advance, h]

theorem remaining_step_lt (hs : Step s s') : s'.remaining < s.remaining := by
  cases hs with
  | acquire h _ => exact remaining_advance_lt h
  | release h => exact remaining_advance_lt h

/-- Every state can be run until no thread can go on. -/
theorem exists_halted (s : Threads ι μ) : ∃ s', Relation.ReflTransGen Step s s' ∧ ∀ s'', ¬ Step s' s'' := by
  induction hn : s.remaining using Nat.strong_induction_on generalizing s with
  | _ n ih =>
    by_cases h : ∃ s', Step s s'
    · obtain ⟨s', hs⟩ := h
      obtain ⟨s'', hs'', hhalted⟩ := ih s'.remaining (hn ▸ remaining_step_lt hs) s' rfl
      exact ⟨s'', .head hs hs'', hhalted⟩
    · exact ⟨s, .refl, not_exists.mp h⟩

/-- The rank of the mutex that a thread takes next. -/
def nextRank (rank : μ → ℕ) : List (LockEvent μ) → ℕ
  | .acquire m :: _ => rank m
  | _ => 0

/-- Where no thread can go on, and none waits for itself, all are at their end. -/
theorem done_of_halted (h : Inv rank program s) (hrelock : ∀ i, NoRelock [] (program i)) (hs : ∀ s', ¬ Step s s') :
    s.Done := by
  have hwaits : ∀ i, s.todo i ≠ [] → ∃ m es j, s.todo i = .acquire m :: es ∧ m ∈ s.held j := by
    intro i hi
    obtain ⟨e, es, htodo⟩ := List.exists_cons_of_ne_nil hi
    cases e with
    | release m => exact absurd (Step.release htodo) (hs _)
    | acquire m =>
      by_contra hnot
      exact hs _ (Step.acquire htodo fun j hj => hnot ⟨m, es, j, htodo, hj⟩)
  suffices hnil : ∀ i, s.todo i = [] by
    intro i
    have hb := h.balanced i
    rw [hnil i] at hb
    exact ⟨hnil i, hb⟩
  by_contra hnot
  obtain ⟨i₀, hi₀⟩ := not_forall.mp hnot
  -- of those, take one that waits for a mutex of the highest rank
  obtain ⟨i, hi, hmax⟩ := Finset.exists_max_image (Finset.univ.filter fun i => s.todo i ≠ [])
    (fun i => nextRank rank (s.todo i)) ⟨i₀, by simpa using hi₀⟩
  obtain ⟨m, es, j, htodo, hheld⟩ := hwaits i (by simpa using hi)
  have hj : s.todo j ≠ [] := by
    intro hnil
    have hb := h.balanced j
    rw [hnil] at hb
    rw [show s.held j = [] from hb] at hheld
    exact absurd hheld List.not_mem_nil
  obtain ⟨m', es', -, htodo', -⟩ := hwaits j hj
  have ho := h.orderly j
  have hn := (h.noRelock j).mp (hrelock j)
  rw [htodo'] at ho hn
  have hle := hmax j (by simpa using hj)
  simp only [nextRank, htodo, htodo'] at hle
  rcases ho.1 m hheld with rfl | hlt
  · exact hn.1 hheld
  · omega

/-- **Ordered locks leave only self-deadlocks**: threads that take their mutexes in order never get
stuck exactly if none of them tries to take a mutex it holds. -/
theorem neverStuck_iff (h : ∀ i, Block rank (program i)) :
    NeverStuck program ↔ ∀ i, NoRelock [] (program i) := by
  constructor
  · intro hnever i
    obtain ⟨s, hs, hdone⟩ := hnever _ .refl
    rw [(inv_of_reachable (inv_start h) hs).noRelock i, (hdone i).1]
    trivial
  · intro hrelock s hs
    obtain ⟨s', hs', hhalted⟩ := exists_halted s
    exact ⟨s', hs', done_of_halted (inv_of_reachable (inv_start h) (hs.trans hs')) hrelock hhalted⟩

end Threads

end HanamiNetwork.Basis
