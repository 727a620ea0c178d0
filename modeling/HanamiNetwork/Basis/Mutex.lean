import Mathlib.Data.List.Basic

/-!
# Non-recursive mutexes

The locks one thread takes and releases, in order. A thread that tries to take a
non-recursive mutex it already holds waits for itself; `NoRelock held es` says that it
does not come to that, starting with the mutexes `held`. Two traces in sequence are
treated by `noRelock_append`, a guarded section by `noRelock_guarded`.
-/

namespace HanamiNetwork.Basis

universe u

/-- What a thread does to a mutex. -/
inductive LockEvent (μ : Type u) where
  /-- It takes it. -/
  | acquire (m : μ)
  /-- It releases it. -/
  | release (m : μ)
  deriving DecidableEq

variable {μ : Type u} [DecidableEq μ]

/-- The mutexes held after a trace. -/
def heldAfter : List μ → List (LockEvent μ) → List μ
  | held, [] => held
  | held, .acquire m :: es => heldAfter (m :: held) es
  | held, .release m :: es => heldAfter (held.erase m) es

/-- No mutex is taken that is already held. -/
def NoRelock : List μ → List (LockEvent μ) → Prop
  | _, [] => True
  | held, .acquire m :: es => m ∉ held ∧ NoRelock (m :: held) es
  | held, .release m :: es => NoRelock (held.erase m) es

instance NoRelock.decide : (held : List μ) → (es : List (LockEvent μ)) → Decidable (NoRelock held es)
  | _, [] => inferInstanceAs (Decidable True)
  | held, .acquire m :: es =>
    haveI := NoRelock.decide (m :: held) es
    inferInstanceAs (Decidable (m ∉ held ∧ NoRelock (m :: held) es))
  | held, .release m :: es => NoRelock.decide (held.erase m) es

theorem noRelock_append (held : List μ) (es fs : List (LockEvent μ)) :
    NoRelock held (es ++ fs) ↔ NoRelock held es ∧ NoRelock (heldAfter held es) fs := by
  induction es generalizing held with
  | nil => simp [heldAfter, NoRelock]
  | cons e es ih =>
    cases e with
    | acquire m => simp only [List.cons_append, NoRelock, heldAfter, ih, and_assoc]
    | release m => simp only [List.cons_append, NoRelock, heldAfter, ih]

/-- A guarded section: a mutex is taken, and released at the end. -/
def guarded (m : μ) (es : List (LockEvent μ)) : List (LockEvent μ) := .acquire m :: (es ++ [.release m])

/-- A guarded section takes no held mutex if its own is free, and what is inside takes none
while it is held. -/
theorem noRelock_guarded (held : List μ) (m : μ) (es : List (LockEvent μ)) :
    NoRelock held (guarded m es) ↔ m ∉ held ∧ NoRelock (m :: held) es := by
  rw [guarded, NoRelock, noRelock_append]
  simp [NoRelock]

end HanamiNetwork.Basis
