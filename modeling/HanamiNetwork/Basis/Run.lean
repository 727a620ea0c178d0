import Mathlib.Data.List.Basic

/-!
# Runs of a deterministic machine

A machine is a function `step : σ → ι → σ`; a run feeds it a list of inputs. Three
things are said about runs here, over any state and input:

* `Along step P s es` — every input of the run is taken in a state where `P` holds
  of the state and the input.
* `Throughout step I s es` — `I` holds at the start and after every input.
* `throughout_iff_along` — when one step keeps `I` exactly if its input meets `C`,
  the whole run keeps `I` exactly if all its inputs meet `C`. This is the rule by
  which the exact condition of a single step becomes the exact condition of a run.
-/

namespace HanamiNetwork.Basis

universe u v

variable {σ : Type u} {ι : Type v}

/-- Every input of the run is taken in a state where `P` holds. -/
def Along (step : σ → ι → σ) (P : σ → ι → Prop) : σ → List ι → Prop
  | _, [] => True
  | s, e :: es => P s e ∧ Along step P (step s e) es

/-- `I` holds at the start of the run and after every input. -/
def Throughout (step : σ → ι → σ) (I : σ → Prop) : σ → List ι → Prop
  | s, [] => I s
  | s, e :: es => I s ∧ Throughout step I (step s e) es

variable {step : σ → ι → σ} {P Q : σ → ι → Prop} {I J : σ → Prop}

@[simp] theorem along_nil (s : σ) : Along step P s [] ↔ True := Iff.rfl

@[simp] theorem along_cons (s : σ) (e : ι) (es : List ι) :
    Along step P s (e :: es) ↔ P s e ∧ Along step P (step s e) es := Iff.rfl

@[simp] theorem throughout_nil (s : σ) : Throughout step I s [] ↔ I s := Iff.rfl

@[simp] theorem throughout_cons (s : σ) (e : ι) (es : List ι) :
    Throughout step I s (e :: es) ↔ I s ∧ Throughout step I (step s e) es := Iff.rfl

theorem Throughout.start {s : σ} {es : List ι} (h : Throughout step I s es) : I s := by
  cases es with
  | nil => exact h
  | cons e es => exact h.1

theorem Along.mono (h : ∀ s e, P s e → Q s e) {s : σ} {es : List ι} (hP : Along step P s es) :
    Along step Q s es := by
  induction es generalizing s with
  | nil => trivial
  | cons e es ih => exact ⟨h s e hP.1, ih hP.2⟩

theorem Along.of_forall (h : ∀ s e, P s e) (s : σ) (es : List ι) : Along step P s es := by
  induction es generalizing s with
  | nil => trivial
  | cons e es ih => exact ⟨h s e, ih _⟩

/-- Inputs that leave the state as it is are all taken in it. -/
theorem Along.of_still {s : σ} {es : List ι} (h : ∀ e ∈ es, P s e ∧ step s e = s) : Along step P s es := by
  induction es with
  | nil => trivial
  | cons e es ih =>
    rw [List.forall_mem_cons] at h
    obtain ⟨⟨hP, hstill⟩, hes⟩ := h
    rw [along_cons, hstill]
    exact ⟨hP, ih hes⟩

theorem along_and {s : σ} {es : List ι} :
    Along step (fun s e => P s e ∧ Q s e) s es ↔ Along step P s es ∧ Along step Q s es := by
  induction es generalizing s with
  | nil => simp
  | cons e es ih =>
    rw [along_cons, along_cons, along_cons, ih]
    exact and_and_and_comm

/-- Where an invariant holds throughout, what it says of an input holds along the run. -/
theorem Throughout.along (h : ∀ s e, I s → Q s e) {s : σ} {es : List ι} (hI : Throughout step I s es) :
    Along step Q s es := by
  induction es generalizing s with
  | nil => trivial
  | cons e es ih => exact ⟨h s e hI.1, ih hI.2⟩

theorem Throughout.along_congr (h : ∀ s e, I s → (P s e ↔ Q s e)) {s : σ} {es : List ι}
    (hI : Throughout step I s es) : Along step P s es ↔ Along step Q s es := by
  constructor
  · intro hP
    exact (along_and.mpr ⟨hI.along h, hP⟩).mono fun _ _ hse => hse.1.mp hse.2
  · intro hQ
    exact (along_and.mpr ⟨hI.along h, hQ⟩).mono fun _ _ hse => hse.1.mpr hse.2

/-- An invariant that every step keeps holds throughout every run. -/
theorem Throughout.of_step (h : ∀ s e, I s → I (step s e)) {s : σ} (hs : I s) (es : List ι) :
    Throughout step I s es := by
  induction es generalizing s with
  | nil => exact hs
  | cons e es ih => exact ⟨hs, ih (h s e hs)⟩

/-- **The exact condition of a run**: if, from a state satisfying `I`, a permitted
input keeps `I` exactly when it meets `C`, then a run of permitted inputs keeps `I`
throughout exactly when all its inputs meet `C`. -/
theorem throughout_iff_along {E C : σ → ι → Prop}
    (h : ∀ s e, I s → E s e → (I (step s e) ↔ C s e)) {s : σ} (hs : I s) {es : List ι}
    (hE : Along step E s es) : Throughout step I s es ↔ Along step C s es := by
  induction es generalizing s with
  | nil => simpa using hs
  | cons e es ih =>
    rw [throughout_cons, along_cons]
    constructor
    · rintro ⟨-, ht⟩
      exact ⟨(h s e hs hE.1).mp ht.start, (ih ht.start hE.2).mp ht⟩
    · rintro ⟨hc, hcs⟩
      have hI := (h s e hs hE.1).mpr hc
      exact ⟨hs, (ih hI hE.2).mpr hcs⟩

end HanamiNetwork.Basis
