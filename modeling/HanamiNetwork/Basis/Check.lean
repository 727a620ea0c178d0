import Mathlib.Data.List.Basic

/-!
# Checks

The verdict of a validation that stops at the first thing it does not like: it passes,
it fails with a message, or it crashes on the way. Checks are put in sequence (`andThen`)
and run over lists (`forEach`); in both cases the verdict is the first one that is not
`passed`.
-/

namespace HanamiNetwork.Basis

universe u v

/-- The verdict of a check. -/
inductive Check (ε : Type u) where
  /-- Nothing was found. -/
  | passed
  /-- The check failed, with this message. -/
  | failed (errorMessage : ε)
  /-- The check did not come to an end. -/
  | crashed
  deriving DecidableEq

namespace Check

variable {ε : Type u} {α : Type v}

/-- Fail with a message unless a test is passed. -/
def require (test : Bool) (errorMessage : ε) : Check ε := if test then passed else failed errorMessage

/-- Go on with the next check if this one passes. -/
def andThen : Check ε → Check ε → Check ε
  | passed, next => next
  | failed errorMessage, _ => failed errorMessage
  | crashed, _ => crashed

/-- Check one element after the other. -/
def forEach (f : α → Check ε) : List α → Check ε
  | [] => passed
  | a :: l => (f a).andThen (forEach f l)

@[simp] theorem require_eq_passed {test : Bool} {errorMessage : ε} :
    require test errorMessage = passed ↔ test = true := by
  cases test <;> simp [require]

@[simp] theorem require_ne_crashed {test : Bool} {errorMessage : ε} : require test errorMessage ≠ crashed := by
  cases test <;> simp [require]

@[simp] theorem andThen_eq_passed {c next : Check ε} :
    c.andThen next = passed ↔ c = passed ∧ next = passed := by
  cases c <;> simp [andThen]

@[simp] theorem andThen_eq_crashed {c next : Check ε} :
    c.andThen next = crashed ↔ c = crashed ∨ c = passed ∧ next = crashed := by
  cases c <;> simp [andThen]

theorem andThen_ne_crashed {c next : Check ε} (hc : c ≠ crashed) (hnext : next ≠ crashed) :
    c.andThen next ≠ crashed := by
  rw [ne_eq, andThen_eq_crashed]
  exact fun h => h.elim hc fun h => hnext h.2

@[simp] theorem forEach_eq_passed {f : α → Check ε} {l : List α} :
    forEach f l = passed ↔ ∀ a ∈ l, f a = passed := by
  induction l with
  | nil => simp [forEach]
  | cons a l ih => rw [forEach, andThen_eq_passed, ih, List.forall_mem_cons]

/-- A check of a list crashes on an element that it gets to. -/
theorem forEach_eq_crashed_iff {f : α → Check ε} {l : List α} :
    forEach f l = crashed ↔ ∃ before a after, l = before ++ a :: after ∧ (∀ b ∈ before, f b = passed) ∧
      f a = crashed := by
  induction l with
  | nil => simp [forEach]
  | cons a l ih =>
    rw [forEach, andThen_eq_crashed, ih]
    constructor
    · rintro (ha | ⟨ha, before, b, after, rfl, hbefore, hb⟩)
      · exact ⟨[], a, l, rfl, nofun, ha⟩
      · exact ⟨a :: before, b, after, rfl, List.forall_mem_cons.mpr ⟨ha, hbefore⟩, hb⟩
    · rintro ⟨before, b, after, hl, hbefore, hb⟩
      cases before with
      | nil =>
        obtain ⟨rfl, -⟩ := List.cons.inj hl
        exact .inl hb
      | cons first before =>
        obtain ⟨rfl, rfl⟩ := List.cons.inj hl
        obtain ⟨ha, hbefore⟩ := List.forall_mem_cons.mp hbefore
        exact .inr ⟨ha, before, b, after, rfl, hbefore, hb⟩

theorem forEach_ne_crashed {f : α → Check ε} {l : List α} (h : ∀ a ∈ l, f a ≠ crashed) :
    forEach f l ≠ crashed := by
  rw [ne_eq, forEach_eq_crashed_iff]
  rintro ⟨before, a, after, rfl, -, ha⟩
  exact h a (List.mem_append_right _ List.mem_cons_self) ha

theorem forEach_congr {f g : α → Check ε} {l : List α} (h : ∀ a ∈ l, f a = g a) : forEach f l = forEach g l := by
  induction l with
  | nil => rfl
  | cons a l ih =>
    rw [forEach, forEach, h a List.mem_cons_self, ih fun b hb => h b (List.mem_cons_of_mem a hb)]

/-- Elements that pass can be left out. -/
theorem forEach_filter {f : α → Check ε} {p : α → Bool} {l : List α} (h : ∀ a ∈ l, p a = false → f a = passed) :
    forEach f (l.filter p) = forEach f l := by
  induction l with
  | nil => rfl
  | cons a l ih =>
    have ih := ih fun b hb => h b (List.mem_cons_of_mem a hb)
    cases hp : p a with
    | true => rw [List.filter_cons_of_pos hp, forEach, forEach, ih]
    | false =>
      rw [List.filter_cons_of_neg (by simp [hp]), forEach, h a List.mem_cons_self hp, ih]
      rfl

end Check

end HanamiNetwork.Basis
