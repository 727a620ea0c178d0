import Mathlib.Data.List.Basic

/-!
# Computations with a trace

A `Traced ε α` is a computation that leaves effects `ε` behind, in order, and returns
an `α` — or does not return, as a C++ function that dereferences a null pointer does
not. It is a monad, so that imperative code is written down statement by statement;
what such code does is then read off its `effects` and its `value`.

* `effects_bind`, `value_bind` — what a sequence leaves behind and returns.
* `mem_effects_bind` — where an effect of a sequence comes from.
* `Emits Q p` — every effect of `p` satisfies `Q`; closed under sequencing
  (`Emits.bind`), so that one fact for each callee gives it for the caller.
-/

namespace HanamiNetwork.Basis

universe u

/-- A computation with a trace: its effects in order, and its value, `none` when it
does not return. -/
@[ext]
structure Traced (ε α : Type u) where
  /-- The effects, first one first. -/
  effects : List ε
  /-- The value, if the computation returns. -/
  value : Option α

namespace Traced

variable {ε α β : Type u}

/-- Leave an effect behind. -/
def emit (e : ε) : Traced ε PUnit := ⟨[e], some ⟨⟩⟩

/-- Go on with the value, or do not return. -/
def ofOption (v : Option α) : Traced ε α := ⟨[], v⟩

instance : Monad (Traced ε) where
  pure a := ⟨[], some a⟩
  bind p f := ⟨p.effects ++ p.value.elim [] fun a => (f a).effects, p.value.bind fun a => (f a).value⟩

@[simp] theorem effects_pure (a : α) : (pure a : Traced ε α).effects = [] := rfl

@[simp] theorem value_pure (a : α) : (pure a : Traced ε α).value = some a := rfl

@[simp] theorem effects_emit (e : ε) : (emit e).effects = [e] := rfl

@[simp] theorem value_emit (e : ε) : (emit e).value = some ⟨⟩ := rfl

@[simp] theorem effects_ofOption (v : Option α) : (ofOption v : Traced ε α).effects = [] := rfl

@[simp] theorem value_ofOption (v : Option α) : (ofOption v : Traced ε α).value = v := rfl

@[simp] theorem effects_bind (p : Traced ε α) (f : α → Traced ε β) :
    (p >>= f).effects = p.effects ++ p.value.elim [] fun a => (f a).effects := rfl

@[simp] theorem value_bind (p : Traced ε α) (f : α → Traced ε β) :
    (p >>= f).value = p.value.bind fun a => (f a).value := rfl

@[simp] theorem effects_map (f : α → β) (p : Traced ε α) : (f <$> p).effects = p.effects := by
  cases p with
  | mk effects value => cases value <;> simp [Functor.map]

@[simp] theorem value_map (f : α → β) (p : Traced ε α) : (f <$> p).value = p.value.map f := by
  cases p with
  | mk effects value => cases value <;> simp [Functor.map]

instance : LawfulMonad (Traced ε) := LawfulMonad.mk' (Traced ε)
  (fun p => by ext <;> simp)
  (fun a f => by ext <;> simp)
  (fun p f g => by
    cases p with
    | mk effects value => cases value <;> simp [Traced.ext_iff])

/-- An effect of a sequence is an effect of its first part, or of the second part run
on the value of the first. -/
theorem mem_effects_bind {e : ε} {p : Traced ε α} {f : α → Traced ε β} :
    e ∈ (p >>= f).effects ↔ e ∈ p.effects ∨ ∃ a, p.value = some a ∧ e ∈ (f a).effects := by
  cases h : p.value with
  | none => simp [h]
  | some a => simp [h]

theorem bind_of_value {p : Traced ε α} {a : α} (h : p.value = some a) (f : α → Traced ε β) :
    p >>= f = ⟨p.effects ++ (f a).effects, (f a).value⟩ := by
  ext <;> simp [h]

theorem emit_bind (e : ε) (p : Traced ε β) : (emit e >>= fun _ => p) = ⟨e :: p.effects, p.value⟩ :=
  bind_of_value (value_emit e) fun _ => p

theorem ofOption_some_bind (a : α) (f : α → Traced ε β) : (ofOption (some a) >>= f) = f a := rfl

/-! ### Computations all of whose effects are of one kind -/

/-- Every effect of `p` satisfies `Q`. -/
def Emits (Q : ε → Prop) (p : Traced ε α) : Prop := ∀ e ∈ p.effects, Q e

variable {Q : ε → Prop}

@[simp] theorem emits_pure (a : α) : Emits Q (pure a : Traced ε α) := by simp [Emits]

@[simp] theorem emits_ofOption (v : Option α) : Emits Q (ofOption v : Traced ε α) := by simp [Emits]

@[simp] theorem emits_emit (e : ε) : Emits Q (emit e) ↔ Q e := by simp [Emits]

theorem Emits.bind {p : Traced ε α} {f : α → Traced ε β} (hp : Emits Q p) (hf : ∀ a, Emits Q (f a)) :
    Emits Q (p >>= f) := by
  intro e he
  rcases mem_effects_bind.mp he with he | ⟨a, -, he⟩
  · exact hp e he
  · exact hf a e he

theorem Emits.mono {Q' : ε → Prop} (h : ∀ e, Q e → Q' e) {p : Traced ε α} (hp : Emits Q p) : Emits Q' p :=
  fun e he => h e (hp e he)

theorem Emits.filter_eq_nil {t : ε → Bool} {p : Traced ε α} (h : Emits (fun e => t e = false) p) :
    p.effects.filter t = [] := by
  rw [List.filter_eq_nil_iff]
  intro e he
  simp [h e he]

end Traced

end HanamiNetwork.Basis
