import HanamiNetwork.Basis.Trace

/-!
# Polling

Waiting by asking again and again: `poll` asks a bounded number of times, leaves an effect
behind after each time without an answer, and gives up in the end. The answers come from
outside, so they are any function of the number of times asked before.

A poll always returns (`returns_poll`), and it does so in one of two ways: with the first
answer (`poll_answered`), or, if there is none in time, with the value it gives up with
(`poll_unanswered`).
-/

namespace HanamiNetwork.Basis

universe u

variable {ε α : Type u} (e : ε) (answer : ℕ → Option α) (giveUp : α)

/-- Ask up to `n` times; `k` is how many times were asked before. -/
def poll (n k : ℕ) : Traced ε α :=
  match n with
  | 0 => pure giveUp
  | n + 1 =>
    match answer k with
    | some a => pure a
    | none => do
      Traced.emit e
      poll n (k + 1)

variable {e answer giveUp}

@[simp] theorem poll_zero (k : ℕ) : poll e answer giveUp 0 k = ⟨[], some giveUp⟩ := rfl

theorem poll_of_some {k : ℕ} {a : α} (h : answer k = some a) (n : ℕ) :
    poll e answer giveUp (n + 1) k = ⟨[], some a⟩ := by
  rw [poll, h]
  rfl

theorem poll_of_none {k : ℕ} (h : answer k = none) (n : ℕ) : poll e answer giveUp (n + 1) k =
    ⟨e :: (poll e answer giveUp n (k + 1)).effects, (poll e answer giveUp n (k + 1)).value⟩ := by
  rw [poll, h]
  exact Traced.emit_bind e _

/-- A poll returns, after no more waits than it was allowed. -/
theorem returns_poll (n k : ℕ) :
    (poll e answer giveUp n k).value.isSome ∧ (poll e answer giveUp n k).effects.length ≤ n := by
  induction n generalizing k with
  | zero => simp
  | succ n ih =>
    cases h : answer k with
    | some a => simp [poll_of_some h]
    | none =>
      rw [poll_of_none h]
      exact ⟨(ih (k + 1)).1, Nat.succ_le_succ (ih (k + 1)).2⟩

/-- As long as there is no answer, the poll waits. -/
theorem poll_add {m k : ℕ} (h : ∀ j < m, answer (k + j) = none) (n : ℕ) : poll e answer giveUp (m + n) k =
    ⟨List.replicate m e ++ (poll e answer giveUp n (k + m)).effects, (poll e answer giveUp n (k + m)).value⟩ := by
  induction m generalizing k with
  | zero => simp
  | succ m ih =>
    have hk : answer k = none := h 0 m.succ_pos
    have hrest : ∀ j < m, answer (k + 1 + j) = none := by
      intro j hj
      rw [Nat.add_right_comm]
      exact h (j + 1) (Nat.succ_lt_succ hj)
    rw [Nat.add_right_comm, poll_of_none hk, ih hrest, Nat.add_right_comm, ← Nat.add_assoc]
    rfl

theorem poll_unanswered {n k : ℕ} (h : ∀ j < n, answer (k + j) = none) :
    poll e answer giveUp n k = ⟨List.replicate n e, some giveUp⟩ := by
  have hn : poll e answer giveUp (n + 0) k = _ := poll_add h 0
  rw [Nat.add_zero] at hn
  simp [hn]

theorem poll_answered {n m k : ℕ} {a : α} (hm : m < n) (h : ∀ j < m, answer (k + j) = none)
    (ha : answer (k + m) = some a) : poll e answer giveUp n k = ⟨List.replicate m e, some a⟩ := by
  obtain ⟨d, rfl⟩ := Nat.exists_eq_add_of_lt hm
  rw [Nat.add_assoc, poll_add h, poll_of_some ha]
  simp

theorem unanswered_or_answered (answer : ℕ → Option α) (n : ℕ) : (∀ j < n, answer j = none) ∨
    ∃ m < n, ∃ a, (∀ j < m, answer j = none) ∧ answer m = some a := by
  induction n with
  | zero => exact .inl fun j hj => absurd hj j.not_lt_zero
  | succ n ih =>
    rcases ih with h | ⟨m, hm, a, hfirst, ha⟩
    · cases hn : answer n with
      | some a => exact .inr ⟨n, n.lt_succ_self, a, h, hn⟩
      | none =>
        left
        intro j hj
        rcases Nat.lt_succ_iff_lt_or_eq.mp hj with hj | rfl
        · exact h j hj
        · exact hn
    · exact .inr ⟨m, Nat.lt_succ_of_lt hm, a, hfirst, ha⟩

end HanamiNetwork.Basis
