import Mathlib.Data.List.Basic
import Mathlib.Tactic.Linarith

/-!
# Loops over ordered maps

`Std.ExtTreeMap` is an ordered map that is equal to another exactly when it has the
same entries; `toList` gives its entries in the order of the keys. Here is what a loop
over the entries does, when its body touches, for the entry of a key, nothing but what
is kept under that key elsewhere (`KeyWise`): after the loop, each key has been touched
once if the map has an entry for it, and not at all otherwise (`KeyWise.foldl_toList`).

Also here: a map is rebuilt from its entries (`ofList_toList`), a search through the
entries of a map for the first one that is no good (`forall_mem_toList`) or for the first
one that will do (`first_of_find?_toList`), the entries of two maps that agree on some keys
(`filter_toList_congr`), and where an entry that is found after an insertion or an erasure
comes from (`getElem?_of_insert`, `getElem?_erase_eq_some`).
-/

namespace HanamiNetwork.Basis

open Std

universe u v w x

variable {α : Type u} {β : Type v} {δ : Type w} {ρ : Type x} [Ord α] [TransOrd α] [LawfulEqOrd α]

theorem forall_mem_toList (m : ExtTreeMap α β) (P : α × β → Prop) :
    (∀ e ∈ m.toList, P e) ↔ ∀ k v, m[k]? = some v → P (k, v) := by
  constructor
  · intro h k v hv
    exact h (k, v) (ExtTreeMap.mem_toList_iff_getElem?_eq_some.mpr hv)
  · rintro h ⟨k, v⟩ he
    exact h k v (ExtTreeMap.mem_toList_iff_getElem?_eq_some.mp he)

theorem filter_toList_congr {m m' : ExtTreeMap α β} {p : α → Bool} (h : ∀ k, p k = true → m[k]? = m'[k]?) :
    (m.toList.filter fun e => p e.1) = m'.toList.filter fun e => p e.1 := by
  have hm : m.filter (fun k _ => p k) = m'.filter (fun k _ => p k) := by
    apply ExtTreeMap.ext_getElem?
    intro k
    rw [ExtTreeMap.getElem?_filter', ExtTreeMap.getElem?_filter']
    cases hp : p k with
    | true => rw [h k hp]
    | false => cases m[k]? <;> cases m'[k]? <;> rfl
  simpa only [ExtTreeMap.toList_filter] using congrArg ExtTreeMap.toList hm

/-- The entry that a search through the entries finds comes before all others it could have found. -/
theorem first_of_find?_toList {m : ExtTreeMap α β} {p : α × β → Bool} {e : α × β} (h : m.toList.find? p = some e) :
    m[e.1]? = some e.2 ∧ p e = true ∧
      ∀ k v, m[k]? = some v → p (k, v) = true → k = e.1 ∨ compare e.1 k = .lt := by
  obtain ⟨hp, before, after, hl, hbefore⟩ := List.find?_eq_some_iff_append.mp h
  refine ⟨ExtTreeMap.mem_toList_iff_getElem?_eq_some.mp (List.mem_of_find?_eq_some h), hp, fun k v hkv hpk => ?_⟩
  have hmem : (k, v) ∈ before ++ e :: after := hl ▸ ExtTreeMap.mem_toList_iff_getElem?_eq_some.mpr hkv
  have hord : (before ++ e :: after).Pairwise fun a b => compare a.1 b.1 = .lt := by
    have hkeys := ExtTreeMap.ordered_keys_toList (t := m)
    rwa [hl] at hkeys
  rcases List.mem_append.mp hmem with hmem | hmem
  · have hno := hbefore _ hmem
    rw [hpk] at hno
    cases hno
  · rcases List.mem_cons.mp hmem with rfl | hmem
    · exact .inl rfl
    · exact .inr ((List.pairwise_cons.mp (List.pairwise_append.mp hord).2.1).1 _ hmem)

theorem ofList_toList [DecidableEq α] (m : ExtTreeMap α β) : ExtTreeMap.ofList m.toList compare = m := by
  apply ExtTreeMap.ext_getElem?
  intro k
  cases hk : m[k]? with
  | none =>
    apply ExtTreeMap.getElem?_ofList_of_contains_eq_false
    rw [← Bool.not_eq_true, List.contains_iff_mem]
    simp only [List.mem_map, not_exists, not_and]
    rintro ⟨k', v⟩ he rfl
    rw [ExtTreeMap.mem_toList_iff_getElem?_eq_some, hk] at he
    cases he
  | some v =>
    exact ExtTreeMap.getElem?_ofList_of_mem (compare_self) ExtTreeMap.distinct_keys_toList
      (ExtTreeMap.mem_toList_iff_getElem?_eq_some.mpr hk)

/-- What is found after an insertion was inserted, or was there before. -/
theorem getElem?_of_insert {m : ExtTreeMap α β} {k k' : α} {v v' : β}
    (h : (m.insert k v)[k']? = some v') : (k' = k ∧ v' = v) ∨ m[k']? = some v' := by
  rw [ExtTreeMap.getElem?_insert] at h
  split_ifs at h with hk
  · exact .inl ⟨(LawfulEqOrd.eq_of_compare hk).symm, (Option.some_inj.mp h).symm⟩
  · exact .inr h

theorem getElem?_of_insertIfNew {m : ExtTreeMap α β} {k k' : α} {v v' : β}
    (h : (m.insertIfNew k v)[k']? = some v') : (k' = k ∧ v' = v) ∨ m[k']? = some v' := by
  rw [ExtTreeMap.getElem?_insertIfNew] at h
  split_ifs at h with hk
  · exact .inl ⟨(LawfulEqOrd.eq_of_compare hk.1).symm, (Option.some_inj.mp h).symm⟩
  · exact .inr h

theorem getElem?_erase_eq_some {m : ExtTreeMap α β} {k k' : α} {v : β} :
    (m.erase k)[k']? = some v ↔ k' ≠ k ∧ m[k']? = some v := by
  rw [ExtTreeMap.getElem?_erase]
  by_cases hk : k = k'
  · simp [hk]
  · simp [hk, Ne.symm hk]

/-- The body of a loop over entries touches, for the entry of `k`, only what `look` sees
under `k`, which becomes `upd k v` of what it was. -/
def KeyWise [DecidableEq α] (look : δ → α → ρ) (body : δ → α × β → δ) (upd : α → β → ρ → ρ) : Prop :=
  ∀ s k v k', look (body s (k, v)) k' = if k = k' then upd k v (look s k) else look s k'

section

variable [DecidableEq α] {look : δ → α → ρ} {body : δ → α × β → δ} {upd : α → β → ρ → ρ}

omit [Ord α] [TransOrd α] [LawfulEqOrd α] in
/-- A loop over entries of other keys leaves a key alone. -/
theorem KeyWise.foldl_of_not_mem (h : KeyWise look body upd) {l : List (α × β)} {k : α}
    (hk : ∀ v, (k, v) ∉ l) (s : δ) : look (l.foldl body s) k = look s k := by
  induction l generalizing s with
  | nil => rfl
  | cons e l ih =>
    obtain ⟨k', v⟩ := e
    rw [List.foldl_cons, ih (fun v hv => hk v (List.mem_cons_of_mem _ hv)), h, if_neg]
    rintro rfl
    exact hk v List.mem_cons_self

omit [TransOrd α] in
/-- A loop over entries with distinct keys touches each of them once. -/
theorem KeyWise.foldl_of_mem (h : KeyWise look body upd) {l : List (α × β)} {k : α} {v : β}
    (hd : l.Pairwise fun a b => ¬ compare a.1 b.1 = .eq) (hk : (k, v) ∈ l) (s : δ) :
    look (l.foldl body s) k = upd k v (look s k) := by
  induction l generalizing s with
  | nil => cases hk
  | cons e l ih =>
    obtain ⟨hne, hd⟩ := List.pairwise_cons.mp hd
    rw [List.foldl_cons]
    rcases List.mem_cons.mp hk with rfl | hk
    · -- the entry of `k` comes first; none of the others has its key
      rw [h.foldl_of_not_mem, h, if_pos rfl]
      exact fun v' hv' => hne _ hv' compare_self
    · rw [ih hd hk, h, if_neg]
      rintro rfl
      exact hne _ hk compare_self

/-- **A key-wise loop over a map** touches each key of the map once, and no other. -/
theorem KeyWise.foldl_toList (h : KeyWise look body upd) (m : ExtTreeMap α β) (s : δ) (k : α) :
    look (m.toList.foldl body s) k = m[k]?.elim (look s k) fun v => upd k v (look s k) := by
  cases hk : m[k]? with
  | none =>
    refine h.foldl_of_not_mem (fun v hv => ?_) s
    rw [ExtTreeMap.mem_toList_iff_getElem?_eq_some, hk] at hv
    cases hv
  | some v =>
    exact h.foldl_of_mem ExtTreeMap.distinct_keys_toList
      (ExtTreeMap.mem_toList_iff_getElem?_eq_some.mpr hk) s

end

end HanamiNetwork.Basis
