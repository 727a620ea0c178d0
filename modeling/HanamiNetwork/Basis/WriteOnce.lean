import Mathlib.Data.List.Basic
import Mathlib.Data.List.Nodup
import Mathlib.Logic.Function.Basic

/-!
# Write-once maps

A write-once map keeps, under each key, the first value that was added there; a later one
is rejected. Such a map is a function `κ → Option ν`, and after any list of additions it
holds `firstAdded` (`addAll_apply`). So does an ordered map that is filled by `insertIfNew`
(`getElem?_foldl_insertIfNew`); filled with the entries of another, it lists them in the
same order (`toList_foldl_insertIfNew`).

A program keeps a write-once map by pairs as a map of maps, and makes an inner map when it
needs one. `Nested.flat` forgets the nesting, and `Adds` says of one addition that it
refines the flat one; it holds of an addition that finds its pair taken (`adds_taken`),
and of one that puts the pair into the inner map it finds, or into a new one (`adds_new`).
-/

namespace HanamiNetwork.Basis.WriteOnce

open Std

universe u v w

/-! ### Flat maps -/

section

variable {κ : Type u} {ν : Type v} [DecidableEq κ]

/-- Add a value under a key, unless the key is taken. -/
def add (m : κ → Option ν) (e : κ × ν) : Bool × (κ → Option ν) :=
  match m e.1 with
  | some _ => (false, m)
  | none => (true, Function.update m e.1 (some e.2))

/-- Several additions in turn. -/
def addAll (m : κ → Option ν) (es : List (κ × ν)) : κ → Option ν := es.foldl (fun m e => (add m e).2) m

/-- The first value that is added under a key. -/
def firstAdded (es : List (κ × ν)) (k : κ) : Option ν := (es.find? fun e => e.1 = k).map Prod.snd

theorem add_of_taken {m : κ → Option ν} {e : κ × ν} (h : (m e.1).isSome) : add m e = (false, m) := by
  obtain ⟨v, hv⟩ := Option.isSome_iff_exists.mp h
  simp only [add, hv]

theorem add_of_free {m : κ → Option ν} {e : κ × ν} (h : m e.1 = none) :
    add m e = (true, Function.update m e.1 (some e.2)) := by
  simp only [add, h]

theorem add_accepts (m : κ → Option ν) (e : κ × ν) : (add m e).1 = true ↔ m e.1 = none := by
  cases h : m e.1 with
  | some v => simp [add_of_taken (m := m) (e := e) (by rw [h]; rfl)]
  | none => simp [add_of_free h]

theorem add_apply (m : κ → Option ν) (e : κ × ν) (k : κ) :
    (add m e).2 k = (m k).or (if e.1 = k then some e.2 else none) := by
  cases h : m e.1 with
  | some v =>
    rw [add_of_taken (by rw [h]; rfl)]
    show m k = _
    split_ifs with hk
    · rw [← hk, h, Option.some_or]
    · exact Option.or_none.symm
  | none =>
    rw [add_of_free h]
    show Function.update m e.1 (some e.2) k = _
    split_ifs with hk
    · rw [← hk, h, Option.none_or, Function.update_self]
    · rw [Function.update_of_ne (Ne.symm hk), Option.or_none]

theorem firstAdded_cons (e : κ × ν) (es : List (κ × ν)) (k : κ) :
    firstAdded (e :: es) k = (if e.1 = k then some e.2 else none).or (firstAdded es k) := by
  unfold firstAdded
  by_cases h : e.1 = k <;> simp [h]

theorem firstAdded_append (es fs : List (κ × ν)) (k : κ) :
    firstAdded (es ++ fs) k = (firstAdded es k).or (firstAdded fs k) := by
  unfold firstAdded
  rw [List.find?_append]
  cases es.find? fun e => e.1 = k <;> rfl

theorem firstAdded_eq_none {es : List (κ × ν)} {k : κ} : firstAdded es k = none ↔ ∀ e ∈ es, e.1 ≠ k := by
  unfold firstAdded
  rw [Option.map_eq_none_iff, List.find?_eq_none]
  exact forall₂_congr fun e _ => by simp

/-- **What a write-once map holds**: what it held, and else the first value that was added. -/
theorem addAll_apply (m : κ → Option ν) (es : List (κ × ν)) (k : κ) :
    addAll m es k = (m k).or (firstAdded es k) := by
  induction es generalizing m with
  | nil => exact Option.or_none.symm
  | cons e es ih =>
    show addAll (add m e).2 es k = _
    rw [ih, add_apply, firstAdded_cons, Option.or_assoc]

theorem firstAdded_mem {es : List (κ × ν)} {k : κ} {v : ν} (h : firstAdded es k = some v) : (k, v) ∈ es := by
  obtain ⟨⟨k', v'⟩, hfind, rfl⟩ := Option.map_eq_some_iff.mp h
  obtain rfl : k' = k := by simpa using List.find?_some hfind
  exact List.mem_of_find?_eq_some hfind

/-- Under distinct keys, every value is the first one. -/
theorem firstAdded_eq_some_iff {es : List (κ × ν)} (h : (es.map Prod.fst).Nodup) (k : κ) (v : ν) :
    firstAdded es k = some v ↔ (k, v) ∈ es := by
  refine ⟨firstAdded_mem, fun hmem => ?_⟩
  cases hf : firstAdded es k with
  | none => exact absurd rfl (firstAdded_eq_none.mp hf _ hmem)
  | some v' => exact congrArg (some ∘ Prod.snd) (List.inj_on_of_nodup_map h (firstAdded_mem hf) hmem rfl)

/-- Under distinct keys, the first value is the last one. -/
theorem firstAdded_reverse {es : List (κ × ν)} (h : (es.map Prod.fst).Nodup) (k : κ) :
    firstAdded es.reverse k = firstAdded es k := by
  have hrev : (es.reverse.map Prod.fst).Nodup := by
    rw [List.map_reverse]
    exact List.nodup_reverse.mpr h
  ext v
  rw [firstAdded_eq_some_iff hrev, firstAdded_eq_some_iff h, List.mem_reverse]

/-- The first value of the pairs that are made of a list is that of the first element that gives one. -/
theorem firstAdded_filterMap {γ : Type w} (f : γ → Option (κ × ν)) (l : List γ) (k : κ) :
    firstAdded (l.filterMap f) k =
      (l.find? fun c => (f c).any fun e => e.1 = k).bind fun c => (f c).map Prod.snd := by
  induction l with
  | nil => rfl
  | cons c l ih =>
    cases h : f c with
    | none => rw [List.filterMap_cons_none h, ih, List.find?_cons_of_neg (by simp [h])]
    | some e =>
      rw [List.filterMap_cons_some h, firstAdded_cons]
      by_cases hk : e.1 = k
      · rw [List.find?_cons_of_pos (by simp [h, hk]), if_pos hk, Option.some_or, Option.bind_some, h, Option.map_some]
      · rw [List.find?_cons_of_neg (by simp [h, hk]), if_neg hk, Option.none_or, ih]

/-- An ordered map that takes new keys only holds the first value that was added. -/
theorem getElem?_foldl_insertIfNew [Ord κ] [TransOrd κ] [LawfulEqOrd κ] (m : ExtTreeMap κ ν) (es : List (κ × ν))
    (k : κ) : (es.foldl (fun m e => m.insertIfNew e.1 e.2) m)[k]? = m[k]?.or (firstAdded es k) := by
  induction es generalizing m with
  | nil => exact Option.or_none.symm
  | cons e es ih =>
    have hnew : (m.insertIfNew e.1 e.2)[k]? = m[k]?.or (if e.1 = k then some e.2 else none) := by
      rw [ExtTreeMap.getElem?_insertIfNew]
      by_cases hk : e.1 = k
      · subst hk
        simp only [ExtTreeMap.mem_iff_isSome_getElem?, compare_self]
        cases m[e.1]? <;> simp
      · rw [if_neg fun h => hk (LawfulEqOrd.eq_of_compare h.1), if_neg hk, Option.or_none]
    rw [List.foldl_cons, ih, hnew, firstAdded_cons, Option.or_assoc]

/-- The entries of a map, in the order of their keys, make up a map with these entries. -/
theorem toList_foldl_insertIfNew [Ord κ] [TransOrd κ] [LawfulEqOrd κ] {es : List (κ × ν)}
    (h : es.Pairwise fun a b => compare a.1 b.1 = .lt) :
    (es.foldl (fun m e => m.insertIfNew e.1 e.2) (∅ : ExtTreeMap κ ν)).toList = es := by
  have hne : ∀ {a b : κ}, compare a b = .lt → a ≠ b := by
    rintro a _ hlt rfl
    rw [compare_self] at hlt
    cases hlt
  have hkeys : ∀ {l : List (κ × ν)}, (l.Pairwise fun a b => compare a.1 b.1 = .lt) → (l.map Prod.fst).Nodup :=
    fun hl => List.pairwise_map.mpr (hl.imp hne)
  refine List.Perm.eq_of_pairwise (fun a b _ _ hab hba => absurd rfl (hne (TransCmp.lt_trans hab hba)))
    ExtTreeMap.ordered_keys_toList h ?_
  refine (List.perm_ext_iff_of_nodup (hkeys ExtTreeMap.ordered_keys_toList).of_map (hkeys h).of_map).mpr fun e => ?_
  rw [ExtTreeMap.mem_toList_iff_getElem?_eq_some, getElem?_foldl_insertIfNew, ExtTreeMap.getElem?_empty,
    Option.none_or]
  exact firstAdded_eq_some_iff (hkeys h) e.1 e.2

end

/-! ### Maps of maps -/

section

variable {α : Type u} {β : Type v} {ν : Type w} [Ord α] [TransOrd α] [Ord β] [TransOrd β]

/-- A map of maps. -/
abbrev Nested (α : Type u) (β : Type v) (ν : Type w) [Ord α] [Ord β] := ExtTreeMap α (ExtTreeMap β ν)

/-- The map by pairs. -/
def Nested.flat (m : Nested α β ν) (k : α × β) : Option ν := m[k.1]?.bind fun inner => inner[k.2]?

variable [DecidableEq α] [DecidableEq β]

/-- What an addition to a map of maps returned and left is what the flat addition does; a
rejected one left the map as it was. -/
structure Adds (m : Nested α β ν) (e : (α × β) × ν) (p : Bool × Nested α β ν) : Prop where
  /-- It is accepted when the flat one is. -/
  accepted : p.1 = (add m.flat e).1
  /-- It leaves what the flat one leaves. -/
  flat : p.2.flat = (add m.flat e).2
  /-- It changes nothing when it is rejected. -/
  rejected : p.1 = false → p.2 = m

variable {m m' : Nested α β ν} {e : (α × β) × ν}

theorem adds_taken (h : (m.flat e.1).isSome) : Adds m e (false, m) := by
  have hadd := add_of_taken h
  exact ⟨by rw [hadd], by rw [hadd], fun _ => rfl⟩

theorem adds_new [LawfulEqOrd β] (h : m.flat e.1 = none)
    (hself : m'[e.1.1]? = some ((m[e.1.1]?.getD ∅).insertIfNew e.1.2 e.2))
    (hother : ∀ a, a ≠ e.1.1 → m'[a]? = m[a]?) : Adds m e (true, m') := by
  have hadd := add_of_free h
  refine ⟨by rw [hadd], ?_, nofun⟩
  rw [hadd]
  show m'.flat = Function.update m.flat e.1 (some e.2)
  have hinner : ∀ b, m.flat (e.1.1, b) = (m[e.1.1]?.getD ∅)[b]? := by
    intro b
    unfold Nested.flat
    cases m[e.1.1]? <;> simp
  have hfree : e.1.2 ∉ m[e.1.1]?.getD ∅ := by
    rw [ExtTreeMap.mem_iff_isSome_getElem?, ← hinner, h]
    exact Bool.false_ne_true
  funext ⟨a, b⟩
  by_cases ha : a = e.1.1
  · subst ha
    rw [Nested.flat, hself, Option.bind_some, ExtTreeMap.getElem?_insertIfNew]
    by_cases hb : b = e.1.2
    · subst hb
      rw [if_pos ⟨compare_self, hfree⟩]
      exact (Function.update_self e.1 (some e.2) m.flat).symm
    · rw [if_neg fun hk => hb (LawfulEqOrd.eq_of_compare hk.1).symm,
        Function.update_of_ne fun hk => hb (congrArg Prod.snd hk), hinner]
  · rw [Function.update_of_ne fun hk : (a, b) = e.1 => ha (congrArg Prod.fst hk)]
    simp only [Nested.flat, hother a ha]

end

end HanamiNetwork.Basis.WriteOnce
