import HanamiNetwork.Basis.OrderedMap
import HanamiNetwork.Basis.Run
import Mathlib.Algebra.BigOperators.Group.Finset.Basic
import Mathlib.Data.Fintype.Basic
import Mathlib.Data.List.Nodup
import Mathlib.Tactic.Abel

/-!
# What a run is given and what it lets go

A machine holds things: an input may give it some, and it may let go of some. If every step
keeps the balance, so does a run (`perm_foldl`): what it holds at its end and all it let go are
what it held at its start and all it was given, each as often.

Where several hold things, and only one of them moves, its share moves the sum (`sum_add_of_eq_off`).

The entries of an ordered map keep the balance under an insertion (`perm_toList_insert`) and
under an erasure (`perm_toList_erase`).
-/

namespace HanamiNetwork.Basis

open Std
open scoped List

universe u v w

section

variable {σ : Type u} {ι : Type v} {α : Type w} {step : σ → ι → σ} {moved gives drops : σ → ι → List α}

/-- All that is moved over a run. -/
def total (step : σ → ι → σ) (moved : σ → ι → List α) : σ → List ι → List α
  | _, [] => []
  | s, e :: es => moved s e ++ total step moved (step s e) es

/-- Nothing is moved over a run exactly if no input moves anything. -/
theorem total_eq_nil_iff {s : σ} {es : List ι} :
    total step moved s es = [] ↔ Along step (fun s e => moved s e = []) s es := by
  induction es generalizing s with
  | nil => exact iff_of_true rfl trivial
  | cons e es ih => rw [total, along_cons, List.append_eq_nil_iff, ih]

/-- **A run keeps the balance** if every step does. -/
theorem perm_foldl (held : σ → List α) (h : ∀ s e, held (step s e) ++ drops s e ~ held s ++ gives s e)
    (s : σ) (es : List ι) :
    held (es.foldl step s) ++ total step drops s es ~ held s ++ total step gives s es := by
  induction es generalizing s with
  | nil => exact .refl _
  | cons e es ih =>
    calc
      held (es.foldl step (step s e)) ++ total step drops s (e :: es) ~
          held (es.foldl step (step s e)) ++ total step drops (step s e) es ++ drops s e := by
        rw [List.append_assoc]
        exact List.perm_append_comm.append_left _
      _ ~ held (step s e) ++ total step gives (step s e) es ++ drops s e := (ih _).append_right _
      _ ~ held (step s e) ++ drops s e ++ total step gives (step s e) es := by
        rw [List.append_assoc, List.append_assoc]
        exact List.perm_append_comm.append_left _
      _ ~ held s ++ gives s e ++ total step gives (step s e) es := (h s e).append_right _
      _ = held s ++ total step gives s (e :: es) := by rw [List.append_assoc, total]

end

theorem sum_add_of_eq_off {ι : Type u} {M : Type v} [Fintype ι] [DecidableEq ι] [AddCommMonoid M] {f g : ι → M} (i : ι)
    (h : ∀ j, j ≠ i → f j = g j) : ∑ j, f j + g i = ∑ j, g j + f i := by
  have hrest : ∑ j ∈ Finset.univ.erase i, f j = ∑ j ∈ Finset.univ.erase i, g j :=
    Finset.sum_congr rfl fun j hj => h j (Finset.ne_of_mem_erase hj)
  rw [← Finset.add_sum_erase _ f (Finset.mem_univ i), ← Finset.add_sum_erase _ g (Finset.mem_univ i), hrest]
  abel

section

variable {α : Type u} {β : Type v} [Ord α] [TransOrd α] [LawfulEqOrd α] (m : ExtTreeMap α β) (k : α)

/-- The entry of a key, if there is one. -/
def entryOf : List (α × β) := (m[k]?.map (Prod.mk k)).toList

theorem nodup_toList : m.toList.Nodup := by
  refine ExtTreeMap.distinct_keys_toList.imp fun {a b} hne heq => hne ?_
  rw [heq]
  exact compare_self

omit [LawfulEqOrd α] in
theorem mem_entryOf {e : α × β} : e ∈ entryOf m k ↔ e.1 = k ∧ m[k]? = some e.2 := by
  obtain ⟨k', v⟩ := e
  cases hk : m[k]? with
  | none => simp [entryOf, hk]
  | some v' => simp [entryOf, hk, eq_comm]

/-- The entry of a key is what an erasure takes away. -/
theorem perm_toList_erase : (m.erase k).toList ++ entryOf m k ~ m.toList := by
  have hmem : ∀ e : α × β, e ∈ (m.erase k).toList ↔ e.1 ≠ k ∧ m[e.1]? = some e.2 := fun e => by
    rw [ExtTreeMap.mem_toList_iff_getElem?_eq_some, getElem?_erase_eq_some]
  have hentry : (entryOf m k).Nodup := by
    unfold entryOf
    cases m[k]? <;> simp
  refine (List.perm_ext_iff_of_nodup ?_ (nodup_toList m)).mpr fun e => ?_
  · refine List.nodup_append.mpr ⟨nodup_toList _, hentry, fun a ha b hb heq => ?_⟩
    exact ((hmem a).mp ha).1 (heq ▸ ((mem_entryOf m k).mp hb).1)
  · rw [List.mem_append, hmem, mem_entryOf, ExtTreeMap.mem_toList_iff_getElem?_eq_some]
    by_cases hk : e.1 = k
    · simp [hk]
    · simp [hk]

/-- An insertion takes away the entry of the key, and adds the new one. -/
theorem perm_toList_insert (v : β) : (m.insert k v).toList ++ entryOf m k ~ m.toList ++ [(k, v)] := by
  have hinsert : (m.insert k v).toList ~ (m.erase k).toList ++ [(k, v)] := by
    refine (List.perm_ext_iff_of_nodup (nodup_toList _) ?_).mpr fun e => ?_
    · refine List.nodup_append.mpr ⟨nodup_toList _, List.nodup_singleton _, fun a ha b hb heq => ?_⟩
      obtain rfl := List.mem_singleton.mp hb
      rw [ExtTreeMap.mem_toList_iff_getElem?_eq_some, getElem?_erase_eq_some, heq] at ha
      exact ha.1 rfl
    · rw [List.mem_append, ExtTreeMap.mem_toList_iff_getElem?_eq_some, ExtTreeMap.mem_toList_iff_getElem?_eq_some,
        getElem?_erase_eq_some, List.mem_singleton, ExtTreeMap.getElem?_insert]
      obtain ⟨k', v'⟩ := e
      by_cases hk : k = k'
      · simp [hk, eq_comm]
      · simp [hk, Ne.symm hk]
  calc
    (m.insert k v).toList ++ entryOf m k ~ (m.erase k).toList ++ [(k, v)] ++ entryOf m k := hinsert.append_right _
    _ ~ (m.erase k).toList ++ entryOf m k ++ [(k, v)] := by
      rw [List.append_assoc, List.append_assoc]
      exact List.perm_append_comm.append_left _
    _ ~ m.toList ++ [(k, v)] := (perm_toList_erase m k).append_right _

end

end HanamiNetwork.Basis
