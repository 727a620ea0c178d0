import HanamiNetwork.Basis.Ledger
import HanamiNetwork.Blossoms.MapHeap

/-!
# What becomes of the child maps

A map takes over the child maps that are inserted into it, and deletes them with itself. Over a
run of calls it may let go of one, if a child map is inserted over it, or removed: the call
changes the address under the key, and nothing deletes the map that was there
(`value_item_map.cpp`).

So destroying a map after a run of calls frees everything that was given to it exactly if no
call of the run lets go of a child map (`destroy_run_iff`). It never frees anything else, and
nothing twice.
-/

namespace HanamiNetwork

open HanamiNetwork.Basis

namespace ValueItemMap

/-- The child map that a call hands over: that of an insertion that returns true. -/
def gives (m : ValueItemMap) : MapCall → List (Str × ValueItemMapId)
  | .insertChild key value force => if (m.insertChild key value force).1 then [(key, value)] else []
  | _ => []

/-- The child map that a call takes out: that under the key of an insertion that overrides it, or of a
removal that finds no value. -/
def drops (m : ValueItemMap) : MapCall → List (Str × ValueItemMapId)
  | .insertChild key value force => if (m.insertChild key value force).1 then entryOf m.childMaps key else []
  | .remove key => if m.valueMap.contains key then [] else entryOf m.childMaps key
  | _ => []

/-- A call lets go of a child map. -/
def LetsGo (m : ValueItemMap) : MapCall → Prop
  | .insertChild key _ force => force = true ∧ m.childMaps.contains key = true
  | .remove key => m.valueMap.contains key = false ∧ m.childMaps.contains key = true
  | _ => False

theorem entryOf_eq_nil_iff {m : StdMap ValueItemMapId} {key : Str} :
    entryOf m key = [] ↔ m.contains key = false := by
  rw [Std.ExtTreeMap.contains_eq_isSome_getElem?, entryOf]
  cases m[key]? <;> simp

theorem drops_eq_nil_iff (m : ValueItemMap) (call : MapCall) : m.drops call = [] ↔ ¬ m.LetsGo call := by
  cases call with
  | insertItem => exact iff_of_true rfl not_false
  | insertValue => exact iff_of_true rfl not_false
  | insertChild key value force =>
    unfold drops LetsGo insertChild insertEntry
    cases hc : m.childMaps.contains key <;> cases force <;> simp [entryOf_eq_nil_iff, hc]
  | remove key =>
    show (if m.valueMap.contains key then [] else entryOf m.childMaps key) = [] ↔
      ¬ (m.valueMap.contains key = false ∧ m.childMaps.contains key = true)
    by_cases hv : m.valueMap.contains key = true
    · rw [if_pos hv, hv]
      simp
    · rw [if_neg hv, entryOf_eq_nil_iff, Bool.eq_false_iff, Bool.eq_false_iff]
      exact ⟨fun hc h => hc h.2, fun h hc => h ⟨hv, hc⟩⟩

/-- **One call keeps the balance** of the child maps. -/
theorem balance_step (m : ValueItemMap) (call : MapCall) :
    ((m.step call).childMaps.toList ++ m.drops call).Perm (m.childMaps.toList ++ m.gives call) := by
  cases call with
  | insertItem => exact .refl _
  | insertValue => exact .refl _
  | insertChild key value force =>
    simp only [step, MapCall.apply, drops, gives, insertChild, insertEntry]
    by_cases h : m.childMaps.contains key && !force
    · simp [h]
    · simp only [h, Bool.false_eq_true, if_false, if_true]
      exact perm_toList_insert m.childMaps key value
  | remove key =>
    simp only [step, MapCall.apply, drops, gives, remove, List.append_nil]
    cases hv : m.valueMap.contains key with
    | true => simp
    | false =>
      simp only [Bool.false_eq_true, if_false]
      cases hc : m.childMaps.contains key with
      | true =>
        simp only [if_true]
        exact perm_toList_erase m.childMaps key
      | false => simp [entryOf_eq_nil_iff.mpr hc]

/-- The child maps a run of calls on a new map hands over. -/
def given (calls : List MapCall) : List (Str × ValueItemMapId) := total step gives .empty calls

/-- **What destroying a map frees**: itself and what it was given, each object once, but not the child maps
that a call let go of. -/
theorem destroy_run_iff {h : MapHeap} {this : ValueItemMapId} (hthis : h.cells this = some .empty)
    {calls : List MapCall} {f : Forest Str (StdMap ValueItem)} {fp : List ℕ}
    (ho : Owns mapLayout h (given calls) f fp) (hapart : this ∉ fp) {fuel : ℕ} (hfuel : f.depth < fuel) :
    ∃ freed : List ℕ, freed.Nodup ∧ (∀ a ∈ freed, a ∈ fp) ∧
      destroy fuel (h.write this (calls.foldl step .empty)) this =
        some ((h.write this (calls.foldl step .empty)).free (this :: freed)) ∧
      ((∀ a ∈ fp, a ∈ freed) ↔ Along step (fun m call => ¬ m.LetsGo call) .empty calls) := by
  set m := calls.foldl step .empty with hm
  set gone := total step drops .empty calls with hgone
  have hbalance : (given calls).Perm (m.childMaps.toList ++ gone) := by
    have hrun := perm_foldl (fun m : ValueItemMap => m.childMaps.toList) balance_step empty calls
    have hnone : empty.childMaps.toList = [] := toList_enterAll List.Pairwise.nil
    rw [hnone] at hrun
    exact hrun.symm
  obtain ⟨f', fp', ho', hfp, hdepth⟩ := ho.perm hbalance
  obtain ⟨f₁, f₂, fp₁, fp₂, howned, hleft, rfl, hbetween, hdepth₁⟩ := ho'.of_append
  have hmem : ∀ a, a ∈ fp ↔ a ∈ fp₁ ∨ a ∈ fp₂ := fun a => by rw [← hfp.mem_iff, List.mem_append]
  have hthis₁ : this ∉ fp₁ := fun ha => hapart ((hmem _).mpr (.inl ha))
  have howned' : Owns mapLayout (h.write this m) (mapLayout.children m) f₁ fp₁ :=
    howned.congr fun a ha => by
      have hne : a ≠ this := fun heq => hthis₁ (heq ▸ ha)
      simp [hne]
  have hread : (h.write this m).cells this = some m := by
    rw [ObjectHeap.cells_write, if_pos rfl, hthis, Option.map_some]
  have htree : OwnsTree mapLayout (h.write this m) this m.valueMap f₁ (this :: fp₁) := .node hread howned' hthis₁
  refine ⟨fp₁, howned.nodup, fun a ha => (hmem a).mpr (.inl ha), ?_, ?_⟩
  · rw [destroy_eq htree, if_pos (by omega)]
  · calc
      (∀ a ∈ fp, a ∈ fp₁) ↔ fp₂ = [] := by
        constructor
        · intro hall
          refine List.eq_nil_iff_forall_not_mem.mpr fun a ha => ?_
          exact hbetween (hall a ((hmem a).mpr (.inr ha))) ha
        · rintro rfl a ha
          exact ((hmem a).mp ha).resolve_right List.not_mem_nil
      _ ↔ gone = [] := hleft.eq_nil_iff
      _ ↔ Along step (fun m call => m.drops call = []) .empty calls := total_eq_nil_iff
      _ ↔ _ := by simp only [drops_eq_nil_iff]

/-- A child map is inserted and removed. -/
def childRemoved : List MapCall := [.insertChild (str "child") 0 false, .remove (str "child")]

/-- It is not freed with the map. -/
theorem destroy_run_childRemoved : ∃ freed : List ℕ, freed.Nodup ∧ (∀ a ∈ freed, a ∈ [0]) ∧
    destroy 2 (familyHeap.write 2 (childRemoved.foldl step .empty)) 2 =
      some ((familyHeap.write 2 (childRemoved.foldl step .empty)).free (2 :: freed)) ∧
    ((∀ a ∈ [0], a ∈ freed) ↔ Along step (fun m call => ¬ m.LetsGo call) .empty childRemoved) := by
  have hchild : OwnsTree mapLayout familyHeap 0 ∅ .nil [0] := ownsTree_empty (by simp [familyHeap, ObjectHeap.empty])
  have hgiven : given childRemoved = [(str "child", 0)] := by decide
  have ho := hchild.cons .nil (by simp) (str "child")
  rw [← hgiven] at ho
  exact destroy_run_iff (by simp [familyHeap, ObjectHeap.empty]) ho (by decide) (by decide)

end ValueItemMap

end HanamiNetwork
