import HanamiNetwork.Data.ItemMethods

/-!
# The modes of `overrideItems`

The three modes as operations on maps. What a mode leaves under a key is a function of the
two entries found there (`OverrideType.entry`), so that a law about the modes is a law about
pairs of entries, checked in four cases (`overrideItems_bind`).

* `ALL` is the union that prefers the override map, `ONLY_NON_EXISTING` the one that prefers
  the original, and `ONLY_EXISTING` changes values and no keys.
* Each mode is idempotent, and the two partial ones make up `ALL` in either order.
-/

namespace HanamiNetwork

/-- What a mode makes of the entry of a key and the one the override map has for it. -/
def OverrideType.entry {β : Type} : OverrideType → Option β → Option β → Option β
  | .all, old, new => new.or old
  | .onlyExisting, old, new => old.map new.getD
  | .onlyNonExisting, old, new => old.or new

/-- `overrideItems` combines the entries of each key. -/
theorem overrideItems_eq_some_iff {original override : DataMap} (type : OverrideType) (h : override.NonNull)
    (result : DataMap) : overrideItems original override type = some result ↔
      ∀ key : Str, result.map[key]? = type.entry original.map[key]? override.map[key]? := by
  obtain ⟨m, hm, hkey⟩ := getElem?_overrideItems original override type h
  have hentry : ∀ key : Str, m.map[key]? = type.entry original.map[key]? override.map[key]? := by
    intro key
    rw [hkey]
    cases type <;> cases original.map[key]? <;> cases override.map[key]? <;> rfl
  rw [hm, Option.some_inj]
  constructor
  · rintro rfl
    exact hentry
  · intro hr
    exact DataMap.ext_getElem? fun key => (hentry key).trans (hr key).symm

theorem exists_overrideItems (original : DataMap) {override : DataMap} (type : OverrideType) (h : override.NonNull) :
    ∃ result, overrideItems original override type = some result ∧
      ∀ key : Str, result.map[key]? = type.entry original.map[key]? override.map[key]? := by
  obtain ⟨result, hr, -⟩ := getElem?_overrideItems original override type h
  exact ⟨result, hr, (overrideItems_eq_some_iff type h result).mp hr⟩

/-- Two modes after each other are the mode that makes the same of every pair of entries. -/
theorem overrideItems_bind (original : DataMap) {override : DataMap} (h : override.NonNull)
    {first second both : OverrideType}
    (hlaw : ∀ old new : Option (Option DataItem), second.entry (first.entry old new) new = both.entry old new) :
    (overrideItems original override first).bind (fun m => overrideItems m override second) =
      overrideItems original override both := by
  obtain ⟨m, hm, hfirst⟩ := exists_overrideItems original first h
  obtain ⟨result, hr, hboth⟩ := exists_overrideItems original both h
  rw [hm, hr, Option.bind_some, overrideItems_eq_some_iff second h]
  intro key
  rw [hboth, hfirst, hlaw]

/-- What the modes give for two maps. -/
structure OverrideModes (original override : DataMap) : Prop where
  /-- `ALL` gives the union in which the override map wins. -/
  all : overrideItems original override .all = some ⟨original.map ∪ override.map⟩
  /-- `ONLY_EXISTING` keeps the keys, and replaces the values of those the override map has. -/
  onlyExisting : ∃ result, overrideItems original override .onlyExisting = some result ∧
    (∀ key : Str, result.contains key = original.contains key) ∧
    (∀ key : Str, original.contains key = true → override.contains key = true →
      result.map[key]? = override.map[key]?) ∧
    ∀ key : Str, override.contains key = false → result.map[key]? = original.map[key]?
  /-- `ONLY_NON_EXISTING` gives the union in which the original map wins. -/
  onlyNonExisting : overrideItems original override .onlyNonExisting = some ⟨override.map ∪ original.map⟩
  /-- A second time changes nothing. -/
  idempotent : ∀ type, (overrideItems original override type).bind (fun m => overrideItems m override type) =
    overrideItems original override type
  /-- The existing keys first, then the others: that is all. -/
  existing_then_non : (overrideItems original override .onlyExisting).bind
    (fun m => overrideItems m override .onlyNonExisting) = overrideItems original override .all
  /-- The others first, and it is all, too. -/
  non_then_existing : (overrideItems original override .onlyNonExisting).bind
    (fun m => overrideItems m override .onlyExisting) = overrideItems original override .all

theorem overrideItems_onlyExisting (original : DataMap) {override : DataMap} (h : override.NonNull) :
    ∃ result, overrideItems original override .onlyExisting = some result ∧
      (∀ key : Str, result.contains key = original.contains key) ∧
      (∀ key : Str, original.contains key = true → override.contains key = true →
        result.map[key]? = override.map[key]?) ∧
      ∀ key : Str, override.contains key = false → result.map[key]? = original.map[key]? := by
  obtain ⟨result, hr, hkey⟩ := exists_overrideItems original .onlyExisting h
  refine ⟨result, hr, fun key => ?_, fun key hold hnew => ?_, fun key hnew => ?_⟩
  · rw [Bool.eq_iff_iff, DataMap.contains_iff, DataMap.contains_iff, hkey, OverrideType.entry, Option.isSome_map]
  · obtain ⟨old, hold⟩ := Option.isSome_iff_exists.mp ((original.contains_iff key).mp hold)
    obtain ⟨new, hnew⟩ := Option.isSome_iff_exists.mp ((override.contains_iff key).mp hnew)
    rw [hkey, hold, hnew]
    rfl
  · rw [← Bool.not_eq_true, DataMap.contains_iff, Option.not_isSome_iff_eq_none] at hnew
    rw [hkey, hnew]
    cases original.map[key]? <;> rfl

/-- **The modes of `overrideItems`**, for any map and any override map without null pointers. -/
theorem overrideItems_modes (original override : DataMap) (h : override.NonNull) :
    OverrideModes original override where
  all := (overrideItems_eq_some_iff .all h _).mpr fun _ => Std.ExtTreeMap.getElem?_union
  onlyExisting := overrideItems_onlyExisting original h
  onlyNonExisting := (overrideItems_eq_some_iff .onlyNonExisting h _).mpr fun _ => Std.ExtTreeMap.getElem?_union
  idempotent type := by
    refine overrideItems_bind original h fun old new => ?_
    cases type <;> cases old <;> cases new <;> rfl
  existing_then_non := by
    refine overrideItems_bind original h fun old new => ?_
    cases old <;> cases new <;> rfl
  non_then_existing := by
    refine overrideItems_bind original h fun old new => ?_
    cases old <;> cases new <;> rfl

/-- A map with one entry that is overridden by a map with another. -/
theorem overrideItems_modes_single :
    OverrideModes (DataMap.empty.insert (str "name") (some (.value (.string (str "joe")))) true)
      (DataMap.empty.insert (str "name") (some (.value (.int 5))) true) := by
  refine overrideItems_modes _ _ fun key => ?_
  rw [DataMap.getElem?_insert_force]
  split_ifs <;> simp [DataMap.empty]

end HanamiNetwork
