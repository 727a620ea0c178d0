import HanamiNetwork.Basis.OrderedMap
import HanamiNetwork.Data.World

/-!
# Item methods

`overrideItems` and `createError` (`item_methods.cpp`). The three modes of `overrideItems`
are one loop over the override map that asks, for each key, whether the map that is being
changed has it; what the loop leaves under a key depends on that key alone
(`getElem?_overrideItems`).
-/

namespace HanamiNetwork

open HanamiNetwork.Basis

/-- `OverrideType`. -/
inductive OverrideType where
  /-- `ALL`. -/
  | all
  /-- `ONLY_EXISTING`. -/
  | onlyExisting
  /-- `ONLY_NON_EXISTING`. -/
  | onlyNonExisting
  deriving DecidableEq

/-- Whether the mode inserts an entry, when its key was found or not. -/
def OverrideType.inserts : OverrideType → Bool → Bool
  | .all, _ => true
  | .onlyExisting, found => found
  | .onlyNonExisting, found => !found

/-- The body of the loop: an entry is copied, which takes an item to copy. -/
def overrideEntry (type : OverrideType) (original : DataMap) (entry : Str × Option DataItem) : Option DataMap :=
  if type.inserts (original.contains entry.1) then
    entry.2.map fun item => original.insert entry.1 (some item) true
  else some original

/-- `overrideItems`; there is no result when `copy()` is called on a null pointer. -/
def overrideItems (original override : DataMap) (type : OverrideType) : Option DataMap :=
  override.map.toList.foldlM (overrideEntry type) original

/-- `createError`. The rows are those whose text is not empty. -/
def createError (x : Libs) (errorLocation : Str) (error : ErrorContainer)
    (possibleSolution blossomType blossomGroupType blossomName blossomFilePath : Str) : ErrorContainer :=
  let rows := [(str "location", errorLocation), (str "possible solution", possibleSolution),
    (str "blossom-type", blossomType), (str "blossom-group-type", blossomGroupType),
    (str "blossom-name", blossomName), (str "blossom-file-path", blossomFilePath)].filter fun row => 0 < row.2.length
  error.addMeesage (str "Error in location: \n" ++ x.tableToString rows)

/-! ### What `overrideItems` leaves under a key -/

/-- The loop for items that are there: nothing goes wrong in it. -/
def overrideStep (type : OverrideType) (original : DataMap) (entry : Str × Option DataItem) : DataMap :=
  if type.inserts (original.contains entry.1) then original.insert entry.1 entry.2 true else original

theorem overrideEntry_of_item (type : OverrideType) (original : DataMap) (key : Str) (item : DataItem) :
    overrideEntry type original (key, some item) = some (overrideStep type original (key, some item)) := by
  unfold overrideEntry overrideStep
  split_ifs <;> rfl

theorem foldlM_overrideEntry (type : OverrideType) {l : List (Str × Option DataItem)}
    (h : ∀ e ∈ l, e.2 ≠ none) (original : DataMap) :
    l.foldlM (overrideEntry type) original = some (l.foldl (overrideStep type) original) := by
  induction l generalizing original with
  | nil => rfl
  | cons e l ih =>
    obtain ⟨key, _ | item⟩ := e
    · exact absurd rfl (h _ List.mem_cons_self)
    · rw [List.foldlM_cons, overrideEntry_of_item]
      exact ih (fun e he => h e (List.mem_cons_of_mem _ he)) _

/-- The loop touches an entry under its own key. -/
theorem keyWise_overrideStep (type : OverrideType) :
    KeyWise (fun (m : DataMap) (key : Str) => m.map[key]?) (overrideStep type)
      fun _ item old => if type.inserts old.isSome then some item else old := by
  intro m key item key'
  have hc : m.contains key = (m.map[key]?).isSome := Std.ExtTreeMap.contains_eq_isSome_getElem?
  simp only [overrideStep, hc]
  split_ifs with hi hk hk
  · rw [DataMap.getElem?_insert_force, if_pos hk]
  · rw [DataMap.getElem?_insert_force, if_neg hk]
  · rw [hk]
  · rfl

/-- **`overrideItems`, key by key**: an override map without null pointers is copied, and a key
gets its entry if the mode wants it. -/
theorem getElem?_overrideItems (original override : DataMap) (type : OverrideType) (h : override.NonNull) :
    ∃ result, overrideItems original override type = some result ∧ ∀ key : Str,
      result.map[key]? = override.map[key]?.elim original.map[key]? fun item =>
        if type.inserts (original.map[key]?).isSome then some item else original.map[key]? := by
  refine ⟨_, foldlM_overrideEntry type (fun e he => ?_) original, fun key => ?_⟩
  · have hall := (forall_mem_toList override.map fun e => e.2 ≠ none).mpr fun k v hv hn =>
      h k (hv.trans (congrArg some hn))
    exact hall e he
  · exact (keyWise_overrideStep type).foldl_toList override.map original key

theorem overrideItems_empty_all (override : DataMap) (h : override.NonNull) :
    overrideItems .empty override .all = some override := by
  obtain ⟨result, hr, hkey⟩ := getElem?_overrideItems .empty override .all h
  rw [hr]
  congr 1
  apply DataMap.ext_getElem?
  intro key
  rw [hkey]
  cases override.map[key]? <;> simp [DataMap.empty, OverrideType.inserts]

theorem foldlM_overrideEntry_of_null {l : List (Str × Option DataItem)} {key : Str} (h : (key, none) ∈ l)
    (original : DataMap) : l.foldlM (overrideEntry .all) original = none := by
  induction l generalizing original with
  | nil => cases h
  | cons e l ih =>
    rw [List.foldlM_cons]
    rcases List.mem_cons.mp h with rfl | h
    · rfl
    · cases overrideEntry .all original e with
      | none => rfl
      | some original => exact ih h original

/-- Overriding all takes items, and gives the override map back. -/
theorem overrideItems_empty_all_eq_some {override result : DataMap} :
    overrideItems .empty override .all = some result ↔ override.NonNull ∧ result = override := by
  constructor
  · intro h
    have hn : override.NonNull := by
      intro key hkey
      rw [overrideItems, foldlM_overrideEntry_of_null
        (Std.ExtTreeMap.mem_toList_iff_getElem?_eq_some.mpr hkey)] at h
      cases h
    rw [overrideItems_empty_all override hn] at h
    exact ⟨hn, (Option.some_inj.mp h).symm⟩
  · rintro ⟨hn, rfl⟩
    exact overrideItems_empty_all _ hn

end HanamiNetwork
