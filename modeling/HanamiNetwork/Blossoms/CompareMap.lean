import HanamiNetwork.Basis.Check
import HanamiNetwork.Basis.WriteOnce
import HanamiNetwork.Blossoms.Blossom
import HanamiNetwork.Blossoms.ValueItemMap

/-!
# Names in a script

`validateInput` and `getCompareMap` (`blossom.cpp`): the check of a blossom in a script
against the fields of the blossom it names. `getCompareMap` makes one map of the names that
are used, with the direction of each: an input is named by its key, an output by the text of
its item, whatever variable is its key, and a child map by its key. The first use of a name in
the order of the keys is the one that counts (`getCompareMap_eq_some`).

So `validateInput` accepts exactly if the names are registered, the required fields are supplied
in their direction, and each of them is met in that direction first (`validateInput_iff`). The
last of these depends on the names of result variables, if a field is used in both directions
(`renamingSafe_iff`).
-/

namespace HanamiNetwork

open HanamiNetwork.Basis HanamiNetwork.Basis.WriteOnce

/-- `BlossomItem`. -/
structure BlossomItem where
  /-- `blossomName`. -/
  blossomName : Str := []
  /-- `blossomType`. -/
  blossomType : Str := []
  /-- `blossomGroupType`. -/
  blossomGroupType : Str := []
  /-- `values`. -/
  values : ValueItemMap := .empty

/-- `createError` of a blossom-item, with no solution to offer. -/
def createErrorOfItem (x : Libs) (blossomItem : BlossomItem) (blossomPath errorLocation : Str)
    (error : ErrorContainer) : ErrorContainer :=
  createError x errorLocation error [] blossomItem.blossomType blossomItem.blossomGroupType
    blossomItem.blossomName blossomPath

section

variable (x : Libs)

/-- The body of the first loop of `getCompareMap`; the text of an output takes an item. -/
def compareItem (compareMap : StdMap IO_ValueType) (entry : Str × ValueItem) : Option (StdMap IO_ValueType) :=
  match entry.2.type with
  | .inputPairType => some (compareMap.insertIfNew entry.1 .inputType)
  | .outputPairType => entry.2.item.map fun item => compareMap.insertIfNew (x.itemToString item) .outputType
  | _ => some compareMap

/-- `getCompareMap`; there is no result when `toString()` is called on a null pointer. -/
def getCompareMap (compareMap : StdMap IO_ValueType) (valueMap : ValueItemMap) : Option (StdMap IO_ValueType) :=
  (valueMap.valueMap.toList.foldlM (compareItem x) compareMap).map fun compareMap =>
    valueMap.childMaps.toList.foldl (fun compareMap child => compareMap.insertIfNew child.1 .inputType) compareMap

/-- The two loops of `validateInput`. -/
def checkCompareMap (allowUnmatched : Bool) (compareMap : StdMap IO_ValueType) (validationMap : StdMap FieldDef) :
    Check Str :=
  (if allowUnmatched then .passed else .forEach (fun entry : Str × IO_ValueType =>
    .require (validationMap.contains entry.1)
      (str "item '" ++ entry.1 ++ str "' is not in the list of allowed keys"))
    compareMap.toList : Check Str).andThen <|
  .forEach (fun field : Str × FieldDef =>
    if field.2.isRequired then
      match compareMap[field.1]? with
      | some ioType =>
        .require (field.2.ioType = ioType) (str "item '" ++ field.1 ++ str "' has not the correct input/output type")
      | none => .failed (str "item '" ++ field.1 ++ str "' is required, but is not set.")
    else .passed) validationMap.toList

/-- `validateInput`. -/
def Blossom.validateInput (b : Blossom) (blossomItem : BlossomItem) (validationMap : StdMap FieldDef)
    (filePath : Str) (error : ErrorContainer) : Option (Bool × ErrorContainer) := do
  let compareMap ← getCompareMap x ∅ blossomItem.values
  match checkCompareMap b.allowUnmatched compareMap validationMap with
  | .crashed => none
  | .failed message =>
    return (false, createErrorOfItem x blossomItem filePath (str "validator") (error.addMeesage message))
  | .passed => return (true, error)

end

/-! ### Names and directions -/

/-- All items are there. -/
def ValueItemMap.NonNull (m : ValueItemMap) : Prop :=
  ∀ (key : Str) (item : ValueItem), m.valueMap[key]? = some item → item.item ≠ none

/-- A name is the key of an input. -/
def ValueItemMap.InputKey (m : ValueItemMap) (name : Str) : Prop :=
  ∃ item, m.valueMap[name]? = some item ∧ item.type = .inputPairType

/-- A variable takes the output of a name. -/
def ValueItemMap.OutputKey (x : Libs) (m : ValueItemMap) (key name : Str) : Prop :=
  ∃ item, m.valueMap[key]? = some item ∧ item.type = .outputPairType ∧ item.item.map x.itemToString = some name

/-- A name is used in a direction. -/
inductive Uses (x : Libs) (m : ValueItemMap) (name : Str) : IO_ValueType → Prop where
  /-- As the key of an input. -/
  | input (h : m.InputKey name) : Uses x m name .inputType
  /-- As the text of an output. -/
  | output {key : Str} (h : m.OutputKey x key name) : Uses x m name .outputType
  /-- As the key of a child map. -/
  | child (h : m.childMaps.contains name = true) : Uses x m name .inputType

/-- If a name is used in both directions, it is met in this one first, in the order of the keys. -/
def MetFirst (x : Libs) (m : ValueItemMap) (name : Str) : IO_ValueType → Prop
  | .inputType => ∀ key, m.OutputKey x key name → m.InputKey name ∧ compare name key = .lt
  | .outputType => m.InputKey name → ∃ key, m.OutputKey x key name ∧ compare key name = .lt
  | .undefinedValueType => True

section

variable (x : Libs) (m : ValueItemMap) (validationMap : StdMap FieldDef)

/-- Every name that is used is registered. -/
def NamesRegistered : Prop := ∀ name ioType, Uses x m name ioType → validationMap.contains name = true

/-- Every required field is supplied in its direction. -/
def RequiredSupplied : Prop :=
  ∀ (name : Str) (d : FieldDef), validationMap[name]? = some d → d.isRequired = true → Uses x m name d.ioType

/-- Every required field is met in its direction first. -/
def RequiredMetFirst : Prop :=
  ∀ (name : Str) (d : FieldDef), validationMap[name]? = some d → d.isRequired = true → MetFirst x m name d.ioType

end

/-! ### What the map of names holds -/

section

variable (x : Libs)

/-- The name an entry is about, and its direction. -/
def comparePair (entry : Str × ValueItem) : Option (Str × IO_ValueType) :=
  match entry.2.type with
  | .inputPairType => some (entry.1, .inputType)
  | .outputPairType => entry.2.item.map fun item => (x.itemToString item, .outputType)
  | _ => none

/-- The names in the order in which they are met. -/
def comparePairs (m : ValueItemMap) : List (Str × IO_ValueType) :=
  m.valueMap.toList.filterMap (comparePair x) ++ m.childMaps.toList.map fun child => (child.1, .inputType)

theorem foldlM_compareItem {l : List (Str × ValueItem)} (h : ∀ e ∈ l, e.2.item ≠ none)
    (compareMap : StdMap IO_ValueType) : l.foldlM (compareItem x) compareMap =
      some ((l.filterMap (comparePair x)).foldl (fun m e => m.insertIfNew e.1 e.2) compareMap) := by
  induction l generalizing compareMap with
  | nil => rfl
  | cons e l ih =>
    obtain ⟨key, ⟨item, type, isIdentifier, comment, fieldType, functions⟩⟩ := e
    have ih := ih fun e he => h e (List.mem_cons_of_mem _ he)
    obtain ⟨item, rfl⟩ := Option.ne_none_iff_exists'.mp (h _ List.mem_cons_self)
    rw [List.foldlM_cons]
    cases type <;> exact ih _

/-- **What `getCompareMap` gives**: the first use of every name. -/
theorem getCompareMap_eq_some {m : ValueItemMap} (h : m.NonNull) :
    ∃ compareMap, getCompareMap x ∅ m = some compareMap ∧
      ∀ name : Str, compareMap[name]? = firstAdded (comparePairs x m) name := by
  have hitems : ∀ e ∈ m.valueMap.toList, e.2.item ≠ none :=
    (forall_mem_toList m.valueMap fun e => e.2.item ≠ none).mpr h
  refine ⟨(comparePairs x m).foldl (fun m e => m.insertIfNew e.1 e.2) ∅, ?_, fun name => ?_⟩
  · rw [getCompareMap, foldlM_compareItem x hitems, Option.map_some, comparePairs, List.foldl_append, List.foldl_map]
  · rw [getElem?_foldl_insertIfNew, Std.ExtTreeMap.getElem?_empty, Option.none_or]

theorem comparePair_input {key name : Str} {item : ValueItem} :
    comparePair x (key, item) = some (name, .inputType) ↔ item.type = .inputPairType ∧ key = name := by
  unfold comparePair
  cases item.type <;> simp

theorem comparePair_output {key name : Str} {item : ValueItem} :
    comparePair x (key, item) = some (name, .outputType) ↔
      item.type = .outputPairType ∧ item.item.map x.itemToString = some name := by
  unfold comparePair
  cases item.type <;> simp

theorem comparePair_undefined {key name : Str} {item : ValueItem} :
    comparePair x (key, item) ≠ some (name, .undefinedValueType) := by
  unfold comparePair
  cases item.type <;> simp

/-- Where a name is met first among the values, no other entry about it comes before. -/
theorem first_of_firstAdded {m : ValueItemMap} {name : Str} {ioType : IO_ValueType}
    (h : firstAdded (m.valueMap.toList.filterMap (comparePair x)) name = some ioType) :
    ∃ key item, m.valueMap[key]? = some item ∧ comparePair x (key, item) = some (name, ioType) ∧
      ∀ key' item' ioType', m.valueMap[key']? = some item' → comparePair x (key', item') = some (name, ioType') →
        key' = key ∨ compare key key' = .lt := by
  rw [firstAdded_filterMap] at h
  obtain ⟨⟨key, item⟩, hfind, hpair⟩ := Option.bind_eq_some_iff.mp h
  obtain ⟨hmem, hp, hfirst⟩ := first_of_find?_toList hfind
  obtain ⟨⟨name', ioType'⟩, heq, rfl⟩ := Option.map_eq_some_iff.mp hpair
  rw [heq, Option.any_some, decide_eq_true_iff] at hp
  obtain rfl : name' = name := hp
  refine ⟨key, item, hmem, heq, fun key' item' ioType'' hmem' heq' => ?_⟩
  exact hfirst key' item' hmem' (by simp [heq'])

theorem isSome_firstAdded {m : ValueItemMap} {key name : Str} {item : ValueItem} {ioType : IO_ValueType}
    (hmem : m.valueMap[key]? = some item) (hpair : comparePair x (key, item) = some (name, ioType)) :
    ∃ ioType', firstAdded (m.valueMap.toList.filterMap (comparePair x)) name = some ioType' := by
  rw [← Option.isSome_iff_exists, Option.isSome_iff_ne_none]
  intro hnone
  rw [firstAdded_eq_none] at hnone
  exact hnone (name, ioType) (List.mem_filterMap.mpr
    ⟨(key, item), Std.ExtTreeMap.mem_toList_iff_getElem?_eq_some.mpr hmem, hpair⟩) rfl

theorem firstAdded_children (m : ValueItemMap) (name : Str) :
    firstAdded (m.childMaps.toList.map fun child => (child.1, IO_ValueType.inputType)) name =
      if m.childMaps.contains name then some .inputType else none := by
  split_ifs with h
  · obtain ⟨child, hchild⟩ := Option.isSome_iff_exists.mp (Std.ExtTreeMap.contains_eq_isSome_getElem?.symm.trans h)
    have hmem := Std.ExtTreeMap.mem_toList_iff_getElem?_eq_some.mpr hchild
    cases hf : firstAdded (m.childMaps.toList.map fun child => (child.1, IO_ValueType.inputType)) name with
    | none => exact absurd rfl (firstAdded_eq_none.mp hf _ (List.mem_map.mpr ⟨_, hmem, rfl⟩))
    | some ioType =>
      obtain ⟨e, hfind, rfl⟩ := Option.map_eq_some_iff.mp hf
      obtain ⟨c, -, rfl⟩ := List.mem_map.mp (List.mem_of_find?_eq_some hfind)
      rfl
  · rw [firstAdded_eq_none]
    rintro e he rfl
    obtain ⟨c, hc, rfl⟩ := List.mem_map.mp he
    rw [Std.ExtTreeMap.mem_toList_iff_getElem?_eq_some] at hc
    rw [Std.ExtTreeMap.contains_eq_isSome_getElem?, hc] at h
    exact h rfl

/-- A name no value is about is no key of an input and no text of an output. -/
theorem unused_of_firstAdded {m : ValueItemMap} {name : Str}
    (h : firstAdded (m.valueMap.toList.filterMap (comparePair x)) name = none) :
    ¬ m.InputKey name ∧ ∀ key, ¬ m.OutputKey x key name := by
  have hno : ∀ key item ioType, m.valueMap[key]? = some item → comparePair x (key, item) ≠ some (name, ioType) := by
    intro key item ioType hmem hpair
    obtain ⟨_, hsome⟩ := isSome_firstAdded x hmem hpair
    rw [h] at hsome
    cases hsome
  refine ⟨fun ⟨item, hmem, htype⟩ => ?_, fun key ⟨item, hmem, htype⟩ => ?_⟩
  · exact hno name item _ hmem ((comparePair_input x).mpr ⟨htype, rfl⟩)
  · exact hno key item _ hmem ((comparePair_output x).mpr htype)

/-- A name that is met as an input first is the key of one, and any output it names comes later. -/
theorem input_of_firstAdded {m : ValueItemMap} {name : Str}
    (h : firstAdded (m.valueMap.toList.filterMap (comparePair x)) name = some .inputType) :
    m.InputKey name ∧ ∀ key, m.OutputKey x key name → compare name key = .lt := by
  obtain ⟨key, item, hmem, hpair, hfirst⟩ := first_of_firstAdded x h
  obtain ⟨htype, rfl⟩ := (comparePair_input x).mp hpair
  refine ⟨⟨item, hmem, htype⟩, ?_⟩
  rintro key' ⟨item', hmem', htype', htext⟩
  refine (hfirst key' item' _ hmem' ((comparePair_output x).mpr ⟨htype', htext⟩)).resolve_left ?_
  rintro rfl
  obtain rfl := Option.some_inj.mp (hmem.symm.trans hmem')
  rw [htype] at htype'
  cases htype'

/-- A name that is met as an output first is the text of one, and the input it names comes later. -/
theorem output_of_firstAdded {m : ValueItemMap} {name : Str}
    (h : firstAdded (m.valueMap.toList.filterMap (comparePair x)) name = some .outputType) :
    ∃ key, m.OutputKey x key name ∧ (m.InputKey name → compare key name = .lt) := by
  obtain ⟨key, item, hmem, hpair, hfirst⟩ := first_of_firstAdded x h
  obtain ⟨htype, htext⟩ := (comparePair_output x).mp hpair
  refine ⟨key, ⟨item, hmem, htype, htext⟩, ?_⟩
  rintro ⟨item', hmem', htype'⟩
  refine (hfirst name item' _ hmem' ((comparePair_input x).mpr ⟨htype', rfl⟩)).resolve_left ?_
  rintro rfl
  obtain rfl := Option.some_inj.mp (hmem.symm.trans hmem')
  rw [htype] at htype'
  cases htype'

theorem not_lt_of_lt {key key' : Str} (h : compare key key' = .lt) : compare key' key ≠ .lt := by
  have hswap : compare key' key = (compare key key').swap := Std.OrientedCmp.eq_swap
  rw [hswap, h]
  nofun

/-- **The direction of a name** in the map: one it is used in, and met in first. -/
theorem firstAdded_comparePairs_iff (m : ValueItemMap) (name : Str) (ioType : IO_ValueType) :
    firstAdded (comparePairs x m) name = some ioType ↔ Uses x m name ioType ∧ MetFirst x m name ioType := by
  rw [comparePairs, firstAdded_append, firstAdded_children]
  cases hf : firstAdded (m.valueMap.toList.filterMap (comparePair x)) name with
  | none =>
    -- a child map is the only use that is left
    obtain ⟨hin, hout⟩ := unused_of_firstAdded x hf
    rw [Option.none_or]
    constructor
    · intro h
      split_ifs at h with hc
      cases h
      exact ⟨.child hc, fun key hkey => absurd hkey (hout key)⟩
    · rintro ⟨hin' | hout' | hc, -⟩
      · exact absurd hin' hin
      · exact absurd hout' (hout _)
      · exact if_pos hc
  | some first =>
    rw [Option.some_or, Option.some_inj]
    cases first with
    | undefinedValueType =>
      obtain ⟨_, _, _, hpair, _⟩ := first_of_firstAdded x hf
      exact absurd hpair (comparePair_undefined x)
    | inputType =>
      obtain ⟨hin, hlt⟩ := input_of_firstAdded x hf
      constructor
      · rintro rfl
        exact ⟨.input hin, fun key hkey => ⟨hin, hlt key hkey⟩⟩
      · rintro ⟨hu, hm⟩
        cases hu with
        | input => rfl
        | child => rfl
        | output =>
          obtain ⟨key, hkey, hgt⟩ := hm hin
          exact absurd hgt (not_lt_of_lt (hlt key hkey))
    | outputType =>
      obtain ⟨key, hout, hlt⟩ := output_of_firstAdded x hf
      constructor
      · rintro rfl
        exact ⟨.output hout, fun hin => ⟨key, hout, hlt hin⟩⟩
      · rintro ⟨hu, hm⟩
        cases hu with
        | output => rfl
        | _ =>
          obtain ⟨hin, hgt⟩ := hm key hout
          exact absurd hgt (not_lt_of_lt (hlt hin))

theorem exists_direction {m : ValueItemMap} {name : Str} {ioType : IO_ValueType} (h : Uses x m name ioType) :
    ∃ ioType', Uses x m name ioType' ∧ MetFirst x m name ioType' := by
  simp only [← firstAdded_comparePairs_iff]
  rw [← Option.isSome_iff_exists, Option.isSome_iff_ne_none]
  intro hnone
  rw [firstAdded_eq_none, comparePairs] at hnone
  cases h with
  | input h =>
    obtain ⟨item, hmem, htype⟩ := h
    exact hnone (name, .inputType) (List.mem_append_left _ (List.mem_filterMap.mpr ⟨(name, item),
      Std.ExtTreeMap.mem_toList_iff_getElem?_eq_some.mpr hmem, (comparePair_input x).mpr ⟨htype, rfl⟩⟩)) rfl
  | output h =>
    obtain ⟨item, hmem, htype⟩ := h
    exact hnone (name, .outputType) (List.mem_append_left _ (List.mem_filterMap.mpr ⟨(_, item),
      Std.ExtTreeMap.mem_toList_iff_getElem?_eq_some.mpr hmem, (comparePair_output x).mpr htype⟩)) rfl
  | child h =>
    obtain ⟨child, hchild⟩ := Option.isSome_iff_exists.mp (Std.ExtTreeMap.contains_eq_isSome_getElem?.symm.trans h)
    exact hnone (name, .inputType) (List.mem_append_right _ (List.mem_map.mpr ⟨(name, child),
      Std.ExtTreeMap.mem_toList_iff_getElem?_eq_some.mpr hchild, rfl⟩)) rfl

end

/-! ### The verdict -/

section

variable (x : Libs) (b : Blossom) {blossomItem : BlossomItem} (validationMap : StdMap FieldDef) (filePath : Str)
  (error : ErrorContainer)

/-- The loops of `validateInput` over the map of the names. -/
theorem checkCompareMap_passed {allowUnmatched : Bool} {compareMap : StdMap IO_ValueType}
    {validationMap : StdMap FieldDef} : checkCompareMap allowUnmatched compareMap validationMap = .passed ↔
      (allowUnmatched = true ∨ ∀ (name : Str) (ioType : IO_ValueType), compareMap[name]? = some ioType →
        validationMap.contains name = true) ∧
      ∀ (name : Str) (d : FieldDef), validationMap[name]? = some d → d.isRequired = true →
        compareMap[name]? = some d.ioType := by
  rw [checkCompareMap, Check.andThen_eq_passed]
  refine and_congr ?_ ?_
  · cases allowUnmatched with
    | true => simp
    | false =>
      rw [if_neg Bool.false_ne_true, Check.forEach_eq_passed,
        forall_mem_toList compareMap fun e => Check.require (validationMap.contains e.1) _ = .passed]
      simp only [Check.require_eq_passed, Bool.false_eq_true, false_or]
  · rw [Check.forEach_eq_passed, forall_mem_toList validationMap fun e => ite _ _ _ = Check.passed]
    refine forall_congr' fun name => forall_congr' fun d => forall_congr' fun _ => ?_
    cases d.isRequired with
    | false => simp
    | true =>
      cases compareMap[name]? with
      | none => simp
      | some ioType =>
        rw [if_pos rfl, Check.require_eq_passed, decide_eq_true_iff, Option.some_inj]
        exact ⟨fun h _ => h.symm, fun h => (h rfl).symm⟩

theorem checkCompareMap_ne_crashed (allowUnmatched : Bool) (compareMap : StdMap IO_ValueType)
    (validationMap : StdMap FieldDef) : checkCompareMap allowUnmatched compareMap validationMap ≠ .crashed := by
  refine Check.andThen_ne_crashed ?_ (Check.forEach_ne_crashed fun field _ => ?_)
  · split_ifs
    · simp
    · exact Check.forEach_ne_crashed fun _ _ => by simp
  · split_ifs
    · cases compareMap[field.1]? <;> simp
    · simp

/-- **What `validateInput` accepts**: registered names, and required fields that are supplied and met first
in their direction. -/
theorem validateInput_iff (h : blossomItem.values.NonNull) :
    ∃ ret error', b.validateInput x blossomItem validationMap filePath error = some (ret, error') ∧
      (ret = true ↔ (b.allowUnmatched = true ∨ NamesRegistered x blossomItem.values validationMap) ∧
        RequiredSupplied x blossomItem.values validationMap ∧
        RequiredMetFirst x blossomItem.values validationMap) := by
  obtain ⟨compareMap, hmap, hnames⟩ := getCompareMap_eq_some x h
  have hpassed : checkCompareMap b.allowUnmatched compareMap validationMap = .passed ↔
      (b.allowUnmatched = true ∨ NamesRegistered x blossomItem.values validationMap) ∧
        RequiredSupplied x blossomItem.values validationMap ∧
        RequiredMetFirst x blossomItem.values validationMap := by
    rw [checkCompareMap_passed]
    refine and_congr (or_congr Iff.rfl ?_) ?_
    · simp only [hnames, firstAdded_comparePairs_iff, NamesRegistered]
      refine forall_congr' fun name => ⟨fun hall ioType hu => ?_, fun hall ioType hu => hall ioType hu.1⟩
      obtain ⟨ioType', hio⟩ := exists_direction x hu
      exact hall ioType' hio
    · simp only [hnames, firstAdded_comparePairs_iff, RequiredSupplied, RequiredMetFirst]
      exact ⟨fun hall => ⟨fun name d hd hr => (hall name d hd hr).1, fun name d hd hr => (hall name d hd hr).2⟩,
        fun hall name d hd hr => ⟨hall.1 name d hd hr, hall.2 name d hd hr⟩⟩
  simp only [Blossom.validateInput, hmap]
  cases hc : checkCompareMap b.allowUnmatched compareMap validationMap with
  | passed => exact ⟨true, error, by simp [hc], iff_of_true rfl (hpassed.mp hc)⟩
  | failed message =>
    refine ⟨false, createErrorOfItem x blossomItem filePath (str "validator") (error.addMeesage message),
      by simp [hc], iff_of_false nofun fun hall => ?_⟩
    rw [hpassed.mpr hall] at hc
    cases hc
  | crashed => exact absurd hc (checkCompareMap_ne_crashed _ _ _)

end

/-! ### Renaming result variables -/

/-- Two maps differ by a renaming of the keys of the outputs, to keys that are not used otherwise. -/
structure OutputsRenamed (m m' : ValueItemMap) (rename : Str → Str) : Prop where
  /-- No two outputs get one key. -/
  injective : ∀ (key key' : Str) (item item' : ValueItem), m.valueMap[key]? = some item →
    item.type = .outputPairType → m.valueMap[key']? = some item' → item'.type = .outputPairType →
    rename key = rename key' → key = key'
  /-- No output gets the key of another item. -/
  unused : ∀ (key : Str) (item item' : ValueItem), m.valueMap[key]? = some item → item.type = .outputPairType →
    m.valueMap[rename key]? = some item' → item'.type = .outputPairType
  /-- No output gets the key of a child map. -/
  noChild : ∀ (key : Str) (item : ValueItem), m.valueMap[key]? = some item → item.type = .outputPairType →
    m.childMaps.contains (rename key) = false
  /-- The outputs are there under their new keys. -/
  outputs : ∀ (key' : Str) (item : ValueItem), item.type = .outputPairType →
    (m'.valueMap[key']? = some item ↔ ∃ key, m.valueMap[key]? = some item ∧ rename key = key')
  /-- The other items are there as before. -/
  others : ∀ (key : Str) (item : ValueItem), item.type ≠ .outputPairType →
    (m'.valueMap[key]? = some item ↔ m.valueMap[key]? = some item)
  /-- So are the child maps. -/
  childMaps : m'.childMaps = m.childMaps

section

variable {x : Libs} {m m' : ValueItemMap} {rename : Str → Str}

theorem OutputsRenamed.inputKey_iff (h : OutputsRenamed m m' rename) (name : Str) :
    m'.InputKey name ↔ m.InputKey name := by
  refine exists_congr fun item => and_congr_left fun htype => h.others name item ?_
  rw [htype]
  nofun

theorem OutputsRenamed.exists_outputKey_iff (h : OutputsRenamed m m' rename) (name : Str) :
    (∃ key, m'.OutputKey x key name) ↔ ∃ key, m.OutputKey x key name := by
  constructor
  · rintro ⟨key', item, hmem, htype, htext⟩
    obtain ⟨key, hmem, -⟩ := (h.outputs key' item htype).mp hmem
    exact ⟨key, item, hmem, htype, htext⟩
  · rintro ⟨key, item, hmem, htype, htext⟩
    exact ⟨rename key, item, (h.outputs _ item htype).mpr ⟨key, hmem, rfl⟩, htype, htext⟩

theorem OutputsRenamed.uses_iff (h : OutputsRenamed m m' rename) (name : Str) (ioType : IO_ValueType) :
    Uses x m' name ioType ↔ Uses x m name ioType := by
  constructor
  · rintro (hin | hout | hchild)
    · exact .input ((h.inputKey_iff name).mp hin)
    · obtain ⟨key, hkey⟩ := (h.exists_outputKey_iff name).mp ⟨_, hout⟩
      exact .output hkey
    · exact .child (h.childMaps ▸ hchild)
  · rintro (hin | hout | hchild)
    · exact .input ((h.inputKey_iff name).mpr hin)
    · obtain ⟨key, hkey⟩ := (h.exists_outputKey_iff name).mpr ⟨_, hout⟩
      exact .output hkey
    · exact .child (h.childMaps.symm ▸ hchild)

theorem OutputsRenamed.nonNull (h : OutputsRenamed m m' rename) (hn : m.NonNull) : m'.NonNull := by
  intro key' item hmem
  by_cases htype : item.type = .outputPairType
  · obtain ⟨key, hmem, -⟩ := (h.outputs key' item htype).mp hmem
    exact hn key item hmem
  · exact hn key' item ((h.others key' item htype).mp hmem)

end

section

variable (x : Libs) (b : Blossom) (blossomItem : BlossomItem) (values' : ValueItemMap)
  (validationMap : StdMap FieldDef) (filePath : Str) (error : ErrorContainer)

/-- The verdict on a blossom-item does not depend on the names of its result variables. -/
structure RenamingSafe : Prop where
  /-- With the other names it is the same. -/
  sameVerdict :
    (b.validateInput x { blossomItem with values := values' } validationMap filePath error).map Prod.fst =
      (b.validateInput x blossomItem validationMap filePath error).map Prod.fst
  /-- It is true for registered names with every required field supplied in its direction. -/
  accepts : NamesRegistered x blossomItem.values validationMap →
    RequiredSupplied x blossomItem.values validationMap →
    ∃ error', b.validateInput x blossomItem validationMap filePath error = some (true, error')

/-- Where the verdict is left to the order of the keys, every required field is met in its direction first, under
both namings; or under neither, which takes a name that is not registered. -/
def OrderHarmless : Prop :=
  b.allowUnmatched = true ∨ NamesRegistered x blossomItem.values validationMap →
    RequiredSupplied x blossomItem.values validationMap →
    (RequiredMetFirst x values' validationMap ↔ RequiredMetFirst x blossomItem.values validationMap) ∧
      (NamesRegistered x blossomItem.values validationMap → RequiredMetFirst x blossomItem.values validationMap)

end

/-- **When the names of result variables do not matter**: exactly if every required field that is used in both
directions is met in its own first. -/
theorem renamingSafe_iff (x : Libs) (b : Blossom) (blossomItem : BlossomItem) (values' : ValueItemMap)
    (rename : Str → Str) (validationMap : StdMap FieldDef) (filePath : Str) (error : ErrorContainer)
    (hren : OutputsRenamed blossomItem.values values' rename) (hn : blossomItem.values.NonNull) :
    RenamingSafe x b blossomItem values' validationMap filePath error ↔
      OrderHarmless x b blossomItem values' validationMap := by
  obtain ⟨ret, error₁, hret, hiff⟩ := validateInput_iff x b validationMap filePath error hn
  have hn' : ({ blossomItem with values := values' } : BlossomItem).values.NonNull := hren.nonNull hn
  obtain ⟨ret', error₂, hret', hiff'⟩ := validateInput_iff x b validationMap filePath error hn'
  have hnames : NamesRegistered x values' validationMap ↔ NamesRegistered x blossomItem.values validationMap := by
    simp only [NamesRegistered, hren.uses_iff]
  have hsupplied :
      RequiredSupplied x values' validationMap ↔ RequiredSupplied x blossomItem.values validationMap := by
    simp only [RequiredSupplied, hren.uses_iff]
  simp only [hnames, hsupplied] at hiff'
  have hsame : (b.validateInput x { blossomItem with values := values' } validationMap filePath error).map Prod.fst =
      (b.validateInput x blossomItem validationMap filePath error).map Prod.fst ↔ (ret' = true ↔ ret = true) := by
    rw [hret, hret', Option.map_some, Option.map_some, Option.some_inj, Bool.eq_iff_iff]
  have haccepts : (∃ error', b.validateInput x blossomItem validationMap filePath error = some (true, error')) ↔
      ret = true := by
    rw [hret]
    exact ⟨fun ⟨_, h⟩ => congrArg Prod.fst (Option.some_inj.mp h), fun h => ⟨error₁, by rw [h]⟩⟩
  constructor
  · intro hsafe hreg hsup
    have hv := hsame.mp hsafe.sameVerdict
    rw [hiff, hiff'] at hv
    refine ⟨?_, fun hreg' => (hiff.mp (haccepts.mp (hsafe.accepts hreg' hsup))).2.2⟩
    exact ⟨fun h => (hv.mp ⟨hreg, hsup, h⟩).2.2, fun h => (hv.mpr ⟨hreg, hsup, h⟩).2.2⟩
  · intro h
    refine ⟨hsame.mpr ?_, fun hreg hsup => haccepts.mpr (hiff.mpr ⟨.inr hreg, hsup, (h (.inr hreg) hsup).2 hreg⟩)⟩
    rw [hiff, hiff']
    exact ⟨fun ⟨hreg, hsup, hmet⟩ => ⟨hreg, hsup, (h hreg hsup).1.mp hmet⟩,
      fun ⟨hreg, hsup, hmet⟩ => ⟨hreg, hsup, (h hreg hsup).1.mpr hmet⟩⟩

/-! ### One result variable -/

theorem outputsRenamed_insert {values : StdMap ValueItem} {childMaps : StdMap ValueItemMapId} {key key' : Str}
    {item : ValueItem} (hout : item.type = .outputPairType)
    (hin : ∀ (k : Str) (i : ValueItem), values[k]? = some i → i.type ≠ .outputPairType)
    (hkey : values[key]? = none) (hkey' : values[key']? = none) (hchild : childMaps.contains key' = false) :
    OutputsRenamed ⟨values.insert key item, childMaps⟩ ⟨values.insert key' item, childMaps⟩ fun _ => key' := by
  have hfind : ∀ {k₀ : Str}, values[k₀]? = none → ∀ (k : Str) (i : ValueItem),
      (values.insert k₀ item)[k]? = some i ↔ (k = k₀ ∧ i = item) ∨ values[k]? = some i := by
    intro k₀ hk₀ k i
    rw [Std.ExtTreeMap.getElem?_insert]
    by_cases hk : k₀ = k
    · subst hk
      rw [if_pos Std.ReflCmp.compare_self, hk₀]
      simp [eq_comm]
    · rw [if_neg (by simpa using hk)]
      simp [Ne.symm hk]
  have hone : ∀ (k : Str) (i : ValueItem), (values.insert key item)[k]? = some i → i.type = .outputPairType →
      k = key ∧ i = item := fun k i hmem htype =>
    ((hfind hkey k i).mp hmem).resolve_right fun hold => hin k i hold htype
  refine ⟨?_, ?_, fun _ _ _ _ => hchild, ?_, ?_, rfl⟩
  · intro k k' i i' hmem htype hmem' htype' _
    rw [(hone k i hmem htype).1, (hone k' i' hmem' htype').1]
  · intro k i i' _ _ hmem'
    rcases (hfind hkey key' i').mp hmem' with ⟨-, rfl⟩ | hold
    · exact hout
    · rw [hkey'] at hold
      cases hold
  · intro k' i htype
    refine (hfind hkey' k' i).trans ⟨?_, ?_⟩
    · rintro (⟨rfl, rfl⟩ | hold)
      · exact ⟨key, (hfind hkey key i).mpr (.inl ⟨rfl, rfl⟩), rfl⟩
      · exact absurd htype (hin k' i hold)
    · rintro ⟨k, hmem, rfl⟩
      exact .inl ⟨rfl, (hone k i hmem htype).2⟩
  · intro k i htype
    have hi : i ≠ item := fun h => htype (h ▸ hout)
    refine (hfind hkey' k i).trans (Iff.trans ?_ (hfind hkey k i).symm)
    simp [hi]

/-- An output that is named by a string. -/
def outputItem (name : Str) : ValueItem := { item := some (.value (.string name)), type := .outputPairType }

/-- A script that sets the input `name`, and takes an output of that name into a variable. -/
def bothWays (target : Str) : BlossomItem where
  values := ⟨((∅ : StdMap ValueItem).insert (str "name") { item := some (.value (.int 5)) }).insert target
    (outputItem (str "name")), ∅⟩

/-- A field with this name that is required as an input. -/
def requiredName : StdMap FieldDef :=
  (∅ : StdMap FieldDef).insert (str "name")
    { ioType := .inputType, fieldType := .intType, isRequired := true, comment := [] }

/-- A blossom to check it with. -/
def scripted : Blossom := .ofCalls [] false fun leaf _ r => ⟨true, leaf, r⟩

theorem outputsRenamed_bothWays {target target' : Str} (h : str "name" ≠ target) (h' : str "name" ≠ target') :
    OutputsRenamed (bothWays target).values (bothWays target').values fun _ => target' := by
  have hfree : ∀ key : Str, str "name" ≠ key →
      ((∅ : StdMap ValueItem).insert (str "name") { item := some (.value (.int 5)) })[key]? = none := by
    intro key hkey
    rw [Std.ExtTreeMap.getElem?_insert, if_neg (by simpa using hkey), Std.ExtTreeMap.getElem?_empty]
  refine outputsRenamed_insert rfl (fun key item hmem => ?_) (hfree target h) (hfree target' h') rfl
  rw [Std.ExtTreeMap.getElem?_insert] at hmem
  split_ifs at hmem
  · obtain rfl := Option.some_inj.mp hmem
    nofun
  · simp at hmem

theorem nonNull_bothWays (target : Str) : (bothWays target).values.NonNull := by
  intro key item hmem
  rw [bothWays, Std.ExtTreeMap.getElem?_insert, Std.ExtTreeMap.getElem?_insert] at hmem
  split_ifs at hmem
  · obtain rfl := Option.some_inj.mp hmem
    nofun
  · obtain rfl := Option.some_inj.mp hmem
    nofun
  · simp at hmem

theorem renamingSafe_iff_bothWays :
    RenamingSafe literalLibs scripted (bothWays (str "x")) (bothWays (str "y")).values requiredName [] ⟨[]⟩ ↔
      OrderHarmless literalLibs scripted (bothWays (str "x")) (bothWays (str "y")).values requiredName :=
  renamingSafe_iff literalLibs scripted (bothWays (str "x")) (bothWays (str "y")).values (fun _ => str "y")
    requiredName [] ⟨[]⟩ (outputsRenamed_bothWays (by decide) (by decide)) (nonNull_bothWays (str "x"))

/-- The script is accepted with the variable `x`, and refused with the variable `a`. -/
theorem not_renamingSafe_bothWays :
    OutputsRenamed (bothWays (str "x")).values (bothWays (str "a")).values (fun _ => str "a") ∧
      (bothWays (str "x")).values.NonNull ∧
      ¬ RenamingSafe literalLibs scripted (bothWays (str "x")) (bothWays (str "a")).values requiredName [] ⟨[]⟩ := by
  refine ⟨outputsRenamed_bothWays (by decide) (by decide), nonNull_bothWays (str "x"), fun h => ?_⟩
  exact absurd h.sameVerdict (by decide)

end HanamiNetwork
