import HanamiNetwork.Basis.Check
import HanamiNetwork.Basis.OrderedMap
import HanamiNetwork.Blossoms.Fields
import HanamiNetwork.Data.World

/-!
# Validation of values

`checkBlossomValues` and `checkType` (`runtime_validation.cpp`), and
`validateFieldsCompleteness` (`blossom.cpp`): the two validators a map of values passes
before and after the task of a blossom. A verdict is a `Check`; it crashes where the
source dereferences a null pointer or throws an exception that nothing catches.

Each validator gets one lemma that says what its `passed` means (`checkBlossomValues_passed`,
`validateFieldsCompleteness_passed`), and `checkBlossomValues_ne_crashed_iff` says that fields
registered through the calls of a blossom crash exactly if the check gets to a regex that throws.
-/

namespace HanamiNetwork

open HanamiNetwork.Basis

/-! ### Types -/

/-- `createErrorMessage`. -/
def createErrorMessage (name : Str) (fieldType : FieldType) : Str :=
  str "Value-validation failed, because a item '" ++ name ++ str "'  has the false type:" ++
    match fieldType with
    | .undefinedType => []
    | .intType => str " Exprect int-type."
    | .floatType => str " Exprect float-type."
    | .boolType => str " Exprect bool-type."
    | .stringType => str " Exprect string-type."
    | .arrayType => str " Exprect array-type."
    | .mapType => str " Exprect map-type."

/-- `checkType`. -/
def checkType (item : DataItem) (fieldType : FieldType) : Bool :=
  match item, fieldType with
  | .array _, .arrayType => true
  | .map _, .mapType => true
  | .value (.int _), .intType => true
  | .value (.float _), .floatType => true
  | .value (.bool _), .boolType => true
  | .value (.string _), .stringType => true
  | _, _ => false

/-- The type an item is of. -/
def DataItem.fieldType : DataItem → FieldType
  | .array _ => .arrayType
  | .map _ => .mapType
  | .value (.int _) => .intType
  | .value (.float _) => .floatType
  | .value (.bool _) => .boolType
  | .value (.string _) => .stringType

theorem checkType_iff (item : DataItem) (fieldType : FieldType) :
    checkType item fieldType = true ↔ item.fieldType = fieldType := by
  rcases item with (_ | _ | _ | _) | _ | _ <;> cases fieldType <;> simp [checkType, DataItem.fieldType]

theorem eq_string_of_checkType {item : DataItem} (h : checkType item .stringType = true) :
    ∃ s, item = .value (.string s) := by
  rcases item with (_ | _ | _ | s) | _ | _
  case value.string => exact ⟨s, rfl⟩
  all_goals cases h

/-! ### The checks of one field -/

section

variable (x : Libs)

/-- The regex of a field matches the whole text; there is no value if it throws. -/
def matchesRegex (regex text : Str) : Option Bool := x.regexMatch (str "^" ++ regex ++ str "$") text

/-- Check regex. -/
def checkRegex (name : Str) (d : FieldDef) (item : DataItem) : Check Str :=
  if d.regex.length > 0 then
    match item.toValue with
    | none => .crashed
    | some value =>
      match matchesRegex x d.regex (x.getString value) with
      | none => .crashed
      | some matched =>
        .require matched (str "Given item '" ++ name ++ str "' doesn't match with regex \"^" ++ d.regex ++ str "$\"")
  else .passed

/-- `std::to_string` of a `long`. -/
def to_string (n : Int64) : Str := str (toString n.toInt)

/-- The border check of an int or of the length of a string, up to the words of its messages. -/
def checkBorders (name : Str) (d : FieldDef) (value : Int64) (smaller bigger unit : Str) : Check Str :=
  (Check.require (!(value < d.lowerBorder))
    (str "Given item '" ++ name ++ str "' is " ++ smaller ++ str " than " ++ to_string d.lowerBorder ++ unit)).andThen
  (Check.require (!(value > d.upperBorder))
    (str "Given item '" ++ name ++ str "' is " ++ bigger ++ str " than " ++ to_string d.upperBorder ++ unit))

/-- Check value border. -/
def checkBorder (name : Str) (d : FieldDef) (item : DataItem) : Check Str :=
  if d.upperBorder ≠ 0 ∨ d.lowerBorder ≠ 0 then
    match item with
    | .value (.int value) => checkBorders name d value (str "smaller") (str "bigger") []
    | .value (.string s) =>
      let length := Int64.ofNat (x.getString (.string s)).length
      checkBorders name d length (str "shorter") (str "longer") (str " characters")
    | _ => .passed
  else .passed

/-- Check match. -/
def checkMatch (name : Str) (d : FieldDef) (item : DataItem) : Check Str :=
  match d.match with
  | none => .passed
  | some «match» =>
    .require (x.itemToString «match» = x.itemToString item)
      (str "Item '" ++ name ++ str "' doesn't match the the expected value:\n   " ++ x.itemToString «match» ++
        str "\nbut has value:\n   " ++ x.itemToString item)

/-- The body of the loop of `checkBlossomValues`. -/
def checkField (values : DataMap) (ioType : IO_ValueType) (field : Str × FieldDef) : Check Str :=
  if field.2.ioType ≠ ioType then .passed
  else
    match values.get field.1 with
    | none => .passed
    | some item =>
      (Check.require (checkType item field.2.fieldType) (createErrorMessage field.1 field.2.fieldType)).andThen
        ((checkRegex x field.1 field.2 item).andThen
          ((checkBorder x field.1 field.2 item).andThen (checkMatch x field.1 field.2 item)))

/-- `checkBlossomValues`. -/
def checkBlossomValues (defs : StdMap FieldDef) (values : DataMap) (ioType : IO_ValueType) : Check Str :=
  .forEach (checkField x values ioType) defs.toList

/-- `validateFieldsCompleteness`. -/
def validateFieldsCompleteness (allowUnmatched : Bool) (input : DataMap) (validationMap : StdMap FieldDef)
    (valueType : IO_ValueType) : Check Str :=
  (if allowUnmatched then .passed else .forEach (fun entry : Str × Option DataItem =>
    .require (validationMap.contains entry.1)
      (str "Validation failed, because item '" ++ entry.1 ++ str "' is not in the list of allowed keys"))
    input.map.toList : Check Str).andThen <|
  .forEach (fun field : Str × FieldDef =>
    .require (!(field.2.isRequired && field.2.ioType = valueType) || input.contains field.1)
      (str "Validation failed, because variable '" ++ field.1 ++ str "' is required, but is not set."))
    validationMap.toList

/-! ### What it means to pass -/

/-- What an item that passed the checks of a field is like. -/
structure Fits (d : FieldDef) (item : DataItem) : Prop where
  /-- It is of the declared type. -/
  fieldType : item.fieldType = d.fieldType
  /-- It matches the regex. -/
  regex : d.regex ≠ [] → ∀ value, item.toValue = some value → matchesRegex x d.regex (x.getString value) = some true
  /-- It has the text of the match value. -/
  «match» : ∀ «match», d.match = some «match» → x.itemToString item = x.itemToString «match»

theorem matchesRegex_of_checkRegex {name : Str} {d : FieldDef} {item : DataItem} {value : DataValue} (hr : d.regex ≠ [])
    (hv : item.toValue = some value) (h : checkRegex x name d item = .passed) :
    matchesRegex x d.regex (x.getString value) = some true := by
  rw [checkRegex, if_pos (List.length_pos_of_ne_nil hr), hv] at h
  cases hm : matchesRegex x d.regex (x.getString value) with
  | none => simp [hm] at h
  | some matched =>
    simp only [hm, Check.require_eq_passed] at h
    rw [h]

theorem fits_of_checkField {values : DataMap} {ioType : IO_ValueType} {name : Str} {d : FieldDef} {item : DataItem}
    (hd : d.ioType = ioType) (hitem : values.get name = some item)
    (h : checkField x values ioType (name, d) = .passed) : Fits x d item := by
  simp only [checkField, hd, ne_eq, not_true_eq_false, if_false, hitem, Check.andThen_eq_passed,
    Check.require_eq_passed] at h
  obtain ⟨htype, hregex, -, hmatch⟩ := h
  refine ⟨(checkType_iff item d.fieldType).mp htype, fun hr value hv => ?_, fun m hm => ?_⟩
  · exact matchesRegex_of_checkRegex x hr hv hregex
  · rw [checkMatch, hm] at hmatch
    exact (of_decide_eq_true (Check.require_eq_passed.mp hmatch)).symm

/-- In a map that passed, the items under the checked fields fit them. -/
theorem checkBlossomValues_passed {defs : StdMap FieldDef} {values : DataMap} {ioType : IO_ValueType}
    (h : checkBlossomValues x defs values ioType = .passed) {name : Str} {d : FieldDef} {item : DataItem}
    (hd : defs[name]? = some d) (hio : d.ioType = ioType) (hitem : values.get name = some item) : Fits x d item := by
  have hall := (forall_mem_toList defs fun e => checkField x values ioType e = .passed).mp
    (Check.forEach_eq_passed.mp h)
  exact fits_of_checkField x hio hitem (hall name d hd)

/-! ### When a check crashes -/

/-- An item of the type of its field, which is a string if there is a regex, crashes the check if the regex throws. -/
theorem checkRegex_eq_crashed_iff {name : Str} {d : FieldDef} {item : DataItem}
    (hd : d.regex ≠ [] → d.fieldType = .stringType) (ht : checkType item d.fieldType = true) :
    checkRegex x name d item = .crashed ↔
      d.regex ≠ [] ∧ ∃ s, item = .value (.string s) ∧ matchesRegex x d.regex s = none := by
  by_cases hr : d.regex = []
  · simp [checkRegex, hr]
  · rw [hd hr] at ht
    obtain ⟨s, rfl⟩ := eq_string_of_checkType ht
    rw [checkRegex, if_pos (List.length_pos_of_ne_nil hr)]
    simp only [DataItem.toValue, x.getString_string]
    cases hm : matchesRegex x d.regex s <;> simp [hr, hm]

theorem checkBorder_ne_crashed {name : Str} {d : FieldDef} {item : DataItem} :
    checkBorder x name d item ≠ .crashed := by
  unfold checkBorder checkBorders
  split_ifs
  · split
    · exact Check.andThen_ne_crashed (by simp) (by simp)
    · exact Check.andThen_ne_crashed (by simp) (by simp)
    · simp
  · simp

theorem checkMatch_ne_crashed {name : Str} {d : FieldDef} {item : DataItem} : checkMatch x name d item ≠ .crashed := by
  unfold checkMatch
  split <;> simp

/-- Of the checks of a field, only that of its regex crashes. -/
theorem checkField_eq_crashed_iff {values : DataMap} {ioType : IO_ValueType} {name : Str} {d : FieldDef}
    (hd : d.regex ≠ [] → d.fieldType = .stringType) :
    checkField x values ioType (name, d) = .crashed ↔ d.ioType = ioType ∧ d.regex ≠ [] ∧
      ∃ s, values.get name = some (.value (.string s)) ∧ matchesRegex x d.regex s = none := by
  unfold checkField
  split_ifs with hio
  · simp only [false_iff, not_and]
    exact fun h => absurd h hio
  have hio : d.ioType = ioType := not_not.mp hio
  cases hitem : values.get name with
  | none => simp
  | some item =>
    by_cases ht : checkType item d.fieldType = true
    · simp only [ht, Check.andThen_eq_crashed, Check.require_ne_crashed, Check.require_eq_passed, false_or, true_and,
        checkBorder_ne_crashed, checkMatch_ne_crashed, and_false, or_false, checkRegex_eq_crashed_iff x hd ht, hio,
        Option.some_inj]
    · have hr : ∀ s, item = .value (.string s) → d.regex = [] := by
        rintro s rfl
        by_contra hr
        exact ht (by rw [hd hr]; rfl)
      simp only [ht, Check.require, Check.andThen, Bool.false_eq_true, if_false, reduceCtorEq, Option.some_inj,
        false_iff, not_and, not_exists]
      exact fun _ hne s hs => absurd (hr s hs) hne

/-- The check of a map gets to the regex of this field with this text: the fields before it pass, and it is
set, with a string. -/
structure ReachesRegex (defs : StdMap FieldDef) (values : DataMap) (ioType : IO_ValueType) (d : FieldDef) (s : Str) :
    Prop where
  /-- There is a regex. -/
  regex : d.regex ≠ []
  /-- The field is one of those that are checked. -/
  checked : d.ioType = ioType
  /-- It is set, with this text, and the check gets to it. -/
  reached : ∃ before name after, defs.toList = before ++ (name, d) :: after ∧
    (∀ field ∈ before, checkField x values ioType field = .passed) ∧ values.get name = some (.value (.string s))

/-- No regex that the check of a map gets to throws. -/
def AcceptsRegexes (defs : StdMap FieldDef) (values : DataMap) (ioType : IO_ValueType) : Prop :=
  ∀ d s, ReachesRegex x defs values ioType d s → matchesRegex x d.regex s ≠ none

/-- **When the check of a map comes to an end**: exactly if no regex that it gets to throws, with fields of which
only strings have one. -/
theorem checkBlossomValues_ne_crashed_iff {defs : StdMap FieldDef} {values : DataMap} {ioType : IO_ValueType}
    (hd : ∀ (name : Str) (d : FieldDef), defs[name]? = some d → d.regex ≠ [] → d.fieldType = .stringType) :
    checkBlossomValues x defs values ioType ≠ .crashed ↔ AcceptsRegexes x defs values ioType := by
  have hfield : ∀ before name d after, defs.toList = before ++ (name, d) :: after →
      d.regex ≠ [] → d.fieldType = .stringType := by
    intro before name d after hl
    refine hd name d (Std.ExtTreeMap.mem_toList_iff_getElem?_eq_some.mp ?_)
    rw [hl]
    exact List.mem_append_right _ List.mem_cons_self
  rw [checkBlossomValues, ne_eq, Check.forEach_eq_crashed_iff]
  constructor
  · rintro h d s ⟨hr, hio, before, name, after, hl, hbefore, hs⟩ hnone
    exact h ⟨before, (name, d), after, hl, hbefore,
      (checkField_eq_crashed_iff x (hfield before name d after hl)).mpr ⟨hio, hr, s, hs, hnone⟩⟩
  · rintro h ⟨before, ⟨name, d⟩, after, hl, hbefore, hcrash⟩
    obtain ⟨hio, hr, s, hs, hnone⟩ := (checkField_eq_crashed_iff x (hfield before name d after hl)).mp hcrash
    exact h d s ⟨hr, hio, before, name, after, hl, hbefore, hs⟩ hnone

theorem acceptsRegexes_of_none {defs : StdMap FieldDef} (hd : ∀ (name : Str) (d : FieldDef), defs[name]? = some d →
    d.regex = []) (values : DataMap) (ioType : IO_ValueType) : AcceptsRegexes x defs values ioType := by
  rintro d s ⟨hr, -, before, name, after, hl, -⟩
  refine absurd (hd name d (Std.ExtTreeMap.mem_toList_iff_getElem?_eq_some.mp ?_)) hr
  rw [hl]
  exact List.mem_append_right _ List.mem_cons_self

end

/-- A complete map has registered keys only, unless others are allowed, and every required key. -/
theorem validateFieldsCompleteness_passed {allowUnmatched : Bool} {input : DataMap}
    {validationMap : StdMap FieldDef} {valueType : IO_ValueType} :
    validateFieldsCompleteness allowUnmatched input validationMap valueType = .passed ↔
      (allowUnmatched = false → ∀ key : Str, input.contains key = true → validationMap.contains key = true) ∧
      ∀ (key : Str) (d : FieldDef), validationMap[key]? = some d → d.isRequired = true → d.ioType = valueType →
        input.contains key = true := by
  rw [validateFieldsCompleteness, Check.andThen_eq_passed]
  refine and_congr ?_ ?_
  · cases allowUnmatched with
    | true => simp
    | false =>
      rw [if_neg Bool.false_ne_true, Check.forEach_eq_passed,
        forall_mem_toList input.map fun e => Check.require (validationMap.contains e.1) _ = .passed]
      simp only [Check.require_eq_passed, true_implies]
      refine forall_congr' fun key => ?_
      rw [DataMap.contains_iff, Option.isSome_iff_exists]
      exact exists_imp.symm
  · rw [Check.forEach_eq_passed, forall_mem_toList validationMap fun e => Check.require _ _ = .passed]
    refine forall_congr' fun key => forall_congr' fun d => forall_congr' fun _ => ?_
    rw [Check.require_eq_passed]
    cases d.isRequired <;> by_cases hv : d.ioType = valueType <;> simp [hv]

theorem validateFieldsCompleteness_ne_crashed (allowUnmatched : Bool) (input : DataMap)
    (validationMap : StdMap FieldDef) (valueType : IO_ValueType) :
    validateFieldsCompleteness allowUnmatched input validationMap valueType ≠ .crashed := by
  refine Check.andThen_ne_crashed ?_ (Check.forEach_ne_crashed fun _ _ => by simp)
  split_ifs
  · simp
  · exact Check.forEach_ne_crashed fun _ _ => by simp

end HanamiNetwork
