import HanamiNetwork.Blossoms.Blossom

/-!
# What the field calls guarantee

`FieldRules` collects what holds of the validation maps after any sequence of the six calls,
and what the checks of a blossom owe to it.

* A field is what its first registration made it, for good (`registration_inputField`,
  `registration_outputField`), and a call that is refused changes nothing
  (`FieldCall.apply_refused`).
* A required field has no default, so that filling in the defaults neither adds a required
  key nor an unknown one: the check of completeness gives the same before and after
  (`Blossom.validateFieldsCompleteness_fillDefaultValues`).
* Only a string field has a regex, so that the check of the type comes between the regex and
  any item that is no string (`checkField_of_not_string`, `checkBlossomValues_of_sameRegex`).
-/

namespace HanamiNetwork

open HanamiNetwork.Basis

/-! ### The first registration -/

/-- What a registration fixes of a field. -/
def FieldDef.registration (d : FieldDef) : IO_ValueType × FieldType × Bool := (d.ioType, d.fieldType, d.isRequired)

/-- The output field a call registers under a name. -/
def FieldCall.registersOutput (name : Str) : FieldCall → Option FieldDef
  | registerOutputField n fieldType comment =>
    if n = name then
      some { ioType := .outputType, fieldType := fieldType, isRequired := false, comment := comment }
    else none
  | _ => none

/-- The first registration of an output field. -/
def firstOutputRegistration (calls : List FieldCall) (name : Str) : Option FieldDef :=
  calls.findSome? (FieldCall.registersOutput name)

/-- An input field is what its first registration made it. -/
theorem registration_inputField (calls : List FieldCall) (name : Str) :
    (FieldMaps.ofCalls calls).inputValidationMap[name]?.map FieldDef.registration =
      (firstRegistration calls name).map FieldDef.registration := by
  rw [(inputField_ofCalls calls name).entry, describedField, Option.map_map]
  rfl

theorem registration_outputField (calls : List FieldCall) (name : Str) :
    (FieldMaps.ofCalls calls).outputValidationMap[name]?.map FieldDef.registration =
      (firstOutputRegistration calls name).map FieldDef.registration := by
  induction calls using List.reverseRecOn with
  | nil => rfl
  | append_singleton calls call ih =>
    rw [FieldMaps.ofCalls_concat, firstOutputRegistration, List.findSome?_append, List.findSome?_singleton,
      ← firstOutputRegistration]
    cases call with
    | registerInputField n fieldType required comment => exact ih.trans (congrArg _ Option.or_none.symm)
    | addFieldDefault n defaultValue => exact ih.trans (congrArg _ Option.or_none.symm)
    | addFieldRegex n regex => exact ih.trans (congrArg _ Option.or_none.symm)
    | addFieldBorder n lowerBorder upperBorder => exact ih.trans (congrArg _ Option.or_none.symm)
    | registerOutputField n fieldType comment =>
      have hentry := getElem?_registerField (FieldMaps.ofCalls calls).outputValidationMap n
        { ioType := .outputType, fieldType := fieldType, isRequired := false, comment := comment } name
      refine (congrArg _ hentry).trans ?_
      rw [FieldCall.registersOutput, Option.map_or, ← ih]
      split_ifs
      · cases (FieldMaps.ofCalls calls).outputValidationMap[name]? <;> rfl
      · rw [Option.map_none, Option.or_none]
    | addFieldMatch n «match» =>
      have hentry := getElem?_changeField (FieldMaps.ofCalls calls).outputValidationMap n (fun _ => true)
        (fun d => { d with «match» }) name
      refine (congrArg _ hentry).trans ((Eq.trans ?_ ih).trans (congrArg _ Option.or_none.symm))
      split_ifs with hn ht
      · rw [Option.map_map]
        rfl
      · exact absurd rfl ht
      · rfl

theorem findSome?_append_of_some {α β : Type} {f : α → Option β} {l : List α} {b : β} (h : l.findSome? f = some b)
    (l' : List α) : (l ++ l').findSome? f = some b := by
  rw [List.findSome?_append, h, Option.some_or]

/-! ### Refused calls -/

theorem registerField_refused {defs : StdMap FieldDef} {name : Str} {d : FieldDef}
    (h : (registerField defs name d).1 = false) : (registerField defs name d).2 = defs := by
  unfold registerField at h ⊢
  split at h
  · rfl
  · cases h

theorem changeField_refused {defs : StdMap FieldDef} {name : Str} {allowed : FieldDef → Bool}
    {change : FieldDef → FieldDef} (h : (changeField defs name allowed change).1 = false) :
    (changeField defs name allowed change).2 = defs := by
  unfold changeField at h ⊢
  split at h
  · rfl
  · split_ifs at h ⊢
    rfl

/-- A call that returns false changes nothing. -/
theorem FieldCall.apply_refused {m : FieldMaps} {call : FieldCall} (h : (call.apply m).1 = false) :
    (call.apply m).2 = m := by
  cases call with
  | registerInputField name fieldType required comment =>
    exact congrArg (FieldMaps.mk · m.outputValidationMap) (registerField_refused h)
  | registerOutputField name fieldType comment =>
    exact congrArg (FieldMaps.mk m.inputValidationMap) (registerField_refused h)
  | addFieldMatch name «match» => exact congrArg (FieldMaps.mk m.inputValidationMap) (changeField_refused h)
  | addFieldDefault name defaultValue =>
    exact congrArg (FieldMaps.mk · m.outputValidationMap) (changeField_refused h)
  | addFieldRegex name regex => exact congrArg (FieldMaps.mk · m.outputValidationMap) (changeField_refused h)
  | addFieldBorder name lowerBorder upperBorder =>
    exact congrArg (FieldMaps.mk · m.outputValidationMap) (changeField_refused h)

/-! ### Completeness and defaults -/

theorem Blossom.fillDefaultValues_of_unknown (b : Blossom) (values : DataMap) {key : Str}
    (h : b.maps.inputValidationMap.contains key = false) :
    (b.fillDefaultValues values).map[key]? = values.map[key]? := by
  rw [← Bool.not_eq_true, Std.ExtTreeMap.contains_eq_isSome_getElem?, Option.not_isSome_iff_eq_none] at h
  rw [getElem?_fillDefaultValues, h, Option.bind_none, Option.map_none, Option.or_none]

theorem Blossom.fillDefaultValues_of_required (b : Blossom) (values : DataMap) {key : Str} {d : FieldDef}
    (hd : b.maps.inputValidationMap[key]? = some d) (h : d.isRequired = true) :
    (b.fillDefaultValues values).map[key]? = values.map[key]? := by
  rw [getElem?_fillDefaultValues, hd, Option.bind_some, (b.wellFormed.input key d hd).defaultVal h,
    Option.map_none, Option.or_none]

/-- **Completeness does not depend on the defaults**: the check of the input fields gives the same
verdict and message before and after they are filled in. -/
theorem Blossom.validateFieldsCompleteness_fillDefaultValues (b : Blossom) (allowUnmatched : Bool)
    (values : DataMap) (valueType : IO_ValueType) :
    validateFieldsCompleteness allowUnmatched (b.fillDefaultValues values) b.maps.inputValidationMap valueType =
      validateFieldsCompleteness allowUnmatched values b.maps.inputValidationMap valueType := by
  unfold validateFieldsCompleteness
  congr 1
  · cases allowUnmatched with
    | true => rfl
    | false =>
      rw [if_neg Bool.false_ne_true, if_neg Bool.false_ne_true,
        ← Check.forEach_filter (p := fun e => !b.maps.inputValidationMap.contains e.1)
          (l := (b.fillDefaultValues values).map.toList) (by simp),
        ← Check.forEach_filter (p := fun e => !b.maps.inputValidationMap.contains e.1)
          (l := values.map.toList) (by simp),
        filter_toList_congr (p := fun key => !b.maps.inputValidationMap.contains key)
          fun key hkey => b.fillDefaultValues_of_unknown values (by simpa using hkey)]
  · refine Check.forEach_congr fun ⟨key, d⟩ he => ?_
    rw [Std.ExtTreeMap.mem_toList_iff_getElem?_eq_some] at he
    cases hr : d.isRequired with
    | false => simp
    | true =>
      have hc : (b.fillDefaultValues values).contains key = values.contains key := by
        rw [Bool.eq_iff_iff, DataMap.contains_iff, DataMap.contains_iff,
          b.fillDefaultValues_of_required values he hr]
      simp only [hc]

/-! ### Regexes and strings -/

section

variable {defs : StdMap FieldDef}
  (hdefs : ∀ (name : Str) (d : FieldDef), defs[name]? = some d → d.regex ≠ [] → d.fieldType = .stringType)
include hdefs

/-- An item that is no string is refused for its type where there is a regex. -/
theorem checkField_of_not_string (x : Libs) {values : DataMap} {name : Str} {d : FieldDef} {item : DataItem}
    (hd : defs[name]? = some d) (hr : d.regex ≠ []) (hitem : values.get name = some item)
    (hs : ∀ s, item ≠ .value (.string s)) :
    checkField x values d.ioType (name, d) = .failed (createErrorMessage name d.fieldType) := by
  have htype : checkType item d.fieldType = false := by
    rw [hdefs name d hd hr, ← Bool.not_eq_true]
    intro h
    obtain ⟨s, rfl⟩ := eq_string_of_checkType h
    exact hs s rfl
  simp [checkField, hitem, htype, Check.require, Check.andThen]

/-- Libraries that match strings and print items alike give the same verdict: the text of a value
that is no string does not matter. -/
theorem checkBlossomValues_of_sameRegex {x x' : Libs} (hm : x.regexMatch = x'.regexMatch)
    (ht : x.itemToString = x'.itemToString) (values : DataMap) (ioType : IO_ValueType) :
    checkBlossomValues x defs values ioType = checkBlossomValues x' defs values ioType := by
  refine Check.forEach_congr fun ⟨name, d⟩ he => ?_
  rw [Std.ExtTreeMap.mem_toList_iff_getElem?_eq_some] at he
  simp only [checkField]
  split_ifs with hio
  · rfl
  cases values.get name with
  | none => rfl
  | some item =>
    cases htype : checkType item d.fieldType with
    | false => simp [htype, Check.require, Check.andThen]
    | true =>
      have hregex : checkRegex x name d item = checkRegex x' name d item := by
        unfold checkRegex
        split_ifs with hr
        · rw [hdefs name d he (List.ne_nil_of_length_pos hr)] at htype
          obtain ⟨s, rfl⟩ := eq_string_of_checkType htype
          simp only [DataItem.toValue, matchesRegex, x.getString_string, x'.getString_string, hm]
        · rfl
      have hborder : checkBorder x name d item = checkBorder x' name d item := by
        simp only [checkBorder, x.getString_string, x'.getString_string]
      have hmatch : checkMatch x name d item = checkMatch x' name d item := by
        simp only [checkMatch, ht]
      simp only [hregex, hborder, hmatch]

end

/-! ### The rules -/

/-- What any sequence of calls leaves, and what the checks gain from it. -/
structure FieldRules (calls : List FieldCall) : Prop where
  /-- The first registration of an input field fixes it, whatever is called later. -/
  firstInput : ∀ name d, firstRegistration calls name = some d → ∀ later, ∃ d',
    (FieldMaps.ofCalls (calls ++ later)).inputValidationMap[name]? = some d' ∧ d'.registration = d.registration
  /-- So does the first registration of an output field. -/
  firstOutput : ∀ name d, firstOutputRegistration calls name = some d → ∀ later, ∃ d',
    (FieldMaps.ofCalls (calls ++ later)).outputValidationMap[name]? = some d' ∧ d'.registration = d.registration
  /-- The maps hold nothing that is not allowed. -/
  wellFormed : (FieldMaps.ofCalls calls).WellFormed
  /-- A call that returns false changes nothing. -/
  refused : ∀ call, (FieldCall.apply call (.ofCalls calls)).1 = false →
    (FieldCall.apply call (.ofCalls calls)).2 = .ofCalls calls
  /-- The check of completeness gives the same before and after the defaults are filled in. -/
  completeness : ∀ allowUnmatched runTask values valueType,
    validateFieldsCompleteness allowUnmatched
        ((Blossom.ofCalls calls allowUnmatched runTask).fillDefaultValues values)
        (FieldMaps.ofCalls calls).inputValidationMap valueType =
      validateFieldsCompleteness allowUnmatched values (FieldMaps.ofCalls calls).inputValidationMap valueType
  /-- An item that is no string is refused for its type, if its field has a regex. -/
  notString : ∀ (x : Libs) values name d item, (FieldMaps.ofCalls calls).inputValidationMap[name]? = some d →
    d.regex ≠ [] → values.get name = some item → (∀ s, item ≠ .value (.string s)) →
    checkField x values .inputType (name, d) = .failed (createErrorMessage name d.fieldType)
  /-- No text but that of a string has a bearing on the check of the input. -/
  inputText : ∀ x x' : Libs, x.regexMatch = x'.regexMatch → x.itemToString = x'.itemToString → ∀ values ioType,
    checkBlossomValues x (FieldMaps.ofCalls calls).inputValidationMap values ioType =
      checkBlossomValues x' (FieldMaps.ofCalls calls).inputValidationMap values ioType
  /-- Nor has it on the check of the output. -/
  outputText : ∀ x x' : Libs, x.regexMatch = x'.regexMatch → x.itemToString = x'.itemToString → ∀ values ioType,
    checkBlossomValues x (FieldMaps.ofCalls calls).outputValidationMap values ioType =
      checkBlossomValues x' (FieldMaps.ofCalls calls).outputValidationMap values ioType

theorem exists_of_map_registration {entry : Option FieldDef} {d : FieldDef}
    (h : entry.map FieldDef.registration = some d.registration) :
    ∃ d', entry = some d' ∧ d'.registration = d.registration :=
  Option.map_eq_some_iff.mp h

/-- **The rules of the fields** hold after any sequence of calls. -/
theorem fieldRules (calls : List FieldCall) : FieldRules calls where
  firstInput name d h later := by
    have hfirst : firstRegistration (calls ++ later) name = some d := findSome?_append_of_some h later
    apply exists_of_map_registration
    rw [registration_inputField, hfirst, Option.map_some]
  firstOutput name d h later := by
    have hfirst : firstOutputRegistration (calls ++ later) name = some d := findSome?_append_of_some h later
    apply exists_of_map_registration
    rw [registration_outputField, hfirst, Option.map_some]
  wellFormed := FieldMaps.wellFormed_ofCalls calls
  refused _ h := FieldCall.apply_refused h
  completeness allowUnmatched runTask values valueType :=
    (Blossom.ofCalls calls allowUnmatched runTask).validateFieldsCompleteness_fillDefaultValues allowUnmatched
      values valueType
  notString x values name d item hd hr hitem hs := by
    have hwf := (FieldMaps.wellFormed_ofCalls calls).input
    rw [← (hwf name d hd).ioType]
    exact checkField_of_not_string (fun name d hd => (hwf name d hd).regex) x hd hr hitem hs
  inputText x x' hm ht values ioType :=
    checkBlossomValues_of_sameRegex (fun name d hd => ((FieldMaps.wellFormed_ofCalls calls).input name d hd).regex)
      hm ht values ioType
  outputText x x' hm ht values ioType :=
    checkBlossomValues_of_sameRegex
      (fun name d hd hr => absurd ((FieldMaps.wellFormed_ofCalls calls).output name d hd).regex hr)
      hm ht values ioType

end HanamiNetwork
