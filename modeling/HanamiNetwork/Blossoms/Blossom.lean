import HanamiNetwork.Blossoms.Validation
import HanamiNetwork.Data.ItemMethods

/-!
# Blossoms

A blossom (`blossom.h`, `blossom.cpp`): its fields, and the task it runs once its input has
passed. `Blossom` carries the proof that its maps are well-formed, so that a check of it
crashes on nothing but a regex that throws.

The object a task works on, `BlossomIO`, holds its input and its output as JSON items. The
source fills in the defaults through the pointer to the map of the input; here the filled
map is put back as the new input. The members that no function of this repository reads
are left out.
-/

namespace HanamiNetwork

open HanamiNetwork.Basis

@[simp] theorem JsonItem.toMap_ofMap (m : DataMap) : (JsonItem.ofMap m).toMap = some m := by
  simp [ofMap, toMap, DataItem.toMap, ofList_toList]

/-- `BlossomIO`. -/
structure BlossomIO where
  /-- `blossomType`. -/
  blossomType : Str := []
  /-- `blossomName`. -/
  blossomName : Str := []
  /-- `blossomPath`. -/
  blossomPath : Str := []
  /-- `blossomGroupType`. -/
  blossomGroupType : Str := []
  /-- `nameHirarchie`. -/
  nameHirarchie : List Str := []
  /-- `output`. -/
  output : JsonItem := .ofMap .empty
  /-- `input`. -/
  input : JsonItem := .ofMap .empty

/-- What a task returns and leaves. -/
structure TaskResult where
  /-- The value that is returned. -/
  ret : Bool
  /-- The object, with the output. -/
  leaf : BlossomIO
  /-- The status and the error container. -/
  refs : Refs

/-- `Blossom`. -/
structure Blossom where
  /-- The validation maps. -/
  maps : FieldMaps
  /-- They are as the calls leave them. -/
  wellFormed : maps.WellFormed
  /-- `allowUnmatched`. -/
  allowUnmatched : Bool
  /-- `runTask`, of the object, the context, and the status and error container. -/
  runTask : BlossomIO → DataMap → Refs → TaskResult

/-- The blossom whose constructor makes the given calls. -/
def Blossom.ofCalls (calls : List FieldCall) (allowUnmatched : Bool)
    (runTask : BlossomIO → DataMap → Refs → TaskResult) : Blossom :=
  ⟨.ofCalls calls, FieldMaps.wellFormed_ofCalls calls, allowUnmatched, runTask⟩

/-! ### Default values -/

/-- The body of the loop of `fillDefaultValues`. -/
def fillDefaultValue (values : DataMap) (field : Str × FieldDef) : DataMap :=
  match field.2.defaultVal with
  | none => values
  | some defaultVal => values.insert field.1 (some defaultVal) false

/-- `fillDefaultValues`. -/
def Blossom.fillDefaultValues (b : Blossom) (values : DataMap) : DataMap :=
  b.maps.inputValidationMap.toList.foldl fillDefaultValue values

/-- **`fillDefaultValues`, key by key**: a key that is not there gets its default, if it has one. -/
theorem Blossom.getElem?_fillDefaultValues (b : Blossom) (values : DataMap) (key : Str) :
    (b.fillDefaultValues values).map[key]? =
      values.map[key]?.or ((b.maps.inputValidationMap[key]?.bind FieldDef.defaultVal).map some) := by
  have hkey : KeyWise (fun (m : DataMap) (key : Str) => m.map[key]?) fillDefaultValue
      fun _ d old => old.or (d.defaultVal.map some) := by
    intro m key d key'
    cases hd : d.defaultVal with
    | none =>
      simp only [fillDefaultValue, hd, Option.map_none, Option.or_none]
      split_ifs with hk
      · rw [hk]
      · rfl
    | some item =>
      simp only [fillDefaultValue, hd, DataMap.getElem?_insert_keep, Option.map_some]
      cases m.map[key]? <;> rfl
  rw [fillDefaultValues, hkey.foldl_toList b.maps.inputValidationMap values key]
  cases b.maps.inputValidationMap[key]? <;> simp

/-! ### Running the task -/

/-- `createError` of an object, with no solution to offer. -/
def createErrorOf (x : Libs) (leaf : BlossomIO) (errorLocation : Str) (r : Refs) : Refs :=
  { r with error := createError x errorLocation r.error [] leaf.blossomType leaf.blossomGroupType
             leaf.blossomName leaf.blossomPath }

/-- The refusal of a validation: the message goes to the error container and to the status. -/
def Refs.refuse (r : Refs) (errorMessage : Str) (statusCode : UInt64) : Refs :=
  ((r.addMeesage errorMessage).setMessage errorMessage).setCode statusCode

@[simp] theorem Refs.statusCode_refuse (r : Refs) (errorMessage : Str) (statusCode : UInt64) :
    (r.refuse errorMessage statusCode).status.statusCode = statusCode := rfl

/-- `growBlossom`. -/
def Blossom.growBlossom (x : Libs) (b : Blossom) (leaf : BlossomIO) (context : DataMap) (r : Refs) :
    Traced Effect (Bool × BlossomIO × Refs) := do
  let values ← Traced.ofOption leaf.input.toMap
  let input := b.fillDefaultValues values
  let leaf := { leaf with input := .ofMap input }
  match checkBlossomValues x b.maps.inputValidationMap input .inputType with
  | .crashed => Traced.ofOption none
  | .failed errorMessage => return (false, leaf, r.refuse errorMessage 400)
  | .passed => do
    Traced.emit (.runTask leaf.blossomGroupType leaf.blossomName input context)
    let ⟨ret, leaf, r⟩ := b.runTask leaf context r
    if ret = false then
      return (false, leaf, createErrorOf x leaf (str "blossom execute") r)
    else
      let output ← Traced.ofOption leaf.output.toMap
      match checkBlossomValues x b.maps.outputValidationMap output .outputType with
      | .crashed => Traced.ofOption none
      | .failed errorMessage => return (false, leaf, r.refuse errorMessage 500)
      | .passed => return (true, leaf, r)

/-- `m_registeredBlossoms`: by group, and within a group by name. The pointers can be null. -/
abbrev RegisteredBlossoms := StdMap (StdMap (Option Blossom))

/-- `getBlossom`. -/
def getBlossom (registered : RegisteredBlossoms) (groupName itemName : Str) : Option Blossom :=
  match registered[groupName]? with
  | none => none
  | some group =>
    match group[itemName]? with
    | none => none
    | some blossom => blossom

/-- The object `triggerBlossom` makes for a blossom. -/
def newLeaf (blossomName blossomGroupName : Str) (initialValues : DataMap) : BlossomIO :=
  { blossomName := blossomName
    blossomPath := blossomName
    blossomGroupType := blossomGroupName
    input := .ofMap initialValues
    nameHirarchie := [str "BLOSSOM: " ++ blossomName] }

/-- `triggerBlossom`. The reference `initialValues` can be one to a dereferenced null pointer (`none`); it is
not read before the blossom is found. -/
def triggerBlossom (x : Libs) (registered : RegisteredBlossoms) (result : DataMap)
    (blossomName blossomGroupName : Str) (context : DataMap) (initialValues : Option DataMap) (r : Refs) :
    Traced Effect (Bool × DataMap × Refs) :=
  match getBlossom registered blossomGroupName blossomName with
  | none => return (false, result, r.addMeesage (str "No blosom found for the id " ++ blossomName))
  | some blossom => do
    let initialValues ← Traced.ofOption initialValues
    let leaf := newLeaf blossomName blossomGroupName initialValues
    match validateFieldsCompleteness blossom.allowUnmatched initialValues blossom.maps.inputValidationMap
        .inputType with
    | .crashed => Traced.ofOption none
    | .failed errorMessage =>
      let r := (r.refuse errorMessage 400).addMeesage (str "check of completeness of input-fields failed")
      LOG_ERROR r.error
      return (false, result, r)
    | .passed => do
      let (ret, leaf, r) ← blossom.growBlossom x leaf context r
      if ret = false then
        let r := r.addMeesage (str "trigger blossom failed.")
        LOG_ERROR r.error
        return (false, result, r)
      else
        let output ← Traced.ofOption leaf.output.toMap
        match validateFieldsCompleteness blossom.allowUnmatched output blossom.maps.outputValidationMap
            .outputType with
        | .crashed => Traced.ofOption none
        | .failed errorMessage =>
          let r := (r.refuse errorMessage 500).addMeesage (str "check of completeness of output-fields failed")
          LOG_ERROR r.error
          return (false, result, r)
        | .passed =>
          let result ← Traced.ofOption (overrideItems .empty output .all)
          return (true, result, r)

end HanamiNetwork
