import HanamiNetwork.Data.Items
import Mathlib.Data.List.Induction

/-!
# The fields of a blossom

The validation maps of a blossom (`blossom.h`) and the six calls its constructor makes to
fill them (`blossom.cpp`). `FieldCall` is one such call, `FieldMaps.ofCalls` what a list of
them leaves.

* `FieldMaps.WellFormed` — what the calls can and cannot put into the maps, kept by every
  call (`FieldCall.wellFormed_apply`) and so by every list of them.
* `inputField_ofCalls` — the entry of an input field after any list of calls, from the
  list alone: the first registration of the name, and the last default, regex and border
  that were accepted for it.
-/

namespace HanamiNetwork

/-- `FieldType`. -/
inductive FieldType where
  /-- `SAKURA_UNDEFINED_TYPE`. -/
  | undefinedType
  /-- `SAKURA_INT_TYPE`. -/
  | intType
  /-- `SAKURA_FLOAT_TYPE`. -/
  | floatType
  /-- `SAKURA_BOOL_TYPE`. -/
  | boolType
  /-- `SAKURA_STRING_TYPE`. -/
  | stringType
  /-- `SAKURA_ARRAY_TYPE`. -/
  | arrayType
  /-- `SAKURA_MAP_TYPE`. -/
  | mapType
  deriving DecidableEq

/-- `FieldDef::IO_ValueType`. -/
inductive IO_ValueType where
  /-- `UNDEFINED_VALUE_TYPE`. -/
  | undefinedValueType
  /-- `INPUT_TYPE`. -/
  | inputType
  /-- `OUTPUT_TYPE`. -/
  | outputType
  deriving DecidableEq

/-- `FieldDef`; the last five fields start with the defaults of the source. The match value and the default
are pointers, which are given by the item they point to, or by its address (`ι`). -/
structure FieldDef (ι : Type := DataItem) where
  /-- `ioType`. -/
  ioType : IO_ValueType
  /-- `fieldType`. -/
  fieldType : FieldType
  /-- `isRequired`. -/
  isRequired : Bool
  /-- `comment`. -/
  comment : Str
  /-- `match`. -/
  «match» : Option ι := none
  /-- `defaultVal`. -/
  defaultVal : Option ι := none
  /-- `regex`. -/
  regex : Str := []
  /-- `lowerBorder`. -/
  lowerBorder : Int64 := 0
  /-- `upperBorder`. -/
  upperBorder : Int64 := 0

/-- The two validation maps of a blossom. -/
structure FieldMaps (ι : Type := DataItem) where
  /-- `m_inputValidationMap`. -/
  inputValidationMap : StdMap (FieldDef ι)
  /-- `m_outputValidationMap`. -/
  outputValidationMap : StdMap (FieldDef ι)

/-! ### The calls -/

section

variable {ι : Type}

/-- Register a field, unless its name is taken. -/
def registerField (defs : StdMap (FieldDef ι)) (name : Str) (d : FieldDef ι) : Bool × StdMap (FieldDef ι) :=
  match defs[name]? with
  | some _ => (false, defs)
  | none => (true, defs.insert name d)

/-- Change a registered field, if it allows that. -/
def changeField (defs : StdMap (FieldDef ι)) (name : Str) (allowed : FieldDef ι → Bool)
    (change : FieldDef ι → FieldDef ι) : Bool × StdMap (FieldDef ι) :=
  match defs[name]? with
  | none => (false, defs)
  | some d => if allowed d then (true, defs.insert name (change d)) else (false, defs)

namespace FieldMaps

/-- Two empty maps. -/
def empty : FieldMaps ι := ⟨∅, ∅⟩

/-- `registerInputField`. -/
def registerInputField (m : FieldMaps ι) (name : Str) (fieldType : FieldType) (required : Bool) (comment : Str) :
    Bool × FieldMaps ι :=
  let (ret, defs) := registerField m.inputValidationMap name
    { ioType := .inputType, fieldType := fieldType, isRequired := required, comment := comment }
  (ret, { m with inputValidationMap := defs })

/-- `registerOutputField`. -/
def registerOutputField (m : FieldMaps ι) (name : Str) (fieldType : FieldType) (comment : Str) : Bool × FieldMaps ι :=
  let (ret, defs) := registerField m.outputValidationMap name
    { ioType := .outputType, fieldType := fieldType, isRequired := false, comment := comment }
  (ret, { m with outputValidationMap := defs })

/-- `addFieldMatch`. -/
def addFieldMatch (m : FieldMaps ι) (name : Str) («match» : Option ι) : Bool × FieldMaps ι :=
  let (ret, defs) := changeField m.outputValidationMap name (fun _ => true) fun d => { d with «match» }
  (ret, { m with outputValidationMap := defs })

/-- `addFieldDefault`. -/
def addFieldDefault (m : FieldMaps ι) (name : Str) (defaultValue : Option ι) : Bool × FieldMaps ι :=
  let (ret, defs) := changeField m.inputValidationMap name (fun d => !d.isRequired) fun d =>
    { d with defaultVal := defaultValue }
  (ret, { m with inputValidationMap := defs })

/-- `addFieldRegex`. -/
def addFieldRegex (m : FieldMaps ι) (name regex : Str) : Bool × FieldMaps ι :=
  let (ret, defs) := changeField m.inputValidationMap name (fun d => d.fieldType = .stringType) fun d =>
    { d with regex }
  (ret, { m with inputValidationMap := defs })

/-- `addFieldBorder`. -/
def addFieldBorder (m : FieldMaps ι) (name : Str) (lowerBorder upperBorder : Int64) : Bool × FieldMaps ι :=
  let (ret, defs) := changeField m.inputValidationMap name
    (fun d => d.fieldType = .stringType || d.fieldType = .intType) fun d => { d with lowerBorder, upperBorder }
  (ret, { m with inputValidationMap := defs })

end FieldMaps

/-- One of the six calls. -/
inductive FieldCall (ι : Type := DataItem) where
  /-- `registerInputField`. -/
  | registerInputField (name : Str) (fieldType : FieldType) (required : Bool) (comment : Str)
  /-- `registerOutputField`. -/
  | registerOutputField (name : Str) (fieldType : FieldType) (comment : Str)
  /-- `addFieldMatch`. -/
  | addFieldMatch (name : Str) («match» : Option ι)
  /-- `addFieldDefault`. -/
  | addFieldDefault (name : Str) (defaultValue : Option ι)
  /-- `addFieldRegex`. -/
  | addFieldRegex (name regex : Str)
  /-- `addFieldBorder`. -/
  | addFieldBorder (name : Str) (lowerBorder upperBorder : Int64)

/-- What a call returns, and the maps after it. -/
def FieldCall.apply : FieldCall ι → FieldMaps ι → Bool × FieldMaps ι
  | registerInputField name fieldType required comment, m => m.registerInputField name fieldType required comment
  | registerOutputField name fieldType comment, m => m.registerOutputField name fieldType comment
  | addFieldMatch name «match», m => m.addFieldMatch name «match»
  | addFieldDefault name defaultValue, m => m.addFieldDefault name defaultValue
  | addFieldRegex name regex, m => m.addFieldRegex name regex
  | addFieldBorder name lowerBorder upperBorder, m => m.addFieldBorder name lowerBorder upperBorder

end

/-- The maps after a list of calls. -/
def FieldMaps.ofCalls (calls : List FieldCall) : FieldMaps := calls.foldl (fun m call => (call.apply m).2) .empty

@[simp] theorem FieldMaps.ofCalls_concat (calls : List FieldCall) (call : FieldCall) :
    FieldMaps.ofCalls (calls ++ [call]) = (call.apply (FieldMaps.ofCalls calls)).2 := by
  simp [FieldMaps.ofCalls]

/-! ### What a call does to an entry -/

theorem getElem?_registerField (defs : StdMap FieldDef) (name : Str) (d : FieldDef) (key : Str) :
    (registerField defs name d).2[key]? = if name = key then some (defs[key]?.getD d) else defs[key]? := by
  unfold registerField
  split <;> rename_i h <;> split_ifs with hk
  · rw [← hk, h, Option.getD_some]
  · rfl
  · rw [← hk, h, Option.getD_none, Std.ExtTreeMap.getElem?_insert_self]
  · rw [Std.ExtTreeMap.getElem?_insert, if_neg]
    simpa using hk

theorem getElem?_changeField (defs : StdMap FieldDef) (name : Str) (allowed : FieldDef → Bool)
    (change : FieldDef → FieldDef) (key : Str) :
    (changeField defs name allowed change).2[key]? =
      if name = key then defs[key]?.map fun d => if allowed d then change d else d else defs[key]? := by
  unfold changeField
  split <;> rename_i h
  · split_ifs with hk
    · rw [← hk, h, Option.map_none]
    · rfl
  · rename_i d
    split_ifs with ha hk hk
    · rw [← hk, h, Option.map_some, if_pos ha, Std.ExtTreeMap.getElem?_insert_self]
    · rw [Std.ExtTreeMap.getElem?_insert, if_neg]
      simpa using hk
    · rw [← hk, h, Option.map_some, if_neg ha]
    · rfl

theorem changeField_accepted (defs : StdMap FieldDef) (name : Str) (allowed : FieldDef → Bool)
    (change : FieldDef → FieldDef) : (changeField defs name allowed change).1 = defs[name]?.any allowed := by
  unfold changeField
  split <;> rename_i h
  · rw [h, Option.any_none]
  · rw [h, Option.any_some]
    split_ifs with ha <;> simp [ha]

/-! ### Well-formed maps -/

/-- What the calls put into the map of the inputs. -/
structure FieldDef.InputWellFormed (d : FieldDef) : Prop where
  /-- It is an input. -/
  ioType : d.ioType = .inputType
  /-- No match value is set. -/
  «match» : d.match = none
  /-- A required field has no default. -/
  defaultVal : d.isRequired = true → d.defaultVal = none
  /-- Only a string has a regex. -/
  regex : d.regex ≠ [] → d.fieldType = .stringType
  /-- Only a string or an int has a border. -/
  border : d.lowerBorder ≠ 0 ∨ d.upperBorder ≠ 0 → d.fieldType = .stringType ∨ d.fieldType = .intType

/-- What the calls put into the map of the outputs. -/
structure FieldDef.OutputWellFormed (d : FieldDef) : Prop where
  /-- It is an output. -/
  ioType : d.ioType = .outputType
  /-- It is not required. -/
  isRequired : d.isRequired = false
  /-- It has no default. -/
  defaultVal : d.defaultVal = none
  /-- It has no regex. -/
  regex : d.regex = []
  /-- It has no border. -/
  border : d.lowerBorder = 0 ∧ d.upperBorder = 0

/-- Maps as the calls leave them. -/
structure FieldMaps.WellFormed (m : FieldMaps) : Prop where
  /-- The inputs. -/
  input : ∀ (name : Str) (d : FieldDef), m.inputValidationMap[name]? = some d → d.InputWellFormed
  /-- The outputs. -/
  output : ∀ (name : Str) (d : FieldDef), m.outputValidationMap[name]? = some d → d.OutputWellFormed

section

variable {P : FieldDef → Prop} {defs : StdMap FieldDef} (h : ∀ (name : Str) (d : FieldDef), defs[name]? = some d → P d)
include h

theorem registerField_keeps {name : Str} {d : FieldDef} (hd : P d) (key : Str) (d' : FieldDef)
    (hd' : (registerField defs name d).2[key]? = some d') : P d' := by
  rw [getElem?_registerField] at hd'
  split_ifs at hd' with hk
  · cases ho : defs[key]? with
    | none =>
      rw [ho, Option.getD_none, Option.some_inj] at hd'
      exact hd' ▸ hd
    | some old =>
      rw [ho, Option.getD_some, Option.some_inj] at hd'
      exact hd' ▸ h key old ho
  · exact h key d' hd'

theorem changeField_keeps {name : Str} {allowed : FieldDef → Bool} {change : FieldDef → FieldDef}
    (hc : ∀ d, P d → allowed d = true → P (change d)) (key : Str) (d' : FieldDef)
    (hd' : (changeField defs name allowed change).2[key]? = some d') : P d' := by
  rw [getElem?_changeField] at hd'
  split_ifs at hd' with hk
  · obtain ⟨d, hd, rfl⟩ := Option.map_eq_some_iff.mp hd'
    split_ifs with ha
    · exact hc d (h key d hd) ha
    · exact h key d hd
  · exact h key d' hd'

end

theorem FieldMaps.wellFormed_empty : FieldMaps.empty.WellFormed :=
  ⟨fun _ _ h => by simp [FieldMaps.empty] at h, fun _ _ h => by simp [FieldMaps.empty] at h⟩

/-- Every call keeps the maps well-formed. -/
theorem FieldCall.wellFormed_apply {m : FieldMaps} (h : m.WellFormed) (call : FieldCall) :
    (call.apply m).2.WellFormed := by
  cases call with
  | registerInputField name fieldType required comment =>
    exact ⟨registerField_keeps h.input ⟨rfl, rfl, fun _ => rfl, fun h => absurd rfl h, by simp⟩, h.output⟩
  | registerOutputField name fieldType comment =>
    exact ⟨h.input, registerField_keeps h.output ⟨rfl, rfl, rfl, rfl, rfl, rfl⟩⟩
  | addFieldMatch name «match» =>
    exact ⟨h.input, changeField_keeps h.output fun d hd _ => { hd with }⟩
  | addFieldDefault name defaultValue =>
    refine ⟨changeField_keeps h.input fun d hd ha => { hd with defaultVal := fun hr => ?_ }, h.output⟩
    simp [show d.isRequired = true from hr] at ha
  | addFieldRegex name regex =>
    exact ⟨changeField_keeps h.input fun d hd ha => { hd with regex := fun _ => of_decide_eq_true ha }, h.output⟩
  | addFieldBorder name lowerBorder upperBorder =>
    exact ⟨changeField_keeps h.input fun d hd ha => { hd with border := fun _ => by simpa using ha }, h.output⟩

theorem FieldMaps.wellFormed_ofCalls (calls : List FieldCall) : (FieldMaps.ofCalls calls).WellFormed := by
  induction calls using List.reverseRecOn with
  | nil => exact wellFormed_empty
  | append_singleton calls call ih =>
    rw [ofCalls_concat]
    exact call.wellFormed_apply ih

/-! ### The history of an input field -/

/-- The calls of a list that return true, from the given maps on. -/
def accepted : FieldMaps → List FieldCall → List FieldCall
  | _, [] => []
  | m, call :: calls =>
    let rest := accepted (call.apply m).2 calls
    if (call.apply m).1 then call :: rest else rest

theorem accepted_concat (m : FieldMaps) (calls : List FieldCall) (call : FieldCall) :
    accepted m (calls ++ [call]) = accepted m calls ++
      if (call.apply (calls.foldl (fun m call => (call.apply m).2) m)).1 then [call] else [] := by
  induction calls generalizing m with
  | nil => rfl
  | cons c calls ih =>
    simp only [List.cons_append, accepted, ih, List.foldl_cons]
    by_cases h : (c.apply m).1 = true
    · rw [if_pos h, if_pos h, List.cons_append]
      rfl
    · rw [if_neg h, if_neg h]
      rfl

/-- What the accepted calls of a list set, as read off by `sets`. -/
def settings {β : Type} (sets : FieldCall → Option β) (calls : List FieldCall) : List β :=
  (accepted .empty calls).filterMap sets

theorem settings_concat {β : Type} (sets : FieldCall → Option β) (calls : List FieldCall) (call : FieldCall) :
    settings sets (calls ++ [call]) = settings sets calls ++
      if (call.apply (FieldMaps.ofCalls calls)).1 then (sets call).toList else [] := by
  unfold settings
  rw [accepted_concat, List.filterMap_append]
  congr 1
  show List.filterMap sets (if (call.apply (FieldMaps.ofCalls calls)).1 then [call] else []) = _
  split_ifs
  · cases h : sets call <;> simp [h]
  · rfl

/-- A call that is rejected, or sets something else, leaves what was set. -/
theorem settings_of_unset {β : Type} {sets : FieldCall → Option β} {calls : List FieldCall} {call : FieldCall}
    (h : (call.apply (FieldMaps.ofCalls calls)).1 = true → sets call = none) :
    settings sets (calls ++ [call]) = settings sets calls := by
  rw [settings_concat]
  split_ifs with ha
  · rw [h ha, Option.toList_none, List.append_nil]
  · exact List.append_nil _

/-- The input field a call registers under a name. -/
def FieldCall.registers (name : Str) : FieldCall → Option FieldDef
  | registerInputField n fieldType required comment =>
    if n = name then
      some { ioType := .inputType, fieldType := fieldType, isRequired := required, comment := comment }
    else none
  | _ => none

/-- The default a call sets for a name. -/
def FieldCall.setsDefault (name : Str) : FieldCall → Option (Option DataItem)
  | addFieldDefault n defaultValue => if n = name then some defaultValue else none
  | _ => none

/-- The regex a call sets for a name. -/
def FieldCall.setsRegex (name : Str) : FieldCall → Option Str
  | addFieldRegex n regex => if n = name then some regex else none
  | _ => none

/-- The borders a call sets for a name. -/
def FieldCall.setsBorder (name : Str) : FieldCall → Option (Int64 × Int64)
  | addFieldBorder n lowerBorder upperBorder => if n = name then some (lowerBorder, upperBorder) else none
  | _ => none

/-- The first registration of an input field, which is the one that counts. -/
def firstRegistration (calls : List FieldCall) (name : Str) : Option FieldDef :=
  calls.findSome? (FieldCall.registers name)

/-- The default that was set last. -/
def lastDefault (calls : List FieldCall) (name : Str) : Option DataItem :=
  (settings (FieldCall.setsDefault name) calls).getLast?.join

/-- The regex that was set last; it is empty if none was. -/
def lastRegex (calls : List FieldCall) (name : Str) : Str :=
  (settings (FieldCall.setsRegex name) calls).getLast?.getD []

/-- The borders that were set last; both are zero if none were. -/
def lastBorder (calls : List FieldCall) (name : Str) : Int64 × Int64 :=
  (settings (FieldCall.setsBorder name) calls).getLast?.getD (0, 0)

/-- The field a list of calls describes. -/
def describedField (calls : List FieldCall) (name : Str) : Option FieldDef :=
  (firstRegistration calls name).map fun d =>
    { d with
      defaultVal := lastDefault calls name
      regex := lastRegex calls name
      lowerBorder := (lastBorder calls name).1
      upperBorder := (lastBorder calls name).2 }

theorem registers_of_call (calls : List FieldCall) (call : FieldCall) (name : Str) :
    firstRegistration (calls ++ [call]) name = (firstRegistration calls name).or (call.registers name) := by
  rw [firstRegistration, List.findSome?_append, List.findSome?_singleton]
  rfl

/-- No accepted call sets anything for the name. -/
def Unset (calls : List FieldCall) (name : Str) : Prop :=
  settings (FieldCall.setsDefault name) calls = [] ∧ settings (FieldCall.setsRegex name) calls = [] ∧
    settings (FieldCall.setsBorder name) calls = []

/-- The entry of a name in the map of the inputs is the one the calls describe. -/
structure Described (calls : List FieldCall) (name : Str) : Prop where
  /-- The entry. -/
  entry : (FieldMaps.ofCalls calls).inputValidationMap[name]? = describedField calls name
  /-- Without an entry, nothing was set. -/
  unset : firstRegistration calls name = none → Unset calls name

/-- A call that neither changes the entry of a name nor sets anything for it. -/
theorem inputField_of_other {calls : List FieldCall} {call : FieldCall} {name : Str}
    (ih : Described calls name)
    (hentry : (call.apply (FieldMaps.ofCalls calls)).2.inputValidationMap[name]? =
      (FieldMaps.ofCalls calls).inputValidationMap[name]?)
    (hreg : firstRegistration (calls ++ [call]) name = firstRegistration calls name)
    (hset : (call.apply (FieldMaps.ofCalls calls)).1 = true →
      call.setsDefault name = none ∧ call.setsRegex name = none ∧ call.setsBorder name = none) :
    Described (calls ++ [call]) name := by
  have hd := settings_of_unset fun ha => (hset ha).1
  have hr := settings_of_unset fun ha => (hset ha).2.1
  have hb := settings_of_unset fun ha => (hset ha).2.2
  constructor
  · rw [FieldMaps.ofCalls_concat, hentry, describedField, lastDefault, lastRegex, lastBorder, hreg, hd, hr, hb]
    exact ih.entry
  · rw [Unset, hreg, hd, hr, hb]
    exact ih.unset

/-- A call that changes the field of a name `n`, if it is registered and allows that. -/
theorem inputField_of_change {calls : List FieldCall} {call : FieldCall} {name n : Str}
    {allowed : FieldDef → Bool} {change : FieldDef → FieldDef}
    (ih : Described calls name)
    (happly : ((call.apply (FieldMaps.ofCalls calls)).1, (call.apply (FieldMaps.ofCalls calls)).2.inputValidationMap) =
      changeField (FieldMaps.ofCalls calls).inputValidationMap n allowed change)
    (hreg : call.registers name = none)
    (hother : n ≠ name → call.setsDefault name = none ∧ call.setsRegex name = none ∧ call.setsBorder name = none)
    (hchange : n = name → (call.apply (FieldMaps.ofCalls calls)).1 = true →
      ∀ d, describedField calls name = some d → describedField (calls ++ [call]) name = some (change d)) :
    Described (calls ++ [call]) name := by
  have hret := congrArg Prod.fst happly
  have hmap := congrArg Prod.snd happly
  simp only at hret hmap
  have hreg' : firstRegistration (calls ++ [call]) name = firstRegistration calls name := by
    rw [registers_of_call, hreg, Option.or_none]
  have hentry := getElem?_changeField (FieldMaps.ofCalls calls).inputValidationMap n allowed change name
  rw [← hmap] at hentry
  by_cases hn : n = name
  · subst hn
    rw [if_pos rfl] at hentry
    rw [changeField_accepted] at hret
    cases hd : (FieldMaps.ofCalls calls).inputValidationMap[n]? with
    | none =>
      rw [hd] at hret
      exact inputField_of_other ih (by rw [hentry, hd]; rfl) hreg' fun ha => by simp [hret] at ha
    | some d =>
      rw [hd, Option.map_some] at hentry
      rw [hd, Option.any_some] at hret
      by_cases ha : allowed d = true
      · rw [if_pos ha] at hentry
        have hold := ih.entry.symm.trans hd
        refine ⟨?_, fun hnone => ?_⟩
        · rw [FieldMaps.ofCalls_concat, hentry, hchange rfl (hret.trans ha) d hold]
        · rw [hreg'] at hnone
          rw [describedField, hnone] at hold
          cases hold
      · rw [if_neg ha] at hentry
        exact inputField_of_other ih (hentry.trans hd.symm) hreg' fun h => absurd (hret.symm.trans h) ha
  · rw [if_neg hn] at hentry
    exact inputField_of_other ih hentry hreg' fun _ => hother hn

/-- A call that registers a name `n`, if it is not registered. -/
theorem inputField_of_register {calls : List FieldCall} {name n : Str} {fieldType : FieldType} {required : Bool}
    {comment : Str} (ih : Described calls name) :
    Described (calls ++ [.registerInputField n fieldType required comment]) name := by
  by_cases hn : n = name
  · subst hn
    cases hf : firstRegistration calls n with
    | none =>
      obtain ⟨hd, hr, hb⟩ := ih.unset hf
      have hnone : (FieldMaps.ofCalls calls).inputValidationMap[n]? = none := by
        rw [ih.entry, describedField, hf, Option.map_none]
      refine ⟨?_, fun h => ?_⟩
      · rw [describedField, lastDefault, lastRegex, lastBorder, settings_of_unset fun _ => rfl, hd,
          settings_of_unset fun _ => rfl, hr, settings_of_unset fun _ => rfl, hb]
        simp [FieldCall.apply, FieldMaps.registerInputField, getElem?_registerField, hnone,
          registers_of_call, hf, FieldCall.registers]
      · simp [registers_of_call, hf, FieldCall.registers] at h
    | some d =>
      refine inputField_of_other ih ?_ (by rw [registers_of_call, hf, Option.some_or]) fun _ => ⟨rfl, rfl, rfl⟩
      have hsome := ih.entry
      rw [describedField, hf, Option.map_some] at hsome
      simp only [FieldCall.apply, FieldMaps.registerInputField, getElem?_registerField, if_pos, hsome,
        Option.getD_some]
  · refine inputField_of_other ih ?_ ?_ fun _ => ⟨rfl, rfl, rfl⟩
    · exact (getElem?_registerField ..).trans (if_neg hn)
    · rw [registers_of_call, FieldCall.registers, if_neg hn, Option.or_none]

/-- **The entry of an input field** after any list of calls: its first registration, with what
was set last. -/
theorem inputField_ofCalls (calls : List FieldCall) (name : Str) :
    Described calls name := by
  induction calls using List.reverseRecOn with
  | nil => exact ⟨rfl, fun _ => ⟨rfl, rfl, rfl⟩⟩
  | append_singleton calls call ih =>
    cases call with
    | registerOutputField n fieldType comment =>
      exact inputField_of_other ih rfl (by simp [registers_of_call, FieldCall.registers]) fun _ => ⟨rfl, rfl, rfl⟩
    | addFieldMatch n «match» =>
      exact inputField_of_other ih rfl (by simp [registers_of_call, FieldCall.registers]) fun _ => ⟨rfl, rfl, rfl⟩
    | registerInputField n fieldType required comment => exact inputField_of_register ih
    | addFieldDefault n defaultValue =>
      refine inputField_of_change ih rfl rfl (fun hn => ⟨if_neg hn, rfl, rfl⟩) ?_
      rintro rfl ha d hd
      obtain ⟨d₀, h₀, rfl⟩ := Option.map_eq_some_iff.mp hd
      simp [describedField, registers_of_call, h₀, lastDefault, lastRegex, lastBorder, settings_concat, ha,
        FieldCall.setsDefault, FieldCall.setsRegex, FieldCall.setsBorder]
    | addFieldRegex n regex =>
      refine inputField_of_change ih rfl rfl (fun hn => ⟨rfl, if_neg hn, rfl⟩) ?_
      rintro rfl ha d hd
      obtain ⟨d₀, h₀, rfl⟩ := Option.map_eq_some_iff.mp hd
      simp [describedField, registers_of_call, h₀, lastDefault, lastRegex, lastBorder, settings_concat, ha,
        FieldCall.setsDefault, FieldCall.setsRegex, FieldCall.setsBorder]
    | addFieldBorder n lowerBorder upperBorder =>
      refine inputField_of_change ih rfl rfl (fun hn => ⟨rfl, rfl, if_neg hn⟩) ?_
      rintro rfl ha d hd
      obtain ⟨d₀, h₀, rfl⟩ := Option.map_eq_some_iff.mp hd
      simp [describedField, registers_of_call, h₀, lastDefault, lastRegex, lastBorder, settings_concat, ha,
        FieldCall.setsDefault, FieldCall.setsRegex, FieldCall.setsBorder]

end HanamiNetwork
