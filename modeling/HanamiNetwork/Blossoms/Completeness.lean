import HanamiNetwork.Blossoms.Trigger

/-!
# Completeness

`triggerBlossom` checks twice that fields are set: the input before the task, the output
after it. Neither check gives what one would take from it.

* The input check asks for the key of a required field; the check of the values then skips
  a field that has no item. A null pointer under the key passes both
  (`requiredFieldsSet_iff`).
* The output check asks for required fields only, and no output field is required
  (`outputComplete_passed_iff`). The check of the values, match values included, skips what is
  left out, so that an output holds what the task chose to leave (`outputFieldsPresent_iff`).

An output with a null pointer passes both checks, too, and is copied after that, which takes an
item under every key (`outputCopied_iff`).
-/

namespace HanamiNetwork

open HanamiNetwork.Basis

variable (x : Libs) (registered : RegisteredBlossoms) (result : DataMap) (blossomName blossomGroupName : Str)
  (context values : DataMap) (r : Refs)

/-! ### Required input fields -/

/-- If the task is run, every required field of its input holds an item of the declared type. -/
def RequiredFieldsSet : Prop :=
  ∀ groupName itemName input ctx, .runTask groupName itemName input ctx ∈
      (triggerBlossom x registered result blossomName blossomGroupName context values r).effects →
    ∀ b, getBlossom registered blossomGroupName blossomName = some b →
    ∀ (key : Str) (d : FieldDef), b.maps.inputValidationMap[key]? = some d → d.isRequired = true →
      ∃ item, input.get key = some item ∧ item.fieldType = d.fieldType

/-- The request is refused before the task, or has no null pointer under the key of a required field. -/
def NoRequiredNull : Prop :=
  ∀ b, getBlossom registered blossomGroupName blossomName = some b → b.inputComplete values = .passed →
    b.inputCheck x values = .passed → ∀ (key : Str) (d : FieldDef), b.maps.inputValidationMap[key]? = some d →
      d.isRequired = true → values.map[key]? ≠ some none

/-- **When a required field carries a value**: exactly if no null pointer was sent for it. -/
theorem requiredFieldsSet_iff :
    RequiredFieldsSet x registered result blossomName blossomGroupName context values r ↔
      NoRequiredNull x registered blossomName blossomGroupName values := by
  simp only [RequiredFieldsSet, runTask_mem_triggerBlossom_iff]
  constructor
  · intro h b hb hc hi key d hd hreq hnull
    obtain ⟨item, hitem, -⟩ := h _ _ _ _ ⟨rfl, rfl, rfl, b, hb, hc, hi, rfl⟩ b hb key d hd hreq
    rw [DataMap.get_eq_some_iff, Blossom.getElem?_fillDefaultValues, hnull] at hitem
    cases hitem
  · rintro h groupName itemName input ctx ⟨-, -, -, b', hb', hc, hi, rfl⟩ b hb key d hd hreq
    obtain rfl := Option.some_inj.mp (hb.symm.trans hb')
    have hio := (b.wellFormed.input key d hd).ioType
    have hkey := (validateFieldsCompleteness_passed.mp hc).2 key d hd hreq hio
    obtain ⟨value, hvalue⟩ := Option.isSome_iff_exists.mp ((DataMap.contains_iff values key).mp hkey)
    cases value with
    | none => exact absurd hvalue (h b hb hc hi key d hd hreq)
    | some item =>
      have hitem : (b.fillDefaultValues values).get key = some item := by
        rw [DataMap.get_eq_some_iff, Blossom.getElem?_fillDefaultValues, hvalue, Option.some_or]
      exact ⟨item, hitem, (checkBlossomValues_passed x hi hd hio hitem).fieldType⟩

/-- A blossom with one required field. -/
def strictGreeter : Blossom :=
  .ofCalls [.registerInputField (str "name") .stringType true [], .registerOutputField (str "text") .stringType []]
    false greet

/-- A registry with this blossom. -/
def strictGreeters : RegisteredBlossoms :=
  (∅ : RegisteredBlossoms).insert (str "test") ((∅ : StdMap (Option Blossom)).insert (str "greet") (some strictGreeter))

/-- The field is sent with a null pointer, and the task is run. -/
theorem not_requiredFieldsSet_null :
    ¬ RequiredFieldsSet literalLibs strictGreeters .empty (str "greet") (str "test") .empty
      (DataMap.empty.insert (str "name") none true) freshRefs := by
  intro h
  have hb : getBlossom strictGreeters (str "test") (str "greet") = some strictGreeter := by
    simp [getBlossom, strictGreeters]
  obtain ⟨item, hitem, -⟩ := h (str "test") (str "greet") _ .empty (.head []) strictGreeter hb (str "name")
    { ioType := .inputType, fieldType := .stringType, isRequired := true, comment := [] } rfl rfl
  cases hitem

/-! ### Output fields -/

/-- The check of the output to be complete asks for known keys only. -/
theorem Blossom.outputComplete_passed_iff (b : Blossom) (output : DataMap) :
    b.outputComplete output = .passed ↔ (b.allowUnmatched = false → ∀ key : Str, output.contains key = true →
      b.maps.outputValidationMap.contains key = true) := by
  rw [outputComplete, validateFieldsCompleteness_passed, and_iff_left_iff_imp]
  intro _ key d hd hreq
  rw [(b.wellFormed.output key d hd).isRequired] at hreq
  cases hreq

/-- If the call returns true, every registered output field is in the result. -/
def OutputFieldsPresent : Prop :=
  ∀ result' r', (triggerBlossom x registered result blossomName blossomGroupName context values r).value =
      some (true, result', r') →
    ∀ b, getBlossom registered blossomGroupName blossomName = some b →
    ∀ (key : Str) (d : FieldDef), b.maps.outputValidationMap[key]? = some d → result'.contains key = true

/-- The request is refused, or the task fails, or what it leaves holds a null pointer, an unknown key or
a value that does not pass; or the task leaves every registered field. -/
def TaskLeavesFields : Prop :=
  ∀ b, getBlossom registered blossomGroupName blossomName = some b → b.inputComplete values = .passed →
    b.inputCheck x values = .passed →
    ∀ t, b.task blossomName blossomGroupName context values r = t → t.ret = true →
    ∀ output, t.leaf.output.toMap = some output → output.NonNull →
      (b.allowUnmatched = false → ∀ key : Str, output.contains key = true →
        b.maps.outputValidationMap.contains key = true) →
      b.outputCheck x output = .passed →
    ∀ (key : Str) (d : FieldDef), b.maps.outputValidationMap[key]? = some d → output.contains key = true

/-- **When the output is complete**: exactly if the task leaves it complete. -/
theorem outputFieldsPresent_iff :
    OutputFieldsPresent x registered result blossomName blossomGroupName context values r ↔
      TaskLeavesFields x registered blossomName blossomGroupName context values r := by
  constructor
  · intro h b hb hc hi t ht hret output ho hn hknown hv
    have hoc := (b.outputComplete_passed_iff output).mpr hknown
    obtain ⟨r', hvalue⟩ := value_of_stagesPass result ⟨b, t, hb, hc, hi, ht, hret, ho, hv, hoc⟩ hn
    exact h output r' hvalue b hb
  · intro h output r' hvalue b hb
    obtain ⟨⟨b', t, hb', hc, hi, ht, hret, ho, hv, hoc⟩, hn⟩ := stagesPass_of_value hvalue
    obtain rfl := Option.some_inj.mp (hb.symm.trans hb')
    exact h b hb hc hi t ht hret output ho hn ((b.outputComplete_passed_iff output).mp hoc) hv

/-- A blossom with an output field that has an expected value, and a task that leaves nothing. -/
def mute : Blossom :=
  .ofCalls [.registerOutputField (str "text") .stringType [],
    .addFieldMatch (str "text") (some (.value (.string (str "hi"))))] false fun leaf _ r => ⟨true, leaf, r⟩

/-- A registry with this blossom. -/
def mutes : RegisteredBlossoms :=
  (∅ : RegisteredBlossoms).insert (str "test") ((∅ : StdMap (Option Blossom)).insert (str "greet") (some mute))

/-- The call returns true with an empty result. -/
theorem not_outputFieldsPresent_mute :
    ¬ OutputFieldsPresent literalLibs mutes .empty (str "greet") (str "test") .empty .empty freshRefs := by
  intro h
  have hb : getBlossom mutes (str "test") (str "greet") = some mute := by
    simp [getBlossom, mutes]
  exact absurd (h .empty freshRefs rfl mute hb (str "text") _ rfl) (by decide)

/-! ### Copying the output -/

/-- If the output passes every check, the call returns true, and the result has the keys of the output. -/
def OutputCopied : Prop :=
  ∀ output, StagesPass x registered blossomName blossomGroupName context values r output →
    ∃ result' r', (triggerBlossom x registered result blossomName blossomGroupName context values r).value =
        some (true, result', r') ∧
      ∀ key : Str, result'.contains key = output.contains key

/-- An output that passes every check holds no null pointer. -/
def OutputNonNull : Prop :=
  ∀ output, StagesPass x registered blossomName blossomGroupName context values r output → output.NonNull

/-- **When an accepted output can be copied**: exactly if the task left no null pointer in it. -/
theorem outputCopied_iff :
    OutputCopied x registered result blossomName blossomGroupName context values r ↔
      OutputNonNull x registered blossomName blossomGroupName context values r := by
  constructor
  · intro h output hs
    obtain ⟨result', r', hvalue, -⟩ := h output hs
    obtain ⟨hs', hn⟩ := stagesPass_of_value hvalue
    obtain ⟨b, t, hb, -, -, ht, -, ho, -⟩ := hs
    obtain ⟨b', t', hb', -, -, ht', -, ho', -⟩ := hs'
    obtain rfl := Option.some_inj.mp (hb.symm.trans hb')
    obtain rfl := ht.symm.trans ht'
    obtain rfl := Option.some_inj.mp (ho.symm.trans ho')
    exact hn
  · intro h output hs
    obtain ⟨r', hvalue⟩ := value_of_stagesPass result hs (h output hs)
    exact ⟨output, r', hvalue, fun _ => rfl⟩

/-- An output that holds a null pointer. -/
def nullOutput : DataMap := DataMap.empty.insert (str "text") none true

/-- A blossom with an output field, and a task that leaves a null pointer in it. -/
def blank : Blossom :=
  .ofCalls [.registerOutputField (str "text") .stringType []] false fun leaf _ r =>
    ⟨true, { leaf with output := .ofMap nullOutput }, r⟩

/-- A registry with this blossom. -/
def blanks : RegisteredBlossoms :=
  (∅ : RegisteredBlossoms).insert (str "test") ((∅ : StdMap (Option Blossom)).insert (str "greet") (some blank))

/-- The output passes every check, and the call crashes. -/
theorem not_outputCopied_blank :
    ¬ OutputCopied literalLibs blanks .empty (str "greet") (str "test") .empty .empty freshRefs := by
  intro h
  have hb : getBlossom blanks (str "test") (str "greet") = some blank := by
    simp [getBlossom, blanks]
  obtain ⟨result', r', hvalue, -⟩ := h nullOutput
    ⟨blank, _, hb, rfl, rfl, rfl, rfl, JsonItem.toMap_ofMap nullOutput, rfl, rfl⟩
  cases hvalue

end HanamiNetwork
