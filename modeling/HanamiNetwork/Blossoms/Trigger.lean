import HanamiNetwork.Blossoms.Blossom

/-!
# Triggering a blossom

What `triggerBlossom` can do, and what follows from it. `TriggerOutcome` lists the nine
ways it ends, each with the verdicts that lead there, the effects it leaves and what it
returns; `triggerBlossom_outcome` says that these are all.

* `seesValidInput` — what a task may rely on in its input.
* `all_or_nothing` — the result is replaced as a whole or left as it was, and the status
  names the side that failed.
-/

namespace HanamiNetwork

open HanamiNetwork.Basis

namespace Blossom

variable (x : Libs) (b : Blossom)

/-! ### The stages -/

/-- The check of the input to be complete. -/
def inputComplete (values : DataMap) : Check Str :=
  validateFieldsCompleteness b.allowUnmatched values b.maps.inputValidationMap .inputType

/-- The check of the input values, with the defaults filled in. -/
def inputCheck (values : DataMap) : Check Str :=
  checkBlossomValues x b.maps.inputValidationMap (b.fillDefaultValues values) .inputType

/-- The run of the task. -/
def task (blossomName blossomGroupName : Str) (context values : DataMap) (r : Refs) : TaskResult :=
  b.runTask { newLeaf blossomName blossomGroupName values with
    input := .ofMap (b.fillDefaultValues values) } context r

/-- The check of the output values. -/
def outputCheck (output : DataMap) : Check Str :=
  checkBlossomValues x b.maps.outputValidationMap output .outputType

/-- The check of the output to be complete. -/
def outputComplete (output : DataMap) : Check Str :=
  validateFieldsCompleteness b.allowUnmatched output b.maps.outputValidationMap .outputType

theorem inputComplete_ne_crashed (values : DataMap) : b.inputComplete values ≠ .crashed :=
  validateFieldsCompleteness_ne_crashed _ _ _ _

theorem outputComplete_ne_crashed (output : DataMap) : b.outputComplete output ≠ .crashed :=
  validateFieldsCompleteness_ne_crashed _ _ _ _

/-- No regex that the check of the input gets to throws. -/
def InputMatchable (values : DataMap) : Prop :=
  AcceptsRegexes x b.maps.inputValidationMap (b.fillDefaultValues values) .inputType

theorem inputCheck_ne_crashed_iff (values : DataMap) : b.inputCheck x values ≠ .crashed ↔ b.InputMatchable x values :=
  checkBlossomValues_ne_crashed_iff x fun name d hd => (b.wellFormed.input name d hd).regex

/-- No output field has a regex. -/
theorem outputCheck_ne_crashed (output : DataMap) : b.outputCheck x output ≠ .crashed := by
  have hnone : ∀ (name : Str) (d : FieldDef), b.maps.outputValidationMap[name]? = some d → d.regex = [] :=
    fun name d hd => (b.wellFormed.output name d hd).regex
  exact (checkBlossomValues_ne_crashed_iff x fun name d hd hr => absurd (hnone name d hd) hr).mpr
    (acceptsRegexes_of_none x hnone output .outputType)

end Blossom

/-! ### The ways a call ends -/

section

variable (x : Libs) (registered : RegisteredBlossoms) (result : DataMap) (blossomName blossomGroupName : Str)
  (context values : DataMap) (r : Refs)

/-- The ways a call of `triggerBlossom` ends. -/
inductive TriggerOutcome : Traced Effect (Bool × DataMap × Refs) → Prop where
  /-- There is no such blossom. -/
  | noBlossom (hb : getBlossom registered blossomGroupName blossomName = none) :
      TriggerOutcome ⟨[], some (false, result, r.addMeesage (str "No blosom found for the id " ++ blossomName))⟩
  /-- The input is not complete. -/
  | inputIncomplete {b : Blossom} {errorMessage : Str} {r' : Refs}
      (hb : getBlossom registered blossomGroupName blossomName = some b)
      (hc : b.inputComplete values = .failed errorMessage)
      (hr : r' = (r.refuse errorMessage 400).addMeesage (str "check of completeness of input-fields failed")) :
      TriggerOutcome ⟨[.logError r'.error], some (false, result, r')⟩
  /-- The input values do not pass. -/
  | inputInvalid {b : Blossom} {errorMessage : Str} {r' : Refs}
      (hb : getBlossom registered blossomGroupName blossomName = some b) (hc : b.inputComplete values = .passed)
      (hi : b.inputCheck x values = .failed errorMessage)
      (hr : r' = (r.refuse errorMessage 400).addMeesage (str "trigger blossom failed.")) :
      TriggerOutcome ⟨[.logError r'.error], some (false, result, r')⟩
  /-- The check of the input values crashes, and the call with it. -/
  | inputThrows {b : Blossom} (hb : getBlossom registered blossomGroupName blossomName = some b)
      (hc : b.inputComplete values = .passed) (hi : b.inputCheck x values = .crashed) : TriggerOutcome ⟨[], none⟩
  /-- The task returns false. -/
  | taskFailed {b : Blossom} {t : TaskResult} {r' : Refs}
      (hb : getBlossom registered blossomGroupName blossomName = some b) (hc : b.inputComplete values = .passed)
      (hi : b.inputCheck x values = .passed) (ht : b.task blossomName blossomGroupName context values r = t)
      (hret : t.ret = false)
      (hr : r' = (createErrorOf x t.leaf (str "blossom execute") t.refs).addMeesage
        (str "trigger blossom failed.")) :
      TriggerOutcome ⟨[.runTask blossomGroupName blossomName (b.fillDefaultValues values) context,
        .logError r'.error], some (false, result, r')⟩
  /-- The task leaves no map, and the call crashes. -/
  | noOutput {b : Blossom} {t : TaskResult}
      (hb : getBlossom registered blossomGroupName blossomName = some b) (hc : b.inputComplete values = .passed)
      (hi : b.inputCheck x values = .passed) (ht : b.task blossomName blossomGroupName context values r = t)
      (hret : t.ret = true) (ho : t.leaf.output.toMap = none) :
      TriggerOutcome ⟨[.runTask blossomGroupName blossomName (b.fillDefaultValues values) context], none⟩
  /-- The output values do not pass. -/
  | outputInvalid {b : Blossom} {t : TaskResult} {output : DataMap} {errorMessage : Str} {r' : Refs}
      (hb : getBlossom registered blossomGroupName blossomName = some b) (hc : b.inputComplete values = .passed)
      (hi : b.inputCheck x values = .passed) (ht : b.task blossomName blossomGroupName context values r = t)
      (hret : t.ret = true) (ho : t.leaf.output.toMap = some output)
      (hv : b.outputCheck x output = .failed errorMessage)
      (hr : r' = (t.refs.refuse errorMessage 500).addMeesage (str "trigger blossom failed.")) :
      TriggerOutcome ⟨[.runTask blossomGroupName blossomName (b.fillDefaultValues values) context,
        .logError r'.error], some (false, result, r')⟩
  /-- The output is not complete. -/
  | outputIncomplete {b : Blossom} {t : TaskResult} {output : DataMap} {errorMessage : Str} {r' : Refs}
      (hb : getBlossom registered blossomGroupName blossomName = some b) (hc : b.inputComplete values = .passed)
      (hi : b.inputCheck x values = .passed) (ht : b.task blossomName blossomGroupName context values r = t)
      (hret : t.ret = true) (ho : t.leaf.output.toMap = some output) (hv : b.outputCheck x output = .passed)
      (hoc : b.outputComplete output = .failed errorMessage)
      (hr : r' = (t.refs.refuse errorMessage 500).addMeesage
        (str "check of completeness of output-fields failed")) :
      TriggerOutcome ⟨[.runTask blossomGroupName blossomName (b.fillDefaultValues values) context,
        .logError r'.error], some (false, result, r')⟩
  /-- Everything passes, and the output is copied, or crashes the call with a null pointer. -/
  | done {b : Blossom} {t : TaskResult} {output : DataMap}
      (hb : getBlossom registered blossomGroupName blossomName = some b) (hc : b.inputComplete values = .passed)
      (hi : b.inputCheck x values = .passed) (ht : b.task blossomName blossomGroupName context values r = t)
      (hret : t.ret = true) (ho : t.leaf.output.toMap = some output) (hv : b.outputCheck x output = .passed)
      (hoc : b.outputComplete output = .passed) :
      TriggerOutcome ⟨[.runTask blossomGroupName blossomName (b.fillDefaultValues values) context],
        (overrideItems .empty output .all).map fun result => (true, result, t.refs)⟩

/-! ### One lemma for each way `growBlossom` ends -/

section

variable {x registered result blossomName blossomGroupName context values r}
variable {b : Blossom} {t : TaskResult} {output : DataMap} {errorMessage : Str}

theorem growBlossom_inputInvalid (hi : b.inputCheck x values = .failed errorMessage) :
    b.growBlossom x (newLeaf blossomName blossomGroupName values) context r =
      ⟨[], some (false, { newLeaf blossomName blossomGroupName values with
        input := .ofMap (b.fillDefaultValues values) }, r.refuse errorMessage 400)⟩ := by
  rw [Blossom.inputCheck] at hi
  simp only [Blossom.growBlossom, newLeaf, JsonItem.toMap_ofMap]
  ext <;> simp [hi]

theorem growBlossom_inputThrows (hi : b.inputCheck x values = .crashed) :
    b.growBlossom x (newLeaf blossomName blossomGroupName values) context r = ⟨[], none⟩ := by
  rw [Blossom.inputCheck] at hi
  simp only [Blossom.growBlossom, newLeaf, JsonItem.toMap_ofMap]
  ext <;> simp [hi]

variable (hi : b.inputCheck x values = .passed)
  (ht : b.task blossomName blossomGroupName context values r = t)
include hi ht

theorem growBlossom_taskFailed (hret : t.ret = false) :
    b.growBlossom x (newLeaf blossomName blossomGroupName values) context r =
      ⟨[.runTask blossomGroupName blossomName (b.fillDefaultValues values) context],
        some (false, t.leaf, createErrorOf x t.leaf (str "blossom execute") t.refs)⟩ := by
  rw [Blossom.inputCheck] at hi
  rw [Blossom.task, newLeaf] at ht
  simp only [Blossom.growBlossom, newLeaf, JsonItem.toMap_ofMap]
  ext <;> simp [hi, ht, hret]

theorem growBlossom_noOutput (hret : t.ret = true) (ho : t.leaf.output.toMap = none) :
    b.growBlossom x (newLeaf blossomName blossomGroupName values) context r =
      ⟨[.runTask blossomGroupName blossomName (b.fillDefaultValues values) context], none⟩ := by
  rw [Blossom.inputCheck] at hi
  rw [Blossom.task, newLeaf] at ht
  simp only [Blossom.growBlossom, newLeaf, JsonItem.toMap_ofMap]
  ext <;> simp [hi, ht, hret, ho]

theorem growBlossom_outputInvalid (hret : t.ret = true) (ho : t.leaf.output.toMap = some output)
    (hv : b.outputCheck x output = .failed errorMessage) :
    b.growBlossom x (newLeaf blossomName blossomGroupName values) context r =
      ⟨[.runTask blossomGroupName blossomName (b.fillDefaultValues values) context],
        some (false, t.leaf, t.refs.refuse errorMessage 500)⟩ := by
  rw [Blossom.inputCheck] at hi
  rw [Blossom.task, newLeaf] at ht
  rw [Blossom.outputCheck] at hv
  simp only [Blossom.growBlossom, newLeaf, JsonItem.toMap_ofMap]
  ext <;> simp [hi, ht, hret, ho, hv]

theorem growBlossom_done (hret : t.ret = true) (ho : t.leaf.output.toMap = some output)
    (hv : b.outputCheck x output = .passed) :
    b.growBlossom x (newLeaf blossomName blossomGroupName values) context r =
      ⟨[.runTask blossomGroupName blossomName (b.fillDefaultValues values) context],
        some (true, t.leaf, t.refs)⟩ := by
  rw [Blossom.inputCheck] at hi
  rw [Blossom.task, newLeaf] at ht
  rw [Blossom.outputCheck] at hv
  simp only [Blossom.growBlossom, newLeaf, JsonItem.toMap_ofMap]
  ext <;> simp [hi, ht, hret, ho, hv]

end

/-! ### The outcome of a call -/

section

variable {x registered result blossomName blossomGroupName context values r}
variable {b : Blossom} {effects : List Effect} {leaf : BlossomIO} {r' : Refs} {output : DataMap} {errorMessage : Str}
variable (hb : getBlossom registered blossomGroupName blossomName = some b)
include hb

theorem triggerBlossom_inputIncomplete (hc : b.inputComplete values = .failed errorMessage) :
    triggerBlossom x registered result blossomName blossomGroupName context values r =
      ⟨[.logError
          ((r.refuse errorMessage 400).addMeesage (str "check of completeness of input-fields failed")).error],
        some (false, result,
          (r.refuse errorMessage 400).addMeesage (str "check of completeness of input-fields failed"))⟩ := by
  rw [Blossom.inputComplete] at hc
  simp only [triggerBlossom, hb, Traced.ofOption_some_bind, hc]
  rfl

variable (hc : b.inputComplete values = .passed)
include hc

theorem triggerBlossom_growFailed (hg : b.growBlossom x (newLeaf blossomName blossomGroupName values) context r =
    ⟨effects, some (false, leaf, r')⟩) :
    triggerBlossom x registered result blossomName blossomGroupName context values r =
      ⟨effects ++ [.logError (r'.addMeesage (str "trigger blossom failed.")).error],
        some (false, result, r'.addMeesage (str "trigger blossom failed."))⟩ := by
  rw [Blossom.inputComplete] at hc
  simp only [triggerBlossom, hb, Traced.ofOption_some_bind, hc, hg]
  rfl

theorem triggerBlossom_growCrashed (hg : b.growBlossom x (newLeaf blossomName blossomGroupName values) context r =
    ⟨effects, none⟩) :
    triggerBlossom x registered result blossomName blossomGroupName context values r = ⟨effects, none⟩ := by
  rw [Blossom.inputComplete] at hc
  simp only [triggerBlossom, hb, Traced.ofOption_some_bind, hc, hg]
  ext <;> simp

variable (hg : b.growBlossom x (newLeaf blossomName blossomGroupName values) context r =
  ⟨effects, some (true, leaf, r')⟩) (ho : leaf.output.toMap = some output)
include hg ho

theorem triggerBlossom_outputIncomplete (hoc : b.outputComplete output = .failed errorMessage) :
    triggerBlossom x registered result blossomName blossomGroupName context values r =
      ⟨effects ++ [.logError
          ((r'.refuse errorMessage 500).addMeesage (str "check of completeness of output-fields failed")).error],
        some (false, result,
          (r'.refuse errorMessage 500).addMeesage (str "check of completeness of output-fields failed"))⟩ := by
  rw [Blossom.inputComplete] at hc
  rw [Blossom.outputComplete] at hoc
  simp only [triggerBlossom, hb, Traced.ofOption_some_bind, hc, hg]
  ext <;> simp [ho, hoc, LOG_ERROR]

theorem triggerBlossom_done (hoc : b.outputComplete output = .passed) :
    triggerBlossom x registered result blossomName blossomGroupName context values r =
      ⟨effects, (overrideItems .empty output .all).map fun result => (true, result, r')⟩ := by
  rw [Blossom.inputComplete] at hc
  rw [Blossom.outputComplete] at hoc
  simp only [triggerBlossom, hb, Traced.ofOption_some_bind, hc, hg]
  ext <;> simp [ho, hoc, Option.map_eq_bind]

end

theorem triggerBlossom_noBlossom (hb : getBlossom registered blossomGroupName blossomName = none)
    (initialValues : Option DataMap) :
    triggerBlossom x registered result blossomName blossomGroupName context initialValues r =
      ⟨[], some (false, result, r.addMeesage (str "No blosom found for the id " ++ blossomName))⟩ := by
  rw [triggerBlossom, hb]
  rfl

/-- Without a map of values, a call ends where it has found the blossom. -/
theorem triggerBlossom_null {b : Blossom} (hb : getBlossom registered blossomGroupName blossomName = some b) :
    triggerBlossom x registered result blossomName blossomGroupName context none r = ⟨[], none⟩ := by
  rw [triggerBlossom, hb]
  rfl

/-- **The ways a call ends** are those of `TriggerOutcome`. -/
theorem triggerBlossom_outcome :
    TriggerOutcome x registered result blossomName blossomGroupName context values r
      (triggerBlossom x registered result blossomName blossomGroupName context values r) := by
  cases hb : getBlossom registered blossomGroupName blossomName with
  | none =>
    rw [triggerBlossom_noBlossom x registered result blossomName blossomGroupName context r hb]
    exact .noBlossom hb
  | some b =>
    cases hc : b.inputComplete values with
    | crashed => exact absurd hc (b.inputComplete_ne_crashed values)
    | failed errorMessage =>
      rw [triggerBlossom_inputIncomplete hb hc]
      exact .inputIncomplete hb hc rfl
    | passed =>
      cases hi : b.inputCheck x values with
      | crashed =>
        rw [triggerBlossom_growCrashed hb hc (growBlossom_inputThrows hi)]
        exact .inputThrows hb hc hi
      | failed errorMessage =>
        rw [triggerBlossom_growFailed hb hc (growBlossom_inputInvalid hi)]
        exact .inputInvalid hb hc hi rfl
      | passed =>
        obtain ⟨t, ht⟩ : ∃ t, b.task blossomName blossomGroupName context values r = t := ⟨_, rfl⟩
        cases hret : t.ret with
        | false =>
          rw [triggerBlossom_growFailed hb hc (growBlossom_taskFailed hi ht hret)]
          exact .taskFailed hb hc hi ht hret rfl
        | true =>
          cases ho : t.leaf.output.toMap with
          | none =>
            rw [triggerBlossom_growCrashed hb hc (growBlossom_noOutput hi ht hret ho)]
            exact .noOutput hb hc hi ht hret ho
          | some output =>
            cases hv : b.outputCheck x output with
            | crashed => exact absurd hv (b.outputCheck_ne_crashed x output)
            | failed errorMessage =>
              rw [triggerBlossom_growFailed hb hc (growBlossom_outputInvalid hi ht hret ho hv)]
              exact .outputInvalid hb hc hi ht hret ho hv rfl
            | passed =>
              have hg := growBlossom_done hi ht hret ho hv
              cases hoc : b.outputComplete output with
              | crashed => exact absurd hoc (b.outputComplete_ne_crashed output)
              | failed errorMessage =>
                rw [triggerBlossom_outputIncomplete hb hc hg ho hoc]
                exact .outputIncomplete hb hc hi ht hret ho hv hoc rfl
              | passed =>
                rw [triggerBlossom_done hb hc hg ho hoc]
                exact .done hb hc hi ht hret ho hv hoc

theorem ofKinds_triggerBlossom (initialValues : Option DataMap) : OfKinds [.log, .task]
    (triggerBlossom x registered result blossomName blossomGroupName context initialValues r) := by
  intro e he
  cases initialValues with
  | none =>
    cases hb : getBlossom registered blossomGroupName blossomName with
    | none =>
      rw [triggerBlossom_noBlossom x registered result blossomName blossomGroupName context r hb] at he
      cases he
    | some b =>
      rw [triggerBlossom_null x registered result blossomName blossomGroupName context r hb] at he
      cases he
  | some values =>
    have hout := triggerBlossom_outcome x registered result blossomName blossomGroupName context values r
    generalize triggerBlossom x registered result blossomName blossomGroupName context values r = p at hout he
    cases hout <;> simp only [List.mem_cons, List.not_mem_nil, or_false] at he
    case inputIncomplete | inputInvalid | noOutput | done => subst he; simp [Effect.kind]
    all_goals rcases he with rfl | rfl <;> simp [Effect.kind]

theorem runTask_not_mem_triggerBlossom_null {groupName itemName : Str} {input ctx : DataMap} :
    .runTask groupName itemName input ctx ∉
      (triggerBlossom x registered result blossomName blossomGroupName context none r).effects := by
  cases hb : getBlossom registered blossomGroupName blossomName with
  | none => simp [triggerBlossom_noBlossom x registered result blossomName blossomGroupName context r hb]
  | some b => simp [triggerBlossom_null x registered result blossomName blossomGroupName context r hb]

/-- The task of a blossom is run exactly once its input has passed both validators; it is run on
this input, with the defaults filled in. -/
theorem runTask_mem_triggerBlossom_iff {groupName itemName : Str} {input ctx : DataMap} :
    .runTask groupName itemName input ctx ∈
      (triggerBlossom x registered result blossomName blossomGroupName context values r).effects ↔
    groupName = blossomGroupName ∧ itemName = blossomName ∧ ctx = context ∧
      ∃ b, getBlossom registered blossomGroupName blossomName = some b ∧ b.inputComplete values = .passed ∧
        b.inputCheck x values = .passed ∧ input = b.fillDefaultValues values := by
  have hout := triggerBlossom_outcome x registered result blossomName blossomGroupName context values r
  generalize triggerBlossom x registered result blossomName blossomGroupName context values r = p at hout
  constructor
  · intro h
    cases hout <;> simp only [List.mem_cons, List.not_mem_nil, or_false, Effect.runTask.injEq, reduceCtorEq] at h
    all_goals
      obtain ⟨rfl, rfl, rfl, rfl⟩ := h
      exact ⟨rfl, rfl, rfl, _, by assumption, by assumption, by assumption, rfl⟩
  · rintro ⟨rfl, rfl, rfl, b, hb, hc, hi, rfl⟩
    cases hout with
    | noBlossom hb' => rw [hb] at hb'; cases hb'
    | inputIncomplete hb' hc' =>
      obtain rfl := Option.some_inj.mp (hb.symm.trans hb')
      rw [hc] at hc'
      cases hc'
    | inputInvalid hb' _ hi' | inputThrows hb' _ hi' =>
      obtain rfl := Option.some_inj.mp (hb.symm.trans hb')
      rw [hi] at hi'
      cases hi'
    | taskFailed hb' | noOutput hb' | outputInvalid hb' | outputIncomplete hb' | done hb' =>
      obtain rfl := Option.some_inj.mp (hb.symm.trans hb')
      exact List.mem_cons_self

/-- A task that returns true leaves a map of items. -/
def LeavesItems : Prop :=
  ∀ b, getBlossom registered blossomGroupName blossomName = some b →
    ∀ t, b.task blossomName blossomGroupName context values r = t → t.ret = true →
    ∃ output, t.leaf.output.toMap = some output ∧ output.NonNull

/-- Input that is complete meets no regex that throws. -/
def NoRegexThrows : Prop :=
  ∀ b, getBlossom registered blossomGroupName blossomName = some b → b.inputComplete values = .passed →
    b.InputMatchable x values

/-- A task that is run and returns true leaves a map, which holds items only if it passes. -/
def LeavesOutput : Prop :=
  ∀ b, getBlossom registered blossomGroupName blossomName = some b → b.inputComplete values = .passed →
    b.inputCheck x values = .passed →
    ∀ t, b.task blossomName blossomGroupName context values r = t → t.ret = true →
    ∃ output, t.leaf.output.toMap = some output ∧
      (b.outputCheck x output = .passed → b.outputComplete output = .passed → output.NonNull)

/-- A call that is made with these values fails, and leaves this message in the status: that of the check that
failed, that of the task, or the one that was there if there is no such blossom. -/
inductive FailureMessage : Option DataMap → Str → Prop where
  /-- There is no such blossom. -/
  | noBlossom {initialValues : Option DataMap} (hb : getBlossom registered blossomGroupName blossomName = none) :
      FailureMessage initialValues r.status.errorMessage
  /-- The input is not complete. -/
  | inputIncomplete {values : DataMap} {b : Blossom} {errorMessage : Str}
      (hb : getBlossom registered blossomGroupName blossomName = some b)
      (hc : b.inputComplete values = .failed errorMessage) : FailureMessage values errorMessage
  /-- The input values do not pass. -/
  | inputInvalid {values : DataMap} {b : Blossom} {errorMessage : Str}
      (hb : getBlossom registered blossomGroupName blossomName = some b) (hc : b.inputComplete values = .passed)
      (hi : b.inputCheck x values = .failed errorMessage) : FailureMessage values errorMessage
  /-- The task returns false. -/
  | taskFailed {values : DataMap} {b : Blossom} {t : TaskResult}
      (hb : getBlossom registered blossomGroupName blossomName = some b) (hc : b.inputComplete values = .passed)
      (hi : b.inputCheck x values = .passed) (ht : b.task blossomName blossomGroupName context values r = t)
      (hret : t.ret = false) : FailureMessage values t.refs.status.errorMessage
  /-- The output values do not pass. -/
  | outputInvalid {values : DataMap} {b : Blossom} {t : TaskResult} {output : DataMap} {errorMessage : Str}
      (hb : getBlossom registered blossomGroupName blossomName = some b) (hc : b.inputComplete values = .passed)
      (hi : b.inputCheck x values = .passed) (ht : b.task blossomName blossomGroupName context values r = t)
      (hret : t.ret = true) (ho : t.leaf.output.toMap = some output)
      (hv : b.outputCheck x output = .failed errorMessage) : FailureMessage values errorMessage
  /-- The output is not complete. -/
  | outputIncomplete {values : DataMap} {b : Blossom} {t : TaskResult} {output : DataMap} {errorMessage : Str}
      (hb : getBlossom registered blossomGroupName blossomName = some b) (hc : b.inputComplete values = .passed)
      (hi : b.inputCheck x values = .passed) (ht : b.task blossomName blossomGroupName context values r = t)
      (hret : t.ret = true) (ho : t.leaf.output.toMap = some output) (hv : b.outputCheck x output = .passed)
      (hoc : b.outputComplete output = .failed errorMessage) : FailureMessage values errorMessage

/-- All stages pass, and the task leaves this output. -/
def StagesPass (output : DataMap) : Prop :=
  ∃ b t, getBlossom registered blossomGroupName blossomName = some b ∧ b.inputComplete values = .passed ∧
    b.inputCheck x values = .passed ∧ b.task blossomName blossomGroupName context values r = t ∧ t.ret = true ∧
    t.leaf.output.toMap = some output ∧ b.outputCheck x output = .passed ∧ b.outputComplete output = .passed

section

variable {x registered result blossomName blossomGroupName context values r}

/-- The message of a call that fails is the one it leaves. -/
theorem failureMessage_iff (result : DataMap) {initialValues : Option DataMap} {errorMessage : Str} :
    FailureMessage x registered blossomName blossomGroupName context r initialValues errorMessage ↔
      ∃ result' r', (triggerBlossom x registered result blossomName blossomGroupName context initialValues r).value =
        some (false, result', r') ∧ r'.status.errorMessage = errorMessage := by
  constructor
  · intro h
    cases h with
    | noBlossom hb => exact ⟨_, _, congrArg Traced.value (triggerBlossom_noBlossom _ _ _ _ _ _ _ hb _), rfl⟩
    | inputIncomplete hb hc => exact ⟨_, _, congrArg Traced.value (triggerBlossom_inputIncomplete hb hc), rfl⟩
    | inputInvalid hb hc hi =>
      exact ⟨_, _, congrArg Traced.value (triggerBlossom_growFailed hb hc (growBlossom_inputInvalid hi)), rfl⟩
    | taskFailed hb hc hi ht hret =>
      exact ⟨_, _, congrArg Traced.value (triggerBlossom_growFailed hb hc (growBlossom_taskFailed hi ht hret)), rfl⟩
    | outputInvalid hb hc hi ht hret ho hv =>
      exact ⟨_, _, congrArg Traced.value
        (triggerBlossom_growFailed hb hc (growBlossom_outputInvalid hi ht hret ho hv)), rfl⟩
    | outputIncomplete hb hc hi ht hret ho hv hoc =>
      exact ⟨_, _, congrArg Traced.value
        (triggerBlossom_outputIncomplete hb hc (growBlossom_done hi ht hret ho hv) ho hoc), rfl⟩
  · rintro ⟨result', r', hv, rfl⟩
    cases initialValues with
    | none =>
      cases hb : getBlossom registered blossomGroupName blossomName with
      | none =>
        rw [triggerBlossom_noBlossom _ _ _ _ _ _ _ hb] at hv
        cases hv
        exact .noBlossom hb
      | some b =>
        rw [triggerBlossom_null _ _ _ _ _ _ _ hb] at hv
        cases hv
    | some values =>
      have hout := triggerBlossom_outcome x registered result blossomName blossomGroupName context values r
      generalize triggerBlossom x registered result blossomName blossomGroupName context values r = p at hout hv
      cases hout with
      | noBlossom hb => cases hv; exact .noBlossom hb
      | inputIncomplete hb hc hr => cases hv; subst hr; exact .inputIncomplete hb hc
      | inputInvalid hb hc hi hr => cases hv; subst hr; exact .inputInvalid hb hc hi
      | inputThrows | noOutput => cases hv
      | taskFailed hb hc hi ht hret hr => cases hv; subst hr; exact .taskFailed hb hc hi ht hret
      | outputInvalid hb hc hi ht hret ho hv' hr => cases hv; subst hr; exact .outputInvalid hb hc hi ht hret ho hv'
      | outputIncomplete hb hc hi ht hret ho hv' hoc hr =>
        cases hv
        subst hr
        exact .outputIncomplete hb hc hi ht hret ho hv' hoc
      | done =>
        obtain ⟨copied, -, heq⟩ := Option.map_eq_some_iff.mp hv
        cases heq

theorem value_of_stagesPass (result : DataMap) {output : DataMap}
    (h : StagesPass x registered blossomName blossomGroupName context values r output) (hn : output.NonNull) :
    ∃ r', (triggerBlossom x registered result blossomName blossomGroupName context values r).value =
      some (true, output, r') := by
  obtain ⟨b, t, hb, hc, hi, ht, hret, ho, hv, hoc⟩ := h
  rw [triggerBlossom_done hb hc (growBlossom_done hi ht hret ho hv) ho hoc, overrideItems_empty_all output hn]
  exact ⟨t.refs, rfl⟩

/-- If the call returns true, all stages have passed, and the result is the output. -/
theorem stagesPass_of_value {result' : DataMap} {r' : Refs}
    (hv : (triggerBlossom x registered result blossomName blossomGroupName context values r).value =
      some (true, result', r')) :
    StagesPass x registered blossomName blossomGroupName context values r result' ∧ result'.NonNull := by
  have hout := triggerBlossom_outcome x registered result blossomName blossomGroupName context values r
  generalize triggerBlossom x registered result blossomName blossomGroupName context values r = p at hout hv
  cases hout with
  | noBlossom | inputIncomplete | inputInvalid | inputThrows | taskFailed | noOutput | outputInvalid
  | outputIncomplete => cases hv
  | done hb hc hi ht hret ho hv' hoc =>
    obtain ⟨copied, hcopied, heq⟩ := Option.map_eq_some_iff.mp hv
    cases heq
    obtain ⟨hn, rfl⟩ := overrideItems_empty_all_eq_some.mp hcopied
    exact ⟨⟨_, _, hb, hc, hi, ht, hret, ho, hv', hoc⟩, hn⟩

/-- **When a call returns**: exactly if no regex throws, and the task leaves output that can be checked
and copied. -/
theorem isSome_value_triggerBlossom_iff (result : DataMap) :
    (triggerBlossom x registered result blossomName blossomGroupName context values r).value.isSome ↔
      NoRegexThrows x registered blossomName blossomGroupName values ∧
        LeavesOutput x registered blossomName blossomGroupName context values r := by
  constructor
  · intro h
    refine ⟨fun b hb hc => (b.inputCheck_ne_crashed_iff x values).mp fun hi => ?_, fun b hb hc hi t ht hret => ?_⟩
    · rw [triggerBlossom_growCrashed hb hc (growBlossom_inputThrows hi)] at h
      cases h
    cases ho : t.leaf.output.toMap with
    | none =>
      rw [triggerBlossom_growCrashed hb hc (growBlossom_noOutput hi ht hret ho)] at h
      cases h
    | some output =>
      refine ⟨output, rfl, fun hv hoc => ?_⟩
      rw [triggerBlossom_done hb hc (growBlossom_done hi ht hret ho hv) ho hoc, Option.isSome_map] at h
      obtain ⟨copied, hcopied⟩ := Option.isSome_iff_exists.mp h
      exact (overrideItems_empty_all_eq_some.mp hcopied).1
  · rintro ⟨hregex, h⟩
    have hout := triggerBlossom_outcome x registered result blossomName blossomGroupName context values r
    generalize triggerBlossom x registered result blossomName blossomGroupName context values r = p at hout
    cases hout with
    | noBlossom | inputIncomplete | inputInvalid | taskFailed | outputInvalid | outputIncomplete => rfl
    | inputThrows hb hc hi => exact absurd hi ((Blossom.inputCheck_ne_crashed_iff x _ values).mpr (hregex _ hb hc))
    | noOutput hb hc hi ht hret ho =>
      obtain ⟨output, ho', -⟩ := h _ hb hc hi _ ht hret
      rw [ho] at ho'
      cases ho'
    | done hb hc hi ht hret ho hv hoc =>
      obtain ⟨output, ho', hn⟩ := h _ hb hc hi _ ht hret
      obtain rfl := Option.some_inj.mp (ho.symm.trans ho')
      rw [overrideItems_empty_all _ (hn hv hoc)]
      rfl

/-- A call with a task that leaves items returns exactly if no regex throws. -/
theorem isSome_value_iff_of_leavesItems (x : Libs) (result : DataMap)
    (h : LeavesItems registered blossomName blossomGroupName context values r) :
    (triggerBlossom x registered result blossomName blossomGroupName context values r).value.isSome ↔
      NoRegexThrows x registered blossomName blossomGroupName values := by
  rw [isSome_value_triggerBlossom_iff, and_iff_left_iff_imp]
  intro _ b hb _ _ t ht hret
  obtain ⟨output, ho, hn⟩ := h b hb t ht hret
  exact ⟨output, ho, fun _ _ => hn⟩

/-- A call that returns, returns true exactly if all stages pass; the result is then the output. -/
theorem stagesPass_iff_of_value {ret : Bool} {result' : DataMap} {r' : Refs}
    (hv : (triggerBlossom x registered result blossomName blossomGroupName context values r).value =
      some (ret, result', r')) (output : DataMap) :
    StagesPass x registered blossomName blossomGroupName context values r output ↔ ret = true ∧ result' = output := by
  constructor
  · intro hs
    obtain ⟨b, t, hb, hc, hi, ht, hret, ho, hout, hoc⟩ := id hs
    obtain ⟨output', ho', hn⟩ :=
      ((isSome_value_triggerBlossom_iff result).mp (Option.isSome_of_eq_some hv)).2 b hb hc hi t ht hret
    obtain rfl := Option.some_inj.mp (ho.symm.trans ho')
    obtain ⟨r'', hv'⟩ := value_of_stagesPass result hs (hn hout hoc)
    cases hv.symm.trans hv'
    exact ⟨rfl, rfl⟩
  · rintro ⟨rfl, rfl⟩
    exact (stagesPass_of_value hv).1

end

end

/-! ### What a task may rely on -/

/-- What the input of a task is like, for the values the caller supplied. -/
structure ValidInput (x : Libs) (calls : List FieldCall) (allowUnmatched : Bool) (initialValues input : DataMap) :
    Prop where
  /-- Every key is a registered input field, unless others are allowed. -/
  registered : allowUnmatched = false → ∀ key : Str, input.contains key = true →
    (firstRegistration calls key).isSome
  /-- An item under a registered field is of the declared type and, if a regex was set last,
  a string that matches it. -/
  fits : ∀ (key : Str) (d : FieldDef), firstRegistration calls key = some d → ∀ item, input.get key = some item →
    item.fieldType = d.fieldType ∧ (lastRegex calls key ≠ [] →
      ∃ s, item = .value (.string s) ∧ matchesRegex x (lastRegex calls key) s = some true)
  /-- A field with a default has an entry, which is the default if the caller supplied none. -/
  defaults : ∀ (key : Str) (item : DataItem), lastDefault calls key = some item →
    input.contains key = true ∧ (initialValues.contains key = false → input.get key = some item)
  /-- What the caller supplied is unchanged. -/
  supplied : ∀ (key : Str) (value : Option DataItem), initialValues.map[key]? = some value →
    input.map[key]? = some value
  /-- Nothing else was added. -/
  added : ∀ key : Str, input.contains key = true →
    initialValues.contains key = true ∨ (lastDefault calls key).isSome

section

variable {x : Libs} {calls : List FieldCall} {allowUnmatched : Bool}
  {runTask : BlossomIO → DataMap → Refs → TaskResult} {values : DataMap}

theorem lastDefault_of_unregistered {key : Str} (h : firstRegistration calls key = none) :
    lastDefault calls key = none := by
  rw [lastDefault, ((inputField_ofCalls calls key).unset h).1]
  rfl

theorem getElem?_filled (calls : List FieldCall) (allowUnmatched : Bool)
    (runTask : BlossomIO → DataMap → Refs → TaskResult) (values : DataMap) (key : Str) :
    ((Blossom.ofCalls calls allowUnmatched runTask).fillDefaultValues values).map[key]? =
      values.map[key]?.or ((lastDefault calls key).map some) := by
  have hd : (FieldMaps.ofCalls calls).inputValidationMap[key]?.bind FieldDef.defaultVal = lastDefault calls key := by
    rw [(inputField_ofCalls calls key).entry, describedField]
    cases hf : firstRegistration calls key with
    | none => exact (lastDefault_of_unregistered hf).symm
    | some d => rfl
  rw [Blossom.getElem?_fillDefaultValues, ← hd]
  rfl

theorem isSome_firstRegistration {key : Str}
    (h : (FieldMaps.ofCalls calls).inputValidationMap.contains key = true) :
    (firstRegistration calls key).isSome := by
  rw [Std.ExtTreeMap.contains_eq_isSome_getElem?, (inputField_ofCalls calls key).entry, describedField,
    Option.isSome_map] at h
  exact h

/-- Input that passed both validators is valid once it is filled. -/
theorem validInput_of_passed
    (hc : (Blossom.ofCalls calls allowUnmatched runTask).inputComplete values = .passed)
    (hi : (Blossom.ofCalls calls allowUnmatched runTask).inputCheck x values = .passed) :
    ValidInput x calls allowUnmatched values
      ((Blossom.ofCalls calls allowUnmatched runTask).fillDefaultValues values) where
  registered := by
    intro hu key hkey
    rw [DataMap.contains_iff, getElem?_filled, Option.isSome_or, Bool.or_eq_true, Option.isSome_map] at hkey
    rcases hkey with hkey | hkey
    · exact isSome_firstRegistration ((validateFieldsCompleteness_passed.mp hc).1 hu key
        ((DataMap.contains_iff values key).mpr hkey))
    · rw [Option.isSome_iff_ne_none]
      intro hn
      rw [lastDefault_of_unregistered hn] at hkey
      cases hkey
  fits := by
    intro key d hf item hitem
    have hd := (inputField_ofCalls calls key).entry
    rw [describedField, hf, Option.map_some] at hd
    have hwf := (FieldMaps.wellFormed_ofCalls calls).input key _ hd
    have hfit := checkBlossomValues_passed x hi hd hwf.ioType hitem
    refine ⟨hfit.fieldType, fun hr => ?_⟩
    obtain ⟨s, rfl⟩ := eq_string_of_checkType ((checkType_iff _ _).mpr (hfit.fieldType.trans (hwf.regex hr)))
    refine ⟨s, rfl, ?_⟩
    have hm := hfit.regex hr (.string s) rfl
    rwa [x.getString_string] at hm
  defaults := by
    intro key item hdefault
    have hkey := getElem?_filled calls allowUnmatched runTask values key
    rw [hdefault] at hkey
    refine ⟨?_, fun hn => ?_⟩
    · rw [DataMap.contains_iff, hkey]
      simp
    · rw [DataMap.get_eq_some_iff, hkey]
      rw [← Bool.not_eq_true, DataMap.contains_iff, Option.not_isSome_iff_eq_none] at hn
      rw [hn]
      rfl
  supplied := by
    intro key value hv
    rw [getElem?_filled, hv, Option.some_or]
  added := by
    intro key hkey
    rw [DataMap.contains_iff, getElem?_filled, Option.isSome_or, Bool.or_eq_true, Option.isSome_map] at hkey
    exact hkey.imp_left (DataMap.contains_iff values key).mpr

end

/-- **What a task may rely on**: for a blossom built by any calls, the input a task sees holds
what the caller supplied and the defaults, and every registered field of it fits. -/
theorem seesValidInput (x : Libs) (registered : RegisteredBlossoms) (result : DataMap)
    (blossomName blossomGroupName : Str) (context initialValues : DataMap) (r : Refs) (calls : List FieldCall)
    (allowUnmatched : Bool) (runTask : BlossomIO → DataMap → Refs → TaskResult)
    (hb : getBlossom registered blossomGroupName blossomName = some (.ofCalls calls allowUnmatched runTask))
    (groupName itemName : Str) (input ctx : DataMap)
    (h : .runTask groupName itemName input ctx ∈
      (triggerBlossom x registered result blossomName blossomGroupName context initialValues r).effects) :
    ValidInput x calls allowUnmatched initialValues input := by
  obtain ⟨-, -, -, b, hb', hc, hi, rfl⟩ := (runTask_mem_triggerBlossom_iff x registered result blossomName
    blossomGroupName context initialValues r).mp h
  obtain rfl := Option.some_inj.mp (hb.symm.trans hb')
  exact validInput_of_passed hc hi

/-- The calls of a blossom with one field, which has a default and a regex. -/
def greeterCalls : List FieldCall :=
  [.registerInputField (str "name") .stringType false [],
    .addFieldDefault (str "name") (some (.value (.string (str "joe")))),
    .addFieldRegex (str "name") (str "joe"),
    .registerOutputField (str "text") .stringType []]

/-- A task that writes a text. -/
def greet (leaf : BlossomIO) (_ : DataMap) (r : Refs) : TaskResult :=
  ⟨true, { leaf with
    output := .ofMap (DataMap.empty.insert (str "text") (some (.value (.string (str "hi")))) true) }, r⟩

/-- The blossom that runs it. -/
def greeter : Blossom := .ofCalls greeterCalls false greet

/-- A registry with one blossom. -/
def greeters : RegisteredBlossoms :=
  (∅ : RegisteredBlossoms).insert (str "test") ((∅ : StdMap (Option Blossom)).insert (str "greet") (some greeter))

theorem getBlossom_greeters : getBlossom greeters (str "test") (str "greet") = some greeter := by
  simp [getBlossom, greeters]

theorem greet_gives_items (leaf : BlossomIO) (context : DataMap) (r : Refs) :
    ∃ output, (greet leaf context r).leaf.output.toMap = some output ∧ output.NonNull := by
  refine ⟨_, JsonItem.toMap_ofMap _, fun key => ?_⟩
  rw [DataMap.getElem?_insert_force]
  split_ifs <;> simp [DataMap.empty]

/-- A fresh status and a fresh error container. -/
def freshRefs : Refs := ⟨⟨0, []⟩, ⟨[]⟩⟩

/-- A blossom that is triggered with no values sees its default. -/
theorem seesValidInput_greeter :
    ValidInput literalLibs greeterCalls false .empty (greeter.fillDefaultValues .empty) :=
  seesValidInput literalLibs greeters .empty (str "greet") (str "test") .empty .empty freshRefs greeterCalls false
    greet getBlossom_greeters (str "test") (str "greet") _ .empty (.head [])

/-! ### All or nothing -/

/-- What a call that returned `ret` has done to its result and its status. -/
structure AllOrNothing (x : Libs) (registered : RegisteredBlossoms) (result : DataMap)
    (blossomName blossomGroupName : Str) (context values : DataMap) (r : Refs) (ret : Bool) (result' : DataMap)
    (r' : Refs) : Prop where
  /-- A call that returns false leaves the result as it was. -/
  unchanged : ret = false → result' = result
  /-- It leaves 400 if the input was at fault. -/
  input : ret = false → ∀ b, getBlossom registered blossomGroupName blossomName = some b →
    b.inputComplete values ≠ .passed ∨ b.inputCheck x values ≠ .passed → r'.status.statusCode = 400
  /-- It leaves what the task left if the task returned false. -/
  task : ret = false → ∀ b, getBlossom registered blossomGroupName blossomName = some b →
    b.inputComplete values = .passed → b.inputCheck x values = .passed →
    ∀ t, b.task blossomName blossomGroupName context values r = t → t.ret = false → r'.status = t.refs.status
  /-- It leaves 500 if the output was at fault. -/
  output : ret = false → ∀ b, getBlossom registered blossomGroupName blossomName = some b →
    b.inputComplete values = .passed → b.inputCheck x values = .passed →
    ∀ t, b.task blossomName blossomGroupName context values r = t → t.ret = true →
    ∀ output, t.leaf.output.toMap = some output →
    b.outputCheck x output ≠ .passed ∨ b.outputComplete output ≠ .passed → r'.status.statusCode = 500
  /-- A call that returns true leaves the output of the task, all of whose fields fit. -/
  replaced : ret = true → ∃ b t, getBlossom registered blossomGroupName blossomName = some b ∧
    b.task blossomName blossomGroupName context values r = t ∧ t.ret = true ∧
    t.leaf.output.toMap = some result' ∧
    (b.allowUnmatched = false → ∀ key : Str, result'.contains key = true →
      b.maps.outputValidationMap.contains key = true) ∧
    ∀ (key : Str) (d : FieldDef), b.maps.outputValidationMap[key]? = some d → ∀ item, result'.get key = some item →
      item.fieldType = d.fieldType ∧ ∀ «match», d.match = some «match» → x.itemToString item = x.itemToString «match»

theorem allOrNothing_of_value {x : Libs} {registered : RegisteredBlossoms} {result : DataMap}
    {blossomName blossomGroupName : Str} {context values : DataMap} {r : Refs} {ret : Bool} {result' : DataMap}
    {r' : Refs} (h : (triggerBlossom x registered result blossomName blossomGroupName context values r).value =
      some (ret, result', r')) :
    AllOrNothing x registered result blossomName blossomGroupName context values r ret result' r' := by
  have hout := triggerBlossom_outcome x registered result blossomName blossomGroupName context values r
  generalize triggerBlossom x registered result blossomName blossomGroupName context values r = p at hout h
  cases hout with
  | noBlossom hb =>
    cases h
    exact ⟨fun _ => rfl, by simp [hb], by simp [hb], by simp [hb], nofun⟩
  | inputIncomplete hb hc hr =>
    cases h
    subst hr
    refine ⟨fun _ => rfl, fun _ _ _ _ => rfl, ?_, ?_, nofun⟩ <;> simp [hb, hc]
  | inputInvalid hb hc hi hr =>
    cases h
    subst hr
    refine ⟨fun _ => rfl, fun _ _ _ _ => rfl, ?_, ?_, nofun⟩ <;> simp [hb, hc, hi]
  | taskFailed hb hc hi ht hret hr =>
    cases h
    subst hr
    refine ⟨fun _ => rfl, ?_, ?_, ?_, nofun⟩ <;> simp [hb, hc, hi, ht, hret, createErrorOf]
  | inputThrows | noOutput => cases h
  | outputInvalid hb hc hi ht hret ho hv hr =>
    cases h
    subst hr
    refine ⟨fun _ => rfl, ?_, ?_, ?_, nofun⟩ <;> simp [hb, hc, hi, ht, hret]
  | outputIncomplete hb hc hi ht hret ho hv hoc hr =>
    cases h
    subst hr
    refine ⟨fun _ => rfl, ?_, ?_, ?_, nofun⟩ <;> simp [hb, hc, hi, ht, hret]
  | done hb hc hi ht hret ho hv hoc =>
    obtain ⟨copied, hcopied, heq⟩ := Option.map_eq_some_iff.mp h
    cases heq
    obtain ⟨-, rfl⟩ := overrideItems_empty_all_eq_some.mp hcopied
    refine ⟨nofun, nofun, nofun, nofun, fun _ => ⟨_, _, hb, ht, hret, ho, ?_, ?_⟩⟩
    · exact (validateFieldsCompleteness_passed.mp hoc).1
    · intro key d hd item hitem
      have hfit := checkBlossomValues_passed x hv hd (Blossom.wellFormed _ |>.output key d hd).ioType hitem
      exact ⟨hfit.fieldType, hfit.match⟩

/-- **All or nothing**: in a call that returns, the result is replaced by the output as a whole, or left as it
was with the status of the stage that failed; a call with a task whose output values are items returns unless a
regex throws. -/
theorem all_or_nothing (x : Libs) (registered : RegisteredBlossoms) (result : DataMap)
    (blossomName blossomGroupName : Str) (context initialValues : DataMap) (r : Refs)
    (h : LeavesItems registered blossomName blossomGroupName context initialValues r) :
    ((triggerBlossom x registered result blossomName blossomGroupName context initialValues r).value.isSome ↔
      NoRegexThrows x registered blossomName blossomGroupName initialValues) ∧
    ∀ ret result' r',
      (triggerBlossom x registered result blossomName blossomGroupName context initialValues r).value =
        some (ret, result', r') →
      AllOrNothing x registered result blossomName blossomGroupName context initialValues r ret result' r' :=
  ⟨isSome_value_iff_of_leavesItems x result h, fun _ _ _ hv => allOrNothing_of_value hv⟩

/-- A blossom that is triggered with no values. -/
theorem all_or_nothing_greeter :
    ((triggerBlossom literalLibs greeters .empty (str "greet") (str "test") .empty DataMap.empty freshRefs).value.isSome
      ↔ NoRegexThrows literalLibs greeters (str "greet") (str "test") .empty) ∧
    ∀ ret result' r',
      (triggerBlossom literalLibs greeters .empty (str "greet") (str "test") .empty DataMap.empty freshRefs).value =
        some (ret, result', r') →
      AllOrNothing literalLibs greeters .empty (str "greet") (str "test") .empty .empty freshRefs ret result' r' := by
  refine all_or_nothing literalLibs greeters .empty (str "greet") (str "test") .empty .empty freshRefs ?_
  intro b hb t ht hret
  obtain rfl := Option.some_inj.mp (getBlossom_greeters.symm.trans hb)
  subst ht
  exact greet_gives_items _ .empty freshRefs

end HanamiNetwork
