import HanamiNetwork.Blossoms.FieldRules

/-!
# Borders

What a border that `addFieldBorder` accepted means for the values that pass. The check
compares the value of an int, or the length of a string, with both borders, and it takes a
pair of zeros for a border that was never set. So a border is enforced exactly if it is not
that pair (`bordersEnforced_iff`); `addFieldBorder` accepts the pair as any other.
-/

namespace HanamiNetwork

open HanamiNetwork.Basis

/-! ### Measures -/

/-- What a border is about: the value of an int, the length of a string. -/
def DataItem.measure : DataItem → Option ℤ
  | .value (.int v) => some v.toInt
  | .value (.string s) => some s.length
  | _ => none

/-- The item is an object of the source: no `std::string` has 2^63 bytes or more. -/
def DataItem.Representable (item : DataItem) : Prop := ∀ s, item = .value (.string s) → s.length < 2 ^ 63

/-- The measure of an item, if it has one, lies between two borders. -/
def Within (lo hi : Int64) (item : DataItem) : Prop := ∀ n, item.measure = some n → lo.toInt ≤ n ∧ n ≤ hi.toInt

theorem checkBorders_eq_passed {name : Str} {d : FieldDef} {value : Int64} {smaller bigger unit : Str} :
    checkBorders name d value smaller bigger unit = .passed ↔
      d.lowerBorder.toInt ≤ value.toInt ∧ value.toInt ≤ d.upperBorder.toInt := by
  rw [checkBorders, Check.andThen_eq_passed, Check.require_eq_passed, Check.require_eq_passed]
  simp [Int64.lt_iff_toInt_lt]

/-- A border that is not a pair of zeros is checked. -/
theorem checkBorder_eq_passed_iff (x : Libs) {name : Str} {d : FieldDef} {item : DataItem}
    (hd : d.lowerBorder ≠ 0 ∨ d.upperBorder ≠ 0) (hitem : item.Representable) :
    checkBorder x name d item = .passed ↔ Within d.lowerBorder d.upperBorder item := by
  unfold checkBorder
  rw [if_pos hd.symm]
  rcases item with (v | bits | b | s) | items | items
  case value.int => simp [checkBorders_eq_passed, Within, DataItem.measure]
  case value.string =>
    simp [checkBorders_eq_passed, Within, DataItem.measure, x.getString_string,
      Int64.toInt_ofNat_of_lt (hitem s rfl)]
  all_goals simp [Within, DataItem.measure]

theorem checkBorder_of_zero (x : Libs) {name : Str} {d : FieldDef} (item : DataItem) (hlo : d.lowerBorder = 0)
    (hhi : d.upperBorder = 0) : checkBorder x name d item = .passed := by
  unfold checkBorder
  rw [if_neg (by simp [hlo, hhi])]

/-! ### The last border of a field -/

/-- The last call of `addFieldBorder` for a field set these borders, and returned true. -/
def LastBorder (calls : List FieldCall) (name : Str) (lo hi : Int64) : Prop :=
  ∃ before after, calls = before ++ .addFieldBorder name lo hi :: after ∧
    (FieldCall.apply (.addFieldBorder name lo hi) (.ofCalls before)).1 = true ∧
    ∀ lo' hi', .addFieldBorder name lo' hi' ∉ after

/-- Calls that set no border leave the last one. -/
theorem settings_setsBorder_append {before after : List FieldCall} {name : Str}
    (h : ∀ lo' hi', .addFieldBorder name lo' hi' ∉ after) :
    settings (FieldCall.setsBorder name) (before ++ after) = settings (FieldCall.setsBorder name) before := by
  induction after using List.reverseRecOn with
  | nil => rw [List.append_nil]
  | append_singleton after call ih =>
    rw [← List.append_assoc, settings_of_unset, ih]
    · exact fun lo' hi' hmem => h lo' hi' (List.mem_append_left _ hmem)
    · intro _
      cases call with
      | addFieldBorder n lo' hi' =>
        refine if_neg ?_
        rintro rfl
        exact h lo' hi' (List.mem_append_right _ (List.mem_singleton_self _))
      | _ => rfl

theorem lastBorder_of_lastBorder {calls : List FieldCall} {name : Str} {lo hi : Int64}
    (h : LastBorder calls name lo hi) : lastBorder calls name = (lo, hi) := by
  obtain ⟨before, after, rfl, ha, hafter⟩ := h
  rw [lastBorder, List.append_cons, settings_setsBorder_append hafter, settings_concat, if_pos ha,
    FieldCall.setsBorder, if_pos rfl]
  simp

/-- The entry of the field: it has the borders, and is a string or an int. -/
theorem entry_of_lastBorder {calls : List FieldCall} {name : Str} {lo hi : Int64}
    (h : LastBorder calls name lo hi) :
    ∃ d, (FieldMaps.ofCalls calls).inputValidationMap[name]? = some d ∧ d.lowerBorder = lo ∧ d.upperBorder = hi ∧
      (d.fieldType = .stringType ∨ d.fieldType = .intType) := by
  have hlast := lastBorder_of_lastBorder h
  obtain ⟨before, after, rfl, ha, -⟩ := h
  have hold := (inputField_ofCalls before name).entry
  obtain ⟨old, hentry, hallowed⟩ : ∃ old, (FieldMaps.ofCalls before).inputValidationMap[name]? = some old ∧
      (old.fieldType = .stringType ∨ old.fieldType = .intType) := by
    change (changeField _ name _ _).1 = true at ha
    rw [changeField_accepted, Option.any_eq_true] at ha
    simpa using ha
  obtain ⟨first, hfirst, rfl⟩ := Option.map_eq_some_iff.mp (hold.symm.trans hentry)
  have hfirst' : firstRegistration (before ++ .addFieldBorder name lo hi :: after) name = some first :=
    findSome?_append_of_some hfirst _
  have hnew := (inputField_ofCalls (before ++ .addFieldBorder name lo hi :: after) name).entry
  rw [describedField, hfirst', hlast, Option.map_some] at hnew
  exact ⟨_, hnew, rfl, rfl, hallowed⟩

/-! ### Enforcement -/

section

variable (x : Libs) (calls : List FieldCall) (name : Str) (lo hi : Int64)

/-- The borders do what they are for. -/
structure BordersEnforced : Prop where
  /-- An item of a map that passes lies between them. -/
  accepted : ∀ values item,
    checkBlossomValues x (FieldMaps.ofCalls calls).inputValidationMap values .inputType = .passed →
    values.get name = some item → item.Representable → Within lo hi item
  /-- An item of the declared type that lies between them is not refused for them. -/
  inside : ∀ d item, (FieldMaps.ofCalls calls).inputValidationMap[name]? = some d →
    checkType item d.fieldType = true → item.Representable → Within lo hi item →
    checkBorder x name d item = .passed

/-- The borders are not two zeros, or they would not matter, because the field is a string and its regex
matches the empty string at most. -/
def BordersCount : Prop :=
  (lo ≠ 0 ∨ hi ≠ 0) ∨ ∃ d, (FieldMaps.ofCalls calls).inputValidationMap[name]? = some d ∧
    d.fieldType = .stringType ∧ d.regex ≠ [] ∧
    ∀ s : Str, s ≠ [] → s.length < 2 ^ 63 → matchesRegex x d.regex s ≠ some true

end

section

variable {x : Libs} {defs : StdMap FieldDef} {values : DataMap} {name : Str} {d : FieldDef} {item : DataItem}

theorem checkBorder_of_passed {ioType : IO_ValueType} (h : checkBlossomValues x defs values ioType = .passed)
    (hd : defs[name]? = some d) (hio : d.ioType = ioType) (hitem : values.get name = some item) :
    checkBorder x name d item = .passed := by
  have hall := (forall_mem_toList defs fun e => checkField x values ioType e = .passed).mp
    (Check.forEach_eq_passed.mp h) name d hd
  simp only [checkField, hio, ne_eq, not_true_eq_false, if_false, hitem, Check.andThen_eq_passed] at hall
  exact hall.2.2.1

theorem checkBlossomValues_single (hd : defs[name]? = some d) (ht : checkType item d.fieldType = true)
    (hr : checkRegex x name d item = .passed) (hb : checkBorder x name d item = .passed)
    (hm : d.match = none) (ioType : IO_ValueType) :
    checkBlossomValues x defs (DataMap.empty.insert name (some item) true) ioType = .passed := by
  rw [checkBlossomValues, Check.forEach_eq_passed,
    forall_mem_toList defs fun e => checkField x (DataMap.empty.insert name (some item) true) ioType e = .passed]
  intro key d' hd'
  have hget : (DataMap.empty.insert name (some item) true).get key = if name = key then some item else none := by
    rw [DataMap.get, DataMap.getElem?_insert_force]
    split_ifs <;> simp [DataMap.empty]
  unfold checkField
  rw [hget]
  split_ifs with hio hk
  · rfl
  · subst hk
    obtain rfl := Option.some_inj.mp (hd.symm.trans hd')
    simp [ht, hr, hb, checkMatch, hm]
  · rfl

end

section

variable {x : Libs} {calls : List FieldCall} {name : Str} {d : FieldDef}
  (hd : (FieldMaps.ofCalls calls).inputValidationMap[name]? = some d)
include hd

/-- Borders that are not two zeros are enforced. -/
theorem bordersEnforced_of_ne_zero (h : d.lowerBorder ≠ 0 ∨ d.upperBorder ≠ 0) :
    BordersEnforced x calls name d.lowerBorder d.upperBorder where
  accepted values item hpassed hitem hrep := by
    have hio := ((FieldMaps.wellFormed_ofCalls calls).input name d hd).ioType
    exact (checkBorder_eq_passed_iff x h hrep).mp (checkBorder_of_passed hpassed hd hio hitem)
  inside d' item hd' _ hrep hw := by
    obtain rfl := Option.some_inj.mp (hd.symm.trans hd')
    exact (checkBorder_eq_passed_iff x h hrep).mpr hw

variable (hlo : d.lowerBorder = 0) (hhi : d.upperBorder = 0)
include hlo hhi

/-- Two zeros are enforced by a regex that keeps out all but the empty string. -/
theorem bordersEnforced_of_regex (htype : d.fieldType = .stringType) (hr : d.regex ≠ [])
    (hnone : ∀ s : Str, s ≠ [] → s.length < 2 ^ 63 → matchesRegex x d.regex s ≠ some true) :
    BordersEnforced x calls name 0 0 where
  accepted values item hpassed hitem hrep := by
    have hio := ((FieldMaps.wellFormed_ofCalls calls).input name d hd).ioType
    have hfit := checkBlossomValues_passed x hpassed hd hio hitem
    obtain ⟨s, rfl⟩ := eq_string_of_checkType ((checkType_iff _ _).mpr (hfit.fieldType.trans htype))
    have hmatch := hfit.regex hr (.string s) rfl
    rw [x.getString_string] at hmatch
    have hs : s = [] := by
      by_contra hs
      exact hnone s hs (hrep s rfl) hmatch
    subst hs
    rintro n ⟨⟩
    decide
  inside d' item hd' _ _ _ := by
    obtain rfl := Option.some_inj.mp (hd.symm.trans hd')
    exact checkBorder_of_zero x item hlo hhi

/-- Where two zeros are enforced, an item that the type and the regex let through is within them. -/
theorem within_of_enforced_zero (h : BordersEnforced x calls name 0 0) (item : DataItem)
    (ht : checkType item d.fieldType = true) (hr : checkRegex x name d item = .passed)
    (hitem : item.Representable) : Within 0 0 item := by
  refine h.accepted (DataMap.empty.insert name (some item) true) item ?_ ?_ hitem
  · exact checkBlossomValues_single hd ht hr (checkBorder_of_zero x item hlo hhi)
      ((FieldMaps.wellFormed_ofCalls calls).input name d hd).match .inputType
  · rw [DataMap.get_eq_some_iff, DataMap.getElem?_insert_force, if_pos rfl]

/-- Two zeros are not enforced for an int. -/
theorem not_enforced_zero_int (htype : d.fieldType = .intType) : ¬ BordersEnforced x calls name 0 0 := by
  intro h
  have hr : d.regex = [] := by
    by_contra hr
    rw [((FieldMaps.wellFormed_ofCalls calls).input name d hd).regex hr] at htype
    cases htype
  have hw := within_of_enforced_zero hd hlo hhi h (.value (.int 5)) (by rw [htype]; rfl)
    (by simp [checkRegex, hr]) (by simp [DataItem.Representable])
  exact absurd (hw 5 rfl).2 (by decide)

/-- For a string they take a regex that keeps out all but the empty one. -/
theorem regex_of_enforced_zero (htype : d.fieldType = .stringType) (h : BordersEnforced x calls name 0 0) :
    d.regex ≠ [] ∧ ∀ s : Str, s ≠ [] → s.length < 2 ^ 63 → matchesRegex x d.regex s ≠ some true := by
  have hempty : ∀ s : Str, s.length < 2 ^ 63 → checkRegex x name d (.value (.string s)) = .passed → s = [] := by
    intro s hlen hr
    have hw := within_of_enforced_zero hd hlo hhi h (.value (.string s)) (by rw [htype]; rfl) hr
      (by simpa [DataItem.Representable] using hlen)
    have hle := (hw s.length rfl).2
    rw [Int64.toInt_zero] at hle
    exact List.length_eq_zero_iff.mp (by omega)
  constructor
  · intro hr
    exact absurd (hempty [0] (by decide) (by simp [checkRegex, hr])) (by simp)
  · intro s hs hlen hmatch
    exact hs (hempty s hlen (by simp [checkRegex, DataItem.toValue, x.getString_string, hmatch]))

end

/-- **When a border is enforced**: exactly if it is not a pair of zeros, which the check takes for a
border that is not set. -/
theorem bordersEnforced_iff (x : Libs) (calls : List FieldCall) (name : Str) (lo hi : Int64)
    (h : LastBorder calls name lo hi) : BordersEnforced x calls name lo hi ↔ BordersCount x calls name lo hi := by
  obtain ⟨d, hd, hdlo, hdhi, htype⟩ := entry_of_lastBorder h
  by_cases hzero : lo ≠ 0 ∨ hi ≠ 0
  · refine iff_of_true ?_ (.inl hzero)
    subst hdlo hdhi
    exact bordersEnforced_of_ne_zero hd hzero
  · obtain ⟨rfl, rfl⟩ : lo = 0 ∧ hi = 0 := by simpa using hzero
    constructor
    · intro henforced
      rcases htype with htype | htype
      · exact .inr ⟨d, hd, htype, regex_of_enforced_zero hd hdlo hdhi htype henforced⟩
      · exact absurd henforced (not_enforced_zero_int hd hdlo hdhi htype)
    · intro hcount
      obtain ⟨d', hd', hstring, hr, hnone⟩ := hcount.resolve_left hzero
      obtain rfl := Option.some_inj.mp (hd.symm.trans hd')
      exact bordersEnforced_of_regex hd hdlo hdhi hstring hr hnone

/-- An age with borders. -/
def ageCalls (lo hi : Int64) : List FieldCall :=
  [.registerInputField (str "age") .intType true [], .addFieldBorder (str "age") lo hi]

theorem lastBorder_ageCalls (lo hi : Int64) : LastBorder (ageCalls lo hi) (str "age") lo hi :=
  ⟨[.registerInputField (str "age") .intType true []], [], rfl, rfl, by simp⟩

theorem bordersEnforced_iff_age :
    BordersEnforced literalLibs (ageCalls 18 99) (str "age") 18 99 ↔
      BordersCount literalLibs (ageCalls 18 99) (str "age") 18 99 :=
  bordersEnforced_iff literalLibs (ageCalls 18 99) (str "age") 18 99 (lastBorder_ageCalls 18 99)

/-- Two zeros are accepted as borders, and a 5 passes. -/
theorem not_bordersEnforced_zero :
    LastBorder (ageCalls 0 0) (str "age") 0 0 ∧ ¬ BordersEnforced literalLibs (ageCalls 0 0) (str "age") 0 0 := by
  refine ⟨lastBorder_ageCalls 0 0, fun h => ?_⟩
  have hw := h.accepted (DataMap.empty.insert (str "age") (some (.value (.int 5))) true) (.value (.int 5)) rfl rfl
    (by simp [DataItem.Representable])
  exact absurd (hw 5 rfl).2 (by decide)

end HanamiNetwork
