import HanamiNetwork.Basis.Run
import HanamiNetwork.Blossoms.Fields

/-!
# Maps of value items

`ValueItemMap` (`value_item_map.cpp`): one keyed map to its users, and two maps inside, one
for values and one for child maps. `contains` looks into both; each overload of `insert`
looks into the one it writes to, and `remove` stops at the first that has the key.

`MapCall.onOneMap` is what a call does to one map. A run of calls is a run of one map, and
no key is ever in both maps, exactly if each insertion is made under a key that the other map
does not have (`oneMap_iff`).

A child map is stored by its address; no function here follows it.
-/

namespace HanamiNetwork

open HanamiNetwork.Basis

/-- `ValueItem::ValueType`. -/
inductive ValueType where
  /-- `UNDEFINED_PAIR_TYPE`. -/
  | undefinedPairType
  /-- `INPUT_PAIR_TYPE`. -/
  | inputPairType
  /-- `OUTPUT_PAIR_TYPE`. -/
  | outputPairType
  /-- `COMPARE_EQUAL_PAIR_TYPE`. -/
  | compareEqualPairType
  /-- `COMPARE_UNEQUAL_PAIR_TYPE`. -/
  | compareUnequalPairType
  deriving DecidableEq

mutual

/-- `FunctionItem`. -/
structure FunctionItem where
  /-- `type`. -/
  type : Str
  /-- `arguments`. -/
  arguments : List ValueItem

/-- `ValueItem`, with the defaults of the source. -/
structure ValueItem where
  /-- `item`. -/
  item : Option DataItem := none
  /-- `type`. -/
  type : ValueType := .inputPairType
  /-- `isIdentifier`. -/
  isIdentifier : Bool := false
  /-- `comment`. -/
  comment : Str := []
  /-- `fieldType`. -/
  fieldType : FieldType := .undefinedType
  /-- `functions`. -/
  functions : List FunctionItem := []

end

/-- A `ValueItemMap` object, by its address. -/
abbrev ValueItemMapId := ℕ

/-- `ValueItemMap`. -/
@[ext]
structure ValueItemMap where
  /-- `m_valueMap`. -/
  valueMap : StdMap ValueItem
  /-- `m_childMaps`. -/
  childMaps : StdMap ValueItemMapId

/-- An insertion into one of the two maps. -/
def insertEntry {α : Type} (entries : StdMap α) (key : Str) (value : α) (force : Bool) : Bool × StdMap α :=
  if entries.contains key && !force then (false, entries) else (true, entries.insert key value)

namespace ValueItemMap

/-- A new map. -/
def empty : ValueItemMap := ⟨∅, ∅⟩

/-- `insert` of a value-item. -/
def insertValue (m : ValueItemMap) (key : Str) (value : ValueItem) (force : Bool) : Bool × ValueItemMap :=
  let (ret, valueMap) := insertEntry m.valueMap key value force
  (ret, { m with valueMap := valueMap })

/-- `insert` of a data-item, which is copied into a new value-item. -/
def insertItem (m : ValueItemMap) (key : Str) (value : DataItem) (force : Bool) : Bool × ValueItemMap :=
  m.insertValue key { item := some value } force

/-- `insert` of a child map. -/
def insertChild (m : ValueItemMap) (key : Str) (value : ValueItemMapId) (force : Bool) : Bool × ValueItemMap :=
  let (ret, childMaps) := insertEntry m.childMaps key value force
  (ret, { m with childMaps := childMaps })

/-- `contains`. -/
def contains (m : ValueItemMap) (key : Str) : Bool :=
  if m.valueMap.contains key then true else m.childMaps.contains key

/-- `remove`. -/
def remove (m : ValueItemMap) (key : Str) : Bool × ValueItemMap :=
  if m.valueMap.contains key then (true, { m with valueMap := m.valueMap.erase key })
  else if m.childMaps.contains key then (true, { m with childMaps := m.childMaps.erase key })
  else (false, m)

end ValueItemMap

/-- A call of `insert` or `remove`. The data-item that is inserted is not null. -/
inductive MapCall where
  /-- `insert` of a data-item. -/
  | insertItem (key : Str) (value : DataItem) (force : Bool)
  /-- `insert` of a value-item. -/
  | insertValue (key : Str) (value : ValueItem) (force : Bool)
  /-- `insert` of a child map. -/
  | insertChild (key : Str) (value : ValueItemMapId) (force : Bool)
  /-- `remove`. -/
  | remove (key : Str)

namespace MapCall

/-- What a call returns, and the map after it. -/
def apply : MapCall → ValueItemMap → Bool × ValueItemMap
  | insertItem key value force, m => m.insertItem key value force
  | insertValue key value force, m => m.insertValue key value force
  | insertChild key value force, m => m.insertChild key value force
  | remove key, m => m.remove key

/-- The key of a call. -/
def key : MapCall → Str
  | insertItem key _ _ => key
  | insertValue key _ _ => key
  | insertChild key _ _ => key
  | remove key => key

/-- Whether an insertion overrides. -/
def force : MapCall → Bool
  | insertItem _ _ force => force
  | insertValue _ _ force => force
  | insertChild _ _ force => force
  | remove _ => false

end MapCall

/-- The map after a call. -/
def ValueItemMap.step (m : ValueItemMap) (call : MapCall) : ValueItemMap := (call.apply m).2

/-! ### One map -/

/-- An entry of one map. -/
inductive Entry where
  /-- A value. -/
  | value (item : ValueItem)
  /-- A child map. -/
  | child (map : ValueItemMapId)

/-- The entry a call inserts. -/
def MapCall.entry : MapCall → Option Entry
  | insertItem _ value _ => some (.value { item := some value })
  | insertValue _ value _ => some (.value value)
  | insertChild _ value _ => some (.child value)
  | remove _ => none

/-- What a call does to one map. -/
def MapCall.onOneMap (call : MapCall) (entries : Str → Option Entry) : Bool × (Str → Option Entry) :=
  match call.entry with
  | some entry =>
    if (entries call.key).isSome && !call.force then (false, entries)
    else (true, Function.update entries call.key (some entry))
  | none => ((entries call.key).isSome, Function.update entries call.key none)

/-- Two maps have no key in common. -/
def KeysApart {α β : Type} (a : StdMap α) (b : StdMap β) : Prop := ∀ key : Str, a[key]? = none ∨ b[key]? = none

namespace ValueItemMap

/-- All entries under a key. -/
def entries (m : ValueItemMap) (key : Str) : List Entry :=
  (m.valueMap[key]?.map Entry.value).toList ++ (m.childMaps[key]?.map Entry.child).toList

/-- The two maps, seen as one: the first entry under each key. -/
def asOneMap (m : ValueItemMap) (key : Str) : Option Entry := (m.entries key).head?

/-- No key is in both maps. -/
def Apart (m : ValueItemMap) : Prop := KeysApart m.valueMap m.childMaps

/-- What the documentation says of a call. -/
def Lawful (m : ValueItemMap) (call : MapCall) : Prop :=
  match call.entry with
  | some entry =>
    (call.force = false → ((call.apply m).1 = true ↔ m.contains call.key = false) ∧
      ((call.apply m).1 = false → (call.apply m).2 = m)) ∧
    (call.force = true → (call.apply m).2.entries call.key = [entry])
  | none => (call.apply m).1 = m.contains call.key ∧ (call.apply m).2.contains call.key = false

/-- A call returns what it returns for one map, and does what it does to one map. -/
def Refines (m : ValueItemMap) (call : MapCall) : Prop :=
  ((call.apply m).1, (call.apply m).2.asOneMap) = call.onOneMap m.asOneMap

/-- An insertion is made under a key that the other map does not have. -/
def OtherFree (m : ValueItemMap) : MapCall → Prop
  | .insertItem key _ _ => m.childMaps[key]? = none
  | .insertValue key _ _ => m.childMaps[key]? = none
  | .insertChild key _ _ => m.valueMap[key]? = none
  | .remove _ => True

end ValueItemMap

/-- The map behaves as one over a run of calls. -/
structure OneMap (calls : List MapCall) : Prop where
  /-- No key is ever in both maps. -/
  apart : Throughout ValueItemMap.step ValueItemMap.Apart .empty calls
  /-- Every call does what is said of it. -/
  lawful : Along ValueItemMap.step ValueItemMap.Lawful .empty calls
  /-- The run is one of one map. -/
  refines : Along ValueItemMap.step ValueItemMap.Refines .empty calls

/-! ### Keeping the maps apart -/

theorem KeysApart.symm {α β : Type} {a : StdMap α} {b : StdMap β} (h : KeysApart a b) : KeysApart b a :=
  fun key => (h key).symm

theorem KeysApart.erase {α β : Type} {a : StdMap α} {b : StdMap β} (h : KeysApart a b) (key : Str) :
    KeysApart (a.erase key) b := by
  intro key'
  refine (h key').imp_left fun hn => ?_
  rw [Std.ExtTreeMap.getElem?_erase, hn, ite_self]

/-- An insertion keeps two maps apart exactly if the other map does not have the key. -/
theorem keysApart_insertEntry_iff {α β : Type} {a : StdMap α} {b : StdMap β} (h : KeysApart a b) (key : Str)
    (value : α) (force : Bool) : KeysApart (insertEntry a key value force).2 b ↔ b[key]? = none := by
  unfold insertEntry
  split_ifs with hk
  · refine iff_of_true h ((h key).resolve_left fun hn => ?_)
    rw [Std.ExtTreeMap.contains_eq_isSome_getElem?, hn] at hk
    cases hk
  · constructor
    · intro hnew
      exact (hnew key).resolve_left (by simp)
    · intro hfree key'
      by_cases hkey : key = key'
      · exact .inr (hkey ▸ hfree)
      · refine (h key').imp_left fun hn => ?_
        rw [Std.ExtTreeMap.getElem?_insert, if_neg (by simpa using hkey), hn]

namespace ValueItemMap

/-- **What one call does**: it keeps the maps apart exactly if it inserts under a free key. -/
theorem apart_step_iff {m : ValueItemMap} (h : m.Apart) (call : MapCall) :
    (m.step call).Apart ↔ m.OtherFree call := by
  cases call with
  | insertItem key value force => exact keysApart_insertEntry_iff h key _ force
  | insertValue key value force => exact keysApart_insertEntry_iff h key value force
  | insertChild key value force =>
    refine Iff.trans ⟨KeysApart.symm, KeysApart.symm⟩ (keysApart_insertEntry_iff h.symm key value force)
  | remove key =>
    refine iff_of_true ?_ trivial
    show (m.remove key).2.Apart
    unfold remove
    split_ifs
    · exact KeysApart.erase h key
    · exact (KeysApart.erase h.symm key).symm
    · exact h

/-! ### The maps as one -/

theorem asOneMap_eq (m : ValueItemMap) (key : Str) :
    m.asOneMap key = (m.valueMap[key]?.map Entry.value).or (m.childMaps[key]?.map Entry.child) := by
  unfold asOneMap entries
  cases m.valueMap[key]? <;> cases m.childMaps[key]? <;> rfl

theorem contains_eq (m : ValueItemMap) (key : Str) : m.contains key = (m.asOneMap key).isSome := by
  rw [asOneMap_eq, contains, Option.isSome_or, Option.isSome_map, Option.isSome_map,
    Std.ExtTreeMap.contains_eq_isSome_getElem?, Std.ExtTreeMap.contains_eq_isSome_getElem?]
  cases m.valueMap[key]? <;> rfl

/-- Where the maps are apart, the entry of a key is its only one. -/
theorem entries_of_apart {m : ValueItemMap} (h : m.Apart) {key : Str} {entry : Entry}
    (he : m.asOneMap key = some entry) : m.entries key = [entry] := by
  unfold asOneMap entries at *
  rcases h key with hn | hn <;> rw [hn] at he ⊢
  · cases hc : m.childMaps[key]? <;> simp_all
  · cases hv : m.valueMap[key]? <;> simp_all

theorem asOneMap_insert_value (m : ValueItemMap) (key : Str) (value : ValueItem) :
    asOneMap ⟨m.valueMap.insert key value, m.childMaps⟩ = Function.update m.asOneMap key (some (.value value)) := by
  funext key'
  rw [Function.update_apply, asOneMap_eq, asOneMap_eq, Std.ExtTreeMap.getElem?_insert]
  by_cases hkey : key' = key
  · simp [hkey]
  · simp [hkey, Ne.symm hkey]

theorem asOneMap_insert_child {m : ValueItemMap} {key : Str} (hfree : m.valueMap[key]? = none)
    (value : ValueItemMapId) :
    asOneMap ⟨m.valueMap, m.childMaps.insert key value⟩ = Function.update m.asOneMap key (some (.child value)) := by
  funext key'
  rw [Function.update_apply, asOneMap_eq, asOneMap_eq, Std.ExtTreeMap.getElem?_insert]
  by_cases hkey : key' = key
  · simp [hkey, hfree]
  · simp [hkey, Ne.symm hkey]

theorem asOneMap_erase_value {m : ValueItemMap} {key : Str} (hfree : m.childMaps[key]? = none) :
    asOneMap ⟨m.valueMap.erase key, m.childMaps⟩ = Function.update m.asOneMap key none := by
  funext key'
  rw [Function.update_apply, asOneMap_eq, asOneMap_eq, Std.ExtTreeMap.getElem?_erase]
  by_cases hkey : key' = key
  · simp [hkey, hfree]
  · simp [hkey, Ne.symm hkey]

theorem asOneMap_erase_child {m : ValueItemMap} {key : Str} (hfree : m.valueMap[key]? = none) :
    asOneMap ⟨m.valueMap, m.childMaps.erase key⟩ = Function.update m.asOneMap key none := by
  funext key'
  rw [Function.update_apply, asOneMap_eq, asOneMap_eq, Std.ExtTreeMap.getElem?_erase]
  by_cases hkey : key' = key
  · simp [hkey, hfree]
  · simp [hkey, Ne.symm hkey]

theorem refines_insertValue {m : ValueItemMap} {key : Str} (hfree : m.childMaps[key]? = none) (value : ValueItem)
    (force : Bool) : m.Refines (.insertValue key value force) := by
  have hc : (m.asOneMap key).isSome = m.valueMap.contains key := by
    rw [asOneMap_eq, hfree, Option.map_none, Option.or_none, Option.isSome_map,
      Std.ExtTreeMap.contains_eq_isSome_getElem?]
  simp only [Refines, MapCall.apply, insertValue, insertEntry, MapCall.onOneMap, MapCall.entry, MapCall.key,
    MapCall.force, hc]
  split_ifs
  · rfl
  · exact congrArg (Prod.mk true) (m.asOneMap_insert_value key value)

theorem refines_insertChild {m : ValueItemMap} {key : Str} (hfree : m.valueMap[key]? = none)
    (value : ValueItemMapId) (force : Bool) : m.Refines (.insertChild key value force) := by
  have hc : (m.asOneMap key).isSome = m.childMaps.contains key := by
    rw [asOneMap_eq, hfree, Option.map_none, Option.none_or, Option.isSome_map,
      Std.ExtTreeMap.contains_eq_isSome_getElem?]
  simp only [Refines, MapCall.apply, insertChild, insertEntry, MapCall.onOneMap, MapCall.entry, MapCall.key,
    MapCall.force, hc]
  split_ifs
  · rfl
  · exact congrArg (Prod.mk true) (asOneMap_insert_child hfree value)

theorem refines_remove {m : ValueItemMap} (h : m.Apart) (key : Str) : m.Refines (.remove key) := by
  have hone := m.asOneMap_eq key
  simp only [Refines, MapCall.apply, remove, MapCall.onOneMap, MapCall.entry, MapCall.key,
    Std.ExtTreeMap.contains_eq_isSome_getElem?]
  cases hv : m.valueMap[key]? with
  | some value =>
    have hfree := (h key).resolve_left (by simp [hv])
    rw [if_pos Option.isSome_some, hone, hv]
    exact congrArg (Prod.mk true) (asOneMap_erase_value hfree)
  | none =>
    rw [if_neg (by simp)]
    cases hc : m.childMaps[key]? with
    | some value =>
      rw [if_pos Option.isSome_some, hone, hv, hc]
      exact congrArg (Prod.mk true) (asOneMap_erase_child hv)
    | none =>
      rw [hv, hc] at hone
      rw [hone, if_neg (by simp)]
      exact congrArg (Prod.mk false) (Function.update_eq_self_iff.mpr hone.symm).symm

theorem refines_of_otherFree {m : ValueItemMap} (h : m.Apart) {call : MapCall} (hfree : m.OtherFree call) :
    m.Refines call := by
  cases call with
  | insertItem key value force => exact refines_insertValue hfree _ force
  | insertValue key value force => exact refines_insertValue hfree value force
  | insertChild key value force => exact refines_insertChild hfree value force
  | remove key => exact refines_remove h key

theorem apply_refused {m : ValueItemMap} {call : MapCall} (h : (call.apply m).1 = false) : (call.apply m).2 = m := by
  have hinsert : ∀ {α : Type} (entries : StdMap α) (key : Str) (value : α) (force : Bool),
      (insertEntry entries key value force).1 = false → (insertEntry entries key value force).2 = entries := by
    intro α entries key value force h
    unfold insertEntry at h ⊢
    split_ifs at h ⊢
    rfl
  cases call with
  | insertItem key value force => exact congrArg (ValueItemMap.mk · m.childMaps) (hinsert _ _ _ _ h)
  | insertValue key value force => exact congrArg (ValueItemMap.mk · m.childMaps) (hinsert _ _ _ _ h)
  | insertChild key value force => exact congrArg (ValueItemMap.mk m.valueMap) (hinsert _ _ _ _ h)
  | remove key =>
    change (m.remove key).1 = false at h
    show (m.remove key).2 = m
    unfold remove at h ⊢
    split_ifs at h ⊢
    rfl

/-- A call of one map that leaves the maps apart does what is said of it. -/
theorem lawful_of_refines {m : ValueItemMap} {call : MapCall} (hr : m.Refines call) (h : (m.step call).Apart) :
    m.Lawful call := by
  unfold Lawful
  unfold Refines at hr
  cases he : call.entry with
  | none =>
    simp only [MapCall.onOneMap, he, Prod.mk.injEq] at hr
    simp only [contains_eq]
    exact ⟨hr.1, by rw [hr.2, Function.update_self, Option.isSome_none]⟩
  | some entry =>
    simp only [MapCall.onOneMap, he] at hr
    refine ⟨fun hforce => ⟨?_, apply_refused⟩, fun hforce => entries_of_apart h ?_⟩
    · rw [hforce, Bool.not_false, Bool.and_true] at hr
      rw [contains_eq]
      have hret := congrArg Prod.fst hr
      cases hs : (m.asOneMap call.key).isSome <;> rw [hs] at hret <;> simp at hret <;> simp [hret]
    · rw [hforce, Bool.not_true, Bool.and_false, if_neg Bool.false_ne_true] at hr
      have hmap : (call.apply m).2.asOneMap = Function.update m.asOneMap call.key (some entry) :=
        congrArg Prod.snd hr
      show (call.apply m).2.asOneMap call.key = some entry
      rw [hmap, Function.update_self]

end ValueItemMap

/-- **When the map behaves as one**: exactly if every insertion of the run is made under a key that the
other map does not have. -/
theorem oneMap_iff (calls : List MapCall) :
    OneMap calls ↔ Along ValueItemMap.step ValueItemMap.OtherFree .empty calls := by
  have hempty : ValueItemMap.empty.Apart := fun key => .inl (by simp [ValueItemMap.empty])
  have hiff : Throughout ValueItemMap.step ValueItemMap.Apart .empty calls ↔
      Along ValueItemMap.step ValueItemMap.OtherFree .empty calls :=
    throughout_iff_along (I := ValueItemMap.Apart) (C := ValueItemMap.OtherFree)
      (fun _ call h _ => ValueItemMap.apart_step_iff h call) hempty (Along.of_forall (fun _ _ => trivial) _ _)
  refine ⟨fun h => hiff.mp h.apart, fun hfree => ?_⟩
  have hapart := hiff.mpr hfree
  -- in every state of the run the maps are apart, and the key of the next call is free
  have hboth : Along ValueItemMap.step (fun m call => m.Apart ∧ m.OtherFree call) .empty calls :=
    along_and.mpr ⟨hapart.along fun _ _ h => h, hfree⟩
  refine ⟨hapart, hboth.mono fun m call h => ?_, hboth.mono fun m call h => ?_⟩
  · exact ValueItemMap.lawful_of_refines (ValueItemMap.refines_of_otherFree h.1 h.2)
      ((ValueItemMap.apart_step_iff h.1 call).mpr h.2)
  · exact ValueItemMap.refines_of_otherFree h.1 h.2

/-- A value and a child map are inserted under one key: the second insertion returns true although the key
is there, and a removal leaves it there. -/
theorem not_oneMap_value_and_child :
    ¬ OneMap [.insertItem (str "name") (.value (.int 5)) false, .insertChild (str "name") 1 false,
      .remove (str "name")] := by
  intro h
  have hremove := h.lawful.2.2.1
  exact absurd hremove.2 (by decide)

end HanamiNetwork
