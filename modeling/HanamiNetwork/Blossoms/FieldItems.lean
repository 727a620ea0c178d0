import HanamiNetwork.Basis.Ledger
import HanamiNetwork.Basis.OwnedTree
import HanamiNetwork.Blossoms.Fields

/-!
# The items of the fields

A field holds its match value and its default by their addresses. `addFieldMatch` and
`addFieldDefault` take an item over, and delete the one that was there (`blossom.cpp`); a
call that is refused leaves the item to its caller. Here are the validation maps in memory, with
the six calls on them.

* `keepsItems_iff` — each field holds an item that is there and is held by no other field,
  throughout a run, exactly if no item is handed over twice.
* `read_run` — then the maps read as the maps of values in `Fields.lean`, and an item that was
  handed over is held or deleted, once.

The destructor of a blossom deletes none of them.
-/

namespace HanamiNetwork

open HanamiNetwork.Basis

/-- A `DataItem` object, by its address. -/
abbrev DataItemId := ℕ

/-- The `DataItem` objects. -/
abbrev ItemHeap := ObjectHeap DataItem

/-- `FieldDef`, with the addresses of its items. -/
abbrev FieldObject := FieldDef DataItemId

/-- The two validation maps of a blossom in memory. -/
abbrev FieldObjects := FieldMaps DataItemId

/-- One of the six calls, with the address of its item. -/
abbrev FieldObjectCall := FieldCall DataItemId

/-- The old entry that a change of a field deletes: there is one if the change is allowed, and replaces an item. -/
def oldEntry (defs : StdMap FieldObject) (name : Str) (allowed : FieldObject → Bool)
    (old : FieldObject → Option DataItemId) : List DataItemId :=
  ((defs[name]?.filter allowed).bind old).toList

theorem oldEntry_of_none (defs : StdMap FieldObject) (name : Str) (allowed : FieldObject → Bool) :
    oldEntry defs name allowed (fun _ => none) = [] := by
  simp [oldEntry]

/-- The items a call deletes. -/
def FieldMaps.drops (m : FieldObjects) : FieldObjectCall → List DataItemId
  | .addFieldMatch name _ => oldEntry m.outputValidationMap name (fun _ => true) FieldDef.match
  | .addFieldDefault name _ => oldEntry m.inputValidationMap name (fun d => !d.isRequired) FieldDef.defaultVal
  | _ => []

/-- The maps after a call. -/
def FieldMaps.step (m : FieldObjects) (call : FieldObjectCall) : FieldObjects := (call.apply m).2

/-- `delete` of one item after the other; it is undefined for an item that is not there. -/
def deleteItems : ItemHeap → List DataItemId → Option ItemHeap
  | h, [] => some h
  | h, a :: as => if (h.cells a).isSome then deleteItems (h.free [a]) as else none

/-- The maps of a blossom and the items in memory. -/
structure FieldMemory where
  /-- The maps. -/
  maps : FieldObjects
  /-- The items. -/
  items : ItemHeap

/-- A call in memory. -/
def FieldMemory.step (s : Option FieldMemory) (call : FieldObjectCall) : Option FieldMemory := do
  let s ← s
  let items ← deleteItems s.items (s.maps.drops call)
  return ⟨s.maps.step call, items⟩

/-! ### What is held -/

/-- The items a field holds. -/
def FieldDef.items (d : FieldObject) : List DataItemId := d.match.toList ++ d.defaultVal.toList

/-- The items the fields of a map hold. -/
def heldBy (defs : StdMap FieldObject) : List DataItemId := defs.toList.flatMap fun e => e.2.items

/-- The items all fields hold. -/
def FieldMaps.held (m : FieldObjects) : List DataItemId :=
  heldBy m.inputValidationMap ++ heldBy m.outputValidationMap

/-- The item of a call. -/
def FieldCall.item : FieldObjectCall → Option DataItemId
  | addFieldMatch _ «match» => «match»
  | addFieldDefault _ defaultValue => defaultValue
  | _ => none

/-- The item a call hands over: that of a call that returns true. -/
def FieldMaps.gives (m : FieldObjects) (call : FieldObjectCall) : List DataItemId :=
  if (call.apply m).1 then call.item.toList else []

theorem heldBy_insert_of_none {defs : StdMap FieldObject} {name : Str} (h : defs[name]? = none) (d : FieldObject) :
    (heldBy (defs.insert name d)).Perm (heldBy defs ++ d.items) := by
  have hperm := (perm_toList_insert defs name d).flatMap_right fun e => e.2.items
  simpa [entryOf, h, heldBy] using hperm

theorem heldBy_insert_of_some {defs : StdMap FieldObject} {name : Str} {d : FieldObject} (h : defs[name]? = some d)
    (d' : FieldObject) : (heldBy (defs.insert name d') ++ d.items).Perm (heldBy defs ++ d'.items) := by
  have hperm := (perm_toList_insert defs name d').flatMap_right fun e => e.2.items
  simpa [entryOf, h, heldBy] using hperm

theorem heldBy_registerField (defs : StdMap FieldObject) (name : Str) {d : FieldObject} (h : d.items = []) :
    (heldBy (registerField defs name d).2).Perm (heldBy defs) := by
  unfold registerField
  cases hd : defs[name]? with
  | some => exact .refl _
  | none =>
    have hperm := heldBy_insert_of_none hd d
    rwa [h, List.append_nil] at hperm

/-- **A change keeps the balance**: what was held or is given is held or deleted. -/
theorem heldBy_changeField (defs : StdMap FieldObject) (name : Str) (allowed : FieldObject → Bool)
    (old : FieldObject → Option DataItemId) (change : FieldObject → FieldObject) (new : Option DataItemId)
    (h : ∀ d : FieldObject, ((change d).items ++ (old d).toList).Perm (d.items ++ new.toList)) :
    (heldBy (changeField defs name allowed change).2 ++ oldEntry defs name allowed old).Perm
      (heldBy defs ++ if (changeField defs name allowed change).1 then new.toList else []) := by
  unfold changeField oldEntry
  cases hd : defs[name]? with
  | none => exact .refl _
  | some d =>
    cases ha : allowed d with
    | false => simp [ha, Option.filter_some]
    | true =>
      simp only [ha, if_true, Option.filter_some, Option.bind_some]
      have hinsert := heldBy_insert_of_some hd (change d)
      have hbehind : (heldBy (defs.insert name (change d)) ++ (old d).toList ++ d.items).Perm
          (heldBy defs ++ new.toList ++ d.items) := by
        calc
          (heldBy (defs.insert name (change d)) ++ (old d).toList ++ d.items).Perm
              (heldBy (defs.insert name (change d)) ++ d.items ++ (old d).toList) := by
            rw [List.append_assoc, List.append_assoc]
            exact List.perm_append_comm.append_left _
          List.Perm _ (heldBy defs ++ (change d).items ++ (old d).toList) := hinsert.append_right _
          List.Perm _ (heldBy defs ++ (d.items ++ new.toList)) := by
            rw [List.append_assoc]
            exact (h d).append_left _
          List.Perm _ (heldBy defs ++ new.toList ++ d.items) := by
            rw [List.append_assoc]
            exact List.perm_append_comm.append_left _
      exact (List.perm_append_right_iff _).mp hbehind

theorem perm_append_middle {α : Type} {a a' b deleted given : List α}
    (h : (a' ++ deleted).Perm (a ++ given)) : (a' ++ b ++ deleted).Perm (a ++ b ++ given) := by
  calc
    (a' ++ b ++ deleted).Perm (a' ++ deleted ++ b) := by
      rw [List.append_assoc, List.append_assoc]
      exact List.perm_append_comm.append_left _
    List.Perm _ (a ++ given ++ b) := h.append_right _
    List.Perm _ (a ++ b ++ given) := by
      rw [List.append_assoc, List.append_assoc]
      exact List.perm_append_comm.append_left _

namespace FieldMaps

/-- **One call keeps the balance** of the items. -/
theorem balance_step (m : FieldObjects) (call : FieldObjectCall) :
    ((m.step call).held ++ m.drops call).Perm (m.held ++ m.gives call) := by
  cases call with
  | registerInputField name fieldType required comment =>
    have hnone : m.gives (.registerInputField name fieldType required comment) = [] := ite_self _
    rw [hnone, List.append_nil]
    exact (List.append_nil _).symm ▸ (heldBy_registerField m.inputValidationMap name rfl).append_right _
  | registerOutputField name fieldType comment =>
    have hnone : m.gives (.registerOutputField name fieldType comment) = [] := ite_self _
    rw [hnone, List.append_nil]
    exact (List.append_nil _).symm ▸ (heldBy_registerField m.outputValidationMap name rfl).append_left _
  | addFieldMatch name «match» =>
    have hchange := heldBy_changeField m.outputValidationMap name (fun _ => true) FieldDef.match
      (fun d => { d with «match» }) «match» fun d => by
        simp only [FieldDef.items, List.append_assoc]
        exact (List.perm_append_comm.append_left _).trans
          ((List.perm_append_comm_assoc ..).trans (List.perm_append_comm.append_left _).symm)
    show List.Perm (_ ++ _ ++ _) (_ ++ _ ++ _)
    rw [List.append_assoc, List.append_assoc]
    exact hchange.append_left _
  | addFieldDefault name defaultValue =>
    have hchange := heldBy_changeField m.inputValidationMap name (fun d => !d.isRequired)
      FieldDef.defaultVal (fun d => { d with defaultVal := defaultValue }) defaultValue fun d => by
        simp only [FieldDef.items, List.append_assoc]
        exact List.perm_append_comm.append_left _
    exact perm_append_middle hchange
  | addFieldRegex name regex =>
    have hchange := heldBy_changeField m.inputValidationMap name (fun d => d.fieldType = .stringType)
      (fun _ => none) (fun d => { d with regex }) none fun d => .refl _
    rw [oldEntry_of_none] at hchange
    exact perm_append_middle hchange
  | addFieldBorder name lowerBorder upperBorder =>
    have hchange := heldBy_changeField m.inputValidationMap name
      (fun d => d.fieldType = .stringType || d.fieldType = .intType) (fun _ => none)
      (fun d => { d with lowerBorder, upperBorder }) none fun d => .refl _
    rw [oldEntry_of_none] at hchange
    exact perm_append_middle hchange

end FieldMaps

/-! ### In memory -/

/-- Deleting is defined for items that are there, each once. -/
theorem deleteItems_eq_some_iff {h h' : ItemHeap} {as : List DataItemId} :
    deleteItems h as = some h' ↔ (as.Nodup ∧ ∀ a ∈ as, (h.cells a).isSome) ∧ h' = h.free as := by
  induction as generalizing h with
  | nil =>
    rw [deleteItems, ObjectHeap.free_nil, Option.some_inj]
    exact ⟨fun heq => ⟨⟨List.nodup_nil, nofun⟩, heq.symm⟩, fun hr => hr.2.symm⟩
  | cons a as ih =>
    have hrest : (∀ b ∈ as, ((h.free [a]).cells b).isSome) ↔ a ∉ as ∧ ∀ b ∈ as, (h.cells b).isSome := by
      simp only [ObjectHeap.cells_free, List.mem_singleton]
      constructor
      · intro hall
        refine ⟨fun ha => by simpa using hall a ha, fun b hb => ?_⟩
        have hb' := hall b hb
        split_ifs at hb'
        · cases hb'
        · exact hb'
      · rintro ⟨ha, hall⟩ b hb
        have hne : b ≠ a := fun heq => ha (heq ▸ hb)
        rw [if_neg hne]
        exact hall b hb
    have hfree : h.free (a :: as) = (h.free [a]).free as := h.free_append [a] as
    rw [deleteItems, hfree]
    split_ifs with ha
    · rw [ih, hrest, List.nodup_cons, List.forall_mem_cons]
      tauto
    · refine iff_of_false nofun fun hr => ha (hr.1.2 a List.mem_cons_self)

/-- Each field holds an item that is there, and no other field holds it. -/
structure FieldMemory.Keeps (s : FieldMemory) : Prop where
  /-- It is there. -/
  there : ∀ a ∈ s.maps.held, (s.items.cells a).isSome
  /-- No other holds it. -/
  own : s.maps.held.Nodup

/-- The items a run of calls on new maps hands over. -/
def FieldMaps.given (calls : List FieldObjectCall) : List DataItemId := total step gives .empty calls

/-- The items it deletes. -/
def FieldMaps.deleted (calls : List FieldObjectCall) : List DataItemId := total step drops .empty calls

namespace FieldMemory

/-- **What one call does in memory.** -/
theorem step_eq_some_iff {s s' : FieldMemory} {call : FieldObjectCall} : step (some s) call = some s' ↔
    ((s.maps.drops call).Nodup ∧ ∀ a ∈ s.maps.drops call, (s.items.cells a).isSome) ∧
      s' = ⟨s.maps.step call, s.items.free (s.maps.drops call)⟩ := by
  obtain ⟨maps', items'⟩ := s'
  have hdelete : step (some s) call = (deleteItems s.items (s.maps.drops call)).map fun items =>
      ⟨s.maps.step call, items⟩ := by
    simp only [step, Option.bind_eq_bind, Option.bind_some, Option.map_eq_bind]
    rfl
  rw [hdelete, Option.map_eq_some_iff]
  constructor
  · rintro ⟨items, hd, heq⟩
    obtain ⟨hok, rfl⟩ := deleteItems_eq_some_iff.mp hd
    exact ⟨hok, heq.symm⟩
  · rintro ⟨hok, heq⟩
    exact ⟨_, deleteItems_eq_some_iff.mpr ⟨hok, rfl⟩, heq.symm⟩

/-- The state is defined and keeps its items. -/
def Sound (s : Option FieldMemory) : Prop := ∃ memory, s = some memory ∧ memory.Keeps

/-- A run from maps that keep their items, where the items that are gone are not there. -/
theorem sound_iff {s : FieldMemory} (hs : s.Keeps) {gone : List DataItemId}
    (hgone : ∀ a ∈ gone, s.items.cells a = none) (hnodup : gone.Nodup) {calls : List FieldObjectCall}
    (hgiven : ∀ a ∈ total FieldMaps.step FieldMaps.gives s.maps calls, a ∈ gone ∨ (s.items.cells a).isSome) :
    Throughout step Sound (some s) calls ↔
      (s.maps.held ++ gone ++ total FieldMaps.step FieldMaps.gives s.maps calls).Nodup := by
  induction calls generalizing s gone with
  | nil =>
    refine iff_of_true ⟨s, rfl, hs⟩ ?_
    rw [total, List.append_nil]
    refine hs.own.append hnodup fun a ha hmem => ?_
    have hthere := hs.there a ha
    rw [hgone a hmem] at hthere
    cases hthere
  | cons call calls ih =>
    set rest := total FieldMaps.step FieldMaps.gives (s.maps.step call) calls with hrest
    have htotal : total FieldMaps.step FieldMaps.gives s.maps (call :: calls) = s.maps.gives call ++ rest := rfl
    have hperm : ((s.maps.step call).held ++ (gone ++ s.maps.drops call) ++ rest).Perm
        (s.maps.held ++ gone ++ (s.maps.gives call ++ rest)) := by
      rw [← List.append_assoc, ← List.append_assoc]
      exact (perm_append_middle (s.maps.balance_step call)).append_right rest
    -- what follows the call, if it is defined and leaves each field its item
    have hnext : ((s.maps.drops call).Nodup ∧ ∀ a ∈ s.maps.drops call, (s.items.cells a).isSome) →
        (⟨s.maps.step call, s.items.free (s.maps.drops call)⟩ : FieldMemory).Keeps →
        (Throughout step Sound (some ⟨s.maps.step call, s.items.free (s.maps.drops call)⟩) calls ↔
          (s.maps.held ++ gone ++ (s.maps.gives call ++ rest)).Nodup) := by
      rintro ⟨hd, hlive⟩ hk
      rw [← hperm.nodup_iff]
      refine ih hk (fun a ha => ?_) (hnodup.append hd fun a ha hmem => ?_) fun a ha => ?_
      · rw [ObjectHeap.cells_free]
        split_ifs with hmem
        · rfl
        · exact hgone a ((List.mem_append.mp ha).resolve_right hmem)
      · have hthere := hlive a hmem
        rw [hgone a ha] at hthere
        cases hthere
      · rcases hgiven a (List.mem_append_right _ ha) with hmem | hthere
        · exact .inl (List.mem_append_left _ hmem)
        · by_cases hmem : a ∈ s.maps.drops call
          · exact .inl (List.mem_append_right _ hmem)
          · rw [ObjectHeap.cells_free, if_neg hmem]
            exact .inr hthere
    rw [htotal]
    constructor
    · rintro ⟨-, ht⟩
      obtain ⟨s', hs', hk⟩ := ht.start
      obtain ⟨hok, rfl⟩ := step_eq_some_iff.mp hs'
      rw [hs'] at ht
      exact (hnext hok hk).mp ht
    · intro hn
      have hthere : ∀ a ∈ s.maps.held ++ s.maps.gives call, (s.items.cells a).isSome := by
        intro a ha
        rcases List.mem_append.mp ha with ha | ha
        · exact hs.there a ha
        · refine (hgiven a (List.mem_append_left _ ha)).resolve_left fun hmem => ?_
          exact (List.nodup_append.mp hn).2.2 a (List.mem_append_right _ hmem) a (List.mem_append_left _ ha) rfl
      have hafter := hperm.nodup_iff.mpr hn
      rw [List.append_assoc, List.append_assoc] at hafter
      obtain ⟨hheld, hbehind, hapart⟩ := List.nodup_append.mp hafter
      have hdrops := (List.nodup_append.mp (List.nodup_append.mp hbehind).2.1).1
      have hmem : ∀ a, a ∈ (s.maps.step call).held ++ s.maps.drops call → (s.items.cells a).isSome := fun a ha =>
        hthere a ((s.maps.balance_step call).mem_iff.mp ha)
      have hok : (s.maps.drops call).Nodup ∧ ∀ a ∈ s.maps.drops call, (s.items.cells a).isSome :=
        ⟨hdrops, fun a ha => hmem a (List.mem_append_right _ ha)⟩
      have hk : (⟨s.maps.step call, s.items.free (s.maps.drops call)⟩ : FieldMemory).Keeps := by
        refine ⟨fun a ha => ?_, hheld⟩
        have hnot : a ∉ s.maps.drops call := fun hd =>
          hapart a ha a (List.mem_append_right _ (List.mem_append_left _ hd)) rfl
        rw [ObjectHeap.cells_free, if_neg hnot]
        exact hmem a (List.mem_append_left _ ha)
      refine ⟨⟨s, rfl, hs⟩, ?_⟩
      rw [step_eq_some_iff.mpr ⟨hok, rfl⟩]
      exact (hnext hok hk).mpr hn

/-- Where the fields keep their items, the run deletes what the calls delete. -/
theorem foldl_of_sound {s : FieldMemory} {calls : List FieldObjectCall} (h : Throughout step Sound (some s) calls) :
    calls.foldl step (some s) = some ⟨calls.foldl FieldMaps.step s.maps,
      s.items.free (total FieldMaps.step FieldMaps.drops s.maps calls)⟩ := by
  induction calls generalizing s with
  | nil => rw [total, ObjectHeap.free_nil, List.foldl_nil, List.foldl_nil]
  | cons call calls ih =>
    obtain ⟨-, ht⟩ := h
    obtain ⟨s', hs', -⟩ := ht.start
    obtain ⟨-, rfl⟩ := step_eq_some_iff.mp hs'
    rw [hs'] at ht
    rw [List.foldl_cons, hs', ih ht, List.foldl_cons, total, ObjectHeap.free_append]

end FieldMemory

theorem FieldMaps.held_empty : empty.held = [] := by decide

theorem FieldMemory.keeps_empty (h : ItemHeap) : (⟨.empty, h⟩ : FieldMemory).Keeps := by
  constructor <;> rw [FieldMaps.held_empty]
  · nofun
  · exact List.nodup_nil

/-- **When each field keeps its item**: exactly if no item is handed over twice. -/
theorem keepsItems_iff {h : ItemHeap} {calls : List FieldObjectCall}
    (hthere : ∀ a ∈ FieldMaps.given calls, (h.cells a).isSome) :
    Throughout FieldMemory.step FieldMemory.Sound (some ⟨.empty, h⟩) calls ↔ (FieldMaps.given calls).Nodup := by
  have hiff := FieldMemory.sound_iff (FieldMemory.keeps_empty h) (List.forall_mem_nil _) List.nodup_nil
    fun a ha => .inr (hthere a ha)
  rwa [FieldMaps.held_empty] at hiff

/-! ### As values -/

/-- A field with the values of its items. -/
def FieldDef.read (h : ItemHeap) (d : FieldObject) : FieldDef where
  ioType := d.ioType
  fieldType := d.fieldType
  isRequired := d.isRequired
  comment := d.comment
  «match» := d.match.bind h.cells
  defaultVal := d.defaultVal.bind h.cells
  regex := d.regex
  lowerBorder := d.lowerBorder
  upperBorder := d.upperBorder

/-- The maps with the values of the items. -/
def FieldMaps.read (h : ItemHeap) (m : FieldObjects) : FieldMaps :=
  ⟨m.inputValidationMap.map fun _ d => d.read h, m.outputValidationMap.map fun _ d => d.read h⟩

/-- A call with the value of its item. -/
def FieldCall.read (h : ItemHeap) : FieldObjectCall → FieldCall
  | registerInputField name fieldType required comment => .registerInputField name fieldType required comment
  | registerOutputField name fieldType comment => .registerOutputField name fieldType comment
  | addFieldMatch name «match» => .addFieldMatch name («match».bind h.cells)
  | addFieldDefault name defaultValue => .addFieldDefault name (defaultValue.bind h.cells)
  | addFieldRegex name regex => .addFieldRegex name regex
  | addFieldBorder name lowerBorder upperBorder => .addFieldBorder name lowerBorder upperBorder

section

variable (h : ItemHeap) (defs : StdMap FieldObject) (name : Str)

theorem read_insert (d : FieldObject) :
    (defs.insert name d).map (fun _ d => d.read h) = (defs.map fun _ d => d.read h).insert name (d.read h) := by
  apply Std.ExtTreeMap.ext_getElem?
  intro k
  simp only [Std.ExtTreeMap.getElem?_map, Std.ExtTreeMap.getElem?_insert]
  split_ifs <;> rfl

theorem read_registerField (d : FieldObject) :
    (registerField defs name d).2.map (fun _ d => d.read h) =
      (registerField (defs.map fun _ d => d.read h) name (d.read h)).2 := by
  unfold registerField
  rw [Std.ExtTreeMap.getElem?_map]
  cases defs[name]? with
  | some => rfl
  | none => exact read_insert h defs name d

theorem read_changeField {allowed : FieldObject → Bool} {change : FieldObject → FieldObject}
    {allowed' : FieldDef → Bool} {change' : FieldDef → FieldDef}
    (hallowed : ∀ d, allowed' (FieldDef.read h d) = allowed d)
    (hchange : ∀ d, (change d).read h = change' (d.read h)) :
    (changeField defs name allowed change).2.map (fun _ d => d.read h) =
      (changeField (defs.map fun _ d => d.read h) name allowed' change').2 := by
  unfold changeField
  rw [Std.ExtTreeMap.getElem?_map]
  cases defs[name]? with
  | none => rfl
  | some d =>
    simp only [Option.map_some, hallowed]
    split_ifs
    · exact (read_insert h defs name _).trans (congrArg _ (hchange d))
    · rfl

end

namespace FieldMaps

/-- **A call is one of the values.** -/
theorem read_step (h : ItemHeap) (m : FieldObjects) (call : FieldObjectCall) :
    (m.step call).read h = ((call.read h).apply (m.read h)).2 := by
  cases call with
  | registerInputField => exact congrArg (FieldMaps.mk · _) (read_registerField h m.inputValidationMap _ _)
  | registerOutputField => exact congrArg (FieldMaps.mk _) (read_registerField h m.outputValidationMap _ _)
  | addFieldMatch =>
    exact congrArg (FieldMaps.mk _) (read_changeField h m.outputValidationMap _ (fun _ => rfl) fun _ => rfl)
  | addFieldDefault =>
    exact congrArg (FieldMaps.mk · _) (read_changeField h m.inputValidationMap _ (fun _ => rfl) fun _ => rfl)
  | addFieldRegex =>
    exact congrArg (FieldMaps.mk · _) (read_changeField h m.inputValidationMap _ (fun _ => rfl) fun _ => rfl)
  | addFieldBorder =>
    exact congrArg (FieldMaps.mk · _) (read_changeField h m.inputValidationMap _ (fun _ => rfl) fun _ => rfl)

theorem read_foldl (h : ItemHeap) (calls : List FieldObjectCall) :
    (calls.foldl step empty).read h = FieldMaps.ofCalls (calls.map (FieldCall.read h)) := by
  induction calls using List.reverseRecOn with
  | nil => simp [read, empty, FieldMaps.ofCalls, FieldMaps.empty]
  | append_singleton calls call ih =>
    rw [List.foldl_append, List.foldl_cons, List.foldl_nil, read_step, ih, List.map_append, List.map_cons, List.map_nil,
      FieldMaps.ofCalls_concat]

theorem read_congr {h h' : ItemHeap} {m : FieldObjects} (hcells : ∀ a ∈ m.held, h'.cells a = h.cells a) :
    m.read h' = m.read h := by
  have hfield : ∀ d : FieldObject, (∀ a ∈ d.items, h'.cells a = h.cells a) → d.read h' = d.read h := by
    intro d hd
    have hmatch : d.match.bind h'.cells = d.match.bind h.cells :=
      Option.bind_congr fun a ha => hd a (List.mem_append_left _ (Option.mem_toList.mpr ha))
    have hdefault : d.defaultVal.bind h'.cells = d.defaultVal.bind h.cells :=
      Option.bind_congr fun a ha => hd a (List.mem_append_right _ (Option.mem_toList.mpr ha))
    rw [FieldDef.read, hmatch, hdefault, FieldDef.read]
  have hmap : ∀ defs : StdMap FieldObject, (∀ a ∈ heldBy defs, h'.cells a = h.cells a) →
      (defs.map fun _ d => d.read h') = defs.map fun _ d => d.read h := by
    intro defs hdefs
    apply Std.ExtTreeMap.ext_getElem?
    intro k
    rw [Std.ExtTreeMap.getElem?_map, Std.ExtTreeMap.getElem?_map]
    cases hd : defs[k]? with
    | none => rfl
    | some d =>
      refine congrArg some (hfield d fun a ha => hdefs a (List.mem_flatMap.mpr ⟨(k, d), ?_, ha⟩))
      exact Std.ExtTreeMap.mem_toList_iff_getElem?_eq_some.mpr hd
  have hin := hmap m.inputValidationMap fun a ha => hcells a (List.mem_append_left _ ha)
  have hout := hmap m.outputValidationMap fun a ha => hcells a (List.mem_append_right _ ha)
  rw [read, hin, hout, read]

end FieldMaps

/-- **The maps in memory are the maps of values**: after calls that hand no item over twice they read as
those after the calls with the values of the items, and what was handed over is held or deleted, once. -/
theorem read_run {h : ItemHeap} {calls : List FieldObjectCall}
    (hthere : ∀ a ∈ FieldMaps.given calls, (h.cells a).isSome) (hnodup : (FieldMaps.given calls).Nodup) :
    ∃ s, calls.foldl FieldMemory.step (some ⟨.empty, h⟩) = some s ∧
      s.maps.read s.items = FieldMaps.ofCalls (calls.map (FieldCall.read h)) ∧
      s.items = h.free (FieldMaps.deleted calls) ∧
      (s.maps.held ++ FieldMaps.deleted calls).Perm (FieldMaps.given calls) := by
  have hbalance := perm_foldl FieldMaps.held FieldMaps.balance_step FieldMaps.empty calls
  rw [FieldMaps.held_empty, List.nil_append] at hbalance
  have hiff := FieldMemory.sound_iff (FieldMemory.keeps_empty h) (List.forall_mem_nil _) List.nodup_nil
    fun a ha => .inr (hthere a ha)
  have hsound := hiff.mpr (by rwa [FieldMaps.held_empty])
  refine ⟨_, FieldMemory.foldl_of_sound hsound, ?_, rfl, hbalance⟩
  rw [← FieldMaps.read_foldl]
  refine FieldMaps.read_congr fun a ha => ?_
  have hapart := List.nodup_append.mp (hbalance.nodup_iff.mpr hnodup)
  have hkept : a ∉ FieldMaps.deleted calls := fun hmem => hapart.2.2 a ha a hmem rfl
  rw [ObjectHeap.cells_free]
  exact if_neg hkept

/-- Two items. -/
def twoItems : ItemHeap := (ObjectHeap.empty.alloc (.value (.int 5))).alloc (.value (.int 6))

/-- A default is set, and another one after it. -/
def defaultTwice : List FieldObjectCall :=
  [.registerInputField (str "size") .intType false [], .addFieldDefault (str "size") (some 0),
    .addFieldDefault (str "size") (some 1)]

theorem keepsItems_defaultTwice :
    Throughout FieldMemory.step FieldMemory.Sound (some ⟨.empty, twoItems⟩) defaultTwice ↔
      (FieldMaps.given defaultTwice).Nodup :=
  keepsItems_iff (by decide)

theorem read_defaultTwice : ∃ s, defaultTwice.foldl FieldMemory.step (some ⟨.empty, twoItems⟩) = some s ∧
    s.maps.read s.items = FieldMaps.ofCalls (defaultTwice.map (FieldCall.read twoItems)) ∧
    s.items = twoItems.free (FieldMaps.deleted defaultTwice) ∧
    (s.maps.held ++ FieldMaps.deleted defaultTwice).Perm (FieldMaps.given defaultTwice) :=
  read_run (by decide) (by decide)

end HanamiNetwork
