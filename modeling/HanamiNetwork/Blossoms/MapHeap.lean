import HanamiNetwork.Basis.OrderedMap
import HanamiNetwork.Basis.OwnedTree
import HanamiNetwork.Basis.WriteOnce
import HanamiNetwork.Blossoms.CompareMap

/-!
# Child maps in memory

A `ValueItemMap` holds its child maps by their addresses. What the functions of
`value_item_map.cpp` that follow these addresses do to the objects in memory: the
copy-constructor, the destructor, `clearChildMap` and `operator=`; and `BlossomItem::copy`,
which uses the last (`sakura_items.cpp`). An access to an object that is not there, or not any
more, has no result; nor has a recursion that needs more calls inside each other than `fuel`.

* `copyConstruct_owns` — a copy is a tree of new objects with the same content, and changes
  nothing about the objects that were there.
* `destroy_eq` — destroying a tree frees each of its objects, once, and no other.
* `assign_owns`, `assign_descendant` — what `operator=` does with another tree, and with a part of
  the own one.
* `copy_owns` — the copy of a blossom-item has its own values.

A value-item owns its data-item and copies it with itself, so that it is a plain value here.
-/

namespace HanamiNetwork

open HanamiNetwork.Basis

/-- The `ValueItemMap` objects. -/
abbrev MapHeap := ObjectHeap ValueItemMap

/-- A map holds its values, and its child maps under their keys. -/
def mapLayout : Layout ValueItemMap Str (StdMap ValueItem) := ⟨ValueItemMap.valueMap, fun m => m.childMaps.toList⟩

/-- `insert` of one pair after the other into a `std::map`. -/
def enterAll {α : Type} (m : StdMap α) (es : List (Str × α)) : StdMap α :=
  es.foldl (fun m e => m.insertIfNew e.1 e.2) m

theorem toList_enterAll {α : Type} {es : List (Str × α)} (h : es.Pairwise fun a b => compare a.1 b.1 = .lt) :
    (enterAll ∅ es).toList = es :=
  WriteOnce.toList_foldl_insertIfNew h

/-- A map without values and child maps owns itself alone. -/
theorem ownsTree_empty {h : MapHeap} {a : ValueItemMapId} (ha : h.cells a = some .empty) :
    OwnsTree mapLayout h a ∅ .nil [a] := by
  have hnone : mapLayout.children .empty = [] := toList_enterAll List.Pairwise.nil
  have hchildren : Owns mapLayout h (mapLayout.children .empty) .nil [] := by
    rw [hnone]
    exact .nil
  exact OwnsTree.node ha hchildren List.not_mem_nil

/-- A map with a child map, and one beside them. -/
def familyHeap : MapHeap :=
  ((ObjectHeap.empty.alloc .empty).alloc ⟨∅, enterAll ∅ [(str "child", 0)]⟩).alloc .empty

theorem familyHeap_parent : OwnsTree mapLayout familyHeap 1 ∅ (.cons (str "child") ∅ .nil .nil) [1, 0] := by
  have hread : familyHeap.cells 1 = some ⟨∅, enterAll ∅ [(str "child", 0)]⟩ := by
    simp [familyHeap, ObjectHeap.empty]
  have hchild : OwnsTree mapLayout familyHeap 0 ∅ .nil [0] := ownsTree_empty (by simp [familyHeap, ObjectHeap.empty])
  have hlist : mapLayout.children ⟨∅, enterAll ∅ [(str "child", 0)]⟩ = [(str "child", 0)] :=
    toList_enterAll (List.pairwise_singleton _ _)
  have hchildren := hchild.cons .nil (by simp) (str "child")
  rw [← hlist] at hchildren
  exact OwnsTree.node hread hchildren (by decide)

theorem familyHeap_other : OwnsTree mapLayout familyHeap 2 ∅ .nil [2] :=
  ownsTree_empty (by simp [familyHeap, ObjectHeap.empty])

namespace ValueItemMap

/-- The loop that copies the values. -/
def copyValues (this other : StdMap ValueItem) : StdMap ValueItem := enterAll this other.toList

/-- The loop that copies the child maps into `this`; `copy` is `new ValueItemMap` of a child map. -/
def copyChildMaps (copy : MapHeap → ValueItemMapId → Option (ValueItemMapId × MapHeap)) (this : ValueItemMapId) :
    List (Str × ValueItemMapId) → MapHeap → Option MapHeap
  | [], h => some h
  | (key, child) :: rest, h => do
    let (newValue, h) ← copy h child
    let m ← h.cells this
    copyChildMaps copy this rest (h.write this { m with childMaps := m.childMaps.insertIfNew key newValue })

/-- `new ValueItemMap(*other)`, with the copy-constructor. -/
def copyConstruct : ℕ → MapHeap → ValueItemMapId → Option (ValueItemMapId × MapHeap)
  | 0, _, _ => none
  | fuel + 1, h, other => do
    let m ← h.cells other
    let this := h.next
    let h := h.alloc { empty with valueMap := copyValues ∅ m.valueMap }
    let h ← copyChildMaps (copyConstruct fuel) this m.childMaps.toList h
    return (this, h)

/-- `clearChildMap`; `delete` is what it says. -/
def clearChildMap (delete : MapHeap → ValueItemMapId → Option MapHeap) (h : MapHeap) (this : ValueItemMapId) :
    Option MapHeap := do
  let m ← h.cells this
  let h ← m.childMaps.toList.foldlM (fun h e => delete h e.2) h
  let m ← h.cells this
  return h.write this { m with childMaps := ∅ }

/-- `delete this`, with the destructor. -/
def destroy : ℕ → MapHeap → ValueItemMapId → Option MapHeap
  | 0, _, _ => none
  | fuel + 1, h, this => do
    let h ← clearChildMap (destroy fuel) h this
    return h.free [this]

/-- `operator=`. -/
def assign (fuel : ℕ) (h : MapHeap) (this other : ValueItemMapId) : Option MapHeap :=
  if this = other then some h
  else do
    let m ← h.cells this
    let o ← h.cells other
    let h := h.write this { m with valueMap := copyValues ∅ o.valueMap }
    let h ← clearChildMap (destroy fuel) h this
    let o ← h.cells other
    copyChildMaps (copyConstruct fuel) this o.childMaps.toList h

/-! ### Copying -/

theorem copyValues_empty (m : StdMap ValueItem) : copyValues ∅ m = m := by
  have hlist : (copyValues ∅ m).toList = m.toList := toList_enterAll Std.ExtTreeMap.ordered_keys_toList
  rw [← ofList_toList (copyValues ∅ m), hlist, ofList_toList]

/-- What a loop that copies child maps into `this` leaves: new trees with the same content, under the
same keys. -/
structure CopiedInto (this : ValueItemMapId) (m : ValueItemMap) (es : List (Str × ValueItemMapId))
    (f : Forest Str (StdMap ValueItem)) (h h' : MapHeap) (es' : List (Str × ValueItemMapId)) (fp' : List ℕ) :
    Prop where
  /-- The keys are the same. -/
  keys : es'.map Prod.fst = es.map Prod.fst
  /-- The content is the same. -/
  owns : Owns mapLayout h' es' f fp'
  /-- The objects are new. -/
  new : ∀ a ∈ fp', h.next ≤ a
  /-- They are entered into the child maps. -/
  entered : h'.cells this = some { m with childMaps := enterAll m.childMaps es' }
  /-- All others are as they were. -/
  kept : ∀ a < h.next, a ≠ this → h'.cells a = h.cells a
  /-- No address is used again. -/
  grows : h.next ≤ h'.next

/-- What `new ValueItemMap` of a map leaves: a new tree with the same content. -/
structure Copied (p : StdMap ValueItem) (f : Forest Str (StdMap ValueItem)) (h h' : MapHeap) (a : ValueItemMapId)
    (fp' : List ℕ) : Prop where
  /-- The content is the same. -/
  owns : OwnsTree mapLayout h' a p f fp'
  /-- The objects are new. -/
  new : ∀ b ∈ fp', h.next ≤ b
  /-- All others are as they were. -/
  kept : ∀ b < h.next, h'.cells b = h.cells b
  /-- No address is used again. -/
  grows : h.next ≤ h'.next

theorem CopiedInto.node {this : ValueItemMapId} {v : StdMap ValueItem} {n : ValueItemMap}
    {f : Forest Str (StdMap ValueItem)} {h h' : MapHeap} {es' : List (Str × ValueItemMapId)} {fp' : List ℕ}
    (hc : CopiedInto this ⟨v, ∅⟩ n.childMaps.toList f h h' es' fp') (hthis : this ∉ fp') :
    OwnsTree mapLayout h' this v f (this :: fp') := by
  have hlist : (enterAll ∅ es').toList = es' := by
    refine toList_enterAll ?_
    have hsorted : (n.childMaps.toList.map Prod.fst).Pairwise fun a b => compare a b = .lt :=
      List.pairwise_map.mpr Std.ExtTreeMap.ordered_keys_toList
    rw [← hc.keys] at hsorted
    exact List.pairwise_map.mp hsorted
  have howns : Owns mapLayout h' (mapLayout.children ⟨v, enterAll ∅ es'⟩) f fp' := by
    show Owns mapLayout h' (enterAll ∅ es').toList f fp'
    rw [hlist]
    exact hc.owns
  have hnode := OwnsTree.node hc.entered howns hthis
  exact hnode

/-- A copy of a map whose child maps are copied. -/
theorem copied_of_copiedInto {h h' : MapHeap} {n : ValueItemMap} {f : Forest Str (StdMap ValueItem)}
    {es' : List (Str × ValueItemMapId)} {fp' : List ℕ}
    (hc : CopiedInto h.next ⟨n.valueMap, ∅⟩ n.childMaps.toList f (h.alloc ⟨n.valueMap, ∅⟩) h' es' fp') :
    Copied n.valueMap f h h' h.next (h.next :: fp') := by
  have hnew : ∀ a ∈ fp', h.next < a := fun a ha => hc.new a ha
  refine ⟨hc.node fun ha => absurd (hnew _ ha) (lt_irrefl _), ?_, ?_, ?_⟩
  · intro a ha
    rcases List.mem_cons.mp ha with rfl | ha
    · exact le_rfl
    · exact (hnew a ha).le
  · intro a ha
    rw [hc.kept a (Nat.lt_succ_of_lt ha) ha.ne, ObjectHeap.cells_alloc, if_neg ha.ne]
  · exact (Nat.le_succ _).trans hc.grows

/-- Copying the child maps of a map, one after the other. -/
theorem copyChildMaps_owns {h₀ : MapHeap} {es : List (Str × ValueItemMapId)} {f : Forest Str (StdMap ValueItem)}
    {fp : List ℕ} (ho : Owns mapLayout h₀ es f fp) {fuel : ℕ} (hfuel : f.depth ≤ fuel) {h : MapHeap}
    (hcells : ∀ a ∈ fp, h.cells a = h₀.cells a) {this : ValueItemMapId} (hthis : this ∉ fp) {m : ValueItemMap}
    (hm : h.cells this = some m) :
    ∃ h' es' fp', copyChildMaps (copyConstruct fuel) this es h = some h' ∧ CopiedInto this m es f h h' es' fp' := by
  induction ho generalizing fuel h this m with
  | nil => exact ⟨h, [], [], rfl, rfl, .nil, nofun, hm, fun _ _ _ => rfl, le_rfl⟩
  | @cons key a n es children rest fp fp₂ hread hchildren ha hrest hapart ih ih₂ =>
    simp only [Forest.depth, max_le_iff] at hfuel
    obtain ⟨fuel, rfl⟩ : ∃ k, fuel = k + 1 := ⟨fuel - 1, by omega⟩
    have hin : ∀ b, b = a ∨ b ∈ fp → h.cells b = h₀.cells b := fun b hb =>
      hcells b (List.mem_append_left _ (List.mem_cons.mpr hb))
    have hallocated : ∀ b ∈ fp, b < h.next := by
      intro b hb
      obtain ⟨n', hn'⟩ := Option.isSome_iff_exists.mp (hchildren.isSome hb)
      exact ObjectHeap.lt_next ((hin b (.inr hb)).trans hn')
    have hcells₁ : ∀ b ∈ fp, (h.alloc ⟨n.valueMap, ∅⟩).cells b = h₀.cells b := by
      intro b hb
      rw [ObjectHeap.cells_alloc, if_neg (hallocated b hb).ne]
      exact hin b (.inr hb)
    have hroot : (h.alloc ⟨n.valueMap, ∅⟩).cells h.next = some (⟨n.valueMap, ∅⟩ : ValueItemMap) := by simp
    obtain ⟨h₁, es₁, fp₁, hcopy, hc⟩ := ih (by omega : children.depth ≤ fuel) hcells₁
      (fun hb => absurd (hallocated _ hb) (lt_irrefl _)) hroot
    have hchild := copied_of_copiedInto hc
    have hconstruct : copyConstruct (fuel + 1) h a = some (h.next, h₁) := by
      have hcopy' : copyChildMaps (copyConstruct fuel) h.next n.childMaps.toList (h.alloc ⟨n.valueMap, ∅⟩) = some h₁ :=
        hcopy
      simp [copyConstruct, (hin a (.inl rfl)).trans hread, copyValues_empty, empty, hcopy']
    have hthislt : this < h.next := ObjectHeap.lt_next hm
    have hthis₁ : h₁.cells this = some m := (hchild.kept this hthislt).trans hm
    set h₂ := h₁.write this { m with childMaps := m.childMaps.insertIfNew key h.next } with hh₂
    have hthis₂ : h₂.cells this = some { m with childMaps := m.childMaps.insertIfNew key h.next } := by
      simp [hh₂, hthis₁]
    have hother₂ : ∀ b, b ≠ this → h₂.cells b = h₁.cells b := fun b hb => by simp [hh₂, hb]
    have hnext₂ : h₂.next = h₁.next := rfl
    have hthisfp₂ : this ∉ fp₂ := fun hmem => hthis (List.mem_append_right _ hmem)
    have hcells₂ : ∀ b ∈ fp₂, h₂.cells b = h₀.cells b := by
      intro b hb
      have hb₀ := hcells b (List.mem_append_right _ hb)
      have hlt : b < h.next := by
        obtain ⟨n', hn'⟩ := Option.isSome_iff_exists.mp (hrest.isSome hb)
        exact ObjectHeap.lt_next (hb₀.trans hn')
      rw [hother₂ b fun heq => hthisfp₂ (heq ▸ hb), hchild.kept b hlt, hb₀]
    obtain ⟨h₃, es₃, fp₃, hcopy₃, hc₃⟩ := ih₂ hfuel.2 hcells₂ hthisfp₂ hthis₂
    refine ⟨h₃, (key, h.next) :: es₃, (h.next :: fp₁) ++ fp₃, ?_, ?_⟩
    · simp only [copyChildMaps, hconstruct, Option.bind_eq_bind, Option.bind_some, hthis₁]
      exact hcopy₃
    · have hnew₃ : ∀ b ∈ fp₃, h₁.next ≤ b := fun b hb => hnext₂ ▸ hc₃.new b hb
      have hlt₁ : ∀ b ∈ h.next :: fp₁, b < h₁.next := fun b hb => hchild.owns.lt_next hb
      refine ⟨by simp [hc₃.keys], ?_, ?_, ?_, ?_, ?_⟩
      · refine (hchild.owns.congr fun b hb => ?_).cons hc₃.owns (fun b hb hb₃ => ?_) key
        · have hne : b ≠ this := (hthislt.trans_le (hchild.new b hb)).ne'
          rw [hc₃.kept b (hnext₂ ▸ hlt₁ b hb) hne, hother₂ b hne]
        · exact absurd (hlt₁ b hb) (not_lt.mpr (hnew₃ b hb₃))
      · intro b hb
        rcases List.mem_append.mp hb with hb | hb
        · exact hchild.new b hb
        · exact hchild.grows.trans (hnew₃ b hb)
      · rw [hc₃.entered]
        rfl
      · intro b hb hne
        rw [hc₃.kept b (hnext₂ ▸ hb.trans_le hchild.grows) hne, hother₂ b hne, hchild.kept b hb]
      · exact hchild.grows.trans (hnext₂ ▸ hc₃.grows)

/-- **A copy is deep**: copying a tree of maps makes a tree of new maps with the same content, and
leaves the one that was copied, and all others, as they were. -/
theorem copyConstruct_owns {h : MapHeap} {other : ValueItemMapId} {p : StdMap ValueItem}
    {f : Forest Str (StdMap ValueItem)} {fp : List ℕ} (ho : OwnsTree mapLayout h other p f fp) {fuel : ℕ}
    (hfuel : f.depth < fuel) :
    ∃ h' fp', copyConstruct fuel h other = some (h.next, h') ∧ Copied p f h h' h.next fp' := by
  obtain ⟨hread, hchildren, ha⟩ := ho
  rename_i n fp
  obtain ⟨fuel, rfl⟩ : ∃ k, fuel = k + 1 := ⟨fuel - 1, by omega⟩
  have hroot : (h.alloc ⟨n.valueMap, ∅⟩).cells h.next = some (⟨n.valueMap, ∅⟩ : ValueItemMap) := by simp
  obtain ⟨h', es', fp', hcopy, hc⟩ := copyChildMaps_owns hchildren (Nat.le_of_lt_succ hfuel)
    (fun b hb => by rw [ObjectHeap.cells_alloc, if_neg (hchildren.lt_next hb).ne])
    (fun hb => absurd (hchildren.lt_next hb) (lt_irrefl _)) hroot
  refine ⟨h', h.next :: fp', ?_, copied_of_copiedInto hc⟩
  have hcopy' : copyChildMaps (copyConstruct fuel) h.next n.childMaps.toList (h.alloc ⟨n.valueMap, ∅⟩) = some h' :=
    hcopy
  simp [copyConstruct, hread, copyValues_empty, empty, hcopy']

theorem copyConstruct_familyHeap : ∃ h' fp', copyConstruct 2 familyHeap 1 = some (3, h') ∧
    Copied ∅ (.cons (str "child") ∅ .nil .nil) familyHeap h' 3 fp' :=
  copyConstruct_owns familyHeap_parent (by decide)

/-! ### Destroying -/

section

variable {h₀ h : MapHeap} {es : List (Str × ValueItemMapId)} {f : Forest Str (StdMap ValueItem)} {fp : List ℕ}
  {this : ValueItemMapId} {n : ValueItemMap}

theorem clearChildMap_eq {fuel : ℕ} (hn : h.cells this = some n) (hthis : this ∉ fp)
    (hdelete : n.childMaps.toList.foldlM (fun h e => destroy fuel h e.2) h =
      if f.depth ≤ fuel then some (h.free fp) else none) :
    clearChildMap (destroy fuel) h this =
      if f.depth ≤ fuel then some ((h.free fp).write this { n with childMaps := ∅ }) else none := by
  simp only [clearChildMap, hn, Option.bind_eq_bind, Option.bind_some, hdelete]
  split_ifs
  · simp [hthis, hn]
  · rfl

theorem destroy_all (ho : Owns mapLayout h₀ es f fp) (fuel : ℕ) (hcells : ∀ a ∈ fp, h.cells a = h₀.cells a) :
    es.foldlM (fun h e => destroy fuel h e.2) h = if f.depth ≤ fuel then some (h.free fp) else none := by
  induction ho generalizing fuel h with
  | nil => simp [Forest.depth, ObjectHeap.free_nil]
  | @cons key a n es children rest fp fp₂ hread hchildren ha hrest hapart ih ih₂ =>
    have hin : ∀ b, b = a ∨ b ∈ fp → h.cells b = h₀.cells b := fun b hb =>
      hcells b (List.mem_append_left _ (List.mem_cons.mpr hb))
    have hone : destroy fuel h a = if children.depth + 1 ≤ fuel then some (h.free (a :: fp)) else none := by
      cases fuel with
      | zero => rfl
      | succ fuel =>
        have hclear := clearChildMap_eq ((hin a (.inl rfl)).trans hread) ha
          (ih fuel fun b hb => hin b (.inr hb))
        simp only [destroy, hclear, Nat.add_le_add_iff_right]
        split_ifs
        · exact congrArg some (ObjectHeap.free_write_free ..)
        · rfl
    rw [List.foldlM_cons, hone]
    simp only [Forest.depth, max_le_iff]
    by_cases hfuel : children.depth + 1 ≤ fuel
    · rw [if_pos hfuel, Option.bind_eq_bind, Option.bind_some, ih₂ fuel fun b hb => ?_, ObjectHeap.free_append]
      · simp [hfuel]
      · have hnot : b ∉ a :: fp := fun hmem => hapart hmem hb
        rw [ObjectHeap.cells_free, if_neg hnot]
        exact hcells b (List.mem_append_right _ hb)
    · simp [hfuel]

/-- **Destroying frees what is owned**, each object once, and nothing else. -/
theorem destroy_eq {p : StdMap ValueItem} (ho : OwnsTree mapLayout h this p f fp) (fuel : ℕ) :
    destroy fuel h this = if f.depth < fuel then some (h.free fp) else none := by
  obtain ⟨hread, hchildren, ha⟩ := ho
  cases fuel with
  | zero => rfl
  | succ fuel =>
    have hclear := clearChildMap_eq hread ha (destroy_all hchildren fuel fun _ _ => rfl)
    simp only [destroy, hclear, Nat.lt_add_one_iff]
    split_ifs
    · exact congrArg some (ObjectHeap.free_write_free ..)
    · rfl

theorem destroy_familyHeap : destroy 2 familyHeap 1 = some (familyHeap.free [1, 0]) :=
  (destroy_eq familyHeap_parent 2).trans (if_pos (by decide))

end

/-! ### Assigning -/

/-- What an assignment leaves. -/
structure Assigned (p : StdMap ValueItem) (f : Forest Str (StdMap ValueItem)) (h h' : MapHeap)
    (this : ValueItemMapId) (fp fp' : List ℕ) : Prop where
  /-- The content is that of the other map. -/
  owns : OwnsTree mapLayout h' this p f (this :: fp')
  /-- It is made of new objects. -/
  new : ∀ a ∈ fp', h.next ≤ a
  /-- The old child maps are freed. -/
  freed : ∀ a ∈ fp, a ≠ this → h'.cells a = none
  /-- All others are as they were. -/
  kept : ∀ a < h.next, a ∉ fp → h'.cells a = h.cells a

section

variable {h : MapHeap} {this other : ValueItemMapId} {p p' : StdMap ValueItem} {f f' : Forest Str (StdMap ValueItem)}
  {fp fp' : List ℕ}

theorem clearChildMap_assign {m : ValueItemMap} (hm : h.cells this = some m)
    (hchildren : Owns mapLayout h m.childMaps.toList f fp) (hthis : this ∉ fp) (v : StdMap ValueItem) (fuel : ℕ) :
    clearChildMap (destroy fuel) (h.write this { m with valueMap := v }) this = if f.depth ≤ fuel then
      some (((h.write this { m with valueMap := v }).free fp).write this ⟨v, ∅⟩) else none := by
  have hkept : ∀ a ∈ fp, (h.write this { m with valueMap := v }).cells a = h.cells a := by
    intro a ha
    have hne : a ≠ this := fun heq => hthis (heq ▸ ha)
    simp [hne]
  have hwritten : (h.write this { m with valueMap := v }).cells this = some { m with valueMap := v } := by simp [hm]
  exact clearChildMap_eq hwritten hthis (destroy_all hchildren fuel hkept)

/-- **Assigning another tree** replaces the content by a deep copy, and frees the old one. -/
theorem assign_owns (ho : OwnsTree mapLayout h this p f fp) (ho' : OwnsTree mapLayout h other p' f' fp')
    (hapart : fp.Disjoint fp') {fuel : ℕ} (hfuel : f.depth ≤ fuel) (hfuel' : f'.depth ≤ fuel) :
    ∃ h' fp'', assign fuel h this other = some h' ∧ Assigned p' f' h h' this fp fp'' := by
  have hne : this ≠ other := fun heq => hapart ho.mem_self (heq ▸ ho'.mem_self)
  obtain ⟨hm, hchildren, hthis⟩ := ho
  rename_i m fp
  obtain ⟨hother, hchildren', -⟩ := ho'
  rename_i o fp'
  have hclear := clearChildMap_assign hm hchildren hthis o.valueMap fuel
  rw [if_pos hfuel] at hclear
  set h₁ := ((h.write this { m with valueMap := o.valueMap }).free fp).write this ⟨o.valueMap, ∅⟩ with hh₁
  have hkept : ∀ a, a ∉ this :: fp → h₁.cells a = h.cells a := by
    intro a ha
    rw [List.mem_cons, not_or] at ha
    simp [hh₁, ha.1, ha.2]
  have hthis₁ : h₁.cells this = some ⟨o.valueMap, ∅⟩ := by simp [hh₁, hthis, hm]
  have hother₁ : h₁.cells other = some o :=
    (hkept other fun hmem => hapart hmem List.mem_cons_self).trans hother
  obtain ⟨h', es', fp'', hcopy, hc⟩ := copyChildMaps_owns hchildren' hfuel'
    (fun a ha => hkept a fun hmem => hapart hmem (List.mem_cons_of_mem _ ha))
    (fun hmem => hapart List.mem_cons_self (List.mem_cons_of_mem _ hmem)) hthis₁
  have hlt : this < h₁.next := ObjectHeap.lt_next hthis₁
  refine ⟨h', fp'', ?_, hc.node fun hmem => absurd hlt (not_lt.mpr (hc.new _ hmem)), hc.new, ?_, ?_⟩
  · have hcopy' : copyChildMaps (copyConstruct fuel) this o.childMaps.toList h₁ = some h' := hcopy
    simp [assign, hne, hm, hother, copyValues_empty, hclear, hother₁, hcopy']
  · intro a ha hat
    rcases List.mem_cons.mp ha with rfl | ha
    · exact absurd rfl hat
    · rw [hc.kept a (hchildren.lt_next ha) hat]
      simp [hh₁, hat, ha]
  · intro a ha hmem
    rw [hc.kept a ha fun heq => hmem (heq ▸ List.mem_cons_self), hkept a hmem]

theorem assign_familyHeap : ∃ h' fp', assign 1 familyHeap 2 1 = some h' ∧
    Assigned ∅ (.cons (str "child") ∅ .nil .nil) familyHeap h' 2 [2] fp' :=
  assign_owns familyHeap_other familyHeap_parent (by simp) (by decide) (by decide)

/-- Assigning a map that lies below is undefined: it is freed before its child maps are copied. -/
theorem assign_descendant (ho : OwnsTree mapLayout h this p f fp) (hother : other ∈ fp) (hne : other ≠ this)
    (fuel : ℕ) : assign fuel h this other = none := by
  obtain ⟨o, ho'⟩ := Option.isSome_iff_exists.mp (ho.isSome hother)
  obtain ⟨hm, hchildren, hthis⟩ := ho
  rename_i m fp
  have hmem : other ∈ fp := (List.mem_cons.mp hother).resolve_left hne
  have hclear := clearChildMap_assign hm hchildren hthis o.valueMap fuel
  simp only [assign, hne.symm, if_false, hm, ho', Option.bind_eq_bind, Option.bind_some, copyValues_empty, hclear]
  split_ifs
  · simp [hne, hmem]
  · rfl

theorem assign_familyHeap_child : assign 2 familyHeap 1 0 = none :=
  assign_descendant familyHeap_parent (by decide) (by decide) 2

end

end ValueItemMap

/-! ### Blossom-items -/

/-- `BlossomItem`, whose values are an object of their own; without its type, which is a constant. -/
structure BlossomItemObject where
  /-- `values`. -/
  values : ValueItemMapId
  /-- `blossomName`. -/
  blossomName : Str
  /-- `blossomType`. -/
  blossomType : Str
  /-- `blossomGroupType`. -/
  blossomGroupType : Str

namespace BlossomItemObject

/-- `copy`. -/
def copy (fuel : ℕ) (h : MapHeap) (item : BlossomItemObject) : Option (BlossomItemObject × MapHeap) := do
  let newItem : BlossomItemObject := ⟨h.next, [], [], []⟩
  let h ← ValueItemMap.assign fuel (h.alloc .empty) newItem.values item.values
  let newItem := { newItem with blossomName := item.blossomName }
  let newItem := { newItem with blossomGroupType := item.blossomGroupType }
  let newItem := { newItem with blossomType := item.blossomType }
  return (newItem, h)

/-- **A copied blossom-item** has the same names, and values of its own with the same content. -/
theorem copy_owns {h : MapHeap} {item : BlossomItemObject} {p : StdMap ValueItem} {f : Forest Str (StdMap ValueItem)}
    {fp : List ℕ} (ho : OwnsTree mapLayout h item.values p f fp) {fuel : ℕ} (hfuel : f.depth ≤ fuel) :
    ∃ h' fp', copy fuel h item = some ({ item with values := h.next }, h') ∧
      ValueItemMap.Copied p f h h' h.next fp' := by
  have hkept : ∀ a < h.next, (h.alloc .empty).cells a = h.cells a := fun a ha => by
    rw [ObjectHeap.cells_alloc, if_neg ha.ne]
  have hnew : OwnsTree mapLayout (h.alloc .empty) h.next ∅ .nil [h.next] := ownsTree_empty (by simp)
  have hold : OwnsTree mapLayout (h.alloc .empty) item.values p f fp := ho.congr fun a ha => hkept a (ho.lt_next ha)
  have hapart : [h.next].Disjoint fp := by
    rw [List.singleton_disjoint]
    exact fun hmem => absurd (ho.lt_next hmem) (lt_irrefl _)
  obtain ⟨h', fp', hassign, ha⟩ := ValueItemMap.assign_owns hnew hold hapart (Nat.zero_le fuel) hfuel
  refine ⟨h', h.next :: fp', by simp [copy, hassign], ha.owns, ?_, ?_, ?_⟩
  · intro a hmem
    rcases List.mem_cons.mp hmem with rfl | hmem
    · exact le_rfl
    · exact (Nat.le_succ _).trans (ha.new a hmem)
  · intro a hlt
    rw [ha.kept a (Nat.lt_succ_of_lt hlt) (by simpa using hlt.ne), hkept a hlt]
  · exact (ha.owns.lt_next List.mem_cons_self).le

theorem copy_familyHeap : ∃ h' fp', copy 1 familyHeap ⟨1, str "name", str "type", str "group"⟩ =
      some (⟨3, str "name", str "type", str "group"⟩, h') ∧
    ValueItemMap.Copied ∅ (.cons (str "child") ∅ .nil .nil) familyHeap h' 3 fp' :=
  copy_owns familyHeap_parent (by decide)

end BlossomItemObject

end HanamiNetwork
