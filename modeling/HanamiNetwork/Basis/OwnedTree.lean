import Mathlib.Data.List.Nodup
import Mathlib.Logic.Function.Basic

/-!
# Objects that own objects

A heap of objects, each at an address, and trees of objects that own each other: an object
owns the objects at the addresses it holds, and is the only one to do so. `Layout` says what
an object holds.

`Owns L h es f fp` — the addresses `es`, each under a key, are those of the trees of the forest
`f`, and `fp` are the addresses of all objects in it. What is done to other addresses changes
nothing about that (`Owns.congr`), and what is owned was allocated (`Owns.lt_next`). The order
of the addresses does not matter (`Owns.perm`), and some of them own part of it
(`Owns.of_append`).

Addresses are not used again once they are freed; an access to one that is not allocated is
for the user of the heap to make out.
-/

namespace HanamiNetwork.Basis

universe u v w

/-- A heap. -/
@[ext]
structure ObjectHeap (ν : Type u) where
  /-- The objects. -/
  cells : ℕ → Option ν
  /-- The address of the next object. -/
  next : ℕ
  /-- There is none behind. -/
  fresh : ∀ a, next ≤ a → cells a = none

namespace ObjectHeap

variable {ν : Type u}

/-- Without objects. -/
def empty : ObjectHeap ν := ⟨fun _ => none, 0, fun _ _ => rfl⟩

theorem lt_next {h : ObjectHeap ν} {a : ℕ} {n : ν} (ha : h.cells a = some n) : a < h.next := by
  by_contra hle
  rw [h.fresh a (by omega)] at ha
  cases ha

/-- A new object, at `next`. -/
def alloc (h : ObjectHeap ν) (n : ν) : ObjectHeap ν where
  cells := Function.update h.cells h.next (some n)
  next := h.next + 1
  fresh a ha := by
    rw [Function.update_of_ne (by omega)]
    exact h.fresh a (by omega)

/-- An object that is there is changed. -/
def write (h : ObjectHeap ν) (a : ℕ) (n : ν) : ObjectHeap ν where
  cells := fun b => if b = a then (h.cells a).map fun _ => n else h.cells b
  next := h.next
  fresh b hb := by
    split_ifs with hab
    · rw [← hab, h.fresh b hb]
      rfl
    · exact h.fresh b hb

/-- These objects are freed. -/
def free (h : ObjectHeap ν) (as : List ℕ) : ObjectHeap ν where
  cells := fun b => if b ∈ as then none else h.cells b
  next := h.next
  fresh b hb := by
    split_ifs
    · rfl
    · exact h.fresh b hb

@[simp] theorem cells_alloc (h : ObjectHeap ν) (n : ν) (a : ℕ) :
    (h.alloc n).cells a = if a = h.next then some n else h.cells a := by
  simp [alloc, Function.update_apply]

@[simp] theorem next_alloc (h : ObjectHeap ν) (n : ν) : (h.alloc n).next = h.next + 1 := rfl

@[simp] theorem cells_write (h : ObjectHeap ν) (a b : ℕ) (n : ν) :
    (h.write a n).cells b = if b = a then (h.cells a).map fun _ => n else h.cells b := rfl

@[simp] theorem next_write (h : ObjectHeap ν) (a : ℕ) (n : ν) : (h.write a n).next = h.next := rfl

@[simp] theorem cells_free (h : ObjectHeap ν) (as : List ℕ) (b : ℕ) :
    (h.free as).cells b = if b ∈ as then none else h.cells b := rfl

@[simp] theorem next_free (h : ObjectHeap ν) (as : List ℕ) : (h.free as).next = h.next := rfl

theorem free_nil (h : ObjectHeap ν) : h.free [] = h := by
  ext <;> simp

theorem free_append (h : ObjectHeap ν) (as bs : List ℕ) : h.free (as ++ bs) = (h.free as).free bs := by
  ext a : 2
  · simp only [cells_free, List.mem_append]
    by_cases ha : a ∈ as <;> by_cases hb : a ∈ bs <;> simp [ha, hb]
  · rfl

/-- Whatever is written to an object before it is freed is gone, and so is what it owned. -/
theorem free_write_free (h : ObjectHeap ν) (a : ℕ) (as : List ℕ) (n : ν) :
    ((h.free as).write a n).free [a] = h.free (a :: as) := by
  ext b : 2
  · by_cases hb : b = a <;> simp [hb]
  · rfl

end ObjectHeap

/-- What an object holds: its own part, and the addresses of the objects it owns, each under a key. -/
structure Layout (ν : Type u) (κ : Type v) (π : Type w) where
  /-- Its own part. -/
  payload : ν → π
  /-- The objects it owns. -/
  children : ν → List (κ × ℕ)

/-- Trees, each under a key: the own part of the first one, what it owns, and the trees beside it. -/
inductive Forest (κ : Type v) (π : Type w) where
  /-- None. -/
  | nil
  /-- One, and others. -/
  | cons (key : κ) (payload : π) (children rest : Forest κ π)

/-- The number of objects above each other. -/
def Forest.depth {κ : Type v} {π : Type w} : Forest κ π → ℕ
  | nil => 0
  | cons _ _ children rest => max (children.depth + 1) rest.depth

variable {ν : Type u} {κ : Type v} {π : Type w}

/-- The addresses are those of the trees of the forest, each object of which is owned once. -/
inductive Owns (L : Layout ν κ π) (h : ObjectHeap ν) : List (κ × ℕ) → Forest κ π → List ℕ → Prop where
  /-- None. -/
  | nil : Owns L h [] .nil []
  /-- One, and others. -/
  | cons {key : κ} {a : ℕ} {n : ν} {es : List (κ × ℕ)} {children rest : Forest κ π} {fp fp' : List ℕ}
      (hread : h.cells a = some n) (hchildren : Owns L h (L.children n) children fp) (ha : a ∉ fp)
      (hrest : Owns L h es rest fp') (hapart : (a :: fp).Disjoint fp') :
      Owns L h ((key, a) :: es) (.cons key (L.payload n) children rest) (a :: fp ++ fp')

/-- The object at an address, with what it owns. -/
inductive OwnsTree (L : Layout ν κ π) (h : ObjectHeap ν) : ℕ → π → Forest κ π → List ℕ → Prop where
  /-- It is there, and owns the forest. -/
  | node {a : ℕ} {n : ν} {f : Forest κ π} {fp : List ℕ} (hread : h.cells a = some n)
      (hchildren : Owns L h (L.children n) f fp) (ha : a ∉ fp) : OwnsTree L h a (L.payload n) f (a :: fp)

variable {L : Layout ν κ π} {h h' : ObjectHeap ν} {es : List (κ × ℕ)} {f : Forest κ π} {fp : List ℕ}

theorem Owns.isSome (ho : Owns L h es f fp) {a : ℕ} (ha : a ∈ fp) : (h.cells a).isSome := by
  induction ho with
  | nil => cases ha
  | cons hread _ _ _ _ ih ih' =>
    rcases List.mem_append.mp ha with ha | ha
    · rcases List.mem_cons.mp ha with rfl | ha
      · rw [hread]
        rfl
      · exact ih ha
    · exact ih' ha

theorem Owns.lt_next (ho : Owns L h es f fp) {a : ℕ} (ha : a ∈ fp) : a < h.next := by
  obtain ⟨n, hn⟩ := Option.isSome_iff_exists.mp (ho.isSome ha)
  exact ObjectHeap.lt_next hn

/-- What is owned depends on the objects in it, and on no others. -/
theorem Owns.congr (ho : Owns L h es f fp) (hcells : ∀ a ∈ fp, h'.cells a = h.cells a) : Owns L h' es f fp := by
  induction ho with
  | nil => exact .nil
  | @cons key a n es children rest fp fp' hread _ ha _ hapart ih ih' =>
    have hin : ∀ b, b = a ∨ b ∈ fp → h'.cells b = h.cells b := fun b hb =>
      hcells b (List.mem_append_left _ (List.mem_cons.mpr hb))
    exact .cons ((hin a (.inl rfl)).trans hread) (ih fun b hb => hin b (.inr hb)) ha
      (ih' fun b hb => hcells b (List.mem_append_right _ hb)) hapart

theorem OwnsTree.congr {a : ℕ} {p : π} (ho : OwnsTree L h a p f fp) (hcells : ∀ b ∈ fp, h'.cells b = h.cells b) :
    OwnsTree L h' a p f fp := by
  cases ho with
  | node hread hchildren ha =>
    exact .node ((hcells a List.mem_cons_self).trans hread)
      (hchildren.congr fun b hb => hcells b (List.mem_cons_of_mem _ hb)) ha

theorem OwnsTree.isSome {a b : ℕ} {p : π} (ho : OwnsTree L h a p f fp) (hb : b ∈ fp) : (h.cells b).isSome := by
  cases ho with
  | node hread hchildren _ =>
    rcases List.mem_cons.mp hb with rfl | hb
    · rw [hread]
      rfl
    · exact hchildren.isSome hb

theorem OwnsTree.lt_next {a b : ℕ} {p : π} (ho : OwnsTree L h a p f fp) (hb : b ∈ fp) : b < h.next := by
  obtain ⟨n, hn⟩ := Option.isSome_iff_exists.mp (ho.isSome hb)
  exact ObjectHeap.lt_next hn

theorem OwnsTree.mem_self {a : ℕ} {p : π} (ho : OwnsTree L h a p f fp) : a ∈ fp := by
  cases ho
  exact List.mem_cons_self

theorem OwnsTree.cons {a : ℕ} {p : π} (ho : OwnsTree L h a p f fp) {rest : Forest κ π} {fp' : List ℕ}
    (hrest : Owns L h es rest fp') (hapart : fp.Disjoint fp') (key : κ) :
    Owns L h ((key, a) :: es) (.cons key p f rest) (fp ++ fp') := by
  cases ho with
  | node hread hchildren ha => exact .cons hread hchildren ha hrest hapart

theorem Owns.perm (ho : Owns L h es f fp) {es' : List (κ × ℕ)} (hes : es.Perm es') :
    ∃ f' fp', Owns L h es' f' fp' ∧ fp'.Perm fp ∧ f'.depth = f.depth := by
  induction hes generalizing f fp with
  | nil => exact ⟨f, fp, ho, .refl _, rfl⟩
  | cons e _ ih =>
    cases ho with
    | @cons _ a _ _ _ _ fp fp' hread hchildren ha hrest hapart =>
      obtain ⟨rest', fp'', hrest', hfp, hdepth⟩ := ih hrest
      have hapart' : (a :: fp).Disjoint fp'' := fun b hb hb' => hapart hb (hfp.mem_iff.mp hb')
      refine ⟨_, _, .cons hread hchildren ha hrest' hapart', hfp.append_left _, ?_⟩
      simp only [Forest.depth, hdepth]
  | swap e e' es =>
    cases ho with
    | @cons _ a _ _ _ _ fp _ hread hchildren ha hrest hapart =>
      cases hrest with
      | @cons _ b _ _ _ _ fp₂ fp₃ hread' hchildren' hb hrest hapart' =>
        obtain ⟨hbetween, hbehind⟩ := List.disjoint_append_right.mp hapart
        have hbefore : (b :: fp₂).Disjoint (a :: fp ++ fp₃) :=
          List.disjoint_append_right.mpr ⟨List.disjoint_comm.mp hbetween, hapart'⟩
        refine ⟨_, _, .cons hread' hchildren' hb (.cons hread hchildren ha hrest hbehind) hbefore, ?_, ?_⟩
        · rw [← List.append_assoc, ← List.append_assoc]
          exact List.perm_append_comm.append_right _
        · simp only [Forest.depth]
          omega
  | trans _ _ ih ih' =>
    obtain ⟨f', fp', ho', hfp', hdepth'⟩ := ih ho
    obtain ⟨f'', fp'', ho'', hfp'', hdepth''⟩ := ih' ho'
    exact ⟨f'', fp'', ho'', hfp''.trans hfp', hdepth''.trans hdepth'⟩

/-- Each of two groups of addresses owns a part, and the parts have nothing in common. -/
theorem Owns.of_append {es es' : List (κ × ℕ)} (ho : Owns L h (es ++ es') f fp) :
    ∃ f₁ f₂ fp₁ fp₂, Owns L h es f₁ fp₁ ∧ Owns L h es' f₂ fp₂ ∧ fp = fp₁ ++ fp₂ ∧ fp₁.Disjoint fp₂ ∧
      f₁.depth ≤ f.depth := by
  induction es generalizing f fp with
  | nil => exact ⟨.nil, f, [], fp, .nil, ho, rfl, List.disjoint_nil_left _, Nat.zero_le _⟩
  | cons e es ih =>
    cases ho with
    | @cons _ _ _ _ _ _ _ _ hread hchildren ha hrest hapart =>
      obtain ⟨f₁, f₂, fp₁, fp₂, h₁, h₂, rfl, hbetween, hdepth⟩ := ih hrest
      obtain ⟨hapart₁, hapart₂⟩ := List.disjoint_append_right.mp hapart
      refine ⟨_, f₂, _, fp₂, .cons hread hchildren ha h₁ hapart₁, h₂, (List.append_assoc ..).symm, ?_, ?_⟩
      · exact List.disjoint_append_left.mpr ⟨hapart₂, hbetween⟩
      · simp only [Forest.depth]
        omega

/-- Each object is owned once. -/
theorem Owns.nodup (ho : Owns L h es f fp) : fp.Nodup := by
  induction ho with
  | nil => exact List.nodup_nil
  | cons _ _ ha _ hapart ih ih' => exact (List.nodup_cons.mpr ⟨ha, ih⟩).append ih' hapart

theorem Owns.eq_nil_iff (ho : Owns L h es f fp) : fp = [] ↔ es = [] := by
  cases ho <;> simp

end HanamiNetwork.Basis
