import SearchPage.Document.Build
import SearchPage.Proofs.ReadOrder

/-!
# The shape of the tree the builder makes

The builder numbers nodes in the order it makes them and records, for each node, its parent
(the innermost element open when it was made), its children, and, once an element is closed,
the number of nodes made by then (`stop`). This module shows that the table it leaves is a
tree whose numbering is the pre-order: the nodes below an element are exactly those numbered
from just after it up to its stop, the children of a node are exactly the nodes whose parent
it is, in order, and the parent of a node is the innermost element whose range holds it.

The invariant (`Builder.Shaped`) is stated through four views of the builder: the parent and
the children it records, and the *reach* of a node, which is the current end of the table
while the node is an open element and its stop afterwards. Every operation of the builder
either adds a node below the innermost open element, or closes some innermost open elements,
or changes nothing these views see; each is shown to keep the invariant.

## Main statements

* `Builder.Shaped.feed`, `Builder.Shaped.finish`: the builder keeps its invariant.
* `Document.ofMarkup_nested`: a document read from a page is nested (`Document.Nested`).
* `Document.ofMarkup_positions`: its element positions are those of the start tags, in
  order.
-/

namespace SearchPage

open SearchPage.Markup

/-- Whether a node is an element. -/
def NodeKind.isElement : NodeKind → Bool
  | .element .. => true
  | .text _ => false

/-- The parts of a node the shape of the tree is made of: what it is, its parent, its
children and its position. -/
def Node.shape (n : Node) : NodeKind × Option Nat × Array Nat × Option Nat :=
  (n.kind, n.parent, n.children, n.pos)

namespace Builder

/-- The parent recorded for node `c`. -/
def parentOf (b : Builder) (c : Nat) : Option Nat := (b.nodes[c]?).bind (·.parent)

/-- The children recorded for node `p`, in order. -/
def kids (b : Builder) (p : Nat) : List Nat := ((b.nodes[p]?).map (·.children.toList)).getD []

/-- One past the last number the range below node `a` reaches: the current end of the table
while `a` is open, its recorded stop once it is closed. -/
def reach (b : Builder) (a : Nat) : Nat :=
  if a ∈ b.openElems then b.nodes.size else ((b.nodes[a]?).map (·.stop)).getD (a + 1)

theorem parentOf_eq_shape (b : Builder) (c : Nat) :
    b.parentOf c = ((b.nodes[c]?).map Node.shape).bind (·.2.1) := by
  simp only [parentOf]
  cases b.nodes[c]? <;> rfl

theorem kids_eq_shape (b : Builder) (p : Nat) :
    b.kids p = (((b.nodes[p]?).map Node.shape).map (·.2.2.1.toList)).getD [] := by
  simp only [kids]
  cases b.nodes[p]? <;> rfl

/-- The views `parentOf` and `kids` only see the shape of the nodes. -/
theorem parentOf_kids_of_shape {b b' : Builder}
    (h : ∀ c : Nat, (b'.nodes[c]?).map Node.shape = (b.nodes[c]?).map Node.shape) :
    b'.parentOf = b.parentOf ∧ b'.kids = b.kids := by
  constructor
  · funext c
    have hc := h c
    simp only [parentOf]
    cases h₁ : b'.nodes[c]? <;> cases h₂ : b.nodes[c]? <;> simp_all [Node.shape]
  · funext p
    have hp := h p
    simp only [kids]
    cases h₁ : b'.nodes[p]? <;> cases h₂ : b.nodes[p]? <;> simp_all [Node.shape]

/-! ## Adding a node -/

section addNode

variable (b : Builder) (kind : NodeKind) (pos : Option Nat)

@[simp] theorem size_addNode : (b.addNode kind pos).nodes.size = b.nodes.size + 1 := by
  cases h : b.openElems.head? <;> simp [addNode, h]

@[simp] theorem openElems_addNode : (b.addNode kind pos).openElems = b.openElems := by
  cases h : b.openElems.head? <;> simp [addNode, h]

/-- The new node sits at the end of the table with the innermost open element as parent, and
that element gets it as its last child; nothing else changes shape. -/
theorem shape_addNode (hOpen : ∀ a ∈ b.openElems, a < b.nodes.size) (c : Nat) :
    ((b.addNode kind pos).nodes[c]?).map Node.shape =
      if c = b.nodes.size then some (kind, b.openElems.head?, #[], pos)
      else (b.nodes[c]?).map fun n =>
        (n.kind, n.parent, if b.openElems.head? = some c then n.children.push b.nodes.size
          else n.children, n.pos) := by
  cases hp : b.openElems.head? with
  | none =>
    simp only [addNode, hp, Array.getElem?_push]
    by_cases hc : c = b.nodes.size
    · simp [hc, Node.shape]
    · cases b.nodes[c]? <;> simp [hc, Node.shape]
  | some p =>
    simp only [addNode, hp, Array.getElem?_modify, Array.getElem?_push]
    by_cases hc : c = b.nodes.size
    · -- the innermost open element is older than the new node
      have hpN : p ≠ b.nodes.size :=
        Nat.ne_of_lt (hOpen p (List.mem_of_head? hp))
      subst hc
      simp [hpN, Node.shape]
    · by_cases hpc : p = c
      · subst hpc
        cases b.nodes[p]? <;> simp [hc, Node.shape]
      · cases b.nodes[c]? <;> simp [hc, hpc, Node.shape]

@[simp] theorem roots_addNode :
    (b.addNode kind pos).roots =
      if b.openElems.head? = none then b.roots.push b.nodes.size else b.roots := by
  cases h : b.openElems.head? <;> simp [addNode, h]

theorem stop_addNode (c : Nat) :
    ((b.addNode kind pos).nodes[c]?).map (·.stop) =
      if c = b.nodes.size then some (b.nodes.size + 1) else (b.nodes[c]?).map (·.stop) := by
  cases hp : b.openElems.head? with
  | none =>
    simp only [addNode, hp, Array.getElem?_push]
    by_cases hc : c = b.nodes.size <;> simp [hc]
  | some p =>
    simp only [addNode, hp, Array.getElem?_modify, Array.getElem?_push]
    by_cases hc : c = b.nodes.size
    · subst hc
      by_cases hpc : p = b.nodes.size <;> simp [hpc]
    · by_cases hpc : p = c
      · subst hpc
        cases b.nodes[p]? <;> simp [hc]
      · simp [hc, hpc]

variable {b} in
theorem parentOf_addNode (hOpen : ∀ a ∈ b.openElems, a < b.nodes.size) (c : Nat) :
    (b.addNode kind pos).parentOf c =
      if c = b.nodes.size then b.openElems.head? else b.parentOf c := by
  rw [parentOf_eq_shape, shape_addNode b kind pos hOpen, parentOf_eq_shape]
  split
  · rfl
  · cases b.nodes[c]? <;> rfl

variable {b} in
theorem kids_addNode (hOpen : ∀ a ∈ b.openElems, a < b.nodes.size) (p : Nat) :
    (b.addNode kind pos).kids p =
      if b.openElems.head? = some p then b.kids p ++ [b.nodes.size] else b.kids p := by
  rw [kids_eq_shape, shape_addNode b kind pos hOpen, kids_eq_shape]
  by_cases hpN : p = b.nodes.size
  · -- the new node has no children, and it is not open yet
    subst hpN
    have hHead : b.openElems.head? ≠ some b.nodes.size := fun h =>
      Nat.lt_irrefl _ (hOpen _ (List.mem_of_head? h))
    simp [hHead]
  · cases h : b.nodes[p]? with
    | none =>
      have hHead : b.openElems.head? ≠ some p := fun hh => by
        have := hOpen p (List.mem_of_head? hh)
        simp only [Array.getElem?_eq_none_iff] at h
        omega
      simp [hpN, hHead]
    | some n =>
      by_cases hHead : b.openElems.head? = some p <;> simp [hpN, hHead, Node.shape]

variable {b} in
theorem reach_addNode (a : Nat) :
    (b.addNode kind pos).reach a =
      if a ∈ b.openElems ∨ a = b.nodes.size then b.nodes.size + 1 else b.reach a := by
  unfold reach
  rw [openElems_addNode, size_addNode, stop_addNode]
  by_cases hOpen : a ∈ b.openElems
  · simp [hOpen]
  · by_cases ha : a = b.nodes.size <;> simp [hOpen, ha]

variable {b} in
/-- Opening the node just added, as a start tag does, changes no range: the new node reaches
the end of the table either way. -/
theorem reach_openNew (a : Nat) :
    ({ b.addNode kind pos with openElems := b.nodes.size :: b.openElems } : Builder).reach a =
      (b.addNode kind pos).reach a := by
  rw [reach_addNode]
  simp only [reach, List.mem_cons, size_addNode]
  split
  · rename_i h
    rw [if_pos (Or.comm.mp h)]
  · rename_i h
    simp only [not_or] at h
    rw [if_neg (by simp only [not_or]; exact ⟨h.2, h.1⟩)]
    have := stop_addNode b kind pos a
    rw [if_neg h.1] at this
    rw [this, if_neg h.2]

end addNode

/-! ## Closing open elements -/

/-- Closing the innermost open elements down to `t` records the end of the table as the stop
of each element it closes and changes nothing else the invariant sees. What is left open is
the part of the list after `t`; when `t` is not in the list, nothing is left open. -/
theorem closeThrough_frame (b : Builder) (l : List Nat) (t : Nat) :
    (b.closeThrough l t).nodes.size = b.nodes.size ∧
    (b.closeThrough l t).roots = b.roots ∧
    (b.closeThrough l t).openElems <:+ l ∧
    (t ∉ l → (b.closeThrough l t).openElems = []) ∧
    (∀ c : Nat, ((b.closeThrough l t).nodes[c]?).map Node.shape = (b.nodes[c]?).map Node.shape) ∧
    (∀ c : Nat, c ∉ l →
      ((b.closeThrough l t).nodes[c]?).map (·.stop) = (b.nodes[c]?).map (·.stop)) ∧
    (∀ c ∈ l, c ∉ (b.closeThrough l t).openElems → c < b.nodes.size →
      ((b.closeThrough l t).nodes[c]?).map (·.stop) = some b.nodes.size) := by
  induction l generalizing b with
  | nil =>
    exact ⟨rfl, rfl, List.suffix_refl _, fun _ => rfl, fun _ => rfl, fun _ _ => rfl,
      fun _ h => absurd h List.not_mem_nil⟩
  | cons id rest ih =>
    -- the element `id` is closed first, then the rest, unless `id` was the target
    let b₁ : Builder :=
      { b with nodes := b.nodes.modify id fun n => { n with stop := b.nodes.size } }
    have hSize₁ : b₁.nodes.size = b.nodes.size := Array.size_modify
    have hShape₁ : ∀ c : Nat, (b₁.nodes[c]?).map Node.shape = (b.nodes[c]?).map Node.shape := by
      intro c
      simp only [b₁, Array.getElem?_modify]
      split <;> cases b.nodes[c]? <;> rfl
    have hStop₁ : ∀ c : Nat, (b₁.nodes[c]?).map (·.stop) =
        if id = c then (b.nodes[c]?).map fun _ => b.nodes.size else (b.nodes[c]?).map (·.stop) := by
      intro c
      simp only [b₁, Array.getElem?_modify]
      split <;> cases b.nodes[c]? <;> rfl
    have hClosed : ∀ c, c < b.nodes.size → (b.nodes[c]?).map (fun _ => b.nodes.size) =
        some b.nodes.size := by
      intro c hc
      simp [hc]
    simp only [closeThrough]
    split
    · rename_i hid
      simp only [beq_iff_eq] at hid
      refine ⟨hSize₁, rfl, List.suffix_cons _ _, fun ht => absurd (hid ▸ List.mem_cons_self) ht,
        hShape₁, ?_, ?_⟩
      · intro c hc
        simp only [List.mem_cons, not_or] at hc
        rw [hStop₁, if_neg (Ne.symm hc.1)]
      · intro c hc hNot hcs
        simp only [List.mem_cons] at hc
        rcases hc with rfl | hc
        · rw [hStop₁, if_pos rfl]
          exact hClosed c hcs
        · exact absurd hc hNot
    · obtain ⟨hSize, hRoots, hSuffix, hEmpty, hShape, hKeep, hStop⟩ := ih b₁
      refine ⟨hSize.trans hSize₁, hRoots, hSuffix.trans (List.suffix_cons _ _), ?_, ?_, ?_, ?_⟩
      · intro ht
        exact hEmpty fun h => ht (List.mem_cons_of_mem _ h)
      · intro c
        rw [hShape, hShape₁]
      · intro c hc
        simp only [List.mem_cons, not_or] at hc
        rw [hKeep c hc.2, hStop₁, if_neg (Ne.symm hc.1)]
      · intro c hc hNot hcs
        by_cases hRest : c ∈ rest
        · have := hStop c hRest hNot (hSize₁ ▸ hcs)
          rwa [hSize₁] at this
        · have hc' : c = id := by
            simp only [List.mem_cons] at hc
            exact hc.resolve_right hRest
          rw [hKeep c hRest, hStop₁, if_pos hc'.symm]
          exact hClosed c hcs

/-! ## The invariant -/

/-- The builder's invariant. The children of a node are the nodes whose parent it is, in
order, and the top nodes are those without a parent; the parent of a node is the innermost
node whose range holds it; ranges are nested; the open elements are the innermost ones
first, and no closed range holds an open element. -/
structure Shaped (b : Builder) : Prop where
  kids_eq : ∀ p, b.kids p = (List.range b.nodes.size).filter (fun c => b.parentOf c = some p)
  roots_eq : b.roots.toList = (List.range b.nodes.size).filter (fun c => b.parentOf c = none)
  parent_encloses : ∀ c p, b.parentOf c = some p → p < c ∧ c < b.reach p
  parent_innermost : ∀ c a, c < b.nodes.size → a < c → c < b.reach a →
    ∃ p, b.parentOf c = some p ∧ a ≤ p
  laminar : ∀ a c, a < c → c < b.reach a → b.reach c ≤ b.reach a
  open_desc : b.openElems.Pairwise (· > ·)
  open_lt : ∀ a ∈ b.openElems, a < b.nodes.size
  lt_reach : ∀ a, a < b.nodes.size → a < b.reach a ∧ b.reach a ≤ b.nodes.size
  closed_clear : ∀ a c, a ∉ b.openElems → c ∈ b.openElems → ¬ (a < c ∧ c < b.reach a)

theorem shaped_empty : Shaped ({} : Builder) where
  kids_eq p := by simp [kids]
  roots_eq := by simp
  parent_encloses c p h := by simp [parentOf] at h
  parent_innermost c a hc := by simp at hc
  laminar a c hac hc := by
    simp only [reach, List.not_mem_nil, if_false, Array.getElem?_empty, Option.map_none,
      Option.getD_none] at hc ⊢
    omega
  open_desc := List.Pairwise.nil
  open_lt a ha := by simp at ha
  lt_reach a ha := by simp at ha
  closed_clear a c _ hc := by simp at hc

namespace Shaped

variable {b : Builder} (hb : Shaped b)
include hb

/-- The innermost open element is the largest one. -/
theorem le_head {a : Nat} (ha : a ∈ b.openElems) : ∃ h, b.openElems.head? = some h ∧ a ≤ h := by
  cases hOpen : b.openElems with
  | nil => simp [hOpen] at ha
  | cons h rest =>
    have hSorted := hb.open_desc
    rw [hOpen] at ha hSorted
    refine ⟨h, rfl, ?_⟩
    rcases List.mem_cons.mp ha with rfl | ha
    · exact Nat.le_refl _
    · exact Nat.le_of_lt (List.rel_of_pairwise_cons hSorted ha)

/-- A node past the end of the table reaches just past itself. -/
theorem reach_of_ge {a : Nat} (ha : b.nodes.size ≤ a) : b.reach a = a + 1 := by
  have hClosed : a ∉ b.openElems := fun h =>
    Nat.lt_irrefl a (Nat.lt_of_lt_of_le (hb.open_lt a h) ha)
  have hNone : b.nodes[a]? = none := by simp [ha]
  simp [reach, hClosed, hNone]

/-- Adding a node moves the reach of every open element to the new end of the table. -/
theorem reach_le_reach_addNode (kind : NodeKind) (pos : Option Nat) (a : Nat) :
    b.reach a ≤ (b.addNode kind pos).reach a := by
  rw [reach_addNode]
  split
  · rename_i h
    rcases h with hOpen | rfl
    · simp [reach, hOpen]
    · exact Nat.le_of_eq (hb.reach_of_ge (Nat.le_refl _))
  · exact Nat.le_refl _

/-- Only an open element reaches past the end of the table once the new node is added. -/
theorem mem_open_of_lt_reach_addNode {kind : NodeKind} {pos : Option Nat} {a : Nat}
    (ha : a < b.nodes.size) (h : b.nodes.size < (b.addNode kind pos).reach a) :
    a ∈ b.openElems := by
  rw [reach_addNode] at h
  by_cases hOpen : a ∈ b.openElems
  · exact hOpen
  · have := (hb.lt_reach a ha).2
    simp only [hOpen, false_or, Nat.ne_of_lt ha, if_false] at h
    omega

/-- Below the new node, adding it changes no range. -/
theorem lt_reach_addNode_iff {kind : NodeKind} {pos : Option Nat} {a c : Nat}
    (hc : c < b.nodes.size) : c < (b.addNode kind pos).reach a ↔ c < b.reach a := by
  rw [reach_addNode]
  split
  · rename_i h
    rcases h with hOpen | rfl
    · simp only [reach, hOpen, if_true]
      omega
    · rw [hb.reach_of_ge (Nat.le_refl _)]
  · exact Iff.rfl

theorem lt_reach_addNode (kind : NodeKind) (pos : Option Nat) (a : Nat)
    (ha : a < b.nodes.size + 1) :
    a < (b.addNode kind pos).reach a ∧ (b.addNode kind pos).reach a ≤ b.nodes.size + 1 := by
  rw [reach_addNode]
  split
  · omega
  · rename_i h
    have haN : a < b.nodes.size := by
      simp only [not_or] at h
      omega
    have := hb.lt_reach a haN
    omega

/-- Adding a node below the innermost open element keeps the invariant. -/
theorem addNode (kind : NodeKind) (pos : Option Nat) : Shaped (b.addNode kind pos) where
  kids_eq p := by
    rw [kids_addNode kind pos hb.open_lt, size_addNode, List.range_succ, List.filter_append,
      hb.kids_eq p]
    have hOld : (List.range b.nodes.size).filter
        (fun c => (b.addNode kind pos).parentOf c = some p) =
        (List.range b.nodes.size).filter (fun c => b.parentOf c = some p) := by
      apply List.filter_congr
      intro c hc
      rw [parentOf_addNode kind pos hb.open_lt, if_neg (Nat.ne_of_lt (List.mem_range.mp hc))]
    rw [hOld]
    simp only [List.filter_cons, List.filter_nil, parentOf_addNode kind pos hb.open_lt]
    by_cases hp : b.openElems.head? = some p <;> simp [hp]
  roots_eq := by
    rw [roots_addNode, size_addNode, List.range_succ, List.filter_append]
    have hOld : (List.range b.nodes.size).filter
        (fun c => (b.addNode kind pos).parentOf c = none) =
        (List.range b.nodes.size).filter (fun c => b.parentOf c = none) := by
      apply List.filter_congr
      intro c hc
      rw [parentOf_addNode kind pos hb.open_lt, if_neg (Nat.ne_of_lt (List.mem_range.mp hc))]
    rw [hOld, ← hb.roots_eq]
    simp only [List.filter_cons, List.filter_nil, parentOf_addNode kind pos hb.open_lt]
    by_cases hp : b.openElems.head? = none <;> simp [hp]
  parent_encloses c p h := by
    rw [parentOf_addNode kind pos hb.open_lt] at h
    split at h
    · -- the new node: its parent is the innermost open element
      rename_i hc
      have hOpen := List.mem_of_head? h
      have hp := hb.open_lt p hOpen
      rw [reach_addNode, if_pos (Or.inl hOpen)]
      omega
    · have := hb.parent_encloses c p h
      have := hb.reach_le_reach_addNode kind pos p
      omega
  parent_innermost c a hc hac hcr := by
    rw [size_addNode] at hc
    rw [parentOf_addNode kind pos hb.open_lt]
    by_cases hcN : c = b.nodes.size
    · -- a range that holds the new node belongs to an open element, at most the innermost
      subst hcN
      have hOpen := hb.mem_open_of_lt_reach_addNode hac hcr
      obtain ⟨h, hh, hle⟩ := hb.le_head hOpen
      exact ⟨h, by simp [hh], hle⟩
    · have hcN' : c < b.nodes.size := by omega
      rw [if_neg hcN]
      exact hb.parent_innermost c a hcN' hac ((hb.lt_reach_addNode_iff hcN').mp hcr)
  laminar a c hac hcr := by
    have hcBound : c < b.nodes.size + 1 := by
      by_cases ha : a < b.nodes.size + 1
      · have := hb.lt_reach_addNode kind pos a ha
        omega
      · rw [reach_addNode, if_neg (by
          intro h
          rcases h with h | h
          · have := hb.open_lt a h; omega
          · omega), hb.reach_of_ge (by omega)] at hcr
        omega
    by_cases hcN : c = b.nodes.size
    · subst hcN
      have hOpen := hb.mem_open_of_lt_reach_addNode hac hcr
      exact Nat.le_of_eq
        (by rw [reach_addNode, reach_addNode, if_pos (Or.inr rfl), if_pos (Or.inl hOpen)])
    · have hcN' : c < b.nodes.size := by omega
      have hcr' := (hb.lt_reach_addNode_iff hcN').mp hcr
      have hOld := hb.laminar a c hac hcr'
      by_cases hcOpen : c ∈ b.openElems
      · -- an open element lies only in open ranges
        have haOpen : a ∈ b.openElems := by
          by_cases haOpen : a ∈ b.openElems
          · exact haOpen
          · exact absurd ⟨hac, hcr'⟩ (hb.closed_clear a c haOpen hcOpen)
        exact Nat.le_of_eq
          (by rw [reach_addNode, reach_addNode, if_pos (Or.inl hcOpen), if_pos (Or.inl haOpen)])
      · have := hb.reach_le_reach_addNode kind pos a
        rw [reach_addNode kind pos c, if_neg (by
          intro h
          rcases h with h | h
          · exact hcOpen h
          · exact hcN h)]
        omega
  open_desc := by
    rw [openElems_addNode]
    exact hb.open_desc
  open_lt a ha := by
    rw [openElems_addNode] at ha
    rw [size_addNode]
    have := hb.open_lt a ha
    omega
  lt_reach a ha := by
    rw [size_addNode] at ha ⊢
    exact hb.lt_reach_addNode kind pos a ha
  closed_clear a c ha hc := by
    rw [openElems_addNode] at ha hc
    rw [reach_addNode]
    split
    · rename_i h
      rcases h with h | rfl
      · exact absurd h ha
      · have := hb.open_lt c hc
        omega
    · exact hb.closed_clear a c ha hc

end Shaped

/-- The invariant carries over to a builder with the same parents, children, top nodes and
reach, as long as its open elements are again innermost first, inside the table, and outside
every closed range. -/
theorem Shaped.transfer {b b' : Builder} (hb : Shaped b) (hSize : b'.nodes.size = b.nodes.size)
    (hParent : b'.parentOf = b.parentOf) (hKids : b'.kids = b.kids) (hRoots : b'.roots = b.roots)
    (hReach : ∀ a, b'.reach a = b.reach a) (hDesc : b'.openElems.Pairwise (· > ·))
    (hLt : ∀ a ∈ b'.openElems, a < b'.nodes.size)
    (hClear : ∀ a c, a ∉ b'.openElems → c ∈ b'.openElems → ¬ (a < c ∧ c < b'.reach a)) :
    Shaped b' where
  kids_eq p := by rw [hKids, hSize, hParent]; exact hb.kids_eq p
  roots_eq := by rw [hRoots, hSize, hParent]; exact hb.roots_eq
  parent_encloses c p h := by
    rw [hParent] at h
    rw [hReach]
    exact hb.parent_encloses c p h
  parent_innermost c a hc hac hcr := by
    rw [hParent]
    rw [hSize] at hc
    rw [hReach] at hcr
    exact hb.parent_innermost c a hc hac hcr
  laminar a c hac hcr := by
    rw [hReach, hReach]
    rw [hReach] at hcr
    exact hb.laminar a c hac hcr
  open_desc := hDesc
  open_lt := hLt
  lt_reach a ha := by
    rw [hReach, hSize]
    rw [hSize] at ha
    exact hb.lt_reach a ha
  closed_clear := hClear

namespace Shaped

variable {b : Builder} (hb : Shaped b)
include hb

/-- Adding an element and opening it keeps the invariant. -/
theorem openNew (kind : NodeKind) (pos : Option Nat) :
    Shaped { b.addNode kind pos with openElems := b.nodes.size :: b.openElems } := by
  have hb1 := hb.addNode kind pos
  refine hb1.transfer rfl rfl rfl rfl (reach_openNew kind pos) ?_ ?_ ?_
  · refine List.Pairwise.cons (fun a ha => hb.open_lt a ha) hb.open_desc
  · intro a ha
    simp only [List.mem_cons] at ha
    simp only [size_addNode]
    rcases ha with rfl | ha
    · omega
    · have := hb.open_lt a ha
      omega
  · intro a c ha hc
    simp only [List.mem_cons, not_or] at ha hc
    rw [reach_openNew kind pos, reach_addNode, if_neg (by
      simp only [not_or]; exact ⟨ha.2, ha.1⟩)]
    rcases hc with rfl | hc
    · -- a closed range below the end of the table cannot hold the new node
      rintro ⟨hac, hcr⟩
      have := (hb.lt_reach a hac).2
      omega
    · exact hb.closed_clear a c ha.2 hc

/-- Closing the innermost open elements down to any target keeps the invariant: each closed
element's range now ends where the table ends, which is where it reached while open. -/
theorem closeThrough (t : Nat) : Shaped (b.closeThrough b.openElems t) := by
  obtain ⟨hSize, hRoots, hSuffix, -, hShape, hKeep, hStop⟩ := closeThrough_frame b b.openElems t
  obtain ⟨hParent, hKids⟩ := parentOf_kids_of_shape hShape
  obtain ⟨pre, hSplit⟩ := hSuffix
  have hSub : ∀ a ∈ (b.closeThrough b.openElems t).openElems, a ∈ b.openElems :=
    fun a ha => hSplit ▸ List.mem_append_right pre ha
  have hReach : ∀ a, (b.closeThrough b.openElems t).reach a = b.reach a := by
    intro a
    unfold reach
    by_cases hStill : a ∈ (b.closeThrough b.openElems t).openElems
    · rw [if_pos hStill, if_pos (hSub a hStill), hSize]
    · rw [if_neg hStill]
      by_cases hOpen : a ∈ b.openElems
      · -- closed just now, at the end of the table
        rw [if_pos hOpen, hStop a hOpen hStill (hb.open_lt a hOpen)]
        rfl
      · rw [if_neg hOpen, hKeep a hOpen]
  refine hb.transfer hSize hParent hKids hRoots hReach ?_ ?_ ?_
  · have hDesc := hb.open_desc
    rw [← hSplit] at hDesc
    exact (List.pairwise_append.mp hDesc).2.1
  · intro a ha
    rw [hSize]
    exact hb.open_lt a (hSub a ha)
  · intro a c ha hc
    rw [hReach]
    by_cases hOpen : a ∈ b.openElems
    · -- what stays open lies before every element just closed
      have hPre : a ∈ pre := by
        rw [← hSplit] at hOpen
        exact (List.mem_append.mp hOpen).resolve_right ha
      have hDesc := hb.open_desc
      rw [← hSplit] at hDesc
      have := (List.pairwise_append.mp hDesc).2.2 a hPre c hc
      omega
    · exact hb.closed_clear a c hOpen (hSub c hc)

theorem closeNamed (name : String) : Shaped (b.closeNamed name) := by
  unfold Builder.closeNamed
  split
  · exact hb.closeThrough _
  · exact hb

/-- Changing what the invariant does not see keeps it. -/
theorem of_eq {b' : Builder} (hNodes : b'.nodes = b.nodes) (hRoots : b'.roots = b.roots)
    (hOpen : b'.openElems = b.openElems) : Shaped b' := by
  have hParent : b'.parentOf = b.parentOf := by
    funext c
    simp only [parentOf, hNodes]
  have hKids : b'.kids = b.kids := by
    funext p
    simp only [kids, hNodes]
  have hReach : ∀ a, b'.reach a = b.reach a := by
    intro a
    simp only [reach, hNodes, hOpen]
  refine hb.transfer (by rw [hNodes]) hParent hKids hRoots hReach ?_ ?_ ?_
  · rw [hOpen]; exact hb.open_desc
  · rw [hOpen, hNodes]; exact hb.open_lt
  · intro a c ha hc
    rw [hOpen] at ha hc
    rw [hReach]
    exact hb.closed_clear a c ha hc

theorem flush : Shaped b.flush := by
  unfold Builder.flush
  split
  · exact hb
  · exact (hb.addNode _ none).of_eq rfl rfl rfl

/-- Changing a node in a way that keeps its shape and its stop keeps the invariant. -/
theorem modify (p : Nat) (f : Node → Node) (hf : ∀ n, (f n).shape = n.shape ∧ (f n).stop = n.stop) :
    Shaped { b with nodes := b.nodes.modify p f } := by
  have hShape : ∀ c : Nat, (({ b with nodes := b.nodes.modify p f } : Builder).nodes[c]?).map
      Node.shape = (b.nodes[c]?).map Node.shape := by
    intro c
    simp only [Array.getElem?_modify]
    split <;> cases b.nodes[c]? <;> simp [hf]
  have hStop : ∀ c : Nat, ((b.nodes.modify p f)[c]?).map (·.stop) = (b.nodes[c]?).map (·.stop) := by
    intro c
    simp only [Array.getElem?_modify]
    split <;> cases b.nodes[c]? <;> simp [hf]
  obtain ⟨hParent, hKids⟩ := parentOf_kids_of_shape hShape
  have hReach : ∀ a, ({ b with nodes := b.nodes.modify p f } : Builder).reach a = b.reach a := by
    intro a
    simp only [reach, Array.size_modify, hStop]
  refine hb.transfer Array.size_modify hParent hKids rfl hReach hb.open_desc ?_ ?_
  · simp only [Array.size_modify]
    exact hb.open_lt
  · intro a c ha hc
    rw [hReach]
    exact hb.closed_clear a c ha hc

theorem noteAside (kind : Aside) : Shaped (b.noteAside kind) := by
  unfold Builder.noteAside
  split
  · -- an aside only counts towards what the tree does not keep
    exact hb.modify _ _ fun n => ⟨rfl, rfl⟩
  · exact hb.of_eq rfl rfl rfl

theorem endTag (name : String) : Shaped (b.endTag name) := by
  unfold Builder.endTag
  split
  · exact hb.of_eq rfl rfl rfl
  · exact hb.flush.closeNamed name

theorem startTag (name : String) (attrs : List (String × Option String)) (pos : Nat)
    (selfClosing : Bool) : Shaped (b.startTag name attrs pos selfClosing) := by
  unfold Builder.startTag
  have hOpened := hb.flush.openNew (.element name (Attrs.ofWritten attrs)) (some pos)
  simp only [openElems_addNode]
  split
  · exact hOpened.closeNamed name
  · split
    · exact (hOpened.closeNamed name).of_eq rfl rfl rfl
    · exact hOpened

theorem feed (e : Event) : Shaped (b.feed e) := by
  cases e with
  | startTag name attrs pos selfClosing => exact hb.startTag name attrs pos selfClosing
  | endTag name => exact hb.endTag name
  | text data => exact hb.of_eq rfl rfl rfl
  | aside kind => exact hb.flush.noteAside kind

/-- At the end of the page every element is closed, and the invariant still holds. -/
theorem finish : Shaped b.finish ∧ b.finish.openElems = [] := by
  have hf := hb.flush
  refine ⟨hf.closeThrough _, ?_⟩
  obtain ⟨-, -, -, hEmpty, -⟩ := closeThrough_frame b.flush b.flush.openElems b.flush.nodes.size
  exact hEmpty fun h => Nat.lt_irrefl _ (hf.open_lt _ h)

end Shaped

/-- Every builder reached from the empty one by feeding it events keeps the invariant. -/
theorem shaped_foldl (events : List Event) : Shaped (events.foldl feed {}) := by
  suffices h : ∀ b : Builder, Shaped b → Shaped (events.foldl feed b) from h {} shaped_empty
  induction events with
  | nil => intro b hb; exact hb
  | cons e rest ih => intro b hb; exact ih _ (hb.feed e)

/-! ## Positions -/

/-- The positions of the positioned nodes, in the order of their numbers. -/
def positions (b : Builder) : List Nat := b.nodes.toList.filterMap (·.pos)

theorem positions_eq (b : Builder) : b.positions = (b.nodes.toList.map (·.pos)).filterMap id := by
  simp only [positions, List.filterMap_map]
  rfl

theorem posMap_getElem? (b : Builder) (c : Nat) :
    (b.nodes.toList.map (·.pos))[c]? = (b.nodes[c]?).map (·.pos) := by
  simp

/-- The positions only depend on the shapes of the nodes. -/
theorem posMap_of_shape {b b' : Builder}
    (h : ∀ c : Nat, (b'.nodes[c]?).map Node.shape = (b.nodes[c]?).map Node.shape) :
    b'.nodes.toList.map (·.pos) = b.nodes.toList.map (·.pos) := by
  apply List.ext_getElem?
  intro c
  have hc := congrArg (Option.map fun s => s.2.2.2) (h c)
  simp only [Option.map_map] at hc
  rw [posMap_getElem?, posMap_getElem?]
  exact hc

section positions

variable (b : Builder) (kind : NodeKind) (pos : Option Nat)

theorem pos_addNode (c : Nat) :
    ((b.addNode kind pos).nodes[c]?).map (·.pos) =
      if c = b.nodes.size then some pos else (b.nodes[c]?).map (·.pos) := by
  cases hp : b.openElems.head? with
  | none =>
    simp only [addNode, hp, Array.getElem?_push]
    by_cases hc : c = b.nodes.size <;> simp [hc]
  | some p =>
    simp only [addNode, hp, Array.getElem?_modify, Array.getElem?_push]
    by_cases hc : c = b.nodes.size
    · subst hc
      by_cases hpc : p = b.nodes.size <;> simp [hpc]
    · by_cases hpc : p = c
      · subst hpc
        cases b.nodes[p]? <;> simp [hc]
      · simp [hc, hpc]

theorem posMap_addNode :
    (b.addNode kind pos).nodes.toList.map (·.pos) = b.nodes.toList.map (·.pos) ++ [pos] := by
  apply List.ext_getElem?
  intro c
  rw [posMap_getElem?, pos_addNode b kind pos, List.getElem?_append]
  simp only [List.length_map, Array.length_toList]
  by_cases hcN : c = b.nodes.size
  · subst hcN
    simp
  · rw [if_neg hcN]
    by_cases hlt : c < b.nodes.size
    · rw [if_pos hlt]
      simp only [posMap_getElem?]
    · rw [if_neg hlt]
      have hNone : b.nodes[c]? = none := by simp; omega
      simp only [hNone, Option.map_none, List.getElem?_singleton]
      split <;> first | rfl | omega

theorem positions_closeThrough (l : List Nat) (t : Nat) :
    (b.closeThrough l t).positions = b.positions := by
  obtain ⟨-, -, -, -, hShape, -⟩ := closeThrough_frame b l t
  rw [positions_eq, posMap_of_shape hShape, positions_eq]

theorem positions_addNode :
    (b.addNode kind pos).positions = b.positions ++ pos.toList := by
  rw [positions_eq, posMap_addNode, List.filterMap_append, positions_eq]
  cases pos <;> rfl

theorem positions_flush : b.flush.positions = b.positions := by
  unfold Builder.flush
  split
  · rfl
  · rw [show ({ b.addNode _ none with pending := #[] } : Builder).positions =
      (b.addNode _ none).positions from rfl, positions_addNode]
    simp

theorem positions_closeNamed (name : String) : (b.closeNamed name).positions = b.positions := by
  unfold Builder.closeNamed
  split
  · exact positions_closeThrough _ _ _
  · rfl

/-- Each start tag adds its position, and nothing else adds one. -/
theorem positions_feed (e : Event) : (b.feed e).positions = b.positions ++ e.startPos?.toList := by
  cases e with
  | startTag name attrs pos selfClosing =>
    have hAdded : ({ b.flush.addNode (.element name (Attrs.ofWritten attrs)) (some pos) with
        openElems := b.flush.nodes.size :: b.flush.openElems } : Builder).positions =
        b.positions ++ [pos] := by
      rw [show ({ b.flush.addNode (.element name (Attrs.ofWritten attrs)) (some pos) with
        openElems := b.flush.nodes.size :: b.flush.openElems } : Builder).positions =
        (b.flush.addNode (.element name (Attrs.ofWritten attrs)) (some pos)).positions from rfl,
        positions_addNode, positions_flush b]
      rfl
    simp only [Builder.feed, Builder.startTag, openElems_addNode, Event.startPos?,
      Option.toList_some]
    split
    · exact (positions_closeNamed _ name).trans hAdded
    · split
      · exact (positions_closeNamed _ name).trans hAdded
      · exact hAdded
  | endTag name =>
    simp only [Builder.feed, Builder.endTag, Event.startPos?, Option.toList_none, List.append_nil]
    split
    · rfl
    · rw [positions_closeNamed, positions_flush b]
  | text data => simp [Builder.feed, positions, Event.startPos?]
  | aside kind =>
    simp only [Builder.feed, Event.startPos?, Option.toList_none, List.append_nil]
    rw [← positions_flush b]
    unfold Builder.noteAside
    split
    · rw [positions_eq, positions_eq]
      congr 1
      apply posMap_of_shape
      intro c
      simp only [Array.getElem?_modify]
      split <;> cases b.flush.nodes[c]? <;> rfl
    · rfl

theorem positions_finish : b.finish.positions = b.positions := by
  unfold Builder.finish
  simp only
  rw [positions_closeThrough, positions_flush b]

/-! ## Only elements have positions -/

/-- Every element of the table has a position, and no text has one. -/
def Tagged (b : Builder) : Prop :=
  ∀ c : Nat, ∀ sh ∈ (b.nodes[c]?).map Node.shape, sh.2.2.2.isSome = sh.1.isElement

theorem Tagged.of_shape {b b' : Builder} (hb : Tagged b)
    (h : ∀ c : Nat, (b'.nodes[c]?).map Node.shape = (b.nodes[c]?).map Node.shape) : Tagged b' := by
  intro c
  rw [h c]
  exact hb c

theorem tagged_empty : Tagged ({} : Builder) := by
  intro c sh hsh
  simp at hsh

theorem Tagged.addNode {b : Builder} (hb : Tagged b) (hOpen : ∀ a ∈ b.openElems, a < b.nodes.size)
    {kind : NodeKind} {pos : Option Nat} (hNew : pos.isSome = kind.isElement) :
    Tagged (b.addNode kind pos) := by
  intro c sh hsh
  rw [shape_addNode b kind pos hOpen] at hsh
  split at hsh
  · simp only [Option.mem_def, Option.some.injEq] at hsh
    subst hsh
    exact hNew
  · obtain ⟨n, hn, rfl⟩ := Option.map_eq_some_iff.mp hsh
    exact hb c n.shape (Option.mem_map_of_mem _ hn)

theorem Tagged.closeThrough {b : Builder} (hb : Tagged b) (l : List Nat) (t : Nat) :
    Tagged (b.closeThrough l t) :=
  hb.of_shape (closeThrough_frame b l t).2.2.2.2.1

theorem Tagged.closeNamed {b : Builder} (hb : Tagged b) (name : String) :
    Tagged (b.closeNamed name) := by
  unfold Builder.closeNamed
  split
  · exact hb.closeThrough _ _
  · exact hb

theorem Tagged.flush {b : Builder} (hb : Tagged b) (hOpen : ∀ a ∈ b.openElems, a < b.nodes.size) :
    Tagged b.flush := by
  unfold Builder.flush
  split
  · exact hb
  · exact hb.addNode hOpen rfl

theorem Tagged.feed {b : Builder} (hb : Tagged b) (hs : Shaped b) (e : Event) :
    Tagged (b.feed e) := by
  cases e with
  | startTag name attrs pos selfClosing =>
    have hAdded : Tagged (b.flush.addNode (.element name (Attrs.ofWritten attrs)) (some pos)) :=
      (hb.flush hs.open_lt).addNode hs.flush.open_lt rfl
    simp only [Builder.feed, Builder.startTag, openElems_addNode]
    split
    · exact Tagged.closeNamed (b := { b.flush.addNode (.element name (Attrs.ofWritten attrs))
        (some pos) with openElems := b.flush.nodes.size :: b.flush.openElems }) hAdded name
    · split
      · exact Tagged.closeNamed (b := { b.flush.addNode (.element name (Attrs.ofWritten attrs))
          (some pos) with openElems := b.flush.nodes.size :: b.flush.openElems }) hAdded name
      · exact hAdded
  | endTag name =>
    simp only [Builder.feed, Builder.endTag]
    split
    · exact hb
    · exact (hb.flush hs.open_lt).closeNamed name
  | text data => exact hb
  | aside kind =>
    have hf := hb.flush hs.open_lt
    simp only [Builder.feed]
    unfold Builder.noteAside
    split
    · refine hf.of_shape fun c => ?_
      simp only [Array.getElem?_modify]
      split <;> cases b.flush.nodes[c]? <;> rfl
    · exact hf

theorem Tagged.finish {b : Builder} (hb : Tagged b) (hs : Shaped b) : Tagged b.finish :=
  (hb.flush hs.open_lt).closeThrough _ _

end positions

/-- Feeding events adds the positions of their start tags, in order. -/
theorem positions_foldl (events : List Event) (b : Builder) :
    (events.foldl feed b).positions = b.positions ++ events.filterMap Event.startPos? := by
  induction events generalizing b with
  | nil => simp
  | cons e rest ih =>
    rw [List.foldl_cons, ih, positions_feed, List.filterMap_cons]
    cases e.startPos? <;> simp

theorem tagged_foldl (events : List Event) : Tagged (events.foldl feed {}) := by
  suffices h : ∀ b : Builder, Shaped b → Tagged b → Tagged (events.foldl feed b) from
    h {} shaped_empty tagged_empty
  induction events with
  | nil => intro b _ ht; exact ht
  | cons e rest ih => intro b hs ht; exact ih _ (hs.feed e) (ht.feed hs e)

end Builder

/-! ## The document read from a page -/

namespace Document

/-- A nested table of nodes: the children of a node are the nodes whose parent it is, in
order, and the top nodes are those without a parent; the parent of a node is the innermost
node whose range holds it; and ranges are nested. -/
structure Nested (d : Document) : Prop where
  children_eq : ∀ p, (d.childrenOf (some p)).toList =
    (List.range d.size).filter (fun c => d.parent? c = some p)
  roots_eq : d.roots.toList = (List.range d.size).filter (fun c => d.parent? c = none)
  parent_encloses : ∀ c p, d.parent? c = some p → p < c ∧ c < d.stop p
  parent_innermost : ∀ c a, c < d.size → a < c → c < d.stop a →
    ∃ p, d.parent? c = some p ∧ a ≤ p
  laminar : ∀ a c, a < c → c < d.stop a → d.stop c ≤ d.stop a
  lt_stop : ∀ a, a < d.size → a < d.stop a ∧ d.stop a ≤ d.size

/-- What reading a page leaves: the table the builder made from the page's events, once
everything is closed. -/
theorem ofMarkup_eq {markup : String} {withSpans : Bool} {d : Document}
    (h : Document.ofMarkup markup withSpans = .ok d) :
    ∃ events, read markup.toList.toArray = .ok events ∧
      d = { length := markup.toList.toArray.size,
            nodes := (events.foldl Builder.feed {}).finish.nodes,
            roots := (events.foldl Builder.feed {}).finish.roots,
            rootHoldsCharData := (events.foldl Builder.feed {}).finish.rootHoldsCharData,
            rootAsides := (events.foldl Builder.feed {}).finish.rootAsides, withSpans,
            nextStarts := nextStartsOf (events.foldl Builder.feed {}).finish.nodes
              markup.toList.toArray.size } := by
  unfold Document.ofMarkup at h
  cases hr : read markup.toList.toArray with
  | error e => simp [hr, Except.map] at h
  | ok events =>
    simp only [hr, Except.map, Except.ok.injEq] at h
    exact ⟨events, rfl, h.symm⟩

/-- A finished builder with nothing left open gives a nested document. -/
theorem nested_of_shaped {b : Builder} (hb : b.Shaped) (hClosed : b.openElems = [])
    {d : Document} (hNodes : d.nodes = b.nodes) (hRoots : d.roots = b.roots) : d.Nested := by
  have hParent : ∀ c, d.parent? c = b.parentOf c := by
    intro c
    simp only [parent?, node?, Builder.parentOf, hNodes]
  have hChildren : ∀ p, (d.childrenOf (some p)).toList = b.kids p := by
    intro p
    simp only [childrenOf, node?, Builder.kids, hNodes]
    cases b.nodes[p]? <;> rfl
  have hStop : ∀ a, d.stop a = b.reach a := by
    intro a
    simp only [stop, node?, Builder.reach, hClosed, List.not_mem_nil, if_false, hNodes]
    cases b.nodes[a]? <;> rfl
  have hSize : d.size = b.nodes.size := by simp only [size, hNodes]
  have hParentFun : d.parent? = b.parentOf := funext hParent
  have hStopFun : d.stop = b.reach := funext hStop
  refine ⟨?_, ?_, ?_, ?_, ?_, ?_⟩
  · intro p
    rw [hChildren, hSize, hParentFun]
    exact hb.kids_eq p
  · rw [hRoots, hSize, hParentFun]
    exact hb.roots_eq
  · rw [hParentFun, hStopFun]
    exact hb.parent_encloses
  · rw [hParentFun, hStopFun, hSize]
    exact hb.parent_innermost
  · rw [hStopFun]
    exact hb.laminar
  · rw [hStopFun, hSize]
    exact hb.lt_reach

/-- The document read from a page is nested. -/
theorem ofMarkup_nested {markup : String} {withSpans : Bool} {d : Document}
    (h : Document.ofMarkup markup withSpans = .ok d) : d.Nested := by
  obtain ⟨events, -, rfl⟩ := ofMarkup_eq h
  rw [← Array.foldl_toList]
  obtain ⟨hb, hClosed⟩ := (Builder.shaped_foldl events.toList).finish
  exact nested_of_shaped hb hClosed rfl rfl

/-- In the document read from a page, the positions of the positioned nodes strictly increase
with their numbers and lie inside the page; exactly the elements are positioned; and the
table of next starts is the one computed from the nodes. -/
theorem ofMarkup_positions {markup : String} {withSpans : Bool} {d : Document}
    (h : Document.ofMarkup markup withSpans = .ok d) :
    (d.nodes.toList.filterMap (·.pos)).Pairwise (· < ·) ∧
      (∀ p ∈ d.nodes.toList.filterMap (·.pos), p < d.length) ∧
      (∀ (c : Nat) (n : Node), d.nodes[c]? = some n → n.pos.isSome = n.kind.isElement) ∧
      d.length = markup.length ∧ d.withSpans = withSpans ∧
      d.nextStarts = nextStartsOf d.nodes d.length := by
  obtain ⟨events, hRead, rfl⟩ := ofMarkup_eq h
  obtain ⟨hSorted, hInside⟩ := read_starts_ordered hRead
  have hPositions : (events.foldl Builder.feed {}).finish.nodes.toList.filterMap (·.pos) =
      events.toList.filterMap Event.startPos? := by
    rw [← Array.foldl_toList]
    have hs := Builder.shaped_foldl events.toList
    have := Builder.positions_finish (events.toList.foldl Builder.feed {})
    simp only [Builder.positions] at this
    rw [this]
    have hFold := Builder.positions_foldl events.toList {}
    simp only [Builder.positions] at hFold
    rw [hFold]
    simp
  refine ⟨?_, ?_, ?_, by simp [String.length_toList], rfl, rfl⟩
  · rw [hPositions]
    exact hSorted
  · rw [hPositions]
    exact hInside
  · intro c n hn
    rw [← Array.foldl_toList] at hn
    have ht := (Builder.tagged_foldl events.toList).finish (Builder.shaped_foldl events.toList)
    exact ht c n.shape (by rw [hn]; rfl)

end Document

end SearchPage
