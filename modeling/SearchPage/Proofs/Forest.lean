import SearchPage.Document.Tree
import SearchPage.Proofs.Selection
import SearchPage.Proofs.Spans

/-!
# The forest of a document

A document is reported as a forest (`Document.forest`): each node with everything below it.
This module shows that the forest is the table it is made from, read in pre-order: listing
the roots in order, each node followed by the subtrees of its children, gives the numbers
`0, 1, …, n - 1` in that order, where `n` is the number of nodes. Each element's subtrees are
those of its children, in order, and the children of a node are exactly the nodes whose
parent it is.

Two facts about the table carry the proof. The builder only ever makes an element a parent,
so a piece of text has nothing below it (`ElementParents`). And the ranges of the children
of a node tile the node's own range: the first child comes right after the node, each next
child where the previous one's range stops, and the last child's range stops where the
node's does (`flatMap_ranges`, `childrenOf_tile`).

## Main statements

* `Document.ofMarkup_parent_isElement`: in a document read from a page, parents are
  elements.
* `Document.preorder_treeAt`: the pre-order of the tree at a node is the node's range.
* `Document.forest_preorder`: the pre-order of a page's forest is its table.
-/

namespace SearchPage

open SearchPage.Markup

namespace Builder

/-! ## Only elements are parents -/

/-- Whether the table holds an element at a number. -/
def elementAt (b : Builder) (a : Nat) : Bool :=
  (((b.nodes[a]?).map Node.shape).map (·.1.isElement)).getD false

/-- Every open node and every parent is an element. -/
structure ElementParents (b : Builder) : Prop where
  open_element : ∀ a ∈ b.openElems, b.elementAt a = true
  parent_element : ∀ c p, b.parentOf c = some p → b.elementAt p = true

theorem elementAt_addNode {b : Builder} (hOpen : ∀ a ∈ b.openElems, a < b.nodes.size)
    {kind : NodeKind} {pos : Option Nat} {a : Nat} (ha : a < b.nodes.size) :
    (b.addNode kind pos).elementAt a = b.elementAt a := by
  simp only [elementAt, shape_addNode b kind pos hOpen, Nat.ne_of_lt ha, if_false]
  cases b.nodes[a]? <;> rfl

theorem lt_size_of_parentOf {b : Builder} {c p : Nat} (h : b.parentOf c = some p) :
    c < b.nodes.size := by
  simp only [parentOf, Option.bind_eq_some_iff] at h
  obtain ⟨n, hn, -⟩ := h
  exact (Array.getElem?_eq_some_iff.mp hn).1

namespace ElementParents

/-- Operations that keep the shape of every node and only close open elements keep the
invariant. -/
theorem of_shape {b b' : Builder} (hb : ElementParents b)
    (h : ∀ c : Nat, (b'.nodes[c]?).map Node.shape = (b.nodes[c]?).map Node.shape)
    (hOpen : ∀ a ∈ b'.openElems, a ∈ b.openElems) : ElementParents b' := by
  have hAt : b'.elementAt = b.elementAt := by
    funext a
    simp only [elementAt, h a]
  refine ⟨fun a ha => ?_, fun c p hp => ?_⟩
  · rw [hAt]
    exact hb.open_element a (hOpen a ha)
  · rw [hAt]
    rw [(parentOf_kids_of_shape h).1] at hp
    exact hb.parent_element c p hp

theorem of_eq {b b' : Builder} (hb : ElementParents b) (hNodes : b'.nodes = b.nodes)
    (hOpen : b'.openElems = b.openElems) : ElementParents b' :=
  hb.of_shape (fun c => by rw [hNodes]) fun a ha => hOpen ▸ ha

theorem empty : ElementParents ({} : Builder) where
  open_element a ha := by cases ha
  parent_element c p hp := by simp [parentOf] at hp

section closing

variable {b : Builder} (hb : ElementParents b)
include hb

theorem closeThrough (l : List Nat) (t : Nat) (hl : ∀ a ∈ l, a ∈ b.openElems) :
    ElementParents (b.closeThrough l t) :=
  hb.of_shape (closeThrough_frame b l t).2.2.2.2.1
    fun a ha => hl a ((closeThrough_frame b l t).2.2.1.subset ha)

theorem closeNamed (name : String) : ElementParents (b.closeNamed name) := by
  unfold Builder.closeNamed
  split
  · exact hb.closeThrough _ _ fun _ h => h
  · exact hb

/-- An aside only counts towards what the tree does not keep. -/
theorem noteAside (kind : Aside) : ElementParents (b.noteAside kind) := by
  unfold Builder.noteAside
  split
  · refine hb.of_shape (fun c => ?_) fun _ h => h
    simp only [Array.getElem?_modify]
    split <;> cases b.nodes[c]? <;> rfl
  · exact hb.of_eq rfl rfl

end closing

variable {b : Builder} (hb : ElementParents b) (hs : Shaped b)
include hb hs

/-- A new node goes below the innermost open element, which is an element. -/
theorem addNode (kind : NodeKind) (pos : Option Nat) : ElementParents (b.addNode kind pos) := by
  refine ⟨fun a ha => ?_, fun c p hp => ?_⟩
  · rw [openElems_addNode] at ha
    rw [elementAt_addNode hs.open_lt (hs.open_lt a ha)]
    exact hb.open_element a ha
  · rw [parentOf_addNode kind pos hs.open_lt] at hp
    split at hp
    · -- the new node's parent is the innermost open element
      have hMem : p ∈ b.openElems := List.mem_of_mem_head? hp
      rw [elementAt_addNode hs.open_lt (hs.open_lt p hMem)]
      exact hb.open_element p hMem
    · have hpSize : p < b.nodes.size :=
        Nat.lt_trans (hs.parent_encloses c p hp).1 (lt_size_of_parentOf hp)
      rw [elementAt_addNode hs.open_lt hpSize]
      exact hb.parent_element c p hp

theorem flush : ElementParents b.flush := by
  unfold Builder.flush
  split
  · exact hb
  · exact (hb.addNode hs _ _).of_eq rfl rfl

/-- A start tag opens a new element, the only node that becomes open. -/
theorem startTag (name : String) (attrs : List (String × Option String)) (pos : Nat)
    (selfClosing : Bool) : ElementParents (b.startTag name attrs pos selfClosing) := by
  have hAdded := (hb.flush hs).addNode hs.flush (.element name (Attrs.ofWritten attrs)) (some pos)
  have hOpened : ElementParents { b.flush.addNode (.element name (Attrs.ofWritten attrs)) (some pos)
      with openElems := b.flush.nodes.size :: b.flush.openElems } := by
    refine ⟨fun a ha => ?_, hAdded.parent_element⟩
    rcases List.mem_cons.mp ha with rfl | ha
    · rw [elementAt, shape_addNode _ _ _ hs.flush.open_lt, if_pos rfl]
      rfl
    · rw [← openElems_addNode b.flush (.element name (Attrs.ofWritten attrs)) (some pos)] at ha
      exact hAdded.open_element a ha
  unfold Builder.startTag
  simp only [openElems_addNode]
  split
  · exact hOpened.closeNamed name
  · split
    · exact (hOpened.closeNamed name).of_eq rfl rfl
    · exact hOpened

theorem feed (e : Event) : ElementParents (b.feed e) := by
  cases e with
  | startTag name attrs pos selfClosing => exact hb.startTag hs name attrs pos selfClosing
  | endTag name =>
    simp only [Builder.feed, Builder.endTag]
    split
    · exact hb.of_eq rfl rfl
    · exact (hb.flush hs).closeNamed name
  | text data => exact hb.of_eq rfl rfl
  | aside kind => exact (hb.flush hs).noteAside kind

theorem finish : ElementParents b.finish :=
  (hb.flush hs).closeThrough _ _ fun _ h => h

end ElementParents

theorem elementParents_foldl (events : List Event) :
    ElementParents (events.foldl feed {}) := by
  suffices h : ∀ b : Builder, Shaped b → ElementParents b →
      ElementParents (events.foldl feed b) from h {} shaped_empty ElementParents.empty
  induction events with
  | nil => intro b _ hb; exact hb
  | cons e rest ih => intro b hs hb; exact ih _ (hs.feed e) (hb.feed hs e)

end Builder

/-! ## Ranges that tile -/

/-- Ranges `[k, stop k)` that lie in `[lo, hi)`, each starting where the previous one stops,
and that together cover `[lo, hi)` list its numbers in order. -/
theorem flatMap_ranges {stop : Nat → Nat} {lo hi : Nat} {ks : List Nat}
    (hLt : ∀ k ∈ ks, k < stop k) (hIn : ∀ k ∈ ks, lo ≤ k ∧ stop k ≤ hi)
    (hApart : ks.Pairwise fun a b => stop a ≤ b)
    (hCover : ∀ j, lo ≤ j → j < hi → ∃ k ∈ ks, k ≤ j ∧ j < stop k) :
    ks.flatMap (fun k => List.range' k (stop k - k)) = List.range' lo (hi - lo) := by
  induction ks generalizing lo with
  | nil =>
    have hEmpty : hi ≤ lo := by
      rcases Nat.lt_or_ge lo hi with h | h
      · obtain ⟨k, hk, -⟩ := hCover lo (Nat.le_refl _) h
        cases hk
      · exact h
    simp [Nat.sub_eq_zero_of_le hEmpty]
  | cons k ks ih =>
    obtain ⟨hloK, hKhi⟩ := hIn k List.mem_cons_self
    have hkStop := hLt k List.mem_cons_self
    have hAfter := (List.pairwise_cons.mp hApart).1
    -- the first range starts at `lo`, since `lo` itself is covered
    have hk : k = lo := by
      rcases Nat.lt_or_ge lo k with h | h
      · obtain ⟨k', hk', hk'lo, hlo⟩ := hCover lo (Nat.le_refl _) (by omega)
        rcases List.mem_cons.mp hk' with rfl | hk'
        · omega
        · have := hAfter k' hk'
          omega
      · omega
    subst hk
    have hRest : ks.flatMap (fun k => List.range' k (stop k - k)) =
        List.range' (stop k) (hi - stop k) := ih (fun k' hk' => hLt k' (List.mem_cons_of_mem _ hk'))
      (fun k' hk' => ⟨hAfter k' hk', (hIn k' (List.mem_cons_of_mem _ hk')).2⟩)
      (List.pairwise_cons.mp hApart).2
      (fun j hj hjhi => by
        obtain ⟨k', hk', h1, h2⟩ := hCover j (by omega) hjhi
        rcases List.mem_cons.mp hk' with rfl | hk'
        · omega
        · exact ⟨k', hk', h1, h2⟩)
    rw [List.flatMap_cons, hRest]
    have hJoin := List.range'_append_1 (s := k) (m := stop k - k) (n := hi - stop k)
    rw [show k + (stop k - k) = stop k by omega, show stop k - k + (hi - stop k) = hi - k by omega]
      at hJoin
    exact hJoin

namespace Document

/-! ## Parents are elements -/

theorem isElement_eq_elementAt {d : Document} {b : Builder} (h : d.nodes = b.nodes) (p : Nat) :
    d.isElement p = b.elementAt p := by
  simp only [isElement, node?, Builder.elementAt, h]
  cases b.nodes[p]? with
  | none => rfl
  | some n =>
    obtain ⟨kind, parent, children, pos, stop, holdsCharData, asides, slot⟩ := n
    cases kind <;> rfl

/-- In a document read from a page, every parent is an element. -/
theorem ofMarkup_parent_isElement {markup : String} {withSpans : Bool} {d : Document}
    (h : Document.ofMarkup markup withSpans = .ok d) {c p : Nat} (hp : d.parent? c = some p) :
    d.isElement p = true := by
  obtain ⟨events, -, rfl⟩ := ofMarkup_eq h
  rw [← Array.foldl_toList] at hp ⊢
  have hb := (Builder.elementParents_foldl events.toList).finish
    (Builder.shaped_foldl events.toList)
  rw [isElement_eq_elementAt rfl]
  exact hb.parent_element c p hp

/-! ## The ranges of the children of a node -/

/-- The first number below `P`: right after the node, or zero below the document itself. -/
def firstBelow : Option Nat → Nat
  | some c => c + 1
  | none => 0

/-- One past the last number below `P`: the node's stop, or the size of the table below the
document itself. -/
def endBelow (d : Document) : Option Nat → Nat
  | some c => d.stop c
  | none => d.size

namespace Nested

variable {d : Document} (hn : d.Nested)
include hn

theorem childrenOf_eq (P : Option Nat) :
    (d.childrenOf P).toList = (List.range d.size).filter fun k => d.parent? k = P := by
  cases P with
  | some c => exact hn.children_eq c
  | none => exact hn.roots_eq

theorem mem_childrenOf {P : Option Nat} {k : Nat} :
    k ∈ (d.childrenOf P).toList ↔ k < d.size ∧ d.parent? k = P := by
  simp [hn.childrenOf_eq P]

/-- The range of a child lies in the range below its parent. -/
theorem child_range {P : Option Nat} {k : Nat} (hk : k < d.size) (hkP : d.parent? k = P) :
    firstBelow P ≤ k ∧ d.stop k ≤ d.endBelow P := by
  cases P with
  | some c =>
    have hEnc := hn.parent_encloses k c hkP
    exact ⟨hEnc.1, hn.laminar c k hEnc.1 hEnc.2⟩
  | none => exact ⟨Nat.zero_le _, (hn.lt_stop k hk).2⟩

/-- The range of a child ends before the next child of the same parent. -/
theorem stop_le_of_siblings {P : Option Nat} {a b : Nat} (haP : d.parent? a = P)
    (hb : b < d.size) (hbP : d.parent? b = P) (hab : a < b) : d.stop a ≤ b := by
  rcases Nat.lt_or_ge b (d.stop a) with hInside | hAfter
  · -- otherwise `b` would lie below `a`, and its parent would be `a` or below it
    obtain ⟨p, hp, hap⟩ := hn.parent_innermost b a hb hab hInside
    cases P with
    | none => rw [hbP] at hp; cases hp
    | some c =>
      rw [hbP, Option.some.injEq] at hp
      have hca := (hn.parent_encloses a c haP).1
      omega
  · exact hAfter

/-- Every number below `P` lies in the range of a child of `P`. -/
theorem exists_child_range {P : Option Nat} {j : Nat} (hj : firstBelow P ≤ j)
    (hjEnd : j < d.endBelow P) : ∃ k, (k < d.size ∧ d.parent? k = P) ∧ k ≤ j ∧ j < d.stop k := by
  induction j using Nat.strongRecOn with
  | _ j ih =>
    have hjSize : j < d.size := by
      cases P with
      | some c => exact hn.lt_size_of_lt_stop (by simp only [firstBelow] at hj; omega) hjEnd
      | none => exact hjEnd
    by_cases hjP : d.parent? j = P
    · exact ⟨j, ⟨hjSize, hjP⟩, Nat.le_refl _, (hn.lt_stop j hjSize).1⟩
    · -- the parent of `j` is itself below `P`; its child of `P` holds `j` too
      obtain ⟨p, hp, hpBelow⟩ : ∃ p, d.parent? j = some p ∧ firstBelow P ≤ p := by
        cases P with
        | some c =>
          obtain ⟨p, hp, hcp⟩ :=
            hn.parent_innermost j c hjSize (by simp only [firstBelow] at hj; omega) hjEnd
          have hpc : p ≠ c := fun h => hjP (h ▸ hp)
          exact ⟨p, hp, by simp only [firstBelow]; omega⟩
        | none =>
          cases hq : d.parent? j with
          | none => exact absurd hq hjP
          | some p => exact ⟨p, rfl, Nat.zero_le _⟩
      have hEnc := hn.parent_encloses j p hp
      obtain ⟨k, hk, hkp, hpk⟩ := ih p hEnc.1 hpBelow (by omega)
      refine ⟨k, hk, by omega, ?_⟩
      rcases Nat.eq_or_lt_of_le hkp with rfl | hkp
      · exact hEnc.2
      · have := hn.laminar k p hkp hpk
        omega

/-- The ranges of the children of `P`, in order, list the numbers below `P`. -/
theorem childrenOf_tile (P : Option Nat) :
    (d.childrenOf P).toList.flatMap (fun k => List.range' k (d.stop k - k)) =
      List.range' (firstBelow P) (d.endBelow P - firstBelow P) := by
  apply flatMap_ranges
  · intro k hk
    exact (hn.lt_stop k ((hn.mem_childrenOf).mp hk).1).1
  · intro k hk
    obtain ⟨hkSize, hkP⟩ := (hn.mem_childrenOf).mp hk
    exact hn.child_range hkSize hkP
  · rw [hn.childrenOf_eq P]
    refine (List.pairwise_lt_range.filter _).imp_of_mem ?_
    intro a b ha hb hab
    simp only [List.mem_filter, List.mem_range, decide_eq_true_eq] at ha hb
    exact hn.stop_le_of_siblings ha.2 hb.1 hb.2 hab
  · intro j hj hjEnd
    obtain ⟨k, hk, hkj, hjk⟩ := hn.exists_child_range hj hjEnd
    exact ⟨k, (hn.mem_childrenOf).mpr hk, hkj, hjk⟩

end Nested

end Document

/-! ## Trees in pre-order -/

namespace Tree

/-- The number of the node at the top of a tree. -/
def id : Tree → Nat
  | .element id .. => id
  | .text id _ => id

/-- The trees right below the top, in order. -/
def children : Tree → List Tree
  | .element _ _ _ _ children => children
  | .text .. => []

mutual

/-- The numbers of a tree in pre-order: its top, then the subtrees of its children in order. -/
def preorder : Tree → List Nat
  | .element id _ _ _ children => id :: preorderAll children
  | .text id _ => [id]

/-- The numbers of a forest in pre-order, tree after tree. -/
def preorderAll : List Tree → List Nat
  | [] => []
  | t :: ts => preorder t ++ preorderAll ts

end

theorem preorderAll_eq_flatMap (ts : List Tree) : preorderAll ts = ts.flatMap preorder := by
  induction ts with
  | nil => rfl
  | cons t ts ih => rw [preorderAll, ih, List.flatMap_cons]

end Tree

namespace Document

theorem lt_size_of_isElement {d : Document} {c : Nat} (h : d.isElement c = true) :
    c < d.size := by
  by_contra hOut
  have hNone : d.nodes[c]? = none := Array.getElem?_eq_none (Nat.le_of_not_lt hOut)
  simp [isElement, node?, hNone] at h

theorem isElement_of_getElem? {d : Document} {c : Nat} {n : Node} (hc : d.nodes[c]? = some n) :
    d.isElement c = n.kind.isElement := by
  simp only [isElement, node?, hc]
  obtain ⟨kind, parent, children, pos, stop, holdsCharData, asides, slot⟩ := n
  cases kind <;> rfl

theorem exists_getElem?_of_lt_size {d : Document} {c : Nat} (hc : c < d.size) :
    ∃ n, d.nodes[c]? = some n :=
  ⟨d.nodes[c], Array.getElem?_eq_getElem hc⟩

/-- The tree at a node of a nested table: a piece of text, or an element with the trees of its
children, in order. -/
theorem treeAt_eq {d : Document} (hn : d.Nested) {c : Nat} {n : Node}
    (hc : d.nodes[c]? = some n) :
    d.treeAt c = match n.kind with
      | .text data => .text c data
      | .element name attrs =>
        .element c name attrs (d.span? c) ((d.childrenOf (some c)).toList.map d.treeAt) := by
  obtain ⟨hlt, hget⟩ := Array.getElem?_eq_some_iff.mp hc
  have hChildren : (d.childrenOf (some c)).toList = n.children.toList := by
    simp [childrenOf, node?, hc]
  -- every child has a larger number, so the descent drops none of them
  have hKids : ∀ k ∈ n.children.toList, c < k := fun k hk =>
    (hn.parent_encloses k c (hn.parent_of_mem_children (hChildren ▸ hk))).1
  rw [treeAt, dif_pos hlt]
  simp only [hget]
  obtain ⟨kind, parent, children, pos, stop, holdsCharData, asides, slot⟩ := n
  cases kind with
  | text data => rfl
  | element name attrs =>
    simp only [hChildren]
    rw [List.filterMap_eq_map_iff_forall_eq_some.mpr fun k _ => if_pos (hKids k.1 k.2),
      List.attach_map_val]

section preorder

variable {d : Document} (hn : d.Nested) (hpe : ∀ c p, d.parent? c = some p → d.isElement p = true)
include hn hpe

/-- A piece of text has nothing below it. -/
theorem stop_of_not_isElement {t : Nat} (ht : t < d.size) (hText : d.isElement t = false) :
    d.stop t = t + 1 := by
  have hLt := (hn.lt_stop t ht).1
  rcases Nat.lt_or_ge (t + 1) (d.stop t) with hMore | hLe
  · -- the next node would lie below `t`, with `t` as its parent
    obtain ⟨p, hp, htp⟩ := hn.parent_innermost (t + 1) t
      (hn.lt_size_of_lt_stop (by omega) hMore) (by omega) hMore
    have hpt := (hn.parent_encloses _ p hp).1
    have hEq : p = t := by omega
    subst hEq
    rw [hpe _ _ hp] at hText
    cases hText
  · omega

/-- The pre-order of the tree at a node lists the node's range. -/
theorem preorder_treeAt (c : Nat) (hc : c < d.size) :
    (d.treeAt c).preorder = List.range' c (d.stop c - c) := by
  obtain ⟨n, hNode⟩ := exists_getElem?_of_lt_size hc
  have hKind := isElement_of_getElem? hNode
  rw [treeAt_eq hn hNode]
  obtain ⟨kind, parent, children, pos, stop, holdsCharData, asides, slot⟩ := n
  cases kind with
  | text data =>
    rw [stop_of_not_isElement hn hpe hc hKind]
    simp [Tree.preorder]
  | element name attrs =>
    -- each child's subtree lists the child's range, and these ranges tile the node's range
    have hSubtrees : ∀ k ∈ (d.childrenOf (some c)).toList,
        (d.treeAt k).preorder = List.range' k (d.stop k - k) := fun k hk =>
      preorder_treeAt k ((hn.mem_childrenOf).mp hk).1
    have hStop := (hn.lt_stop c hc).1
    simp only [Tree.preorder, Tree.preorderAll_eq_flatMap, List.flatMap_map]
    rw [List.flatMap_congr hSubtrees, hn.childrenOf_tile (some c)]
    simp only [firstBelow, endBelow]
    rw [show d.stop c - c = d.stop c - (c + 1) + 1 by omega, List.range'_succ]
termination_by d.size - c
decreasing_by
  have hkc := (hn.parent_encloses k c ((hn.mem_childrenOf).mp hk).2).1
  omega

/-- The pre-order of the forest lists the whole table. -/
theorem forest_preorder : Tree.preorderAll d.forest = List.range d.size := by
  have hTrees : ∀ k ∈ (d.childrenOf none).toList,
      (d.treeAt k).preorder = List.range' k (d.stop k - k) := fun k hk =>
    preorder_treeAt hn hpe k ((hn.mem_childrenOf).mp hk).1
  have hTile := hn.childrenOf_tile none
  simp only [childrenOf, firstBelow, endBelow, Nat.sub_zero] at hTile hTrees
  rw [forest, Tree.preorderAll_eq_flatMap, List.flatMap_map, List.range_eq_range', ← hTile]
  exact List.flatMap_congr hTrees

end preorder

/-- The forest of a page, read with or without spans, is its table in pre-order: listing the
roots in order, each node followed by the subtrees of its children, gives the numbers
`0, 1, …, n - 1` in order. The tree at each number is the node with that number; the
subtrees of an element are those of its children, in order; the children of a node, and the
roots, are exactly the nodes with that parent, in order; so every node a query finds is in the
forest. -/
theorem forest_lists_table {markup : String} {withSpans : Bool} {d : Document}
    (h : Document.parse markup withSpans = .ok d) :
    Tree.preorderAll d.forest = List.range d.size ∧
    (∀ c, c < d.size → (d.treeAt c).id = c) ∧
    (∀ c, d.isElement c = true →
      (d.treeAt c).children = (d.childrenOf (some c)).toList.map d.treeAt) ∧
    (∀ P, (d.childrenOf P).toList = (List.range d.size).filter fun k => d.parent? k = P) ∧
    (∀ q target ns, select d q target = .ok ns → ∀ n ∈ ns, n ∈ Tree.preorderAll d.forest) := by
  have hm := ofMarkup_of_parse h
  have hn := ofMarkup_nested hm
  have hpe : ∀ c p, d.parent? c = some p → d.isElement p = true := fun c p hp =>
    ofMarkup_parent_isElement hm hp
  have hForest := forest_preorder hn hpe
  refine ⟨hForest, ?_, ?_, hn.childrenOf_eq, ?_⟩
  · -- the tree at each number of the table starts with that number
    intro c hc
    obtain ⟨n, hc'⟩ := exists_getElem?_of_lt_size hc
    rw [treeAt_eq hn hc']
    split <;> rfl
  · intro c hc
    obtain ⟨n, hc'⟩ := exists_getElem?_of_lt_size (lt_size_of_isElement hc)
    rw [treeAt_eq hn hc']
    rw [isElement_of_getElem? hc'] at hc
    split
    · rename_i hKind
      rw [hKind] at hc
      cases hc
    · rfl
  · intro q target ns hSel n hn'
    rw [hForest, List.mem_range]
    exact lt_size_of_isElement (select_isElement hSel n hn')

/-- The forest of a page with a comment between two paragraphs. -/
theorem forest_of_commented_paragraphs :
    ∃ d, Document.parse "<div><p>a</p><!-- b --><p>c</p></div>" false = .ok d ∧
      Tree.preorderAll d.forest = List.range d.size ∧
      (∀ c, c < d.size → (d.treeAt c).id = c) ∧
      (∀ c, d.isElement c = true →
        (d.treeAt c).children = (d.childrenOf (some c)).toList.map d.treeAt) ∧
      (∀ P, (d.childrenOf P).toList = (List.range d.size).filter fun k => d.parent? k = P) ∧
      (∀ q target ns, select d q target = .ok ns →
        ∀ n ∈ ns, n ∈ Tree.preorderAll d.forest) := by
  obtain ⟨d, h⟩ := exists_ok_of_isOk (show
    (Document.parse "<div><p>a</p><!-- b --><p>c</p></div>" false).isOk = true by decide +kernel)
  exact ⟨d, h, forest_lists_table h⟩

end Document

end SearchPage
