import SearchPage.Proofs.TextPieces

/-!
# Walks with an explicit stack

A forest can be walked with an explicit stack whose top is its last entry (`Tree.walk`): each
round takes the top tree off, reads it, and pushes its children in reverse so that the first
child is taken next. Two walks are made this way: the one that lists the trees below a tree
(`Tree.iterDescendants`), and the one that reads the text pieces below a list of trees
(`Tree.textPayloads`). This module shows that both read their forest in pre-order.

The invariant of the loop (`Tree.walk_eq_flatMap`) is that the stack, read from the top, is the
forest still to be walked: the walk of a stack gives what each of its trees gives walked alone,
one tree after the other from the top down. One round keeps it, because the children pushed in
reverse come off the stack first and in order, before the trees that were under their parent.
The induction is on the total size of the trees on the stack, which every round lowers.

## Main statements

* `Tree.walk_eq_flatMap`: the walk of a stack reads its trees from the top down.
* `Tree.iterDescendants_eq_flatMap`: the trees below a tree are its children, each followed by
  the trees below it.
* `Document.iterDescendants_treeAt`, `Document.textPayloads_map_treeAt`: over the trees of a
  nested table, the two walks read the descendants of a node and the pieces below a list of
  nodes.
* `stack_walks_read_preorder`: the walks of a document read from a page.
-/

namespace SearchPage

namespace Tree

variable {α : Type} (visit : Tree → List α × Bool)

/-- The walk of an empty stack gives nothing. -/
theorem walk_empty : walk visit #[] = [] := by
  rw [walk]
  split
  · rfl
  · rename_i h; simp at h
  · rename_i h; simp at h

/-- One round of the walk: the tree on top is read and, when the visit goes below it, its
children are pushed in reverse. -/
theorem walk_push (stack : Array Tree) (t : Tree) :
    walk visit (stack.push t) =
      (visit t).1 ++
        walk visit (if (visit t).2 then stack ++ t.children.reverse.toArray else stack) := by
  rw [walk]
  split
  · rename_i h; simp at h
  · rename_i id data h
    simp only [Array.back?_push, Option.some.injEq] at h
    subst h
    -- a text has no children, so pushing them or not leaves the same stack
    simp only [Array.pop_push, children, List.reverse_nil, Array.append_empty,
      ite_self]
  · rename_i id name attrs span cs h
    simp only [Array.back?_push, Option.some.injEq] at h
    subst h
    simp only [Array.pop_push, children]

/-- The children of a tree weigh less than the tree. -/
theorem forestSize_children_lt (t : Tree) : forestSize t.children < sizeOf t := by
  cases t with
  | text id data =>
    rw [children, forestSize, Tree.text.sizeOf_spec]
    omega
  | element id name attrs span cs =>
    have := forestSize_lt_sizeOf cs
    rw [children, Tree.element.sizeOf_spec]
    omega

/-- A tree walked alone gives what the visit reads from it and then, when the visit goes
below it, what the walk of its children gives. -/
theorem walk_singleton_of {t : Tree}
    (hBelow : walk visit t.children.reverse.toArray = t.children.flatMap fun u => walk visit #[u]) :
    walk visit #[t] =
      (visit t).1 ++ if (visit t).2 then t.children.flatMap (fun u => walk visit #[u]) else [] := by
  rw [show (#[t] : Array Tree) = (#[] : Array Tree).push t from rfl, walk_push]
  split
  · rw [Array.empty_append, hBelow]
  · rw [walk_empty]

/-- The walk of a stack gives, one after the other, what each of its trees gives walked alone,
from the top down. The stack read from the top is the forest still to be walked. -/
theorem walk_eq_flatMap (stack : Array Tree) :
    walk visit stack = stack.toList.reverse.flatMap fun t => walk visit #[t] := by
  by_cases hs : stack.size = 0
  · rw [Array.size_eq_zero_iff.mp hs, walk_empty]
    rfl
  · obtain ⟨rest, t, rfl⟩ := Array.eq_push_of_size_ne_zero hs
    have hBelow := walk_eq_flatMap t.children.reverse.toArray
    have hNext := walk_eq_flatMap (if (visit t).2 then rest ++ t.children.reverse.toArray else rest)
    simp only [List.reverse_reverse] at hBelow
    rw [walk_push, hNext, Array.toList_push, List.reverse_append, List.reverse_singleton,
      List.singleton_append, List.flatMap_cons, walk_singleton_of visit hBelow, List.append_assoc]
    congr 1
    split
    · simp [Array.toList_append, List.reverse_append, List.flatMap_append]
    · simp
termination_by forestSize stack.toList
decreasing_by
  all_goals
    subst_vars
    have hChildren := forestSize_children_lt t
    rw [Array.toList_push, forestSize_append, forestSize, forestSize]
  · rw [List.toList_toArray, forestSize_reverse]
    omega
  · split
    · rw [Array.toList_append, forestSize_append, List.toList_toArray, forestSize_reverse]
      omega
    · omega

/-- A tree walked alone gives what the visit reads from it and then, when the visit goes
below it, what its children give walked alone, one after the other. -/
theorem walk_singleton (t : Tree) :
    walk visit #[t] =
      (visit t).1 ++ if (visit t).2 then t.children.flatMap (fun u => walk visit #[u]) else [] := by
  refine walk_singleton_of visit ?_
  rw [walk_eq_flatMap]
  simp only [List.reverse_reverse]

/-! ## The trees below a tree -/

theorem iterDescendants_eq_walk (t : Tree) :
    t.iterDescendants = walk (fun u => ([u], true)) t.children.reverse.toArray := by
  cases t with
  | text id data => simp [iterDescendants, children, walk_empty]
  | element id name attrs span cs => rfl

/-- The trees below a tree are its children, left to right, each followed by the trees below
it. -/
theorem iterDescendants_eq_flatMap (t : Tree) :
    t.iterDescendants = t.children.flatMap fun u => u :: u.iterDescendants := by
  rw [iterDescendants_eq_walk, walk_eq_flatMap]
  simp only [List.reverse_reverse]
  apply List.flatMap_congr
  intro u _
  rw [walk_singleton, if_pos rfl, iterDescendants_eq_walk, walk_eq_flatMap]
  simp

theorem preorder_eq_cons (t : Tree) : t.preorder = t.id :: preorderAll t.children := by
  cases t <;> rfl

theorem sizeOf_lt_of_mem_children {t u : Tree} (hu : u ∈ t.children) : sizeOf u < sizeOf t := by
  cases t with
  | text id data => simp [children] at hu
  | element id name attrs span cs =>
    have hMem : u ∈ cs := hu
    have := List.sizeOf_lt_of_mem hMem
    simp only [Tree.element.sizeOf_spec]
    omega

/-- The numbers of the trees below a tree are the pre-order of its children. -/
theorem iterDescendants_map_id (t : Tree) :
    t.iterDescendants.map id = preorderAll t.children := by
  rw [iterDescendants_eq_flatMap, List.map_flatMap, preorderAll_eq_flatMap]
  apply List.flatMap_congr
  intro u hu
  rw [List.map_cons, iterDescendants_map_id u, preorder_eq_cons]
termination_by sizeOf t
decreasing_by exact sizeOf_lt_of_mem_children hu

/-! ## The text below a forest -/

/-- The pieces below a forest are those below its trees, one tree after the other. -/
theorem textPayloads_eq_flatMap (trim : Bool) (ts : List Tree) :
    textPayloads trim ts = ts.flatMap fun t => textPayloads trim [t] := by
  rw [textPayloads, walk_eq_flatMap]
  simp only [List.reverse_reverse]
  rfl

/-- A piece of text gives itself, trimmed when asked, unless that is empty. -/
theorem textPayloads_text (trim : Bool) (id : Nat) (data : String) :
    textPayloads trim [.text id data] =
      (nonEmpty (if trim then Text.trim data else data)).toList := by
  simp [textPayloads, walk_singleton, textVisit]

/-- An element gives the pieces below its children, unless it is a `script` or `style`
element. -/
theorem textPayloads_element (trim : Bool) (id : Nat) (name : String)
    (attrs : List (String × String)) (span : Option Span) (cs : List Tree) :
    textPayloads trim [.element id name attrs span cs] =
      if nonTextElements.contains name then [] else textPayloads trim cs := by
  rw [textPayloads, List.reverse_singleton, walk_singleton, textPayloads_eq_flatMap]
  cases h : nonTextElements.contains name
  · simp only [textVisit, children, h, Bool.not_false, if_true, List.nil_append]
    rfl
  · simp only [textVisit, h, Bool.not_true, Bool.false_eq_true, if_false, if_true,
      List.append_nil]

end Tree

namespace Document

/-- Past the table the tree of a number is an empty piece of text. -/
theorem treeAt_of_not_lt {d : Document} {c : Nat} (hc : ¬c < d.size) :
    d.treeAt c = .text c "" := by
  rw [treeAt, dif_neg (by simpa [size] using hc)]

section walks

variable {d : Document} (hn : d.Nested) (hpe : ∀ c p, d.parent? c = some p → d.isElement p = true)
include hn hpe

/-- The trees below the tree of a node are the trees of the node's descendants, in order. -/
theorem iterDescendants_treeAt (c : Nat) :
    (d.treeAt c).iterDescendants = (d.descendants c).map d.treeAt := by
  by_cases hc : c < d.size
  · obtain ⟨n, hNode⟩ := exists_getElem?_of_lt_size hc
    have hKind := isElement_of_getElem? hNode
    rw [treeAt_eq hn hNode]
    obtain ⟨kind, parent, children, pos, stop, holdsCharData, asides, slot⟩ := n
    cases kind with
    | text data =>
      -- a piece of text has nothing below it
      have hStop := stop_of_not_isElement hn hpe hc hKind
      simp [Tree.iterDescendants, descendants, hStop]
    | element name attrs =>
      rw [Tree.iterDescendants_eq_flatMap, descendants_eq_flatMap hn c]
      simp only [Tree.children, List.flatMap_map, List.map_flatMap, List.map_cons]
      apply List.flatMap_congr
      intro k hk
      rw [iterDescendants_treeAt k]
  · -- past the table the tree is an empty piece of text, with nothing below
    rw [treeAt_of_not_lt hc, descendants, stop_of_ge (by omega)]
    simp [Tree.iterDescendants]
termination_by d.size - c
decreasing_by
  have hkc := (hn.parent_encloses k c ((hn.mem_childrenOf).mp hk).2).1
  have hkSize := ((hn.mem_childrenOf).mp hk).1
  omega

/-- The text walk over the tree of a node reads the pieces the walk down the table from the
node reads. -/
theorem textPayloads_treeAt (o : TextOptions) (c : Nat) :
    Tree.textPayloads o.trim [d.treeAt c] = d.textFrom o c := by
  by_cases hc : c < d.size
  · obtain ⟨n, hNode⟩ := exists_getElem?_of_lt_size hc
    have hKind := isElement_of_getElem? hNode
    rw [treeAt_eq hn hNode]
    obtain ⟨kind, parent, children, pos, stop, holdsCharData, asides, slot⟩ := n
    cases kind with
    | text data =>
      have hText : d.text? c = some data := by simp [text?, node?, hNode]
      rw [Tree.textPayloads_text, textFrom_of_not_element hn hpe hKind, hText]
      rfl
    | element name attrs =>
      have hName : d.name? c = some name := by simp [name?, node?, hNode]
      have hHides : d.hidesText c = nonTextElements.contains name := by
        simp only [hidesText, hName, Option.any_some]
      rw [Tree.textPayloads_element]
      by_cases hHide : nonTextElements.contains name = true
      · rw [if_pos hHide, textFrom_of_hidesText (hHides.trans hHide)]
      · rw [if_neg hHide, textFrom_of_element hn hKind (hHides.trans (Bool.eq_false_iff.mpr hHide)),
          Tree.textPayloads_eq_flatMap, List.flatMap_map]
        apply List.flatMap_congr
        intro k hk
        exact textPayloads_treeAt o k
  · -- past the table the tree is an empty piece of text, and the walk reads nothing
    have hNone : d.node? c = none := Array.getElem?_eq_none (by simpa [size] using hc)
    have hTrim : Text.trim "" = "" := by decide
    rw [treeAt_of_not_lt hc, Tree.textPayloads_text,
      textFrom_of_not_element hn hpe (by simp [isElement, hNone])]
    cases o.trim <;> simp [hTrim, nonEmpty_empty, text?, hNone]
termination_by d.size - c
decreasing_by
  have hkc := (hn.parent_encloses k c ((hn.mem_childrenOf).mp hk).2).1
  omega

/-- The text walk over the trees of a list of nodes reads the pieces below the nodes. -/
theorem textPayloads_map_treeAt (o : TextOptions) (ids : List Nat) :
    Tree.textPayloads o.trim (ids.map d.treeAt) = piecesOf d o ids := by
  rw [Tree.textPayloads_eq_flatMap, List.flatMap_map, piecesOf_eq_flatMap hn hpe]
  exact List.flatMap_congr fun c _ => textPayloads_treeAt hn hpe o c

end walks

end Document

/-- The walks with an explicit stack read a forest in pre-order. The trees below a tree are its
children, left to right, each followed by the trees below it, so that their numbers are the
pre-order of the children. The text walk over a list of trees reads the trees one after the
other: a piece of text gives itself, trimmed when asked, unless that is empty, and an element
gives the pieces below its children unless it is a `script` or `style` element. In a document
read from a page, the trees below the tree of a node are the trees of the node's descendants,
which are its children each followed by its own descendants; and the text walk over the trees
of a list of nodes reads the pieces below those nodes. -/
theorem stack_walks_read_preorder {markup : String} {withSpans : Bool} {d : Document}
    (h : Document.parse markup withSpans = .ok d) :
    (∀ t : Tree, t.iterDescendants = t.children.flatMap fun u => u :: u.iterDescendants) ∧
    (∀ t : Tree, t.iterDescendants.map Tree.id = Tree.preorderAll t.children) ∧
    (∀ c, (d.treeAt c).iterDescendants = (d.descendants c).map d.treeAt) ∧
    (∀ c, d.descendants c = (d.childrenOf (some c)).toList.flatMap fun k => k :: d.descendants k) ∧
    (∀ trim ts, Tree.textPayloads trim ts = ts.flatMap fun t => Tree.textPayloads trim [t]) ∧
    (∀ trim id data, Tree.textPayloads trim [.text id data] =
      (nonEmpty (if trim then Text.trim data else data)).toList) ∧
    (∀ trim id name attrs span cs, Tree.textPayloads trim [.element id name attrs span cs] =
      if nonTextElements.contains name then [] else Tree.textPayloads trim cs) ∧
    (∀ (o : TextOptions) ids, Tree.textPayloads o.trim (ids.map d.treeAt) = piecesOf d o ids) := by
  have hm := Document.ofMarkup_of_parse h
  have hn := Document.ofMarkup_nested hm
  have hpe : ∀ c p, d.parent? c = some p → d.isElement p = true := fun c p hp =>
    Document.ofMarkup_parent_isElement hm hp
  exact ⟨Tree.iterDescendants_eq_flatMap, Tree.iterDescendants_map_id,
    Document.iterDescendants_treeAt hn hpe, Document.descendants_eq_flatMap hn,
    Tree.textPayloads_eq_flatMap, Tree.textPayloads_text, Tree.textPayloads_element,
    Document.textPayloads_map_treeAt hn hpe⟩

/-- The walks of a page with two paragraphs in a `div` read it in pre-order. -/
theorem stack_walks_of_two_paragraphs :
    ∃ d, Document.parse "<div><p>a</p><p>b</p></div>" false = .ok d ∧
      (∀ t : Tree, t.iterDescendants = t.children.flatMap fun u => u :: u.iterDescendants) ∧
      (∀ t : Tree, t.iterDescendants.map Tree.id = Tree.preorderAll t.children) ∧
      (∀ c, (d.treeAt c).iterDescendants = (d.descendants c).map d.treeAt) ∧
      (∀ c, d.descendants c =
        (d.childrenOf (some c)).toList.flatMap fun k => k :: d.descendants k) ∧
      (∀ trim ts, Tree.textPayloads trim ts = ts.flatMap fun t => Tree.textPayloads trim [t]) ∧
      (∀ trim id data, Tree.textPayloads trim [.text id data] =
        (nonEmpty (if trim then Text.trim data else data)).toList) ∧
      (∀ trim id name attrs span cs, Tree.textPayloads trim [.element id name attrs span cs] =
        if nonTextElements.contains name then [] else Tree.textPayloads trim cs) ∧
      (∀ (o : TextOptions) ids,
        Tree.textPayloads o.trim (ids.map d.treeAt) = piecesOf d o ids) := by
  obtain ⟨d, h⟩ := exists_ok_of_isOk (show
    (Document.parse "<div><p>a</p><p>b</p></div>" false).isOk = true by decide +kernel)
  exact ⟨d, h, stack_walks_read_preorder h⟩

end SearchPage
