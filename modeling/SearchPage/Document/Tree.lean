import SearchPage.Document.Basic

/-!
# The nested view of a document

The table of a document seen as a forest: each element with its number, name, attributes,
span and children, each text with its number and data. This is the shape in which a whole
document is reported.

A forest can also be walked with an explicit stack (`Tree.walk`): the top tree is taken off,
read, and its children pushed in reverse so that the first child comes next.
-/

namespace SearchPage

/-- A node of a document with everything below it. -/
inductive Tree where
  | element (id : Nat) (name : String) (attrs : List (String × String)) (span : Option Span)
      (children : List Tree)
  | text (id : Nat) (data : String)
  deriving Repr

namespace Document

/-- The tree below a node. A child always has a larger number than its parent, which is
what bounds the descent. -/
def treeAt (d : Document) (id : Nat) : Tree :=
  if h : id < d.nodes.size then
    match d.nodes[id] with
    | { kind := .text data, .. } => .text id data
    | { kind := .element name attrs, children, .. } =>
      .element id name attrs (d.span? id)
        (children.toList.attach.filterMap fun c =>
          if id < c.1 then some (d.treeAt c.1) else none)
  else .text id ""
termination_by d.nodes.size - id

/-- The whole document as a forest. -/
def forest (d : Document) : List Tree :=
  d.roots.toList.map d.treeAt

end Document

namespace Tree

/-- The sizes of a list of trees added up: what a stack of trees weighs. It is written out
rather than as a `List.sum`, so that it reads the same whatever algebra is in scope. -/
noncomputable def forestSize : List Tree → Nat
  | [] => 0
  | t :: ts => sizeOf t + forestSize ts

theorem forestSize_append (ts us : List Tree) :
    forestSize (ts ++ us) = forestSize ts + forestSize us := by
  induction ts with
  | nil => rw [List.nil_append, forestSize, Nat.zero_add]
  | cons t ts ih => rw [List.cons_append, forestSize, forestSize, ih, Nat.add_assoc]

theorem forestSize_reverse (ts : List Tree) : forestSize ts.reverse = forestSize ts := by
  induction ts with
  | nil => rfl
  | cons t ts ih =>
    rw [List.reverse_cons, forestSize_append, ih, forestSize, forestSize, forestSize]
    omega

/-- The sizes of a list of trees add up to less than the size of the list. -/
theorem forestSize_lt_sizeOf (ts : List Tree) : forestSize ts < sizeOf ts := by
  induction ts with
  | nil => exact Nat.zero_lt_one
  | cons t ts ih =>
    rw [forestSize, List.cons.sizeOf_spec]
    omega

/-- Walk a forest with an explicit stack whose top is its last entry. Each round takes the top
tree off, gives what `visit` reads from it, and, when `visit` asks to go below it, pushes the
tree's children in reverse, so that the first child is taken next. -/
def walk {α : Type} (visit : Tree → List α × Bool) (stack : Array Tree) : List α :=
  match _hTop : stack.back? with
  | none => []
  | some (.text id data) => (visit (.text id data)).1 ++ walk visit stack.pop
  | some (.element id name attrs span children) =>
    let t := Tree.element id name attrs span children
    (visit t).1 ++
      walk visit (if (visit t).2 then stack.pop ++ children.reverse.toArray else stack.pop)
termination_by forestSize stack.toList
decreasing_by
  all_goals
    obtain ⟨rest, rfl⟩ := Array.back?_eq_some_iff.mp _hTop
    rw [Array.pop_push, Array.toList_push, forestSize_append, forestSize, forestSize]
  · rw [Tree.text.sizeOf_spec]
    omega
  · -- the children pushed weigh less than the element taken off
    have hChildren := forestSize_lt_sizeOf children
    rw [Tree.element.sizeOf_spec]
    split
    · rw [Array.toList_append, forestSize_append, List.toList_toArray, forestSize_reverse]
      omega
    · omega

/-- The trees below the top of a tree, in the order a walk with an explicit stack meets them:
the stack starts with the children, the first on top, and every tree taken off is given and
has its own children pushed. -/
def iterDescendants : Tree → List Tree
  | .element _ _ _ _ children => walk (fun t => ([t], true)) children.reverse.toArray
  | .text .. => []

end Tree

end SearchPage
