/-!
# Documents

A document is the tree read from one page, kept as a table of nodes. A node is an element
(a tag name and its attributes) or a piece of text. Comments, declarations and the like
are not nodes. Nodes are numbered from zero in document order, which is the pre-order of
the tree, so the nodes below a node are exactly those numbered from just after it up to
its `stop`; a node also knows its parent and its children.

An element remembers where its start tag begins in the page. Its *span* runs from there to
the beginning of the next element after everything below it, or to the end of the page:
the part of the page that the element and its content occupy.

## Main statements

* `Document.isDescendant_iff`: a node lies below another exactly when its number falls in
  the other's range.
-/

namespace SearchPage

/-- A half-open range of source positions `[start, stop)`. -/
structure Span where
  start : Int
  stop : Int
  deriving DecidableEq, Repr

/-- Whether `inner` begins strictly inside `outer`. -/
def Span.holdsStartOf (outer inner : Span) : Bool :=
  outer.start < inner.start && inner.start < outer.stop

/-- What a node is: an element with its name and attributes (in the order they were first
written), or a piece of text. -/
inductive NodeKind where
  | element (name : String) (attrs : List (String × String))
  | text (data : String)
  deriving DecidableEq, Repr

/-- One node of a document's table. -/
structure Node where
  kind : NodeKind
  /-- The enclosing element, `none` at the top of the document. -/
  parent : Option Nat
  /-- The numbers of the child nodes, in order. -/
  children : Array Nat := #[]
  /-- Where the start tag of an element begins in the page. -/
  pos : Option Nat := none
  /-- One past the number of the last node below this one. -/
  stop : Nat
  /-- Whether a character-data section stands among the children. -/
  holdsCharData : Bool := false
  /-- How many asides (comments, declarations, ...) stand among the children. -/
  asides : Nat := 0
  /-- Where the node stands among everything its parent holds, asides included. -/
  slot : Nat := 0
  deriving Repr

/-- The tree read from one page. -/
structure Document where
  /-- The length of the page, in characters. -/
  length : Nat
  nodes : Array Node
  /-- The nodes at the top of the document, in order. -/
  roots : Array Nat
  /-- Whether a character-data section stands at the top of the document. -/
  rootHoldsCharData : Bool := false
  /-- How many asides stand at the top of the document. -/
  rootAsides : Nat := 0
  /-- Whether the spans of elements are reported. -/
  withSpans : Bool := true
  /-- For each number `k`, where the first element numbered `k` or later begins (the page
  length if there is none); one entry more than there are nodes. -/
  nextStarts : Array Nat := #[]
  deriving Repr

namespace Document

/-- The node with a number, if there is one. -/
def node? (d : Document) (id : Nat) : Option Node := d.nodes[id]?

/-- Whether a number names an element. -/
def isElement (d : Document) (id : Nat) : Bool :=
  match d.node? id with
  | some { kind := .element .., .. } => true
  | _ => false

/-- Whether a number names a piece of text. -/
def isText (d : Document) (id : Nat) : Bool :=
  match d.node? id with
  | some { kind := .text .., .. } => true
  | _ => false

/-- The tag name of an element. -/
def name? (d : Document) (id : Nat) : Option String :=
  match d.node? id with
  | some { kind := .element name _, .. } => some name
  | _ => none

/-- The attributes of an element (none for text). -/
def attrs (d : Document) (id : Nat) : List (String × String) :=
  match d.node? id with
  | some { kind := .element _ attrs, .. } => attrs
  | _ => []

/-- The value of an attribute of an element. -/
def attr? (d : Document) (id : Nat) (key : String) : Option String :=
  (d.attrs id).lookup key

/-- The text of a text node. -/
def text? (d : Document) (id : Nat) : Option String :=
  match d.node? id with
  | some { kind := .text data, .. } => some data
  | _ => none

/-- The parent of a node; `none` at the top of the document. -/
def parent? (d : Document) (id : Nat) : Option Nat :=
  (d.node? id).bind (·.parent)

/-- The children of a node, or the top nodes for `none` (the document itself). -/
def childrenOf (d : Document) : Option Nat → Array Nat
  | some id => (d.node? id).elim #[] (·.children)
  | none => d.roots

/-- One past the number of the last node below `id`. -/
def stop (d : Document) (id : Nat) : Nat :=
  (d.node? id).elim (id + 1) (·.stop)

/-- The nodes below `id`, in document order. -/
def descendants (d : Document) (id : Nat) : List Nat :=
  List.range' (id + 1) (d.stop id - (id + 1))

/-- Whether `inner` lies below `outer`. -/
def isDescendant (d : Document) (outer inner : Nat) : Bool :=
  outer < inner && inner < d.stop outer

/-- Where the first element numbered `k` or later begins, or the page length. -/
def nextStart (d : Document) (k : Nat) : Nat :=
  d.nextStarts[k]?.getD d.length

/-- The span of an element, when spans are reported. -/
def span? (d : Document) (id : Nat) : Option Span :=
  if d.withSpans then
    match d.node? id with
    | some { pos := some p, stop := s, .. } => some ⟨p, d.nextStart s⟩
    | _ => none
  else none

/-- The number of nodes. -/
def size (d : Document) : Nat := d.nodes.size

theorem isDescendant_iff (d : Document) (outer inner : Nat) :
    d.isDescendant outer inner = true ↔ inner ∈ d.descendants outer := by
  simp only [isDescendant, descendants, Bool.and_eq_true, decide_eq_true_eq, List.mem_range'_1]
  omega

end Document

end SearchPage
