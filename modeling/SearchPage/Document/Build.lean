import SearchPage.Document.Basic
import SearchPage.Markup.Reader
import SearchPage.Fault

/-!
# Building a document from events

The events of the markup reader are turned into a tree with these rules.

* A start tag opens an element inside the innermost open one. Nothing is ever closed
  implicitly: `<p>a<p>b` puts the second paragraph inside the first.
* An end tag closes the innermost open element of that name, with every element opened
  inside it; when no element of that name is open it is ignored.
* A void element (`br`, `img`, ...) is closed at once by its start tag, and one later end
  tag of the same name is then ignored. A tag written `<x/>` opens and closes its element,
  leaving such a pending end tag to be ignored.
* Consecutive pieces of text form one text node; a start tag, an end tag that closes
  something or finds nothing to close, and any aside end a piece. A text node made only of
  markup space, outside `pre` and `textarea`, becomes a single line feed if it holds one,
  and a single blank otherwise.
* An attribute written twice keeps its first place and takes its last value; an attribute
  without a value has the empty value.

An element's span ends where the first element after its subtree begins. The builder records
where each range of numbers ends as it closes elements; two passes back to front over the
finished table give the same ends from the children alone (`subtreeLastsOf`) and, for each
number, where the first element at or after it begins (`nextStartsOf`).

## Main statements

* `Attrs.set_lookup`: after setting an attribute its value is the one set.
-/

namespace SearchPage

open SearchPage.Markup SearchPage.Text

/-- The void elements: they never have content. -/
def voidElements : List String :=
  ["area", "base", "br", "col", "embed", "hr", "img", "input", "keygen", "link", "menuitem",
   "meta", "param", "source", "track", "wbr", "basefont", "bgsound", "command", "frame",
   "image", "isindex", "nextid", "spacer"]

/-- The elements inside which blank text is kept as written. -/
def blankKeepingElements : List String := ["pre", "textarea"]

namespace Attrs

/-- Set an attribute: a new name goes last, a known name keeps its place. -/
def set : List (String × String) → String → String → List (String × String)
  | [], k, v => [(k, v)]
  | (k', v') :: rest, k, v => if k' == k then (k, v) :: rest else (k', v') :: set rest k v

/-- The attributes of a start tag: written order of first occurrence, last value. -/
def ofWritten (written : List (String × Option String)) : List (String × String) :=
  written.foldl (fun acc (k, v) => set acc k (v.getD "")) []

theorem set_lookup (as : List (String × String)) (k v : String) :
    (set as k v).lookup k = some v := by
  induction as with
  | nil => simp [set]
  | cons p rest ih =>
    obtain ⟨k', v'⟩ := p
    by_cases h : k' = k
    · subst h; simp [set]
    · have h' : (k' == k) = false := by simp [h]
      have h'' : (k == k') = false := by simp [Ne.symm h]
      simp [set, h', List.lookup_cons, h'', ih]

end Attrs

/-- The state of the tree builder. -/
structure Builder where
  nodes : Array Node := #[]
  roots : Array Nat := #[]
  /-- The open elements, innermost first. -/
  openElems : List Nat := []
  /-- Text read but not yet made a node. -/
  pending : Array String := #[]
  /-- Void elements closed by their start tag whose next end tag is to be ignored. -/
  closedVoid : List String := []
  rootHoldsCharData : Bool := false
  rootAsides : Nat := 0

namespace Builder

/-- The name of a node of the table under construction. -/
def nameOf (b : Builder) (id : Nat) : String :=
  match b.nodes[id]? with
  | some { kind := .element name _, .. } => name
  | _ => ""

/-- Add a node inside the innermost open element. -/
def addNode (b : Builder) (kind : NodeKind) (pos : Option Nat) : Builder :=
  let id := b.nodes.size
  let parent := b.openElems.head?
  let slot := match parent with
    | some p => (b.nodes[p]?).elim 0 fun n => n.children.size + n.asides
    | none => b.roots.size + b.rootAsides
  let nodes := b.nodes.push { kind, parent, pos, stop := id + 1, slot }
  match parent with
  | some p => { b with nodes := nodes.modify p fun n => { n with children := n.children.push id } }
  | none => { b with nodes, roots := b.roots.push id }

/-- How a piece of text is kept: made only of markup space and outside `pre` and
`textarea`, it becomes one line feed or one blank. -/
def foldBlank (keep : Bool) (data : String) : String :=
  if !keep && data.toList.all isMarkupSpace then
    if data.toList.contains '\n' then "\n" else " "
  else data

/-- Make the pending text a node. -/
def flush (b : Builder) : Builder :=
  if b.pending.isEmpty then b
  else
    let keep := b.openElems.any fun id => blankKeepingElements.contains (b.nameOf id)
    let data := foldBlank keep (String.join b.pending.toList)
    { b.addNode (.text data) none with pending := #[] }

/-- Close the innermost open elements down to the given one, recording where each
element's range of numbers ends. -/
def closeThrough (b : Builder) : List Nat → Nat → Builder
  | [], _ => { b with openElems := [] }
  | id :: rest, target =>
    let b := { b with nodes := b.nodes.modify id fun n => { n with stop := b.nodes.size } }
    if id == target then { b with openElems := rest } else closeThrough b rest target

/-- Close the innermost open element named `name`, if there is one. -/
def closeNamed (b : Builder) (name : String) : Builder :=
  match b.openElems.find? fun id => b.nameOf id == name with
  | some target => b.closeThrough b.openElems target
  | none => b

/-- An end tag: ignored once after a void element of that name, else it closes. -/
def endTag (b : Builder) (name : String) : Builder :=
  if b.closedVoid.contains name then { b with closedVoid := b.closedVoid.erase name }
  else (b.flush).closeNamed name

/-- A start tag. -/
def startTag (b : Builder) (name : String) (attrs : List (String × Option String))
    (pos : Nat) (selfClosing : Bool) : Builder :=
  let b := b.flush
  let id := b.nodes.size
  let b := b.addNode (.element name (Attrs.ofWritten attrs)) (some pos)
  let b := { b with openElems := id :: b.openElems }
  if selfClosing then b.closeNamed name
  else if voidElements.contains name then
    { b.closeNamed name with closedVoid := name :: b.closedVoid }
  else b

/-- Note an aside in the innermost open element. -/
def noteAside (b : Builder) (kind : Aside) : Builder :=
  let cdata := kind == .characterData
  match b.openElems.head? with
  | some p => { b with nodes := b.nodes.modify p fun n =>
      { n with asides := n.asides + 1, holdsCharData := n.holdsCharData || cdata } }
  | none => { b with rootAsides := b.rootAsides + 1,
                     rootHoldsCharData := b.rootHoldsCharData || cdata }

/-- Take one event. -/
def feed (b : Builder) : Event → Builder
  | .startTag name attrs pos selfClosing => b.startTag name attrs pos selfClosing
  | .endTag name => b.endTag name
  | .text data => { b with pending := b.pending.push data }
  | .aside kind => b.flush.noteAside kind

/-- Close everything at the end of the page. -/
def finish (b : Builder) : Builder :=
  let b := b.flush
  b.closeThrough b.openElems (b.nodes.size)

end Builder

/-- One step of the pass back to front over the table: an element with children takes the entry
of its last child, and anything else keeps its entry. -/
def subtreeLastStep (nodes : Array Node) (i : Nat) (last : Array Nat) : Array Nat :=
  match nodes[i]? with
  | some { kind := .element .., children, .. } =>
    match children.back? with
    | some c => last.setIfInBounds i (last[c]?.getD c)
    | none => last
  | _ => last

/-- For each number, the last number of the subtree at that node, computed back to front: an
element with children ends where the subtree of its last child ends, and anything else ends at
itself. A child comes after its parent, so its entry is final when the parent reads it. -/
def subtreeLastsOf (nodes : Array Node) : Array Nat :=
  (List.range nodes.size).foldr (subtreeLastStep nodes) (Array.range nodes.size)

/-- For each number, where the first element with that number or a later one begins. -/
def nextStartsOf (nodes : Array Node) (length : Nat) : Array Nat :=
  (nodes.foldr (fun n (acc : List Nat) =>
    match n.pos, acc with
    | some p, _ => p :: acc
    | none, next :: _ => next :: acc
    | none, [] => length :: acc) [length]).toArray

/-- The document read from a page, or why the page cannot be read. Spans are reported
when `withSpans` holds. -/
def Document.ofMarkup (markup : String) (withSpans : Bool) : Except ReadFault Document :=
  let src : Source := markup.toList.toArray
  (read src).map fun events =>
    let b := (events.foldl Builder.feed {}).finish
    { length := src.size, nodes := b.nodes, roots := b.roots,
      rootHoldsCharData := b.rootHoldsCharData, rootAsides := b.rootAsides, withSpans,
      nextStarts := nextStartsOf b.nodes src.size }

/-- The document read from a page; a page that cannot be read is a fault. -/
def Document.parse (markup : String) (withSpans : Bool) : Except Fault Document :=
  (Document.ofMarkup markup withSpans).mapError .markup

end SearchPage
