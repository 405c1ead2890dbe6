import SearchPage.Query.Basic
import SearchPage.Document.Tree
import SearchPage.Text.Blank
import SearchPage.Fault

/-!
# Text and attributes of a target

The text of a target is made of the pieces of text below it, in document order. The
contents of `script` and `style` elements are never text. Each piece may be trimmed of
blanks first; empty pieces are dropped. The pieces are joined with a separator, or only
the first is taken, and an empty result is no text at all.

A lone text node is its own text. A lone `script` or `style` element has none.

The same pieces can be read off the trees of the nodes with an explicit stack
(`Tree.textPayloads`).

An attribute is read from the first member of a target only; an empty value counts as
missing.

## Main statements

* `piecesBelow_ne_empty`: no piece is empty.
* `getText_ne_some_empty`: the text of a target is never empty.
-/

namespace SearchPage

open SearchPage.Text

/-- Elements whose contents are never part of the visible text. -/
def nonTextElements : List String := ["script", "style"]

/-- How text pieces are read and put together. -/
structure TextOptions where
  separator : String := ", "
  trim : Bool := true
  shallow : Bool := false
  deriving Repr, Inhabited

namespace TextOptions

/-- A piece of text as it is read, trimmed when asked. -/
def piece (o : TextOptions) (data : String) : String :=
  if o.trim then Text.trim data else data

/-- The pieces put together: the first only when shallow, otherwise all of them joined;
nothing when that is empty. -/
def assemble (o : TextOptions) (pieces : List String) : Option String :=
  if o.shallow then pieces.head?
  else
    let s := o.separator.intercalate pieces
    if s.isEmpty then none else some s

end TextOptions

/-- Text for a value that counts as missing when empty. -/
def nonEmpty (s : String) : Option String := if s.isEmpty then none else some s

/-- The non-empty pieces of text at and below node `id`, within `fuel` levels. -/
def piecesBelow (doc : Document) (o : TextOptions) : Nat → Nat → List String
  | 0, _ => []
  | fuel + 1, id =>
    match doc.text? id with
    | some data => (nonEmpty (o.piece data)).toList
    | none =>
      match doc.name? id with
      | some name =>
        if nonTextElements.contains name then []
        else (doc.childrenOf (some id)).toList.flatMap (piecesBelow doc o fuel)
      | none => []

/-- The non-empty pieces of text at and below the given nodes. -/
def piecesOf (doc : Document) (o : TextOptions) (ids : List Nat) : List String :=
  ids.flatMap (piecesBelow doc o (doc.size + 1))

/-- What the text walk reads from one tree: a piece of text gives itself, trimmed when asked
and kept when not empty; an element gives nothing, and the walk goes below it unless it is a
`script` or `style` element. -/
def Tree.textVisit (trim : Bool) : Tree → List String × Bool
  | .text _ data => ((nonEmpty (if trim then Text.trim data else data)).toList, false)
  | .element _ name _ _ _ => ([], !nonTextElements.contains name)

/-- The non-empty pieces of text at and below a list of trees, read with an explicit stack that
starts with the trees, the first on top. -/
def Tree.textPayloads (trim : Bool) (nodes : List Tree) : List String :=
  Tree.walk (Tree.textVisit trim) nodes.reverse.toArray

/-- The text of a target. -/
def getText (doc : Document) (o : TextOptions) : Target → Option String
  | .absent => none
  | .node id =>
    match doc.text? id with
    | some data => nonEmpty (o.piece data)
    | none =>
      match doc.name? id with
      | some name =>
        if nonTextElements.contains name then none
        else o.assemble (piecesOf doc o (doc.childrenOf (some id)).toList)
      | none => none
  | .nodes ids => o.assemble (piecesOf doc o (ids.filterMap id))

/-- Whether reading the text of a target joins pieces: it does for several nodes and for
a lone element whose contents are text, unless only the first piece is taken. -/
def joinsPieces (doc : Document) (o : TextOptions) : Target → Bool
  | .absent => false
  | .node id =>
    match doc.name? id with
    | some name => !nonTextElements.contains name && !o.shallow
    | none => false
  | .nodes _ => !o.shallow

/-- The text of a target with a separator that may be missing (given as something other
than text): a missing separator is a fault once pieces are to be joined. -/
def getTextWith (doc : Document) (o : TextOptions) (separator : Option String)
    (target : Target) : Except Fault (Option String) :=
  match separator with
  | some s => pure (getText doc { o with separator := s } target)
  | none => if joinsPieces doc o target then throw .missingMember else pure (getText doc o target)

/-- An attribute of the first member of a target; missing when empty. -/
def getAttribute (doc : Document) (key : Option String) (target : Target) :
    Option String :=
  match key, target.members with
  | some a, first :: _ =>
    if a.isEmpty then none else (doc.attr? first a).bind nonEmpty
  | _, _ => none

theorem nonEmpty_ne_some_empty (s : String) : nonEmpty s ≠ some "" := by
  unfold nonEmpty
  split
  · simp
  · rename_i h
    intro e
    simp only [Option.some.injEq] at e
    exact h (e ▸ rfl)

theorem piecesBelow_ne_empty (doc : Document) (o : TextOptions) (fuel id : Nat) :
    "" ∉ piecesBelow doc o fuel id := by
  induction fuel generalizing id with
  | zero => simp [piecesBelow]
  | succ fuel ih =>
    unfold piecesBelow
    split
    · rename_i data _
      intro h
      have := nonEmpty_ne_some_empty (o.piece data)
      cases hn : nonEmpty (o.piece data) with
      | none => simp [hn] at h
      | some s => simp [hn] at h; exact this (h ▸ hn)
    · split
      · split
        · simp
        · simp only [List.mem_flatMap, not_exists, not_and]
          intro c _
          exact ih c
      · simp

theorem getText_ne_some_empty (doc : Document) (o : TextOptions) (t : Target) :
    getText doc o t ≠ some "" := by
  have hAssemble : ∀ ps : List String, "" ∉ ps → o.assemble ps ≠ some "" := by
    intro ps hps
    unfold TextOptions.assemble
    split
    · intro h
      exact hps (List.mem_of_mem_head? h)
    · simp only [ne_eq]
      split
      · simp
      · rename_i h
        intro e
        simp only [Option.some.injEq] at e
        exact h (e ▸ rfl)
  have hPieces : ∀ ids, "" ∉ piecesOf doc o ids := by
    intro ids
    simp only [piecesOf, List.mem_flatMap, not_exists, not_and]
    intro i _
    exact piecesBelow_ne_empty doc o _ i
  cases t with
  | absent => simp [getText]
  | node id =>
    simp only [getText]
    cases doc.text? id with
    | some data => exact nonEmpty_ne_some_empty _
    | none =>
      simp only
      cases doc.name? id with
      | none => simp
      | some name =>
        simp only
        split
        · simp
        · exact hAssemble _ (hPieces _)
  | nodes ids => exact hAssemble _ (hPieces _)

end SearchPage
