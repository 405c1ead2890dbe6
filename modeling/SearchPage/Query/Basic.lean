import SearchPage.Document.Basic
import SearchPage.Fault

/-!
# Queries and targets

A query finds nodes of a document. It is an ordered list of finders, tried in turn until
one finds anything: a finder is either a CSS selector or a tag test given as data (a tag
name, an attribute that must be there, the value it must have, and a test that must
fail).

A finder given as anything else cannot be applied: trying it on a tag is a fault, and a
query given as something that cannot be listed at all is a fault as soon as it is run. A
condition of a tag test given as something other than a text never holds, and a test
given in the place of the failing test as something other than a record is a fault once
it is tried.

A query is applied to a *target*: nothing, a lone node, or a node set. The two kinds of
target are searched differently: below a lone node only its descendants are searched,
while the members of a node set are candidates themselves. A node set may hold gaps,
which count for its size but are otherwise skipped.

## Main statements

* `TagTest.any_holds`: the test with no conditions holds for every element.
-/

namespace SearchPage

/-- What a condition of a tag test was given. -/
inductive Given where
  /-- A text. -/
  | text (s : String)
  /-- A list or a record, which cannot be looked up as an attribute name. -/
  | compound
  /-- Nothing, a number or a truth value. -/
  | scalar
  deriving Repr, Inhabited, DecidableEq

/-- Whether a given condition is the text `t`. -/
def Given.is (g : Given) (t : String) : Bool := g == .text t

/-- A test on one tag, every condition optional: the tag's name, an attribute it must
have, the value that attribute must have, and a test the tag must fail. A failing test
given as anything but a record cannot be tried. -/
inductive TagTest where
  | mk (name : Option Given) (attr : Option Given) (value : Option Given)
      (failing : Option TagTest)
  /-- A test given as something other than a record. -/
  | notARecord
  deriving Repr, Inhabited

/-- One way of finding nodes: a CSS selector, a tag test, something given in the place
of a finder that is neither and cannot be applied to a tag, or a query that cannot be
listed into finders. -/
inductive Finder where
  | css (selector : String)
  | test (t : TagTest)
  | unusable
  | unlisted
  deriving Repr, Inhabited

/-- Finders tried in order; the first that finds anything decides. -/
abbrev Query := List Finder

/-- What a query or an extraction is applied to. -/
inductive Target where
  | absent
  | node (id : Nat)
  | nodes (ids : List (Option Nat))
  deriving Repr, Inhabited, DecidableEq

namespace TagTest

/-- The test with no conditions. -/
def any : TagTest := .mk none none none none

/-- Whether an element passes the test. The conditions are checked in order (name,
attribute, value, the failing test), each only when the ones before hold; the value
condition only counts together with an attribute. An attribute given as a list or a
record cannot be looked up, and a failing test that is not a record cannot be tried. -/
def holds (doc : Document) (id : Nat) : TagTest → Except Fault Bool
  | .notARecord => throw (.badRequest "predicate must be an object")
  | .mk name attr value failing => do
    let nameOk := match name with
      | some n => n.is ((doc.name? id).getD "")
      | none => true
    if !nameOk then return false
    let attrOk ← match attr with
      | some (.text a) => pure (match value with
        | some v => (doc.attr? id a).elim false fun x => v.is x
        | none => (doc.attr? id a).isSome)
      | some .compound => throw .wrongKind
      | some .scalar => pure false
      | none => pure true
    if !attrOk then return false
    match failing with
    | some u => return !(← holds doc id u)
    | none => return true

theorem any_holds (doc : Document) (id : Nat) : any.holds doc id = pure true := by
  simp [any, holds]

end TagTest

namespace Target

/-- Whether a target is given: not nothing and not an empty node set. -/
def isGiven : Target → Bool
  | .absent => false
  | .node _ => true
  | .nodes ids => !ids.isEmpty

/-- The nodes of a target, gaps left out. -/
def members : Target → List Nat
  | .absent => []
  | .node id => [id]
  | .nodes ids => ids.filterMap id

end Target

end SearchPage
