import SearchPage.Query.Basic
import SearchPage.Selector.Parser
import SearchPage.Selector.Match
import SearchPage.Fault

/-!
# Selecting nodes

`select` runs a query against a target. Each finder is tried in turn and the first one
that finds anything gives the answer; later finders are never tried, so an invalid
selector after a successful one goes unnoticed.

One finder searches each element of the target in turn (text members are skipped): a
lone node has only its descendants searched, a node set also has each member tested.
A CSS selector is compiled once for each element searched, so an invalid one is only
reported when there is an element to search; likewise a finder that cannot be applied is
only a fault when there is a tag to try it on. A query that cannot be listed is a fault
whenever it is run on a target. The results of all elements are put
together in order, each node kept at its first place.

## Main statements

* `select_none`: without a query nothing is found.
* `firstOccurrences_nodup`: the kept nodes are pairwise different.
-/

namespace SearchPage

open Selector

/-- A list with every element kept at its first place only. -/
def firstOccurrences : List Nat → List Nat
  | [] => []
  | x :: xs => x :: (firstOccurrences xs).filter (· != x)

theorem firstOccurrences_nodup (xs : List Nat) : (firstOccurrences xs).Nodup := by
  induction xs with
  | nil => simp [firstOccurrences]
  | cons x xs ih =>
    simp only [firstOccurrences, List.nodup_cons, List.mem_filter, bne_self_eq_false,
      Bool.false_eq_true, and_false, not_false_eq_true, true_and]
    exact ih.filter _

namespace Finder

/-- What one finder finds below the element `scope`, the element itself included when
`withScope` is set. -/
def searchAt (doc : Document) (scope : Nat) (withScope : Bool) :
    Finder → Except Fault (List Nat)
  | .css selector => do
    let l ← (compile selector).mapError .selector
    let self ← if withScope then
        (l.matchesAt doc scope).mapError .selector |>.map fun m => if m then [scope] else []
      else pure []
    let found ← (l.selectIn doc scope).mapError .selector
    pure (self ++ found)
  | .test t =>
    let candidates := (if withScope then [scope] else []) ++ doc.descendants scope
    (candidates.filter doc.isElement).filterM fun n => t.holds doc n
  | .unusable =>
    let candidates := (if withScope then [scope] else []) ++ doc.descendants scope
    if candidates.any doc.isElement then throw .wrongKind else pure []
  | .unlisted => throw .wrongKind

/-- What one finder finds in a target. -/
def findIn (doc : Document) (f : Finder) (target : Target) :
    Except Fault (List Nat) := do
  let withScope := match target with
    | .node _ => false
    | _ => true
  let found ← (target.members.filter doc.isElement).mapM fun s => f.searchAt doc s withScope
  pure (firstOccurrences found.flatten)

end Finder

/-- The first finder's results that are not empty. -/
def firstFound (doc : Document) (target : Target) : List Finder → Except Fault (List Nat)
  | [] => pure []
  | .unlisted :: _ => throw .wrongKind
  | f :: fs => do
    let found ← f.findIn doc target
    if found.isEmpty then firstFound doc target fs else pure found

/-- The nodes a query finds in a target; nothing without a query or a target. -/
def select (doc : Document) (query : Option Query) (target : Target) :
    Except Fault (List Nat) :=
  match query with
  | none => pure []
  | some q => if target.isGiven then firstFound doc target q else pure []

/-- The first node a query finds in a target. -/
def selectOne (doc : Document) (query : Option Query) (target : Target) :
    Except Fault (Option Nat) :=
  return (← select doc query target).head?

theorem select_none (doc : Document) (target : Target) : select doc none target = pure [] := rfl

end SearchPage
