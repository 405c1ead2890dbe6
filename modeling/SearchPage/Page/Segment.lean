import SearchPage.Query.Select
import SearchPage.Config.Chains

/-!
# Segmenting the result column

The result column of a page is cut into a flat list of candidates, each one organic
result or one self-contained feature:

1. The top containers are found with the `containers` chain. When every one of them is a
   knowledge panel entry, the page has wrapped everything in one tabbed panel, and each
   container is replaced by its sub-containers (`whole_page_sub_containers`), or kept
   when it has none.
2. Each container gives its result elements: the `mobile_results` on mobile pages; on
   desktop pages the results with a site-links table come first, then the
   `desktop_results`. A container with at most one result element is one feature unit
   and stands for itself.
3. Candidates are dropped when they have no span, when they start strictly inside
   another candidate's span, or when an earlier candidate is the same node.

## Main statements

* `survivorPositions_sorted`: the survivors keep their order.
* `unitsOf_ne_nil`: every container gives at least one candidate.
-/

namespace SearchPage

/-- A candidate for a result: the number of its node and its span, when it has one. -/
structure Candidate where
  id : Int
  span : Option Span
  deriving DecidableEq, Repr

namespace Candidate

/-- Whether `inner` starts strictly inside the span of `outer`. -/
def nestedIn (outer inner : Candidate) : Bool :=
  match outer.span, inner.span with
  | some o, some i => o.holdsStartOf i
  | _, _ => false

/-- The candidate standing for a node of a document. -/
def ofNode (doc : Document) (id : Nat) : Candidate := ⟨id, doc.span? id⟩

end Candidate

/-- Whether a candidate survives at position `i` of the list: it has a span, starts
inside no candidate of the whole list, and is the first candidate with its number. -/
def survivesAt (cs : List (Option Candidate)) (i : Nat) : Bool :=
  match cs[i]? with
  | some (some c) =>
    c.span.isSome &&
    !(cs.any fun o => o.any fun o => o.nestedIn c) &&
    cs.findIdx? (fun o => o.any (·.id == c.id)) == some i
  | _ => false

/-- The positions of the candidates that survive, in order. -/
def survivorPositions (cs : List (Option Candidate)) : List Nat :=
  (List.range cs.length).filter (survivesAt cs)

/-- The candidates that survive, in order. -/
def uniqueCandidates (cs : List (Option Candidate)) : List Candidate :=
  (survivorPositions cs).filterMap fun i => cs[i]?.join

/-- Whether a set of elements holds a knowledge panel entry. -/
abbrev PanelCheck := List Nat → Except Fault Bool

/-- The check that never finds a panel. -/
def noPanel : PanelCheck := fun _ => pure false

/-- The check that looks for a panel with a query, the elements themselves included. -/
def panelCheckBy (doc : Document) (q : Query) : PanelCheck := fun ids => do
  return !(← select doc (some q) (.nodes (ids.map some))).isEmpty

/-- The nodes a named chain finds in a target. -/
def selectBy (doc : Document) (chains : Chains) (name : String) (target : Target) :
    Except Fault (List Nat) := do
  select doc (some (← chains.query name)) target

/-- The top containers of a target, split into sub-containers when they are all
knowledge panel entries. -/
def containersOf (doc : Document) (chains : Chains) (isPanel : PanelCheck)
    (target : Target) : Except Fault (List Nat) := do
  let cs ← selectBy doc chains "containers" target
  if !cs.isEmpty && (← cs.allM fun c => isPanel [c]) then
    cs.flatMapM fun c => do
      let subs ← selectBy doc chains "whole_page_sub_containers" (.node c)
      pure (if subs.isEmpty then [c] else subs)
  else pure cs

/-- The results of a desktop container that carry a site-links table. -/
def siteLinkResults (doc : Document) (chains : Chains) (container : Nat) :
    Except Fault (List Nat) := do
  let candidates ← selectBy doc chains "site_links_candidates" (.node container)
  candidates.filterM fun e => do
    let organic ← selectBy doc chains "site_links_result" (.node e)
    let table ← selectBy doc chains "site_links_table" (.node e)
    pure (!organic.isEmpty && !table.isEmpty)

/-- The result elements a container holds. -/
def resultsIn (doc : Document) (chains : Chains) (mobile : Bool) (container : Nat) :
    Except Fault (List Nat) :=
  if mobile then selectBy doc chains "mobile_results" (.node container)
  else do
    let plain ← selectBy doc chains "desktop_results" (.node container)
    let linked ← siteLinkResults doc chains container
    pure (linked ++ plain)

/-- The candidates of a container with the given result elements: those elements when
there are several, the container itself otherwise. -/
def unitsOf (container : Nat) (found : List Nat) : List Nat :=
  if found.length > 1 then found else [container]

/-- The candidates a container gives. -/
def resultElements (doc : Document) (chains : Chains) (mobile : Bool) (container : Nat) :
    Except Fault (List Nat) :=
  unitsOf container <$> resultsIn doc chains mobile container

/-- The nodes among candidates that survive. -/
def uniqueNodes (doc : Document) (ids : List Nat) : List Nat :=
  let cs := ids.map fun n => some (Candidate.ofNode doc n)
  (survivorPositions cs).filterMap fun i => ids[i]?

/-- The three stages of segmenting: containers, candidates, survivors. -/
structure Segments where
  containers : List Nat
  candidates : List Nat
  survivors : List Nat
  deriving Repr

/-- Segment the result area of a target. -/
def segment (doc : Document) (chains : Chains) (isPanel : PanelCheck) (mobile : Bool)
    (target : Target) : Except Fault Segments := do
  let containers ← containersOf doc chains isPanel target
  let candidates ← containers.flatMapM (resultElements doc chains mobile)
  pure { containers, candidates, survivors := uniqueNodes doc candidates }

theorem survivorPositions_sorted (cs : List (Option Candidate)) :
    (survivorPositions cs).Pairwise (· < ·) :=
  (List.pairwise_lt_range).filter _

theorem unitsOf_ne_nil (container : Nat) (found : List Nat) : unitsOf container found ≠ [] := by
  unfold unitsOf
  split
  · rename_i hl
    intro e; simp [e] at hl
  · simp

end SearchPage
