import SearchPage.Extract.Basic
import SearchPage.Query.Select
import SearchPage.Query.Text

/-!
# Applying an extraction

An extraction applied to nothing, or to an empty node set, yields nothing. Otherwise a
process decides alone. Without one, the query (or, without a query, the target itself)
gives the nodes found; when nothing is found the result is nothing, and otherwise the
extraction's kind says what the nodes become. Fields are applied to each node found as a
lone node, so their queries search only below it.

Text is joined with the separator only when it is text; any other separator is a
missing member, but only when joining happens. Only text names an attribute: another set
value names none, and a list or record cannot be looked up at all.

## Main statements

* `apply_absent`: nothing is extracted from nothing.
-/

namespace SearchPage

/-- The text options an extraction's settings give, with the separator as text. -/
def Settings.textOptions (s : Settings) (separator : String) : TextOptions :=
  { separator, trim := s.trim, shallow := s.shallow }

/-- What the nodes found become when an extraction has neither process nor fields. -/
def Settings.finish (s : Settings) (doc : Document) (found : List Nat) :
    Except Fault Extracted :=
  let target := Target.nodes (found.map some)
  match s.attrName with
  | .str "text" =>
    let separator := match s.separator with
      | .str sep => some sep
      | _ => none
    return .value (Value.ofText (← getTextWith doc (s.textOptions "") separator target))
  | a =>
    if !a.isSet then pure (.nodes found)
    else match a, found with
      | .str name, _ => pure (.value (Value.ofText (getAttribute doc (some name) target)))
      | .list _, first :: _ | .record _, first :: _ =>
        if doc.isElement first then throw .wrongKind else pure Extracted.missing
      | _, _ => pure Extracted.missing

mutual

/-- Apply an extraction to a target. -/
def Extraction.apply (doc : Document) : Extraction → Target → Except Fault Extracted
  | .mk s fields process, target =>
    if !target.isGiven then pure Extracted.missing
    else match process with
      | some p => p doc target s
      | none => do
        let found ← match s.query with
          | some q => select doc (some q) target
          | none => pure target.members
        if found.isEmpty then pure Extracted.missing
        else match fields with
          | some fs => return .records (← found.mapM fun n => Extraction.applyFields doc fs n)
          | none => s.finish doc found

/-- Apply each field's extraction to one node. -/
def Extraction.applyFields (doc : Document) :
    List (String × Option Extraction) → Nat → Except Fault (List (String × Extracted))
  | [], _ => pure []
  | (k, none) :: rest, n => return (k, Extracted.missing) :: (← Extraction.applyFields doc rest n)
  | (k, some e) :: rest, n => do
    let v ← e.apply doc (.node n)
    return (k, v) :: (← Extraction.applyFields doc rest n)

end

/-- Apply an extraction that may be missing: a missing one yields nothing. -/
def extract (doc : Document) : Option Extraction → Target → Except Fault Extracted
  | none, _ => pure Extracted.missing
  | some e, target => e.apply doc target

theorem apply_absent (doc : Document) (e : Extraction) :
    e.apply doc .absent = pure Extracted.missing := by
  cases e
  simp [Extraction.apply, Target.isGiven]

end SearchPage
