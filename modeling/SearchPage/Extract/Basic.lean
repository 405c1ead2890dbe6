import SearchPage.Query.Basic
import SearchPage.Value
import SearchPage.Fault

/-!
# Extractions

An extraction says how to turn a target into a value without code of its own: a query to
search with (without one it applies to the target itself), and then one of

* a *process*, custom code given the target as it came and the settings, whose answer is
  taken as it is;
* *fields*: a name and a nested extraction for each, turning every node found into one
  record;
* the *text* of the nodes found, when the attribute setting is `text`;
* an attribute of the first node found, when the attribute setting names one;
* the nodes found.

The first of these that the extraction has decides; the text settings (separator,
trimming, first piece only) matter only for text.
-/

namespace SearchPage

/-- What an extraction yields: plain data, nodes of the document, or one record per node
found. -/
inductive Extracted where
  | value (v : Value)
  | nodes (ids : List Nat)
  | records (rows : List (List (String × Extracted)))
  deriving Repr, Inhabited

/-- Nothing extracted. -/
def Extracted.missing : Extracted := .value .null

/-- The settings of an extraction. The attribute and the separator are kept as they were
given: only text names an attribute or joins text. -/
structure Settings where
  query : Option Query := none
  attrName : Value := .null
  separator : Value := .str ", "
  trim : Bool := true
  shallow : Bool := false
  deriving Repr, Inhabited

/-- Custom code run in place of an extraction: it gets the document, the target as it
came and the settings. -/
abbrev Procedure := Document → Target → Settings → Except Fault Extracted

/-- An extraction: its settings, its fields (a missing nested extraction yields nothing),
and its process. -/
inductive Extraction where
  | mk (settings : Settings) (fields : Option (List (String × Option Extraction)))
      (process : Option Procedure)
  deriving Inhabited

/-- The kinds of result, in the order in which an extraction's parts decide. -/
inductive ExtractionKind where
  | process
  | fields
  | text
  | attribute
  | nodes
  deriving DecidableEq, Repr

namespace Extraction

/-- The settings of an extraction. -/
def settings : Extraction → Settings
  | .mk s _ _ => s

/-- What an extraction yields. -/
def kind : Extraction → ExtractionKind
  | .mk s fields process =>
    if process.isSome then .process
    else if fields.isSome then .fields
    else match s.attrName with
      | .str "text" => .text
      | a => if a.isSet then .attribute else .nodes

end Extraction

end SearchPage
