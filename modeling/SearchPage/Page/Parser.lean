import SearchPage.Page.Result
import SearchPage.Document.Build

/-!
# Reading a whole page

A page is split into three regions, each read by its own steps in order:

* the app bar (column -1): the total number of results;
* the main column (column 1): the notice that nothing matched, the auto-correction, the
  "did you mean" suggestion, the ads, the knowledge panel, the organic results, and the
  related searches at the bottom;
* the side column (column 2): the knowledge panel.

Each step gives a feature record, a list of them, or nothing; lists are flattened and
missing records dropped. Every record's `_meta` gets the number of its column.

Before anything is read, the page's platform is checked: a page without the desktop
marker is a mobile page, and a page of the other platform than the one asked for is a
fault. A result count whose digits are too many to be read as a number is a fault too.

## Main statements

* `collect_nil`: no steps give no features.
* `collect_null`: a step that gives nothing adds nothing.
-/

namespace SearchPage

/-- The notice a search without results shows. -/
def noMatchNotice : String := "did not match any documents"

/-- A parser, built from a valid configuration: its chains, its result constants, and
its feature collaborators. -/
structure Parser where
  config : ParserConfig
  chains : Chains
  result : ResultSettings
  features : Collaborators

/-- Put the outputs of page steps together: nothing is dropped, a list gives its members
that are not nothing, anything else is kept as it is. -/
def collect : List Value → List Value
  | [] => []
  | .null :: rest => collect rest
  | .list xs :: rest => xs.filter (fun x => match x with
      | .null => false
      | _ => true) ++ collect rest
  | v :: rest => v :: collect rest

/-- A copy of a record whose `_meta` record has its column set; a record without `_meta`
starts from the empty one. -/
def setColumn (record column : Value) : Except Fault Value :=
  match record with
  | .record fs => do
    let old ← match fs.lookup "_meta" with
      | none => pure []
      | some (.record m) => pure m
      | some _ => throw .wrongKind
    pure (.record (Record.set fs "_meta" (.record (Record.set old "column" column))))
  | _ => throw .missingMember

/-- The first run of ASCII digits in a text. -/
def firstDigitRun (cs : List Char) : Option (List Char) :=
  match (cs.dropWhile fun c => !isAsciiDigitChar c) with
  | [] => none
  | rest => some (rest.takeWhile isAsciiDigitChar)
where
  isAsciiDigitChar (c : Char) : Bool := '0' ≤ c && c ≤ '9'

namespace Parser

/-- Build a parser; an invalid configuration or a missing collaborator chain is a
configuration fault. -/
def build (cfg : ParserConfig) : Except Fault Parser := do
  if !(← cfg.validate) then throw (.configuration "Invalid SERP parser configuration")
  let chains ← cfg.chains.get
  let features ← Collaborators.build chains
  let result ← cfg.result.get
  pure ⟨cfg, chains, result, features⟩

/-- Whether a page is a mobile page: it lacks the desktop marker. -/
def isMobileDocument (p : Parser) (doc : Document) (target : Target) : Except Fault Bool := do
  let q ← p.config.platformMarker.asQuery
  return (← selectOne doc (some q) target).isNone

/-- The first run of digits in the text of a result count, once its commas and full stops
are taken out. -/
def countDigits (doc : Document) (el : Option Nat) : Option (List Char) :=
  firstDigitRun (((textOfNode doc {} el).getD "").toList.filter fun c => c != ',' && c != '.')

/-- The total number of results: the first digits of the result count, without its
group separators; zero counts as unknown. Digits are read as a number the way any decimal
number is, so a run of more than `Markup.Reference.maxDecimalDigits` digits cannot be read
at all. -/
def totalResults (p : Parser) (doc : Document) (target : Target) : Except Fault Value := do
  let el ← selectOne doc (some (← p.chains.query "total_results")) target
  match countDigits doc el with
  | none => return .null
  | some ds =>
    if Markup.Reference.maxDecimalDigits < ds.length then throw .unusableValue
    let n := Text.decimalValue ds
    return .record [("_meta", featureMeta doc "total_search_results" el),
      ("value", if n == 0 then .null else .int n)]

/-- The notice that nothing matched, from the first heading that says so. -/
def invalidSearch (p : Parser) (doc : Document) (target : Target) : Except Fault Value := do
  let headings ← selectBy doc p.chains "invalid_search" target
  let hit := headings.find? fun h =>
    Text.occursIn noMatchNotice.toList ((textOfNode doc {} (some h)).getD "").toList
  return match hit with
  | some h => .record [("_meta", featureMeta doc "no_matching_search_results" (some h)),
      ("value", .str ((textOfNode doc {} (some h)).getD ""))]
  | none => .null

/-- A suggestion: the text of the first element a chain finds, words joined by blanks. -/
def suggestion (p : Parser) (doc : Document) (chain type : String) (target : Target) :
    Except Fault Value := do
  let el ← selectOne doc (some (← p.chains.query chain)) target
  match textOfNode doc { separator := " " } el with
  | some v => return .record [("_meta", featureMeta doc type el), ("value", .str v)]
  | none => return .null

/-- The auto-correction of the query. -/
def autoCorrect (p : Parser) (doc : Document) (target : Target) : Except Fault Value :=
  p.suggestion doc "auto_correct" "auto_correct_text" target

/-- The "did you mean" suggestion. -/
def didYouMean (p : Parser) (doc : Document) (target : Target) : Except Fault Value :=
  p.suggestion doc "did_you_mean" "did_you_mean_text" target

/-- The related searches, when there are any. -/
def relatedSearches (p : Parser) (doc : Document) (target : Target) : Except Fault Value := do
  let items ← selectBy doc p.chains "related_searches" target
  match items with
  | [] => return .null
  | first :: _ =>
    return .record [("_meta", featureMeta doc "related_searches" (some first)),
      ("items", .list (items.map fun n => Value.ofText (textOfNode doc { separator := " " } (some n))))]

/-- The features at the bottom of the page: the related searches found there. -/
def bottomExtras (p : Parser) (doc : Document) (target : Target) : Except Fault Value := do
  let bottom ← selectBy doc p.chains "bottom_extras" target
  return .list [← p.relatedSearches doc (.nodes (bottom.map some))]

/-- The organic results: the result area segmented, and every surviving element read as
one result. -/
def searchResults (p : Parser) (doc : Document) (request : Request) (target : Target) :
    Except Fault Value := do
  let isPanel : PanelCheck := fun ids => p.features.isPanelEntry doc (.nodes (ids.map some))
  let s ← segment doc p.chains isPanel request.mobile target
  let results ← s.survivors.filterMapM (parseResult doc p.chains p.result p.features request)
  return .list (results.map Value.record)

/-- The records of a column: the steps' outputs put together, each with the column set. -/
def column (outputs : List Value) (n : Int) : Except Fault (List Value) :=
  (collect outputs).mapM fun r => setColumn r (.int n)

/-- The app bar's features. -/
def appBar (p : Parser) (doc : Document) (target : Target) : Except Fault (List Value) := do
  let bar ← selectBy doc p.chains "app_bar" target
  column [← p.totalResults doc (.nodes (bar.map some))] (-1)

/-- The main column's features. -/
def columnOne (p : Parser) (doc : Document) (request : Request) (target : Target) :
    Except Fault (List Value) := do
  let col := Target.nodes ((← selectBy doc p.chains "column_1" target).map some)
  let invalid ← p.invalidSearch doc col
  let corrected ← p.autoCorrect doc col
  let meant ← p.didYouMean doc col
  let ads ← p.features.adsOf doc col
  let panel ← p.features.panelOf doc col
  let results ← p.searchResults doc request col
  let bottom ← p.bottomExtras doc col
  column [invalid, corrected, meant, ads, .null, .null, panel, results, bottom] 1

/-- The side column's features. -/
def columnTwo (p : Parser) (doc : Document) (target : Target) : Except Fault (List Value) := do
  let col := Target.nodes ((← selectBy doc p.chains "column_2" target).map some)
  let panel ← p.features.panelOf doc col
  column [.null, panel] 2

/-- Read a page fetched for a request: its features in page order. -/
def parse (p : Parser) (html : String) (request : Request) : Except Fault (List Value) := do
  let doc ← Document.parse html true
  let page := Target.nodes (doc.roots.toList.map some)
  let looksMobile ← p.isMobileDocument doc page
  if looksMobile != request.mobile then throw (.platformMismatch request.mobile looksMobile)
  return (← p.appBar doc page) ++ (← p.columnOne doc request page) ++ (← p.columnTwo doc page)

end Parser

theorem collect_nil : collect [] = [] := rfl

theorem collect_null (rest : List Value) : collect (.null :: rest) = collect rest := rfl

end SearchPage
