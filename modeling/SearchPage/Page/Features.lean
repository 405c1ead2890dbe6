import SearchPage.Extract.Apply
import SearchPage.Config.Chains

/-!
# Page features

The features a page may embed, each read by its own *collaborator* from a set of
elements: the answer box, the questions people also ask, the ads and the knowledge
panel, and the check whether a set of elements holds a knowledge panel entry. A
collaborator that finds nothing gives nothing; that is never a fault.

The collaborators are built once from the selector chains, so a missing chain is
reported when the parser is built, not when a page is read. They are built in a fixed
order (answer box, people also ask, ads, knowledge panel, panel check), which decides
which missing chain is reported first.

Every feature record carries a `_meta` record with the feature's type and the position
where its element starts.
-/

namespace SearchPage

/-- Where an element starts in the page, when it is known. -/
def startIndex (doc : Document) : Option Nat → Value
  | some n => match doc.span? n with
    | some sp => .int sp.start
    | none => .null
  | none => .null

/-- The `_meta` record of a feature. -/
def featureMeta (doc : Document) (type : String) (element : Option Nat) : Value :=
  .record [("type", .str type), ("start_index", startIndex doc element)]

/-- What an extraction yielded, as a plain value; nodes are given by number. -/
def Extracted.toValue : Extracted → Value
  | .value v => v
  | .nodes ids => .list (ids.map fun n => .int (Int.ofNat n))
  | .records rows => .list (rows.map fun row => .record (rowValues row))
where
  rowValues : List (String × Extracted) → Record
    | [] => []
    | (k, e) :: rest => (k, e.toValue) :: rowValues rest

/-- Whether an extraction yielded something that is set. -/
def Extracted.isSet : Extracted → Bool
  | .value v => v.isSet
  | .nodes ids => !ids.isEmpty
  | .records rows => !rows.isEmpty

/-- An extraction of the text of what a query finds. -/
def textExtraction (query : Query) (separator : String) (shallow : Bool) :
    Extraction :=
  .mk { query, attrName := .str "text", separator := .str separator, shallow } none none

/-- An extraction of an attribute of the first node a query finds. -/
def attrExtraction (name : String) (query : Option Query) : Extraction :=
  .mk { query, attrName := .str name } none none

/-- An extraction of one record per node a query finds. -/
def recordExtraction (query : Option Query) (fields : List (String × Extraction)) :
    Extraction :=
  .mk { query } (some (fields.map fun (k, e) => (k, some e))) none

/-- The text of a question: its `data-q` attribute, or else its question text. -/
def questionText (question : Extraction) : Procedure := fun doc target _ =>
  match getAttribute doc (some "data-q") target with
  | some q => pure (.value (.str q))
  | none => question.apply doc target

/-- The feature collaborators. -/
structure Collaborators where
  answerBox : Query
  answerBoxText : Extraction
  answerBoxUrl : Extraction
  questions : Extraction
  ads : Query
  adFields : Extraction
  panel : Query
  panelFields : Extraction
  panelEntry : Query

namespace Collaborators

/-- Build the collaborators from the selector chains. -/
def build (chains : Chains) : Except Fault Collaborators := do
  let answerBox ← chains.query "answer_box"
  let answerBoxText := textExtraction (← chains.query "answer_box_text") " " false
  let answerBoxUrl := attrExtraction "href" (some (← chains.query "answer_box_url"))
  let question := textExtraction (← chains.query "people_also_ask_question") ", " true
  let questions := Extraction.mk { query := some (← chains.query "people_also_ask") }
    (some [("question", some (.mk {} none (some (questionText question))))]) none
  let ads ← chains.query "ads"
  let adTitle := textExtraction (← chains.query "ad_title") ", " true
  let adUrl := attrExtraction "href" (some (← chains.query "ad_url"))
  let adDescription := textExtraction (← chains.query "ad_description") " " false
  let adFields := recordExtraction none
    [("title", adTitle), ("url", adUrl), ("description", adDescription)]
  let panel ← chains.query "knowledge_panel"
  let panelTitle := textExtraction (← chains.query "knowledge_panel_title") ", " true
  let panelSubtitle :=
    textExtraction (← chains.query "knowledge_panel_subtitle") ", " true
  let panelDescription := textExtraction (← chains.query "knowledge_panel_description") " " false
  let panelFields := recordExtraction (some panel)
    [("title", panelTitle), ("subtitle", panelSubtitle), ("description", panelDescription)]
  let panelEntry ← chains.query "knowledge_panel_entry"
  pure ⟨answerBox, answerBoxText, answerBoxUrl, questions, ads, adFields, panel, panelFields,
    panelEntry⟩

/-- Whether a set of elements holds a knowledge panel entry, the elements themselves
included. -/
def isPanelEntry (c : Collaborators) (doc : Document) (target : Target) :
    Except Fault Bool := do
  return !(← select doc (some c.panelEntry) (.nodes (target.members.map some))).isEmpty

/-- The answer box: its text and address, when it has either. -/
def answerBoxOf (c : Collaborators) (doc : Document) (target : Target) :
    Except Fault Value := do
  let some box ← selectOne doc (some c.answerBox) target | return .null
  let text ← c.answerBoxText.apply doc (.node box)
  let url ← c.answerBoxUrl.apply doc (.node box)
  if !text.isSet && !url.isSet then return .null
  return .record [("text", text.toValue), ("url", url.toValue)]

/-- The questions people also ask, when there are any. -/
def questionsOf (c : Collaborators) (doc : Document) (target : Target) :
    Except Fault Value := do
  let found ← c.questions.apply doc target
  let questions := match found with
    | .records rows => rows.filterMap fun row =>
      match row.lookup "question" with
      | some q => if q.isSet then some q.toValue else none
      | none => none
    | _ => []
  return if questions.isEmpty then .null else .record [("questions", .list questions)]

/-- The ads, numbered by their place among all ads found, those without title and
address left out; nothing when none is left. The fields of an ad are taken as the one record
its extraction gives: any other number of records is a fault, and so is a value that is not
a list of records. -/
def adsOf (c : Collaborators) (doc : Document) (target : Target) : Except Fault Value := do
  let found ← select doc (some c.ads) target
  let ads ← found.zipIdx.filterMapM fun (el, k) => do
    let fields ← match ← c.adFields.apply doc (.node el) with
      | .records [row] => pure row
      | .records _ => throw .unusableValue
      | _ => throw .wrongKind
    let field (name : String) : Value := (fields.lookup name).elim .null Extracted.toValue
    if !(field "title").isSet && !(field "url").isSet then return none
    return some (Value.record ([("_meta", featureMeta doc "ad" (some el)),
      ("position", .int (k + 1))] ++ fields.map fun (name, e) => (name, e.toValue)))
  return if ads.isEmpty then .null else .list ads

/-- The knowledge panel: its title, subtitle and description, when any is set. -/
def panelOf (c : Collaborators) (doc : Document) (target : Target) : Except Fault Value := do
  match ← c.panelFields.apply doc target with
  | .records (row :: _) =>
    if !(row.any fun (_, e) => e.isSet) then return .null
    let panel ← selectOne doc (some c.panel) target
    return .record (("_meta", featureMeta doc "knowledge_panel" panel) ::
      row.map fun (name, e) => (name, e.toValue))
  | _ => return .null

end Collaborators

end SearchPage
