import SearchPage.Page.Features
import SearchPage.Config.Settings
import SearchPage.Page.Segment
import SearchPage.Page.Pipeline

/-!
# One result

One segmented element becomes one result record by a fixed list of steps run through the
pipe of steps that may fail (`runPipelineM`), each merging fields into the record:

1. the common fields: the address, the title, the description without its prefix, the
   publish date found in the prefix, whether there is an AMP version, and whether the
   element is a knowledge card (then its address is the feature address);
2. the answer box, whose address takes the place of the result's when it has one;
3. the embedded packs, which this parser does not read and are always missing, and the
   questions people also ask;
4. whether there are thumbnails and video thumbnails;
5. on mobile pages the title of a knowledge card gets its suffix, or is the card label
   when there is no title;
6. the `_meta` record.

Two steps read fields that earlier steps wrote: the answer box step reads the address, and
the card title step whether the element is a knowledge card and its title. The last step
turns the fields into the answer: an element with no title, no description and no text at
all is no result.

The element is searched as a one-element node set, so selectors may match the element
itself as well as what lies below it.
-/

namespace SearchPage

/-- The text after the first occurrence of `pat` is removed from `s`. -/
def dropFirst (s pat : List Char) : List Char :=
  go s
where
  go : List Char → List Char
    | [] => []
    | c :: cs => if pat.isPrefixOf (c :: cs) then (c :: cs).drop pat.length else c :: go cs

/-- The text of a lone element. -/
def textOfNode (doc : Document) (o : TextOptions) : Option Nat → Option String
  | some n => getText doc o (.node n)
  | none => none

/-- The title of a result: the text of the first title found. -/
def titleOf (doc : Document) (chains : Chains) (mobile : Bool) (target : Target) :
    Except Fault (Option String) := do
  let q ← chains.query (if mobile then "mobile_title" else "desktop_title")
  return textOfNode doc {} (← selectOne doc (some q) target)

/-- The description of a result and its prefix (a date or byline); the prefix and the
blank after it are taken out of the description. -/
def descriptionOf (doc : Document) (chains : Chains) (target : Target) :
    Except Fault (Option String × Option String) := do
  let el ← selectOne doc (some (← chains.query "description")) target
  match textOfNode doc { separator := "", trim := false } el with
  | none => return (none, none)
  | some d =>
    let prefixEl ← match el with
      | some n => selectOne doc (some (← chains.query "description_prefix")) (.node n)
      | none => do let _ ← chains.query "description_prefix"; pure none
    match textOfNode doc {} prefixEl with
    | some p => return (some (String.ofList (dropFirst d.toList (p.toList ++ [' ']))), some p)
    | none => return (some d, none)

/-- The address of a result, or the feature address when it has none. -/
def urlOf (doc : Document) (chains : Chains) (featureUrl : Value) (target : Target) :
    Except Fault Value := do
  let found ← (attrExtraction "href" (some (← chains.query "url"))).apply doc target
  return if found.isSet then found.toValue else featureUrl

/-- Whether a result has an AMP version. -/
def isAmpOf (doc : Document) (chains : Chains) (target : Target) : Except Fault Bool := do
  let found ← (attrExtraction "data-amp" (some (← chains.query "amp_link"))).apply doc target
  return found.isSet

/-- The title of a knowledge card on a mobile page: the title found with the card suffix after
it, or the card label when no title is set. -/
def cardTitle (result : ResultSettings) (title : Value) : Value :=
  if title.isSet then .str (title.plainText ++ result.cardSuffix.plainText) else result.cardLabel

/-- The address an answer box gives; nothing when it is no record or has no address. -/
def boxUrlOf : Value → Value
  | .record fs => (fs.lookup "url").getD .null
  | _ => .null

/-! ## The steps of a result -/

section Steps

variable (doc : Document) (chains : Chains) (result : ResultSettings) (features : Collaborators)

/-- The common fields: the address (the feature address for a knowledge card), the title,
the description without its prefix, the publish date found in the prefix, whether there is
an AMP version, and whether the element is a knowledge card. -/
def commonFieldsStep : StepM := mergeStep fun c => do
  let (description, lead) ← descriptionOf doc chains c.target
  let isCard ← features.isPanelEntry doc c.target
  let url ← (if isCard then pure result.featureUrl else urlOf doc chains result.featureUrl c.target)
  let title ← titleOf doc chains c.request.mobile c.target
  let date ← result.dateIn (Value.ofText lead)
  let amp ← isAmpOf doc chains c.target
  return ⟨[("url", url), ("title", Value.ofText title),
    ("description", Value.ofText description), ("result_date", date), ("is_amp", .bool amp),
    ("is_knowledge_card", .bool isCard)], by simp [Record.keys]⟩

/-- The answer box, whose address takes the place of the result's when it has one. -/
def answerBoxStep : StepM := mergeStep fun c => do
  let answerBox ← features.answerBoxOf doc c.target
  let boxUrl := boxUrlOf answerBox
  let url ← if boxUrl.isSet then pure boxUrl else c.field "url"
  return ⟨[("url", url), ("answer_box", answerBox)], by simp [Record.keys]⟩

/-- Whether there are thumbnails and video thumbnails. -/
def thumbnailsStep : StepM := mergeStep fun c => do
  let thumb ← selectBy doc chains "thumbnail" c.target
  let video ← selectBy doc chains "video_thumbnail" c.target
  return ⟨[("has_thumbnail", .bool !thumb.isEmpty),
    ("has_video_thumbnail", .bool !video.isEmpty)], by simp [Record.keys]⟩

/-- On a mobile page the title of a knowledge card gets the card suffix, or is the card label
when there is no title; anywhere else the step merges nothing. -/
def cardTitleStep : StepM := mergeStep fun c => do
  if !c.request.mobile then return .empty
  if !(← c.field "is_knowledge_card").isSet then return .empty
  return Fields.single "title" (cardTitle result (← c.field "title"))

/-- The `_meta` record: an organic result, starting where its element does. -/
def metaStep : StepM := mergeStep fun c =>
  pure (Fields.single "_meta" (.record [("type", .str "organic"),
    ("start_index", startIndex doc c.elementSet.head?.join)]))

/-- The steps a result is read with, in order. The embedded packs are not read by this
parser, and are always missing. -/
def resultSteps : List StepM :=
  [commonFieldsStep doc chains result features, answerBoxStep doc features,
    featureStep "news_pack" fun _ => pure .null, featureStep "image_pack" fun _ => pure .null,
    featureStep "video_pack" fun _ => pure .null, featureStep "event_pack" fun _ => pure .null,
    featureStep "flight_box" fun _ => pure .null, featureStep "job_pack" fun _ => pure .null,
    featureStep "salary_pack" fun _ => pure .null, featureStep "local_pack" fun _ => pure .null,
    featureStep "hotel_pack" fun _ => pure .null,
    featureStep "people_also_ask" fun c => features.questionsOf doc c.target,
    thumbnailsStep doc chains, featureStep "rich_content" fun _ => pure .null,
    cardTitleStep result, metaStep doc]

/-- The last step: nothing for an element with no title, no description and no text, and
otherwise the fields read. -/
def emptyResultCheck (c : ResultContext) : Except Fault (Option Record) :=
  if !((c.parsed.get? "title").getD .null).isSet &&
      !((c.parsed.get? "description").getD .null).isSet && (getText doc {} c.target).isNone then
    pure none
  else pure (some c.parsed.entries)

/-- Run the steps on one element, searched as a one-element node set, and give its record,
or nothing when the element has no title, description or text. -/
def parseResult (request : Request) (element : Nat) : Except Fault (Option Record) :=
  runPipelineM ⟨[some element], request, .empty⟩ (resultSteps doc chains result features)
    (emptyResultCheck doc)

end Steps

theorem dropFirst_nil (s : List Char) : dropFirst s [] = s := by
  cases s <;> simp [dropFirst, dropFirst.go]

end SearchPage
