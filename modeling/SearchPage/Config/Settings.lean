import SearchPage.Config.Chains
import SearchPage.Pattern.Match

/-!
# Parser configuration

Everything the parser can be told: the selector chains, the constants used while
assembling one result (the address reported for results that are search features, the
suffix and label of knowledge card titles, the pattern of publish dates), the marker that
only desktop pages carry, and the logging settings.

Settings are kept as the plain values they were given as. A configuration is *valid*
when no chain is empty, the marker and the feature address are set, and the date pattern
compiles; a date pattern that is not text cannot be compiled at all, and one refused for
a too large number or incompatible settings is a fault rather than invalid.

The chains and the result constants may be replaced wholesale by a value that is neither;
every later use of them then lacks the member it needs.
-/

namespace SearchPage

/-- The publish dates found in description prefixes: "3 days ago", "Mar 4, 2020". -/
def defaultDatePattern : String :=
  "\\d{1,2} (?:minutes?|days?|hours?|mins?) ago|[A-Z][a-z]{2} \\d{1,2}, \\d{4}"

/-- The constants used while assembling one result. -/
structure ResultSettings where
  featureUrl : Value := .str "https://www.google.com/search"
  cardSuffix : Value := .str " (Knowledge Card)"
  cardLabel : Value := .str "Knowledge Card"
  datePattern : Value := .str defaultDatePattern
  deriving Repr, Inhabited

/-- A part of the configuration that is either itself or replaced by another value. -/
inductive Slot (α : Type) where
  | kept (a : α)
  | replaced (v : Value)
  deriving Repr, Inhabited

/-- The part itself, or the fault of using a replaced one. -/
def Slot.get {α : Type} : Slot α → Except Fault α
  | .kept a => pure a
  | .replaced _ => throw .missingMember

/-- The whole configuration. -/
structure ParserConfig where
  chains : Slot Chains := .kept Chains.initial
  result : Slot ResultSettings := .kept {}
  platformMarker : Value := .str "body#gsr"
  logDir : Value := .null
  logLevel : Value := .str "INFO"
  deriving Repr, Inhabited

/-- The fault a pattern that cannot be compiled stands for. -/
def Pattern.PatternError.fault : Pattern.PatternError → Fault
  | .malformed _ => .badPattern
  | .countTooLarge => .tooLarge
  | .overlongNumber | .incompatibleFlags => .unusableValue

/-- Whether a value is a pattern that compiles: a malformed pattern does not, while a
pattern refused for another reason, or a value that is not text, is a fault. -/
def patternCompiles : Value → Except Fault Bool
  | .str p => match Pattern.compile p with
    | .ok _ => pure true
    | .error (.malformed _) => pure false
    | .error e => throw e.fault
  | _ => throw .wrongKind

namespace ParserConfig

/-- Whether a configuration is valid. -/
def validate (cfg : ParserConfig) : Except Fault Bool := do
  let chains ← cfg.chains.get
  if chains.entries.any fun (_, c) => c.isEmpty then return false
  if !cfg.platformMarker.isSet then return false
  let result ← cfg.result.get
  if !result.featureUrl.isSet then return false
  patternCompiles result.datePattern

/-- The summary of a configuration: how many chains there are and how many selectors the
`containers` chain has, the feature address, the marker and the logging settings. -/
def summary (cfg : ParserConfig) : Except Fault Value := do
  let chains ← cfg.chains.get
  let result ← cfg.result.get
  let containers := (chains.find? (.str "containers")).elim 0 List.length
  return .record [
    ("selectors", .record [("chains", .int chains.count), ("containers", .int containers)]),
    ("result", .record [("feature_url", result.featureUrl)]),
    ("platform_marker", cfg.platformMarker),
    ("log_level", cfg.logLevel),
    ("log_dir", cfg.logDir)]

/-- The names of the result constants. -/
def resultFields : List String :=
  ["feature_url", "knowledge_card_suffix", "knowledge_card_label", "result_date_pattern"]

/-- Set one named setting. The result constants are set on the result part, which must be
kept; any other name is set on the configuration itself, where only the chains, the
result part, the marker and the logging settings are ever read again. -/
def setField (cfg : ParserConfig) (name : String) (v : Value) : Except Fault ParserConfig :=
  if resultFields.contains name then do
    let r ← cfg.result.get
    let r := match name with
      | "feature_url" => { r with featureUrl := v }
      | "knowledge_card_suffix" => { r with cardSuffix := v }
      | "knowledge_card_label" => { r with cardLabel := v }
      | _ => { r with datePattern := v }
    return { cfg with result := .kept r }
  else
    return match name with
      | "selectors" => { cfg with chains := .replaced v }
      | "result" => { cfg with result := .replaced v }
      | "platform_marker" => { cfg with platformMarker := v }
      | "log_dir" => { cfg with logDir := v }
      | "log_level" => { cfg with logLevel := v }
      | _ => cfg

end ParserConfig

/-- The items of a value taken as a sequence: the characters of text, the members of a
list, the keys of a record; other values are no sequence. -/
def Value.items : Value → Except Fault (List Value)
  | .str s => pure (s.toList.map fun c => .str (String.singleton c))
  | .list xs => pure xs
  | .record fs => pure (fs.map fun (k, _) => .str k)
  | _ => throw .wrongKind

/-- A value used as a query: text is one selector, anything else the sequence of its
items as a chain. -/
def Value.asQuery (v : Value) : Except Fault Query :=
  match v with
  | .str s => pure [.css s]
  | _ => Chain.query <$> v.items

/-- The first match of the date pattern in a text; a value that is not text has none. -/
def ResultSettings.dateIn (r : ResultSettings) (text : Value) : Except Fault Value :=
  match text with
  | .str t =>
    match r.datePattern with
    | .str p =>
      match Pattern.searchText p t with
      | .ok found => pure (Value.ofText found)
      | .error e => throw e.fault
    | _ => throw .wrongKind
  | _ => pure .null

theorem dateIn_not_text (r : ResultSettings) (v : Value) (h : ∀ s, v ≠ .str s) :
    r.dateIn v = pure .null := by
  cases v with
  | str s => exact absurd rfl (h s)
  | _ => rfl

end SearchPage
