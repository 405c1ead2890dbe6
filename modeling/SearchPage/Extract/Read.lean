import SearchPage.Extract.Basic
import SearchPage.Query.Read

/-!
# Extractions written as plain data

An extraction is written as a mapping from setting names to values: `query`,
`attribute`, `separator`, `trim`, `shallow_search` (also written `shallowSearch`),
`properties` (a mapping from field names to nested extractions, nothing meaning no
extraction) and `process` (the name of a process). Any other key is refused, with all
the unknown keys listed in order.

The mapping is read the way a dictionary is built from a value: a record is taken as it
is, the empty text is the empty mapping, and a list is a list of pairs, each a list of
two values, a text of two characters, or a record of two keys (its keys). Any other text
cannot be a mapping, and a value of another kind is of the wrong kind. A key written
twice keeps its first place and its last value.

`trim` and `shallow_search` are read as set or not set.

Only an extraction written as a record, nested in records only, has its query read as a
query and its process looked up by name. Any other is taken as it is: its query is taken
without reading tag tests, and a process given as anything but nothing cannot be run.

Reading never looks at what a query or a process will do. A query that cannot be read is
kept as it is given, and fails once it is run on something; a process that names no known
process, or is given as anything but a name, is kept too, and fails once it is called.
-/

namespace SearchPage


/-- Keys in order, when they can be ordered: all text, or all numbers and truth values. -/
def sortKeys (keys : List Value) : Except Fault (List Value) :=
  let texts := keys.filterMap fun
    | .str s => some s
    | _ => none
  let nums := keys.filterMap fun k => k.place?.map fun p => (p, k)
  if texts.length == keys.length then
    pure ((texts.mergeSort fun a b => decide (a ≤ b)).map .str)
  else if nums.length == keys.length then
    pure ((nums.mergeSort fun a b => Value.placeLe a.1 b.1).map (·.2))
  else if keys.length ≤ 1 then pure keys
  else throw .wrongKind

/-- Keys listed for a message. -/
def listKeys (keys : List Value) : String :=
  "[" ++ ", ".intercalate (keys.map Value.literal) ++ "]"

/-- Entries with one key written: in place when it is there, at the end otherwise. -/
def putEntry : List (Value × Value) → Value → Value → List (Value × Value)
  | [], k, v => [(k, v)]
  | (k', v') :: rest, k, v =>
    if k'.sameKey k then (k', v) :: rest else (k', v') :: putEntry rest k v

/-- One pair of a mapping written as a list. -/
def pairOf : Value → Except Fault (Value × Value)
  | .list [k, v] => pure (k, v)
  | .str s => match s.toList with
    | [a, b] => pure (.str (String.singleton a), .str (String.singleton b))
    | _ => throw .unusableValue
  | .record [(a, _), (b, _)] => pure (.str a, .str b)
  | .list _ | .record _ => throw .unusableValue
  | _ => throw .wrongKind

/-- The entries of a mapping written as a value. -/
def entriesOf (v : Value) : Except Fault (List (Value × Value)) := do
  let pairs ← match v with
    | .record fs => pure (fs.map fun (k, x) => (Value.str k, x))
    | .str s => if s.isEmpty then pure [] else throw .unusableValue
    | .list xs => xs.mapM fun x => do
        let (k, y) ← pairOf x
        if k.isKey then pure (k, y) else throw .wrongKind
    | _ => throw .wrongKind
  pure (pairs.foldl (fun acc (k, y) => putEntry acc k y) [])

/-- The value under a text key. -/
def lookupEntry (es : List (Value × Value)) (k : String) : Option Value :=
  (es.find? fun (k', _) => k'.sameKey (.str k)).map (·.2)

/-- The setting names an extraction knows. -/
def settingNames : List String :=
  ["query", "attribute", "separator", "trim", "shallow_search", "properties", "process"]

namespace Extraction

/-- Entries with `shallowSearch` renamed `shallow_search`, whose value it replaces when both
are there. -/
def renameShallow (es : List (Value × Value)) : List (Value × Value) :=
  match lookupEntry es "shallowSearch" with
  | some x => putEntry (es.filter fun (k, _) => !k.sameKey (.str "shallowSearch"))
      (.str "shallow_search") x
  | none => es

/-- The keys of entries that no setting has, in order. -/
def unknownSettingKeys (es : List (Value × Value)) : List Value :=
  (es.map (·.1)).filter fun k => !settingNames.any fun n => k.sameKey (.str n)

/-- The entries of an extraction's mapping, `shallowSearch` renamed, unknown keys
refused. -/
def checkedEntries (v : Value) : Except Fault (List (Value × Value)) := do
  let es := renameShallow (← entriesOf v)
  let unknown := unknownSettingKeys es
  if unknown.isEmpty then pure es
  else throw (.unknownSettings (listKeys (← sortKeys unknown)))

/-- A process given as it is: anything but nothing cannot be run. -/
def plainProcess : Procedure := fun _ _ _ => throw .wrongKind

/-- One field under `properties`, its extraction read by `readNested`; nothing means no
extraction. -/
def readField (readNested : Value → Except Fault Extraction) (k : String) :
    Value → Except Fault (String × Option Extraction)
  | .null => pure (k, none)
  | x => do pure (k, some (← readNested x))

/-- The nested extractions under `properties`, each read by `readNested`: nothing gives no
fields, a mapping one field per key, and anything else lacks the pairs a mapping has. -/
def readFields (readNested : Value → Except Fault Extraction) :
    Option Value → Except Fault (Option (List (String × Option Extraction)))
  | none | some .null => pure none
  | some (.record fs) => some <$> fs.mapM fun e => readField readNested e.1 e.2
  | some _ => throw .missingMember

/-- The query of an extraction: read as a query, or taken as it is when it is not one (or is
not to be read). -/
def readQuery (read : Bool) : Option Value → Option Query
  | none => none
  | some q => if read then (Query.ofValue q).getD (Query.ofPlain q) else Query.ofPlain q

/-- The process of an extraction: found by name; a name no process has, or a process given
as anything but a name or taken as it is, is one that cannot be run. -/
def readProcess (processes : String → Option Procedure) (read : Bool) :
    Option Value → Option Procedure
  | none | some .null => none
  | some (.str name) => some (if read then (processes name).getD plainProcess else plainProcess)
  | some _ => some plainProcess

/-- The settings the entries give, with the query read. -/
def settingsFrom (es : List (Value × Value)) (query : Option Query) : Settings :=
  { query
    attrName := (lookupEntry es "attribute").getD .null
    separator := (lookupEntry es "separator").getD (.str ", ")
    trim := (lookupEntry es "trim").elim true Value.isSet
    shallow := (lookupEntry es "shallow_search").elim false Value.isSet }

/-- Read an extraction, nested ones within `fuel` levels. An extraction written as a
record, inside records only, has its query read and its process found by name; any
other is taken as it is, nested ones included. The keys are checked first, then the
nested extractions are read in order. -/
def ofValueWithin (processes : String → Option Procedure) :
    Nat → Bool → Value → Except Fault Extraction
  | 0, _, _ => throw .unusableValue
  | fuel + 1, read, v => do
    let read := read && v matches .record _
    let es ← checkedEntries v
    let fields ← readFields (ofValueWithin processes fuel read) (lookupEntry es "properties")
    let query := readQuery read (lookupEntry es "query")
    let process := readProcess processes read (lookupEntry es "process")
    pure (.mk (settingsFrom es query) fields process)

/-- Read an extraction written as plain data; nothing means no extraction. -/
def ofValue (processes : String → Option Procedure) : Value → Except Fault (Option Extraction)
  | .null => pure none
  | v => some <$> ofValueWithin processes (v.depth + 1) true v

end Extraction

end SearchPage
