import SearchPage.Selector.Token

/-!
# Compiling a selector

A selector is compiled by reading its tokens from left to right into compound selectors.
A combinator closes the current compound and ties it to the next one; a comma closes it
and starts another member of the list. The arguments of `:is()`, `:where()`, `:not()`,
`:has()`, `:nth-child(... of S)` and the like are read as nested selector lists by the
same procedure, in a mode that says how they differ:

* inside brackets a `)` ends the list, and a missing one is an error;
* `:is()` and `:where()` forgive empty members, which match nothing;
* `:not()` negates its list;
* `:has()` reads relative selectors, which begin with an optional combinator and look
  forward from the element: to descendants, children, or later siblings.

Everything else that is out of place is an error: a type name after other tests, two
combinators in a row, a combinator at either end, an empty member outside the forgiving
pseudo-classes, or an unknown pseudo-class.
-/

namespace SearchPage.Selector

open SearchPage.Markup SearchPage.Text

/-- How a selector list is being read. -/
structure ListMode where
  /-- Inside the brackets of a pseudo-class: `)` ends the list. -/
  inBrackets : Bool := false
  /-- The argument of a pseudo-class. -/
  nested : Bool := false
  /-- The argument of `:has()`. -/
  relative : Bool := false
  negated : Bool := false
  /-- Empty members match nothing instead of being errors. -/
  forgiving : Bool := false

/-- A compound selector being read. -/
structure Draft where
  tag : Option Test := none
  tests : Array Test := #[]
  related : Option (Relation × Compound) := none
  never : Bool := false

/-- The finished compound selector. -/
def Draft.freeze (d : Draft) : Compound :=
  if d.never then .never else .mk (arrangeTests (d.tag.toList ++ d.tests.toList)) d.related

/-- Add a test to the current compound. -/
def Draft.add (d : Draft) (t : Test) : Draft := { d with tests := d.tests.push t }

/-- Tie a chain of relative compounds, read left to right, into one forward chain. -/
def freezeChain : List (Relation × Draft) → Option (Relation × Compound)
  | [] => none
  | (r, d) :: rest => some (r, Draft.freeze { d with related := freezeChain rest })

/-- The state of reading one selector list. -/
structure ListState where
  sel : Draft := {}
  items : Array Compound := #[]
  hasSelector : Bool := false
  /-- The compound before the last combinator, with that combinator. -/
  pending : Option (Relation × Compound) := none
  /-- Relative mode: the chains read so far, the last one still open. -/
  chains : Array (Array (Relation × Draft)) := #[#[]]
  /-- Relative mode: the combinator in front of the current compound. -/
  leading : Relation := .descendant

/-- The malformed-selector error. -/
def malformed {α : Type} (why : String) : Except SelectorError α := throw (.malformed why)

/-- The relation a combinator character stands for, looking back from the element. -/
def Relation.ofCombinator : Char → Relation
  | '>' => .parent
  | '~' => .earlierSibling
  | '+' => .previousSibling
  | _ => .ancestor

/-- The relation a combinator character written at `site` stands for inside `:has()`, looking
forward. -/
def Relation.forward (site : Nat) : Char → Relation
  | '>' => .child
  | '~' => .laterSibling site
  | '+' => .nextSibling
  | _ => .descendant

/-- The most digits a number is read from. -/
def maxNumberDigits : Nat := 4300

/-- The value of a signed run of digits; more digits than `maxNumberDigits` are refused. -/
def signedValue (negative : Bool) (digits : String) : Except SelectorError Int :=
  if maxNumberDigits < digits.length then throw .overlongNumber
  else
    let v : Int := decimalValue digits.toList
    pure (if negative then -v else v)

/-- The numbers of an `an+b` argument: `a` (1 or -1 for a bare `n`), whether `n` is
written, and `b` (0 when not written). -/
def NthArg.values (n : NthArg) : Except SelectorError (Int × Bool × Int) := do
  let a ← if n.aDigits.isEmpty then pure (if n.negA then -1 else 1)
    else signedValue n.negA n.aDigits
  let b ← if n.bDigits.isEmpty then pure 0 else signedValue n.negB n.bDigits
  pure (a, n.stepped, b)

/-- The position after a comma at `p`, with the blanks and comments around it. -/
def afterComma (s : Source) (p : Nat) : Option Nat :=
  Lexer.spaceThen s p fun q => if s.isAt q ',' then some (Lexer.skipSpace s (q + 1)) else none

/-- The values of an argument list: quoted strings and names, each with its escapes
replaced. -/
def argumentValues (text : String) : Except SelectorError (List String) :=
  collect text.toList.toArray 0 #[]
where
  collect (s : Source) (p : Nat) (acc : Array String) : Except SelectorError (List String) :=
    if p < s.size then
      match Lexer.valueEnd s p with
      | some e =>
        if p < e then do
          let raw := (s.extract p e).toList
          let v ← match raw.head? with
            | some '"' | some '\'' => Lexer.unescape (raw.drop 1).dropLast true
            | _ => Lexer.unescape raw false
          collect s e (acc.push v)
        else pure acc.toList
      | none =>
        match afterComma s p with
        | some e => if p < e then collect s e acc else pure acc.toList
        | none => collect s (p + 1) acc
    else pure acc.toList
  termination_by s.size - p

/-- The values of `:-soup-contains()`: the argument text, its escapes replaced, cut into
quoted strings and names; each value has its own escapes replaced once more. -/
def containsValues (args : String) : Except SelectorError (List String) := do
  argumentValues (← Lexer.unescape args.toList false)

/-- The test of an attribute token. -/
def attrTestOf (name : String) (op : Option String) (value : Option String)
    (caseFlag : Option Char) : Except SelectorError Test := do
  let written := value.getD ""
  let v ← match written.toList with
    | '"' :: rest | '\'' :: rest => Lexer.unescape rest.dropLast true
    | cs => Lexer.unescape cs false
  let caseless := match caseFlag.map asciiLower with
    | some 'i' => true
    | some _ => false
    | none => asciiLowerText name == "type"
  let mk (o : AttrOp) : Test := .attr { name, op := o, value := v, caseless }
  match op with
  | none => pure (.attr { name, op := .present, caseless })
  | some "=" => pure (mk .equals)
  | some "~=" => pure (mk .hasWord)
  | some "|=" => pure (mk .dashPrefix)
  | some "^=" => pure (mk .startsWith)
  | some "$=" => pure (mk .endsWith)
  | some "*=" => pure (mk .contains)
  | some _ => pure (.passes (.mk [.mk [mk .equals] none] true))

/-- The simple pseudo-classes that no element of a static page matches. -/
def alwaysFalsePseudo : List String :=
  [":active", ":current", ":focus", ":focus-visible", ":focus-within", ":future", ":host",
   ":hover", ":local-link", ":past", ":paused", ":playing", ":target", ":target-within",
   ":user-invalid", ":visited", ":autofill", ":buffering", ":fullscreen",
   ":picture-in-picture", ":seeking", ":stalled", ":volume-locked"]

/-- The pseudo-classes that take a selector list. -/
def listPseudo : List String :=
  [":contains", ":-soup-contains", ":-soup-contains-own", ":has", ":any", ":is", ":matches",
   ":not", ":where"]

/-- The pseudo-classes that take a selector list but match nothing. -/
def alwaysFalseListPseudo : List String := [":current", ":host", ":host-context"]

/-- The form fields that hold text a user may edit, without the closing bracket. -/
def editableFields : String :=
  "input:is(:not([type]), [type=\"\"], [type=text], [type=search], [type=url], [type=tel], " ++
  "[type=email], [type=password], [type=number]"

/-- The form fields that may have bounds. -/
def boundedFields : String :=
  "input:is([type=\"date\"], [type=\"month\"], [type=\"week\"], [type=\"time\"], " ++
  "[type=\"datetime-local\"], [type=\"number\"], [type=\"range\"]):is([min], [max])"

/-- The element-state pseudo-classes, each written as the selector it stands for, with a
test its last member adds, if any. -/
def stateSelector : String → Option (String × Option Test)
  | ":link" | ":any-link" => some (":is(a, area)[href]", none)
  | ":checked" =>
    some (":is(input[type=checkbox], input[type=radio])[checked], option[selected]", none)
  | ":default" => some (":checked, form :is(button, input)[type=\"submit\"]", some .defaultButton)
  | ":indeterminate" => some ("input[type=\"checkbox\"][indeterminate], " ++
      "input[type=\"radio\"]:is(:not([name]), [name=\"\"]):not([checked]), " ++
      "progress:not([value]), input[type=\"radio\"][name]:not([name=\"\"]):not([checked])",
      some .uncheckedGroup)
  | ":in-range" => some (boundedFields, some (.inRange true))
  | ":out-of-range" => some (boundedFields, some (.inRange false))
  | ":placeholder-shown" => some (editableFields ++
      ")[placeholder]:not([placeholder=\"\"]):is(:not([value]), [value=\"\"]), " ++
      "textarea[placeholder]:not([placeholder=\"\"])", some .noContent)
  | ":required" => some (":is(input, select, textarea)[required]", none)
  | ":optional" => some (":is(input, select, textarea):not([required])", none)
  | ":disabled" => some (":is(input:not([type=hidden]), button, select, textarea, fieldset, " ++
      "optgroup, option, fieldset)[disabled], optgroup[disabled] > option, " ++
      "fieldset[disabled] > :is(input:not([type=hidden]), button, select, textarea, fieldset), " ++
      "fieldset[disabled] > :not(legend:nth-of-type(1)) " ++
      ":is(input:not([type=hidden]), button, select, textarea, fieldset)", none)
  | ":enabled" => some (":is(input:not([type=hidden]), button, select, textarea, fieldset, " ++
      "optgroup, option, fieldset):not(:disabled)", none)
  | ":read-write" => some (":is(textarea, input:is(:not([type]), [type=\"\"], [type=text], " ++
      "[type=search], [type=url], [type=tel], [type=email], [type=number], [type=password], " ++
      "[type=date], [type=datetime-local], [type=month], [type=time], [type=week]))" ++
      ":not([readonly], :disabled), :is([contenteditable=\"\"], [contenteditable=\"true\" i])",
      none)
  | ":read-only" => some (":not(:read-write)", none)
  | ":open" => some (":is(details, dialog)[open]", none)
  | ":muted" => some (":is(video, audio)[muted]", none)
  | _ => none

/-- A selector list with a test added to its last member. -/
def SelectorList.addToLast (t : Test) : SelectorList → SelectorList
  | .mk items negated => .mk (go items) negated
where
  go : List Compound → List Compound
    | [] => []
    | [.mk tests related] => [.mk (arrangeTests (tests ++ [t])) related]
    | [.never] => [.never]
    | c :: cs => c :: go cs

/-- The position tests of the structural pseudo-classes. -/
def positionTests : String → Option (List Test)
  | ":first-child" => some [.nth 1 false 0 false false none]
  | ":last-child" => some [.nth 1 false 0 false true none]
  | ":first-of-type" => some [.nth 1 false 0 true false none]
  | ":last-of-type" => some [.nth 1 false 0 true true none]
  | ":only-child" => some [.nth 1 false 0 false false none, .nth 1 false 0 false true none]
  | ":only-of-type" => some [.nth 1 false 0 true false none, .nth 1 false 0 true true none]
  | _ => none

/-- Where the tokens of a selector begin and end: blanks and comments at either end are
not read. -/
def tokenBounds (s : Source) : Nat × Nat :=
  let start := Lexer.skipSpace s 0
  let trailing := fun p => Lexer.spaceThen s p fun q => if Lexer.atFinalEnd s q then some () else none
  let stop := ((List.range (s.size + 1)).find? fun p => (trailing p).isSome).getD s.size
  (start, stop)

/-- The end of reading a list, at the end of the tokens or at its `)`. -/
def finishList (mode : ListMode) (st : ListState) (closed : Bool) :
    Except SelectorError SelectorList := do
  if mode.inBrackets && !closed then malformed "unclosed pseudo-class"
  let mut st := st
  if st.hasSelector then
    if mode.relative then
      let chains := st.chains.modify (st.chains.size - 1) (·.push (st.leading, st.sel))
      st := { st with chains }
    else
      st := { st with items := st.items.push { st.sel with related := st.pending }.freeze,
                      pending := none }
  else if mode.forgiving && (st.items.isEmpty || st.pending.isNone) then
    st := { st with items := st.items.push Compound.never, pending := none, hasSelector := true }
  if !st.hasSelector then malformed "expected a selector"
  if mode.relative then
    let items := st.chains.toList.map fun chain => Compound.mk [] (freezeChain chain.toList)
    pure (.mk items mode.negated)
  else pure (.mk st.items.toList mode.negated)

/-- A combinator outside `:has()`. -/
def ListState.combine (st : ListState) (mode : ListMode) (c : Char) :
    Except SelectorError ListState := do
  if !st.hasSelector then
    if !mode.forgiving || c != ',' then malformed "combinator without a selector before it"
    pure { st with items := st.items.push .never, pending := none, sel := {}, hasSelector := false }
  else if c == ',' then
    pure { st with items := st.items.push { st.sel with related := st.pending }.freeze,
                   pending := none, sel := {}, hasSelector := false }
  else
    pure { st with pending := some (Relation.ofCombinator c, { st.sel with related := st.pending }.freeze),
                   sel := {}, hasSelector := false }

/-- A combinator inside `:has()`, written at `site`. -/
def ListState.combineRelative (st : ListState) (c : Char) (site : Nat) :
    Except SelectorError ListState := do
  let push (chains : Array (Array (Relation × Draft))) :=
    chains.modify (chains.size - 1) (·.push (st.leading, st.sel))
  if c == ',' then
    if !st.hasSelector then malformed "combinator without a selector before it"
    pure { st with chains := (push st.chains).push #[], leading := .descendant, sel := {},
                   hasSelector := false }
  else
    let chains ← if st.hasSelector then pure (push st.chains)
      else if st.leading != .descendant then malformed "two combinators in a row"
      else pure st.chains
    pure { st with chains, leading := Relation.forward site c, sel := {}, hasSelector := false }

/-- Read a selector list from position `i`, ending at `stop` or at its `)`; gives the
list and the position after it. `fuel` bounds the depth of reading: each token read and
each nested list takes one unit. The element-state pseudo-classes stand for selectors of
at most a few hundred tokens, so twice the selector's length and 1024 more is never used
up. -/
def parseFrom : Nat → Source → Nat → ListMode → ListState → Nat →
    Except SelectorError (SelectorList × Nat)
  | 0, _, _, _, _, _ => malformed "selector too deeply nested"
  | fuel + 1, s, stop, mode, st, i => do
    if stop ≤ i then return (← finishList mode st false, i)
    let some (tok, j) ← Token.next? s i | malformed "invalid character"
    let continueWith (st : ListState) (k : Nat) := parseFrom fuel s stop mode st k
    let nestedMode : ListMode := { inBrackets := true, nested := true }
    match tok with
    | .close =>
      if !st.hasSelector && !mode.forgiving then malformed "expected a selector"
      if mode.inBrackets then return (← finishList mode st true, j)
      malformed "unmatched close"
    | .containsArgs name args =>
      let texts ← containsValues args
      continueWith { st with sel := st.sel.add (.containsText [(name == ":-soup-contains-own", texts)]),
                             hasSelector := true } j
    | .nthChild name nth ofFollows =>
      let (a, stepped, b) ← nth.values
      let (filter, k) ← if ofFollows then
          let (l, k) ← parseFrom fuel s stop nestedMode {} j
          pure (some l, k)
        else pure (none, j)
      continueWith { st with sel := st.sel.add (.nth a stepped b false (name == ":nth-last-child") filter),
                             hasSelector := true } k
    | .nthType name nth =>
      let (a, stepped, b) ← nth.values
      continueWith { st with sel := st.sel.add (.nth a stepped b true (name == ":nth-last-of-type") none),
                             hasSelector := true } j
    | .langArgs args =>
      let ranges ← argumentValues args
      continueWith { st with sel := st.sel.add (.lang [ranges]), hasSelector := true } j
    | .dirArg ltr =>
      continueWith { st with sel := st.sel.add (.direction ltr), hasSelector := true } j
    | .customPseudo _ => malformed "undefined custom selector"
    | .pseudoElement => throw (.unsupported "pseudo-element")
    | .atRule => throw (.unsupported "at-rule")
    | .amp => continueWith { st with sel := st.sel.add .scope, hasSelector := true } j
    | .id name => continueWith { st with sel := st.sel.add (.id name), hasSelector := true } j
    | .cls name => continueWith { st with sel := st.sel.add (.cls name), hasSelector := true } j
    | .type ns name =>
      if st.hasSelector then malformed "type name after other tests"
      continueWith { st with sel := { st.sel with tag := some (.tag ns name) }, hasSelector := true } j
    | .attribute _ name op value caseFlag =>
      let t ← attrTestOf name op value caseFlag
      continueWith { st with sel := st.sel.add t, hasSelector := true } j
    | .combinator c =>
      let st ← if mode.relative then st.combineRelative c i else st.combine mode c
      continueWith st j
    | .pseudoClass name opens =>
      if opens && listPseudo.contains name then
        let sub : ListMode :=
          if name == ":not" then { nestedMode with negated := true }
          else if name == ":has" then { nestedMode with relative := true }
          else if name == ":is" || name == ":where" then { nestedMode with forgiving := true }
          else nestedMode
        let (l, k) ← parseFrom fuel s stop sub {} j
        continueWith { st with sel := st.sel.add (.passes l), hasSelector := true } k
      else if opens && alwaysFalseListPseudo.contains name then
        let (_, k) ← parseFrom fuel s stop nestedMode {} j
        continueWith { st with sel := { st.sel with never := true }, hasSelector := true } k
      else if !opens then
        if let some ts := positionTests name then
          continueWith { st with sel := ts.foldl Draft.add st.sel, hasSelector := true } j
        else if name == ":root" then
          continueWith { st with sel := st.sel.add .root, hasSelector := true } j
        else if name == ":empty" then
          continueWith { st with sel := st.sel.add .empty, hasSelector := true } j
        else if name == ":scope" then
          continueWith { st with sel := st.sel.add .scope, hasSelector := true } j
        else if name == ":defined" then
          continueWith { st with sel := st.sel.add .defined, hasSelector := true } j
        else if let some (css, extra) := stateSelector name then
          let inner : Source := css.toList.toArray
          let (l, _) ← parseFrom fuel inner inner.size { nested := true } {} 0
          let l := match extra with
            | some t => l.addToLast t
            | none => l
          continueWith { st with sel := st.sel.add (.passes l), hasSelector := true } j
        else if alwaysFalsePseudo.contains name then
          continueWith { st with sel := { st.sel with never := true }, hasSelector := true } j
        else malformed "unknown pseudo-class"
      else malformed "unknown pseudo-class"

/-- Compile a selector. A null character in it stands for U+FFFD. -/
def compile (selector : String) : Except SelectorError SelectorList :=
  let s : Source := (selector.toList.map fun c => if c == '\x00' then '\uFFFD' else c).toArray
  let (start, stop) := tokenBounds s
  (parseFrom (2 * s.size + 1024) s stop {} {} start).map (·.1)

end SearchPage.Selector
