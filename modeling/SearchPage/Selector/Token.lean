import SearchPage.Selector.Lexer

/-!
# Finding the next token of a selector

`Token.next` tries the token kinds in their fixed order at a position and returns the
first that matches, with the position after it. Names are returned with their escapes
replaced; pseudo-class names also in lower case. When nothing matches, the selector is
malformed.
-/

namespace SearchPage.Selector

open SearchPage.Markup SearchPage.Text

/-- An `an+b` argument as written: the sign and digits of `a` (no digits for a bare `n`),
whether `n` is written, and the sign and digits of `b` (no digits when no `b` is
written). -/
structure NthArg where
  negA : Bool := false
  aDigits : String := ""
  stepped : Bool := true
  negB : Bool := false
  bDigits : String := ""
  deriving Repr

/-- One token of a selector. -/
inductive Token where
  /-- `)`, closing the arguments of a pseudo-class. -/
  | close
  /-- `:-soup-contains(...)` and its kin, with the name and the text of the arguments. -/
  | containsArgs (name : String) (args : String)
  /-- `:nth-child(...)` or `:nth-last-child(...)`; `ofFollows` when `of S` follows. -/
  | nthChild (name : String) (nth : NthArg) (ofFollows : Bool)
  /-- `:nth-of-type(...)` or `:nth-last-of-type(...)`. -/
  | nthType (name : String) (nth : NthArg)
  | langArgs (args : String)
  /-- `:dir(ltr)` or `:dir(rtl)`. -/
  | dirArg (ltr : Bool)
  /-- A pseudo-class whose name starts with `--`. -/
  | customPseudo (name : String)
  /-- Any other pseudo-class, with `opens` when a `(` follows. -/
  | pseudoClass (name : String) (opens : Bool)
  | pseudoElement
  | amp
  | atRule
  | id (name : String)
  | cls (name : String)
  | type (ns : Option String) (name : String)
  /-- An attribute test as written: namespace, name, comparison, value and case flag. -/
  | attribute (ns : Option String) (name : String) (op : Option String) (value : Option String)
      (caseFlag : Option Char)
  /-- A combinator: `,`, `+`, `>`, `~`, or a blank for the descendant combinator. -/
  | combinator (c : Char)
  deriving Repr

namespace Token

open Lexer

/-- The text between two positions of the selector. -/
def textOf (s : Source) (a b : Nat) : List Char := (s.extract a b).toList

/-- A name with its escapes replaced, in ASCII lower case. -/
def lowerName (s : Source) (a b : Nat) : Except SelectorError String :=
  return asciiLowerText (← unescape (textOf s a b) false)

/-- Whether the character at `p` is one of `cs`, letters compared without ASCII case. -/
def isOneOf (s : Source) (p : Nat) (cs : List Char) : Bool :=
  s.satisfies p fun c => cs.contains (asciiLower c)

/-- `:name(` at `p`: where the name ends. -/
def openPseudo (s : Source) (p : Nat) : Option Nat :=
  if s.isAt p ':' then
    match identEnd s (p + 1) with
    | some e => if s.isAt e '(' then some e else none
    | none => none
  else none

/-- Blanks and comments and a closing bracket at `p`: the position after the bracket. -/
def closeEnd (s : Source) (p : Nat) : Option Nat :=
  spaceThen s p fun q => if s.isAt q ')' then some (q + 1) else none

/-- The end of a run of ASCII digits at `p`, when there is at least one. -/
def digitsEnd (s : Source) (p : Nat) : Option Nat :=
  let e := s.skipWhile isAsciiDigit p
  if p < e then some e else none

/-- An `an+b` argument at `p`, then `k`: an optional sign, digits with an optional `n` or
a bare `n`, and after an `n` optionally a sign and digits, with blanks and comments
around the sign. The readings are tried in turn, longest first, until `k` accepts the
position after one. -/
def nthThen {α : Type} (s : Source) (p : Nat) (k : NthArg → Nat → Option α) : Option α :=
  let (negA, q) :=
    if s.isAt p '-' then (true, p + 1) else if s.isAt p '+' then (false, p + 1) else (false, p)
  let aReadings : List (String × Nat) :=
    match digitsEnd s q with
    | some d =>
      let digits := String.ofList (textOf s q d)
      (if isOneOf s d ['n'] then [(digits, d + 1)] else []) ++ [(digits, d)]
    | none => if isOneOf s q ['n'] then [("", q + 1)] else []
  let signed := aReadings.findSome? fun (digits, ae) =>
    let stepped := isOneOf s (ae - 1) ['n']
    let arg : NthArg := { negA, aDigits := digits, stepped }
    let withB : Option α :=
      if stepped then
        spaceThen s ae fun r =>
          if isOneOf s r ['+', '-'] then
            spaceThen s (r + 1) fun t =>
              (digitsEnd s t).bind fun te =>
                k { arg with negB := s.isAt r '-', bDigits := String.ofList (textOf s t te) } te
          else none
      else none
    withB.orElse fun _ => k arg ae
  signed.orElse fun _ =>
    if s.startsWithFoldAt p "even".toList then k { aDigits := "2", bDigits := "0" } (p + 4)
    else if s.startsWithFoldAt p "odd".toList then k { aDigits := "2", bDigits := "1" } (p + 3)
    else none

/-- The end of ` of ` after an `an+b` argument: comments, a blank, blanks and comments,
`of`, comments, a blank, blanks and comments. -/
def ofEnd (s : Source) (p : Nat) : Option Nat :=
  commentsThen s p fun q =>
    (blankEnd s q).bind fun r =>
      spaceThen s r fun t =>
        if s.startsWithFoldAt t "of".toList then
          commentsThen s (t + 2) fun u => (blankEnd s u).map (skipSpace s)
        else none

/-- Values separated by commas at `p`, then `k` at the end of the last value. -/
def valuesThen {α : Type} (s : Source) (p : Nat) (k : Nat → Option α) : Option α :=
  (valueEnd s p).bind fun e => more s.size e
where
  more : Nat → Nat → Option α
    | 0, e => k e
    | fuel + 1, e =>
      (spaceThen s e fun q =>
        if s.isAt q ',' then
          spaceThen s (q + 1) fun r => (valueEnd s r).bind fun e' => more fuel e'
        else none).orElse fun _ => k e

/-- The pseudo-classes whose arguments are values. -/
def containsNames : List String := [":contains", ":-soup-contains", ":-soup-contains-own"]

/-- A pseudo-class with special arguments at `p`. -/
def special (s : Source) (p : Nat) : Except SelectorError (Option (Token × Nat)) := do
  match openPseudo s p with
  | none => pure none
  | some e =>
    let name ← lowerName s p e
    let args := e + 1
    if containsNames.contains name || name == ":lang" then
      pure <| spaceThen s args fun v =>
        valuesThen s v fun ve => (closeEnd s ve).map fun c =>
          let text := String.ofList (textOf s v ve)
          (if name == ":lang" then .langArgs text else .containsArgs name text, c)
    else if name == ":nth-child" || name == ":nth-last-child" then
      pure <| spaceThen s args fun v =>
        nthThen s v fun nth n =>
          match closeEnd s n with
          | some c => some (.nthChild name nth false, c)
          | none => (ofEnd s n).map fun o => (.nthChild name nth true, o)
    else if name == ":nth-of-type" || name == ":nth-last-of-type" then
      pure <| spaceThen s args fun v =>
        nthThen s v fun nth n => (closeEnd s n).map fun c => (.nthType name nth, c)
    else if name == ":dir" then
      pure <| spaceThen s args fun v =>
        if s.startsWithFoldAt v "ltr".toList || s.startsWithFoldAt v "rtl".toList then
          (closeEnd s (v + 3)).map fun c => (.dirArg (isOneOf s v ['l']), c)
        else none
    else pure none

/-- A type name or `*` at `p`. -/
def typeNameEnd (s : Source) (p : Nat) : Option Nat :=
  if s.isAt p '*' then some (p + 1) else identEnd s p

/-- A namespace prefix at `p` (a name, `*` or nothing, then `|`): where it ends. -/
def prefixEnd (s : Source) (p : Nat) : Option Nat :=
  match typeNameEnd s p with
  | some e => if s.isAt e '|' then some (e + 1) else if s.isAt p '|' then some (p + 1) else none
  | none => if s.isAt p '|' then some (p + 1) else none

/-- A type selector at `p`: namespace part, name, end. -/
def typeAt (s : Source) (p : Nat) : Option (Option (Nat × Nat) × (Nat × Nat)) :=
  let withPrefix := (prefixEnd s p).bind fun e =>
    (typeNameEnd s e).map fun n => (some (p, e - 1), (e, n))
  withPrefix.orElse fun _ => (typeNameEnd s p).map fun n => (none, (p, n))

/-- The comparison of an attribute test at `p`: an optional `!`, `~`, `^`, `|`, `*` or
`$`, then `=`. -/
def opEnd (s : Source) (p : Nat) : Option Nat :=
  if s.isAt p '=' then some (p + 1)
  else if isOneOf s p ['!', '~', '^', '|', '*', '$'] && s.isAt (p + 1) '=' then some (p + 2)
  else none

/-- Blanks and comments and `]` at `p`: the position after the bracket. -/
def bracketEnd (s : Source) (p : Nat) : Option Nat :=
  spaceThen s p fun q => if s.isAt q ']' then some (q + 1) else none

/-- Whether a character is read as the case flag of an attribute test: `i` or `s` in
either case, and the letters that match them when case is ignored (dotted capital I,
dotless small i, long s). -/
def isCaseFlag (c : Char) : Bool :=
  ['i', 's', '\u0130', '\u0131', '\u017F'].contains (asciiLower c)

/-- The rest of an attribute test after its name at `p`: comparison, value and case flag,
then `]`. -/
def attrRest (s : Source) (p : Nat) :
    Option (Option ((Nat × Nat) × (Nat × Nat) × Option Nat) × Nat) :=
  let withValue := spaceThen s p fun o =>
    (opEnd s o).bind fun oe =>
      spaceThen s oe fun v =>
        (valueEnd s v).bind fun ve =>
          let flagged := spaceThen s ve fun c =>
            if s.satisfies c isCaseFlag then
              (bracketEnd s (c + 1)).map fun r => (some ((o, oe), (v, ve), some c), r)
            else none
          flagged.orElse fun _ =>
            (bracketEnd s ve).map fun r => (some ((o, oe), (v, ve), none), r)
  withValue.orElse fun _ => (bracketEnd s p).map fun r => (none, r)

/-- An attribute test at `p`. -/
def attributeAt (s : Source) (p : Nat) : Except SelectorError (Option (Token × Nat)) := do
  if !s.isAt p '[' then return none
  let attempt (nsPart : Option (Nat × Nat)) (nameStart : Nat) :
      Option (Option (Nat × Nat) × (Nat × Nat) ×
        Option ((Nat × Nat) × (Nat × Nat) × Option Nat) × Nat) :=
    (identEnd s nameStart).bind fun ne =>
      (attrRest s ne).map fun (rest, stop) => (nsPart, (nameStart, ne), rest, stop)
  let found := spaceThen s (p + 1) fun q =>
    let withPrefix := (prefixEnd s q).bind fun e => attempt (some (q, e - 1)) e
    withPrefix.orElse fun _ => attempt none q
  match found with
  | none => pure none
  | some (nsPart, (a, b), rest, stop) =>
    let ns ← match nsPart with
      | some (x, y) => some <$> unescape (textOf s x y) false
      | none => pure none
    let name ← unescape (textOf s a b) false
    match rest with
    | none => pure (some (.attribute ns name none none none, stop))
    | some ((o, oe), (v, ve), c) =>
      pure (some (.attribute ns name (some (String.ofList (textOf s o oe)))
        (some (String.ofList (textOf s v ve))) (c.bind s.at?), stop))

/-- The characters that are combinators. -/
def isCombinatorChar (c : Char) : Bool := c == ',' || c == '+' || c == '>' || c == '~'

/-- A combinator at `p`: as many blanks and comments as can be taken, then one of `,`,
`+`, `>`, `~`, or else a blank not followed by one of them; then blanks and comments. -/
def combinatorAt (s : Source) (p : Nat) : Option (Char × Nat) :=
  spaceThen s p fun q =>
    match s.at? q with
    | some c =>
      if isCombinatorChar c then some (c, skipSpace s (q + 1))
      else (blankEnd s q).bind fun b =>
        if s.satisfies b isCombinatorChar then none else some (' ', skipSpace s b)
    | none => none

/-- The next token at `p`, or `none` when nothing matches. -/
def next? (s : Source) (p : Nat) : Except SelectorError (Option (Token × Nat)) := do
  if let some c := closeEnd s p then return some (.close, c)
  if let some r ← special s p then return some r
  if s.isAt p ':' && s.startsWithAt (p + 1) ['-', '-'] then
    if let some e := identEnd s (p + 1) then
      return some (.customPseudo (← lowerName s p e), e)
  if s.isAt p ':' then
    if let some e := identEnd s (p + 1) then
      let name ← lowerName s p e
      if s.isAt e '(' then return some (.pseudoClass name true, skipSpace s (e + 1))
      return some (.pseudoClass name false, e)
  if s.startsWithAt p [':', ':'] then
    if let some e := identEnd s (p + 2) then
      return some (.pseudoElement, if s.isAt e '(' then skipSpace s (e + 1) else e)
  if s.isAt p '&' then return some (.amp, p + 1)
  if s.isAt p '@' && isOneOf s (p + 1) ['p'] then
    if let some e := identEnd s (p + 2) then return some (.atRule, e)
  if s.isAt p '#' then
    if let some e := identEnd s (p + 1) then
      return some (.id (← unescape (textOf s (p + 1) e) false), e)
  if s.isAt p '.' then
    if let some e := identEnd s (p + 1) then
      return some (.cls (← unescape (textOf s (p + 1) e) false), e)
  if let some (nsPart, (a, b)) := typeAt s p then
    let ns ← match nsPart with
      | some (x, y) => some <$> unescape (textOf s x y) false
      | none => pure none
    return some (.type ns (← unescape (textOf s a b) false), b)
  if let some r ← attributeAt s p then return some r
  if let some (c, e) := combinatorAt s p then return some (.combinator c, e)
  return none

end Token

end SearchPage.Selector
