import SearchPage.Pattern.Syntax
import SearchPage.Text.Name

/-!
# Reading patterns

A pattern is read from left to right into its syntax, and refused when it is not well
formed: an unbalanced or unterminated group, an unterminated or reversed class range, an
unknown escape of an ASCII letter, a repetition with nothing before it or after another
repetition, a reference to a group that does not exist or is still open, bad settings, or
a look-behind whose width is not fixed.

Settings written as `(?aimsux)` apply to the whole pattern and must come first;
`(?imsx-imsx:...)` applies to its group only. With the verbose setting, blanks and
comments from `#` to the end of the line are skipped outside classes.

A brace that does not start a well-formed count `{m}`, `{m,}`, `{,n}` or `{m,n}` is an
ordinary character.

Reading runs on fuel: every step consumes one unit and reads at least one character or
ends a construct, so twice the pattern's length and a little more always suffices.
-/

namespace SearchPage.Pattern

open SearchPage.Text

/-- The settings in force while reading. -/
structure Flags where
  caseless : Bool := false
  multiline : Bool := false
  dotAll : Bool := false
  verbose : Bool := false
  ascii : Bool := false
  unicode : Bool := false
  template : Bool := false
  deriving Repr, Inhabited, DecidableEq

/-- How letter case counts under the settings. -/
def Flags.caseRule (fl : Flags) : CaseRule :=
  if !fl.caseless then .exact else if fl.ascii then .ascii else .unicode

/-- What reading has learnt so far: the groups opened, the groups closed with their
widths, the group names, the groups a condition refers to, how many groups were open
when the outermost look-behind being read began, and whether a look-behind of varying
width was read. -/
structure ReadState where
  groups : Nat := 0
  closed : List (Nat × Nat × Nat) := []
  names : List (String × Nat) := []
  conditions : List Nat := []
  lookbehindGroups : Option Nat := none
  unfixedLookbehind : Bool := false
  deriving Repr, Inhabited

/-- The pattern text. -/
abbrev Src := Array Char

/-- A reading step: a result and the position after it, or why the pattern is refused. -/
abbrev Reading (α : Type) := Except PatternError α

/-- The bound that stands for "no bound" in widths and repetition counts. -/
def maxRepeat : Nat := 4294967295

/-- A width kept within the bounds widths are counted in: the least below `maxRepeat`, the
greatest at most `maxRepeat`. -/
def capWidth (w : Nat × Nat) : Nat × Nat := (min w.1 (maxRepeat - 1), min w.2 maxRepeat)

/-- The least and greatest number of characters a piece matches, `maxRepeat` standing for
no bound. Every piece's width is kept within bounds, so a huge fixed width counts as a
varying one. A back reference has the width of its group. -/
def widthOf (st : ReadState) : Node → Nat × Nat
  | .empty => (0, 0)
  | .char _ _ | .notChar _ _ | .any _ | .category _ _ _ | .charClass _ _ _ _ => (1, 1)
  | .lineStart _ | .lineEnd _ | .textStart | .textEnd | .boundary _ _ => (0, 0)
  | .look _ _ _ => (0, 0)
  | .group _ body | .atomic body => widthOf st body
  | .backref n _ => (st.closed.lookup n).getD (0, 0)
  | .ifGroup _ yes no =>
    let (l1, h1) := widthOf st yes
    let (l2, h2) := widthOf st no
    (min l1 l2, max h1 h2)
  | .loop body lo hi _ | .possessive body lo hi =>
    let (l, h) := widthOf st body
    capWidth (l * lo, h * hi.getD maxRepeat)
  | .seq items => capWidth (sumWidths st items)
  | .alt options => altWidths st options
where
  sumWidths (st : ReadState) : List Node → Nat × Nat
    | [] => (0, 0)
    | n :: ns =>
      let (l1, h1) := widthOf st n
      let (l2, h2) := sumWidths st ns
      (l1 + l2, h1 + h2)
  altWidths (st : ReadState) : List Node → Nat × Nat
    | [] => (maxRepeat - 1, 0)
    | n :: ns =>
      let (l1, h1) := widthOf st n
      let (l2, h2) := altWidths st ns
      (min l1 l2, max h1 h2)

/-- Whether a character is one of the setting letters. -/
def isFlagChar (c : Char) : Bool := "iLmsxatu".contains c

/-- Whether a text is a group name: an identifier, its first character of class XID_Start
or the low line, the others of class XID_Continue. -/
def isGroupName (name : List Char) : Bool :=
  match name with
  | c :: cs => identStartRanges.holds c && cs.all identContinueRanges.holds
  | [] => false

/-- The most digits a number is read from. -/
def maxNumberDigits : Nat := 4300

/-- The largest repetition count, plus one. -/
def countLimit : Nat := 4294967295

/-- The largest group number, plus one. -/
def groupLimit : Nat := 1073741823

/-- The value of a decimal digit of any script. -/
def digitValue (c : Char) : Option Nat :=
  (decimalDigitZeros.find? fun z => z ≤ c.toNat && c.toNat < z + 10).map (c.toNat - ·)

/-- Digits with single low lines between them: their values, or `none` when the text is
not of that form. -/
def digitRun : List Char → Option (List Nat)
  | [] => none
  | [c] => (digitValue c).map ([·])
  | c :: '_' :: rest => do
    let d ← digitValue c
    match rest with
    | [] => none
    | _ => (digitRun rest).map (d :: ·)
  | c :: rest => do
    let d ← digitValue c
    (digitRun rest).map (d :: ·)

/-- A whole number written the way numbers are read from text: blanks around it, an
optional sign, and digits of any script with single low lines between them; `none` when
the text is not one, or has more than `maxNumberDigits` digits. -/
def intValue (cs : List Char) : Option Int := do
  let cs := ((cs.dropWhile isTrimBlank).reverse.dropWhile isTrimBlank).reverse
  let (negative, cs) := match cs with
    | '-' :: r => (true, r)
    | '+' :: r => (false, r)
    | r => (false, r)
  let ds ← digitRun cs
  if maxNumberDigits < ds.length then none
  let v : Nat := ds.foldl (fun n d => n * 10 + d) 0
  pure (if negative then -(v : Int) else v)

/-- The value of a repetition count's digits: refused beyond `maxNumberDigits` digits,
and too large from `countLimit` on. -/
def countValue (ds : List Char) : Reading Nat :=
  if maxNumberDigits < ds.length then throw .overlongNumber
  else
    let n := decimalValue ds
    if countLimit ≤ n then throw .countTooLarge else pure n

/-- The characters from `i` up to the first `stop`, and the position after it. -/
def takeUntil (s : Src) (stop : Char) (i : Nat) : Option (List Char × Nat) :=
  match findChar s stop i with
  | some j => some ((s.extract i j).toList, j + 1)
  | none => none
where
  findChar (s : Src) (c : Char) (i : Nat) : Option Nat :=
    ((List.range' i (s.size - i)).find? fun j => s[j]? == some c)

/-- At most `count` hexadecimal digits from `i`. -/
def hexRunAt (s : Src) (i count : Nat) : List Char :=
  ((s.extract i (i + count)).toList).takeWhile isHexDigit

/-- The value of octal digits. -/
def octalValue (ds : List Char) : Nat :=
  ds.foldl (fun n d => n * 8 + (d.toNat - '0'.toNat)) 0

/-- A character given by number; a number that is not a character matches nothing. -/
def charNode (n : Nat) (fl : Flags) : Node :=
  if n < 0xD800 || (0xDFFF < n && n ≤ 0x10FFFF) then .char (Char.ofNat n) fl.caseRule
  else .charClass false [] .exact fl.ascii

/-- A class member given by number. -/
def classChar (n : Nat) : Option Char :=
  if n < 0xD800 || (0xDFFF < n && n ≤ 0x10FFFF) then some (Char.ofNat n) else none

/-- The character an escape letter stands for inside and outside classes. -/
def escapedControl (c : Char) (inClass : Bool) : Option Char :=
  match c with
  | 'a' => some (Char.ofNat 7)
  | 'f' => some (Char.ofNat 12)
  | 'n' => some '\n'
  | 'r' => some '\r'
  | 't' => some '\t'
  | 'v' => some (Char.ofNat 11)
  | 'b' => if inClass then some (Char.ofNat 8) else none
  | _ => none

/-- The named class of an escape letter, and whether it is negated. -/
def escapedCategory (c : Char) : Option (Category × Bool) :=
  match c with
  | 'd' => some (.digit, false)
  | 'D' => some (.digit, true)
  | 'w' => some (.word, false)
  | 'W' => some (.word, true)
  | 's' => some (.space, false)
  | 'S' => some (.space, true)
  | _ => none

/-- A numbered escape `\x`, `\u` or `\U`: its code and the position after it. -/
def numberedEscape (s : Src) (c : Char) (i : Nat) : Option (Reading (Nat × Nat)) :=
  let width := match c with
    | 'x' => some 2
    | 'u' => some 4
    | 'U' => some 8
    | _ => none
  width.map fun w =>
    let ds := hexRunAt s i w
    if ds.length != w then throw (.malformed "incomplete escape")
    else
      let n := hexNumberValue ds
      if n > 0x10FFFF then throw (.malformed "bad escape") else pure (n, i + w)

/-- A named escape `\N{name}` whose `N` stands at `i`: the character named and the position
after the closing brace. The name runs to the first closing brace; a backslash in it makes
it no name. -/
def namedEscape (s : Src) (i : Nat) : Reading (Char × Nat) := do
  if s[i + 1]? != some '\x7b' then throw (.malformed "missing brace")
  let name := ((s.extract (i + 2) s.size).toList).takeWhile (· != '\x7d')
  let close := i + 2 + name.length
  if s[close]? != some '\x7d' then throw (.malformed "unterminated name")
  if name.isEmpty then throw (.malformed "missing character name")
  if name.contains '\\' then throw (.malformed "undefined character name")
  match charOfName (String.ofList name) with
  | some c => return (c, close + 1)
  | none => throw (.malformed "undefined character name")

/-- One member of a bracketed class after a backslash at `i - 1`, `c` being the character
at `i`: a single character or a named class, and the position after it. -/
def classEscape (s : Src) (i : Nat) : Reading (Sum Char ClassItem × Nat) := do
  let some c := s[i]? | throw (.malformed "bad escape (end of pattern)")
  if let some d := escapedControl c true then return (.inl d, i + 1)
  if let some (cat, neg) := escapedCategory c then return (.inr (.category cat neg), i + 1)
  if let some r := numberedEscape s c (i + 1) then
    let (n, j) ← r
    match classChar n with
    | some d => return (.inl d, j)
    | none => return (.inr (.range (Char.ofNat 0xFFFF) (Char.ofNat 0xFFFE)), j)
  if c == 'N' then
    let (d, j) ← namedEscape s i
    return (.inl d, j)
  if '0' ≤ c && c ≤ '7' then
    let more := ((s.extract (i + 1) (i + 3)).toList).takeWhile fun d => '0' ≤ d && d ≤ '7'
    let n := octalValue (c :: more)
    if n > 0o377 then throw (.malformed "octal escape outside range")
    return (.inl (Char.ofNat n), i + 1 + more.length)
  if isAsciiDigit c then throw (.malformed "bad escape")
  if isAsciiLetter c then throw (.malformed "bad escape")
  return (.inl c, i + 1)

/-- Read a bracketed class whose `[` stands at `start`, from position `i`; `items` holds
the members read so far, last first. Runs on fuel. -/
def readClass (s : Src) : Nat → Nat → List ClassItem → Reading (List ClassItem × Nat)
  | 0, _, _ => throw (.malformed "pattern too long")
  | fuel + 1, i, items => do
    let some c := s[i]? | throw (.malformed "unterminated character set")
    if c == ']' && !items.isEmpty then return (items.reverse, i + 1)
    let (first, j) ← if c == '\\' then classEscape s (i + 1) else pure (.inl c, i + 1)
    if s[j]? == some '-' then
      let some d := s[j + 1]? | throw (.malformed "unterminated character set")
      if d == ']' then
        let item := match first with
          | .inl a => ClassItem.single a
          | .inr it => it
        return ((ClassItem.single '-' :: item :: items).reverse, j + 2)
      let (second, k) ← if d == '\\' then classEscape s (j + 2) else pure (.inl d, j + 2)
      match first, second with
      | .inl a, .inl b =>
        if b < a then throw (.malformed "bad character range")
        else readClass s fuel k (.range a b :: items)
      | _, _ => throw (.malformed "bad character range")
    else
      let item := match first with
        | .inl a => ClassItem.single a
        | .inr it => it
      readClass s fuel j (item :: items)

/-- A count `{m}`, `{m,}`, `{,n}` or `{m,n}` whose `{` stands before `i`: the digits of
its bounds (`none` for an open upper bound) and the position after it, or `none` when the
brace is an ordinary character. -/
def readCount (s : Src) (i : Nat) : Option (List Char × Option (List Char) × Nat) :=
  let lo := ((s.extract i s.size).toList).takeWhile isAsciiDigit
  let j := i + lo.length
  let (hi, k, comma) :=
    if s[j]? == some ',' then
      let hi := ((s.extract (j + 1) s.size).toList).takeWhile isAsciiDigit
      (hi, j + 1 + hi.length, true)
    else (lo, j, false)
  if s[k]? != some '}' then none
  else some (lo, (if hi.isEmpty && comma then none else some hi), k + 1)

/-- The bounds of a count from its digits: no digits below means 0, none above means no
bound. -/
def countBounds (lo : List Char) (hi : Option (List Char)) : Reading (Nat × Option Nat) := do
  let min ← if lo.isEmpty then pure 0 else countValue lo
  let max ← match hi with
    | some ds => if ds.isEmpty then pure (some 0) else some <$> countValue ds
    | none => pure none
  pure (min, max)

/-- Apply setting letters to settings. -/
def Flags.turn (fl : Flags) (on : Bool) : List Char → Flags
  | [] => fl
  | c :: cs =>
    let fl := match c with
      | 'i' => { fl with caseless := on }
      | 'm' => { fl with multiline := on }
      | 's' => { fl with dotAll := on }
      | 'x' => { fl with verbose := on }
      | 'a' => { fl with ascii := on }
      | 'u' => { fl with unicode := on }
      | 't' => { fl with template := on }
      | _ => fl
    Flags.turn fl on cs

/-- The settings within a group that turns on `letters`: turning on `a` or `u` there
replaces the character rules in force instead of adding to them. -/
def Flags.within (fl : Flags) (letters : List Char) : Flags :=
  let fl := if letters.contains 'a' || letters.contains 'u' then
      { fl with ascii := false, unicode := false }
    else fl
  fl.turn true letters

/-- Check setting letters that are turned on: `L` cannot be used on text, and `a` and `u`
exclude each other. -/
def checkOn (letters : List Char) : Reading Unit :=
  if letters.contains 'L' then throw (.malformed "bad inline flags")
  else if letters.contains 'a' && letters.contains 'u' then throw (.malformed "bad inline flags")
  else pure ()

/-- The setting letters from `i` up to one of the stop characters. -/
def flagRun (s : Src) (i : Nat) : List Char × Nat :=
  let run := ((s.extract i s.size).toList).takeWhile isFlagChar
  (run, i + run.length)

/-- Skip blanks and comments in verbose mode. -/
def skipVerbose (s : Src) : Nat → Nat → Nat
  | 0, i => i
  | fuel + 1, i =>
    match s[i]? with
    | some c =>
      if c == ' ' || c == '\t' || c == '\n' || c == '\r' || c.toNat == 11 || c.toNat == 12 then
        skipVerbose s fuel (i + 1)
      else if c == '#' then
        match takeUntil s '\n' i with
        | some (_, j) => skipVerbose s fuel j
        | none => s.size
      else i
    | none => i

/-- The settings written at the very start of a pattern, `(?aimsux)` groups one after the
other with only comments between them, and the position after them. -/
def leadingFlags (s : Src) : Nat → Flags → Nat → Reading (Flags × Nat)
  | 0, fl, i => pure (fl, i)
  | fuel + 1, fl, i =>
    let i := if fl.verbose then skipVerbose s s.size i else i
    if s[i]? == some '(' && s[i + 1]? == some '?' && s[i + 2]? == some '#' then
      match takeUntil s ')' (i + 3) with
      | some (_, j) => leadingFlags s fuel fl j
      | none => pure (fl, i)
    else if s[i]? == some '(' && s[i + 1]? == some '?' then
      let (run, j) := flagRun s (i + 2)
      if !run.isEmpty && s[j]? == some ')' then do
        checkOn run
        leadingFlags s fuel (fl.turn true run) (j + 1)
      else pure (fl, i)
    else pure (fl, i)

/-- A piece that stands for a position, which cannot be repeated. -/
def Node.isAnchor : Node → Bool
  | .lineStart _ | .lineEnd _ | .textStart | .textEnd | .boundary _ _ => true
  | _ => false

/-- A repetition, which cannot be repeated again directly. -/
def Node.isRepeat : Node → Bool
  | .loop _ _ _ _ | .possessive _ _ _ => true
  | _ => false

/-- A piece to repeat: a plain non-capturing group is repeated as its contents. -/
def Node.repeatBody : Node → Node
  | .group none body => body
  | n => n

/-- Inside a look-behind, a reference to a group must be to one closed before the
look-behind began. -/
def ReadState.checkLookbehindRef (st : ReadState) (g : Nat) : Reading Unit :=
  match st.lookbehindGroups with
  | none => pure ()
  | some n =>
    if (st.closed.lookup g).isNone then throw (.malformed "cannot refer to an open group")
    else if n < g then
      throw (.malformed "cannot refer to group defined in the same lookbehind subpattern")
    else pure ()

/-- An escape outside a class, the backslash standing before `i`: the piece and the
position after it. -/
def escapeAt (s : Src) (fl : Flags) (st : ReadState) (i : Nat) : Reading (Node × Nat) := do
  let some c := s[i]? | throw (.malformed "bad escape (end of pattern)")
  match c with
  | 'A' => return (.textStart, i + 1)
  | 'Z' => return (.textEnd, i + 1)
  | 'b' => return (.boundary false fl.ascii, i + 1)
  | 'B' => return (.boundary true fl.ascii, i + 1)
  | _ => pure ()
  if let some (cat, neg) := escapedCategory c then
    return (.category cat neg fl.ascii, i + 1)
  if let some d := escapedControl c false then return (.char d fl.caseRule, i + 1)
  if let some r := numberedEscape s c (i + 1) then
    let (n, j) ← r
    return (charNode n fl, j)
  if c == 'N' then
    let (d, j) ← namedEscape s i
    return (charNode d.toNat fl, j)
  if c == '0' then
    let more := ((s.extract (i + 1) (i + 3)).toList).takeWhile fun d => '0' ≤ d && d ≤ '7'
    return (charNode (octalValue more) fl, i + 1 + more.length)
  if isAsciiDigit c then
    let isOct (d : Char) := '0' ≤ d && d ≤ '7'
    match s[i + 1]? with
    | some d =>
      if isAsciiDigit d then
        match s[i + 2]? with
        | some e =>
          if isOct c && isOct d && isOct e then
            let n := octalValue [c, d, e]
            if n > 0o377 then throw (.malformed "octal escape outside range")
            return (charNode n fl, i + 3)
          else pure ()
        | none => pure ()
      else pure ()
    | none => pure ()
    let digits := if (s[i + 1]?.map isAsciiDigit) == some true then [c, s[i + 1]?.getD '0'] else [c]
    let g := decimalValue digits
    let j := i + digits.length
    if g ≤ st.groups then
      if (st.closed.lookup g).isNone then throw (.malformed "cannot refer to an open group")
      st.checkLookbehindRef g
      return (.backref g fl.caseRule, j)
    throw (.malformed "invalid group reference")
  if isAsciiLetter c then throw (.malformed "bad escape")
  return (.char c fl.caseRule, i + 1)

/-- The pieces of a branch: a sequence's members, none for an empty branch, or the piece
itself. -/
def Node.pieces : Node → List Node
  | .seq items => items
  | n => [n]

/-- A branch made of pieces. -/
def Node.ofPieces : List Node → Node
  | [n] => n
  | ns => .seq ns

/-- The class a piece stands for when it tests one character against a set: whether the
set is negated, and its members. -/
def Node.setItems? : Node → Option (Bool × List ClassItem)
  | .category cat negated _ => some (false, [.category cat negated])
  | .charClass negated items _ _ => some (negated, items)
  | _ => none

/-- Whether two branches start with the same piece, as far as pieces without parts of
their own can be the same: characters, classes, `.`, anchors and back references. -/
def Node.sameStart : Node → Node → Bool
  | .char a _, .char b _ => a == b
  | .notChar a _, .notChar b _ => a == b
  | .any _, .any _ => true
  | .lineStart _, .lineStart _ | .lineEnd _, .lineEnd _ => true
  | .textStart, .textStart | .textEnd, .textEnd => true
  | .boundary a _, .boundary b _ => a == b
  | .backref a _, .backref b _ => a == b
  | a, b => match a.setItems?, b.setItems? with
    | some x, some y => x == y
    | _, _ => false

/-- The members a one-piece branch adds to a class, when it is a character or a class that
is not negated. -/
def Node.joinableItems? : Node → Option (List ClassItem)
  | .char c _ => some [.single c]
  | n => match n.setItems? with
    | some (false, items) => some items
    | _ => none

/-- The pieces all branches start with, moved in front of them while every branch has a
first piece and all first pieces are the same; runs on fuel. -/
def commonStart : Nat → List (List Node) → List Node × List (List Node)
  | 0, bs => ([], bs)
  | fuel + 1, bs =>
    match bs with
    | (p :: _) :: _ =>
      if bs.all fun b => match b with
          | q :: _ => q.sameStart p
          | [] => false then
        let (more, rest) := commonStart fuel (bs.map List.tail)
        (p :: more, rest)
      else ([], bs)
    | _ => ([], bs)

/-- Members with every repeat after the first left out. -/
def distinctItems (items : List ClassItem) : List ClassItem :=
  items.foldl (fun acc x => if acc.contains x then acc else acc ++ [x]) []

/-- Branches `a|b|...` as they are kept: the pieces all branches start with come first, and
when what is left of every branch is one character or a class that is not negated, the
branches are one class holding all their members. Either way the same texts match. -/
def shapeBranches (fl : Flags) (branches : List Node) : Node :=
  let lists := branches.map Node.pieces
  let (common, rest) := commonStart (lists.foldl (fun n b => n + b.length) 1) lists
  let joined := rest.mapM fun b => match b with
    | [n] => n.joinableItems?
    | _ => none
  let choice : Node := match joined with
    | some parts => .charClass false (distinctItems parts.flatten) fl.caseRule fl.ascii
    | none => .alt (rest.map Node.ofPieces)
  match common with
  | [] => choice
  | _ => .seq (common ++ [choice])

mutual

/-- Read branches separated by `|` up to a closing parenthesis or the end. -/
def readAlt (s : Src) : Nat → Flags → ReadState → Nat → List Node →
    Reading (Node × ReadState × Nat)
  | 0, _, _, _, _ => throw (.malformed "pattern too long")
  | fuel + 1, fl, st, i, branches => do
    let (branch, st, j) ← readSeq s fuel fl st i []
    if s[j]? == some '|' then readAlt s fuel fl st (j + 1) (branch :: branches)
    else
      let all := (branch :: branches).reverse
      match all with
      | [one] => return (one, st, j)
      | _ => return (shapeBranches fl all, st, j)

/-- Read pieces up to `|`, a closing parenthesis or the end; `acc` holds the pieces read
so far, last first. -/
def readSeq (s : Src) : Nat → Flags → ReadState → Nat → List Node →
    Reading (Node × ReadState × Nat)
  | 0, _, _, _, _ => throw (.malformed "pattern too long")
  | fuel + 1, fl, st, i, acc => do
    let done : Node := match acc with
      | [one] => one
      | _ => .seq acc.reverse
    let some c := s[i]? | return (done, st, i)
    if c == '|' || c == ')' then return (done, st, i)
    if fl.verbose && (c == ' ' || c == '\t' || c == '\n' || c == '\r' ||
        c.toNat == 11 || c.toNat == 12 || c == '#') then
      readSeq s fuel fl st (skipVerbose s s.size i) acc
    else if c == '*' || c == '+' || c == '?' || c == '{' then
      let written : Option (Reading (Nat × Option Nat) × Nat) :=
        match c with
        | '*' => some (pure (0, none), i + 1)
        | '+' => some (pure (1, none), i + 1)
        | '?' => some (pure (0, some 1), i + 1)
        | _ => if s[i + 1]? == some '}' then none
          else (readCount s (i + 1)).map fun (lo, hi, j) => (countBounds lo hi, j)
      match written with
      | none => readSeq s fuel fl st (i + 1) (.char '{' fl.caseRule :: acc)
      | some (bounds, j) =>
        let (lo, hi) ← bounds
        match hi with
        | some h => if h < lo then throw (.malformed "min repeat greater than max repeat") else pure ()
        | none => pure ()
        match acc with
        | [] => throw (.malformed "nothing to repeat")
        | last :: rest =>
          if last.isAnchor then throw (.malformed "nothing to repeat")
          if last.isRepeat then throw (.malformed "multiple repeat")
          let body := last.repeatBody
          if s[j]? == some '?' then
            readSeq s fuel fl st (j + 1) (.loop body lo hi false :: rest)
          else if s[j]? == some '+' then
            readSeq s fuel fl st (j + 1) (.possessive body lo hi :: rest)
          else readSeq s fuel fl st j (.loop body lo hi true :: rest)
    else if c == '\\' then
      let (n, j) ← escapeAt s fl st (i + 1)
      readSeq s fuel fl st j (n :: acc)
    else if c == '[' then
      let negated := s[i + 1]? == some '^'
      let (items, j) ← readClass s s.size (if negated then i + 2 else i + 1) []
      let piece : Node := match items with
        | [.single d] => if negated then .notChar d fl.caseRule else .char d fl.caseRule
        | _ => .charClass negated items fl.caseRule fl.ascii
      readSeq s fuel fl st j (piece :: acc)
    else if c == '.' then readSeq s fuel fl st (i + 1) (.any fl.dotAll :: acc)
    else if c == '^' then readSeq s fuel fl st (i + 1) (.lineStart fl.multiline :: acc)
    else if c == '$' then readSeq s fuel fl st (i + 1) (.lineEnd fl.multiline :: acc)
    else if c == '(' then
      let (piece, st, j) ← readGroup s fuel fl st (i + 1)
      match piece with
      | some n => readSeq s fuel fl st j (n :: acc)
      | none => readSeq s fuel fl st j acc
    else readSeq s fuel fl st (i + 1) (.char c fl.caseRule :: acc)

/-- Read a group whose `(` stands before `i`; `none` for a comment. -/
def readGroup (s : Src) : Nat → Flags → ReadState → Nat →
    Reading (Option Node × ReadState × Nat)
  | 0, _, _, _ => throw (.malformed "pattern too long")
  | fuel + 1, fl, st, i => do
    let close (j : Nat) : Reading Nat :=
      if s[j]? == some ')' then pure (j + 1) else throw (.malformed "missing ), unterminated subpattern")
    if s[i]? != some '?' then
      let g := st.groups + 1
      let (body, st, j) ← readAlt s fuel fl { st with groups := g } i []
      let k ← close j
      return (some (.group (some g) body), { st with closed := (g, widthOf st body) :: st.closed }, k)
    let some c := s[i + 1]? | throw (.malformed "unexpected end of pattern")
    let i := i + 2
    match c with
    | ':' =>
      let (body, st, j) ← readAlt s fuel fl st i []
      return (some (.group none body), st, ← close j)
    | '>' =>
      let (body, st, j) ← readAlt s fuel fl st i []
      return (some (.atomic body), st, ← close j)
    | '#' =>
      match takeUntil s ')' i with
      | some (_, j) => return (none, st, j)
      | none => throw (.malformed "missing ), unterminated comment")
    | '=' | '!' =>
      let (body, st, j) ← readAlt s fuel fl st i []
      return (some (.look (c == '!') 0 body), st, ← close j)
    | '<' =>
      let some d := s[i]? | throw (.malformed "unexpected end of pattern")
      if d != '=' && d != '!' then throw (.malformed "unknown extension")
      let outer := st.lookbehindGroups
      let st := if outer.isNone then { st with lookbehindGroups := some st.groups } else st
      let (body, st, j) ← readAlt s fuel fl st (i + 1) []
      let st := if outer.isNone then { st with lookbehindGroups := none } else st
      let (lo, hi) := widthOf st body
      let st := if lo != hi then { st with unfixedLookbehind := true } else st
      return (some (.look (d == '!') lo body), st, ← close j)
    | 'P' =>
      match s[i]? with
      | some '<' =>
        let some (name, j) := takeUntil s '>' (i + 1) | throw (.malformed "missing >, unterminated name")
        if !isGroupName name then throw (.malformed "bad character in group name")
        let name := String.ofList name
        if (st.names.lookup name).isSome then throw (.malformed "redefinition of group name")
        let g := st.groups + 1
        let st := { st with groups := g, names := (name, g) :: st.names }
        let (body, st, k) ← readAlt s fuel fl st j []
        let k ← close k
        return (some (.group (some g) body),
          { st with closed := (g, widthOf st body) :: st.closed }, k)
      | some '=' =>
        let some (name, j) := takeUntil s ')' (i + 1) | throw (.malformed "missing ), unterminated name")
        if !isGroupName name then throw (.malformed "bad character in group name")
        let some g := st.names.lookup (String.ofList name) | throw (.malformed "unknown group name")
        if (st.closed.lookup g).isNone then throw (.malformed "cannot refer to an open group")
        st.checkLookbehindRef g
        return (some (.backref g fl.caseRule), st, j)
      | _ => throw (.malformed "unknown extension")
    | '(' =>
      let some (name, j) := takeUntil s ')' i | throw (.malformed "missing ), unterminated name")
      let g ← if isGroupName name then
          match st.names.lookup (String.ofList name) with
          | some g => pure g
          | none => throw (.malformed "unknown group name")
        else match intValue name with
          | some g =>
            if g < 0 then throw (.malformed "bad character in group name")
            else if g == 0 then throw (.malformed "bad group number")
            else if groupLimit ≤ g.toNat then throw (.malformed "invalid group reference")
            else pure g.toNat
          | none => throw (.malformed "bad character in group name")
      st.checkLookbehindRef g
      let st := { st with conditions := g :: st.conditions }
      let (yes, st, k) ← readSeq s fuel fl st j []
      let (no, st, k) ← if s[k]? == some '|' then do
          let (no, st, k) ← readSeq s fuel fl st (k + 1) []
          if s[k]? == some '|' then throw (.malformed "conditional backref with more than two branches")
          pure (no, st, k)
        else pure (Node.empty, st, k)
      return (some (.ifGroup g yes no), st, ← close k)
    | _ =>
      if isFlagChar c || c == '-' then
        let (on, j) := if c == '-' then ([], i - 1) else flagRun s (i - 1)
        checkOn on
        if s[j]? != some ')' && on.contains 't' then
          throw (.malformed "bad inline flags: cannot turn on global flag")
        match s[j]? with
        | some ')' => throw (.malformed "global flags not at the start of the expression")
        | some ':' =>
          let fl' := fl.within on
          let (body, st, k) ← readAlt s fuel fl' st (j + 1) []
          return (some (.group none body), st, ← close k)
        | some '-' =>
          let (off, k) := flagRun s (j + 1)
          if off.isEmpty then throw (.malformed "missing flag")
          if off.contains 'a' || off.contains 'u' || off.contains 'L' then
            throw (.malformed "bad inline flags")
          if s[k]? != some ':' then throw (.malformed "missing :")
          if off.contains 't' then throw (.malformed "bad inline flags: cannot turn off global flag")
          if on.any off.contains then throw (.malformed "bad inline flags")
          let fl' := (fl.within on).turn false off
          let (body, st, m) ← readAlt s fuel fl' st (k + 1) []
          return (some (.group none body), st, ← close m)
        | _ => throw (.malformed "missing -, : or )")
      else throw (.malformed "unknown extension")

end

/-- Whether a piece holds a repetition anywhere. -/
def Node.hasRepeat : Node → Bool
  | .loop .. | .possessive .. => true
  | .group _ body | .atomic body | .look _ _ body => body.hasRepeat
  | .ifGroup _ yes no => yes.hasRepeat || no.hasRepeat
  | .seq items => anyRepeat items
  | .alt options => anyRepeat options
  | _ => false
where
  anyRepeat : List Node → Bool
    | [] => false
    | n :: ns => n.hasRepeat || anyRepeat ns

/-- Whether a member of a class given with letter case ignored has case, so that the class
cannot serve to pick the positions a match is tried from: a character with case, or a
range holding one or reaching beyond the basic plane. -/
def ClassItem.casedForStart (ascii : Bool) : ClassItem → Bool
  | .single d => if ascii then isAsciiLetter d else hasCase d
  | .range lo hi =>
    0xFFFF < hi.toNat ||
      (if ascii then (lo.toNat ≤ 0x5A && 0x41 ≤ hi.toNat) || (lo.toNat ≤ 0x7A && 0x61 ≤ hi.toNat)
       else matchCasedRanges.meets lo.toNat hi.toNat)
  | .category _ _ => false

/-- The test a character must pass for a match to be tried from its position, taken from
a class that the pattern starts with (through the groups it starts with). Its named classes
are judged by the settings of the whole pattern, `ascii` standing for the ASCII setting,
whatever settings are in force where the class stands. -/
def startTest (ascii : Bool) : Node → Option Node
  | .group _ body => startTest ascii body
  | .seq (n :: _) => startTest ascii n
  | .category cat negated _ => some (.category cat negated ascii)
  | .charClass negated items rule _ =>
    if rule != .exact && items.any (·.casedForStart (rule == .ascii)) then none
    else some (.charClass negated items .exact ascii)
  | _ => none

/-- Read a pattern, or say why it is refused. After reading come the checks on the pattern
as a whole, in order: the ASCII-only and the Unicode setting cannot both hold; every
parenthesis must be matched; a condition must name a group that exists; with the template
setting nothing may be repeated; and every look-behind must have a fixed width. -/
def compile (pattern : String) : Reading Regex := do
  let s : Src := pattern.toList.toArray
  let fuel := 4 * s.size + 8
  let (fl, i) ← leadingFlags s fuel {} 0
  let (root, st, j) ← readAlt s fuel fl {} i []
  if fl.ascii && fl.unicode then throw .incompatibleFlags
  if j < s.size then throw (.malformed "unbalanced parenthesis")
  if st.conditions.any (· > st.groups) then throw (.malformed "invalid group reference")
  if fl.template && root.hasRepeat then throw (.malformed "internal: unsupported template operator")
  if st.unfixedLookbehind then throw (.malformed "look-behind requires fixed-width pattern")
  let start := if (widthOf st root).1 == 0 then none else startTest fl.ascii root
  pure { root, groups := st.groups, start }

end SearchPage.Pattern
