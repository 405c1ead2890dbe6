import SearchPage.Markup.Scan
import SearchPage.Selector.Syntax

/-!
# The tokens of a selector

A selector is read as a sequence of tokens, each found by trying the token kinds in a
fixed order at the current position: a closing bracket, the pseudo-classes that take
special arguments (`:nth-child(2n+1 of p)`, `:-soup-contains("x")`, `:lang(en)`,
`:dir(ltr)`), any other pseudo-class, a pseudo-element, `&`, an at-rule, an id, a class,
a type, an attribute test and a combinator.

Identifiers follow CSS: an optional `-` and a name-start character (an ASCII letter, `_`,
or any character from U+00A0 on), or `--`, then name characters, where a backslash escape
may stand for any character. Comments `/* ... */` count as blank space; where blank space
must be followed by something, a comment may reach to a later `*/` when that is the only
way to read on.

-/

namespace SearchPage.Selector

open SearchPage.Markup SearchPage.Text

namespace Lexer

/-- The end of a line break at `p`: CR LF, or one LF, FF or CR. -/
def newlineEnd (s : Source) (p : Nat) : Option Nat :=
  if s.isAt p '\r' && s.isAt (p + 1) '\n' then some (p + 2)
  else if s.isAt p '\n' || s.isAt p '\x0c' || s.isAt p '\r' then some (p + 1)
  else none

/-- The end of one blank at `p`: a space, a tab or a line break. -/
def blankEnd (s : Source) (p : Nat) : Option Nat :=
  if s.isAt p ' ' || s.isAt p '\t' then some (p + 1) else newlineEnd s p

/-- The end of a comment `/* ... */` at `p`. -/
def commentEnd (s : Source) (p : Nat) : Option Nat :=
  if s.startsWithAt p ['/', '*'] then (s.findText ['*', '/'] (p + 2)).map (· + 2) else none

/-- The end of one blank or comment at `p`. -/
def spaceEnd (s : Source) (p : Nat) : Option Nat :=
  (blankEnd s p).orElse fun _ => commentEnd s p

/-- Skip blanks and comments. -/
def skipSpace (s : Source) (p : Nat) : Nat :=
  match spaceEnd s p with
  | some q => if p < q ∧ q ≤ s.size then skipSpace s q else p
  | none => p
termination_by s.size - p

/-- The ends of the comments that begin at `p`, shortest first. A comment runs from `/*`
to any later `*/`: the shortest reading is tried first, and a longer one only when what
follows cannot be read otherwise. -/
def commentEnds (s : Source) (p : Nat) : List Nat :=
  if s.startsWithAt p ['/', '*'] then
    (List.range (s.size - (p + 2))).filterMap fun d =>
      if s.startsWithAt (p + 2 + d) ['*', '/'] then some (p + 4 + d) else none
  else []

/-- The ends of the units of blank space at `p`, in the order they are tried: a blank, or
a comment, shortest first. -/
def spaceUnits (s : Source) (p : Nat) : List Nat :=
  match blankEnd s p with
  | some e => [e]
  | none => commentEnds s p

/-- The positions up to `size` that a run of units from `p` can reach. Units only lead
forward, so one pass from `p` upward marks them all. -/
def reachable (units : Nat → List Nat) (size p : Nat) : Array Bool :=
  (List.range (size + 1)).foldl (fun marks q =>
      if marks.getD q false then
        (units q).foldl (fun m e => if e ≤ size then m.set! e true else m) marks
      else marks)
    ((Array.replicate (size + 1) false).set! p true)

/-- As many units as possible from `p`, then `k`: the result of `k` at the first position,
in the order a backtracking search meets them, where it succeeds. That search takes one
more unit (each way of reading it in turn) before it gives up a position, so the result
at a position is the first result found after any unit there, or else `k` at the
position itself; positions are settled from the last one down. -/
def searchThen {α : Type} (units : Nat → List Nat) (size p : Nat) (k : Nat → Option α) :
    Option α :=
  if size < p then k p
  -- without a unit at `p` the search has only `p` itself to try
  else if (units p).isEmpty then k p
  else
    let marks := reachable units size p
    let results := (List.range (size + 1 - p)).foldl (fun (acc : Array (Option α)) d =>
        let q := size - d
        if marks.getD q false then
          acc.set! q (((units q).findSome? fun e => acc.getD e none).orElse fun _ => k q)
        else acc)
      (Array.replicate (size + 1) none)
    results.getD p none

/-- Blanks and comments from `p`, then `k`. -/
def spaceThen {α : Type} (s : Source) (p : Nat) (k : Nat → Option α) : Option α :=
  searchThen (spaceUnits s) s.size p k

/-- Comments only from `p`, then `k`. -/
def commentsThen {α : Type} (s : Source) (p : Nat) (k : Nat → Option α) : Option α :=
  searchThen (commentEnds s) s.size p k

/-- Whether `p` is the end of the selector, or the position of a line feed that ends it. -/
def atFinalEnd (s : Source) (p : Nat) : Bool :=
  p == s.size || (p + 1 == s.size && s.isAt p '\n')

/-- How many hexadecimal digits, at most six, stand from `p` on. -/
def hexRun (s : Source) (p : Nat) : Nat :=
  ((List.range 6).takeWhile fun k => s.satisfies (p + k) isHexDigit).length

/-- The end of an escape at `p`: a backslash and one to six hexadecimal digits with an
optional blank after them, or a backslash and any character but a line break, or a
backslash that ends the selector. -/
def escapeEnd (s : Source) (p : Nat) : Option Nat :=
  if s.isAt p '\\' then
    let h := hexRun s (p + 1)
    if 0 < h then some ((blankEnd s (p + 1 + h)).getD (p + 1 + h))
    else if s.satisfies (p + 1) (fun c => c != '\r' && c != '\n' && c != '\x0c') then some (p + 2)
    else if atFinalEnd s (p + 1) then some (p + 1)
    else none
  else none

/-- Characters that may start a name. -/
def isNameStart (c : Char) : Bool :=
  isAsciiLetter c || c == '_' || 0xA0 ≤ c.toNat

/-- Characters that may continue a name. -/
def isNameChar (c : Char) : Bool :=
  isNameStart c || c == '-' || isAsciiDigit c

/-- One name unit at `p`: a character passing `ok`, or an escape. -/
def unitEnd (s : Source) (ok : Char → Bool) (p : Nat) : Option Nat :=
  if s.satisfies p ok then some (p + 1) else escapeEnd s p

/-- Take name units as long as there are any. -/
def unitsFrom (s : Source) (ok : Char → Bool) (p : Nat) : Nat :=
  match unitEnd s ok p with
  | some q => if p < q ∧ q ≤ s.size then unitsFrom s ok q else p
  | none => p
termination_by s.size - p

/-- The end of an identifier at `p`. -/
def identEnd (s : Source) (p : Nat) : Option Nat :=
  let q := if s.isAt p '-' then p + 1 else p
  let afterStart : Option Nat :=
    match unitEnd s isNameStart q with
    | some r => some (unitsFrom s isNameStart r)
    | none => if s.startsWithAt p ['-', '-'] then some (p + 2) else none
  afterStart.map (unitsFrom s isNameChar)

/-- The end of a quoted string at `p`: backslash escapes any character, and a line break
may not stand in it unescaped. -/
def quotedEnd (s : Source) (p : Nat) : Option Nat :=
  match s.at? p with
  | some q =>
    if q == '"' || q == '\'' then go q (p + 1) else none
  | none => none
where
  go (q : Char) (i : Nat) : Option Nat :=
    if h : i < s.size then
      let c := s[i]
      if c == q then some (i + 1)
      else if c == '\\' then
        if s.startsWithAt (i + 1) ['\r', '\n'] then go q (i + 3)
        else if i + 1 < s.size then go q (i + 2)
        else none
      else if c == '\r' || c == '\n' || c == '\x0c' then none
      else go q (i + 1)
    else none
  termination_by s.size - i

/-- The end of a value at `p`: a quoted string, or one or more identifiers. -/
def valueEnd (s : Source) (p : Nat) : Option Nat :=
  match quotedEnd s p with
  | some e => some e
  | none => (identEnd s p).map fun e => more e
where
  more (e : Nat) : Nat :=
    match identEnd s e with
    | some e' => if e < e' ∧ e' ≤ s.size then more e' else e
    | none => e
  termination_by s.size - e

/-- The value of a hexadecimal escape. -/
def escapedChar (n : Nat) : Except SelectorError Char :=
  if n == 0 then pure '�'
  else if n ≤ 0x10FFFF then
    pure (if 0xD800 ≤ n && n ≤ 0xDFFF then '�' else Char.ofNat n)
  else throw (.badCodePoint n)

/-- Where a hexadecimal escape whose digits end at `after` ends: one optional blank is
part of it, or in a name also one comment. -/
def hexEscapeStop (s : Source) (inString : Bool) (after : Nat) : Nat :=
  if inString then (blankEnd s after).getD after else (spaceEnd s after).getD after

/-- Replace the escapes of a name or value. In a string (`inString`) an escaped line
break is dropped, and the blank after a hexadecimal escape is a plain blank, not a
comment. -/
def unescape (cs : List Char) (inString : Bool) : Except SelectorError String :=
  let s : Source := cs.toArray
  go s 0 ""
where
  go (s : Source) (i : Nat) (acc : String) : Except SelectorError String :=
    if h : i < s.size then
      if s[i] == '\\' then
        if 0 < hexRun s (i + 1) then
          let n := hexNumberValue (s.extract (i + 1) (i + 1 + hexRun s (i + 1))).toList
          match escapedChar n with
          | .ok c =>
            if i < hexEscapeStop s inString (i + 1 + hexRun s (i + 1)) then
              go s (hexEscapeStop s inString (i + 1 + hexRun s (i + 1))) (acc.push c)
            else pure (acc.push c)
          | .error e => throw e
        else if s.satisfies (i + 1) (fun c => c != '\r' && c != '\n' && c != '\x0c') then
          go s (i + 2) (acc.push (s.at? (i + 1) |>.getD ' '))
        else if atFinalEnd s (i + 1) then go s (i + 1) (acc.push '�')
        else if inString then
          match newlineEnd s (i + 1) with
          | some e => if i < e then go s e acc else pure acc
          | none => go s (i + 1) (acc.push '\\')
        else go s (i + 1) (acc.push '\\')
      else go s (i + 1) (acc.push s[i])
    else pure acc
  termination_by s.size - i

end Lexer

end SearchPage.Selector
