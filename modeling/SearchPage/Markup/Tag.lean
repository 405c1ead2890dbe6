import SearchPage.Markup.Scan
import SearchPage.Markup.Reference
import SearchPage.Text.Case

/-!
# The grammar of a start tag

A start tag is `<`, an ASCII letter, and the rest of its name: everything up to a tab, line
feed, carriage return, form feed, space, `/`, `>` or the null character. Then come
attributes. An attribute name may begin right after a quote, white space or a slash, with
any character but white space, `/` and `>`, and runs to the next white space, `/`, `=` or
`>`. A value follows after `=` (several `=` count as one), with white space allowed around
it: quoted with `'` or `"`, or bare up to the next white space or `>`. White space, and
slashes not followed by `>`, may stand between attributes. White space here is Unicode
white space.

When a value opens a quote that is never closed, the value is read otherwise: when white
space stands before the quote, the value is empty and the quote begins the next
attribute's name; when several `=` stand right before it, the last `=` begins a bare value.
Otherwise the attribute has no value.

Where the tag ends is decided first, from the same grammar: after the last attribute and
any white space must come `>` or `/>`. A tag that meets the end of the page, a letter, `=`
or a lone `/` there is unfinished; any other character ends it just before that character,
and the tag is then read as text.

## Main statements

* `lt_attrNameEnd`: an attribute name is never empty.
-/

namespace SearchPage.Markup

open SearchPage.Text

namespace Tag

/-- Unicode white space. -/
def isWhite (c : Char) : Bool := isTrimBlank c

/-- Characters that end a tag name. -/
def endsName (c : Char) : Bool :=
  c == '\t' || c == '\n' || c == '\r' || c == '\x0c' || c == ' ' || c == '/' || c == '>' ||
    c == '\x00'

/-- Characters that may not begin an attribute name. -/
def endsAttrStart (c : Char) : Bool := isWhite c || c == '/' || c == '>'

/-- Characters that end an attribute name after its first character. -/
def endsAttrName (c : Char) : Bool := isWhite c || c == '/' || c == '=' || c == '>'

/-- The end of a tag name whose first letter is at `p`. -/
def nameEnd (s : Source) (p : Nat) : Nat :=
  s.skipWhile (fun c => !endsName c) (p + 1)

/-- Skip white space, and slashes not followed by `>`. -/
def skipGaps (s : Source) (k : Nat) : Nat :=
  if h : k < s.size then
    if isWhite s[k] || (s[k] == '/' && !s.isAt (k + 1) '>') then skipGaps s (k + 1) else k
  else k
termination_by s.size - k

/-- Whether an attribute name begins at `q`: the character before it is a quote, white
space or a slash, and the character at it may begin a name. -/
def mayBeginAttr (s : Source) (q : Nat) : Bool :=
  match q with
  | 0 => false
  | q' + 1 =>
    s.satisfies q' (fun c => c == '\'' || c == '"' || isWhite c || c == '/') &&
      s.satisfies (q' + 1) (fun c => !endsAttrStart c)

/-- The end of an attribute name beginning at `q`. -/
def attrNameEnd (s : Source) (q : Nat) : Nat :=
  s.skipWhile (fun c => !endsAttrName c) (q + 1)

/-- The end of a bare value beginning at `v`. -/
def bareEnd (s : Source) (v : Nat) : Nat :=
  s.skipWhile (fun c => !(c == '>' || isWhite c)) v

/-- How a value beginning at `v` is quoted: the end after its closing quote, `none` for a
quote that is never closed, or `some none` when it is not quoted. -/
def quotedEnd (s : Source) (v : Nat) : Option (Option Nat) :=
  match s.at? v with
  | some '\'' => (s.findChar '\'' (v + 1)).map fun e => some (e + 1)
  | some '"' => (s.findChar '"' (v + 1)).map fun e => some (e + 1)
  | _ => some none

/-- The value of an attribute whose name ends at `q`: where the written value begins and
ends, quotes included, or `none` when the attribute has no value. -/
def valuePart (s : Source) (q : Nat) : Option (Nat × Nat) :=
  let eqStart := s.skipWhile isWhite q
  let eqEnd := s.skipWhile (· == '=') eqStart
  if eqEnd == eqStart then none
  else
    let v := s.skipWhile isWhite eqEnd
    match quotedEnd s v with
    | some (some e) => some (v, e)
    | some none => some (v, bareEnd s v)
    | none =>
      if eqEnd < v then some (v - 1, v - 1)
      else if eqStart + 1 < eqEnd then some (eqEnd - 1, bareEnd s (eqEnd - 1))
      else none

/-- One attribute at `q`: the end of its name, its written value, and the position after
it and the gaps that follow it. -/
def attrAt (s : Source) (q : Nat) : Option (Nat × Option (Nat × Nat) × Nat) :=
  if mayBeginAttr s q then
    let e := attrNameEnd s q
    let value := valuePart s e
    some (e, value, skipGaps s (match value with
      | some (_, ve) => ve
      | none => e))
  else none

/-- The position after all attributes from `q` on. -/
def attrsEnd (s : Source) (q : Nat) : Nat :=
  match attrAt s q with
  | some (_, _, after) => if q < after ∧ after ≤ s.size then attrsEnd s after else after
  | none => q
termination_by s.size - q

/-- Where a start tag at `i` ends: the position after it, or `none` while it is
unfinished. -/
def wholeEnd (s : Source) (i : Nat) : Option Nat :=
  let afterName := s.skipWhile (fun c => isWhite c || c == '/') (nameEnd s (i + 1))
  let j := s.skipWhile isWhite (attrsEnd s afterName)
  match s.at? j with
  | some '>' => some (j + 1)
  | some '/' => if s.isAt (j + 1) '>' then some (j + 2) else none
  | none => none
  | some c => if isAsciiLetter c || c == '=' then none else some j

/-- The attributes of a start tag from `q` up to the tag's end `stop`, as written (names
not yet lowered, values with their quotes), and where they end. -/
def attrsFrom (s : Source) (q stop : Nat) (acc : Array (String × Option String)) :
    Array (String × Option String) × Nat :=
  if q < stop then
    match attrAt s q with
    | some (e, value, after) =>
      let entry := (s.slice q e, value.map fun (a, b) => s.slice a b)
      if q < after ∧ after ≤ s.size then attrsFrom s after stop (acc.push entry)
      else (acc.push entry, after)
    | none => (acc, q)
  else (acc, q)
termination_by s.size - q

/-- The value of an attribute as written: surrounding quotes removed, then references
decoded. -/
def attrValue (written : String) : Except Unit String :=
  let cs := written.toList
  let inner := match cs.head?, cs.getLast? with
    | some '\'', some '\'' => (cs.drop 1).dropLast
    | some '"', some '"' => (cs.drop 1).dropLast
    | _, _ => cs
  if inner.isEmpty then .ok "" else Reference.unescape (String.ofList inner)

theorem lt_attrNameEnd (s : Source) (q : Nat) : q < attrNameEnd s q := by
  have := Source.le_skipWhile s (fun c => !endsAttrName c) (q + 1)
  simp only [attrNameEnd]
  omega

end Tag

end SearchPage.Markup
