import SearchPage.Markup.Event
import SearchPage.Markup.Tag

/-!
# Reading markup into events

The reader walks a page from the start and reports events. It reads in two passes that
share their position and mode: the first stops at the first construct that might continue
past the end of the page (an unfinished tag, comment or declaration, a reference that runs
into the end), the second resumes there knowing that the page has ended. Whatever the
second pass finds unfinished is text up to the next `>` (or the next `<`).

* A start tag is `<` and an ASCII letter, read by the grammar of `Tag`; `script` and
  `style` switch to raw text, which only ends at `</`, optional white space, the element's
  name (letters compared without regard to case), optional white space and `>`. Raw text
  that never ends is dropped.
* An end tag is `</`, optional white space, a name of ASCII letters, digits and `-._:`,
  optional white space and `>`; otherwise the name is read like a start tag's up to the
  next `>`. `</>` is nothing, and `</` followed by anything but a letter is a comment.
* A comment runs from `<!--` to `--`, optional white space and `>`; `<?` to `>` is a
  processing instruction; `<!doctype` to `>` a declaration; `<![` opens a marked section
  that needs a keyword; any other `<!` is a comment up to `>`.
* A character reference in text is `&#` and decimal digits or `x` and hexadecimal digits,
  or `&` and a name, ended by any character that cannot continue it (taken only if it is
  a semicolon).

## Main statements

* `read_empty`: an empty page gives no events.
-/

namespace SearchPage.Markup

open SearchPage.Text

/-- The state carried from one step of the reader to the next. -/
structure ReadState where
  mode : Mode := .content
  events : Array Event := #[]

/-- What one step of the reader did: go on at a later position, stop at one, or find the
page unreadable. -/
inductive Step where
  | go (next : Nat) (st : ReadState)
  | halt (next : Nat) (st : ReadState)
  | fail (fault : ReadFault)

/-- Add an event. -/
def ReadState.emit (st : ReadState) (e : Event) : ReadState :=
  { st with events := st.events.push e }

namespace Reader

/-- Whether the end tag of the raw-text element `elem` begins at `j`. -/
def rawEndAt (s : Source) (elem : String) (j : Nat) : Bool :=
  s.startsWithAt j ['<', '/'] &&
    (let p := s.skipWhile Tag.isWhite (j + 2)
     let q := elem.toList.length + p
     (elem.toList.zipIdx.all fun (c, k) => s.satisfies (p + k) (sameIgnoringCase c)) &&
       s.isAt (s.skipWhile Tag.isWhite q) '>')

/-- The next position at or after `i` where something other than plain text may begin. -/
def nextSpecial (s : Source) (mode : Mode) (i : Nat) : Option Nat :=
  match mode with
  | .content => s.findFrom (fun j => s.isAt j '&' || s.isAt j '<') i
  | .raw elem => s.findFrom (fun j => rawEndAt s elem j) i

/-- A start tag at `i`; `none` while it is unfinished. -/
def startTag (s : Source) (i : Nat) (st : ReadState) : Option (Except ReadFault (Nat × ReadState)) :=
  match Tag.wholeEnd s i with
  | none => none
  | some stop =>
    let nameStop := Tag.nameEnd s (i + 1)
    let name := lowerText (s.slice (i + 1) nameStop)
    let (written, k) := Tag.attrsFrom s (Tag.skipGaps s nameStop) stop #[]
    let decoded := written.toList.mapM fun (n, v) =>
      match v with
      | some w => (Tag.attrValue w).map fun d => (lowerText n, some d)
      | none => .ok (lowerText n, none)
    match decoded with
    | .error _ => some (.error .overlongNumber)
    | .ok attrs =>
      let tail := trim (s.slice k stop)
      if tail == "/>" then some (.ok (stop, st.emit (.startTag name attrs i true)))
      else if tail == ">" then
        some (.ok (stop, { st.emit (.startTag name attrs i false) with mode := Mode.after name }))
      else some (.ok (stop, st.emit (.text (s.slice i stop))))

/-- A bogus comment: from `<!` or `</` to the next `>`. -/
def bogusComment (s : Source) (i : Nat) (st : ReadState) : Option (Nat × ReadState) :=
  (s.findChar '>' (i + 2)).map fun p => (p + 1, st.emit (.aside .comment))

/-- Whether a character may continue the name of a well-formed end tag. -/
def continuesEndName (c : Char) : Bool :=
  isAsciiAlnum c || c == '-' || c == '.' || c == ':' || c == '_'

/-- The name of a well-formed end tag at `i` and the position after its `>`. -/
def plainEndTag (s : Source) (i : Nat) : Option (String × Nat) :=
  let p := s.skipWhile Tag.isWhite (i + 2)
  if s.satisfies p isAsciiLetter then
    let q := s.skipWhile continuesEndName (p + 1)
    let r := s.skipWhile Tag.isWhite q
    if s.isAt r '>' then some (asciiLowerText (s.slice p q), r + 1) else none
  else none

/-- An end tag at `i` (a `</`); `none` while no `>` follows. -/
def endTag (s : Source) (i : Nat) (st : ReadState) : Option (Nat × ReadState) :=
  match s.findChar '>' (i + 1) with
  | none => none
  | some gt =>
    match plainEndTag s i, st.mode with
    | some (name, stop), .raw elem =>
      if name == elem then some (stop, { st.emit (.endTag name) with mode := .content })
      else some (stop, st.emit (.text (s.slice i stop)))
    | some (name, stop), .content => some (stop, st.emit (.endTag name))
    | none, .raw _ => some (gt + 1, st.emit (.text (s.slice i (gt + 1))))
    | none, .content =>
      if s.satisfies (i + 2) isAsciiLetter then
        let name := lowerText (s.slice (i + 2) (Tag.nameEnd s (i + 2)))
        some (gt + 1, st.emit (.endTag name))
      else if s.isAt (i + 2) '>' then some (i + 3, st)
      else bogusComment s i st

/-- The first match at or after `i` of `--`, optional white space and `>`: where it
begins and ends. -/
def commentClose (s : Source) (i : Nat) : Option Nat :=
  (s.findFrom (fun p => s.startsWithAt p ['-', '-'] &&
      s.isAt (s.skipWhile Tag.isWhite (p + 2)) '>') i).map fun p =>
    s.skipWhile Tag.isWhite (p + 2) + 1

/-- The first match at or after `i` of `]`, optional white space, and `>`, with a second
`]` and white space before the `>` when `double`: where it begins and where it ends. -/
def sectionClose (s : Source) (double : Bool) (i : Nat) : Option (Nat × Nat) :=
  let closeAt := fun p =>
    let q := s.skipWhile Tag.isWhite (p + 1)
    if double then
      if s.isAt q ']' then
        let r := s.skipWhile Tag.isWhite (q + 1)
        if s.isAt r '>' then some (r + 1) else none
      else none
    else if s.isAt q '>' then some (q + 1) else none
  (s.findFrom (fun p => s.isAt p ']' && (closeAt p).isSome) i).bind fun p =>
    (closeAt p).map fun e => (p, e)

/-- Characters that may continue the keyword of a marked section. -/
def continuesKeyword (c : Char) : Bool :=
  isAsciiAlnum c || c == '-' || c == '_' || c == '.'

/-- A marked section at `i` (a `<![`): its keyword decides how it ends. -/
def markedSection (s : Source) (i : Nat) (st : ReadState) :
    Option (Except ReadFault (Nat × ReadState)) :=
  if i + 3 == s.size then none
  else if !s.satisfies (i + 3) isAsciiLetter then some (.error .rejected)
  else
    let nameStop := s.skipWhile continuesKeyword (i + 4)
    if s.skipWhile Tag.isWhite nameStop == s.size then none
    else
      let keyword := asciiLowerText (s.slice (i + 3) nameStop)
      let close :=
        if ["temp", "cdata", "ignore", "include", "rcdata"].contains keyword then
          some (sectionClose s true (i + 3))
        else if ["if", "else", "endif"].contains keyword then some (sectionClose s false (i + 3))
        else none
      match close with
      | none => some (.error .rejected)
      | some none => none
      | some (some (_, e)) =>
        let characterData := asciiLowerText (s.slice (i + 3) (i + 8)) == "cdata" &&
          s.isAt (i + 8) '['
        some (.ok (e, st.emit (.aside (if characterData then .characterData else .declaration))))

/-- A declaration at `i` (a `<!` that does not start a comment). -/
def declaration (s : Source) (i : Nat) (st : ReadState) :
    Option (Except ReadFault (Nat × ReadState)) :=
  if s.isAt (i + 2) '[' then markedSection s i st
  else if s.startsWithFoldAt i "<!doctype".toList then
    (s.findChar '>' (i + 9)).map fun p => .ok (p + 1, st.emit (.aside .declaration))
  else (bogusComment s i st).map .ok

/-- A `<` at `i`. -/
def angle (s : Source) (final : Bool) (i : Nat) (st : ReadState) : Step :=
  let attempt : Option (Option (Except ReadFault (Nat × ReadState))) :=
    if s.satisfies (i + 1) isAsciiLetter then some (startTag s i st)
    else if s.isAt (i + 1) '/' then some ((endTag s i st).map .ok)
    else if s.startsWithAt i "<!--".toList then
      some ((commentClose s (i + 4)).map fun k => .ok (k, st.emit (.aside .comment)))
    else if s.isAt (i + 1) '?' then
      some ((s.findChar '>' (i + 2)).map fun k => .ok (k + 1, st.emit (.aside .instruction)))
    else if s.isAt (i + 1) '!' then some (declaration s i st)
    else none
  match attempt with
  | some (some (.ok (k, st'))) => .go k st'
  | some (some (.error e)) => .fail e
  | some none =>
    if final then
      let k := match s.findChar '>' (i + 1) with
        | some p => p + 1
        | none => (s.findChar '<' (i + 1)).getD (i + 1)
      .go k (st.emit (.text (s.slice i k)))
    else .halt i st
  | none => if i + 1 < s.size then .go (i + 1) (st.emit (.text "<")) else .halt i st

/-- A `&#` at `i`: a number in decimal or, after `x`, in hexadecimal, ended by a character
that is not a hexadecimal digit (taken only if it is a semicolon). Without one, the `&#`
is text when a semicolon follows somewhere, and the pass stops. -/
def numericReference (s : Source) (i : Nat) (st : ReadState) : Step :=
  let dStop := s.skipWhile isAsciiDigit (i + 2)
  let hStop := s.skipWhile isHexDigit (i + 3)
  let found : Option (Option Nat × Nat) :=
    if i + 2 < dStop && s.satisfies dStop (fun c => !isHexDigit c) then
      some (if dStop - (i + 2) > Reference.maxDecimalDigits then none
        else some (decimalValue (s.extract (i + 2) dStop).toList), dStop)
    else if s.satisfies (i + 2) (fun c => c == 'x' || c == 'X') && i + 3 < hStop &&
        s.satisfies hStop (fun c => !isHexDigit c) then
      some (some (hexNumberValue (s.extract (i + 3) hStop).toList), hStop)
    else none
  match found with
  | some (none, _) => .fail .overlongNumber
  | some (some n, stop) =>
    let next := if s.isAt stop ';' then stop + 1 else stop
    .go next (st.emit (.text (Reference.textNumber n).toString))
  | none =>
    if (s.findChar ';' i).isSome then .halt (i + 2) (st.emit (.text "&#")) else .halt i st

/-- Characters that may continue a name in a reference in text. -/
def continuesRefName (c : Char) : Bool := isAsciiAlnum c || c == '-' || c == '.'

/-- Where the name of a reference in text at `i` (an `&` and a letter) ends. The name
must be followed by a character that is not a letter or digit; at the end of the page it
is cut back to before its last `-` or `.`. -/
def referenceName (s : Source) (i : Nat) : Option Nat :=
  let stop := s.skipWhile continuesRefName (i + 2)
  if stop < s.size then some stop
  else
    ((List.range (stop - (i + 2))).reverse.find? fun d =>
      s.satisfies (i + 2 + d) fun c => c == '-' || c == '.').map fun d => i + 2 + d

/-- An `&` at `i` that is not followed by `#`. A name that runs into the end of the page
stops the pass; on the second pass a lone letter after the `&` is all that is left of
it. -/
def namedReference (s : Source) (final : Bool) (i : Nat) (st : ReadState) : Step :=
  if s.satisfies (i + 1) isAsciiLetter then
    match referenceName s i with
    | some stop =>
      let next := if s.isAt stop ';' then stop + 1 else stop
      .go next (st.emit (.text (Reference.textName (s.slice (i + 1) stop))))
    | none => if final && i + 2 == s.size then .halt (i + 1) st else .halt i st
  else if i + 1 < s.size then .go (i + 1) (st.emit (.text "&"))
  else .halt i st

/-- One step of the reader at a position inside the page. -/
def step (s : Source) (final : Bool) (i : Nat) (st : ReadState) : Step :=
  match nextSpecial s st.mode i with
  | none =>
    match st.mode with
    | .content => .go s.size (if i < s.size then st.emit (.text (s.slice i s.size)) else st)
    | .raw _ => .halt i st
  | some j =>
    let st := if i < j then st.emit (.text (s.slice i j)) else st
    if s.isAt j '<' then angle s final j st
    else if s.isAt (j + 1) '#' then numericReference s j st
    else namedReference s final j st

/-- Run the reader from `i` until it stops or reaches the end of the page. -/
def run (s : Source) (final : Bool) (i : Nat) (st : ReadState) : Except ReadFault (Nat × ReadState) :=
  if i < s.size then
    match step s final i st with
    | .go k st' => if i < k then run s final k st' else .ok (k, st')
    | .halt k st' => .ok (k, st')
    | .fail e => .error e
  else .ok (i, st)
termination_by s.size - i

end Reader

/-- The events of a page, or why it cannot be read. After the second pass, what is left
is text, unless it is raw text that never ended. -/
def read (s : Source) : Except ReadFault (Array Event) := do
  let (i, st) ← Reader.run s false 0 {}
  let (i, st) ← Reader.run s true i st
  if i < s.size && st.mode == .content then return st.events.push (.text (s.slice i s.size))
  else return st.events

theorem read_empty : read #[] = .ok #[] := by
  simp [read, Reader.run]
  rfl

end SearchPage.Markup
