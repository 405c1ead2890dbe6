import Std.Data.HashMap
import SearchPage.Text.Digit
import SearchPage.Markup.Scan
import SearchPage.Markup.Reference.Names

/-!
# Character references

A character reference names a character by number (`&#233;`, `&#xE9;`) or by name
(`&eacute;`). Two readings of them are needed, one for text and one for attribute values,
and they differ on numbers that do not denote a usable character.

* In text, a number below 256 is read as a byte of the Windows-1252 code page, so that
  `&#147;` is a quotation mark; zero and a number beyond Unicode give the replacement
  character. A name is looked up with its semicolon dropped, and an unknown name is kept
  as written, without the semicolon.
* In an attribute value, numbers follow the standard's repair table: zero and the
  surrogates give the replacement character, the C1 range is mapped through Windows-1252,
  and the noncharacters and most control characters are dropped. A name runs to the next
  blank, `<`, `&`, `#` or `;` (at most 32 characters); when it is not listed, its longest
  listed prefix stands for the start of it and the rest stays as written.

A decimal number of more than 4300 digits is refused: it is too long to be read.
-/

namespace SearchPage.Markup.Reference

open SearchPage.Text

/-- Split one table entry `name:code+code` into the name and the text it stands for. -/
def parseEntry (entry : String) : Option (String × String) :=
  match entry.splitOn ":" with
  | [name, codes] =>
    some (name, String.ofList ((codes.splitOn "+").map fun h => Char.ofNat (hexNumberValue h.toList)))
  | _ => none

/-- All named references of the standard, keyed by the name as the standard lists it. -/
def namedTable : Std.HashMap String String :=
  namedTableText.foldl (fun m line =>
    (line.splitOn " ").foldl (fun m entry =>
      match parseEntry entry with
      | some (k, v) => m.insert k v
      | none => m) m) {}

/-- The text a name stands for, the name given exactly as the standard lists it. -/
def lookupExact (key : String) : Option String :=
  namedTable.get? key

/-- The text a name stands for when its semicolon is left out: every name of the
standard is listed with a semicolon, so the name is looked up with one added. -/
def lookupName (name : String) : Option String :=
  namedTable.get? (name ++ ";")

/-- The Windows-1252 reading of the bytes 0x80 to 0x9F, or `none` for the five bytes that
code page leaves undefined. -/
def windows1252High (n : Nat) : Option Char :=
  match n with
  | 0x80 => some '€' | 0x82 => some '‚' | 0x83 => some 'ƒ'
  | 0x84 => some '„' | 0x85 => some '…' | 0x86 => some '†'
  | 0x87 => some '‡' | 0x88 => some 'ˆ' | 0x89 => some '‰'
  | 0x8a => some 'Š' | 0x8b => some '‹' | 0x8c => some 'Œ'
  | 0x8e => some 'Ž' | 0x91 => some '‘' | 0x92 => some '’'
  | 0x93 => some '“' | 0x94 => some '”' | 0x95 => some '•'
  | 0x96 => some '–' | 0x97 => some '—' | 0x98 => some '˜'
  | 0x99 => some '™' | 0x9a => some 'š' | 0x9b => some '›'
  | 0x9c => some 'œ' | 0x9e => some 'ž' | 0x9f => some 'Ÿ'
  | _ => none

/-- The replacement character U+FFFD. -/
def replacementChar : Char := '�'

/-- Whether a number is a Unicode scalar value, that is a code point that is not a
surrogate. -/
def isScalar (n : Nat) : Bool :=
  n < 0xD800 || (0xE000 ≤ n && n ≤ 0x10FFFF)

/-- The character a numeric reference in text stands for: a number below 256 is a byte
of the Windows-1252 code page (a byte that code page leaves undefined stands for itself);
zero and the numbers that are no character give the replacement character. -/
def textNumber (n : Nat) : Char :=
  if n == 0 then replacementChar
  else if 0x80 ≤ n && n ≤ 0x9F then (windows1252High n).getD (Char.ofNat n)
  else if isScalar n then Char.ofNat n
  else replacementChar

/-- The text a named reference in text stands for: the table's text, or the name itself
behind an ampersand when the table does not know it. -/
def textName (name : String) : String :=
  (lookupName name).getD ("&" ++ name)

/-- Numbers that a numeric reference in an attribute value drops: most control
characters and the noncharacters. -/
def isDroppedNumber (n : Nat) : Bool :=
  (0x1 ≤ n && n ≤ 0x8) || n == 0xB || (0xE ≤ n && n ≤ 0x1F) || (0x7F ≤ n && n ≤ 0x9F) ||
    (0xFDD0 ≤ n && n ≤ 0xFDEF) || (n % 0x10000 ≥ 0xFFFE && n ≤ 0x10FFFF)

/-- The text a numeric reference in an attribute value stands for. -/
def valueNumber (n : Nat) : String :=
  if n == 0 then replacementChar.toString
  else if n == 0x0D then "\r"
  else if 0x80 ≤ n && n ≤ 0x9F then ((windows1252High n).getD (Char.ofNat n)).toString
  else if !isScalar n then replacementChar.toString
  else if isDroppedNumber n then ""
  else (Char.ofNat n).toString

/-- The most decimal digits a number may be written with; a longer decimal number is
refused. -/
def maxDecimalDigits : Nat := 4300

/-- Characters that end the name of a reference in an attribute value. -/
def endsValueName (c : Char) : Bool :=
  c == '\t' || c == '\n' || c == '\x0c' || c == ' ' || c == '<' || c == '&' || c == '#' ||
    c == ';'

/-- The text a named reference in an attribute value stands for, given as written after
the ampersand (its semicolon included when there is one): the listed name itself, else
the longest listed prefix of at least two characters followed by the rest, else the
reference as written. -/
def valueName (name : List Char) : String :=
  match lookupExact (String.ofList name) with
  | some v => v
  | none =>
    let cuts := (List.range (name.length - 2)).map fun d => name.length - 1 - d
    match cuts.find? fun x => (lookupExact (String.ofList (name.take x))).isSome with
    | some x => (lookupExact (String.ofList (name.take x))).getD "" ++ String.ofList (name.drop x)
    | none => "&" ++ String.ofList name

/-- The end of a number in an attribute reference, past its semicolon if it has one. -/
def afterSemicolon (s : Source) (stop : Nat) : Nat :=
  if s.isAt stop ';' then stop + 1 else stop

/-- A character reference in an attribute value at the ampersand at `i`: the text it
stands for and the position after it, `none` when none starts there, or an error when its
decimal number is too long to read. -/
def valueReference (s : Source) (i : Nat) : Except Unit (Option (String × Nat)) :=
  if s.isAt (i + 1) '#' then
    let dStop := s.skipWhile isAsciiDigit (i + 2)
    if i + 2 < dStop then
      if dStop - (i + 2) > maxDecimalDigits then .error ()
      else .ok (some (valueNumber (decimalValue (s.extract (i + 2) dStop).toList),
        afterSemicolon s dStop))
    else if s.satisfies (i + 2) (fun c => c == 'x' || c == 'X') then
      let hStop := s.skipWhile isHexDigit (i + 3)
      if i + 3 < hStop then
        .ok (some (valueNumber (hexNumberValue (s.extract (i + 3) hStop).toList),
          afterSemicolon s hStop))
      else .ok none
    else .ok none
  else
    let stop := min (s.skipWhile (fun c => !endsValueName c) (i + 1)) (i + 1 + 32)
    if stop == i + 1 then .ok none
    else
      let name := (s.extract (i + 1) (afterSemicolon s stop)).toList
      .ok (some (valueName name, afterSemicolon s stop))

/-- Decode the character references of an attribute value from position `i` on. -/
def unescapeFrom (s : Source) (i : Nat) (acc : String) : Except Unit String :=
  if h : i < s.size then
    if s[i] == '&' then
      match valueReference s i with
      | .error e => .error e
      | .ok (some (v, j)) => if i < j then unescapeFrom s j (acc ++ v) else .ok (acc ++ v)
      | .ok none => unescapeFrom s (i + 1) (acc.push '&')
    else unescapeFrom s (i + 1) (acc.push s[i])
  else .ok acc
termination_by s.size - i

/-- An attribute value with its character references decoded, or an error when one of
them has a decimal number too long to read. -/
def unescape (value : String) : Except Unit String :=
  unescapeFrom value.toList.toArray 0 ""

theorem textNumber_ascii {n : Nat} (h0 : 0 < n) (h : n < 0x80) :
    textNumber n = Char.ofNat n := by
  have h0' : (n == 0) = false := by simp; omega
  have h1 : (0x80 ≤ n && n ≤ 0x9F) = false := by simp; omega
  have h2 : isScalar n = true := by simp [isScalar]; omega
  simp [textNumber, h0', h1, h2]

end SearchPage.Markup.Reference
