import Std.Data.HashMap
import SearchPage.Text.NameData

/-!
# Characters by name

A character is found from its Unicode 14.0 name, or from one of the further names Unicode
gives it. Letter case does not count for the names kept in the tables: a name is looked up
with its ASCII letters in capitals. Two kinds of names are formed by rule and written
exactly, in capitals:

* `HANGUL SYLLABLE ` and the romanized letters of the syllable: its leading consonant,
  vowel and trailing consonant, each the longest of its kind that stands next (the
  leading and trailing consonants may be empty);
* `CJK UNIFIED IDEOGRAPH-` and four or five capital hexadecimal digits of a unified
  ideograph.

A name that begins with one of these two prefixes is read by its rule only.

## Main statements

* `wordCode_single`: the first 55 words are written with one digit.
-/

namespace SearchPage.Text

namespace CharName

/-- The digits that write word numbers, in order. -/
def digits : Array Char :=
  "0123456789ABCDEFGHIJKLMNOPQRSTUVWXYZabcdefghijklmnopqrstuvwxyz!#$%&()*+.:=?@[]^_".toList.toArray

/-- Digit `k`. -/
def digit (k : Nat) : Char := digits.getD k '_'

/-- How word number `i` is written: one digit below 55; then two digits, the first from 55
to 74; then three, the first from 75 on. -/
def wordCode (i : Nat) : String :=
  if i < 55 then String.singleton (digit i)
  else if i < 55 + 1600 then
    let j := i - 55
    String.ofList [digit (55 + j / 80), digit (j % 80)]
  else
    let j := i - 1655
    String.ofList [digit (75 + j / 6400), digit (j / 80 % 80), digit (j % 80)]

/-- The words of names by number. -/
def wordNumbers : Std.HashMap String Nat :=
  ((nameWords.splitOn " ").filter (!·.isEmpty)).zipIdx.foldl
    (fun m (w, i) => m.insert w i) {}

/-- The packed names, in the order of their code points. -/
def packedNames : Array String := (nameCodes.splitOn "|").toArray

/-- Whether a character may stand in a word of a name. -/
def isWordChar (c : Char) : Bool := ('A' ≤ c && c ≤ 'Z') || ('0' ≤ c && c ≤ '9')

/-- Whether a character joins words. -/
def isJoinChar (c : Char) : Bool := c == ' ' || c == '-'

/-- How a join is written: a blank not at all. -/
def joinCode : List Char → Option String
  | [' '] => some ""
  | ['-'] => some "-"
  | [' ', '-'] => some "<"
  | ['-', ' '] => some ">"
  | _ => none

/-- A name written as word numbers and joins, the words and joins still to read being
`cs`; `none` when it holds a word no name has, a join no name has, or another character.
The name must begin and end with a word. -/
def pack (cs : List Char) : Nat → Option String
  | 0 => none
  | fuel + 1 =>
    let word := cs.takeWhile isWordChar
    if word.isEmpty then none
    else do
      let code := wordCode (← wordNumbers.get? (String.ofList word))
      let rest := cs.drop word.length
      if rest.isEmpty then return code
      let join := rest.takeWhile isJoinChar
      let sep ← joinCode join
      let tail ← pack (rest.drop join.length) fuel
      return code ++ sep ++ tail

/-- The code point at place `k` of a table, counting its members in order. -/
def nthMember (t : RangeTable) (k : Nat) : Option Nat :=
  (t.ranges.foldl (fun (acc : Nat ⊕ Nat) (lo, hi) =>
    match acc with
    | .inl left => if left ≤ hi - lo then .inr (lo + left) else .inl (left - (hi - lo + 1))
    | found => found) (.inl k)).getRight?

/-- The code point of a name kept packed. -/
def packedLookup (name : String) : Option Nat := do
  let code ← pack name.toList (name.length + 1)
  nthMember namedRanges (← packedNames.findIdx? (· == code))

/-- The code point of a further name. -/
def aliasLookup (name : String) : Option Nat :=
  (nameAliases.splitOn "|").findSome? fun entry =>
    match entry.splitOn ":" with
    | [hex, n] => if n == name then some (hexNumberValue hex.toList) else none
    | _ => none

/-- Capital hexadecimal digits of `n`, none of them a leading zero. -/
def capitalHex (n : Nat) : String := String.ofList ((Nat.toDigits 16 n).map Char.toUpper)

/-- The code point of a name that is a prefix, a hyphen and the code point. -/
def numberedLookup (name : String) : Option Nat :=
  numberedNames.findSome? fun (pre, table) =>
    let head := pre ++ "-"
    if name.startsWith head then
      let hex := (name.drop head.length).copy
      let n := hexNumberValue hex.toList
      if !hex.isEmpty && capitalHex n == hex && table.contains n then some n else none
    else none

/-- Whether a character is a capital hexadecimal digit. -/
def isCapitalHex (c : Char) : Bool := ('0' ≤ c && c ≤ '9') || ('A' ≤ c && c ≤ 'F')

/-- The unified ideograph named by the digits after its prefix. -/
def ideographLookup (hex : List Char) : Option Nat :=
  let n := hexNumberValue hex
  if (hex.length == 4 || hex.length == 5) && hex.all isCapitalHex && unifiedIdeographs.contains n
  then some n else none

/-- The first code point of the syllables. -/
def syllableBase : Nat := 0xAC00

/-- The romanized leading consonants, vowels and trailing consonants, in order. -/
def leadingLetters : List String :=
  ["G", "GG", "N", "D", "DD", "R", "M", "B", "BB", "S", "SS", "", "J", "JJ", "C", "K", "T", "P", "H"]

def vowelLetters : List String :=
  ["A", "AE", "YA", "YAE", "EO", "E", "YEO", "YE", "O", "WA", "WAE", "OE", "YO", "U", "WEO", "WE",
    "WI", "YU", "EU", "YI", "I"]

def trailingLetters : List String :=
  ["", "G", "GG", "GS", "N", "NJ", "NH", "D", "L", "LG", "LM", "LB", "LS", "LT", "LP", "LH", "M",
    "B", "BS", "S", "SS", "NG", "J", "C", "K", "T", "P", "H"]

/-- The longest of `letters` that begins `cs` (the first of them among equally long
ones): its number and length. -/
def longestLetters (letters : List String) (cs : List Char) : Option (Nat × Nat) :=
  letters.zipIdx.foldl (fun best (l, i) =>
    let n := l.length
    let longer := match best with
      | some (_, m) => m < n
      | none => true
    if longer && cs.take n == l.toList then some (i, n) else best) none

/-- The syllable named by the letters after its prefix. -/
def syllableLookup (cs : List Char) : Option Nat := do
  let (l, a) ← longestLetters leadingLetters cs
  let cs := cs.drop a
  let (v, b) ← longestLetters vowelLetters cs
  let cs := cs.drop b
  let (t, c) ← longestLetters trailingLetters cs
  if (cs.drop c).isEmpty then some (syllableBase + (l * 21 + v) * 28 + t) else none

end CharName

open CharName in
/-- The character a name names, if any. -/
def charOfName (name : String) : Option Char :=
  let code :=
    if name.startsWith "HANGUL SYLLABLE " then syllableLookup (name.toList.drop 16)
    else if name.startsWith "CJK UNIFIED IDEOGRAPH-" then ideographLookup (name.toList.drop 22)
    else
      let upper := name.map Char.toUpper
      (packedLookup upper).orElse fun _ =>
        (aliasLookup upper).orElse fun _ => numberedLookup upper
  code.map Char.ofNat

theorem CharName.wordCode_single (i : Nat) (h : i < 55) :
    CharName.wordCode i = String.singleton (CharName.digit i) := by
  simp [CharName.wordCode, h]

end SearchPage.Text
