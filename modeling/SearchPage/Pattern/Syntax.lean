import SearchPage.Text.Blank
import SearchPage.Text.Digit
import SearchPage.Text.Case

/-!
# Patterns

The syntax of text patterns (regular expressions with backtracking): characters, classes
of characters, anchors, groups, look-around, back references and repetition.

Settings that change what one piece matches (ignoring case, `.` matching line feeds,
anchors at every line, ASCII-only classes) are resolved while reading, so each piece
carries the settings in force where it stands.

The character classes are the Unicode ones: a digit is any decimal digit, a word
character any letter or number or the underscore, a blank any Unicode blank; with the
ASCII setting each is limited to ASCII.
-/

namespace SearchPage.Pattern

open SearchPage.Text

/-- The named classes of characters. -/
inductive Category where
  | digit
  | word
  | space
  deriving DecidableEq, Repr

/-- One member of a bracketed class. -/
inductive ClassItem where
  | single (c : Char)
  | range (lo hi : Char)
  | category (cat : Category) (negated : Bool)
  deriving DecidableEq, Repr

/-- How letter case counts when a character of the text is compared with the pattern. -/
inductive CaseRule where
  /-- The characters must be equal. -/
  | exact
  /-- ASCII capitals equal their small letters. -/
  | ascii
  /-- Characters equal when their small letters are equal or case mates. -/
  | unicode
  deriving DecidableEq, Repr

/-- One piece of a pattern. -/
inductive Node where
  | empty
  | char (c : Char) (rule : CaseRule)
  /-- Any one character but `c`. -/
  | notChar (c : Char) (rule : CaseRule)
  | any (dotAll : Bool)
  | category (cat : Category) (negated ascii : Bool)
  | charClass (negated : Bool) (items : List ClassItem) (rule : CaseRule) (ascii : Bool)
  | lineStart (multiline : Bool)
  | lineEnd (multiline : Bool)
  | textStart
  | textEnd
  | boundary (negated ascii : Bool)
  | group (index : Option Nat) (body : Node)
  | atomic (body : Node)
  /-- Look-around: the body must match (or, `negated`, must not) from `back` characters
  before the position; `back` is 0 for look-ahead and the fixed width of a look-behind. -/
  | look (negated : Bool) (back : Nat) (body : Node)
  | backref (index : Nat) (rule : CaseRule)
  | ifGroup (index : Nat) (yes no : Node)
  | loop (body : Node) (min : Nat) (max : Option Nat) (greedy : Bool)
  | possessive (body : Node) (min : Nat) (max : Option Nat)
  | seq (items : List Node)
  | alt (options : List Node)
  deriving Repr, Inhabited

/-- Why a pattern cannot be read. -/
inductive PatternError where
  /-- The pattern is not well formed. -/
  | malformed (why : String)
  /-- A repetition count too large to be kept. -/
  | countTooLarge
  /-- A number with more digits than a number is read from. -/
  | overlongNumber
  /-- The ASCII-only and the Unicode setting both turned on for the whole pattern. -/
  | incompatibleFlags
  deriving DecidableEq, Repr

/-- A compiled pattern: its syntax, the number of its groups, and the test a character
must pass for a match to be tried from its position, when there is one. -/
structure Regex where
  root : Node
  groups : Nat
  start : Option Node := none
  deriving Repr, Inhabited

/-- Whether a character is a word character: a letter, a digit, a number or the low line;
with the ASCII setting only those of ASCII. -/
def isWordChar (ascii : Bool) (c : Char) : Bool :=
  isAsciiAlnum c || c == '_' || (!ascii && alnumRanges.holds c)

/-- Whether a character is a blank. -/
def isSpaceChar (ascii : Bool) (c : Char) : Bool :=
  if ascii then c == ' ' || ('\t' ≤ c && c ≤ '\r') else isTrimBlank c

/-- Whether a character is a digit. -/
def isDigitChar (ascii : Bool) (c : Char) : Bool :=
  if ascii then isAsciiDigit c else decimalRanges.holds c

/-- Whether a character belongs to a named class. -/
def Category.holds (ascii : Bool) : Category → Char → Bool
  | .digit => isDigitChar ascii
  | .word => isWordChar ascii
  | .space => isSpaceChar ascii

/-- Whether a character is a member of a bracketed class item. -/
def ClassItem.holds (ascii : Bool) (c : Char) : ClassItem → Bool
  | .single d => c == d
  | .range lo hi => lo ≤ c && c ≤ hi
  | .category cat negated => cat.holds ascii c != negated

end SearchPage.Pattern
