import SearchPage.Text.Unicode

/-!
# Quoted text

Text written back in quotes, the way messages show it: in single quotes, or in double
quotes when the text holds a single quote and no double quote. The backslash, the
quote in use, tab, line feed and carriage return are escaped with a backslash; other
characters that do not show are written by number (`\x` with two hexadecimal digits,
`\u` with four, or `\U` with eight).

## Main statements

* `escapeIn_of_shows`: a character that shows is written as itself.
-/

namespace SearchPage.Text

/-- The hexadecimal digits of `n`, at least `width` of them, in lower case. -/
def hexDigits (n width : Nat) : String :=
  let ds := Nat.toDigits 16 n
  String.ofList (List.replicate (width - ds.length) '0' ++ ds)

/-- Whether a character shows as itself: not a control, formatting, surrogate,
private-use or unassigned character, not a line or paragraph separator, and not a blank
other than the space. -/
def shows (c : Char) : Bool := printableRanges.holds c

/-- One character as written inside quotes `q`. -/
def escapeIn (q : Char) (c : Char) : String :=
  if c == '\\' || c == q then String.ofList ['\\', c]
  else if c == '\t' then "\\t"
  else if c == '\n' then "\\n"
  else if c == '\r' then "\\r"
  else if shows c then String.singleton c
  else
    let n := c.toNat
    if n < 0x100 then "\\x" ++ hexDigits n 2
    else if n < 0x10000 then "\\u" ++ hexDigits n 4
    else "\\U" ++ hexDigits n 8

/-- Text in quotes. -/
def quote (s : String) : String :=
  let cs := s.toList
  let q := if cs.contains '\'' && !cs.contains '"' then '"' else '\''
  String.singleton q ++ String.join (cs.map (escapeIn q)) ++ String.singleton q

theorem quote_empty : quote "" = "''" := by
  simp [quote]

theorem escapeIn_of_shows (q c : Char) (hq : c ≠ q) (hb : c ≠ '\\') (ht : c ≠ '\t')
    (hn : c ≠ '\n') (hr : c ≠ '\r') (hs : shows c = true) :
    escapeIn q c = String.singleton c := by
  simp [escapeIn, hq, hb, ht, hn, hr, hs]

end SearchPage.Text
