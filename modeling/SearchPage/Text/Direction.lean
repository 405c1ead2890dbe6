import SearchPage.Text.Unicode

/-!
# Writing direction of characters

A character is *strongly directed* when it decides the direction of the text around it:
the characters of bidirectional class L are written left to right, those of class R
(Hebrew and its neighbours) and AL (Arabic and its neighbours) right to left. Digits,
punctuation, symbols, space and combining marks decide nothing.

## Main statements

* `firstStrongDirection_empty`: an empty text sets no direction.
-/

namespace SearchPage.Text

/-- The direction a character sets: `some true` for left to right, `some false` for right
to left, `none` when it is not strongly directed. -/
def strongDirection (c : Char) : Option Bool :=
  if leftToRightRanges.holds c then some true
  else if rightToLeftRanges.holds c then some false
  else none

/-- The direction the first strongly directed character of a text sets. -/
def firstStrongDirection (t : String) : Option Bool :=
  t.toList.findSome? strongDirection

theorem firstStrongDirection_empty : firstStrongDirection "" = none := rfl

end SearchPage.Text
