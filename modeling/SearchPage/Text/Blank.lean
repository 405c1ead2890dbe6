/-!
# Blank characters

A page is read with two different ideas of what counts as blank.

* *Markup space* is the five-character set of the markup grammar: tab, line feed, form
  feed, carriage return and space. It separates a tag name from its attributes, and a text
  run made of nothing else is folded to a single blank when the tree is built.
* *Trim blanks* are what is cut from both ends of a text piece before it is reported: the
  Unicode white-space characters together with the four information separators
  U+001C to U+001F (the set of a general-purpose `strip`). Zero-width space is not in it.

## Main statements

* `trim_eq_self_of_not_blank`: trimming leaves a text whose two ends are not blank as it is.
* `isTrimBlank_of_isMarkupSpace`: every markup space is a trim blank.
-/

namespace SearchPage.Text

/-- Markup space: tab, line feed, form feed, carriage return and space. -/
def isMarkupSpace (c : Char) : Bool :=
  c == ' ' || c == '\n' || c == '\t' || c == '\x0c' || c == '\r'

/-- Trim blanks: U+0009 to U+000D, U+001C to U+0020, U+0085, U+00A0, U+1680,
U+2000 to U+200A, U+2028, U+2029, U+202F, U+205F and U+3000. -/
def isTrimBlank (c : Char) : Bool :=
  let n := c.toNat
  (9 ≤ n && n ≤ 13) || (0x1c ≤ n && n ≤ 0x20) || n == 0x85 || n == 0xa0 || n == 0x1680 ||
    (0x2000 ≤ n && n ≤ 0x200a) || n == 0x2028 || n == 0x2029 || n == 0x202f ||
    n == 0x205f || n == 0x3000

/-- The characters of `cs` with trim blanks removed from both ends. -/
def trimChars (cs : List Char) : List Char :=
  ((cs.dropWhile isTrimBlank).reverse.dropWhile isTrimBlank).reverse

/-- A text with trim blanks removed from both ends. -/
def trim (s : String) : String :=
  String.ofList (trimChars s.toList)

/-- Whether a text holds trim blanks only (the empty text included). -/
def isBlank (s : String) : Bool :=
  s.toList.all isTrimBlank

theorem isTrimBlank_of_isMarkupSpace {c : Char} (h : isMarkupSpace c = true) :
    isTrimBlank c = true := by
  simp only [isMarkupSpace, Bool.or_eq_true, beq_iff_eq] at h
  rcases h with (((h | h) | h) | h) | h <;> subst h <;> decide

theorem trimChars_eq_self_of_not_blank {cs : List Char} {a b : Char}
    (hHead : cs.head? = some a) (hLast : cs.getLast? = some b)
    (ha : isTrimBlank a = false) (hb : isTrimBlank b = false) : trimChars cs = cs := by
  cases cs with
  | nil => simp at hHead
  | cons x xs =>
    simp only [List.head?_cons, Option.some.injEq] at hHead
    subst hHead
    have hDrop : (x :: xs).dropWhile isTrimBlank = x :: xs := by
      simp [ha]
    rw [trimChars, hDrop]
    have hRev : (x :: xs).reverse.head? = some b := by
      rw [List.head?_reverse]; exact hLast
    cases hR : (x :: xs).reverse with
    | nil => simp at hR
    | cons y ys =>
      rw [hR] at hRev
      simp only [List.head?_cons, Option.some.injEq] at hRev
      subst hRev
      have hDrop2 : (y :: ys).dropWhile isTrimBlank = y :: ys := by
        simp [hb]
      rw [hDrop2, ← hR, List.reverse_reverse]

theorem trim_eq_self_of_not_blank {s : String} {a b : Char}
    (hHead : s.toList.head? = some a) (hLast : s.toList.getLast? = some b)
    (ha : isTrimBlank a = false) (hb : isTrimBlank b = false) : trim s = s := by
  rw [trim, trimChars_eq_self_of_not_blank hHead hLast ha hb, String.ofList_toList]

end SearchPage.Text
