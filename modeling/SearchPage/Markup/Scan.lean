import SearchPage.Text.Blank
import SearchPage.Text.Digit

/-!
# Scanning a text by position

The markup reader works on the characters of a page held in an array, so that a position
is a character count from the start of the page: the same count in which source spans are
reported. This module holds the small searches it is built from. Each one only moves
forward, and returns a position no smaller than the one it was given.

## Main statements

* `le_skipWhile`: skipping never moves backwards.
* `findFrom_ge`: a search finds nothing before where it starts.
-/

namespace SearchPage.Markup

/-- The characters of a page, addressed by position. -/
abbrev Source := Array Char

namespace Source

/-- The character at a position, if the position is inside the page. -/
def at? (s : Source) (i : Nat) : Option Char := s[i]?

/-- Whether the character at a position is `c`. -/
def isAt (s : Source) (i : Nat) (c : Char) : Bool := s[i]? == some c

/-- Whether the character at a position satisfies `p`; false past the end. -/
def satisfies (s : Source) (i : Nat) (p : Char → Bool) : Bool :=
  match s[i]? with
  | some c => p c
  | none => false

/-- Whether the characters from position `i` on start with `lit`. -/
def startsWithAt (s : Source) (i : Nat) : List Char → Bool
  | [] => true
  | c :: cs => s.isAt i c && s.startsWithAt (i + 1) cs

/-- Whether the characters from position `i` on start with `lit`, letters compared
without regard to ASCII case. -/
def startsWithFoldAt (s : Source) (i : Nat) : List Char → Bool
  | [] => true
  | c :: cs =>
    s.satisfies i (fun d => Text.asciiLower d == Text.asciiLower c) && s.startsWithFoldAt (i + 1) cs

/-- The first position at or after `i` whose character fails `p` (the page length if
there is none). -/
def skipWhile (s : Source) (p : Char → Bool) (i : Nat) : Nat :=
  if h : i < s.size then
    if p s[i] then s.skipWhile p (i + 1) else i
  else i
termination_by s.size - i

/-- The first position at or after `i` that satisfies `p`. -/
def findFrom (s : Source) (p : Nat → Bool) (i : Nat) : Option Nat :=
  if i < s.size then
    if p i then some i else s.findFrom p (i + 1)
  else none
termination_by s.size - i

/-- The first position at or after `i` holding the character `c`. -/
def findChar (s : Source) (c : Char) (i : Nat) : Option Nat :=
  s.findFrom (fun j => s.isAt j c) i

/-- The first position at or after `i` where the characters `lit` begin. -/
def findText (s : Source) (lit : List Char) (i : Nat) : Option Nat :=
  s.findFrom (fun j => s.startsWithAt j lit) i

/-- The text between two positions. -/
def slice (s : Source) (a b : Nat) : String :=
  String.ofList (s.extract a b).toList

theorem le_skipWhile (s : Source) (p : Char → Bool) (i : Nat) : i ≤ s.skipWhile p i := by
  fun_induction skipWhile s p i with
  | case1 i h hp ih => omega
  | case2 => exact Nat.le_refl _
  | case3 => exact Nat.le_refl _

theorem findFrom_ge {s : Source} {p : Nat → Bool} {i j : Nat} (h : s.findFrom p i = some j) :
    i ≤ j := by
  fun_induction findFrom s p i with
  | case1 i hi hp => simp at h; omega
  | case2 i hi hp ih => have := ih h; omega
  | case3 => simp at h

theorem findFrom_spec {s : Source} {p : Nat → Bool} {i j : Nat} (h : s.findFrom p i = some j) :
    p j = true := by
  fun_induction findFrom s p i with
  | case1 i hi hp => simp at h; subst h; exact hp
  | case2 i hi hp ih => exact ih h
  | case3 => simp at h

end Source

end SearchPage.Markup
