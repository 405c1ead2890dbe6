import SearchPage.Text.Double

/-!
# Positions among siblings

`:nth-child(a n + b)` and its kin hold for an element whose position among its sibling
elements (counted from 1, from the front or the back, and only among the siblings that
pass a filter) is `a k + b` for some whole `k ≥ 0`, or exactly `a` when no `n` is written.

The position is found by a walk along the siblings up to the element itself, asking each
sibling on the way whether it counts. Whether the position lies on the step is decided by
the quotient `(position - b) / a` rounded to double precision: it must be a whole number
and not below zero. Rounding makes the test generous for huge steps: a quotient too close
to a whole number, or to zero, to be told from it counts as one.

## Main statements

* `holds_first`: the first of three children passes `:first-child`.
-/

namespace SearchPage.Selector.Position

open SearchPage.Text

/-- The position of the subject among `walk`, counting from `n + 1` the members that pass
`counts` (asked of each member as the walk reaches it), or `none` when the walk ends
without meeting the subject among those that count. -/
def positionOf {m : Type → Type} [Monad m] {α : Type} (counts : α → m Bool)
    (isSelf : α → Bool) : List α → Nat → m (Option Nat)
  | [], _ => pure none
  | c :: rest, n => do
    if ← counts c then
      if isSelf c then pure (some (n + 1)) else positionOf counts isSelf rest (n + 1)
    else positionOf counts isSelf rest n

/-- Whether a number of double precision is a whole number that is not below zero (zero
of either sign included). -/
def wholeNonNegative : Double → Bool
  | .finite negative q e =>
    (q == 0 || !negative) && (0 ≤ e || q % Double.twoPow (-e).toNat == 0)
  | .infinite _ => false

/-- Whether position `pos` is `a k + b` for a whole `k ≥ 0`, decided on the quotient
`(pos - b) / a` rounded to double precision. With `a = 0` the position must be `b`.
`none` when the quotient is too large for double precision. -/
def onStep (a b : Int) (pos : Nat) : Option Bool :=
  if a = 0 then some ((pos : Int) == b)
  else
    let num := (pos : Int) - b
    match Double.ofRatio (decide (num < 0) != decide (a < 0)) num.natAbs a.natAbs with
    | .infinite _ => none
    | q => some (wholeNonNegative q)

/-- Whether the subject stands at a position `a k + b` (or `a`, when not `stepped`) among
`walk`, its parent's element children in walking order, counting those that pass `counts`.
`none` when the quotient that decides it is too large for double precision. -/
def holds {m : Type → Type} [Monad m] {α : Type} (counts : α → m Bool) (isSelf : α → Bool)
    (a b : Int) (stepped : Bool) (walk : List α) : m (Option Bool) := do
  match ← positionOf counts isSelf walk 0 with
  | none => pure (some false)
  | some pos => pure (if stepped then onStep a b pos else some ((pos : Int) == a))

/-- The first child of three passes `:first-child`. -/
theorem holds_first :
    Id.run (holds (fun _ => pure true) (· == 0) 1 0 false [0, 1, 2]) = some true := by
  rfl

end SearchPage.Selector.Position
