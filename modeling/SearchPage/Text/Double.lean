import SearchPage.Text.Digit

/-!
# Binary floating-point numbers of double precision

Decimal numbers read from a page are compared the way the numbers of double precision
they round to compare. A number of double precision is `±m · 2 ^ e` with a significand
`m < 2 ^ 53` and an exponent `e` from `-1074` to `971`, or an infinity. Rounding picks the
nearest such number, the one with an even significand on a tie, and gives an infinity
from `2 ^ 1024 - 2 ^ 970` on. Everything here is exact arithmetic on whole numbers; no
machine floating-point operation is involved.

## Main statements

* `scaled_zero`: zero of either sign is the same number.

Numbers are written back the shortest way that reads back as the same number: the fewest
significant digits whose decimal lies within the rounding interval of the number (its
ends included when the significand is even, since a tie rounds to the even one), and
among those the decimal nearest to the number. The digits stand in positional form when
the decimal point falls within `-3` to `16` places of the first digit, and in exponent
form (`1e+20`, `2.5e-10`) otherwise; a whole number ends in `.0`.
-/

namespace SearchPage.Text

/-- A number of double precision: `±significand · 2 ^ exponent`, or an infinity. -/
inductive Double where
  | finite (negative : Bool) (significand : Nat) (exponent : Int)
  | infinite (negative : Bool)
  deriving DecidableEq, Repr

namespace Double

/-- `2 ^ k`. -/
def twoPow (k : Nat) : Nat := Nat.pow 2 k

/-- The least exponent: the spacing of the numbers closest to zero. -/
def minExponent : Int := -1074

/-- The greatest exponent of a finite number. -/
def maxExponent : Int := 971

/-- The quotient and remainder of `num / (den · 2 ^ e)`, with the divisor they refer to. -/
def scaledDiv (num den : Nat) (e : Int) : Nat × Nat × Nat :=
  if 0 ≤ e then
    let d := den * twoPow e.toNat
    (num / d, num % d, d)
  else
    let n := num * twoPow (-e).toNat
    (n / den, n % den, den)

/-- The exponent at which `num / den` has a quotient of 53 bits, or the least exponent
for numbers too close to zero for that. The difference of the bit lengths puts the
quotient at 52 or 53 bits; one step down settles it. -/
def exponentFor (num den : Nat) : Int :=
  let e : Int := (Nat.log2 num : Int) - (Nat.log2 den : Int) - 52
  let e := if (scaledDiv num den e).1 < twoPow 52 then e - 1 else e
  max e minExponent

/-- The number of double precision nearest to `±num / den`. -/
def ofRatio (negative : Bool) (num den : Nat) : Double :=
  if num = 0 || den = 0 then .finite negative 0 0
  else
    let e := exponentFor num den
    let (q, r, d) := scaledDiv num den e
    let q := if d < 2 * r || (2 * r == d && q % 2 == 1) then q + 1 else q
    let (q, e) := if q == twoPow 53 then (twoPow 52, e + 1) else (q, e)
    if maxExponent < e then .infinite negative else .finite negative q e

/-- The number of double precision nearest to `±digits / 10 ^ scale`. -/
def ofDecimal (negative : Bool) (digits scale : Nat) : Double :=
  ofRatio negative digits (tenPow scale)

/-- The number of double precision nearest to `±digits · 10 ^ exponent`. Decimals beyond
`10 ^ 310` are infinite and those below `10 ^ -330` are zero without further work: the
greatest finite number is below `2 ^ 1024 < 10 ^ 309` and the least one is above
`4 · 10 ^ -324`. -/
def ofScientific (negative : Bool) (digits : Nat) (exponent : Int) : Double :=
  let size : Int := (Nat.toDigits 10 digits).length
  if digits == 0 then .finite negative 0 0
  else if 310 < size + exponent then .infinite negative
  else if size + exponent < -330 then .finite negative 0 0
  else if 0 ≤ exponent then ofRatio negative (digits * tenPow exponent.toNat) 1
  else ofRatio negative digits (tenPow (-exponent).toNat)

/-- Whether the number is zero, of either sign. -/
def isZero : Double → Bool
  | .finite _ m _ => m == 0
  | .infinite _ => false

/-- The number times `2 ^ 1074`, a whole number for every finite one; the infinities are
put beyond every finite number. -/
def scaled : Double → Int
  | .finite negative m e =>
    let v : Int := (m * twoPow (e - minExponent).toNat : Nat)
    if negative then -v else v
  | .infinite negative => if negative then -(Int.ofNat (twoPow 2100)) else Int.ofNat (twoPow 2100)

/-- Whether one number is below another. -/
def lt (a b : Double) : Bool := decide (a.scaled < b.scaled)

/-- The number as a place on a line that also holds every whole number: the infinities
first by their sign (`-1`, `1`), the finite numbers at `0` and then by their value times
`2 ^ 1074`. Two numbers are equal exactly when their places are, and places ordered
lexicographically order the numbers. -/
def place : Double → Int × Int
  | .finite negative m e => (0, (Double.finite negative m e).scaled)
  | .infinite negative => (if negative then -1 else 1, 0)

/-- `⌊log₁₀ (a / b)⌋` for positive `a` and `b`. The bit lengths give `log₂ (a / b)` within
one, so `log₁₀` within a third and the estimate within two of the answer; the greatest of
the five candidates around it whose power of ten is at most `a / b` is the answer. -/
def floorLog10 (a b : Nat) : Int :=
  let atMost (k : Int) : Bool :=
    if 0 ≤ k then tenPow k.toNat * b ≤ a else b ≤ a * tenPow (-k).toNat
  let estimate : Int := ((Nat.log2 a : Int) - (Nat.log2 b : Int)) * 30103 / 100000
  (List.range 5).foldl (fun (best : Int) (i : Nat) =>
    let k := estimate - 2 + (i : Int)
    if atMost k then k else best) (estimate - 2)

/-- `⌈a / b⌉`. -/
def ceilDiv (a b : Nat) : Nat := (a + b - 1) / b

/-- `a / b` rounded to the nearest whole number, a tie to the even one. -/
def roundDiv (a b : Nat) : Nat :=
  let q := a / b
  let r := a % b
  if b < 2 * r || (2 * r == b && q % 2 == 1) then q + 1 else q

/-- The decimals of `p` significant digits that read back as `m · 2 ^ e`: with `k` the
place of the last digit, the whole numbers `n` with `n · 10 ^ k` in the rounding interval,
and the one nearest to the number. The interval is `[4m - 2, 4m + 2] · 2 ^ (e - 2)`, its
lower end at `4m - 1` when `m` is the least significand of a binade above the least one,
where the numbers below are twice as dense; it is closed for an even `m`. -/
def digitsAt (m : Nat) (e : Int) (top : Int) (p : Nat) : Option (Nat × Int) :=
  let k := top + 1 - p
  let a := e - 2
  let num := twoPow (max a 0).toNat * tenPow (max (-k) 0).toNat
  let den := twoPow (max (-a) 0).toNat * tenPow (max k 0).toNat
  let lower := if m == twoPow 52 && minExponent < e then 4 * m - 1 else 4 * m - 2
  let upper := 4 * m + 2
  let closed := m % 2 == 0
  let least := if closed then ceilDiv (lower * num) den else lower * num / den + 1
  let greatest := if closed then upper * num / den else ceilDiv (upper * num) den - 1
  if least ≤ greatest then
    some (min (max (roundDiv (4 * m * num) den) least) greatest, k)
  else none

/-- Drop the zeros at the end of `n · 10 ^ k`, raising `k`; a decimal of double precision
has at most 17 digits, so 17 steps are enough. -/
def dropZeros : Nat → Nat × Int → Nat × Int
  | 0, d => d
  | fuel + 1, (n, k) => if n != 0 && n % 10 == 0 then dropZeros fuel (n / 10, k + 1) else (n, k)

/-- The shortest decimal `n · 10 ^ k` that reads back as `m · 2 ^ e` for `m` positive,
nearest to it among the shortest, with no zero at the end of `n`. Seventeen digits always
suffice; the last candidate is kept should none be found. -/
def shortest (m : Nat) (e : Int) : Nat × Int :=
  let top := floorLog10 (m * twoPow (max e 0).toNat) (twoPow (max (-e) 0).toNat)
  let found := ((List.range 17).findSome? fun i => digitsAt m e top (i + 1)).getD
    (m * twoPow (max e 0).toNat, 0)
  dropZeros 17 found

/-- A string of `n` zeros. -/
def zeros (n : Nat) : String := String.ofList (List.replicate n '0')

/-- The digits `ds` of a decimal whose point stands `point` places after the first digit,
written out: in exponent form when the point is beyond 16 places or at `-4` places or
before, positionally otherwise. -/
def layout (ds : String) (point : Int) : String :=
  if point ≤ -4 || 16 < point then
    let x := point - 1
    let rest := ds.drop 1
    let mantissa := (ds.take 1).copy ++ (if rest.isEmpty then "" else "." ++ rest.copy)
    let digits := toString x.natAbs
    mantissa ++ "e" ++ (if x < 0 then "-" else "+") ++ zeros (2 - digits.length) ++ digits
  else if point ≤ 0 then "0." ++ zeros (-point).toNat ++ ds
  else if point < ds.length then (ds.take point.toNat).copy ++ "." ++ (ds.drop point.toNat).copy
  else ds ++ zeros (point.toNat - ds.length) ++ ".0"

/-- The number written the shortest way that reads back as itself. -/
def decimalText : Double → String
  | .infinite negative => if negative then "-inf" else "inf"
  | .finite negative m e =>
    let sign := if negative then "-" else ""
    if m == 0 then sign ++ "0.0"
    else
      let (n, k) := shortest m e
      let ds := toString n
      sign ++ layout ds (ds.length + k)

theorem scaled_zero (e e' : Int) : (Double.finite true 0 e).scaled = (Double.finite false 0 e').scaled := by
  simp [scaled]

end Double

end SearchPage.Text
