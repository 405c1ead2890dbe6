import SearchPage.Text.Digit
import SearchPage.Text.Double
import SearchPage.Selector.Syntax

/-!
# Bounded form fields

A form field of a date-like or numeric type may carry bounds (`min`, `max`) and a value.
`:in-range` holds for such a field unless its value falls outside its bounds, and
`:out-of-range` when it does. A field with neither bound readable has no range.

Values are read by the field's type:

* `date` `YYYY-MM-DD`, `month` `YYYY-MM`, `week` `YYYY-Www`, `time` `hh:mm`, and
  `datetime-local` `YYYY-MM-DDThh:mm`, with at least four digits of year and exactly two of
  everything else, each part within its calendar bounds; they compare part by part;
* `number` and `range`: an optional minus, then digits with an optional fraction or a
  fraction alone; they compare as the numbers of double precision they round to.

Any other text is no value. A single line break after the text is allowed. Time of day
is periodic, so a `time` field whose minimum is above its maximum is out of range only
between the two.

Reading can fail outright: a field without a type cannot be tested, a year of more than
4300 digits is not read as a number, and the last week of a year is looked up in a
calendar that only names the years 1 to 9999.

## Main statements

* `lastWeek_ge`: every year has at least 52 weeks.
-/

namespace SearchPage.Selector.Range

open SearchPage.Text

/-- A value of a bounded field. -/
inductive FieldValue where
  /-- The numbered parts of a date, month, week, time or moment, most significant first. -/
  | parts (xs : List Nat)
  | number (x : Double)
  deriving DecidableEq, Repr

/-- Whether one value is below another; values of different kinds are unordered. -/
def FieldValue.lt : FieldValue → FieldValue → Bool
  | .parts a, .parts b => decide (a < b)
  | .number a, .number b => a.lt b
  | _, _ => false

/-- Whether a year is a leap year of the Gregorian calendar. -/
def isLeapYear (year : Nat) : Bool :=
  (year % 4 == 0 && year % 100 != 0) || year % 400 == 0

/-- The number of days of a month. -/
def daysIn (year month : Nat) : Nat :=
  if month == 2 then (if isLeapYear year then 29 else 28)
  else if [4, 6, 9, 11].contains month then 30
  else 31

/-- The day of the week of the last day of a year, 0 for Sunday. -/
def lastDayOfWeek (year : Nat) : Nat :=
  (year + year / 4 - year / 100 + year / 400) % 7

/-- The number of weeks of a year by the ISO calendar: 53 when the year ends on a
Thursday, or on a Friday of a leap year; 52 otherwise. -/
def lastWeek (year : Nat) : Nat :=
  let d := lastDayOfWeek year
  if d == 4 || (d == 5 && isLeapYear year) then 53 else 52

/-- The leading ASCII digits of a text, and what follows them. -/
def numberRun (cs : List Char) : List Char × List Char :=
  (cs.takeWhile isAsciiDigit, cs.dropWhile isAsciiDigit)

/-- Read `n` ASCII digits exactly, or at least `n` when `atLeast`. -/
def digitsOf (n : Nat) (atLeast : Bool) (cs : List Char) : Option (List Char × List Char) :=
  let (ds, rest) := numberRun cs
  if ds.length == n || (atLeast && n ≤ ds.length) then some (ds, rest) else none

/-- Read numbered parts separated by the given characters: each entry says how many
digits the part has (`atLeast` for the year) and which character follows it, if any. -/
def readParts : List (Nat × Bool × Option Char) → List Char → Option (List (List Char))
  | [], [] => some []
  | [], _ => none
  | (n, atLeast, sep) :: more, cs => do
    let (v, rest) ← digitsOf n atLeast cs
    let rest ← match sep, rest with
      | some c, d :: r => if c == d then some r else none
      | some _, [] => none
      | none, r => some r
    let vs ← readParts more rest
    pure (v :: vs)

/-- The text with one final line break removed. -/
def dropFinalBreak (cs : List Char) : List Char :=
  if cs.getLast? == some '\n' then cs.dropLast else cs

/-- The most digits a year is read from. -/
def maxYearDigits : Nat := 4300

/-- The value of a year's digits; more than `maxYearDigits` of them are refused. -/
def yearValue (ds : List Char) : Except SelectorError Nat :=
  if maxYearDigits < ds.length then throw .overlongNumber else pure (decimalValue ds)

/-- Read a number: an optional minus, then digits with an optional fraction of at least
one digit, or a fraction alone. -/
def readNumber (cs : List Char) : Option Double :=
  let (negative, cs) := match cs with
    | '-' :: r => (true, r)
    | r => (false, r)
  let (whole, rest) := numberRun cs
  match rest with
  | [] => if whole.isEmpty then none else some (Double.ofDecimal negative (decimalValue whole) 0)
  | '.' :: frac =>
    if frac.isEmpty || !frac.all isAsciiDigit then none
    else some (Double.ofDecimal negative (decimalValue (whole ++ frac)) frac.length)
  | _ => none

/-- Whether the parts of a date are a day of the calendar. -/
def isDay (y m d : Nat) : Bool :=
  1 ≤ y && 1 ≤ m && m ≤ 12 && 1 ≤ d && d ≤ daysIn y m

/-- The number of weeks of a year, looked up in a calendar of the years 1 to 9999. -/
def weeksOf (year : Nat) : Except SelectorError Nat :=
  if 1 ≤ year && year ≤ 9999 then pure (lastWeek year) else throw .yearOutOfRange

/-- Read the value of a field of type `kind` (in lower case). -/
def FieldValue.read (kind : String) (text : String) : Except SelectorError (Option FieldValue) :=
  let cs := dropFinalBreak text.toList
  let date := [(4, true, some '-'), (2, false, some '-')]
  match kind with
  | "date" =>
    match readParts (date ++ [(2, false, none)]) cs with
    | some [y, m, d] => do
      let y ← yearValue y
      let (m, d) := (decimalValue m, decimalValue d)
      pure (if isDay y m d then some (.parts [y, m, d]) else none)
    | _ => pure none
  | "month" =>
    match readParts [(4, true, some '-'), (2, false, none)] cs with
    | some [y, m] => do
      let y ← yearValue y
      let m := decimalValue m
      pure (if 1 ≤ y && 1 ≤ m && m ≤ 12 then some (.parts [y, m]) else none)
    | _ => pure none
  | "week" =>
    match digitsOf 4 true cs with
    | some (y, '-' :: 'W' :: rest) =>
      match digitsOf 2 false rest with
      | some (w, []) => do
        let y ← yearValue y
        let w := decimalValue w
        if 1 ≤ y then
          let weeks ← weeksOf y
          pure (if 1 ≤ w && w ≤ weeks then some (.parts [y, w]) else none)
        else pure none
      | _ => pure none
    | _ => pure none
  | "time" =>
    match readParts [(2, false, some ':'), (2, false, none)] cs with
    | some [h, m] =>
      let (h, m) := (decimalValue h, decimalValue m)
      pure (if h ≤ 23 && m ≤ 59 then some (.parts [h, m]) else none)
    | _ => pure none
  | "datetime-local" =>
    match readParts (date ++ [(2, false, some 'T'), (2, false, some ':'), (2, false, none)]) cs with
    | some [y, mo, d, h, mi] => do
      let y ← yearValue y
      let (mo, d, h, mi) := (decimalValue mo, decimalValue d, decimalValue h, decimalValue mi)
      pure (if isDay y mo d && h ≤ 23 && mi ≤ 59 then some (.parts [y, mo, d, h, mi]) else none)
    | _ => pure none
  | "number" | "range" => pure ((readNumber cs).map .number)
  | _ => pure none

/-- Whether a field's value is outside its bounds. -/
def isOutside (kind : String) (low high value : Option FieldValue) : Bool :=
  match value with
  | none => false
  | some v =>
    let below := low.elim false fun l => v.lt l
    let above := high.elim false fun h => h.lt v
    if kind == "time" then
      match low, high with
      | some l, some h => if h.lt l then below && above else below || above
      | _, _ => below || above
    else below || above

/-- Whether a field is in range (`inside`) or out of range: a field without a readable
bound is neither. The bounds are read first, the value only when one of them is
readable. -/
def holds (inside : Bool) (kind : Option String) (low high value : Option String) :
    Except SelectorError Bool := do
  let some kind := kind | throw .untypedField
  let read := fun (t : Option String) => match t with
    | some t => FieldValue.read kind t
    | none => pure none
  let l ← read low
  let h ← read high
  if l.isNone && h.isNone then return false
  let v ← read value
  return isOutside kind l h v != inside

theorem lastWeek_ge (year : Nat) : 52 ≤ lastWeek year := by
  simp only [lastWeek]
  split <;> omega

end SearchPage.Selector.Range
