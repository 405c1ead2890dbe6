import SearchPage.Text.Digit

/-!
# Tables of code point ranges

A class of characters that has no rule to it (the letters of Unicode, say) is kept as a
table: sorted, disjoint, closed ranges of code points. A table is written as lines of
hexadecimal ranges, `lo-hi` or a single code point, separated by blanks, and read once into
an array; membership is then a binary search over the array.

## Main statements

* `search_sound`: a code point the search finds lies in one of the table's ranges.
-/

namespace SearchPage.Text

/-- A set of code points as sorted, disjoint, closed ranges. -/
structure RangeTable where
  ranges : Array (Nat × Nat)

namespace RangeTable

/-- One written range, given as its characters: `lo-hi` or a single code point, in
hexadecimal. -/
def parseRangeChars (token : List Char) : Option (Nat × Nat) :=
  match token.splitOn '-' with
  | [a] => if a.isEmpty then none else some (hexNumberValue a, hexNumberValue a)
  | [a, b] => some (hexNumberValue a, hexNumberValue b)
  | _ => none

/-- One written range: `lo-hi` or a single code point, in hexadecimal. -/
def parseRange (token : String) : Option (Nat × Nat) :=
  parseRangeChars token.toList

/-- The table written in `lines`. -/
def ofLines (lines : List String) : RangeTable :=
  ⟨(lines.flatMap fun l => (l.toList.splitOn ' ').filterMap parseRangeChars).toArray⟩

/-- Whether one of the ranges at positions `lo` to `hi - 1` holds `n`. -/
def search (rs : Array (Nat × Nat)) (n lo hi : Nat) : Bool :=
  if lo < hi then
    let mid := (lo + hi) / 2
    match rs[mid]? with
    | some (a, b) =>
      if n < a then search rs n lo mid
      else if b < n then search rs n (mid + 1) hi
      else true
    | none => false
  else false
termination_by hi - lo

/-- Whether the table holds a code point. -/
def contains (t : RangeTable) (n : Nat) : Bool :=
  search t.ranges n 0 t.ranges.size

/-- Whether the table holds a character. -/
def holds (t : RangeTable) (c : Char) : Bool :=
  t.contains c.toNat

/-- Whether one of the ranges at positions `lo` to `hi - 1` meets `[a, b]`. -/
def meetsFrom (rs : Array (Nat × Nat)) (a b lo hi : Nat) : Bool :=
  if lo < hi then
    let mid := (lo + hi) / 2
    match rs[mid]? with
    | some (x, y) =>
      if b < x then meetsFrom rs a b lo mid
      else if y < a then meetsFrom rs a b (mid + 1) hi
      else true
    | none => false
  else false
termination_by hi - lo

/-- Whether the table holds some code point of `[a, b]`. -/
def meets (t : RangeTable) (a b : Nat) : Bool :=
  meetsFrom t.ranges a b 0 t.ranges.size

theorem search_sound {rs : Array (Nat × Nat)} {n lo hi : Nat} (h : search rs n lo hi = true) :
    ∃ r ∈ rs.toList, r.1 ≤ n ∧ n ≤ r.2 := by
  fun_induction search rs n lo hi with
  | case1 lo hi hlt mid a b hget hn ih => exact ih h
  | case2 lo hi hlt mid a b hget hn hb ih => exact ih h
  | case3 lo hi hlt mid a b hget hn hb =>
    refine ⟨(a, b), ?_, by simp only; omega, by simp only; omega⟩
    have := Array.mem_of_getElem? hget
    simpa using this
  | case4 lo hi hlt mid hget => simp at h
  | case5 lo hi hge => simp at h

end RangeTable

/-- A mapping of code points that moves runs of them by fixed amounts: each run is a closed
range, the amount, and a step (1 for every code point of the range, 2 for every other
one from its start). Code points outside every run stay where they are. -/
structure ShiftTable where
  runs : Array (Nat × Nat × Int × Nat)

namespace ShiftTable

/-- One written run: `lo-hi:±amount` or `lo:±amount`, in hexadecimal, with `/2` after it
for every other code point. -/
def parseRun (token : String) : Option (Nat × Nat × Int × Nat) :=
  match token.splitOn ":" with
  | [range, shift] => do
    let (lo, hi) ← RangeTable.parseRange range
    let (amount, step) := match shift.splitOn "/" with
      | [a, _] => (a, 2)
      | _ => (shift, 1)
    let size : Int := hexNumberValue (amount.toList.drop 1)
    let delta := if amount.startsWith "-" then -size else size
    pure (lo, hi, delta, step)
  | _ => none

/-- The table written in `lines`. -/
def ofLines (lines : List String) : ShiftTable :=
  ⟨(lines.flatMap fun l => (l.splitOn " ").filterMap parseRun).toArray⟩

/-- Where the run at positions `lo` to `hi - 1` that holds `n` moves it. -/
def find (rs : Array (Nat × Nat × Int × Nat)) (n lo hi : Nat) : Nat :=
  if lo < hi then
    let mid := (lo + hi) / 2
    match rs[mid]? with
    | some (a, b, delta, step) =>
      if n < a then find rs n lo mid
      else if b < n then find rs n (mid + 1) hi
      else if (n - a) % step == 0 then (n + delta).toNat else n
    | none => n
  else n
termination_by hi - lo

/-- Where the table moves a code point. -/
def apply (t : ShiftTable) (n : Nat) : Nat :=
  find t.runs n 0 t.runs.size

end ShiftTable

end SearchPage.Text
