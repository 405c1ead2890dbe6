import SearchPage.Query.Basic
import SearchPage.Value

/-!
# Queries written as plain data

A query is written as a selector (text), a tag test (a record), or a list of these tried
in order; nothing means no query. A tag test record may give `name`, `attr`, `value`
(text each) and `not` (another tag test record); other keys are not read. A member of a
list that is neither text nor a record is kept as a finder that cannot be applied.

Anything else is not a query, and reading it gives `none`.

A query can also be taken *as it is*, without reading records as tag tests: a record is
then listed as its keys, each a selector; members of a list other than text cannot be
applied; and a value of another kind cannot be listed at all.
-/

namespace SearchPage

/-- A condition of a tag test as given, `none` when it is not there. -/
def givenField? (fs : Record) (k : String) : Option Given :=
  (fs.lookup k).map fun
    | .str s => .text s
    | .list _ | .record _ => .compound
    | _ => .scalar

/-- A tag test read from a record, within `fuel` levels of `not`. -/
def TagTest.ofRecord : Nat → Record → TagTest
  | 0, _ => .notARecord
  | fuel + 1, fs =>
    let failing := (fs.lookup "not").map fun
      | .record gs => TagTest.ofRecord fuel gs
      | _ => .notARecord
    .mk (givenField? fs "name") (givenField? fs "attr") (givenField? fs "value") failing

/-- How deep records and lists are nested in a value. -/
def Value.depth : Value → Nat
  | .list xs => (xs.attach.map fun ⟨x, _⟩ => x.depth).foldr max 0 + 1
  | .record fs => (fs.attach.map fun ⟨p, _⟩ => p.2.depth).foldr max 0 + 1
  | _ => 0
termination_by v => sizeOf v
decreasing_by
  · have := List.sizeOf_lt_of_mem (by assumption : x ∈ xs)
    simp only [Value.list.sizeOf_spec]; omega
  · rename_i h
    have := List.sizeOf_lt_of_mem h
    obtain ⟨k, v⟩ := p
    simp only [Value.record.sizeOf_spec, Prod.mk.sizeOf_spec] at *; omega

/-- One finder written as plain data: a selector, a tag test, or anything else, which
cannot be applied. -/
def Finder.ofValue : Value → Finder
  | .str s => .css s
  | .record fs => .test (TagTest.ofRecord (Value.depth (.record fs) + 1) fs)
  | _ => .unusable

/-- A query written as plain data: `some none` for nothing, `none` for what is not a
query. -/
def Query.ofValue : Value → Option (Option Query)
  | .null => some none
  | .list xs => some (some (xs.map Finder.ofValue))
  | .str s => some (some [.css s])
  | .record fs => some (some [Finder.ofValue (.record fs)])
  | _ => none

/-- A query taken as it is: `none` for nothing. -/
def Query.ofPlain : Value → Option Query
  | .null => none
  | .str s => some [.css s]
  | .record fs => some (fs.map fun (k, _) => .css k)
  | .list xs => some (xs.map fun
    | .str s => .css s
    | _ => .unusable)
  | _ => some [.unlisted]

end SearchPage
