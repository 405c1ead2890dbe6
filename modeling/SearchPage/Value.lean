import SearchPage.Text.Quote
import SearchPage.Text.Double

/-!
# Plain values

The records a page yields, the request it was fetched for and the settings handed to
its parts are plain data: nothing, truth values, whole numbers, numbers of double
precision, text, lists, and records whose keys are text.

A value *is set* unless it is nothing, false, zero, empty text, an empty list or an
empty record; several settings are read that way.

Numbers of both kinds and truth values compare by their exact value, so `1`, `1.0` and
true are the same key, and so are `0.0` and `-0.0`.

Values are written back as literals the way messages show them: text in quotes, a
number of double precision by its shortest digits, lists in brackets and records in
braces with their keys quoted.

Records keep their keys in the order they were first written. Writing a key that is
already there changes its value in place, so laying one record over another keeps the
first one's order and appends only the new keys.

## Main statements

* `Record.set_lookup`: a key just written reads back the value written.
-/

namespace SearchPage

open SearchPage.Text

/-- A plain data value. -/
inductive Value where
  | null
  | bool (b : Bool)
  | int (n : Int)
  | float (x : Double)
  | str (s : String)
  | list (xs : List Value)
  | record (fields : List (String × Value))
  deriving Repr, Inhabited

/-- Records: fields in the order their keys were first written. -/
abbrev Record := List (String × Value)

namespace Value

/-- Whether a value is set: not nothing, false, zero, or empty. -/
def isSet : Value → Bool
  | .null => false
  | .bool b => b
  | .int n => n != 0
  | .float x => !x.isZero
  | .str s => !s.isEmpty
  | .list xs => !xs.isEmpty
  | .record fs => !fs.isEmpty

@[simp] theorem isSet_bool (b : Bool) : (Value.bool b).isSet = b := rfl

/-- A number or truth value as its place among all numbers (`Double.place`): a whole
number `n` stands at `(0, n · 2 ^ 1074)`, true at one and false at zero. -/
def place? : Value → Option (Int × Int)
  | .bool b => some (0, if b then Int.ofNat (Double.twoPow 1074) else 0)
  | .int n => some (0, n * Int.ofNat (Double.twoPow 1074))
  | .float x => some x.place
  | _ => none

/-- Whether one place is at most another, lexicographically. -/
def placeLe (a b : Int × Int) : Bool := a.1 < b.1 || (a.1 == b.1 && a.2 ≤ b.2)

/-- Whether two keys are the same: text by its characters, numbers and truth values by
their value, nothing with nothing. -/
def sameKey (a b : Value) : Bool :=
  match a, b with
  | .str x, .str y => x == y
  | .null, .null => true
  | _, _ => match a.place?, b.place? with
    | some p, some q => p == q
    | _, _ => false

/-- Whether a value may serve as a key: lists and records may not. -/
def isKey : Value → Bool
  | .list _ | .record _ => false
  | _ => true

mutual

/-- A value written as a literal: text in quotes, nothing as `None`, truth values as
`True` and `False`, lists and records with their members written the same way. -/
def literal : Value → String
  | .str s => quote s
  | .null => "None"
  | .bool true => "True"
  | .bool false => "False"
  | .int n => toString n
  | .float x => x.decimalText
  | .list xs => "[" ++ literals xs ++ "]"
  | .record fs => "\x7b" ++ fieldLiterals fs ++ "\x7d"

/-- Members of a list written as literals, separated by commas. -/
def literals : List Value → String
  | [] => ""
  | [x] => literal x
  | x :: xs => literal x ++ ", " ++ literals xs

/-- Fields of a record written as quoted keys and literal values, separated by commas. -/
def fieldLiterals : List (String × Value) → String
  | [] => ""
  | [(k, x)] => quote k ++ ": " ++ literal x
  | (k, x) :: fs => quote k ++ ": " ++ literal x ++ ", " ++ fieldLiterals fs

end

/-- A value as messages show it on its own: text as it is, anything else as a literal. -/
def plainText : Value → String
  | .str s => s
  | v => v.literal

/-- Text for a value that may be missing. -/
def ofText : Option String → Value
  | some s => .str s
  | none => .null

end Value

namespace Record

/-- Write a key: in place when it is there, at the end otherwise. -/
def set : Record → String → Value → Record
  | [], k, v => [(k, v)]
  | (k', v') :: rest, k, v => if k' == k then (k, v) :: rest else (k', v') :: set rest k v

/-- Lay `top` over `base`: every key of `top` written into `base` in turn. -/
def overlay (base top : Record) : Record :=
  top.foldl (fun r (k, v) => r.set k v) base

/-- The value stored under a key. -/
def get? (r : Record) (k : String) : Option Value := r.lookup k

theorem set_lookup (r : Record) (k : String) (v : Value) : (r.set k v).lookup k = some v := by
  induction r with
  | nil => simp [set]
  | cons p ps ih =>
    obtain ⟨k', v'⟩ := p
    by_cases hk : k' = k
    · subst hk; simp [set]
    · have hk' : (k == k') = false := by simp [Ne.symm hk]
      simp [set, hk, List.lookup_cons, hk', ih]

theorem set_nil (k : String) (v : Value) : set [] k v = [(k, v)] := rfl

theorem set_cons_self (k : String) (v' v : Value) (rest : Record) :
    set ((k, v') :: rest) k v = (k, v) :: rest := by
  simp [set]

theorem set_cons_of_ne {k' k : String} (h : k' ≠ k) (v' v : Value) (rest : Record) :
    set ((k', v') :: rest) k v = (k', v') :: set rest k v := by
  simp [set, h]

end Record

end SearchPage
