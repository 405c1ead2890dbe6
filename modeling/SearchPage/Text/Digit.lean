/-!
# Decimal digits

Unicode gives every script that writes numbers with its own ten signs a run of ten
consecutive code points, digit zero first (general category Nd). A pattern's digit class
accepts all of them, so a date written with full-width or Devanagari digits is still found,
while the counts of a page are read with the ten ASCII digits only.

The table lists the first code point of every run of ten, as of Unicode 14.

## Main statements

* `isDecimalDigit_of_isDigit`: every ASCII digit is a decimal digit.
-/

namespace SearchPage.Text

/-- The code point of digit zero of every run of ten decimal digits, in increasing order. -/
def decimalDigitZeros : List Nat := [
  0x30, 0x660, 0x6F0, 0x7C0, 0x966, 0x9E6, 0xA66, 0xAE6, 0xB66, 0xBE6, 0xC66, 0xCE6, 0xD66,
  0xDE6, 0xE50, 0xED0, 0xF20, 0x1040, 0x1090, 0x17E0, 0x1810, 0x1946, 0x19D0, 0x1A80,
  0x1A90, 0x1B50, 0x1BB0, 0x1C40, 0x1C50, 0xA620, 0xA8D0, 0xA900, 0xA9D0, 0xA9F0, 0xAA50,
  0xABF0, 0xFF10, 0x104A0, 0x10D30, 0x11066, 0x110F0, 0x11136, 0x111D0, 0x112F0, 0x11450,
  0x114D0, 0x11650, 0x116C0, 0x11730, 0x118E0, 0x11950, 0x11C50, 0x11D50, 0x11DA0,
  0x16A60, 0x16AC0, 0x16B50, 0x1D7CE, 0x1D7D8, 0x1D7E2, 0x1D7EC, 0x1D7F6, 0x1E140, 0x1E2F0,
  0x1E950, 0x1FBF0]

/-- Whether a character is a decimal digit of some script (general category Nd). -/
def isDecimalDigit (c : Char) : Bool :=
  decimalDigitZeros.any fun z => z ≤ c.toNat && c.toNat < z + 10

/-- Whether a character is one of the ten ASCII digits. -/
def isAsciiDigit (c : Char) : Bool :=
  '0' ≤ c && c ≤ '9'

/-- Whether a character is an ASCII letter. -/
def isAsciiLetter (c : Char) : Bool :=
  ('a' ≤ c && c ≤ 'z') || ('A' ≤ c && c ≤ 'Z')

/-- Whether a character is an ASCII letter or digit. -/
def isAsciiAlnum (c : Char) : Bool :=
  isAsciiLetter c || isAsciiDigit c

/-- Whether a character is a hexadecimal digit. -/
def isHexDigit (c : Char) : Bool :=
  isAsciiDigit c || ('a' ≤ c && c ≤ 'f') || ('A' ≤ c && c ≤ 'F')

/-- The value of a hexadecimal digit (zero for any other character). -/
def hexValue (c : Char) : Nat :=
  if isAsciiDigit c then c.toNat - '0'.toNat
  else if 'a' ≤ c && c ≤ 'f' then c.toNat - 'a'.toNat + 10
  else if 'A' ≤ c && c ≤ 'F' then c.toNat - 'A'.toNat + 10
  else 0

/-- The number written by ASCII digits in base ten. -/
def decimalValue (cs : List Char) : Nat :=
  cs.foldl (fun n c => n * 10 + (c.toNat - '0'.toNat)) 0

/-- Ten to the power `p`: the unit of the `p`-th decimal place, counted from the right. -/
def tenPow (p : Nat) : Nat := Nat.pow 10 p

/-- A whole number `m` moved `p` decimal places to the left: `m · 10 ^ p`. -/
def shiftDecimal (m : Int) (p : Nat) : Int := m * Int.ofNat (tenPow p)

/-- The number written by hexadecimal digits. -/
def hexNumberValue (cs : List Char) : Nat :=
  cs.foldl (fun n c => n * 16 + hexValue c) 0

/-- ASCII lower case: the letters A to Z become a to z, all else stays. -/
def asciiLower (c : Char) : Char :=
  if 'A' ≤ c && c ≤ 'Z' then Char.ofNat (c.toNat + 32) else c

/-- A text with its ASCII capitals made small. -/
def asciiLowerText (s : String) : String :=
  s.map asciiLower

theorem isDecimalDigit_of_isDigit {c : Char} (h : isAsciiDigit c = true) :
    isDecimalDigit c = true := by
  simp only [isAsciiDigit, Bool.and_eq_true, decide_eq_true_eq] at h
  simp only [isDecimalDigit, decimalDigitZeros, List.any_cons, Bool.or_eq_true,
    Bool.and_eq_true, decide_eq_true_eq]
  left
  obtain ⟨h0, h9⟩ := h
  have h0' : 48 ≤ c.toNat := h0
  have h9' : c.toNat ≤ 57 := h9
  omega

end SearchPage.Text
