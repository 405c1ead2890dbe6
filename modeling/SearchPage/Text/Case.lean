import Std.Data.HashMap
import SearchPage.Text.Digit
import SearchPage.Text.Unicode

/-!
# Letter case

Two notions of small letters are needed.

* *Folding* maps one character to one character by the simple case mapping of Unicode:
  every capital and title-case letter of the Latin, Greek, Cyrillic, Armenian, Georgian,
  Cherokee, Glagolitic, Coptic and Deseret alphabets, among others, has one small letter.
  Comparing without regard to case compares folded characters. A few small letters stand
  for the same letter as another small letter (`i` and dotless `ı`, `s` and long `ſ`,
  Greek `σ` and final `ς`, the symbol forms of Greek letters such as `ϐ` for `β`, and the
  tall forms of some Cyrillic letters); these *case mates* match each other too.
* *Lowering a text* is the full mapping: the capital `İ` becomes two characters (`i` and a
  combining dot), and a capital sigma at the end of a word becomes the final `ς`.

## Main statements

* `fold_asciiLower`: folding agrees with ASCII lower case on ASCII capitals.
* `lowerFrom_length_le`: lowering never shortens a text.
-/

namespace SearchPage.Text

/-- Whether `n` lies in `[lo, hi]` with the parity of `lo`: the capitals of alphabets that
alternate capital and small letter. -/
def inPairs (lo hi n : Nat) : Bool :=
  lo ≤ n && n ≤ hi && n % 2 == lo % 2

/-- The small letter of a code point in the Latin blocks beyond Latin-1. -/
def lowerLatinCode (n : Nat) : Nat :=
  if n == 0x130 then 0x69
  else if inPairs 0x100 0x12E n || inPairs 0x132 0x136 n || inPairs 0x139 0x147 n ||
      inPairs 0x14A 0x176 n || inPairs 0x179 0x17D n then n + 1
  else if n == 0x178 then 0xFF
  else if 0x180 ≤ n && n ≤ 0x24F then
    match n with
    | 0x181 => 0x253 | 0x186 => 0x254 | 0x189 => 0x256 | 0x18A => 0x257 | 0x18E => 0x1DD
    | 0x18F => 0x259 | 0x190 => 0x25B | 0x193 => 0x260 | 0x194 => 0x263 | 0x196 => 0x269
    | 0x197 => 0x268 | 0x19C => 0x26F | 0x19D => 0x272 | 0x19F => 0x275 | 0x1A6 => 0x280
    | 0x1A9 => 0x283 | 0x1AE => 0x288 | 0x1B1 => 0x28A | 0x1B2 => 0x28B | 0x1B7 => 0x292
    | 0x1C4 => 0x1C6 | 0x1C5 => 0x1C6 | 0x1C7 => 0x1C9 | 0x1C8 => 0x1C9 | 0x1CA => 0x1CC
    | 0x1CB => 0x1CC | 0x1F1 => 0x1F3 | 0x1F2 => 0x1F3 | 0x1F6 => 0x195 | 0x1F7 => 0x1BF
    | 0x220 => 0x19E | 0x23A => 0x2C65 | 0x23D => 0x19A | 0x23E => 0x2C66 | 0x243 => 0x180
    | 0x244 => 0x289 | 0x245 => 0x28C
    | _ =>
      if [0x182, 0x184, 0x187, 0x18B, 0x191, 0x198, 0x1A0, 0x1A2, 0x1A4, 0x1A7, 0x1AC, 0x1AF,
          0x1B3, 0x1B5, 0x1B8, 0x1BC, 0x1F4, 0x23B, 0x241].contains n ||
          inPairs 0x1CD 0x1DB n || inPairs 0x1DE 0x1EE n || inPairs 0x1F8 0x21E n ||
          inPairs 0x222 0x232 n || inPairs 0x246 0x24E n then n + 1
      else n
  else if inPairs 0x1E00 0x1E94 n || inPairs 0x1EA0 0x1EFE n then n + 1
  else if n == 0x1E9E then 0xDF
  else n

/-- The small letter of a code point in the Greek blocks. -/
def lowerGreekCode (n : Nat) : Nat :=
  if n == 0x370 || n == 0x372 || n == 0x376 || n == 0x3F7 || n == 0x3FA ||
      inPairs 0x3D8 0x3EE n then n + 1
  else if n == 0x37F then 0x3F3
  else if n == 0x386 then 0x3AC
  else if 0x388 ≤ n && n ≤ 0x38A then n + 37
  else if n == 0x38C then 0x3CC
  else if n == 0x38E || n == 0x38F then n + 63
  else if (0x391 ≤ n && n ≤ 0x3A1) || (0x3A3 ≤ n && n ≤ 0x3AB) then n + 32
  else if n == 0x3CF then 0x3D7
  else if n == 0x3F4 then 0x3B8
  else if n == 0x3F9 then 0x3F2
  else if 0x3FD ≤ n && n ≤ 0x3FF then n - 130
  else if 0x1F00 ≤ n && n ≤ 0x1FFF then
    let low := n % 16
    let row := n / 16
    if (row == 0x1F0 || row == 0x1F2 || row == 0x1F6 || row == 0x1F8 || row == 0x1F9 ||
        row == 0x1FA) && 8 ≤ low then n - 8
    else if (row == 0x1F1 || row == 0x1F4) && 8 ≤ low && low ≤ 0xD then n - 8
    else if row == 0x1F3 && 8 ≤ low then n - 8
    else if row == 0x1F5 && (low == 9 || low == 0xB || low == 0xD || low == 0xF) then n - 8
    else match n with
      | 0x1FB8 | 0x1FB9 | 0x1FD8 | 0x1FD9 | 0x1FE8 | 0x1FE9 => n - 8
      | 0x1FBA | 0x1FBB => n - 74
      | 0x1FBC => 0x1FB3
      | 0x1FC8 | 0x1FC9 | 0x1FCA | 0x1FCB => n - 86
      | 0x1FCC => 0x1FC3
      | 0x1FDA | 0x1FDB => n - 100
      | 0x1FEA | 0x1FEB => n - 112
      | 0x1FEC => 0x1FE5
      | 0x1FF8 | 0x1FF9 => n - 128
      | 0x1FFA | 0x1FFB => n - 126
      | 0x1FFC => 0x1FF3
      | _ => n
  else n

/-- The small letter of a code point in the Cyrillic, Armenian, Georgian and Cherokee
blocks. -/
def lowerCyrillicCode (n : Nat) : Nat :=
  if 0x400 ≤ n && n ≤ 0x40F then n + 80
  else if 0x410 ≤ n && n ≤ 0x42F then n + 32
  else if inPairs 0x460 0x480 n || inPairs 0x48A 0x4BE n || inPairs 0x4C1 0x4CD n ||
      inPairs 0x4D0 0x52E n then n + 1
  else if n == 0x4C0 then 0x4CF
  else if 0x531 ≤ n && n ≤ 0x556 then n + 48
  else if (0x10A0 ≤ n && n ≤ 0x10C5) || n == 0x10C7 || n == 0x10CD then n + 7264
  else if (0x1C90 ≤ n && n ≤ 0x1CBA) || (0x1CBD ≤ n && n ≤ 0x1CBF) then n - 3008
  else if 0x13A0 ≤ n && n ≤ 0x13EF then n + 38864
  else if 0x13F0 ≤ n && n ≤ 0x13F5 then n + 8
  else n

/-- The small letter of a code point in the letter-like, enclosed, Glagolitic, Coptic,
Latin Extended-C and -D, full-width and supplementary blocks. -/
def lowerOtherCode (n : Nat) : Nat :=
  match n with
  | 0x2126 => 0x3C9 | 0x212A => 0x6B | 0x212B => 0xE5 | 0x2132 => 0x214E | 0x2183 => 0x2184
  | 0x2C60 => 0x2C61 | 0x2C62 => 0x26B | 0x2C63 => 0x1D7D | 0x2C64 => 0x27D
  | 0x2C6D => 0x251 | 0x2C6E => 0x271 | 0x2C6F => 0x250 | 0x2C70 => 0x252
  | 0x2C72 => 0x2C73 | 0x2C75 => 0x2C76 | 0x2C7E => 0x23F | 0x2C7F => 0x240
  | 0x2CEB => 0x2CEC | 0x2CED => 0x2CEE | 0x2CF2 => 0x2CF3
  | 0xA77D => 0x1D79 | 0xA78B => 0xA78C | 0xA78D => 0x265 | 0xA7AA => 0x266
  | 0xA7AB => 0x25C | 0xA7AC => 0x261 | 0xA7AD => 0x26C | 0xA7AE => 0x26A
  | 0xA7B0 => 0x29E | 0xA7B1 => 0x287 | 0xA7B2 => 0x29D | 0xA7B3 => 0xAB53
  | 0xA7C4 => 0xA794 | 0xA7C5 => 0x282 | 0xA7C6 => 0x1D8E | 0xA7C7 => 0xA7C8
  | 0xA7C9 => 0xA7CA | 0xA7D0 => 0xA7D1 | 0xA7D6 => 0xA7D7 | 0xA7D8 => 0xA7D9
  | 0xA7F5 => 0xA7F6
  | _ =>
    if 0x2160 ≤ n && n ≤ 0x216F then n + 16
    else if 0x24B6 ≤ n && n ≤ 0x24CF then n + 26
    else if 0x2C00 ≤ n && n ≤ 0x2C2F then n + 48
    else if inPairs 0x2C67 0x2C6B n || inPairs 0x2C80 0x2CE2 n || inPairs 0xA640 0xA66C n ||
        inPairs 0xA680 0xA69A n || inPairs 0xA722 0xA72E n || inPairs 0xA732 0xA76E n ||
        n == 0xA779 || n == 0xA77B || inPairs 0xA77E 0xA786 n || inPairs 0xA790 0xA792 n ||
        inPairs 0xA796 0xA7A8 n || inPairs 0xA7B4 0xA7C2 n then n + 1
    else if 0xFF21 ≤ n && n ≤ 0xFF3A then n + 32
    else if 0x10400 ≤ n && n ≤ 0x10427 then n + 40
    else if 0x104B0 ≤ n && n ≤ 0x104D3 then n + 40
    else if (0x10570 ≤ n && n ≤ 0x1057A) || (0x1057C ≤ n && n ≤ 0x1058A) ||
        (0x1058C ≤ n && n ≤ 0x10592) || n == 0x10594 || n == 0x10595 then n + 39
    else if 0x10C80 ≤ n && n ≤ 0x10CB2 then n + 64
    else if 0x118A0 ≤ n && n ≤ 0x118BF then n + 32
    else if 0x16E40 ≤ n && n ≤ 0x16E5F then n + 32
    else if 0x1E900 ≤ n && n ≤ 0x1E921 then n + 34
    else n

/-- The small letter of a code point by the simple case mapping; a code point without one
is its own. -/
def lowerCode (n : Nat) : Nat :=
  if 0x41 ≤ n && n ≤ 0x5A then n + 32
  else if n < 0xC0 then n
  else if n ≤ 0xDE then (if n == 0xD7 then n else n + 32)
  else if n < 0x100 then n
  else if n < 0x370 || (0x1E00 ≤ n && n ≤ 0x1EFF) then lowerLatinCode n
  else if n < 0x400 || (0x1F00 ≤ n && n ≤ 0x1FFF) then lowerGreekCode n
  else if n < 0x1400 || (0x1C90 ≤ n && n ≤ 0x1CBF) then lowerCyrillicCode n
  else lowerOtherCode n

/-- A character folded to its small letter. -/
def fold (c : Char) : Char := Char.ofNat (lowerCode c.toNat)

/-- The case mates of the small letters that have any: the other small letters that stand
for the same letter. -/
def caseMateTable : List (Nat × List Nat) :=
  [(0x69, [0x131]), (0x73, [0x17F]), (0xB5, [0x3BC]), (0x131, [0x69]), (0x17F, [0x73]),
   (0x345, [0x3B9, 0x1FBE]), (0x390, [0x1FD3]), (0x3B0, [0x1FE3]), (0x3B2, [0x3D0]),
   (0x3B5, [0x3F5]), (0x3B8, [0x3D1]), (0x3B9, [0x345, 0x1FBE]), (0x3BA, [0x3F0]),
   (0x3BC, [0xB5]), (0x3C0, [0x3D6]), (0x3C1, [0x3F1]), (0x3C2, [0x3C3]), (0x3C3, [0x3C2]),
   (0x3C6, [0x3D5]), (0x3D0, [0x3B2]), (0x3D1, [0x3B8]), (0x3D5, [0x3C6]), (0x3D6, [0x3C0]),
   (0x3F0, [0x3BA]), (0x3F1, [0x3C1]), (0x3F5, [0x3B5]), (0x432, [0x1C80]), (0x434, [0x1C81]),
   (0x43E, [0x1C82]), (0x441, [0x1C83]), (0x442, [0x1C84, 0x1C85]), (0x44A, [0x1C86]),
   (0x463, [0x1C87]), (0x1C80, [0x432]), (0x1C81, [0x434]), (0x1C82, [0x43E]),
   (0x1C83, [0x441]), (0x1C84, [0x442, 0x1C85]), (0x1C85, [0x442, 0x1C84]), (0x1C86, [0x44A]),
   (0x1C87, [0x463]), (0x1C88, [0xA64B]), (0x1E61, [0x1E9B]), (0x1E9B, [0x1E61]),
   (0x1FBE, [0x345, 0x3B9]), (0x1FD3, [0x390]), (0x1FE3, [0x3B0]), (0xA64B, [0x1C88]),
   (0xFB05, [0xFB06]), (0xFB06, [0xFB05])]

/-- The case mates of a small letter. -/
def caseMates (c : Char) : List Char :=
  ((caseMateTable.lookup c.toNat).getD []).map Char.ofNat

/-- Whether a caseless pattern treats a character as having case: it differs from its
small letter or from its capital. -/
def hasCase (c : Char) : Bool :=
  matchCasedRanges.holds c

/-- Whether the text character `c` matches the pattern character `pat` when case is
ignored: a pattern character without case only matches itself; otherwise the folded text
character must be the folded pattern character or one of its case mates. -/
def sameIgnoringCase (pat c : Char) : Bool :=
  if hasCase pat then fold c == fold pat || (caseMates (fold pat)).contains (fold c)
  else c == pat

/-- For every small letter, the other code points that fold to it. -/
def foldedFrom : Std.HashMap Nat (List Nat) :=
  (List.range 0x20000).foldl (fun m n =>
    let l := lowerCode n
    if l == n then m else m.insert l (n :: (m.getD l []))) {}

/-- The capital of a code point by the simple case mapping, or the first character of its
full capital where that is longer. -/
def capitalCode (n : Nat) : Nat := capitalShifts.apply n

/-- Whether some code point of `[lo, hi]` folds to `m`. -/
def foldsInto (m lo hi : Nat) : Bool :=
  (lo ≤ m && m ≤ hi && lowerCode m == m) ||
    (foldedFrom.getD m []).any fun n => lo ≤ n && n ≤ hi

/-- Whether two texts are equal, letters compared with or without regard to case. -/
def sameText (caseless : Bool) (a b : List Char) : Bool :=
  if caseless then a.length == b.length && (a.zip b).all fun (x, y) => sameIgnoringCase y x
  else a == b

/-- Whether `needle` occurs in `hay` as a run of consecutive characters. The empty text
occurs everywhere. -/
def occursIn (needle : List Char) : List Char → Bool
  | [] => needle.isEmpty
  | c :: cs => needle.isPrefixOf (c :: cs) || occursIn needle cs

/-- Whether the capital sigma between `before` (nearest first) and `after` ends a word: a
cased letter precedes it and none follows it, case-ignorable characters skipped. -/
def endsWord (before after : List Char) : Bool :=
  let prev := before.find? fun c => !caseIgnorableRanges.holds c
  let next := after.find? fun c => !caseIgnorableRanges.holds c
  (prev.elim false fun c => casedRanges.holds c) && (next.elim true fun c => !casedRanges.holds c)

/-- Lower the characters `cs`, `before` holding those already passed, nearest first. -/
def lowerFrom (before : List Char) : List Char → List Char
  | [] => []
  | c :: rest =>
    let low :=
      if c == 'İ' then ['i', '\u0307']
      else if c == 'Σ' then [if endsWord before rest then 'ς' else 'σ']
      else [fold c]
    low ++ lowerFrom (c :: before) rest

/-- A text in small letters by the full case mapping. -/
def lowerText (s : String) : String :=
  String.ofList (lowerFrom [] s.toList)

theorem occursIn_nil (hay : List Char) : occursIn [] hay = true := by
  cases hay <;> simp [occursIn]

theorem fold_asciiLower (c : Char) (h : 'A' ≤ c ∧ c ≤ 'Z') : fold c = asciiLower c := by
  obtain ⟨h1, h2⟩ := h
  have h1' : 65 ≤ c.toNat := h1
  have h2' : c.toNat ≤ 90 := h2
  have hA : ('A' ≤ c && c ≤ 'Z') = true := by simp [h1, h2]
  have hr : (decide (0x41 ≤ c.toNat) && decide (c.toNat ≤ 0x5A)) = true := by
    simp only [Bool.and_eq_true, decide_eq_true_eq]; omega
  simp only [fold, asciiLower, hA, if_true, lowerCode, hr]

theorem lowerFrom_length_le (before cs : List Char) : cs.length ≤ (lowerFrom before cs).length := by
  induction cs generalizing before with
  | nil => simp [lowerFrom]
  | cons c rest ih =>
    have := ih (c :: before)
    simp only [lowerFrom, List.length_append, List.length_cons]
    split <;> (try split) <;> simp <;> omega

end SearchPage.Text
