import SearchPage.Proofs.PlainPatterns
import SearchPage.Config.Settings

/-!
# Publish dates

The date of a search result is the leftmost match of the date pattern in the lead of its
description. The pattern reads a relative date, "one or two digits, a blank, a unit and
` ago`", or a calendar date, "a capital and two small letters, a blank, one or two digits, a
comma, a blank and four digits". A digit is any decimal digit of Unicode, a letter an ASCII
one.

The compiled pattern is plain (see `PlainPatterns`), so the matcher's answer is the first end,
in its order of trying, of a date-shaped text from the leftmost place where one starts. There
is no choice to be made at any place: the blank or comma after a run of one or two digits
fixes the run, the unit is fixed by the letters before ` ago`, and a relative date starts with
a digit where a calendar date starts with a capital. So the greedy, backtracking search finds
exactly the date-shaped text that starts leftmost, even when a longer run of digits holds a
date only from its second digit on ("123 days ago" gives "23 days ago").

## Main statements

* `compile_defaultDatePattern`: the compiled date pattern.
* `matches_dateRoot_iff`: the texts it matches are the date-shaped ones.
* `DateShaped.prefix_eq`: at most one date starts at any place.
* `dateIn_leftmost_date`: the date read from a description's lead.
-/

namespace SearchPage

open Pattern Text

/-! ## Date-shaped texts -/

/-- The units a relative date may name, in the order the pattern tries them. -/
def dateUnits : List String :=
  ["minute", "minutes", "day", "days", "hour", "hours", "min", "mins"]

/-- Texts written as publish dates: one or two decimal digits, a blank, a unit and ` ago`
("3 days ago"); or a capital and two small ASCII letters, a blank, one or two decimal digits,
a comma and a blank, and four decimal digits ("Mar 4, 2020"). -/
inductive DateShaped : List Char → Prop
  | ago {ds : List Char} {unit : String} (hLen : ds.length = 1 ∨ ds.length = 2)
      (hDigits : ∀ d ∈ ds, isDigitChar false d = true) (hUnit : unit ∈ dateUnits) :
      DateShaped (ds ++ ' ' :: (unit.toList ++ " ago".toList))
  | calendar {a b c : Char} {ds ys : List Char} (ha : 'A' ≤ a ∧ a ≤ 'Z')
      (hb : 'a' ≤ b ∧ b ≤ 'z') (hc : 'a' ≤ c ∧ c ≤ 'z') (hLen : ds.length = 1 ∨ ds.length = 2)
      (hDigits : ∀ d ∈ ds, isDigitChar false d = true) (hYear : ys.length = 4)
      (hYearDigits : ∀ d ∈ ys, isDigitChar false d = true) :
      DateShaped (a :: b :: c :: ' ' :: (ds ++ ',' :: ' ' :: ys))

/-! ## Digits -/

/-- Every decimal digit but the ASCII ones lies at `0x660` or beyond. -/
theorem decimalRanges_low :
    ∀ r ∈ decimalRanges.ranges.toList, r = (0x30, 0x39) ∨ 0x660 ≤ r.1 := by
  decide +kernel

theorem isDigitChar_eq_false {c : Char} (h : c.toNat < 0x30 ∨ (0x39 < c.toNat ∧ c.toNat < 0x660)) :
    isDigitChar false c = false := by
  cases hd : isDigitChar false c with
  | false => rfl
  | true =>
    -- rewritten rather than converted, so that the kernel does not read the table here
    simp only [isDigitChar, Bool.false_eq_true, if_false, RangeTable.holds,
      RangeTable.contains] at hd
    obtain ⟨r, hr, hlo, hhi⟩ := RangeTable.search_sound hd
    rcases decimalRanges_low r hr with rfl | hr1
    · simp only at hlo hhi
      omega
    · omega

theorem toNat_of_capital {a : Char} (h : 'A' ≤ a ∧ a ≤ 'Z') : 65 ≤ a.toNat ∧ a.toNat ≤ 90 := by
  obtain ⟨h1, h2⟩ := h
  rw [Char.le_def, UInt32.le_iff_toNat_le] at h1 h2
  exact ⟨h1, h2⟩

theorem isDigitChar_blank : isDigitChar false ' ' = false := isDigitChar_eq_false (by decide)

theorem isDigitChar_comma : isDigitChar false ',' = false := isDigitChar_eq_false (by decide)

theorem isDigitChar_capital {a : Char} (h : 'A' ≤ a ∧ a ≤ 'Z') : isDigitChar false a = false := by
  have := toNat_of_capital h
  exact isDigitChar_eq_false (by omega)

/-! ## One date at each place -/

/-- A run of digits ended by a character that is not a digit is a prefix of another such
run only when the two runs are the same. -/
theorem digits_prefix_eq {ds ds' r r' : List Char} {b b' : Char}
    (hds : ∀ d ∈ ds, isDigitChar false d = true) (hds' : ∀ d ∈ ds', isDigitChar false d = true)
    (hb : isDigitChar false b = false) (hb' : isDigitChar false b' = false)
    (hp : ds ++ b :: r <+: ds' ++ b' :: r') : ds = ds' ∧ b :: r <+: b' :: r' := by
  induction ds generalizing ds' with
  | nil =>
    cases ds' with
    | nil => exact ⟨rfl, hp⟩
    | cons d ds' =>
      rw [List.nil_append, List.cons_append, List.cons_prefix_cons] at hp
      have := hds' d List.mem_cons_self
      rw [← hp.1, hb] at this
      cases this
  | cons d ds ih =>
    cases ds' with
    | nil =>
      rw [List.nil_append, List.cons_append, List.cons_prefix_cons] at hp
      have := hds d List.mem_cons_self
      rw [hp.1, hb'] at this
      cases this
    | cons d' ds' =>
      rw [List.cons_append, List.cons_append, List.cons_prefix_cons] at hp
      obtain ⟨rfl, hRest⟩ := hp
      obtain ⟨rfl, hTail⟩ := ih (fun x hx => hds x (List.mem_cons_of_mem _ hx))
        (fun x hx => hds' x (List.mem_cons_of_mem _ hx)) hRest
      exact ⟨rfl, hTail⟩

/-- A unit followed by ` ago` is a prefix of another only when the units are the same. -/
theorem unit_ago_prefix_eq : ∀ u ∈ dateUnits, ∀ u' ∈ dateUnits,
    u.toList ++ " ago".toList <+: u'.toList ++ " ago".toList → u = u' := by
  decide

theorem exists_cons_of_length {ds : List Char} (h : ds.length = 1 ∨ ds.length = 2) :
    ∃ d rest, ds = d :: rest := by
  cases ds with
  | nil => simp at h
  | cons d rest => exact ⟨d, rest, rfl⟩

/-- A date-shaped text is a prefix of another only when the two are the same: the runs of
digits are fixed by what ends them, the unit by ` ago`, and the first character tells a
relative date from a calendar one. -/
theorem DateShaped.prefix_eq {d d' : List Char} (h : DateShaped d) (h' : DateShaped d')
    (hp : d <+: d') : d = d' := by
  cases h with
  | @ago ds unit hLen hDigits hUnit =>
    cases h' with
    | @ago ds' unit' hLen' hDigits' hUnit' =>
      obtain ⟨rfl, hRest⟩ := digits_prefix_eq hDigits hDigits' isDigitChar_blank isDigitChar_blank hp
      rw [List.cons_prefix_cons] at hRest
      rw [unit_ago_prefix_eq unit hUnit unit' hUnit' hRest.2]
    | @calendar a b c ds' ys ha hb hc hLen' hDigits' hYear hYearDigits =>
      -- a relative date starts with a digit, a calendar date with a capital
      obtain ⟨d0, rest, rfl⟩ := exists_cons_of_length hLen
      rw [List.cons_append, List.cons_prefix_cons] at hp
      have := hDigits d0 List.mem_cons_self
      rw [hp.1, isDigitChar_capital ha] at this
      cases this
  | @calendar a b c ds ys ha hb hc hLen hDigits hYear hYearDigits =>
    cases h' with
    | @ago ds' unit' hLen' hDigits' hUnit' =>
      obtain ⟨d0, rest, rfl⟩ := exists_cons_of_length hLen'
      rw [List.cons_append, List.cons_prefix_cons] at hp
      have := hDigits' d0 List.mem_cons_self
      rw [← hp.1, isDigitChar_capital ha] at this
      cases this
    | @calendar a' b' c' ds' ys' ha' hb' hc' hLen' hDigits' hYear' hYearDigits' =>
      simp only [List.cons_prefix_cons] at hp
      obtain ⟨rfl, rfl, rfl, -, hRest⟩ := hp
      obtain ⟨rfl, hYears⟩ := digits_prefix_eq hDigits hDigits' isDigitChar_comma isDigitChar_comma hRest
      simp only [List.cons_prefix_cons, true_and] at hYears
      rw [hYears.eq_of_length (by rw [hYear, hYear'])]

/-- Two date-shaped texts that start at the same place are the same. -/
theorem DateShaped.eq_of_prefixes {d d' l : List Char} (h : DateShaped d) (h' : DateShaped d')
    (hp : d <+: l) (hp' : d' <+: l) : d = d' := by
  rcases List.prefix_or_prefix_of_prefix hp hp' with hdd | hdd
  · exact h.prefix_eq h' hdd
  · exact (h'.prefix_eq h hdd).symm

namespace Pattern

/-! ## The compiled pattern -/

/-- Characters compared exactly, one piece each. -/
def literalPieces (cs : List Char) : List Node := cs.map fun c => .char c .exact

/-- A unit: its stem, and an `s` or not. -/
def unitPiece (stem : String) : Node :=
  .seq (literalPieces stem.toList ++ [.loop (.char 's' .exact) 0 (some 1) true])

/-- The units of a relative date, in a plain group. -/
def unitsPiece : Node :=
  .group none (.alt [unitPiece "minute", unitPiece "day", unitPiece "hour", unitPiece "min"])

/-- Between `lo` and `hi` decimal digits. -/
def digitsPiece (lo hi : Nat) : Node := .loop (.category .digit false false) lo (some hi) true

/-- A relative date. -/
def agoPiece : Node :=
  .seq (digitsPiece 1 2 :: .char ' ' .exact :: unitsPiece :: literalPieces " ago".toList)

/-- A calendar date. -/
def calendarPiece : Node :=
  .seq [.charClass false [.range 'A' 'Z'] .exact false,
    .loop (.charClass false [.range 'a' 'z'] .exact false) 2 (some 2) true,
    .char ' ' .exact, digitsPiece 1 2, .char ',' .exact, .char ' ' .exact, digitsPiece 4 4]

/-- The date pattern as it is compiled. -/
def dateRoot : Node := .alt [agoPiece, calendarPiece]

/-- The date pattern compiles to its two branches, with no groups and no start test. -/
theorem compile_defaultDatePattern :
    compile defaultDatePattern = .ok { root := dateRoot, groups := 0, start := none } := by
  rfl

theorem dateRoot_plain : plainWithin 32 dateRoot = true := by decide

/-! ## The texts the pattern matches -/

@[simp] theorem holds_char (c d : Char) : (Node.char c .exact).holds d = (c == d) := rfl

@[simp] theorem holds_digit (d : Char) :
    (Node.category .digit false false).holds d = isDigitChar false d := by
  show (Category.holds false .digit d != false) = _
  simp [Category.holds]

@[simp] theorem holds_range (lo hi d : Char) :
    (Node.charClass false [.range lo hi] .exact false).holds d = (lo ≤ d && d ≤ hi) := by
  show (inClass [.range lo hi] .exact false d != false) = _
  simp [inClass, ClassItem.holds]

theorem matches_char {c : Char} {w : List Char} : (Node.char c .exact).Matches w ↔ w = [c] := by
  show (∃ d, w = [d] ∧ (Node.char c .exact).holds d = true) ↔ _
  simp only [holds_char, beq_iff_eq]
  constructor
  · rintro ⟨d, rfl, rfl⟩
    rfl
  · rintro rfl
    exact ⟨c, rfl, rfl⟩

theorem matches_digitsPiece {lo hi : Nat} {w : List Char} :
    (digitsPiece lo hi).Matches w ↔
      lo ≤ w.length ∧ w.length ≤ hi ∧ ∀ d ∈ w, isDigitChar false d = true := by
  show lo ≤ w.length ∧ (some hi).all (w.length ≤ ·) ∧
    (∀ d ∈ w, (Node.category .digit false false).holds d = true) ↔ _
  simp

theorem seqMatches_append {ns ms : List Node} {w : List Char} :
    Node.SeqMatches (ns ++ ms) w ↔
      ∃ u v, w = u ++ v ∧ Node.SeqMatches ns u ∧ Node.SeqMatches ms v := by
  induction ns generalizing w with
  | nil =>
    show Node.SeqMatches ms w ↔ ∃ u v, w = u ++ v ∧ u = [] ∧ Node.SeqMatches ms v
    constructor
    · intro h
      exact ⟨[], w, rfl, rfl, h⟩
    · rintro ⟨u, v, rfl, rfl, h⟩
      exact h
  | cons n ns ih =>
    simp only [List.cons_append, Node.SeqMatches, ih]
    constructor
    · rintro ⟨u, v, rfl, hu, u', v', rfl, hu', hv'⟩
      exact ⟨u ++ u', v', by simp, ⟨u, u', rfl, hu, hu'⟩, hv'⟩
    · rintro ⟨uu, v, rfl, ⟨u, u', rfl, hu, hu'⟩, hv⟩
      exact ⟨u, u' ++ v, by simp, hu, u', v, rfl, hu', hv⟩

theorem seqMatches_literal (cs : List Char) {w : List Char} :
    Node.SeqMatches (literalPieces cs) w ↔ w = cs := by
  induction cs generalizing w with
  | nil => exact Iff.rfl
  | cons c cs ih =>
    show (∃ u v, w = u ++ v ∧ (Node.char c .exact).Matches u ∧
      Node.SeqMatches (literalPieces cs) v) ↔ _
    simp only [matches_char, ih]
    constructor
    · rintro ⟨u, v, rfl, rfl, rfl⟩
      rfl
    · rintro rfl
      exact ⟨[c], cs, rfl, rfl, rfl⟩

theorem matches_unitPiece (stem : String) {w : List Char} :
    (unitPiece stem).Matches w ↔ w = stem.toList ∨ w = stem.toList ++ ['s'] := by
  show Node.SeqMatches (literalPieces stem.toList ++ [.loop (.char 's' .exact) 0 (some 1) true]) w ↔ _
  rw [seqMatches_append]
  simp only [seqMatches_literal]
  constructor
  · rintro ⟨u, v, rfl, rfl, v', v'', rfl, ⟨-, hLen, hAll⟩, rfl⟩
    -- at most one round, of an `s`
    match v', hLen, hAll with
    | [], _, _ => simp
    | [x], _, hAll =>
      have : 's' = x := by simpa using hAll x List.mem_cons_self
      exact .inr (by rw [← this, List.append_nil])
    | _ :: _ :: _, hLen, _ => simp at hLen
  · rintro (rfl | rfl)
    · exact ⟨stem.toList, [], by simp, rfl, [], [], rfl, ⟨by simp, by simp, by simp⟩, rfl⟩
    · exact ⟨stem.toList, ['s'], rfl, rfl, ['s'], [], rfl, ⟨by simp, by simp, by simp⟩, rfl⟩

theorem matches_unitsPiece {w : List Char} :
    unitsPiece.Matches w ↔ ∃ unit ∈ dateUnits, w = unit.toList := by
  show Node.AltMatches [unitPiece "minute", unitPiece "day", unitPiece "hour", unitPiece "min"] w ↔ _
  have h1 : "minutes".toList = "minute".toList ++ ['s'] := by decide
  have h2 : "days".toList = "day".toList ++ ['s'] := by decide
  have h3 : "hours".toList = "hour".toList ++ ['s'] := by decide
  have h4 : "mins".toList = "min".toList ++ ['s'] := by decide
  simp only [Node.AltMatches, matches_unitPiece, or_false, dateUnits, List.mem_cons,
    List.not_mem_nil, exists_eq_or_imp, exists_eq_left, h1, h2, h3, h4, or_assoc]

theorem matches_agoPiece {w : List Char} :
    agoPiece.Matches w ↔ ∃ ds unit, (ds.length = 1 ∨ ds.length = 2) ∧
      (∀ d ∈ ds, isDigitChar false d = true) ∧ unit ∈ dateUnits ∧
      w = ds ++ ' ' :: (unit.toList ++ " ago".toList) := by
  show (∃ u v, w = u ++ v ∧ (digitsPiece 1 2).Matches u ∧
    ∃ u' v', v = u' ++ v' ∧ (Node.char ' ' .exact).Matches u' ∧
      ∃ u'' v'', v' = u'' ++ v'' ∧ unitsPiece.Matches u'' ∧
        Node.SeqMatches (literalPieces " ago".toList) v'') ↔ _
  simp only [matches_digitsPiece, matches_char, matches_unitsPiece, seqMatches_literal]
  constructor
  · rintro ⟨ds, _, rfl, ⟨h1, h2, hDigits⟩, _, _, rfl, rfl, _, _, rfl, ⟨unit, hUnit, rfl⟩, rfl⟩
    exact ⟨ds, unit, by omega, hDigits, hUnit, by simp⟩
  · rintro ⟨ds, unit, hLen, hDigits, hUnit, rfl⟩
    exact ⟨ds, _, rfl, ⟨by omega, by omega, hDigits⟩, [' '], _, rfl, rfl, unit.toList, _, rfl,
      ⟨unit, hUnit, rfl⟩, rfl⟩

theorem matches_calendarPiece {w : List Char} :
    calendarPiece.Matches w ↔ ∃ a b c ds ys, ('A' ≤ a ∧ a ≤ 'Z') ∧ ('a' ≤ b ∧ b ≤ 'z') ∧
      ('a' ≤ c ∧ c ≤ 'z') ∧ (ds.length = 1 ∨ ds.length = 2) ∧
      (∀ d ∈ ds, isDigitChar false d = true) ∧ ys.length = 4 ∧
      (∀ d ∈ ys, isDigitChar false d = true) ∧ w = a :: b :: c :: ' ' :: (ds ++ ',' :: ' ' :: ys) := by
  show (∃ u v, w = u ++ v ∧ (Node.charClass false [.range 'A' 'Z'] .exact false).Matches u ∧
    ∃ u₂ v₂, v = u₂ ++ v₂ ∧
      (Node.loop (.charClass false [.range 'a' 'z'] .exact false) 2 (some 2) true).Matches u₂ ∧
    ∃ u₃ v₃, v₂ = u₃ ++ v₃ ∧ (Node.char ' ' .exact).Matches u₃ ∧
    ∃ u₄ v₄, v₃ = u₄ ++ v₄ ∧ (digitsPiece 1 2).Matches u₄ ∧
    ∃ u₅ v₅, v₄ = u₅ ++ v₅ ∧ (Node.char ',' .exact).Matches u₅ ∧
    ∃ u₆ v₆, v₅ = u₆ ++ v₆ ∧ (Node.char ' ' .exact).Matches u₆ ∧
    ∃ u₇ v₇, v₆ = u₇ ++ v₇ ∧ (digitsPiece 4 4).Matches u₇ ∧ v₇ = []) ↔ _
  simp only [matches_digitsPiece, matches_char]
  constructor
  · rintro ⟨_, _, rfl, ⟨a, rfl, ha⟩, lower, _, rfl, ⟨h2, h2', hLower⟩, _, _, rfl, rfl, ds, _, rfl,
      ⟨hd1, hd2, hDigits⟩, _, _, rfl, rfl, _, _, rfl, rfl, ys, _, rfl, ⟨hy1, hy2, hYears⟩, rfl⟩
    -- the two small letters
    match lower, h2, h2', hLower with
    | [b, c], _, _, hLower =>
      have hb := hLower b (by simp)
      have hc := hLower c (by simp)
      simp only [holds_range, Bool.and_eq_true, decide_eq_true_eq] at ha hb hc
      exact ⟨a, b, c, ds, ys, ha, hb, hc, by omega, hDigits, by omega, hYears, by simp⟩
  · rintro ⟨a, b, c, ds, ys, ha, hb, hc, hLen, hDigits, hYear, hYearDigits, rfl⟩
    refine ⟨[a], _, rfl, ⟨a, rfl, by simpa using ha⟩, [b, c], _, rfl,
      ⟨by simp, by simp, ?_⟩, [' '], _, rfl, rfl, ds, _, rfl, ⟨by omega, by omega, hDigits⟩,
      [','], _, rfl, rfl, [' '], _, rfl, rfl, ys, [], by simp, ⟨by omega, by omega, hYearDigits⟩,
      rfl⟩
    intro x hx
    simp only [List.mem_cons, List.not_mem_nil, or_false] at hx
    rcases hx with rfl | rfl
    · simpa using hb
    · simpa using hc

/-- The texts the compiled date pattern matches are the date-shaped ones. -/
theorem matches_dateRoot_iff {w : List Char} : dateRoot.Matches w ↔ DateShaped w := by
  show Node.AltMatches [agoPiece, calendarPiece] w ↔ _
  simp only [Node.AltMatches, or_false, matches_agoPiece, matches_calendarPiece]
  constructor
  · rintro (⟨ds, unit, hLen, hDigits, hUnit, rfl⟩ |
      ⟨a, b, c, ds, ys, ha, hb, hc, hLen, hDigits, hYear, hYearDigits, rfl⟩)
    · exact .ago hLen hDigits hUnit
    · exact .calendar ha hb hc hLen hDigits hYear hYearDigits
  · intro h
    cases h with
    | @ago ds unit hLen hDigits hUnit => exact .inl ⟨ds, unit, hLen, hDigits, hUnit, rfl⟩
    | @calendar a b c ds ys ha hb hc hLen hDigits hYear hYearDigits =>
      exact .inr ⟨a, b, c, ds, ys, ha, hb, hc, hLen, hDigits, hYear, hYearDigits, rfl⟩

/-! ## Where the matcher ends -/

section Ends

variable {s : Src}

/-- The matcher's ends for the date pattern from `a` are the ends of the dates there. -/
theorem mem_ends_dateRoot {a j : Nat} :
    j ∈ ends s dateRoot a ↔ ∃ d, DateShaped d ∧ d <+: s.toList.drop a ∧ j = a + d.length := by
  rw [mem_ends_iff 32 dateRoot dateRoot_plain a j]
  simp only [matches_dateRoot_iff]

/-- Where a date starts, the matcher's first end is that date's end. -/
theorem head?_ends_dateRoot {a : Nat} {d : List Char} (hd : DateShaped d)
    (hp : d <+: s.toList.drop a) : (ends s dateRoot a).head? = some (a + d.length) := by
  have hMem : a + d.length ∈ ends s dateRoot a := mem_ends_dateRoot.mpr ⟨d, hd, hp, rfl⟩
  cases hEnds : ends s dateRoot a with
  | nil =>
    rw [hEnds] at hMem
    cases hMem
  | cons j rest =>
    have hj : j ∈ ends s dateRoot a := by
      rw [hEnds]
      exact List.mem_cons_self
    obtain ⟨d', hd', hp', rfl⟩ := mem_ends_dateRoot.mp hj
    rw [hd'.eq_of_prefixes hd hp' hp]
    rfl

end Ends

end Pattern

/-! ## The date of a description -/

/-- A text splits around a part that starts at `a` and is a prefix of what follows. -/
theorem eq_take_append_drop {l d : List Char} {a : Nat} (h : d <+: l.drop a) :
    l = l.take a ++ d ++ l.drop (a + d.length) := by
  obtain ⟨rest, hRest⟩ := h
  have hTail : l.drop (a + d.length) = rest := by
    rw [← List.drop_drop, ← hRest, List.drop_left]
  rw [hTail, List.append_assoc, hRest, List.take_append_drop]

/-- A part of a text starts where the text before it ends. -/
theorem prefix_drop_of_split {l pre d post : List Char} (h : l = pre ++ d ++ post) :
    d <+: l.drop pre.length := by
  rw [h, List.append_assoc, List.drop_left]
  exact List.prefix_append d post

/-- The date the default settings read from a text: the text between the first start with
an end of the compiled pattern and that end. -/
theorem dateIn_eq_search (t : String) :
    ({} : ResultSettings).dateIn (.str t) =
      .ok (Value.ofText (((List.range' 0 (t.toList.length + 1)).findSome? fun a =>
        (ends t.toList.toArray dateRoot a).head?.map fun j => (a, j)).map
          fun p => String.ofList (t.toList.toArray.extract p.1 p.2).toList)) := by
  have hFuel : 32 ≤ fuelFor t.toList.length (patternSize defaultDatePattern) := by
    show 8 * 2 * 2 ≤ 8 * (t.toList.length + 2) * (patternSize defaultDatePattern + 2)
    exact Nat.mul_le_mul (Nat.mul_le_mul_left 8 (by omega)) (by omega)
  rw [← search_plain { root := dateRoot, groups := 0, start := none }
    (patternSize defaultDatePattern) t rfl (plainWithin_mono dateRoot_plain hFuel)]
  simp only [ResultSettings.dateIn, searchText, compile_defaultDatePattern]
  rfl

/-- The date the default settings read from a value: nothing from a value that is not text or
from a text with no date-shaped part, and otherwise the date-shaped part that starts leftmost;
at each place of a text at most one date-shaped part starts. -/
theorem dateIn_leftmost_date :
    (∀ v : Value, (∀ s, v ≠ .str s) → ({} : ResultSettings).dateIn v = .ok .null) ∧
    (∀ d d' x y : List Char, DateShaped d → DateShaped d' → d ++ x = d' ++ y → d = d') ∧
    ∀ t : String,
      (({} : ResultSettings).dateIn (.str t) = .ok .null ∧
        ∀ pre d post, t.toList = pre ++ d ++ post → ¬DateShaped d) ∨
      ∃ pre d post, t.toList = pre ++ d ++ post ∧ DateShaped d ∧
        (∀ pre' d' post', t.toList = pre' ++ d' ++ post' → DateShaped d' →
          pre.length ≤ pre'.length) ∧
        ({} : ResultSettings).dateIn (.str t) = .ok (.str (String.ofList d)) := by
  refine ⟨fun v hv => dateIn_not_text _ v hv, fun d d' x y hd hd' hEq => ?_, fun t => ?_⟩
  · exact hd.eq_of_prefixes hd' (List.prefix_append d x) (hEq ▸ List.prefix_append d' y)
  have hList : t.toList.toArray.toList = t.toList := List.toList_toArray
  rw [dateIn_eq_search]
  cases hFound : (List.range' 0 (t.toList.length + 1)).findSome? fun a =>
      (ends t.toList.toArray dateRoot a).head?.map fun j => (a, j) with
  | none =>
    -- no start has an end, so no date starts anywhere
    refine .inl ⟨rfl, fun pre d post hSplit hd => ?_⟩
    have hNone := List.findSome?_eq_none_iff.mp hFound pre.length
      (List.mem_range'_1.mpr ⟨Nat.zero_le _, by
        rw [hSplit, List.length_append, List.length_append]
        omega⟩)
    rw [head?_ends_dateRoot hd (hList ▸ prefix_drop_of_split hSplit)] at hNone
    cases hNone
  | some found =>
    -- the first start with an end: the date there, and none before it
    obtain ⟨a, -, ha, hFirst, hBefore⟩ := findSome?_range'_eq_some hFound
    cases hHead : (ends t.toList.toArray dateRoot a).head? with
    | none =>
      rw [hHead] at hFirst
      cases hFirst
    | some j =>
      rw [hHead] at hFirst
      cases hFirst
      obtain ⟨d, hd, hAt, rfl⟩ := mem_ends_dateRoot.mp (List.mem_of_head? hHead)
      rw [hList] at hAt
      refine .inr ⟨t.toList.take a, d, t.toList.drop (a + d.length), eq_take_append_drop hAt, hd,
        fun pre' d' post' hSplit hd' => ?_, ?_⟩
      · rw [List.length_take_of_le (by omega)]
        refine Nat.le_of_not_lt fun hlt => ?_
        have hNone := hBefore pre'.length (Nat.zero_le _) hlt
        rw [head?_ends_dateRoot hd' (hList ▸ prefix_drop_of_split hSplit)] at hNone
        cases hNone
      · have hText : (t.toList.toArray.extract a (a + d.length)).toList = d := by
          rw [Array.toList_extract, List.extract_eq_take_drop, hList, Nat.add_sub_cancel_left]
          exact (List.prefix_iff_eq_take.mp hAt).symm
        simp only [Option.map_some]
        rw [hText]
        rfl

end SearchPage
