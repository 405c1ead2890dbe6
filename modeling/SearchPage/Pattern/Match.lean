import SearchPage.Pattern.Read

/-!
# Matching patterns

A pattern is matched by backtracking, in the order the pattern gives: alternatives from
left to right, greedy repetitions trying one more round first and lazy ones one fewer.
Atomic groups keep their first way of matching, and a possessive repetition keeps the
first way of matching of each of its rounds. Beyond its minimum, a round of a repetition
that matches nothing is its last: the rest of the pattern follows it; a round within the
minimum that matches nothing stands for all the rounds of the minimum left.

Matching passes each piece what is left to match as a continuation, and runs on fuel:
every piece visited along one way of matching consumes one unit. The search gives the
leftmost match, trying each start position in turn; a pattern that starts with a class
tries only positions whose character passes that class judged by the settings of the
whole pattern (see `startTest`). A look-behind is matched from its fixed width before
the position.

## The marker

Besides the position each piece works from, matching keeps one *marker*, a position the
engine moves as it goes: every way of matching a piece of its own (the whole pattern, a
look-around, an atomic group, a round of a possessive repetition) sets it to where that
way ends; a look-around sets it to where its body starts; an alternation sets it to its
position before each branch it tries; a repetition sets it to the position it tries the
rest of the pattern from (a repetition of one character counted against a plain
character that must follow only at the positions where that character follows, and one
whose character is counted by running it also to the end of the run). A round of a
possessive repetition beyond its minimum that fails leaves the marker where that failed
round moved it, and the rest of the pattern goes on from the marker, not from where the
round began. Nothing else looks at the marker.

## Main statements

* `search_empty_pattern`: the empty pattern matches at the start.
-/

namespace SearchPage.Pattern

open SearchPage.Text

/-- The groups matched so far: for each group, the positions it spans. -/
abbrev Captures := List (Nat × Nat × Nat)

/-- Where a match ends, with its groups. -/
abbrev Outcome := Nat × Captures

/-- How a way of matching turned out: its outcome when it succeeded, and where the marker
stands when it gives up or succeeds. -/
abbrev Run := Option Outcome × Nat

/-- What is left to match, from a position, with the groups and the marker so far. -/
abbrev Cont := Nat → Captures → Nat → Run

/-- The end of a way of matching of its own: it succeeds where it stands and moves the
marker there. -/
def finish : Cont := fun j caps _ => (some (j, caps), j)

/-- Whether the text character `d` matches the pattern character `c`. -/
def sameChar : CaseRule → Char → Char → Bool
  | .exact, c, d => c == d
  | .ascii, c, d => asciiLower c == asciiLower d
  | .unicode, c, d => sameIgnoringCase c d

/-- Whether the text character `d` repeats the character `c` of an earlier group: case
mates count as different letters here. -/
def sameRepeat : CaseRule → Char → Char → Bool
  | .exact, c, d => c == d
  | .ascii, c, d => asciiLower c == asciiLower d
  | .unicode, c, d => fold c == fold d

/-- The small letter a caseless class compares, under the ASCII setting or not. -/
def classLower (ascii : Bool) (c : Char) : Char := if ascii then asciiLower c else fold c

/-- Whether a character has case for a caseless class: an ASCII letter under the ASCII
setting, a character with case otherwise. -/
def classCased (ascii : Bool) (c : Char) : Bool := if ascii then isAsciiLetter c else hasCase c

/-- The first code point beyond the basic plane. -/
def planeLimit : Nat := 0x10000

/-- Whether some code point of `[lo, hi]` has case for a caseless class. -/
def rangeCased (ascii : Bool) (lo hi : Nat) : Bool :=
  if ascii then (lo ≤ 0x5A && 0x41 ≤ hi) || (lo ≤ 0x7A && 0x61 ≤ hi)
  else matchCasedRanges.meets lo hi

/-- Whether a caseless class treats its members as having case, and so compares small
letters: a member with case, a range holding one, or any member beyond the basic
plane. -/
def classHasCase (ascii : Bool) (items : List ClassItem) : Bool :=
  items.any fun
    | .single d => planeLimit ≤ d.toNat || classCased ascii d
    | .range lo hi => planeLimit ≤ hi.toNat || rangeCased ascii lo.toNat hi.toNat
    | .category _ _ => false

/-- Whether some code point of `[lo, hi]` has the small letter `m` (the ASCII one under
the ASCII setting). -/
def lowersInto (ascii : Bool) (m lo hi : Nat) : Bool :=
  if ascii then
    (lo ≤ m && m ≤ hi) ||
      ((0x61 ≤ m && m ≤ 0x7A) && lo ≤ m - 32 && m - 32 ≤ hi)
  else foldsInto m lo hi

/-- Whether a caseless class holds the small letter `l` of a text character. Members of
the basic plane stand for their small letters and those letters' case mates; a single
member beyond it stands for itself, compared with `l` as it is; a range reaching beyond
it also holds `l` when `l` or its capital falls inside. Named classes judge `l`. -/
def memberIgnoringCase (ascii : Bool) (l : Char) : ClassItem → Bool
  | .single d =>
    if planeLimit ≤ d.toNat then d == l
    else
      let m := classLower ascii d
      m == l || (!ascii && (caseMates m).contains l)
  | .range lo hi =>
    let inPlane := lo.toNat < planeLimit && l.toNat < planeLimit &&
      let top := min hi.toNat (planeLimit - 1)
      let forms := if ascii then [l] else l :: caseMates l
      forms.any fun f => lowersInto ascii f.toNat lo.toNat top
    let beyond := planeLimit ≤ hi.toNat &&
      ((lo ≤ l && l ≤ hi) ||
        (lo.toNat ≤ capitalCode l.toNat && capitalCode l.toNat ≤ hi.toNat))
    inPlane || beyond
  | .category cat negated => cat.holds ascii l != negated

/-- Whether a character is in a bracketed class. Ignoring case, a class with a member
that has case compares the character's small letter with its members
(`memberIgnoringCase`); a class without one compares the character itself. -/
def inClass (items : List ClassItem) (rule : CaseRule) (ascii : Bool) (c : Char) : Bool :=
  match rule with
  | .exact => items.any (·.holds ascii c)
  | .ascii | .unicode =>
    let asciiCase := rule == .ascii
    if classHasCase asciiCase items then
      items.any (memberIgnoringCase asciiCase (classLower asciiCase c))
    else items.any (·.holds ascii c)

/-- Whether a position is at a word boundary: a word character on exactly one side. The
matcher asks this only of a text that is not empty; on an empty text both `\b` and `\B`
fail. -/
def atBoundary (s : Src) (ascii : Bool) (i : Nat) : Bool :=
  let before := i > 0 && (s[i - 1]?.elim false (isWordChar ascii))
  let after := s[i]?.elim false (isWordChar ascii)
  before != after

/-- Whether the text from `i` repeats `t`. -/
def textAt (s : Src) (i : Nat) (t : List Char) (rule : CaseRule) : Bool :=
  (t.zipIdx.all fun (c, k) => s[i + k]?.elim false (sameRepeat rule c))

/-- Whether a piece matches exactly one character and holds no group, looking through
plain groups: such a piece is repeated by counting. -/
def Node.isSingle : Node → Bool
  | .char .. | .notChar .. | .any _ | .category .. | .charClass .. => true
  | .group none body => body.isSingle
  | _ => false

/-- Whether a one-character piece matches the character at `i`. -/
def singleAt (s : Src) (i : Nat) : Node → Bool
  | .char c rule => s[i]?.elim false (sameChar rule c)
  | .notChar c rule => s[i]?.elim false fun d => !sameChar rule c d
  | .any dotAll => s[i]?.elim false fun c => dotAll || c != '\n'
  | .category cat negated ascii => s[i]?.elim false fun c => cat.holds ascii c != negated
  | .charClass negated items rule ascii =>
    s[i]?.elim false fun c => inClass items rule ascii c != negated
  | .group none body => singleAt s i body
  | _ => false

/-- Whether a one-character piece is counted by running it as a pattern of its own, which
moves the marker: a character compared with case ignored whose small letter has case
mates, or a class with case compared with case ignored. -/
def Node.countsByRunning : Node → Bool
  | .char c .unicode | .notChar c .unicode => hasCase c && !(caseMates (fold c)).isEmpty
  | .charClass _ items rule _ => rule != .exact && classHasCase (rule == .ascii) items
  | .group none body => body.countsByRunning
  | _ => false

/-- How many characters from `i` on a one-character piece matches one after another, at
most `most` of them when given. -/
def countFrom (s : Src) (n : Node) (i : Nat) (most : Option Nat) : Nat :=
  go ((most.getD (s.size - i)).min (s.size - i)) i 0
where
  go : Nat → Nat → Nat → Nat
    | 0, _, c => c
    | fuel + 1, j, c => if singleAt s j n then go fuel (j + 1) (c + 1) else c

/-- What the code of a piece starts with, as far as a choice of how to go on looks at it:
a plain character (compared exactly, or ignoring case but without case), a class test, or
something else; or nothing at all. -/
inductive Lead where
  | literal (c : Char)
  | set (n : Node)
  | other
  | nothing

/-- The character a piece is when it is a plain character. -/
def Node.plainChar? : Node → Option Char
  | .char c .exact => some c
  | .char c .ascii => if isAsciiLetter c then none else some c
  | .char c .unicode => if hasCase c then none else some c
  | _ => none

mutual
/-- What the code of a piece starts with. -/
def Node.lead : Node → Lead
  | .empty => .nothing
  | .seq items => Node.seqLead items
  | .group none body => body.lead
  | .char c rule => match (Node.char c rule).plainChar? with
    | some d => .literal d
    | none => .other
  | .charClass negated items rule ascii =>
    if rule == .exact || !classHasCase (rule == .ascii) items then
      .set (.charClass negated items rule ascii)
    else .other
  | .category cat negated ascii => .set (.category cat negated ascii)
  | _ => .other

/-- What the code of a sequence of pieces starts with. -/
def Node.seqLead : List Node → Lead
  | [] => .nothing
  | n :: ns => match n.lead with
    | .nothing => Node.seqLead ns
    | l => l
end

/-- The plain character the code after a piece starts with, from what follows it in its
sequence and, when that is nothing, from what follows the sequence. -/
def tailChar (rest : Lead) (outer : Option Char) : Option Char :=
  match rest with
  | .nothing => outer
  | .literal c => some c
  | _ => none

/-- Whether an alternation passes over a branch at `i` without trying it: the branch
starts with a plain character or a class test that the character at `i` fails. -/
def skipsBranch (s : Src) (i : Nat) (b : Node) : Bool :=
  match b.lead with
  | .literal c => s[i]? != some c
  | .set n => !singleAt s i n
  | _ => false

/-- Try branches in order, passing over those `skip` rules out; `run` tries one from the
alternation's position. -/
def tryBranches (run : Node → Run) (skip : Node → Bool) : List Node → Nat → Run
  | [], m => (none, m)
  | b :: bs, m =>
    if skip b then tryBranches run skip bs m
    else match run b with
      | (some r, m') => (some r, m')
      | (none, m') => tryBranches run skip bs m'

/-- Try the rest of a pattern after a counted repetition with `c` rounds, then fewer,
down to `lo`; `run` tries it after a number of rounds, and only counts `viable` says can
be followed are tried. `m` is the marker before. -/
def tryFewer (run : Nat → Run) (viable : Nat → Bool) (lo : Nat) : Nat → Nat → Run
  | 0, m => if lo == 0 && viable 0 then run 0 else (none, m)
  | c + 1, m =>
    if c + 1 < lo then (none, m)
    else if viable (c + 1) then
      match run (c + 1) with
      | (some r, m') => (some r, m')
      | (none, m') => tryFewer run viable lo c m'
    else tryFewer run viable lo c m

/-- Try the rest of a pattern after a lazy counted repetition at position `p` with `c`
rounds, then after one more round at a time while the piece matches (`single`) and the
bound `hi` allows; runs on fuel. `byRunning` says a round moves the marker. -/
def tryMore (run : Nat → Run) (single : Nat → Bool) (byRunning : Bool) (hi : Option Nat) :
    Nat → Nat → Nat → Nat → Run
  | 0, _, _, m => (none, m)
  | fuel + 1, p, c, m =>
    if hi.any (· < c) then (none, m)
    else match run p with
      | (some r, m') => (some r, m')
      | (none, _) =>
        if single p then tryMore run single byRunning hi fuel (p + 1) (c + 1)
          (if byRunning then p + 1 else p)
        else (none, p)

/-- Rounds of a greedy repetition of a piece that is not counted, `count` rounds done and
the round before (beyond the minimum) begun at `last`: one more round first, then the
rest of the pattern. Runs on fuel. -/
def greedyRounds (round : Nat → Captures → Cont → Run) (k : Cont) (lo : Nat)
    (hi : Option Nat) : Nat → Nat → Option Nat → Nat → Captures → Run
  | 0, _, _, j, _ => (none, j)
  | fuel + 1, count, last, j, caps =>
    if count < lo then
      let next : Cont := fun j' caps' _ =>
        if j' == j then greedyRounds round k lo hi fuel lo last j' caps'
        else greedyRounds round k lo hi fuel (count + 1) last j' caps'
      match round j caps next with
      | (some r, m') => (some r, m')
      | (none, _) => (none, j)
    else
      let more : Option Run :=
        if hi.all (count < ·) && last != some j then
          match round j caps fun j' caps' _ =>
              greedyRounds round k lo hi fuel (count + 1) (some j) j' caps' with
          | (some r, m') => some (some r, m')
          | (none, _) => none
        else none
      match more with
      | some r => r
      | none =>
        match k j caps j with
        | (some r, m') => (some r, m')
        | (none, _) => (none, j)

/-- Rounds of a lazy repetition of a piece that is not counted: the rest of the pattern
first, then one more round. Runs on fuel. -/
def lazyRounds (round : Nat → Captures → Cont → Run) (k : Cont) (lo : Nat)
    (hi : Option Nat) : Nat → Nat → Option Nat → Nat → Captures → Run
  | 0, _, _, j, _ => (none, j)
  | fuel + 1, count, last, j, caps =>
    if count < lo then
      let next : Cont := fun j' caps' _ =>
        if j' == j then lazyRounds round k lo hi fuel lo last j' caps'
        else lazyRounds round k lo hi fuel (count + 1) last j' caps'
      match round j caps next with
      | (some r, m') => (some r, m')
      | (none, _) => (none, j)
    else
      match k j caps j with
      | (some r, m') => (some r, m')
      | (none, _) =>
        if hi.any (· ≤ count) || last == some j then (none, j)
        else
          match round j caps fun j' caps' _ =>
              lazyRounds round k lo hi fuel (count + 1) (some j) j' caps' with
          | (some r, m') => (some r, m')
          | (none, _) => (none, j)

/-- Rounds of a possessive repetition beyond its minimum, `count` rounds done and the
round before begun at `prev`, the marker at `p`: each round keeps its first way of
matching, and the rounds stop at the bound, after a round that matched nothing, or at a
round that fails, whereupon the rest of the pattern goes on from where that round left
the marker. Runs on fuel. -/
def possessiveMore (round : Nat → Captures → Run) (k : Cont) (hi : Option Nat) :
    Nat → Nat → Option Nat → Nat → Captures → Run
  | 0, _, _, p, caps => k p caps p
  | fuel + 1, count, prev, p, caps =>
    if hi.all (count < ·) && prev != some p then
      match round p caps with
      | (some (j, caps'), _) => possessiveMore round k hi fuel (count + 1) (some p) j caps'
      | (none, m) => k m caps m
    else k p caps p

/-- The rounds of a possessive repetition within its minimum, from position `i`: every
one must match; a round that matches nothing stands for the rest of the minimum. Runs
on fuel. -/
def possessiveMin (round : Nat → Captures → Run) (k : Cont) (lo : Nat) (hi : Option Nat)
    (i : Nat) : Nat → Nat → Nat → Captures → Run
  | 0, count, p, caps => possessiveMore round k hi 0 count none p caps
  | fuel + 1, count, p, caps =>
    if count < lo then
      match round p caps with
      | (some (j, caps'), _) =>
        if j == p then possessiveMore round k hi fuel lo none j caps'
        else possessiveMin round k lo hi i fuel (count + 1) j caps'
      | (none, _) => (none, i)
    else possessiveMore round k hi fuel count none p caps

/-- Match one piece at `i` with the marker at `m`, then the continuation `k`; `tail` is
the plain character the code after the piece starts with, if any. -/
def step (s : Src) : Nat → Node → Option Char → Nat → Captures → Nat → Cont → Run
  | 0, _, _, _, _, m, _ => (none, m)
  | fuel + 1, node, tail, i, caps, m, k =>
    match node with
    | .empty => k i caps m
    | .char .. | .notChar .. | .any _ | .category .. | .charClass .. =>
      if singleAt s i node then k (i + 1) caps m else (none, m)
    | .lineStart multiline =>
      if i == 0 || (multiline && s[i - 1]? == some '\n') then k i caps m else (none, m)
    | .lineEnd multiline =>
      if i == s.size || (s[i]? == some '\n' && (multiline || i + 1 == s.size)) then k i caps m
      else (none, m)
    | .textStart => if i == 0 then k i caps m else (none, m)
    | .textEnd => if i == s.size then k i caps m else (none, m)
    | .boundary negated ascii =>
      if s.size != 0 && atBoundary s ascii i != negated then k i caps m else (none, m)
    | .group none body => step s fuel body tail i caps m k
    | .group (some g) body =>
      step s fuel body none i caps m fun j caps' m' => k j ((g, i, j) :: caps'.filter (·.1 != g)) m'
    | .atomic body =>
      match step s fuel body none i caps i finish with
      | (some (j, caps'), m') => k j caps' m'
      | (none, _) => (none, i)
    | .look negated back body =>
      if i < back then (if negated then k i caps m else (none, m))
      else
        match step s fuel body none (i - back) caps (i - back) finish, negated with
        | (some (_, caps'), m'), false => k i caps' m'
        | (none, m'), true => k i caps m'
        | (_, m'), _ => (none, m')
    | .backref g rule =>
      match caps.lookup g with
      | some (a, b) =>
        let t := (s.extract a b).toList
        if textAt s i t rule then k (i + t.length) caps m else (none, m)
      | none => (none, m)
    | .ifGroup g yes no =>
      if (caps.lookup g).isSome then
        step s fuel yes (match no.lead with
          | .nothing => tail
          | _ => none) i caps m k
      else step s fuel no tail i caps m k
    | .seq [] => k i caps m
    | .seq (n :: ns) =>
      step s fuel n (tailChar (Node.seqLead ns) tail) i caps m fun j caps' m' =>
        step s fuel (.seq ns) tail j caps' m' k
    | .alt options =>
      tryBranches (fun b => step s fuel b none i caps i k) (skipsBranch s i) options m
    | .loop body lo hi greedy =>
      if body.isSingle then
        if s.size - i < lo then (none, m)
        else if greedy then
          let c := countFrom s body i hi
          let m := if body.countsByRunning && 0 < c then i + c else i
          let viable (n : Nat) : Bool := match tail with
            | some ch => s[i + n]? == some ch
            | none => true
          if c < lo then (none, m)
          else tryFewer (fun n => k (i + n) caps (i + n)) viable lo c m
        else
          let c := if lo == 0 then 0 else countFrom s body i (some lo)
          let m := if body.countsByRunning && 0 < c then i + c else i
          if c < lo then (none, m)
          else tryMore (fun p => k p caps p) (fun p => singleAt s p body) body.countsByRunning hi
            (s.size - i + 2) (i + c) c m
      else
        let round (j : Nat) (caps : Captures) (k' : Cont) : Run := step s fuel body none j caps j k'
        if greedy then greedyRounds round k lo hi fuel 0 none i caps
        else lazyRounds round k lo hi fuel 0 none i caps
    | .possessive body lo hi =>
      if body.isSingle then
        if s.size - i < lo then (none, m)
        else
          let c := countFrom s body i hi
          let m := if body.countsByRunning && 0 < c then i + c else i
          if c < lo then (none, m) else k (i + c) caps m
      else
        let round (j : Nat) (caps : Captures) : Run := step s fuel body none j caps j finish
        possessiveMin round k lo hi i fuel 0 i caps

/-- The fuel for matching a pattern of `size` pieces on a text of `length` characters. -/
def fuelFor (length size : Nat) : Nat := 8 * (length + 2) * (size + 2)

/-- The number of pieces of a pattern, as the pattern's own length bounds it. -/
def patternSize (pattern : String) : Nat := pattern.length

/-- Whether a match is tried from a position: every position, unless the pattern has a
test for the character there. -/
def Regex.triesFrom (r : Regex) (s : Src) (i : Nat) : Bool :=
  match r.start with
  | none => true
  | some t => singleAt s i t

/-- The first match starting at or after `start`, within `count` start positions. -/
def firstFrom (s : Src) (r : Regex) (fuel : Nat) : Nat → Nat → Option (Nat × Nat)
  | 0, _ => none
  | count + 1, start =>
    let found := if r.triesFrom s start then (step s fuel r.root none start [] start finish).1
      else none
    match found with
    | some (j, _) => some (start, j)
    | none => firstFrom s r fuel count (start + 1)

/-- The leftmost match of a compiled pattern in a text, as the positions it spans. -/
def Regex.search (r : Regex) (size : Nat) (text : String) : Option (Nat × Nat) :=
  let s : Src := text.toList.toArray
  firstFrom s r (fuelFor s.size size) (s.size + 1) 0

/-- The text of the leftmost match of a pattern, or why the pattern is refused; a match
that ends before it starts is empty. -/
def searchText (pattern text : String) : Reading (Option String) := do
  let r ← compile pattern
  let s : Src := text.toList.toArray
  return (r.search (patternSize pattern) text).map fun (a, b) =>
    String.ofList (s.extract a b).toList

theorem search_empty_pattern (s : Src) (fuel : Nat) :
    (step s (fuel + 1) .empty none 0 [] 0 finish).1 = some (0, []) := by
  simp [step, finish]

end SearchPage.Pattern
