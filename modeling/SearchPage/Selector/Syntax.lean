/-!
# Selectors

The compiled form of a CSS selector. A selector list holds compound selectors; a compound
selector is a set of tests that one element must pass together, and may be tied to a
related element: an ancestor, the parent, an earlier sibling or the previous sibling (as
in `div > p`), or, inside `:has()`, a descendant, a child, a later sibling or the next
sibling. A list may be negated (`:not()`): it then holds when none of its members does.
A compound that can never hold (an empty slot of `:is()`, a pseudo-class such as
`:hover` that has no meaning for a static page) is kept as `never`.
-/

namespace SearchPage.Selector

/-- How a compound selector is tied to the element it is related to. -/
inductive Relation where
  /-- An ancestor (`a b`). -/
  | ancestor
  /-- The parent (`a > b`). -/
  | parent
  /-- Some earlier sibling (`a ~ b`). -/
  | earlierSibling
  /-- The previous sibling element (`a + b`). -/
  | previousSibling
  /-- Some descendant, in `:has()`. -/
  | descendant
  /-- A child, in `:has(> a)`. -/
  | child
  /-- Some later sibling, in `:has(~ a)`. `site` is where the combinator stands in the
  selector's text: two `:has(~ a)` written in different places are different relations, even
  when they read alike. -/
  | laterSibling (site : Nat)
  /-- The next sibling element, in `:has(+ a)`. -/
  | nextSibling
  deriving DecidableEq, Repr

/-- How an attribute value is compared. -/
inductive AttrOp where
  /-- `[a]`: the attribute is present. -/
  | present
  /-- `[a=v]`. -/
  | equals
  /-- `[a~=v]`: one of the blank-separated words. -/
  | hasWord
  /-- `[a|=v]`: the value or its first dash-separated part. -/
  | dashPrefix
  /-- `[a^=v]`. -/
  | startsWith
  /-- `[a$=v]`. -/
  | endsWith
  /-- `[a*=v]`. -/
  | contains
  deriving DecidableEq, Repr

/-- An attribute test: name, comparison, value, and whether letter case is ignored. -/
structure AttrTest where
  name : String
  op : AttrOp
  value : String := ""
  caseless : Bool := false
  deriving DecidableEq, Repr

mutual
/-- One test of a compound selector. -/
inductive Test where
  /-- The element's tag name (`*` for any); `ns` is the namespace part, if written. -/
  | tag (ns : Option String) (name : String)
  | id (name : String)
  | cls (name : String)
  | attr (t : AttrTest)
  /-- The element's position among its siblings: `a·k + b` for some `k ≥ 0` when
  `stepped`, else exactly `a`; counted among siblings of the same name when `ofType`,
  from the end when `fromEnd`, and among the siblings passing `filter` when given. -/
  | nth (a : Int) (stepped : Bool) (b : Int) (ofType fromEnd : Bool)
      (filter : Option SelectorList)
  /-- The element passes a selector list (`:is()`, `:not()`, `:has()`, ...). -/
  | passes (list : SelectorList)
  | root
  | empty
  | scope
  | defined
  /-- The element's text holds, for every part, one of the part's texts; a part marked
  `own` looks at the element's own text pieces instead. -/
  | containsText (parts : List (Bool × List String))
  /-- The element's language matches, for every group, one of the group's ranges. -/
  | lang (groups : List (List String))
  /-- The element's text direction is left to right (`ltr`) or right to left. -/
  | direction (ltr : Bool)
  /-- The element is the first submit button of its form. -/
  | defaultButton
  /-- No other radio button of the element's group in its form is checked. -/
  | uncheckedGroup
  /-- The element's text is empty or a single line break. -/
  | noContent
  /-- The element's value lies within its bounds (`inside`), or outside them. -/
  | inRange (inside : Bool)

/-- A compound selector, possibly tied to a related element. -/
inductive Compound where
  | never
  | mk (tests : List Test) (related : Option (Relation × Compound))

/-- A selector list. -/
inductive SelectorList where
  | mk (items : List Compound) (negated : Bool)
end

mutual
/-- Whether two tests are the same test. -/
def Test.same : Test → Test → Bool
  | .tag n a, .tag n' a' => n == n' && a == a'
  | .id a, .id a' => a == a'
  | .cls a, .cls a' => a == a'
  | .attr t, .attr t' => t == t'
  | .nth a s b o f l, .nth a' s' b' o' f' l' =>
    a == a' && s == s' && b == b' && o == o' && f == f' && Test.sameFilter l l'
  | .passes l, .passes l' => SelectorList.same l l'
  | .root, .root | .empty, .empty | .scope, .scope | .defined, .defined => true
  | .containsText p, .containsText p' => p == p'
  | .lang g, .lang g' => g == g'
  | .direction d, .direction d' => d == d'
  | .defaultButton, .defaultButton | .uncheckedGroup, .uncheckedGroup => true
  | .noContent, .noContent => true
  | .inRange i, .inRange i' => i == i'
  | _, _ => false

/-- Whether two optional filters are the same. -/
def Test.sameFilter : Option SelectorList → Option SelectorList → Bool
  | none, none => true
  | some l, some l' => SelectorList.same l l'
  | _, _ => false

/-- Whether two lists of tests are the same, test for test. -/
def Test.allSame : List Test → List Test → Bool
  | [], [] => true
  | t :: ts, t' :: ts' => Test.same t t' && Test.allSame ts ts'
  | _, _ => false

/-- Whether two compound selectors are the same. -/
def Compound.same : Compound → Compound → Bool
  | .never, .never => true
  | .mk ts r, .mk ts' r' => Test.allSame ts ts' && Compound.sameRelated r r'
  | _, _ => false

/-- Whether two optional related compounds are the same, relation included. -/
def Compound.sameRelated :
    Option (Relation × Compound) → Option (Relation × Compound) → Bool
  | none, none => true
  | some (r, c), some (r', c') => r == r' && Compound.same c c'
  | _, _ => false

/-- Whether two lists of compounds are the same, member for member. -/
def Compound.allSame : List Compound → List Compound → Bool
  | [], [] => true
  | c :: cs, c' :: cs' => Compound.same c c' && Compound.allSame cs cs'
  | _, _ => false

/-- Whether two selector lists are the same. -/
def SelectorList.same : SelectorList → SelectorList → Bool
  | .mk items n, .mk items' n' => n == n' && Compound.allSame items items'
end

/-- The place of a test in the order the tests of a compound selector are checked. The
related element is looked at between `passes` and `defaultButton`. -/
def Test.stage : Test → Nat
  | .tag .. => 0
  | .defined => 1
  | .root => 2
  | .scope => 3
  | .noContent => 4
  | .nth .. => 5
  | .empty => 6
  | .id _ => 7
  | .cls _ => 8
  | .attr _ => 9
  | .inRange _ => 10
  | .lang _ => 11
  | .passes _ => 12
  | .defaultButton => 13
  | .uncheckedGroup => 14
  | .direction _ => 15
  | .containsText _ => 16

/-- The stage after which the related element is looked at. -/
def relationStage : Nat := 12

/-- A test put before the first test of its own or a later stage. -/
def Test.insertByStage (t : Test) : List Test → List Test
  | [] => [t]
  | u :: us => if t.stage ≤ u.stage then t :: u :: us else u :: Test.insertByStage t us

/-- A test put in front of tests already joined: a language test joins a language test
that comes first, a text test a text test. -/
def Test.joinFront : Test → List Test → List Test
  | .lang a, .lang b :: rest => .lang (a ++ b) :: rest
  | .containsText a, .containsText b :: rest => .containsText (a ++ b) :: rest
  | t, rest => t :: rest

/-- The tests of a compound selector in the order they are checked, tests of one stage in
the order they were written, its language tests joined into one and its text tests joined
into one. -/
def arrangeTests (tests : List Test) : List Test :=
  (tests.foldr Test.insertByStage []).foldr Test.joinFront []

/-- Why a selector could not be compiled. -/
inductive SelectorError where
  /-- The selector is not well formed. -/
  | malformed (message : String)
  /-- A well-formed construct that selection does not support (pseudo-elements, at-rules). -/
  | unsupported (message : String)
  /-- An escape names a number beyond the last code point. -/
  | badCodePoint (n : Nat)
  /-- A number with more digits than a number is read from. -/
  | overlongNumber
  /-- A week of a year outside the calendar weeks are looked up in. -/
  | yearOutOfRange
  /-- A bounded-field test on a field without a type. -/
  | untypedField
  /-- A position test whose quotient is too large for double precision. -/
  | quotientOverflow
  deriving DecidableEq, Repr

end SearchPage.Selector
