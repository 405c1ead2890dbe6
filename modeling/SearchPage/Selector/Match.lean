import SearchPage.Document.Basic
import SearchPage.Selector.Syntax
import SearchPage.Selector.Position
import SearchPage.Selector.Range
import SearchPage.Text.Blank
import SearchPage.Text.Case
import SearchPage.Text.Direction

/-!
# Matching selectors against a document

Selectors are matched against the whole document, not only against the part searched: a
combinator may look at ancestors and siblings outside it. Above the top elements stands
the document itself, which a selector can also reach as a parent or ancestor: it is named
`[document]`, has no attributes, and passes `*`, `:not(...)` of anything it fails, and
`:first-child` (it is the only child of nothing).

The *root* element is the first element at the top of the document; `:root` holds for it
when it has no other element, no non-blank text and no character-data section beside it.
An element whose parent is an `iframe` counts as a root of its own in the same way.

Matching is a computation over a memory that one selection keeps (see `Memory`), and it
can fail: a bounded-field test may meet a value it cannot read. The tests of a compound
selector are checked in a fixed order, and each check stops at the first failure, so
which elements are looked at, and in what order, follows that order.

A later sibling in `:has(~ a)` is looked up in a table of the children that pass `a`,
made by the first search among the children of a parent for that written `:has(~ a)` (two
written alike in different places of the selector keep two tables). Only that first search reads it
from the subject's own place; every later one starts one place further on, counted round
the children, so that it skips what stands right after the subject, and a subject that
stands last sees every child after the first place, itself included (see
`Scene.laterSiblingHolds`).
-/

namespace SearchPage.Selector

open SearchPage.Text

/-- What a selector is matched against: the document itself or one of its nodes. -/
inductive Subject where
  | document
  | node (id : Nat)
  deriving DecidableEq, Repr

/-- The setting of one selection: the document, the element it starts from, and the
document's root element. -/
structure Scene where
  doc : Document
  scope : Option Nat
  root : Option Nat

namespace Scene

/-- The setting for selecting below `scope`. -/
def of (doc : Document) (scope : Option Nat) : Scene :=
  { doc, scope, root := doc.roots.toList.find? doc.isElement }

/-- The number of a subject's node, `none` for the document. -/
def idOf : Subject → Option Nat
  | .document => none
  | .node id => some id

/-- The tag name of a subject. -/
def nameOf (sc : Scene) : Subject → String
  | .document => "[document]"
  | .node id => (sc.doc.name? id).getD ""

/-- The attributes of a subject. -/
def attrsOf (sc : Scene) : Subject → List (String × String)
  | .document => []
  | .node id => sc.doc.attrs id

/-- The parent of a subject: the enclosing element, or the document above the top. -/
def parentOf (sc : Scene) : Subject → Option Subject
  | .document => none
  | .node id => some ((sc.doc.parent? id).elim .document .node)

/-- The elements among a list of node numbers. -/
def elementsOf (sc : Scene) (ids : List Nat) : List Nat :=
  ids.filter sc.doc.isElement

/-- The child elements of a subject. -/
def childElements (sc : Scene) (s : Subject) : List Nat :=
  sc.elementsOf (sc.doc.childrenOf (idOf s)).toList

/-- All children of a subject, text and asides included. -/
def childCount (sc : Scene) : Subject → Nat
  | .document => sc.doc.roots.size + sc.doc.rootAsides
  | .node id => match sc.doc.node? id with
    | some n => n.children.size + n.asides
    | none => 0

/-- The element siblings of a node, itself included, in order. -/
def siblingElements (sc : Scene) (id : Nat) : List Nat :=
  sc.elementsOf (sc.doc.childrenOf (sc.doc.parent? id)).toList

/-- The element siblings before a node, nearest first. -/
def elementsBefore (sc : Scene) : Subject → List Nat
  | .document => []
  | .node id => ((sc.siblingElements id).takeWhile (· != id)).reverse

/-- The element siblings after a node, nearest first. -/
def elementsAfter (sc : Scene) : Subject → List Nat
  | .document => []
  | .node id => ((sc.siblingElements id).dropWhile (· != id)).drop 1

/-- The ancestors of a node, nearest first, ending with the document. -/
def ancestorsOf (sc : Scene) (s : Subject) : List Subject :=
  go (sc.doc.size + 1) s
where
  go : Nat → Subject → List Subject
    | 0, _ => []
    | fuel + 1, s => match sc.parentOf s with
      | some p => p :: go fuel p
      | none => []

/-- The element descendants of a subject, in document order. -/
def descendantElements (sc : Scene) : Subject → List Nat
  | .document => (List.range sc.doc.size).filter sc.doc.isElement
  | .node id => (sc.doc.descendants id).filter sc.doc.isElement

/-- Whether a node is an `iframe` element. -/
def isIframe (sc : Scene) (id : Nat) : Bool := sc.doc.name? id == some "iframe"

/-- The nodes below a subject that are not inside an `iframe` below it. -/
def visibleBelow (sc : Scene) (s : Subject) : List Nat :=
  let all := match s with
    | .document => List.range sc.doc.size
    | .node id => if sc.isIframe id then [] else sc.doc.descendants id
  let frames := all.filter sc.isIframe
  all.filter fun n => !frames.any fun f => sc.doc.isDescendant f n

/-- The text of a subject: its text nodes joined, those inside an `iframe` left out. -/
def textOf (sc : Scene) (s : Subject) : String :=
  String.join ((sc.visibleBelow s).filterMap sc.doc.text?)

/-- The text pieces directly inside a subject. -/
def ownTexts (sc : Scene) (s : Subject) : List String :=
  match s with
  | .node id => if sc.isIframe id then [] else (sc.doc.childrenOf (some id)).toList.filterMap sc.doc.text?
  | .document => sc.doc.roots.toList.filterMap sc.doc.text?

/-- The value of an attribute, its name compared without ASCII case. -/
def attrValue (sc : Scene) (s : Subject) (name : String) : Option String :=
  ((sc.attrsOf s).find? fun (k, _) => asciiLowerText k == asciiLowerText name).map (·.2)

/-- The classes of a subject: its `class` value cut at markup space. -/
def classesOf (sc : Scene) (s : Subject) : List String :=
  match sc.attrValue s "class" with
  | some v => (v.toList.splitOnP isMarkupSpace).map String.ofList |>.filter (· != "")
  | none => []

/-- Whether a subject is the first top element or an element inside an `iframe`. -/
def isTop (sc : Scene) : Subject → Bool
  | .document => false
  | .node id => sc.root == some id || (sc.doc.parent? id).elim false sc.isIframe

/-- Whether a subject is the root: the first top element, or an element inside an
`iframe`, with no other element, no non-blank text and no character-data section beside
it. -/
def isRoot (sc : Scene) : Subject → Bool
  | .document => false
  | .node id =>
    let parent := sc.doc.parent? id
    let candidate := sc.isTop (.node id)
    let siblings := (sc.doc.childrenOf parent).toList.filter (· != id)
    let cdata := match parent with
      | some p => (sc.doc.node? p).elim false (·.holdsCharData)
      | none => sc.doc.rootHoldsCharData
    candidate && !cdata && siblings.all fun n =>
      !sc.doc.isElement n && (sc.doc.text? n).elim true isBlank

/-- Whether a subject has no element children and only markup space as text. -/
def isEmpty (sc : Scene) (s : Subject) : Bool :=
  (sc.doc.childrenOf (idOf s)).toList.all fun n =>
    !sc.doc.isElement n && (sc.doc.text? n).elim true fun t => t.toList.all isMarkupSpace

/-- The subject and its ancestors, nearest first, up to an enclosing `iframe`. -/
def frameChain (sc : Scene) (s : Subject) : List Subject :=
  s :: (sc.ancestorsOf s).takeWhile fun a => match a with
    | .node id => !sc.isIframe id
    | .document => true

/-- The element children of a subject with a given tag name. -/
def childNamed (sc : Scene) (s : Subject) (name : String) : Option Nat :=
  (sc.childElements s).find? fun c => sc.doc.name? c == some name

/-- The `head` of the `html` element below `top`, when there are both. -/
def headBelow (sc : Scene) (top : Subject) : Option Nat := do
  if let .node t := top then
    if sc.isIframe t then none
  let html ← sc.childNamed top "html"
  sc.childNamed (.node html) "head"

/-- The content language a `meta` element in a `head` declares with
`http-equiv="content-language"` and a non-empty `content`. -/
def declaredContentLanguage (sc : Scene) (head : Nat) : Option String :=
  (sc.childElements (.node head)).findSome? fun m =>
    if sc.doc.name? m != some "meta" then none
    else
      let equiv := sc.attrValue (.node m) "http-equiv"
      match sc.attrValue (.node m) "content" with
      | some c => if equiv.map asciiLowerText == some "content-language" && c != "" then some c
        else none
      | none => none

/-- The `lang` attributes of a subject and its ancestors, nearest first, looking no
further than an enclosing `iframe`; and the top reached, where a page's declared language
is looked up. -/
def languageChain (sc : Scene) (s : Subject) : List String × Subject :=
  let chain := sc.frameChain s
  (chain.filterMap fun a => sc.attrValue a "lang", chain.getLastD s)

/-- A writing direction an element sets with its `dir` attribute. -/
inductive Declared where
  | fixed (ltr : Bool)
  | auto
  deriving DecidableEq

/-- The writing direction a subject sets itself, if any. -/
def declaredOf (sc : Scene) (s : Subject) : Option Declared :=
  match (sc.attrValue s "dir").map asciiLowerText with
  | some "ltr" => some (.fixed true)
  | some "rtl" => some (.fixed false)
  | some "auto" => some .auto
  | _ => none

/-- The direction the text below a node sets: its first strongly directed character,
leaving out `bdi`, `script`, `style`, `textarea` and `iframe` elements and elements that
set a direction of their own. -/
def textDirection (sc : Scene) : Nat → Nat → Option Bool
  | 0, _ => none
  | fuel + 1, id =>
    (sc.doc.childrenOf (some id)).toList.findSome? fun c =>
      if sc.doc.isElement c then
        if ["bdi", "script", "style", "textarea", "iframe"].contains ((sc.doc.name? c).getD "") ||
            (sc.declaredOf (.node c)).isSome then none
        else sc.textDirection fuel c
      else (sc.doc.text? c).bind firstStrongDirection

/-- The writing direction of a subject, `true` for left to right: the one it sets, left to
right for a top element or a telephone field that sets none, the direction of its text
or value when it asks for it, and otherwise its parent's. Above an `iframe` and at the
document there is none. -/
def directionOf (sc : Scene) : Nat → Subject → Option Bool
  | 0, _ => none
  | _, .document => none
  | fuel + 1, .node id =>
    let s := Subject.node id
    let declared := sc.declaredOf s
    let top := sc.isTop s
    let name := sc.nameOf s
    let inherited : Option Bool := match sc.doc.parent? id with
      | some p => if sc.isIframe p then none else sc.directionOf fuel (.node p)
      | none => none
    let kind := if name == "input" then asciiLowerText ((sc.attrValue s "type").getD "") else ""
    match declared with
    | some (.fixed ltr) => some ltr
    | _ =>
      if top && declared.isNone then some true
      else if name == "input" && kind == "tel" && declared.isNone then some true
      else if ((name == "input" && ["text", "search", "tel", "url", "email"].contains kind) ||
          name == "textarea") && declared == some .auto then
        let value := if name == "textarea" then
            String.join ((sc.doc.childrenOf (some id)).toList.filterMap sc.doc.text?)
          else (sc.attrValue s "value").getD ""
        if value != "" then some ((firstStrongDirection value).getD true)
        else if top then some true
        else inherited
      else if (name == "bdi" && declared.isNone) || declared == some .auto then
        match sc.textDirection (sc.doc.size + 1) id with
        | some d => some d
        | none => if top then some true else inherited
      else inherited

/-- The nearest `form` element above a subject, not looking past an `iframe`. -/
def formAbove (sc : Scene) (s : Subject) : Option Nat :=
  ((sc.frameChain s).drop 1).findSome? fun a => match a with
    | .node id => if sc.doc.name? id == some "form" then some id else none
    | .document => none

/-- Whether a node is an `input` or `button` element of type `submit`. -/
def isSubmit (sc : Scene) (id : Nat) : Bool :=
  (sc.doc.name? id == some "input" || sc.doc.name? id == some "button") &&
    (sc.attrValue (.node id) "type").map asciiLowerText == some "submit"

/-- Whether a subject is the first submit button of its form: the first `input` or
`button` of type `submit` below the form, in document order and not inside an `iframe`.
A form nested in front of every such button leaves the form without one. -/
def isDefaultButton (sc : Scene) (s : Subject) : Bool :=
  match sc.formAbove s, s with
  | some form, .node id =>
    match (sc.visibleBelow (.node form)).find? fun c =>
        sc.doc.name? c == some "form" || sc.isSubmit c with
    | some c => c == id && sc.isSubmit c
    | none => false
  | _, _ => false

/-- What holds a radio button's group: its nearest `form` ancestor, or else the topmost
subject above it, not looking past an `iframe`. -/
def groupHolder (sc : Scene) (s : Subject) : Option Subject :=
  match sc.formAbove s with
  | some f => some (.node f)
  | none => ((sc.frameChain s).drop 1).getLast?

/-- Whether no other radio button of a subject's group is checked: no other checked radio
button below the same holder, with the same holder and exactly the same name. -/
def isUncheckedGroup (sc : Scene) (s : Subject) : Bool :=
  match sc.groupHolder s with
  | none => false
  | some holder =>
    let name := sc.attrValue s "name"
    let checkedMate := fun (c : Nat) =>
      Subject.node c != s && sc.doc.name? c == some "input" &&
      (sc.attrValue (.node c) "type").map asciiLowerText == some "radio" &&
      sc.attrValue (.node c) "name" == name && (sc.attrValue (.node c) "checked").isSome &&
      sc.groupHolder (.node c) == some holder
    !(sc.visibleBelow holder).any checkedMate

end Scene

/-- The subtags of a language range or tag: lower case, cut at hyphens. -/
def subtagsOf (cs : List Char) : List String :=
  ((lowerText (String.ofList cs)).toList.splitOn '-').map String.ofList

/-- The wildcards `*-` (and a final `*`) that follow a wildcard `-*-`, dropped. -/
def dropStars : List Char → List Char
  | '*' :: '-' :: more => dropStars more
  | ['*'] => []
  | more => more

theorem dropStars_length_le (cs : List Char) : (dropStars cs).length ≤ cs.length := by
  induction cs using dropStars.induct with
  | case1 more ih => simp only [dropStars, List.length_cons]; omega
  | case2 => simp [dropStars]
  | case3 more h1 h2 => simp [dropStars.eq_3 more h1 h2]

/-- A language range with its wildcards inside reduced: `-*-` (with any `*-` after it, or a
`*` at the end) and a final `-*` become a single hyphen. -/
def stripWildcards : List Char → List Char
  | '-' :: '*' :: '-' :: rest => '-' :: stripWildcards (dropStars rest)
  | ['-', '*'] => ['-']
  | c :: rest => c :: stripWildcards rest
  | [] => []
termination_by cs => cs.length
decreasing_by
  all_goals simp only [List.length_cons]
  · have := dropStars_length_le rest
    omega
  · omega

/-- Whether a language tag falls in a language range, by extended filtering: the primary
subtags agree (or the range's is `*`), and every further subtag of the range is found in
the tag in order, other subtags of the tag skipped unless they are single letters. The
empty range matches only the empty tag. -/
def languageMatches (range tag : String) : Bool :=
  match subtagsOf (stripWildcards range.toList), subtagsOf tag.toList with
  | [r], [s] => (r == "" && s == "") || (r == "*" && s != "") || r == s
  | r :: rs, s :: ss =>
    ((r == "*" && !(ss.isEmpty && s == "")) || r == s) && later rs ss
  | _, _ => false
where
  later : List String → List String → Bool
    | [], _ => true
    | _ :: _, [] => false
    | r :: rs, s :: ss =>
      if r == "" then false
      else if s == r then later rs ss
      else if s.length == 1 then false
      else later (r :: rs) ss

namespace AttrTest

/-- Whether `v` occurs in `x` as a blank-separated word. -/
def wordIn (caseless : Bool) (v x : List Char) : Bool :=
  (List.range (x.length + 1)).any fun p =>
    sameText caseless ((x.drop p).take v.length) v && p + v.length ≤ x.length &&
    (p == 0 || (x[p - 1]?.elim false isMarkupSpace)) &&
    (p + v.length == x.length || (x[p + v.length]?.elim false isMarkupSpace))

/-- Whether an attribute value passes the comparison. A value may also carry one final
line feed where the comparison looks at its end. -/
def accepts (t : AttrTest) (value : String) : Bool :=
  let x := value.toList
  let v := t.value.toList
  let eq := sameText t.caseless
  let nl := v ++ ['\n']
  match t.op with
  | .present => true
  | .equals => eq x v || eq x nl
  | .startsWith => eq (x.take v.length) v
  | .endsWith => eq (x.drop (x.length - v.length)) v || eq (x.drop (x.length - nl.length)) nl
  | .contains => (List.range (x.length + 1)).any fun p => eq ((x.drop p).take v.length) v &&
      p + v.length ≤ x.length
  | .dashPrefix => eq x v || eq x nl || eq (x.take (v.length + 1)) (v ++ ['-'])
  | .hasWord => !v.isEmpty && !v.any isMarkupSpace && wordIn t.caseless v x

end AttrTest

/-- What one selection carries from element to element: the language a page declares,
looked up once for each top of the document (the document itself, or an element right
below an `iframe`), with the empty text when the page declares none. -/
structure Memory where
  languages : List (Subject × String) := []
  /-- For a parent and a written `:has(~ a)` (told apart by where it stands in the selector),
  the places of the children that pass `a`, as found by the first such search. -/
  siblingTables : List (Subject × Nat × List Nat) := []

/-- A step of matching: it reads and extends the memory, and may fail. -/
abbrev Probe := StateT Memory (Except SelectorError)

/-- The language of a subject: the `lang` attribute of the nearest element at or above it
that has a non-empty one, or an empty one when no element has another. Without any, the
language the page declares in its `head`, which is looked up once for each top: the
first lookup that finds none there gives no language but leaves the empty language for
every later one. A top without an `html` element with a `head` has no language. -/
def Scene.languageOf (sc : Scene) (s : Subject) : Probe (Option String) := do
  let (declared, top) := sc.languageChain s
  match declared.find? (· != "") with
  | some l => pure (some l)
  | none =>
    if !declared.isEmpty then pure (some "")
    else
      match (← get).languages.lookup top with
      | some l => pure (some l)
      | none =>
        match sc.headBelow top with
        | none => pure none
        | some head =>
          match sc.declaredContentLanguage head with
          | some l =>
            modify fun m => { m with languages := m.languages ++ [(top, l)] }
            pure (some l)
          | none =>
            modify fun m => { m with languages := m.languages ++ [(top, "")] }
            pure none

/-- Whether a subject's text holds the texts of a `:-soup-contains()` test, part by part.
The text is taken once, the way the first part asks for it: the whole text, or the own
text pieces. A part asking for pieces then looks in each piece (each character of a whole
text), and a part asking for the whole text looks for a piece equal to a text when given
pieces. -/
def Scene.containsAll (sc : Scene) (s : Subject) (parts : List (Bool × List String)) : Bool :=
  match parts with
  | [] => true
  | (firstOwn, _) :: _ =>
    let pieces : List String :=
      if firstOwn then sc.ownTexts s else (sc.textOf s).toList.map fun c => String.singleton c
    let whole := sc.textOf s
    parts.all fun (own, texts) =>
      if own then texts.any fun t => pieces.any fun p => occursIn t.toList p.toList
      else if firstOwn then texts.any fun t => pieces.contains t
      else texts.any fun t => occursIn t.toList whole.toList

/-- Whether a subject passes a test that looks at nothing but the page. -/
def Test.holdsPlain (sc : Scene) (s : Subject) : Test → Bool
  | .tag ns name =>
    (match ns with
      | none => true
      | some p => p == "*") &&
    (name == "*" || asciiLowerText name == asciiLowerText (sc.nameOf s))
  | .id name => sc.attrValue s "id" == some name
  | .cls name => (sc.classesOf s).contains name
  | .attr t => (sc.attrValue s t.name).elim false t.accepts
  | .root => sc.isRoot s
  | .empty => sc.isEmpty s
  | .scope => Scene.idOf s == sc.scope && sc.scope.isSome
  | .defined => let n := sc.nameOf s; !n.contains '-' || n.contains ':'
  | .containsText parts => sc.containsAll s parts
  | .direction ltr => sc.directionOf (sc.doc.size + 1) s == some ltr
  | .defaultButton => sc.isDefaultButton s
  | .uncheckedGroup => sc.isUncheckedGroup s
  | .noContent => sc.textOf s == "" || sc.textOf s == "\n"
  | _ => false

/-- The subjects related to a subject, in the order they are tried. -/
def Scene.relatedTo (sc : Scene) (s : Subject) : Relation → List Subject
  | .ancestor => sc.ancestorsOf s
  | .parent => (sc.parentOf s).toList
  | .earlierSibling => (sc.elementsBefore s).map .node
  | .previousSibling => ((sc.elementsBefore s).take 1).map .node
  | .descendant => (sc.descendantElements s).map .node
  | .child => (sc.childElements s).map .node
  | .laterSibling _ => (sc.elementsAfter s).map .node
  | .nextSibling => ((sc.elementsAfter s).take 1).map .node

/-- Whether some member of a list passes, asked in order until one does. -/
def anyM {α : Type} (p : α → Probe Bool) : List α → Probe Bool
  | [] => pure false
  | x :: xs => do if ← p x then pure true else anyM p xs

/-- Where a node stands among everything its parent holds. -/
def Scene.slotOf (sc : Scene) (id : Nat) : Nat :=
  (sc.doc.node? id).elim 0 (·.slot)

/-- The members of a list that pass, all asked, in order. -/
def filterAllM {α : Type} (p : α → Probe Bool) : List α → Probe (List α)
  | [] => pure []
  | x :: xs => do
    let here ← p x
    let rest ← filterAllM p xs
    pure (if here then x :: rest else rest)

/-- Whether `:has(~ a)`, written at `site`, holds for a subject, where `passes` asks whether an
element passes `a`. The first search for it among the children of a parent asks every child
element, the last first, and keeps the places of those that pass; this and every later search
there read that table. The first search holds when one of them stands after the subject. A later
one starts one place further on, counted round the children: it holds when one of them
stands more than one place after the subject, or, for the subject that stands last, after
the first place. -/
def Scene.laterSiblingHolds (sc : Scene) (s : Subject) (site : Nat)
    (passes : Nat → Probe Bool) : Probe Bool := do
  match s, sc.parentOf s with
  | .node id, some p =>
    let known := (← get).siblingTables.find? fun e => e.1 == p && e.2.1 == site
    match known with
    | some (_, _, slots) =>
      let start := (sc.slotOf id + 1) % sc.childCount p
      pure (slots.any (start < ·))
    | none =>
      let found ← filterAllM passes (sc.childElements p).reverse
      let slots := found.map sc.slotOf
      modify fun m => { m with siblingTables := (p, site, slots) :: m.siblingTables }
      pure (slots.any (sc.slotOf id < ·))
  | _, _ => pure false

mutual
/-- Whether a subject passes one test. -/
def Test.holds (sc : Scene) (s : Subject) : Test → Probe Bool
  | .nth a stepped b ofType fromEnd filter => do
    let passes (x : Subject) : Probe Bool := match filter with
      | some l => SelectorList.holds sc x l
      | none => pure true
    if !(← passes s) then return false
    let verdict ← match s with
      | .document => Position.holds passes (fun _ => true) a b stepped [Subject.document]
      | .node id =>
        let sibs := sc.siblingElements id
        let sibs := if fromEnd then sibs.reverse else sibs
        let counts (c : Nat) : Probe Bool := do
          pure ((← passes (.node c)) && (!ofType || sc.doc.name? c == sc.doc.name? id))
        Position.holds counts (· == id) a b stepped sibs
    match verdict with
    | some v => pure v
    | none => throw .quotientOverflow
  | .passes l => SelectorList.holds sc s l
  | .lang groups => do
    match ← sc.languageOf s with
    | some l => pure (groups.all fun ranges => ranges.any fun r => languageMatches r l)
    | none => pure false
  | .inRange inside =>
    StateT.lift (Range.holds inside
      ((sc.attrValue s "type").map asciiLowerText) (sc.attrValue s "min")
      (sc.attrValue s "max") (sc.attrValue s "value"))
  | t => pure (t.holdsPlain sc s)

/-- Whether a subject passes the tests of one side of `relationStage` (up to it when
`early`), checked in order until one fails. -/
def Test.allHold (sc : Scene) (s : Subject) (early : Bool) : List Test → Probe Bool
  | [] => pure true
  | t :: ts => do
    if decide (t.stage ≤ relationStage) == early then
      if ← Test.holds sc s t then Test.allHold sc s early ts else pure false
    else Test.allHold sc s early ts

/-- Whether a subject passes a compound selector: the tests up to `relationStage`, then
the related element, then the other tests. -/
def Compound.holds (sc : Scene) (s : Subject) : Compound → Probe Bool
  | .never => pure false
  | .mk tests related => do
    if !(← Test.allHold sc s true tests) then return false
    if !(← Compound.relatedHolds sc s related) then return false
    Test.allHold sc s false tests

/-- Whether the elements related to a subject include one passing the related compound. -/
def Compound.relatedHolds (sc : Scene) (s : Subject) : Option (Relation × Compound) → Probe Bool
  | none => pure true
  | some (.laterSibling site, c) =>
    sc.laterSiblingHolds s site fun x => Compound.holds sc (.node x) c
  | some (r, c) => anyM (fun x => Compound.holds sc x c) (sc.relatedTo s r)

/-- Whether a subject passes one of the compounds, tried in order. -/
def Compound.anyHolds (sc : Scene) (s : Subject) : List Compound → Probe Bool
  | [] => pure false
  | c :: cs => do if ← Compound.holds sc s c then pure true else Compound.anyHolds sc s cs

/-- Whether a subject passes a selector list: one of its members, or none of them when
the list is negated. An empty list holds for nothing. -/
def SelectorList.holds (sc : Scene) (s : Subject) : SelectorList → Probe Bool
  | .mk [] _ => pure false
  | .mk items negated => do pure (negated != (← Compound.anyHolds sc s items))
end

/-- The elements below `scope` that pass a selector list, in document order. One
selection keeps one memory from element to element. -/
def SelectorList.selectIn (l : SelectorList) (doc : Document) (scope : Nat) :
    Except SelectorError (List Nat) :=
  let sc := Scene.of doc (some scope)
  let run : Probe (List Nat) :=
    (sc.descendantElements (.node scope)).filterM fun id => l.holds sc (.node id)
  (run.run' {})

/-- Whether an element passes a selector list, selection starting from it. -/
def SelectorList.matchesAt (l : SelectorList) (doc : Document) (id : Nat) :
    Except SelectorError Bool :=
  (l.holds (Scene.of doc (some id)) (.node id)).run' {}

end SearchPage.Selector
