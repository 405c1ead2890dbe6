import SearchPage.Proofs.Fallback
import SearchPage.Proofs.BuilderShape
import SearchPage.Proofs.Spans

/-!
# Selections in document order

A node set is searched one element member after another, and what each member gives is
appended, a node found again dropped. The answer is in document order when the member
ranges are searched in order and every match is decided by the page and the element alone:
the ranges of a nested document are laminar, so a later member either lies inside an
earlier one, whose search already found everything the later one finds, or starts after the
end of every earlier range.

Matching is decided by the page and the element alone for every selector that avoids three
things (`SelectorList.usesContext`): `:scope`, which names the element a search starts
from, and `:lang()` and `:has(~ …)`, whose answers depend on what one search has already
looked up (`Memory`). For such a selector the scope of a search is never read
(`SelectorList.holds_withScope`) and the memory is neither read nor changed
(`SelectorList.holds_steady`), so selecting below an element is filtering the elements below
it by matching each on its own (`SelectorList.selectIn_eq_filterM`).

With one of the three, the order can break: two searches of one page can disagree about an
element, and a later member then adds a node that lies before what an earlier member found
(`select_out_of_order`).

## Main statements

* `SelectorList.holds_withScope`, `SelectorList.holds_steady`: a selector without context
  decides each element alone.
* `Finder.alternative_nodes_eq`: one alternative over a node set filters the members' ranges.
* `firstOccurrences_searches_sorted`: ranges searched in order give nodes in order.
* `select_in_document_order`: what a selection finds is in document order.
-/

namespace SearchPage

open Selector

namespace Selector

/-! ## Selectors that read the page only -/

mutual

/-- Whether a test reads more than the page and its subject: `:scope`, or `:lang()`, whose
page language is remembered from the first lookup; or a test of a selector list that does. -/
def Test.usesContext : Test → Bool
  | .scope => true
  | .lang _ => true
  | .nth _ _ _ _ _ (some l) => SelectorList.usesContext l
  | .passes l => SelectorList.usesContext l
  | _ => false

/-- Whether one of a list of tests reads more than the page. -/
def Test.anyUsesContext : List Test → Bool
  | [] => false
  | t :: ts => Test.usesContext t || Test.anyUsesContext ts

/-- Whether a compound selector reads more than the page. -/
def Compound.usesContext : Compound → Bool
  | .never => false
  | .mk tests related => Test.anyUsesContext tests || Compound.relatedUsesContext related

/-- Whether a related compound reads more than the page: a later sibling, looked up in a
table the first search of a parent made, does. -/
def Compound.relatedUsesContext : Option (Relation × Compound) → Bool
  | none => false
  | some (.laterSibling _, _) => true
  | some (_, c) => Compound.usesContext c

/-- Whether one of a list of compounds reads more than the page. -/
def Compound.anyUsesContext : List Compound → Bool
  | [] => false
  | c :: cs => Compound.usesContext c || Compound.anyUsesContext cs

/-- Whether a selector list reads more than the page and its subject. -/
def SelectorList.usesContext : SelectorList → Bool
  | .mk items _ => Compound.anyUsesContext items

end

/-! ## The scope is read by `:scope` only -/

namespace Scene

variable (sc : Scene) (x : Option Nat)

theorem ancestorsOf_go_withScope :
    ∀ n s, ancestorsOf.go { sc with scope := x } n s = ancestorsOf.go sc n s
  | 0, _ => rfl
  | n + 1, s => by
    have hParent : ({ sc with scope := x } : Scene).parentOf s = sc.parentOf s := rfl
    simp only [ancestorsOf.go, hParent]
    split
    · rw [ancestorsOf_go_withScope n]
    · rfl

theorem ancestorsOf_withScope (s : Subject) :
    ({ sc with scope := x } : Scene).ancestorsOf s = sc.ancestorsOf s :=
  ancestorsOf_go_withScope sc x _ s

theorem frameChain_withScope (s : Subject) :
    ({ sc with scope := x } : Scene).frameChain s = sc.frameChain s := by
  simp only [frameChain, ancestorsOf_withScope]
  rfl

theorem formAbove_withScope (s : Subject) :
    ({ sc with scope := x } : Scene).formAbove s = sc.formAbove s := by
  simp only [formAbove, frameChain_withScope]

theorem isDefaultButton_withScope (s : Subject) :
    ({ sc with scope := x } : Scene).isDefaultButton s = sc.isDefaultButton s := by
  simp only [isDefaultButton, formAbove_withScope]
  rfl

theorem isUncheckedGroup_withScope (s : Subject) :
    ({ sc with scope := x } : Scene).isUncheckedGroup s = sc.isUncheckedGroup s := by
  simp only [isUncheckedGroup, groupHolder, formAbove_withScope, frameChain_withScope]
  rfl

theorem textDirection_withScope :
    ∀ n id, ({ sc with scope := x } : Scene).textDirection n id = sc.textDirection n id
  | 0, _ => rfl
  | n + 1, id => by
    simp only [textDirection, textDirection_withScope n]
    rfl

theorem directionOf_withScope :
    ∀ n s, ({ sc with scope := x } : Scene).directionOf n s = sc.directionOf n s
  | 0, _ => rfl
  | _ + 1, .document => rfl
  | n + 1, .node id => by
    simp only [directionOf, directionOf_withScope n, textDirection_withScope]
    rfl

theorem relatedTo_withScope (s : Subject) (r : Relation) :
    ({ sc with scope := x } : Scene).relatedTo s r = sc.relatedTo s r := by
  cases r with
  | ancestor => exact ancestorsOf_withScope sc x s
  | _ => rfl

end Scene

section withScope

variable (sc : Scene) (x : Option Nat)

/-- A test other than `:scope` that looks at the page only does not read the scope. -/
theorem Test.holdsPlain_withScope {t : Test} (ht : t ≠ .scope) (s : Subject) :
    t.holdsPlain { sc with scope := x } s = t.holdsPlain sc s := by
  cases t with
  | scope => exact absurd rfl ht
  | direction ltr => simp only [Test.holdsPlain, Scene.directionOf_withScope]
  | defaultButton => simp only [Test.holdsPlain, Scene.isDefaultButton_withScope]
  | uncheckedGroup => simp only [Test.holdsPlain, Scene.isUncheckedGroup_withScope]
  | _ => rfl

mutual

theorem Test.holds_withScope : ∀ (t : Test), t.usesContext = false →
    ∀ s, Test.holds { sc with scope := x } s t = Test.holds sc s t
  | .nth _ _ _ _ _ none, _, _ => rfl
  | .nth _ _ _ _ _ (some l), h, _ => by
    simp only [Test.holds, SelectorList.holds_withScope l h]
    rfl
  | .passes l, h, s => SelectorList.holds_withScope l h s
  | .scope, h, _ | .lang _, h, _ => by simp [Test.usesContext] at h
  | .inRange _, _, _ => rfl
  | .tag .., _, s | .id _, _, s | .cls _, _, s | .attr _, _, s | .root, _, s | .empty, _, s
  | .defined, _, s | .containsText _, _, s | .direction _, _, s | .defaultButton, _, s
  | .uncheckedGroup, _, s | .noContent, _, s =>
    congrArg pure (Test.holdsPlain_withScope sc x (by simp) s)

theorem Test.allHold_withScope : ∀ (ts : List Test), Test.anyUsesContext ts = false →
    ∀ s early, Test.allHold { sc with scope := x } s early ts = Test.allHold sc s early ts
  | [], _, _, _ => rfl
  | t :: ts, h, s, early => by
    simp only [Test.anyUsesContext, Bool.or_eq_false_iff] at h
    simp only [Test.allHold, Test.holds_withScope t h.1 s, Test.allHold_withScope ts h.2 s early]

theorem Compound.holds_withScope : ∀ (c : Compound), c.usesContext = false →
    ∀ s, Compound.holds { sc with scope := x } s c = Compound.holds sc s c
  | .never, _, _ => rfl
  | .mk tests related, h, s => by
    simp only [Compound.usesContext, Bool.or_eq_false_iff] at h
    simp only [Compound.holds, Test.allHold_withScope tests h.1 s,
      Compound.relatedHolds_withScope related h.2 s]

theorem Compound.relatedHolds_withScope : ∀ (r : Option (Relation × Compound)),
    Compound.relatedUsesContext r = false →
    ∀ s, Compound.relatedHolds { sc with scope := x } s r = Compound.relatedHolds sc s r
  | none, _, _ => rfl
  | some (.laterSibling _, _), h, _ => by simp [Compound.relatedUsesContext] at h
  | some (.ancestor, c), h, s | some (.parent, c), h, s | some (.earlierSibling, c), h, s
  | some (.previousSibling, c), h, s | some (.descendant, c), h, s | some (.child, c), h, s
  | some (.nextSibling, c), h, s => by
    simp only [Compound.relatedHolds, Compound.holds_withScope c h, Scene.relatedTo_withScope]

theorem Compound.anyHolds_withScope : ∀ (cs : List Compound), Compound.anyUsesContext cs = false →
    ∀ s, Compound.anyHolds { sc with scope := x } s cs = Compound.anyHolds sc s cs
  | [], _, _ => rfl
  | c :: cs, h, s => by
    simp only [Compound.anyUsesContext, Bool.or_eq_false_iff] at h
    simp only [Compound.anyHolds, Compound.holds_withScope c h.1 s,
      Compound.anyHolds_withScope cs h.2 s]

/-- A selector without context does not read the element its search starts from. -/
theorem SelectorList.holds_withScope : ∀ (l : SelectorList), l.usesContext = false →
    ∀ s, SelectorList.holds { sc with scope := x } s l = SelectorList.holds sc s l
  | .mk [] _, _, _ => rfl
  | .mk (c :: cs) _, h, s => by
    simp only [SelectorList.holds, Compound.anyHolds_withScope (c :: cs) h s]

end

end withScope

/-! ## Matching that leaves the memory alone -/

/-- A step of matching that gives one answer from every memory and leaves the memory as it
found it. -/
def Probe.Steady {α : Type} (x : Probe α) : Prop :=
  ∃ r : Except SelectorError α, ∀ m, x.run m = (fun a => (a, m)) <$> r

section Steady

variable {α β : Type}

theorem Probe.steady_pure (a : α) : (pure a : Probe α).Steady := ⟨pure a, fun _ => rfl⟩

theorem Probe.steady_throw (e : SelectorError) : (throw e : Probe α).Steady :=
  ⟨.error e, fun _ => rfl⟩

theorem Probe.steady_lift (e : Except SelectorError α) : Probe.Steady (StateT.lift e : Probe α) :=
  ⟨e, fun _ => by cases e <;> rfl⟩

theorem Probe.Steady.bind {x : Probe α} {f : α → Probe β} (hx : x.Steady)
    (hf : ∀ a, (f a).Steady) : (x >>= f).Steady := by
  obtain ⟨r, hr⟩ := hx
  choose g hg using hf
  refine ⟨r >>= g, fun m => ?_⟩
  rw [StateT.run_bind, hr m]
  cases r with
  | error e => rfl
  | ok a => exact hg a m

/-- A steady step answers what it answers from the empty memory. -/
theorem Probe.Steady.run_eq {x : Probe α} (hx : x.Steady) (m : Memory) :
    x.run m = (fun a => (a, m)) <$> x.run' {} := by
  obtain ⟨r, hr⟩ := hx
  rw [hr m, StateT.run'_eq, hr {}]
  cases r <;> rfl

theorem steady_anyM {p : α → Probe Bool} (hp : ∀ a, (p a).Steady) :
    ∀ xs : List α, (anyM p xs).Steady
  | [] => Probe.steady_pure false
  | x :: xs => (hp x).bind fun found => by
    cases found with
    | true => exact Probe.steady_pure true
    | false => exact steady_anyM hp xs

theorem steady_positionOf {counts : α → Probe Bool} (hc : ∀ a, (counts a).Steady)
    (isSelf : α → Bool) : ∀ (walk : List α) (n : Nat),
      (Position.positionOf counts isSelf walk n).Steady
  | [], _ => Probe.steady_pure none
  | c :: rest, n => (hc c).bind fun counted => by
    cases counted with
    | false => exact steady_positionOf hc isSelf rest n
    | true =>
      cases isSelf c with
      | true => exact Probe.steady_pure _
      | false => exact steady_positionOf hc isSelf rest (n + 1)

theorem steady_positionHolds {counts : α → Probe Bool} (hc : ∀ a, (counts a).Steady)
    (isSelf : α → Bool) (a b : Int) (stepped : Bool) (walk : List α) :
    (Position.holds counts isSelf a b stepped walk).Steady :=
  (steady_positionOf hc isSelf walk 0).bind fun pos => by
    cases pos <;> exact Probe.steady_pure _

/-- A monadic filter whose test is steady runs as the filter of the tests' answers. -/
theorem run_filterM_of_steady {p : α → Probe Bool} :
    ∀ {xs : List α}, (∀ y ∈ xs, (p y).Steady) →
      ∀ m, (xs.filterM p).run m = (fun ys => (ys, m)) <$> xs.filterM fun y => (p y).run' {}
  | [], _, m => by simp [List.filterM, List.filterAuxM]
  | y :: ys, h, m => by
    rw [filterM_cons, filterM_cons, StateT.run_bind, (h y List.mem_cons_self).run_eq m]
    cases (p y).run' {} with
    | error e => rfl
    | ok keep =>
      rw [show (Except.ok keep : Except SelectorError Bool) = pure keep from rfl]
      simp only [map_pure, pure_bind]
      rw [StateT.run_bind, run_filterM_of_steady (fun z hz => h z (List.mem_cons_of_mem y hz)) m]
      cases ys.filterM (fun z => (p z).run' {}) <;> rfl

end Steady

section steadyHolds

variable (sc : Scene)

mutual

theorem Test.holds_steady : ∀ (t : Test), t.usesContext = false →
    ∀ s, (Test.holds sc s t).Steady
  | .nth a stepped b ofType fromEnd filter, h, s => by
    have hPasses : ∀ y, (match filter with
        | some l => SelectorList.holds sc y l
        | none => pure true : Probe Bool).Steady := by
      intro y
      cases filter with
      | none => exact Probe.steady_pure true
      | some l => exact SelectorList.holds_steady l h y
    have hVerdict : ∀ verdict : Option Bool, (match verdict with
        | some v => pure v
        | none => throw .quotientOverflow : Probe Bool).Steady := by
      intro verdict
      cases verdict with
      | none => exact Probe.steady_throw _
      | some v => exact Probe.steady_pure v
    unfold Test.holds
    dsimp only
    refine (hPasses s).bind fun passed => ?_
    split
    · exact Probe.steady_pure false
    · -- the position is counted among the siblings, each asked the filter once
      cases s with
      | document => exact (steady_positionHolds hPasses _ _ _ _ _).bind hVerdict
      | node id =>
        exact (steady_positionHolds (fun c => (hPasses _).bind fun _ => Probe.steady_pure _)
          _ _ _ _ _).bind hVerdict
  | .passes l, h, s => SelectorList.holds_steady l h s
  | .scope, h, _ | .lang _, h, _ => by simp [Test.usesContext] at h
  | .inRange _, _, _ => Probe.steady_lift _
  | .tag .., _, _ | .id _, _, _ | .cls _, _, _ | .attr _, _, _ | .root, _, _ | .empty, _, _
  | .defined, _, _ | .containsText _, _, _ | .direction _, _, _ | .defaultButton, _, _
  | .uncheckedGroup, _, _ | .noContent, _, _ => Probe.steady_pure _

theorem Test.allHold_steady : ∀ (ts : List Test), Test.anyUsesContext ts = false →
    ∀ s early, (Test.allHold sc s early ts).Steady
  | [], _, _, _ => Probe.steady_pure true
  | t :: ts, h, s, early => by
    simp only [Test.anyUsesContext, Bool.or_eq_false_iff] at h
    unfold Test.allHold
    split
    · refine (Test.holds_steady t h.1 s).bind fun passed => ?_
      cases passed with
      | true => exact Test.allHold_steady ts h.2 s early
      | false => exact Probe.steady_pure false
    · exact Test.allHold_steady ts h.2 s early

theorem Compound.holds_steady : ∀ (c : Compound), c.usesContext = false →
    ∀ s, (Compound.holds sc s c).Steady
  | .never, _, _ => Probe.steady_pure false
  | .mk tests related, h, s => by
    simp only [Compound.usesContext, Bool.or_eq_false_iff] at h
    unfold Compound.holds
    refine (Test.allHold_steady tests h.1 s true).bind fun early => ?_
    cases early with
    | false => exact Probe.steady_pure false
    | true =>
      refine (Compound.relatedHolds_steady related h.2 s).bind fun found => ?_
      cases found with
      | false => exact Probe.steady_pure false
      | true => exact Test.allHold_steady tests h.1 s false

theorem Compound.relatedHolds_steady : ∀ (r : Option (Relation × Compound)),
    Compound.relatedUsesContext r = false → ∀ s, (Compound.relatedHolds sc s r).Steady
  | none, _, _ => Probe.steady_pure true
  | some (.laterSibling _, _), h, _ => by simp [Compound.relatedUsesContext] at h
  | some (.ancestor, c), h, _ | some (.parent, c), h, _ | some (.earlierSibling, c), h, _
  | some (.previousSibling, c), h, _ | some (.descendant, c), h, _ | some (.child, c), h, _
  | some (.nextSibling, c), h, _ =>
    steady_anyM (fun x => Compound.holds_steady c h x) _

theorem Compound.anyHolds_steady : ∀ (cs : List Compound), Compound.anyUsesContext cs = false →
    ∀ s, (Compound.anyHolds sc s cs).Steady
  | [], _, _ => Probe.steady_pure false
  | c :: cs, h, s => by
    simp only [Compound.anyUsesContext, Bool.or_eq_false_iff] at h
    refine (Compound.holds_steady c h.1 s).bind fun found => ?_
    cases found with
    | true => exact Probe.steady_pure true
    | false => exact Compound.anyHolds_steady cs h.2 s

/-- A selector without context is matched without reading or changing the memory. -/
theorem SelectorList.holds_steady : ∀ (l : SelectorList), l.usesContext = false →
    ∀ s, (SelectorList.holds sc s l).Steady
  | .mk [] _, _, _ => Probe.steady_pure false
  | .mk (c :: cs) _, h, s =>
    (Compound.anyHolds_steady (c :: cs) h s).bind fun _ => Probe.steady_pure _

end

end steadyHolds

namespace SelectorList

variable {l : SelectorList} (hl : l.usesContext = false) (doc : Document)
include hl

/-- Searches of a selector without context, started from any two elements, match an element
alike. -/
theorem holds_of_scope (a b : Option Nat) (s : Subject) :
    l.holds (Scene.of doc a) s = l.holds (Scene.of doc b) s := by
  have hScene : Scene.of doc a = { Scene.of doc b with scope := a } := rfl
  rw [hScene, holds_withScope _ a l hl s]

/-- Selecting below an element with a selector without context filters the elements below it
by matching each on its own. -/
theorem selectIn_eq_filterM (scope : Nat) :
    l.selectIn doc scope = ((doc.descendants scope).filter doc.isElement).filterM
      (l.matchesAt doc) := by
  have hAlone : ∀ y, (l.holds (Scene.of doc (some scope)) (.node y)).run' {} =
      l.matchesAt doc y := by
    intro y
    rw [matchesAt, holds_of_scope hl doc (some scope) (some y)]
  unfold selectIn
  rw [StateT.run'_eq, run_filterM_of_steady (fun y _ => holds_steady _ l hl (.node y)) {}]
  simp only [hAlone, Functor.map_map, id_map']
  rfl

end SelectorList

end Selector

/-! ## Filters that succeed -/

section Filters

variable {ε ε' α : Type}

/-- A monadic filter in `Except` that succeeds keeps the members whose test answered `true`. -/
theorem filterM_eq_ok_filter {p : α → Except ε Bool} {xs ys : List α}
    (h : xs.filterM p = .ok ys) : ys = xs.filter fun x => (p x).toOption == some true := by
  induction xs generalizing ys with
  | nil =>
    simp only [List.filterM, List.filterAuxM, pure_bind, pure_eq_ok] at h
    simp [← h]
  | cons x xs ih =>
    simp only [filterM_cons, bind_eq_ok, pure_eq_ok] at h
    obtain ⟨keep, hx, rest, hRest, rfl⟩ := h
    rw [List.filter_cons, hx, ← ih hRest]
    cases keep <;> rfl

theorem filterM_mapError (p : α → Except ε Bool) (g : ε → ε') :
    ∀ xs : List α, (xs.filterM p).mapError g = xs.filterM fun x => (p x).mapError g
  | [] => rfl
  | x :: xs => by
    rw [filterM_cons, filterM_cons, ← filterM_mapError p g xs]
    cases p x with
    | error e => rfl
    | ok keep => cases xs.filterM p <;> rfl

/-- A successful `mapM` whose function gives a known output for each input gives those
outputs. -/
theorem mapM_eq_ok_map {β : Type} {f : α → Except ε β} {g : α → β}
    (hg : ∀ x y, f x = .ok y → y = g x) {xs : List α} {ys : List β} (h : xs.mapM f = .ok ys) :
    ys = xs.map g := by
  induction xs generalizing ys with
  | nil =>
    simp only [List.mapM_nil, pure_eq_ok] at h
    exact h.symm
  | cons x xs ih =>
    simp only [List.mapM_cons, bind_eq_ok, pure_eq_ok] at h
    obtain ⟨y, hy, rest, hRest, rfl⟩ := h
    rw [List.map_cons, hg x y hy, ih hRest]

end Filters

/-! ## Finders that read the page only -/

namespace Finder

/-- Whether a finder decides each element by the page and the element alone: a tag test, or
a CSS selector without context. A selector that does not compile counts: it is refused
before any element is matched. -/
def readsPageOnly : Finder → Bool
  | .css selector => match compile selector with
    | .ok l => !l.usesContext
    | .error _ => true
  | .test _ => true
  | .unusable | .unlisted => false

variable {doc : Document} {f : Finder}

theorem isAlternative_of_readsPageOnly (hf : f.readsPageOnly = true) : f.isAlternative = true := by
  cases f <;> simp_all [readsPageOnly, isAlternative]

/-- Once a finder without context has matched one element, it finds below any element the
elements that match on their own, in order. -/
theorem matchesBelow_eq_filterM (hf : f.readsPageOnly = true) {s : Nat} {b : Bool}
    (hs : f.matchesSelf doc s = .ok b) (t : Nat) :
    f.matchesBelow doc t = ((doc.descendants t).filter doc.isElement).filterM (f.matchesSelf doc) := by
  cases f with
  | css selector =>
    cases hc : compile selector with
    | error e =>
      simp only [matchesSelf, hc] at hs
      cases hs
    | ok l =>
      have hl : l.usesContext = false := by simpa [readsPageOnly, hc] using hf
      have hSelf : ∀ n, (Finder.css selector).matchesSelf doc n = (l.matchesAt doc n).mapError .selector :=
        fun n => by simp only [matchesSelf, hc]; rfl
      simp only [matchesBelow, hc, hSelf]
      show (l.selectIn doc t).mapError Fault.selector = _
      rw [SelectorList.selectIn_eq_filterM hl]
      exact filterM_mapError _ _ _
  | test t => rfl
  | unusable | unlisted => cases hf

/-- A finder without context, run on an element member, finds the elements that match among
the member and the elements below it, in order. -/
theorem searchMember_eq (hf : f.readsPageOnly = true) {s : Nat} (hs : doc.isElement s = true) :
    (do
      let self ← f.matchesSelf doc s
      let below ← f.matchesBelow doc s
      pure ((if self then [s] else []) ++ below)) =
      ((s :: doc.descendants s).filter doc.isElement).filterM (f.matchesSelf doc) := by
  rw [List.filter_cons_of_pos hs, filterM_cons]
  cases hSelf : f.matchesSelf doc s with
  | error e => rfl
  | ok b =>
    rw [matchesBelow_eq_filterM hf hSelf s]
    cases ((doc.descendants s).filter doc.isElement).filterM (f.matchesSelf doc) with
    | error e => rfl
    | ok rest => cases b <;> rfl

/-- One alternative without context over a node set filters, member after member, the member
and the elements below it, then keeps first occurrences. -/
theorem alternative_nodes_eq (hf : f.readsPageOnly = true) (ids : List (Option Nat)) :
    f.alternative doc (.nodes ids) = (do
      let found ← ((ids.filterMap id).filter doc.isElement).mapM fun s =>
        ((s :: doc.descendants s).filter doc.isElement).filterM (f.matchesSelf doc)
      pure (firstOccurrences found.flatten)) := by
  simp only [alternative]
  rw [mapM_congr_of_mem fun s hs => searchMember_eq hf (List.mem_filter.mp hs).2]

end Finder

/-! ## Searches in order give nodes in order -/

theorem firstOccurrences_append (xs ys : List Nat) :
    firstOccurrences (xs ++ ys) =
      firstOccurrences xs ++ (firstOccurrences ys).filter fun y => !xs.contains y := by
  induction xs with
  | nil => simp [firstOccurrences]
  | cons x xs ih =>
    rw [List.cons_append, firstOccurrences, ih, List.filter_append, firstOccurrences,
      List.cons_append, List.filter_filter]
    congr 2
    apply List.filter_congr
    intro y _
    simp only [List.contains_cons, Bool.not_or, bne]

/-- A node lies at or below `s` when it is `s` or falls in the range of `s`. -/
theorem mem_self_descendants {d : Document} {s n : Nat} :
    n ∈ s :: d.descendants s ↔ n = s ∨ (s < n ∧ n < d.stop s) := by
  simp only [List.mem_cons, Document.descendants, List.mem_range'_1]
  omega

/-- Searching elements in order, each together with the nodes below it, and keeping first
occurrences gives nodes in order: a node that a later element finds and no earlier one did
lies past everything the earlier ones found, since an earlier element's search would have
found it had it lain before the end of that element's range. -/
theorem firstOccurrences_searches_sorted (d : Document) (Q : Nat → Bool) :
    ∀ {S : List Nat}, S.Pairwise (· ≤ ·) →
      (firstOccurrences (S.flatMap fun s => (s :: d.descendants s).filter Q)).Pairwise (· < ·)
  | [], _ => by simp [firstOccurrences]
  | s :: S, hS => by
    obtain ⟨hFirst, hRest⟩ := List.pairwise_cons.mp hS
    have hBlock : ((s :: d.descendants s).filter Q).Pairwise (· < ·) := by
      refine List.Pairwise.filter _ (List.pairwise_cons.mpr ⟨fun n hn => ?_, ?_⟩)
      · simp only [Document.descendants, List.mem_range'_1] at hn
        omega
      · exact List.pairwise_lt_range'
    rw [List.flatMap_cons, firstOccurrences_append,
      firstOccurrences_eq_self (hBlock.imp Nat.ne_of_lt)]
    refine List.pairwise_append.mpr
      ⟨hBlock, (firstOccurrences_searches_sorted d Q hRest).filter _, fun a ha b hb => ?_⟩
    obtain ⟨hbFound, hbNew⟩ := List.mem_filter.mp hb
    obtain ⟨s', hs', hbs'⟩ := List.mem_flatMap.mp (mem_firstOccurrences.mp hbFound)
    obtain ⟨hbIn, hQb⟩ := List.mem_filter.mp hbs'
    have hss' : s ≤ s' := hFirst s' hs'
    have hb := (mem_self_descendants (d := d)).mp hbIn
    have ha := (mem_self_descendants (d := d)).mp (List.mem_filter.mp ha).1
    -- `b` is new, so it is not `s` and does not lie in the range of `s`
    have hbOut : ¬ (b = s ∨ (s < b ∧ b < d.stop s)) := fun hIn => by
      have hMem : b ∈ (s :: d.descendants s).filter Q :=
        List.mem_filter.mpr ⟨(mem_self_descendants (d := d)).mpr hIn, hQb⟩
      simp [hMem] at hbNew
    omega

namespace Finder

variable {doc : Document} {f : Finder}

/-- One alternative without context over a node set whose element members are in order finds
nodes in order. -/
theorem alternative_nodes_sorted (hf : f.readsPageOnly = true) {ids : List (Option Nat)}
    (hSorted : ((ids.filterMap id).filter doc.isElement).Pairwise (· ≤ ·)) {ns : List Nat}
    (h : f.alternative doc (.nodes ids) = .ok ns) : ns.Pairwise (· < ·) := by
  rw [alternative_nodes_eq hf ids, bind_eq_ok] at h
  obtain ⟨found, hFound, hns⟩ := h
  rw [pure_eq_ok] at hns
  subst hns
  -- every member's search filters the member's range by one test, the same for all members
  have hBlocks := mapM_eq_ok_map (g := fun s => (s :: doc.descendants s).filter fun n =>
      (f.matchesSelf doc n).toOption == some true && doc.isElement n)
    (fun s ys hys => by rw [filterM_eq_ok_filter hys, List.filter_filter]) hFound
  rw [hBlocks, ← List.flatMap_def]
  exact firstOccurrences_searches_sorted doc _ hSorted

end Finder

/-! ## What a selection finds -/

section Query

variable {doc : Document} {q : Query}

/-- What a query of alternatives finds has every property that holds of nothing and of the
answer of each alternative. -/
theorem select_of_alternatives {P : List Nat → Prop} (hNil : P [])
    (hq : ∀ f ∈ q, f.isAlternative = true) {target : Target}
    (hAlt : ∀ f ∈ q, ∀ ns, f.alternative doc target = .ok ns → P ns) {ns : List Nat}
    (h : select doc (some q) target = .ok ns) : P ns := by
  by_cases hGiven : target.isGiven = true
  · rw [select_eq_firstNonEmpty hq hGiven] at h
    rcases firstNonEmpty_eq_ok h with rfl | hMem
    · exact hNil
    · obtain ⟨f, hf, hfa⟩ := List.mem_map.mp hMem
      exact hAlt f hf ns hfa
  · -- a target that is not given is not searched
    simp only [select, hGiven, Bool.false_eq_true, if_false, pure_eq_ok] at h
    exact h ▸ hNil

/-- Below a lone node a query finds nodes in order. -/
theorem select_node_sorted (hq : ∀ f ∈ q, f.isAlternative = true) {t : Nat} {ns : List Nat}
    (h : select doc (some q) (.node t) = .ok ns) : ns.Pairwise (· < ·) :=
  List.Pairwise.sublist (select_node_sublist hq h) List.pairwise_lt_range'

/-- The element first, when it is kept, then nodes below it: nodes in order. -/
theorem self_append_below_sorted {el : Nat} {below : List Nat}
    (hBelow : below.Sublist (doc.descendants el)) (self : Bool) :
    ((if self then [el] else []) ++ below).Pairwise (· < ·) := by
  have hBelowSorted := List.Pairwise.sublist hBelow (List.pairwise_lt_range' (s := el + 1))
  cases self with
  | false => exact hBelowSorted
  | true =>
    refine List.pairwise_cons.mpr ⟨fun n hn => ?_, hBelowSorted⟩
    have hn' := hBelow.subset hn
    simp only [Document.descendants, List.mem_range'_1] at hn'
    omega

/-- One alternative over a node set of one element finds nothing, or the element when it
matches followed by the elements that match below it. -/
theorem Finder.alternative_member {f : Finder} {el : Nat} {ns : List Nat}
    (h : f.alternative doc (.nodes [some el]) = .ok ns) :
    ns = [] ∨ ∃ (self : Bool) (below : List Nat), f.matchesBelow doc el = .ok below ∧
      ns = (if self then [el] else []) ++ below := by
  simp only [Finder.alternative, List.filterMap_cons, id, List.filterMap_nil, List.filter_cons,
    List.filter_nil] at h
  split at h
  · obtain ⟨found, hFound, h⟩ := bind_eq_ok.mp h
    rw [pure_eq_ok] at h
    subst h
    -- the one member's search: the member when it matches, then what lies below it
    obtain ⟨ys, hys, rfl⟩ : ∃ ys, (do
        let self ← f.matchesSelf doc el
        let below ← f.matchesBelow doc el
        pure ((if self then [el] else []) ++ below)) = .ok ys ∧ found = [ys] := by
      cases mapM_ok hFound with
      | cons hy hRest =>
        cases hRest
        exact ⟨_, hy, rfl⟩
    obtain ⟨self, -, hys⟩ := bind_eq_ok.mp hys
    obtain ⟨below, hBelow, hys⟩ := bind_eq_ok.mp hys
    rw [pure_eq_ok] at hys
    subst hys
    have hSorted := self_append_below_sorted (Finder.matchesBelow_sublist hBelow) self
    refine Or.inr ⟨self, below, hBelow, ?_⟩
    rw [List.flatten_cons, List.flatten_nil, List.append_nil,
      firstOccurrences_eq_self (hSorted.imp Nat.ne_of_lt)]
  · rw [List.mapM_nil, pure_bind, pure_eq_ok] at h
    exact Or.inl h.symm

/-- In a node set of one element a query finds nodes in order: the element first, when it
matches, then nodes below it. -/
theorem select_member_sorted (hq : ∀ f ∈ q, f.isAlternative = true) {el : Nat} {ns : List Nat}
    (h : select doc (some q) (.nodes [some el]) = .ok ns) : ns.Pairwise (· < ·) := by
  refine select_of_alternatives List.Pairwise.nil hq (fun f _ ns hns => ?_) h
  rcases Finder.alternative_member hns with rfl | ⟨self, below, hBelow, rfl⟩
  · exact List.Pairwise.nil
  · exact self_append_below_sorted (Finder.matchesBelow_sublist hBelow) self

/-- In a node set whose element members are in order, a query of alternatives without context
finds nodes in order. -/
theorem select_nodes_sorted (hq : ∀ f ∈ q, f.readsPageOnly = true) {ids : List (Option Nat)}
    (hSorted : ((ids.filterMap id).filter doc.isElement).Pairwise (· ≤ ·)) {ns : List Nat}
    (h : select doc (some q) (.nodes ids) = .ok ns) : ns.Pairwise (· < ·) :=
  select_of_alternatives List.Pairwise.nil
    (fun f hf => Finder.isAlternative_of_readsPageOnly (hq f hf))
    (fun f hf _ hns => Finder.alternative_nodes_sorted (hq f hf) hSorted hns) h

end Query

/-- The chain that finds the top containers of a page decides each element alone. -/
theorem containers_readPageOnly :
    (Chains.initial.query "containers").toOption.map (·.all Finder.readsPageOnly) = some true := by
  decide +kernel

/-- Over the top nodes of a nested document the containers are found in order. -/
theorem containers_sorted {doc : Document} (hn : doc.Nested) {ns : List Nat}
    (h : selectBy doc Chains.initial "containers" (.nodes (doc.roots.toList.map some)) = .ok ns) :
    ns.Pairwise (· < ·) := by
  obtain ⟨q, hq, hSel⟩ := bind_eq_ok.mp h
  have hAll : q.all Finder.readsPageOnly = true := by
    simpa [hq, Except.toOption] using containers_readPageOnly
  -- the top nodes are the nodes without a parent, in order
  have hRoots : ((doc.roots.toList.map some).filterMap id).Pairwise (· < ·) := by
    rw [List.filterMap_map, show (id ∘ some : Nat → Option Nat) = some from rfl,
      List.filterMap_some, hn.roots_eq]
    exact List.pairwise_lt_range.filter _
  exact select_nodes_sorted (fun f hf => List.all_eq_true.mp hAll f hf)
    ((hRoots.filter _).imp Nat.le_of_lt) hSel

/-- What a query finds in a page is in document order, for every query of CSS selectors and tag
tests over a lone node or a node set of one element; for every such query without context
(no `:scope`, `:lang()` or `:has(~ …)`) over a node set whose element members are in order;
and for the chain that finds the top containers, over the top nodes. -/
theorem select_in_document_order {markup : String} {withSpans : Bool} {doc : Document}
    (h : Document.parse markup withSpans = .ok doc) :
    (∀ (q : Query) (t : Nat) (ns : List Nat), (∀ f ∈ q, f.isAlternative = true) →
      select doc (some q) (.node t) = .ok ns → ns.Pairwise (· < ·)) ∧
    (∀ (q : Query) (el : Nat) (ns : List Nat), (∀ f ∈ q, f.isAlternative = true) →
      select doc (some q) (.nodes [some el]) = .ok ns → ns.Pairwise (· < ·)) ∧
    (∀ (q : Query) (ids : List (Option Nat)) (ns : List Nat), (∀ f ∈ q, f.readsPageOnly = true) →
      ((ids.filterMap id).filter doc.isElement).Pairwise (· ≤ ·) →
      select doc (some q) (.nodes ids) = .ok ns → ns.Pairwise (· < ·)) ∧
    (∀ ns, selectBy doc Chains.initial "containers" (.nodes (doc.roots.toList.map some)) = .ok ns →
      ns.Pairwise (· < ·)) :=
  ⟨fun _ _ _ hq hSel => select_node_sorted hq hSel,
    fun _ _ _ hq hSel => select_member_sorted hq hSel,
    fun _ _ _ hq hSorted hSel => select_nodes_sorted hq hSorted hSel,
    fun _ hSel => containers_sorted (Document.ofMarkup_nested (Document.ofMarkup_of_parse h)) hSel⟩

/-- What a page's selection gives, read off an evaluation of reading the page and selecting. -/
theorem select_eq_of_eval {markup : String} {withSpans : Bool} {doc : Document} {q : Option Query}
    {target : Target} {ns : List Nat} (h : Document.parse markup withSpans = .ok doc)
    (hEval : ((Document.parse markup withSpans).toOption.bind fun d =>
      (select d q target).toOption) = some ns) : select doc q target = .ok ns := by
  rw [h] at hEval
  cases hSel : select doc q target with
  | error e => simp [Except.toOption, hSel] at hEval
  | ok found => simpa [Except.toOption, hSel] using hEval

/-- In a page with a `div` holding a paragraph beside another paragraph, a search from the outer
`div` and one from the inner finds the paragraphs once each, in order. -/
theorem document_order_of_nested_divs :
    ∃ d, Document.parse "<div><p>a</p><div><p>b</p></div></div>" true = .ok d ∧
      select d (some [.css "p"]) (.nodes [some 0, some 3]) = .ok [1, 4] ∧
      [1, 4].Pairwise (· < ·) := by
  obtain ⟨d, h⟩ := exists_ok_of_isOk (show
    (Document.parse "<div><p>a</p><div><p>b</p></div></div>" true).isOk = true by decide +kernel)
  have hSel : select d (some [.css "p"]) (.nodes [some 0, some 3]) = .ok [1, 4] :=
    select_eq_of_eval h (by decide +kernel)
  have hMembers : (([some 0, some 3].filterMap id).filter d.isElement).Pairwise (· ≤ ·) :=
    List.Pairwise.sublist List.filter_sublist (by decide)
  exact ⟨d, h, hSel, (select_in_document_order h).2.2.1 _ _ _ (by decide +kernel) hMembers hSel⟩

/-- With `:lang()` or `:has(~ …)`, members in order can give nodes out of order. Searching from
`body`, `:not(:lang(''))` holds for the `div`, where the page's language is first looked up and
found missing, not for the first paragraph, by then of the empty language remembered for the
page, and for the second, which has its own; the search from the `div` looks the page's
language up afresh, so the first paragraph comes after the second. Likewise the table of later
siblings that `:has(~ b)` makes at the first search among the children of a `div` is read one
place further on by every later search there: the search from the `div` misses its last
paragraph, which the search from that paragraph, with a table of its own, finds after the
`b`. -/
theorem select_out_of_order :
    (∃ d, Document.parse
        "<html><head></head><body><div><p>a</p></div><p lang=\"en\">b</p></body></html>" true =
          .ok d ∧
      (compile ":not(:lang(''))").toOption.map
        (·.same (.mk [.mk [.passes (.mk [.mk [.lang [[""]]] none] true)] none] false)) = some true ∧
      (([some 2, some 3].filterMap id).filter d.isElement).Pairwise (· ≤ ·) ∧
      select d (some [.css ":not(:lang(''))"]) (.nodes [some 2, some 3]) = .ok [2, 3, 6, 4] ∧
      ¬ [2, 3, 6, 4].Pairwise (· < ·)) ∧
    (∃ d, Document.parse "<div><p>a</p><p>b</p><p>c</p><b>d</b></div>" true = .ok d ∧
      (([some 0, some 5].filterMap id).filter d.isElement).Pairwise (· ≤ ·) ∧
      select d (some [.css "p:has(~ b), b"]) (.nodes [some 0, some 5]) = .ok [1, 3, 7, 5] ∧
      ¬ [1, 3, 7, 5].Pairwise (· < ·)) := by
  constructor
  · obtain ⟨d, h⟩ := exists_ok_of_isOk (show (Document.parse
      "<html><head></head><body><div><p>a</p></div><p lang=\"en\">b</p></body></html>"
        true).isOk = true by decide +kernel)
    exact ⟨d, h, by decide +kernel, List.Pairwise.sublist List.filter_sublist (by decide),
      select_eq_of_eval h (by decide +kernel), by decide⟩
  · obtain ⟨d, h⟩ := exists_ok_of_isOk (show (Document.parse
      "<div><p>a</p><p>b</p><p>c</p><b>d</b></div>" true).isOk = true by decide +kernel)
    exact ⟨d, h, List.Pairwise.sublist List.filter_sublist (by decide),
      select_eq_of_eval h (by decide +kernel), by decide⟩

end SearchPage
