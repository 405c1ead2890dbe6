import SearchPage.Extract.Apply
import SearchPage.Proofs.Outcomes

/-!
# Runs that cannot fail

Matching a selector fails only at two kinds of test: a position test whose quotient does not
fit a double, and a bounds test on a field value that cannot be read. A selector without
either (`SelectorList.mayFault` false) is matched without fault, against any subject and from
any memory of the selection (`SelectorList.holds_total`). A query whose alternatives are
all such selectors, compiled without error (`isSafeQuery`), is run without fault on any
target (`select_returns`), and so is an extraction whose queries are all safe and whose
settings name an attribute and a separator as text (`Extraction.Sound`,
`Extraction.apply_returns`).

`Returns x P` says that the run `x` succeeds with a result satisfying `P`: the totality of a
run together with what it gives, so that the lemmas of the list combinators carry the
description of the results along.

## Main statements

* `SelectorList.holds_total`: matching a selector without failing tests never fails.
* `select_returns`: a safe query never fails, on any target.
* `Extraction.apply_returns`: a sound extraction never fails.
-/

namespace SearchPage

/-! ## Successful runs -/

section Returns

variable {ε α β : Type}

/-- The run `x` succeeds, with a result satisfying `P`. -/
def Returns (x : Except ε α) (P : α → Prop) : Prop := ∃ a, x = .ok a ∧ P a

theorem returns_pure {P : α → Prop} {a : α} (h : P a) : Returns (pure a : Except ε α) P :=
  ⟨a, rfl, h⟩

theorem Returns.bind {x : Except ε α} {f : α → Except ε β} {Q : α → Prop}
    {P : β → Prop}
    (hx : Returns x Q) (hf : ∀ a, Q a → Returns (f a) P) : Returns (x >>= f) P := by
  obtain ⟨a, rfl, ha⟩ := hx
  exact hf a ha

theorem Returns.ite {c : Prop} [Decidable c] {x y : Except ε α} {P : α → Prop}
    (hx : c → Returns x P) (hy : ¬c → Returns y P) : Returns (if c then x else y) P := by
  split
  · rename_i hc
    exact hx hc
  · rename_i hc
    exact hy hc

/-- The two branches of a choice that continue alike: the form `do` gives to
`let a ← if c then x else y`. -/
theorem Returns.mono {x : Except ε α} {P Q : α → Prop} (h : Returns x P)
    (hPQ : ∀ a, P a → Q a) : Returns x Q := by
  obtain ⟨a, hx, ha⟩ := h
  exact ⟨a, hx, hPQ a ha⟩

theorem Returns.map {x : Except ε α} {f : α → β} {Q : α → Prop} {P : β → Prop}
    (hx : Returns x Q) (hf : ∀ a, Q a → P (f a)) : Returns (f <$> x) P := by
  obtain ⟨a, rfl, ha⟩ := hx
  exact ⟨f a, rfl, hf a ha⟩

theorem Returns.ok {x : Except ε α} {P : α → Prop} (h : Returns x P) : ∃ a, x = .ok a := by
  obtain ⟨a, hx, -⟩ := h
  exact ⟨a, hx⟩

theorem Returns.of_ok {x : Except ε α} (h : ∃ a, x = .ok a) : Returns x fun _ => True := by
  obtain ⟨a, hx⟩ := h
  exact ⟨a, hx, trivial⟩

theorem returns_of_eq {x : Except ε α} {a : α} (h : x = .ok a) : Returns x (· = a) :=
  ⟨a, h, rfl⟩

theorem returns_mapM {f : α → Except ε β} {P : β → Prop} :
    ∀ {xs : List α}, (∀ x ∈ xs, Returns (f x) P) → Returns (xs.mapM f) (∀ y ∈ ·, P y)
  | [], _ => returns_pure (by simp)
  | x :: xs, h => by
    rw [List.mapM_cons]
    refine (h x List.mem_cons_self).bind fun y hy => ?_
    refine (returns_mapM fun x' hx' => h x' (List.mem_cons_of_mem x hx')).bind fun ys hys => ?_
    exact returns_pure (by simpa [hy] using hys)

theorem returns_filterMapM {f : α → Except ε (Option β)} {P : β → Prop} :
    ∀ {xs : List α}, (∀ x ∈ xs, Returns (f x) (∀ y ∈ ·, P y)) →
      Returns (xs.filterMapM f) (∀ y ∈ ·, P y)
  | [], _ => returns_pure (by simp)
  | x :: xs, h => by
    rw [List.filterMapM_cons]
    refine (h x List.mem_cons_self).bind fun o ho => ?_
    have hRest := returns_filterMapM (P := P) fun x' hx' => h x' (List.mem_cons_of_mem x hx')
    cases o with
    | none => exact hRest
    | some y =>
      refine hRest.bind fun ys hys => returns_pure ?_
      simpa [ho y rfl] using hys

theorem returns_flatMapM {f : α → Except ε (List β)} {P : β → Prop} :
    ∀ {xs : List α}, (∀ x ∈ xs, Returns (f x) (∀ y ∈ ·, P y)) →
      Returns (xs.flatMapM f) (∀ y ∈ ·, P y)
  | [], _ => returns_pure (by simp)
  | x :: xs, h => by
    rw [List.flatMapM_cons]
    refine (h x List.mem_cons_self).bind fun ys hys => ?_
    refine (returns_flatMapM fun x' hx' => h x' (List.mem_cons_of_mem x hx')).bind
      fun zs hzs => returns_pure ?_
    intro y hy
    rcases List.mem_append.mp hy with hy | hy
    · exact hys y hy
    · exact hzs y hy

theorem returns_allM {p : α → Except ε Bool} :
    ∀ {xs : List α}, (∀ x ∈ xs, ∃ b, p x = .ok b) → Returns (xs.allM p) fun _ => True
  | [], _ => returns_pure trivial
  | x :: xs, h => by
    rw [List.allM_cons]
    refine (Returns.of_ok (h x List.mem_cons_self)).bind fun b _ => ?_
    split
    · exact returns_allM fun x' hx' => h x' (List.mem_cons_of_mem x hx')
    · exact returns_pure trivial

/-- A monadic filter whose test never fails keeps a sublist of its input. -/
theorem returns_filterM {p : α → Except ε Bool} :
    ∀ {xs : List α}, (∀ x ∈ xs, ∃ b, p x = .ok b) →
      Returns (xs.filterM p) (·.Sublist xs)
  | [], _ => returns_pure (List.Sublist.slnil)
  | x :: xs, h => by
    rw [filterM_cons]
    obtain ⟨b, hb⟩ := h x List.mem_cons_self
    refine Returns.bind (Q := fun _ => True) ⟨b, hb, trivial⟩ fun keep _ => ?_
    refine (returns_filterM fun x' hx' => h x' (List.mem_cons_of_mem x hx')).bind
      fun rest hRest => returns_pure ?_
    cases keep with
    | false => exact hRest.cons x
    | true => exact hRest.cons_cons x

end Returns

/-! ## Matching without faults -/

namespace Selector

/-- A step of matching that cannot fail, whatever memory it starts from. -/
def Probe.Total {α : Type} (x : Probe α) : Prop := ∀ m, ∃ r, x.run m = .ok r

section Probe

variable {α β : Type}

theorem Probe.total_pure (a : α) : (pure a : Probe α).Total := fun m => ⟨(a, m), rfl⟩

theorem Probe.Total.bind {x : Probe α} {f : α → Probe β} (hx : x.Total)
    (hf : ∀ a, (f a).Total) : (x >>= f).Total := by
  intro m
  obtain ⟨⟨a, m'⟩, hRun⟩ := hx m
  obtain ⟨r, hr⟩ := hf a m'
  exact ⟨r, by rw [StateT.run_bind, hRun]; exact hr⟩

theorem Probe.total_get : (get : Probe Memory).Total := fun m => ⟨(m, m), rfl⟩

theorem Probe.total_modify (f : Memory → Memory) : (modify f : Probe Unit).Total :=
  fun m => ⟨((), f m), rfl⟩

theorem total_anyM {p : α → Probe Bool} (hp : ∀ a, (p a).Total) :
    ∀ xs : List α, (anyM p xs).Total
  | [] => Probe.total_pure false
  | x :: xs => (hp x).bind fun found => by
    cases found with
    | true => exact Probe.total_pure true
    | false => exact total_anyM hp xs

theorem total_filterAllM {p : α → Probe Bool} (hp : ∀ a, (p a).Total) :
    ∀ xs : List α, (filterAllM p xs).Total
  | [] => Probe.total_pure []
  | x :: xs => (hp x).bind fun _ => (total_filterAllM hp xs).bind fun _ => Probe.total_pure _

theorem total_filterM {p : α → Probe Bool} (hp : ∀ a, (p a).Total) :
    ∀ xs : List α, (xs.filterM p).Total
  | [] => Probe.total_pure []
  | x :: xs => by
    rw [filterM_cons]
    exact (hp x).bind fun _ => (total_filterM hp xs).bind fun _ => Probe.total_pure _

end Probe

/-- The language lookup only reads and extends the memory. -/
theorem Scene.languageOf_total (sc : Scene) (s : Subject) : (sc.languageOf s).Total := by
  unfold Scene.languageOf
  dsimp only
  split
  · exact Probe.total_pure _
  · split
    · exact Probe.total_pure _
    · refine Probe.total_get.bind fun mem => ?_
      split
      · exact Probe.total_pure _
      · split
        · exact Probe.total_pure _
        · split
          · exact (Probe.total_modify _).bind fun _ => Probe.total_pure _
          · exact (Probe.total_modify _).bind fun _ => Probe.total_pure _

/-- The table of `:has(~ a)` is read or built by asking `passes`, so the search cannot fail
when `passes` cannot. -/
theorem Scene.laterSiblingHolds_total (sc : Scene) (s : Subject) (site : Nat)
    {passes : Nat → Probe Bool} (hp : ∀ x, (passes x).Total) :
    (sc.laterSiblingHolds s site passes).Total := by
  unfold Scene.laterSiblingHolds
  split
  · refine Probe.total_get.bind fun mem => ?_
    dsimp only
    split
    · exact Probe.total_pure _
    · exact (total_filterAllM hp _).bind fun _ =>
        (Probe.total_modify _).bind fun _ => Probe.total_pure _
  · exact Probe.total_pure _

mutual

/-- Whether a test may fail when it is checked: a position test, whose quotient may not fit
a double, or a bounds test, whose value may not be readable; or a test of a selector list
that may fail. -/
def Test.mayFault : Test → Bool
  | .nth .. => true
  | .inRange _ => true
  | .passes l => SelectorList.mayFault l
  | _ => false

/-- Whether one of a list of tests may fail. -/
def Test.anyMayFault : List Test → Bool
  | [] => false
  | t :: ts => Test.mayFault t || Test.anyMayFault ts

/-- Whether checking a compound selector may fail. -/
def Compound.mayFault : Compound → Bool
  | .never => false
  | .mk tests related => Test.anyMayFault tests || Compound.relatedMayFault related

/-- Whether checking a related compound may fail. -/
def Compound.relatedMayFault : Option (Relation × Compound) → Bool
  | none => false
  | some (_, c) => Compound.mayFault c

/-- Whether checking one of a list of compounds may fail. -/
def Compound.anyMayFault : List Compound → Bool
  | [] => false
  | c :: cs => Compound.mayFault c || Compound.anyMayFault cs

/-- Whether checking a selector list may fail. -/
def SelectorList.mayFault : SelectorList → Bool
  | .mk items _ => Compound.anyMayFault items

end

variable (sc : Scene)

mutual

theorem Test.holds_total : ∀ (t : Test), t.mayFault = false → ∀ s, (Test.holds sc s t).Total
  | .nth .., h, _ => by simp [Test.mayFault] at h
  | .inRange _, h, _ => by simp [Test.mayFault] at h
  | .passes l, h, s => SelectorList.holds_total l h s
  | .lang groups, _, s => (sc.languageOf_total s).bind fun l => by
    cases l <;> exact Probe.total_pure _
  | .tag .., _, _ | .id _, _, _ | .cls _, _, _ | .attr _, _, _ | .root, _, _ | .empty, _, _
  | .scope, _, _ | .defined, _, _ | .containsText _, _, _ | .direction _, _, _
  | .defaultButton, _, _ | .uncheckedGroup, _, _ | .noContent, _, _ =>
    Probe.total_pure _

theorem Test.allHold_total : ∀ (ts : List Test), Test.anyMayFault ts = false →
    ∀ s early, (Test.allHold sc s early ts).Total
  | [], _, _, _ => Probe.total_pure true
  | t :: ts, h, s, early => by
    simp only [Test.anyMayFault, Bool.or_eq_false_iff] at h
    unfold Test.allHold
    split
    · refine (Test.holds_total t h.1 s).bind fun passed => ?_
      cases passed with
      | true => exact Test.allHold_total ts h.2 s early
      | false => exact Probe.total_pure false
    · exact Test.allHold_total ts h.2 s early

theorem Compound.holds_total : ∀ (c : Compound), c.mayFault = false →
    ∀ s, (Compound.holds sc s c).Total
  | .never, _, _ => Probe.total_pure false
  | .mk tests related, h, s => by
    simp only [Compound.mayFault, Bool.or_eq_false_iff] at h
    unfold Compound.holds
    refine (Test.allHold_total tests h.1 s true).bind fun early => ?_
    cases early with
    | false => exact Probe.total_pure false
    | true =>
      refine (Compound.relatedHolds_total related h.2 s).bind fun found => ?_
      cases found with
      | false => exact Probe.total_pure false
      | true => exact Test.allHold_total tests h.1 s false

theorem Compound.relatedHolds_total : ∀ (r : Option (Relation × Compound)),
    Compound.relatedMayFault r = false → ∀ s, (Compound.relatedHolds sc s r).Total
  | none, _, _ => Probe.total_pure true
  | some (.laterSibling site, c), h, s =>
    sc.laterSiblingHolds_total s site fun x => Compound.holds_total c h (.node x)
  | some (.ancestor, c), h, _ | some (.parent, c), h, _ | some (.earlierSibling, c), h, _
  | some (.previousSibling, c), h, _ | some (.descendant, c), h, _ | some (.child, c), h, _
  | some (.nextSibling, c), h, _ =>
    total_anyM (fun x => Compound.holds_total c h x) _

theorem Compound.anyHolds_total : ∀ (cs : List Compound), Compound.anyMayFault cs = false →
    ∀ s, (Compound.anyHolds sc s cs).Total
  | [], _, _ => Probe.total_pure false
  | c :: cs, h, s => by
    simp only [Compound.anyMayFault, Bool.or_eq_false_iff] at h
    refine (Compound.holds_total c h.1 s).bind fun found => ?_
    cases found with
    | true => exact Probe.total_pure true
    | false => exact Compound.anyHolds_total cs h.2 s

theorem SelectorList.holds_total : ∀ (l : SelectorList), l.mayFault = false →
    ∀ s, (SelectorList.holds sc s l).Total
  | .mk [] _, _, _ => Probe.total_pure false
  | .mk (c :: cs) _, h, s =>
    (Compound.anyHolds_total (c :: cs) h s).bind fun _ => Probe.total_pure _

end

end Selector

/-! ## Queries that never fail -/

open Selector

/-- A CSS selector that compiles to a selector whose matching cannot fail. -/
def Finder.isSafe : Finder → Bool
  | .css selector => match compile selector with
    | .ok l => !l.mayFault
    | .error _ => false
  | _ => false

/-- A query of safe CSS selectors only. -/
def isSafeQuery (q : Query) : Bool := q.all Finder.isSafe

section Safe

variable {doc : Document}

theorem SelectorList.matchesAt_ok {l : SelectorList} (hl : l.mayFault = false) (id : Nat) :
    ∃ b, l.matchesAt doc id = .ok b := by
  obtain ⟨⟨b, m⟩, h⟩ := SelectorList.holds_total (Scene.of doc (some id)) l hl (.node id) {}
  exact ⟨b, by simp [SelectorList.matchesAt, StateT.run'_eq, h, Functor.map, Except.map]⟩

theorem SelectorList.selectIn_ok {l : SelectorList} (hl : l.mayFault = false) (scope : Nat) :
    ∃ ns, l.selectIn doc scope = .ok ns := by
  obtain ⟨⟨ns, m⟩, h⟩ := total_filterM
    (fun id => SelectorList.holds_total (Scene.of doc (some scope)) l hl (.node id))
    ((Scene.of doc (some scope)).descendantElements (.node scope)) {}
  exact ⟨ns, by simp [SelectorList.selectIn, StateT.run'_eq, h, Functor.map, Except.map]⟩

theorem Finder.searchAt_ok {f : Finder} (hf : f.isSafe = true) (scope : Nat) (withScope : Bool) :
    ∃ ns, f.searchAt doc scope withScope = .ok ns := by
  cases f with
  | css selector =>
    cases hc : compile selector with
    | error e => simp [Finder.isSafe, hc] at hf
    | ok l =>
      have hl : l.mayFault = false := by simpa [Finder.isSafe, hc] using hf
      obtain ⟨b, hb⟩ : ∃ b, l.matchesAt doc scope = .ok b :=
        SelectorList.matchesAt_ok hl scope
      obtain ⟨ns, hns⟩ : ∃ ns, l.selectIn doc scope = .ok ns :=
        SelectorList.selectIn_ok hl scope
      cases withScope <;>
        simp [Finder.searchAt, hc, hb, hns, Except.mapError, bind, Except.bind, pure,
          Except.pure, Except.map]
  | test _ | unusable | unlisted => cases hf

theorem Finder.findIn_ok {f : Finder} (hf : f.isSafe = true) (target : Target) :
    ∃ ns, f.findIn doc target = .ok ns := by
  unfold Finder.findIn
  refine (Returns.bind (P := fun _ => True) (returns_mapM (P := fun _ => True)
    fun s _ => ?_) fun found _ => returns_pure trivial).ok
  exact Returns.of_ok (Finder.searchAt_ok hf s _)

/-- The alternatives of a safe query are tried in turn, and none of them fails. -/
theorem firstFound_ok {fs : List Finder} (hq : isSafeQuery fs = true) (target : Target) :
    ∃ ns, firstFound doc target fs = .ok ns := by
  induction fs with
  | nil => exact ⟨[], rfl⟩
  | cons f fs ih =>
    simp only [isSafeQuery, List.all_cons, Bool.and_eq_true] at hq
    obtain ⟨ns, hns⟩ : ∃ ns, f.findIn doc target = .ok ns := Finder.findIn_ok hq.1 target
    have hFirst : firstFound doc target (f :: fs) = (do
        let found ← f.findIn doc target
        if found.isEmpty then firstFound doc target fs else pure found) := by
      cases f with
      | css _ => rfl
      | test _ | unusable | unlisted => cases hq.1
    rw [hFirst, hns]
    by_cases hEmpty : ns.isEmpty = true
    · simpa [bind, Except.bind, hEmpty] using ih hq.2
    · exact ⟨ns, by simp [bind, Except.bind, hEmpty, pure, Except.pure]⟩

/-- A safe query never fails, on any target. -/
theorem select_returns {q : Query} (hq : isSafeQuery q = true) (target : Target) :
    ∃ ns, select doc (some q) target = .ok ns := by
  simp only [select]
  split
  · exact firstFound_ok hq target
  · exact ⟨[], rfl⟩

theorem selectOne_returns {q : Query} (hq : isSafeQuery q = true) (target : Target) :
    ∃ n, selectOne doc (some q) target = .ok n := by
  obtain ⟨ns, h⟩ : ∃ ns, select doc (some q) target = .ok ns := select_returns hq target
  exact ⟨ns.head?, by simp [selectOne, h, bind, Except.bind, pure, Except.pure]⟩

end Safe

/-! ## Extractions that never fail -/

namespace Extraction

/-- An extraction that cannot fail: its queries are safe, it names an attribute as text or
not at all, and its separator is text, at every depth; a process must itself never fail on
the settings it is given. -/
inductive Sound : Extraction → Prop
  | plain {s : Settings} (hQuery : ∀ q ∈ s.query, isSafeQuery q = true)
      (hAttr : (∃ name, s.attrName = .str name) ∨ s.attrName.isSet = false)
      (hSep : ∃ sep, s.separator = .str sep) : Sound (.mk s none none)
  | fields {s : Settings} {fs : List (String × Option Extraction)}
      (hQuery : ∀ q ∈ s.query, isSafeQuery q = true)
      (hFields : ∀ kv ∈ fs, ∀ e ∈ kv.2, Sound e) : Sound (.mk s (some fs) none)
  | process {s : Settings} {fields : Option (List (String × Option Extraction))}
      {p : Procedure} (hp : ∀ doc target, ∃ r, p doc target s = .ok r) :
      Sound (.mk s fields (some p))

end Extraction

/-- The nodes found become a value without fault when the attribute is named as text or not
at all and the separator is text. -/
theorem Settings.finish_ok {s : Settings} {doc : Document} (found : List Nat)
    (hAttr : (∃ name, s.attrName = .str name) ∨ s.attrName.isSet = false)
    (hSep : ∃ sep, s.separator = .str sep) : ∃ r, s.finish doc found = .ok r := by
  obtain ⟨sep, hSep⟩ := hSep
  unfold Settings.finish
  split
  · rw [hSep]
    exact ⟨_, rfl⟩
  · split
    · exact ⟨_, rfl⟩
    · rename_i hSet
      rcases hAttr with ⟨name, hName⟩ | hUnset
      · rw [hName]
        exact ⟨_, rfl⟩
      · simp [hUnset] at hSet

namespace Extraction

variable (doc : Document)

/-- Applied to a target that is given, an extraction without a process starts from the
nodes its query finds, or from the target's members. -/
theorem apply_of_isGiven {s : Settings} {fields : Option (List (String × Option Extraction))}
    {target : Target} (hGiven : target.isGiven = true) :
    (Extraction.mk s fields none).apply doc target =
      (match s.query with
        | some q => select doc (some q) target
        | none => pure target.members) >>= fun found =>
      if found.isEmpty then pure Extracted.missing
      else match fields with
        | some fs => Extracted.records <$> found.mapM fun n => applyFields doc fs n
        | none => s.finish doc found := by
  unfold apply
  simp only [hGiven, Bool.not_true, Bool.false_eq_true, if_false]
  cases s.query <;> rfl

/-- Applied to a target that is not given, every extraction yields nothing. -/
theorem apply_of_not_isGiven (e : Extraction) {target : Target}
    (hGiven : target.isGiven = false) : e.apply doc target = pure Extracted.missing := by
  obtain ⟨s, fields, process⟩ := e
  unfold apply
  simp only [hGiven, Bool.not_false, if_true]

/-- An extraction with a process hands a given target to it. -/
theorem apply_of_process {s : Settings} {fields : Option (List (String × Option Extraction))}
    {p : Procedure} {target : Target} (hGiven : target.isGiven = true) :
    (Extraction.mk s fields (some p)).apply doc target = p doc target s := by
  unfold apply
  simp only [hGiven, Bool.not_true, Bool.false_eq_true, if_false]

theorem found_returns {s : Settings} (hQuery : ∀ q ∈ s.query, isSafeQuery q = true)
    (target : Target) :
    Returns (match s.query with
      | some q => select doc (some q) target
      | none => pure target.members) fun _ => True := by
  cases hq : s.query with
  | none => exact returns_pure trivial
  | some q =>
    exact Returns.of_ok (select_returns (hQuery q hq) target)

mutual

/-- A sound extraction never fails, on any target. -/
theorem apply_returns : ∀ (e : Extraction) (target : Target), e.Sound →
    ∃ r, e.apply doc target = .ok r
  | .mk s fields process, target, hSound => by
    by_cases hGiven : target.isGiven = true
    · cases hSound with
      | process hp =>
        rw [apply_of_process doc hGiven]
        exact hp doc target
      | plain hQuery hAttr hSep =>
        rw [apply_of_isGiven doc hGiven]
        refine ((found_returns doc hQuery target).bind (P := fun _ => True) fun found _ => ?_).ok
        split
        · exact returns_pure trivial
        · exact Returns.of_ok (Settings.finish_ok found hAttr hSep)
      | fields hQuery hFields =>
        rw [apply_of_isGiven doc hGiven]
        refine ((found_returns doc hQuery target).bind (P := fun _ => True) fun found _ => ?_).ok
        split
        · exact returns_pure trivial
        · -- one record per node found, each field applied below it
          refine (returns_mapM (P := fun _ => True) fun n _ => ?_).bind
            fun rows _ => returns_pure trivial
          obtain ⟨row, hRow⟩ := applyFields_returns _ n hFields
          exact ⟨row, hRow, trivial⟩
    · exact ⟨.missing, apply_of_not_isGiven doc _ (Bool.eq_false_iff.mpr hGiven)⟩

/-- The fields of a sound extraction never fail. -/
theorem applyFields_returns : ∀ (fs : List (String × Option Extraction)) (n : Nat),
    (∀ kv ∈ fs, ∀ e ∈ kv.2, e.Sound) → ∃ row, applyFields doc fs n = .ok row
  | [], _, _ => ⟨[], rfl⟩
  | (k, none) :: rest, n, h => by
    obtain ⟨row, hRow⟩ := applyFields_returns rest n
      fun kv hkv => h kv (List.mem_cons_of_mem _ hkv)
    exact ⟨(k, .missing) :: row,
      by simp [applyFields, hRow, bind, Except.bind, pure, Except.pure]⟩
  | (k, some e) :: rest, n, h => by
    obtain ⟨v, hv⟩ := apply_returns e (.node n) (h (k, some e) List.mem_cons_self e rfl)
    obtain ⟨row, hRow⟩ := applyFields_returns rest n
      fun kv hkv => h kv (List.mem_cons_of_mem _ hkv)
    exact ⟨(k, v) :: row, by simp [applyFields, hv, hRow, bind, Except.bind, pure, Except.pure]⟩

end

/-- An extraction with fields and neither query nor process, applied to a lone node, gives one
record: the fields read from that node, or the fault of the first field that fails. -/
theorem apply_fields_node {s : Settings} (hq : s.query = none)
    (fs : List (String × Option Extraction)) (el : Nat) :
    (Extraction.mk s (some fs) none).apply doc (.node el) =
      (fun row => Extracted.records [row]) <$> applyFields doc fs el := by
  rw [apply_of_isGiven doc rfl, hq]
  simp only [Target.members, pure_bind, List.isEmpty_cons, Bool.false_eq_true, if_false,
    List.mapM_cons, List.mapM_nil]
  cases applyFields doc fs el <;> rfl

/-- A sound extraction with fields and no query gives exactly one record for a lone node. -/
theorem apply_fields_node_returns {s : Settings} (hq : s.query = none)
    {fs : List (String × Option Extraction)} (hFields : ∀ kv ∈ fs, ∀ e ∈ kv.2, e.Sound)
    (el : Nat) : ∃ row, (Extraction.mk s (some fs) none).apply doc (.node el) =
      .ok (.records [row]) := by
  obtain ⟨row, hRow⟩ := applyFields_returns doc fs el hFields
  refine ⟨row, ?_⟩
  rw [apply_fields_node doc hq, hRow]
  rfl

end Extraction

end SearchPage
