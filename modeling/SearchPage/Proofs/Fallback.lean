import SearchPage.Proofs.Selection

/-!
# Selecting with alternatives

A query is a list of alternatives, each a CSS selector or a tag test. `select` tries them in
order and answers with the first one that finds anything; an alternative that fails stops
the search with its fault, and the alternatives after the deciding one are never tried, so
their faults are never seen (`firstNonEmpty`).

One alternative searches the target in one of two ways (`Finder.alternative`): below a lone
element it finds the matching elements below it, and a lone node that is not an element
gives nothing; in a node set each element member is tested itself and then searched below,
the gaps and the members that are not elements are skipped, and a node found twice is kept
at its first place only. Below a lone node nothing is found twice, so there is nothing to
drop there (`findIn_eq_alternative`).

An alternative is only run on elements, so a CSS selector that does not compile is reported
exactly when the target has an element member, and a target without one gives nothing for
any query (`alternative_of_compile_error`, `alternative_of_no_element`).

## Main statements

* `firstFound_eq_firstNonEmpty`: the alternatives are tried in order until one fails or
  finds something.
* `findIn_eq_alternative`: what one alternative finds.
* `alternative_of_compile_error`: when a selector that does not compile is reported.
* `select_eq_firstNonEmpty`, `select_node_sublist`, `select_of_no_element`: what a query
  of alternatives finds.
-/

namespace SearchPage

open Selector

/-- The answer of the first alternative that fails or finds something, tried in order;
nothing when every one finds nothing. -/
def firstNonEmpty : List (Except Fault (List Nat)) → Except Fault (List Nat)
  | [] => pure []
  | r :: rest => match r with
    | .ok [] => firstNonEmpty rest
    | _ => r

/-- When every alternative finds nothing, nothing is found. -/
theorem firstNonEmpty_of_forall_nil {rs : List (Except Fault (List Nat))}
    (h : ∀ r ∈ rs, r = .ok []) : firstNonEmpty rs = .ok [] := by
  induction rs with
  | nil => rfl
  | cons r rs ih =>
    rw [h r List.mem_cons_self]
    exact ih fun r' hr' => h r' (List.mem_cons_of_mem r hr')

/-! ## Keeping first occurrences of a list without repeats -/

theorem firstOccurrences_eq_self {xs : List Nat} (h : xs.Nodup) : firstOccurrences xs = xs := by
  induction xs with
  | nil => rfl
  | cons x xs ih =>
    obtain ⟨hx, hxs⟩ := List.nodup_cons.mp h
    rw [firstOccurrences, ih hxs]
    congr 1
    rw [List.filter_eq_self]
    intro y hy
    exact bne_iff_ne.mpr fun hyx => hx (hyx ▸ hy)

/-- Two functions that agree on a list map it alike. -/
theorem mapM_congr_of_mem {ε α β : Type} {f g : α → Except ε β} :
    ∀ {xs : List α}, (∀ x ∈ xs, f x = g x) → xs.mapM f = xs.mapM g
  | [], _ => rfl
  | x :: xs, h => by
    rw [List.mapM_cons, List.mapM_cons, h x List.mem_cons_self,
      mapM_congr_of_mem fun y hy => h y (List.mem_cons_of_mem x hy)]

namespace Finder

/-- A finder of a query made of CSS selectors and tag tests. -/
def isAlternative : Finder → Bool
  | .css _ | .test _ => true
  | .unusable | .unlisted => false

/-- Whether an element passes a finder, tested on its own. -/
def matchesSelf (doc : Document) (s : Nat) : Finder → Except Fault Bool
  | .css selector => do
    let l ← (compile selector).mapError .selector
    (l.matchesAt doc s).mapError .selector
  | .test t => t.holds doc s
  | .unusable | .unlisted => pure false

/-- The elements below an element that pass a finder, in document order. -/
def matchesBelow (doc : Document) (s : Nat) : Finder → Except Fault (List Nat)
  | .css selector => do
    let l ← (compile selector).mapError .selector
    (l.selectIn doc s).mapError .selector
  | .test t => ((doc.descendants s).filter doc.isElement).filterM (t.holds doc)
  | .unusable | .unlisted => pure []

/-- What one alternative finds in a target: below a lone element, the elements that match;
in a node set, for each element member in turn the member when it matches and the elements
below it that match, a node found again dropped. -/
def alternative (doc : Document) (f : Finder) : Target → Except Fault (List Nat)
  | .absent => pure []
  | .node t => if doc.isElement t then f.matchesBelow doc t else pure []
  | .nodes ids => do
    let found ← ((ids.filterMap id).filter doc.isElement).mapM fun s => do
      let self ← f.matchesSelf doc s
      let below ← f.matchesBelow doc s
      pure ((if self then [s] else []) ++ below)
    pure (firstOccurrences found.flatten)

variable {doc : Document} {f : Finder}

/-- Searching below an element alone is `matchesBelow`. -/
theorem searchAt_below (hf : f.isAlternative) (s : Nat) :
    f.searchAt doc s false = f.matchesBelow doc s := by
  cases f with
  | css selector =>
    simp only [searchAt, matchesBelow, Bool.false_eq_true, if_false, pure_bind, List.nil_append,
      bind_pure]
  | test t => simp [searchAt, matchesBelow]
  | unusable | unlisted => cases hf

/-- Searching an element that belongs to the target tests the element, then searches
below it. -/
theorem searchAt_with_self (hf : f.isAlternative) {s : Nat} (hs : doc.isElement s = true) :
    f.searchAt doc s true = (do
      let self ← f.matchesSelf doc s
      let below ← f.matchesBelow doc s
      pure ((if self then [s] else []) ++ below)) := by
  cases f with
  | css selector =>
    simp only [searchAt, matchesSelf, matchesBelow, if_true, bind_assoc]
    cases (compile selector).mapError Fault.selector with
    | error e => rfl
    | ok l =>
      simp only [bind, Except.bind]
      cases hm : (l.matchesAt doc s).mapError Fault.selector with
      | error e => simp [Except.map]
      | ok m => cases m <;> simp [Except.map]
  | test t =>
    simp only [searchAt, matchesSelf, matchesBelow, if_true, List.singleton_append,
      List.filter_cons, hs]
    rw [filterM_cons]
    congr 1
    funext keep
    cases keep <;> simp
  | unusable | unlisted => cases hf

/-- The elements found below an element lie below it, in order. -/
theorem matchesBelow_sublist {s : Nat} {ns : List Nat} (h : f.matchesBelow doc s = .ok ns) :
    ns.Sublist (doc.descendants s) := by
  cases f with
  | css selector =>
    simp only [matchesBelow, bind_eq_ok, mapError_eq_ok] at h
    obtain ⟨l, -, h⟩ := h
    simp only [SelectorList.selectIn, StateT.run'_eq, map_eq_ok] at h
    obtain ⟨⟨found, memory⟩, hRun, rfl⟩ := h
    exact (filterM_run_ok_sublist hRun).trans List.filter_sublist
  | test t =>
    exact (filterM_ok_sublist h).trans List.filter_sublist
  | unusable | unlisted =>
    simp only [matchesBelow, pure_eq_ok] at h
    subst h
    exact List.nil_sublist _

/-- What one alternative finds in a lone node lies below the node, in order. -/
theorem alternative_node_sublist {t : Nat} {ns : List Nat}
    (h : f.alternative doc (.node t) = .ok ns) : ns.Sublist (doc.descendants t) := by
  simp only [alternative] at h
  split at h
  · exact matchesBelow_sublist h
  · simp only [pure_eq_ok] at h
    subst h
    exact List.nil_sublist _

/-- One alternative finds what `alternative` describes; below a lone element nothing is
found twice, so keeping first occurrences changes nothing there. -/
theorem findIn_eq_alternative (hf : f.isAlternative) (target : Target) :
    f.findIn doc target = f.alternative doc target := by
  cases target with
  | absent => rfl
  | node t =>
    simp only [findIn, alternative, Target.members, List.filter_cons, List.filter_nil]
    by_cases ht : doc.isElement t = true
    · rw [if_pos ht, if_pos ht, List.mapM_cons, List.mapM_nil, searchAt_below hf]
      cases h : f.matchesBelow doc t with
      | error e => rfl
      | ok ns =>
        have hNodup : ns.Nodup := (matchesBelow_sublist h).nodup List.nodup_range'
        simp [firstOccurrences_eq_self hNodup]
    · simp only [ht, Bool.false_eq_true, if_false, List.mapM_nil]
      rfl
  | nodes ids =>
    simp only [findIn, alternative, Target.members]
    rw [mapM_congr_of_mem fun s hs => searchAt_with_self hf (List.mem_filter.mp hs).2]

/-- An alternative run on a target without element members finds nothing. -/
theorem alternative_of_no_element {target : Target}
    (h : target.members.any doc.isElement = false) : f.alternative doc target = .ok [] := by
  cases target with
  | absent => rfl
  | node t =>
    simp only [Target.members, List.any_cons, List.any_nil, Bool.or_false] at h
    simp only [alternative, h, Bool.false_eq_true, if_false]
    rfl
  | nodes ids =>
    have hNone : (ids.filterMap id).filter doc.isElement = [] := by
      rw [List.filter_eq_nil_iff]
      intro s hs
      simpa using List.any_eq_false.mp h s hs
    simp only [alternative, hNone, List.mapM_nil]
    rfl

/-- A selector that does not compile is reported exactly when the target has an element
member to search; otherwise its alternative finds nothing. -/
theorem alternative_of_compile_error {selector : String} {e : SelectorError}
    (he : compile selector = .error e) (target : Target) :
    (Finder.css selector).alternative doc target =
      if target.members.any doc.isElement then .error (.selector e) else .ok [] := by
  cases hAny : target.members.any doc.isElement with
  | false => exact alternative_of_no_element hAny
  | true =>
    have hCompile : (compile selector).mapError Fault.selector = .error (.selector e) := by
      rw [he]
      rfl
    cases target with
    | absent => cases hAny
    | node t =>
      simp only [Target.members, List.any_cons, List.any_nil, Bool.or_false] at hAny
      simp only [alternative, hAny, if_true, matchesBelow, hCompile]
      rfl
    | nodes ids =>
      -- the first element member is the first to compile the selector
      obtain ⟨s, rest, hSplit⟩ : ∃ s rest, (ids.filterMap id).filter doc.isElement = s :: rest := by
        cases hList : (ids.filterMap id).filter doc.isElement with
        | nil =>
          rw [List.filter_eq_nil_iff] at hList
          obtain ⟨s, hs, hsElem⟩ := List.any_eq_true.mp hAny
          exact absurd hsElem (hList s hs)
        | cons s rest => exact ⟨s, rest, rfl⟩
      simp only [alternative, hSplit, List.mapM_cons, matchesSelf, hCompile]
      rfl

end Finder

/-- The alternatives of a query are tried in order until one fails or finds something. -/
theorem firstFound_eq_firstNonEmpty {doc : Document} {target : Target} {fs : List Finder}
    (h : ∀ f ∈ fs, f.isAlternative) :
    firstFound doc target fs = firstNonEmpty (fs.map fun f => f.alternative doc target) := by
  induction fs with
  | nil => rfl
  | cons f fs ih =>
    have hf := h f List.mem_cons_self
    have hRest := ih fun f' hf' => h f' (List.mem_cons_of_mem f hf')
    have hStep : firstFound doc target (f :: fs) = (do
        let found ← f.findIn doc target
        if found.isEmpty then firstFound doc target fs else pure found) := by
      cases f with
      | unlisted => cases hf
      | css _ | test _ | unusable => rfl
    rw [hStep, List.map_cons, ← Finder.findIn_eq_alternative hf target]
    cases f.findIn doc target with
    | error e => rfl
    | ok found =>
      cases found with
      | nil => exact hRest
      | cons n ns => rfl

/-- The answer of `firstNonEmpty` is nothing or the answer of one of the alternatives. -/
theorem firstNonEmpty_eq_ok {rs : List (Except Fault (List Nat))} {ns : List Nat}
    (h : firstNonEmpty rs = .ok ns) : ns = [] ∨ Except.ok ns ∈ rs := by
  induction rs with
  | nil =>
    simp only [firstNonEmpty, pure_eq_ok] at h
    exact .inl h.symm
  | cons r rs ih =>
    cases r with
    | error e => cases h
    | ok found =>
      cases found with
      | nil => exact (ih h).imp_right (List.mem_cons_of_mem _)
      | cons n ns' =>
        exact .inr (h ▸ List.mem_cons_self)

section Query

variable {doc : Document} {q : Query}

/-- A query of alternatives searches a given target one alternative after another. -/
theorem select_eq_firstNonEmpty {target : Target} (hq : ∀ f ∈ q, f.isAlternative)
    (hGiven : target.isGiven) :
    select doc (some q) target = firstNonEmpty (q.map fun f => f.alternative doc target) := by
  simp only [select, hGiven, if_true]
  exact firstFound_eq_firstNonEmpty hq

/-- What a query of alternatives finds in a lone node lies below the node, in order: the
answer is nothing or one alternative's. -/
theorem select_node_sublist {t : Nat} {ns : List Nat} (hq : ∀ f ∈ q, f.isAlternative)
    (h : select doc (some q) (.node t) = .ok ns) : ns.Sublist (doc.descendants t) := by
  rw [select_eq_firstNonEmpty hq rfl] at h
  rcases firstNonEmpty_eq_ok h with rfl | hMem
  · exact List.nil_sublist _
  · obtain ⟨f, -, hf⟩ := List.mem_map.mp hMem
    exact Finder.alternative_node_sublist hf

/-- A query of alternatives finds nothing in a target without element members. -/
theorem select_of_no_element {target : Target} (hq : ∀ f ∈ q, f.isAlternative)
    (hNone : target.members.any doc.isElement = false) : select doc (some q) target = .ok [] := by
  by_cases hGiven : target.isGiven = true
  · rw [select_eq_firstNonEmpty hq hGiven]
    apply firstNonEmpty_of_forall_nil
    intro r hr
    obtain ⟨f, -, rfl⟩ := List.mem_map.mp hr
    exact Finder.alternative_of_no_element hNone
  · -- a target that is not given is not searched at all
    simp only [select, hGiven, Bool.false_eq_true, if_false]
    rfl

end Query

/-- A query finds nothing without a query, in nothing, or in an empty node set. Otherwise
its answer is that of the first alternative, in order, that fails or finds something, and
nothing when none does. One alternative (`Finder.alternative`) finds, below a lone element,
the elements below it that match, and nothing in a lone node that is not an element; in a
node set, for each element member in order, the member when it matches and then the
elements below it that match, a node found again dropped. Below a lone node only nodes
below it are found, in document order and each once. A target without element members
gives nothing for any query, and a selector that does not compile is reported by its
alternative exactly when the target has an element member. -/
theorem select_first_found_alternative (doc : Document) :
    (∀ target, select doc none target = .ok []) ∧
    (∀ q, select doc (some q) .absent = .ok [] ∧ select doc (some q) (.nodes []) = .ok []) ∧
    (∀ (q : Query) (target : Target), (∀ f ∈ q, f.isAlternative) → target.isGiven →
      select doc (some q) target = firstNonEmpty (q.map fun f => f.alternative doc target)) ∧
    (∀ (q : Query) (t : Nat) (ns : List Nat), (∀ f ∈ q, f.isAlternative) →
      select doc (some q) (.node t) = .ok ns → ns.Sublist (doc.descendants t)) ∧
    (∀ (q : Query) (target : Target), (∀ f ∈ q, f.isAlternative) →
      target.members.any doc.isElement = false → select doc (some q) target = .ok []) ∧
    (∀ (selector : String) (e : SelectorError) (target : Target), compile selector = .error e →
      (Finder.css selector).alternative doc target =
        if target.members.any doc.isElement then .error (.selector e) else .ok []) :=
  ⟨fun _ => rfl, fun _ => ⟨rfl, rfl⟩,
    fun _ _ hq hGiven => select_eq_firstNonEmpty hq hGiven,
    fun _ _ _ hq h => select_node_sublist hq h,
    fun _ _ hq hNone => select_of_no_element hq hNone,
    fun _ _ target he => Finder.alternative_of_compile_error he target⟩

end SearchPage
