import SearchPage.Page.Segment
import SearchPage.Proofs.Outcomes

/-!
# Selections find elements

Every node a query finds is an element of the document, whatever the target and whatever
the query: a CSS finder tests its scope (an element) and the elements below it, a tag test
filters the elements first, and the other finders find nothing. The segmenting stages
only ever keep what a selection found or a container such a selection gave, so their
containers and candidates are elements too.

## Main statements

* `select_isElement`: a query finds only elements.
* `segment_isElement`: the containers and the candidates of a segmented page are elements.
-/

namespace SearchPage

open Selector

/-! ## Keeping first occurrences -/

theorem mem_firstOccurrences {x : Nat} {xs : List Nat} : x ∈ firstOccurrences xs ↔ x ∈ xs := by
  induction xs with
  | nil => simp [firstOccurrences]
  | cons y ys ih =>
    simp only [firstOccurrences, List.mem_cons, List.mem_filter, ih, bne_iff_ne, ne_eq]
    by_cases hxy : x = y <;> simp [hxy]

theorem firstOccurrences_sublist (xs : List Nat) : (firstOccurrences xs).Sublist xs := by
  induction xs with
  | nil => exact .slnil
  | cons x xs ih => exact ((List.filter_sublist).trans ih).cons_cons x

/-! ## Finders -/

theorem selectIn_isElement {l : SelectorList} {doc : Document} {scope : Nat} {ns : List Nat}
    (h : l.selectIn doc scope = .ok ns) : ∀ n ∈ ns, doc.isElement n = true := by
  simp only [SelectorList.selectIn, StateT.run'_eq, map_eq_ok] at h
  obtain ⟨⟨found, memory⟩, hRun, rfl⟩ := h
  intro n hn
  have hBelow := (filterM_run_ok_sublist hRun).subset hn
  simp only [Scene.descendantElements, List.mem_filter] at hBelow
  exact hBelow.2

/-- A finder run at an element finds elements: the scope itself, when it is tested, and
elements below it. -/
theorem searchAt_isElement {doc : Document} {scope : Nat} (hScope : doc.isElement scope = true)
    {withScope : Bool} {f : Finder} {ns : List Nat} (h : f.searchAt doc scope withScope = .ok ns) :
    ∀ n ∈ ns, doc.isElement n = true := by
  cases f with
  | css selector =>
    simp only [Finder.searchAt, bind_eq_ok] at h
    obtain ⟨l, -, h⟩ := h
    -- the scope itself is tested only when it belongs to the target
    split at h
    · simp only [bind_eq_ok, exceptMap_eq_ok, mapError_eq_ok, pure_eq_ok] at h
      obtain ⟨self, ⟨matched, -, rfl⟩, found, hFound, rfl⟩ := h
      intro n hn
      rcases List.mem_append.mp hn with hn | hn
      · cases matched <;> simp_all
      · exact selectIn_isElement hFound n hn
    · simp only [bind_eq_ok, mapError_eq_ok, pure_eq_ok] at h
      obtain ⟨self, rfl, found, hFound, rfl⟩ := h
      exact selectIn_isElement hFound
  | test t =>
    intro n hn
    exact (List.mem_filter.mp ((filterM_ok_sublist h).subset hn)).2
  | unusable =>
    -- this finder finds nothing: it fails when there is a tag to try it on
    simp only [Finder.searchAt] at h
    generalize ((if withScope = true then [scope] else []) ++ doc.descendants scope).any
      doc.isElement = hasTag at h
    cases hasTag with
    | true => simp at h
    | false =>
      simp only [Bool.false_eq_true, if_false, pure_eq_ok] at h
      subst h
      simp
  | unlisted => cases h

theorem findIn_isElement {doc : Document} {f : Finder} {target : Target} {ns : List Nat}
    (h : f.findIn doc target = .ok ns) : ∀ n ∈ ns, doc.isElement n = true := by
  unfold Finder.findIn at h
  rw [bind_eq_ok] at h
  obtain ⟨found, hFound, h⟩ := h
  rw [pure_eq_ok] at h
  subst h
  intro n hn
  obtain ⟨ms, hms, hn⟩ := List.mem_flatten.mp (mem_firstOccurrences.mp hn)
  -- each list found comes from searching one element of the target
  obtain ⟨s, hs, hSearch⟩ := mem_of_mapM_ok hFound hms
  exact searchAt_isElement (List.mem_filter.mp hs).2 hSearch n hn

theorem firstFound_isElement {doc : Document} {target : Target} {fs : List Finder}
    {ns : List Nat} (h : firstFound doc target fs = .ok ns) :
    ∀ n ∈ ns, doc.isElement n = true := by
  induction fs with
  | nil =>
    simp only [firstFound, pure_eq_ok] at h
    subst h
    simp
  | cons f fs ih =>
    cases f with
    | unlisted => cases h
    | css _ | test _ | unusable =>
      simp only [firstFound, bind_eq_ok] at h
      obtain ⟨found, hFound, h⟩ := h
      split at h
      · exact ih h
      · rw [pure_eq_ok] at h
        subst h
        exact findIn_isElement hFound

/-- A query finds only elements, in any target. -/
theorem select_isElement {doc : Document} {query : Option Query} {target : Target}
    {ns : List Nat} (h : select doc query target = .ok ns) : ∀ n ∈ ns, doc.isElement n = true := by
  unfold select at h
  split at h
  · rw [pure_eq_ok] at h
    subst h
    simp
  · split at h
    · exact firstFound_isElement h
    · rw [pure_eq_ok] at h
      subst h
      simp

theorem selectBy_isElement {doc : Document} {chains : Chains} {name : String} {target : Target}
    {ns : List Nat} (h : selectBy doc chains name target = .ok ns) :
    ∀ n ∈ ns, doc.isElement n = true := by
  simp only [selectBy, bind_eq_ok] at h
  obtain ⟨q, -, h⟩ := h
  exact select_isElement h

/-! ## The segmenting stages -/

theorem containersOf_isElement {doc : Document} {chains : Chains} {isPanel : PanelCheck}
    {target : Target} {ns : List Nat} (h : containersOf doc chains isPanel target = .ok ns) :
    ∀ n ∈ ns, doc.isElement n = true := by
  simp only [containersOf, bind_eq_ok] at h
  obtain ⟨cs, hcs, allPanels, -, h⟩ := h
  have hTop := selectBy_isElement hcs
  split at h
  · -- each top container is replaced by its sub-containers, or kept when it has none
    intro n hn
    obtain ⟨c, hc, found, hFound, hn⟩ := mem_of_flatMapM_ok h hn
    simp only [bind_eq_ok, pure_eq_ok] at hFound
    obtain ⟨subs, hSubs, rfl⟩ := hFound
    split at hn
    · rw [List.mem_singleton.mp hn]
      exact hTop c hc
    · exact selectBy_isElement hSubs n hn
  · rw [pure_eq_ok] at h
    subst h
    exact hTop

theorem siteLinkResults_isElement {doc : Document} {chains : Chains} {container : Nat}
    {ns : List Nat} (h : siteLinkResults doc chains container = .ok ns) :
    ∀ n ∈ ns, doc.isElement n = true := by
  simp only [siteLinkResults, bind_eq_ok] at h
  obtain ⟨candidates, hCandidates, hKept⟩ := h
  intro n hn
  exact selectBy_isElement hCandidates n ((filterM_ok_sublist hKept).subset hn)

theorem resultsIn_isElement {doc : Document} {chains : Chains} {mobile : Bool} {container : Nat}
    {ns : List Nat} (h : resultsIn doc chains mobile container = .ok ns) :
    ∀ n ∈ ns, doc.isElement n = true := by
  unfold resultsIn at h
  split at h
  · exact selectBy_isElement h
  · simp only [bind_eq_ok, pure_eq_ok] at h
    obtain ⟨plain, hPlain, linked, hLinked, rfl⟩ := h
    intro n hn
    rcases List.mem_append.mp hn with hn | hn
    · exact siteLinkResults_isElement hLinked n hn
    · exact selectBy_isElement hPlain n hn

theorem resultElements_isElement {doc : Document} {chains : Chains} {mobile : Bool}
    {container : Nat} (hContainer : doc.isElement container = true) {ns : List Nat}
    (h : resultElements doc chains mobile container = .ok ns) :
    ∀ n ∈ ns, doc.isElement n = true := by
  simp only [resultElements, map_eq_ok] at h
  obtain ⟨found, hFound, rfl⟩ := h
  intro n hn
  unfold unitsOf at hn
  split at hn
  · exact resultsIn_isElement hFound n hn
  · rw [List.mem_singleton.mp hn]
    exact hContainer

/-- The containers and the candidates of a segmented target are elements. -/
theorem segment_isElement {doc : Document} {chains : Chains} {isPanel : PanelCheck}
    {mobile : Bool} {target : Target} {seg : Segments}
    (h : segment doc chains isPanel mobile target = .ok seg) :
    (∀ n ∈ seg.containers, doc.isElement n = true) ∧
      ∀ n ∈ seg.candidates, doc.isElement n = true := by
  simp only [segment, bind_eq_ok, pure_eq_ok] at h
  obtain ⟨containers, hContainers, candidates, hCandidates, rfl⟩ := h
  have hTop := containersOf_isElement hContainers
  refine ⟨hTop, ?_⟩
  intro n hn
  obtain ⟨c, hc, found, hFound, hn⟩ := mem_of_flatMapM_ok hCandidates hn
  exact resultElements_isElement (hTop c hc) hFound n hn

end SearchPage
