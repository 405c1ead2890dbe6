import SearchPage.Proofs.EmptyResults

/-!
# The units a container gives

A container of the result column stands for itself unless its result chains find more than one
element, and is then replaced by those elements. On a mobile page they come from one search
below the container, so they are distinct nodes below it. On a desktop page they are the
results that carry a site-links table followed by the plain desktop results: two searches,
which can find the same element. An element found by both is counted twice, so a container
whose chains find a single element gives that element twice instead of standing for itself.

## Main statements

* `resultsIn_nodup_iff`: the result elements of a container lie below it, and are distinct
  exactly when the page is mobile or the two desktop searches share no element.
* `resultElements_units_iff`: a container gives itself alone, or at least two distinct nodes
  below it, exactly when the page is mobile or the two desktop searches share no element.
* `shared_result_counted_twice`: a container with one result that both desktop searches find.
-/

namespace SearchPage

section Units

variable {doc : Document} {chains : Chains} (hc : chains.Safe)
include hc

/-- A default chain searched below a node finds nodes below it, in order. -/
theorem selectBy_node_below {name : String} (hName : name ∈ defaultChainTexts.map Prod.fst)
    {c : Nat} {ns : List Nat} (h : selectBy doc chains name (.node c) = .ok ns) :
    ns.Pairwise (· < ·) ∧ ns.Sublist (doc.descendants c) := by
  obtain ⟨q, hq, hSel⟩ := bind_eq_ok.mp h
  have hAlt := isAlternative_of_isSafeQuery (hc.query_safe hName hq)
  exact ⟨select_node_sorted hAlt hSel, select_node_sublist hAlt hSel⟩

/-- The results with site links are some of the candidates below the container, in order. -/
theorem siteLinkResults_below {c : Nat} {linked : List Nat}
    (h : siteLinkResults doc chains c = .ok linked) :
    linked.Pairwise (· < ·) ∧ linked.Sublist (doc.descendants c) := by
  unfold siteLinkResults at h
  obtain ⟨candidates, hCandidates, hKept⟩ := bind_eq_ok.mp h
  have hSub := filterM_ok_sublist hKept
  obtain ⟨hSorted, hBelow⟩ := selectBy_node_below hc (by simp [defaultChainTexts]) hCandidates
  exact ⟨hSorted.sublist hSub, hSub.trans hBelow⟩

/-- The result elements of a container lie below it. They are distinct on a mobile page, where
one search finds them, and on a desktop page exactly when no element is both a result with site
links and a plain desktop result. -/
theorem resultsIn_nodup_iff (mobile : Bool) (c : Nat) :
    ∃ linked plain found, siteLinkResults doc chains c = .ok linked ∧
      selectBy doc chains "desktop_results" (.node c) = .ok plain ∧
      resultsIn doc chains mobile c = .ok found ∧
      (∀ n ∈ found, n ∈ doc.descendants c) ∧
      (found.Nodup ↔ mobile = true ∨ ∀ n ∈ linked, n ∉ plain) := by
  obtain ⟨linked, hLinked, -⟩ := siteLinkResults_returns hc c
  obtain ⟨plain, hPlain, -⟩ :
      Returns (selectBy doc chains "desktop_results" (.node c)) fun _ => True :=
    hc.selectBy_returns (by simp [defaultChainTexts]) doc _
  obtain ⟨hLinkedSorted, hLinkedBelow⟩ := siteLinkResults_below hc hLinked
  obtain ⟨hPlainSorted, hPlainBelow⟩ :=
    selectBy_node_below hc (by simp [defaultChainTexts]) hPlain
  cases mobile with
  | true =>
    obtain ⟨found, hFound, -⟩ :
        Returns (selectBy doc chains "mobile_results" (.node c)) fun _ => True :=
      hc.selectBy_returns (by simp [defaultChainTexts]) doc _
    obtain ⟨hSorted, hBelow⟩ := selectBy_node_below hc (by simp [defaultChainTexts]) hFound
    exact ⟨linked, plain, found, hLinked, hPlain, hFound, fun n hn => hBelow.subset hn,
      iff_of_true (hSorted.imp Nat.ne_of_lt) (Or.inl rfl)⟩
  | false =>
    have hFound : resultsIn doc chains false c = .ok (linked ++ plain) := by
      simp only [resultsIn, Bool.false_eq_true, if_false, hPlain, hLinked]
      rfl
    refine ⟨linked, plain, linked ++ plain, hLinked, hPlain, hFound, fun n hn => ?_, ?_⟩
    · rcases List.mem_append.mp hn with hn | hn
      · exact hLinkedBelow.subset hn
      · exact hPlainBelow.subset hn
    · -- each search finds nodes once, so only an element found by both repeats
      have hLinkedNodup : linked.Nodup := hLinkedSorted.imp Nat.ne_of_lt
      have hPlainNodup : plain.Nodup := hPlainSorted.imp Nat.ne_of_lt
      rw [List.nodup_append]
      simp only [hLinkedNodup, hPlainNodup, true_and, Bool.false_eq_true, false_or]
      exact ⟨fun h n hn hnPlain => h n hn n hnPlain rfl,
        fun h a ha b hb hab => h a ha (hab ▸ hb)⟩

end Units

/-- The units of a container whose result elements lie below it are the container alone, or
at least two distinct nodes below it, exactly when no result element repeats. -/
theorem unitsOf_shape_iff {doc : Document} {c : Nat} {found : List Nat}
    (hBelow : ∀ n ∈ found, n ∈ doc.descendants c) :
    (unitsOf c found = [c] ∨
        (2 ≤ (unitsOf c found).length ∧ (unitsOf c found).Nodup ∧
          ∀ n ∈ unitsOf c found, n ∈ doc.descendants c)) ↔ found.Nodup := by
  unfold unitsOf
  split
  · rename_i hMany
    have hNotSelf : found ≠ [c] := fun h => by simp [h] at hMany
    simp only [hNotSelf, false_or]
    exact ⟨fun h => h.2.1, fun h => ⟨hMany, h, hBelow⟩⟩
  · rename_i hFew
    refine iff_of_true (Or.inl rfl) ?_
    match found, hFew with
    | [], _ => exact List.nodup_nil
    | [_], _ => exact List.nodup_cons.mpr ⟨List.not_mem_nil, List.nodup_nil⟩
    | _ :: _ :: _, h => simp at h

/-- With the default chains, a container gives itself alone, or at least two distinct nodes
below it, exactly when the page is mobile or no element is found both as a result with site
links and as a plain desktop result. -/
theorem resultElements_units_iff (doc : Document) (mobile : Bool) (container : Nat) :
    ∃ linked plain out,
      siteLinkResults doc Chains.initial container = .ok linked ∧
      selectBy doc Chains.initial "desktop_results" (.node container) = .ok plain ∧
      resultElements doc Chains.initial mobile container = .ok out ∧
      (out = [container] ∨
          (2 ≤ out.length ∧ out.Nodup ∧ ∀ n ∈ out, n ∈ doc.descendants container) ↔
        mobile = true ∨ ∀ n ∈ linked, n ∉ plain) := by
  obtain ⟨linked, plain, found, hLinked, hPlain, hFound, hBelow, hNodup⟩ :=
    resultsIn_nodup_iff Chains.initial_safe mobile container
  refine ⟨linked, plain, unitsOf container found, hLinked, hPlain, ?_, ?_⟩
  · simp only [resultElements, hFound]
    rfl
  · rw [unitsOf_shape_iff hBelow, hNodup]

theorem ok_of_toOption {ε α : Type} {x : Except ε α} {a : α} (h : x.toOption = some a) :
    x = .ok a := by
  cases x <;> simp_all [Except.toOption]

/-- A `div.g` whose one result, a `div.tF2Cxc` holding another one and a site-links table, is
found by both desktop searches: the container gives that result twice, not itself. -/
theorem shared_result_counted_twice :
    ∃ d, Document.parse
        "<div id=\"c\"><div class=\"g\"><div class=\"tF2Cxc\"><div class=\"tF2Cxc\">a</div><table class=\"jmjoTe\"></table></div></div></div>"
        true = .ok d ∧
      siteLinkResults d Chains.initial 0 = .ok [2] ∧
      selectBy d Chains.initial "desktop_results" (.node 0) = .ok [2] ∧
      resultElements d Chains.initial false 0 = .ok [2, 2] ∧
      [2, 2] ≠ [0] ∧ ¬ [2, 2].Nodup := by
  -- one evaluation of the page gives the three searches
  have hEval : (Document.parse
      "<div id=\"c\"><div class=\"g\"><div class=\"tF2Cxc\"><div class=\"tF2Cxc\">a</div><table class=\"jmjoTe\"></table></div></div></div>"
      true).toOption.map (fun d => ((siteLinkResults d Chains.initial 0).toOption,
        (selectBy d Chains.initial "desktop_results" (.node 0)).toOption,
        (resultElements d Chains.initial false 0).toOption)) =
      some (some [2], some [2], some [2, 2]) := by
    decide +kernel
  cases hp : Document.parse
      "<div id=\"c\"><div class=\"g\"><div class=\"tF2Cxc\"><div class=\"tF2Cxc\">a</div><table class=\"jmjoTe\"></table></div></div></div>"
      true with
  | error e =>
    rw [hp] at hEval
    cases hEval
  | ok d =>
    rw [hp] at hEval
    simp only [Except.toOption, Option.map_some, Option.some.injEq, Prod.mk.injEq] at hEval
    obtain ⟨hLinked, hPlain, hUnits⟩ := hEval
    exact ⟨d, rfl, ok_of_toOption hLinked, ok_of_toOption hPlain, ok_of_toOption hUnits,
      by decide, by decide⟩

end SearchPage
