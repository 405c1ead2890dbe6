import SearchPage.Page.Parser
import SearchPage.Proofs.Selection
import SearchPage.Proofs.Spans
import SearchPage.Proofs.PipeFields

/-!
# Surviving candidates

Segmenting a page keeps a candidate when it has a span, starts inside no candidate's span,
and is the first candidate with its node number. The test looks at page positions and node
numbers only. On a page read with spans it is a test on the tree: there one element's span
holds the start of another's exactly when the second lies below the first
(`holdsStartOf_iff_below`). So the survivors are the candidates that lie below no
candidate, each kept at its first place (`uniqueNodes_eq`), and the results read from them
carry pairwise different start positions.

## Main statements

* `filterMap_firstAt`: reading first occurrences off by position gives `firstOccurrences`.
* `uniqueNodes_eq`: the survivors are the first occurrences of the candidates that lie
  below no candidate.
* `parseResult_meta`: the `_meta` of a result record gives the start of its element.
* `survivors_first_unnested`: the survivors of a segmented page, and the start positions of
  the results read from them.
-/

namespace SearchPage

/-! ## First occurrences by position -/

/-- Whether position `i` of `xs` holds a value passing `q`, at its first occurrence. -/
def firstAt (q : Nat → Bool) (xs : List Nat) (i : Nat) : Bool :=
  match xs[i]? with
  | some x => q x && xs.findIdx? (· == x) == some i
  | none => false

theorem firstAt_zero (q : Nat → Bool) (x : Nat) (xs : List Nat) :
    firstAt q (x :: xs) 0 = q x := by
  simp [firstAt, List.findIdx?_cons]

/-- Past the head, a first occurrence in `x :: xs` is a first occurrence in `xs` of a value
other than `x`. -/
theorem firstAt_succ (q : Nat → Bool) (x : Nat) (xs : List Nat) (i : Nat) :
    firstAt q (x :: xs) (i + 1) = firstAt (fun y => q y && y != x) xs i := by
  unfold firstAt
  rw [List.getElem?_cons_succ]
  cases xs[i]? with
  | none => rfl
  | some y =>
    simp only [List.findIdx?_cons]
    by_cases hxy : x = y
    · subst hxy
      simp
    · have hyx : (y != x) = true := bne_iff_ne.mpr (Ne.symm hxy)
      simp only [beq_iff_eq, hxy, if_false, hyx, Bool.and_true]
      cases xs.findIdx? (· == y) <;> simp

/-- Reading the first occurrences off by position gives `firstOccurrences`. -/
theorem filterMap_firstAt (q : Nat → Bool) (xs : List Nat) :
    ((List.range xs.length).filter (firstAt q xs)).filterMap (xs[·]?) =
      (firstOccurrences xs).filter q := by
  induction xs generalizing q with
  | nil => simp [firstOccurrences]
  | cons x xs ih =>
    have hTail : (List.range xs.length).filter (firstAt q (x :: xs) ∘ Nat.succ) =
        (List.range xs.length).filter (firstAt (fun y => q y && y != x) xs) := by
      congr 1
      funext i
      exact firstAt_succ q x xs i
    rw [List.length_cons, List.range_succ_eq_map, List.filter_cons, firstAt_zero, List.filter_map,
      hTail]
    -- the head survives exactly when it passes `q`; the tail is the tail's run without it
    have hRest : (((List.range xs.length).filter (firstAt (fun y => q y && y != x) xs)).map
        Nat.succ).filterMap ((x :: xs)[·]?) =
          (firstOccurrences xs).filter (fun y => q y && y != x) := by
      rw [List.filterMap_map]
      exact ih _
    cases hq : q x with
    | false =>
      simp only [Bool.false_eq_true, if_false, hRest, firstOccurrences, List.filter_cons, hq,
        List.filter_filter]
    | true =>
      simp only [if_true, List.filterMap_cons, List.getElem?_cons_zero, hRest, firstOccurrences,
        List.filter_cons, hq, List.filter_filter]

/-! ## Survivors on a page read with spans -/

section Spans

variable {d : Document} (hn : d.Nested) (hp : d.Positioned) (hw : d.withSpans = true)
include hp hw

/-- A result read from an element carries the start of the element's span. -/
theorem startIndex_of_isElement {x : Nat} (hx : d.isElement x = true) :
    ∃ sp, d.span? x = some sp ∧ startIndex d (some x) = .int sp.start := by
  obtain ⟨sp, hsp⟩ := Option.isSome_iff_exists.mp ((Document.span?_isSome hp hw x).trans hx)
  exact ⟨sp, hsp, by simp [startIndex, hsp]⟩

include hn

/-- Between elements, starting inside a span is lying below. -/
theorem nestedIn_ofNode {b x : Nat} (hb : d.isElement b = true) (hx : d.isElement x = true) :
    (Candidate.ofNode d b).nestedIn (Candidate.ofNode d x) = d.isDescendant b x := by
  obtain ⟨sb, hsb⟩ := Option.isSome_iff_exists.mp ((Document.span?_isSome hp hw b).trans hb)
  obtain ⟨sx, hsx⟩ := Option.isSome_iff_exists.mp ((Document.span?_isSome hp hw x).trans hx)
  have hNested := Document.holdsStartOf_iff_below hn hp hw hsb hsx
  rw [hn.below_iff] at hNested
  simp only [Candidate.nestedIn, Candidate.ofNode, hsb, hsx]
  apply Bool.eq_iff_iff.mpr
  simp [hNested, Document.isDescendant]

/-- Among elements, a candidate survives at the first occurrence of a node below no
candidate. -/
theorem survivesAt_ofNodes {ids : List Nat} (hAll : ∀ n ∈ ids, d.isElement n = true) (i : Nat) :
    survivesAt (ids.map fun n => some (Candidate.ofNode d n)) i =
      firstAt (fun x => !ids.any (d.isDescendant · x)) ids i := by
  unfold survivesAt firstAt
  rw [List.getElem?_map]
  cases hi : ids[i]? with
  | none => rfl
  | some x =>
    have hx := hAll x (List.mem_of_getElem? hi)
    have hSpan : (Candidate.ofNode d x).span.isSome = true :=
      (Document.span?_isSome hp hw x).trans hx
    have hNested : ((ids.map fun n => some (Candidate.ofNode d n)).any fun o =>
        o.any fun o => o.nestedIn (Candidate.ofNode d x)) = ids.any (d.isDescendant · x) := by
      rw [List.any_map]
      apply Bool.eq_iff_iff.mpr
      simp only [List.any_eq_true, Function.comp_apply, Option.any_some]
      constructor <;> rintro ⟨b, hb, h⟩ <;> refine ⟨b, hb, ?_⟩
      · rwa [nestedIn_ofNode hn hp hw (hAll b hb) hx] at h
      · rwa [nestedIn_ofNode hn hp hw (hAll b hb) hx]
    have hFirst : (ids.map fun n => some (Candidate.ofNode d n)).findIdx?
        (fun o => o.any (·.id == (Candidate.ofNode d x).id)) = ids.findIdx? (· == x) := by
      rw [List.findIdx?_map]
      congr 1
      funext b
      rw [Bool.eq_iff_iff]
      simp only [Function.comp_apply, Option.any_some, Candidate.ofNode, beq_iff_eq,
        Int.ofNat_inj]
    simp only [Option.map_some, hSpan, hNested, hFirst, Bool.true_and]

/-- On a page read with spans, the survivors among candidates that are elements are the
first occurrences of the candidates that lie below no candidate. -/
theorem uniqueNodes_eq {ids : List Nat} (hAll : ∀ n ∈ ids, d.isElement n = true) :
    uniqueNodes d ids = (firstOccurrences ids).filter fun x => !ids.any (d.isDescendant · x) := by
  unfold uniqueNodes survivorPositions
  simp only [List.length_map]
  rw [List.filter_congr fun i _ => survivesAt_ofNodes hn hp hw hAll i]
  exact filterMap_firstAt _ ids

end Spans

/-! ## What the survivors are -/

section Laws

variable {d : Document} {candidates survivors : List Nat}
  (hEq : survivors = (firstOccurrences candidates).filter
    fun x => !candidates.any (d.isDescendant · x))
include hEq

theorem survivors_sublist : survivors.Sublist candidates := by
  rw [hEq]
  exact List.filter_sublist.trans (firstOccurrences_sublist candidates)

theorem survivors_nodup : survivors.Nodup := by
  rw [hEq]
  exact (firstOccurrences_nodup candidates).filter _

theorem mem_survivors_iff {x : Nat} :
    x ∈ survivors ↔ x ∈ candidates ∧ ∀ c ∈ candidates, d.isDescendant c x = false := by
  simp [hEq, mem_firstOccurrences]

variable (hn : d.Nested)
include hn

/-- No survivor lies below a candidate. -/
theorem not_below_of_mem_survivors {s : Nat} (hs : s ∈ survivors) :
    ∀ c ∈ candidates, ¬ d.Below c s := by
  intro c hc hBelow
  have hRange := hn.below_iff.mp hBelow
  have hOff := ((mem_survivors_iff hEq).mp hs).2 c hc
  simp [Document.isDescendant, hRange] at hOff

/-- A candidate below no candidate survives exactly once. -/
theorem count_survivors_of_unnested {c : Nat} (hc : c ∈ candidates)
    (hTop : ∀ b ∈ candidates, ¬ d.Below b c) : survivors.count c = 1 := by
  have hMem : c ∈ survivors := by
    refine (mem_survivors_iff hEq).mpr ⟨hc, fun b hb => ?_⟩
    have hNot := hTop b hb
    rw [hn.below_iff] at hNot
    simpa [Document.isDescendant] using hNot
  rw [(survivors_nodup hEq).count, if_pos hMem]

end Laws

theorem segment_survivors {doc : Document} {chains : Chains} {isPanel : PanelCheck}
    {mobile : Bool} {target : Target} {seg : Segments}
    (h : segment doc chains isPanel mobile target = .ok seg) :
    seg.survivors = uniqueNodes doc seg.candidates := by
  simp only [segment, bind_eq_ok, pure_eq_ok] at h
  obtain ⟨containers, -, candidates, -, rfl⟩ := h
  rfl

/-! ## The results read from the survivors -/

/-- The `_meta` of a result record names it organic and gives the start of its element. -/
theorem parseResult_meta {doc : Document} {chains : Chains} {result : ResultSettings}
    {features : Collaborators} {request : Request} {element : Nat} {r : Record}
    (h : parseResult doc chains result features request element = .ok (some r)) :
    r.lookup "_meta" = some (.record [("type", .str "organic"),
      ("start_index", startIndex doc (some element))]) := by
  simp only [parseResult_eq, bind_eq_ok] at h
  obtain ⟨lead, -, isCard, -, url, -, title, -, date, -, amp, -, answerBox, -, questions, -,
    thumb, -, video, -, h⟩ := h
  rw [← eq_of_ite_none_eq_ok h]
  rfl

/-- On a page read with spans, the organic results carry pairwise different starts. -/
theorem searchResults_starts {d : Document} (hn : d.Nested) (hp : d.Positioned)
    (hw : d.withSpans = true) {p : Parser} {request : Request} {target : Target} {v : Value}
    (h : p.searchResults d request target = .ok v) :
    ∃ rs : List Record, ∃ starts : List Int, v = .list (rs.map .record) ∧ starts.Nodup ∧
      List.Forall₂ (fun r k => r.lookup "_meta" =
        some (.record [("type", .str "organic"), ("start_index", .int k)])) rs starts := by
  simp only [Parser.searchResults, bind_eq_ok, pure_eq_ok] at h
  obtain ⟨seg, hSeg, results, hResults, rfl⟩ := h
  obtain ⟨read, hRead, hAll⟩ := filterMapM_ok hResults
  have hEq := (segment_survivors hSeg).trans (uniqueNodes_eq hn hp hw (segment_isElement hSeg).2)
  -- the elements read are survivors: elements, each read once
  have hReadElem : ∀ x ∈ read, d.isElement x = true := fun x hx =>
    (segment_isElement hSeg).2 x ((survivors_sublist hEq).subset (hRead.subset hx))
  have hReadNodup : read.Nodup := (survivors_nodup hEq).sublist hRead
  refine ⟨results, read.map fun x => ((d.span? x).map (·.start)).getD 0, rfl, ?_, ?_⟩
  · -- different elements start at different places, as starts increase with node numbers
    refine List.pairwise_map.mpr (hReadNodup.imp_of_mem ?_)
    intro a b ha hb hab
    obtain ⟨sa, hsa, -⟩ := startIndex_of_isElement hp hw (hReadElem a ha)
    obtain ⟨sb, hsb, -⟩ := startIndex_of_isElement hp hw (hReadElem b hb)
    simp only [hsa, hsb, Option.map_some, Option.getD_some]
    rcases Nat.lt_or_gt_of_ne hab with hlt | hlt
    · exact Int.ne_of_lt (Document.span?_start_lt hp hw hsa hsb hlt)
    · exact Int.ne_of_gt (Document.span?_start_lt hp hw hsb hsa hlt)
  · rw [List.forall₂_map_right_iff]
    refine List.Forall₂.flip (((List.forall₂_and_left read results).mpr ⟨hReadElem, hAll⟩).imp ?_)
    rintro x r ⟨hx, hr⟩
    obtain ⟨sp, hsp, hStart⟩ := startIndex_of_isElement hp hw hx
    show r.lookup "_meta" = _
    rw [parseResult_meta hr, hStart, hsp]
    rfl

/-- On a page read with spans, segmenting a target (with any chains, any panel check, on
either platform) keeps as survivors a sublist of the candidates without repeats: no survivor
lies below a candidate, and every candidate below no candidate survives exactly once. The
survivors are the first occurrences of those candidates, in order. The results read from the
survivors are organic records whose start positions are pairwise different. -/
theorem survivors_first_unnested {markup : String} {d : Document}
    (hParse : Document.parse markup true = .ok d) (target : Target) :
    (∀ (chains : Chains) (isPanel : PanelCheck) (mobile : Bool) (seg : Segments),
      segment d chains isPanel mobile target = .ok seg →
        seg.survivors.Sublist seg.candidates ∧ seg.survivors.Nodup ∧
        (∀ s ∈ seg.survivors, ∀ c ∈ seg.candidates, ¬ d.Below c s) ∧
        (∀ c ∈ seg.candidates, (∀ b ∈ seg.candidates, ¬ d.Below b c) →
          seg.survivors.count c = 1) ∧
        seg.survivors = (firstOccurrences seg.candidates).filter
          fun c => !seg.candidates.any (d.isDescendant · c)) ∧
    (∀ (p : Parser) (request : Request) (v : Value), p.searchResults d request target = .ok v →
      ∃ rs : List Record, ∃ starts : List Int, v = .list (rs.map .record) ∧ starts.Nodup ∧
        List.Forall₂ (fun r k => r.lookup "_meta" =
          some (.record [("type", .str "organic"), ("start_index", .int k)])) rs starts) := by
  obtain ⟨hn, hp, hw⟩ := Document.parse_nested_positioned hParse
  refine ⟨?_, fun p request v h => searchResults_starts hn hp hw h⟩
  intro chains isPanel mobile seg hSeg
  have hEq := (segment_survivors hSeg).trans (uniqueNodes_eq hn hp hw (segment_isElement hSeg).2)
  exact ⟨survivors_sublist hEq, survivors_nodup hEq,
    fun s hs => not_below_of_mem_survivors hEq hn hs,
    fun c hc => count_survivors_of_unnested hEq hn hc, hEq⟩

/-- The survivors of a page with a `div` holding two paragraphs, segmented from its top. -/
theorem survivors_of_two_paragraphs :
    ∃ d, Document.parse "<div><p>a</p><p>b</p></div>" true = .ok d ∧
      (∀ (chains : Chains) (isPanel : PanelCheck) (mobile : Bool) (seg : Segments),
        segment d chains isPanel mobile (.nodes (d.roots.toList.map some)) = .ok seg →
          seg.survivors.Sublist seg.candidates ∧ seg.survivors.Nodup ∧
          (∀ s ∈ seg.survivors, ∀ c ∈ seg.candidates, ¬ d.Below c s) ∧
          (∀ c ∈ seg.candidates, (∀ b ∈ seg.candidates, ¬ d.Below b c) →
            seg.survivors.count c = 1) ∧
          seg.survivors = (firstOccurrences seg.candidates).filter
            fun c => !seg.candidates.any (d.isDescendant · c)) ∧
      (∀ (p : Parser) (request : Request) (v : Value),
        p.searchResults d request (.nodes (d.roots.toList.map some)) = .ok v →
          ∃ rs : List Record, ∃ starts : List Int, v = .list (rs.map .record) ∧ starts.Nodup ∧
            List.Forall₂ (fun r k => r.lookup "_meta" =
              some (.record [("type", .str "organic"), ("start_index", .int k)])) rs starts) := by
  obtain ⟨d, h⟩ := exists_ok_of_isOk (show
    (Document.parse "<div><p>a</p><p>b</p></div>" true).isOk = true by decide +kernel)
  exact ⟨d, h, survivors_first_unnested h _⟩

end SearchPage
