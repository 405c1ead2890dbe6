import SearchPage.Proofs.Forest

/-!
# Where spans end

An element's span ends where the first element after its subtree begins, or at the end of the
page. Two passes back to front over the table of nodes give that place. The first
(`subtreeLastsOf`) gives each node the last number of its subtree: an element with children
takes the entry of its last child, anything else keeps its own number. The second
(`nextStartsOf`) gives each number the start of the first element numbered that or later, or
the page length. The span of an element then ends at the second pass's entry just past the
first pass's entry.

The first pass reads the entry of a child, so it is right only if that entry is already final
when it is read. It is: children come after their parent, and the pass runs back to front
(one step is `subtreeLastStep_getElem?`; the pass is `foldr_subtreeLastStep`, by induction on
the part of the table the pass has done). It also
needs the last child, among the nodes only (a comment is no node), to carry the end of its
parent's range, which the tiling of a parent's range by its children gives
(`Nested.stop_of_back?`).

## Main statements

* `Document.subtreeLastsOf_getElem?`: the first pass gives each node the last number of its
  range.
* `Document.Positioned.posAt_first_element`: the second pass gives the start of the first
  element numbered that or later.
* `Document.backward_passes_span_ends`: in a page read with spans, both passes and the spans
  they give.
-/

namespace SearchPage

namespace Document

namespace Nested

variable {d : Document} (hn : d.Nested)
include hn

/-- The children of a node come in increasing order. -/
theorem childrenOf_sorted (P : Option Nat) : (d.childrenOf P).toList.Pairwise (· < ·) := by
  rw [hn.childrenOf_eq P]
  exact List.pairwise_lt_range.filter _

/-- A node without children reaches just past itself, and a node that reaches just past itself
has no children. -/
theorem stop_eq_succ_iff {p : Nat} (hp : p < d.size) :
    d.stop p = p + 1 ↔ (d.childrenOf (some p)).toList = [] := by
  have hStop := (hn.lt_stop p hp).1
  constructor
  · intro hEq
    apply List.eq_nil_iff_forall_not_mem.mpr
    intro k hk
    have := hn.parent_encloses k p ((hn.mem_childrenOf).mp hk).2
    omega
  · intro hNil
    by_contra hNe
    -- the node right after `p` lies in its range, so in the range of one of its children
    obtain ⟨k, hk, -, -⟩ := hn.exists_child_range (P := some p) (j := p + 1)
      (by simp [firstBelow]) (by simp only [endBelow]; omega)
    rw [← hn.mem_childrenOf, hNil] at hk
    cases hk

/-- The range of the last child of a node ends where the node's range ends. -/
theorem stop_of_back? {p c : Nat} (hc : (d.childrenOf (some p)).back? = some c) :
    d.stop c = d.stop p := by
  obtain ⟨ys, hys⟩ := Array.back?_eq_some_iff.mp hc
  have hList : (d.childrenOf (some p)).toList = ys.toList ++ [c] := by
    rw [hys, Array.toList_push]
  have hcMem : c ∈ (d.childrenOf (some p)).toList := by
    rw [hList]
    exact List.mem_append_right _ List.mem_cons_self
  -- every child comes no later than the last one
  have hBefore : ∀ k ∈ (d.childrenOf (some p)).toList, k ≤ c := by
    intro k hk
    have hSorted := hn.childrenOf_sorted (some p)
    rw [hList] at hSorted hk
    rcases List.mem_append.mp hk with hk | hk
    · exact Nat.le_of_lt ((List.pairwise_append.mp hSorted).2.2 k hk c List.mem_cons_self)
    · simp only [List.mem_singleton] at hk
      omega
  obtain ⟨hcSize, hcP⟩ := (hn.mem_childrenOf).mp hcMem
  have hEnc := hn.parent_encloses c p hcP
  have hLe := hn.laminar p c hEnc.1 hEnc.2
  have hcStop := (hn.lt_stop c hcSize).1
  by_contra hNe
  -- the first number past the last child's range would lie in the range of a child
  obtain ⟨k, ⟨hkSize, hkP⟩, hkj, hjk⟩ := hn.exists_child_range (P := some p) (j := d.stop c)
    (by simp only [firstBelow]; omega) (by simp only [endBelow]; omega)
  have hkc := hBefore k ((hn.mem_childrenOf).mpr ⟨hkSize, hkP⟩)
  rcases Nat.eq_or_lt_of_le hkc with rfl | hlt
  · omega
  · have := hn.stop_le_of_siblings hkP hcSize hcP hlt
    omega

end Nested

/-- A step of the pass back to front changes entries only. -/
theorem size_subtreeLastStep (nodes : Array Node) (m : Nat) (last : Array Nat) :
    (subtreeLastStep nodes m last).size = last.size := by
  unfold subtreeLastStep
  split
  · split
    · exact Array.size_setIfInBounds
    · rfl
  · rfl

/-- The pass back to front keeps its table as large as the node table. -/
theorem size_foldr_subtreeLastStep (nodes : Array Node) (n : Nat) (ns : List Nat) :
    (ns.foldr (subtreeLastStep nodes) (Array.range n)).size = n := by
  induction ns with
  | nil => simp
  | cons m ns ih => rw [List.foldr_cons, size_subtreeLastStep, ih]

section pass

variable {d : Document} (hn : d.Nested) (hpe : ∀ c p, d.parent? c = some p → d.isElement p = true)
include hn hpe

/-- The step at `m` writes the last number of the subtree of `m` into the entry of `m` and leaves
the other entries, when the entry of `m` is still its own number and the entries of the later
numbers are final. -/
theorem subtreeLastStep_getElem? {m : Nat} (hm : m < d.size) {A : Array Nat}
    (hSize : A.size = d.size) (hOwn : A[m]? = some m)
    (hLater : ∀ c, m < c → c < d.size → A[c]? = some (d.stop c - 1)) (i : Nat) :
    (subtreeLastStep d.nodes m A)[i]? = if i = m then some (d.stop m - 1) else A[i]? := by
  obtain ⟨n, hNode⟩ := exists_getElem?_of_lt_size hm
  have hKind := isElement_of_getElem? hNode
  have hChildren : d.childrenOf (some m) = n.children := by
    simp only [childrenOf, node?, hNode, Option.elim_some]
  -- a node that keeps its entry reaches just past itself, so its own number is its entry
  have hKeep : d.stop m = m + 1 → A[i]? = if i = m then some (d.stop m - 1) else A[i]? := by
    intro hStop
    split
    · rename_i him
      rw [him, hOwn, hStop, Nat.add_sub_cancel]
    · rfl
  unfold subtreeLastStep
  rw [hNode]
  obtain ⟨kind, parent, children, pos, stop, holdsCharData, asides, slot⟩ := n
  cases kind with
  | text data => exact hKeep (stop_of_not_isElement hn hpe hm hKind)
  | element name attrs =>
    simp only at hChildren ⊢
    cases hb : children.back? with
    | none =>
      apply hKeep
      rw [hn.stop_eq_succ_iff hm, hChildren, Array.back?_eq_none_iff.mp hb]
    | some c =>
      -- the last child comes later, so its entry is already the last number of its subtree
      have hBack : (d.childrenOf (some m)).back? = some c := by rw [hChildren]; exact hb
      have hcMem : c ∈ (d.childrenOf (some m)).toList :=
        Array.mem_toList_iff.mpr (Array.mem_of_back? hBack)
      obtain ⟨hcSize, hcP⟩ := (hn.mem_childrenOf).mp hcMem
      have hmc := (hn.parent_encloses c m hcP).1
      simp only [hLater c hmc hcSize, Option.getD_some, hn.stop_of_back? hBack,
        Array.getElem?_setIfInBounds, hSize, if_pos hm]
      split
      · rename_i hmi
        rw [if_pos hmi.symm]
      · rename_i hmi
        rw [if_neg (Ne.symm hmi)]

/-- After the steps at the numbers from `m` to the end of the table, the entry of every number
from `m` on is the last number of its subtree, and every earlier entry is still its own number.
The induction goes back to front, as the pass does: the step at `m` reads the entry of the last
child of `m`, which comes later and is already final. -/
theorem foldr_subtreeLastStep (k : Nat) : ∀ m, m + k = d.size → ∀ i,
    ((List.range' m k).foldr (subtreeLastStep d.nodes) (Array.range d.size))[i]? =
      if i < d.size then some (if m ≤ i then d.stop i - 1 else i) else none := by
  induction k with
  | zero =>
    intro m hm i
    simp only [List.range'_zero, List.foldr_nil, Array.getElem?_range]
    split
    · rw [if_neg (by omega)]
    · rfl
  | succ k ih =>
    intro m hm i
    have hRest := ih (m + 1) (by omega)
    have hSize := size_foldr_subtreeLastStep d.nodes d.size (List.range' (m + 1) k)
    rw [List.range'_succ, List.foldr_cons]
    generalize (List.range' (m + 1) k).foldr (subtreeLastStep d.nodes) (Array.range d.size) = A
      at hRest hSize
    have hm : m < d.size := by omega
    have hOwn : A[m]? = some m := by rw [hRest m, if_pos hm, if_neg (by omega)]
    have hLater : ∀ c, m < c → c < d.size → A[c]? = some (d.stop c - 1) := by
      intro c hmc hc
      rw [hRest c, if_pos hc, if_pos (by omega)]
    rw [subtreeLastStep_getElem? hn hpe hm hSize hOwn hLater]
    by_cases him : i = m
    · subst him
      rw [if_pos rfl, if_pos hm, if_pos (Nat.le_refl _)]
    · have hLe : (m + 1 ≤ i) = (m ≤ i) := propext (by omega)
      rw [if_neg him, hRest i]
      simp only [hLe]

/-- The first pass gives every node of the table the last number of its subtree. -/
theorem subtreeLastsOf_getElem? (i : Nat) :
    (subtreeLastsOf d.nodes)[i]? = if i < d.size then some (d.stop i - 1) else none := by
  have hPass := foldr_subtreeLastStep hn hpe d.size 0 (Nat.zero_add _) i
  simp only [Nat.zero_le, if_true] at hPass
  show ((List.range d.size).foldr (subtreeLastStep d.nodes) (Array.range d.size))[i]? = _
  rw [List.range_eq_range']
  exact hPass

/-- The last number of the subtree of a node is the largest number at or below it: the node
itself when nothing lies below it, which is exactly when it has no children, as for a piece of
text. -/
theorem subtreeLast_spec {i : Nat} (hi : i < d.size) :
    (d.stop i - 1 = i ∨ d.Below i (d.stop i - 1)) ∧ (∀ c, d.Below i c → c ≤ d.stop i - 1) ∧
      (d.stop i - 1 = i ↔ (d.childrenOf (some i)).toList = []) ∧
      (d.isElement i = false → d.stop i - 1 = i) := by
  have hStop := hn.lt_stop i hi
  have hLast : d.stop i - 1 = i ↔ d.stop i = i + 1 := by omega
  refine ⟨?_, ?_, hLast.trans (hn.stop_eq_succ_iff hi), fun hText => ?_⟩
  · by_cases hEq : d.stop i = i + 1
    · exact .inl (by omega)
    · exact .inr (hn.below_iff.mpr ⟨by omega, by omega⟩)
  · intro c hc
    have := hn.below_iff.mp hc
    omega
  · rw [stop_of_not_isElement hn hpe hi hText]
    rfl

end pass

namespace Positioned

variable {d : Document} (hp : d.Positioned)
include hp

/-- The table of next starts has an entry for every number up to the size of the table. -/
theorem nextStarts_getElem? {j : Nat} (hj : j ≤ d.size) :
    d.nextStarts[j]? = some (d.nextStart j) := by
  rw [hp.nextStarts_eq, nextStartsOf_getElem? _ _ _ hj, ← hp.nextStart_eq hj]

/-- The next start at `j` is where the first element numbered `j` or later begins. -/
theorem posAt_first_element {j k : Nat} (hjk : j ≤ k) (hk : d.isElement k = true)
    (hFirst : ∀ k', j ≤ k' → k' < k → d.isElement k' = false) :
    d.posAt k = some (d.nextStart j) := by
  have hkSize := lt_size_of_isElement hk
  obtain ⟨p, hpk⟩ : ∃ p, d.posAt k = some p :=
    Option.isSome_iff_exists.mp (by rw [hp.tagged]; exact hk)
  rcases hp.nextStart_cases (by omega : j ≤ d.size) with hEnd | ⟨j', hjj', hj'⟩
  · -- the page ends after the start of `k`, so the next start is not the page end
    have hLe := hp.nextStart_le (by omega) hjk hpk
    have hInside := hp.inside k p hpk
    omega
  · -- the next start belongs to an element, which is not before `k`, nor after it
    have hj'Elem : d.isElement j' = true := by rw [← hp.tagged, hj']; rfl
    have hkj' : k ≤ j' := by
      by_contra hLt
      rw [hFirst j' hjj' (by omega)] at hj'Elem
      cases hj'Elem
    rcases Nat.eq_or_lt_of_le hkj' with rfl | hlt
    · exact hj'
    · have hLe := hp.nextStart_le (by omega) hjk hpk
      have hLt := hp.increasing k j' p _ hlt hpk hj'
      omega

/-- With no element numbered `j` or later, the next start at `j` is the page end. -/
theorem nextStart_of_no_element {j : Nat} (hj : j ≤ d.size)
    (hNone : ∀ k, j ≤ k → d.isElement k = false) : d.nextStart j = d.length := by
  rcases hp.nextStart_cases hj with hEnd | ⟨j', hjj', hj'⟩
  · exact hEnd
  · have hElem : d.isElement j' = true := by rw [← hp.tagged, hj']; rfl
    rw [hNone j' hjj'] at hElem
    cases hElem

end Positioned


/-- The two passes back to front over the table of a page read with spans, and the spans they
give. The first pass gives each node the largest number in its subtree: the node itself when it
has no children, as a piece of text has none. The second gives each number the start of the
first element numbered that or later, or the page length when there is none. The span of an
element runs from its start to the second pass's entry just past the first pass's entry: to
the start of the first element after its subtree, or to the end of the page. -/
theorem backward_passes_span_ends {markup : String} {d : Document}
    (h : Document.parse markup true = .ok d) :
    (∀ i, i < d.size → ∃ L, (subtreeLastsOf d.nodes)[i]? = some L ∧
      (L = i ∨ d.Below i L) ∧ (∀ c, d.Below i c → c ≤ L) ∧
      (L = i ↔ (d.childrenOf (some i)).toList = []) ∧ (d.isElement i = false → L = i)) ∧
    (∀ j k, j ≤ k → d.isElement k = true → (∀ k', j ≤ k' → k' < k → d.isElement k' = false) →
      d.nextStarts[j]? = d.posAt k) ∧
    (∀ j, j ≤ d.size → (∀ k, j ≤ k → d.isElement k = false) →
      d.nextStarts[j]? = some markup.length) ∧
    (∀ i L, (subtreeLastsOf d.nodes)[i]? = some L →
      ∃ e : Nat, d.nextStarts[L + 1]? = some e ∧ d.span? i = (d.posAt i).map fun p => ⟨p, e⟩) ∧
    (∀ i L sp, (subtreeLastsOf d.nodes)[i]? = some L → d.span? i = some sp →
      (∀ k, L < k → d.isElement k = true → (∀ k', L < k' → k' < k → d.isElement k' = false) →
        ∃ p, d.posAt k = some p ∧ sp.stop = p) ∧
      ((∀ k, L < k → d.isElement k = false) → sp.stop = markup.length)) := by
  have hm := ofMarkup_of_parse h
  have hn := ofMarkup_nested hm
  have hp := ofMarkup_positioned hm
  have hpe : ∀ c p, d.parent? c = some p → d.isElement p = true := fun c p hp =>
    ofMarkup_parent_isElement hm hp
  obtain ⟨-, -, -, hLength, hw, -⟩ := ofMarkup_positions hm
  -- an entry of the first pass is the last number of a node's subtree
  have hEntry : ∀ i L, (subtreeLastsOf d.nodes)[i]? = some L →
      i < d.size ∧ L = d.stop i - 1 := by
    intro i L hL
    rw [subtreeLastsOf_getElem? hn hpe] at hL
    split at hL
    · exact ⟨by assumption, (Option.some.inj hL).symm⟩
    · cases hL
  -- the span of a node ends at the next start just past its subtree
  have hSpan : ∀ i L, (subtreeLastsOf d.nodes)[i]? = some L →
      d.stop i ≤ d.size ∧ L + 1 = d.stop i ∧
        d.span? i = (d.posAt i).map fun p => ⟨p, d.nextStart (L + 1)⟩ := by
    intro i L hL
    obtain ⟨hi, rfl⟩ := hEntry i L hL
    have hStop := hn.lt_stop i hi
    refine ⟨hStop.2, by omega, ?_⟩
    rw [span?_eq hw, show d.stop i - 1 + 1 = d.stop i by omega]
  refine ⟨?_, ?_, ?_, ?_, ?_⟩
  · intro i hi
    refine ⟨d.stop i - 1, ?_, subtreeLast_spec hn hpe hi⟩
    rw [subtreeLastsOf_getElem? hn hpe, if_pos hi]
  · intro j k hjk hk hFirst
    have hkSize := lt_size_of_isElement hk
    rw [hp.nextStarts_getElem? (by omega), hp.posAt_first_element hjk hk hFirst]
  · intro j hj hNone
    rw [hp.nextStarts_getElem? hj, hp.nextStart_of_no_element hj hNone, hLength]
  · intro i L hL
    obtain ⟨hStop, hL1, hSpanEq⟩ := hSpan i L hL
    exact ⟨d.nextStart (L + 1), hp.nextStarts_getElem? (by omega), hSpanEq⟩
  · intro i L sp hL hsp
    obtain ⟨hStop, hL1, hSpanEq⟩ := hSpan i L hL
    rw [hSpanEq] at hsp
    obtain ⟨p, -, rfl⟩ := Option.map_eq_some_iff.mp hsp
    refine ⟨fun k hk hkElem hFirst => ?_, fun hNone => ?_⟩
    · exact ⟨_, hp.posAt_first_element (by omega) hkElem
        (fun k' hk' hk'k => hFirst k' (by omega) hk'k), rfl⟩
    · rw [hp.nextStart_of_no_element (by omega) (fun k hk => hNone k (by omega)), hLength]

/-- The passes over a page whose `div` ends with a comment after its last paragraph: the comment
is no node, so the last paragraph carries the end of the `div`'s subtree. -/
theorem span_ends_of_commented_div :
    ∃ d, Document.parse "<div><p>a</p><p>b</p><!-- c --></div>" true = .ok d ∧
      (∀ i, i < d.size → ∃ L, (subtreeLastsOf d.nodes)[i]? = some L ∧
        (L = i ∨ d.Below i L) ∧ (∀ c, d.Below i c → c ≤ L) ∧
        (L = i ↔ (d.childrenOf (some i)).toList = []) ∧ (d.isElement i = false → L = i)) ∧
      (∀ j k, j ≤ k → d.isElement k = true →
        (∀ k', j ≤ k' → k' < k → d.isElement k' = false) → d.nextStarts[j]? = d.posAt k) ∧
      (∀ j, j ≤ d.size → (∀ k, j ≤ k → d.isElement k = false) →
        d.nextStarts[j]? = some "<div><p>a</p><p>b</p><!-- c --></div>".length) ∧
      (∀ i L, (subtreeLastsOf d.nodes)[i]? = some L →
        ∃ e : Nat, d.nextStarts[L + 1]? = some e ∧ d.span? i = (d.posAt i).map fun p => ⟨p, e⟩) ∧
      (∀ i L sp, (subtreeLastsOf d.nodes)[i]? = some L → d.span? i = some sp →
        (∀ k, L < k → d.isElement k = true → (∀ k', L < k' → k' < k → d.isElement k' = false) →
          ∃ p, d.posAt k = some p ∧ sp.stop = p) ∧
        ((∀ k, L < k → d.isElement k = false) →
          sp.stop = "<div><p>a</p><p>b</p><!-- c --></div>".length)) := by
  obtain ⟨d, h⟩ := exists_ok_of_isOk (show
    (Document.parse "<div><p>a</p><p>b</p><!-- c --></div>" true).isOk = true by decide +kernel)
  exact ⟨d, h, backward_passes_span_ends h⟩

end Document

end SearchPage
