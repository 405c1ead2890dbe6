import SearchPage.Proofs.BuilderShape
import SearchPage.Proofs.Outcomes

/-!
# Source spans mirror the tree

An element's span runs from the `<` of its start tag to the start of the first element after
everything below it, or to the end of the page. This module shows that, in every document read
from a page with spans, these spans are the tree itself written as positions:

* every element has a span, no text has one, and a span is a non-empty part of the page;
* spans start in the order of the node numbers;
* one element's span holds the start of another's exactly when the second lies below the
  first in the tree.

The tree here is the one given by the children the document records (`Document.Below`). The
argument has two halves. The builder's invariant (`Document.Nested`) says that the nodes below
an element are those numbered from just after it up to its stop. The reader's order
(`Document.Positioned`) says that positions increase with the numbers, so the first element
at or after the stop starts after every node below and no later than any node after.

## Main statements

* `Document.Nested.below_iff`: a node lies below another exactly when its number is in the
  other's range.
* `Document.ofMarkup_spans`: the spans of a page's elements form a laminar family that
  mirrors its tree.
-/

namespace SearchPage

namespace Document

/-- `c` lies below `a` in the tree: it is a child of `a`, or a child of a node below `a`. -/
inductive Below (d : Document) (a : Nat) : Nat → Prop
  | child {c : Nat} : c ∈ (d.childrenOf (some a)).toList → Below d a c
  | grandchild {b c : Nat} : Below d a b → c ∈ (d.childrenOf (some b)).toList → Below d a c

/-- A node past the end of the table reaches just past itself. -/
theorem stop_of_ge {d : Document} {a : Nat} (ha : d.size ≤ a) : d.stop a = a + 1 := by
  have hNone : d.node? a = none := by simp [node?, size] at ha ⊢; omega
  simp [stop, hNone]

namespace Nested

variable {d : Document} (hd : d.Nested)
include hd

theorem parent_of_mem_children {p c : Nat} (h : c ∈ (d.childrenOf (some p)).toList) :
    d.parent? c = some p := by
  rw [hd.children_eq p] at h
  simpa using (List.mem_filter.mp h).2

theorem mem_children_of_parent {p c : Nat} (hc : c < d.size) (h : d.parent? c = some p) :
    c ∈ (d.childrenOf (some p)).toList := by
  rw [hd.children_eq p]
  exact List.mem_filter.mpr ⟨List.mem_range.mpr hc, by simp [h]⟩

/-- Whatever lies in a node's range lies inside the table. -/
theorem lt_size_of_lt_stop {a c : Nat} (hac : a < c) (hc : c < d.stop a) : c < d.size := by
  by_cases ha : a < d.size
  · have := (hd.lt_stop a ha).2
    omega
  · rw [stop_of_ge (by omega)] at hc
    omega

/-- A node lies below another exactly when its number is in the other's range. -/
theorem below_iff {a c : Nat} : d.Below a c ↔ a < c ∧ c < d.stop a := by
  constructor
  · intro h
    induction h with
    | child hc => exact hd.parent_encloses _ _ (hd.parent_of_mem_children hc)
    | grandchild _ hc ih =>
      -- the parent's range lies inside the ancestor's
      have hChild := hd.parent_encloses _ _ (hd.parent_of_mem_children hc)
      have hNest := hd.laminar _ _ ih.1 ih.2
      omega
  · intro ⟨hac, hcs⟩
    induction c using Nat.strongRecOn with
    | _ c ih =>
      have hc := hd.lt_size_of_lt_stop hac hcs
      obtain ⟨p, hp, hap⟩ := hd.parent_innermost c a hc hac hcs
      have hChild := hd.mem_children_of_parent hc hp
      rcases Nat.eq_or_lt_of_le hap with rfl | hap
      · exact .child hChild
      · have hpc := (hd.parent_encloses c p hp).1
        exact .grandchild (ih p hpc hap (by omega)) hChild

end Nested

/-! ## Where the next element starts -/

/-- The position of node `c`, when it has one. -/
def posAt (d : Document) (c : Nat) : Option Nat := (d.node? c).bind (·.pos)

/-- A right fold that puts in front of the table so far the node's own position, or else
the first entry of the table, builds the table of first positions from each place on. -/
theorem foldr_firstStarts (f : Node → List Nat → List Nat)
    (hf : ∀ n x rest, f n (x :: rest) = n.pos.getD x :: x :: rest) (length : Nat) :
    ∀ (ns : List Node) (k : Nat), k ≤ ns.length →
      (ns.foldr f [length])[k]? = some (((ns.drop k).findSome? (·.pos)).getD length)
  | [], k, hk => by
    have hk0 : k = 0 := by simpa using hk
    subst hk0
    rfl
  | n :: ns, k, hk => by
    have ih := foldr_firstStarts f hf length ns
    have hHead := ih 0 (Nat.zero_le _)
    -- the table for the rest is not empty; its first entry is the rest's first start
    obtain ⟨x, rest, hx⟩ : ∃ x rest, ns.foldr f [length] = x :: rest := by
      cases h : ns.foldr f [length] with
      | nil => rw [h] at hHead; simp at hHead
      | cons x rest => exact ⟨x, rest, rfl⟩
    rw [hx] at hHead ih
    simp only [List.getElem?_cons_zero, List.drop_zero, Option.some.injEq] at hHead
    rw [List.foldr_cons, hx, hf]
    cases k with
    | zero =>
      cases hp : n.pos with
      | some p => simp [hp]
      | none => simp [hp, hHead]
    | succ k =>
      have hk' : k ≤ ns.length := by simp at hk; omega
      simpa using ih k hk'

/-- The table of next starts at `k` holds the position of the first positioned node at or
after `k`, or the page length when there is none. -/
theorem nextStartsOf_getElem? (nodes : Array Node) (length k : Nat) (hk : k ≤ nodes.size) :
    (nextStartsOf nodes length)[k]? =
      some (((nodes.toList.drop k).findSome? (·.pos)).getD length) := by
  unfold nextStartsOf
  rw [← Array.foldr_toList, List.getElem?_toArray]
  refine foldr_firstStarts _ ?_ length nodes.toList k (by simpa using hk)
  intro n x rest
  cases n.pos <;> simp

/-- The positions of a document, as reading a page leaves them: they strictly increase with
the node numbers and lie inside the page, exactly the elements have one, and the table of next
starts is computed from them. -/
structure Positioned (d : Document) : Prop where
  increasing : ∀ a b pa pb, a < b → d.posAt a = some pa → d.posAt b = some pb → pa < pb
  inside : ∀ c p, d.posAt c = some p → p < d.length
  tagged : ∀ c, (d.posAt c).isSome = d.isElement c
  nextStarts_eq : d.nextStarts = nextStartsOf d.nodes d.length

theorem ofMarkup_positioned {markup : String} {withSpans : Bool} {d : Document}
    (h : Document.ofMarkup markup withSpans = .ok d) : d.Positioned := by
  obtain ⟨hSorted, hInside, hTagged, -, -, hNext⟩ := ofMarkup_positions h
  have hPair := List.pairwise_iff_getElem.mp (List.pairwise_filterMap.mp hSorted)
  refine ⟨?_, ?_, ?_, hNext⟩
  · intro a b pa pb hab ha hb
    simp only [posAt, node?, Option.bind_eq_some_iff] at ha hb
    obtain ⟨na, hna, hpa⟩ := ha
    obtain ⟨nb, hnb, hpb⟩ := hb
    obtain ⟨haSize, rfl⟩ := Array.getElem?_eq_some_iff.mp hna
    obtain ⟨hbSize, rfl⟩ := Array.getElem?_eq_some_iff.mp hnb
    exact hPair a b (by simpa using haSize) (by simpa using hbSize) hab pa
      (by simpa using hpa) pb (by simpa using hpb)
  · intro c p hc
    simp only [posAt, node?, Option.bind_eq_some_iff] at hc
    obtain ⟨n, hn, hp⟩ := hc
    exact hInside p (List.mem_filterMap.mpr
      ⟨n, Array.mem_toList_iff.mpr (Array.mem_of_getElem? hn), hp⟩)
  · intro c
    simp only [posAt, isElement, node?]
    cases hn : d.nodes[c]? with
    | none => rfl
    | some n =>
      have hTag := hTagged c n hn
      obtain ⟨kind, parent, children, pos, stop, holdsCharData, asides, slot⟩ := n
      cases kind <;> simp_all [NodeKind.isElement]

namespace Positioned

variable {d : Document} (hp : d.Positioned)
include hp

/-- Where the next element starts, from a place inside the table: the first position at or
after it, or the page length. -/
theorem nextStart_eq {k : Nat} (hk : k ≤ d.size) :
    d.nextStart k = ((d.nodes.toList.drop k).findSome? (·.pos)).getD d.length := by
  unfold nextStart
  rw [hp.nextStarts_eq, nextStartsOf_getElem? _ _ _ hk]
  rfl

/-- The next start is the page length or the position of a node at or after the place. -/
theorem nextStart_cases {k : Nat} (hk : k ≤ d.size) :
    d.nextStart k = d.length ∨ ∃ j, k ≤ j ∧ d.posAt j = some (d.nextStart k) := by
  rw [hp.nextStart_eq hk]
  cases hFind : (d.nodes.toList.drop k).findSome? (·.pos) with
  | none => exact .inl rfl
  | some p =>
    right
    obtain ⟨l₁, x, l₂, hSplit, hx, -⟩ := List.findSome?_eq_some_iff.mp hFind
    refine ⟨k + l₁.length, by omega, ?_⟩
    have hAt : d.nodes.toList[k + l₁.length]? = some x := by
      rw [← List.getElem?_drop, hSplit]
      simp
    simp only [Array.getElem?_toList] at hAt
    simp [posAt, node?, hAt, hx]

/-- The next start comes no later than any position at or after the place. -/
theorem nextStart_le {k j pj : Nat} (hk : k ≤ d.size) (hkj : k ≤ j) (hj : d.posAt j = some pj) :
    d.nextStart k ≤ pj := by
  rw [hp.nextStart_eq hk]
  simp only [posAt, node?, Option.bind_eq_some_iff] at hj
  obtain ⟨n, hn, hnp⟩ := hj
  have hAt : (d.nodes.toList.drop k)[j - k]? = some n := by
    rw [List.getElem?_drop, show k + (j - k) = j by omega, Array.getElem?_toList]
    exact hn
  cases hFind : (d.nodes.toList.drop k).findSome? (·.pos) with
  | none =>
    -- `n` lies after the place and has a position, so something is found
    have := List.findSome?_eq_none_iff.mp hFind n (List.mem_of_getElem? hAt)
    rw [hnp] at this
    cases this
  | some p =>
    obtain ⟨l₁, x, l₂, hSplit, hx, hBefore⟩ := List.findSome?_eq_some_iff.mp hFind
    rw [hSplit] at hAt
    have hxAt : d.posAt (k + l₁.length) = some p := by
      have : d.nodes.toList[k + l₁.length]? = some x := by
        rw [← List.getElem?_drop, hSplit]
        simp
      simp only [Array.getElem?_toList] at this
      simp [posAt, node?, this, hx]
    -- the found node is the first positioned one, so it is no later than `n`
    rcases Nat.lt_or_ge (j - k) l₁.length with hlt | hge
    · rw [List.getElem?_append_left hlt] at hAt
      have := hBefore n (List.mem_of_getElem? hAt)
      rw [hnp] at this
      cases this
    · rcases Nat.eq_or_lt_of_le hge with heq | hlt
      · rw [← heq, List.getElem?_append_right (Nat.le_refl _)] at hAt
        simp only [Nat.sub_self, List.getElem?_cons_zero, Option.some.injEq] at hAt
        subst hAt
        rw [hx] at hnp
        cases hnp
        exact Nat.le_refl _
      · have hjPos : d.posAt j = some pj := by simp [posAt, node?, hn, hnp]
        exact Nat.le_of_lt (hp.increasing _ _ _ _ (by omega) hxAt hjPos)

/-- The next start moves no backwards. -/
theorem nextStart_mono {k k' : Nat} (hkk : k ≤ k') (hk' : k' ≤ d.size) :
    d.nextStart k ≤ d.nextStart k' := by
  have hk : k ≤ d.size := Nat.le_trans hkk hk'
  rcases hp.nextStart_cases hk' with hEnd | ⟨j, hj, hjPos⟩
  · rw [hEnd]
    rcases hp.nextStart_cases hk with hEnd' | ⟨i, -, hiPos⟩
    · exact Nat.le_of_eq hEnd'
    · exact Nat.le_of_lt (hp.inside i _ hiPos)
  · exact hp.nextStart_le hk (Nat.le_trans hkk hj) hjPos

end Positioned

/-- With spans reported, a node's span is its position together with where the next element
starts after its range. -/
theorem span?_eq {d : Document} (hw : d.withSpans = true) (a : Nat) :
    d.span? a = (d.posAt a).map fun p => ⟨p, d.nextStart (d.stop a)⟩ := by
  unfold span? posAt
  rw [if_pos hw]
  cases hn : d.node? a with
  | none => rfl
  | some n =>
    obtain ⟨kind, parent, children, pos, stop, holdsCharData, asides, slot⟩ := n
    cases pos <;> simp [Document.stop, hn]

/-- A document that parses is the one read from the page. -/
theorem ofMarkup_of_parse {markup : String} {withSpans : Bool} {d : Document}
    (h : Document.parse markup withSpans = .ok d) : Document.ofMarkup markup withSpans = .ok d := by
  unfold Document.parse at h
  exact mapError_eq_ok.mp h

theorem lt_size_of_posAt {d : Document} {c p : Nat} (h : d.posAt c = some p) : c < d.size := by
  simp only [posAt, node?, Option.bind_eq_some_iff] at h
  obtain ⟨n, hn, -⟩ := h
  exact (Array.getElem?_eq_some_iff.mp hn).1

/-! ## The laws of spans -/

section spans

variable {d : Document} (hn : d.Nested) (hp : d.Positioned) (hw : d.withSpans = true)
include hp hw

/-- Exactly the elements have spans. -/
theorem span?_isSome (t : Nat) : (d.span? t).isSome = d.isElement t := by
  rw [span?_eq hw, Option.isSome_map, hp.tagged]

/-- Spans start in the order of the node numbers. -/
theorem span?_start_lt {a b : Nat} {sa sb : Span} (ha : d.span? a = some sa)
    (hb : d.span? b = some sb) (hab : a < b) : sa.start < sb.start := by
  rw [span?_eq hw] at ha hb
  obtain ⟨pa, hpa, rfl⟩ := Option.map_eq_some_iff.mp ha
  obtain ⟨pb, hpb, rfl⟩ := Option.map_eq_some_iff.mp hb
  have := hp.increasing a b pa pb hab hpa hpb
  simp only
  omega

include hn

/-- A span is a non-empty part of the page: the next element after the range of an element
starts after it, and no later than the end of the page. -/
theorem span?_bounds {t : Nat} {sp : Span} (h : d.span? t = some sp) :
    0 ≤ sp.start ∧ sp.start < sp.stop ∧ sp.stop ≤ d.length := by
  rw [span?_eq hw] at h
  obtain ⟨p, hpt, rfl⟩ := Option.map_eq_some_iff.mp h
  have ht := lt_size_of_posAt hpt
  have hStop := hn.lt_stop t ht
  have hpL := hp.inside t p hpt
  simp only
  rcases hp.nextStart_cases hStop.2 with hEnd | ⟨j, hj, hjPos⟩
  · rw [hEnd]
    omega
  · have hLater := hp.increasing t j p _ (by omega) hpt hjPos
    have hjL := hp.inside j _ hjPos
    omega

/-- One element's span holds the start of another's exactly when the second lies below the
first. -/
theorem holdsStartOf_iff_below {a b : Nat} {sa sb : Span} (ha : d.span? a = some sa)
    (hb : d.span? b = some sb) : sa.holdsStartOf sb = true ↔ d.Below a b := by
  rw [span?_eq hw] at ha hb
  obtain ⟨pa, hpa, rfl⟩ := Option.map_eq_some_iff.mp ha
  obtain ⟨pb, hpb, rfl⟩ := Option.map_eq_some_iff.mp hb
  have hStop := hn.lt_stop a (lt_size_of_posAt hpa)
  simp only [Span.holdsStartOf, Bool.and_eq_true, decide_eq_true_eq, hn.below_iff]
  constructor
  · rintro ⟨hStart, hEnd⟩
    -- a later start means a later number
    have hab : a < b := by
      rcases Nat.lt_trichotomy a b with hab | rfl | hba
      · exact hab
      · rw [hpa] at hpb
        cases hpb
        omega
      · have := hp.increasing b a pb pa hba hpb hpa
        omega
    -- a node at or after the stop would start no earlier than the next element
    refine ⟨hab, ?_⟩
    by_cases hbs : b < d.stop a
    · exact hbs
    · have := hp.nextStart_le hStop.2 (by omega) hpb
      omega
  · rintro ⟨hab, hbs⟩
    have hStart := hp.increasing a b pa pb hab hpa hpb
    refine ⟨by omega, ?_⟩
    rcases hp.nextStart_cases hStop.2 with hEnd | ⟨j, hj, hjPos⟩
    · rw [hEnd]
      have := hp.inside b pb hpb
      omega
    · have := hp.increasing b j pb _ (by omega) hpb hjPos
      omega

/-- The span of an element below another lies inside the other's. -/
theorem span?_stop_le_of_below {a b : Nat} {sa sb : Span} (ha : d.span? a = some sa)
    (hb : d.span? b = some sb) (hBelow : d.Below a b) : sb.stop ≤ sa.stop := by
  rw [span?_eq hw] at ha hb
  obtain ⟨pa, hpa, rfl⟩ := Option.map_eq_some_iff.mp ha
  obtain ⟨pb, hpb, rfl⟩ := Option.map_eq_some_iff.mp hb
  obtain ⟨hab, hbs⟩ := hn.below_iff.mp hBelow
  have hStop := hn.lt_stop a (lt_size_of_posAt hpa)
  have := hp.nextStart_mono (hn.laminar a b hab hbs) hStop.2
  simp only
  omega

/-- The spans of two elements that are not one below the other do not meet. -/
theorem span?_stop_le_of_not_below {a b : Nat} {sa sb : Span} (ha : d.span? a = some sa)
    (hb : d.span? b = some sb) (hab : a < b) (hNot : ¬ d.Below a b) : sa.stop ≤ sb.start := by
  rw [span?_eq hw] at ha hb
  obtain ⟨pa, hpa, rfl⟩ := Option.map_eq_some_iff.mp ha
  obtain ⟨pb, hpb, rfl⟩ := Option.map_eq_some_iff.mp hb
  have hStop := hn.lt_stop a (lt_size_of_posAt hpa)
  -- not below means numbered at or after the stop
  have hbs : d.stop a ≤ b := by
    by_cases h : b < d.stop a
    · exact absurd (hn.below_iff.mpr ⟨hab, h⟩) hNot
    · omega
  have := hp.nextStart_le hStop.2 hbs hpb
  simp only
  omega

end spans

/-- A page read with spans is nested and positioned, and reports its spans. -/
theorem parse_nested_positioned {markup : String} {d : Document}
    (h : Document.parse markup true = .ok d) : d.Nested ∧ d.Positioned ∧ d.withSpans = true := by
  have hm := ofMarkup_of_parse h
  obtain ⟨-, -, -, -, hw, -⟩ := ofMarkup_positions hm
  exact ⟨ofMarkup_nested hm, ofMarkup_positioned hm, hw⟩

/-- The spans of the elements of a page read with spans mirror its tree: exactly the elements
have a span; a span is a non-empty part of the page; spans start in the order of the node
numbers; and one element's span holds the start of another's exactly when the second lies
below the first. So the spans are nested as the tree is: the span of an element below another
lies inside the other's, and the spans of elements that are not one below the other do not
meet. -/
theorem parse_spans_mirror_tree {markup : String} {d : Document}
    (h : Document.parse markup true = .ok d) :
    (∀ t, (d.span? t).isSome = d.isElement t) ∧
    (∀ t sp, d.span? t = some sp → 0 ≤ sp.start ∧ sp.start < sp.stop ∧ sp.stop ≤ markup.length) ∧
    (∀ a b sa sb, d.span? a = some sa → d.span? b = some sb → a < b → sa.start < sb.start) ∧
    (∀ a b sa sb, d.span? a = some sa → d.span? b = some sb →
      (sa.holdsStartOf sb = true ↔ d.Below a b)) ∧
    (∀ a b sa sb, d.span? a = some sa → d.span? b = some sb → d.Below a b →
      sb.stop ≤ sa.stop) ∧
    (∀ a b sa sb, d.span? a = some sa → d.span? b = some sb → a < b → ¬ d.Below a b →
      sa.stop ≤ sb.start) := by
  have hm := ofMarkup_of_parse h
  have hn := ofMarkup_nested hm
  have hp := ofMarkup_positioned hm
  obtain ⟨-, -, -, hLength, hw, -⟩ := ofMarkup_positions hm
  refine ⟨span?_isSome hp hw, ?_, fun a b sa sb => span?_start_lt hp hw,
    fun a b sa sb => holdsStartOf_iff_below hn hp hw,
    fun a b sa sb => span?_stop_le_of_below hn hp hw,
    fun a b sa sb => span?_stop_le_of_not_below hn hp hw⟩
  intro t sp ht
  rw [← hLength]
  exact span?_bounds hn hp hw ht

/-- The laws hold of a page with a `div` holding two paragraphs. -/
theorem spans_of_two_paragraphs :
    ∃ d, Document.parse "<div><p>a</p><p>b</p></div>" true = .ok d ∧
      (∀ t, (d.span? t).isSome = d.isElement t) ∧
      (∀ t sp, d.span? t = some sp →
        0 ≤ sp.start ∧ sp.start < sp.stop ∧ sp.stop ≤ "<div><p>a</p><p>b</p></div>".length) ∧
      (∀ a b sa sb, d.span? a = some sa → d.span? b = some sb → a < b → sa.start < sb.start) ∧
      (∀ a b sa sb, d.span? a = some sa → d.span? b = some sb →
        (sa.holdsStartOf sb = true ↔ d.Below a b)) ∧
      (∀ a b sa sb, d.span? a = some sa → d.span? b = some sb → d.Below a b →
        sb.stop ≤ sa.stop) ∧
      (∀ a b sa sb, d.span? a = some sa → d.span? b = some sb → a < b → ¬ d.Below a b →
        sa.stop ≤ sb.start) := by
  obtain ⟨d, h⟩ := exists_ok_of_isOk (show
    (Document.parse "<div><p>a</p><p>b</p></div>" true).isOk = true by decide +kernel)
  exact ⟨d, h, parse_spans_mirror_tree h⟩

end Document

end SearchPage
