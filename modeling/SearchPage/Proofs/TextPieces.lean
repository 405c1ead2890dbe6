import SearchPage.Proofs.DocumentOrder
import SearchPage.Proofs.Forest
import SearchPage.Query.Text

/-!
# What the text of a target reads

`getText` walks down from the members of a target, one level of the tree at a time. This
module describes the walk without recursion. The pieces read from a member `top` are the text
nodes at and below it, in document order, except those that lie inside a `script` or `style`
element at or below `top` (`Document.reaches`). Each is read with the options and kept when
not empty (`Document.textFrom`). The text of a target is then its pieces put together
(`getText_eq_assemble`).

The laws of a target's text follow from that description. A lone node reads the same as the
set of that one node. The text of a concatenation of two sets is the text of the parts put
together: the first present one when only the first piece is taken, and otherwise the two
joined with the separator.

## Main statements

* `piecesBelow_eq_textFrom`: with enough levels, the walk below a node reads `textFrom`.
* `getText_eq_assemble`: the text of a target assembles the pieces of its members.
* `getText_reads_pieces`: in a well-formed document, the text of a target is none, its
  first piece or its pieces joined; a node reads as its one-node set; and the text of a
  concatenation is given by the texts of its parts.
-/

namespace SearchPage

namespace Document

/-- Whether a node is a `script` or `style` element, whose contents are never text. -/
def hidesText (d : Document) (a : Nat) : Bool :=
  (d.name? a).any nonTextElements.contains

/-- Whether the walk down from `top` reaches node `n`: no node from `top` down to the parent
of `n` holds `n` and hides its contents. -/
def reaches (d : Document) (top n : Nat) : Bool :=
  (List.range' top (n - top)).all fun a => !(decide (n < d.stop a) && d.hidesText a)

/-- The pieces read by the walk down from `top`: the text nodes at and below `top` that it
reaches, in document order, each read with the options and kept when not empty. -/
def textFrom (d : Document) (o : TextOptions) (top : Nat) : List String :=
  ((top :: d.descendants top).filter (d.reaches top)).filterMap fun n =>
    (d.text? n).bind fun data => nonEmpty (o.piece data)

end Document

/-- The pieces of a target: those read from each of its members, member after member. -/
def Target.textPieces (d : Document) (o : TextOptions) (t : Target) : List String :=
  t.members.flatMap (d.textFrom o)

/-! ## Assembling pieces -/

namespace TextOptions

variable (o : TextOptions)

theorem assemble_nil : o.assemble [] = none := by
  cases h : o.shallow <;> simp [assemble, h]

/-- Joining keeps a text that starts with a non-empty piece non-empty. -/
theorem isEmpty_intercalate_cons {p : String} (hp : p ≠ "") (s : String) (l : List String) :
    (s.intercalate (p :: l)).isEmpty = false := by
  cases l with
  | nil => simpa using hp
  | cons u l => simp [String.intercalate_cons_cons, hp]

/-- Pieces none of which is empty put together: nothing when there are none, otherwise the
first of them or all of them joined. -/
theorem assemble_cons {p : String} {ps : List String} (hp : p ≠ "") :
    o.assemble (p :: ps) = some (if o.shallow then p else o.separator.intercalate (p :: ps)) := by
  cases hs : o.shallow with
  | true => simp [assemble, hs]
  | false => simp [assemble, hs, isEmpty_intercalate_cons hp]

/-- Pieces none of which is empty give nothing exactly when there are none. -/
theorem assemble_eq_none_iff {ps : List String} (h : "" ∉ ps) : o.assemble ps = none ↔ ps = [] := by
  cases ps with
  | nil => simp [o.assemble_nil]
  | cons p ps => simp [o.assemble_cons (fun e => h (e ▸ List.mem_cons_self))]

/-- Unless only the first piece is taken, putting pieces together joins them. -/
theorem assemble_of_not_shallow (hs : o.shallow = false) (ps : List String) :
    o.assemble ps = nonEmpty (o.separator.intercalate ps) := by
  simp [assemble, nonEmpty, hs]

/-- A lone piece, when present, is its own text. -/
theorem assemble_nonEmpty (s : String) : o.assemble (nonEmpty s).toList = nonEmpty s := by
  cases h : nonEmpty s with
  | none => exact o.assemble_nil
  | some p =>
    have hp : p ≠ "" := fun e => nonEmpty_ne_some_empty s (e ▸ h)
    simp [assemble_cons o hp]

end TextOptions

@[simp]
theorem nonEmpty_empty : nonEmpty "" = none := by
  simp [nonEmpty]

/-- Joined pieces, none of them empty, are not empty when there is one. -/
theorem nonEmpty_intercalate {s : String} {ps : List String} (h : "" ∉ ps) (hne : ps ≠ []) :
    nonEmpty (s.intercalate ps) = some (s.intercalate ps) := by
  obtain ⟨p, ps, rfl⟩ := List.exists_cons_of_ne_nil hne
  have hp : p ≠ "" := fun e => h (e ▸ List.mem_cons_self)
  simp [nonEmpty, TextOptions.isEmpty_intercalate_cons hp]

/-- Two runs of pieces, none of them empty, joined as a whole are the two joined texts joined
in turn, leaving out one that is missing. -/
theorem nonEmpty_intercalate_append (s : String) {ps qs : List String} (hp : "" ∉ ps)
    (hq : "" ∉ qs) :
    nonEmpty (s.intercalate (ps ++ qs)) =
      nonEmpty (s.intercalate ([nonEmpty (s.intercalate ps), nonEmpty (s.intercalate qs)].filterMap id)) := by
  by_cases hpne : ps = [] <;> by_cases hqne : qs = []
  · subst hpne hqne
    rfl
  · subst hpne
    simp [nonEmpty_intercalate hq hqne]
  · subst hqne
    simp [nonEmpty_intercalate hp hpne]
  · rw [String.intercalate_append_of_ne_nil hpne hqne, nonEmpty_intercalate hp hpne,
      nonEmpty_intercalate hq hqne]
    simp

/-! ## The walk from a node -/

namespace Document

variable {d : Document} {o : TextOptions}

theorem reaches_self (n : Nat) : d.reaches n n = true := by
  simp [reaches]

theorem isElement_eq_isSome_name? (n : Nat) : d.isElement n = (d.name? n).isSome := by
  unfold isElement name?
  split <;> simp_all

theorem text?_eq_none_of_isElement {n : Nat} (h : d.isElement n = true) : d.text? n = none := by
  unfold isElement at h
  unfold text?
  split at h <;> simp_all

theorem isElement_eq_false_of_text? {n : Nat} {data : String} (h : d.text? n = some data) :
    d.isElement n = false := by
  cases hElem : d.isElement n with
  | false => rfl
  | true =>
    rw [text?_eq_none_of_isElement hElem] at h
    cases h

theorem isElement_of_hidesText {n : Nat} (h : d.hidesText n = true) : d.isElement n = true := by
  rw [isElement_eq_isSome_name?]
  unfold hidesText at h
  cases hn : d.name? n <;> simp_all

/-- No piece read by a walk is empty. -/
theorem empty_not_mem_textFrom (n : Nat) : "" ∉ d.textFrom o n := by
  simp only [textFrom, List.mem_filterMap, Option.bind_eq_some_iff, not_exists, not_and]
  intro m _ data _ h
  exact nonEmpty_ne_some_empty _ h

/-- Below a node with nothing under it, the walk reads the node alone. -/
theorem textFrom_of_stop {n : Nat} (h : d.stop n = n + 1) :
    d.textFrom o n = ((d.text? n).bind fun data => nonEmpty (o.piece data)).toList := by
  cases ht : (d.text? n).bind fun data => nonEmpty (o.piece data) <;>
    simp [textFrom, descendants, h, reaches_self, ht]

/-- Below a `script` or `style` element, the walk reads nothing. -/
theorem textFrom_of_hidesText {n : Nat} (hHide : d.hidesText n = true) : d.textFrom o n = [] := by
  apply List.filterMap_eq_nil_iff.mpr
  intro m hm
  obtain ⟨hmem, hReach⟩ := List.mem_filter.mp hm
  rcases mem_self_descendants.mp hmem with rfl | ⟨hnm, hmStop⟩
  · -- the element itself is not text
    simp [text?_eq_none_of_isElement (isElement_of_hidesText hHide)]
  · -- `n` lies on the way down to `m` and hides it
    have hBlocked : d.reaches n m = false := by
      refine List.all_eq_false.mpr ⟨n, List.mem_range'_1.mpr ⟨Nat.le_refl n, by omega⟩, ?_⟩
      simp [hmStop, hHide]
    rw [hBlocked] at hReach
    cases hReach

/-- The walk from `top` reaches `m` through a node `k` between them when it passes the nodes
from `top` to `k` and the walk from `k` reaches `m`. -/
theorem reaches_eq_and {top k m : Nat} (htk : top ≤ k) (hkm : k ≤ m) :
    d.reaches top m = ((List.range' top (k - top)).all
      (fun a => !(decide (m < d.stop a) && d.hidesText a)) && d.reaches k m) := by
  unfold reaches
  rw [show m - top = (k - top) + (m - k) by omega, ← List.range'_append_1,
    Nat.add_sub_cancel' htk, List.all_append]

/-- When no element lies inside a `script` or `style` element, a walk reaches everything that
a walk from an element further down reaches: a hiding node holding what is reached would hold
that element too. -/
theorem reaches_of_below
    (hTag : ∀ a c, d.hidesText a = true → a < c → c < d.stop a → d.isElement c = false)
    {top t m : Nat} (htop : top ≤ t) (hElem : d.isElement t = true) (htm : t ≤ m)
    (h : d.reaches t m = true) : d.reaches top m = true := by
  rw [reaches_eq_and htop htm, h, Bool.and_true, List.all_eq_true]
  intro a ha
  rw [List.mem_range'_1] at ha
  cases hHide : d.hidesText a with
  | false => simp
  | true =>
    have hOutside : ¬ m < d.stop a := fun hm => by
      have := hTag a t hHide (by omega) (by omega)
      rw [hElem] at this
      cases this
    simp [hOutside]

/-- A node and everything below it form the node's range. -/
theorem self_descendants_eq_range' {k : Nat} (hk : k < d.stop k) :
    k :: d.descendants k = List.range' k (d.stop k - k) := by
  rw [show d.stop k - k = (d.stop k - (k + 1)) + 1 by omega, List.range'_succ]
  rfl

section nested

variable (hn : d.Nested)
include hn

/-- No node between a node and one of its children holds anything past the child. -/
theorem stop_le_of_between_child {n k a : Nat} (hk : k < d.size) (hkn : d.parent? k = some n)
    (hna : n < a) (hak : a < k) : d.stop a ≤ k := by
  rcases Nat.lt_or_ge k (d.stop a) with hIn | hOut
  · -- otherwise the parent of `k` would be `a` or lie below it
    obtain ⟨p, hp, hap⟩ := hn.parent_innermost k a hk hak hIn
    rw [hkn, Option.some.injEq] at hp
    omega
  · exact hOut

/-- The nodes below a node are those at and below its children, child after child. -/
theorem descendants_eq_flatMap (n : Nat) :
    d.descendants n = (d.childrenOf (some n)).toList.flatMap fun k => k :: d.descendants k := by
  have hTile := hn.childrenOf_tile (some n)
  simp only [firstBelow, endBelow] at hTile
  rw [descendants, ← hTile]
  apply List.flatMap_congr
  intro k hk
  exact (self_descendants_eq_range' (hn.lt_stop k ((hn.mem_childrenOf).mp hk).1).1).symm

/-- A walk down from a node that shows its contents reaches below a child what the walk from
the child reaches: the nodes between the two hold nothing past the child. -/
theorem reaches_of_child {n k m : Nat} (hHide : d.hidesText n = false) (hk : k < d.size)
    (hkn : d.parent? k = some n) (hm : m ∈ k :: d.descendants k) :
    d.reaches n m = d.reaches k m := by
  have hnk := (hn.parent_encloses k n hkn).1
  have hkm : k ≤ m := by
    rcases mem_self_descendants.mp hm with rfl | h
    · exact Nat.le_refl _
    · exact Nat.le_of_lt h.1
  have hAbove : (List.range' n (k - n)).all
      (fun a => !(decide (m < d.stop a) && d.hidesText a)) = true := by
    rw [List.all_eq_true]
    intro a ha
    rw [List.mem_range'_1] at ha
    rcases Nat.eq_or_lt_of_le ha.1 with rfl | hna
    · simp [hHide]
    · have := stop_le_of_between_child hn hk hkn hna (by omega)
      simp only [Bool.not_and, Bool.not_eq_eq_eq_not, Bool.not_true, Bool.or_eq_true,
        decide_eq_false_iff_not, Nat.not_lt]
      exact Or.inl (by omega)
  rw [reaches_eq_and (Nat.le_of_lt hnk) hkm, hAbove, Bool.true_and]

/-- Below an element that shows its contents, the walk reads what the walks below its
children read, child after child. -/
theorem textFrom_of_element {n : Nat} (hElem : d.isElement n = true)
    (hHide : d.hidesText n = false) :
    d.textFrom o n = (d.childrenOf (some n)).toList.flatMap (d.textFrom o) := by
  unfold textFrom
  rw [descendants_eq_flatMap hn, List.filter_cons_of_pos (reaches_self n),
    List.filterMap_cons_none (by simp [text?_eq_none_of_isElement hElem]), List.filter_flatMap,
    List.filterMap_flatMap]
  apply List.flatMap_congr
  intro k hk
  obtain ⟨hkSize, hkn⟩ := (hn.mem_childrenOf).mp hk
  rw [List.filter_congr fun m hm => reaches_of_child hn hHide hkSize hkn hm]

/-- What lies at or below a node at or below `top` lies at or below `top`. -/
theorem mem_self_descendants_trans {top t m : Nat} (ht : t ∈ top :: d.descendants top)
    (hm : m ∈ t :: d.descendants t) : m ∈ top :: d.descendants top := by
  rw [mem_self_descendants] at ht hm ⊢
  rcases ht with rfl | ⟨htop, htStop⟩
  · exact hm
  · have := hn.laminar top t htop htStop
    omega

/-- When no element lies inside a `script` or `style` element, the walk from a node reads
every piece that the walk from an element at or below it reads. -/
theorem textFrom_subset
    (hTag : ∀ a c, d.hidesText a = true → a < c → c < d.stop a → d.isElement c = false)
    {top t : Nat} (ht : t ∈ top :: d.descendants top) (hElem : d.isElement t = true) :
    ∀ p ∈ d.textFrom o t, p ∈ d.textFrom o top := by
  intro p hp
  simp only [textFrom, List.mem_filterMap, List.mem_filter] at hp ⊢
  obtain ⟨m, ⟨hm, hReach⟩, hp⟩ := hp
  have htop : top ≤ t := by rcases mem_self_descendants.mp ht with h | h <;> omega
  have htm : t ≤ m := by rcases mem_self_descendants.mp hm with h | h <;> omega
  exact ⟨m, ⟨mem_self_descendants_trans hn ht hm, reaches_of_below hTag htop hElem htm hReach⟩, hp⟩

variable (hpe : ∀ c p, d.parent? c = some p → d.isElement p = true)
include hpe

/-- A node that is not an element has nothing below it. -/
theorem stop_of_isElement_eq_false {n : Nat} (h : d.isElement n = false) :
    d.stop n = n + 1 := by
  rcases Nat.lt_or_ge n d.size with hLt | hGe
  · exact stop_of_not_isElement hn hpe hLt h
  · have hNone : d.node? n = none := Array.getElem?_eq_none hGe
    simp [stop, hNone]

/-- Below a node that is not an element, the walk reads the node alone. -/
theorem textFrom_of_not_element {n : Nat} (h : d.isElement n = false) :
    d.textFrom o n = ((d.text? n).bind fun data => nonEmpty (o.piece data)).toList :=
  textFrom_of_stop (stop_of_isElement_eq_false hn hpe h)

/-- Given more levels than there are nodes past it, the walk below a node reads `textFrom`.
The induction is on the levels; a child lies past its parent, so it needs one level less. -/
theorem piecesBelow_eq_textFrom :
    ∀ (fuel n : Nat), d.size < fuel + n → piecesBelow d o fuel n = d.textFrom o n := by
  intro fuel
  induction fuel with
  | zero =>
    intro n hFuel
    -- with no levels left the node lies past the table
    have hNone : d.node? n = none := Array.getElem?_eq_none (by simp only [size] at hFuel; omega)
    rw [textFrom_of_not_element hn hpe (by simp [isElement, hNone])]
    simp [piecesBelow, text?, hNone]
  | succ fuel ih =>
    intro n hFuel
    unfold piecesBelow
    cases hT : d.text? n with
    | some data =>
      rw [textFrom_of_not_element hn hpe (isElement_eq_false_of_text? hT), hT]
      rfl
    | none =>
      cases hN : d.name? n with
      | none =>
        rw [textFrom_of_not_element hn hpe (by simp [isElement_eq_isSome_name?, hN]), hT]
        rfl
      | some name =>
        have hElem : d.isElement n = true := by simp [isElement_eq_isSome_name?, hN]
        dsimp only
        by_cases hHide : nonTextElements.contains name = true
        · rw [if_pos hHide, textFrom_of_hidesText (by simpa [hidesText, hN] using hHide)]
        · rw [if_neg hHide, textFrom_of_element hn hElem (by simpa [hidesText, hN] using hHide)]
          apply List.flatMap_congr
          intro c hc
          -- a child lies past its parent, so one level less still covers it
          have hnc := (hn.parent_encloses c n ((hn.mem_childrenOf).mp hc).2).1
          exact ih c (by omega)

/-- The pieces below a list of nodes are those read by the walks from them. -/
theorem piecesOf_eq_flatMap (ids : List Nat) :
    piecesOf d o ids = ids.flatMap (d.textFrom o) := by
  unfold piecesOf
  exact List.flatMap_congr fun n _ => piecesBelow_eq_textFrom hn hpe (d.size + 1) n (by omega)

end nested

end Document

/-! ## The text of a target -/

section getText

variable {d : Document} {o : TextOptions}

/-- The text of a lone node puts together the pieces of the walk below it, which reads the
node itself when it is text. -/
theorem getText_node_eq_assemble (n : Nat) :
    getText d o (.node n) = o.assemble (piecesBelow d o (d.size + 2) n) := by
  simp only [getText, piecesBelow]
  cases hT : d.text? n with
  | some data => exact (o.assemble_nonEmpty (o.piece data)).symm
  | none =>
    cases hN : d.name? n with
    | none => exact o.assemble_nil.symm
    | some name =>
      dsimp only
      by_cases hHide : nonTextElements.contains name = true
      · rw [if_pos hHide, if_pos hHide]
        exact o.assemble_nil.symm
      · rw [if_neg hHide, if_neg hHide]
        rfl

theorem Target.empty_not_mem_textPieces (t : Target) : "" ∉ t.textPieces d o := by
  simp only [Target.textPieces, List.mem_flatMap, not_exists, not_and]
  intro n _
  exact Document.empty_not_mem_textFrom n

@[simp]
theorem Target.textPieces_node (n : Nat) : (Target.node n).textPieces d o = d.textFrom o n := by
  simp [Target.textPieces, Target.members]

@[simp]
theorem Target.textPieces_member (n : Nat) :
    (Target.nodes [some n]).textPieces d o = d.textFrom o n := by
  simp [Target.textPieces, Target.members]

theorem Target.textPieces_nodes_append (xs ys : List (Option Nat)) :
    (Target.nodes (xs ++ ys)).textPieces d o =
      (Target.nodes xs).textPieces d o ++ (Target.nodes ys).textPieces d o := by
  simp [Target.textPieces, Target.members, List.filterMap_append, List.flatMap_append]

variable (hn : d.Nested) (hpe : ∀ c p, d.parent? c = some p → d.isElement p = true)
include hn hpe

/-- The text of a target puts together the pieces read from its members. -/
theorem getText_eq_assemble (t : Target) : getText d o t = o.assemble (t.textPieces d o) := by
  cases t with
  | absent => exact o.assemble_nil.symm
  | node n =>
    rw [getText_node_eq_assemble,
      Document.piecesBelow_eq_textFrom hn hpe (d.size + 2) n (by omega), Target.textPieces_node]
  | nodes ids =>
    simp only [getText, Document.piecesOf_eq_flatMap hn hpe, Target.textPieces, Target.members]

/-- A lone node reads as the set of that one node. -/
theorem getText_node_eq_nodes (n : Nat) : getText d o (.node n) = getText d o (.nodes [some n]) := by
  rw [getText_eq_assemble hn hpe, getText_eq_assemble hn hpe, Target.textPieces_node,
    Target.textPieces_member]

/-- A target has no text exactly when it has no pieces. -/
theorem getText_eq_none_iff (t : Target) : getText d o t = none ↔ t.textPieces d o = [] := by
  rw [getText_eq_assemble hn hpe]
  exact o.assemble_eq_none_iff (Target.empty_not_mem_textPieces t)

/-- When no element lies inside a `script` or `style` element, a one-node set has text when an
element at or below its node has. -/
theorem getText_member_ne_none
    (hTag : ∀ a c, d.hidesText a = true → a < c → c < d.stop a → d.isElement c = false)
    {el t : Nat} (ht : t ∈ el :: d.descendants el) (hElem : d.isElement t = true)
    (h : getText d o (.node t) ≠ none) : getText d o (.nodes [some el]) ≠ none := by
  rw [Ne, getText_eq_none_iff hn hpe, Target.textPieces_node] at h
  rw [Ne, getText_eq_none_iff hn hpe, Target.textPieces_member]
  obtain ⟨p, hp⟩ := List.exists_mem_of_ne_nil _ h
  exact List.ne_nil_of_mem (Document.textFrom_subset hn hTag ht hElem p hp)

/-- The text of a concatenation of node sets: the first present text of the parts when only
the first piece is taken, and otherwise the texts of the parts joined, one that is missing
left out. -/
theorem getText_nodes_append (xs ys : List (Option Nat)) :
    getText d o (.nodes (xs ++ ys)) =
      if o.shallow then (getText d o (.nodes xs)).or (getText d o (.nodes ys))
      else nonEmpty (o.separator.intercalate
        ([getText d o (.nodes xs), getText d o (.nodes ys)].filterMap id)) := by
  simp only [getText_eq_assemble hn hpe, Target.textPieces_nodes_append]
  cases hs : o.shallow with
  | true => simp [TextOptions.assemble, hs, List.head?_append]
  | false =>
    simp only [o.assemble_of_not_shallow hs, Bool.false_eq_true, if_false]
    exact nonEmpty_intercalate_append _ (Target.empty_not_mem_textPieces _)
      (Target.empty_not_mem_textPieces _)

end getText

/-- In a well-formed document (the nodes below each node numbered right after it, and every
parent an element, as in every document read from a page), the text of a target is nothing
when it has no pieces, and otherwise its first piece when only that is taken, or all its
pieces joined. A lone node reads as the set of that one node. The text of a concatenation of
two node sets is the first present text of the two when only the first piece is taken, and
otherwise the present texts of the two joined with the separator. -/
theorem getText_reads_pieces {doc : Document} (hn : doc.Nested)
    (hpe : ∀ c p, doc.parent? c = some p → doc.isElement p = true) :
    (∀ (o : TextOptions) (t : Target), getText doc o t =
      match t.textPieces doc o with
      | [] => none
      | p :: ps => some (if o.shallow then p else o.separator.intercalate (p :: ps))) ∧
    (∀ (o : TextOptions) (n : Nat), getText doc o (.node n) = getText doc o (.nodes [some n])) ∧
    (∀ (o : TextOptions) (xs ys : List (Option Nat)), getText doc o (.nodes (xs ++ ys)) =
      if o.shallow then (getText doc o (.nodes xs)).or (getText doc o (.nodes ys))
      else nonEmpty (o.separator.intercalate
        ([getText doc o (.nodes xs), getText doc o (.nodes ys)].filterMap id))) := by
  refine ⟨fun o t => ?_, fun o n => getText_node_eq_nodes hn hpe n,
    fun o xs ys => getText_nodes_append hn hpe xs ys⟩
  rw [getText_eq_assemble hn hpe]
  have hPieces := Target.empty_not_mem_textPieces (d := doc) (o := o) t
  cases hP : t.textPieces doc o with
  | nil => exact o.assemble_nil
  | cons p ps =>
    rw [hP] at hPieces
    exact o.assemble_cons (fun e => hPieces (e ▸ List.mem_cons_self))

/-- A `div` of two paragraphs, read from its page, is well formed; it reads as the two joined,
and so does the set of the two paragraphs. -/
theorem text_of_two_paragraphs :
    ∃ d, Document.parse "<div><p>a</p><p>b</p></div>" true = .ok d ∧ d.Nested ∧
      (∀ c p, d.parent? c = some p → d.isElement p = true) ∧
      getText d {} (.node 0) = some "a, b" ∧
      getText d {} (.nodes ([some 1] ++ [some 3])) = some "a, b" := by
  obtain ⟨d, h⟩ := exists_ok_of_isOk
    (show (Document.parse "<div><p>a</p><p>b</p></div>" true).isOk = true by decide +kernel)
  have hm := Document.ofMarkup_of_parse h
  have hn := Document.ofMarkup_nested hm
  have hpe : ∀ c p, d.parent? c = some p → d.isElement p = true :=
    fun _ _ hp => Document.ofMarkup_parent_isElement hm hp
  have hDiv : getText d {} (.node 0) = some "a, b" :=
    eq_of_toOption_map (fun d => getText d {} (.node 0)) h (by decide +kernel)
  have hFirst : getText d {} (.nodes [some 1]) = some "a" :=
    eq_of_toOption_map (fun d => getText d {} (.nodes [some 1])) h (by decide +kernel)
  have hSecond : getText d {} (.nodes [some 3]) = some "b" :=
    eq_of_toOption_map (fun d => getText d {} (.nodes [some 3])) h (by decide +kernel)
  refine ⟨d, h, hn, hpe, hDiv, ?_⟩
  rw [(getText_reads_pieces hn hpe).2.2 {} [some 1] [some 3], hFirst, hSecond]
  decide

/-- With only the first piece taken, the set of two paragraphs reads as the first, not as the
texts of the two joined. -/
theorem shallow_text_of_two_paragraphs :
    ∃ d, Document.parse "<div><p>a</p><p>b</p></div>" true = .ok d ∧
      getText d { shallow := true } (.nodes [some 1]) = some "a" ∧
      getText d { shallow := true } (.nodes [some 3]) = some "b" ∧
      getText d { shallow := true } (.nodes ([some 1] ++ [some 3])) = some "a" ∧
      getText d { shallow := true } (.nodes ([some 1] ++ [some 3])) ≠
        nonEmpty (", ".intercalate ([getText d { shallow := true } (.nodes [some 1]),
          getText d { shallow := true } (.nodes [some 3])].filterMap id)) := by
  obtain ⟨d, h⟩ := exists_ok_of_isOk
    (show (Document.parse "<div><p>a</p><p>b</p></div>" true).isOk = true by decide +kernel)
  have hFirst : getText d { shallow := true } (.nodes [some 1]) = some "a" :=
    eq_of_toOption_map (fun d => getText d { shallow := true } (.nodes [some 1])) h
      (by decide +kernel)
  have hSecond : getText d { shallow := true } (.nodes [some 3]) = some "b" :=
    eq_of_toOption_map (fun d => getText d { shallow := true } (.nodes [some 3])) h
      (by decide +kernel)
  have hBoth : getText d { shallow := true } (.nodes ([some 1] ++ [some 3])) = some "a" :=
    eq_of_toOption_map (fun d => getText d { shallow := true } (.nodes ([some 1] ++ [some 3]))) h
      (by decide +kernel)
  refine ⟨d, h, hFirst, hSecond, hBoth, ?_⟩
  rw [hBoth, hFirst, hSecond]
  decide

end SearchPage
