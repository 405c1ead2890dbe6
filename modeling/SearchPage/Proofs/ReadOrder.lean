import SearchPage.Markup.Reader

/-!
# Start tags are reported in the order they are written

The reader reports every start tag with the position of its `<`. These positions strictly
increase along the events, and each lies inside the page. The reason is that the reader
never moves backwards: every construct it reads at a position `j` hands back a position no
smaller than `j`, and a start tag read at `j` hands back one after `j`. A start tag is only
ever reported at the position where a step of the reader begins, so it lies after every
start tag reported before it.

The argument is layered as the reader is: first the grammar of a start tag (`Tag.wholeEnd`
ends after the tag's `<`), then each construct the reader dispatches to (`Advances`), then
one step, one pass, and the two passes of `read`.

## Main statements

* `Tag.lt_wholeEnd`: a finished start tag ends after its `<`.
* `Reader.step_keeps`: one step keeps the reported start tags ordered and before the
  position it moves to.
* `read_starts_ordered`: the start tags of a page strictly increase in position and lie
  inside the page.
-/

namespace SearchPage.Markup

/-- The position of a start tag event; other events have none. -/
def Event.startPos? : Event → Option Nat
  | .startTag _ _ pos _ => some pos
  | _ => none

namespace Source

theorem lt_size_of_satisfies {s : Source} {i : Nat} {p : Char → Bool}
    (h : s.satisfies i p = true) : i < s.size := by
  unfold satisfies at h
  split at h
  · rename_i c hc
    exact (Array.getElem?_eq_some_iff.mp hc).1
  · simp at h

end Source

/-! ## The grammar of a start tag only moves forward -/

namespace Tag

theorem le_skipGaps (s : Source) (k : Nat) : k ≤ skipGaps s k := by
  fun_induction skipGaps s k with
  | case1 k _ _ ih => omega
  | case2 => exact Nat.le_refl _
  | case3 => exact Nat.le_refl _

/-- A quoted value ends after the quote that opens it. -/
theorem lt_quotedEnd {s : Source} {v e : Nat} (h : quotedEnd s v = some (some e)) : v < e := by
  unfold quotedEnd at h
  split at h
  · obtain ⟨p, hp, he⟩ := Option.map_eq_some_iff.mp h
    have := Source.findFrom_ge hp
    simp only [Option.some.injEq] at he
    omega
  · obtain ⟨p, hp, he⟩ := Option.map_eq_some_iff.mp h
    have := Source.findFrom_ge hp
    simp only [Option.some.injEq] at he
    omega
  · simp at h

/-- The written value of an attribute ends no earlier than its name. -/
theorem le_valuePart {s : Source} {q v e : Nat} (h : valuePart s q = some (v, e)) : q ≤ e := by
  have hEqStart := Source.le_skipWhile s isWhite q
  have hEqEnd := Source.le_skipWhile s (· == '=') (s.skipWhile isWhite q)
  have hValue := Source.le_skipWhile s isWhite (s.skipWhile (· == '=') (s.skipWhile isWhite q))
  unfold valuePart at h
  simp only at h
  split at h
  · simp at h
  · split at h
    · rename_i e' hq
      have := lt_quotedEnd hq
      simp only [Option.some.injEq, Prod.mk.injEq] at h
      omega
    · simp only [Option.some.injEq, Prod.mk.injEq] at h
      have := Source.le_skipWhile s (fun c => !(c == '>' || isWhite c))
        (s.skipWhile isWhite (s.skipWhile (· == '=') (s.skipWhile isWhite q)))
      simp only [bareEnd] at h
      omega
    · split at h
      · simp only [Option.some.injEq, Prod.mk.injEq] at h
        omega
      · split at h
        · simp only [Option.some.injEq, Prod.mk.injEq] at h
          have := Source.le_skipWhile s (fun c => !(c == '>' || isWhite c))
            (s.skipWhile (· == '=') (s.skipWhile isWhite q) - 1)
          simp only [bareEnd] at h
          omega
        · simp at h

/-- Reading an attribute moves past its name. -/
theorem lt_attrAt {s : Source} {q e : Nat} {value : Option (Nat × Nat)} {after : Nat}
    (h : attrAt s q = some (e, value, after)) : q < after := by
  unfold attrAt at h
  split at h
  · simp only [Option.some.injEq, Prod.mk.injEq] at h
    obtain ⟨he, hv, ha⟩ := h
    have hName := lt_attrNameEnd s q
    subst he hv ha
    split
    · rename_i v ve hv
      have := le_valuePart hv
      have := le_skipGaps s ve
      omega
    · have := le_skipGaps s (attrNameEnd s q)
      omega
  · simp at h

theorem le_attrsEnd (s : Source) (q : Nat) : q ≤ attrsEnd s q := by
  fun_induction attrsEnd s q with
  | case1 q _ _ after hattr _ ih =>
    have := lt_attrAt hattr
    omega
  | case2 q _ _ after hattr _ =>
    exact Nat.le_of_lt (lt_attrAt hattr)
  | case3 => exact Nat.le_refl _

/-- A finished start tag ends after its `<`. -/
theorem lt_wholeEnd {s : Source} {i stop : Nat} (h : wholeEnd s i = some stop) : i < stop := by
  have hName : i + 1 + 1 ≤ nameEnd s (i + 1) := Source.le_skipWhile _ _ _
  have hAfter := Source.le_skipWhile s (fun c => isWhite c || c == '/') (nameEnd s (i + 1))
  have hAttrs := le_attrsEnd s
    (s.skipWhile (fun c => isWhite c || c == '/') (nameEnd s (i + 1)))
  have hGap := Source.le_skipWhile s isWhite
    (attrsEnd s (s.skipWhile (fun c => isWhite c || c == '/') (nameEnd s (i + 1))))
  unfold wholeEnd at h
  simp only at h
  split at h
  · simp only [Option.some.injEq] at h
    omega
  · simp only [Option.ite_none_right_eq_some, Option.some.injEq] at h
    omega
  · simp at h
  · simp only [Option.ite_none_left_eq_some, Option.some.injEq] at h
    omega

end Tag

/-! ## What a construct may report -/

namespace ReadState

/-- The positions of the start tags reported so far, in order. -/
def starts (st : ReadState) : List Nat := st.events.toList.filterMap Event.startPos?

@[simp] theorem starts_emit (st : ReadState) (e : Event) :
    (st.emit e).starts = st.starts ++ e.startPos?.toList := by
  simp only [starts, emit, Array.toList_push, List.filterMap_append, List.filterMap_cons,
    List.filterMap_nil]
  cases e.startPos? <;> rfl

@[simp] theorem starts_setMode (st : ReadState) (m : Mode) :
    ({ st with mode := m } : ReadState).starts = st.starts := rfl

/-- The start tags reported so far strictly increase in position, lie before `i`, and lie
inside a page of `size` characters. -/
structure OrderedBefore (size i : Nat) (st : ReadState) : Prop where
  sorted : st.starts.Pairwise (· < ·)
  before : ∀ p ∈ st.starts, p < i
  inside : ∀ p ∈ st.starts, p < size

theorem OrderedBefore.of_starts_eq {n i : Nat} {st st' : ReadState}
    (hEq : st'.starts = st.starts) (h : OrderedBefore n i st) : OrderedBefore n i st' := by
  refine ⟨?_, ?_, ?_⟩ <;> rw [hEq]
  · exact h.sorted
  · exact h.before
  · exact h.inside

end ReadState

open ReadState

/-- What reading a construct at `j` did, when it hands back the position `k` and the state
`st'`: it did not move backwards, and it reported at most one start tag, at `j` itself, which
then lies inside the page and before `k`. -/
def Advances (s : Source) (j : Nat) (st st' : ReadState) (k : Nat) : Prop :=
  j ≤ k ∧ (st'.starts = st.starts ∨ st'.starts = st.starts ++ [j] ∧ j < k ∧ j < s.size)

namespace Advances

variable {s : Source} {j k : Nat} {st : ReadState}

theorem of_same (h : j ≤ k) : Advances s j st st k := ⟨h, .inl rfl⟩

theorem of_text (t : String) (h : j ≤ k) : Advances s j st (st.emit (.text t)) k :=
  ⟨h, .inl (by simp [Event.startPos?])⟩

theorem of_endTag (name : String) (h : j ≤ k) : Advances s j st (st.emit (.endTag name)) k :=
  ⟨h, .inl (by simp [Event.startPos?])⟩

theorem of_aside (kind : Aside) (h : j ≤ k) : Advances s j st (st.emit (.aside kind)) k :=
  ⟨h, .inl (by simp [Event.startPos?])⟩

/-- A construct that starts where the reader stands keeps the reported start tags in order,
and moves the reader no backwards. -/
theorem ordered {i : Nat} {st' : ReadState} (hst : OrderedBefore s.size i st) (hij : i ≤ j)
    (h : Advances s j st st' k) : i ≤ k ∧ OrderedBefore s.size k st' := by
  obtain ⟨hjk, hSame | ⟨hNew, hjk', hjs⟩⟩ := h
  · refine ⟨by omega, ⟨?_, ?_, ?_⟩⟩ <;> rw [hSame]
    · exact hst.sorted
    · intro p hp
      have := hst.before p hp
      omega
    · exact hst.inside
  · refine ⟨by omega, ⟨?_, ?_, ?_⟩⟩ <;> rw [hNew]
    · refine List.pairwise_append.mpr ⟨hst.sorted, by simp, ?_⟩
      intro p hp q hq
      have := hst.before p hp
      simp only [List.mem_singleton] at hq
      omega
    · intro p hp
      rcases List.mem_append.mp hp with hp | hp
      · have := hst.before p hp
        omega
      · simp only [List.mem_singleton] at hp
        omega
    · intro p hp
      rcases List.mem_append.mp hp with hp | hp
      · exact hst.inside p hp
      · simp only [List.mem_singleton] at hp
        omega

end Advances

/-! ## Each construct moves forward -/

/-- A property of where a step of the reader goes and what it has reported, asked of a step
that goes on or stops; a step that fails has nothing to ask. -/
def Step.Holds (P : Nat → ReadState → Prop) : Step → Prop
  | .go k st => P k st
  | .halt k st => P k st
  | .fail _ => True

theorem Step.Holds.mono {P Q : Nat → ReadState → Prop} (hPQ : ∀ k st, P k st → Q k st) :
    ∀ {r : Step}, r.Holds P → r.Holds Q
  | .go k st, h => hPQ k st h
  | .halt k st, h => hPQ k st h
  | .fail _, _ => trivial

namespace Reader

open SearchPage.Text

variable {s : Source} {i k : Nat} {st st' : ReadState}

/-- A start tag is reported at its `<`, and reading moves past it. -/
theorem startTag_advances (hLetter : s.satisfies (i + 1) isAsciiLetter = true)
    (h : startTag s i st = some (.ok (k, st'))) : Advances s i st st' k := by
  have hSize := Source.lt_size_of_satisfies hLetter
  unfold startTag at h
  split at h
  · simp at h
  · rename_i stop hStop
    have hlt := Tag.lt_wholeEnd hStop
    simp only at h
    split at h
    · simp at h
    · split at h
      · simp only [Option.some.injEq, Except.ok.injEq, Prod.mk.injEq] at h
        obtain ⟨rfl, rfl⟩ := h
        exact ⟨by omega, .inr ⟨by simp [Event.startPos?], hlt, by omega⟩⟩
      · split at h
        · simp only [Option.some.injEq, Except.ok.injEq, Prod.mk.injEq] at h
          obtain ⟨rfl, rfl⟩ := h
          exact ⟨by omega, .inr ⟨by simp [Event.startPos?], hlt, by omega⟩⟩
        · simp only [Option.some.injEq, Except.ok.injEq, Prod.mk.injEq] at h
          obtain ⟨rfl, rfl⟩ := h
          exact Advances.of_text _ (by omega)

theorem bogusComment_advances (h : bogusComment s i st = some (k, st')) :
    Advances s i st st' k := by
  obtain ⟨p, hp, he⟩ := Option.map_eq_some_iff.mp h
  have := Source.findFrom_ge hp
  simp only [Prod.mk.injEq] at he
  obtain ⟨rfl, rfl⟩ := he
  exact Advances.of_aside _ (by omega)

/-- A well-formed end tag ends after its `</`. -/
theorem lt_plainEndTag {name : String} (h : plainEndTag s i = some (name, k)) : i < k := by
  have hName := Source.le_skipWhile s Tag.isWhite (i + 2)
  unfold plainEndTag at h
  simp only at h
  split at h
  · have hRest := Source.le_skipWhile s continuesEndName (s.skipWhile Tag.isWhite (i + 2) + 1)
    have hGap := Source.le_skipWhile s Tag.isWhite
      (s.skipWhile continuesEndName (s.skipWhile Tag.isWhite (i + 2) + 1))
    simp only [Option.ite_none_right_eq_some, Option.some.injEq, Prod.mk.injEq] at h
    omega
  · simp at h

theorem endTag_advances (h : endTag s i st = some (k, st')) : Advances s i st st' k := by
  unfold endTag at h
  split at h
  · simp at h
  · rename_i gt hgt
    have hGt := Source.findFrom_ge hgt
    split at h
    · rename_i name stop elem hPlain _
      have := lt_plainEndTag hPlain
      split at h
      · simp only [Option.some.injEq, Prod.mk.injEq] at h
        obtain ⟨rfl, rfl⟩ := h
        exact ⟨by omega, .inl (by simp [Event.startPos?])⟩
      · simp only [Option.some.injEq, Prod.mk.injEq] at h
        obtain ⟨rfl, rfl⟩ := h
        exact Advances.of_text _ (by omega)
    · rename_i name stop hPlain _
      have := lt_plainEndTag hPlain
      simp only [Option.some.injEq, Prod.mk.injEq] at h
      obtain ⟨rfl, rfl⟩ := h
      exact Advances.of_endTag _ (by omega)
    · simp only [Option.some.injEq, Prod.mk.injEq] at h
      obtain ⟨rfl, rfl⟩ := h
      exact Advances.of_text _ (by omega)
    · split at h
      · simp only [Option.some.injEq, Prod.mk.injEq] at h
        obtain ⟨rfl, rfl⟩ := h
        exact Advances.of_endTag _ (by omega)
      · split at h
        · simp only [Option.some.injEq, Prod.mk.injEq] at h
          obtain ⟨rfl, rfl⟩ := h
          exact Advances.of_same (by omega)
        · exact bogusComment_advances h

theorem le_commentClose (h : commentClose s i = some k) : i ≤ k := by
  obtain ⟨p, hp, he⟩ := Option.map_eq_some_iff.mp h
  have := Source.findFrom_ge hp
  have := Source.le_skipWhile s Tag.isWhite (p + 2)
  omega

theorem le_sectionClose {double : Bool} {p : Nat} (h : sectionClose s double i = some (p, k)) :
    i ≤ k := by
  unfold sectionClose at h
  obtain ⟨p', hp', he⟩ := Option.bind_eq_some_iff.mp h
  have := Source.findFrom_ge hp'
  obtain ⟨e, he', hpe⟩ := Option.map_eq_some_iff.mp he
  simp only [Prod.mk.injEq] at hpe
  obtain ⟨rfl, rfl⟩ := hpe
  have hq := Source.le_skipWhile s Tag.isWhite (p' + 1)
  simp only at he'
  split at he'
  · split at he'
    · have := Source.le_skipWhile s Tag.isWhite (s.skipWhile Tag.isWhite (p' + 1) + 1)
      simp only [Option.ite_none_right_eq_some, Option.some.injEq] at he'
      omega
    · simp at he'
  · simp only [Option.ite_none_right_eq_some, Option.some.injEq] at he'
    omega

theorem markedSection_advances (h : markedSection s i st = some (.ok (k, st'))) :
    Advances s i st st' k := by
  unfold markedSection at h
  split at h
  · simp at h
  · split at h
    · simp at h
    · simp only at h
      split at h
      · simp at h
      · split at h
        · simp at h
        · simp at h
        · rename_i p e hClose
          have hk : i + 3 ≤ e := by
            split at hClose
            · exact le_sectionClose (Option.some.inj hClose)
            · split at hClose
              · exact le_sectionClose (Option.some.inj hClose)
              · simp at hClose
          simp only [Option.some.injEq, Except.ok.injEq, Prod.mk.injEq] at h
          obtain ⟨rfl, rfl⟩ := h
          exact Advances.of_aside _ (by omega)

theorem declaration_advances (h : declaration s i st = some (.ok (k, st'))) :
    Advances s i st st' k := by
  unfold declaration at h
  split at h
  · exact markedSection_advances h
  · split at h
    · obtain ⟨p, hp, he⟩ := Option.map_eq_some_iff.mp h
      have := Source.findFrom_ge hp
      simp only [Except.ok.injEq, Prod.mk.injEq] at he
      obtain ⟨rfl, rfl⟩ := he
      exact Advances.of_aside _ (by omega)
    · obtain ⟨⟨k', st''⟩, hb, he⟩ := Option.map_eq_some_iff.mp h
      simp only [Except.ok.injEq, Prod.mk.injEq] at he
      obtain ⟨rfl, rfl⟩ := he
      exact bogusComment_advances hb

/-- A `<` is read as a construct that moves forward; when nothing can be read there yet, the
reader stops at the `<`. -/
theorem angle_holds (final : Bool) :
    (angle s final i st).Holds (fun k st' => Advances s i st st' k) := by
  unfold angle
  simp only
  split
  · rename_i k' st'' hAttempt
    show Advances s i st st'' k'
    split at hAttempt
    · exact startTag_advances ‹_› (Option.some.inj hAttempt)
    · split at hAttempt
      · obtain ⟨⟨k₁, st₁⟩, hEnd, he⟩ := Option.map_eq_some_iff.mp (Option.some.inj hAttempt)
        simp only [Except.ok.injEq, Prod.mk.injEq] at he
        obtain ⟨rfl, rfl⟩ := he
        exact endTag_advances hEnd
      · split at hAttempt
        · obtain ⟨k₁, hClose, he⟩ := Option.map_eq_some_iff.mp (Option.some.inj hAttempt)
          have := le_commentClose hClose
          simp only [Except.ok.injEq, Prod.mk.injEq] at he
          obtain ⟨rfl, rfl⟩ := he
          exact Advances.of_aside _ (by omega)
        · split at hAttempt
          · obtain ⟨k₁, hGt, he⟩ := Option.map_eq_some_iff.mp (Option.some.inj hAttempt)
            have := Source.findFrom_ge hGt
            simp only [Except.ok.injEq, Prod.mk.injEq] at he
            obtain ⟨rfl, rfl⟩ := he
            exact Advances.of_aside _ (by omega)
          · split at hAttempt
            · exact declaration_advances (Option.some.inj hAttempt)
            · simp at hAttempt
  · exact trivial
  · -- an unfinished construct: text up to the next `>` or `<` on the second pass
    split
    · show Advances s i st _ _
      refine Advances.of_text _ ?_
      split
      · rename_i p hp
        have := Source.findFrom_ge hp
        show i ≤ p + 1
        omega
      · cases hLt : s.findChar '<' (i + 1) with
        | none => simp
        | some p =>
          have := Source.findFrom_ge hLt
          simp only [Option.getD_some]
          omega
    · exact Advances.of_same (Nat.le_refl _)
  · split
    · exact Advances.of_text _ (by omega)
    · exact Advances.of_same (Nat.le_refl _)

/-- A numeric reference is text, read past its digits. -/
theorem numericReference_holds :
    (numericReference s i st).Holds (fun k st' => Advances s i st st' k) := by
  have hDec := Source.le_skipWhile s isAsciiDigit (i + 2)
  have hHex := Source.le_skipWhile s isHexDigit (i + 3)
  unfold numericReference
  simp only
  split
  · exact trivial
  · rename_i n stop hFound
    -- the reference ends at the first character after its digits, at least two places on
    have hStop : i + 2 ≤ stop := by
      split at hFound
      · simp only [Option.some.injEq, Prod.mk.injEq] at hFound
        omega
      · split at hFound
        · simp only [Option.some.injEq, Prod.mk.injEq] at hFound
          omega
        · simp at hFound
    split <;> exact Advances.of_text _ (by omega)
  · split
    · exact Advances.of_text _ (by omega)
    · exact Advances.of_same (Nat.le_refl _)

/-- A named reference is text, read past its name. -/
theorem namedReference_holds (final : Bool) :
    (namedReference s final i st).Holds (fun k st' => Advances s i st st' k) := by
  unfold namedReference
  split
  · split
    · rename_i stop hName
      -- the name ends at least two places after the `&`
      have hStop : i + 2 ≤ stop := by
        unfold referenceName at hName
        simp only at hName
        split at hName
        · have := Source.le_skipWhile s continuesRefName (i + 2)
          simp only [Option.some.injEq] at hName
          omega
        · obtain ⟨d, -, rfl⟩ := Option.map_eq_some_iff.mp hName
          omega
      split <;> exact Advances.of_text _ (by omega)
    · split
      · exact Advances.of_same (by omega)
      · exact Advances.of_same (Nat.le_refl _)
  · split
    · exact Advances.of_text _ (by omega)
    · exact Advances.of_same (Nat.le_refl _)

theorem le_nextSpecial {mode : Mode} {j : Nat} (h : nextSpecial s mode i = some j) : i ≤ j := by
  unfold nextSpecial at h
  split at h <;> exact Source.findFrom_ge h

/-! ## One step, one pass -/

/-- One step of the reader keeps the start tags ordered and before the position it moves to,
and it never moves backwards. -/
theorem step_keeps (final : Bool) (hi : i ≤ s.size) (hst : OrderedBefore s.size i st) :
    (step s final i st).Holds (fun k st' => i ≤ k ∧ OrderedBefore s.size k st') := by
  unfold step
  split
  · split
    · have hAdv : Advances s i st (if i < s.size then st.emit (.text (s.slice i s.size)) else st)
          s.size := by
        split
        · exact Advances.of_text _ hi
        · exact Advances.of_same hi
      exact hAdv.ordered hst (Nat.le_refl _)
    · exact ⟨Nat.le_refl _, hst⟩
  · rename_i j hj
    have hij := le_nextSpecial hj
    simp only
    -- the plain text before `j` reports no start tag
    have hText : OrderedBefore s.size i
        (if i < j then st.emit (.text (s.slice i j)) else st) := by
      refine hst.of_starts_eq ?_
      split
      · simp [Event.startPos?]
      · rfl
    split
    · exact (angle_holds final).mono fun k st' h => h.ordered hText hij
    · split
      · exact numericReference_holds.mono fun k st' h => h.ordered hText hij
      · exact (namedReference_holds final).mono fun k st' h => h.ordered hText hij

/-- A pass of the reader keeps the start tags ordered and before the position where it ends. -/
theorem run_keeps (final : Bool) (hst : OrderedBefore s.size i st) :
    ∀ {k st'}, run s final i st = .ok (k, st') → OrderedBefore s.size k st' := by
  fun_induction run s final i st with
  | case1 i st hi k' st'' hStep hik ih =>
    intro k st' h
    have hKeep := step_keeps final (Nat.le_of_lt hi) hst
    rw [hStep] at hKeep
    exact ih hKeep.2 h
  | case2 i st hi k' st'' hStep hik =>
    intro k st' h
    simp only [Except.ok.injEq, Prod.mk.injEq] at h
    obtain ⟨rfl, rfl⟩ := h
    have hKeep := step_keeps final (Nat.le_of_lt hi) hst
    rw [hStep] at hKeep
    exact hKeep.2
  | case3 i st hi k' st'' hStep =>
    intro k st' h
    simp only [Except.ok.injEq, Prod.mk.injEq] at h
    obtain ⟨rfl, rfl⟩ := h
    have hKeep := step_keeps final (Nat.le_of_lt hi) hst
    rw [hStep] at hKeep
    exact hKeep.2
  | case4 => intro k st' h; simp at h
  | case5 i st hi =>
    intro k st' h
    simp only [Except.ok.injEq, Prod.mk.injEq] at h
    obtain ⟨rfl, rfl⟩ := h
    exact hst

end Reader

/-! ## The whole page -/

/-- The start tags of a page strictly increase in position, and each lies inside the page. -/
theorem read_starts_ordered {s : Source} {events : Array Event} (h : read s = .ok events) :
    (events.toList.filterMap Event.startPos?).Pairwise (· < ·) ∧
      ∀ p ∈ events.toList.filterMap Event.startPos?, p < s.size := by
  have hStart : OrderedBefore s.size 0 ({} : ReadState) :=
    ⟨by simp [starts], by simp [starts], by simp [starts]⟩
  unfold read at h
  cases h₁ : Reader.run s false 0 {} with
  | error e => simp [h₁, bind, Except.bind] at h
  | ok r₁ =>
    obtain ⟨i₁, st₁⟩ := r₁
    have hst₁ := Reader.run_keeps false hStart h₁
    cases h₂ : Reader.run s true i₁ st₁ with
    | error e => simp [h₁, h₂, bind, Except.bind] at h
    | ok r₂ =>
      obtain ⟨i₂, st₂⟩ := r₂
      have hst₂ := Reader.run_keeps true hst₁ h₂
      simp only [h₁, h₂, bind, Except.bind, pure, Except.pure] at h
      -- the text left at the end reports no start tag
      have hEnd : OrderedBefore s.size i₂ { st₂ with events := events } := by
        split at h
        · cases h
          exact hst₂.of_starts_eq (by simp [starts, Event.startPos?])
        · cases h
          exact hst₂
      exact ⟨hEnd.sorted, hEnd.inside⟩

end SearchPage.Markup
