import Mathlib.Data.Nat.Digits.Defs
import Mathlib.Data.List.TakeWhile
import Mathlib.Data.List.Induction
import SearchPage.Proofs.EmptyResults

/-!
# The total number of results

The app bar's count is read from the text of the first `div#result-stats` element, its pieces
trimmed and joined with `", "`, or from the empty text when there is none. The commas and full
stops are taken out, and the count is the number written by the first run of ASCII digits in
what is left. So thousands separators vanish, while a count split over two elements stops at
the blank the joining left between them; digits of other scripts do not count.

The number is the natural number its digits write in base ten (`Nat.ofDigits`), but the
digits are read as any decimal number is, and a run of more than 4300 digits, leading zeros
included, is refused as a whole: the count step then fails rather than give a number. A count
of zero is reported as unknown, and a text without digits gives no record at all.

## Main statements

* `Text.decimalValue_eq_ofDigits`: reading digits left to right gives the number they write.
* `firstDigitRun_eq_none_iff`, `firstDigitRun_eq_some`: the first run of digits of a text.
* `totalResults_first_count`: what the default parser's count step gives on any page.
* `totalResults_of_overlong_zeros`: a count of 4301 zeros is a fault, not an unknown count.
-/

namespace SearchPage

open SearchPage.Text

/-- Reading ASCII digits from left to right, each step multiplying by ten, gives the number
they write in base ten. -/
theorem Text.decimalValue_eq_ofDigits (ds : List Char) :
    decimalValue ds = Nat.ofDigits 10 (ds.reverse.map fun c => c.toNat - '0'.toNat) := by
  induction ds using List.reverseRecOn with
  | nil => rfl
  | append_singleton ds c ih =>
    have hStep : decimalValue (ds ++ [c]) = decimalValue ds * 10 + (c.toNat - '0'.toNat) := by
      simp [decimalValue, List.foldl_append]
    rw [hStep, ih, List.reverse_append, List.reverse_singleton, List.singleton_append,
      List.map_cons, Nat.ofDigits_cons]
    omega

/-! ## The first run of digits -/

section DigitRun

@[simp] theorem firstDigitRun.isAsciiDigitChar_eq :
    firstDigitRun.isAsciiDigitChar = isAsciiDigit := rfl

/-- A text has no run of digits exactly when it has no digit. -/
theorem firstDigitRun_eq_none_iff (cs : List Char) :
    firstDigitRun cs = none ↔ ∀ c ∈ cs, isAsciiDigit c = false := by
  unfold firstDigitRun
  cases hd : List.dropWhile (fun c => !firstDigitRun.isAsciiDigitChar c) cs with
  | nil =>
    simp only [true_iff]
    intro c hc
    simpa using List.dropWhile_eq_nil_iff.mp hd c hc
  | cons d rest =>
    simp only [reduceCtorEq, false_iff]
    intro hAll
    have hNil : List.dropWhile (fun c => !firstDigitRun.isAsciiDigitChar c) cs = [] :=
      List.dropWhile_eq_nil_iff.mpr fun c hc => by simp [hAll c hc]
    rw [hd] at hNil
    cases hNil

/-- The first run of digits splits the text in three: no digit before it, at least one digit
in it, and no digit right after it. -/
theorem firstDigitRun_eq_some {cs ds : List Char} (h : firstDigitRun cs = some ds) :
    ∃ pre post, cs = pre ++ ds ++ post ∧ (∀ c ∈ pre, isAsciiDigit c = false) ∧ ds ≠ [] ∧
      (∀ c ∈ ds, isAsciiDigit c = true) ∧ ∀ c ∈ post.head?, isAsciiDigit c = false := by
  unfold firstDigitRun at h
  -- the text from its first digit on
  cases hd : List.dropWhile (fun c => !firstDigitRun.isAsciiDigitChar c) cs with
  | nil =>
    rw [hd] at h
    cases h
  | cons d rest =>
    rw [hd] at h
    simp only [firstDigitRun.isAsciiDigitChar_eq, Option.some.injEq] at h hd
    subst h
    have hHead : isAsciiDigit d = true := by
      have := List.head_dropWhile_not (fun c => !isAsciiDigit c) (l := cs) (by simp [hd])
      simpa [hd] using this
    refine ⟨cs.takeWhile (fun c => !isAsciiDigit c), (d :: rest).dropWhile isAsciiDigit, ?_, ?_,
      ?_, fun c hc => List.mem_takeWhile_imp hc, ?_⟩
    · rw [List.append_assoc, List.takeWhile_append_dropWhile, ← hd,
        List.takeWhile_append_dropWhile]
    · intro c hc
      simpa using List.mem_takeWhile_imp hc
    · simp [hHead]
    · intro c hc
      have := List.head?_dropWhile_not isAsciiDigit (d :: rest)
      rw [Option.mem_def] at hc
      rw [hc] at this
      exact this

end DigitRun

/-! ## The count step of the default parser -/

/-- The default parser's count step on any page and any element set: the count's text is the
trimmed text of the first `div#result-stats` element (the empty text when there is none) with
its commas and full stops taken out. Either that text has no ASCII digit and the step gives
nothing, or it splits around its first run of ASCII digits. A run of more than
`Markup.Reference.maxDecimalDigits` (4300) digits, leading zeros included, cannot be read as a
number and the step fails; a shorter run gives the record of the natural number it writes in
base ten, with the number reported as unknown when it is zero. -/
theorem totalResults_first_count (doc : Document) (target : Target) :
    ∃ p, Parser.build {} = .ok p ∧
      p.chains.query "total_results" = .ok [.css "div#result-stats"] ∧
      ∃ el, selectOne doc (some [.css "div#result-stats"]) target = .ok el ∧
        let t := ((textOfNode doc {} el).getD "").toList.filter fun c => c != ',' && c != '.'
        (p.totalResults doc target = .ok .null ∧ ∀ c ∈ t, isAsciiDigit c = false) ∨
        ∃ pre ds post, t = pre ++ ds ++ post ∧ (∀ c ∈ pre, isAsciiDigit c = false) ∧
          ds ≠ [] ∧ (∀ c ∈ ds, isAsciiDigit c = true) ∧
          (∀ c ∈ post.head?, isAsciiDigit c = false) ∧
          (Markup.Reference.maxDecimalDigits < ds.length →
            p.totalResults doc target = .error .unusableValue) ∧
          (ds.length ≤ Markup.Reference.maxDecimalDigits →
            let n : Nat := Nat.ofDigits 10 (ds.reverse.map fun c => c.toNat - '0'.toNat)
            p.totalResults doc target = .ok (.record [
              ("_meta", featureMeta doc "total_search_results" el),
              ("value", if n = 0 then .null else .int n)])) := by
  obtain ⟨p, hBuild, hSound, -⟩ := Parser.build_default
  have hq : p.chains.query "total_results" = .ok [.css "div#result-stats"] := by
    rw [Parser.build_default_chains hBuild]
    rfl
  obtain ⟨el, hEl⟩ : ∃ el, selectOne doc (some [.css "div#result-stats"]) target = .ok el :=
    selectOne_returns (hSound.chains.query_safe (by simp [defaultChainTexts]) hq) target
  refine ⟨p, hBuild, hq, el, hEl, ?_⟩
  intro t
  have hRun := Parser.totalResults_eq hq hEl
  cases hRun' : Parser.countDigits doc el with
  | none =>
    left
    refine ⟨?_, (firstDigitRun_eq_none_iff t).mp hRun'⟩
    rw [hRun, hRun']
  | some ds =>
    right
    obtain ⟨pre, post, hSplit, hPre, hNe, hDigits, hPost⟩ := firstDigitRun_eq_some hRun'
    refine ⟨pre, ds, post, hSplit, hPre, hNe, hDigits, hPost, fun hLong => ?_, fun hShort => ?_⟩
    · rw [hRun, hRun']
      exact if_pos hLong
    · intro n
      have hn : decimalValue ds = n := decimalValue_eq_ofDigits ds
      rw [hRun, hRun']
      dsimp only
      rw [if_neg (Nat.not_lt.mpr hShort), hn]
      by_cases h0 : n = 0 <;> simp [h0]

/-! ## A count too long to read -/

/-- The tree of the page `<div id="result-stats">…</div>` whose one element holds the text
`digits` and nothing else. -/
def countPage (digits : String) : Document where
  length := digits.length + 29
  nodes := #[
    { kind := .element "div" [("id", "result-stats")], parent := none, children := #[1],
      pos := some 0, stop := 2 },
    { kind := .text digits, parent := some 0, stop := 2 }]
  roots := #[0]
  nextStarts := #[0, digits.length + 29, digits.length + 29]

theorem Text.isTrimBlank_of_isAsciiDigit {c : Char} (h : isAsciiDigit c = true) :
    isTrimBlank c = false := by
  simp only [isAsciiDigit, Bool.and_eq_true, decide_eq_true_eq] at h
  obtain ⟨h0, h9⟩ := h
  have h0' : 48 ≤ c.toNat := h0
  have h9' : c.toNat ≤ 57 := h9
  simp only [isTrimBlank]
  grind

/-- An ASCII digit is neither a comma nor a full stop, so taking those out keeps it. -/
theorem Text.not_separator_of_isAsciiDigit {c : Char} (h : isAsciiDigit c = true) :
    (c != ',' && c != '.') = true := by
  have hComma : c ≠ ',' := by
    rintro rfl
    exact absurd h (by decide)
  have hStop : c ≠ '.' := by
    rintro rfl
    exact absurd h (by decide)
  simp [hComma, hStop]

/-- The text of the count element is its one piece of text, trimmed. -/
theorem textOfNode_countPage (digits : String) :
    textOfNode (countPage digits) {} (some 0) = nonEmpty (Text.trim digits) := by
  -- the element's one child is the text, its only piece when not empty
  have hPieces : piecesOf (countPage digits) {} [1] = (nonEmpty (Text.trim digits)).toList := by
    simp [piecesOf, piecesBelow, countPage, Document.size, Document.text?, Document.node?,
      TextOptions.piece]
  have hDiv : getText (countPage digits) {} (.node 0) =
      TextOptions.assemble {} (piecesOf (countPage digits) {} [1]) := by
    simp [getText, countPage, Document.text?, Document.name?, Document.node?, nonTextElements,
      Document.childrenOf]
  rw [textOfNode, hDiv, hPieces]
  cases h : nonEmpty (Text.trim digits) with
  | none => rfl
  | some t =>
    have ht : t ≠ "" := fun ht => nonEmpty_ne_some_empty _ (ht ▸ h)
    simp [TextOptions.assemble, ht]

/-- When the count element holds a run of ASCII digits only, that run is the count's digits. -/
theorem countDigits_countPage {ds : List Char} (hNe : ds ≠ [])
    (hDigits : ∀ c ∈ ds, isAsciiDigit c = true) :
    Parser.countDigits (countPage (String.ofList ds)) (some 0) = some ds := by
  obtain ⟨a, as, rfl⟩ := List.exists_cons_of_ne_nil hNe
  have hTrim : Text.trim (String.ofList (a :: as)) = String.ofList (a :: as) :=
    Text.trim_eq_self_of_not_blank (a := a) (b := (a :: as).getLast hNe)
      (by simp) (by simp [List.getLast?_eq_some_getLast hNe])
      (Text.isTrimBlank_of_isAsciiDigit (hDigits a List.mem_cons_self))
      (Text.isTrimBlank_of_isAsciiDigit (hDigits _ (List.getLast_mem hNe)))
  have hKept : (a :: as).filter (fun c => c != ',' && c != '.') = a :: as :=
    List.filter_eq_self.mpr fun c hc => Text.not_separator_of_isAsciiDigit (hDigits c hc)
  have hRun : firstDigitRun (a :: as) = some (a :: as) := by
    simp [firstDigitRun, hDigits a List.mem_cons_self,
      List.takeWhile_eq_self_iff.mpr hDigits]
  rw [Parser.countDigits, textOfNode_countPage, hTrim, nonEmpty, if_neg (by simp)]
  simp only [Option.getD_some, String.toList_ofList, hKept, hRun]

/-- A count of 4301 zeros is one digit more than can be read as a number: the default
parser's count step fails on it, though the number it writes is zero and so would be
reported as unknown. -/
theorem totalResults_of_overlong_zeros :
    ∃ p, Parser.build {} = .ok p ∧
      p.totalResults (countPage (String.ofList (List.replicate 4301 '0'))) (.nodes [some 0]) =
        .error .unusableValue := by
  obtain ⟨p, hBuild, -, -⟩ := Parser.build_default
  have hq : p.chains.query "total_results" = .ok [.css "div#result-stats"] := by
    rw [Parser.build_default_chains hBuild]
    rfl
  -- finding the element does not read its text, so the long page is evaluated cheaply
  have hEl : selectOne (countPage (String.ofList (List.replicate 4301 '0')))
      (some [.css "div#result-stats"]) (.nodes [some 0]) = .ok (some 0) :=
    eq_ok_of_toOption (by decide +kernel)
  have hZeros : Parser.countDigits (countPage (String.ofList (List.replicate 4301 '0'))) (some 0) =
      some (List.replicate 4301 '0') :=
    countDigits_countPage (List.ne_nil_of_length_pos (by rw [List.length_replicate]; decide))
      fun c hc => by rw [List.eq_of_mem_replicate hc]; rfl
  have hLong : Markup.Reference.maxDecimalDigits < (List.replicate 4301 '0').length := by
    rw [List.length_replicate]
    decide
  refine ⟨p, hBuild, ?_⟩
  rw [Parser.totalResults_eq hq hEl, hZeros]
  exact if_pos hLong

end SearchPage
