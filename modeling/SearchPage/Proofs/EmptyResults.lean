import SearchPage.Proofs.TextPieces
import SearchPage.Proofs.DefaultParser
import SearchPage.Proofs.Selection
import SearchPage.Proofs.PipeFields

/-!
# When an element gives no result

Reading one element gives no record exactly when the record would have no title, no
description, and the element no text. Two of the three tests say less than they seem to when
no element of the page lies inside a `script` or `style` element, as in every page the reader
builds from HTML.

A title is the text of an element found at or below the result element. Its pieces are pieces
of the element's text (`getText_member_ne_none`), so an element without text has no title of
its own. It may still get one: on a mobile page a knowledge card's title is the card label, or
its title with the card suffix, and that is always set.

A description is the untrimmed text of the first description found. Taking its prefix out can
leave nothing, but only when the prefix, found below the description, has text, and then the
element has text too.

So an element is dropped exactly when it has no text, it is not a knowledge card read on a
mobile page, and its first description holds no text, trimmed or not.

## Main statements

* `select_member_below`: a query of alternatives over one element finds nodes at or below it.
* `parseResult_spec`: what reading one element gives, for safe chains and sound collaborators.
* `parseResult_none_iff_no_text`: the default parser drops an element exactly when it has no
  text, is not a card on a mobile page, and its first description holds no text.
-/

namespace SearchPage

/-! ## Where a selection lies -/

section Below

variable {doc : Document} {q : Query}

theorem Finder.isAlternative_of_isSafe {f : Finder} (h : f.isSafe = true) :
    f.isAlternative = true := by
  cases f <;> simp_all [Finder.isSafe, Finder.isAlternative]

theorem isAlternative_of_isSafeQuery (hq : isSafeQuery q = true) :
    ∀ f ∈ q, f.isAlternative = true :=
  fun f hf => Finder.isAlternative_of_isSafe (List.all_eq_true.mp hq f hf)

/-- What a query of alternatives finds in a node set of one element lies at or below it. -/
theorem select_member_below (hq : ∀ f ∈ q, f.isAlternative = true) {el : Nat} {ns : List Nat}
    (h : select doc (some q) (.nodes [some el]) = .ok ns) :
    ∀ n ∈ ns, n ∈ el :: doc.descendants el := by
  refine select_of_alternatives (P := fun ns => ∀ n ∈ ns, n ∈ el :: doc.descendants el)
    (fun _ hn => by cases hn) hq (fun f _ ns hns => ?_) h
  rcases Finder.alternative_member hns with rfl | ⟨self, below, hBelow, rfl⟩
  · intro n hn
    cases hn
  · intro n hn
    rcases List.mem_append.mp hn with hSelf | hIn
    · cases self with
      | false => cases hSelf
      | true => exact List.mem_singleton.mp hSelf ▸ List.mem_cons_self
    · exact List.mem_cons_of_mem _ ((Finder.matchesBelow_sublist hBelow).subset hIn)

theorem selectOne_eq_ok {target : Target} {m : Option Nat}
    (h : selectOne doc (some q) target = .ok m) :
    ∃ ns, select doc (some q) target = .ok ns ∧ m = ns.head? := by
  obtain ⟨ns, hSel, hm⟩ := bind_eq_ok.mp h
  exact ⟨ns, hSel, (pure_eq_ok.mp hm).symm⟩

end Below

/-! ## The title of a knowledge card -/

/-- On a mobile page a card's title is set: the card label, when that is set, or a title that
is not empty with the suffix after it. -/
theorem cardTitle_card_isSet {result : ResultSettings} (hLabel : result.cardLabel.isSet = true)
    {title : Option String} (hTitle : title ≠ some "") :
    (cardTitle result (Value.ofText title)).isSet = true := by
  cases title with
  | none => exact hLabel
  | some t =>
    have ht : t ≠ "" := fun e => hTitle (e ▸ rfl)
    simp [cardTitle, Value.ofText, Value.isSet, Value.plainText, ht]

/-- Anywhere but a card on a mobile page, the title is the title found. -/
theorem cardTitle_of_not_card {result : ResultSettings} {mobile isCard : Bool}
    (h : ¬(mobile = true ∧ isCard = true)) (title : Value) :
    (if (mobile && isCard) = true then cardTitle result title else title) = title := by
  have hOff : (mobile && isCard) = false := by
    cases mobile <;> cases isCard <;> simp_all
  rw [hOff]
  rfl

/-! ## The steps of a result -/

/-- The keys of a result record, in order. -/
def resultKeys : List String :=
  ["url", "title", "description", "result_date", "is_amp", "is_knowledge_card", "answer_box",
    "news_pack", "image_pack", "video_pack", "event_pack", "flight_box", "job_pack",
    "salary_pack", "local_pack", "hotel_pack", "people_also_ask", "has_thumbnail",
    "has_video_thumbnail", "rich_content", "_meta"]

section Steps

variable {doc : Document} {chains : Chains} (hn : doc.Nested)
  (hpe : ∀ c p, doc.parent? c = some p → doc.isElement p = true)
  (hTag : ∀ a c, doc.hidesText a = true → a < c → c < doc.stop a → doc.isElement c = false)
  {el : Nat}
include hn hpe hTag

/-- The first element a query finds, when it lies at or below the node of a one-element set
and has text of its own, gives the set text. -/
theorem getText_ne_none_of_selectOne {q : Query} {target : Target} {t : Nat}
    (hBelow : ∀ ns, select doc (some q) target = .ok ns → ∀ n ∈ ns, n ∈ el :: doc.descendants el)
    (hOne : selectOne doc (some q) target = .ok (some t))
    (hText : textOfNode doc {} (some t) ≠ none) : getText doc {} (.nodes [some el]) ≠ none := by
  obtain ⟨ns, hSel, hHead⟩ := selectOne_eq_ok hOne
  have ht : t ∈ ns := List.mem_of_mem_head? hHead.symm
  exact getText_member_ne_none hn hpe hTag (hBelow ns hSel t ht) (select_isElement hSel t ht) hText

variable (hc : chains.Safe)
include hc

/-- The title of a one-element set is never empty, and is text of the element. -/
theorem titleOf_spec (mobile : Bool) :
    Returns (titleOf doc chains mobile (.nodes [some el])) fun title =>
      title ≠ some "" ∧ (title ≠ none → getText doc {} (.nodes [some el]) ≠ none) := by
  unfold titleOf
  refine (hc _ (by cases mobile <;> simp [defaultChainTexts])).bind fun q hq => ?_
  obtain ⟨m₀, hm₀⟩ := selectOne_returns hq (.nodes [some el])
  refine (returns_of_eq hm₀).bind fun m hm => ?_
  subst hm
  refine returns_pure ⟨?_, ?_⟩
  · cases m with
    | none => simp [textOfNode]
    | some t => exact getText_ne_some_empty doc {} (.node t)
  · intro hTitle
    cases m with
    | none => exact absurd rfl hTitle
    | some t =>
      exact getText_ne_none_of_selectOne hn hpe hTag
        (fun _ hSel => select_member_below (isAlternative_of_isSafeQuery hq) hSel) hm₀ hTitle

/-- The description of a one-element set is missing when the first description found holds no
text; it is set unless that description holds no text or the element has text. -/
theorem descriptionOf_spec {found : List Nat}
    (hFound : selectBy doc chains "description" (.nodes [some el]) = .ok found) :
    Returns (descriptionOf doc chains (.nodes [some el])) fun r =>
      ((∀ m ∈ found.head?, doc.textFrom { separator := "", trim := false } m = []) →
        r.1 = none) ∧
      ((Value.ofText r.1).isSet = false →
        (∀ m ∈ found.head?, doc.textFrom { separator := "", trim := false } m = []) ∨
          getText doc {} (.nodes [some el]) ≠ none) := by
  obtain ⟨q₀, hq₀, hSel⟩ := bind_eq_ok.mp hFound
  have hSafe := hc.query_safe (by simp [defaultChainTexts]) hq₀
  have hOne : selectOne doc (some q₀) (.nodes [some el]) = .ok found.head? := by
    simp only [selectOne, hSel]
    rfl
  unfold descriptionOf
  refine (returns_of_eq hq₀).bind fun q hq => ?_
  subst hq
  refine (returns_of_eq hOne).bind fun _ hm => ?_
  subst hm
  cases hHead : found.head? with
  | none => exact returns_pure ⟨fun _ => rfl, fun _ => Or.inl (fun _ hm => by cases hm)⟩
  | some m =>
    -- the untrimmed text of the description is missing exactly when it has no pieces
    have hRawNone : textOfNode doc { separator := "", trim := false } (some m) = none ↔
        doc.textFrom { separator := "", trim := false } m = [] := by
      rw [textOfNode, getText_eq_none_iff hn hpe, Target.textPieces_node]
    have hmIn : m ∈ el :: doc.descendants el :=
      select_member_below (isAlternative_of_isSafeQuery hSafe) hSel m (List.mem_of_mem_head? hHead)
    cases hRaw : textOfNode doc { separator := "", trim := false } (some m) with
    | none =>
      exact returns_pure ⟨fun _ => rfl, fun _ => Or.inl fun m' hm' => by
        cases hm'
        exact hRawNone.mp hRaw⟩
    | some d =>
      -- a description with text is set, unless its prefix, with text below it, takes it all
      have hHasText : ¬ doc.textFrom { separator := "", trim := false } m = [] :=
        fun hNil => by rw [← hRawNone, hRaw] at hNil; cases hNil
      have hNoPieces : ¬ ∀ m' ∈ some m, doc.textFrom { separator := "", trim := false } m' = [] :=
        fun h => hHasText (h m rfl)
      dsimp only
      refine (hc "description_prefix" (by simp [defaultChainTexts])).bind fun qp hqp => ?_
      obtain ⟨pe₀, hpe₀⟩ := selectOne_returns hqp (.node m)
      refine (returns_of_eq hpe₀).bind fun pe hPe => ?_
      subst hPe
      cases hPre : textOfNode doc {} pe with
      | none =>
        refine returns_pure ⟨fun h => absurd h hNoPieces, fun hUnset => absurd hUnset ?_⟩
        have hd : d ≠ "" := fun e => getText_ne_some_empty doc _ (.node m) (e ▸ hRaw)
        simp [Value.ofText, Value.isSet, hd]
      | some p =>
        refine returns_pure ⟨fun h => absurd h hNoPieces, fun _ => Or.inr ?_⟩
        cases pe with
        | none => cases hPre
        | some t =>
          -- the prefix is found below the description, itself at or below the element
          refine getText_ne_none_of_selectOne hn hpe hTag (fun ns hSel n hn' => ?_) hpe₀
            (by rw [hPre]; exact Option.some_ne_none p)
          exact Document.mem_self_descendants_trans hn hmIn (List.mem_cons_of_mem _
            ((select_node_sublist (isAlternative_of_isSafeQuery hqp) hSel).subset hn'))

/-- What reading one element gives, for safe chains, sound collaborators and a card label that
is set: no record exactly when the element has no text, it is not a knowledge card read on a
mobile page, and its first description holds no text; otherwise a record with the keys
`resultKeys`. -/
theorem parseResult_spec {result : ResultSettings} {features : Collaborators}
    (hf : features.Sound) (hd : result.DateCompiles) (hLabel : result.cardLabel.isSet = true)
    (request : Request) {isCard : Bool}
    (hCard : features.isPanelEntry doc (.nodes [some el]) = .ok isCard) {found : List Nat}
    (hFound : selectBy doc chains "description" (.nodes [some el]) = .ok found) :
    Returns (parseResult doc chains result features request el) fun out =>
      (out = none ↔ getText doc {} (.nodes [some el]) = none ∧
        ¬(request.mobile = true ∧ isCard = true) ∧
        ∀ m ∈ found.head?, doc.textFrom { separator := "", trim := false } m = []) ∧
      ∀ r ∈ out, r.map Prod.fst = resultKeys := by
  rw [parseResult_eq]
  refine (descriptionOf_spec hn hpe hTag hc hFound).bind fun r hDesc => ?_
  obtain ⟨description, lead⟩ := r
  refine (returns_of_eq hCard).bind fun c hc' => ?_
  subst hc'
  dsimp only at hDesc ⊢
  refine (Returns.ite (P := fun _ => True) (fun _ => returns_pure trivial)
    (fun _ => urlOf_returns hc _ _)).bind fun url _ => ?_
  refine (titleOf_spec hn hpe hTag hc _).bind fun title hTitle => ?_
  refine (result.dateIn_returns hd _).bind fun date _ => ?_
  refine (isAmpOf_returns hc _).bind fun amp _ => ?_
  refine (features.answerBoxOf_returns hf doc _).bind fun answerBox _ => ?_
  refine (features.questionsOf_returns hf doc _).bind fun questions _ => ?_
  refine (hc.selectBy_returns (by simp [defaultChainTexts]) doc _).bind fun thumb _ => ?_
  refine (hc.selectBy_returns (by simp [defaultChainTexts]) doc _).bind fun video _ => ?_
  refine Returns.ite (fun hDrop => returns_pure ⟨?_, by simp⟩)
    (fun hKeep => returns_pure ⟨?_, ?_⟩)
  · -- dropped: a card on a mobile page would have had a title, and the description is unset
    simp only [Bool.and_eq_true, Bool.not_eq_eq_eq_not, Bool.not_true,
      Option.isNone_iff_eq_none] at hDrop
    obtain ⟨⟨hNoTitle, hNoDesc⟩, hNoText⟩ := hDrop
    refine iff_of_true rfl ⟨hNoText, fun hCardOnMobile => ?_, ?_⟩
    · obtain ⟨hMobile, hIsCard⟩ := hCardOnMobile
      rw [hMobile, hIsCard, if_pos ⟨rfl, rfl⟩, cardTitle_card_isSet hLabel hTitle.1] at hNoTitle
      cases hNoTitle
    · exact (hDesc.2 hNoDesc).resolve_right (· hNoText)
  · -- kept: without text, card or description pieces, title and description are unset
    refine iff_of_false (Option.some_ne_none _) fun hEmpty => hKeep ?_
    obtain ⟨hNoText, hNotCard, hNoPieces⟩ := hEmpty
    have hNoTitle : title = none := by
      by_contra hSome
      exact hTitle.2 hSome hNoText
    rw [cardTitle_of_not_card hNotCard, hNoTitle, hDesc.1 hNoPieces, hNoText]
    rfl
  · intro r hr
    cases hr
    rfl

end Steps

/-! ## The default parser -/

/-- The default parser reads results with the default result settings. -/
theorem Parser.build_default_result {p : Parser} (h : Parser.build {} = .ok p) :
    p.result = {} := by
  unfold Parser.build at h
  rw [ParserConfig.validate_default] at h
  obtain ⟨b, hb, h⟩ := bind_eq_ok.mp h
  cases hb
  obtain ⟨chains, -, h⟩ := bind_eq_ok.mp h
  obtain ⟨features, -, h⟩ := bind_eq_ok.mp h
  obtain ⟨result, hResult, h⟩ := bind_eq_ok.mp h
  cases hResult
  cases pure_eq_ok.mp h
  rfl

/-- When no element of a page lies inside a `script` or `style` element, the default parser
drops an element of the page exactly when the element has no text, it is not a knowledge card
read on a mobile page, and the first description found in it holds no text, trimmed or not.
Otherwise it gives a record with the keys `resultKeys`. -/
theorem parseResult_none_iff_no_text {markup : String} {withSpans : Bool} {doc : Document}
    (h : Document.parse markup withSpans = .ok doc)
    (hTag : ∀ a c, doc.hidesText a = true → a < c → c < doc.stop a → doc.isElement c = false)
    (request : Request) (el : Nat) :
    ∃ p, Parser.build {} = .ok p ∧ ∃ isCard found out,
      p.features.isPanelEntry doc (.nodes [some el]) = .ok isCard ∧
      selectBy doc p.chains "description" (.nodes [some el]) = .ok found ∧
      parseResult doc p.chains p.result p.features request el = .ok out ∧
      (out = none ↔ getText doc {} (.nodes [some el]) = none ∧
        ¬(request.mobile = true ∧ isCard = true) ∧
        ∀ m ∈ found.head?, doc.textFrom { separator := "", trim := false } m = []) ∧
      ∀ r ∈ out, r.map Prod.fst = resultKeys := by
  have hm := Document.ofMarkup_of_parse h
  have hn := Document.ofMarkup_nested hm
  have hpe : ∀ c p, doc.parent? c = some p → doc.isElement p = true :=
    fun _ _ hp => Document.ofMarkup_parent_isElement hm hp
  obtain ⟨p, hBuild, hSound, -⟩ := Parser.build_default
  have hLabel : p.result.cardLabel.isSet = true := by
    rw [Parser.build_default_result hBuild]
    rfl
  obtain ⟨isCard, hCard, -⟩ :=
    Collaborators.isPanelEntry_returns hSound.features doc (.nodes [some el])
  obtain ⟨found, hFound, -⟩ :
      Returns (selectBy doc p.chains "description" (.nodes [some el])) fun _ => True :=
    hSound.chains.selectBy_returns (by simp [defaultChainTexts]) doc _
  obtain ⟨out, hOut, hIff, hKeys⟩ := parseResult_spec hn hpe hTag hSound.chains hSound.features
    hSound.datePattern hLabel request hCard hFound
  exact ⟨p, hBuild, isCard, found, out, hCard, hFound, hOut, hIff, hKeys⟩

/-- A `div` holding a paragraph with text gives a record. -/
theorem result_of_paragraph :
    ∃ doc, Document.parse "<div><p>a</p></div>" true = .ok doc ∧
      ∃ p, Parser.build {} = .ok p ∧
        ∃ r, parseResult doc p.chains p.result p.features {} 0 = .ok (some r) ∧
          r.map Prod.fst = resultKeys := by
  obtain ⟨doc, h⟩ := exists_ok_of_isOk
    (show (Document.parse "<div><p>a</p></div>" true).isOk = true by decide +kernel)
  have hShown : (List.range doc.size).all (fun a => !doc.hidesText a) = true :=
    eq_of_toOption_map (fun d => (List.range d.size).all fun a => !d.hidesText a) h
      (by decide +kernel)
  have hText : getText doc {} (.nodes [some 0]) = some "a" :=
    eq_of_toOption_map (fun d => getText d {} (.nodes [some 0])) h (by decide +kernel)
  -- no element hides its contents, so none lies inside one that does
  have hTag : ∀ a c, doc.hidesText a = true → a < c → c < doc.stop a → doc.isElement c = false := by
    intro a c ha
    have haSize := Document.lt_size_of_isElement (Document.isElement_of_hidesText ha)
    have := List.all_eq_true.mp hShown a (List.mem_range.mpr haSize)
    rw [ha] at this
    cases this
  obtain ⟨p, hBuild, isCard, found, out, -, -, hOut, hIff, hKeys⟩ :=
    parseResult_none_iff_no_text h hTag {} 0
  cases out with
  | none =>
    rw [hText] at hIff
    cases (hIff.mp rfl).1
  | some r => exact ⟨doc, h, p, hBuild, r, hOut, hKeys r rfl⟩

end SearchPage
