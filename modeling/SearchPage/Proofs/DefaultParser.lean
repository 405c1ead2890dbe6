import SearchPage.Proofs.PageRuns
import SearchPage.Proofs.Fallback
import SearchPage.Proofs.Forest

/-!
# The default parser

The parser built from the default configuration is sound: every chain it starts with is a
query of CSS selectors that compile and whose matching cannot fail, which one run of the
compiler over all default selectors checks (`Chains.initial_safe`), and its marker
`body#gsr` is such a query too. So it reads every page the HTML reader accepts.

The marker decides the platform. A page looks like a mobile page when none of its nodes is
a `body` element whose `id` is `gsr` (`Document.looksMobile`). The marker is searched for
at every top node and below it, and every element of a page lies at or below a top
element, so the platform check answers exactly that (`isMobileDocument_eq_looksMobile`).

A page that the HTML reader rejects is reported with the reader's fault before anything
else is done, such as a marked section with a keyword the reader does not know.

## Main statements

* `Parser.build_default`: the default configuration builds a sound parser.
* `isMobileDocument_eq_looksMobile`: the platform check finds whether the page has the
  desktop mark.
* `defaultParser_parse_outcome`: what the default parser does with any page.
-/

namespace SearchPage

open Selector Text

/-! ## The default configuration -/

/-- Whether every named chain is present and a safe query. -/
def Chains.safeFor (chains : Chains) (names : List String) : Bool :=
  names.all fun name => match chains.query name with
    | .ok q => isSafeQuery q
    | .error _ => false

theorem Chains.safe_of_safeFor {chains : Chains}
    (h : chains.safeFor (defaultChainTexts.map Prod.fst) = true) : chains.Safe := by
  intro name hName
  have hSafe := List.all_eq_true.mp h name hName
  split at hSafe
  · rename_i q hq
    exact ⟨q, hq, hSafe⟩
  · cases hSafe

/-- The chains the parser starts with are present and safe: the check compiles every
default selector. -/
theorem Chains.initial_safe : Chains.initial.Safe := by
  apply Chains.safe_of_safeFor
  -- one kernel evaluation per chain: each stays small, where one over all chains holds
  -- every selector's compilation in memory at once
  simp only [Chains.safeFor, defaultChainTexts, List.map_cons, List.map_nil, List.all_cons,
    List.all_nil, Bool.and_true, Bool.and_eq_true]
  repeat' apply And.intro
  all_goals decide +kernel

/-- A value that is a pattern that compiles is text, compiled without error. -/
theorem patternCompiles_eq_true {v : Value} (h : patternCompiles v = .ok true) :
    ∃ pat r, v = .str pat ∧ Pattern.compile pat = .ok r := by
  cases v with
  | str pat =>
    cases hc : Pattern.compile pat with
    | ok r => exact ⟨pat, r, rfl, hc⟩
    | error e =>
      rw [patternCompiles, hc] at h
      cases e <;> cases h
  | _ => cases h

/-- A valid configuration with its own result constants has a date pattern that
compiles. -/
theorem ParserConfig.dateCompiles_of_validate {cfg : ParserConfig} {result : ResultSettings}
    (h : cfg.validate = .ok true) (hResult : cfg.result = .kept result) : result.DateCompiles := by
  unfold ParserConfig.validate at h
  obtain ⟨chains, -, h⟩ := bind_eq_ok.mp h
  -- each early `false` contradicts the answer `true`
  split at h
  · cases h
  split at h
  · cases h
  rw [hResult] at h
  obtain ⟨result', hGet, h⟩ := bind_eq_ok.mp h
  cases hGet
  split at h
  · cases h
  exact patternCompiles_eq_true h

theorem ParserConfig.validate_default : ({} : ParserConfig).validate = .ok true := by
  have h : ({} : ParserConfig).validate.toOption = some true := by decide +kernel
  cases hv : ({} : ParserConfig).validate with
  | error e => simp [hv, Except.toOption] at h
  | ok b => simp_all [Except.toOption]

/-- The compiled desktop marker `body#gsr`: one compound of a tag test and an id test. -/
def desktopMarker : SelectorList := .mk [.mk [.tag none "body", .id "gsr"] none] false

/-- Whether a compiled selector is the desktop marker. -/
def Selector.SelectorList.isDesktopMarker : SelectorList → Bool
  | .mk [.mk [.tag none name, .id id] none] false => name == "body" && id == "gsr"
  | _ => false

theorem Selector.SelectorList.eq_desktopMarker {l : SelectorList} (h : l.isDesktopMarker = true) :
    l = desktopMarker := by
  unfold SelectorList.isDesktopMarker at h
  split at h
  · simp only [Bool.and_eq_true, beq_iff_eq] at h
    rw [h.1, h.2]
    rfl
  · cases h

theorem compile_desktopMarker : compile "body#gsr" = .ok desktopMarker := by
  have h : (compile "body#gsr").toOption.map SelectorList.isDesktopMarker = some true := by
    decide +kernel
  cases hc : compile "body#gsr" with
  | error e => simp [hc, Except.toOption] at h
  | ok l =>
    simp only [hc, Except.toOption, Option.map_some, Option.some.injEq] at h
    rw [SelectorList.eq_desktopMarker h]

/-- The default configuration builds a sound parser, which keeps the configuration. -/
theorem Parser.build_default : Returns (Parser.build {}) fun p => p.Sound ∧ p.config = {} := by
  unfold Parser.build
  rw [ParserConfig.validate_default]
  refine (returns_pure (P := fun b => b = true) rfl).bind fun b hb => ?_
  subst hb
  refine (returns_pure (P := fun c => c = Chains.initial) rfl).bind fun chains hc => ?_
  subst hc
  refine (Collaborators.build_sound Chains.initial_safe).bind fun features hf => ?_
  refine (returns_pure (P := fun r => r = {}) rfl).bind fun result hr => ?_
  subst hr
  refine returns_pure ⟨⟨Chains.initial_safe, hf, ?_, ?_⟩, rfl⟩
  · refine ⟨[.css "body#gsr"], rfl, ?_⟩
    simp [isSafeQuery, Finder.isSafe, compile_desktopMarker]
    decide
  · exact ParserConfig.dateCompiles_of_validate ParserConfig.validate_default rfl

/-! ## Runs that give plain values -/

/-- A monadic filter whose test gives a plain test's answer is that filter. -/
theorem filterM_eq_pure {m : Type → Type} [Monad m] [LawfulMonad m] {α : Type}
    {p : α → m Bool} {f : α → Bool} :
    ∀ {xs : List α}, (∀ x ∈ xs, p x = pure (f x)) → xs.filterM p = pure (xs.filter f)
  | [], _ => by simp [List.filterM, List.filterAuxM]
  | x :: xs, h => by
    rw [filterM_cons, h x List.mem_cons_self, pure_bind,
      filterM_eq_pure fun y hy => h y (List.mem_cons_of_mem x hy), pure_bind]
    cases hx : f x <;> simp [hx]

/-- A monadic map whose function gives a plain function's value is that map. -/
theorem mapM_eq_pure {ε α β : Type} {f : α → Except ε β} {g : α → β} {xs : List α}
    (h : ∀ x ∈ xs, f x = pure (g x)) : xs.mapM f = pure (xs.map g) := by
  rw [mapM_congr_of_mem h, List.mapM_pure]

/-! ## The desktop mark -/

/-- Whether a node is the mark of a desktop page: a `body` element whose `id` is `gsr`, the tag
and attribute names compared without ASCII case. -/
def Document.isDesktopMark (doc : Document) (n : Nat) : Bool :=
  doc.isElement n && asciiLowerText "body" == asciiLowerText ((doc.name? n).getD "") &&
    ((doc.attrs n).find? fun (k, _) => asciiLowerText k == asciiLowerText "id").map (·.2) ==
      some "gsr"

/-- Whether a document looks like a page for mobile devices: none of its nodes is the desktop
mark. A document without nodes looks like one. -/
def Document.looksMobile (doc : Document) : Bool :=
  (List.range doc.size).all fun n => !doc.isDesktopMark n

theorem Document.isElement_of_isDesktopMark {doc : Document} {n : Nat}
    (h : doc.isDesktopMark n = true) : doc.isElement n = true := by
  simp only [Document.isDesktopMark, Bool.and_eq_true] at h
  exact h.1.1

theorem isDesktopMark_eq_holdsPlain (sc : Scene) {n : Nat} (hn : sc.doc.isElement n = true) :
    sc.doc.isDesktopMark n = (Test.holdsPlain sc (.node n) (.tag none "body") &&
      Test.holdsPlain sc (.node n) (.id "gsr")) := by
  simp [Document.isDesktopMark, hn, Test.holdsPlain, Scene.nameOf, Scene.attrValue, Scene.attrsOf]

/-- At an element, the marker holds exactly for the desktop mark, and the memory of the
selection is left as it is. -/
theorem desktopMarker_holds (sc : Scene) {n : Nat} (hn : sc.doc.isElement n = true) :
    SelectorList.holds sc (.node n) desktopMarker = pure (sc.doc.isDesktopMark n) := by
  rw [isDesktopMark_eq_holdsPlain sc hn]
  simp only [desktopMarker, SelectorList.holds, Compound.anyHolds, Compound.holds, Test.allHold,
    Test.holds, Compound.relatedHolds]
  generalize Test.holdsPlain sc (.node n) (.tag none "body") = a
  generalize Test.holdsPlain sc (.node n) (.id "gsr") = b
  cases a <;> cases b <;> rfl

theorem desktopMarker_matchesAt (doc : Document) {n : Nat} (hn : doc.isElement n = true) :
    desktopMarker.matchesAt doc n = .ok (doc.isDesktopMark n) := by
  unfold SelectorList.matchesAt
  rw [desktopMarker_holds (Scene.of doc (some n)) hn]
  rfl

theorem desktopMarker_selectIn (doc : Document) (scope : Nat) :
    desktopMarker.selectIn doc scope = .ok ((doc.descendants scope).filter doc.isDesktopMark) := by
  have hAll : ∀ x ∈ (Scene.of doc (some scope)).descendantElements (.node scope),
      SelectorList.holds (Scene.of doc (some scope)) (.node x) desktopMarker =
        pure (doc.isDesktopMark x) :=
    fun x hx => desktopMarker_holds _ (List.mem_filter.mp hx).2
  -- the elements below that are marks are the marks below
  have hFilter : ((doc.descendants scope).filter doc.isElement).filter doc.isDesktopMark =
      (doc.descendants scope).filter doc.isDesktopMark := by
    rw [List.filter_filter]
    refine List.filter_congr fun x _ => ?_
    cases h : doc.isDesktopMark x
    · rfl
    · simp [Document.isElement_of_isDesktopMark h]
  unfold SelectorList.selectIn
  dsimp only
  rw [filterM_eq_pure hAll]
  simp only [Scene.descendantElements, Scene.of, hFilter]
  rfl

theorem matchesSelf_desktopMarker (doc : Document) {s : Nat} (hs : doc.isElement s = true) :
    (Finder.css "body#gsr").matchesSelf doc s = .ok (doc.isDesktopMark s) := by
  rw [Finder.matchesSelf, compile_desktopMarker]
  show Except.mapError Fault.selector (desktopMarker.matchesAt doc s) = _
  rw [desktopMarker_matchesAt doc hs]
  rfl

theorem matchesBelow_desktopMarker (doc : Document) (s : Nat) :
    (Finder.css "body#gsr").matchesBelow doc s =
      .ok ((doc.descendants s).filter doc.isDesktopMark) := by
  rw [Finder.matchesBelow, compile_desktopMarker]
  show Except.mapError Fault.selector (desktopMarker.selectIn doc s) = _
  rw [desktopMarker_selectIn]
  rfl

theorem firstNonEmpty_singleton (ns : List Nat) : firstNonEmpty [.ok ns] = .ok ns := by
  cases ns <;> rfl

/-- Searching each member itself and below it for nodes that pass a test gives the nodes that
pass at or below a member. -/
theorem mem_flatten_self_below {doc : Document} {mark : Nat → Bool} {members : List Nat}
    {x : Nat} :
    x ∈ (members.map fun s =>
        (if mark s then [s] else []) ++ (doc.descendants s).filter mark).flatten ↔
      mark x = true ∧ ∃ s ∈ members, x = s ∨ x ∈ doc.descendants s := by
  rw [List.mem_flatten]
  constructor
  · rintro ⟨l, hl, hx⟩
    obtain ⟨s, hs, rfl⟩ := List.mem_map.mp hl
    rcases List.mem_append.mp hx with hSelf | hBelow
    · split at hSelf
      · rename_i hMark
        rw [List.mem_singleton.mp hSelf]
        exact ⟨hMark, s, hs, .inl rfl⟩
      · cases hSelf
    · obtain ⟨hxBelow, hMark⟩ := List.mem_filter.mp hBelow
      exact ⟨hMark, s, hs, .inr hxBelow⟩
  · rintro ⟨hMark, s, hs, rfl | hBelow⟩
    · exact ⟨_, List.mem_map.mpr ⟨x, hs, rfl⟩, by simp [hMark]⟩
    · exact ⟨_, List.mem_map.mpr ⟨s, hs, rfl⟩,
        List.mem_append_right _ (List.mem_filter.mpr ⟨hBelow, hMark⟩)⟩

/-- What the marker finds in a node set: the marks at or below its element members. -/
theorem select_desktopMarker (doc : Document) (ids : List (Option Nat)) :
    ∃ found, select doc (some [.css "body#gsr"]) (.nodes ids) = .ok found ∧
      ∀ x, x ∈ found ↔ doc.isDesktopMark x = true ∧
        ∃ s ∈ ids.filterMap id, doc.isElement s = true ∧
          (x = s ∨ x ∈ doc.descendants s) := by
  by_cases hGiven : (Target.nodes ids).isGiven = true
  · have hAlt : (Finder.css "body#gsr").alternative doc (.nodes ids) =
        .ok (firstOccurrences ((((ids.filterMap id).filter doc.isElement).map fun s =>
          (if doc.isDesktopMark s then [s] else []) ++
            (doc.descendants s).filter doc.isDesktopMark).flatten)) := by
      simp only [Finder.alternative]
      rw [mapM_eq_pure fun s hs => by
        rw [matchesSelf_desktopMarker doc (List.mem_filter.mp hs).2, matchesBelow_desktopMarker]
        rfl]
      rfl
    refine ⟨?found, ?select, fun x => ?_⟩
    case select =>
      rw [select_eq_firstNonEmpty (by simp [Finder.isAlternative]) hGiven, List.map_singleton,
        hAlt, firstNonEmpty_singleton]
    rw [mem_firstOccurrences, mem_flatten_self_below]
    simp only [List.mem_filter, and_assoc]
  · -- an empty node set is not searched, and has no member to search
    have hNil : ids = [] := by simpa [Target.isGiven] using hGiven
    subst hNil
    refine ⟨[], ?_, by simp⟩
    simp only [select, hGiven]
    rfl

/-- In a nested table whose parents are elements, every element is a top element or lies
below one: it lies in the range of a top node, and a top node that is text has nothing
below it. -/
theorem Document.exists_top_element {doc : Document} (hn : doc.Nested)
    (hpe : ∀ c p, doc.parent? c = some p → doc.isElement p = true) {n : Nat}
    (hElem : doc.isElement n = true) :
    ∃ s ∈ doc.roots.toList, doc.isElement s = true ∧ (n = s ∨ n ∈ doc.descendants s) := by
  obtain ⟨k, ⟨hk, hkTop⟩, hkn, hnk⟩ :=
    hn.exists_child_range (P := none) (Nat.zero_le n) (Document.lt_size_of_isElement hElem)
  have hRoot : k ∈ doc.roots.toList := (hn.mem_childrenOf (P := none)).mpr ⟨hk, hkTop⟩
  rcases Nat.eq_or_lt_of_le hkn with rfl | hlt
  · exact ⟨k, hRoot, hElem, .inl rfl⟩
  · have hkElem : doc.isElement k = true := by
      by_contra hText
      have hStop := Document.stop_of_not_isElement hn hpe hk (by simpa using hText)
      omega
    refine ⟨k, hRoot, hkElem, .inr ?_⟩
    simp only [Document.descendants, List.mem_range'_1]
    omega

/-- In a document read from markup, what is found at or below the top elements is nothing
exactly when the document looks like a mobile page. -/
theorem isEmpty_eq_looksMobile {doc : Document} (hn : doc.Nested)
    (hpe : ∀ c p, doc.parent? c = some p → doc.isElement p = true) {found : List Nat}
    (hMem : ∀ x, x ∈ found ↔ doc.isDesktopMark x = true ∧
      ∃ s ∈ doc.roots.toList, doc.isElement s = true ∧ (x = s ∨ x ∈ doc.descendants s)) :
    found.isEmpty = doc.looksMobile := by
  rw [Bool.eq_iff_iff, List.isEmpty_iff, List.eq_nil_iff_forall_not_mem,
    Document.looksMobile, List.all_eq_true]
  constructor
  · -- a mark lies at or below a top element, so the search would have found it
    intro hNone n _
    cases hMark : doc.isDesktopMark n
    · rfl
    · obtain ⟨s, hs, hsElem, hBelow⟩ :=
        Document.exists_top_element hn hpe (Document.isElement_of_isDesktopMark hMark)
      exact absurd ((hMem n).mpr ⟨hMark, s, hs, hsElem, hBelow⟩) (hNone n)
  · intro hAll x hx
    have hMark := ((hMem x).mp hx).1
    have hLt := Document.lt_size_of_isElement (Document.isElement_of_isDesktopMark hMark)
    simpa [hMark] using hAll x (List.mem_range.mpr hLt)

/-- The platform check with the marker `body#gsr` answers whether the page looks like a
mobile page: whether no node of it is the desktop mark. -/
theorem isMobileDocument_eq_looksMobile {p : Parser}
    (hMarker : p.config.platformMarker = .str "body#gsr") {html : String} {doc : Document}
    (hDoc : Document.parse html true = .ok doc) :
    p.isMobileDocument doc (.nodes (doc.roots.toList.map some)) = .ok doc.looksMobile := by
  have hRead : Document.ofMarkup html true = .ok doc := mapError_eq_ok.mp hDoc
  have hpe : ∀ c p, doc.parent? c = some p → doc.isElement p = true :=
    fun _ _ hp => Document.ofMarkup_parent_isElement hRead hp
  obtain ⟨found, hSelect, hMem⟩ := select_desktopMarker doc (doc.roots.toList.map some)
  have hTops : (doc.roots.toList.map some).filterMap id = doc.roots.toList := by
    simp [List.filterMap_map]
  simp only [hTops] at hMem
  rw [← isEmpty_eq_looksMobile (Document.ofMarkup_nested hRead) hpe hMem]
  simp [Parser.isMobileDocument, hMarker, Value.asQuery, selectOne, hSelect, bind, Except.bind,
    pure, Except.pure]
  cases found <;> rfl

/-- The parser of the default configuration starts from the default chains. -/
theorem Parser.build_default_chains {p : Parser} (h : Parser.build {} = .ok p) :
    p.chains = Chains.initial := by
  unfold Parser.build at h
  rw [ParserConfig.validate_default] at h
  obtain ⟨b, hb, h⟩ := bind_eq_ok.mp h
  cases hb
  obtain ⟨chains, hChains, h⟩ := bind_eq_ok.mp h
  cases hChains
  obtain ⟨features, -, h⟩ := bind_eq_ok.mp h
  obtain ⟨result, -, h⟩ := bind_eq_ok.mp h
  cases pure_eq_ok.mp h
  rfl

/-- The default parser reads every page. A page the HTML reader rejects is reported with the
reader's fault. On any other page, the platform asked for is compared with the page's, the
page looking like a mobile page exactly when no node of it is a `body` element whose `id` is
`gsr`: a different platform is reported as a mismatch. Otherwise the result count is looked
for in the first `div#result-stats` element at or below the `div#appbar` elements: when its
first run of digits is longer than `Markup.Reference.maxDecimalDigits` it cannot be read as a
number and stops the page, and in every other case the page's features are read without
fault. -/
theorem defaultParser_parse_outcome (html : String) (request : Request) :
    ∃ p, Parser.build {} = .ok p ∧
      match Document.parse html true with
      | .error e => p.parse html request = .error e
      | .ok doc =>
        (doc.looksMobile ≠ request.mobile →
          p.parse html request = .error (.platformMismatch request.mobile doc.looksMobile)) ∧
        (doc.looksMobile = request.mobile →
          ∃ bar el, select doc (some [.css "div#appbar"]) (.nodes (doc.roots.toList.map some)) =
              .ok bar ∧
            selectOne doc (some [.css "div#result-stats"]) (.nodes (bar.map some)) = .ok el ∧
            ((∀ ds ∈ Parser.countDigits doc el, ds.length ≤ Markup.Reference.maxDecimalDigits) →
              ∃ features, p.parse html request = .ok features) ∧
            (∀ ds ∈ Parser.countDigits doc el, Markup.Reference.maxDecimalDigits < ds.length →
              p.parse html request = .error .unusableValue)) := by
  obtain ⟨p, hBuild, hSound, hConfig⟩ := Parser.build_default
  have hMarker : p.config.platformMarker = .str "body#gsr" := by rw [hConfig]
  have hChains := Parser.build_default_chains hBuild
  have hOutcome := Parser.parse_outcome hSound html request
  refine ⟨p, hBuild, ?_⟩
  cases hDoc : Document.parse html true with
  | error e => simpa [hDoc] using hOutcome
  | ok doc =>
    simp only [hDoc] at hOutcome
    obtain ⟨mobile, hMobile, hMismatch, hSame⟩ := hOutcome
    rw [isMobileDocument_eq_looksMobile hMarker hDoc, Except.ok.injEq] at hMobile
    subst hMobile
    refine ⟨hMismatch, fun hPlatform => ?_⟩
    obtain ⟨bar, hBar, hRead, hStop⟩ := hSame hPlatform
    have hq : p.chains.query "total_results" = .ok [.css "div#result-stats"] := by
      rw [hChains]
      rfl
    obtain ⟨el, hEl⟩ := selectOne_returns
      (hSound.chains.query_safe (by simp [defaultChainTexts]) hq) (.nodes (bar.map some))
    have hCount := Parser.totalResults_eq hq hEl
    refine ⟨bar, el, by rw [← hBar, hChains]; rfl, hEl, fun hShort => hRead ?_,
      fun ds hds hLong => hStop _ ?_⟩
    · -- a count that has no digits, or few enough, is read
      rw [hCount]
      cases hDigits : Parser.countDigits doc el with
      | none => exact ⟨_, rfl⟩
      | some ds =>
        dsimp only
        rw [if_neg (Nat.not_lt.mpr (hShort ds hDigits))]
        exact ⟨_, rfl⟩
    · rw [hCount, Option.mem_def.mp hds]
      exact if_pos hLong

/-- A marked section opened with a keyword the HTML reader does not know is rejected, so the
default parser reports the reader's fault for it, whatever platform is asked for. -/
theorem defaultParser_rejects_unknown_marked_section :
    ∃ p, Parser.build {} = .ok p ∧
      p.parse "<![foo[x]]>" { mobile := true } = .error (.markup .rejected) := by
  have hCheck : (match Document.parse "<![foo[x]]>" true with
      | .error (.markup .rejected) => true
      | _ => false) = true := by decide +kernel
  have hDoc : Document.parse "<![foo[x]]>" true = .error (.markup .rejected) := by
    split at hCheck
    · assumption
    · cases hCheck
  obtain ⟨p, hBuild, hSound, -⟩ := Parser.build_default
  have hOutcome := Parser.parse_outcome hSound "<![foo[x]]>" { mobile := true }
  rw [hDoc] at hOutcome
  exact ⟨p, hBuild, hOutcome⟩

end SearchPage
