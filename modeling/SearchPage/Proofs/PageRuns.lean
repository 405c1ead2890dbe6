import SearchPage.Page.Parser
import SearchPage.Proofs.Total
import SearchPage.Proofs.PipeFields

/-!
# Reading a page without faults

Reading a page runs some thirty steps, and each could fail in principle: a chain may be
missing, a selector may not compile or may fail while it is matched, an extraction may meet
settings of the wrong kind, the date pattern may not compile, and a record whose column is
set must be a record whose `_meta` is a record. None of this happens for a parser whose
parts are sound (`Parser.Sound`): every chain the parser starts with is present and made of
safe selectors (`Chains.Safe`), the collaborators' queries are safe and their extractions
sound (`Collaborators.Sound`), the platform marker is a safe query, and the date pattern
compiles. Such a parser reads every page the HTML reader accepts: it reports a platform
mismatch exactly when the page's platform is not the one asked for, and gives the page's
features otherwise, unless the app bar's result count has more digits than a number can be
read from: that fault stops the page.

The page steps are shown to give what the column stage takes (`Value.isStepOutput`):
nothing, a record whose `_meta` is a record, or a list of such records and nothing.

## Main statements

* `Parser.column_returns`: setting the column of step outputs never fails.
* `Collaborators.build_sound`: collaborators built from safe chains are sound.
* `parseResult_returns`: reading one result never fails, and gives a record whose column
  can be set.
* `Parser.parse_outcome`: what a sound parser does with any page.
-/

namespace SearchPage

open Selector

/-! ## What the column stage takes -/

/-- Whether a value is a record whose column can be set: its `_meta`, when it has one, is a
record. -/
def Value.takesColumn : Value → Bool
  | .record fs => match fs.lookup "_meta" with
    | none | some (.record _) => true
    | some _ => false
  | _ => false

/-- Whether a value is something a page step may give: nothing, a record whose column can
be set, or a list of such records and nothing. -/
def Value.isStepOutput : Value → Bool
  | .null => true
  | .list xs => xs.all fun
    | .null => true
    | x => x.takesColumn
  | v => v.takesColumn

@[simp] theorem Value.isStepOutput_null : Value.null.isStepOutput = true := rfl

theorem Value.takesColumn_meta_cons (m rest : Record) :
    (Value.record (("_meta", .record m) :: rest)).takesColumn = true := by
  simp [Value.takesColumn]

/-- A feature record starts with its `_meta`. -/
theorem Value.takesColumn_feature (doc : Document) (type : String) (element : Option Nat)
    (rest : Record) :
    (Value.record (("_meta", featureMeta doc type element) :: rest)).takesColumn = true :=
  takesColumn_meta_cons [("type", .str type), ("start_index", startIndex doc element)] rest

theorem Value.isStepOutput_feature (doc : Document) (type : String) (element : Option Nat)
    (rest : Record) :
    (Value.record (("_meta", featureMeta doc type element) :: rest)).isStepOutput = true :=
  takesColumn_feature doc type element rest

theorem Value.isStepOutput_list {xs : List Value} (h : ∀ x ∈ xs, x.takesColumn = true) :
    (Value.list xs).isStepOutput = true := by
  simp only [Value.isStepOutput, List.all_eq_true]
  intro x hx
  cases x with
  | null => rfl
  | _ => exact h _ hx

theorem setColumn_ok {record : Value} (h : record.takesColumn = true) (column : Value) :
    ∃ r, setColumn record column = .ok r := by
  cases record with
  | record fs =>
    cases hm : fs.lookup "_meta" with
    | none => exact ⟨_, by simp only [setColumn, hm]; rfl⟩
    | some m =>
      cases m with
      | record old => exact ⟨_, by simp only [setColumn, hm]; rfl⟩
      | _ => simp [Value.takesColumn, hm] at h
  | _ => simp [Value.takesColumn] at h

/-- Collecting step outputs keeps only records whose column can be set. -/
theorem takesColumn_of_mem_collect {outputs : List Value}
    (h : ∀ v ∈ outputs, v.isStepOutput = true) :
    ∀ r ∈ collect outputs, r.takesColumn = true := by
  fun_induction collect outputs with
  | case1 => simp
  | case2 rest ih => exact ih fun v hv => h v (List.mem_cons_of_mem _ hv)
  | case3 xs rest ih =>
    intro r hr
    rcases List.mem_append.mp hr with hr | hr
    · -- a member of a list output that is not nothing
      obtain ⟨hx, hNotNull⟩ := List.mem_filter.mp hr
      have hAll := List.all_eq_true.mp (h (.list xs) List.mem_cons_self) r hx
      cases r with
      | null => cases hNotNull
      | _ => exact hAll
    · exact ih (fun v hv => h v (List.mem_cons_of_mem _ hv)) r hr
  | case4 v rest hNull hList ih =>
    intro r hr
    rcases List.mem_cons.mp hr with rfl | hr
    · have hv := h r List.mem_cons_self
      cases r with
      | null => exact absurd rfl hNull
      | list xs => exact absurd rfl (hList xs)
      | _ => exact hv
    · exact ih (fun v hv => h v (List.mem_cons_of_mem _ hv)) r hr

/-- The records of a column are set without fault when every step gave what the column
stage takes. -/
theorem Parser.column_returns {outputs : List Value} (h : ∀ v ∈ outputs, v.isStepOutput = true)
    (n : Int) : ∃ rs, Parser.column outputs n = .ok rs := by
  unfold Parser.column
  refine (returns_mapM (P := fun _ => True) fun r hr => ?_).ok
  obtain ⟨r', hr'⟩ := setColumn_ok (takesColumn_of_mem_collect h r hr) (.int n)
  exact ⟨r', hr', trivial⟩

/-! ## Safe chains and sound collaborators -/

/-- Every chain the parser starts with is present, and is a query of CSS selectors that
compile and whose matching cannot fail. -/
def Chains.Safe (chains : Chains) : Prop :=
  ∀ name ∈ defaultChainTexts.map Prod.fst, Returns (chains.query name) (isSafeQuery · = true)

theorem Chains.Safe.selectBy_returns {chains : Chains} (hc : chains.Safe) {name : String}
    (hName : name ∈ defaultChainTexts.map Prod.fst) (doc : Document) (target : Target) :
    Returns (selectBy doc chains name target) fun _ => True :=
  (hc name hName).bind fun _ hq => Returns.of_ok (select_returns hq target)

/-- A default chain of safe chains is a safe query. -/
theorem Chains.Safe.query_safe {chains : Chains} (hc : chains.Safe) {name : String}
    (hName : name ∈ defaultChainTexts.map Prod.fst) {q : Query} (hq : chains.query name = .ok q) :
    isSafeQuery q = true := by
  obtain ⟨q', hq', hSafe⟩ := hc name hName
  rw [hq] at hq'
  cases hq'
  exact hSafe

namespace Collaborators

/-- Collaborators whose queries are safe and whose extractions are sound. -/
structure Sound (c : Collaborators) : Prop where
  answerBox : isSafeQuery c.answerBox = true
  answerBoxText : c.answerBoxText.Sound
  answerBoxUrl : c.answerBoxUrl.Sound
  questions : c.questions.Sound
  ads : isSafeQuery c.ads = true
  adFields : c.adFields.Sound
  /-- The fields of an ad are read from the ad itself, as one record. -/
  adRecord : ∃ s fs, s.query = none ∧ c.adFields = .mk s (some fs) none
  panel : isSafeQuery c.panel = true
  panelFields : c.panelFields.Sound
  panelEntry : isSafeQuery c.panelEntry = true

end Collaborators

theorem textExtraction_sound {q : Query} (hq : isSafeQuery q = true) (separator : String)
    (shallow : Bool) : (textExtraction q separator shallow).Sound :=
  .plain (fun _ hq' => Option.mem_some_iff.mp hq' ▸ hq) (.inl ⟨"text", rfl⟩)
    ⟨separator, rfl⟩

theorem attrExtraction_sound {query : Option Query} (hq : ∀ q ∈ query, isSafeQuery q = true)
    (name : String) : (attrExtraction name query).Sound :=
  .plain hq (.inl ⟨name, rfl⟩) ⟨", ", rfl⟩

theorem recordExtraction_sound {query : Option Query} (hq : ∀ q ∈ query, isSafeQuery q = true)
    {fields : List (String × Extraction)} (hFields : ∀ kv ∈ fields, kv.2.Sound) :
    (recordExtraction query fields).Sound := by
  refine .fields hq fun kv hkv e he => ?_
  obtain ⟨⟨k, e'⟩, hMem, rfl⟩ := List.mem_map.mp hkv
  cases Option.mem_some_iff.mp he
  exact hFields _ hMem

/-- The text of a question is read without fault when its extraction is sound. -/
theorem questionText_returns {question : Extraction} (hq : question.Sound) (doc : Document)
    (target : Target) (s : Settings) : ∃ r, questionText question doc target s = .ok r := by
  unfold questionText
  split
  · exact ⟨_, rfl⟩
  · exact Extraction.apply_returns doc question target hq

/-- Collaborators built from safe chains are built without fault, and are sound. -/
theorem Collaborators.build_sound {chains : Chains} (hc : chains.Safe) :
    Returns (Collaborators.build chains) Collaborators.Sound := by
  unfold Collaborators.build
  refine (hc "answer_box" (by simp [defaultChainTexts])).bind fun _ hBox => ?_
  refine (hc "answer_box_text" (by simp [defaultChainTexts])).bind fun _ hBoxText => ?_
  refine (hc "answer_box_url" (by simp [defaultChainTexts])).bind fun _ hBoxUrl => ?_
  refine (hc "people_also_ask_question" (by simp [defaultChainTexts])).bind fun _ hQuestion => ?_
  refine (hc "people_also_ask" (by simp [defaultChainTexts])).bind fun _ hAsk => ?_
  refine (hc "ads" (by simp [defaultChainTexts])).bind fun _ hAds => ?_
  refine (hc "ad_title" (by simp [defaultChainTexts])).bind fun _ hAdTitle => ?_
  refine (hc "ad_url" (by simp [defaultChainTexts])).bind fun _ hAdUrl => ?_
  refine (hc "ad_description" (by simp [defaultChainTexts])).bind fun _ hAdText => ?_
  refine (hc "knowledge_panel" (by simp [defaultChainTexts])).bind fun _ hPanel => ?_
  refine (hc "knowledge_panel_title" (by simp [defaultChainTexts])).bind fun _ hTitle => ?_
  refine (hc "knowledge_panel_subtitle" (by simp [defaultChainTexts])).bind fun _ hSub => ?_
  refine (hc "knowledge_panel_description" (by simp [defaultChainTexts])).bind fun _ hText => ?_
  refine (hc "knowledge_panel_entry" (by simp [defaultChainTexts])).bind fun _ hEntry => ?_
  refine returns_pure ⟨hBox, textExtraction_sound hBoxText _ _,
    attrExtraction_sound (by simpa using hBoxUrl) _, ?_, hAds, ?_, ⟨_, _, rfl, rfl⟩, hPanel, ?_,
    hEntry⟩
  · -- one record per question, its text read by a process that cannot fail
    refine .fields (by simpa using hAsk) fun kv hkv e he => ?_
    simp only [List.mem_cons, List.not_mem_nil, or_false] at hkv
    subst hkv
    cases Option.mem_some_iff.mp he
    exact .process fun doc target =>
      questionText_returns (textExtraction_sound hQuestion _ _) doc target {}
  · refine recordExtraction_sound (by simp) fun kv hkv => ?_
    simp only [List.mem_cons, List.not_mem_nil, or_false] at hkv
    rcases hkv with rfl | rfl | rfl
    · exact textExtraction_sound hAdTitle _ _
    · exact attrExtraction_sound (by simpa using hAdUrl) _
    · exact textExtraction_sound hAdText _ _
  · refine recordExtraction_sound (by simpa using hPanel) fun kv hkv => ?_
    simp only [List.mem_cons, List.not_mem_nil, or_false] at hkv
    rcases hkv with rfl | rfl | rfl
    · exact textExtraction_sound hTitle _ _
    · exact textExtraction_sound hSub _ _
    · exact textExtraction_sound hText _ _

/-! ## Segmenting the result column -/

section Segment

variable {doc : Document} {chains : Chains} (hc : chains.Safe)
include hc

theorem containersOf_returns {isPanel : PanelCheck} (hPanel : ∀ ids, ∃ b, isPanel ids = .ok b)
    (target : Target) : Returns (containersOf doc chains isPanel target) fun _ => True := by
  unfold containersOf
  refine (hc.selectBy_returns (by simp [defaultChainTexts]) doc target).bind fun cs _ => ?_
  refine (returns_allM fun c _ => hPanel [c]).bind fun _ _ => ?_
  split
  · refine (returns_flatMapM (P := fun _ => True) fun c _ => ?_).mono fun _ _ => trivial
    exact (hc.selectBy_returns (by simp [defaultChainTexts]) doc (.node c)).bind
      fun _ _ => returns_pure (by simp)
  · exact returns_pure trivial

theorem siteLinkResults_returns (container : Nat) :
    Returns (siteLinkResults doc chains container) fun _ => True := by
  unfold siteLinkResults
  refine (hc.selectBy_returns (by simp [defaultChainTexts]) doc _).bind fun _ _ => ?_
  refine (returns_filterM fun e _ => ?_).mono fun _ _ => trivial
  exact ((hc.selectBy_returns (by simp [defaultChainTexts]) doc _).bind fun _ _ =>
    (hc.selectBy_returns (by simp [defaultChainTexts]) doc _).bind fun _ _ =>
      returns_pure (P := fun _ => True) trivial).ok

theorem resultsIn_returns (mobile : Bool) (container : Nat) :
    Returns (resultsIn doc chains mobile container) fun _ => True := by
  unfold resultsIn
  split
  · exact hc.selectBy_returns (by simp [defaultChainTexts]) doc _
  · exact (hc.selectBy_returns (by simp [defaultChainTexts]) doc _).bind fun _ _ =>
      (siteLinkResults_returns hc container).bind fun _ _ => returns_pure trivial

/-- Segmenting never fails when the panel check never does. -/
theorem segment_returns {isPanel : PanelCheck} (hPanel : ∀ ids, ∃ b, isPanel ids = .ok b)
    (mobile : Bool) (target : Target) :
    Returns (segment doc chains isPanel mobile target) fun _ => True := by
  unfold segment
  refine (containersOf_returns hc hPanel target).bind fun _ _ => ?_
  refine (returns_flatMapM (P := fun _ => True) fun c _ => ?_).bind fun _ _ => returns_pure trivial
  exact (resultsIn_returns hc mobile c).map fun _ _ => by simp

end Segment

/-! ## The feature collaborators -/

namespace Collaborators

variable {c : Collaborators} (hf : c.Sound) (doc : Document) (target : Target)
include hf

theorem isPanelEntry_returns : Returns (c.isPanelEntry doc target) fun _ => True :=
  (Returns.of_ok (select_returns hf.panelEntry _)).bind fun _ _ => returns_pure trivial

theorem answerBoxOf_returns : Returns (c.answerBoxOf doc target) fun _ => True := by
  unfold answerBoxOf
  refine (Returns.of_ok (selectOne_returns hf.answerBox target)).bind fun box _ => ?_
  split
  · refine (Returns.of_ok (Extraction.apply_returns doc _ _ hf.answerBoxText)).bind fun _ _ => ?_
    refine (Returns.of_ok (Extraction.apply_returns doc _ _ hf.answerBoxUrl)).bind fun _ _ => ?_
    split <;> exact returns_pure trivial
  · exact returns_pure trivial

theorem questionsOf_returns : Returns (c.questionsOf doc target) fun _ => True :=
  (Returns.of_ok (Extraction.apply_returns doc _ target hf.questions)).bind fun _ _ =>
    returns_pure trivial

/-- The fields of every ad are one record, so unpacking them never fails. -/
theorem adFields_one (el : Nat) :
    ∃ row, c.adFields.apply doc (.node el) = .ok (.records [row]) := by
  obtain ⟨s, fs, hq, hAd⟩ := hf.adRecord
  have hSound := hf.adFields
  rw [hAd] at hSound ⊢
  cases hSound with
  | fields _ hFields => exact Extraction.apply_fields_node_returns doc hq hFields el

/-- The ads are records, each starting with its `_meta`. -/
theorem adsOf_returns : Returns (c.adsOf doc target) (·.isStepOutput = true) := by
  unfold adsOf
  refine (Returns.of_ok (select_returns hf.ads target)).bind fun found _ => ?_
  refine (returns_filterMapM (P := (·.takesColumn = true)) fun ek _ => ?ad).bind
    fun ads hAds => returns_pure ?list
  case list =>
    split
    · rfl
    · exact Value.isStepOutput_list hAds
  case ad =>
    obtain ⟨el, k⟩ := ek
    obtain ⟨row, hRow⟩ := adFields_one hf doc el
    refine (returns_of_eq hRow).bind fun r hr => ?_
    subst hr
    dsimp only
    simp only [pure_bind]
    -- whatever the fields, the ad is nothing or a record starting with its `_meta`
    split
    · exact returns_pure (by simp)
    · refine returns_pure fun y hy => ?_
      cases Option.mem_some_iff.mp hy
      exact Value.takesColumn_feature doc "ad" (some el) _

/-- The knowledge panel is nothing or a record starting with its `_meta`. -/
theorem panelOf_returns : Returns (c.panelOf doc target) (·.isStepOutput = true) := by
  unfold panelOf
  refine (Returns.of_ok (Extraction.apply_returns doc _ target hf.panelFields)).bind
    fun r _ => ?_
  split
  · split
    · exact returns_pure rfl
    · exact (Returns.of_ok (selectOne_returns hf.panel target)).bind fun _ _ =>
        returns_pure (Value.isStepOutput_feature _ _ _ _)
  · exact returns_pure rfl

end Collaborators

/-! ## One result -/

/-- The date pattern is text that compiles. -/
def ResultSettings.DateCompiles (result : ResultSettings) : Prop :=
  ∃ pat r, result.datePattern = .str pat ∧ Pattern.compile pat = .ok r

theorem ResultSettings.dateIn_returns {result : ResultSettings} (hd : result.DateCompiles)
    (t : Option String) : Returns (result.dateIn (Value.ofText t)) fun _ => True := by
  obtain ⟨pat, r, hPat, hCompile⟩ := hd
  cases t with
  | none => exact returns_pure trivial
  | some t =>
    obtain ⟨found, hFound⟩ : ∃ found, Pattern.searchText pat t = .ok found :=
      ⟨_, by rw [Pattern.searchText, hCompile]; rfl⟩
    simp only [Value.ofText, ResultSettings.dateIn, hPat, hFound]
    exact returns_pure trivial

section Result

variable {doc : Document} {chains : Chains} (hc : chains.Safe)
include hc

theorem descriptionOf_returns (target : Target) :
    Returns (descriptionOf doc chains target) fun _ => True := by
  unfold descriptionOf
  refine (hc "description" (by simp [defaultChainTexts])).bind fun _ hq => ?_
  refine (Returns.of_ok (selectOne_returns hq target)).bind fun el _ => ?_
  split
  · exact returns_pure trivial
  · -- the prefix is looked for below the description, and asked for even without one
    dsimp only
    split
    · refine (hc "description_prefix" (by simp [defaultChainTexts])).bind fun _ hq' => ?_
      refine (Returns.of_ok (selectOne_returns hq' _)).bind fun _ _ => ?_
      split <;> exact returns_pure trivial
    · refine (hc "description_prefix" (by simp [defaultChainTexts])).bind fun _ _ => ?_
      simp only [pure_bind]
      split <;> exact returns_pure trivial

theorem urlOf_returns (featureUrl : Value) (target : Target) :
    Returns (urlOf doc chains featureUrl target) fun _ => True := by
  unfold urlOf
  refine (hc "url" (by simp [defaultChainTexts])).bind fun _ hq => ?_
  exact (Returns.of_ok (Extraction.apply_returns doc _ target
    (attrExtraction_sound (by simpa using hq) _))).bind fun _ _ => returns_pure trivial

theorem isAmpOf_returns (target : Target) : Returns (isAmpOf doc chains target) fun _ => True := by
  unfold isAmpOf
  refine (hc "amp_link" (by simp [defaultChainTexts])).bind fun _ hq => ?_
  exact (Returns.of_ok (Extraction.apply_returns doc _ target
    (attrExtraction_sound (by simpa using hq) _))).bind fun _ _ => returns_pure trivial

theorem titleOf_returns (mobile : Bool) (target : Target) :
    Returns (titleOf doc chains mobile target) fun _ => True := by
  unfold titleOf
  refine (hc _ (by cases mobile <;> simp [defaultChainTexts])).bind fun _ hq => ?_
  exact (Returns.of_ok (selectOne_returns hq target)).bind fun _ _ => returns_pure trivial

/-- Reading one result never fails, and a result read is a record whose column can be set. -/
theorem parseResult_returns {result : ResultSettings} {features : Collaborators}
    (hf : features.Sound) (hd : result.DateCompiles) (request : Request) (element : Nat) :
    Returns (parseResult doc chains result features request element)
      fun o => ∀ r ∈ o, (Value.record r).takesColumn = true := by
  rw [parseResult_eq]
  refine (descriptionOf_returns hc _).bind fun ⟨description, lead⟩ _ => ?_
  refine (features.isPanelEntry_returns hf doc _).bind fun isCard _ => ?_
  dsimp only
  refine (Returns.ite (P := fun _ => True) (fun _ => returns_pure trivial)
    (fun _ => urlOf_returns hc _ _)).bind fun url _ => ?_
  refine (titleOf_returns hc _ _).bind fun title _ => ?_
  refine (result.dateIn_returns hd _).bind fun date _ => ?_
  refine (isAmpOf_returns hc _).bind fun amp _ => ?_
  refine (features.answerBoxOf_returns hf doc _).bind fun answerBox _ => ?_
  refine (features.questionsOf_returns hf doc _).bind fun questions _ => ?_
  refine (hc.selectBy_returns (by simp [defaultChainTexts]) doc _).bind fun thumb _ => ?_
  refine (hc.selectBy_returns (by simp [defaultChainTexts]) doc _).bind fun video _ => ?_
  refine Returns.ite (fun _ => returns_pure (by simp)) (fun _ => returns_pure ?_)
  simp [Value.takesColumn, List.lookup_cons]

end Result

/-! ## A sound parser -/

/-- A parser whose every part is sound: its chains are safe, its collaborators sound, its
platform marker a safe query, and its date pattern text that compiles. -/
structure Parser.Sound (p : Parser) : Prop where
  chains : p.chains.Safe
  features : p.features.Sound
  marker : Returns p.config.platformMarker.asQuery (isSafeQuery · = true)
  datePattern : p.result.DateCompiles

namespace Parser

/-- The count step gives what the column stage takes whenever it gives anything: nothing, or
a feature record. -/
theorem totalResults_isStepOutput {p : Parser} (doc : Document) {target : Target} {v : Value}
    (h : p.totalResults doc target = .ok v) : v.isStepOutput = true := by
  unfold totalResults at h
  obtain ⟨q, -, h⟩ := bind_eq_ok.mp h
  obtain ⟨el, -, h⟩ := bind_eq_ok.mp h
  split at h
  · cases pure_eq_ok.mp h
    rfl
  · -- a count too long to be read gives no value at all
    split at h
    · cases h
    · cases pure_eq_ok.mp h
      exact Value.isStepOutput_feature _ _ _ _

/-- The count step once its chain is looked up and its element found: nothing when the text
has no digit, a fault when its first run of digits is too long to be read as a number, and
otherwise the record of the number that run writes. -/
theorem totalResults_eq {p : Parser} {doc : Document} {target : Target} {q : Query}
    {el : Option Nat} (hq : p.chains.query "total_results" = .ok q)
    (hEl : selectOne doc (some q) target = .ok el) :
    p.totalResults doc target =
      match countDigits doc el with
      | none => .ok .null
      | some ds =>
        if Markup.Reference.maxDecimalDigits < ds.length then .error .unusableValue
        else
          let n := Text.decimalValue ds
          .ok (.record [("_meta", featureMeta doc "total_search_results" el),
            ("value", if n == 0 then .null else .int n)]) := by
  simp only [Parser.totalResults, hq, hEl, bind, Except.bind]
  cases countDigits doc el with
  | none => rfl
  | some ds =>
    dsimp only
    by_cases hLong : Markup.Reference.maxDecimalDigits < ds.length
    · rw [if_pos hLong, if_pos hLong]
      rfl
    · rw [if_neg hLong, if_neg hLong]
      rfl

section Steps

variable {p : Parser} (hp : p.Sound) (doc : Document)
include hp

theorem isMobileDocument_returns (target : Target) :
    Returns (p.isMobileDocument doc target) fun _ => True :=
  hp.marker.bind fun _ hq =>
    (Returns.of_ok (selectOne_returns hq target)).bind fun _ _ => returns_pure trivial

theorem invalidSearch_returns (target : Target) :
    Returns (p.invalidSearch doc target) (·.isStepOutput = true) := by
  unfold invalidSearch
  refine (hp.chains.selectBy_returns (by simp [defaultChainTexts]) doc target).bind
    fun _ _ => returns_pure ?_
  split
  · exact Value.isStepOutput_feature _ _ _ _
  · rfl

theorem suggestion_returns {chain : String} (hName : chain ∈ defaultChainTexts.map Prod.fst)
    (type : String) (target : Target) :
    Returns (p.suggestion doc chain type target) (·.isStepOutput = true) := by
  unfold suggestion
  refine (hp.chains chain hName).bind fun _ hq => ?_
  refine (Returns.of_ok (selectOne_returns hq target)).bind fun _ _ => ?_
  split
  · exact returns_pure (Value.isStepOutput_feature _ _ _ _)
  · exact returns_pure rfl

theorem autoCorrect_returns (target : Target) :
    Returns (p.autoCorrect doc target) (·.isStepOutput = true) :=
  suggestion_returns hp doc (by simp [defaultChainTexts]) _ target

theorem didYouMean_returns (target : Target) :
    Returns (p.didYouMean doc target) (·.isStepOutput = true) :=
  suggestion_returns hp doc (by simp [defaultChainTexts]) _ target

/-- The related searches are nothing or one feature record. -/
theorem relatedSearches_returns (target : Target) :
    Returns (p.relatedSearches doc target) fun v => v = .null ∨ v.takesColumn = true := by
  unfold relatedSearches
  refine (hp.chains.selectBy_returns (by simp [defaultChainTexts]) doc target).bind
    fun _ _ => ?_
  split
  · exact returns_pure (.inl rfl)
  · exact returns_pure (.inr (Value.takesColumn_feature _ _ _ _))

theorem bottomExtras_returns (target : Target) :
    Returns (p.bottomExtras doc target) (·.isStepOutput = true) := by
  unfold bottomExtras
  refine (hp.chains.selectBy_returns (by simp [defaultChainTexts]) doc target).bind
    fun _ _ => ?_
  refine (relatedSearches_returns hp doc _).bind fun v hv => returns_pure ?_
  rcases hv with rfl | hv
  · rfl
  · exact Value.isStepOutput_list fun x hx => by
      rw [List.mem_singleton.mp hx]
      exact hv

/-- The organic results are records whose column can be set. -/
theorem searchResults_returns (request : Request) (target : Target) :
    Returns (p.searchResults doc request target) (·.isStepOutput = true) := by
  unfold searchResults
  dsimp only
  refine (segment_returns hp.chains
    (fun _ => (p.features.isPanelEntry_returns hp.features doc _).ok) request.mobile target).bind
    fun _ _ => ?_
  refine (returns_filterMapM (P := fun r => (Value.record r).takesColumn = true)
    fun e _ => ?result).bind fun results hResults => returns_pure ?list
  case result => exact parseResult_returns hp.chains hp.features hp.datePattern request e
  case list =>
    refine Value.isStepOutput_list fun x hx => ?_
    obtain ⟨r, hr, rfl⟩ := List.mem_map.mp hx
    exact hResults r hr

/-- The app bar is read exactly when its count is: a count that cannot be read stops it with
the count's fault. -/
theorem appBar_outcome (target : Target) :
    ∃ bar, selectBy doc p.chains "app_bar" target = .ok bar ∧
      ((∃ v, p.totalResults doc (.nodes (bar.map some)) = .ok v) →
        ∃ records, p.appBar doc target = .ok records) ∧
      (∀ e, p.totalResults doc (.nodes (bar.map some)) = .error e →
        p.appBar doc target = .error e) := by
  obtain ⟨bar, hBar, -⟩ : Returns (selectBy doc p.chains "app_bar" target) fun _ => True :=
    hp.chains.selectBy_returns (by simp [defaultChainTexts]) doc target
  refine ⟨bar, hBar, fun ⟨v, hv⟩ => ?_, fun e he => ?_⟩
  · have hOutput : ∀ w ∈ [v], w.isStepOutput = true := by
      intro w hw
      rw [List.mem_singleton.mp hw]
      exact totalResults_isStepOutput doc hv
    obtain ⟨records, hRecords⟩ := column_returns hOutput (-1)
    exact ⟨records, by simp only [appBar, hBar, hv, bind, Except.bind]; exact hRecords⟩
  · simp only [appBar, hBar, he, bind, Except.bind]

theorem columnOne_returns (request : Request) (target : Target) :
    Returns (p.columnOne doc request target) fun _ => True := by
  unfold columnOne
  refine (hp.chains.selectBy_returns (by simp [defaultChainTexts]) doc target).bind
    fun _ _ => ?_
  refine (invalidSearch_returns hp doc _).bind fun _ hInvalid => ?_
  refine (autoCorrect_returns hp doc _).bind fun _ hCorrected => ?_
  refine (didYouMean_returns hp doc _).bind fun _ hMeant => ?_
  refine (p.features.adsOf_returns hp.features doc _).bind fun _ hAds => ?_
  refine (p.features.panelOf_returns hp.features doc _).bind fun _ hPanel => ?_
  refine (searchResults_returns hp doc request _).bind fun _ hResults => ?_
  refine (bottomExtras_returns hp doc _).bind fun _ hBottom => ?_
  refine Returns.of_ok (column_returns ?_ _)
  simp [hInvalid, hCorrected, hMeant, hAds, hPanel, hResults, hBottom]

theorem columnTwo_returns (target : Target) : Returns (p.columnTwo doc target) fun _ => True := by
  unfold columnTwo
  refine (hp.chains.selectBy_returns (by simp [defaultChainTexts]) doc target).bind
    fun _ _ => ?_
  refine (p.features.panelOf_returns hp.features doc _).bind fun _ hPanel => ?_
  exact Returns.of_ok (column_returns (by simp [hPanel]) _)

end Steps

/-- What a sound parser does with a page: a page the HTML reader rejects is reported with
the reader's fault; on any other page the platform is found without fault, a platform other
than the one asked for is reported as a mismatch, and otherwise the page's features are read,
unless the app bar's count cannot be read: its fault is then the page's. -/
theorem parse_outcome {p : Parser} (hp : p.Sound) (html : String) (request : Request) :
    match Document.parse html true with
    | .error e => p.parse html request = .error e
    | .ok doc =>
      ∃ mobile, p.isMobileDocument doc (.nodes (doc.roots.toList.map some)) = .ok mobile ∧
        (mobile ≠ request.mobile →
          p.parse html request = .error (.platformMismatch request.mobile mobile)) ∧
        (mobile = request.mobile →
          ∃ bar, selectBy doc p.chains "app_bar" (.nodes (doc.roots.toList.map some)) = .ok bar ∧
            ((∃ v, p.totalResults doc (.nodes (bar.map some)) = .ok v) →
              ∃ features, p.parse html request = .ok features) ∧
            (∀ e, p.totalResults doc (.nodes (bar.map some)) = .error e →
              p.parse html request = .error e)) := by
  cases hDoc : Document.parse html true with
  | error e => simp [Parser.parse, hDoc, bind, Except.bind]
  | ok doc =>
    obtain ⟨mobile, hMobile, -⟩ :=
      isMobileDocument_returns hp doc (.nodes (doc.roots.toList.map some))
    refine ⟨mobile, hMobile, fun hMismatch => ?_, fun hSame => ?_⟩
    · simp [Parser.parse, hDoc, hMobile, hMismatch, bind, Except.bind]
      rfl
    · obtain ⟨bar, hBar, hRead, hFault⟩ :=
        appBar_outcome hp doc (.nodes (doc.roots.toList.map some))
      refine ⟨bar, hBar, fun hCount => ?_, fun e he => ?_⟩
      · -- the app bar is read, and the columns after it are read without fault
        obtain ⟨records, hRecords⟩ := hRead hCount
        obtain ⟨one, hOne, -⟩ :=
          columnOne_returns hp doc request (.nodes (doc.roots.toList.map some))
        obtain ⟨two, hTwo, -⟩ := columnTwo_returns hp doc (.nodes (doc.roots.toList.map some))
        exact ⟨records ++ one ++ two, by
          simp [Parser.parse, hDoc, hMobile, hSame, hRecords, hOne, hTwo, bind, Except.bind,
            pure, Except.pure]⟩
      · simp [Parser.parse, hDoc, hMobile, hSame, hFault e he, bind, Except.bind]

end Parser

end SearchPage
