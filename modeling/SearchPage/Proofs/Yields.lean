import SearchPage.Extract.Apply
import SearchPage.Document.Build
import SearchPage.Proofs.Outcomes

/-!
# What an extraction yields

An extraction with no process, at any depth, yields what its kind says, or nothing: text or
an attribute gives non-empty text, nodes give a non-empty list of nodes, and fields give a
non-empty list of records, one per node found, each with the fields' keys in order. Nothing
found is always `Extracted.missing`; no extraction yields empty text or an empty list.

The relation `Extraction.Yields` states this shape by kind, with `Extraction.RowYields` for
the records of fields; both follow the extraction tree, so the proof follows `apply` and
`applyFields` through their mutual recursion.

## Main statements

* `Settings.finish_yields`: the nodes found become a value of the kind's shape.
* `Extraction.RowYields.keys`: a record has its fields' keys, in order.
* `Extraction.apply_yields`: every extraction without a process yields a value of its
  kind's shape, or nothing.
-/

namespace SearchPage

namespace Extraction

/-- An extraction with no process, neither its own nor that of a field at any depth. -/
inductive ProcessFree : Extraction → Prop
  | mk (s : Settings) (fields : Option (List (String × Option Extraction)))
      (hFields : ∀ fs ∈ fields, ∀ kv ∈ fs, ∀ e ∈ kv.2, ProcessFree e) :
      ProcessFree (.mk s fields none)

mutual

/-- What an extraction may yield: nothing, or by its kind non-empty text (text and
attributes), a non-empty list of nodes (nodes), or a non-empty list of records of its fields
(fields). -/
inductive Yields : Extraction → Extracted → Prop
  | missing {e : Extraction} : Yields e Extracted.missing
  | text {e : Extraction} {s : String} (hKind : e.kind = .text) (hs : s ≠ "") :
      Yields e (.value (.str s))
  | attr {e : Extraction} {s : String} (hKind : e.kind = .attribute) (hs : s ≠ "") :
      Yields e (.value (.str s))
  | nodes {e : Extraction} {ids : List Nat} (hKind : e.kind = .nodes) (hIds : ids ≠ []) :
      Yields e (.nodes ids)
  | records {s : Settings} {fs : List (String × Option Extraction)}
      {rows : List (List (String × Extracted))} (hRows : rows ≠ [])
      (hEach : ∀ row ∈ rows, RowYields fs row) : Yields (.mk s (some fs) none) (.records rows)

/-- What the fields of an extraction may yield for one node: each key in order, with nothing
for a missing extraction and what the field's extraction may yield otherwise. -/
inductive RowYields : List (String × Option Extraction) → List (String × Extracted) → Prop
  | nil : RowYields [] []
  | absent {k : String} {rest : List (String × Option Extraction)}
      {row : List (String × Extracted)} (hRest : RowYields rest row) :
      RowYields ((k, none) :: rest) ((k, Extracted.missing) :: row)
  | present {k : String} {e : Extraction} {v : Extracted}
      {rest : List (String × Option Extraction)} {row : List (String × Extracted)}
      (hv : Yields e v) (hRest : RowYields rest row) :
      RowYields ((k, some e) :: rest) ((k, v) :: row)

end

/-- A record has the keys of its fields, in order. -/
theorem RowYields.keys : ∀ {fs : List (String × Option Extraction)}
    {row : List (String × Extracted)}, RowYields fs row → row.map Prod.fst = fs.map Prod.fst
  | _, _, .nil => rfl
  | _, _, .absent hRest => by rw [List.map_cons, List.map_cons, hRest.keys]
  | _, _, .present _ hRest => by rw [List.map_cons, List.map_cons, hRest.keys]

/-! ## The kind of an extraction without fields -/

section kinds

variable {s : Settings}

theorem kind_of_text (h : s.attrName = .str "text") : (Extraction.mk s none none).kind = .text := by
  simp [kind, h]

theorem kind_of_set (hText : s.attrName = .str "text" → False) (hSet : s.attrName.isSet = true) :
    (Extraction.mk s none none).kind = .attribute := by
  unfold kind
  -- the text alternative is ruled out by `hText`, which `simp` uses to pick the other one
  simp only [Option.isSome_none, Bool.false_eq_true, if_false]
  rw [if_pos hSet]

theorem kind_of_unset (hText : s.attrName = .str "text" → False)
    (hSet : ¬ s.attrName.isSet = true) : (Extraction.mk s none none).kind = .nodes := by
  unfold kind
  simp only [Option.isSome_none, Bool.false_eq_true, if_false]
  rw [if_neg hSet]

end kinds

/-- Text that is never empty yields non-empty text, or nothing. -/
theorem yields_ofText {e : Extraction} {t : Option String}
    (hKind : e.kind = .text ∨ e.kind = .attribute) (ht : t ≠ some "") : e.Yields (.value (Value.ofText t)) := by
  cases t with
  | none => exact .missing
  | some str =>
    have hStr : str ≠ "" := fun h => ht (h ▸ rfl)
    rcases hKind with hKind | hKind
    · exact .text hKind hStr
    · exact .attr hKind hStr

end Extraction

/-! ## The primitives never yield empty text -/

theorem getTextWith_ne_some_empty {doc : Document} {o : TextOptions} {separator : Option String}
    {target : Target} {t : Option String} (h : getTextWith doc o separator target = .ok t) :
    t ≠ some "" := by
  unfold getTextWith at h
  split at h
  · rw [pure_eq_ok] at h
    rw [← h]
    exact getText_ne_some_empty _ _ _
  · split at h
    · cases h
    · rw [pure_eq_ok] at h
      rw [← h]
      exact getText_ne_some_empty _ _ _

theorem getAttribute_ne_some_empty (doc : Document) (key : Option String) (target : Target) :
    getAttribute doc key target ≠ some "" := by
  unfold getAttribute
  split
  · split
    · simp
    · cases doc.attr? _ _ with
      | none => simp
      | some v => exact nonEmpty_ne_some_empty v
  · simp

/-- Without fields, the nodes found become text, an attribute or the nodes themselves, as the
kind says; text is never empty, and nothing is always `Extracted.missing`. -/
theorem Settings.finish_yields {s : Settings} {doc : Document} {found : List Nat}
    {r : Extracted} (hFound : found ≠ []) (h : s.finish doc found = .ok r) :
    (Extraction.mk s none none).Yields r := by
  unfold Settings.finish at h
  split at h
  · rename_i hText
    simp only [bind_eq_ok, pure_eq_ok] at h
    obtain ⟨t, ht, rfl⟩ := h
    exact Extraction.yields_ofText (.inl (Extraction.kind_of_text hText))
      (getTextWith_ne_some_empty ht)
  · rename_i hText
    split at h
    · -- an unset attribute keeps the nodes found
      rename_i hUnset
      rw [pure_eq_ok] at h
      subst h
      exact .nodes (Extraction.kind_of_unset hText (by simpa using hUnset)) hFound
    · rename_i hSet
      have hKind := Extraction.kind_of_set hText (by simpa using hSet)
      split at h
      · rw [pure_eq_ok] at h
        subst h
        exact Extraction.yields_ofText (.inr hKind) (getAttribute_ne_some_empty _ _ _)
      -- a list or a record names no attribute: a fault, or nothing on text
      · split at h
        · cases h
        · rw [pure_eq_ok] at h
          subst h
          exact .missing
      · split at h
        · cases h
        · rw [pure_eq_ok] at h
          subst h
          exact .missing
      · rw [pure_eq_ok] at h
        subst h
        exact .missing

/-! ## Applying an extraction -/

namespace Extraction

variable (doc : Document)

mutual

/-- An extraction with no process, at any depth, yields what its kind says, or nothing. -/
theorem apply_yields : ∀ (e : Extraction) (target : Target) (r : Extracted),
    e.ProcessFree → e.apply doc target = .ok r → e.Yields r
  | .mk s fields process, target, r, hFree, h => by
    cases hFree with
    | mk _ _ hFields =>
    unfold apply at h
    split at h
    · -- nothing to extract from
      rw [pure_eq_ok] at h
      subst h
      exact .missing
    · -- the nodes the query finds, or the target's own members without a query
      dsimp only at h
      split at h
      all_goals
        simp only [bind_eq_ok] at h
        obtain ⟨found, -, h⟩ := h
        split at h
        · rw [pure_eq_ok] at h
          subst h
          exact .missing
        · rename_i hFound
          have hFound : found ≠ [] := fun hNil => by simp [hNil] at hFound
          cases fields with
          | none => exact Settings.finish_yields hFound h
          | some fs =>
            -- one record per node found, each read by the fields
            simp only [bind_eq_ok, pure_eq_ok] at h
            obtain ⟨rows, hRows, rfl⟩ := h
            refine .records ?_ fun row hRow => ?_
            · intro hNil
              subst hNil
              exact hFound (List.forall₂_nil_right_iff.mp (mapM_ok hRows))
            · obtain ⟨n, -, hRead⟩ := mem_of_mapM_ok hRows hRow
              exact applyFields_yields fs n row (hFields fs rfl) hRead

/-- The fields of an extraction with no process yield a record of their keys, in order. -/
theorem applyFields_yields : ∀ (fs : List (String × Option Extraction)) (n : Nat)
    (row : List (String × Extracted)), (∀ kv ∈ fs, ∀ e ∈ kv.2, e.ProcessFree) →
    applyFields doc fs n = .ok row → RowYields fs row
  | [], _, row, _, h => by
    rw [applyFields, pure_eq_ok] at h
    subst h
    exact .nil
  | (k, none) :: rest, n, row, hFree, h => by
    simp only [applyFields, bind_eq_ok, pure_eq_ok] at h
    obtain ⟨row', hRest, rfl⟩ := h
    exact .absent (applyFields_yields rest n row'
      (fun kv hkv => hFree kv (List.mem_cons_of_mem _ hkv)) hRest)
  | (k, some e) :: rest, n, row, hFree, h => by
    simp only [applyFields, bind_eq_ok, pure_eq_ok] at h
    obtain ⟨v, hv, row', hRest, rfl⟩ := h
    exact .present (apply_yields e (.node n) v (hFree (k, some e) List.mem_cons_self e rfl) hv)
      (applyFields_yields rest n row' (fun kv hkv => hFree kv (List.mem_cons_of_mem _ hkv)) hRest)

end

/-- An extraction with no process, at any depth, applied to any target, yields nothing or
what its kind says: non-empty text for text and attributes, a non-empty list of nodes for
nodes, and for fields a non-empty list of records, each with the fields' keys in order;
and the values in the records are of the same shape, at every depth (`Yields`). -/
theorem apply_yields_kind_shape {doc : Document} {e : Extraction} {target : Target}
    {r : Extracted} (hFree : e.ProcessFree) (h : e.apply doc target = .ok r) :
    e.Yields r ∧
      (r = Extracted.missing ∨
        (e.kind = .text ∨ e.kind = .attribute) ∧ (∃ s, s ≠ "" ∧ r = .value (.str s)) ∨
        e.kind = .nodes ∧ (∃ ids, ids ≠ [] ∧ r = .nodes ids) ∨
        ∃ s fs rows, e = .mk s (some fs) none ∧ rows ≠ [] ∧ r = .records rows ∧
          ∀ row ∈ rows, row.map Prod.fst = fs.map Prod.fst) := by
  have hYields := apply_yields doc e target r hFree h
  refine ⟨hYields, ?_⟩
  cases hYields with
  | missing => exact .inl rfl
  | text hKind hs => exact .inr (.inl ⟨.inl hKind, _, hs, rfl⟩)
  | attr hKind hs => exact .inr (.inl ⟨.inr hKind, _, hs, rfl⟩)
  | nodes hKind hIds => exact .inr (.inr (.inl ⟨hKind, _, hIds, rfl⟩))
  | records hRows hEach =>
    exact .inr (.inr (.inr ⟨_, _, _, rfl, hRows, rfl, fun row hRow => (hEach row hRow).keys⟩))

/-- A record of results, each with the text of its heading and a nested record of its link's
address and text, applied to the set of the one result of a page: one record with the
fields' keys, whose nested value is one record with the link's keys. -/
theorem records_of_one_result :
    let link : Extraction := .mk { query := some [.css "a"] }
      (some [("href", some (.mk { attrName := .str "href" } none none)),
        ("label", some (.mk { attrName := .str "text" } none none))]) none
    let result : Extraction := .mk { query := some [.css "div.g"] }
      (some [("title", some (.mk { query := some [.css "h3"], attrName := .str "text" } none none)),
        ("link", some link)]) none
    let r : Extracted := .records [[("title", .value (.str "Shop")),
      ("link", .records [[("href", .value (.str "/x")), ("label", .value (.str "x"))]])]]
    ∃ d, Document.parse "<div class=\"g\"><h3>Shop</h3><a href=\"/x\">x</a></div>" true = .ok d ∧
      result.ProcessFree ∧ result.apply d (.nodes [some 0]) = .ok r ∧
      (result.Yields r ∧
        (r = Extracted.missing ∨
          (result.kind = .text ∨ result.kind = .attribute) ∧ (∃ s, s ≠ "" ∧ r = .value (.str s)) ∨
          result.kind = .nodes ∧ (∃ ids, ids ≠ [] ∧ r = .nodes ids) ∨
          ∃ s fs rows, result = .mk s (some fs) none ∧ rows ≠ [] ∧ r = .records rows ∧
            ∀ row ∈ rows, row.map Prod.fst = fs.map Prod.fst)) := by
  intro link result r
  have hLeaf : ∀ s, (Extraction.mk s none none).ProcessFree := fun s => .mk _ _ fun fs hfs => by
    cases hfs
  -- every nested extraction is a leaf, or the link's record of leaves
  have hLink : link.ProcessFree := .mk _ _ fun fs hfs kv hkv x hx => by
    cases hfs
    simp only [List.mem_cons, List.not_mem_nil, or_false] at hkv
    rcases hkv with rfl | rfl <;> cases hx <;> exact hLeaf _
  have hFree : result.ProcessFree := .mk _ _ fun fs hfs kv hkv x hx => by
    cases hfs
    simp only [List.mem_cons, List.not_mem_nil, or_false] at hkv
    rcases hkv with rfl | rfl <;> cases hx
    · exact hLeaf _
    · exact hLink
  obtain ⟨d, hd⟩ := exists_ok_of_isOk (show (Document.parse
    "<div class=\"g\"><h3>Shop</h3><a href=\"/x\">x</a></div>" true).isOk = true by decide +kernel)
  -- the selections and the texts the records are made of, each read off the page
  let found := fun d : Document =>
    ((select d (some [.css "div.g"]) (.nodes [some 0])).toOption,
      (select d (some [.css "h3"]) (.node 0)).toOption,
      (select d (some [.css "a"]) (.node 0)).toOption)
  let texts := fun d : Document =>
    (getText d {} (.nodes [some 1]), getAttribute d (some "href") (.nodes [some 3]),
      getText d {} (.nodes [some 3]))
  have hFound : found d = (some [0], some [1], some [3]) :=
    eq_of_toOption_map found hd (by decide +kernel)
  have hTexts : texts d = (some "Shop", some "/x", some "x") :=
    eq_of_toOption_map texts hd (by decide +kernel)
  simp only [found, texts, Prod.mk.injEq] at hFound hTexts
  obtain ⟨hResults, hHeading, hLinks⟩ := hFound
  obtain ⟨hTitle, hHref, hLabel⟩ := hTexts
  have hApply : result.apply d (.nodes [some 0]) = .ok r := by
    simp [result, link, r, Extraction.apply, Extraction.applyFields, Target.isGiven,
      Target.members, eq_ok_of_toOption hResults, eq_ok_of_toOption hHeading,
      eq_ok_of_toOption hLinks, Settings.finish, getTextWith, Settings.textOptions, hTitle, hHref,
      hLabel, Value.ofText, List.mapM_cons, List.mapM_nil, bind, Except.bind, pure, Except.pure,
      Value.isSet]
  exact ⟨d, hd, hFree, hApply, apply_yields_kind_shape hFree hApply⟩

end Extraction

end SearchPage
