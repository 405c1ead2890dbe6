import SearchPage.Proofs.DefaultParser

/-!
# Numbering the ads

The ads of a page are the elements that the ads chain finds, each read as one record of its
title, address and description. An ad's fields must come as exactly one record, or the ads
step fails. An extraction with fields and no query, applied to a lone node, gives exactly one
record whenever its fields can be read (`Extraction.apply_fields_node`), and the fields of the
collaborators built from safe chains can always be read; so unpacking the record of an ad
never fails.

Every ad is numbered by its place among all ads found before those with neither title nor
address are left out, so a left-out ad leaves a gap in the numbers.

## Main statements

* `Collaborators.adFields_rows`: the collaborators read one record from every element.
* `Collaborators.adsOf_eq`: the ads are the numbered records of the ads kept.
* `adsOf_numbers_kept_ads`: what the collaborators built from safe chains give for the ads.
-/

namespace SearchPage

/-- A filter whose monadic test answers without effects is the plain filter. -/
theorem filterMapM_eq_pure {m : Type → Type} [Monad m] [LawfulMonad m] {α β : Type}
    {f : α → m (Option β)} {g : α → Option β} :
    ∀ {xs : List α}, (∀ x ∈ xs, f x = pure (g x)) → xs.filterMapM f = pure (xs.filterMap g)
  | [], _ => rfl
  | x :: xs, h => by
    rw [List.filterMapM_cons, h x List.mem_cons_self, pure_bind,
      filterMapM_eq_pure fun y hy => h y (List.mem_cons_of_mem x hy)]
    cases hx : g x <;> simp [hx]

namespace Extraction

variable (doc : Document)

/-- A record extraction without a query, applied to a lone node, gives the one record of its
fields' values there. -/
theorem recordExtraction_node {k₁ k₂ k₃ : String} {e₁ e₂ e₃ : Extraction}
    {v₁ v₂ v₃ : Extracted} {el : Nat} (h₁ : e₁.apply doc (.node el) = .ok v₁)
    (h₂ : e₂.apply doc (.node el) = .ok v₂) (h₃ : e₃.apply doc (.node el) = .ok v₃) :
    (recordExtraction none [(k₁, e₁), (k₂, e₂), (k₃, e₃)]).apply doc (.node el) =
      .ok (.records [[(k₁, v₁), (k₂, v₂), (k₃, v₃)]]) := by
  rw [recordExtraction, apply_fields_node doc rfl]
  simp only [List.map_cons, List.map_nil, applyFields, h₁, h₂, h₃]
  rfl

end Extraction

namespace Collaborators

/-- The collaborators read an ad's title, address and description, in that order, from the
ad's element itself. -/
theorem build_adFields {chains : Chains} {c : Collaborators}
    (h : Collaborators.build chains = .ok c) :
    ∃ title url description, c.adFields =
      recordExtraction none [("title", title), ("url", url), ("description", description)] := by
  unfold Collaborators.build at h
  -- each chain is looked up in turn; the last step puts the collaborators together
  repeat obtain ⟨_, -, h⟩ := bind_eq_ok.mp h
  obtain rfl := pure_eq_ok.mp h
  exact ⟨_, _, _, rfl⟩

/-- The collaborators built from safe chains are sound. -/
theorem sound_of_build {chains : Chains} (hc : chains.Safe) {c : Collaborators}
    (hb : Collaborators.build chains = .ok c) : c.Sound := by
  obtain ⟨c', hc', hSound⟩ := Collaborators.build_sound hc
  rw [hb] at hc'
  cases hc'
  exact hSound

/-- The collaborators built from safe chains read exactly one record from every element. -/
theorem adFields_rows {chains : Chains} (hc : chains.Safe) {c : Collaborators}
    (hb : Collaborators.build chains = .ok c) (doc : Document) :
    ∃ title url description : Nat → Extracted, ∀ el, c.adFields.apply doc (.node el) =
      .ok (.records [[("title", title el), ("url", url el), ("description", description el)]]) := by
  have hSound := sound_of_build hc hb
  obtain ⟨t, u, dsc, hFields⟩ := Collaborators.build_adFields hb
  have hFieldsSound := hSound.adFields
  rw [hFields, recordExtraction] at hFieldsSound
  -- the record is sound because each of its three fields is
  obtain ⟨ht, hu, hd⟩ : t.Sound ∧ u.Sound ∧ dsc.Sound := by
    cases hFieldsSound with
    | fields hQuery hAll =>
      exact ⟨hAll ("title", some t) (by simp) t rfl, hAll ("url", some u) (by simp) u rfl,
        hAll ("description", some dsc) (by simp) dsc rfl⟩
  choose title hTitle using fun el => Extraction.apply_returns doc t (.node el) ht
  choose url hUrl using fun el => Extraction.apply_returns doc u (.node el) hu
  choose description hDescription using fun el => Extraction.apply_returns doc dsc (.node el) hd
  refine ⟨title, url, description, fun el => ?_⟩
  rw [hFields]
  exact Extraction.recordExtraction_node doc (hTitle el) (hUrl el) (hDescription el)

/-- The ads are the records of the ads found whose title or address is set, in the order
found, each numbered by its place among all the ads found; nothing when none is kept. -/
theorem adsOf_eq {c : Collaborators} {doc : Document} {target : Target} {found : List Nat}
    {title url description : Nat → Extracted}
    (hFound : select doc (some c.ads) target = .ok found)
    (hRow : ∀ el, c.adFields.apply doc (.node el) =
      .ok (.records [[("title", title el), ("url", url el), ("description", description el)]])) :
    c.adsOf doc target = .ok
      (let kept := found.zipIdx.filter fun p =>
          (title p.1).toValue.isSet || (url p.1).toValue.isSet
       if kept = [] then .null
       else .list (kept.map fun p => .record [("_meta", featureMeta doc "ad" (some p.1)),
         ("position", .int (p.2 + 1)), ("title", (title p.1).toValue),
         ("url", (url p.1).toValue), ("description", (description p.1).toValue)])) := by
  unfold Collaborators.adsOf
  rw [hFound, show (Except.ok found : Except Fault (List Nat)) = pure found from rfl, pure_bind,
    filterMapM_eq_pure (g := fun p =>
      if ((title p.1).toValue.isSet || (url p.1).toValue.isSet) = true then
        some (Value.record [("_meta", featureMeta doc "ad" (some p.1)),
          ("position", .int (p.2 + 1)), ("title", (title p.1).toValue),
          ("url", (url p.1).toValue), ("description", (description p.1).toValue)])
      else none) ?each, pure_bind]
  case each =>
    intro p _
    obtain ⟨el, k⟩ := p
    dsimp only
    rw [show c.adFields.apply doc (.node el) = pure (.records
      [[("title", title el), ("url", url el), ("description", description el)]]) from hRow el,
      pure_bind]
    dsimp only
    rw [pure_bind]
    have hUrlKey : ("url" == "title") = false := by decide
    simp only [List.lookup_cons_self, List.lookup_cons, hUrlKey, List.map_cons, List.map_nil,
      List.cons_append, List.nil_append, Option.elim_some]
    -- an ad is left out exactly when neither its title nor its address is set
    cases (title el).toValue.isSet <;> cases (url el).toValue.isSet <;> rfl
  -- numbering comes first and filtering second, so the kept ads keep their places among all
  rw [← List.filterMap_filter, List.filterMap_eq_map']
  simp only [List.isEmpty_map, List.isEmpty_iff]
  rfl

end Collaborators

/-- The ads of the collaborators built from safe chains: an extraction with fields and no query
gives one record for a lone node; every ad found gives its record of title, address and
description; and the ads are the records whose title or address is set, in the order found,
numbered by their places among all the ads found, or nothing when none is kept. -/
theorem adsOf_numbers_kept_ads {chains : Chains} (hc : chains.Safe) {c : Collaborators}
    (hb : Collaborators.build chains = .ok c) (doc : Document) (target : Target) :
    (∀ (s : Settings) fs el, s.query = none →
      (Extraction.mk s (some fs) none).apply doc (.node el) =
        (fun row => Extracted.records [row]) <$> Extraction.applyFields doc fs el) ∧
    ∃ (found : List Nat) (title url description : Nat → Extracted),
      select doc (some c.ads) target = .ok found ∧
      (∀ el, c.adFields.apply doc (.node el) =
        .ok (.records [[("title", title el), ("url", url el), ("description", description el)]])) ∧
      c.adsOf doc target = .ok
        (let kept := found.zipIdx.filter fun p =>
            (title p.1).toValue.isSet || (url p.1).toValue.isSet
         if kept = [] then .null
         else .list (kept.map fun p => .record [("_meta", featureMeta doc "ad" (some p.1)),
           ("position", .int (p.2 + 1)), ("title", (title p.1).toValue),
           ("url", (url p.1).toValue), ("description", (description p.1).toValue)])) := by
  refine ⟨fun s fs el hq => Extraction.apply_fields_node doc hq fs el, ?_⟩
  obtain ⟨found, hFound⟩ := select_returns (Collaborators.sound_of_build hc hb).ads target
  obtain ⟨title, url, description, hRow⟩ := Collaborators.adFields_rows hc hb doc
  exact ⟨found, title, url, description, hFound, hRow, Collaborators.adsOf_eq hFound hRow⟩

/-- The default collaborators on a page with one text ad. -/
theorem ads_of_one_text_ad :
    ∃ c d, Collaborators.build Chains.initial = .ok c ∧
      Document.parse "<div data-text-ad><h3>Shop</h3></div>" false = .ok d ∧
      ((∀ (s : Settings) fs el, s.query = none →
        (Extraction.mk s (some fs) none).apply d (.node el) =
          (fun row => Extracted.records [row]) <$> Extraction.applyFields d fs el) ∧
      ∃ (found : List Nat) (title url description : Nat → Extracted),
        select d (some c.ads) (.node 0) = .ok found ∧
        (∀ el, c.adFields.apply d (.node el) =
          .ok (.records [[("title", title el), ("url", url el), ("description", description el)]])) ∧
        c.adsOf d (.node 0) = .ok
          (let kept := found.zipIdx.filter fun p =>
              (title p.1).toValue.isSet || (url p.1).toValue.isSet
           if kept = [] then .null
           else .list (kept.map fun p => .record [("_meta", featureMeta d "ad" (some p.1)),
             ("position", .int (p.2 + 1)), ("title", (title p.1).toValue),
             ("url", (url p.1).toValue), ("description", (description p.1).toValue)]))) := by
  obtain ⟨c, hb, -⟩ := Collaborators.build_sound Chains.initial_safe
  obtain ⟨d, hd⟩ := exists_ok_of_isOk (show
    (Document.parse "<div data-text-ad><h3>Shop</h3></div>" false).isOk = true by decide +kernel)
  exact ⟨c, d, hb, hd, adsOf_numbers_kept_ads Chains.initial_safe hb d (.node 0)⟩

end SearchPage
