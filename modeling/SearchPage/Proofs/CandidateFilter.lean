import SearchPage.Page.Segment
import Mathlib.Data.List.ReduceOption
import Mathlib.Data.List.Perm.Basic
import Mathlib.Data.List.Nodup

/-!
# The candidate filter

`survivesAt` keeps a candidate when three tests pass, each against the whole list as it
came: the candidate has a span, its start lies strictly inside the span of no candidate of
the list (itself included, which never holds), and no earlier candidate carries its node
number, whether or not that earlier one has a span. This module states the filter in those
terms (`survivesAt_eq_true`) and draws its laws from that one description:

* the survivors carry pairwise different numbers, and none starts inside another;
* filtering the survivors again keeps them all, so the filter is idempotent;
* when candidates with one number carry one span (`SpansAgree`), as candidates drawn from
  one page do, whether a number survives depends only on which candidates there are, not
  on their order.

The last law needs its hypothesis: a first copy without a span hides a later copy with
one, and reordering the two brings the number back.

## Main statements

* `survivesAt_eq_true`: the three tests, as propositions.
* `uniqueCandidates_ids_nodup`, `uniqueCandidates_not_nested`: the survivors' laws.
* `uniqueCandidates_idem`: filtering twice is filtering once.
* `mem_survivorIds_iff`: with `SpansAgree`, the numbers that survive, described without
  positions.
-/

namespace SearchPage

/-! ## First positions -/

/-- Position `i`, holding a value that passes `p`, is the first such position exactly when
every earlier value fails `p`. -/
theorem findIdx?_eq_some_iff_of_getElem? {α : Type} {xs : List α} {p : α → Bool} {i : Nat}
    {x : α} (hx : xs[i]? = some x) (hp : p x = true) :
    xs.findIdx? p = some i ↔ ∀ j < i, ∀ y, xs[j]? = some y → p y = false := by
  obtain ⟨hi, rfl⟩ := List.getElem?_eq_some_iff.mp hx
  rw [List.findIdx?_eq_some_iff_getElem]
  constructor
  · rintro ⟨_, _, hFirst⟩ j hj y hy
    obtain ⟨hj', rfl⟩ := List.getElem?_eq_some_iff.mp hy
    simpa using hFirst j hj
  · intro hFirst
    refine ⟨hi, hp, fun j hj => ?_⟩
    simpa using hFirst j hj _ (List.getElem?_eq_getElem (by omega))

/-- Reading every position of a list gives the list. -/
theorem filterMap_getElem?_range {α : Type} (xs : List α) :
    (List.range xs.length).filterMap (xs[·]?) = xs := by
  induction xs with
  | nil => rfl
  | cons x xs ih =>
    rw [List.length_cons, List.range_succ_eq_map, List.filterMap_cons, List.filterMap_map]
    simpa using ih

/-! ## Nesting between candidates -/

namespace Candidate

theorem nestedIn_eq_true {outer inner : Candidate} :
    outer.nestedIn inner = true ↔ ∃ so si, outer.span = some so ∧ inner.span = some si ∧
      so.start < si.start ∧ si.start < so.stop := by
  unfold nestedIn
  cases outer.span <;> cases inner.span <;> simp [Span.holdsStartOf]

/-- Whether a candidate lies inside another reads only the inner one's span. -/
theorem nestedIn_congr {outer a b : Candidate} (h : a.span = b.span) :
    outer.nestedIn a = outer.nestedIn b := by
  simp only [nestedIn, h]

theorem nestedIn_eq_false_iff {outer inner : Candidate} {si : Span}
    (hInner : inner.span = some si) :
    outer.nestedIn inner = false ↔
      ∀ so, outer.span = some so → ¬ (so.start < si.start ∧ si.start < so.stop) := by
  rw [← Bool.not_eq_true, nestedIn_eq_true]
  simp [hInner]

end Candidate

/-! ## The three tests -/

/-- A candidate survives at position `i` exactly when it has a span, no candidate of the
list holds its start, and no earlier candidate has its number. -/
theorem survivesAt_eq_true {cs : List (Option Candidate)} {i : Nat} :
    survivesAt cs i = true ↔ ∃ c, cs[i]? = some (some c) ∧ c.span.isSome ∧
      (∀ b, some b ∈ cs → b.nestedIn c = false) ∧
      ∀ j < i, ∀ b, cs[j]? = some (some b) → b.id ≠ c.id := by
  unfold survivesAt
  cases hi : cs[i]? with
  | none => simp
  | some o =>
    cases o with
    | none => simp
    | some c =>
      have hFirst := findIdx?_eq_some_iff_of_getElem? (p := fun o => o.any (·.id == c.id)) hi
        (by simp)
      simp only [Bool.and_eq_true, Bool.not_eq_true', List.any_eq_false, beq_iff_eq, hFirst]
      simp [Option.forall, and_assoc]

theorem mem_survivorPositions_iff {cs : List (Option Candidate)} {i : Nat} :
    i ∈ survivorPositions cs ↔ survivesAt cs i = true := by
  unfold survivorPositions
  rw [List.mem_filter, List.mem_range, and_iff_right_iff_imp]
  intro h
  obtain ⟨c, hc, -⟩ := survivesAt_eq_true.mp h
  exact (List.getElem?_eq_some_iff.mp hc).1

theorem mem_uniqueCandidates_iff {cs : List (Option Candidate)} {c : Candidate} :
    c ∈ uniqueCandidates cs ↔ ∃ i, cs[i]? = some (some c) ∧ survivesAt cs i = true := by
  unfold uniqueCandidates
  rw [List.mem_filterMap]
  constructor
  · rintro ⟨i, hi, hc⟩
    refine ⟨i, ?_, mem_survivorPositions_iff.mp hi⟩
    cases h : cs[i]? with
    | none => simp [h] at hc
    | some o => simpa [h] using hc
  · rintro ⟨i, hc, hi⟩
    exact ⟨i, mem_survivorPositions_iff.mpr hi, by simp [hc]⟩

/-! ## What the survivors are -/

section Survivors

variable {cs : List (Option Candidate)}

theorem some_mem_of_mem_uniqueCandidates {c : Candidate} (hc : c ∈ uniqueCandidates cs) :
    some c ∈ cs := by
  obtain ⟨i, hi, -⟩ := mem_uniqueCandidates_iff.mp hc
  exact List.mem_of_getElem? hi

theorem span_isSome_of_mem_uniqueCandidates {c : Candidate} (hc : c ∈ uniqueCandidates cs) :
    c.span.isSome := by
  obtain ⟨i, hi, hSurvives⟩ := mem_uniqueCandidates_iff.mp hc
  obtain ⟨c', hc', hSpan, -⟩ := survivesAt_eq_true.mp hSurvives
  rw [hi, Option.some_inj, Option.some_inj] at hc'
  exact hc' ▸ hSpan

/-- A survivor starts inside no candidate of the list it came from. -/
theorem uniqueCandidates_not_nested {c : Candidate} (hc : c ∈ uniqueCandidates cs)
    {b : Candidate} (hb : some b ∈ cs) : b.nestedIn c = false := by
  obtain ⟨i, hi, hSurvives⟩ := mem_uniqueCandidates_iff.mp hc
  obtain ⟨c', hc', -, hTop, -⟩ := survivesAt_eq_true.mp hSurvives
  rw [hi, Option.some_inj, Option.some_inj] at hc'
  exact hc' ▸ hTop b hb

/-- The survivors carry pairwise different numbers: of two survivors, the later one is the
first with its number, so the earlier one has another. -/
theorem uniqueCandidates_ids_nodup : ((uniqueCandidates cs).map (·.id)).Nodup := by
  unfold uniqueCandidates
  rw [List.map_filterMap, List.nodup_iff_pairwise_ne, List.pairwise_filterMap]
  refine (survivorPositions_sorted cs).imp_of_mem ?_
  intro i j hi hj hij x hx y hy hxy
  obtain ⟨b, hb, -, -, -⟩ := survivesAt_eq_true.mp (mem_survivorPositions_iff.mp hi)
  obtain ⟨c, hc, -, -, hFirst⟩ := survivesAt_eq_true.mp (mem_survivorPositions_iff.mp hj)
  simp only [hb, hc, Option.join_some, Option.map_some, Option.some_inj] at hx hy
  subst hx hy
  exact hFirst i hij b hb hxy

/-- Every survivor of a list survives when the survivors are filtered again. -/
theorem survivesAt_uniqueCandidates {i : Nat} (hi : i < (uniqueCandidates cs).length) :
    survivesAt ((uniqueCandidates cs).map some) i = true := by
  set s := uniqueCandidates cs
  have hAt : (s.map some)[i]? = some (some s[i]) := by simp [hi]
  refine survivesAt_eq_true.mpr ⟨s[i], hAt, span_isSome_of_mem_uniqueCandidates
    (List.getElem_mem hi), fun b hb => ?_, fun j hj b hb hId => ?_⟩
  · -- a survivor is one of the candidates the first filter saw
    have hbs : b ∈ s := by simpa using hb
    exact uniqueCandidates_not_nested (List.getElem_mem hi)
      (some_mem_of_mem_uniqueCandidates hbs)
  · -- an earlier survivor with the same number would repeat a number among survivors
    have hjs : j < s.length := by omega
    rw [List.getElem?_map, List.getElem?_eq_getElem hjs, Option.map_some, Option.some_inj,
      Option.some_inj] at hb
    subst hb
    have hNodup : (s.map (·.id)).Nodup := uniqueCandidates_ids_nodup
    have hNe := List.pairwise_iff_getElem.mp hNodup j i (by simpa using hjs) (by simpa using hi) hj
    rw [List.getElem_map, List.getElem_map] at hNe
    exact hNe hId

/-- Filtering the survivors again keeps them all: the filter is idempotent. -/
theorem uniqueCandidates_idem :
    uniqueCandidates ((uniqueCandidates cs).map some) = uniqueCandidates cs := by
  set s := uniqueCandidates cs
  have hAll : survivorPositions (s.map some) = List.range s.length := by
    unfold survivorPositions
    rw [List.length_map, List.filter_eq_self]
    intro i hi
    exact survivesAt_uniqueCandidates (List.mem_range.mp hi)
  unfold uniqueCandidates
  rw [hAll]
  calc (List.range s.length).filterMap (fun i => (s.map some)[i]?.join)
      = (List.range s.length).filterMap (s[·]?) := by
        congr 1
        funext i
        rw [List.getElem?_map]
        cases s[i]? <;> rfl
    _ = s := filterMap_getElem?_range s

/-- The survivors are the candidates at the surviving positions. -/
theorem uniqueCandidates_map_some :
    (uniqueCandidates cs).map some = (survivorPositions cs).filterMap (cs[·]?) := by
  unfold uniqueCandidates
  rw [List.map_filterMap]
  apply List.filterMap_congr
  intro i hi
  obtain ⟨c, hc, -⟩ := survivesAt_eq_true.mp (mem_survivorPositions_iff.mp hi)
  simp [hc]

/-- The surviving positions, with spans in place of `nestedIn`: the candidate there has a
span whose start lies strictly inside the span of no candidate of the list, and it is the
first with its number. -/
theorem mem_survivorPositions_iff_spans {i : Nat} :
    i ∈ survivorPositions cs ↔ ∃ c sp, cs[i]? = some (some c) ∧ c.span = some sp ∧
      (∀ b sb, some b ∈ cs → b.span = some sb → ¬ (sb.start < sp.start ∧ sp.start < sb.stop)) ∧
      ∀ j < i, ∀ b, cs[j]? = some (some b) → b.id ≠ c.id := by
  rw [mem_survivorPositions_iff, survivesAt_eq_true]
  constructor
  · rintro ⟨c, hc, hSpan, hTop, hFirst⟩
    obtain ⟨sp, hsp⟩ := Option.isSome_iff_exists.mp hSpan
    exact ⟨c, sp, hc, hsp, fun b sb hb => (Candidate.nestedIn_eq_false_iff hsp).mp
      (hTop b hb) sb, hFirst⟩
  · rintro ⟨c, sp, hc, hsp, hTop, hFirst⟩
    exact ⟨c, hc, by simp [hsp], fun b hb => (Candidate.nestedIn_eq_false_iff hsp).mpr
      (hTop b · hb), hFirst⟩

/-- No survivor starts strictly inside the span of another. -/
theorem uniqueCandidates_starts_outside {a b : Candidate} (ha : a ∈ uniqueCandidates cs)
    (hb : b ∈ uniqueCandidates cs) {sa sb : Span} (hsa : a.span = some sa)
    (hsb : b.span = some sb) : ¬ (sa.start < sb.start ∧ sb.start < sa.stop) :=
  -- `a` is one of the candidates `b` was checked against
  (Candidate.nestedIn_eq_false_iff hsb).mp
    (uniqueCandidates_not_nested hb (some_mem_of_mem_uniqueCandidates ha)) sa hsa

end Survivors

/-- The filter keeps, in order, exactly the positions that hold a candidate with a span whose
start lies strictly inside the span of no candidate of the whole list, and that is the first
candidate with its number (whether or not the first one has a span); the candidates kept are
the ones at those positions. They carry pairwise different numbers, all have spans, none
starts strictly inside another's span, and filtering them again keeps them all. -/
theorem filter_keeps_first_positioned_unnested (cs : List (Option Candidate)) :
    (∀ i, i ∈ survivorPositions cs ↔ ∃ c sp, cs[i]? = some (some c) ∧ c.span = some sp ∧
      (∀ b sb, some b ∈ cs → b.span = some sb → ¬ (sb.start < sp.start ∧ sp.start < sb.stop)) ∧
      ∀ j < i, ∀ b, cs[j]? = some (some b) → b.id ≠ c.id) ∧
    (survivorPositions cs).Pairwise (· < ·) ∧
    (uniqueCandidates cs).map some = (survivorPositions cs).filterMap (cs[·]?) ∧
    ((uniqueCandidates cs).map (·.id)).Nodup ∧
    (∀ c ∈ uniqueCandidates cs, c.span.isSome) ∧
    (∀ a ∈ uniqueCandidates cs, ∀ b ∈ uniqueCandidates cs, ∀ sa sb, a.span = some sa →
      b.span = some sb → ¬ (sa.start < sb.start ∧ sb.start < sa.stop)) ∧
    uniqueCandidates ((uniqueCandidates cs).map some) = uniqueCandidates cs :=
  ⟨fun _ => mem_survivorPositions_iff_spans, survivorPositions_sorted cs,
    uniqueCandidates_map_some, uniqueCandidates_ids_nodup,
    fun _ hc => span_isSome_of_mem_uniqueCandidates hc,
    fun _ ha _ hb _ _ hsa hsb => uniqueCandidates_starts_outside ha hb hsa hsb,
    uniqueCandidates_idem⟩

/-! ## Survivors in any order -/

/-- Candidates with one node number carry one span, as the candidates drawn from one page
do. -/
def SpansAgree (cs : List (Option Candidate)) : Prop :=
  ∀ a ∈ cs.reduceOption, ∀ b ∈ cs.reduceOption, a.id = b.id → a.span = b.span

instance (cs : List (Option Candidate)) : Decidable (SpansAgree cs) :=
  inferInstanceAs (Decidable (∀ a ∈ cs.reduceOption, ∀ b ∈ cs.reduceOption, _))

theorem SpansAgree.of_perm {cs cs' : List (Option Candidate)} (hPerm : cs.Perm cs')
    (h : SpansAgree cs) : SpansAgree cs' := by
  intro a ha b hb
  exact h a ((hPerm.filterMap _).mem_iff.mpr ha) b ((hPerm.filterMap _).mem_iff.mpr hb)

/-- With `SpansAgree`, a number survives exactly when some candidate carries it, has a span
and starts inside no candidate: the first candidate with that number then has the same span,
so it passes the same tests. -/
theorem mem_survivorIds_iff {cs : List (Option Candidate)} (hAgree : SpansAgree cs) {x : Int} :
    x ∈ (uniqueCandidates cs).map (·.id) ↔ ∃ c, some c ∈ cs ∧ c.id = x ∧ c.span.isSome ∧
      ∀ b, some b ∈ cs → b.nestedIn c = false := by
  rw [List.mem_map]
  constructor
  · rintro ⟨c, hc, rfl⟩
    exact ⟨c, some_mem_of_mem_uniqueCandidates hc, rfl, span_isSome_of_mem_uniqueCandidates hc,
      fun b hb => uniqueCandidates_not_nested hc hb⟩
  · rintro ⟨c, hc, rfl, hSpan, hTop⟩
    -- the first candidate carrying the number
    have hFound : cs.findIdx? (fun o => o.any (·.id == c.id)) ≠ none := by
      rw [Ne, List.findIdx?_eq_none_iff]
      intro hNone
      simpa using hNone _ hc
    obtain ⟨i, hi⟩ := Option.ne_none_iff_exists'.mp hFound
    obtain ⟨hLen, hHere, -⟩ := List.findIdx?_eq_some_iff_getElem.mp hi
    obtain ⟨c₀, hc₀⟩ : ∃ c₀, cs[i] = some c₀ := by
      cases h : cs[i] with
      | none => simp [h] at hHere
      | some c₀ => exact ⟨c₀, rfl⟩
    have hAt : cs[i]? = some (some c₀) := by rw [List.getElem?_eq_getElem hLen, hc₀]
    have hId : c₀.id = c.id := by simpa [hc₀] using hHere
    have hSame : c₀.span = c.span := hAgree c₀ (List.reduceOption_mem_iff.mpr
      (List.mem_of_getElem? hAt)) c (List.reduceOption_mem_iff.mpr hc) hId
    have hFirst := (findIdx?_eq_some_iff_of_getElem? (p := fun o => o.any (·.id == c.id)) hAt
      (by simp [hId])).mp hi
    refine ⟨c₀, mem_uniqueCandidates_iff.mpr ⟨i, hAt, survivesAt_eq_true.mpr
      ⟨c₀, hAt, hSame ▸ hSpan, fun b hb => ?_, fun j hj b hb => ?_⟩⟩, hId⟩
    · rw [Candidate.nestedIn_congr hSame]
      exact hTop b hb
    · rw [hId]
      simpa using hFirst j hj _ hb

/-- When candidates with one number carry one span, reordering the candidates keeps the
numbers that survive, each once: only the order of the survivors changes. -/
theorem survivorIds_perm_of_perm {cs cs' : List (Option Candidate)} (hPerm : cs.Perm cs')
    (hAgree : SpansAgree cs) :
    ((uniqueCandidates cs').map (·.id)).Perm ((uniqueCandidates cs).map (·.id)) ∧
      ((uniqueCandidates cs).map (·.id)).Nodup ∧ ((uniqueCandidates cs').map (·.id)).Nodup := by
  refine ⟨(List.perm_ext_iff_of_nodup uniqueCandidates_ids_nodup uniqueCandidates_ids_nodup).mpr
    fun x => ?_, uniqueCandidates_ids_nodup, uniqueCandidates_ids_nodup⟩
  -- the description of the surviving numbers reads the list only through membership
  rw [mem_survivorIds_iff (hAgree.of_perm hPerm), mem_survivorIds_iff hAgree]
  simp only [hPerm.mem_iff]

-- Without `SpansAgree` the order counts: a first copy without a span hides a later one.
example : uniqueCandidates [some ⟨1, none⟩, some ⟨1, some ⟨0, 4⟩⟩] = [] ∧
    uniqueCandidates [some ⟨1, some ⟨0, 4⟩⟩, some ⟨1, none⟩] = [⟨1, some ⟨0, 4⟩⟩] := by
  decide

/-- A result, a candidate inside it, a gap and a second copy of the result, reordered. -/
theorem survivorIds_of_reordered_page :
    ([some ⟨1, some ⟨0, 10⟩⟩, some ⟨2, some ⟨3, 5⟩⟩, none, some ⟨1, some ⟨0, 10⟩⟩] :
        List (Option Candidate)).Perm
      [some ⟨2, some ⟨3, 5⟩⟩, some ⟨1, some ⟨0, 10⟩⟩, some ⟨1, some ⟨0, 10⟩⟩, none] ∧
    SpansAgree [some ⟨1, some ⟨0, 10⟩⟩, some ⟨2, some ⟨3, 5⟩⟩, none, some ⟨1, some ⟨0, 10⟩⟩] ∧
    (((uniqueCandidates [some ⟨2, some ⟨3, 5⟩⟩, some ⟨1, some ⟨0, 10⟩⟩,
        some ⟨1, some ⟨0, 10⟩⟩, none]).map (·.id)).Perm
      ((uniqueCandidates [some ⟨1, some ⟨0, 10⟩⟩, some ⟨2, some ⟨3, 5⟩⟩, none,
        some ⟨1, some ⟨0, 10⟩⟩]).map (·.id)) ∧
      ((uniqueCandidates [some ⟨1, some ⟨0, 10⟩⟩, some ⟨2, some ⟨3, 5⟩⟩, none,
        some ⟨1, some ⟨0, 10⟩⟩]).map (·.id)).Nodup ∧
      ((uniqueCandidates [some ⟨2, some ⟨3, 5⟩⟩, some ⟨1, some ⟨0, 10⟩⟩,
        some ⟨1, some ⟨0, 10⟩⟩, none]).map (·.id)).Nodup) :=
  ⟨by decide, by decide, survivorIds_perm_of_perm (by decide) (by decide)⟩

end SearchPage
