import SearchPage.Pattern.Match

/-!
# Plain patterns

A *plain* pattern is made of characters compared exactly, classes, `.`, plain groups,
sequences, alternations and greedy repetitions of one character: no captures, anchors,
look-around, atomic or possessive parts, back references or lazy repetitions. On such a
pattern the backtracking matcher is a search through the positions its pieces can end at,
in the order the pattern gives: alternatives from left to right, and a repetition from its
most rounds down to its fewest. `ends s n i` lists those positions.

The matcher takes two shortcuts: it passes over an alternative whose first character
cannot match, and it tries only the round counts after which the character the rest of the
pattern starts with follows. Both pass over only ends from which the rest of the pattern
fails, so the matcher's outcome is that of the first end from which the rest succeeds
(`step_plain`). The ends are exactly the positions reached by the texts the piece matches
from `i` (`mem_ends_iff`), and a search tries every start in turn (`search_plain`).

The marker the matcher moves plays no part here: the outcome of a plain piece never
depends on it.

## Main statements

* `tryBranches_fst`, `tryFewer_fst`: the matcher's two loops find the first success among
  the choices they do not pass over.
* `step_plain`: matching a plain piece is a search through its ends.
* `mem_ends_iff`: the ends of a plain piece are the lengths of the texts it matches there.
* `search_plain`: the leftmost match of a plain pattern.
-/

namespace SearchPage.Pattern

/-! ## Plain pieces and their ends -/

/-- Whether a piece is plain, its parts nested at most `fuel` deep as the matcher visits
them. -/
def plainWithin : Nat → Node → Bool
  | 0, _ => false
  | fuel + 1, n =>
    match n with
    | .empty | .notChar .. | .any _ | .category .. | .charClass .. => true
    | .char _ rule => rule == .exact
    | .group none body => plainWithin fuel body
    | .seq [] => true
    | .seq (n :: ns) => plainWithin fuel n && plainWithin fuel (.seq ns)
    | .alt options => options.all (plainWithin fuel)
    | .loop body _ _ greedy => greedy && body.isSingle
    | _ => false

/-- The round counts a greedy repetition tries, from `c` down to `lo`. -/
def countsDown (lo : Nat) : Nat → List Nat
  | 0 => if lo = 0 then [0] else []
  | c + 1 => if c + 1 < lo then [] else (c + 1) :: countsDown lo c

mutual

/-- The positions a plain piece matched from `i` can end at, in the order the matcher tries
them. -/
def ends (s : Src) : Node → Nat → List Nat
  | .empty, i => [i]
  | .group _ body, i => ends s body i
  | .seq items, i => endsSeq s items i
  | .alt options, i => endsAlt s options i
  | .loop body lo hi _, i => (countsDown lo (countFrom s body i hi)).map (i + ·)
  | n@(.char ..), i | n@(.notChar ..), i | n@(.any _), i | n@(.category ..), i
  | n@(.charClass ..), i => if singleAt s i n then [i + 1] else []
  | _, _ => []

/-- The ends of pieces matched one after another. -/
def endsSeq (s : Src) : List Node → Nat → List Nat
  | [], i => [i]
  | n :: ns, i => (ends s n i).flatMap fun j => endsSeq s ns j

/-- The ends of alternatives, those of the first alternative first. -/
def endsAlt (s : Src) : List Node → Nat → List Nat
  | [], _ => []
  | b :: bs, i => ends s b i ++ endsAlt s bs i

end

/-- Whether a one-character piece matches the character `c`. -/
def Node.holds (n : Node) (c : Char) : Bool := singleAt #[c] 0 n

mutual

/-- The texts a plain piece matches. -/
def Node.Matches : Node → List Char → Prop
  | .empty, w => w = []
  | .group _ body, w => body.Matches w
  | .seq items, w => Node.SeqMatches items w
  | .alt options, w => Node.AltMatches options w
  | .loop body lo hi _, w => lo ≤ w.length ∧ hi.all (w.length ≤ ·) ∧ ∀ c ∈ w, body.holds c
  | n@(.char ..), w | n@(.notChar ..), w | n@(.any _), w | n@(.category ..), w
  | n@(.charClass ..), w => ∃ c, w = [c] ∧ n.holds c
  | _, _ => False

/-- The texts pieces matched one after another match. -/
def Node.SeqMatches : List Node → List Char → Prop
  | [], w => w = []
  | n :: ns, w => ∃ u v, w = u ++ v ∧ n.Matches u ∧ Node.SeqMatches ns v

/-- The texts one of some alternatives matches. -/
def Node.AltMatches : List Node → List Char → Prop
  | [], _ => False
  | b :: bs, w => b.Matches w ∨ Node.AltMatches bs w

end

/-- Whether the character at `i` lets a piece with this lead start there. -/
def Lead.admits (s : Src) (i : Nat) : Lead → Bool
  | .literal c => s[i]? == some c
  | .set t => singleAt s i t
  | .other | .nothing => true

/-- A continuation whose outcome does not depend on where the marker stands. -/
def Cont.Blind (k : Cont) : Prop := ∀ j caps m m', (k j caps m).1 = (k j caps m').1

/-- A continuation that fails wherever the text does not go on with the character `tail`
promises. -/
def Cont.FailsOff (s : Src) (tail : Option Char) (k : Cont) : Prop :=
  ∀ ch, tail = some ch → ∀ j caps m, s[j]? ≠ some ch → (k j caps m).1 = none

section Lemmas

variable {s : Src}

/-! ## Lists -/

theorem findSome?_flatMap {α β γ : Type} (l : List α) (f : α → List β) (g : β → Option γ) :
    (l.flatMap f).findSome? g = l.findSome? fun a => (f a).findSome? g := by
  induction l with
  | nil => rfl
  | cons a rest ih =>
    rw [List.flatMap_cons, List.findSome?_append, ih, List.findSome?_cons]
    cases (f a).findSome? g <;> rfl

theorem findSome?_congr_mem {α β : Type} {l : List α} {f g : α → Option β}
    (h : ∀ a ∈ l, f a = g a) : l.findSome? f = l.findSome? g := by
  induction l with
  | nil => rfl
  | cons a rest ih =>
    rw [List.findSome?_cons, List.findSome?_cons, h a List.mem_cons_self,
      ih fun b hb => h b (List.mem_cons_of_mem _ hb)]

theorem findSome?_singleton {α β : Type} (a : α) (f : α → Option β) : [a].findSome? f = f a := by
  simp only [List.findSome?_cons, List.findSome?_nil]
  cases f a <;> rfl

theorem findSome?_some_eq_head? {α β : Type} (l : List α) (f : α → β) :
    l.findSome? (fun a => some (f a)) = l.head?.map f := by
  cases l <;> rfl

/-- A text is a prefix of a list followed by another exactly when the first is a prefix and
the second a prefix of what follows it. -/
theorem append_prefix_iff {α : Type} {u v l : List α} :
    u ++ v <+: l ↔ u <+: l ∧ v <+: l.drop u.length := by
  constructor
  · rintro ⟨t, rfl⟩
    refine ⟨(List.prefix_append u v).trans (List.prefix_append _ t), ?_⟩
    rw [List.append_assoc, List.drop_left]
    exact List.prefix_append v t
  · rintro ⟨hu, hv⟩
    have hl : l = u ++ l.drop u.length := by
      conv => lhs; rw [← List.take_append_drop u.length l]
      rw [← List.prefix_iff_eq_take.mp hu]
    rw [hl]
    exact (List.prefix_append_right_inj u).mpr hv

theorem singleton_prefix_drop_iff {c : Char} {i : Nat} :
    [c] <+: s.toList.drop i ↔ s[i]? = some c := by
  rw [List.prefix_iff_getElem?]
  constructor
  · intro h
    have := h 0 (by simp)
    simpa [List.getElem?_drop] using this
  · intro h u hu
    simp only [List.length_singleton, Nat.lt_one_iff] at hu
    subst hu
    simpa [List.getElem?_drop] using h

/-- The first value found over consecutive numbers comes from a number before which none is
found. -/
theorem findSome?_range'_eq_some {β : Type} {f : Nat → Option β} {b : β} :
    ∀ {start count : Nat}, (List.range' start count).findSome? f = some b →
      ∃ a, start ≤ a ∧ a < start + count ∧ f a = some b ∧ ∀ a', start ≤ a' → a' < a → f a' = none
  | _, 0, h => by cases h
  | start, count + 1, h => by
    rw [List.range'_succ, List.findSome?_cons] at h
    cases hf : f start with
    | some b' =>
      rw [hf] at h
      cases h
      exact ⟨start, Nat.le_refl _, by omega, hf, fun a' h1 h2 => absurd h1 (by omega)⟩
    | none =>
      rw [hf] at h
      obtain ⟨a, h1, h2, ha, hBefore⟩ := findSome?_range'_eq_some h
      refine ⟨a, by omega, by omega, ha, fun a' h1' h2' => ?_⟩
      by_cases hs : a' = start
      · rw [hs]
        exact hf
      · exact hBefore a' (by omega) h2'

/-! ## Counted rounds -/

theorem mem_countsDown {lo c n : Nat} : n ∈ countsDown lo c ↔ lo ≤ n ∧ n ≤ c := by
  induction c with
  | zero =>
    by_cases h : lo = 0
    · simp [countsDown, h]
    · simp only [countsDown, if_neg h, List.not_mem_nil, false_iff]
      omega
  | succ c ih =>
    unfold countsDown
    by_cases h : c + 1 < lo
    · simp only [if_pos h, List.not_mem_nil, false_iff]
      omega
    · simp only [if_neg h, List.mem_cons, ih]
      omega

theorem countsDown_eq_nil {lo c : Nat} (h : c < lo) : countsDown lo c = [] :=
  List.eq_nil_iff_forall_not_mem.mpr fun n hn => by
    have := mem_countsDown.mp hn
    omega

/-- Counting rounds from `j` with `f` rounds left and `c` done reaches `c + t` exactly when
`t` rounds are left and the piece matches at each of the `t` positions from `j`. -/
theorem le_countFrom_go_iff (n : Node) (f : Nat) :
    ∀ j c t, c + t ≤ countFrom.go s n f j c ↔ t ≤ f ∧ ∀ u < t, singleAt s (j + u) n = true := by
  induction f with
  | zero =>
    intro j c t
    simp only [countFrom.go, Nat.le_zero]
    constructor
    · intro h
      exact ⟨by omega, fun u hu => absurd hu (by omega)⟩
    · intro h
      omega
  | succ f ih =>
    intro j c t
    unfold countFrom.go
    by_cases hj : singleAt s j n = true
    · rw [if_pos hj]
      cases t with
      | zero =>
        have := (ih (j + 1) (c + 1) 0).mpr ⟨Nat.zero_le _, fun u hu => absurd hu (by omega)⟩
        exact ⟨fun _ => ⟨Nat.zero_le _, fun u hu => absurd hu (by omega)⟩, fun _ => by omega⟩
      | succ t =>
        rw [show c + (t + 1) = c + 1 + t by omega, ih (j + 1) (c + 1) t]
        constructor
        · rintro ⟨ht, hAll⟩
          refine ⟨by omega, fun u hu => ?_⟩
          cases u with
          | zero => exact hj
          | succ u =>
            have := hAll u (by omega)
            rwa [show j + 1 + u = j + (u + 1) by omega] at this
        · rintro ⟨ht, hAll⟩
          refine ⟨by omega, fun u hu => ?_⟩
          have := hAll (u + 1) (by omega)
          rwa [show j + 1 + u = j + (u + 1) by omega]
    · rw [if_neg hj]
      constructor
      · intro h
        have ht : t = 0 := by omega
        subst ht
        exact ⟨Nat.zero_le _, fun u hu => absurd hu (by omega)⟩
      · rintro ⟨-, hAll⟩
        cases t with
        | zero => omega
        | succ t => exact absurd (hAll 0 (by omega)) (by simpa using hj)

/-- A one-character piece matches at `i` as it holds of the character there. -/
theorem singleAt_eq (i : Nat) : ∀ n : Node, singleAt s i n = s[i]?.elim false n.holds
  | .group none body => by
    show singleAt s i body = s[i]?.elim false body.holds
    exact singleAt_eq i body
  | .char c rule | .notChar c rule | .any c | .category c rule _ | .charClass c rule _ _ => by
    cases h : s[i]? <;> simp [singleAt, Node.holds, h]
  | .empty | .lineStart _ | .lineEnd _ | .textStart | .textEnd | .boundary _ _
  | .group (some _) _ | .atomic _ | .look _ _ _ | .backref _ _ | .ifGroup _ _ _
  | .loop _ _ _ _ | .possessive _ _ _ | .seq _ | .alt _ => by
    cases s[i]? <;> rfl

theorem lt_size_of_singleAt {n : Node} {i : Nat} (h : singleAt s i n = true) : i < s.size := by
  rw [singleAt_eq] at h
  cases hi : s[i]? with
  | none => rw [hi] at h; cases h
  | some c => exact (Array.getElem?_eq_some_iff.mp hi).1

/-- A one-character piece is counted `t` times or more from `i` exactly when the bound allows
`t` rounds and the piece matches at each of the `t` positions from `i`. -/
theorem le_countFrom_iff (n : Node) (i : Nat) (most : Option Nat) (t : Nat) :
    t ≤ countFrom s n i most ↔ most.all (t ≤ ·) ∧ ∀ u < t, singleAt s (i + u) n = true := by
  have h := le_countFrom_go_iff (s := s) n ((most.getD (s.size - i)).min (s.size - i)) i 0 t
  rw [Nat.zero_add] at h
  unfold countFrom
  rw [h]
  constructor
  · rintro ⟨ht, hAll⟩
    refine ⟨?_, hAll⟩
    cases most with
    | none => rfl
    | some b => simpa using (Nat.le_min.mp ht).1
  · rintro ⟨ht, hAll⟩
    refine ⟨Nat.le_min.mpr ⟨?_, ?_⟩, hAll⟩
    · cases most with
      | none =>
        cases t with
        | zero => exact Nat.zero_le _
        | succ t =>
          have := lt_size_of_singleAt (hAll t (by omega))
          simp only [Option.getD_none]
          omega
      | some b => simpa using ht
    · cases t with
      | zero => exact Nat.zero_le _
      | succ t =>
        have := lt_size_of_singleAt (hAll t (by omega))
        omega

theorem countFrom_le (n : Node) (i : Nat) (most : Option Nat) :
    countFrom s n i most ≤ s.size - i := by
  cases h : countFrom s n i most with
  | zero => exact Nat.zero_le _
  | succ t =>
    have hAll := ((le_countFrom_iff (s := s) n i most (t + 1)).mp (by omega)).2
    have := lt_size_of_singleAt (hAll t (by omega))
    omega

theorem ends_alt (options : List Node) (i : Nat) :
    ends s (.alt options) i = options.flatMap fun b => ends s b i := by
  show endsAlt s options i = _
  induction options with
  | nil => rfl
  | cons b bs ih => rw [endsAlt, ih, List.flatMap_cons]

/-! ## The matcher's loops -/

/-- Trying branches in order finds the first branch that succeeds, when every branch passed
over fails. -/
theorem tryBranches_fst (run : Node → Run) (skip : Node → Bool) (bs : List Node)
    (hSkip : ∀ b ∈ bs, skip b = true → (run b).1 = none) (m : Nat) :
    (tryBranches run skip bs m).1 = bs.findSome? fun b => (run b).1 := by
  induction bs generalizing m with
  | nil => rfl
  | cons b bs ih =>
    have hRest : ∀ b ∈ bs, skip b = true → (run b).1 = none :=
      fun b' hb' => hSkip b' (List.mem_cons_of_mem _ hb')
    rw [List.findSome?_cons]
    unfold tryBranches
    by_cases hb : skip b = true
    · rw [if_pos hb, ih hRest, hSkip b List.mem_cons_self hb]
    · rw [if_neg hb]
      rcases hr : run b with ⟨_ | r, m'⟩
      · exact ih hRest m'
      · rfl

/-- Trying fewer and fewer rounds finds the first count from `c` down to `lo` after which the
rest succeeds, when every count passed over fails. -/
theorem tryFewer_fst (run : Nat → Run) (viable : Nat → Bool) (lo : Nat)
    (hViable : ∀ n, viable n = false → (run n).1 = none) (c m : Nat) :
    (tryFewer run viable lo c m).1 = (countsDown lo c).findSome? fun n => (run n).1 := by
  induction c generalizing m with
  | zero =>
    unfold tryFewer countsDown
    by_cases h : lo = 0
    · subst h
      cases hv : viable 0
      · simp [hViable 0 hv]
      · simp
    · have : (lo == 0) = false := by simpa using h
      simp [this, h]
  | succ c ih =>
    unfold tryFewer countsDown
    by_cases hlo : c + 1 < lo
    · simp [hlo]
    · rw [if_neg hlo, if_neg hlo, List.findSome?_cons]
      by_cases hv : viable (c + 1) = true
      · rw [if_pos hv]
        rcases hr : run (c + 1) with ⟨_ | r, m'⟩
        · exact ih m'
        · rfl
      · rw [if_neg hv, ih m, hViable (c + 1) (by simpa using hv)]

/-! ## Leads -/

theorem skipsBranch_eq (i : Nat) (b : Node) : skipsBranch s i b = !b.lead.admits s i := by
  unfold skipsBranch
  cases b.lead <;> rfl

/-- A plain piece whose lead the character at `i` refuses has no end there, and a piece that
leads with nothing ends where it starts. -/
theorem ends_of_lead (fuel : Nat) : ∀ n : Node, plainWithin fuel n = true → ∀ i,
    (n.lead.admits s i = false → ends s n i = []) ∧ (n.lead = .nothing → ends s n i = [i]) := by
  induction fuel with
  | zero => intro n h; simp [plainWithin] at h
  | succ fuel ih =>
    intro n hPlain i
    cases n with
    | empty => exact ⟨fun h => by simp [Node.lead, Lead.admits] at h, fun _ => rfl⟩
    | char c rule =>
      simp only [plainWithin, beq_iff_eq] at hPlain
      subst hPlain
      refine ⟨fun h => ?_, fun h => by simp [Node.lead, Node.plainChar?] at h⟩
      simp only [Node.lead, Node.plainChar?, Lead.admits, beq_eq_false_iff_ne, ne_eq] at h
      show (if singleAt s i (.char c .exact) then [i + 1] else []) = []
      cases hc : s[i]? with
      | none => simp [singleAt, hc]
      | some d =>
        have : d ≠ c := fun e => h (by rw [hc, e])
        simp [singleAt, sameChar, hc, Ne.symm this]
    | category cat negated ascii =>
      refine ⟨fun h => ?_, fun h => by simp [Node.lead] at h⟩
      simp only [Node.lead, Lead.admits] at h
      show (if singleAt s i _ then [i + 1] else []) = []
      rw [h]
      rfl
    | charClass negated items rule ascii =>
      refine ⟨fun h => ?_, fun h => ?_⟩
      · simp only [Node.lead] at h
        split at h
        · simp only [Lead.admits] at h
          show (if singleAt s i _ then [i + 1] else []) = []
          rw [h]
          rfl
        · simp [Lead.admits] at h
      · simp only [Node.lead] at h
        split at h <;> cases h
    | group g body =>
      cases g with
      | none => exact ih body (by simpa [plainWithin] using hPlain) i
      | some _ => simp [plainWithin] at hPlain
    | seq items =>
      cases items with
      | nil => exact ⟨fun h => by simp [Node.lead, Node.seqLead, Lead.admits] at h, fun _ => rfl⟩
      | cons n ns =>
        simp only [plainWithin, Bool.and_eq_true] at hPlain
        obtain ⟨hn, hns⟩ := hPlain
        have hSeq : ends s (.seq (n :: ns)) i = (ends s n i).flatMap fun j => ends s (.seq ns) j :=
          rfl
        rw [hSeq]
        -- a sequence leads with its first piece, or with the rest when that piece leads with
        -- nothing
        cases hl : n.lead with
        | nothing =>
          have hLead : (Node.seq (n :: ns)).lead = (Node.seq ns).lead := by
            simp only [Node.lead, Node.seqLead, hl]
          rw [hLead, (ih n hn i).2 hl, List.flatMap_singleton]
          exact ih (.seq ns) hns i
        | _ =>
          have hLead : (Node.seq (n :: ns)).lead = n.lead := by
            simp only [Node.lead, Node.seqLead, hl]
          rw [hLead, hl]
          refine ⟨fun h => ?_, fun h => by cases h⟩
          rw [(ih n hn i).1 (by rw [hl]; exact h), List.flatMap_nil]
    | notChar _ _ | any _ | loop _ _ _ _ | alt _ =>
      exact ⟨fun h => by simp [Node.lead, Lead.admits] at h, fun h => by simp [Node.lead] at h⟩
    | _ => simp [plainWithin] at hPlain

/-! ## Matching a plain piece -/

theorem single_fst {k : Cont} (hk : k.Blind) (b : Bool) (i : Nat) (caps : Captures) (m : Nat) :
    (if b then k (i + 1) caps m else (none, m)).1 =
      (if b then [i + 1] else []).findSome? fun j => (k j caps j).1 := by
  cases b
  · rfl
  · simp [hk (i + 1) caps m (i + 1)]

theorem stay_fst {k : Cont} (hk : k.Blind) (i : Nat) (caps : Captures) (m : Nat) :
    (k i caps m).1 = [i].findSome? fun j => (k j caps j).1 := by
  rw [hk i caps m i, findSome?_singleton]

/-- The rest of a sequence, taken as the continuation of the sequence's first piece, fails off
the character the rest leads with, or, when the rest leads with nothing, off the character
promised after the sequence. -/
theorem failsOff_rest {fuel : Nat} {ns : List Node} {tail : Option Char} {k : Cont}
    (hns : plainWithin fuel (.seq ns) = true) (hOff : k.FailsOff s tail)
    (hRest : ∀ j caps m, (step s fuel (.seq ns) tail j caps m k).1 =
      (ends s (.seq ns) j).findSome? fun j' => (k j' caps j').1) :
    Cont.FailsOff s (tailChar (Node.seqLead ns) tail)
      fun j caps m => step s fuel (.seq ns) tail j caps m k := by
  intro ch hch j caps m hj
  rw [hRest]
  have hLead := ends_of_lead (s := s) fuel (.seq ns) hns j
  have hLeadEq : (Node.seq ns).lead = Node.seqLead ns := rfl
  rw [hLeadEq] at hLead
  cases hl : Node.seqLead ns with
  | nothing =>
    -- the rest ends where it starts, and what follows the sequence fails there
    rw [hl] at hLead hch
    rw [hLead.2 rfl, findSome?_singleton]
    exact hOff ch hch j caps j hj
  | literal c =>
    -- the rest leads with the character promised
    rw [hl] at hch hLead
    cases hch
    rw [hLead.1 (by simpa [Lead.admits] using hj)]
    rfl
  | set _ | other =>
    rw [hl] at hch
    cases hch

/-- A greedy repetition of one character tries the rest after each count of rounds, from the
most the text allows down to its fewest; the counts after which the promised character does
not follow are passed over, and the rest fails after them anyway. -/
theorem step_loop {fuel : Nat} {body : Node} {lo : Nat} {hi : Option Nat} {tail : Option Char}
    {i : Nat} {caps : Captures} {m : Nat} {k : Cont} (hSingle : body.isSingle = true)
    (hOff : k.FailsOff s tail) :
    (step s (fuel + 1) (.loop body lo hi true) tail i caps m k).1 =
      (ends s (.loop body lo hi true) i).findSome? fun j => (k j caps j).1 := by
  have hLe := countFrom_le (s := s) body i hi
  have hEnds : ends s (.loop body lo hi true) i =
      (countsDown lo (countFrom s body i hi)).map (i + ·) := rfl
  rw [hEnds, List.findSome?_map]
  simp only [step, hSingle, if_true]
  by_cases hShort : s.size - i < lo
  · rw [if_pos hShort, countsDown_eq_nil (by omega)]
    rfl
  · rw [if_neg hShort]
    split
    · next hFew => rw [countsDown_eq_nil hFew]; rfl
    · refine tryFewer_fst _ _ lo (fun t hv => ?_) _ _
      cases tail with
      | none => cases hv
      | some ch => exact hOff ch rfl (i + t) caps (i + t) (by simpa using hv)

/-- Matching a plain piece from `i` and then the rest of the pattern gives the outcome of
the rest from the first end of the piece from which the rest succeeds. The induction is on
the fuel, as the matcher's own recursion; a sequence's first piece is matched with the rest
of the sequence as its continuation (`failsOff_rest`). -/
theorem step_plain (fuel : Nat) : ∀ (n : Node) (tail : Option Char) (i : Nat) (caps : Captures)
    (m : Nat) (k : Cont), plainWithin fuel n = true → k.Blind → k.FailsOff s tail →
      (step s fuel n tail i caps m k).1 = (ends s n i).findSome? fun j => (k j caps j).1 := by
  induction fuel with
  | zero => intro n _ _ _ _ _ h; simp [plainWithin] at h
  | succ fuel ih =>
    intro n tail i caps m k hPlain hBlind hOff
    cases n with
    | empty => exact stay_fst hBlind i caps m
    | char c rule => exact single_fst hBlind _ i caps m
    | notChar c rule => exact single_fst hBlind _ i caps m
    | any dotAll => exact single_fst hBlind _ i caps m
    | category cat negated ascii => exact single_fst hBlind _ i caps m
    | charClass negated items rule ascii => exact single_fst hBlind _ i caps m
    | group g body =>
      cases g with
      | none => exact ih body tail i caps m k (by simpa [plainWithin] using hPlain) hBlind hOff
      | some _ => simp [plainWithin] at hPlain
    | seq items =>
      cases items with
      | nil => exact stay_fst hBlind i caps m
      | cons n ns =>
        simp only [plainWithin, Bool.and_eq_true] at hPlain
        obtain ⟨hn, hns⟩ := hPlain
        have hRest : ∀ j caps' m', (step s fuel (.seq ns) tail j caps' m' k).1 =
            (ends s (.seq ns) j).findSome? fun j' => (k j' caps' j').1 :=
          fun j caps' m' => ih (.seq ns) tail j caps' m' k hns hBlind hOff
        have hBlindRest : Cont.Blind fun j caps' m' => step s fuel (.seq ns) tail j caps' m' k :=
          fun j caps' m₁ m₂ => by rw [hRest, hRest]
        show (step s fuel n (tailChar (Node.seqLead ns) tail) i caps m
          fun j caps' m' => step s fuel (.seq ns) tail j caps' m' k).1 = _
        rw [ih n _ i caps m _ hn hBlindRest (failsOff_rest hns hOff hRest)]
        simp only [hRest]
        exact (findSome?_flatMap _ _ _).symm
    | alt options =>
      have hAll : ∀ b ∈ options, plainWithin fuel b = true := by
        simpa [plainWithin] using hPlain
      have hRun : ∀ b ∈ options, (step s fuel b none i caps i k).1 =
          (ends s b i).findSome? fun j => (k j caps j).1 :=
        fun b hb => ih b none i caps i k (hAll b hb) hBlind fun _ h => by cases h
      show (tryBranches (fun b => step s fuel b none i caps i k) (skipsBranch s i) options m).1 = _
      rw [tryBranches_fst _ _ options ?_ m, ends_alt, findSome?_flatMap]
      · exact findSome?_congr_mem hRun
      · -- a branch passed over has no end, its lead refusing the character there
        intro b hb hSkip
        rw [skipsBranch_eq, Bool.not_eq_true', ← Bool.not_eq_true] at hSkip
        rw [hRun b hb, (ends_of_lead (s := s) fuel b (hAll b hb) i).1 (by simpa using hSkip)]
        rfl
    | loop body lo hi greedy =>
      simp only [plainWithin, Bool.and_eq_true] at hPlain
      obtain ⟨hGreedy, hSingle⟩ := hPlain
      subst hGreedy
      exact step_loop hSingle hOff
    | _ => simp [plainWithin] at hPlain

/-! ## More fuel -/

/-- A piece plain within some levels is plain within more. -/
theorem plainWithin_mono : ∀ {f g : Nat} {n : Node}, plainWithin f n = true → f ≤ g →
    plainWithin g n = true
  | 0, _, _, h, _ => by simp [plainWithin] at h
  | f + 1, g + 1, n, h, hle => by
    have hfg : f ≤ g := by omega
    cases n with
    | group gi body =>
      cases gi with
      | none => exact plainWithin_mono (n := body) (by simpa [plainWithin] using h) hfg
      | some _ => simp [plainWithin] at h
    | seq items =>
      cases items with
      | nil => rfl
      | cons n ns =>
        simp only [plainWithin, Bool.and_eq_true] at h ⊢
        exact ⟨plainWithin_mono h.1 hfg, plainWithin_mono h.2 hfg⟩
    | alt options =>
      simp only [plainWithin, List.all_eq_true] at h ⊢
      exact fun b hb => plainWithin_mono (h b hb) hfg
    -- the other pieces do not look at the levels left
    | _ => exact h
  | _ + 1, 0, _, _, hle => absurd hle (by omega)

/-! ## The texts a plain piece matches -/

theorem altMatches_iff (bs : List Node) (w : List Char) :
    Node.AltMatches bs w ↔ ∃ b ∈ bs, b.Matches w := by
  induction bs with
  | nil => simp [Node.AltMatches]
  | cons b bs ih => simp [Node.AltMatches, ih]

/-- The ends of a piece from any place are the positions reached by the texts it matches,
read from that place on. -/
def EndsMatch (s : Src) (n : Node) : Prop :=
  ∀ i j, j ∈ ends s n i ↔ ∃ w, n.Matches w ∧ w <+: s.toList.drop i ∧ j = i + w.length

theorem endsMatch_single {n : Node}
    (hEnds : ∀ i, ends s n i = if singleAt s i n then [i + 1] else [])
    (hMatches : ∀ w, n.Matches w ↔ ∃ c, w = [c] ∧ n.holds c = true) : EndsMatch s n := by
  intro i j
  simp only [hEnds, singleAt_eq, hMatches]
  constructor
  · intro hj
    cases hc : s[i]? with
    | none => simp [hc] at hj
    | some c =>
      simp only [hc, Option.elim_some] at hj
      split at hj
      · next hHolds =>
        refine ⟨[c], ⟨c, rfl, hHolds⟩, singleton_prefix_drop_iff.mpr hc, ?_⟩
        simpa using hj
      · cases hj
  · rintro ⟨w, ⟨c, rfl, hHolds⟩, hPre, rfl⟩
    rw [singleton_prefix_drop_iff.mp hPre]
    simp [hHolds]

theorem endsMatch_stay {n : Node} (hEnds : ∀ i, ends s n i = [i])
    (hMatches : ∀ w, n.Matches w ↔ w = []) : EndsMatch s n := by
  intro i j
  simp [hEnds, hMatches]

/-- A piece followed by more pieces ends where the texts of the piece followed by texts of the
rest end: the rest is read from where the piece's text stops. -/
theorem endsMatch_cons {n : Node} {ns : List Node} (hn : EndsMatch s n)
    (hns : EndsMatch s (.seq ns)) : EndsMatch s (.seq (n :: ns)) := by
  intro i j
  show j ∈ (ends s n i).flatMap (fun j' => ends s (.seq ns) j') ↔
    ∃ w, (∃ u v, w = u ++ v ∧ n.Matches u ∧ (Node.seq ns).Matches v) ∧ _
  rw [List.mem_flatMap]
  constructor
  · rintro ⟨j', hj', hj⟩
    obtain ⟨u, hu, hPreU, rfl⟩ := (hn i j').mp hj'
    obtain ⟨v, hv, hPreV, rfl⟩ := (hns _ j).mp hj
    rw [← List.drop_drop] at hPreV
    refine ⟨u ++ v, ⟨u, v, rfl, hu, hv⟩, append_prefix_iff.mpr ⟨hPreU, hPreV⟩, ?_⟩
    simp only [List.length_append]
    omega
  · rintro ⟨w, ⟨u, v, rfl, hu, hv⟩, hPre, rfl⟩
    obtain ⟨hPreU, hPreV⟩ := append_prefix_iff.mp hPre
    rw [List.drop_drop] at hPreV
    refine ⟨i + u.length, (hn i _).mpr ⟨u, hu, hPreU, rfl⟩, (hns _ _).mpr ⟨v, hv, hPreV, ?_⟩⟩
    simp only [List.length_append]
    omega

theorem endsMatch_alt {options : List Node} (h : ∀ b ∈ options, EndsMatch s b) :
    EndsMatch s (.alt options) := by
  intro i j
  rw [ends_alt, List.mem_flatMap]
  show _ ↔ ∃ w, Node.AltMatches options w ∧ _
  simp only [altMatches_iff]
  constructor
  · rintro ⟨b, hb, hj⟩
    obtain ⟨w, hw, hPre, rfl⟩ := (h b hb i j).mp hj
    exact ⟨w, ⟨b, hb, hw⟩, hPre, rfl⟩
  · rintro ⟨w, ⟨b, hb, hw⟩, hPre, rfl⟩
    exact ⟨b, hb, (h b hb i _).mpr ⟨w, hw, hPre, rfl⟩⟩

/-- A repetition of one character reaches `i + t` when the piece matches at each of the `t`
positions from `i` and the bounds allow `t` rounds. -/
theorem endsMatch_loop (body : Node) (lo : Nat) (hi : Option Nat) (greedy : Bool) :
    EndsMatch s (.loop body lo hi greedy) := by
  intro i j
  show j ∈ (countsDown lo (countFrom s body i hi)).map (i + ·) ↔
    ∃ w : List Char, (lo ≤ w.length ∧ hi.all (w.length ≤ ·) ∧ ∀ c ∈ w, body.holds c) ∧ _
  simp only [List.mem_map, mem_countsDown]
  constructor
  · rintro ⟨t, ⟨hlo, ht⟩, rfl⟩
    obtain ⟨hMost, hAll⟩ := (le_countFrom_iff body i hi t).mp ht
    have hFits : t ≤ s.size - i := Nat.le_trans ht (countFrom_le body i hi)
    -- the text is the `t` characters from `i`
    have hLen : ((s.toList.drop i).take t).length = t := by
      simp only [List.length_take, List.length_drop, Array.length_toList]
      omega
    refine ⟨(s.toList.drop i).take t, ⟨by rw [hLen]; exact hlo, by rw [hLen]; exact hMost, ?_⟩,
      List.take_prefix _ _, by rw [hLen]⟩
    intro c hc
    obtain ⟨u, hu, rfl⟩ := List.getElem_of_mem hc
    rw [hLen] at hu
    have hAt := hAll u hu
    rw [singleAt_eq] at hAt
    have hGet : s[i + u]? = some ((s.toList.drop i).take t)[u] := by
      rw [List.getElem_take, List.getElem_drop, ← Array.getElem?_toList]
      exact List.getElem?_eq_getElem _
    rw [hGet] at hAt
    exact hAt
  · rintro ⟨w, ⟨hlo, hMost, hAll⟩, hPre, rfl⟩
    refine ⟨w.length, ⟨hlo, (le_countFrom_iff body i hi _).mpr ⟨hMost, fun u hu => ?_⟩⟩, rfl⟩
    have hGet := List.prefix_iff_getElem?.mp hPre u hu
    rw [List.getElem?_drop, Array.getElem?_toList] at hGet
    rw [singleAt_eq, hGet]
    exact hAll _ (List.getElem_mem hu)

/-- The ends of a plain piece from `i` are the positions reached by the texts it matches,
read from `i` on. The induction is on the fuel, as for `step_plain`, one lemma per kind of
piece. -/
theorem mem_ends_iff (fuel : Nat) : ∀ n : Node, plainWithin fuel n = true → ∀ i j,
    j ∈ ends s n i ↔ ∃ w, n.Matches w ∧ w <+: s.toList.drop i ∧ j = i + w.length := by
  induction fuel with
  | zero => intro n h; simp [plainWithin] at h
  | succ fuel ih =>
    intro n hPlain
    cases n with
    | empty => exact endsMatch_stay (fun _ => rfl) fun _ => Iff.rfl
    | char c rule => exact endsMatch_single (fun _ => rfl) fun _ => Iff.rfl
    | notChar c rule => exact endsMatch_single (fun _ => rfl) fun _ => Iff.rfl
    | any dotAll => exact endsMatch_single (fun _ => rfl) fun _ => Iff.rfl
    | category cat negated ascii => exact endsMatch_single (fun _ => rfl) fun _ => Iff.rfl
    | charClass negated items rule ascii => exact endsMatch_single (fun _ => rfl) fun _ => Iff.rfl
    | group g body =>
      cases g with
      | none => exact ih body (by simpa [plainWithin] using hPlain)
      | some _ => simp [plainWithin] at hPlain
    | seq items =>
      cases items with
      | nil => exact endsMatch_stay (fun _ => rfl) fun _ => Iff.rfl
      | cons n ns =>
        simp only [plainWithin, Bool.and_eq_true] at hPlain
        exact endsMatch_cons (ih n hPlain.1) (ih (.seq ns) hPlain.2)
    | alt options =>
      have hAll : ∀ b ∈ options, plainWithin fuel b = true := by
        simpa [plainWithin] using hPlain
      exact endsMatch_alt fun b hb => ih b (hAll b hb)
    | loop body lo hi greedy => exact endsMatch_loop body lo hi greedy
    | _ => simp [plainWithin] at hPlain

/-! ## Searching -/

/-- A search whose pattern has no start test tries every start in turn, and reports the
first that matches with the end of its match. -/
theorem firstFrom_eq (r : Regex) (fuel : Nat) (hStart : r.start = none) (count start : Nat) :
    firstFrom s r fuel count start =
      (List.range' start count).findSome? fun a =>
        (step s fuel r.root none a [] a finish).1.map fun o => (a, o.1) := by
  induction count generalizing start with
  | zero => rfl
  | succ count ih =>
    have hTries : r.triesFrom s start = true := by simp [Regex.triesFrom, hStart]
    rw [List.range'_succ, List.findSome?_cons]
    unfold firstFrom
    simp only [hTries, if_true]
    rcases (step s fuel r.root none start [] start finish).1 with _ | ⟨j, caps⟩
    · exact ih (start + 1)
    · rfl

/-- The leftmost match of a plain pattern without a start test: the first start with an
end, and the first end there. -/
theorem search_plain (r : Regex) (size : Nat) (text : String) (hStart : r.start = none)
    (hPlain : plainWithin (fuelFor text.toList.length size) r.root = true) :
    r.search size text = (List.range' 0 (text.toList.length + 1)).findSome? fun a =>
      (ends text.toList.toArray r.root a).head?.map fun j => (a, j) := by
  unfold Regex.search
  simp only [List.size_toArray]
  rw [firstFrom_eq r _ hStart]
  refine findSome?_congr_mem fun a _ => ?_
  have hFinish : Cont.Blind finish := fun _ _ _ _ => rfl
  rw [step_plain _ r.root none a [] a finish hPlain hFinish fun _ h => by cases h]
  show ((ends _ r.root a).findSome? fun j => some (j, [])).map _ = _
  rw [findSome?_some_eq_head?, Option.map_map]
  rfl

end Lemmas

end SearchPage.Pattern
