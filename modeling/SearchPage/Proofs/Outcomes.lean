import Mathlib.Data.List.Forall2

/-!
# What a successful run says

Reading a page runs in the fault monad `Except`, and matching selectors runs in a state
monad over it. A run that ends in `.ok` determines what each of its steps gave: the lemmas
here read that back for binds and for the list combinators the reader is built from
(`mapM`, `filterMapM`, `flatMapM`, `filterM`), so that later proofs take a run apart with
`obtain` instead of unfolding the monad.

## Main statements

* `bind_eq_ok`: a bind succeeds exactly when both of its halves do.
* `mapM_ok`: a successful `mapM` pairs every input with its output.
* `mem_of_mapM_ok`: every output of a successful `mapM` comes from one of its inputs.
* `filterMapM_ok`: a successful `filterMapM` keeps the outputs of a sublist of its inputs.
* `mem_of_flatMapM_ok`: every member of a flattened run comes from one of its inputs.
* `filterM_ok_sublist`, `filterM_run_ok_sublist`: a monadic filter keeps a sublist of its
  input, in `Except` and in a state monad over it.
-/

namespace SearchPage

section Except

variable {ε α β : Type}

theorem bind_eq_ok {x : Except ε α} {f : α → Except ε β} {b : β} :
    x >>= f = .ok b ↔ ∃ a, x = .ok a ∧ f a = .ok b := by
  cases x <;> simp [bind, Except.bind]

theorem map_eq_ok {x : Except ε α} {f : α → β} {b : β} :
    f <$> x = .ok b ↔ ∃ a, x = .ok a ∧ f a = b := by
  cases x <;> simp [Functor.map, Except.map]

/-- `map_eq_ok` for `Except.map` written out, as `x.map f` leaves it. -/
theorem exceptMap_eq_ok {x : Except ε α} {f : α → β} {b : β} :
    x.map f = .ok b ↔ ∃ a, x = .ok a ∧ f a = b :=
  map_eq_ok

theorem pure_eq_ok {a b : α} : (pure a : Except ε α) = .ok b ↔ a = b := by
  simp [pure, Except.pure]

/-- A last step that gives nothing under a condition and a value otherwise gave the value. -/
theorem eq_of_ite_none_eq_ok {c : Prop} [Decidable c] {a b : α}
    (h : (if c then pure none else pure (some a) : Except ε (Option α)) = .ok (some b)) :
    a = b := by
  split at h
  · simp [pure_eq_ok] at h
  · simpa [pure_eq_ok] using h

/-- A run known to succeed has a result. -/
theorem exists_ok_of_isOk {x : Except ε α} (h : x.isOk = true) : ∃ a, x = .ok a := by
  cases x with
  | error e => cases h
  | ok a => exact ⟨a, rfl⟩

/-- A computation whose value, read as an option, is `a` gives `a`. -/
theorem eq_ok_of_toOption {x : Except ε α} {a : α} (h : x.toOption = some a) : x = .ok a := by
  cases x with
  | error e => cases h
  | ok b =>
    cases h
    rfl

/-- What a function gives on the result of a successful run, read off an evaluation of the
run as an option. -/
theorem eq_of_toOption_map {x : Except ε α} {a : α} (f : α → β) {b : β} (h : x = .ok a)
    (hEval : x.toOption.map f = some b) : f a = b := by
  subst h
  exact Option.some.inj hEval

theorem mapError_eq_ok {ε' : Type} {x : Except ε α} {f : ε → ε'} {a : α} :
    x.mapError f = .ok a ↔ x = .ok a := by
  cases x with
  | error e =>
    constructor
    · intro h
      cases h
    · intro h
      cases h
  | ok b =>
    show (Except.ok b : Except ε' α) = .ok a ↔ (Except.ok b : Except ε α) = .ok a
    simp only [Except.ok.injEq]

/-- A successful `mapM` pairs each input with the output it gave. -/
theorem mapM_ok {f : α → Except ε β} {xs : List α} {ys : List β} (h : xs.mapM f = .ok ys) :
    List.Forall₂ (fun x y => f x = .ok y) xs ys := by
  induction xs generalizing ys with
  | nil =>
    simp only [List.mapM_nil, pure_eq_ok] at h
    subst h
    exact .nil
  | cons x xs ih =>
    simp only [List.mapM_cons, bind_eq_ok, pure_eq_ok] at h
    obtain ⟨y, hy, rest, hRest, rfl⟩ := h
    exact .cons hy (ih hRest)

theorem mem_of_mapM_ok {f : α → Except ε β} {xs : List α} {ys : List β}
    (h : xs.mapM f = .ok ys) {y : β} (hy : y ∈ ys) : ∃ x ∈ xs, f x = .ok y := by
  have hAll := mapM_ok h
  clear h
  induction hAll with
  | nil => cases hy
  | cons hx _ ih =>
    rcases List.mem_cons.mp hy with rfl | hLater
    · exact ⟨_, List.mem_cons_self, hx⟩
    · obtain ⟨x, hx', hxy⟩ := ih hLater
      exact ⟨x, List.mem_cons_of_mem _ hx', hxy⟩

/-- A successful `filterMapM` gives the outputs of the inputs that gave one, in order. -/
theorem filterMapM_ok {f : α → Except ε (Option β)} {xs : List α} {ys : List β}
    (h : xs.filterMapM f = .ok ys) :
    ∃ zs, zs.Sublist xs ∧ List.Forall₂ (fun x y => f x = .ok (some y)) zs ys := by
  induction xs generalizing ys with
  | nil =>
    simp only [List.filterMapM_nil, pure_eq_ok] at h
    subst h
    exact ⟨[], .slnil, .nil⟩
  | cons x xs ih =>
    simp only [List.filterMapM_cons, bind_eq_ok] at h
    obtain ⟨o, hx, hRest⟩ := h
    cases o with
    | none =>
      obtain ⟨zs, hSub, hAll⟩ := ih hRest
      exact ⟨zs, hSub.cons x, hAll⟩
    | some y =>
      simp only [bind_eq_ok, pure_eq_ok] at hRest
      obtain ⟨rest, hRest, rfl⟩ := hRest
      obtain ⟨zs, hSub, hAll⟩ := ih hRest
      exact ⟨x :: zs, hSub.cons_cons x, .cons hx hAll⟩

/-- Every member of a successful `flatMapM` lies in the output of one of the inputs. -/
theorem mem_of_flatMapM_ok {f : α → Except ε (List β)} {xs : List α} {ys : List β}
    (h : xs.flatMapM f = .ok ys) {y : β} (hy : y ∈ ys) :
    ∃ x ∈ xs, ∃ zs, f x = .ok zs ∧ y ∈ zs := by
  induction xs generalizing ys with
  | nil =>
    simp only [List.flatMapM_nil, pure_eq_ok] at h
    subst h
    cases hy
  | cons x xs ih =>
    simp only [List.flatMapM_cons, bind_eq_ok, pure_eq_ok] at h
    obtain ⟨zs, hx, rest, hRest, rfl⟩ := h
    rcases List.mem_append.mp hy with hHere | hLater
    · exact ⟨x, List.mem_cons_self, zs, hx, hHere⟩
    · obtain ⟨x', hx', zs', hzs', hy'⟩ := ih hRest hLater
      exact ⟨x', List.mem_cons_of_mem x hx', zs', hzs', hy'⟩

end Except

/-! ## Monadic filters

`List.filterM` runs its test from the front with an accumulator and reverses at the end;
`filterM_cons` states the run one element at a time, in any lawful monad. -/

section Filter

variable {m : Type → Type} [Monad m] [LawfulMonad m] {α : Type}

theorem filterAuxM_eq (p : α → m Bool) (xs acc : List α) :
    List.filterAuxM p xs acc = (· ++ acc) <$> List.filterAuxM p xs [] := by
  induction xs generalizing acc with
  | nil => simp [List.filterAuxM]
  | cons x xs ih =>
    simp only [List.filterAuxM, map_bind]
    congr
    funext keep
    rw [ih, ih (cond keep [x] []), ← comp_map]
    congr
    funext rest
    cases keep <;> simp

theorem filterM_cons (p : α → m Bool) (x : α) (xs : List α) :
    (x :: xs).filterM p = (do
      let keep ← p x
      let rest ← xs.filterM p
      pure (if keep then x :: rest else rest)) := by
  simp only [List.filterM, List.filterAuxM, bind_assoc, pure_bind]
  congr
  funext keep
  rw [filterAuxM_eq, bind_map_left]
  congr
  funext rest
  cases keep <;> simp

end Filter

theorem filterM_ok_sublist {ε α : Type} {p : α → Except ε Bool} {xs ys : List α}
    (h : xs.filterM p = .ok ys) : ys.Sublist xs := by
  induction xs generalizing ys with
  | nil =>
    simp only [List.filterM, List.filterAuxM, pure_bind, pure_eq_ok] at h
    subst h
    exact .slnil
  | cons x xs ih =>
    simp only [filterM_cons, bind_eq_ok, pure_eq_ok] at h
    obtain ⟨keep, -, rest, hRest, rfl⟩ := h
    cases keep with
    | false => exact (ih hRest).cons x
    | true => exact (ih hRest).cons_cons x

theorem filterM_run_ok_sublist {σ ε α : Type} {p : α → StateT σ (Except ε) Bool} {xs : List α} :
    ∀ {s s' : σ} {ys : List α}, (xs.filterM p).run s = .ok (ys, s') → ys.Sublist xs := by
  induction xs with
  | nil =>
    intro s s' ys h
    simp only [List.filterM, List.filterAuxM, pure_bind, StateT.run_pure, pure_eq_ok,
      Prod.mk.injEq] at h
    rw [← h.1]
    exact .slnil
  | cons x xs ih =>
    intro s s' ys h
    simp only [filterM_cons, StateT.run_bind, StateT.run_pure, bind_eq_ok, pure_eq_ok] at h
    obtain ⟨⟨keep, s₁⟩, -, ⟨rest, s₂⟩, hRest, hEq⟩ := h
    cases hEq
    cases keep with
    | false => exact (ih hRest).cons x
    | true => exact (ih hRest).cons_cons x

end SearchPage
