import SearchPage.Page.Result
import SearchPage.Proofs.Outcomes

/-!
# Fields along a pipeline

A pipe lays the fields each step returns over the fields the step was given. Laying one set
of fields over another is a union that prefers the top: the keys below keep their order and
the new keys of the top follow in theirs, and a key reads the top's value when the top has
it. Everything about a run follows from that one step, whatever the steps do with the
context, even a step that drops fields or replaces them wholesale:

* the keys only grow, each run's keys starting with the keys of every earlier point;
* a key reads the value the last step that returned it gave, or its first value when no step
  returned it;
* a pipe of two lists of steps is the pipe of the second run after the pipe of the first.

Steps that may fail run in the same way and stop at the first fault. A run of them that
succeeds is a run of the pure pipe, of the steps that give what each step gave, so the laws
above hold of it too. A step that merges the fields it reads into its context runs in the pipe
as it is, and steps that never fail run as the pure pipe of the same steps does.

A result is read by such a pipe. Its steps read the page in turn, and two of them read fields
that steps before them wrote: the address, whether the element is a knowledge card, and its
title. Those reads always find their fields, so the run is one straight sequence of reads of
the page, and the record holds its keys in the order the steps first write them.

## Main statements

* `Fields.keys_overlay`, `Fields.get?_overlay`: laying fields over others is a union that
  prefers the top.
* `pipe_append`: pipes compose.
* `get?_pipe`: a key reads the value of its last writer.
* `pipe_fields_grow`: the laws of a run together.
* `pipeM_mergeStep_cons`, `pipeM_pure`: how steps that may fail run.
* `pipeM_ok_eq_pipe`: a run of steps that may fail which succeeds is a run of the pure pipe,
  so it only adds keys too (`keys_prefix_pipeM`).
* `parseResult_eq`: the steps of a result read the page as one straight sequence.
-/

namespace SearchPage

namespace Record

theorem lookup_set (r : Record) (k k' : String) (v : Value) :
    (r.set k v).lookup k' = if k' = k then some v else r.lookup k' := by
  induction r with
  | nil =>
    by_cases h : k' = k
    · simp [set, h]
    · simp [set, List.lookup_cons, beq_false_of_ne h, h]
  | cons p rest ih =>
    obtain ⟨j, w⟩ := p
    by_cases hj : j = k
    · subst hj
      by_cases h : k' = j
      · simp [set, h]
      · simp [set, List.lookup_cons, beq_false_of_ne h, h]
    · have hset : set ((j, w) :: rest) k v = (j, w) :: set rest k v := by
        simp [set, beq_false_of_ne hj]
      rw [hset, List.lookup_cons, List.lookup_cons, ih]
      by_cases h : k' = j
      · subst h
        simp [hj]
      · simp [beq_false_of_ne h]

theorem lookup_eq_none_of_not_mem {r : Record} {k : String} (h : k ∉ r.keys) :
    r.lookup k = none := by
  induction r with
  | nil => rfl
  | cons p rest ih =>
    obtain ⟨j, w⟩ := p
    have hj : k ≠ j := fun e => h (by simp [keys, e])
    have hrest : k ∉ keys rest := fun hm => h (by simp_all [keys])
    rw [List.lookup_cons, beq_false_of_ne hj]
    exact ih hrest

/-- Records with distinct keys are equal when they have the same keys in the same order and
every key reads the same value. -/
theorem ext_keys_lookup : ∀ {r s : Record}, r.keys.Nodup → r.keys = s.keys →
    (∀ k, r.lookup k = s.lookup k) → r = s
  | [], [], _, _, _ => rfl
  | [], _ :: _, _, h, _ => by simp [keys] at h
  | _ :: _, [], _, h, _ => by simp [keys] at h
  | (k, v) :: r, (k', v') :: s, hn, hk, hl => by
    simp only [keys, List.map_cons, List.cons.injEq] at hk
    obtain ⟨rfl, hk⟩ := hk
    have hv : v = v' := by simpa [List.lookup_cons] using hl k
    obtain ⟨hNot, hn⟩ := List.nodup_cons.mp hn
    have hNot' : k ∉ keys s := by
      rw [keys, ← hk]
      exact hNot
    refine hv ▸ congrArg _ (ext_keys_lookup hn hk fun j => ?_)
    -- the first key is in neither tail, so the tails agree on it too
    by_cases hj : j = k
    · subst hj
      rw [lookup_eq_none_of_not_mem hNot, lookup_eq_none_of_not_mem hNot']
    · simpa [List.lookup_cons, beq_false_of_ne hj] using hl j

/-- Laying `top` over `base`: the keys of `base` keep their order, and the keys of `top` that
are new follow in theirs. -/
theorem keys_overlay (base top : Record) (h : top.keys.Nodup) :
    (base.overlay top).keys = base.keys ++ top.keys.filter (· ∉ base.keys) := by
  -- each key of `top` is written in turn; a key already written is not written again
  induction top generalizing base with
  | nil => simp [overlay, keys]
  | cons p rest ih =>
    obtain ⟨k, v⟩ := p
    obtain ⟨hk, hrest⟩ := List.nodup_cons.mp h
    show (overlay (base.set k v) rest).keys = _
    by_cases hm : k ∈ base.keys
    · rw [ih _ hrest, keys_set, if_pos hm]
      show _ = base.keys ++ (k :: keys rest).filter _
      rw [List.filter_cons_of_neg (by simpa using hm)]
    · have hfilter : (keys rest).filter (· ∉ base.keys ++ [k]) =
          (keys rest).filter (· ∉ base.keys) :=
        List.filter_congr fun x hx => by
          have : x ≠ k := fun e => hk (e ▸ hx)
          simp [this]
      rw [ih _ hrest, keys_set, if_neg hm, hfilter]
      show _ = base.keys ++ (k :: keys rest).filter _
      rw [List.filter_cons_of_pos (by simpa using hm)]
      simp only [List.append_assoc, List.singleton_append]

/-- A key of a record laid over another reads the top's value when the top has it, and the
value below otherwise. -/
theorem lookup_overlay (base top : Record) (h : top.keys.Nodup) (k : String) :
    (base.overlay top).lookup k = (top.lookup k).or (base.lookup k) := by
  induction top generalizing base with
  | nil => rfl
  | cons p rest ih =>
    obtain ⟨j, w⟩ := p
    obtain ⟨hj, hrest⟩ := List.nodup_cons.mp h
    show (overlay (base.set j w) rest).lookup k = _
    rw [ih _ hrest, lookup_set, List.lookup_cons]
    by_cases hk : k = j
    · subst hk
      simp [lookup_eq_none_of_not_mem hj]
    · simp [hk, beq_false_of_ne hk]

end Record

namespace Fields

/-- The keys of `base` keep their order, and the keys of `top` that are new follow in
theirs. -/
theorem keys_overlay (base top : Fields) :
    (base.overlay top).keys = base.keys ++ top.keys.filter (· ∉ base.keys) :=
  Record.keys_overlay base.entries top.entries top.keys_nodup

/-- A key reads the top's value when the top has it, and the value below otherwise. -/
theorem get?_overlay (base top : Fields) (k : String) :
    (base.overlay top).get? k = (top.get? k).or (base.get? k) :=
  Record.lookup_overlay base.entries top.entries top.keys_nodup k

@[simp] theorem get?_mk (r : Record) (h : r.keys.Nodup) (k : String) :
    (⟨r, h⟩ : Fields).get? k = r.lookup k := rfl

@[simp] theorem get?_empty (k : String) : Fields.empty.get? k = none := rfl

@[simp] theorem get?_single (k : String) (v : Value) (j : String) :
    (Fields.single k v).get? j = if j = k then some v else none := by
  by_cases h : j = k
  · subst h
    simp [Fields.single, Fields.get?]
  · simp [Fields.single, Fields.get?, h]

@[simp] theorem entries_overlay (base top : Fields) :
    (base.overlay top).entries = base.entries.overlay top.entries := rfl

@[simp] theorem entries_single (k : String) (v : Value) :
    (Fields.single k v).entries = [(k, v)] := rfl

@[simp] theorem entries_empty : Fields.empty.entries = [] := rfl

theorem keys_prefix_overlay (base top : Fields) : base.keys <+: (base.overlay top).keys := by
  rw [keys_overlay]
  exact List.prefix_append _ _

/-- Laying the same fields twice changes nothing: what `base` adds is already there. -/
theorem overlay_overlay_self (base top : Fields) :
    base.overlay (base.overlay top) = base.overlay top := by
  apply Fields.ext
  apply Record.ext_keys_lookup (base.overlay (base.overlay top)).keys_nodup
  · show (base.overlay (base.overlay top)).keys = (base.overlay top).keys
    rw [keys_overlay base (base.overlay top), keys_overlay base top, List.filter_append,
      List.filter_filter]
    simp
  · intro k
    show (base.overlay (base.overlay top)).get? k = (base.overlay top).get? k
    rw [get?_overlay, get?_overlay]
    cases top.get? k <;> cases base.get? k <;> rfl

end Fields

namespace ResultContext

@[simp] theorem request_merge (c : ResultContext) (fields : Fields) :
    (c.merge fields).request = c.request := rfl

@[simp] theorem elementSet_merge (c : ResultContext) (fields : Fields) :
    (c.merge fields).elementSet = c.elementSet := rfl

/-- A field of a context with fields merged in reads the merged value when there is one. -/
theorem field_merge (c : ResultContext) (fields : Fields) (k : String) :
    (c.merge fields).field k = (fields.get? k).elim (c.field k) pure := by
  unfold field merge
  dsimp only
  rw [Fields.get?_overlay]
  cases fields.get? k <;> rfl

end ResultContext

/-! ## Runs -/

/-- The fields each step of a run returns, in order; each step is given the context the steps
before it left. -/
def pipeOutputs : List Step → ResultContext → List Fields
  | [], _ => []
  | s :: ss, c => (s c).parsed :: pipeOutputs ss (c.runStep s)

@[simp] theorem parsed_runStep (c : ResultContext) (s : Step) :
    (c.runStep s).parsed = c.parsed.overlay (s c).parsed := rfl

@[simp] theorem pipe_nil (c : ResultContext) : pipe [] c = c := rfl

@[simp] theorem pipe_cons (s : Step) (ss : List Step) (c : ResultContext) :
    pipe (s :: ss) c = pipe ss (c.runStep s) := rfl

/-- Pipes compose: the pipe of two lists of steps runs the second after the first. -/
theorem pipe_append (fs gs : List Step) : pipe (fs ++ gs) = pipe gs ∘ pipe fs := by
  funext c
  exact List.foldl_append

theorem pipe_concat (fs : List Step) (s : Step) (c : ResultContext) :
    pipe (fs ++ [s]) c = (pipe fs c).runStep s := by
  rw [pipe_append]
  rfl

/-- A run only adds keys: the keys it starts with stay, in order, at the front. -/
theorem keys_prefix_pipe (gs : List Step) (c : ResultContext) :
    c.parsed.keys <+: (pipe gs c).parsed.keys := by
  induction gs generalizing c with
  | nil => exact List.prefix_refl _
  | cons g gs ih =>
    have hRest := ih (c.runStep g)
    rw [parsed_runStep] at hRest
    rw [pipe_cons]
    exact (Fields.keys_prefix_overlay _ _).trans hRest

/-- A key reads the value the last step that returned it gave, or its first value when no
step returned it. -/
theorem get?_pipe (steps : List Step) (c : ResultContext) (k : String) :
    (pipe steps c).parsed.get? k =
      ((pipeOutputs steps c).reverse.findSome? (·.get? k)).or (c.parsed.get? k) := by
  induction steps generalizing c with
  | nil => rfl
  | cons s ss ih =>
    rw [pipe_cons, ih, pipeOutputs, List.reverse_cons, List.findSome?_append, parsed_runStep,
      Fields.get?_overlay]
    simp [Option.or_assoc]

/-! ## Runs of steps that may fail -/

@[simp] theorem pipeM_nil (c : ResultContext) : pipeM [] c = pure c := rfl

theorem pipeM_cons (s : StepM) (ss : List StepM) (c : ResultContext) :
    pipeM (s :: ss) c = c.runStepM s >>= pipeM ss := rfl

/-- A step that merges fields into its context runs in a pipe as it is: laying the fields it
was given over its own adds nothing. -/
theorem runStepM_mergeStep (c : ResultContext) (read : ResultContext → Except Fault Fields) :
    c.runStepM (mergeStep read) = c.merge <$> read c := by
  simp only [ResultContext.runStepM, mergeStep, Functor.map_map]
  congr 1
  funext fields
  simp only [ResultContext.merge, Fields.overlay_overlay_self]

/-- A pipe that starts with a merging step reads that step's fields, merges them and runs the
rest. -/
theorem pipeM_mergeStep_cons (read : ResultContext → Except Fault Fields) (ss : List StepM)
    (c : ResultContext) :
    pipeM (mergeStep read :: ss) c = read c >>= fun fields => pipeM ss (c.merge fields) := by
  rw [pipeM_cons, runStepM_mergeStep, map_eq_pure_bind, bind_assoc]
  simp only [pure_bind]

/-- Steps that never fail run as the pure pipe of the same steps does. -/
theorem pipeM_pure (steps : List Step) (c : ResultContext) :
    pipeM (steps.map fun s c => pure (s c)) c = pure (pipe steps c) := by
  induction steps generalizing c with
  | nil => rfl
  | cons s ss ih =>
    rw [List.map_cons, pipeM_cons, pipe_cons, ← ih]
    rfl

/-- A step that may fail, once it has given its context, runs in a pipe as the pure step that
gives that context. -/
theorem runStepM_eq_ok {c c' : ResultContext} {s : StepM} (h : c.runStepM s = .ok c') :
    ∃ out, s c = .ok out ∧ c.runStep (fun _ => out) = c' := by
  obtain ⟨out, hOut, rfl⟩ := map_eq_ok.mp h
  exact ⟨out, hOut, rfl⟩

/-- A run of steps that may fail which succeeds is a run of the pure pipe: of the steps that
give what each step gave, on the context the run had reached when it came to that step. So
the laws of the pure pipe hold of every run that succeeds. -/
theorem pipeM_ok_eq_pipe {steps : List StepM} {c c' : ResultContext}
    (h : pipeM steps c = .ok c') :
    ∃ outs : List ResultContext, outs.length = steps.length ∧
      pipe (outs.map fun out _ => out) c = c' ∧
      ∀ i (s : StepM) (out : ResultContext), steps[i]? = some s → outs[i]? = some out →
        s (pipe ((outs.take i).map fun out _ => out) c) = .ok out := by
  induction steps generalizing c with
  | nil =>
    cases h
    exact ⟨[], rfl, rfl, fun i s out hs => by simp at hs⟩
  | cons s ss ih =>
    obtain ⟨mid, hMid, hRest⟩ := bind_eq_ok.mp h
    obtain ⟨out, hOut, rfl⟩ := runStepM_eq_ok hMid
    obtain ⟨outs, hLen, hPipe, hSteps⟩ := ih hRest
    refine ⟨out :: outs, by simp [hLen], hPipe, ?_⟩
    -- the first step ran on the context the run started from, the others as in the rest
    intro i t o ht ho
    cases i with
    | zero =>
      simp only [List.getElem?_cons_zero, Option.some.injEq] at ht ho
      subst ht ho
      exact hOut
    | succ j =>
      simp only [List.getElem?_cons_succ] at ht ho
      simp only [List.take_succ_cons, List.map_cons, pipe_cons]
      exact hSteps j t o ht ho

/-- A run of steps that may fail only adds keys, as a pure run does: the keys it starts with
stay, in order, at the front. -/
theorem keys_prefix_pipeM {steps : List StepM} {c c' : ResultContext}
    (h : pipeM steps c = .ok c') : c.parsed.keys <+: c'.parsed.keys := by
  obtain ⟨outs, -, rfl, -⟩ := pipeM_ok_eq_pipe h
  exact keys_prefix_pipe _ c

/-- The laws of a pipe run. Each step lays the fields it returns over the fields before it,
a union that prefers the step's values; so the keys only grow, each key ends with the value
of the last step that returned it (or its first value), a pipe of `fs ++ gs` is the pipe of
`gs` after the pipe of `fs`, and the run's answer without a terminal is its final fields. -/
theorem pipe_fields_grow (c : ResultContext) (fs gs hs : List Step) (s : Step) :
    ((pipe (fs ++ [s]) c).parsed.keys = (pipe fs c).parsed.keys ++
        (s (pipe fs c)).parsed.keys.filter (· ∉ (pipe fs c).parsed.keys) ∧
      ∀ k, (pipe (fs ++ [s]) c).parsed.get? k =
        ((s (pipe fs c)).parsed.get? k).or ((pipe fs c).parsed.get? k)) ∧
    (pipe fs c).parsed.keys <+: (pipe (fs ++ gs ++ hs) c).parsed.keys ∧
    (pipe (fs ++ gs) c).parsed.keys <+: (pipe (fs ++ gs ++ hs) c).parsed.keys ∧
    (∀ k, (pipe fs c).parsed.get? k =
      ((pipeOutputs fs c).reverse.findSome? (·.get? k)).or (c.parsed.get? k)) ∧
    pipe (fs ++ gs) = pipe gs ∘ pipe fs ∧
    runPipeline c fs none = .record (pipe fs c).parsed.entries := by
  have hStep := pipe_concat fs s c
  have hGrow (xs ys : List Step) : (pipe xs c).parsed.keys <+: (pipe (xs ++ ys) c).parsed.keys := by
    rw [pipe_append]
    exact keys_prefix_pipe ys _
  refine ⟨⟨?_, fun k => ?_⟩, ?_, hGrow _ _, get?_pipe fs c, pipe_append fs gs, rfl⟩
  · rw [hStep, parsed_runStep, Fields.keys_overlay]
  · rw [hStep, parsed_runStep, Fields.get?_overlay]
  · rw [List.append_assoc]
    exact hGrow _ _

/-! ## The steps of a result -/

section Result

variable (doc : Document) (chains : Chains) (result : ResultSettings) (features : Collaborators)

/-- Reading a result runs its steps in order: the common fields, the answer box (whose address,
when set, takes the place of the result's), the embedded packs and the questions, the
thumbnails, the title of a knowledge card on a mobile page and the `_meta` record. Each step
reads the page once, and the record lists the keys in the order the steps first write them. -/
theorem parseResult_eq (request : Request) (element : Nat) :
    parseResult doc chains result features request element = (do
      let target := Target.nodes [some element]
      let (description, lead) ← descriptionOf doc chains target
      let isCard ← features.isPanelEntry doc target
      let url ← (if isCard then pure result.featureUrl
        else urlOf doc chains result.featureUrl target)
      let title ← titleOf doc chains request.mobile target
      let date ← result.dateIn (Value.ofText lead)
      let amp ← isAmpOf doc chains target
      let answerBox ← features.answerBoxOf doc target
      let boxUrl := boxUrlOf answerBox
      let questions ← features.questionsOf doc target
      let thumb ← selectBy doc chains "thumbnail" target
      let video ← selectBy doc chains "video_thumbnail" target
      let titleValue := if request.mobile && isCard then cardTitle result (Value.ofText title)
        else Value.ofText title
      let record : Record := [
        ("url", if boxUrl.isSet then boxUrl else url), ("title", titleValue),
        ("description", Value.ofText description),
        ("result_date", date), ("is_amp", .bool amp), ("is_knowledge_card", .bool isCard),
        ("answer_box", answerBox), ("news_pack", .null), ("image_pack", .null),
        ("video_pack", .null), ("event_pack", .null), ("flight_box", .null), ("job_pack", .null),
        ("salary_pack", .null), ("local_pack", .null), ("hotel_pack", .null),
        ("people_also_ask", questions), ("has_thumbnail", .bool !thumb.isEmpty),
        ("has_video_thumbnail", .bool !video.isEmpty), ("rich_content", .null),
        ("_meta", .record [("type", .str "organic"), ("start_index", startIndex doc (some element))])]
      if !titleValue.isSet && !(Value.ofText description).isSet &&
          (getText doc {} target).isNone then
        return none
      return some record) := by
  -- every step merges what it reads, so the pipe is the reads one after another
  simp only [parseResult, runPipelineM, resultSteps, commonFieldsStep, answerBoxStep,
    featureStep, thumbnailsStep, cardTitleStep, metaStep, pipeM_mergeStep_cons, pipeM_nil,
    ResultContext.request_merge, ResultContext.elementSet_merge, ResultContext.target,
    bind_assoc, pure_bind, map_pure, bind_map_left]
  refine bind_congr fun p => bind_congr fun isCard => bind_congr fun url =>
    bind_congr fun title => bind_congr fun date => bind_congr fun amp =>
    bind_congr fun answerBox => ?_
  -- the answer box step reads the address only when the box has none of its own
  by_cases hBox : (boxUrlOf answerBox).isSet = true <;>
    simp only [hBox, if_true, if_false, Bool.false_eq_true, pure_bind, ResultContext.field_merge,
      Fields.get?_mk, Fields.get?_single, List.lookup_cons, List.lookup_nil, String.reduceBEq,
      String.reduceEq, Option.elim_some, Option.elim_none]
  all_goals refine bind_congr fun questions => bind_congr fun thumb => bind_congr fun video => ?_
  -- the card title step reads the card flag on mobile pages only, and the title on cards only
  all_goals cases request.mobile <;> cases isCard <;>
    simp only [Bool.not_true, Bool.not_false, Bool.false_eq_true, Bool.and_true,
      Bool.and_false, if_true, if_false, pure_bind, Value.isSet_bool]
  -- what is left is the record the merges build, key by key
  all_goals simp only [emptyResultCheck, ResultContext.merge, ResultContext.target,
    Fields.get?_overlay, Fields.get?_mk, Fields.get?_single, Fields.get?_empty, List.lookup_cons,
    List.lookup_nil, String.reduceBEq, String.reduceEq, Option.some_or, Option.none_or,
    Option.getD_some, Fields.entries_overlay, Fields.entries_single, Fields.entries_empty,
    Record.overlay, List.foldl_cons, List.foldl_nil, List.head?_cons, Option.join_some,
    Record.set_nil, Record.set_cons_self, Record.set_cons_of_ne, ne_eq, not_false_eq_true,
    if_false, if_true]

end Result

end SearchPage
