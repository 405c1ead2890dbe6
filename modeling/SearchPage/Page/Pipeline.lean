import SearchPage.Value
import SearchPage.Query.Basic
import SearchPage.Fault

/-!
# Result pipelines

A result can be assembled by threading a *context* through an ordered list of steps: the
element set it is read from, the request, and the fields parsed so far. A step may return
any context at all. The pipe lays the fields a step returned over the fields it was given,
so a step may overwrite a field but never remove one, even a step that replaces the fields
wholesale. A terminal function may turn the final context into the answer; without one the
answer is the final fields.

The fields are a record whose keys are distinct, as the keys of a mapping are. Laying one
record over another writes the keys of the top one in turn: a key already there keeps its
place and takes the new value, a new key goes at the end.

Contexts are plain values, so running a pipeline never changes the context it was given.

A step may also fail (`StepM`), as any step that reads the page may. The pipe of such steps
runs them in the same way and stops at the first fault (`pipeM`); a run that succeeds is a run
of the pure pipe over what the steps gave. Most steps merge the fields they read into the context
(`mergeStep`); a pipe runs such a step as it is.
-/

namespace SearchPage

/-- The request a page was fetched for. -/
structure Request where
  mobile : Bool := false
  locale : Value := .null
  deriving Repr, Inhabited

/-- Read a request from plain data: unset data is the default request, a record gives
`mobile` (as set or not) and `locale`; anything else has no fields to read. -/
def Request.ofValue (v : Value) : Except Fault Request :=
  if !v.isSet then pure {}
  else match v with
    | .record fs =>
      pure { mobile := (fs.lookup "mobile").elim false Value.isSet,
             locale := (fs.lookup "locale").getD .null }
    | _ => throw .missingMember

namespace Record

/-- The keys of a record, in order. -/
def keys (r : Record) : List String := r.map Prod.fst

/-- Writing a key keeps the keys there, and appends the key when it is new. -/
theorem keys_set (r : Record) (k : String) (v : Value) :
    (r.set k v).keys = if k ∈ r.keys then r.keys else r.keys ++ [k] := by
  induction r with
  | nil => simp [set, keys]
  | cons p rest ih =>
    obtain ⟨k', v'⟩ := p
    by_cases hk : k' = k
    · subst hk
      simp [set, keys]
    · have hne : (k' == k) = false := beq_false_of_ne hk
      have hset : set ((k', v') :: rest) k v = (k', v') :: set rest k v := by simp [set, hne]
      have hmem : k ∈ k' :: keys rest ↔ k ∈ keys rest := by simp [Ne.symm hk]
      simp only [hset, keys, List.map_cons] at ih hmem ⊢
      rw [ih]
      by_cases hm : k ∈ rest.map Prod.fst <;> simp [hm, hmem]

theorem keys_set_nodup {r : Record} (h : r.keys.Nodup) (k : String) (v : Value) :
    (r.set k v).keys.Nodup := by
  rw [keys_set]
  split
  · exact h
  · next hk =>
    rw [List.nodup_append]
    refine ⟨h, List.pairwise_singleton _ k, fun a ha b hb hab => hk ?_⟩
    rw [List.mem_singleton.mp hb] at hab
    exact hab ▸ ha

theorem keys_overlay_nodup {base : Record} (h : base.keys.Nodup) (top : Record) :
    (base.overlay top).keys.Nodup := by
  induction top generalizing base with
  | nil => exact h
  | cons p rest ih => exact ih (keys_set_nodup h p.1 p.2)

end Record

/-- Fields parsed so far: a record whose keys are distinct. -/
@[ext]
structure Fields where
  entries : Record
  keys_nodup : entries.keys.Nodup

namespace Fields

/-- No fields. -/
def empty : Fields := ⟨[], List.nodup_nil⟩

/-- The keys of the fields, in order. -/
def keys (f : Fields) : List String := f.entries.keys

/-- The value of a field. -/
def get? (f : Fields) (k : String) : Option Value := f.entries.lookup k

/-- `top` laid over `base`: the keys of `top` written into `base` in turn. -/
def overlay (base top : Fields) : Fields :=
  ⟨base.entries.overlay top.entries, Record.keys_overlay_nodup base.keys_nodup _⟩

/-- One field. -/
def single (k : String) (v : Value) : Fields := ⟨[(k, v)], List.pairwise_singleton _ k⟩

end Fields

/-- What a result step works on: the element set, the request, and the fields so far. -/
structure ResultContext where
  elementSet : List (Option Nat)
  request : Request
  parsed : Fields

/-- A step of a result pipeline. -/
abbrev Step := ResultContext → ResultContext

namespace ResultContext

/-- The context with `fields` laid over its fields. -/
def merge (c : ResultContext) (fields : Fields) : ResultContext :=
  { c with parsed := c.parsed.overlay fields }

/-- The value of a field parsed so far; a field that is not there is a fault. -/
def field (c : ResultContext) (k : String) : Except Fault Value :=
  match c.parsed.get? k with
  | some v => pure v
  | none => throw .missingKey

/-- The element set as a target. -/
def target (c : ResultContext) : Target := .nodes c.elementSet

/-- Run one step inside a pipe: the fields the step returns are laid over the fields it
was given; the rest of the context is the step's. -/
def runStep (c : ResultContext) (step : Step) : ResultContext :=
  let out := step c
  { out with parsed := c.parsed.overlay out.parsed }

end ResultContext

/-- The steps composed into one, run from left to right. -/
def pipe (steps : List Step) : Step :=
  fun c => steps.foldl ResultContext.runStep c

/-- Run the steps on a context; the terminal turns the final context into the answer, and
without one the answer is the final fields as a record. -/
def runPipeline (c : ResultContext) (steps : List Step)
    (terminal : Option (ResultContext → Value)) : Value :=
  let final := pipe steps c
  match terminal with
  | none => .record final.parsed.entries
  | some t => t final

/-- A step of a result pipeline that may fail. -/
abbrev StepM := ResultContext → Except Fault ResultContext

/-- Run a step that may fail inside a pipe: once it has given its context, the fields it
returns are laid over the fields it was given, as `runStep` does. -/
def ResultContext.runStepM (c : ResultContext) (step : StepM) : Except Fault ResultContext :=
  (fun out => { out with parsed := c.parsed.overlay out.parsed }) <$> step c

/-- Steps that may fail composed into one, run from left to right; the first fault stops the
run. -/
def pipeM (steps : List StepM) : StepM :=
  fun c => steps.foldlM ResultContext.runStepM c

/-- Run steps that may fail on a context and give what the terminal makes of the final one. -/
def runPipelineM {α : Type} (c : ResultContext) (steps : List StepM)
    (terminal : ResultContext → Except Fault α) : Except Fault α :=
  pipeM steps c >>= terminal

/-- A step that reads fields from its context and merges them into it. A step that gives its
context back unchanged merges no fields. -/
def mergeStep (read : ResultContext → Except Fault Fields) : StepM :=
  fun c => c.merge <$> read c

/-- A step that stores what a collaborator gives under one field. -/
def featureStep (k : String) (collaborator : ResultContext → Except Fault Value) : StepM :=
  mergeStep fun c => Fields.single k <$> collaborator c

end SearchPage
