import SearchPage.Extract.Read
import SearchPage.Extract.Apply
import SearchPage.Proofs.PipeFields
import SearchPage.Proofs.Outcomes
import Mathlib.Data.List.MinMax
import Mathlib.Order.Nat
import Mathlib.Data.String.Basic

/-!
# Reading extraction settings written as mappings

An extraction written as plain data is a mapping from setting names to values, with nested
extractions under `properties`. Reading it checks the keys of a mapping before anything
below it is read, and reads the nested extractions in order, so the fault a tree with
several bad mappings gives is that of the first bad mapping in pre-order: a mapping before
the extractions under its `properties`, those in the order they are written.

This module describes the reading without fuel and without faults. A configuration tree is
*shaped* (`configShaped`) when every mapping has distinct keys and its `properties` is
nothing or a mapping whose values are nothing or shaped configurations. Its queries and
processes may be anything: reading keeps them as they are given. For such a tree the reading either reports the
unknown keys of the first mapping that has any (`firstUnknown`), listed in increasing
order, or gives the extraction of the same shape (`configOf`), with `shallowSearch` read
as `shallow_search` and taking precedence over it.

## Main statements

* `entriesOf_record`, `lookupEntry_renamed`: the entries of a mapping with distinct keys,
  once `shallowSearch` is renamed.
* `ofValueWithin_shaped`: with enough levels, reading a shaped tree gives the first unknown
  keys' fault or the tree's extraction.
* `ofValue_first_unknown`: reading a shaped configuration.
-/

namespace SearchPage

open SearchPage.Extraction

/-! ## The tree, described without fuel -/

/-- The keys a configuration mapping may have: the settings, and `shallowSearch` for
`shallow_search`. -/
def configKeys : List String :=
  ["query", "attribute", "separator", "trim", "shallow_search", "shallowSearch", "properties",
    "process"]

/-- The keys of a mapping that no setting has, in the order they are written. -/
def unknownKeys (fs : Record) : List String :=
  fs.keys.filter (· ∉ configKeys)

mutual

/-- The unknown keys of the first mapping of a configuration that has any, in pre-order: a
mapping before the configurations under its `properties`, those in order. -/
def firstUnknown : Value → Option (List String)
  | .record fs => if unknownKeys fs = [] then firstUnknownIn fs else some (unknownKeys fs)
  | _ => none

/-- The first unknown keys below the `properties` entry of a mapping. -/
def firstUnknownIn : List (String × Value) → Option (List String)
  | [] => none
  | (k, v) :: rest => if k = "properties" then firstUnknownBelow v else firstUnknownIn rest

/-- The first unknown keys of the configurations a `properties` value holds. -/
def firstUnknownBelow : Value → Option (List String)
  | .record ps => firstUnknownAmong ps
  | _ => none

/-- The first unknown keys among configurations written one after another. -/
def firstUnknownAmong : List (String × Value) → Option (List String)
  | [] => none
  | (_, v) :: rest => (firstUnknown v).or (firstUnknownAmong rest)

end

/-- The settings of a mapping: each from the entry of its name, `shallowSearch` before
`shallow_search`. -/
def settingsOf (fs : Record) : Settings where
  query := readQuery true (fs.lookup "query")
  attrName := (fs.lookup "attribute").getD .null
  separator := (fs.lookup "separator").getD (.str ", ")
  trim := (fs.lookup "trim").elim true Value.isSet
  shallow := ((fs.lookup "shallowSearch").or (fs.lookup "shallow_search")).elim false Value.isSet

/-- The process a mapping names. -/
def processOf (processes : String → Option Procedure) (fs : Record) : Option Procedure :=
  readProcess processes true (fs.lookup "process")

mutual

/-- Whether a configuration tree is shaped: every mapping has distinct keys and a
`properties` value that is nothing or a mapping with distinct keys of nothing or shaped
configurations. -/
def configShaped : Value → Bool
  | .record fs => decide (Record.keys fs).Nodup && propertiesShapedIn fs
  | _ => false

/-- Whether the `properties` entry of a mapping is shaped. -/
def propertiesShapedIn : List (String × Value) → Bool
  | [] => true
  | (k, v) :: rest => if k = "properties" then propertiesShaped v else propertiesShapedIn rest

/-- Whether a `properties` value is nothing or a mapping of nothing or shaped configurations. -/
def propertiesShaped : Value → Bool
  | .null => true
  | .record ps => decide (Record.keys ps).Nodup && nestedShaped ps
  | _ => false

/-- Whether configurations written one after another are each nothing or shaped. -/
def nestedShaped : List (String × Value) → Bool
  | [] => true
  | (_, .null) :: rest => nestedShaped rest
  | (_, v) :: rest => configShaped v && nestedShaped rest

end

section Tree

variable (processes : String → Option Procedure)

mutual

/-- The extraction of the same shape as a configuration tree. -/
def configOf : Value → Extraction
  | .record fs => .mk (settingsOf fs) (fieldsIn fs) (processOf processes fs)
  | _ => default

/-- The fields below the `properties` entry of a mapping. -/
def fieldsIn : List (String × Value) → Option (List (String × Option Extraction))
  | [] => none
  | (k, v) :: rest => if k = "properties" then fieldsBelow v else fieldsIn rest

/-- The fields a `properties` value holds. -/
def fieldsBelow : Value → Option (List (String × Option Extraction))
  | .record ps => some (fieldsAmong ps)
  | _ => none

/-- Nested configurations as fields: nothing is a missing extraction. -/
def fieldsAmong : List (String × Value) → List (String × Option Extraction)
  | [] => []
  | (k, .null) :: rest => (k, none) :: fieldsAmong rest
  | (k, v) :: rest => (k, some (configOf v)) :: fieldsAmong rest

end


end Tree

/-! ## The entries of a mapping with distinct keys -/

@[simp] theorem Value.sameKey_str (a b : String) : (Value.str a).sameKey (.str b) = (a == b) :=
  rfl

namespace Record

/-- The entries a record gives as a mapping, its keys as text. -/
def asEntries (r : Record) : List (Value × Value) := r.map fun e => (.str e.1, e.2)

/-- A record with `shallowSearch` renamed `shallow_search`, whose value it replaces when both
are there. -/
def shallowRenamed (fs : Record) : Record :=
  match fs.lookup "shallowSearch" with
  | some x => Record.set (fs.filter fun e => e.1 != "shallowSearch") "shallow_search" x
  | none => fs

theorem set_of_not_mem {r : Record} {k : String} (h : k ∉ r.keys) (v : Value) :
    r.set k v = r ++ [(k, v)] := by
  induction r with
  | nil => rfl
  | cons p rest ih =>
    obtain ⟨j, w⟩ := p
    have hj : j ≠ k := fun e => h (by simp [keys, e])
    have hrest : k ∉ keys rest := fun hm => h (by simp_all [keys])
    simp [set, beq_false_of_ne hj, ih hrest]

/-- Laying a record over one that shares none of its keys appends it. -/
theorem overlay_eq_append {acc l : Record} (h : (acc.keys ++ l.keys).Nodup) :
    acc.overlay l = acc ++ l := by
  induction l generalizing acc with
  | nil => simp [overlay]
  | cons p rest ih =>
    obtain ⟨k, v⟩ := p
    have hk : k ∉ acc.keys := fun hm => (List.nodup_append.mp h).2.2 k hm k (by simp [keys]) rfl
    have hSet := set_of_not_mem hk v
    show overlay (acc.set k v) rest = _
    rw [hSet, ih (by simpa [keys] using h)]
    simp

theorem putEntry_asEntries (r : Record) (k : String) (x : Value) :
    putEntry (asEntries r) (.str k) x = asEntries (r.set k x) := by
  induction r with
  | nil => rfl
  | cons p rest ih =>
    obtain ⟨j, w⟩ := p
    by_cases hj : j = k
    · subst hj
      simp [asEntries, putEntry, set, Value.sameKey]
    · have hne : (j == k) = false := beq_false_of_ne hj
      simp only [asEntries] at ih
      simp [asEntries, putEntry, set, Value.sameKey, hne, ih]

theorem lookupEntry_asEntries (r : Record) (k : String) :
    lookupEntry (asEntries r) k = r.lookup k := by
  induction r with
  | nil => rfl
  | cons p rest ih =>
    obtain ⟨j, w⟩ := p
    show (((Value.str j, w) :: asEntries rest).find? fun e => e.1.sameKey (.str k)).map (·.2) = _
    rw [List.find?_cons, Value.sameKey_str, List.lookup_cons]
    by_cases hj : k = j
    · subst hj
      simp
    · simp only [beq_false_of_ne (Ne.symm hj), beq_false_of_ne hj]
      exact ih

theorem lookup_filter_ne (r : Record) (s k : String) :
    (r.filter fun e => e.1 != s).lookup k = if k = s then none else r.lookup k := by
  induction r with
  | nil => by_cases h : k = s <;> simp [h]
  | cons p rest ih =>
    obtain ⟨j, w⟩ := p
    by_cases hjs : j = s
    · subst hjs
      rw [List.filter_cons_of_neg (by simp), ih]
      by_cases hk : k = j
      · simp [hk]
      · simp [hk, List.lookup_cons, beq_false_of_ne hk]
    · rw [List.filter_cons_of_pos (by simpa using hjs), List.lookup_cons, List.lookup_cons, ih]
      by_cases hk : k = j
      · subst hk
        simp [hjs]
      · simp [beq_false_of_ne hk]

theorem filter_asEntries (r : Record) (s : String) :
    (asEntries r).filter (fun e => !e.1.sameKey (.str s)) =
      asEntries (r.filter fun e => e.1 != s) := by
  simp only [asEntries, List.filter_map]
  congr 1

/-- Writing the keys of a record with distinct keys one by one into no entries gives its
entries. -/
theorem foldl_putEntry_asEntries (acc l : Record) :
    (asEntries l).foldl (fun es e => putEntry es e.1 e.2) (asEntries acc) =
      asEntries (acc.overlay l) := by
  induction l generalizing acc with
  | nil => rfl
  | cons p rest ih =>
    obtain ⟨k, v⟩ := p
    show (asEntries rest).foldl _ (putEntry (asEntries acc) (.str k) v) = _
    rw [putEntry_asEntries, ih]
    rfl

theorem keys_shallowRenamed_filter (fs : Record) :
    fs.shallowRenamed.keys.filter (· ∉ settingNames) = unknownKeys fs := by
  unfold shallowRenamed unknownKeys
  cases h : fs.lookup "shallowSearch" with
  | none =>
    -- without `shallowSearch` the two sets of names filter the keys alike
    have hNot : "shallowSearch" ∉ fs.keys := fun hm => by
      obtain ⟨⟨k, x⟩, hx, hk⟩ := List.mem_map.mp hm
      simp only at hk
      subst hk
      simp at h
      exact h _ x hx rfl
    refine List.filter_congr fun k hk => ?_
    have : k ≠ "shallowSearch" := fun e => hNot (e ▸ hk)
    simp [configKeys, settingNames, this]
  | some x =>
    rw [keys_set]
    have hFilter : ∀ l : List String, (l.filter (· != "shallowSearch")).filter (· ∉ settingNames) =
        l.filter (· ∉ configKeys) := fun l => by
      rw [List.filter_filter]
      refine List.filter_congr fun k _ => ?_
      by_cases hk : k = "shallowSearch" <;> simp [configKeys, settingNames, hk]
    have hKeys : Record.keys (fs.filter fun e => e.1 != "shallowSearch") =
        fs.keys.filter (· != "shallowSearch") := by
      simp only [keys, List.filter_map]
      rfl
    split
    · rw [hKeys, hFilter]
    · rw [List.filter_append, hKeys, hFilter]
      simp [settingNames]

/-- Renaming leaves every other setting's entry as it was. -/
theorem lookup_shallowRenamed_of_ne (fs : Record) {k : String} (h1 : k ≠ "shallowSearch")
    (h2 : k ≠ "shallow_search") : fs.shallowRenamed.lookup k = fs.lookup k := by
  unfold shallowRenamed
  cases fs.lookup "shallowSearch" with
  | none => rfl
  | some x => rw [lookup_set, if_neg h2, lookup_filter_ne, if_neg h1]

/-- `shallowSearch` takes precedence over `shallow_search`. -/
theorem lookup_shallowRenamed_shallow (fs : Record) :
    fs.shallowRenamed.lookup "shallow_search" =
      (fs.lookup "shallowSearch").or (fs.lookup "shallow_search") := by
  unfold shallowRenamed
  cases fs.lookup "shallowSearch" with
  | none => rfl
  | some x => simp [lookup_set]

end Record

open Record in
theorem entriesOf_record {fs : Record} (h : fs.keys.Nodup) :
    entriesOf (.record fs) = .ok (asEntries fs) := by
  have hFold := foldl_putEntry_asEntries [] fs
  rw [overlay_eq_append (by rw [show Record.keys [] = [] from rfl, List.nil_append]; exact h)]
    at hFold
  simp only [entriesOf, bind, Except.bind, pure, Except.pure]
  exact congrArg Except.ok hFold

open Record in
theorem renameShallow_asEntries (fs : Record) :
    renameShallow (asEntries fs) = asEntries fs.shallowRenamed := by
  unfold renameShallow shallowRenamed
  rw [lookupEntry_asEntries]
  cases fs.lookup "shallowSearch" with
  | none => rfl
  | some x =>
    show putEntry ((asEntries fs).filter fun e => !e.1.sameKey (.str "shallowSearch")) _ x = _
    rw [filter_asEntries, putEntry_asEntries]

/-- Every entry but the two spellings of `shallow_search` reads the same once renamed. -/
theorem lookupEntry_renamed (fs : Record) {k : String} (h1 : k ≠ "shallowSearch")
    (h2 : k ≠ "shallow_search") : lookupEntry fs.shallowRenamed.asEntries k = fs.lookup k := by
  rw [Record.lookupEntry_asEntries, Record.lookup_shallowRenamed_of_ne fs h1 h2]

/-- The unknown keys of a mapping are those of its entries once renamed. -/
theorem unknownSettingKeys_asEntries (fs : Record) :
    unknownSettingKeys fs.shallowRenamed.asEntries = (unknownKeys fs).map .str := by
  rw [← Record.keys_shallowRenamed_filter]
  have hKeys (r : Record) : r.asEntries.map (·.1) = r.keys.map .str := by
    simp [Record.asEntries, Record.keys]
  rw [unknownSettingKeys, hKeys, List.filter_map]
  congr 1
  refine List.filter_congr fun k _ => ?_
  simp only [Function.comp_apply, Value.sameKey_str, decide_not]
  congr 1
  by_cases hk : k ∈ settingNames
  · simp only [hk, decide_true, List.any_eq_true, beq_iff_eq]
    exact ⟨k, hk, rfl⟩
  · simp only [hk, decide_false, List.any_eq_false, beq_iff_eq]
    exact fun n hn e => hk (e ▸ hn)

/-- Keys that are all text are sorted as text. -/
theorem sortKeys_str (ks : List String) :
    sortKeys (ks.map .str) = pure ((ks.mergeSort fun a b => decide (a ≤ b)).map .str) := by
  simp [sortKeys]

/-- The fault for a mapping whose unknown keys are `us`: the keys listed in increasing order. -/
def unknownFault (us : List String) : Fault :=
  .unknownSettings (listKeys ((us.mergeSort fun a b => decide (a ≤ b)).map .str))

/-- The entries of a mapping with distinct keys: refused with its unknown keys when it has
any, and otherwise its entries with `shallowSearch` renamed. -/
theorem checkedEntries_record {fs : Record} (h : fs.keys.Nodup) :
    checkedEntries (.record fs) =
      if unknownKeys fs = [] then .ok fs.shallowRenamed.asEntries
      else .error (unknownFault (unknownKeys fs)) := by
  simp only [checkedEntries, entriesOf_record h, bind, Except.bind, renameShallow_asEntries,
    unknownSettingKeys_asEntries, List.isEmpty_map]
  by_cases hU : unknownKeys fs = []
  · simp [hU, pure, Except.pure]
  · simp [hU, sortKeys_str, unknownFault, pure, Except.pure, throw, throwThe, MonadExceptOf.throw]

/-! ## Nesting depth -/

/-- A value stored in a record lies at least one level below it. -/
theorem Value.depth_lt_of_mem {fs : Record} {p : String × Value} (h : p ∈ fs) :
    p.2.depth < (Value.record fs).depth := by
  rw [Value.depth]
  apply Nat.lt_succ_of_le
  exact List.le_max_of_le (List.mem_map.mpr ⟨⟨p, h⟩, List.mem_attach _ _, rfl⟩) le_rfl

theorem Record.mem_of_lookup_eq_some {fs : Record} {k : String} {v : Value}
    (h : fs.lookup k = some v) : (k, v) ∈ fs := by
  obtain ⟨l₁, l₂, rfl, -⟩ := List.lookup_eq_some_iff.mp h
  simp

/-- A configuration under the `properties` of a mapping lies two levels below the mapping. -/
theorem Value.depth_lt_of_properties {fs ps : Record} {e : String × Value}
    (hp : fs.lookup "properties" = some (.record ps)) (he : e ∈ ps) :
    e.2.depth + 1 < (Value.record fs).depth := by
  have hBelow := Value.depth_lt_of_mem he
  have hProps := Value.depth_lt_of_mem (Record.mem_of_lookup_eq_some hp)
  simp only at hProps
  omega

/-! ## The `properties` entry -/

/-- A scan of a mapping's entries that answers from its first `properties` entry reads the
value `lookup` finds there. -/
theorem scan_properties {β : Type} {g : List (String × Value) → β} {below : Value → β} {d : β}
    (hNil : g [] = d)
    (hCons : ∀ k v rest, g ((k, v) :: rest) = if k = "properties" then below v else g rest)
    (fs : Record) : g fs = (fs.lookup "properties").elim d below := by
  induction fs with
  | nil => exact hNil
  | cons p rest ih =>
    obtain ⟨k, v⟩ := p
    rw [hCons, List.lookup_cons]
    by_cases hk : k = "properties"
    · subst hk
      simp
    · simp [hk, beq_false_of_ne (Ne.symm hk), ih]

theorem firstUnknownIn_eq (fs : Record) :
    firstUnknownIn fs = (fs.lookup "properties").elim none firstUnknownBelow :=
  scan_properties (by simp [firstUnknownIn]) (fun _ _ _ => by simp [firstUnknownIn]) fs

/-- The first unknown keys among nested configurations are the first unknown keys of one of
them. -/
theorem firstUnknownAmong_eq_some {ps : List (String × Value)} {us : List String}
    (h : firstUnknownAmong ps = some us) : ∃ e ∈ ps, firstUnknown e.2 = some us := by
  induction ps with
  | nil => cases h
  | cons e rest ih =>
    obtain ⟨k, x⟩ := e
    rw [firstUnknownAmong] at h
    cases hx : firstUnknown x with
    | some vs =>
      rw [hx, Option.some_or] at h
      exact ⟨(k, x), List.mem_cons_self, h ▸ hx⟩
    | none =>
      rw [hx, Option.none_or] at h
      obtain ⟨e, he, hu⟩ := ih h
      exact ⟨e, List.mem_cons_of_mem _ he, hu⟩

section Shaped

variable {processes : String → Option Procedure}

theorem fieldsIn_eq (fs : Record) :
    fieldsIn processes fs = (fs.lookup "properties").elim none (fieldsBelow processes) :=
  scan_properties (by simp [fieldsIn]) (fun _ _ _ => by simp [fieldsIn]) fs

theorem propertiesShapedIn_eq (fs : Record) :
    propertiesShapedIn fs = (fs.lookup "properties").elim true (propertiesShaped) :=
  scan_properties (by simp [propertiesShapedIn]) (fun _ _ _ => by simp [propertiesShapedIn]) fs

/-- A shaped mapping: distinct keys and a shaped `properties` value. -/
theorem configShaped_record {fs : Record} (h : configShaped (.record fs) = true) :
    fs.keys.Nodup ∧ ∀ x ∈ fs.lookup "properties", propertiesShaped x = true := by
  simp only [configShaped, Bool.and_eq_true, decide_eq_true_eq] at h
  obtain ⟨hKeys, hProps⟩ := h
  refine ⟨hKeys, fun x hx => ?_⟩
  rw [propertiesShapedIn_eq, Option.mem_def.mp hx] at hProps
  exact hProps

/-- What reading a shaped configuration gives: the fault of its first unknown keys, or the
extraction of its shape. -/
def readResult (processes : String → Option Procedure) (v : Value) : Except Fault Extraction :=
  match firstUnknown v with
  | some us => .error (unknownFault us)
  | none => .ok (configOf processes v)

theorem readField_of_ne_null {R : Value → Except Fault Extraction} {x : Value} (k : String)
    (h : x ≠ .null) : readField R k x = (fun e => (k, some e)) <$> R x := by
  unfold readField
  split
  · exact absurd rfl h
  · rfl

theorem fieldsAmong_cons_of_ne_null {x : Value} (k : String) (rest : List (String × Value))
    (h : x ≠ .null) :
    fieldsAmong processes ((k, x) :: rest) =
      (k, some (configOf processes x)) :: fieldsAmong processes rest := by
  simp [fieldsAmong]

theorem nestedShaped_cons_of_ne_null {x : Value} (k : String) (rest : List (String × Value))
    (h : x ≠ .null) :
    nestedShaped ((k, x) :: rest) =
      (configShaped x && nestedShaped rest) := by
  simp [nestedShaped]

/-- Nested configurations read one after another, each as `readResult` says: the fault of the
first with unknown keys, or their fields. -/
theorem mapM_readField {R : Value → Except Fault Extraction} (ps : List (String × Value))
    (hShaped : nestedShaped ps = true)
    (hR : ∀ e ∈ ps, configShaped e.2 = true → R e.2 = readResult processes e.2) :
    ps.mapM (fun e => readField R e.1 e.2) =
      match firstUnknownAmong ps with
      | some us => .error (unknownFault us)
      | none => .ok (fieldsAmong processes ps) := by
  induction ps with
  | nil => rfl
  | cons e rest ih =>
    obtain ⟨k, x⟩ := e
    have hRest : ∀ e ∈ rest, configShaped e.2 = true → R e.2 = readResult processes e.2 :=
      fun e he => hR e (List.mem_cons_of_mem _ he)
    by_cases hx : x = .null
    · subst hx
      simp only [nestedShaped] at hShaped
      simp only [List.mapM_cons, firstUnknownAmong, firstUnknown, Option.none_or]
      rw [ih hShaped hRest]
      cases firstUnknownAmong rest <;> rfl
    · rw [nestedShaped_cons_of_ne_null k rest hx, Bool.and_eq_true] at hShaped
      obtain ⟨hxShaped, hRestShaped⟩ := hShaped
      have hRx : R x = readResult processes x := hR (k, x) (by simp) hxShaped
      rw [List.mapM_cons, readField_of_ne_null k hx, hRx, fieldsAmong_cons_of_ne_null k rest hx,
        firstUnknownAmong]
      unfold readResult
      cases firstUnknown x with
      | some us => rfl
      | none =>
        simp only [Option.none_or]
        rw [ih hRestShaped hRest]
        cases firstUnknownAmong rest <;> rfl

/-- The settings read from the renamed entries are the mapping's settings. -/
theorem settingsFrom_shallowRenamed (fs : Record) :
    settingsFrom fs.shallowRenamed.asEntries (settingsOf fs).query = settingsOf fs := by
  simp [settingsFrom, settingsOf, Record.lookupEntry_asEntries,
    Record.lookup_shallowRenamed_shallow, Record.lookup_shallowRenamed_of_ne]

theorem readFields_shaped {R : Value → Except Fault Extraction} {fs : Record}
    (hProps : ∀ x ∈ fs.lookup "properties", propertiesShaped x = true)
    (hR : ∀ ps, fs.lookup "properties" = some (.record ps) →
      ∀ e ∈ ps, configShaped e.2 = true → R e.2 = readResult processes e.2) :
    readFields R (fs.lookup "properties") =
      match firstUnknownIn fs with
      | some us => .error (unknownFault us)
      | none => .ok (fieldsIn processes fs) := by
  rw [firstUnknownIn_eq, fieldsIn_eq]
  cases hp : fs.lookup "properties" with
  | none => rfl
  | some x =>
    have hx := hProps x hp
    cases x with
    | null => rfl
    | record ps =>
      simp only [propertiesShaped, Bool.and_eq_true] at hx
      simp only [readFields, Option.elim, firstUnknownBelow, fieldsBelow]
      rw [mapM_readField ps hx.2 (hR ps hp)]
      cases firstUnknownAmong ps <;> rfl
    | _ => simp [propertiesShaped] at hx

/-- Reading a shaped configuration within more levels than it has gives the fault of its
first mapping with unknown keys, or the extraction of its shape. The induction is on the
levels: the configurations under `properties` lie two levels below their mapping. -/
theorem ofValueWithin_shaped (fuel : Nat) :
    ∀ v : Value, v.depth < fuel → configShaped v = true →
      ofValueWithin processes fuel true v = readResult processes v := by
  induction fuel with
  | zero => exact fun v h => absurd h (Nat.not_lt_zero _)
  | succ fuel ih =>
    intro v hDepth hShaped
    cases v with
    | record fs =>
      obtain ⟨hKeys, hProps⟩ := configShaped_record hShaped
      have hR : ∀ ps, fs.lookup "properties" = some (.record ps) → ∀ e ∈ ps,
          configShaped e.2 = true →
            ofValueWithin processes fuel true e.2 = readResult processes e.2 := by
        intro ps hps e he hShapedE
        have hBelow := Value.depth_lt_of_properties hps he
        exact ih e.2 (by omega) hShapedE
      rw [ofValueWithin, checkedEntries_record hKeys]
      unfold readResult
      by_cases hU : unknownKeys fs = []
      · simp only [if_pos hU, firstUnknown, Bool.true_and, bind, Except.bind]
        rw [lookupEntry_renamed fs (by decide) (by decide), readFields_shaped hProps hR,
          lookupEntry_renamed fs (by decide) (by decide),
          lookupEntry_renamed fs (by decide) (by decide)]
        cases firstUnknownIn fs with
        | some us => rfl
        | none =>
          -- the query and the process are read as the mapping's settings read them
          rw [show readQuery true (fs.lookup "query") = (settingsOf fs).query from rfl,
            settingsFrom_shallowRenamed]
          rfl
      · simp [hU, firstUnknown, bind, Except.bind]
    | _ => simp [configShaped] at hShaped

/-- Reading a shaped configuration as plain data. -/
theorem ofValue_shaped {M : Value} (h : configShaped M = true) :
    Extraction.ofValue processes M = some <$> readResult processes M := by
  cases M with
  | record fs =>
    show some <$> ofValueWithin processes ((Value.record fs).depth + 1) true (.record fs) = _
    rw [ofValueWithin_shaped _ _ (Nat.lt_succ_self _) h]
  | _ => simp [configShaped] at h

theorem configShaped_of_mem {ps : List (String × Value)} (h : nestedShaped ps = true)
    {e : String × Value} (he : e ∈ ps) (hne : e.2 ≠ .null) : configShaped e.2 = true := by
  induction ps with
  | nil => cases he
  | cons p rest ih =>
    obtain ⟨k, x⟩ := p
    by_cases hx : x = .null
    · subst hx
      have hHead : e ≠ (k, .null) := fun he' => hne (by rw [he'])
      exact ih h (List.mem_of_ne_of_mem hHead he)
    · rw [nestedShaped_cons_of_ne_null k rest hx, Bool.and_eq_true] at h
      rcases List.mem_cons.mp he with rfl | hRest
      · exact h.1
      · exact ih h.2 hRest

/-- The unknown keys reported for a shaped configuration are distinct: they are keys of one of
its mappings. The induction is on the levels, as for the reading. -/
theorem firstUnknown_nodup (n : Nat) : ∀ v : Value, v.depth < n → configShaped v = true →
    ∀ us, firstUnknown v = some us → us.Nodup := by
  induction n with
  | zero => exact fun v h => absurd h (Nat.not_lt_zero _)
  | succ n ih =>
    intro v hDepth hShaped us hUs
    cases v with
    | record fs =>
      obtain ⟨hKeys, hProps⟩ := configShaped_record hShaped
      rw [firstUnknown] at hUs
      by_cases hU : unknownKeys fs = []
      · rw [if_pos hU, firstUnknownIn_eq] at hUs
        cases hp : fs.lookup "properties" with
        | none => simp [hp] at hUs
        | some x =>
          rw [hp] at hUs
          cases x with
          | record ps =>
            have hNested : nestedShaped ps = true := by
              have hx := hProps _ hp
              simp only [propertiesShaped, Bool.and_eq_true] at hx
              exact hx.2
            obtain ⟨e, he, hE⟩ := firstUnknownAmong_eq_some hUs
            have hne : e.2 ≠ .null := fun h => by simp [h, firstUnknown] at hE
            have hBelow := Value.depth_lt_of_properties hp he
            exact ih e.2 (by omega) (configShaped_of_mem hNested he hne) us hE
          | _ => simp [firstUnknownBelow] at hUs
      · rw [if_neg hU] at hUs
        cases hUs
        exact hKeys.filter _
    | _ => simp [configShaped] at hShaped

end Shaped

/-- Distinct keys sorted as text are in strictly increasing order. -/
theorem mergeSort_lt_of_nodup {us : List String} (h : us.Nodup) :
    (us.mergeSort fun a b => decide (a ≤ b)).Pairwise (· < ·) := by
  have hSorted := @List.pairwise_mergeSort String (fun a b => decide (a ≤ b))
    (fun _ _ _ hab hbc => decide_eq_true (le_trans (of_decide_eq_true hab) (of_decide_eq_true hbc)))
    (fun a b => by simpa using le_total a b) us
  have hDistinct := (List.mergeSort_perm us fun a b => decide (a ≤ b)).nodup_iff.mpr h
  exact (hSorted.and hDistinct).imp fun hab => lt_of_le_of_ne (of_decide_eq_true hab.1) hab.2

/-- Reading a shaped configuration tree written as plain data. When some mapping has keys no
setting has, the reading fails with the keys of the first such mapping in pre-order, listed in
increasing order; otherwise it gives the extraction of the tree's shape, and applying the data
to a page is applying that extraction. -/
theorem ofValue_first_unknown (processes : String → Option Procedure) {M : Value}
    (hM : configShaped M = true) :
    match firstUnknown M with
    | some us => ∃ ks : List String, ks.Perm us ∧ ks.Pairwise (· < ·) ∧
        Extraction.ofValue processes M = .error (.unknownSettings (listKeys (ks.map .str)))
    | none => Extraction.ofValue processes M = .ok (some (configOf processes M)) ∧
        ∀ doc target, (Extraction.ofValue processes M >>= fun e => extract doc e target) =
          extract doc (some (configOf processes M)) target := by
  have hRead := @ofValue_shaped processes M hM
  unfold readResult at hRead
  cases hU : firstUnknown M with
  | some us =>
    rw [hU] at hRead
    have hNodup := firstUnknown_nodup _ M (Nat.lt_succ_self _) hM us hU
    exact ⟨_, List.mergeSort_perm us _, mergeSort_lt_of_nodup hNodup, hRead⟩
  | none =>
    rw [hU] at hRead
    refine ⟨hRead, fun doc target => ?_⟩
    rw [hRead]
    rfl

/-- A nested mapping with a misspelt setting: the reading names the misspelt key. -/
theorem ofValue_first_unknown_nested :
    let M : Value := .record [("query", .str "div.g"),
      ("properties", .record [("title", .record [("query", .str "h3")]),
        ("link", .record [("query", .str "a"), ("atribute", .str "href")])])]
    configShaped M = true ∧
      match firstUnknown M with
      | some us => ∃ ks : List String, ks.Perm us ∧ ks.Pairwise (· < ·) ∧
          Extraction.ofValue (fun _ => none) M =
            .error (.unknownSettings (listKeys (ks.map .str)))
      | none => Extraction.ofValue (fun _ => none) M = .ok (some (configOf (fun _ => none) M)) ∧
          ∀ doc target, (Extraction.ofValue (fun _ => none) M >>= fun e => extract doc e target) =
            extract doc (some (configOf (fun _ => none) M)) target := by
  intro M
  exact ⟨by decide, @ofValue_first_unknown (fun _ => none) M (by decide)⟩

end SearchPage
