import Mathlib.Data.List.Nodup
import RowQuery.Proofs.Json.Fields
import RowQuery.Proofs.Steps
import RowQuery.Settings.Basic

/-!
# Layers of settings

What a name has after a layer is laid over some values is a matter of the entries whose keys lead to
it (`field?_lay`): without any it is what it was, and an entry that gives the name as a whole
decides unless another one comes behind it. So a variable in the scope of the program that names a
setting decides it whatever is below (`Setting.Decided.given`), and the settings depend on no
variables but those that lead to one of them (`ofLayers_congr`).
-/

namespace RowQuery.Settings

/-! ## Values of a name -/

/-- Whether a key leads to a name: to the whole value or to a part of it. -/
def leadsTo (name key : String) : Bool := (Path.ofKey key).name == name

/-- A key leads to the name of its path. -/
theorem leadsTo_iff {name key : String} : leadsTo name key ↔ (Path.ofKey key).name = name :=
  beq_iff_eq

/-- The value of a name after an entry whose key leads to it. -/
def laid (old? : Option Value) (entry : String × Value) : Option Value :=
  some ((old?.getD (.scalar .null)).set (Path.ofKey entry.1).steps entry.2)

/-- The values after a layer is laid over them. -/
def Values.lay (values : Values) (layer : Layer) : Values :=
  layer.foldl (fun values entry => Values.set values (.ofKey entry.1) entry.2) values

/-- The last layer is laid over the values of those below it. -/
theorem Values.ofLayers_concat (below : List Layer) (layer : Layer) :
    Values.ofLayers (below ++ [layer]) = (Values.ofLayers below).lay layer := by
  rw [Values.ofLayers, List.flatten_concat, List.foldl_append]
  rfl

/-- An entry changes the name that its key leads to, and no other. -/
theorem field?_set (name : String) (values : Values) (entry : String × Value) :
    Json.field? name (Values.set values (.ofKey entry.1) entry.2) =
      if leadsTo name entry.1 then laid (Json.field? name values) entry
      else Json.field? name values := by
  rw [Values.set, field?_insertField]
  by_cases hname : (Path.ofKey entry.1).name = name
  · rw [if_pos hname, if_pos (leadsTo_iff.2 hname), hname]
    rfl
  · have hleads : ¬ leadsTo name entry.1 := mt leadsTo_iff.1 hname
    rw [if_neg hname, if_neg hleads]

/-- What a name has after a layer is what the entries that lead to it make of what it had. -/
theorem field?_lay (name : String) (values : Values) (layer : Layer) :
    Json.field? name (values.lay layer) =
      (layer.filter fun entry => leadsTo name entry.1).foldl laid (Json.field? name values) := by
  induction layer generalizing values with
  | nil => rfl
  | cons entry layer ih =>
    rw [Values.lay, List.foldl_cons]
    refine (ih _).trans ?_
    rw [field?_set, List.filter_cons]
    split <;> rfl

/-- What a name has after the last layer. -/
theorem field?_ofLayers (name : String) (below : List Layer) (layer : Layer) :
    Json.field? name (Values.ofLayers (below ++ [layer])) =
      (layer.filter fun entry => leadsTo name entry.1).foldl laid
        (Json.field? name (Values.ofLayers below)) := by
  rw [Values.ofLayers_concat, field?_lay]

/-- A name that no entry leads to has no value. -/
theorem field?_ofLayers_eq_none {name : String} {layers : List Layer}
    (h : ∀ layer ∈ layers, ∀ entry ∈ layer, ¬ leadsTo name entry.1) :
    Json.field? name (Values.ofLayers layers) = none := by
  induction layers using List.reverseRecOn with
  | nil => rfl
  | append_singleton layers layer ih =>
    rw [List.forall_mem_append, List.forall_mem_singleton] at h
    rw [field?_ofLayers, List.filter_eq_nil_iff.2 h.2]
    exact ih h.1

/-! ## Variables -/

/-- What stands behind the scope and an underscore in the name of a variable, in lower case. -/
def scopedKey? (scope var : String) : Option String :=
  let start := (Text.lower (scope ++ "_")).toList
  let name := (Text.lower var).toList
  if start.isPrefixOf name then some (String.ofList (name.drop start.length)) else none

/-- Whether a variable is in a scope. -/
def inScope (scope : String) (v : String × String) : Bool := (scopedKey? scope v.1).isSome

/-- Whether a variable is in a scope and what stands behind it leads to a name. -/
def aimsAt (scope name : String) (v : String × String) : Bool :=
  (scopedKey? scope v.1).any (leadsTo name)

/-- A variable gives a name as a whole. -/
def Gives (scope name var : String) : Prop :=
  (scopedKey? scope var).map Path.ofKey = some ⟨name, []⟩

variable {scope name var : String} {env env' : List (String × String)}

/-- A variable that gives a name aims at it. -/
theorem Gives.aimsAt (h : Gives scope name var) (value : String) :
    aimsAt scope name (var, value) := by
  obtain ⟨key, hkey, hpath⟩ := Option.map_eq_some_iff.1 h
  rw [Settings.aimsAt, hkey, Option.any_some, leadsTo_iff, hpath]

/-- A variable that aims at a name is in the scope. -/
theorem inScope_of_aimsAt {v : String × String} (h : aimsAt scope name v) : inScope scope v := by
  unfold aimsAt at h
  unfold inScope
  cases hkey : scopedKey? scope v.1 with
  | none => rw [hkey] at h; cases h
  | some key => rfl

/-- The entries of variables are their values as texts, under what stands behind the scope. -/
theorem Layer.ofVariables_eq (scope : String) (env : List (String × String)) :
    Layer.ofVariables scope env = env.filterMap fun v =>
      (scopedKey? scope v.1).map fun key => (key, .scalar (.text v.2)) := by
  refine List.filterMap_congr fun v _ => ?_
  unfold scopedKey?
  dsimp only
  split <;> rfl

/-- The entries that lead to a name are those of the variables that aim at it. -/
theorem filter_ofVariables (scope name : String) (env : List (String × String)) :
    (Layer.ofVariables scope env).filter (fun entry => leadsTo name entry.1) =
      Layer.ofVariables scope (env.filter (aimsAt scope name)) := by
  rw [Layer.ofVariables_eq, Layer.ofVariables_eq, List.filter_filterMap, List.filterMap_filter]
  refine List.filterMap_congr fun v _ => ?_
  unfold aimsAt
  cases scopedKey? scope v.1 with
  | none => rfl
  | some key => rfl

/-! ## Settings one by one -/

/-- A setting: its name, how a value gives it, and what it is without a value. -/
structure Setting (α : Type) where
  name : String
  decode : Value → Except SettingsError α
  default : α
  /-- As a key, the name leads to its whole value. -/
  whole : Path.ofKey name = ⟨name, []⟩
  /-- The order of the keys of a table does not matter. -/
  unordered : ∀ keys keys' : List String, keys.Perm keys' →
    decode (.table keys) = decode (.table keys')
  /-- An error names the setting. -/
  fails : ∀ v, FailsOnly (· = .invalidValue name) (decode v)

/-- A table gives a format by its only key, if it has no more. -/
theorem formatOf_table_of_perm (keys keys' : List String) (h : keys.Perm keys') :
    formatOf (.table keys) = formatOf (.table keys') := by
  rcases keys with _ | ⟨key, _ | ⟨second, keys⟩⟩
  · rw [h.nil_eq]
  · rw [List.singleton_perm.1 h]
  · rcases keys' with _ | ⟨key', _ | ⟨second', keys'⟩⟩
    · cases h.length_eq
    · cases h.length_eq
    · rfl

/-- A value that names no format is reported as one of the format. -/
theorem failsOnly_formatOf (v : Value) : FailsOnly (· = .invalidValue "format") (formatOf v) := by
  intro e he
  unfold formatOf at he
  dsimp only at he
  split at he
  · split at he <;> cases he
    rfl
  · split at he <;> cases he
    rfl
  · cases he
    rfl

/-- A value that writes no log filter is reported as one of the log filter. -/
theorem failsOnly_logFilterOf (v : Value) :
    FailsOnly (· = .invalidValue "log_filter") (logFilterOf v) := by
  intro e he
  unfold logFilterOf at he
  split at he <;> cases he <;> rfl

/-- The format of reports. -/
def Setting.format : Setting OutputFormat where
  name := "format"
  decode := formatOf
  default := .text
  whole := by decide
  unordered := formatOf_table_of_perm
  fails := failsOnly_formatOf

/-- What the log keeps. -/
def Setting.logFilter : Setting String where
  name := "log_filter"
  decode := logFilterOf
  default := "warn"
  whole := by decide
  unordered _ _ _ := rfl
  fails := failsOnly_logFilterOf

/-- What layers make of a setting. -/
def Setting.outcome {α : Type} (k : Setting α) (layers : List Layer) : Except SettingsError α :=
  setting (Values.ofLayers layers) k.name k.decode k.default

/-- The names of the settings. -/
def settingNames : List String := [Setting.format.name, Setting.logFilter.name]

/-- Layers give one setting after the other. -/
theorem ofLayers_eq (layers : List Layer) : ofLayers layers = do
    let format ← Setting.format.outcome layers
    let logFilter ← Setting.logFilter.outcome layers
    return { format, logFilter } := rfl

/-- Layers give settings when they give each of them. -/
theorem ofLayers_eq_ok {layers : List Layer} {s : Settings} : ofLayers layers = .ok s ↔
    Setting.format.outcome layers = .ok s.format ∧
      Setting.logFilter.outcome layers = .ok s.logFilter := by
  obtain ⟨format, logFilter⟩ := s
  rw [ofLayers_eq]
  constructor
  · intro h
    obtain ⟨f, hf, h⟩ := bind_eq_ok.1 h
    obtain ⟨l, hl, h⟩ := bind_eq_ok.1 h
    cases h
    exact ⟨hf, hl⟩
  · rintro ⟨hformat, hlogFilter⟩
    exact bind_eq_ok.2 ⟨format, hformat, bind_eq_ok.2 ⟨logFilter, hlogFilter, rfl⟩⟩

section
variable {α : Type} {k : Setting α}

/-- Layers that do not give a setting are reported by its name. -/
theorem Setting.failsOnly_outcome (k : Setting α) (layers : List Layer) :
    FailsOnly (· = .invalidValue k.name) (k.outcome layers) := by
  unfold outcome setting
  split
  · exact k.fails _
  · exact .ok _

/-- A setting depends on the variables that aim at it, besides what is below. -/
theorem Setting.outcome_congr
    (h : env.filter (aimsAt scope k.name) = env'.filter (aimsAt scope k.name))
    (below : List Layer) : k.outcome (below ++ [Layer.ofVariables scope env]) =
      k.outcome (below ++ [Layer.ofVariables scope env']) := by
  unfold Setting.outcome setting
  rw [field?_ofLayers, field?_ofLayers, filter_ofVariables, filter_ofVariables, h]

/-- New keys come before those of a table, the last one first. -/
theorem foldl_insert {keys old : List String} (h : keys.Nodup) (hold : ∀ key ∈ keys, key ∉ old) :
    keys.foldl (fun keys key => keys.insert key) old = keys.reverse ++ old := by
  induction keys generalizing old with
  | nil => rfl
  | cons key keys ih =>
    rw [List.nodup_cons] at h
    rw [List.forall_mem_cons] at hold
    have hnew : ∀ k ∈ keys, k ∉ key :: old := fun k hk hmem => by
      rcases List.mem_cons.1 hmem with rfl | hmem
      · exact h.1 hk
      · exact hold.2 k hk hmem
    rw [List.foldl_cons, List.insert_of_not_mem hold.1, ih h.2 hnew, List.reverse_cons,
      List.append_assoc]
    rfl

/-- A value that is set where none was is decoded like itself. -/
theorem Setting.decode_set (k : Setting α) {v : Value} (h : v.keys.Nodup) :
    k.decode ((Value.scalar .null).set [] v) = k.decode v := by
  cases v with
  | scalar | list => rfl
  | table keys =>
    have hkeys : keys.foldl (fun keys key => keys.insert key) [] = keys.reverse :=
      (foldl_insert h fun _ _ => List.not_mem_nil).trans (List.append_nil _)
    refine (congrArg (fun keys => k.decode (.table keys)) hkeys).trans ?_
    exact k.unordered _ _ keys.reverse_perm

/-- Which layer decides a setting, if no layer changes a part of it only. -/
structure Setting.Decided (k : Setting α) (env : List (String × String)) (scope : String) :
    Prop where
  /-- The last variable that aims at the setting decides if it gives the setting as a whole,
  whatever is below. -/
  given : ∀ below before var value after, env = before ++ (var, value) :: after →
    Gives scope k.name var → (∀ v ∈ after, ¬ aimsAt scope k.name v) →
    k.outcome (below ++ [Layer.ofVariables scope env]) = k.decode (.scalar (.text value))
  /-- What is below decides if no variable aims at the setting. -/
  notGiven : ∀ below, (∀ v ∈ env, ¬ aimsAt scope k.name v) →
    k.outcome (below ++ [Layer.ofVariables scope env]) = k.outcome below
  /-- In a single layer, such as that of a file, the only entry that leads to the setting decides if
  it gives the setting as a whole. -/
  file : ∀ before key v after, Path.ofKey key = ⟨k.name, []⟩ → v.keys.Nodup →
    (∀ entry ∈ before ++ after, ¬ leadsTo k.name entry.1) →
    k.outcome [before ++ (key, v) :: after] = k.decode v
  /-- The default decides if no entry of any layer leads to the setting. -/
  default : ∀ layers : List Layer, (∀ layer ∈ layers, ∀ entry ∈ layer, ¬ leadsTo k.name entry.1) →
    k.outcome layers = .ok k.default
  /-- A variable with the scope, an underscore and the setting as its name, in whatever case, gives
  the setting as a whole. -/
  named : ∀ var, Text.lower var = Text.lower (scope ++ "_") ++ k.name → Gives scope k.name var

/-- A text that is set takes the place of any value. -/
theorem laid_text {key value : String} (hkey : Path.ofKey key = ⟨name, []⟩) (old? : Option Value) :
    laid old? (key, .scalar (.text value)) = some (.scalar (.text value)) := by
  unfold laid
  rw [hkey]
  rfl

/-- A setting is decided by the last variable that gives it, by what is below if there is none, and
by its default if nothing is below. -/
theorem Setting.decided (k : Setting α) (env : List (String × String)) (scope : String) :
    k.Decided env scope where
  given below before var value after henv hgives hafter := by
    obtain ⟨key, hkey, hpath⟩ := Option.map_eq_some_iff.1 hgives
    have hlast : env.filter (aimsAt scope k.name) =
        before.filter (aimsAt scope k.name) ++ [(var, value)] := by
      rw [henv, List.filter_append, List.filter_cons_of_pos (hgives.aimsAt value),
        List.filter_eq_nil_iff.2 hafter]
    unfold Setting.outcome setting
    rw [field?_ofLayers, filter_ofVariables, hlast, Layer.ofVariables_eq, List.filterMap_append,
      List.foldl_append]
    simp only [List.filterMap_cons, hkey, Option.map_some, List.filterMap_nil, List.foldl_cons,
      List.foldl_nil, laid_text hpath]
  notGiven below hnone := by
    unfold Setting.outcome setting
    rw [field?_ofLayers, filter_ofVariables, List.filter_eq_nil_iff.2 hnone]
    rfl
  file before key v after hkey hv hothers := by
    have hleads : leadsTo k.name key := leadsTo_iff.2 (congrArg Path.name hkey)
    have honly : (before ++ (key, v) :: after).filter (fun entry => leadsTo k.name entry.1) =
        [(key, v)] := by
      rw [List.forall_mem_append] at hothers
      rw [List.filter_append, List.filter_eq_nil_iff.2 hothers.1, List.nil_append,
        List.filter_cons, if_pos hleads, List.filter_eq_nil_iff.2 hothers.2]
    have hlaid : laid none (key, v) = some ((Value.scalar .null).set [] v) := by
      rw [laid, hkey]
      rfl
    have hvalue : Json.field? k.name (Values.ofLayers [before ++ (key, v) :: after]) =
        some ((Value.scalar .null).set [] v) := by
      refine (field?_ofLayers k.name [] _).trans ?_
      rw [honly]
      exact hlaid
    unfold Setting.outcome setting
    rw [hvalue]
    exact k.decode_set hv
  default layers hnone := by
    unfold Setting.outcome setting
    rw [field?_ofLayers_eq_none hnone]
  named var hvar := by
    have hkey : scopedKey? scope var = some k.name := by
      unfold scopedKey?
      dsimp only
      rw [hvar, String.toList_append,
        if_pos (List.isPrefixOf_iff_prefix.2 (List.prefix_append _ _)), List.drop_left,
        String.ofList_toList]
    rw [Gives, hkey, Option.map_some, k.whole]

end

/-- Layers that give no settings are reported by the name of one. -/
theorem failsOnly_ofLayers (layers : List Layer) :
    FailsOnly (fun e => ∃ name ∈ settingNames, e = .invalidValue name) (ofLayers layers) := by
  have hsetting {α : Type} {k : Setting α} (hk : k.name ∈ settingNames) :
      FailsOnly (fun e => ∃ name ∈ settingNames, e = .invalidValue name) (k.outcome layers) :=
    fun e he => ⟨_, hk, k.failsOnly_outcome layers e he⟩
  have hformat := hsetting (k := .format) List.mem_cons_self
  have hlogFilter := hsetting (k := .logFilter) (List.mem_cons_of_mem _ List.mem_cons_self)
  rw [ofLayers_eq]
  exact hformat.bind fun _ _ => hlogFilter.bind fun _ _ => .ok _

/-- The settings depend on the variables that aim at one of them, besides what is below. -/
theorem ofLayers_congr {below : List Layer}
    (h : ∀ name ∈ settingNames, env.filter (aimsAt scope name) = env'.filter (aimsAt scope name)) :
    ofLayers (below ++ [Layer.ofVariables scope env]) =
      ofLayers (below ++ [Layer.ofVariables scope env']) := by
  have hformat := h _ List.mem_cons_self
  have hlogFilter := h _ (List.mem_cons_of_mem _ List.mem_cons_self)
  rw [ofLayers_eq, ofLayers_eq, Setting.outcome_congr hformat, Setting.outcome_congr hlogFilter]

end RowQuery.Settings
