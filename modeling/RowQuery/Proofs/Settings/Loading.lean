import Mathlib
import RowQuery.CommandLine.Run
import RowQuery.Proofs.Settings.Layers

/-!
# What settings depend on

A run looks for its settings in the file at one path, and in the variables of one scope
(`Settings.layered`), whatever the formats of files are and in whatever order their extensions are
tried. Which files stand elsewhere does not matter, with one exception: if no file stands at the
path, because nothing or a directory does, a file with an extension added to the path is read in its
place (`SameFile.extended`). So a path that is asked for need not be that of a file
(`Settings.load_of_missing`).
-/

namespace RowQuery

namespace Settings

/-! ## Files -/

/-- Two runs have the same file at a path: the same stands there, and if it is no file, the same
files stand at the path with an extension added. -/
structure SameFile (formats : List FileFormat) (files files' : Files) (path : String) : Prop where
  entry : files path = files' path
  extended : files.text? path = none → ∀ ext ∈ extensions formats,
    files.text? (path ++ "." ++ ext) = files'.text? (path ++ "." ++ ext)

variable {formats : List FileFormat} {files files' : Files} {path file : String}

/-- What stands at a path decides which text is there. -/
theorem text?_congr (h : files path = files' path) : files.text? path = files'.text? path := by
  unfold Files.text?
  rw [h]

/-- A file at a path is the one that the path stands for. -/
theorem fileAt?_of_some {text : String} (h : files.text? path = some text) :
    fileAt? formats files path = some path :=
  List.find?_cons_of_pos (Option.isSome_of_eq_some h)

/-- A path where no file stands stands for a file with an extension added to it. -/
theorem fileAt?_of_none (h : files.text? path = none) : fileAt? formats files path =
    ((extensions formats).map fun ext => path ++ "." ++ ext).find?
      fun file => (files.text? file).isSome :=
  List.find?_cons_of_neg (by rw [h]; exact Bool.false_ne_true)

/-- The file that a path stands for has a text. -/
theorem exists_text_of_fileAt? (h : fileAt? formats files path = some file) :
    ∃ text, files.text? file = some text :=
  Option.isSome_iff_exists.1 (List.find?_some (p := fun file => (files.text? file).isSome) h)

namespace SameFile

/-- A run has the same file as itself. -/
theorem refl : SameFile formats files files path := ⟨rfl, fun _ _ _ => rfl⟩

/-- The path stands for the same file. -/
theorem fileAt?_eq (h : SameFile formats files files' path) :
    fileAt? formats files path = fileAt? formats files' path := by
  cases htext : files.text? path with
  | some text =>
    rw [fileAt?_of_some htext, fileAt?_of_some ((text?_congr h.entry).symm.trans htext)]
  | none =>
    rw [fileAt?_of_none htext, fileAt?_of_none ((text?_congr h.entry).symm.trans htext)]
    refine List.find?_congr fun file hfile => ?_
    obtain ⟨ext, hext, rfl⟩ := List.mem_map.1 hfile
    rw [h.extended htext ext hext]

/-- The file has the same text. -/
theorem text?_eq (h : SameFile formats files files' path)
    (hfile : fileAt? formats files path = some file) : files.text? file = files'.text? file := by
  cases htext : files.text? path with
  | some text =>
    rw [fileAt?_of_some htext] at hfile
    cases hfile
    exact text?_congr h.entry
  | none =>
    rw [fileAt?_of_none htext] at hfile
    obtain ⟨ext, hext, rfl⟩ := List.mem_map.1 (List.mem_of_find?_eq_some hfile)
    exact h.extended htext ext hext

/-- The file gives the same layer. -/
theorem fileLayer_eq (h : SameFile formats files files' path) :
    fileLayer formats files path = fileLayer formats files' path := by
  unfold fileLayer
  rw [← h.fileAt?_eq]
  cases hfile : fileAt? formats files path with
  | none => rfl
  | some file => rw [Option.bind_some, Option.bind_some, h.text?_eq hfile]

end SameFile

/-- A path gives no layer as no file is found when it stands for none. -/
theorem fileLayer_eq_noFile : fileLayer formats files path = .error (.noFile path) ↔
    ∀ file ∈ filePaths formats path, files.text? file = none := by
  have hnone : fileAt? formats files path = none ↔
      ∀ file ∈ filePaths formats path, files.text? file = none := by
    rw [fileAt?, List.find?_eq_none]
    simp only [Option.not_isSome_iff_eq_none]
  rw [← hnone]
  unfold fileLayer
  cases hfile : fileAt? formats files path with
  | none => simp
  | some file =>
    obtain ⟨text, htext⟩ := exists_text_of_fileAt? hfile
    simp only [Option.bind_some, htext, Option.map_some]
    cases formatAt? formats file with
    | none => simp
    | some format => cases hlayer : format.layer? (withoutMark text) <;> simp [hlayer]

/-- A path that stands for another file gives the layer of that file. -/
theorem fileLayer_of_fileAt? (h : fileAt? formats files path = some file) :
    fileLayer formats files path = fileLayer formats files file := by
  obtain ⟨text, htext⟩ := exists_text_of_fileAt? h
  unfold fileLayer
  rw [h, fileAt?_of_some htext, Option.bind_some, htext]
  rfl

/-- A text gives the layer that is read from it, if one is. -/
theorem elim_eq_ok {layer? : Option Layer} {e : SettingsError} {layer : Layer} :
    layer?.elim (.error e) .ok = (.ok layer : Except SettingsError Layer) ↔
      layer? = some layer := by
  cases layer? <;> simp

/-- The tables of a file have each key once. -/
theorem tablesNodup_of_fileLayer {layer : Layer} (h : fileLayer formats files path = .ok layer) :
    layer.TablesNodup := by
  unfold fileLayer at h
  split at h
  · cases h
  · split at h
    · next format _ => exact format.tablesNodup _ _ (elim_eq_ok.1 h)
    · cases h

/-! ## Sources -/

/-- The layers below the variables: that of a file, if there is one. -/
def fileLayers (formats : List FileFormat) (files : Files) :
    Option String → Except SettingsError (List Layer)
  | some path => (fileLayer formats files path).map fun layer => [layer]
  | none => .ok []

variable {env env' : List (String × String)} {path? : Option String} {scope : String}

/-- The variables are laid over the layer of the file. -/
theorem ofSources_eq (formats : List FileFormat) (files : Files) (env : List (String × String))
    (path? : Option String) (scope : String) : ofSources formats files env path? scope =
      (do ofLayers ((← fileLayers formats files path?) ++ [Layer.ofVariables scope env])) := by
  cases path? <;> rfl

/-- The tables of the layers below the variables have each key once. -/
theorem tablesNodup_of_fileLayers {below : List Layer}
    (h : fileLayers formats files path? = .ok below) : ∀ layer ∈ below, layer.TablesNodup := by
  cases path? with
  | none => cases h; exact fun _ hlayer => absurd hlayer List.not_mem_nil
  | some path =>
    obtain ⟨layer, hlayer, rfl⟩ := map_eq_ok.1 h
    exact List.forall_mem_singleton.2 (tablesNodup_of_fileLayer hlayer)

/-- The same file gives the same layers. -/
theorem fileLayers_congr (h : ∀ path, path? = some path → SameFile formats files files' path) :
    fileLayers formats files path? = fileLayers formats files' path? := by
  cases path? with
  | none => rfl
  | some path => rw [fileLayers, fileLayers, (h path rfl).fileLayer_eq]

/-- Runs with the same file have the same settings if the same variables aim at each setting. -/
theorem ofSources_congr (hfile : ∀ path, path? = some path → SameFile formats files files' path)
    (henv : ∀ name ∈ settingNames,
      env.filter (aimsAt scope name) = env'.filter (aimsAt scope name)) :
    ofSources formats files env path? scope = ofSources formats files' env' path? scope := by
  rw [ofSources_eq, ofSources_eq, fileLayers_congr hfile]
  exact bind_congr_ok fun below _ => ofLayers_congr henv

/-- Variables that aim at a name are among those in the scope. -/
theorem filter_aimsAt_inScope (scope name : String) (env : List (String × String)) :
    (env.filter (inScope scope)).filter (aimsAt scope name) = env.filter (aimsAt scope name) := by
  rw [List.filter_filter]
  refine List.filter_congr fun v _ => ?_
  cases haims : aimsAt scope name v with
  | false => rfl
  | true => exact inScope_of_aimsAt haims

/-- If the same variables are in the scope, the same aim at a name. -/
theorem filter_aimsAt_congr (h : env.filter (inScope scope) = env'.filter (inScope scope))
    (name : String) : env.filter (aimsAt scope name) = env'.filter (aimsAt scope name) := by
  rw [← filter_aimsAt_inScope, h, filter_aimsAt_inScope]

/-- Of variables in another order, the same aim at a name if no more than one does. -/
theorem filter_aimsAt_of_perm {name : String}
    (h : (env.filter (inScope scope)).Perm (env'.filter (inScope scope)))
    (hone : (env.filter (aimsAt scope name)).length ≤ 1) :
    env.filter (aimsAt scope name) = env'.filter (aimsAt scope name) := by
  have hperm := h.filter (aimsAt scope name)
  rw [filter_aimsAt_inScope, filter_aimsAt_inScope] at hperm
  rcases hlist : env.filter (aimsAt scope name) with _ | ⟨v, _ | ⟨w, rest⟩⟩
  · rw [hlist] at hperm
    exact hperm.nil_eq
  · rw [hlist] at hperm
    exact List.singleton_perm.1 hperm
  · rw [hlist, List.length_cons, List.length_cons] at hone
    omega

/-! ## Runs -/

/-- What the settings of a run depend on, and which layer decides each of them. -/
structure Layered (formats : List FileFormat) (files : Files) (env : List (String × String))
    (paths : List String) (scope : String) : Prop where
  /-- Runs with the same first occupied path, the same file there and the same variables in the
  scope have the same settings, or fail alike. -/
  twoRuns : ∀ files' env' paths', firstOccupied? files paths = firstOccupied? files' paths' →
    (∀ path, firstOccupied? files paths = some path → SameFile formats files files' path) →
    env.filter (inScope scope) = env'.filter (inScope scope) →
    loadFrom files env paths scope formats = loadFrom files' env' paths' scope formats
  /-- The order of the variables does not matter if no two aim at one setting. -/
  reordered : ∀ env', (env.filter (inScope scope)).Perm (env'.filter (inScope scope)) →
    (∀ name ∈ settingNames, (env.filter (aimsAt scope name)).length ≤ 1) →
    loadFrom files env paths scope formats = loadFrom files env' paths scope formats
  /-- There are settings if the layer of the file can be read and the layers give each setting. -/
  loaded : ∀ s, loadFrom files env paths scope formats = .ok s ↔
    ∃ below, fileLayers formats files (firstOccupied? files paths) = .ok below ∧
      Setting.format.outcome (below ++ [Layer.ofVariables scope env]) = .ok s.format ∧
      Setting.logFilter.outcome (below ++ [Layer.ofVariables scope env]) = .ok s.logFilter
  /-- The tables of the file have each key once, as `Setting.Decided.file` asks for. -/
  tables : ∀ below, fileLayers formats files (firstOccupied? files paths) = .ok below →
    ∀ layer ∈ below, layer.TablesNodup
  /-- What decides the format. -/
  format : Setting.format.Decided env scope
  /-- What decides the log filter. -/
  logFilter : Setting.logFilter.Decided env scope
  /-- Without a file and variables in the scope the settings are the defaults. -/
  default : firstOccupied? files paths = none → (∀ v ∈ env, ¬ inScope scope v) →
    loadFrom files env paths scope formats = .ok {}

/-- The settings of a run are decided by the variables in its scope, then by the file at its first
occupied path, then by the defaults, and by nothing else. -/
theorem layered_loadFrom (formats : List FileFormat) (files : Files) (env : List (String × String))
    (paths : List String) (scope : String) : Layered formats files env paths scope where
  twoRuns files' env' paths' hpath hfile henv := by
    unfold loadFrom
    rw [← hpath]
    exact ofSources_congr hfile fun name _ => filter_aimsAt_congr henv name
  reordered env' hperm hone := by
    unfold loadFrom
    exact ofSources_congr (fun _ _ => .refl) fun name hname =>
      filter_aimsAt_of_perm hperm (hone name hname)
  loaded s := by
    rw [loadFrom, ofSources_eq, bind_eq_ok]
    simp only [ofLayers_eq_ok]
  tables below h := tablesNodup_of_fileLayers h
  format := Setting.decided .format env scope
  logFilter := Setting.decided .logFilter env scope
  default hpath henv := by
    have hnone (name : String) : ∀ v ∈ env, ¬ aimsAt scope name v := fun v hv haims =>
      henv v hv (inScope_of_aimsAt haims)
    rw [loadFrom, ofSources_eq, hpath]
    refine bind_eq_ok.2 ⟨[], rfl, ofLayers_eq_ok.2 ⟨?_, ?_⟩⟩
    · exact (Setting.decided .format env scope).notGiven [] (hnone _)
    · exact (Setting.decided .logFilter env scope).notGiven [] (hnone _)

/-! ## The file asked for -/

/-- Which file a run reads that may be asked for one. -/
structure Located (formats : List FileFormat) (files : Files) (env : List (String × String)) :
    Prop where
  /-- Runs that locate the same path, have the same file there and the same variables in the scope
  of the program have the same settings, or fail alike. -/
  twoRuns : ∀ files' env' asked? asked?', locate? files asked? = locate? files' asked?' →
    (∀ path, locate? files asked? = some path → SameFile formats files files' path) →
    env.filter (inScope defaultScope) = env'.filter (inScope defaultScope) →
    load files env asked? formats = load files' env' asked?' formats
  /-- The path that is asked for is located, whatever stands there. -/
  asked : ∀ path, locate? files (some path) = some path
  /-- If none is asked for, the settings are those from the default paths. -/
  notAsked : load files env none formats = loadFrom files env defaultPaths defaultScope formats
  /-- If a file stands at the path asked for, or with an extension added to it, that file gives the
  settings. -/
  found : ∀ path file, fileAt? formats files path = some file →
    load files env (some path) formats = load files env (some file) formats
  /-- No file is found exactly when none stands there. -/
  noFile : ∀ path, load files env (some path) formats = .error (.noFile path) ↔
    ∀ file ∈ path :: (extensions formats).map fun ext => path ++ "." ++ ext, files.text? file = none

/-- The settings come from the file that is located. -/
theorem located_load (formats : List FileFormat) (files : Files) (env : List (String × String)) :
    Located formats files env where
  twoRuns files' env' asked? asked?' hpath hfile henv := by
    unfold load
    rw [← hpath]
    exact ofSources_congr hfile fun name _ => filter_aimsAt_congr henv name
  asked path := rfl
  notAsked := rfl
  found path file h := by
    change ofSources formats files env (some path) _ = ofSources formats files env (some file) _
    rw [ofSources_eq, ofSources_eq, fileLayers, fileLayers, fileLayer_of_fileAt? h]
  noFile path := by
    change ofSources formats files env (some path) _ = _ ↔
      ∀ file ∈ filePaths formats path, files.text? file = none
    rw [← fileLayer_eq_noFile, ofSources_eq, bind_eq_error, fileLayers, map_eq_error]
    refine or_iff_left ?_
    rintro ⟨below, -, h⟩
    obtain ⟨name, -, hname⟩ := failsOnly_ofLayers _ _ h
    cases hname

/-- Nothing stands at the path asked for, but the settings are there: they come from the file with
an extension added to it. A file beside a directory counts in the same way. -/
theorem load_of_missing :
    let files := Files.ofList [("chosen.toml", .file "format = \"json\"\n")]
    let files' := Files.ofList [("chosen", .directory)]
    let files'' := Files.ofList [("chosen", .directory),
      ("chosen.toml", .file "format = \"json\"\n")]
    locate? files (some "chosen") = some "chosen" ∧ files.occupied "chosen" = false ∧
      load files [] (some "chosen") = .ok { format := .json } ∧
      files' "chosen" = files'' "chosen" ∧ firstOccupied? files' ["chosen"] = some "chosen" ∧
      firstOccupied? files'' ["chosen"] = some "chosen" ∧
      loadFrom files' [] ["chosen"] "S" ≠ loadFrom files'' [] ["chosen"] "S" := by
  intro files files' files''
  have hnothing : loadFrom files' [] ["chosen"] "S" = .error (.noFile "chosen") := by rfl
  have hbeside : loadFrom files'' [] ["chosen"] "S" = .ok { format := .json } := by rfl
  refine ⟨rfl, by decide, by rfl, by decide, by decide, by decide, ?_⟩
  rw [hnothing, hbeside]
  intro h
  cases h

end Settings

namespace CommandLine

open Settings (FileFormat)

/-! ## The format of reports -/

/-- The same text is decoded from a path where the same stands. -/
theorem load_congr {α : Type} (decode : Decoder α) {files files' : Files} {path : String}
    (h : files path = files' path) : load decode files path = load decode files' path := by
  unfold load Files.read
  rw [h]

/-- The report of a task depends on its files, besides the format. -/
theorem report_congr {files files' : Files} {task : Task} (format : OutputFormat)
    (h : ∀ path ∈ task.files, files path = files' path) :
    report files format task = report files' format task := by
  cases task with
  | select query | insert query | update query | delete query =>
    have hquery := h query (List.mem_singleton.2 rfl)
    simp only [report, reportStatement, load_congr _ hquery]
  | eval query rows =>
    have hquery := h query List.mem_cons_self
    have hrows := h rows (List.mem_cons_of_mem _ (List.mem_singleton.2 rfl))
    simp only [report, load_congr _ hquery, load_congr _ hrows]

/-- What decides the format of a report. -/
structure FormatDecided (formats : List FileFormat) (files : Files) (env : List (String × String)) :
    Prop where
  /-- A run that has settings reports in the format given as an option, or else in theirs. -/
  report : ∀ arguments settings,
    Settings.load files env arguments.options.config? formats = .ok settings →
    runWith files env arguments formats =
      report files (arguments.options.format?.getD settings.format) arguments.task
  /-- Runs of the same task in the same format, given as an option, report the same whatever the
  layers of their settings say, as long as these load. -/
  flag : ∀ files' env' arguments arguments' format settings settings',
    arguments.options.format? = some format → arguments'.options.format? = some format →
    arguments.task = arguments'.task →
    Settings.load files env arguments.options.config? formats = .ok settings →
    Settings.load files' env' arguments'.options.config? formats = .ok settings' →
    (∀ path ∈ arguments.task.files, files path = files' path) →
    runWith files env arguments formats = runWith files' env' arguments' formats

/-- A run that has settings reports in the format given as an option, or else in theirs. -/
theorem runWith_of_load {formats : List FileFormat} {files : Files} {env : List (String × String)}
    {arguments : Arguments} {settings : Settings}
    (h : Settings.load files env arguments.options.config? formats = .ok settings) :
    runWith files env arguments formats =
      report files (arguments.options.format?.getD settings.format) arguments.task := by
  rw [runWith, h]
  rfl

/-- The option decides, and then the settings. -/
theorem formatDecided (formats : List FileFormat) (files : Files) (env : List (String × String)) :
    FormatDecided formats files env where
  report arguments settings h := runWith_of_load h
  flag files' env' arguments arguments' format settings settings' hformat hformat' htask h h'
      hfiles := by
    rw [runWith_of_load h, runWith_of_load h', hformat, hformat', Option.getD_some,
      Option.getD_some, ← htask]
    exact report_congr format hfiles

end CommandLine

/-- The settings of a run are decided by variables, the file at one path and the defaults, in this
order and by nothing else; the path is the one that is located; and the format given as an option
goes before the one of the settings. -/
theorem Settings.layered (formats : List FileFormat) (files : Files) (env : List (String × String))
    (paths : List String) (scope : String) : Settings.Layered formats files env paths scope ∧
      Settings.Located formats files env ∧ CommandLine.FormatDecided formats files env :=
  ⟨layered_loadFrom formats files env paths scope, located_load formats files env,
    CommandLine.formatDecided formats files env⟩

/-- A variable goes before a format that cannot be one in the file at the first occupied path, which
gives the log filter; a file behind it that cannot be read does not matter. -/
theorem Settings.layered_of_invalid_format :
    let first : Entry := .file "format = \"xml\"\nlog_filter = \"info\"\n"
    let files := Files.ofList [("a.toml", first), ("b.toml", .file "format = ")]
    let files' := Files.ofList [("a.toml", first)]
    let env := [("HOME", "/"), ("q_Format", "JSON")]
    loadFrom files env ["c.toml", "a.toml", "b.toml"] "Q" = .ok ⟨.json, "info"⟩ ∧
      loadFrom files (("PATH", "/bin") :: env) ["a.toml"] "Q" =
        loadFrom files' env ["a.toml", "b.toml"] "Q" := by
  intro first files files' env
  have hfirst : firstOccupied? files ["c.toml", "a.toml", "b.toml"] = some "a.toml" := by decide
  have htext : files.text? "a.toml" = some "format = \"xml\"\nlog_filter = \"info\"\n" := by decide
  have hfile : fileLayers fileFormats files (some "a.toml") =
      .ok [[("format", .scalar (.text "xml")), ("log_filter", .scalar (.text "info"))]] := by
    rw [fileLayers, fileLayer, fileAt?_of_some htext, Option.bind_some, htext]
    rfl
  obtain ⟨h, -, -⟩ := Settings.layered fileFormats files env ["c.toml", "a.toml", "b.toml"] "Q"
  obtain ⟨h', -, -⟩ := Settings.layered fileFormats files (("PATH", "/bin") :: env) ["a.toml"] "Q"
  have hgives : Gives "Q" "format" "q_Format" := h.format.named _ (by decide)
  constructor
  · refine (h.loaded _).2 ⟨_, hfirst ▸ hfile, ?_, ?_⟩
    · have hgiven := h.format.given [[("format", .scalar (.text "xml")),
        ("log_filter", .scalar (.text "info"))]] [("HOME", "/")] "q_Format" "JSON" [] rfl hgives
      exact (hgiven (by simp)).trans (by rfl)
    · exact (h.logFilter.notGiven _ (by decide)).trans (by rfl)
  · refine h'.twoRuns _ _ _ (by decide) ?_ (by decide)
    intro path hpath
    have hpath' : some "a.toml" = some path := by rw [← hpath]; decide
    cases hpath'
    exact ⟨by decide, by decide⟩

end RowQuery
