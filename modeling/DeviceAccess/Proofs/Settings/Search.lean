import Mathlib
import DeviceAccess.Proofs.Files
import DeviceAccess.Settings.Search

/-!
# Which file the settings come from

At most one file is used: the one that is given, else the one that is named, else the first usual one
that exists. Whatever is wrong with it is the outcome; no other file and no defaults take its place.
Only where there is no such file may defaults stand in, and then no file is read at all.

- `SettingsSearch.Uses` says which file is used, and `SettingsSearch.FindsNothing` when there is none.
- `SettingsSearch.LoadsFrom` are the outcomes of loading a file, one rule for each way it may end.
- `SettingsSearch.loads_one_file` puts them together. That nothing else is read is a statement about
  two runs: surroundings that differ in the content of other files only have the same outcomes.
-/

namespace DeviceAccess

/-- The surroundings differ at most in what is in the files. -/
structure Surroundings.Resembles (env env' : Surroundings) : Prop where
  home : env'.home = env.home
  configHome : env'.configHome = env.configHome
  environment : env'.environment = env.environment
  exists_ : ∀ path, env'.files.exists_ path = env.files.exists_ path

namespace SettingsSearch

variable {s : SettingsSearch} {env env' : Surroundings} {path : String}

/-! ## §1 The file -/

/-- The file at the path is the one that is used. -/
inductive Uses (s : SettingsSearch) (env : Surroundings) : String → Prop where
  /-- The path is given. -/
  | given {path : String} (h : s.path = some path) : Uses s env path
  /-- No path is given, and the variable names this one. -/
  | named {path : String} (hgiven : s.path = none)
      (h : env.environment s.variableName = some path) : Uses s env path
  /-- No path is given or named, and this is the first usual one that exists. -/
  | usual {path : String} {before behind : List String} (hgiven : s.path = none)
      (hnamed : env.environment s.variableName = none)
      (h : usualPaths env = before ++ path :: behind)
      (hbefore : ∀ earlier ∈ before, env.files.exists_ earlier = false)
      (hexists : env.files.exists_ path = true) : Uses s env path

/-- No file is given or named, and there is no usual one. -/
structure FindsNothing (s : SettingsSearch) (env : Surroundings) : Prop where
  given : s.path = none
  named : env.environment s.variableName = none
  usual : ∀ path ∈ usualPaths env, env.files.exists_ path = false

/-- What a missing file is reported as, by the way in which it was asked for. -/
def missingFault (s : SettingsSearch) (path : String) : Fault :=
  match s.path with
  | some _ => .settings ("Configuration file not found: " ++ path)
  | none => .settings ("Configuration file from " ++ s.variableName ++ " not found: " ++ path)

/-- The first usual path that exists is the one that is looked up. -/
theorem find?_usualPaths {before behind : List String}
    (h : usualPaths env = before ++ path :: behind)
    (hbefore : ∀ earlier ∈ before, env.files.exists_ earlier = false)
    (hexists : env.files.exists_ path = true) :
    (usualPaths env).find? env.files.exists_ = some path := by
  rw [List.find?_eq_some_iff_append]
  refine ⟨hexists, before, behind, h, fun earlier hearlier => ?_⟩
  rw [hbefore earlier hearlier]
  rfl

theorem find_of_uses (h : s.Uses env path) :
    s.find env = if env.files.exists_ path then .ok path else .error (s.missingFault path) := by
  cases h with
  | given h => simp [find, missingFault, missing, h]
  | named hgiven h => simp [find, missingFault, missing, hgiven, h]
  | usual hgiven hnamed h hbefore hexists =>
    simp [find, hgiven, hnamed, find?_usualPaths h hbefore hexists, hexists]

theorem uses_or_findsNothing (s : SettingsSearch) (env : Surroundings) :
    (∃ path, s.Uses env path) ∨ s.FindsNothing env := by
  cases hgiven : s.path with
  | some path => exact .inl ⟨path, .given hgiven⟩
  | none =>
    cases hnamed : env.environment s.variableName with
    | some path => exact .inl ⟨path, .named hgiven hnamed⟩
    | none =>
      cases husual : (usualPaths env).find? env.files.exists_ with
      | some path =>
        obtain ⟨hexists, before, behind, h, hbefore⟩ := List.find?_eq_some_iff_append.mp husual
        have hbefore : ∀ earlier ∈ before, env.files.exists_ earlier = false := by
          simpa using hbefore
        exact .inl ⟨path, .usual hgiven hnamed h hbefore hexists⟩
      | none =>
        have husual : ∀ path ∈ usualPaths env, env.files.exists_ path = false := by
          simpa using husual
        exact .inr ⟨hgiven, hnamed, husual⟩

/-- What is given comes before what is named, and that before what is usual. -/
theorem Uses.first_eq (h : s.Uses env path) :
    s.path.or ((env.environment s.variableName).or
      ((usualPaths env).find? env.files.exists_)) = some path := by
  cases h with
  | given h => simp [h]
  | named hgiven h => simp [hgiven, h]
  | usual hgiven hnamed h hbefore hexists =>
    simp [hgiven, hnamed, find?_usualPaths h hbefore hexists]

/-- Only one file is used. -/
theorem Uses.unique {other : String} (h : s.Uses env path) (h' : s.Uses env other) :
    other = path := Option.some.inj (h'.first_eq.symm.trans h.first_eq)

theorem Uses.not_findsNothing (h : s.Uses env path) : ¬s.FindsNothing env := by
  intro hnothing
  cases h with
  | given h => simp [hnothing.given] at h
  | named hgiven h => simp [hnothing.named] at h
  | usual hgiven hnamed h hbefore hexists =>
    have hmem : path ∈ usualPaths env := by simp [h]
    simp [hnothing.usual path hmem] at hexists

/-! ## §2 Loading -/

/-- The outcomes of loading the settings from the file at a path. -/
inductive LoadsFrom (s : SettingsSearch) (env : Surroundings) (path : String) :
    Except Fault Settings → Prop where
  /-- The file that was asked for is not there. -/
  | missing (h : env.files.exists_ path = false) : LoadsFrom s env path (.error (s.missingFault path))
  /-- Something is there, but no text can be read from it. -/
  | unreadable {fault : IoFault} (hexists : env.files.exists_ path = true)
      (h : env.files.readText path = .error fault) :
      LoadsFrom s env path (.error (.settings ("Failed to read " ++ path ++ ": " ++ fault.message)))
  /-- The text is no configuration. -/
  | malformed {text : String} {fault : Fault} (htext : env.files.HasText path text)
      (h : Settings.parse text = .error fault) : LoadsFrom s env path (.error fault)
  /-- The settings are checked and refused. -/
  | invalid {text : String} {settings : Settings} {fault : Fault}
      (htext : env.files.HasText path text) (hparse : Settings.parse text = .ok settings)
      (hvalidates : s.validates = true) (h : settings.validate = .error fault) :
      LoadsFrom s env path (.error fault)
  /-- The settings pass the check, if they are checked. -/
  | loaded {text : String} {settings : Settings} (htext : env.files.HasText path text)
      (hparse : Settings.parse text = .ok settings)
      (hvalid : s.validates = true → settings.validate = .ok ()) : LoadsFrom s env path (.ok settings)

section

variable {text : String} {settings : Settings} {fault : Fault}

theorem read_of_malformed (h : Settings.parse text = .error fault) : s.read text = .error fault := by
  rw [read, h]
  rfl

theorem read_of_invalid (hparse : Settings.parse text = .ok settings) (hvalidates : s.validates = true)
    (h : settings.validate = .error fault) : s.read text = .error fault := by
  rw [read, hparse]
  simp [bind, Except.bind, hvalidates, h]

theorem read_of_valid (hparse : Settings.parse text = .ok settings)
    (hvalid : s.validates = true → settings.validate = .ok ()) : s.read text = .ok settings := by
  rw [read, hparse]
  cases hvalidates : s.validates with
  | true => simp [bind, Except.bind, pure, Except.pure, hvalid hvalidates]
  | false => simp [bind, Except.bind, pure, Except.pure]

theorem readFile_of_hasText (h : env.files.HasText path text) : s.readFile env path = s.read text := by
  rw [readFile, Files.readText_eq_ok_iff.mpr h]

end

theorem load_of_uses (h : s.Uses env path) :
    s.load env =
      if env.files.exists_ path then s.readFile env path else .error (s.missingFault path) := by
  rw [load, find_of_uses h]
  split <;> rfl

/-- A file that exists is read to one of the outcomes. -/
theorem loadsFrom_readFile (hexists : env.files.exists_ path = true) :
    s.LoadsFrom env path (s.readFile env path) := by
  cases hread : env.files.readText path with
  | error fault =>
    rw [readFile, hread]
    exact .unreadable hexists hread
  | ok text =>
    have htext := Files.readText_eq_ok_iff.mp hread
    rw [readFile_of_hasText htext]
    cases hparse : Settings.parse text with
    | error fault =>
      rw [read_of_malformed hparse]
      exact .malformed htext hparse
    | ok settings =>
      by_cases hvalid : s.validates = true → settings.validate = .ok ()
      · rw [read_of_valid hparse hvalid]
        exact .loaded htext hparse hvalid
      · obtain ⟨hvalidates, hinvalid⟩ := Classical.not_imp.mp hvalid
        cases h : settings.validate with
        | ok done => exact absurd h hinvalid
        | error fault =>
          rw [read_of_invalid hparse hvalidates h]
          exact .invalid htext hparse hvalidates h

/-- **Loading** ends with what the rules say of the file that is used, and with nothing else. -/
theorem load_eq_iff (h : s.Uses env path) {outcome : Except Fault Settings} :
    s.load env = outcome ↔ s.LoadsFrom env path outcome := by
  rw [load_of_uses h]
  constructor
  · rintro rfl
    cases hexists : env.files.exists_ path with
    | false => exact .missing hexists
    | true => exact loadsFrom_readFile hexists
  · intro houtcome
    cases houtcome with
    | missing h => simp [h]
    | unreadable hexists h => simp [hexists, readFile, h]
    | malformed htext h =>
      rw [if_pos htext.exists_eq_true, readFile_of_hasText htext, read_of_malformed h]
    | invalid htext hparse hvalidates h =>
      rw [if_pos htext.exists_eq_true, readFile_of_hasText htext,
        read_of_invalid hparse hvalidates h]
    | loaded htext hparse hvalid =>
      rw [if_pos htext.exists_eq_true, readFile_of_hasText htext, read_of_valid hparse hvalid]

/-- What is reported where there is no file, with all the places that were tried. -/
def nothingFault (env : Surroundings) : Fault :=
  .settings ("No configuration file found. Searched:" ++
    String.join ((usualPaths env).map fun path => "\n  - " ++ path))

theorem find?_of_findsNothing (h : s.FindsNothing env) :
    (usualPaths env).find? env.files.exists_ = none := by
  simpa using h.usual

theorem load_of_findsNothing (h : s.FindsNothing env) : s.load env = .error (nothingFault env) := by
  simp only [load, find, h.given, h.named, find?_of_findsNothing h]
  rfl

/-! ## §3 Defaults -/

theorem loadOrDefault_of_findsNothing (h : s.FindsNothing env) :
    s.loadOrDefault env = .ok Settings.default := by
  simp [loadOrDefault, h.given, h.named, find?_of_findsNothing h]

/-- Where a file is used, defaults never stand in. -/
theorem loadOrDefault_of_uses (h : s.Uses env path) : s.loadOrDefault env = s.load env := by
  cases h with
  | given h => simp [loadOrDefault, h]
  | named hgiven h => simp [loadOrDefault, hgiven, h]
  | usual hgiven hnamed h hbefore hexists =>
    rw [load_of_uses (.usual hgiven hnamed h hbefore hexists), if_pos hexists]
    simp [loadOrDefault, hgiven, hnamed, find?_usualPaths h hbefore hexists]

/-! ## §4 Two runs -/

theorem usualPaths_of_resembles (h : env.Resembles env') : usualPaths env' = usualPaths env := by
  simp only [usualPaths, configFolder?, h.home, h.configHome]

/-- Which file is used does not hang on what is in the files. -/
theorem Uses.of_resembles (h : s.Uses env path) (henv : env.Resembles env') : s.Uses env' path := by
  cases h with
  | given h => exact .given h
  | named hgiven h => exact .named hgiven (by rw [henv.environment, h])
  | usual hgiven hnamed h hbefore hexists =>
    refine .usual hgiven (by rw [henv.environment, hnamed]) (usualPaths_of_resembles henv ▸ h) ?_ ?_
    · exact fun earlier hearlier => (henv.exists_ earlier).trans (hbefore earlier hearlier)
    · exact (henv.exists_ path).trans hexists

theorem FindsNothing.of_resembles (h : s.FindsNothing env) (henv : env.Resembles env') :
    s.FindsNothing env' where
  given := h.given
  named := by rw [henv.environment, h.named]
  usual path hpath := by
    rw [henv.exists_]
    exact h.usual path (usualPaths_of_resembles henv ▸ hpath)

/-- The content of the file that is used decides, and that of no other file. -/
theorem load_of_resembles (henv : env.Resembles env')
    (hcontent : ∀ path, s.Uses env path → env'.files.readText path = env.files.readText path) :
    s.load env' = s.load env ∧ s.loadOrDefault env' = s.loadOrDefault env := by
  rcases uses_or_findsNothing s env with ⟨path, hpath⟩ | hnothing
  · have hpath' := hpath.of_resembles henv
    have hread : s.readFile env' path = s.readFile env path := by
      rw [readFile, readFile, hcontent path hpath]
    have hload : s.load env' = s.load env := by
      rw [load_of_uses hpath, load_of_uses hpath', henv.exists_, hread]
    exact ⟨hload, by rw [loadOrDefault_of_uses hpath, loadOrDefault_of_uses hpath', hload]⟩
  · have hnothing' := hnothing.of_resembles henv
    have hfault : nothingFault env' = nothingFault env := by
      rw [nothingFault, nothingFault, usualPaths_of_resembles henv]
    constructor
    · rw [load_of_findsNothing hnothing, load_of_findsNothing hnothing', hfault]
    · rw [loadOrDefault_of_findsNothing hnothing, loadOrDefault_of_findsNothing hnothing']

/-- **One file or none.** Where no file is found none is used: loading fails, and defaults may stand in
for it. Everywhere else exactly one file is used, with or without defaults, and its content or what is
wrong with it is the outcome. What is in files that are not used never matters. -/
theorem loads_one_file (s : SettingsSearch) (env : Surroundings) :
    (s.FindsNothing env → (∀ path, ¬s.Uses env path) ∧
      s.loadOrDefault env = .ok Settings.default ∧ s.load env = .error (nothingFault env)) ∧
      (¬s.FindsNothing env → s.loadOrDefault env = s.load env ∧
        ∃ path, s.Uses env path ∧ (∀ other, s.Uses env other → other = path) ∧
          ∀ outcome, s.load env = outcome ↔ s.LoadsFrom env path outcome) ∧
      ∀ env', env.Resembles env' →
        (∀ path, s.Uses env path → env'.files.readText path = env.files.readText path) →
          s.load env' = s.load env ∧ s.loadOrDefault env' = s.loadOrDefault env := by
  refine ⟨fun hnothing => ⟨fun path hpath => hpath.not_findsNothing hnothing, ?_, ?_⟩,
    fun hfound => ?_, fun env' => load_of_resembles⟩
  · exact loadOrDefault_of_findsNothing hnothing
  · exact load_of_findsNothing hnothing
  · rcases uses_or_findsNothing s env with ⟨path, hpath⟩ | hnothing
    · exact ⟨loadOrDefault_of_uses hpath, path, hpath, fun other => hpath.unique,
        fun outcome => load_eq_iff hpath⟩
    · exact absurd hnothing hfound

/-- A file of the system that is no configuration is not made up for, neither by the file in the
working folder, which could be loaded, nor by defaults. -/
theorem loads_one_file_malformed :
    let system := "/etc/device-trust/config.toml"
    let broken := "[access\n"
    let sound := "[helper]\nenabled = false\n"
    let tree := (FileTree.empty.add system (.file (Text.utf8Text broken) false)).add
      "/w/device-trust.toml" (.file (Text.utf8Text sound) false)
    let env : Surroundings :=
      { files := tree.files "/w", home := none, configHome := none, environment := fun _ => none }
    let settings : Settings :=
      { Settings.default with helper := { HelperSettings.default with enabled := false } }
    let fault := Fault.settings "Invalid TOML: not a configuration"
    usualPaths env = [system, localName] ∧ default.readFile env localName = .ok settings ∧
      default.load env = .error fault ∧ default.loadOrDefault env = .error fault := by
  intro system broken sound tree env settings fault
  have husual : usualPaths env = [system, localName] := rfl
  have hsound : env.files.readText localName = .ok sound := by decide +kernel
  have hlocal : default.readFile env localName = .ok settings := by
    have hparse : Settings.parse sound = .ok settings := by cbv
    rw [readFile_of_hasText (Files.readText_eq_ok_iff.mp hsound),
      read_of_valid hparse fun _ => rfl]
  -- the file of the system is there, so that it is the one that is used
  have hbroken : env.files.readText system = .ok broken := by decide +kernel
  have htext : env.files.HasText system broken := Files.readText_eq_ok_iff.mp hbroken
  have hsplit : usualPaths env = [] ++ system :: [localName] := husual
  have huses : default.Uses env system := .usual rfl rfl hsplit (by simp) htext.exists_eq_true
  obtain ⟨hsame, path, hpath, -, hends⟩ := (loads_one_file default env).2.1 huses.not_findsNothing
  obtain rfl : path = system := huses.unique hpath
  have hparse : Settings.parse broken = .error fault := by cbv
  have hload : default.load env = .error fault := (hends _).mpr (.malformed htext hparse)
  exact ⟨husual, hlocal, hload, hsame.trans hload⟩

end SettingsSearch

end DeviceAccess
