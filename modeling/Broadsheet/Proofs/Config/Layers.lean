import Broadsheet.Proofs.Config.Discovery

/-!
# Broadsheet.Proofs.Config.Layers

The layers of a configuration.  `load_layered` says of every configuration that is
loaded that it is valid, and where each of its settings comes from: the command
line, or else the document of its source, or else what is built in.

What a document gives is told from its tables (`ConfigFile.given`), so that the
reading of the file is covered too: `exists_sections` and `choicesOver_given` for
the sections of a file, `layersOver_ofContent` for its addresses and paths,
`layersOver_withCli` for the command line.
-/

namespace Broadsheet

/-! ## What a document gives -/

namespace ConfigFile

/-- The keys of a section in order. -/
def sectionKeys : (name : String) → List String
  | "defaults" => ["theme", "font_family", "font_size", "primary_color", "legend", "code_theme",
      "use_indent", "citations", "mac_code_blocks", "footnote_heading", "custom_css", "fallback"]
  | "assets" => ["stylesheet_url", "timeout_secs"]
  | "diagrams" => ["kroki_url", "timeout_secs", "cache_dir"]
  | _ => []

/-- What a document gives the keys of a section. -/
def given (doc : Toml.Entries) (name : String) : (key : String) → Option Toml.Value :=
  ((doc.get? name).bind (fields? (sectionKeys name))).getD fun _ => none

/-- A reader for what may be left out. -/
def optional {α : Type} (read : Toml.Value → Option α) (v : Toml.Value) : Option (Option α) :=
  (read v).map some

theorem field_of_optional {α : Type} {fields : String → Option Toml.Value} {key : String}
    {read : Toml.Value → Option α} {x : Option α} (default : α)
    (h : field fields key (optional read) none = some x) :
    field fields key read default = some (x.getD default) := by
  unfold field at h ⊢
  cases hkey : fields key with
  | none =>
      rw [hkey] at h
      obtain rfl := Option.some.inj h
      rfl
  | some v =>
      rw [hkey] at h
      obtain ⟨a, hread, rfl⟩ := Option.map_eq_some_iff.mp h
      exact hread

theorem given_of_none {doc : Toml.Entries} {name : String} (h : doc.get? name = none) :
    given doc name = fun _ => none := by
  rw [given, h]
  rfl

theorem given_of_some {doc : Toml.Entries} {name : String} {v : Toml.Value}
    {fields : String → Option Toml.Value} (h : doc.get? name = some v)
    (hfields : fields? (sectionKeys name) v = some fields) : given doc name = fields := by
  rw [given, h, Option.bind_some, hfields, Option.getD_some]

/-- Choices for rendering, each from the command line, or else from its key in a section, or else
built in.  The path of a style sheet in the section is seen from a directory. -/
structure ChoicesOver (fields : String → Option Toml.Value) (directory : String)
    (cli : Option CliSettings) (d : DefaultChoices) : Prop where
  theme : (cli.bind (·.theme)).or (field fields "theme" text? DefaultChoices.builtin.theme) =
    some d.theme
  fontFamily : (cli.bind (·.fontFamily)).or
    (field fields "font_family" text? DefaultChoices.builtin.fontFamily) = some d.fontFamily
  fontSize : (cli.bind (·.fontSize)).or
    (field fields "font_size" text? DefaultChoices.builtin.fontSize) = some d.fontSize
  primaryColor : (cli.bind (·.primaryColor)).or
    (field fields "primary_color" text? DefaultChoices.builtin.primaryColor) = some d.primaryColor
  legend : (cli.bind (·.legend)).or (field fields "legend" text? DefaultChoices.builtin.legend) =
    some d.legend
  codeTheme : (cli.bind (·.codeTheme)).or
    (field fields "code_theme" text? DefaultChoices.builtin.codeTheme) = some d.codeTheme
  useIndent : (cli.bind (·.useIndent)).or
    (field fields "use_indent" boolean? DefaultChoices.builtin.useIndent) = some d.useIndent
  citations : (cli.bind (·.citations)).or
    (field fields "citations" boolean? DefaultChoices.builtin.citations) = some d.citations
  macCodeBlocks : (cli.bind (·.macCodeBlocks)).or
    (field fields "mac_code_blocks" boolean? DefaultChoices.builtin.macCodeBlocks) =
      some d.macCodeBlocks
  fallback : (cli.bind (·.fallback)).or
    (field fields "fallback" policy? DefaultChoices.builtin.fallback) = some d.fallback
  customCss : ∃ written, field fields "custom_css" (optional text?) none = some written ∧
    d.customCss = (cli.bind (·.customCss)).or (written.map (Path.join directory))
  footnoteHeading : field fields "footnote_heading" (optional text?) none = some d.footnoteHeading

/-- The choices of a file. -/
theorem choicesOver_given {doc : Toml.Entries} {d : DefaultChoices} (directory : String)
    (h : field doc.get? "defaults" defaults? .builtin = some d) :
    ChoicesOver (given doc "defaults") directory none
      { d with customCss := d.customCss.map (Path.join directory) } := by
  unfold field at h
  split at h
  · next hnone =>
      obtain rfl := Option.some.inj h
      rw [given_of_none hnone]
      constructor
      case customCss => exact ⟨none, rfl, rfl⟩
      all_goals rfl
  · next v hv =>
      obtain ⟨fields, hfields, h⟩ := Option.bind_eq_some_iff.mp h
      obtain ⟨_, htheme, h⟩ := Option.bind_eq_some_iff.mp h
      obtain ⟨_, hfontFamily, h⟩ := Option.bind_eq_some_iff.mp h
      obtain ⟨_, hfontSize, h⟩ := Option.bind_eq_some_iff.mp h
      obtain ⟨_, hprimaryColor, h⟩ := Option.bind_eq_some_iff.mp h
      obtain ⟨_, hlegend, h⟩ := Option.bind_eq_some_iff.mp h
      obtain ⟨_, hcodeTheme, h⟩ := Option.bind_eq_some_iff.mp h
      obtain ⟨_, huseIndent, h⟩ := Option.bind_eq_some_iff.mp h
      obtain ⟨_, hcitations, h⟩ := Option.bind_eq_some_iff.mp h
      obtain ⟨_, hmacCodeBlocks, h⟩ := Option.bind_eq_some_iff.mp h
      obtain ⟨_, hfootnoteHeading, h⟩ := Option.bind_eq_some_iff.mp h
      obtain ⟨written, hcustomCss, h⟩ := Option.bind_eq_some_iff.mp h
      obtain ⟨_, hfallback, h⟩ := Option.bind_eq_some_iff.mp h
      obtain rfl := Option.some.inj h
      rw [given_of_some hv hfields]
      exact
        { theme := htheme
          fontFamily := hfontFamily
          fontSize := hfontSize
          primaryColor := hprimaryColor
          legend := hlegend
          codeTheme := hcodeTheme
          useIndent := huseIndent
          citations := hcitations
          macCodeBlocks := hmacCodeBlocks
          fallback := hfallback
          customCss := ⟨written, hcustomCss, rfl⟩
          footnoteHeading := hfootnoteHeading }

theorem assets_given {doc : Toml.Entries} {a : AssetSettings}
    (h : field doc.get? "assets" assets? .builtin = some a) :
    field (given doc "assets") "stylesheet_url" text? AssetSettings.builtin.stylesheetUrl =
        some a.stylesheetUrl ∧
      field (given doc "assets") "timeout_secs" seconds? AssetSettings.builtin.timeoutSecs =
        some a.timeoutSecs := by
  unfold field at h
  split at h
  · next hnone =>
      obtain rfl := Option.some.inj h
      rw [given_of_none hnone]
      exact ⟨rfl, rfl⟩
  · next v hv =>
      simp only [assets?, Option.bind_eq_bind, Option.bind_eq_some_iff, Option.pure_def,
        Option.some.injEq] at h
      obtain ⟨fields, hfields, _, hstylesheetUrl, _, htimeout, rfl⟩ := h
      rw [given_of_some hv hfields]
      exact ⟨hstylesheetUrl, htimeout⟩

theorem diagrams_given {doc : Toml.Entries} {s : Option DiagramSection}
    (h : field doc.get? "diagrams" (optional diagrams?) none = some s) :
    field (given doc "diagrams") "kroki_url" (optional text?) none = some (s.bind (·.krokiUrl)) ∧
      field (given doc "diagrams") "timeout_secs" (optional seconds?) none =
        some (s.bind (·.timeoutSecs)) ∧
      field (given doc "diagrams") "cache_dir" (optional text?) none =
        some (s.bind (·.cacheDir)) := by
  unfold field at h
  split at h
  · next hnone =>
      obtain rfl := Option.some.inj h
      rw [given_of_none hnone]
      exact ⟨rfl, rfl, rfl⟩
  · next v hv =>
      simp only [optional, diagrams?, Option.bind_eq_bind, Option.map_eq_some_iff,
        Option.bind_eq_some_iff, Option.pure_def, Option.some.injEq] at h
      obtain ⟨_, ⟨fields, hfields, _, hkrokiUrl, _, htimeout, _, hcacheDir, rfl⟩, rfl⟩ := h
      rw [given_of_some hv hfields]
      exact ⟨hkrokiUrl, htimeout, hcacheDir⟩

/-- The sections of a file that is read. -/
theorem exists_sections {content : String} {file : ConfigFile} (h : parse content = some file) :
    ∃ doc, Toml.parse content = some doc ∧
      field doc.get? "defaults" defaults? .builtin = some file.defaults ∧
      field doc.get? "assets" assets? .builtin = some file.assets ∧
      field doc.get? "diagrams" (optional diagrams?) none = some file.diagrams := by
  simp only [parse, Option.bind_eq_bind, Option.bind_eq_some_iff, Option.pure_def,
    Option.some.injEq] at h
  obtain ⟨doc, hdoc, _, hdefaults, _, hassets, _, hdiagrams, rfl⟩ := h
  exact ⟨doc, hdoc, hdefaults, hassets, hdiagrams⟩

end ConfigFile

/-! ## Checks -/

namespace Config

/-- The two parts of a computation that succeeds. -/
theorem exists_ok_of_bind {ε α β : Type} {x : Except ε α} {f : α → Except ε β} {b : β}
    (h : x >>= f = .ok b) : ∃ a, x = .ok a ∧ f a = .ok b := by
  cases x with
  | error e => exact nomatch h
  | ok a => exact ⟨a, rfl, h⟩

theorem eq_ok_of_toOption {ε α : Type} {x : Except ε α} {a : α} (h : x.toOption = some a) :
    x = .ok a := by
  cases x with
  | error e => exact nomatch h
  | ok b => exact congrArg Except.ok (Option.some.inj h)

/-- What is asked of a configuration. -/
structure IsValid (c : Config) : Prop where
  stylesheetUrl_web : isWebUrl c.assets.stylesheetUrl
  stylesheetUrl_theme : containsText "\x7btheme\x7d" c.assets.stylesheetUrl
  assetTimeout : c.assets.timeoutSecs ≠ 0
  krokiUrl_web : ∀ url, c.diagrams.krokiUrl = some url → isWebUrl url
  diagramTimeout : c.diagrams.timeoutSecs ≠ 0

theorem requireWebUrl_eq_ok_iff {name url : String} :
    requireWebUrl name url = .ok () ↔ isWebUrl url := by
  unfold requireWebUrl
  split <;> simp_all

/-- Checking a configuration passes over none of its faults. -/
theorem isValid_of_validate {c : Config} (h : c.validate = .ok ()) : c.IsValid := by
  obtain ⟨_, hweb, h⟩ := exists_ok_of_bind h
  dsimp only at h
  split at h
  · exact nomatch h
  next htheme =>
  split at h
  · exact nomatch h
  next hasset =>
  have hkroki : ∀ url, c.diagrams.krokiUrl = some url → isWebUrl url := by
    intro url hurl
    rw [hurl] at h
    obtain ⟨_, hweb, -⟩ := exists_ok_of_bind h
    exact requireWebUrl_eq_ok_iff.mp hweb
  have hdiagram : c.diagrams.timeoutSecs ≠ 0 := by
    intro hzero
    simp only [hzero, if_true] at h
    cases hurl : c.diagrams.krokiUrl with
    | none =>
        rw [hurl] at h
        exact nomatch h
    | some url =>
        rw [hurl] at h
        obtain ⟨_, -, h⟩ := exists_ok_of_bind h
        exact nomatch h
  exact ⟨requireWebUrl_eq_ok_iff.mp hweb, by simpa using htheme, hasset, hkroki, hdiagram⟩

theorem isValid_builtin : builtin.IsValid := isValid_of_validate rfl

/-! ## Layers -/

open ConfigFile

/-- The directory that the paths of a source are seen from. -/
def directoryOf (source : Option String) : String := (source.bind Path.parent?).getD "."

/-- The settings of a configuration, each from the command line if it can be given there, or else
from its key in the document of a source, or else built in.  Addresses of the document are
expanded, and its paths are seen from the directory of the source. -/
structure LayersOver (env : String → Option String) (source : Option String) (doc : Toml.Entries)
    (cli : Option CliSettings) (c : Config) : Prop where
  choices : ChoicesOver (given doc "defaults") (directoryOf source) cli c.defaults
  stylesheetUrl : ∃ written, field (given doc "assets") "stylesheet_url" text?
      AssetSettings.builtin.stylesheetUrl = some written ∧
    Expand.expand env written = .ok c.assets.stylesheetUrl
  assetTimeout : field (given doc "assets") "timeout_secs" seconds?
    AssetSettings.builtin.timeoutSecs = some c.assets.timeoutSecs
  krokiUrl : ∃ written url, field (given doc "diagrams") "kroki_url" (optional text?) none =
      some written ∧ written.map (Expand.expand env) = url.map .ok ∧
    c.diagrams.krokiUrl = (cli.bind (·.krokiUrl)).or url
  diagramTimeout : field (given doc "diagrams") "timeout_secs" seconds?
    DiagramSettings.builtin.timeoutSecs = some c.diagrams.timeoutSecs
  cacheDir : ∃ written, field (given doc "diagrams") "cache_dir" (optional text?) none =
      some written ∧ c.diagrams.cacheDir = written.map (Path.join (directoryOf source))
  path : c.path = source

section Files

variable {env : String → Option String} {name path : String}

theorem expandField_eq_ok_iff {value url : String} :
    expandField env name value = .ok url ↔ Expand.expand env value = .ok url := by
  unfold expandField
  cases Expand.expand env value <;> simp

theorem map_expand_of_expandOption : {value url : Option String} →
    expandOption env name value = .ok url → value.map (Expand.expand env) = url.map .ok
  | none, _, h => by
      obtain rfl := Except.ok.inj h
      rfl
  | some value, _, h => by
      rw [expandOption] at h
      cases hvalue : expandField env name value with
      | error e =>
          rw [hvalue] at h
          exact nomatch h
      | ok u =>
          rw [hvalue] at h
          obtain rfl := Except.ok.inj h
          exact congrArg some (expandField_eq_ok_iff.mp hvalue)

/-- The settings on diagrams of a file.  Where it has no section on them, it has no server. -/
theorem of_diagramSettings {directory : String} {url : Option String} {d : DiagramSettings} :
    {s : Option DiagramSection} → (s = none → url = none) →
    diagramSettings directory url s = .ok d →
    d.krokiUrl = url ∧
      d.timeoutSecs = (s.bind (·.timeoutSecs)).getD DiagramSettings.builtin.timeoutSecs ∧
      d.cacheDir = (s.bind (·.cacheDir)).map (Path.join directory)
  | none, hnone, h => by
      obtain rfl := Except.ok.inj h
      exact ⟨(hnone rfl).symm, rfl, rfl⟩
  | some s, _, h => by
      cases url with
      | none => exact nomatch h
      | some url =>
          obtain rfl := Except.ok.inj h
          exact ⟨rfl, rfl, rfl⟩

/-- The configuration of a file that is read. -/
def ofFile (env : String → Option String) (path : String) (file : ConfigFile) :
    Except ConfigError Config := do
  let stylesheetUrl ← expandField env "assets.stylesheet_url" file.assets.stylesheetUrl
  let krokiUrl ← expandOption env "diagrams.kroki_url" (file.diagrams.bind (·.krokiUrl))
  let directory := (Path.parent? path).getD "."
  let diagrams ← diagramSettings directory krokiUrl file.diagrams
  let config : Config := {
    defaults :=
      { file.defaults with customCss := file.defaults.customCss.map (Path.join directory) }
    assets := { file.assets with stylesheetUrl := stylesheetUrl }
    diagrams := diagrams
    path := some path }
  config.validate
  return config

theorem ofContent_eq (env : String → Option String) (path content : String) :
    ofContent env path content =
      match ConfigFile.parse content with
      | none => .error .malformed
      | some file => ofFile env path file := by
  unfold ofContent
  cases ConfigFile.parse content <;> rfl

/-- A file's configuration is valid, and has its settings from the file. -/
theorem layersOver_ofContent {content : String} {c : Config}
    (h : ofContent env path content = .ok c) :
    c.IsValid ∧ ∃ doc, Toml.parse content = some doc ∧ LayersOver env (some path) doc none c := by
  rw [ofContent_eq] at h
  cases hparse : ConfigFile.parse content with
  | none =>
      rw [hparse] at h
      exact nomatch h
  | some file =>
      rw [hparse] at h
      obtain ⟨doc, hdoc, hdefaults, hassets, hdiagrams⟩ := exists_sections hparse
      obtain ⟨url, hurl, h⟩ := exists_ok_of_bind h
      obtain ⟨server, hserver, h⟩ := exists_ok_of_bind h
      obtain ⟨diagrams, hsettings, h⟩ := exists_ok_of_bind h
      obtain ⟨_, hvalid, h⟩ := exists_ok_of_bind h
      obtain rfl := Except.ok.inj h
      obtain ⟨hwritten, htimeout⟩ := assets_given hassets
      obtain ⟨hserverWritten, hdiagramTimeout, hcacheDir⟩ := diagrams_given hdiagrams
      have hnone : file.diagrams = none → server = none := by
        intro hnone
        rw [hnone] at hserver
        exact (Except.ok.inj hserver).symm
      obtain ⟨hserverEq, htimeoutEq, hcacheDirEq⟩ := of_diagramSettings hnone hsettings
      refine ⟨isValid_of_validate hvalid, doc, hdoc, ?_⟩
      exact
        { choices := choicesOver_given _ hdefaults
          stylesheetUrl := ⟨_, hwritten, expandField_eq_ok_iff.mp hurl⟩
          assetTimeout := htimeout
          krokiUrl := ⟨_, server, hserverWritten, map_expand_of_expandOption hserver, hserverEq⟩
          diagramTimeout := by
            rw [htimeoutEq]
            exact field_of_optional _ hdiagramTimeout
          cacheDir := ⟨_, hcacheDir, hcacheDirEq⟩
          path := rfl }

theorem layersOver_builtin (env : String → Option String) :
    LayersOver env none [] none builtin where
  choices := choicesOver_given "." (show field (Toml.Entries.get? []) "defaults" defaults? .builtin =
    some .builtin from rfl)
  stylesheetUrl := ⟨_, rfl, if_neg (by decide)⟩
  assetTimeout := rfl
  krokiUrl := ⟨none, none, rfl, rfl, rfl⟩
  diagramTimeout := rfl
  cacheDir := ⟨none, rfl, rfl⟩
  path := rfl

/-- The command line is laid over the rest. -/
theorem layersOver_withCli {source : Option String} {doc : Toml.Entries} {c : Config}
    (s : CliSettings) (h : LayersOver env source doc none c) :
    LayersOver env source doc (some s) (c.withCli s) := by
  have hor {α : Type} {set below : Option α} {x : α} (hbelow : below = some x) :
      set.or below = some (set.getD x) := by
    rw [hbelow, Option.or_some]
  obtain ⟨written, hwritten, hcustomCss⟩ := h.choices.customCss
  obtain ⟨server, url, hserver, hurl, hkrokiUrl⟩ := h.krokiUrl
  have hchoices : ChoicesOver (given doc "defaults") (directoryOf source) (some s)
      (c.withCli s).defaults :=
    { theme := hor h.choices.theme
      fontFamily := hor h.choices.fontFamily
      fontSize := hor h.choices.fontSize
      primaryColor := hor h.choices.primaryColor
      legend := hor h.choices.legend
      codeTheme := hor h.choices.codeTheme
      useIndent := hor h.choices.useIndent
      citations := hor h.choices.citations
      macCodeBlocks := hor h.choices.macCodeBlocks
      fallback := hor h.choices.fallback
      customCss := ⟨written, hwritten, congrArg (s.customCss.or ·) hcustomCss⟩
      footnoteHeading := h.choices.footnoteHeading }
  exact
    { h with
      choices := hchoices
      krokiUrl := ⟨server, url, hserver, hurl, congrArg (s.krokiUrl.or ·) hkrokiUrl⟩ }

end Files

/-! ## Loading -/

/-- The document of a source; without a source it is empty. -/
def IsDocument (m : Machine) (doc : Toml.Entries) : (source : Option String) → Prop
  | none => doc = []
  | some path => ∃ content, m.files.read m.cwd path = .ok content ∧ Toml.parse content = some doc

theorem exists_content_of_ofSource {m : Machine} {c : Config} {path : String}
    (h : ofSource m (some path) = .ok c) :
    ∃ content, m.files.read m.cwd path = .ok content ∧
      ofContent m.environment path content = .ok c := by
  rw [ofSource] at h
  cases hfound : m.hasPath path with
  | false =>
      rw [hfound] at h
      contradiction
  | true =>
      rw [if_pos hfound] at h
      cases hread : m.files.read m.cwd path with
      | error e =>
          rw [hread] at h
          contradiction
      | ok content =>
          rw [hread] at h
          exact ⟨content, rfl, h⟩

theorem layersOver_ofSource {m : Machine} {c : Config} {source : Option String}
    (h : ofSource m source = .ok c) :
    c.IsValid ∧ ∃ doc, IsDocument m doc source ∧ LayersOver m.environment source doc none c := by
  cases source with
  | none =>
      obtain rfl := Except.ok.inj h
      exact ⟨isValid_builtin, [], rfl, layersOver_builtin _⟩
  | some path =>
      obtain ⟨content, hread, hcontent⟩ := exists_content_of_ofSource h
      obtain ⟨hvalid, doc, hdoc, hlayers⟩ := layersOver_ofContent hcontent
      exact ⟨hvalid, doc, ⟨content, hread, hdoc⟩, hlayers⟩

/-- **Every configuration that is loaded is valid and layered**: what the command line sets is from
there, and the rest is from the given or the nearest file, or built in. -/
theorem load_layered {m : Machine} {path : Option String} {cli : Option CliSettings} {c : Config}
    (hcwd : ∀ n ∈ m.cwd, Path.IsName n)
    (hload : ((load Machine.host path cli).run m).1 = .ok c) :
    c.IsValid ∧ ∃ source doc, IsSource m path source ∧ IsDocument m doc source ∧
      LayersOver m.environment source doc cli c := by
  rw [run_load] at hload
  obtain ⟨base, hbase, hcli⟩ := exists_ok_of_bind hload
  obtain ⟨hvalid, doc, hdoc, hlayers⟩ := layersOver_ofSource hbase
  cases cli with
  | none =>
      obtain rfl := Except.ok.inj hcli
      exact ⟨hvalid, _, doc, isSource_source hcwd path, hdoc, hlayers⟩
  | some s =>
      obtain ⟨_, hchecked, hcli⟩ := exists_ok_of_bind hcli
      obtain rfl := Except.ok.inj hcli
      exact ⟨isValid_of_validate hchecked, _, doc, isSource_source hcwd path, hdoc,
        layersOver_withCli s hlayers⟩

/-- A machine that works below the directory of its configuration. -/
def nestedMachine : Machine where
  files := [(["home"], .directory), (["home", "docs"], .directory),
    (["home", "mdstyle.toml"], .file ("[defaults]\ntheme = \"a\"\nlegend = \"alt\"\n" ++
      "[diagrams]\nkroki_url = \"$\x7bK\x7d\"\ncache_dir = \"c\"\n"))]
  cwd := ["home", "docs"]
  environment name := if name = "K" then some "http://k" else none
  input := ""
  output := ""
  errors := ""
  network _ := .error noNetwork
  requests := []

/-- A theme and a style sheet from the command line. -/
def graceSettings : CliSettings :=
  ⟨some "grace", none, none, none, none, none, none, none, none, none, some "own.css", none⟩

/-- What it loads with them. -/
def nestedConfig : Config where
  defaults := { DefaultChoices.builtin with
    theme := "grace", legend := "alt", customCss := some "own.css" }
  assets := .builtin
  diagrams := ⟨some "http://k", 30, some "/home/c"⟩
  path := some "/home/mdstyle.toml"

theorem nestedConfig_layered :
    (∀ n ∈ nestedMachine.cwd, Path.IsName n) ∧
      ((load Machine.host none (some graceSettings)).run nestedMachine).1 = .ok nestedConfig ∧
      nestedConfig.IsValid ∧
      ∃ doc, IsSource nestedMachine none (some "/home/mdstyle.toml") ∧
        IsDocument nestedMachine doc (some "/home/mdstyle.toml") ∧
        LayersOver nestedMachine.environment (some "/home/mdstyle.toml") doc (some graceSettings)
          nestedConfig := by
  have hcwd : ∀ n ∈ nestedMachine.cwd, Path.IsName n := by
    intro n hn
    obtain rfl | rfl : n = "home" ∨ n = "docs" := by simpa [nestedMachine] using hn
    · exact ⟨by decide, by decide, by decide, by decide⟩
    · exact ⟨by decide, by decide, by decide, by decide⟩
  have hload : ((load Machine.host none (some graceSettings)).run nestedMachine).1 =
      .ok nestedConfig := eq_ok_of_toOption (by decide +kernel)
  obtain ⟨hvalid, source, doc, hsource, hdoc, hlayers⟩ := load_layered hcwd hload
  obtain rfl : some "/home/mdstyle.toml" = source := hlayers.path
  exact ⟨hcwd, hload, hvalid, doc, hsource, hdoc, hlayers⟩

end Config

end Broadsheet
