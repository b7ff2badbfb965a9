import Broadsheet.Proofs.Config.Layers

/-!
# Broadsheet.Proofs.Config.Overriding

What a file says of no account where the command line says otherwise.  Two files
are run side by side, under the same path and the same command line, that are the
same once the settings of the command line are written over theirs
(`ConfigFile.masked`).

* `load_eq_of_masked`: they load alike, if their servers for diagrams, where they
  name any, come through the check of a file alike.

A file is checked on its own, before the command line is laid over it, and of the
settings that the command line can give only the server is looked at there.  So
its value is of account although another one is used: `server_not_overridden`.
-/

namespace Broadsheet

/-! ## Trees that differ in one file -/

namespace FileTree

variable (t : FileTree) (cwd place : List String) (a b : String)

/-- A tree with one or the other text in a file. -/
theorem at?_put_file (q : List String) :
    (t.put place (.file a)).at? q = (t.put place (.file b)).at? q ∨
      (t.put place (.file a)).at? q = some (.file a) ∧
        (t.put place (.file b)).at? q = some (.file b) := by
  by_cases hq : q = place
  · subst hq
    by_cases hroot : q = []
    · subst hroot
      exact .inl rfl
    · exact .inr ⟨at?_put_self t _ hroot, at?_put_self t _ hroot⟩
  · rw [at?_put_of_ne t _ hq, at?_put_of_ne t _ hq]
    exact .inl rfl

/-- Names lead to the same place. -/
theorem walk_put_file (names : List String) : (start : List String) →
    (t.put place (.file a)).walk start names = (t.put place (.file b)).walk start names := by
  induction names with
  | nil => exact fun _ => rfl
  | cons n ns ih =>
      intro start
      rw [walk, walk, ih, ih]
      obtain hat | ⟨ha, hb⟩ := at?_put_file t place a b start
      · rw [hat]
      · rw [ha, hb]

theorem resolve_put_file (path : String) :
    (t.put place (.file a)).resolve cwd path = (t.put place (.file b)).resolve cwd path := by
  rw [resolve, resolve, walk_put_file t place a b]

/-- A path leads to the same in both trees, or to the one text and the other. -/
theorem find_put_file (path : String) :
    (t.put place (.file a)).find cwd path = (t.put place (.file b)).find cwd path ∨
      (t.put place (.file a)).find cwd path = .ok (.file a) ∧
        (t.put place (.file b)).find cwd path = .ok (.file b) := by
  rw [find, find, resolve_put_file t cwd place a b]
  cases (t.put place (.file b)).resolve cwd path with
  | error e => exact .inl rfl
  | ok q =>
      obtain hat | ⟨ha, hb⟩ := at?_put_file t place a b q
      · exact .inl (by simp only [bind, Except.bind, hat])
      · simp only [bind, Except.bind, ha, hb]
        cases namesDirectory path with
        | true => exact .inl rfl
        | false => exact .inr ⟨rfl, rfl⟩

theorem read_put_file (path : String) :
    (t.put place (.file a)).read cwd path = (t.put place (.file b)).read cwd path ∨
      (t.put place (.file a)).read cwd path = .ok a ∧
        (t.put place (.file b)).read cwd path = .ok b := by
  rw [read, read]
  obtain hfind | ⟨ha, hb⟩ := find_put_file t cwd place a b path
  · rw [hfind]
    exact .inl rfl
  · rw [ha, hb]
    exact .inr ⟨rfl, rfl⟩

end FileTree

namespace Machine

/-- The machine with a file put at a place. -/
def withFile (m : Machine) (place : List String) (content : String) : Machine :=
  { m with files := m.files.put place (.file content) }

/-- What the file holds is not seen in what exists. -/
theorem hasPath_withFile (m : Machine) (place : List String) (a b : String) :
    (m.withFile place a).hasPath = (m.withFile place b).hasPath := by
  funext path
  unfold hasPath
  obtain hfind | ⟨ha, hb⟩ := m.files.find_put_file m.cwd place a b path
  · exact congrArg (fun found : Except IoError FileNode => found.toOption.isSome) hfind
  · simp only [withFile, ha, hb]
    rfl

end Machine

/-! ## Files that are overridden -/

/-- The choices with those of the command line over them. -/
def DefaultChoices.withCli (d : DefaultChoices) (s : CliSettings) : DefaultChoices :=
  (Config.withCli ⟨d, .builtin, .builtin, none⟩ s).defaults

/-- The section with the server of the command line over its own, if it names one. -/
def DiagramSection.masked (s : CliSettings) (d : DiagramSection) : DiagramSection :=
  { d with krokiUrl := d.krokiUrl.map fun url => s.krokiUrl.getD url }

namespace ConfigFile

deriving instance DecidableEq for DiagramSection
deriving instance DecidableEq for ConfigFile

/-- The file with the settings of the command line written over its own. -/
def masked (s : CliSettings) (file : ConfigFile) : ConfigFile where
  defaults := file.defaults.withCli s
  assets := file.assets
  diagrams := file.diagrams.map (·.masked s)

/-- The server for diagrams that the file names. -/
def server? (file : ConfigFile) : Option String := file.diagrams.bind (·.krokiUrl)

end ConfigFile

namespace Config

/-- What the check of a file says of a server. -/
def checkServer (env : String → Option String) (url : String) : Except ConfigError Unit := do
  requireWebUrl "diagrams.kroki_url" (← expandField env "diagrams.kroki_url" url)

section Files

variable {env : String → Option String} {s : CliSettings}

/-- The path of a style sheet is seen from a directory only if it is used. -/
theorem withCli_join {d d' : DefaultChoices} (h : d.withCli s = d'.withCli s)
    (f : String → String) :
    { d with customCss := d.customCss.map f }.withCli s =
      { d' with customCss := d'.customCss.map f }.withCli s := by
  simp only [DefaultChoices.withCli, withCli, DefaultChoices.mk.injEq] at h ⊢
  obtain ⟨htheme, hfontFamily, hfontSize, hprimaryColor, hlegend, hcodeTheme, huseIndent,
    hcitations, hmacCodeBlocks, hfootnoteHeading, hcustomCss, hfallback⟩ := h
  refine ⟨htheme, hfontFamily, hfontSize, hprimaryColor, hlegend, hcodeTheme, huseIndent,
    hcitations, hmacCodeBlocks, hfootnoteHeading, ?_, hfallback⟩
  cases hset : s.customCss with
  | none =>
      rw [hset, Option.none_or, Option.none_or] at hcustomCss
      rw [hcustomCss]
  | some css => rfl

theorem withCli_eq {c c' : Config} (hdefaults : c.defaults.withCli s = c'.defaults.withCli s)
    (hassets : c.assets = c'.assets)
    (hdiagrams : (c.withCli s).diagrams = (c'.withCli s).diagrams) (hpath : c.path = c'.path) :
    c.withCli s = c'.withCli s := by
  have hparts (c : Config) :
      c.withCli s = ⟨c.defaults.withCli s, c.assets, (c.withCli s).diagrams, c.path⟩ := rfl
  rw [hparts c, hparts c', hdefaults, hassets, hdiagrams, hpath]

/-- Configurations that are checked alike, and are the same under the command line, load alike. -/
theorem bind_applyCli {c c' : Config} (hvalid : c.validate = c'.validate)
    (hcli : c.withCli s = c'.withCli s) :
    (c.validate >>= fun _ => applyCli c (some s)) =
      c'.validate >>= fun _ => applyCli c' (some s) := by
  rw [hvalid]
  refine congrArg (c'.validate >>= ·) (funext fun _ => ?_)
  rw [applyCli, applyCli, hcli]

/-! ## Servers -/

/-- An address that cannot be expanded is refused for another reason than one that can. -/
theorem expandField_ne_requireWebUrl {name url u : String} {e : ConfigError}
    (h : expandField env name url = .error e) : .error e ≠ requireWebUrl name u := by
  unfold expandField at h
  unfold requireWebUrl
  split at h
  · exact nomatch h
  · obtain rfl := Except.error.inj h
    split
    · exact nofun
    · simp

/-- An address whose check ends alike is expanded to one that is checked alike, or refused alike. -/
theorem checkServer_cases {url url' : String} (h : checkServer env url = checkServer env url') :
    (∃ e, expandField env "diagrams.kroki_url" url = .error e ∧
        expandField env "diagrams.kroki_url" url' = .error e) ∨
      ∃ u u', expandField env "diagrams.kroki_url" url = .ok u ∧
        expandField env "diagrams.kroki_url" url' = .ok u' ∧
        requireWebUrl "diagrams.kroki_url" u = requireWebUrl "diagrams.kroki_url" u' := by
  unfold checkServer at h
  cases hurl : expandField env "diagrams.kroki_url" url with
  | error e =>
      cases hurl' : expandField env "diagrams.kroki_url" url' with
      | error e' =>
          rw [hurl, hurl'] at h
          obtain rfl : e = e' := Except.error.inj h
          exact .inl ⟨e, rfl, rfl⟩
      | ok u' =>
          rw [hurl, hurl'] at h
          exact absurd h (expandField_ne_requireWebUrl hurl)
  | ok u =>
      cases hurl' : expandField env "diagrams.kroki_url" url' with
      | error e' =>
          rw [hurl, hurl'] at h
          exact absurd h.symm (expandField_ne_requireWebUrl hurl')
      | ok u' =>
          rw [hurl, hurl'] at h
          exact .inr ⟨u, u', rfl, rfl, h⟩

/-- The server that is used is the same, if both are expanded. -/
theorem or_expanded {url url' u u' : String} (hmasked : s.krokiUrl.getD url = s.krokiUrl.getD url')
    (hurl : expandField env "diagrams.kroki_url" url = .ok u)
    (hurl' : expandField env "diagrams.kroki_url" url' = .ok u') :
    s.krokiUrl.or (some u) = s.krokiUrl.or (some u') := by
  cases hset : s.krokiUrl with
  | none =>
      obtain rfl : url = url' := by rwa [hset] at hmasked
      obtain rfl : u = u' := Except.ok.inj (hurl.symm.trans hurl')
      rfl
  | some server => rfl

/-- The settings on diagrams of a section. -/
def sectionSettings (env : String → Option String) (directory : String)
    (d : Option DiagramSection) : Except ConfigError DiagramSettings := do
  diagramSettings directory (← expandOption env "diagrams.kroki_url" (d.bind (·.krokiUrl))) d

/-- Sections that are the same under the command line end alike, or in settings that differ in
their servers only. -/
theorem sectionSettings_cases (directory : String) {d d' : Option DiagramSection}
    (hmasked : d.map (·.masked s) = d'.map (·.masked s))
    (hserver : (d.bind (·.krokiUrl)).map (checkServer env) =
      (d'.bind (·.krokiUrl)).map (checkServer env)) :
    sectionSettings env directory d = sectionSettings env directory d' ∨
      ∃ u u' timeout cache, sectionSettings env directory d = .ok ⟨some u, timeout, cache⟩ ∧
        sectionSettings env directory d' = .ok ⟨some u', timeout, cache⟩ ∧
        requireWebUrl "diagrams.kroki_url" u = requireWebUrl "diagrams.kroki_url" u' ∧
        s.krokiUrl.or (some u) = s.krokiUrl.or (some u') := by
  match d, d' with
  | none, none => exact .inl rfl
  | none, some _ => exact nomatch hmasked
  | some _, none => exact nomatch hmasked
  | some ⟨url, timeout, cache⟩, some ⟨url', timeout', cache'⟩ =>
    simp only [DiagramSection.masked, Option.map_some, Option.some.injEq,
      DiagramSection.mk.injEq] at hmasked
    obtain ⟨hurls, rfl, rfl⟩ := hmasked
    match url, url' with
    | none, none => exact .inl rfl
    | none, some _ => exact nomatch hurls
    | some _, none => exact nomatch hurls
    | some url, some url' =>
      unfold sectionSettings
      dsimp only [Option.bind_some, expandOption]
      obtain ⟨e, hurl, hurl'⟩ | ⟨u, u', hurl, hurl', hweb⟩ :=
        checkServer_cases (Option.some.inj hserver)
      · rw [hurl, hurl']
        exact .inl rfl
      · rw [hurl, hurl']
        exact .inr ⟨u, u', _, _, rfl, rfl, hweb, or_expanded (Option.some.inj hurls) hurl hurl'⟩

/-! ## Loading -/

/-- Files that are the same under the command line load alike, if their servers are checked
alike. -/
theorem bind_applyCli_ofFile (path : String) {file file' : ConfigFile}
    (hmasked : file.masked s = file'.masked s)
    (hserver : file.server?.map (checkServer env) = file'.server?.map (checkServer env)) :
    (ofFile env path file >>= (applyCli · (some s))) =
      ofFile env path file' >>= (applyCli · (some s)) := by
  obtain ⟨defaults, assets, diagrams⟩ := file
  obtain ⟨defaults', assets', diagrams'⟩ := file'
  simp only [ConfigFile.masked, ConfigFile.mk.injEq] at hmasked
  obtain ⟨hdefaults, rfl, hdiagrams⟩ := hmasked
  -- the settings on diagrams come between the address of the style sheets and the check
  have hofFile (defaults : DefaultChoices) (diagrams : Option DiagramSection) :
      (ofFile env path ⟨defaults, assets, diagrams⟩ >>= (applyCli · (some s))) =
        expandField env "assets.stylesheet_url" assets.stylesheetUrl >>= fun url =>
          sectionSettings env ((Path.parent? path).getD ".") diagrams >>= fun settings =>
            let c : Config :=
              ⟨{ defaults with
                  customCss := defaults.customCss.map (Path.join ((Path.parent? path).getD ".")) },
                { assets with stylesheetUrl := url }, settings, some path⟩
            c.validate >>= fun _ => applyCli c (some s) := by
    simp only [ofFile, sectionSettings, bind_assoc, pure_bind]
  rw [hofFile, hofFile]
  refine congrArg (expandField env "assets.stylesheet_url" assets.stylesheetUrl >>= ·)
    (funext fun url => ?_)
  have hjoined := withCli_join hdefaults (Path.join ((Path.parent? path).getD "."))
  obtain hsettings | ⟨u, u', timeout, cache, hsettings, hsettings', hweb, hused⟩ :=
    sectionSettings_cases ((Path.parent? path).getD ".") hdiagrams hserver
  · rw [hsettings]
    refine congrArg (sectionSettings env ((Path.parent? path).getD ".") diagrams' >>= ·)
      (funext fun settings => ?_)
    exact bind_applyCli rfl (withCli_eq hjoined rfl rfl rfl)
  · rw [hsettings, hsettings']
    refine bind_applyCli ?_ (withCli_eq hjoined rfl ?_ rfl)
    · unfold validate
      dsimp only
      rw [hweb]
    · exact congrArg (DiagramSettings.mk · timeout cache) hused

end Files

/-- Machines that differ in one file look for the configuration in the same place. -/
theorem source_withFile (m : Machine) (place : List String) (a b : String) :
    (path : Option String) → source (m.withFile place a) path = source (m.withFile place b) path
  | some _ => rfl
  | none => by
      rw [source, source, m.hasPath_withFile place a b]
      rfl

/-- A source is read alike on both, unless it is the file in which they differ. -/
theorem ofSource_withFile (m : Machine) (place : List String) (a b : String)
    (source : Option String) :
    ofSource (m.withFile place a) source = ofSource (m.withFile place b) source ∨
      ∃ path, ofSource (m.withFile place a) source = ofContent m.environment path a ∧
        ofSource (m.withFile place b) source = ofContent m.environment path b := by
  cases source with
  | none => exact .inl rfl
  | some path =>
      rw [ofSource, ofSource, m.hasPath_withFile place a b]
      cases (m.withFile place b).hasPath path with
      | false => exact .inl rfl
      | true =>
          obtain hread | ⟨ha, hb⟩ := m.files.read_put_file m.cwd place a b path
          · refine .inl ?_
            simp only [if_true, Machine.withFile, hread]
          · refine .inr ⟨path, ?_⟩
            simp only [if_true, Machine.withFile, ha, hb, and_self]

/-- **Files that are the same under the command line load alike**, into the same configuration or
the same error, if their servers for diagrams pass the check of a file alike. -/
theorem load_eq_of_masked {m : Machine} {place : List String} {path : Option String}
    {cli : CliSettings} {content content' : String} {file file' : ConfigFile}
    (hparse : ConfigFile.parse content = some file)
    (hparse' : ConfigFile.parse content' = some file')
    (hmasked : file.masked cli = file'.masked cli)
    (hserver : file.server?.map (checkServer m.environment) =
      file'.server?.map (checkServer m.environment)) :
    ((load Machine.host path (some cli)).run (m.withFile place content)).1 =
      ((load Machine.host path (some cli)).run (m.withFile place content')).1 := by
  rw [run_load, run_load, source_withFile m place content content']
  obtain hsame | ⟨found, hcontent, hcontent'⟩ :=
    ofSource_withFile m place content content' (source (m.withFile place content') path)
  · rw [hsame]
  · rw [hcontent, hcontent', ofContent_eq, ofContent_eq, hparse, hparse']
    exact bind_applyCli_ofFile found hmasked hserver

/-- A theme, a style sheet and a server from the command line. -/
def serverSettings : CliSettings := { graceSettings with krokiUrl := some "https://k" }

/-- A configuration file with a theme, a style sheet and a server for diagrams. -/
def serverFile (theme css server : String) : String :=
  "[defaults]\ntheme = \"" ++ theme ++ "\"\ncustom_css = \"" ++ css ++
    "\"\n[diagrams]\nkroki_url = \"" ++ server ++ "\"\n"

/-- What is read from it. -/
def serverSections (theme css server : String) : ConfigFile where
  defaults := { DefaultChoices.builtin with theme := theme, customCss := some css }
  assets := .builtin
  diagrams := some ⟨some server, none, none⟩

/-- What is loaded with it. -/
def loadServerFile (theme css server : String) : Except ConfigError Config :=
  ((load Machine.host none (some serverSettings)).run
    (nestedMachine.withFile ["home", "mdstyle.toml"] (serverFile theme css server))).1

theorem serverFile_load_eq :
    ConfigFile.parse (serverFile "a" "b" "http://c") = some (serverSections "a" "b" "http://c") ∧
      ConfigFile.parse (serverFile "d" "e" "$\x7bK\x7d/f") =
        some (serverSections "d" "e" "$\x7bK\x7d/f") ∧
      (serverSections "a" "b" "http://c").masked serverSettings =
        (serverSections "d" "e" "$\x7bK\x7d/f").masked serverSettings ∧
      loadServerFile "a" "b" "http://c" = loadServerFile "d" "e" "$\x7bK\x7d/f" := by
  have hparse : ConfigFile.parse (serverFile "a" "b" "http://c") =
      some (serverSections "a" "b" "http://c") := by decide +kernel
  have hparse' : ConfigFile.parse (serverFile "d" "e" "$\x7bK\x7d/f") =
      some (serverSections "d" "e" "$\x7bK\x7d/f") := by decide +kernel
  have hcheck : checkServer nestedMachine.environment "http://c" = .ok () :=
    eq_ok_of_toOption (by decide +kernel)
  have hcheck' : checkServer nestedMachine.environment "$\x7bK\x7d/f" = .ok () :=
    eq_ok_of_toOption (by decide +kernel)
  refine ⟨hparse, hparse', rfl, ?_⟩
  rw [loadServerFile, loadServerFile]
  exact load_eq_of_masked hparse hparse' rfl (congrArg some (hcheck.trans hcheck'.symm))

/-- The server of a file is checked although that of the command line is used. -/
theorem server_not_overridden :
    ConfigFile.parse (serverFile "a" "b" "http://c") = some (serverSections "a" "b" "http://c") ∧
      ConfigFile.parse (serverFile "a" "b" "ftp://c") = some (serverSections "a" "b" "ftp://c") ∧
      (serverSections "a" "b" "http://c").masked serverSettings =
        (serverSections "a" "b" "ftp://c").masked serverSettings ∧
      loadServerFile "a" "b" "http://c" ≠ loadServerFile "a" "b" "ftp://c" := by
  refine ⟨by decide +kernel, by decide +kernel, rfl, fun hload => ?_⟩
  have hloaded : (loadServerFile "a" "b" "http://c").toOption.isSome = true := by decide +kernel
  have hrefused : (loadServerFile "a" "b" "ftp://c").toOption.isSome = false := by decide +kernel
  rw [hload, hrefused] at hloaded
  exact nomatch hloaded

end Config

end Broadsheet
