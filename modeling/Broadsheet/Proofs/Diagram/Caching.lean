import Broadsheet.Diagram.Kroki
import Broadsheet.Proofs.Host.Files

/-!
# Broadsheet.Proofs.Diagram.Caching

Rendering diagrams with a cache.  A run renders one source after another, under
an id each, on a described machine.

* Whatever the cache, and whether its directory can be used or not, each result
  is what the server's answer for the source comes to under the id
  (`Kroki.drawn`).
* With a cache that works, the server is asked for a source until an answer
  passes, and no more (`asked`).

Both are in `renderAll_cached`.  It goes by a law for caches, `Retains`, that
says what a cache gives after some sources were put into it; each kind of cache
obeys it, and one rendering after another keeps it.
-/

namespace Broadsheet

/-! ## Programs with a memory -/

/-- Programs on a described machine that have diagrams in memory. -/
abbrev Recalling := StateT DiagramStore Described

/-- The diagrams in memory and the machine. -/
abbrev Recalling.State := DiagramStore × Machine

/-- From `s`, a program gives `a` and leaves `s'`. -/
def Ends {α : Type} (x : Recalling α) (s : Recalling.State) (a : α) (s' : Recalling.State) : Prop :=
  (x.run s.1).run s.2 = ((a, s'.1), s'.2)

namespace Ends

variable {α β : Type} {s s' s'' : Recalling.State}

theorem pure (a : α) (s : Recalling.State) : Ends (pure a) s a s := rfl

theorem bind {x : Recalling α} {f : α → Recalling β} {a : α} {b : β} (h : Ends x s a s')
    (h' : Ends (f a) s' b s'') : Ends (x >>= f) s b s'' := by
  simp only [Ends] at h h' ⊢
  rw [StateT.run_bind, StateT.run_bind, h]
  exact h'

/-- A program ends in one way. -/
theorem unique {x : Recalling α} {a b : α} (h : Ends x s a s') (h' : Ends x s b s'') :
    a = b ∧ s' = s'' := by
  have heq := h.symm.trans h'
  exact ⟨congrArg (·.1.1) heq, congrArg (fun p => (p.1.2, p.2)) heq⟩

theorem of_run (x : Recalling α) (s : Recalling.State) :
    Ends x s ((x.run s.1).run s.2).1.1 (((x.run s.1).run s.2).1.2, ((x.run s.1).run s.2).2) := rfl

/-- A program that only uses the machine. -/
theorem lift {x : Described α} {a : α} {m : Machine} (h : x.run s.2 = (a, m)) :
    Ends (monadLift x) s a (s.1, m) :=
  congrArg (fun p : α × Machine => ((p.1, s.1), p.2)) h

end Ends

namespace Machine

theorem run_createDirectories (path : String) (m : Machine) :
    (host.createDirectories path).run m =
      ((m.files.makeDirectories m.cwd path).map fun _ => (),
        { m with files := (m.files.makeDirectories m.cwd path).toOption.getD m.files }) := by
  simp only [host, StateT.run_bind, StateT.run_get, pure_bind]
  cases m.files.makeDirectories m.cwd path <;> rfl

theorem run_writeFile (path content : String) (m : Machine) :
    (host.writeFile path content).run m =
      ((m.files.write m.cwd path content).map fun _ => (),
        { m with files := (m.files.write m.cwd path content).toOption.getD m.files }) := by
  simp only [host, StateT.run_bind, StateT.run_get, pure_bind]
  cases m.files.write m.cwd path content <;> rfl

end Machine

/-- The machine for such programs. -/
def Recalling.host : Host Recalling := Machine.host.lift

theorem ends_send (r : HttpRequest) (s : Recalling.State) :
    Ends (Recalling.host.send r) s (s.2.network r)
      (s.1, { s.2 with requests := s.2.requests ++ [r] }) := rfl

theorem ends_createDirectories (path : String) (s : Recalling.State) :
    Ends (Recalling.host.createDirectories path) s
      ((s.2.files.makeDirectories s.2.cwd path).map fun _ => ())
      (s.1, { s.2 with
        files := (s.2.files.makeDirectories s.2.cwd path).toOption.getD s.2.files }) :=
  .lift (s.2.run_createDirectories path)

theorem ends_writeFile (path content : String) (s : Recalling.State) :
    Ends (Recalling.host.writeFile path content) s
      ((s.2.files.write s.2.cwd path content).map fun _ => ())
      (s.1, { s.2 with
        files := (s.2.files.write s.2.cwd path content).toOption.getD s.2.files }) :=
  .lift (s.2.run_writeFile path content)

/-! ## Files of diagrams -/

theorem length_digest (message : List UInt8) : (Sha256.digest message).length = 32 := by
  simp [Sha256.digest, Sha256.bigEndian]

theorem length_hexDigest (s : String) : (Sha256.hexDigest s).toList.length = 64 := by
  have hpairs (bytes : List UInt8) :
      (bytes.flatMap Sha256.hexByte).length = 2 * bytes.length := by
    induction bytes with
    | nil => rfl
    | cons b bytes ih => simp [ih, Sha256.hexByte]; omega
  rw [Sha256.hexDigest, String.toList_ofList, hpairs, length_digest]

theorem mem_hexDigest {s : String} {c : Char} (h : c ∈ (Sha256.hexDigest s).toList) :
    ∃ n < 16, c = Nat.digitChar n := by
  simp only [Sha256.hexDigest, Sha256.hexByte, String.toList_ofList, List.mem_flatMap,
    List.mem_cons, List.not_mem_nil, or_false] at h
  obtain ⟨b, -, rfl | rfl⟩ := h
  · exact ⟨_, by have := b.toNat_lt; omega, rfl⟩
  · exact ⟨_, Nat.mod_lt _ (by decide), rfl⟩

namespace DiagramKey

variable {a b key : DiagramKey}

theorem toList_fileName (key : DiagramKey) :
    key.fileName.toList = key.hash.toList ++ '.' :: key.format.toList := by
  simp [fileName]

theorem length_hash (key : DiagramKey) : key.hash.toList.length = 64 := length_hexDigest key.text

theorem mem_hash {c : Char} (h : c ∈ key.hash.toList) :
    c ≠ '/' ∧ c ≠ '\x00' ∧ c.utf8Size = 1 := by
  have hdigit : ∀ n < 16, Nat.digitChar n ≠ '/' ∧ Nat.digitChar n ≠ '\x00' ∧
      (Nat.digitChar n).utf8Size = 1 := by decide
  obtain ⟨n, hn, rfl⟩ := mem_hexDigest h
  exact hdigit n hn

/-- A format without slashes can be a part of a name. -/
theorem isName_fileName (h : '/' ∉ key.format.toList) : Path.IsName key.fileName := by
  have hlength : 64 ≤ key.fileName.toList.length := by
    simp [toList_fileName, length_hash]
  refine ⟨?_, ?_, ?_, ?_⟩
  · rw [toList_fileName, List.mem_append, List.mem_cons]
    rintro (hslash | hslash | hslash)
    · exact (mem_hash hslash).1 rfl
    · exact absurd hslash (by decide)
    · exact h hslash
  all_goals
    intro heq
    rw [heq] at hlength
    exact absurd hlength (by decide)

theorem nul_notMem_fileName (h : '\x00' ∉ key.format.toList) : '\x00' ∉ key.fileName.toList := by
  rw [toList_fileName, List.mem_append, List.mem_cons]
  rintro (hnul | hnul | hnul)
  · exact (mem_hash hnul).2.1 rfl
  · exact absurd hnul (by decide)
  · exact h hnul

theorem utf8ByteSize_fileName (key : DiagramKey) :
    key.fileName.utf8ByteSize = 65 + key.format.utf8ByteSize := by
  have hbytes : (l : List Char) → (∀ c ∈ l, c.utf8Size = 1) →
      (String.ofList l).utf8ByteSize = l.length := by
    intro l hl
    induction l with
    | nil => rfl
    | cons c l ih =>
        obtain ⟨hc, hl⟩ := List.forall_mem_cons.mp hl
        have hcons : (String.ofList (c :: l)).utf8ByteSize =
            c.utf8Size + (String.ofList l).utf8ByteSize := by
          simp [String.utf8ByteSize, String.ofList, List.utf8Encode]
        rw [hcons, hc, ih hl, List.length_cons, Nat.add_comm]
  have hhash : key.hash.utf8ByteSize = 64 := by
    rw [← String.ofList_toList (s := key.hash), hbytes _ fun c hc => (mem_hash hc).2.2, length_hash]
  have hdot : ".".utf8ByteSize = 1 := by decide
  rw [fileName, String.utf8ByteSize_append, String.utf8ByteSize_append, hhash, hdot]

theorem fileName_eq_iff : a.fileName = b.fileName ↔ a.hash = b.hash ∧ a.format = b.format := by
  constructor
  · intro h
    have hlists := congrArg String.toList h
    rw [toList_fileName, toList_fileName] at hlists
    obtain ⟨hhash, hformat⟩ :=
      List.append_inj hlists (by rw [length_hash, length_hash])
    exact ⟨String.toList_inj.mp hhash, String.toList_inj.mp (List.cons.inj hformat).2⟩
  · rintro ⟨hhash, hformat⟩
    rw [fileName, fileName, hhash, hformat]

/-- Files of different names stand at different places. -/
theorem fileName_eq_of_placeOf {cwd : List String} {directory : String}
    (ha : '/' ∉ a.format.toList) (hb : '/' ∉ b.format.toList)
    (h : FileTree.placeOf cwd (Path.join directory a.fileName) =
      FileTree.placeOf cwd (Path.join directory b.fileName)) : a.fileName = b.fileName := by
  rw [FileTree.placeOf_join cwd _ (isName_fileName ha),
    FileTree.placeOf_join cwd _ (isName_fileName hb), List.append_right_inj] at h
  exact List.singleton_inj.mp h

end DiagramKey

namespace Kroki

/-- The file that a diagram of a source is kept in. -/
def fileName (source : String) : String := (key source).fileName

@[simp] theorem format_key (source : String) : (key source).format = "svg" := rfl

/-- The format has no slash. -/
theorem slash_notMem_format (source : String) : '/' ∉ (key source).format.toList := by
  rw [format_key]
  decide

theorem isName_fileName (source : String) : Path.IsName (fileName source) :=
  DiagramKey.isName_fileName (slash_notMem_format source)

/-- The path of that file in a directory. -/
def path (directory source : String) : String := Path.join directory (fileName source)

/-- Files of different hashes stand at different places. -/
theorem hash_eq_of_placeOf {cwd : List String} {directory a b : String}
    (h : FileTree.placeOf cwd (path directory a) = FileTree.placeOf cwd (path directory b)) :
    (key a).hash = (key b).hash := by
  have hname := DiagramKey.fileName_eq_of_placeOf (slash_notMem_format a) (slash_notMem_format b) h
  exact (DiagramKey.fileName_eq_iff.mp hname).1

end Kroki

/-! ## Caches -/

/-- Where a run keeps its diagrams. -/
inductive DiagramStorage
  | none
  | memory
  | files (directory : String)

namespace DiagramStorage

def cache : DiagramStorage → DiagramCache Recalling
  | none => .none
  | memory => .memory
  | files directory => .files Recalling.host directory

/-- Whether no file is there for the sources.  Nothing is in memory when a run
starts. -/
def isEmpty (storage : DiagramStorage) (sources : List String) (m : Machine) : Bool :=
  match storage with
  | none | memory => true
  | files directory => sources.all fun source =>
      !m.files.hasFile (FileTree.placeOf m.cwd (Kroki.path directory source))

/-- Whether diagrams of the sources can be kept. -/
def works (storage : DiagramStorage) (sources : List String) (m : Machine) : Bool :=
  match storage with
  | none => false
  | memory => true
  | files directory => sources.all fun source =>
      m.files.takes m.cwd directory (Kroki.path directory source)

/-- A directory that can be made, and is found then, will do, unless there are
directories in the places of the files. -/
theorem works_files {sources : List String} {m : Machine} {directory : String} {made : FileTree}
    (hmake : m.files.makeDirectories m.cwd directory = .ok made)
    (hfind : made.find m.cwd directory = .ok .directory)
    (hfree : ∀ source ∈ sources,
      made.at? (FileTree.placeOf m.cwd (Kroki.path directory source)) ≠ some .directory) :
    (files directory).works sources m := by
  refine List.all_eq_true.mpr fun source hsource => ?_
  have hfree := hfree source hsource
  have hname := Kroki.isName_fileName source
  rw [Kroki.path, FileTree.placeOf_join _ _ hname] at hfree
  refine FileTree.takes_of_find hmake hfind hname ?_ ?_ hfree
  · apply DiagramKey.nul_notMem_fileName
    rw [Kroki.format_key]
    decide
  · rw [Kroki.fileName, DiagramKey.utf8ByteSize_fileName, Kroki.format_key]
    decide

end DiagramStorage

/-- What may be found for a source when the diagrams of `kept` were put into a
cache: nothing, or the source's own diagram.  Nothing is lost if the cache is
`complete`. -/
structure Found (answer : String → Except DiagramFailure String) (complete : Prop)
    (kept : List String) (source : String) (found : Option String) : Prop where
  own {svg : String} : found = some svg → source ∈ kept ∧ answer source = .ok svg
  all : complete → source ∈ kept → found.isSome

/-- A cache in which the right things are found.  `holds kept s` says that the
diagrams of `kept` were put into it before `s`. -/
structure DiagramCache.Retains (cache : DiagramCache Recalling)
    (answer : String → Except DiagramFailure String) (sources : List String) (complete : Prop)
    (holds : List String → Recalling.State → Prop) : Prop where
  get {kept : List String} {s : Recalling.State} {source : String} :
    holds kept s → source ∈ sources →
      ∃ found, Ends (cache.get? (Kroki.key source)) s found s ∧
        Found answer complete kept source found
  put {kept : List String} {s : Recalling.State} {source svg : String} :
    holds kept s → source ∈ sources → answer source = .ok svg →
      ∃ s', Ends (cache.put (Kroki.key source) svg) s () s' ∧ holds (source :: kept) s' ∧
        s'.2.network = s.2.network ∧ s'.2.requests = s.2.requests
  send {kept : List String} {s : Recalling.State} (requests : List HttpRequest) :
    holds kept s → holds kept (s.1, { s.2 with requests := requests })

section Storages

variable {answer : String → Except DiagramFailure String} {complete : Prop}
  {kept sources : List String} {source : String}

namespace Found

theorem put {svg : String} (hanswer : answer source = .ok svg) :
    Found answer complete (source :: kept) source (some svg) :=
  ⟨fun h => ⟨.head _, Option.some.inj h ▸ hanswer⟩, fun _ _ => rfl⟩

theorem of_ne {other : String} {found : Option String} (h : Found answer complete kept source found)
    (hne : source ≠ other) : Found answer complete (other :: kept) source found :=
  ⟨fun hsvg => ⟨.tail _ (h.own hsvg).1, (h.own hsvg).2⟩,
    fun hcomplete hkept => h.all hcomplete (List.mem_of_ne_of_mem hne hkept)⟩

end Found

/-- Where nothing is kept, nothing is found. -/
theorem retains_none (hcomplete : ¬complete) :
    (DiagramStorage.cache .none).Retains answer sources complete fun _ _ => True where
  get _ _ := ⟨none, .pure none _, by simp, fun h => absurd h hcomplete⟩
  put _ _ _ := ⟨_, .pure () _, trivial, rfl, rfl⟩
  send _ _ := trivial

/-- The diagrams in memory are those that were kept. -/
theorem retains_memory (hhash : ∀ a ∈ sources, ∀ b ∈ sources,
      (Kroki.key a).hash = (Kroki.key b).hash → a = b) :
    (DiagramStorage.cache .memory).Retains answer sources complete fun kept s =>
      ∀ source ∈ sources, Found answer complete kept source s.1[(Kroki.key source).hash]? where
  get hholds hsource := ⟨_, rfl, hholds _ hsource⟩
  put {kept s source svg} hholds hsource hanswer := by
    refine ⟨(s.1.insert (Kroki.key source).hash svg, s.2), rfl, fun other hother => ?_, rfl, rfl⟩
    rw [Std.ExtTreeMap.getElem?_insert]
    by_cases hsame : other = source
    · subst hsame
      rw [if_pos (by simp)]
      exact Found.put hanswer
    · rw [if_neg]
      · exact (hholds other hother).of_ne hsame
      · intro heq
        exact hsame (hhash source hsource other hother (by simpa using heq)).symm
  send _ hholds := hholds

/-- A file of a diagram is that of a source that was kept, and where files can be
kept, they are and can be read. -/
structure DiagramStorage.Filed (directory : String) (cwd : List String)
    (answer : String → Except DiagramFailure String) (sources : List String) (complete : Prop)
    (kept : List String) (s : Recalling.State) : Prop where
  stays : s.2.cwd = cwd
  own {source text : String} : source ∈ sources →
    s.2.files.at? (FileTree.placeOf cwd (Kroki.path directory source)) = some (.file text) →
      source ∈ kept ∧ answer source = .ok text
  takes {source : String} : complete → source ∈ sources →
    s.2.files.takes cwd directory (Kroki.path directory source)
  readable {source : String} : complete → source ∈ sources → source ∈ kept →
    ∃ text, s.2.files.read cwd (Kroki.path directory source) = .ok text

/-- A diagram is put into its file. -/
theorem ends_put_files (directory : String) (key : DiagramKey) (svg : String)
    (s : Recalling.State) :
    Ends ((DiagramStorage.cache (.files directory)).put key svg) s ()
      (s.1, { s.2 with
        files := s.2.files.keep s.2.cwd directory (Path.join directory key.fileName) svg }) := by
  have hmade := ends_createDirectories directory s
  simp only [DiagramStorage.cache, DiagramCache.files]
  rw [FileTree.keep]
  generalize Path.join directory key.fileName = path
  cases hmake : s.2.files.makeDirectories s.2.cwd directory with
  | error e =>
      rw [hmake] at hmade
      exact hmade.bind (.pure () _)
  | ok made =>
      rw [hmake] at hmade
      have hwritten := ends_writeFile path svg (s.1, { s.2 with files := made })
      dsimp only at hwritten ⊢
      cases hwrite : made.write s.2.cwd path svg with
      | error e =>
          rw [hwrite] at hwritten
          exact hmade.bind (hwritten.bind (.pure () _))
      | ok files =>
          rw [hwrite] at hwritten
          exact hmade.bind (hwritten.bind (.pure () _))

theorem retains_files (directory : String) (cwd : List String)
    (hhash : ∀ a ∈ sources, ∀ b ∈ sources, (Kroki.key a).hash = (Kroki.key b).hash → a = b) :
    (DiagramStorage.cache (.files directory)).Retains answer sources complete
      (DiagramStorage.Filed directory cwd answer sources complete) where
  get {kept s source} hholds hsource := by
    refine ⟨(s.2.files.read s.2.cwd (Kroki.path directory source)).toOption, rfl, ?_, ?_⟩
    · intro svg hsvg
      rw [hholds.stays] at hsvg
      refine hholds.own hsource (FileTree.at?_of_read ?_)
      cases hread : s.2.files.read cwd (Kroki.path directory source) with
      | error e => simp [hread, Except.toOption] at hsvg
      | ok text => simpa [hread, Except.toOption] using hsvg
    · intro hcomplete hkept
      obtain ⟨text, htext⟩ := hholds.readable hcomplete hsource hkept
      rw [hholds.stays, htext]
      rfl
  put {kept s source svg} hholds hsource hanswer := by
    have hput := ends_put_files directory (Kroki.key source) svg s
    rw [← Kroki.fileName, ← Kroki.path] at hput
    refine ⟨_, hput, ?_, rfl, rfl⟩
    have hstays := hholds.stays
    subst hstays
    refine ⟨rfl, fun {other text} hother htext => ?_, fun {other} hcomplete hother => ?_,
      fun {other} hcomplete hother hkept => ?_⟩
    · obtain hbefore | ⟨hplace, rfl⟩ := FileTree.at?_keep htext
      · obtain ⟨hkept, hown⟩ := hholds.own hother hbefore
        exact ⟨.tail _ hkept, hown⟩
      · obtain rfl := hhash other hother source hsource (Kroki.hash_eq_of_placeOf hplace)
        exact ⟨.head _, hanswer⟩
    · obtain ⟨-, -, htakes⟩ := FileTree.keep_of_takes (hholds.takes hcomplete hsource) svg
      exact htakes _ (hholds.takes hcomplete hother)
    · obtain ⟨hread, hkeeps, -⟩ := FileTree.keep_of_takes (hholds.takes hcomplete hsource) svg
      obtain rfl | hkept := List.mem_cons.mp hkept
      · exact ⟨svg, hread⟩
      · obtain ⟨text, htext⟩ := hholds.readable hcomplete hother hkept
        exact FileTree.read_of_keeps hkeeps htext
  send _ hholds := ⟨hholds.stays, hholds.own, hholds.takes, hholds.readable⟩

/-- Every storage starts as a cache in which the right things are found. -/
theorem exists_retains (answer : String → Except DiagramFailure String) (storage : DiagramStorage)
    (m : Machine) (hempty : storage.isEmpty sources m)
    (hhash : ∀ a ∈ sources, ∀ b ∈ sources, (Kroki.key a).hash = (Kroki.key b).hash → a = b) :
    ∃ holds, storage.cache.Retains answer sources (storage.works sources m) holds ∧
      holds [] (∅, m) := by
  cases storage with
  | none => exact ⟨_, retains_none (by simp [DiagramStorage.works]), trivial⟩
  | memory => exact ⟨_, retains_memory hhash, fun _ _ => ⟨by simp, by simp⟩⟩
  | files directory =>
      refine ⟨_, retains_files directory m.cwd hhash, rfl, fun {source text} hsource hfile => ?_,
        fun hworks hsource => List.all_eq_true.mp hworks _ hsource, by simp⟩
      have hnone := List.all_eq_true.mp hempty source hsource
      simp [FileTree.hasFile, hfile] at hnone

end Storages

/-! ## Renderings -/

namespace Kroki

/-- What a diagram without an id comes to under an id. -/
def stamped (svg id : String) : Except DiagramError String :=
  match Svg.withIdText? svg id with
  | some s => .ok s
  | none => .error ⟨id, .invalidSvg⟩

/-- What the server's answer for a source comes to under an id. -/
def drawn (answer : Except String HttpResponse) (id : String) : Except DiagramError String :=
  match readResponse answer with
  | .error e => .error ⟨id, e⟩
  | .ok svg => match Svg.withIdText? svg id with
    | some s => .ok s
    | none => .error ⟨id, .invalidSvg⟩

/-- Whether an answer passes: it tells no error, and an SVG element is in it. -/
def passes : Except String HttpResponse → Bool
  | .error _ => false
  | .ok r => decide (r.status < 400) && r.body.toOption.any (containsText "<svg")

theorem passes_iff {answer : Except String HttpResponse} :
    passes answer ↔ ∃ svg, readResponse answer = .ok svg := by
  cases answer with
  | error reason => simp [passes, readResponse]
  | ok r =>
      by_cases hstatus : 400 ≤ r.status
      · simp [passes, readResponse, hstatus, Nat.not_lt.mpr hstatus]
      · cases hbody : r.body with
        | error reason => simp [passes, readResponse, hstatus, hbody, Except.toOption]
        | ok body =>
            cases hsvg : containsText "<svg" body <;>
              simp [passes, readResponse, hstatus, hbody, hsvg, Except.toOption]
            omega

/-- Renders one source after another, each under an id. -/
def renderAll (k : Kroki Recalling) (calls : List (String × String)) :
    Recalling (List (Except DiagramError String)) :=
  calls.mapM fun call => k.render Recalling.host call.1 call.2

/-- The sources that a server is asked for: all but those with an answer that
passed before, which are in `kept`. -/
def asked (server : String → Except String HttpResponse) (kept : List String) :
    List String → List String
  | [] => []
  | source :: rest =>
      if source ∈ kept then asked server kept rest
      else source :: asked server (if passes (server source) then source :: kept else kept) rest

section Runs

variable {k : Kroki Recalling} {server : String → Except String HttpResponse}
  {sources kept : List String} {complete : Prop} {s : Recalling.State}
  {holds : List String → Recalling.State → Prop}

theorem ends_render_of_error {source id : String} {e : DiagramFailure} {s' : Recalling.State}
    (h : Ends (k.fetch Recalling.host source) s (.error e) s') :
    Ends (k.render Recalling.host source id) s (.error ⟨id, e⟩) s' :=
  h.bind (.pure _ s')

theorem ends_render_of_ok {source id svg : String} {s' : Recalling.State}
    (h : Ends (k.fetch Recalling.host source) s (.ok svg) s') :
    Ends (k.render Recalling.host source id) s (stamped svg id) s' := by
  refine h.bind ?_
  cases hid : Svg.withIdText? svg id <;> simpa [stamped, hid] using .pure _ s'

/-- Fetching gives what the server answers, now or before.  The requests that
were made and those that are still to be made stay the same. -/
theorem ends_fetch
    (hcache : k.cache.Retains (fun source => readResponse (server source)) sources complete holds)
    (hserver : ∀ source, s.2.network (k.request source) = server source) (hholds : holds kept s)
    {source : String} (hsource : source ∈ sources) :
    ∃ kept' s', Ends (k.fetch Recalling.host source) s (readResponse (server source)) s' ∧
      holds kept' s' ∧ s'.2.network = s.2.network ∧
      (complete → ∀ rest,
        s'.2.requests ++ (asked server kept' rest).map k.request =
          s.2.requests ++ (asked server kept (source :: rest)).map k.request) := by
  obtain ⟨found, hget, hfound⟩ := hcache.get hholds hsource
  rw [fetch]
  cases found with
  | some svg =>
      obtain ⟨hkept, hown⟩ := hfound.own rfl
      rw [hown]
      refine ⟨kept, s, hget.bind (.pure _ s), hholds, rfl, fun _ rest => ?_⟩
      rw [asked, if_pos hkept]
  | none =>
      have hsent := ends_send (k.request source) s
      rw [hserver source] at hsent
      have hasked (hcomplete : complete) (rest : List String) :
          asked server kept (source :: rest) = source ::
            asked server (if passes (server source) then source :: kept else kept) rest := by
        have hkept : source ∉ kept := fun hkept => by simpa using hfound.all hcomplete hkept
        rw [asked, if_neg hkept]
      have hholds' := hcache.send (s.2.requests ++ [k.request source]) hholds
      cases hanswer : readResponse (server source) with
      | error e =>
          have hfails : passes (server source) = false := by
            rw [← Bool.not_eq_true, passes_iff]
            simp [hanswer]
          refine ⟨kept, _, hget.bind (hsent.bind ?_), hholds', rfl, fun hcomplete rest => ?_⟩
          · rw [hanswer]
            exact .pure _ _
          · simp [hasked hcomplete, hfails]
      | ok svg =>
          have hpasses : passes (server source) := passes_iff.mpr ⟨svg, hanswer⟩
          obtain ⟨s', hput, hholds'', hnetwork, hrequests⟩ := hcache.put hholds' hsource hanswer
          refine ⟨source :: kept, s', hget.bind (hsent.bind ?_), hholds'', hnetwork,
            fun hcomplete rest => ?_⟩
          · rw [hanswer]
            exact hput.bind (.pure _ _)
          · simp [hasked hcomplete, hpasses, hrequests]

/-- One source after another is rendered to what is drawn of its answer. -/
theorem ends_renderAll
    (hcache : k.cache.Retains (fun source => readResponse (server source)) sources complete holds) :
    (calls : List (String × String)) → (kept : List String) → (s : Recalling.State) →
    (∀ source, s.2.network (k.request source) = server source) → holds kept s →
    (∀ call ∈ calls, call.1 ∈ sources) →
    ∃ s', Ends (k.renderAll calls) s (calls.map fun call => drawn (server call.1) call.2) s' ∧
      (complete → s'.2.requests =
        s.2.requests ++ (asked server kept (calls.map Prod.fst)).map k.request)
  | [], kept, s, _, _, _ => ⟨s, .pure [] s, fun _ => by simp [asked]⟩
  | (source, id) :: calls, kept, s, hserver, hholds, hsources => by
      obtain ⟨hsource, hcalls⟩ := List.forall_mem_cons.mp hsources
      obtain ⟨kept', t, hfetch, hholds', hnetwork, hrequests⟩ :=
        ends_fetch hcache hserver hholds hsource
      have hrender : Ends (k.render Recalling.host source id) s (drawn (server source) id) t := by
        rw [drawn]
        cases hread : readResponse (server source) with
        | error e => exact ends_render_of_error (hread ▸ hfetch)
        | ok svg => exact ends_render_of_ok (hread ▸ hfetch)
      obtain ⟨u, hrest, hrequests'⟩ := ends_renderAll hcache calls kept' t
        (by rwa [hnetwork]) hholds' hcalls
      refine ⟨u, ?_, fun hcomplete => ?_⟩
      · rw [renderAll, List.mapM_cons]
        exact hrender.bind (hrest.bind (.pure _ u))
      · rw [hrequests' hcomplete, hrequests hcomplete, List.map_cons]

end Runs

end Kroki

/-- The renderer that keeps its diagrams there. -/
def DiagramStorage.kroki (storage : DiagramStorage) (serverUrl : String) (timeoutSecs : Nat) :
    Kroki Recalling :=
  ⟨serverUrl, timeoutSecs, storage.cache⟩

/-- **A cache is not seen in the results of a run**: whatever the cache, each is
what the server's answer for the source comes to under the id.  A cache that works
saves the requests for the sources with an answer that passed before, and no
other.  It starts without diagrams, and different sources have different hashes. -/
theorem renderAll_cached (storage : DiagramStorage) (serverUrl : String) (timeoutSecs : Nat)
    (server : String → Except String HttpResponse) (calls : List (String × String)) (m : Machine)
    (hserver : ∀ source,
      m.network ((storage.kroki serverUrl timeoutSecs).request source) = server source)
    (hempty : storage.isEmpty (calls.map Prod.fst) m)
    (hhash : ∀ a ∈ calls.map Prod.fst, ∀ b ∈ calls.map Prod.fst,
      (Kroki.key a).hash = (Kroki.key b).hash → a = b) :
    let k := storage.kroki serverUrl timeoutSecs
    let run := ((k.renderAll calls).run ∅).run m
    run.1.1 = calls.map (fun call => Kroki.drawn (server call.1) call.2) ∧
      (storage.works (calls.map Prod.fst) m →
        run.2.requests =
          m.requests ++ (Kroki.asked server [] (calls.map Prod.fst)).map k.request) := by
  intro k run
  obtain ⟨holds, hcache, hholds⟩ := exists_retains
    (fun source => Kroki.readResponse (server source)) storage m hempty hhash
  obtain ⟨s', hends, hrequests⟩ := Kroki.ends_renderAll (k := k) hcache calls [] (∅, m) hserver
    hholds fun call hcall => List.mem_map_of_mem hcall
  have hrun : run = ((_, s'.1), s'.2) := hends
  rw [hrun]
  exact ⟨rfl, hrequests⟩

/-- A machine with a file in the way of a directory, and a server that draws one
source, refuses another one, and answers the rest with an SVG that the cleaning
takes out. -/
def diagramMachine : Machine where
  files := [(["notes"], .file "")]
  cwd := []
  environment _ := none
  input := ""
  output := ""
  errors := ""
  network r :=
    if r.body = "a" then .ok ⟨200, .ok "<svg id=\"a\"/>"⟩
    else if r.body = "b" then .ok ⟨503, .ok "busy"⟩
    else .ok ⟨200, .ok "@import url(fonts.googleapis.com/<svg)"⟩
  requests := []

/-- Six renderings with each storage.  Two of the storages work, and save the
second request for `a` and for `c`. -/
theorem diagramMachine_cached :
    let storages : List DiagramStorage :=
      [.none, .memory, .files "/diagrams/kept", .files "/notes/kept"]
    let calls := [("a", "1"), ("b", "2"), ("c", "3"), ("a", "4"), ("b", "5"), ("c", "6")]
    storages.map (·.works (calls.map Prod.fst) diagramMachine) = [false, true, true, false] ∧
      ∀ storage ∈ storages, storage.isEmpty (calls.map Prod.fst) diagramMachine ∧
        let k := storage.kroki "https://kroki.io" 30
        let run := ((k.renderAll calls).run ∅).run diagramMachine
        run.1.1 =
          [.ok "<svg id=\"1\"/>", .error ⟨"2", .http "HTTP 503: busy"⟩, .error ⟨"3", .invalidSvg⟩,
            .ok "<svg id=\"4\"/>", .error ⟨"5", .http "HTTP 503: busy"⟩,
            .error ⟨"6", .invalidSvg⟩] ∧
        (storage.works (calls.map Prod.fst) diagramMachine →
          run.2.requests = ["a", "b", "c", "b"].map k.request) := by
  intro storages calls
  have hplace (source : String) :
      FileTree.placeOf [] (Kroki.path "/diagrams/kept" source) =
        ["diagrams", "kept", Kroki.fileName source] ∧
      FileTree.placeOf [] (Kroki.path "/notes/kept" source) =
        ["notes", "kept", Kroki.fileName source] := by
    rw [Kroki.path, Kroki.path, FileTree.placeOf_join _ _ (Kroki.isName_fileName source),
      FileTree.placeOf_join _ _ (Kroki.isName_fileName source)]
    exact ⟨rfl, rfl⟩
  have hempty : ∀ storage ∈ storages, storage.isEmpty (calls.map Prod.fst) diagramMachine := by
    simp [storages, DiagramStorage.isEmpty, diagramMachine, FileTree.hasFile, FileTree.at?,
      List.lookup_cons, List.lookup_nil, hplace]
  have hworks : (DiagramStorage.files "/diagrams/kept").works (calls.map Prod.fst)
      diagramMachine := by
    have hmake : diagramMachine.files.makeDirectories [] "/diagrams/kept" =
        .ok [(["diagrams", "kept"], .directory), (["diagrams"], .directory),
          (["notes"], .file "")] := rfl
    refine DiagramStorage.works_files hmake rfl fun source _ => ?_
    simp [diagramMachine, FileTree.at?, List.lookup_cons, List.lookup_nil, hplace]
  refine ⟨?_, fun storage hstorage => ⟨hempty storage hstorage, ?_⟩⟩
  · simp only [storages, List.map_cons, List.map_nil, hworks]
    rfl
  · obtain ⟨hresults, hrequests⟩ := renderAll_cached storage "https://kroki.io" 30
      (fun source => diagramMachine.network ((storage.kroki "https://kroki.io" 30).request source))
      calls diagramMachine (fun _ => rfl) (hempty storage hstorage) (by decide +kernel)
    exact ⟨hresults.trans rfl, fun hworks => (hrequests hworks).trans rfl⟩

end Broadsheet
