import Broadsheet.Host.Described

/-!
# Broadsheet.Proofs.Host.Files

The files of a described machine.  A path leads to one place (`placeOf`),
whatever stands in the tree, as far as it leads anywhere.

* `at?_of_read` and `read_eq_ok_iff`: what is read is what stands at the place;
* `at?_of_write`: what is written stands at the place, and nothing else changes;
* `at?_makeBelow`: making directories leaves what stands there as it is;
* `content?_keep`: so does keeping a file in a directory, but for that file.

`Keeps` compares a tree with a later one that has all its directories and
files.  What could be found, made or written before still can.
-/

namespace Broadsheet

/-! ## Names of files -/

namespace Path

/-- A name that a directory can have a file under. -/
structure IsName (n : String) : Prop where
  noSlash : '/' ∉ n.toList
  nonempty : n ≠ ""
  notDot : n ≠ "."
  notDots : n ≠ ".."

theorem pieces_ne_nil (s : List Char) : pieces s ≠ [] := by
  fun_cases pieces s <;> simp

theorem pieces_of_noSlash {s : List Char} (h : '/' ∉ s) : pieces s = [s] := by
  induction s with
  | nil => rfl
  | cons c s ih =>
      obtain ⟨hc, hs⟩ : '/' ≠ c ∧ '/' ∉ s := by simpa using h
      rw [pieces, if_neg hc.symm, ih hs]

theorem pieces_append (a b : List Char) : pieces (a ++ '/' :: b) = pieces a ++ pieces b := by
  induction a with
  | nil => simp [pieces]
  | cons c a ih =>
      rw [List.cons_append, pieces, pieces, ih]
      split
      · rfl
      · cases h : pieces a with
        | nil => exact absurd h (pieces_ne_nil a)
        | cons p ps => rfl

theorem isAbsolute_of_isName {n : String} (h : IsName n) : isAbsolute n = false := by
  cases hl : n.toList with
  | nil => simp [isAbsolute, hl]
  | cons c cs =>
      have hc : c ≠ '/' := fun hc => h.noSlash (by simp [hl, hc])
      simp [isAbsolute, hl, hc]

theorem names_of_isName {n : String} (h : IsName n) : names n = [n] := by
  have hempty : n.toList ≠ [] := by simpa using h.nonempty
  have hdot : n.toList ≠ ['.'] := fun heq => h.notDot (String.toList_inj.mp heq)
  simp [names, pieces_of_noSlash h.noSlash, hempty, hdot]

/-- The names after a slash come after those before it. -/
theorem names_append (base path : String) :
    names (base ++ "/" ++ path) = names base ++ names path := by
  simp [names, pieces_append]

/-- A path with a slash at its end has the same names without it. -/
theorem names_append_slash (base : String) : names (base ++ "/") = names base := by
  simp [names, pieces_append, pieces]

/-- A name in a directory is the last of the names on its path. -/
theorem names_join (base : String) {n : String} (h : IsName n) :
    names (join base n) = names base ++ [n] := by
  rw [join, isAbsolute_of_isName h, Bool.false_or]
  split
  · next hbase =>
      obtain rfl : base = "" := by simpa using hbase
      exact names_of_isName h
  · split
    · next hlast =>
        obtain ⟨a, ha⟩ : ∃ a, base.toList = a ++ ['/'] :=
          List.getLast?_eq_some_iff.mp (by simpa using hlast)
        obtain rfl : base = String.ofList a ++ "/" := by
          rw [← String.toList_inj, ha]
          simp
        rw [names_append, names_append_slash, names_of_isName h]
    · rw [names_append, names_of_isName h]

/-- A name in a directory follows the directory's path, as far as there is one,
and perhaps a slash. -/
theorem exists_join_eq (base : String) {n : String} (h : IsName n) :
    ∃ slash, (slash = "" ∨ slash = "/") ∧ join base n = base ++ slash ++ n := by
  rw [join, isAbsolute_of_isName h, Bool.false_or]
  split
  · next hbase =>
      obtain rfl : base = "" := by simpa using hbase
      exact ⟨"", .inl rfl, by simp⟩
  · split
    · exact ⟨"", .inl rfl, by simp⟩
    · exact ⟨"/", .inr rfl, rfl⟩

theorem isAbsolute_join (base : String) {n : String} (h : IsName n) :
    isAbsolute (join base n) = isAbsolute base := by
  rw [join, isAbsolute_of_isName h, Bool.false_or]
  split
  · next hbase =>
      obtain rfl : base = "" := by simpa using hbase
      exact isAbsolute_of_isName h
  · next hbase =>
      have hnonempty : base.toList ≠ [] := by simpa using hbase
      cases hl : base.toList with
      | nil => exact absurd hl hnonempty
      | cons c cs => split <;> simp [isAbsolute, hl]

end Path

namespace FileTree

variable {t t' u : FileTree} {cwd place : List String} {path content : String}

/-! ## Places -/

theorem at?_put_self (t : FileTree) (node : FileNode) (h : place ≠ []) :
    (t.put place node).at? place = some node := by
  simp [at?, put, h]

theorem lookup_filter_ne {q : List String} (h : q ≠ place) :
    List.lookup q (t.filter fun e => e.1 != place) = List.lookup q t := by
  induction t with
  | nil => rfl
  | cons e t ih =>
      obtain ⟨p, node⟩ := e
      by_cases hp : p = place
      · have hq : (q == p) = false := by simpa [hp] using h
        rw [List.filter_cons_of_neg (by simp [hp]), ih, List.lookup_cons, hq]
      · rw [List.filter_cons_of_pos (by simp [hp]), List.lookup_cons, List.lookup_cons, ih]

theorem at?_put_of_ne (t : FileTree) (node : FileNode) {q : List String} (h : q ≠ place) :
    (t.put place node).at? q = t.at? q := by
  have hq : (q == place) = false := by simpa using h
  simp [at?, put, List.lookup_cons, hq, lookup_filter_ne h]

/-- The place that names lead to, as far as they lead anywhere. -/
def placeFrom (place : List String) : List String → List String
  | [] => place
  | n :: ns => if n = ".." then placeFrom place.dropLast ns else placeFrom (place ++ [n]) ns

/-- The place that a path leads to, as far as it leads anywhere. -/
def placeOf (cwd : List String) (path : String) : List String :=
  placeFrom (if Path.isAbsolute path then [] else cwd) (Path.names path)

theorem placeFrom_append (names : List String) {n : String} (hn : n ≠ "..") :
    (place : List String) → placeFrom place (names ++ [n]) = placeFrom place names ++ [n] := by
  induction names with
  | nil => simp [placeFrom, hn]
  | cons m ms ih => intro place; rw [List.cons_append, placeFrom, placeFrom, ih, ih]; split <;> rfl

/-- The place of a file is below that of its directory. -/
theorem placeOf_join (cwd : List String) (base : String) {n : String} (h : Path.IsName n) :
    placeOf cwd (Path.join base n) = placeOf cwd base ++ [n] := by
  rw [placeOf, Path.names_join base h, Path.isAbsolute_join base h, placeFrom_append _ h.notDots,
    placeOf]

theorem walk_cons_eq_ok_iff {n : String} {ns p : List String} :
    t.walk place (n :: ns) = .ok p ↔ t.at? place = some .directory ∧
      (n = ".." ∧ t.walk place.dropLast ns = .ok p ∨
        n ≠ ".." ∧ n.utf8ByteSize ≤ nameLimit ∧ t.walk (place ++ [n]) ns = .ok p) := by
  rw [walk]
  cases t.at? place with
  | none => simp
  | some node =>
      cases node with
      | file _ => simp
      | directory =>
          by_cases hup : n = ".."
          · simp [hup]
          · by_cases hlong : nameLimit < n.utf8ByteSize
            · simp [hup, hlong, Nat.not_le.mpr hlong]
            · simp [hup, hlong, Nat.not_lt.mp hlong]

theorem walk_eq_ok {names p : List String} : t.walk place names = .ok p →
    p = placeFrom place names := by
  induction names generalizing place with
  | nil => rintro ⟨⟩; rfl
  | cons n ns ih =>
      rw [walk_cons_eq_ok_iff, placeFrom]
      rintro ⟨-, ⟨rfl, hrest⟩ | ⟨hup, -, hrest⟩⟩
      · rw [if_pos rfl, ih hrest]
      · rw [if_neg hup, ih hrest]

theorem walk_append {names names' p q : List String} (hq : t.walk p names' = .ok q) :
    t.walk place names = .ok p → t.walk place (names ++ names') = .ok q := by
  induction names generalizing place with
  | nil => rintro ⟨⟩; exact hq
  | cons n ns ih =>
      rw [List.cons_append, walk_cons_eq_ok_iff, walk_cons_eq_ok_iff]
      rintro ⟨hplace, ⟨hup, hrest⟩ | ⟨hup, hlength, hrest⟩⟩
      · exact ⟨hplace, .inl ⟨hup, ih hrest⟩⟩
      · exact ⟨hplace, .inr ⟨hup, hlength, ih hrest⟩⟩

theorem resolve_eq_ok_iff {p : List String} : t.resolve cwd path = .ok p ↔
    path ≠ "" ∧ '\x00' ∉ path.toList ∧
      t.walk (if Path.isAbsolute path then [] else cwd) (Path.names path) = .ok p := by
  rw [resolve]
  by_cases hempty : path = ""
  · simp [hempty]
  · by_cases hnul : '\x00' ∈ path.toList
    · simp [hempty, hnul]
    · simp [hempty, hnul]

theorem resolve_eq_ok {p : List String} (h : t.resolve cwd path = .ok p) :
    p = placeOf cwd path :=
  walk_eq_ok (resolve_eq_ok_iff.mp h).2.2

/-! ## Making directories -/

/-- A place changes only where nothing stood, and to a directory. -/
theorem at?_makeBelow {names : List String} : t.makeBelow place names = .ok t' →
    ∀ q, t'.at? q = t.at? q ∨ t.at? q = none ∧ t'.at? q = some .directory := by
  fun_induction makeBelow t place names with
  | case1 => rintro ⟨⟩ q; exact .inl rfl
  | case2 t place ns ih => exact ih
  | case3 t place n ns _ next hdirectory ih => exact ih
  | case4 => simp
  | case5 t place n ns _ next hnone ih =>
      intro h q
      by_cases hq : q = next
      · subst hq
        have hself : (t.put next .directory).at? next = some .directory :=
          at?_put_self t _ (by simp [next])
        have hmade := ih h next
        rw [hself] at hmade
        exact .inr ⟨hnone, hmade.elim id (·.2)⟩
      · rw [← at?_put_of_ne t .directory hq]
        exact ih h q

/-! ## Later trees -/

/-- A tree has the directories and the files of another one, and a file may hold
something else. -/
structure Keeps (t u : FileTree) : Prop where
  directory {p : List String} : t.at? p = some .directory → u.at? p = some .directory
  file {p : List String} {c : String} : t.at? p = some (.file c) → ∃ c', u.at? p = some (.file c')

theorem Keeps.refl (t : FileTree) : Keeps t t := ⟨id, fun h => ⟨_, h⟩⟩

theorem Keeps.trans (h : Keeps t u) {v : FileTree} (h' : Keeps u v) : Keeps t v :=
  ⟨fun hp => h'.directory (h.directory hp), fun hp => by
    obtain ⟨c, hc⟩ := h.file hp
    exact h'.file hc⟩

theorem keeps_makeBelow {names : List String} (h : t.makeBelow place names = .ok t') :
    Keeps t t' := by
  refine ⟨fun {p} hp => ?_, fun {p c} hp => ⟨c, ?_⟩⟩ <;>
    obtain heq | ⟨hnone, -⟩ := at?_makeBelow h p <;> simp_all

theorem keeps_put (content : String) (h : t.at? place ≠ some .directory) :
    Keeps t (t.put place (.file content)) := by
  have hne : place ≠ [] := by
    rintro rfl
    exact h rfl
  refine ⟨fun {p} hp => ?_, fun {p c} hp => ?_⟩
  · have hplace : p ≠ place := by
      rintro rfl
      exact h hp
    rw [at?_put_of_ne t _ hplace, hp]
  · by_cases hplace : p = place
    · subst hplace
      exact ⟨content, at?_put_self t _ hne⟩
    · exact ⟨c, (at?_put_of_ne t _ hplace).trans hp⟩

theorem walk_of_keeps (h : Keeps t u) {names p : List String} :
    t.walk place names = .ok p → u.walk place names = .ok p := by
  induction names generalizing place with
  | nil => exact id
  | cons n ns ih =>
      rw [walk_cons_eq_ok_iff, walk_cons_eq_ok_iff]
      rintro ⟨hplace, ⟨hup, hrest⟩ | ⟨hup, hlength, hrest⟩⟩
      · exact ⟨h.directory hplace, .inl ⟨hup, ih hrest⟩⟩
      · exact ⟨h.directory hplace, .inr ⟨hup, hlength, ih hrest⟩⟩

theorem resolve_of_keeps (h : Keeps t u) {p : List String} (hp : t.resolve cwd path = .ok p) :
    u.resolve cwd path = .ok p := by
  obtain ⟨hempty, hnul, hwalk⟩ := resolve_eq_ok_iff.mp hp
  exact resolve_eq_ok_iff.mpr ⟨hempty, hnul, walk_of_keeps h hwalk⟩

/-- Where all directories were made, none is made again. -/
theorem makeBelow_of_keeps {names : List String} : t.makeBelow place names = .ok t' →
    Keeps t' u → u.makeBelow place names = .ok u := by
  fun_induction makeBelow t place names with
  | case1 => intro _ _; rfl
  | case2 t place ns ih => simpa [makeBelow] using ih
  | case3 t place n ns hn next hdirectory ih =>
      intro h hkeeps
      have hnext : u.at? next = some .directory :=
        hkeeps.directory ((keeps_makeBelow h).directory hdirectory)
      rw [makeBelow, if_neg hn]
      simpa [next, hnext] using ih h hkeeps
  | case4 => simp
  | case5 t place n ns hn next hnone ih =>
      intro h hkeeps
      have hself : (t.put next .directory).at? next = some .directory :=
        at?_put_self t _ (by simp [next])
      have hnext : u.at? next = some .directory :=
        hkeeps.directory ((keeps_makeBelow h).directory hself)
      rw [makeBelow, if_neg hn]
      simpa [next, hnext] using ih h hkeeps

/-! ## Reading and writing -/

theorem find_eq_directory_iff : t.find cwd path = .ok .directory ↔
    t.resolve cwd path = .ok (placeOf cwd path) ∧
      t.at? (placeOf cwd path) = some .directory := by
  rw [find]
  cases hresolve : t.resolve cwd path with
  | error e => simp [bind, Except.bind]
  | ok p =>
      obtain rfl := resolve_eq_ok hresolve
      simp only [bind, Except.bind, true_and]
      cases hnode : t.at? (placeOf cwd path) with
      | none => simp [throw, throwThe, MonadExceptOf.throw]
      | some node =>
          cases node with
          | directory => simp [pure, Except.pure]
          | file c =>
              cases namesDirectory path <;>
                simp [throw, throwThe, MonadExceptOf.throw, pure, Except.pure]

theorem read_eq_ok_iff : t.read cwd path = .ok content ↔
    t.resolve cwd path = .ok (placeOf cwd path) ∧ namesDirectory path = false ∧
      t.at? (placeOf cwd path) = some (.file content) := by
  rw [read, find]
  cases hresolve : t.resolve cwd path with
  | error e => simp [bind, Except.bind]
  | ok p =>
      obtain rfl := resolve_eq_ok hresolve
      simp only [bind, Except.bind, true_and]
      cases hnode : t.at? (placeOf cwd path) with
      | none => simp [throw, throwThe, MonadExceptOf.throw]
      | some node =>
          cases node with
          | directory => simp [throw, throwThe, MonadExceptOf.throw, pure, Except.pure]
          | file c =>
              cases namesDirectory path <;>
                simp [throw, throwThe, MonadExceptOf.throw, pure, Except.pure]

theorem write_eq_ok_iff : t.write cwd path content = .ok t' ↔
    t.resolve cwd path = .ok (placeOf cwd path) ∧ namesDirectory path = false ∧
      (t.at? (placeOf cwd path) = none ∧
          t.at? (placeOf cwd path).dropLast = some .directory ∨
        ∃ c, t.at? (placeOf cwd path) = some (.file c)) ∧
      t.put (placeOf cwd path) (.file content) = t' := by
  rw [write]
  cases hresolve : t.resolve cwd path with
  | error e => simp [bind, Except.bind]
  | ok p =>
      obtain rfl := resolve_eq_ok hresolve
      simp only [bind, Except.bind, true_and]
      cases hnode : t.at? (placeOf cwd path) with
      | none =>
          cases hparent : t.at? (placeOf cwd path).dropLast with
          | none => simp [throw, throwThe, MonadExceptOf.throw]
          | some parent =>
              cases parent <;> cases namesDirectory path <;>
                simp [throw, throwThe, MonadExceptOf.throw, pure, Except.pure]
      | some node =>
          cases node with
          | directory => simp [throw, throwThe, MonadExceptOf.throw]
          | file c =>
              cases namesDirectory path <;>
                simp [throw, throwThe, MonadExceptOf.throw, pure, Except.pure]

/-- What is read is a file's content. -/
theorem at?_of_read (h : t.read cwd path = .ok content) :
    t.at? (placeOf cwd path) = some (.file content) :=
  (read_eq_ok_iff.mp h).2.2

/-- A file that could be read can be read later. -/
theorem read_of_keeps (h : Keeps t u) (hread : t.read cwd path = .ok content) :
    ∃ content', u.read cwd path = .ok content' := by
  obtain ⟨hresolve, hname, hfile⟩ := read_eq_ok_iff.mp hread
  obtain ⟨content', hfile'⟩ := h.file hfile
  exact ⟨content', read_eq_ok_iff.mpr ⟨resolve_of_keeps h hresolve, hname, hfile'⟩⟩

theorem at?_ne_directory_of_write (h : t.write cwd path content = .ok t') :
    t.at? (placeOf cwd path) ≠ some .directory := by
  obtain ⟨-, -, ⟨hnone, -⟩ | ⟨c, hfile⟩, -⟩ := write_eq_ok_iff.mp h <;> simp_all

theorem keeps_write (h : t.write cwd path content = .ok t') : Keeps t t' := by
  obtain ⟨-, -, -, rfl⟩ := write_eq_ok_iff.mp h
  exact keeps_put content (at?_ne_directory_of_write h)

/-- What is written stands at its place, and nothing else changes. -/
theorem at?_of_write (h : t.write cwd path content = .ok t') (q : List String) :
    t'.at? q = if q = placeOf cwd path then some (.file content) else t.at? q := by
  have hne : placeOf cwd path ≠ [] := by
    intro hroot
    refine at?_ne_directory_of_write h ?_
    rw [hroot]
    rfl
  obtain ⟨-, -, -, rfl⟩ := write_eq_ok_iff.mp h
  split
  · next hq =>
      subst hq
      exact at?_put_self t _ hne
  · next hq => exact at?_put_of_ne t _ hq

/-- What is written can be read. -/
theorem read_of_write (h : t.write cwd path content = .ok t') :
    t'.read cwd path = .ok content := by
  obtain ⟨hresolve, hname, -, -⟩ := write_eq_ok_iff.mp h
  refine read_eq_ok_iff.mpr ⟨resolve_of_keeps (keeps_write h) hresolve, hname, ?_⟩
  rw [at?_of_write h, if_pos rfl]

/-- A file that could be written can be written later, unless a directory was made
in its place. -/
theorem write_of_keeps (h : t.write cwd path content = .ok t') (hkeeps : Keeps t u)
    (hplace : u.at? (placeOf cwd path) ≠ some .directory) (content' : String) :
    ∃ u', u.write cwd path content' = .ok u' := by
  obtain ⟨hresolve, hname, hbefore, -⟩ := write_eq_ok_iff.mp h
  refine ⟨_, write_eq_ok_iff.mpr ⟨resolve_of_keeps hkeeps hresolve, hname, ?_, rfl⟩⟩
  cases hnode : u.at? (placeOf cwd path) with
  | some node =>
      cases node with
      | file c => exact .inr ⟨c, rfl⟩
      | directory => exact absurd hnode hplace
  | none =>
      obtain ⟨-, hparent⟩ | ⟨c, hfile⟩ := hbefore
      · exact .inl ⟨rfl, hkeeps.directory hparent⟩
      · obtain ⟨c', hfile'⟩ := hkeeps.file hfile
        simp [hnode] at hfile'

/-! ## Keeping files in a directory -/

/-- Whether a file stands at a place. -/
def hasFile (t : FileTree) (place : List String) : Bool :=
  match t.at? place with
  | some (.file _) => true
  | _ => false

/-- The tree after a file was put into a directory, which is made first.  What
fails is left undone. -/
def keep (t : FileTree) (cwd : List String) (directory path content : String) : FileTree :=
  match t.makeDirectories cwd directory with
  | .error _ => t
  | .ok made => match made.write cwd path content with
    | .error _ => made
    | .ok t' => t'

/-- Whether the directory can be made, and a file be written in it then. -/
def takes (t : FileTree) (cwd : List String) (directory path : String) : Bool :=
  match t.makeDirectories cwd directory with
  | .error _ => false
  | .ok made => (made.write cwd path "").toBool

variable {directory : String}

theorem takes_iff : t.takes cwd directory path ↔
    ∃ made t', t.makeDirectories cwd directory = .ok made ∧ made.write cwd path "" = .ok t' := by
  rw [takes]
  cases t.makeDirectories cwd directory with
  | error e => simp
  | ok made => cases hwrite : made.write cwd path "" <;> simp [hwrite, Except.toBool]

/-- In a directory that can be made, and is found then, a file can be written under
any name that is not too long and not a directory's. -/
theorem takes_of_find {made : FileTree} {n : String}
    (hmake : t.makeDirectories cwd directory = .ok made)
    (hfind : made.find cwd directory = .ok .directory) (hn : Path.IsName n)
    (hnul : '\x00' ∉ n.toList) (hlength : n.utf8ByteSize ≤ nameLimit)
    (hfree : made.at? (placeOf cwd directory ++ [n]) ≠ some .directory) :
    t.takes cwd directory (Path.join directory n) := by
  obtain ⟨hresolve, hdirectory⟩ := find_eq_directory_iff.mp hfind
  obtain ⟨-, hnulBase, hwalk⟩ := resolve_eq_ok_iff.mp hresolve
  obtain ⟨slash, hslash, hjoin⟩ := Path.exists_join_eq directory hn
  have hresolve' : made.resolve cwd (Path.join directory n) =
      .ok (placeOf cwd (Path.join directory n)) := by
    refine resolve_eq_ok_iff.mpr ⟨?_, ?_, ?_⟩
    · simp [hjoin, hn.nonempty]
    · obtain rfl | rfl := hslash <;> simp [hjoin, hnulBase, hnul]
    · rw [placeOf_join cwd directory hn, Path.names_join directory hn,
        Path.isAbsolute_join directory hn]
      refine walk_append (walk_cons_eq_ok_iff.mpr ⟨hdirectory, .inr ⟨hn.notDots, ?_⟩⟩) hwalk
      exact ⟨hlength, rfl⟩
  have hnames : namesDirectory (Path.join directory n) = false := by
    have hlast : n.toList.getLast? ≠ some '/' := fun h => hn.noSlash (List.mem_of_getLast? h)
    simpa [namesDirectory, hjoin, hn.nonempty] using hlast
  refine takes_iff.mpr ⟨made, _, hmake, write_eq_ok_iff.mpr ⟨hresolve', hnames, ?_, rfl⟩⟩
  rw [placeOf_join cwd directory hn]
  cases hnode : made.at? (placeOf cwd directory ++ [n]) with
  | none => exact .inl ⟨rfl, by rwa [List.dropLast_concat]⟩
  | some node =>
      cases node with
      | file c => exact .inr ⟨c, rfl⟩
      | directory => exact absurd hnode hfree

/-- Where a file can be kept, it is, and everything else can be read and kept as
before. -/
theorem keep_of_takes (h : t.takes cwd directory path) (content : String) :
    (t.keep cwd directory path content).read cwd path = .ok content ∧
      Keeps t (t.keep cwd directory path content) ∧
      ∀ path', t.takes cwd directory path' →
        (t.keep cwd directory path content).takes cwd directory path' := by
  obtain ⟨made, _, hmake, hfirst⟩ := takes_iff.mp h
  obtain ⟨t', hwrite⟩ :=
    write_of_keeps hfirst (.refl made) (at?_ne_directory_of_write hfirst) content
  have hkeep : t.keep cwd directory path content = t' := by simp [keep, hmake, hwrite]
  have hkeeps := keeps_write hwrite
  rw [hkeep]
  refine ⟨read_of_write hwrite, (keeps_makeBelow hmake).trans hkeeps, fun path' h' => ?_⟩
  obtain ⟨made', _, hmake', hfirst'⟩ := takes_iff.mp h'
  obtain rfl : made = made' := Except.ok.inj (hmake.symm.trans hmake')
  have hplace : t'.at? (placeOf cwd path') ≠ some .directory := by
    rw [at?_of_write hwrite]
    split
    · simp
    · exact at?_ne_directory_of_write hfirst'
  obtain ⟨u, hu⟩ := write_of_keeps hfirst' hkeeps hplace ""
  exact takes_iff.mpr ⟨t', u, makeBelow_of_keeps hmake hkeeps, hu⟩

/-! ## Contents of places -/

/-- The content of the file at a place. -/
def content? (t : FileTree) (place : List String) : Option String :=
  match t.at? place with
  | some (.file content) => some content
  | _ => none

theorem content?_eq_some_iff : t.content? place = some content ↔
    t.at? place = some (.file content) := by
  rw [content?]
  split
  · next h => simp [h]
  · next h => simpa using h content

/-- Making directories leaves the files as they are. -/
theorem content?_of_makeDirectories {made : FileTree}
    (h : t.makeDirectories cwd directory = .ok made) (q : List String) :
    made.content? q = t.content? q := by
  obtain heq | ⟨hnone, hdirectory⟩ := at?_makeBelow h q
  · rw [content?, content?, heq]
  · rw [content?, content?, hnone, hdirectory]

/-- Whether a file can be written does not depend on its content. -/
theorem takes_iff_of_made {made : FileTree} (h : t.makeDirectories cwd directory = .ok made)
    (content : String) :
    t.takes cwd directory path ↔ ∃ t', made.write cwd path content = .ok t' := by
  have hany {c c' : String} {u : FileTree} (hu : made.write cwd path c = .ok u) :
      ∃ u', made.write cwd path c' = .ok u' :=
    write_of_keeps hu (.refl made) (at?_ne_directory_of_write hu) c'
  rw [takes_iff]
  constructor
  · rintro ⟨made', u, hmade', hu⟩
    obtain rfl : made = made' := Except.ok.inj (h.symm.trans hmade')
    exact hany hu
  · rintro ⟨u, hu⟩
    obtain ⟨u', hu'⟩ := hany hu
    exact ⟨made, u', h, hu'⟩

/-- A file that is kept stands in its place, if it can.  No other file changes. -/
theorem content?_keep (t : FileTree) (cwd : List String) (directory path content : String)
    (q : List String) : (t.keep cwd directory path content).content? q =
      if t.takes cwd directory path ∧ q = placeOf cwd path then some content
      else t.content? q := by
  rw [keep]
  cases hmake : t.makeDirectories cwd directory with
  | error e => simp [takes, hmake]
  | ok made =>
      have htakes : t.takes cwd directory path ↔ ∃ t', made.write cwd path content = .ok t' :=
        takes_iff_of_made hmake content
      cases hwrite : made.write cwd path content with
      | error e =>
          have hno : ¬t.takes cwd directory path := by simp [htakes, hwrite]
          simp only [hwrite]
          rw [if_neg fun h => hno h.1, content?_of_makeDirectories hmake]
      | ok t' =>
          have hyes : t.takes cwd directory path := htakes.mpr ⟨t', hwrite⟩
          simp only [hwrite]
          by_cases hq : q = placeOf cwd path
          · rw [if_pos ⟨hyes, hq⟩, content?_eq_some_iff, at?_of_write hwrite, if_pos hq]
          · rw [if_neg fun h => hq h.2, ← content?_of_makeDirectories hmake, content?, content?,
              at?_of_write hwrite, if_neg hq]

/-- Files stand there as before, but for the one that was kept. -/
theorem at?_keep {q : List String} {text : String}
    (h : (t.keep cwd directory path content).at? q = some (.file text)) :
    t.at? q = some (.file text) ∨ q = placeOf cwd path ∧ text = content := by
  rw [← content?_eq_some_iff, content?_keep] at h
  split at h
  · next hplace => exact .inr ⟨hplace.2, (Option.some.inj h).symm⟩
  · exact .inl (content?_eq_some_iff.mp h)

/-- What can be read after a file was put there could be read before, or it was put
there. -/
theorem takes_of_read_keep {content' : String}
    (h : (t.keep cwd directory path content).read cwd path = .ok content') :
    t.takes cwd directory path ∨ t.read cwd path = .ok content' := by
  rw [keep] at h
  cases hmake : t.makeDirectories cwd directory with
  | error e => exact .inr (by simpa [hmake] using h)
  | ok made =>
      left
      rw [takes_iff_of_made hmake content]
      cases hwrite : made.write cwd path content with
      | ok t' => exact ⟨t', rfl⟩
      | error e =>
          have hread : made.read cwd path = .ok content' := by simpa [hmake, hwrite] using h
          obtain ⟨hresolve, hname, hfile⟩ := read_eq_ok_iff.mp hread
          have hwritten : made.write cwd path content =
              .ok (made.put (placeOf cwd path) (.file content)) :=
            write_eq_ok_iff.mpr ⟨hresolve, hname, .inr ⟨content', hfile⟩, rfl⟩
          simp [hwritten] at hwrite

end FileTree

end Broadsheet
