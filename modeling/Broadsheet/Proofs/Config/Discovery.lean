import Broadsheet.Config.Load
import Broadsheet.Proofs.Host.Files

/-!
# Broadsheet.Proofs.Config.Discovery

Where a configuration comes from.  On a described machine, loading is a function
of what exists there and of the content of one file:

* `run_load`: the configuration is that of the source, with the command line over
  it, and the machine is left as it is;
* `isSource_source`: the source is the given file, or else the configuration file
  in the nearest of the working directory and those above it that has one.

The search goes up by texts, from a path to the one before its last slash.  On
the path of a list of names that drops the last name (`parent?_ofNames_concat`).
-/

namespace Broadsheet

/-! ## Paths of names -/

namespace Path

/-- The absolute path of the names from the root on. -/
def ofNames (names : List String) : String := "/" ++ "/".intercalate names

theorem pieces_intercalate : {names : List String} → names ≠ [] →
    (∀ n ∈ names, '/' ∉ n.toList) →
    pieces ("/".intercalate names).toList = names.map String.toList
  | [n], _, h => by simpa using pieces_of_noSlash (h n List.mem_cons_self)
  | n :: m :: names, _, h => by
      have ih : pieces ("/".intercalate (m :: names)).toList = (m :: names).map String.toList :=
        pieces_intercalate (by simp) fun k hk => h k (List.mem_cons_of_mem n hk)
      have htext : ("/".intercalate (n :: m :: names)).toList =
          n.toList ++ '/' :: ("/".intercalate (m :: names)).toList := by
        simp [String.intercalate_cons_cons]
      rw [htext, pieces_append, pieces_of_noSlash (h n List.mem_cons_self), ih]
      rfl

theorem dropEmptyEnd_map_toList {names : List String} (h : ∀ n ∈ names, IsName n) :
    dropEmptyEnd true (names.map String.toList) = names.map String.toList := by
  have hkept : ((names.map String.toList).reverse.dropWhile fun p => p == [] || p == ['.']) =
      (names.map String.toList).reverse := by
    obtain rfl | ⟨ns, n, rfl⟩ := names.eq_nil_or_concat
    · rfl
    · have hn := h n (by simp)
      have hempty : n.toList ≠ [] := by simpa using hn.nonempty
      have hdot : n.toList ≠ ['.'] := fun heq => hn.notDot (String.toList_inj.mp heq)
      rw [List.concat_eq_append, List.map_append, List.reverse_append]
      exact List.dropWhile_cons_of_neg (by simp [hempty, hdot])
  rw [dropEmptyEnd, hkept]
  simp

/-- The directory of the path of some names is that of the names before the last. -/
theorem parent?_ofNames_concat {names : List String} {n : String} (hnames : ∀ m ∈ names, IsName m)
    (hn : IsName n) : parent? (ofNames (names ++ [n])) = some (ofNames names) := by
  have hall : ∀ m ∈ names ++ [n], IsName m :=
    List.forall_mem_append.mpr ⟨hnames, List.forall_mem_singleton.mpr hn⟩
  have habsolute : isAbsolute (ofNames (names ++ [n])) = true := by simp [isAbsolute, ofNames]
  have hbody : pieces ((ofNames (names ++ [n])).toList.drop 1) =
      (names ++ [n]).map String.toList := by
    rw [← pieces_intercalate (by simp) fun m hm => (hall m hm).noSlash]
    simp [ofNames]
  have htext : String.ofList (['/'].intercalate (names.map String.toList)) =
      "/".intercalate names := by
    rw [← String.toList_inj, String.toList_intercalate]
    simp
  unfold parent?
  simp only [habsolute, if_true, hbody, dropEmptyEnd_map_toList hall]
  split
  · next hnil => simp at hnil
  · rw [List.map_append, List.map_singleton, List.dropLast_concat,
      dropEmptyEnd_map_toList hnames, htext]
    rfl

theorem parent?_ofNames_nil : parent? (ofNames []) = none := by decide

/-- Each name takes a character at least. -/
theorem length_le_length_ofNames {names : List String} (h : ∀ n ∈ names, IsName n) :
    names.length ≤ (ofNames names).length := by
  have hnames : names.length ≤ ("/".intercalate names).length := by
    induction names with
    | nil => simp
    | cons n names ih =>
        have hn : 1 ≤ n.length := by
          rw [← String.length_toList]
          exact List.length_pos_iff.mpr (by simpa using (h n List.mem_cons_self).nonempty)
        cases names with
        | nil => simpa using hn
        | cons m names =>
            have ih := ih fun k hk => h k (List.mem_cons_of_mem n hk)
            simp [String.intercalate_cons_cons] at ih ⊢
            omega
  simp [ofNames]
  omega

end Path

/-! ## Described machines -/

theorem Described.run_bind {α β : Type} {x : Described α} {m m' : Machine} {a : α}
    (h : x.run m = (a, m')) (f : α → Described β) : (x >>= f).run m = (f a).run m' := by
  rw [StateT.run_bind, h]
  rfl

namespace Machine

/-- Whether something exists at a path. -/
def hasPath (m : Machine) (path : String) : Bool := (m.files.find m.cwd path).toOption.isSome

theorem run_pathExists (m : Machine) (path : String) :
    (host.pathExists path).run m = (m.hasPath path, m) := rfl

theorem run_readFile (m : Machine) (path : String) :
    (host.readFile path).run m = (m.files.read m.cwd path, m) := rfl

theorem run_currentDirectory (m : Machine) :
    host.currentDirectory.run m = (Path.ofNames m.cwd, m) := rfl

theorem run_environment (m : Machine) : host.environment.run m = (m.environment, m) := rfl

end Machine

namespace Config

/-- The first path that exists of those that are looked at from a directory upwards. -/
def nearestFile? (hasPath : String → Bool) : (fuel : Nat) → (directory : String) → Option String
  | 0, _ => none
  | fuel + 1, directory =>
    let candidate := Path.join directory fileName
    if hasPath candidate then some candidate
    else (Path.parent? directory).bind (nearestFile? hasPath fuel)

/-- The file that a configuration comes from. -/
def source (m : Machine) : (path : Option String) → Option String
  | some path => some path
  | none => nearestFile? m.hasPath ((Path.ofNames m.cwd).length + 1) (Path.ofNames m.cwd)

/-- The configuration of a source. -/
def ofSource (m : Machine) : (source : Option String) → Except ConfigError Config
  | none => .ok .builtin
  | some path =>
    if m.hasPath path then
      match m.files.read m.cwd path with
      | .error e => .error (.io e)
      | .ok content => ofContent m.environment path content
    else .error (.notFound path)

section Runs

variable (m : Machine)

theorem run_discover (fuel : Nat) (directory : String) :
    (discover Machine.host fuel directory).run m = (nearestFile? m.hasPath fuel directory, m) := by
  induction fuel generalizing directory with
  | zero => rfl
  | succ fuel ih =>
      refine (Described.run_bind (m.run_pathExists _) _).trans ?_
      rw [nearestFile?]
      cases m.hasPath (Path.join directory fileName) with
      | true => rfl
      | false =>
          cases Path.parent? directory with
          | none => rfl
          | some up => exact ih up

theorem run_loadFile (path : String) :
    (loadFile Machine.host path).run m =
      (match m.files.read m.cwd path with
        | .error e => .error (.io e)
        | .ok content => ofContent m.environment path content, m) := by
  refine (Described.run_bind (m.run_readFile path) _).trans ?_
  cases m.files.read m.cwd path with
  | error e => rfl
  | ok content => exact Described.run_bind m.run_environment _

/-- What a search finds exists. -/
theorem hasPath_of_nearestFile? {hasPath : String → Bool} {path : String} :
    {fuel : Nat} → {directory : String} → nearestFile? hasPath fuel directory = some path →
    hasPath path
  | fuel + 1, directory, h => by
      rw [nearestFile?] at h
      split at h
      · next hfound => exact Option.some.inj h ▸ hfound
      · obtain ⟨up, -, hup⟩ := Option.bind_eq_some_iff.mp h
        exact hasPath_of_nearestFile? hup

theorem run_loadBase : (path : Option String) →
    (loadBase Machine.host path).run m = (ofSource m (source m path), m)
  | some path => by
      refine (Described.run_bind (m.run_pathExists path) _).trans ?_
      rw [source, ofSource]
      cases m.hasPath path with
      | true => exact run_loadFile m path
      | false => rfl
  | none => by
      refine (Described.run_bind m.run_currentDirectory _).trans ?_
      refine (Described.run_bind (run_discover m _ _) _).trans ?_
      rw [source]
      cases hfound : nearestFile? m.hasPath _ _ with
      | none => rfl
      | some path =>
          rw [ofSource, if_pos (hasPath_of_nearestFile? hfound)]
          exact run_loadFile m path

/-- Loading reads the source, and leaves the machine as it is. -/
theorem run_load (path : Option String) (cli : Option CliSettings) :
    (load Machine.host path cli).run m =
      ((ofSource m (source m path)).bind (applyCli · cli), m) := by
  refine (Described.run_bind (run_loadBase m path) _).trans ?_
  cases ofSource m (source m path) <;> rfl

end Runs

/-! ## The nearest file -/

/-- The first directory that has something, from one on upwards to the root. -/
inductive IsNearest (has : List String → Bool) (directory : List String) :
    Option (List String) → Prop
  | found (nearest : List String) (habove : nearest <+: directory) (hhas : has nearest)
    (hnone : ∀ nearer, nearest <+: nearer → nearer <+: directory → nearer ≠ nearest →
      has nearer = false) : IsNearest has directory (some nearest)
  | missing (hnone : ∀ above, above <+: directory → has above = false) :
    IsNearest has directory none

namespace IsNearest

variable {has : List String → Bool} {directory : List String}

theorem self (h : has directory) : IsNearest has directory (some directory) :=
  .found directory List.prefix_rfl h fun _ hbelow habove hne =>
    absurd (habove.eq_of_length_le hbelow.length_le) hne

theorem root (h : has [] = false) : IsNearest has [] none :=
  .missing fun _ habove => List.prefix_nil.mp habove ▸ h

/-- A directory that does not have it is passed over. -/
theorem concat {name : String} {nearest : Option (List String)}
    (h : IsNearest has directory nearest) (hhas : has (directory ++ [name]) = false) :
    IsNearest has (directory ++ [name]) nearest := by
  cases h with
  | found nearest habove hfound hnone =>
      refine .found nearest (habove.trans (List.prefix_append ..)) hfound
        fun _ hbelow hprefix hne => ?_
      obtain rfl | hprefix := List.prefix_concat_iff.mp hprefix
      · exact hhas
      · exact hnone _ hbelow hprefix hne
  | missing hnone =>
      refine .missing fun _ hprefix => ?_
      obtain rfl | hprefix := List.prefix_concat_iff.mp hprefix
      · exact hhas
      · exact hnone _ hprefix

end IsNearest

/-- The path of the configuration file in a directory. -/
def fileIn (directory : List String) : String := Path.join (Path.ofNames directory) fileName

/-- The search goes up from directory to directory. -/
theorem exists_isNearest (hasPath : String → Bool) (fuel : Nat) {names : List String}
    (hnames : ∀ n ∈ names, Path.IsName n) (hfuel : names.length < fuel) :
    ∃ nearest, nearestFile? hasPath fuel (Path.ofNames names) = nearest.map fileIn ∧
      IsNearest (fun directory => hasPath (fileIn directory)) names nearest := by
  induction fuel generalizing names with
  | zero => exact absurd hfuel (Nat.not_lt_zero _)
  | succ fuel ih =>
      rw [nearestFile?]
      cases hhas : hasPath (fileIn names) with
      | true => exact ⟨some names, if_pos hhas, .self hhas⟩
      | false =>
          rw [if_neg (by simpa [fileIn] using hhas)]
          obtain rfl | ⟨above, name, hconcat⟩ := names.eq_nil_or_concat
          · exact ⟨none, by rw [Path.parent?_ofNames_nil]; rfl, .root hhas⟩
          · rw [List.concat_eq_append] at hconcat
            subst hconcat
            obtain ⟨habove, hname⟩ := List.forall_mem_append.mp hnames
            obtain ⟨nearest, hsearch, hnearest⟩ := ih habove (by simp at hfuel; omega)
            refine ⟨nearest, ?_, hnearest.concat hhas⟩
            rw [Path.parent?_ofNames_concat habove (hname name List.mem_cons_self)]
            exact hsearch

/-- Where a machine's configuration comes from: the given file, or else that of the nearest of the
working directory and those above it that has one. -/
inductive IsSource (m : Machine) : (path : Option String) → (source : Option String) → Prop
  | given (path : String) : IsSource m (some path) (some path)
  | discovered {nearest : Option (List String)}
    (h : IsNearest (fun directory => m.hasPath (fileIn directory)) m.cwd nearest) :
    IsSource m none (nearest.map fileIn)

theorem isSource_source {m : Machine} (hcwd : ∀ n ∈ m.cwd, Path.IsName n) :
    (path : Option String) → IsSource m path (source m path)
  | some path => .given path
  | none => by
      obtain ⟨nearest, hsearch, hnearest⟩ := exists_isNearest m.hasPath
        ((Path.ofNames m.cwd).length + 1) hcwd
        (Nat.lt_succ_of_le (Path.length_le_length_ofNames hcwd))
      rw [source, hsearch]
      exact .discovered hnearest

end Config

end Broadsheet
