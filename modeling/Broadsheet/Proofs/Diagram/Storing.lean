import Broadsheet.Proofs.Diagram.Caching
import Broadsheet.Proofs.Text.Replacing

/-!
# Broadsheet.Proofs.Diagram.Storing

Caches as stores.  A run makes one call after another, under any keys.

* `DiagramStorage.found` and `DiagramStorage.stored` — what a call gives, and what
  it leaves;
* `replies` — what a store gives that tells keys apart by some part of them;
* `ends_answers` — a storage is the store that tells keys apart by their texts and,
  in files, by their formats;
* `answers_iff` — it is the store of the whole keys if it tells those of the run
  apart and can keep them, and only then.

The text of a key has its endpoint before its format and its format before its
source, with a colon between them.  Colons in an endpoint or in a format make
different keys have one text; without them, no two do (`DiagramKey.eq_of_text_eq`).
-/

namespace Broadsheet

/-! ## Texts of keys -/

theorem DiagramKey.toList_text (key : DiagramKey) : key.text.toList =
    key.endpoint.toList ++ ':' :: (key.format.toList ++ ':' :: key.source.toList) := by
  simp [text]

/-- Keys without colons before their sources are told apart by their texts. -/
theorem DiagramKey.eq_of_text_eq {a b : DiagramKey} (h : a.text = b.text)
    (ha : ':' ∉ a.endpoint.toList ∧ ':' ∉ a.format.toList)
    (hb : ':' ∉ b.endpoint.toList ∧ ':' ∉ b.format.toList) : a = b := by
  have hlists := congrArg String.toList h
  rw [toList_text, toList_text] at hlists
  obtain ⟨hendpoint, hrest⟩ := (append_cons_inj_of_notMem ha.1 hb.1).mp hlists
  obtain ⟨hformat, hsource⟩ := (append_cons_inj_of_notMem ha.2 hb.2).mp hrest
  obtain ⟨source, endpoint, format⟩ := a
  obtain ⟨source', endpoint', format'⟩ := b
  simp_all [String.toList_inj]

/-! ## Storages -/

namespace DiagramStorage

/-- What is found for a key. -/
def found (storage : DiagramStorage) (s : Recalling.State) (key : DiagramKey) : Option String :=
  match storage with
  | none => .none
  | memory => s.1[key.hash]?
  | files directory => (s.2.files.read s.2.cwd (Path.join directory key.fileName)).toOption

/-- The state after a diagram was put under a key. -/
def stored (storage : DiagramStorage) (s : Recalling.State) (key : DiagramKey)
    (content : String) : Recalling.State :=
  match storage with
  | none => s
  | memory => (s.1.insert key.hash content, s.2)
  | files directory => (s.1, { s.2 with
      files := s.2.files.keep s.2.cwd directory (Path.join directory key.fileName) content })

/-- Whether a diagram can be kept under a key. -/
def takes (storage : DiagramStorage) (m : Machine) (key : DiagramKey) : Bool :=
  match storage with
  | none => false
  | memory => true
  | files directory => m.files.takes m.cwd directory (Path.join directory key.fileName)

/-- What stands in the place of a key, also if it cannot be found. -/
def stands (storage : DiagramStorage) (s : Recalling.State) (key : DiagramKey) : Option String :=
  match storage with
  | none => .none
  | memory => s.1[key.hash]?
  | files directory =>
      s.2.files.content? (FileTree.placeOf s.2.cwd (Path.join directory key.fileName))

/-- What keys are told apart by, if no hashes collide.  The name of a file has the
format in it. -/
def slot (storage : DiagramStorage) (key : DiagramKey) : String × Option String :=
  match storage with
  | none | memory => (key.text, Option.none)
  | files _ => (key.text, some key.format)

/-- Whether the format can be a part of the place. -/
def admits (storage : DiagramStorage) (key : DiagramKey) : Bool :=
  match storage with
  | none | memory => true
  | files _ => !key.format.toList.contains '/'

section Storage

variable (storage : DiagramStorage) {s : Recalling.State} {key other : DiagramKey}

theorem ends_get (s : Recalling.State) (key : DiagramKey) :
    Ends (storage.cache.get? key) s (storage.found s key) s := by
  cases storage with
  | none => exact .pure Option.none s
  | memory => rfl
  | files directory => rfl

theorem ends_put (s : Recalling.State) (key : DiagramKey) (content : String) :
    Ends (storage.cache.put key content) s () (storage.stored s key content) := by
  cases storage with
  | none => exact .pure () s
  | memory => rfl
  | files directory => exact ends_put_files directory key content s

theorem text_eq_of_slot (h : storage.slot key = storage.slot other) : key.text = other.text := by
  cases storage <;> exact (Prod.ext_iff.mp h).1

theorem slot_eq_of_text_eq (htext : key.text = other.text) (hformat : key.format = other.format) :
    storage.slot key = storage.slot other := by
  cases storage <;> simp [slot, htext, hformat]

/-- A directory that can be made, and is found then, takes a key with a format that
can be the end of a name. -/
theorem takes_files {directory : String} {m : Machine} {made : FileTree}
    (hmake : m.files.makeDirectories m.cwd directory = .ok made)
    (hfind : made.find m.cwd directory = .ok .directory) (hslash : '/' ∉ key.format.toList)
    (hnul : '\x00' ∉ key.format.toList) (hlength : key.format.utf8ByteSize ≤ 190)
    (hfree : made.at? (FileTree.placeOf m.cwd (Path.join directory key.fileName)) ≠
      some .directory) :
    (files directory).takes m key := by
  have hname := DiagramKey.isName_fileName hslash
  rw [FileTree.placeOf_join _ _ hname] at hfree
  have hbytes : key.fileName.utf8ByteSize ≤ FileTree.nameLimit := by
    rw [DiagramKey.utf8ByteSize_fileName, FileTree.nameLimit]
    omega
  exact FileTree.takes_of_find hmake hfind hname (DiagramKey.nul_notMem_fileName hnul) hbytes hfree

theorem found_files_eq_some_iff {directory content : String} :
    (files directory).found s key = some content ↔
      s.2.files.read s.2.cwd (Path.join directory key.fileName) = .ok content := by
  rw [found]
  cases s.2.files.read s.2.cwd (Path.join directory key.fileName) <;> simp [Except.toOption]

/-- What is found stands in the place. -/
theorem stands_of_found {content : String} (h : storage.found s key = some content) :
    storage.stands s key = some content := by
  cases storage with
  | none => exact h
  | memory => exact h
  | files directory =>
      rw [stands, FileTree.content?_eq_some_iff]
      exact FileTree.at?_of_read (found_files_eq_some_iff.mp h)

theorem found_eq_stands (h : (storage.stands s key).isSome → (storage.found s key).isSome) :
    storage.found s key = storage.stands s key := by
  cases hfound : storage.found s key with
  | some content => exact (storage.stands_of_found hfound).symm
  | none =>
      cases hstands : storage.stands s key with
      | none => rfl
      | some content => simp [hfound, hstands] at h

theorem takes_stored (content : String) (hkey : storage.takes s.2 key)
    (h : storage.takes s.2 other) : storage.takes (storage.stored s key content).2 other := by
  cases storage with
  | none => exact h
  | memory => rfl
  | files directory => exact (FileTree.keep_of_takes hkey content).2.2 _ h

/-- Where something was found, something is found later. -/
theorem found_stored_isSome (content : String) (hkey : storage.takes s.2 key)
    (h : (storage.found s other).isSome) :
    (storage.found (storage.stored s key content) other).isSome := by
  cases storage with
  | none => exact h
  | memory =>
      simp only [found, stored, Std.ExtTreeMap.getElem?_insert] at h ⊢
      split
      · rfl
      · exact h
  | files directory =>
      obtain ⟨text, htext⟩ := Option.isSome_iff_exists.mp h
      obtain ⟨-, hkeeps, -⟩ := FileTree.keep_of_takes hkey content
      obtain ⟨text', hread⟩ := FileTree.read_of_keeps hkeeps (found_files_eq_some_iff.mp htext)
      exact Option.isSome_iff_exists.mpr ⟨text', found_files_eq_some_iff.mpr hread⟩

/-- What is kept under a key is found for every key in its slot. -/
theorem found_stored_of_slot (content : String) (hkey : storage.takes s.2 key)
    (hslot : storage.slot other = storage.slot key) :
    storage.found (storage.stored s key content) other = some content := by
  cases storage with
  | none => exact absurd hkey (by simp [takes])
  | memory =>
      have hhash : key.hash = other.hash :=
        congrArg Sha256.hexDigest (text_eq_of_slot memory hslot).symm
      simp [found, stored, hhash]
  | files directory =>
      obtain ⟨htext, hformat⟩ := Prod.ext_iff.mp hslot
      have hname : other.fileName = key.fileName :=
        DiagramKey.fileName_eq_iff.mpr ⟨congrArg Sha256.hexDigest htext, Option.some.inj hformat⟩
      have hread := (FileTree.keep_of_takes hkey content).1
      rw [found_files_eq_some_iff, hname]
      simpa only [stored] using hread

/-- What is found under a key after something was put there was found before, or the
storage takes the key. -/
theorem takes_of_found_stored {content content' : String}
    (h : storage.found (storage.stored s key content) key = some content') :
    storage.takes s.2 key ∨ storage.found s key = some content' := by
  cases storage with
  | none => exact .inr h
  | memory => exact .inl rfl
  | files directory =>
      rw [found_files_eq_some_iff] at h ⊢
      simp only [stored, takes] at h ⊢
      exact FileTree.takes_of_read_keep h

/-- Keys that are told apart have places of their own: what is put under one of
them changes nothing under another one. -/
theorem stands_stored (content : String) (hhash : other.hash = key.hash → other.text = key.text)
    (hkey : storage.admits key) (hother : storage.admits other) :
    storage.stands (storage.stored s key content) other =
      if storage.takes s.2 key ∧ storage.slot other = storage.slot key then some content
      else storage.stands s other := by
  have htext : other.hash = key.hash ↔ other.text = key.text :=
    ⟨hhash, fun h => by rw [DiagramKey.hash, DiagramKey.hash, h]⟩
  cases storage with
  | none => simp [stands, takes]
  | memory =>
      have hsame : compare key.hash other.hash = .eq ↔ other.text = key.text := by
        rw [Std.compare_eq_iff_eq, eq_comm, htext]
      simp [stands, stored, slot, takes, Std.ExtTreeMap.getElem?_insert, hsame]
  | files directory =>
      have hplace : FileTree.placeOf s.2.cwd (Path.join directory other.fileName) =
            FileTree.placeOf s.2.cwd (Path.join directory key.fileName) ↔
          other.hash = key.hash ∧ other.format = key.format := by
        rw [← DiagramKey.fileName_eq_iff]
        constructor
        · exact DiagramKey.fileName_eq_of_placeOf (by simpa [admits] using hother)
            (by simpa [admits] using hkey)
        · intro hname
          rw [hname]
      simp [stands, stored, slot, takes, FileTree.content?_keep, hplace, htext]

end Storage

end DiagramStorage

/-! ## Calls -/

/-- A call of a cache. -/
inductive CacheCall
  | put (key : DiagramKey) (content : String)
  | get (key : DiagramKey)

/-- The key that a call is made under. -/
def CacheCall.key : CacheCall → DiagramKey
  | put key _ => key
  | get key => key

/-- Makes one call after another, and gives what was got. -/
def DiagramCache.answers {m : Type → Type} [Monad m] (cache : DiagramCache m) :
    List CacheCall → m (List (Option String))
  | [] => return []
  | .put key content :: calls => do
    cache.put key content
    cache.answers calls
  | .get key :: calls => do
    let content ← cache.get? key
    return content :: (← cache.answers calls)

/-- What a store gives that tells keys apart by `slot`: the content that was put
last, if there is one.  `contents` were put before, the last one first. -/
def replies {σ : Type} [BEq σ] (slot : DiagramKey → σ) :
    List CacheCall → (contents : List (σ × String)) → List (Option String)
  | [], _ => []
  | .put key content :: calls, contents => replies slot calls ((slot key, content) :: contents)
  | .get key :: calls, contents => contents.lookup (slot key) :: replies slot calls contents

theorem lookup_cons_eq_ite {σ : Type} [BEq σ] (a k : σ) (b : String) (l : List (σ × String)) :
    List.lookup a ((k, b) :: l) = if a == k then some b else l.lookup a := by
  rw [List.lookup_cons]
  cases a == k <;> rfl

section Replies

variable {σ : Type} [BEq σ] [LawfulBEq σ] {keys : List DiagramKey} {slot : DiagramKey → σ}

/-- What is looked up for a key in a slot of its own was put under the key. -/
theorem lookup_map_slot {key : DiagramKey} (hslot : ∀ a ∈ keys, slot key = slot a → key = a) :
    (contents : List (DiagramKey × String)) → (∀ c ∈ contents, c.1 ∈ keys) →
      (contents.map fun c => (slot c.1, c.2)).lookup (slot key) = contents.lookup key
  | [], _ => rfl
  | (k, content) :: contents, hcontents => by
      obtain ⟨hk, hcontents⟩ := List.forall_mem_cons.mp hcontents
      have hsame : slot key = slot k ↔ key = k := ⟨hslot k hk, congrArg slot⟩
      rw [List.map_cons, lookup_cons_eq_ite, lookup_cons_eq_ite,
        lookup_map_slot hslot contents hcontents]
      simp only [beq_iff_eq, hsame]

/-- If keys are in slots of their own, nothing else is got than what was put under
them. -/
theorem replies_eq_of_injective (hslot : ∀ a ∈ keys, ∀ b ∈ keys, slot a = slot b → a = b) :
    (calls : List CacheCall) → (∀ call ∈ calls, call.key ∈ keys) →
      (contents : List (DiagramKey × String)) → (∀ c ∈ contents, c.1 ∈ keys) →
      replies slot calls (contents.map fun c => (slot c.1, c.2)) = replies id calls contents
  | [], _, _, _ => rfl
  | .put key content :: calls, hcalls, contents, hcontents => by
      have hkey : key ∈ keys := hcalls (.put key content) List.mem_cons_self
      have hcalls := (List.forall_mem_cons.mp hcalls).2
      exact replies_eq_of_injective hslot calls hcalls ((key, content) :: contents)
        (List.forall_mem_cons.mpr ⟨hkey, hcontents⟩)
  | .get key :: calls, hcalls, contents, hcontents => by
      have hkey : key ∈ keys := hcalls (.get key) List.mem_cons_self
      have hcalls := (List.forall_mem_cons.mp hcalls).2
      rw [replies, replies, lookup_map_slot (hslot key hkey) contents hcontents,
        replies_eq_of_injective hslot calls hcalls contents hcontents, id_eq]

/-- The key that is put comes out for another one in its slot. -/
theorem eq_of_replies_eq {a b : DiagramKey}
    (h : replies slot [.put a "", .get b] [] = replies id [.put a "", .get b] [])
    (hslot : slot b = slot a) : b = a := by
  simp only [replies, lookup_cons_eq_ite, hslot, beq_self_eq_true, if_true, id_eq] at h
  by_cases hsame : b = a
  · exact hsame
  · simp [hsame] at h

end Replies

/-! ## Runs -/

/-- A storage in which the right contents stand, and are found. -/
structure DiagramStorage.Mirrors (storage : DiagramStorage) (keys : List DiagramKey)
    (contents : List ((String × Option String) × String)) (s : Recalling.State) : Prop where
  takes {key : DiagramKey} : key ∈ keys → storage.takes s.2 key
  stands {key : DiagramKey} : key ∈ keys →
    storage.stands s key = contents.lookup (storage.slot key)
  found {key : DiagramKey} : key ∈ keys → storage.found s key = storage.stands s key

section Runs

variable {storage : DiagramStorage} {keys : List DiagramKey}

section Admitted

variable (hadmits : ∀ key ∈ keys, storage.admits key)
  (hhash : ∀ a ∈ keys, ∀ b ∈ keys, a.hash = b.hash → a.text = b.text)

include hadmits hhash

/-- What is put stands in its place, and is found. -/
theorem DiagramStorage.Mirrors.put {contents : List ((String × Option String) × String)}
    {s : Recalling.State} (h : storage.Mirrors keys contents s) {key : DiagramKey}
    (hkey : key ∈ keys) (content : String) :
    storage.Mirrors keys ((storage.slot key, content) :: contents)
      (storage.stored s key content) := by
  have htakes := h.takes hkey
  have hstands {other : DiagramKey} (hother : other ∈ keys) :
      storage.stands (storage.stored s key content) other =
        if storage.slot other = storage.slot key then some content else storage.stands s other := by
    rw [storage.stands_stored content (hhash other hother key hkey) (hadmits key hkey)
      (hadmits other hother)]
    simp only [htakes, true_and]
  constructor
  · intro other hother
    exact storage.takes_stored content htakes (h.takes hother)
  · intro other hother
    rw [hstands hother, h.stands hother, lookup_cons_eq_ite]
    simp only [beq_iff_eq]
  · intro other hother
    apply storage.found_eq_stands
    rw [hstands hother]
    by_cases hslot : storage.slot other = storage.slot key
    · rw [storage.found_stored_of_slot content htakes hslot]
      simp
    · rw [if_neg hslot, ← h.found hother]
      exact storage.found_stored_isSome content htakes

/-- A run over keys that the storage takes gives what the store of its slots gives. -/
theorem ends_answers : (calls : List CacheCall) → (∀ call ∈ calls, call.key ∈ keys) →
    (contents : List ((String × Option String) × String)) → (s : Recalling.State) →
    storage.Mirrors keys contents s →
      ∃ s', Ends (storage.cache.answers calls) s (replies storage.slot calls contents) s'
  | [], _, _, s, _ => ⟨s, .pure [] s⟩
  | .put key content :: calls, hcalls, contents, s, h => by
      have hkey : key ∈ keys := hcalls (.put key content) List.mem_cons_self
      have hcalls := (List.forall_mem_cons.mp hcalls).2
      obtain ⟨s', hrest⟩ := ends_answers calls hcalls _ _ (h.put hadmits hhash hkey content)
      exact ⟨s', (storage.ends_put s key content).bind hrest⟩
  | .get key :: calls, hcalls, contents, s, h => by
      have hkey : key ∈ keys := hcalls (.get key) List.mem_cons_self
      have hcalls := (List.forall_mem_cons.mp hcalls).2
      obtain ⟨s', hrest⟩ := ends_answers calls hcalls contents s h
      have hget : Ends (storage.cache.get? key) s (contents.lookup (storage.slot key)) s := by
        rw [← h.stands hkey, ← h.found hkey]
        exact storage.ends_get s key
      exact ⟨s', hget.bind (hrest.bind (.pure _ s'))⟩

end Admitted

/-- Where nothing stands yet, everything is as in an empty store. -/
theorem DiagramStorage.Mirrors.start {s : Recalling.State}
    (hfree : ∀ key ∈ keys, storage.stands s key = Option.none)
    (htakes : ∀ key ∈ keys, storage.takes s.2 key) : storage.Mirrors keys [] s := by
  constructor
  · exact htakes _
  · exact hfree _
  · intro key hkey
    apply storage.found_eq_stands
    simp [hfree key hkey]

/-- What is got after it was put under a key stands in its place, so the storage
takes the key. -/
theorem takes_of_answers {key : DiagramKey} {s s' : Recalling.State}
    (hadmits : storage.admits key) (hfree : storage.stands s key = none)
    (h : Ends (storage.cache.answers [.put key "", .get key]) s [some ""] s') :
    storage.takes s.2 key := by
  let kept := storage.stored s key ""
  have hends : Ends (storage.cache.answers [.put key "", .get key]) s
      [storage.found kept key] kept :=
    (storage.ends_put s key "").bind
      ((storage.ends_get kept key).bind ((Ends.pure [] kept).bind (.pure _ kept)))
  have hfound : storage.found kept key = some "" := List.singleton_inj.mp (hends.unique h).1
  have hstands := storage.stands_of_found hfound
  rw [storage.stands_stored "" (fun _ => rfl) hadmits hadmits] at hstands
  split at hstands
  · next htakes => exact htakes.1
  · simp [hfree] at hstands

end Runs

/-- **A storage is the store of the whole keys for the keys that it tells apart**, and
that can be kept in it, whatever calls are made under them; and for no other keys.
Nothing stands in their places before the first call, and no hashes collide. -/
theorem answers_iff (storage : DiagramStorage) (keys : List DiagramKey) (m : Machine)
    (hfree : ∀ key ∈ keys, storage.stands (∅, m) key = none)
    (hadmits : ∀ key ∈ keys, storage.admits key)
    (hhash : ∀ a ∈ keys, ∀ b ∈ keys, a.hash = b.hash → a.text = b.text) :
    (∀ calls : List CacheCall, (∀ call ∈ calls, call.key ∈ keys) →
        (((storage.cache.answers calls).run ∅).run m).1.1 = replies id calls []) ↔
      (∀ key ∈ keys, storage.takes m key) ∧
        ∀ a ∈ keys, ∀ b ∈ keys, storage.slot a = storage.slot b → a = b := by
  have hslots (htakes : ∀ key ∈ keys, storage.takes m key) (calls : List CacheCall)
      (hcalls : ∀ call ∈ calls, call.key ∈ keys) :
      (((storage.cache.answers calls).run ∅).run m).1.1 = replies storage.slot calls [] := by
    obtain ⟨s', hends⟩ := ends_answers hadmits hhash calls hcalls [] (∅, m) (.start hfree htakes)
    exact congrArg (·.1.1) hends
  constructor
  · intro h
    have htakes : ∀ key ∈ keys, storage.takes m key := by
      intro key hkey
      have hanswers := h [.put key "", .get key] (by simp [CacheCall.key, hkey])
      simp only [replies, lookup_cons_eq_ite, id_eq, beq_self_eq_true, if_true] at hanswers
      have hends := Ends.of_run (storage.cache.answers [.put key "", .get key]) (∅, m)
      rw [hanswers] at hends
      exact takes_of_answers (hadmits key hkey) (hfree key hkey) hends
    refine ⟨htakes, fun a ha b hb hslot => ?_⟩
    have hcalls : ∀ call ∈ [CacheCall.put b "", .get a], call.key ∈ keys := by
      simp [CacheCall.key, ha, hb]
    have hanswers := (hslots htakes _ hcalls).symm.trans (h _ hcalls)
    exact eq_of_replies_eq hanswers hslot
  · rintro ⟨htakes, hslot⟩ calls hcalls
    rw [hslots htakes calls hcalls]
    exact replies_eq_of_injective hslot calls hcalls [] (by simp)

/-- The storages that work on the machine of the other examples. -/
def workingStorages : List DiagramStorage := [.memory, .files "/diagrams/kept"]

/-- They take every key whose format can be the end of a name, and nothing stands in
its place. -/
theorem workingStorages_take {storage : DiagramStorage} (hstorage : storage ∈ workingStorages)
    (key : DiagramKey) (hslash : '/' ∉ key.format.toList) (hnul : '\x00' ∉ key.format.toList)
    (hlength : key.format.utf8ByteSize ≤ 190) :
    storage.takes diagramMachine key ∧ storage.stands (∅, diagramMachine) key = none := by
  obtain rfl | rfl : storage = .memory ∨ storage = .files "/diagrams/kept" := by
    simpa [workingStorages] using hstorage
  · simp [DiagramStorage.takes, DiagramStorage.stands]
  · have hcwd : diagramMachine.cwd = [] := rfl
    have hplace : FileTree.placeOf [] (Path.join "/diagrams/kept" key.fileName) =
        ["diagrams", "kept", key.fileName] :=
      FileTree.placeOf_join _ _ (DiagramKey.isName_fileName hslash)
    have hmake : diagramMachine.files.makeDirectories [] "/diagrams/kept" =
        .ok [(["diagrams", "kept"], .directory), (["diagrams"], .directory),
          (["notes"], .file "")] := rfl
    constructor
    · refine DiagramStorage.takes_files hmake rfl hslash hnul hlength ?_
      simp [hcwd, hplace, FileTree.at?, List.lookup_cons]
    · rw [DiagramStorage.stands, hcwd, hplace]
      rfl

/-- A diagram in two formats. -/
def plainKeys : List DiagramKey := [⟨"graph", "mermaid", "svg"⟩, ⟨"graph", "mermaid", "png"⟩]

/-- Two keys that have the text `a:b:b:c`. -/
def colonKeys : List DiagramKey := [⟨"c", "a:b", "b"⟩, ⟨"b:c", "a", "b"⟩]

/-- In memory and in files, the formats of a diagram are told apart, and the keys
with colons are not. -/
theorem colonKeys_confused :
    let stores (storage : DiagramStorage) (keys : List DiagramKey) : Prop :=
      ∀ calls : List CacheCall, (∀ call ∈ calls, call.key ∈ keys) →
        (((storage.cache.answers calls).run ∅).run diagramMachine).1.1 = replies id calls []
    ∀ storage ∈ workingStorages, stores storage plainKeys ∧ ¬stores storage colonKeys := by
  intro stores storage hstorage
  have hformat : ∀ key ∈ plainKeys ++ colonKeys, '/' ∉ key.format.toList ∧
      '\x00' ∉ key.format.toList ∧ key.format.utf8ByteSize ≤ 190 := by decide +kernel
  have hkept : ∀ key ∈ plainKeys ++ colonKeys, storage.takes diagramMachine key ∧
      storage.stands (∅, diagramMachine) key = none := by
    intro key hkey
    obtain ⟨hslash, hnul, hlength⟩ := hformat key hkey
    exact workingStorages_take hstorage key hslash hnul hlength
  have hadmits : ∀ key ∈ plainKeys ++ colonKeys, storage.admits key := by
    intro key hkey
    cases storage <;> simp [DiagramStorage.admits, (hformat key hkey).1]
  constructor
  · have hmem {key : DiagramKey} (hkey : key ∈ plainKeys) : key ∈ plainKeys ++ colonKeys :=
      List.mem_append_left colonKeys hkey
    have hhash : ∀ a ∈ plainKeys, ∀ b ∈ plainKeys, a.hash = b.hash → a.text = b.text := by
      decide +kernel
    have hcolon : ∀ key ∈ plainKeys, ':' ∉ key.endpoint.toList ∧ ':' ∉ key.format.toList := by
      decide +kernel
    refine (answers_iff storage plainKeys diagramMachine (fun key hkey => (hkept key (hmem hkey)).2)
      (fun key hkey => hadmits key (hmem hkey)) hhash).mpr ⟨?_, ?_⟩
    · intro key hkey
      exact (hkept key (hmem hkey)).1
    · intro a ha b hb hslot
      exact DiagramKey.eq_of_text_eq (storage.text_eq_of_slot hslot) (hcolon a ha) (hcolon b hb)
  · have hmem {key : DiagramKey} (hkey : key ∈ colonKeys) : key ∈ plainKeys ++ colonKeys :=
      List.mem_append_right plainKeys hkey
    have htext : ∀ a ∈ colonKeys, ∀ b ∈ colonKeys, a.text = b.text := by decide +kernel
    intro hstores
    obtain ⟨-, hslot⟩ := (answers_iff storage colonKeys diagramMachine
      (fun key hkey => (hkept key (hmem hkey)).2) (fun key hkey => hadmits key (hmem hkey))
      (fun a ha b hb _ => htext a ha b hb)).mp hstores
    have hfirst : (⟨"c", "a:b", "b"⟩ : DiagramKey) ∈ colonKeys := by simp [colonKeys]
    have hsecond : (⟨"b:c", "a", "b"⟩ : DiagramKey) ∈ colonKeys := by simp [colonKeys]
    have hsame := hslot _ hfirst _ hsecond
      (storage.slot_eq_of_text_eq (htext _ hfirst _ hsecond) rfl)
    simp at hsame

end Broadsheet
