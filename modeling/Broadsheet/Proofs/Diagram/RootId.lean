import Broadsheet.Document.Services
import Broadsheet.Proofs.Diagram.Selectors

/-!
# Broadsheet.Proofs.Diagram.RootId

The id of an SVG document's root.  The root is where `<svg` first stands, and its
id is the first attribute of that name in its start tag.

* `RootId` — what stands where in a document whose root has an id, and
  `withId?_of_rootId`, what such a document becomes under another id;
* `withIdText?_renamesAll` — with the root's id its selectors are renamed, all of
  them if none comes directly after another one;
* `withIdText?_settled` — a document is refused only if it has no root, and an id
  that was given is the root's id from then on: giving it again changes nothing.
-/

namespace Broadsheet

namespace Svg

/-! ## Attributes -/

/-- The first id attribute of a start tag, which is not in what leads to it: the
blank before it, and its value. -/
structure IdAttribute (lead : List Char) (gap : Char) (id : List Char) : Prop where
  blank : isBlank gap = true
  first : ∀ c, isBlank c = true → ¬ c :: "id=\"".toList <:+: lead
  inTag : '>' ∉ lead
  quoted : '"' ∉ id

section Attribute

variable {lead before id s rest : List Char} {gap c d : Char}

theorem ne_of_isBlank (hc : isBlank c = true) (hd : isBlank d = false) : c ≠ d := by
  rintro rfl
  rw [hc] at hd
  exact Bool.noConfusion hd

theorem notMem_of_isBlank (hc : isBlank c = true) (hs : ∀ d ∈ s, isBlank d = false) : c ∉ s :=
  fun hmem => ne_of_isBlank hc (hs c hmem) rfl

/-- No blank is in the name of the attribute. -/
theorem isBlank_idName : ∀ d ∈ "id=\"".toList, isBlank d = false := by
  have hall : "id=\"".toList.all (fun d => !isBlank d) := by decide
  intro d hd
  simpa using List.all_eq_true.mp hall d hd

theorem idAttribute?_of_here (h : idHere? c s = some (id, rest)) :
    idAttribute? (c :: s) = some ([c], id, rest) := by
  rw [idAttribute?, h]
  rfl

theorem idAttribute?_of_not_here (h : idHere? c s = none) (hc : c ≠ '>') :
    idAttribute? (c :: s) =
      (idAttribute? s).map fun (before, value, rest) => (c :: before, value, rest) := by
  rw [idAttribute?, h, if_neg hc]
  rfl

theorem idHere?_of_isBlank (hc : isBlank c = true) :
    idHere? c s = (after? "id=\"".toList s).bind (splitOnce (· == '"')) := by
  rw [idHere?, hc]
  rfl

theorem idHere?_of_not_isBlank (hc : isBlank c = false) : idHere? c s = none := by
  rw [idHere?, hc]
  rfl

theorem idHere?_eq_some_iff : idHere? c s = some (id, rest) ↔
    isBlank c = true ∧ s = "id=\"".toList ++ id ++ '"' :: rest ∧ '"' ∉ id := by
  cases hc : isBlank c with
  | false => simp [idHere?_of_not_isBlank hc]
  | true =>
      simp only [idHere?_of_isBlank hc, Option.bind_eq_some_iff, after?_eq_some_iff,
        splitOnce_eq_some_iff, true_and]
      constructor
      · rintro ⟨t, rfl, rfl, hid⟩
        exact ⟨by simp, hid⟩
      · rintro ⟨rfl, hid⟩
        exact ⟨id ++ '"' :: rest, by simp, rfl, hid⟩

/-- An attribute that begins is found if a double quote comes later. -/
theorem idHere?_ne_none (hc : isBlank c = true) (hs : '"' ∈ s) :
    idHere? c ("id=\"".toList ++ s) ≠ none := by
  obtain ⟨value, after, rfl, hvalue⟩ := List.eq_append_cons_of_mem hs
  have hfound : idHere? c ("id=\"".toList ++ (value ++ '"' :: after)) = some (value, after) :=
    idHere?_eq_some_iff.mpr ⟨hc, (List.append_assoc _ _ _).symm, hvalue⟩
  rw [hfound]
  exact Option.some_ne_none _

theorem idAttribute?_of_idAttribute : (lead : List Char) → IdAttribute lead gap id →
    idAttribute? (lead ++ gap :: ("id=\"".toList ++ id ++ '"' :: rest)) =
      some (lead ++ [gap], id, rest)
  | [], h => idAttribute?_of_here (idHere?_eq_some_iff.mpr ⟨h.blank, rfl, h.quoted⟩)
  | d :: lead, h => by
      have hlead : IdAttribute lead gap id := {
        blank := h.blank
        first := fun c hc hpart => h.first c hc (hpart.trans (List.suffix_cons d lead).isInfix)
        inTag := fun hmem => h.inTag (List.mem_cons_of_mem d hmem)
        quoted := h.quoted }
      have hhere : idHere? d (lead ++ gap :: ("id=\"".toList ++ id ++ '"' :: rest)) = none := by
        rw [Option.eq_none_iff_forall_ne_some]
        rintro ⟨value, after⟩ hfound
        obtain ⟨hd, hs, -⟩ := idHere?_eq_some_iff.mp hfound
        have hstart : "id=\"".toList <+: lead := by
          rw [← prefix_append_cons_iff _ lead (notMem_of_isBlank h.blank isBlank_idName), hs]
          exact ⟨value ++ '"' :: after, by simp⟩
        exact h.first d hd (List.cons_prefix_cons.mpr ⟨rfl, hstart⟩).isInfix
      have hd : d ≠ '>' := fun heq => h.inTag (by simp [heq])
      rw [List.cons_append, idAttribute?_of_not_here hhere hd,
        idAttribute?_of_idAttribute lead hlead, Option.map_some, List.cons_append]

theorem exists_idAttribute (h : idAttribute? s = some (before, id, rest)) :
    ∃ lead gap, IdAttribute lead gap id ∧ before = lead ++ [gap] ∧
      s = lead ++ gap :: ("id=\"".toList ++ id ++ '"' :: rest) := by
  induction s generalizing before with
  | nil => simp [idAttribute?] at h
  | cons c s ih =>
      cases hhere : idHere? c s with
      | some found =>
          rw [idAttribute?_of_here hhere] at h
          cases h
          obtain ⟨hc, rfl, hid⟩ := idHere?_eq_some_iff.mp hhere
          exact ⟨[], c, ⟨hc, by simp, by simp, hid⟩, rfl, rfl⟩
      | none =>
          by_cases hc : c = '>'
          · rw [idAttribute?, hhere, if_pos hc] at h
            simp at h
          · rw [idAttribute?_of_not_here hhere hc] at h
            obtain ⟨⟨before, id, rest⟩, hrest, he⟩ := Option.map_eq_some_iff.mp h
            cases he
            obtain ⟨lead, gap, hattr, rfl, rfl⟩ := ih hrest
            refine ⟨c :: lead, gap, ⟨hattr.blank, fun d hd hpart => ?_, ?_, hattr.quoted⟩, rfl, rfl⟩
            · obtain hstart | hpart := List.infix_cons_iff.mp hpart
              · -- an attribute that begins here has a closing quote, so it was found
                obtain ⟨rfl, w, rfl⟩ := List.cons_prefix_cons.mp hstart
                rw [List.append_assoc] at hhere
                exact absurd hhere (idHere?_ne_none hd (by simp))
              · exact hattr.first d hd hpart
            · simp [Ne.symm hc, hattr.inTag]

end Attribute

/-! ## Roots -/

/-- A root element with an id, and the rest of its document. -/
def rootText (lead : List Char) (gap : Char) (id rest : List Char) : List Char :=
  "<svg".toList ++ (lead ++ gap :: ("id=\"".toList ++ id ++ '"' :: rest))

/-- A document whose root has an id.  The root begins where `<svg` first stands, and
no name goes on there. -/
structure RootId (svg prologue lead : List Char) (gap : Char) (id rest : List Char) : Prop
    extends IdAttribute lead gap id where
  text : svg = prologue ++ rootText lead gap id rest
  root : ¬ "<svg".toList <:+: prologue
  named : (lead ++ [gap]).head?.any isWordChar = false

/-- An id that is a name without blanks. -/
structure PlainId (id : List Char) : Prop where
  name : isNameText id = true
  noBlank : ∀ c ∈ id, isBlank c = false

theorem isNameChar_of_isDigit {c : Char} (hc : c.isDigit = true) :
    (isWordChar c || c == '-') = true ∧ isBlank c = false := by
  have hbounds : 48 ≤ c.toNat ∧ c.toNat ≤ 57 := by
    simpa [Char.isDigit, UInt32.le_iff_toNat_le] using hc
  constructor
  · have hascii : c.toNat < 128 := by omega
    simp [isWordChar, isAscii, hascii, Char.isAlphanum, hc]
  · simp only [isBlank, Bool.or_eq_false_iff, Bool.and_eq_false_iff, decide_eq_false_iff_not,
      beq_eq_false_iff_ne]
    omega

theorem toList_diagramId (n : Nat) :
    (diagramId n).toList = "mermaid-diagram-".toList ++ Nat.toDigits 10 n := by
  have hdigits : (toString n).toList = Nat.toDigits 10 n := by
    rw [Nat.toString_eq_ofList_toDigits, String.toList_ofList]
  rw [← hdigits]
  exact String.toList_append

theorem plainId_diagramId (n : Nat) : PlainId (diagramId n).toList := by
  have hfixed : "mermaid-diagram-".toList.all
      (fun c => (isWordChar c || c == '-') && !isBlank c) := by decide
  have hchars : ∀ c ∈ (diagramId n).toList,
      (isWordChar c || c == '-') = true ∧ isBlank c = false := by
    intro c hc
    rw [toList_diagramId, List.mem_append] at hc
    obtain hc | hc := hc
    · simpa only [Bool.and_eq_true, Bool.not_eq_true'] using List.all_eq_true.mp hfixed c hc
    · exact isNameChar_of_isDigit (Nat.isDigit_of_mem_toDigits (by decide) (by decide) hc)
  exact ⟨List.all_eq_true.mpr fun c hc => (hchars c hc).1, fun c hc => (hchars c hc).2⟩

namespace PlainId

variable {id : List Char}

theorem notMem (h : PlainId id) {c : Char} (hc : (isWordChar c || c == '-') = false) : c ∉ id :=
  notMem_of_isNameText h.name hc

theorem dollar_notMem (h : PlainId id) : '$' ∉ id := h.notMem (by decide)

theorem quote_notMem (h : PlainId id) : '"' ∉ id := h.notMem (by decide)

end PlainId

section Root

variable {svg prologue lead old new rest : List Char} {gap : Char}

theorem fill_of_notMem {groups : List (List Char)} {a : List Char} (ha : '$' ∉ a) :
    fill groups a = a := by
  have h := fill_append_of_notMem groups [] a ha
  simpa [fill, fillFrom] using h

theorem head?_append_cons (a b : List Char) (c : Char) :
    (a ++ c :: b).head? = (a ++ [c]).head? := by
  cases a <;> rfl

theorem cut?_root (hroot : ¬ "<svg".toList <:+: prologue) (rest : List Char) :
    cut? "<svg".toList (prologue ++ ("<svg".toList ++ rest)) = some (prologue, rest) :=
  cut?_of_not_infix (c := '<') (p := "svg".toList) (by decide) rest prologue hroot

theorem withId?_eq_none_iff : withId? svg new = none ↔ ¬ "<svg".toList <:+: svg := by
  rw [← contains_iff, contains, withId?]
  cases hcut : cut? "<svg".toList svg with
  | none => simp
  | some found =>
      obtain ⟨prologue, rest⟩ := found
      cases hroot : rootId? rest with
      | none => simp [hroot]
      | some found =>
          simp only [hroot, Option.bind_eq_bind, Option.bind_some]
          split <;> simp

/-- A root without an id gets one before its other attributes. -/
theorem withId?_of_rootId?_eq_none (hroot : ¬ "<svg".toList <:+: prologue)
    (hnone : rootId? rest = none) :
    withId? (prologue ++ ("<svg".toList ++ rest)) new = some (rootText [] ' ' new rest) := by
  rw [withId?, cut?_root hroot, Option.bind_eq_bind, Option.bind_some]
  simp only [hnone]
  rfl

/-- What the reader finds in a document whose root has an id. -/
theorem RootId.found (h : RootId svg prologue lead gap old rest) :
    (cut? "<svg".toList svg).bind (fun found => rootId? found.2) =
      some (lead ++ [gap], old, rest) := by
  rw [h.text, rootText, cut?_root h.root, Option.bind_some, rootId?, head?_append_cons, h.named]
  exact idAttribute?_of_idAttribute lead h.toIdAttribute

/-- A root has one id. -/
theorem RootId.id_unique {prologue' lead' old' rest' : List Char} {gap' : Char}
    (h : RootId svg prologue lead gap old rest)
    (h' : RootId svg prologue' lead' gap' old' rest') : old = old' := by
  have heq := h.found.symm.trans h'.found
  simp only [Option.some.injEq, Prod.mk.injEq] at heq
  exact heq.2.1

/-- The id of a root is replaced, and its selectors are renamed. -/
theorem withId?_of_rootId (hnew : PlainId new) (h : RootId svg prologue lead gap old rest) :
    withId? svg new = some
      (if old.isEmpty || old == new then rootText lead gap new rest
        else renameFrom old new 0 (rootText lead gap new rest)) := by
  obtain ⟨found, hcut, hroot⟩ := Option.bind_eq_some_iff.mp h.found
  have hid : '$' ∉ "id=\"".toList ++ new ++ ['"'] := by
    simpa using hnew.dollar_notMem
  have hfill (whole start : List Char) (groups : List (List Char)) :
      fill (whole :: start :: groups) ("$\x7b1\x7did=\"".toList ++ new ++ ['"']) =
        start ++ ("id=\"".toList ++ new ++ ['"']) := by
    have hfirst := fill_first whole start groups ("id=\"".toList ++ new ++ ['"'])
    rwa [fill_of_notMem hid] at hfirst
  have hwhole : "<svg".toList ++ (lead ++ [gap]) ++ ("id=\"".toList ++ new ++ ['"']) ++ rest =
      rootText lead gap new rest := by
    simp [rootText]
  rw [withId?, hcut]
  simp only [Option.bind_eq_bind, Option.bind_some, hroot, hfill, hwhole]
  split <;> rfl

theorem exists_rootId {before : List Char} (hroot : ¬ "<svg".toList <:+: prologue)
    {s : List Char} (h : rootId? s = some (before, old, rest)) :
    ∃ lead gap, RootId (prologue ++ ("<svg".toList ++ s)) prologue lead gap old rest := by
  rw [rootId?] at h
  split at h
  · simp at h
  · next hnamed =>
      obtain ⟨lead, gap, hattr, rfl, rfl⟩ := exists_idAttribute h
      rw [Bool.not_eq_true, head?_append_cons] at hnamed
      exact ⟨lead, gap, { toIdAttribute := hattr, text := rfl, root := hroot, named := hnamed }⟩

/-- A root that has an id already stays as it is. -/
theorem withId?_of_given (hnew : PlainId new) (h : RootId svg [] lead gap new rest) :
    withId? svg new = some svg := by
  rw [withId?_of_rootId hnew h, beq_self_eq_true, Bool.or_true, if_pos rfl, h.text,
    List.nil_append]

/-- The new id's attribute stays where the old one's was when selectors are
renamed: no selector reaches into it, and no part of a selector makes another one. -/
theorem RootId.renamed (hnew : PlainId new) (hold : ∀ c ∈ old, isBlank c = false)
    (h : RootId svg prologue lead gap old rest) :
    ∃ lead', RootId (renameFrom old new 0 (rootText lead gap new rest)) [] lead' gap new
      (renameFrom old new 0 rest) := by
  have hdollar := hnew.dollar_notMem
  have hattr : '#' ∉ "id=\"".toList ++ new ++ ['"'] := by
    simpa using hnew.notMem (c := '#') (by decide)
  have hgap : gap ∉ '#' :: old := by
    rw [List.mem_cons, not_or]
    exact ⟨ne_of_isBlank h.blank (by decide), notMem_of_isBlank h.blank hold⟩
  obtain ⟨lead', hlead, heq⟩ := exists_renameFrom_append_cons old hdollar hgap
    (lead ++ gap :: ("id=\"".toList ++ new ++ '"' :: rest)) lead rfl
  have htail : renameFrom old new 0 ("id=\"".toList ++ new ++ '"' :: rest) =
      "id=\"".toList ++ new ++ '"' :: renameFrom old new 0 rest := by
    have happend : renameFrom old new 0 (("id=\"".toList ++ new ++ ['"']) ++ rest) = _ :=
      renameFrom_append_of_notMem rest _ hattr
    simpa using happend
  have hfirst : ∀ c, isBlank c = true → ¬ c :: "id=\"".toList <:+: lead' := by
    intro c hc hpart
    have hhash : '#' ∉ c :: "id=\"".toList := by
      simpa using (ne_of_isBlank hc (d := '#') (by decide)).symm
    exact h.first c hc (hlead.part hhash (notMem_of_isBlank hc hnew.noBlank) hpart)
  have hinTag : '>' ∉ lead' := by
    intro hmem
    obtain hmem | hmem | hmem := hlead.mem hmem
    · exact h.inTag hmem
    · simp at hmem
    · exact hnew.notMem (by decide) hmem
  have htext : renameFrom old new 0 (rootText lead gap new rest) =
      rootText lead' gap new (renameFrom old new 0 rest) := by
    have hstart : '#' ∉ "<svg".toList := by decide
    rw [rootText, renameFrom_append_of_notMem _ _ hstart, heq, htail, rootText]
  have hnamed : (lead' ++ [gap]).head?.any isWordChar = false := by
    have hhead := head?_renameFrom old hdollar
      (lead ++ gap :: ("id=\"".toList ++ new ++ '"' :: rest))
    rw [heq, head?_append_cons lead', head?_append_cons lead] at hhead
    rw [hhead, h.named]
  have hroot : ¬ "<svg".toList <:+: [] := by simp
  exact ⟨lead', ⟨h.blank, hfirst, hinTag, hnew.quote_notMem⟩, htext, hroot, hnamed⟩

/-- Whatever a document becomes, the new id is its root's, and nothing stands
before the root. -/
theorem exists_rootId_of_withId? (hnew : PlainId new)
    (hold : ∀ prologue lead gap old rest, RootId svg prologue lead gap old rest →
      ∀ c ∈ old, isBlank c = false) {t : List Char} (ht : withId? svg new = some t) :
    ∃ lead gap rest, RootId t [] lead gap new rest := by
  obtain ⟨⟨prologue, s⟩, hcut, -⟩ := Option.bind_eq_some_iff.mp ht
  have hroot : ¬ "<svg".toList <:+: prologue := not_infix_of_cut? (by simp) hcut
  have hsvg : svg = prologue ++ ("<svg".toList ++ s) := by
    rw [← List.append_assoc]
    exact eq_of_cut? hcut
  cases hid : rootId? s with
  | none =>
      rw [hsvg, withId?_of_rootId?_eq_none hroot hid] at ht
      cases ht
      have hattr : IdAttribute [] ' ' new := ⟨by decide, by simp, by simp, hnew.quote_notMem⟩
      exact ⟨[], ' ', s, hattr, rfl, by simp, by decide⟩
  | some found =>
      obtain ⟨before, old, rest⟩ := found
      obtain ⟨lead, gap, h⟩ := exists_rootId hroot hid
      rw [← hsvg] at h
      rw [withId?_of_rootId hnew h] at ht
      have hgiven : RootId (rootText lead gap new rest) [] lead gap new rest :=
        ⟨⟨h.blank, h.first, h.inTag, hnew.quote_notMem⟩, rfl, by simp, h.named⟩
      split at ht
      · cases ht
        exact ⟨lead, gap, rest, hgiven⟩
      · cases ht
        obtain ⟨lead', hrenamed⟩ := h.renamed hnew (hold _ _ _ _ _ h)
        exact ⟨lead', gap, _, hrenamed⟩

/-- What stands before the root is of no account. -/
theorem withId?_of_prologue (hroot : ¬ "<svg".toList <:+: prologue) (s : List Char) :
    withId? (prologue ++ ("<svg".toList ++ s)) new = withId? ("<svg".toList ++ s) new := by
  have hnil : ¬ "<svg".toList <:+: [] := by simp
  have hself : cut? "<svg".toList ("<svg".toList ++ s) = some ([], s) := cut?_root hnil s
  rw [withId?, withId?, cut?_root hroot, hself]
  rfl

end Root

theorem withIdText?_eq_some_iff {svg id t : String} :
    withIdText? svg id = some t ↔ withId? svg.toList id.toList = some t.toList := by
  rw [withIdText?, Option.map_eq_some_iff]
  constructor
  · rintro ⟨s, hs, rfl⟩
    rw [hs, String.toList_ofList]
  · intro h
    exact ⟨t.toList, h, String.ofList_toList⟩

theorem withIdText?_eq_none_iff {svg id : String} :
    withIdText? svg id = none ↔ ¬ "<svg".toList <:+: svg.toList := by
  rw [withIdText?, Option.map_eq_none_iff, withId?_eq_none_iff]

/-- **The selectors are renamed with the root's id**, in the whole text from the
root on: all of them, and nothing else, if none comes directly after another one.
Where one does, it is not renamed (the id may not have a number sign then; with
one, selectors can overlap). -/
theorem withIdText?_renamesAll (svg : String) (n : Nat) {prologue lead old rest : List Char}
    {gap : Char} (hroot : RootId svg.toList prologue lead gap old rest) (hold : old ≠ [])
    (hne : old ≠ (diagramId n).toList) :
    let id := (diagramId n).toList
    let root := rootText lead gap id rest
    ∃ t, withIdText? svg (diagramId n) = some t ∧
      (chained old root = false → t.toList = renameAll old id root) ∧
      ('#' ∉ old → t.toList = renameAll old id root → chained old root = false) := by
  intro id root
  have hid : PlainId id := plainId_diagramId n
  have hrenamed : withId? svg.toList id = some (renameFrom old id 0 root) := by
    have hother : (old.isEmpty || old == id) = false := by simpa [hold] using hne
    rw [withId?_of_rootId hid hroot, hother]
    rfl
  refine ⟨String.ofList (renameFrom old id 0 root), ?_, ?_, ?_⟩
  · rwa [withIdText?_eq_some_iff, String.toList_ofList]
  · rw [String.toList_ofList]
    exact renameFrom_eq_renameAll hid.dollar_notMem root
  · rw [String.toList_ofList]
    intro hhash
    exact chained_eq_false_of_renameFrom_eq hhash hid.name hne root

/-- A document with selectors of the root's id, of longer ids, and in its start tag. -/
def selectiveSvg : String :=
  "<?xml?><svg class=\"#a.b\" id=\"a.b\"><style>#a.b #a.bc#a.b</style>"

/-- The document under the fourth of the ids that diagrams get. -/
def selectiveSvgRenamed : String :=
  "<svg class=\"#mermaid-diagram-3\" id=\"mermaid-diagram-3\">" ++
    "<style>#mermaid-diagram-3 #a.bc#mermaid-diagram-3</style>"

theorem rootId_selectiveSvg : RootId selectiveSvg.toList "<?xml?>".toList
    " class=\"#a.b\"".toList ' ' "a.b".toList "><style>#a.b #a.bc#a.b</style>".toList where
  blank := by decide +kernel
  first c _ hpart :=
    absurd ((List.suffix_cons c "id=\"".toList).isInfix.trans hpart) (by decide +kernel)
  inTag := by decide +kernel
  quoted := by decide +kernel
  text := by decide +kernel
  root := by decide +kernel
  named := by decide +kernel

/-- The selectors of `a.b` are renamed, also that after the one of `a.bc`. -/
theorem selectiveSvg_renamesAll :
    withIdText? selectiveSvg (diagramId 3) = some selectiveSvgRenamed := by
  obtain ⟨t, ht, hall, -⟩ :=
    withIdText?_renamesAll selectiveSvg 3 rootId_selectiveSvg (by decide +kernel)
      (by decide +kernel)
  have htext : t = selectiveSvgRenamed :=
    String.toList_inj.mp ((hall (by decide +kernel)).trans (by decide +kernel))
  exact ht.trans (congrArg some htext)

/-- **An id is settled once it is given.**  A document is refused only without a
root.  Else what stands before its root is dropped, and the first id of what it
becomes is the new one, so that giving the same id again changes nothing.  The id
that the root had may not have blanks; a selector could else reach into the
attribute. -/
theorem withIdText?_settled (svg : String) (n : Nat)
    (hold : ∀ prologue lead gap old rest, RootId svg.toList prologue lead gap old rest →
      ∀ c ∈ old, isBlank c = false) :
    (withIdText? svg (diagramId n) = none ↔ ¬ "<svg".toList <:+: svg.toList) ∧
      ∀ t, withIdText? svg (diagramId n) = some t →
        (∃ lead gap rest, RootId t.toList [] lead gap (diagramId n).toList rest) ∧
        (∀ prologue root, svg.toList = prologue ++ ("<svg".toList ++ root) →
          ¬ "<svg".toList <:+: prologue →
            withIdText? (String.ofList ("<svg".toList ++ root)) (diagramId n) = some t) ∧
        withIdText? t (diagramId n) = some t := by
  have hid := plainId_diagramId n
  refine ⟨withIdText?_eq_none_iff, fun t ht => ?_⟩
  rw [withIdText?_eq_some_iff] at ht
  obtain ⟨lead, gap, rest, hgiven⟩ := exists_rootId_of_withId? hid hold ht
  refine ⟨⟨lead, gap, rest, hgiven⟩, fun prologue root hsvg hroot => ?_, ?_⟩
  · rw [withIdText?_eq_some_iff, String.toList_ofList, ← withId?_of_prologue hroot, ← hsvg, ht]
  · rw [withIdText?_eq_some_iff]
    exact withId?_of_given hid hgiven

/-- The document of the selectors is renamed once. -/
theorem selectiveSvg_settled :
    withIdText? selectiveSvg (diagramId 3) = some selectiveSvgRenamed ∧
      withIdText? selectiveSvgRenamed (diagramId 3) = some selectiveSvgRenamed := by
  have hrenamed : withIdText? selectiveSvg (diagramId 3) = some selectiveSvgRenamed := by
    rw [withIdText?_eq_some_iff]
    decide +kernel
  have hold : ∀ prologue lead gap old rest,
      RootId selectiveSvg.toList prologue lead gap old rest → ∀ c ∈ old, isBlank c = false := by
    intro prologue lead gap old rest h
    have hall : "a.b".toList.all (fun c => !isBlank c) := by decide
    rw [h.id_unique rootId_selectiveSvg]
    intro c hc
    simpa using List.all_eq_true.mp hall c hc
  obtain ⟨-, hsettled⟩ := withIdText?_settled selectiveSvg 3 hold
  exact ⟨hrenamed, (hsettled selectiveSvgRenamed hrenamed).2.2⟩

end Svg

end Broadsheet
