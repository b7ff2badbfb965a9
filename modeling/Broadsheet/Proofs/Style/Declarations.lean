import Broadsheet.Proofs.Style.Every
import Broadsheet.Proofs.Style.Sheets
import Broadsheet.Proofs.Text.Replacing
import Broadsheet.Proofs.Text.Trimming

/-!
# Broadsheet.Proofs.Style.Declarations

Declarations that are written out and read back.  The reader divides at every
semicolon, then at the first colon, and trims what it finds; the writer puts
`: ` and `; ` in these places and escapes nothing.  So the two are inverse where
a declaration has the form that the reader leaves (`Readable`): a value may hold
colons, quotes and braces, and may be empty, but no semicolon.

* `every_readable_iff` — the property maps of readable declarations are exactly
  those that are read from some text;
* `parse_write` — such a map is read back as it was;
* `parse_declarations?` — so is every entry that is compiled from such maps.
-/

namespace Broadsheet

/-! ## Declarations in a row -/

/-- A declaration as it is written. -/
def writtenDeclaration (d : String × String) : List Char := d.1.toList ++ ':' :: ' ' :: d.2.toList

/-- A declaration with another one after it. -/
def followedDeclaration (d : String × String) : List Char := writtenDeclaration d ++ [';', ' ']

theorem flatMap_cons_append (d : String × String) (ds : List (String × String)) (s : List Char) :
    (d :: ds).flatMap followedDeclaration ++ s =
      writtenDeclaration d ++ ';' :: ' ' :: (ds.flatMap followedDeclaration ++ s) := by
  simp [followedDeclaration]

theorem intercalate_append_singleton {α : Type} (sep x : List α) (xs : List (List α)) :
    sep.intercalate (xs ++ [x]) = xs.flatMap (· ++ sep) ++ x := by
  induction xs with
  | nil => simp
  | cons y xs ih =>
      obtain ⟨z, zs, hzs⟩ := List.exists_cons_of_ne_nil (l := xs ++ [x]) (by simp)
      rw [List.cons_append, hzs, List.intercalate_cons_cons, ← hzs, ih]
      simp

/-- Each declaration but the last one is followed by another one. -/
theorem toList_intercalate_declarations (ds : List (String × String)) (l : String × String) :
    ("; ".intercalate ((ds ++ [l]).map fun d => d.1 ++ ": " ++ d.2)).toList =
      ds.flatMap followedDeclaration ++ writtenDeclaration l := by
  have hwritten (d : String × String) : (d.1 ++ ": " ++ d.2).toList = writtenDeclaration d := by
    simp [writtenDeclaration]
  rw [String.toList_intercalate, List.map_map, List.map_append, List.map_singleton,
    intercalate_append_singleton, List.flatMap_map]
  simp only [Function.comp_apply, hwritten]
  rfl

theorem toList_write {p : Properties} {ds : List (String × String)} {l : String × String}
    (hlast : p.toList = ds ++ [l]) :
    p.write.toList = ds.flatMap followedDeclaration ++ writtenDeclaration l := by
  rw [← toList_intercalate_declarations, ← hlast]
  rfl

/-! ## Pieces between separators -/

theorem splitAt_eq_splitOnP (p : Char → Bool) (s : List Char) : splitAt p s = s.splitOnP p := by
  induction s with
  | nil => rfl
  | cons c s ih =>
      rw [List.splitOnP_cons_eq_if_modifyHead, splitAt, ih]
      split
      · rfl
      · cases hs : s.splitOnP p with
        | nil => exact absurd hs (List.splitOnP_ne_nil p s)
        | cons piece pieces => rfl

/-- No separator stands in a piece. -/
theorem notMem_of_mem_splitAt {c : Char} {s piece : List Char} (h : piece ∈ splitAt (· == c) s) :
    c ∉ piece := by
  induction s generalizing piece with
  | nil =>
      obtain rfl : piece = [] := by simpa [splitAt] using h
      exact List.not_mem_nil
  | cons d s ih =>
      rw [splitAt_eq_splitOnP, List.splitOnP_cons_eq_if_modifyHead] at h
      simp only [splitAt_eq_splitOnP] at ih
      split at h
      · obtain rfl | h := List.mem_cons.mp h
        · exact List.not_mem_nil
        · exact ih h
      · next hd =>
          have hne : c ≠ d := by
            rintro rfl
            simp at hd
          cases hs : s.splitOnP (· == c) with
          | nil => simp [hs] at h
          | cons first pieces =>
              rw [hs, List.modifyHead_cons] at h
              obtain rfl | h := List.mem_cons.mp h
              · simp [hne, ih (hs ▸ List.mem_cons_self)]
              · exact ih (hs ▸ List.mem_cons_of_mem first h)

namespace Properties

/-! ## Readable declarations -/

/-- A declaration as reading leaves it. -/
structure Readable (d : String × String) : Prop where
  name_ne : d.1.toList ≠ []
  name_trimmed : trim d.1.toList = d.1.toList
  name_colon : ':' ∉ d.1.toList
  name_semicolon : ';' ∉ d.1.toList
  value_trimmed : trim d.2.toList = d.2.toList
  value_semicolon : ';' ∉ d.2.toList

theorem readable_iff (d : String × String) : Readable d ↔
    d.1.toList ≠ [] ∧ trim d.1.toList = d.1.toList ∧ ':' ∉ d.1.toList ∧ ';' ∉ d.1.toList ∧
      trim d.2.toList = d.2.toList ∧ ';' ∉ d.2.toList :=
  ⟨fun h => ⟨h.name_ne, h.name_trimmed, h.name_colon, h.name_semicolon, h.value_trimmed,
    h.value_semicolon⟩, fun ⟨h₁, h₂, h₃, h₄, h₅, h₆⟩ => ⟨h₁, h₂, h₃, h₄, h₅, h₆⟩⟩

instance : DecidablePred Readable := fun d => decidable_of_iff _ (readable_iff d).symm

theorem readDeclaration_eq_some_iff {s : List Char} {d : String × String} :
    readDeclaration s = some d ↔ ∃ name value, splitOnce (· == ':') s = some (name, value) ∧
      trim name ≠ [] ∧ d = (String.ofList (trim name), String.ofList (trim value)) := by
  rw [readDeclaration]
  constructor
  · intro h
    obtain ⟨⟨name, value⟩, hsplit, hguarded⟩ := Option.bind_eq_some_iff.mp h
    obtain ⟨_, hguard, hd⟩ := Option.bind_eq_some_iff.mp hguarded
    refine ⟨name, value, hsplit, fun hnil => ?_, (Option.some.inj hd).symm⟩
    rw [hnil] at hguard
    exact nomatch hguard
  · rintro ⟨name, value, hsplit, hname, rfl⟩
    have hguard : guard ((!(trim name).isEmpty) = true) = some () := by
      obtain ⟨c, rest, htrim⟩ := List.exists_cons_of_ne_nil hname
      rw [htrim]
      rfl
    exact Option.bind_eq_some_iff.mpr
      ⟨(name, value), hsplit, Option.bind_eq_some_iff.mpr ⟨(), hguard, rfl⟩⟩

/-- What is read of a piece without semicolons is readable. -/
theorem readable_of_readDeclaration {s : List Char} {d : String × String} (hs : ';' ∉ s)
    (h : readDeclaration s = some d) : Readable d := by
  obtain ⟨name, value, hsplit, hname, rfl⟩ := readDeclaration_eq_some_iff.mp h
  obtain ⟨rfl, hcolon⟩ := splitOnce_eq_some_iff.mp hsplit
  obtain ⟨hnameSemicolon, hvalueSemicolon⟩ : ';' ∉ name ∧ ';' ∉ value := by simpa using hs
  constructor
  · simpa using hname
  · simp [trim_trim]
  · simpa using fun hmem => hcolon (mem_of_mem_trim hmem)
  · simpa using fun hmem => hnameSemicolon (mem_of_mem_trim hmem)
  · simp [trim_trim]
  · simpa using fun hmem => hvalueSemicolon (mem_of_mem_trim hmem)

/-- Every declaration that is read from a text is readable. -/
theorem every_readable_parse (s : List Char) : (parse s).Every Readable := by
  refine Every.ofPairs fun d hd => ?_
  obtain ⟨piece, hpiece, hread⟩ := List.mem_filterMap.mp hd
  exact readable_of_readDeclaration (notMem_of_mem_splitAt hpiece) hread

/-! ## Reading what was written -/

namespace Readable

variable {d l : String × String} {ds : List (String × String)} {lead : List Char}

/-- White space before a declaration, and that after its colon, is trimmed away again. -/
theorem readDeclaration_written (hd : Readable d) (hlead : blank lead) :
    readDeclaration (lead ++ writtenDeclaration d) = some d := by
  have hcolon : ':' ∉ lead ++ d.1.toList := by
    rw [List.mem_append, not_or]
    exact ⟨fun h => absurd (List.all_eq_true.mp hlead _ h) (by decide), hd.name_colon⟩
  have hsplit : splitOnce (· == ':') (lead ++ writtenDeclaration d) =
      some (lead ++ d.1.toList, ' ' :: d.2.toList) :=
    splitOnce_eq_some_iff.mpr ⟨by simp [writtenDeclaration], hcolon⟩
  have hname : trim (lead ++ d.1.toList) = d.1.toList := by
    rw [CssRules.trim_append hlead, hd.name_trimmed]
  have hvalue : trim (' ' :: d.2.toList) = d.2.toList := by
    rw [← List.singleton_append, CssRules.trim_append (by decide), hd.value_trimmed]
  refine readDeclaration_eq_some_iff.mpr ⟨_, _, hsplit, ?_, ?_⟩
  · rw [hname]
    exact hd.name_ne
  · simp [hname, hvalue]

theorem semicolon_notMem (hd : Readable d) (hlead : blank lead) :
    ';' ∉ lead ++ writtenDeclaration d := by
  have hblank : ';' ∉ lead := fun h => absurd (List.all_eq_true.mp hlead _ h) (by decide)
  simp [writtenDeclaration, hblank, hd.name_semicolon, hd.value_semicolon]

/-- **A row of declarations** is divided where it was put together.  Each declaration but the
first has the blank before it that parts it from the one before. -/
theorem filterMap_readDeclaration_row (hds : ∀ d ∈ ds, Readable d) (hl : Readable l)
    (hlead : blank lead) :
    (splitAt (· == ';')
      (lead ++ (ds.flatMap followedDeclaration ++ writtenDeclaration l))).filterMap
      readDeclaration = ds ++ [l] := by
  induction ds generalizing lead with
  | nil =>
      have hpiece := List.splitOnP_eq_singleton (p := (· == ';')) fun c hc => by
        have hne : c ≠ ';' := fun h => hl.semicolon_notMem hlead (h ▸ hc)
        simpa using hne
      rw [List.flatMap_nil, List.nil_append, splitAt_eq_splitOnP, hpiece]
      simp [hl.readDeclaration_written hlead]
  | cons d ds ih =>
      obtain ⟨hd, hds⟩ := List.forall_mem_cons.mp hds
      have hblank : blank [' '] := by decide
      have hrest := ih hds hblank
      have hfree : ∀ c ∈ lead ++ writtenDeclaration d, (c == ';') = false := fun c hc => by
        have hne : c ≠ ';' := fun h => hd.semicolon_notMem hlead (h ▸ hc)
        simpa using hne
      rw [splitAt_eq_splitOnP] at hrest ⊢
      rw [flatMap_cons_append, ← List.append_assoc,
        List.splitOnP_append_cons_of_forall_mem hfree _ (by decide),
        List.filterMap_cons_some (hd.readDeclaration_written hlead), List.cons_append]
      exact congrArg _ hrest

end Readable

/-- The declarations of a property map make it again. -/
theorem ofPairs_toList (p : Properties) : ofPairs p.toList = p := by
  have hfoldl (pairs : List (String × String)) (q : Properties) :
      pairs.foldl (fun acc d => acc.insert d.1 d.2) q = q.insertMany pairs := by
    induction pairs generalizing q with
    | nil => rw [List.foldl_nil, Std.ExtTreeMap.insertMany_nil]
    | cons d pairs ih => rw [List.foldl_cons, ih, Std.ExtTreeMap.insertMany_cons]
  rw [ofPairs, hfoldl]
  apply Std.ExtTreeMap.ext_getElem?
  intro name
  cases hvalue : p[name]? with
  | none =>
      have hkeys : (p.toList.map Prod.fst).contains name = false := by
        rw [Std.ExtTreeMap.map_fst_toList_eq_keys, List.contains_eq_mem, decide_eq_false_iff_not,
          Std.ExtTreeMap.mem_keys]
        simpa using hvalue
      rw [Std.ExtTreeMap.getElem?_insertMany_list_of_contains_eq_false hkeys,
        Std.ExtTreeMap.getElem?_empty]
  | some value =>
      exact Std.ExtTreeMap.getElem?_insertMany_list_of_mem Std.ReflCmp.compare_self
        Std.ExtTreeMap.distinct_keys_toList
        (Std.ExtTreeMap.mem_toList_iff_getElem?_eq_some.mpr hvalue)

/-- **Writing and reading back**: readable declarations are read back as they were. -/
theorem parse_write {p : Properties} (hp : p.Every Readable) : parse p.write.toList = p := by
  have hall := hp.toList
  obtain hnone | ⟨ds, l, hlast⟩ := p.toList.eq_nil_or_concat
  · obtain rfl : ∅ = p := by rw [← ofPairs_toList p, hnone, ofPairs, List.foldl_nil]
    rfl
  · rw [List.concat_eq_append] at hlast
    have hds : ∀ d ∈ ds, Readable d := fun d hd => hall d (by simp [hlast, hd])
    have hnil : blank [] := rfl
    have hrow := Readable.filterMap_readDeclaration_row hds (hall l (by simp [hlast])) hnil
    rw [List.nil_append] at hrow
    rw [parse, toList_write hlast, hrow, ← hlast, ofPairs_toList]

/-- The property maps that are read from some text are those of readable declarations. -/
theorem every_readable_iff {p : Properties} : p.Every Readable ↔ ∃ s, parse s = p := by
  constructor
  · intro hp
    exact ⟨p.write.toList, parse_write hp⟩
  · rintro ⟨s, rfl⟩
    exact every_readable_parse s

end Properties

/-! ## Compiled entries -/

/-- A text that stays a value in a row of declarations. -/
structure StandsAsValue (s : String) : Prop where
  trimmed : trimText s = s
  semicolon : ';' ∉ s.toList

theorem standsAsValue_iff (s : String) : StandsAsValue s ↔ trimText s = s ∧ ';' ∉ s.toList :=
  ⟨fun h => ⟨h.trimmed, h.semicolon⟩, fun h => ⟨h.1, h.2⟩⟩

instance : DecidablePred StandsAsValue := fun s => decidable_of_iff _ (standsAsValue_iff s).symm

theorem StandsAsValue.readable {name value : String} (hvalue : StandsAsValue value)
    (hname : Properties.Readable (name, "")) : Properties.Readable (name, value) := by
  refine { hname with value_trimmed := ?_, value_semicolon := hvalue.semicolon }
  have htrimmed := congrArg String.toList hvalue.trimmed
  rwa [trimText, String.toList_ofList] at htrimmed

/-- Every property map of the theme is read from some text. -/
structure Theme.Spelled (t : Theme) : Prop where
  base : ∃ s, Properties.parse s = t.base
  block : ∀ k, ∀ p ∈ t.block k, ∃ s, Properties.parse s = p
  inline : ∀ k, ∀ p ∈ t.inline k, ∃ s, Properties.parse s = p

theorem Theme.spelled_iff {t : Theme} : t.Spelled ↔ t.Every Properties.Readable := by
  constructor
  · rintro ⟨hbase, hblock, hinline⟩
    exact ⟨Properties.every_readable_iff.mpr hbase,
      fun k p hp => Properties.every_readable_iff.mpr (hblock k p hp),
      fun k p hp => Properties.every_readable_iff.mpr (hinline k p hp)⟩
  · rintro ⟨hbase, hblock, hinline⟩
    exact ⟨Properties.every_readable_iff.mp hbase,
      fun k p hp => Properties.every_readable_iff.mp (hblock k p hp),
      fun k p hp => Properties.every_readable_iff.mp (hinline k p hp)⟩

/-- A theme that is spelled out in texts. -/
def Theme.ofTexts (base : String) (block inline : ElementKind → Option String) : Theme where
  base := Properties.parse base.toList
  block k := (block k).map fun s => Properties.parse s.toList
  inline k := (inline k).map fun s => Properties.parse s.toList

theorem Theme.spelled_ofTexts (base : String) (block inline : ElementKind → Option String) :
    (ofTexts base block inline).Spelled := by
  have hread {entry : Option String} {p : Properties}
      (hp : p ∈ entry.map fun s => Properties.parse s.toList) : ∃ s, Properties.parse s = p := by
    obtain ⟨s, -, rfl⟩ := Option.map_eq_some_iff.mp hp
    exact ⟨s.toList, rfl⟩
  exact ⟨⟨base.toList, rfl⟩, fun k p hp => hread hp, fun k p hp => hread hp⟩

/-- **Compiled entries are read back**: for a theme whose property maps are all read from texts,
any style sheet over it, and parameters that stay values, the declarations of every kind that
has an entry are written out as a text that is read as that entry again. -/
theorem parse_declarations? {t : Theme} (ht : t.Spelled) (css : String) {params : ThemeParams}
    (hfamily : StandsAsValue params.fontFamily) (hsize : StandsAsValue params.fontSize)
    (hcolor : StandsAsValue params.primaryColor) {k : ElementKind} {p : Properties}
    (hentry : Styles.entry? ((t.withOverrides (CssRules.parse css)).compile params) k = some p) :
    ∃ written, ((t.withOverrides (CssRules.parse css)).compile params).declarations? k =
        some written ∧ Properties.parse written.toList = p := by
  have hnames : Properties.Readable ("font-family", "") ∧ Properties.Readable ("font-size", "") ∧
      Properties.Readable (primaryColorProperty, "") := by
    decide +kernel
  have hindent : Properties.Readable ("text-indent", "2em") := by decide +kernel
  have hparams : ∀ d ∈ params.declarations, Properties.Readable d := by
    simpa [ThemeParams.declarations] using ⟨hfamily.readable hnames.1,
      hsize.readable hnames.2.1, hcolor.readable hnames.2.2⟩
  have htheme : (t.withOverrides (CssRules.parse css)).Every Properties.Readable :=
    (Theme.spelled_iff.mp ht).withOverrides
      (CssRules.every_parse Properties.every_readable_parse css)
  have hp : p.Every Properties.Readable := htheme.compile hparams hindent hentry
  refine ⟨p.write, ?_, Properties.parse_write hp⟩
  rw [Styles.declarations?, hentry, Option.map_some]

/-- A theme for quotes whose values hold colons, braces and quotes, or nothing. -/
def quoteTheme : Theme :=
  .ofTexts " line-height : 1.75 ;"
    (fun k => if k = .quote none then
        some "background: url(https://a.b:80/c) ; quotes: \"\x7b\" \"\x7d\"; content:"
      else none)
    fun _ => none

/-- The quotes of such a theme, with a rule of a style sheet over it. -/
theorem parse_declarations_quoteTheme :
    quoteTheme.Spelled ∧ StandsAsValue "Fira Code, serif" ∧ StandsAsValue "14px" ∧
      StandsAsValue "#009874" ∧
      ∃ p, Styles.entry? ((quoteTheme.withOverrides (CssRules.parse
          "blockquote \x7b --a: b: c; margin : ; \x7d")).compile
          ⟨"Fira Code, serif", "14px", false, "#009874"⟩) (.quote none) = some p ∧
        ∃ written, ((quoteTheme.withOverrides (CssRules.parse
            "blockquote \x7b --a: b: c; margin : ; \x7d")).compile
            ⟨"Fira Code, serif", "14px", false, "#009874"⟩).declarations? (.quote none) =
          some written ∧ Properties.parse written.toList = p := by
  have htheme : quoteTheme.Spelled := Theme.spelled_ofTexts _ _ _
  have hfamily : StandsAsValue "Fira Code, serif" := by decide +kernel
  have hsize : StandsAsValue "14px" := by decide +kernel
  have hcolor : StandsAsValue "#009874" := by decide +kernel
  have hsome : (Styles.entry? ((quoteTheme.withOverrides (CssRules.parse
      "blockquote \x7b --a: b: c; margin : ; \x7d")).compile
      ⟨"Fira Code, serif", "14px", false, "#009874"⟩) (.quote none)).isSome := by
    decide +kernel
  obtain ⟨p, hentry⟩ := Option.isSome_iff_exists.mp hsome
  exact ⟨htheme, hfamily, hsize, hcolor, p, hentry,
    parse_declarations? htheme _ hfamily hsize hcolor hentry⟩

end Broadsheet
