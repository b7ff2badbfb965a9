import Broadsheet.Proofs.Style.Sheets
import Broadsheet.Style.Builtin
import Broadsheet.Style.ThemeFile

/-!
# Broadsheet.Proofs.Style.Layering

Layering as an algebra.  A theme whose kinds all stand in the table of their
category is its base together with one entry for each kind (`Theme.ext_entry?`),
and layering acts on each entry by itself, as `layEntry`.  So the laws of
`layEntry` carry over to whole themes, entries that hold no declaration
included: themes laid over one another are a monoid in which every theme is
idempotent, and style sheets act on it.

* `Theme.wellCategorised_ofToml` — themes that are read from files are such
  themes;
* `Theme.layering_laws` — the laws.
-/

namespace Broadsheet

namespace Theme

/-! ## Well-categorised themes -/

/-- The two parts of a reading that succeeds. -/
theorem exists_ok_of_bind {ε α β : Type} {x : Except ε α} {f : α → Except ε β} {b : β}
    (h : x >>= f = .ok b) : ∃ a, x = .ok a ∧ f a = .ok b := by
  cases x with
  | error e => exact nomatch h
  | ok a => exact ⟨a, rfl, h⟩

/-- What a run of readers gives, each of them gave. -/
theorem exists_of_mem_mapM {α β ε : Type} {f : α → Except ε β} {xs : List α} {ys : List β}
    (h : xs.mapM f = .ok ys) {y : β} (hy : y ∈ ys) : ∃ x ∈ xs, f x = .ok y := by
  induction xs generalizing ys with
  | nil =>
      cases h
      simp at hy
  | cons x xs ih =>
      rw [List.mapM_cons] at h
      obtain ⟨z, hz, h⟩ := exists_ok_of_bind h
      obtain ⟨zs, hzs, h⟩ := exists_ok_of_bind h
      obtain rfl : z :: zs = ys := Except.ok.inj h
      obtain rfl | hy := List.mem_cons.mp hy
      · exact ⟨x, List.mem_cons_self, hz⟩
      · obtain ⟨x', hx', hf⟩ := ih hzs hy
        exact ⟨x', List.mem_cons_of_mem x hx', hf⟩

theorem category_of_kindInTable {c : Category} {name : String} {k : ElementKind}
    (h : kindInTable c name = .ok k) : k.category = c := by
  rw [kindInTable] at h
  split at h
  · cases h
  · split at h
    · next hc =>
        cases h
        exact hc
    · cases h

/-- A theme file is refused if a kind does not stand in the table of its category. -/
theorem category_of_tableOfNamed {c : Category} {named : List (String × Properties)}
    {t : KindTable} (h : tableOfNamed c named = .ok t) (k : ElementKind) (hk : (t k).isSome) :
    k.category = c := by
  obtain ⟨entries, hentries, h⟩ := exists_ok_of_bind h
  obtain rfl : KindTable.ofEntries entries = t := Except.ok.inj h
  obtain ⟨e, he, rfl⟩ := KindTable.exists_mem_of_isSome hk
  obtain ⟨⟨name, props⟩, -, hread⟩ := exists_of_mem_mapM hentries he
  obtain ⟨k, hkind, hpair⟩ := exists_ok_of_bind hread
  obtain rfl : (k, props) = e := Except.ok.inj hpair
  exact category_of_kindInTable hkind

/-- Theme files give well-categorised themes. -/
theorem wellCategorised_ofToml {source : String} {t : Theme} (h : ofToml source = .ok t) :
    t.WellCategorised := by
  rw [ofToml] at h
  split at h
  · cases h
  · obtain ⟨base, -, h⟩ := exists_ok_of_bind h
    obtain ⟨block, -, h⟩ := exists_ok_of_bind h
    obtain ⟨inline, -, h⟩ := exists_ok_of_bind h
    obtain ⟨blockTable, hblock, h⟩ := exists_ok_of_bind h
    obtain ⟨inlineTable, hinline, h⟩ := exists_ok_of_bind h
    obtain rfl : Theme.mk base blockTable inlineTable = t := Except.ok.inj h
    exact ⟨category_of_tableOfNamed hblock, category_of_tableOfNamed hinline⟩

theorem wellCategorised_empty : empty.WellCategorised :=
  ⟨fun _ h => by simp [empty, KindTable.empty] at h,
    fun _ h => by simp [empty, KindTable.empty] at h⟩

@[simp] theorem entry?_empty (k : ElementKind) : Theme.entry? empty k = none := by
  cases hk : k.category <;> simp [Theme.entry?, table, hk, empty, KindTable.empty]

/-- Entries are laid over kinds of one category only. -/
theorem category_of_isSome_layTable {c : Category} {t : KindTable}
    (ht : ∀ k, (t k).isSome → k.category = c) (add : ElementKind → Option Properties)
    (k : ElementKind) (hk : (layTable c t add k).isSome) : k.category = c := by
  by_cases hc : k.category = c
  · exact hc
  · rw [layTable, if_neg hc] at hk
    exact ht k hk

theorem WellCategorised.lay {t : Theme} (ht : t.WellCategorised)
    (add : ElementKind → Option Properties) : (t.lay add).WellCategorised :=
  ⟨category_of_isSome_layTable ht.block add, category_of_isSome_layTable ht.inline add⟩

theorem WellCategorised.overlay {t : Theme} (ht : t.WellCategorised) (upper : Theme) :
    (t.overlay upper).WellCategorised :=
  ⟨((ht.lay upper.block).lay upper.inline).block, ((ht.lay upper.block).lay upper.inline).inline⟩

theorem WellCategorised.withOverrides {t : Theme} (ht : t.WellCategorised) (rules : CssRules) :
    (t.withOverrides rules).WellCategorised := ht.lay _

/-- A table of one category has nothing under the kinds of the other. -/
theorem WellCategorised.table_apply {t : Theme} (ht : t.WellCategorised) (c : Category)
    (k : ElementKind) : t.table c k = if k.category = c then t.entry? k else none := by
  split
  · next h => rw [Theme.entry?, h]
  · next h =>
      rw [← Option.not_isSome_iff_eq_none]
      cases c with
      | block => exact fun hk => h (ht.block k hk)
      | inline => exact fun hk => h (ht.inline k hk)

/-- A well-categorised theme is its base and its entries. -/
theorem ext_entry? {t u : Theme} (ht : t.WellCategorised) (hu : u.WellCategorised)
    (hbase : t.base = u.base) (hentry : ∀ k, t.entry? k = u.entry? k) : t = u := by
  have htable (c : Category) : t.table c = u.table c := by
    funext k
    rw [ht.table_apply, hu.table_apply, hentry]
  have hblock : t.block = u.block := htable .block
  have hinline : t.inline = u.inline := htable .inline
  cases t
  cases u
  cases hbase
  cases hblock
  cases hinline
  rfl

/-! ## The laws -/

/-- What a style sheet over another one says of a kind. -/
theorem userRule_overlay (lower upper : CssRules) (k : ElementKind) :
    userRule (CssRules.overlay lower upper) k = layEntry (userRule lower k) (userRule upper k) := by
  rw [userRule, userRule, userRule]
  split
  · exact CssRules.getElem?_overlay lower upper k.name
  · rfl

theorem entry?_withOverrides (t : Theme) (rules : CssRules) (k : ElementKind) :
    Theme.entry? (t.withOverrides rules) k = layEntry (t.entry? k) (userRule rules k) :=
  entry?_lay t _ k

theorem base_overlay (t upper : Theme) : (t.overlay upper).base = t.base.overlay upper.base := rfl

variable {t u v : Theme} (ht : t.WellCategorised) (hu : u.WellCategorised)
  (hv : v.WellCategorised)

include ht hu hv in
theorem overlay_assoc : (t.overlay u).overlay v = t.overlay (u.overlay v) := by
  refine ext_entry? ((ht.overlay u).overlay v) (ht.overlay _) ?_ fun k => ?_
  · simp only [base_overlay, Properties.overlay_assoc]
  · rw [entry?_overlay _ hv, entry?_overlay _ hu, entry?_overlay _ (hu.overlay v),
      entry?_overlay _ hv, layEntry_assoc]

include ht in
theorem empty_overlay : empty.overlay t = t := by
  refine ext_entry? (wellCategorised_empty.overlay t) ht ?_ fun k => ?_
  · rw [base_overlay]
    exact Properties.empty_overlay t.base
  · rw [entry?_overlay _ ht, entry?_empty, layEntry_none_left]

include ht in
theorem overlay_empty : t.overlay empty = t := by
  refine ext_entry? (ht.overlay empty) ht ?_ fun k => ?_
  · rw [base_overlay]
    exact Properties.overlay_empty t.base
  · rw [entry?_overlay _ wellCategorised_empty, entry?_empty]
    rfl

include ht in
theorem overlay_self : t.overlay t = t := by
  refine ext_entry? (ht.overlay t) ht ?_ fun k => ?_
  · rw [base_overlay, Properties.overlay_self]
  · rw [entry?_overlay _ ht, layEntry_self]

include ht hu in
/-- A style sheet over two themes is one over the upper of them. -/
theorem overlay_withOverrides (rules : CssRules) :
    (t.overlay u).withOverrides rules = t.overlay (u.withOverrides rules) := by
  refine ext_entry? ((ht.overlay u).withOverrides rules) (ht.overlay _) rfl fun k => ?_
  rw [entry?_withOverrides, entry?_overlay _ hu, entry?_overlay _ (hu.withOverrides rules),
    entry?_withOverrides, layEntry_assoc]

include ht in
/-- Two style sheets one after the other are one style sheet. -/
theorem withOverrides_withOverrides (lower upper : CssRules) :
    (t.withOverrides lower).withOverrides upper =
      t.withOverrides (CssRules.overlay lower upper) := by
  refine ext_entry? ((ht.withOverrides lower).withOverrides upper) (ht.withOverrides _) rfl
    fun k => ?_
  rw [entry?_withOverrides, entry?_withOverrides, entry?_withOverrides, userRule_overlay,
    layEntry_assoc]

include ht hu hv in
/-- **Layering is an algebra**: laying well-categorised themes over one another
is associative, has the theme that says nothing as its identity on both sides,
and changes nothing where a theme is laid over itself.  A style sheet over two
themes is one over the upper of them, and two style sheets one after the other
are the one over the other.  The equations are of whole themes. -/
theorem layering_laws (lower upper : CssRules) :
    (t.overlay u).overlay v = t.overlay (u.overlay v) ∧
      empty.overlay t = t ∧ t.overlay empty = t ∧ t.overlay t = t ∧
      (t.overlay u).withOverrides lower = t.overlay (u.withOverrides lower) ∧
      (t.withOverrides lower).withOverrides upper =
        t.withOverrides (CssRules.overlay lower upper) :=
  ⟨overlay_assoc ht hu hv, empty_overlay ht, overlay_empty ht, overlay_self ht,
    overlay_withOverrides ht hu lower, withOverrides_withOverrides ht lower upper⟩

/-- A theme file with an entry that holds nothing. -/
def bareTheme : String := "[base]\ncolor = \"black\"\n[block.p]\n[inline.em]\ncolor = \"red\"\n"

/-- A theme file that says more of paragraphs. -/
def linedTheme : String := "[block.p]\nmargin = \"0\"\n[inline.strong]\n"

/-- Rules for paragraphs, and for what style sheets may not restyle. -/
def redRules : CssRules := CssRules.parse "p \x7b color: red \x7d em \x7b margin: 0 \x7d"

/-- Another color for paragraphs. -/
def blueRules : CssRules := CssRules.parse "p \x7b color: blue \x7d"

/-- The themes of the two files and the built-in one, under two style sheets. -/
theorem bareTheme_layering_laws :
    ∃ t u, ofToml bareTheme = .ok t ∧ ofToml linedTheme = .ok u ∧
      t.WellCategorised ∧ u.WellCategorised ∧ classic.WellCategorised ∧
      (t.overlay u).overlay classic = t.overlay (u.overlay classic) ∧
      empty.overlay t = t ∧ t.overlay empty = t ∧ t.overlay t = t ∧
      (t.overlay u).withOverrides redRules = t.overlay (u.withOverrides redRules) ∧
      (t.withOverrides redRules).withOverrides blueRules =
        t.withOverrides (CssRules.overlay redRules blueRules) := by
  have hread (source : String) (h : (ofToml source).toBool = true) :
      ∃ t, ofToml source = .ok t := by
    cases hs : ofToml source with
    | error e => simp [hs, Except.toBool] at h
    | ok t => exact ⟨t, rfl⟩
  obtain ⟨t, ht⟩ := hread bareTheme (by decide +kernel)
  obtain ⟨u, hu⟩ := hread linedTheme (by decide +kernel)
  have hclassic : classic.WellCategorised := wellCategorised_ofLists (by decide) (by decide)
  exact ⟨t, u, ht, hu, wellCategorised_ofToml ht, wellCategorised_ofToml hu, hclassic,
    layering_laws (wellCategorised_ofToml ht) (wellCategorised_ofToml hu) hclassic
      redRules blueRules⟩

end Theme

end Broadsheet
