import Broadsheet.Style.Builtin
import Broadsheet.Style.Compile

/-!
# Broadsheet.Proofs.Style.Cascade

Which declaration of a property wins.  A theme is laid over in turn by other
themes, by a user's style sheet, by the parameters of a rendering and by the
kinds that inherit from one another, and each of these merges property maps in a
function of its own.  `StyleSources.cascade` lists the layers of a kind instead,
the topmost first, and a property has its value from the first layer that
defines it.

* `IsStack` — an entry of a theme is a stack of layers: it is there if there is
  a layer, and looks properties up from the top;
* `isStack_overlays`, `isStack_withOverrides` — what overlays and style sheets
  put on the stack of a kind;
* `compile_cascade` — the compiled entry of every kind.
-/

namespace Broadsheet

/-! ## Stacks of layers -/

namespace Properties

theorem getElem?_overlay (lower upper : Properties) (name : String) :
    (lower.overlay upper)[name]? = upper[name]?.or lower[name]? :=
  Std.ExtTreeMap.getElem?_union

@[simp] theorem overlay_empty (a : Properties) : overlay a ∅ = a := by
  apply Std.ExtTreeMap.ext_getElem?
  intro name
  simp [getElem?_overlay]

theorem overlay_insert (lower upper : Properties) (name value : String) :
    lower.overlay (upper.insert name value) = (lower.overlay upper).insert name value := by
  apply Std.ExtTreeMap.ext_getElem?
  intro other
  simp only [getElem?_overlay, Std.ExtTreeMap.getElem?_insert]
  split
  · rfl
  · rfl

/-- Declarations laid over others are inserted one after another. -/
theorem overlay_ofPairs (lower : Properties) (pairs : List (String × String)) :
    lower.overlay (ofPairs pairs) = pairs.foldl (fun acc p => acc.insert p.1 p.2) lower := by
  have hfoldl (upper : Properties) :
      lower.overlay (pairs.foldl (fun acc p => acc.insert p.1 p.2) upper) =
        pairs.foldl (fun acc p => acc.insert p.1 p.2) (lower.overlay upper) := by
    induction pairs generalizing upper with
    | nil => rfl
    | cons p pairs ih => rw [List.foldl_cons, List.foldl_cons, ih, overlay_insert]
  rw [ofPairs, hfoldl, overlay_empty]

/-- The value of a property in the first layer that defines it. -/
def firstValue (layers : List Properties) (name : String) : Option String :=
  layers.findSome? fun layer => layer[name]?

@[simp] theorem firstValue_nil (name : String) : firstValue [] name = none := rfl

theorem firstValue_cons (layer : Properties) (layers : List Properties) (name : String) :
    firstValue (layer :: layers) name = layer[name]?.or (firstValue layers name) := by
  rw [firstValue, List.findSome?_cons]
  cases layer[name]? <;> rfl

theorem firstValue_append (upper lower : List Properties) (name : String) :
    firstValue (upper ++ lower) name = (firstValue upper name).or (firstValue lower name) :=
  List.findSome?_append

end Properties

open Properties (firstValue firstValue_cons firstValue_append getElem?_overlay)

/-- An entry that came about by laying the given layers over one another, the
topmost first. -/
structure IsStack (entry : Option Properties) (layers : List Properties) : Prop where
  isSome_iff : entry.isSome ↔ layers ≠ []
  getElem? : ∀ name, (entry.getD ∅)[name]? = firstValue layers name

namespace IsStack

variable {entry upper : Option Properties} {layers : List Properties}

/-- An entry is one layer, or none. -/
theorem toList (entry : Option Properties) : IsStack entry entry.toList := by
  cases entry with
  | none => exact ⟨by simp, fun name => by simp⟩
  | some props => exact ⟨by simp, fun name => by simp [firstValue_cons]⟩

/-- Something laid over an entry is one more layer, also where it is empty. -/
theorem layEntry (h : IsStack entry layers) (upper : Option Properties) :
    IsStack (layEntry entry upper) (upper.toList ++ layers) := by
  cases upper with
  | none => exact h
  | some props =>
      refine ⟨by simp [Broadsheet.layEntry], fun name => ?_⟩
      rw [Broadsheet.layEntry, Option.getD_some, getElem?_overlay, h.getElem?]
      exact (firstValue_cons props layers name).symm

end IsStack

/-! ## Themes laid over a theme -/

/-- What a table of listed entries holds was listed. -/
theorem KindTable.exists_mem_of_isSome {entries : List (ElementKind × Properties)}
    {k : ElementKind} (h : (ofEntries entries k).isSome) : ∃ e ∈ entries, e.1 = k := by
  rw [ofEntries, Option.isSome_map, List.find?_isSome] at h
  obtain ⟨found, hfound, hk⟩ := h
  exact ⟨found, List.mem_reverse.mp hfound, by simpa using hk⟩

namespace Theme

/-- Whether every kind stands in the table of its category. -/
structure WellCategorised (t : Theme) : Prop where
  block : ∀ k, (t.block k).isSome → k.category = .block
  inline : ∀ k, (t.inline k).isSome → k.category = .inline

/-- Lists that name the kinds of their tables give a well-categorised theme. -/
theorem wellCategorised_ofLists {base : List (String × String)}
    {block inline : List (ElementKind × List (String × String))}
    (hblock : ∀ e ∈ block, e.1.category = .block)
    (hinline : ∀ e ∈ inline, e.1.category = .inline) :
    (ofLists base block inline).WellCategorised := by
  have hlisted {entries : List (ElementKind × List (String × String))} {k : ElementKind}
      (h : (KindTable.ofEntries (entries.map fun e => (e.1, Properties.ofPairs e.2)) k).isSome) :
      ∃ e ∈ entries, e.1 = k := by
    obtain ⟨found, hfound, rfl⟩ := KindTable.exists_mem_of_isSome h
    obtain ⟨e, he, rfl⟩ := List.mem_map.mp hfound
    exact ⟨e, he, rfl⟩
  refine ⟨fun k hk => ?_, fun k hk => ?_⟩
  · obtain ⟨e, he, rfl⟩ := hlisted hk
    exact hblock e he
  · obtain ⟨e, he, rfl⟩ := hlisted hk
    exact hinline e he

theorem entry?_lay (t : Theme) (add : ElementKind → Option Properties) (k : ElementKind) :
    Theme.entry? (t.lay add) k = layEntry (t.entry? k) (add k) := by
  cases hk : k.category <;> simp [Theme.entry?, lay, table, layTable, hk]

/-- What a well-categorised theme lays over a kind is its entry for the kind. -/
theorem entry?_overlay (t : Theme) {upper : Theme} (hupper : upper.WellCategorised)
    (k : ElementKind) :
    Theme.entry? (t.overlay upper) k = layEntry (t.entry? k) (upper.entry? k) := by
  have hbase : Theme.entry? (t.overlay upper) k =
      Theme.entry? ((t.lay upper.block).lay upper.inline) k := rfl
  rw [hbase, entry?_lay, entry?_lay]
  cases hk : k.category with
  | block =>
      have hinline : upper.inline k = none := by
        rw [← Option.not_isSome_iff_eq_none]
        exact fun h => by simp [hupper.inline k h] at hk
      simp [Theme.entry?, table, hk, hinline, layEntry]
  | inline =>
      have hblock : upper.block k = none := by
        rw [← Option.not_isSome_iff_eq_none]
        exact fun h => by simp [hupper.block k h] at hk
      simp [Theme.entry?, table, hk, hblock, layEntry]

/-- The entries of a kind in some themes, in their order. -/
def entriesOf (k : ElementKind) (themes : List Theme) : List Properties :=
  themes.filterMap fun t => t.entry? k

theorem entriesOf_append (k : ElementKind) (upper lower : List Theme) :
    entriesOf k (upper ++ lower) = entriesOf k upper ++ entriesOf k lower :=
  List.filterMap_append

theorem entriesOf_singleton (k : ElementKind) (t : Theme) :
    entriesOf k [t] = (t.entry? k).toList := by
  cases h : t.entry? k <;> simp [entriesOf, h]

theorem isStack_overlays (k : ElementKind) {os : List Theme}
    (hos : ∀ o ∈ os, o.WellCategorised) {t : Theme} {layers : List Properties}
    (ht : IsStack (t.entry? k) layers) :
    IsStack (Theme.entry? (os.foldl overlay t) k) (entriesOf k os.reverse ++ layers) := by
  induction os generalizing t layers with
  | nil => exact ht
  | cons o os ih =>
      have ho : IsStack (Theme.entry? (t.overlay o) k) ((o.entry? k).toList ++ layers) := by
        rw [entry?_overlay t (hos o List.mem_cons_self)]
        exact ht.layEntry _
      have h := ih (fun o' ho' => hos o' (List.mem_cons_of_mem o ho')) ho
      rwa [List.reverse_cons, entriesOf_append, entriesOf_singleton, List.append_assoc]

/-- The base declarations of overlays, the last overlay on top. -/
theorem base_overlays (os : List Theme) (t : Theme) (name : String) :
    (os.foldl overlay t).base[name]? = firstValue ((os.reverse ++ [t]).map base) name := by
  induction os generalizing t with
  | nil => simp [firstValue_cons]
  | cons o os ih =>
      have hbase : (t.overlay o).base = t.base.overlay o.base := rfl
      rw [List.foldl_cons, ih, List.map_append, firstValue_append, List.map_singleton, hbase,
        firstValue_cons, getElem?_overlay]
      simp [firstValue_append, firstValue_cons]

end Theme

/-! ## What a kind is styled from -/

/-- A theme, the themes that are laid over it in turn, a user's style sheet over
these, and the parameters of a rendering. -/
structure StyleSources where
  theme : Theme
  overlays : List Theme
  rules : CssRules
  params : ThemeParams

namespace StyleSources

variable (s : StyleSources)

/-- The theme with the others over it. -/
def merged : Theme := s.overlays.foldl Theme.overlay s.theme

/-- The theme that all of them make together. -/
def layered : Theme := s.merged.withOverrides s.rules

/-- The themes, the last overlay first. -/
def themes : List Theme := s.overlays.reverse ++ [s.theme]

/-- The layers that mention a kind, the topmost first: the user's rule if users
may restyle the kind, the overlays from the last to the first, and the theme. -/
def layers (k : ElementKind) : List Properties :=
  (Theme.userRule s.rules k).toList ++ Theme.entriesOf k s.themes

/-- Indented paragraphs have an indent below all that mentions them. -/
def indent (k : ElementKind) : List Properties :=
  if k = .paragraph ∧ s.params.useIndent then [Properties.ofPairs [("text-indent", "2em")]] else []

/-- The parameters of the rendering as declarations. -/
def dynamic : Properties :=
  Properties.ofPairs
    [("font-family", s.params.fontFamily), ("font-size", s.params.fontSize),
      ("--md-primary-color", s.params.primaryColor)]

/-- Every layer of a kind, the topmost first. -/
def cascade (k : ElementKind) : List Properties :=
  s.layers k ++ s.indent k ++ (k.familyRoot.elim [] s.layers) ++ [s.dynamic] ++
    s.themes.map Theme.base

/-- Whether a kind is mentioned at all. -/
def Mentions (k : ElementKind) : Prop :=
  (s.theme.entry? k).isSome ∨ (∃ o ∈ s.overlays, (o.entry? k).isSome) ∨
    k.acceptsUserCss ∧ k.name ∈ s.rules

variable {s}

theorem mentions_iff (k : ElementKind) : s.Mentions k ↔ s.layers k ≠ [] := by
  have hrule : Theme.userRule s.rules k = none ↔ ¬ (k.acceptsUserCss ∧ k.name ∈ s.rules) := by
    simp [Theme.userRule, Decidable.imp_iff_not_or]
  have hthemes : Theme.entriesOf k s.themes = [] ↔
      s.theme.entry? k = none ∧ ∀ o ∈ s.overlays, o.entry? k = none := by
    simp [Theme.entriesOf, themes, and_comm]
  rw [Mentions, layers, ne_eq, List.append_eq_nil_iff, Option.toList_eq_nil_iff, hrule, hthemes]
  simp only [← Option.not_isSome_iff_eq_none]
  grind

/-- The entry of a kind before compilation. -/
theorem isStack_withOverrides (hoverlays : ∀ o ∈ s.overlays, o.WellCategorised)
    (k : ElementKind) : IsStack (s.layered.entry? k) (s.layers k) := by
  have hthemes : IsStack (s.merged.entry? k)
      (Theme.entriesOf k s.themes) := by
    rw [themes, Theme.entriesOf_append, Theme.entriesOf_singleton]
    exact Theme.isStack_overlays k hoverlays (IsStack.toList _)
  rw [layered, Theme.withOverrides, Theme.entry?_lay]
  exact hthemes.layEntry (Theme.userRule s.rules k)

/-- A kind's own declarations in compilation. -/
theorem isStack_ownDeclarations (hoverlays : ∀ o ∈ s.overlays, o.WellCategorised)
    (k : ElementKind) :
    IsStack (s.layered.ownDeclarations s.params.useIndent k) (s.layers k ++ s.indent k) := by
  have hentry := isStack_withOverrides hoverlays k
  by_cases hindent : k = .paragraph ∧ s.params.useIndent
  · rw [Theme.ownDeclarations, indent, if_pos hindent, if_pos hindent]
    refine ⟨by simp, fun name => ?_⟩
    rw [Option.getD_some, getElem?_overlay, hentry.getElem?, firstValue_append, firstValue_cons]
    simp
  · rwa [Theme.ownDeclarations, indent, if_neg hindent, if_neg hindent, List.append_nil]

/-- The declarations of the kind's family root, if it has one. -/
theorem isStack_familyRoot (hoverlays : ∀ o ∈ s.overlays, o.WellCategorised) (k : ElementKind) :
    IsStack (k.familyRoot.bind s.layered.entry?) (k.familyRoot.elim [] s.layers) := by
  cases k.familyRoot with
  | none => exact IsStack.toList none
  | some root => exact isStack_withOverrides hoverlays root

/-- The base with the parameters over it. -/
theorem baseWith_layered (name : String) :
    (s.layered.baseWith s.params)[name]? =
      firstValue ([s.dynamic] ++ s.themes.map Theme.base) name := by
  have hdynamic : s.layered.baseWith s.params = s.layered.base.overlay s.dynamic := by
    rw [dynamic, Properties.overlay_ofPairs]
    rfl
  have hbase : s.layered.base = s.merged.base := rfl
  rw [hdynamic, getElem?_overlay, hbase, merged, Theme.base_overlays, List.singleton_append,
    firstValue_cons]
  rfl

end StyleSources

/-! ## The compiled entry -/

namespace Theme

theorem isSome_compile (t : Theme) (params : ThemeParams) (k : ElementKind) :
    (Styles.entry? (t.compile params) k).isSome ↔
      (t.ownDeclarations params.useIndent k).isSome ∨ (k.familyRoot.bind t.entry?).isSome := by
  simp only [compile]
  cases t.ownDeclarations params.useIndent k <;> cases k.familyRoot.bind t.entry? <;> simp

/-- An entry is the base, then the family root's declarations, then the kind's. -/
theorem eq_of_compile {t : Theme} {params : ThemeParams} {k : ElementKind} {props : Properties}
    (h : Styles.entry? (t.compile params) k = some props) :
    props = ((t.baseWith params).overlay ((k.familyRoot.bind t.entry?).getD ∅)).overlay
      ((t.ownDeclarations params.useIndent k).getD ∅) := by
  simp only [compile] at h
  split at h
  · contradiction
  · exact (Option.some.inj h).symm

end Theme

namespace StyleSources

variable {s : StyleSources} {k : ElementKind}

theorem exists_root_mentions_iff :
    (∃ root, k.familyRoot = some root ∧ s.Mentions root) ↔ k.familyRoot.elim [] s.layers ≠ [] := by
  cases k.familyRoot with
  | none => simp
  | some root => simp [mentions_iff]

/-- Kinds that users may not restyle inherit from no kind. -/
theorem familyRoot_of_not_accepts (hk : k.acceptsUserCss = false) : k.familyRoot = none := by
  cases k <;> simp_all [ElementKind.acceptsUserCss, ElementKind.familyRoot]

/-- A style sheet passes over the kinds that users may not restyle. -/
theorem compile_of_not_accepts (hk : k.acceptsUserCss = false) :
    Styles.entry? (s.layered.compile s.params) k =
      Styles.entry? (s.merged.compile s.params) k := by
  have hentry : s.layered.entry? k = s.merged.entry? k := by
    simp [layered, Theme.withOverrides, Theme.entry?_lay, Theme.userRule, hk, layEntry]
  have hbase : s.layered.baseWith s.params =
      s.merged.baseWith s.params := rfl
  simp [Theme.compile, Theme.ownDeclarations, familyRoot_of_not_accepts hk, hentry, hbase]

end StyleSources

/-- **The cascade**: a kind has a compiled entry exactly if it or its family
root is mentioned, or if it is the indented paragraph.  The entry gives every
property the value of the first layer that defines it: the kind's own layers,
with the indent of paragraphs lowest among them, those of its family root, the
parameters of the rendering, and the bases of the themes.  Style sheets change
neither the entries of kinds that users may not restyle nor the base. -/
theorem compile_cascade (s : StyleSources) (hoverlays : ∀ o ∈ s.overlays, o.WellCategorised)
    (k : ElementKind) :
    ((Styles.entry? (s.layered.compile s.params) k).isSome ↔
        s.Mentions k ∨ (∃ root, k.familyRoot = some root ∧ s.Mentions root) ∨
          k = .paragraph ∧ s.params.useIndent) ∧
      (∀ props, Styles.entry? (s.layered.compile s.params) k = some props →
        ∀ name, props[name]? = firstValue (s.cascade k) name) ∧
      (k.acceptsUserCss = false →
        Styles.entry? (s.layered.compile s.params) k =
          Styles.entry? (s.merged.compile s.params) k) ∧
      s.layered.base = s.merged.base := by
  have hown := StyleSources.isStack_ownDeclarations hoverlays k
  have hroot := StyleSources.isStack_familyRoot hoverlays k
  refine ⟨?_, ?_, ?_, rfl⟩
  · rw [Theme.isSome_compile, hown.isSome_iff, hroot.isSome_iff, StyleSources.mentions_iff,
      StyleSources.exists_root_mentions_iff, ne_eq, List.append_eq_nil_iff, StyleSources.indent]
    grind
  · intro props hprops name
    rw [Theme.eq_of_compile hprops, getElem?_overlay, getElem?_overlay, hown.getElem?,
      hroot.getElem?, StyleSources.baseWith_layered, ← firstValue_append, ← firstValue_append]
    simp [StyleSources.cascade]
  · exact StyleSources.compile_of_not_accepts

/-- Sources for alerts of one kind, with an overlay that mentions them without
saying anything, and a rule for tables, which users may not restyle. -/
def warningSources : StyleSources where
  theme := .ofLists [("color", "black")]
    [(.quote none, [("padding", "1em"), ("color", "gray")])] []
  overlays := [.ofLists [("line-height", "2")] [(.quote (some .warning), [])] []]
  rules := CssRules.parse "table \x7b color: red \x7d blockquote \x7b color: blue \x7d"
  params := ⟨"serif", "14px", true, "#000"⟩

/-- The alert takes its color from the user's rule for quotes, its padding from
the theme's entry for quotes, and its line height from the overlay's base. -/
theorem warningSources_cascade :
    (∀ o ∈ warningSources.overlays, o.WellCategorised) ∧
      ∃ props,
        Styles.entry? (warningSources.layered.compile warningSources.params)
            (.quote (some .warning)) = some props ∧
          props["color"]? = some "blue" ∧ props["padding"]? = some "1em" ∧
          props["line-height"]? = some "2" ∧ props["text-indent"]? = none := by
  have hoverlays : ∀ o ∈ warningSources.overlays, o.WellCategorised := by
    simp only [warningSources, List.forall_mem_singleton]
    exact Theme.wellCategorised_ofLists (by decide) (by decide)
  obtain ⟨hexists, hvalue, -, -⟩ :=
    compile_cascade warningSources hoverlays (.quote (some .warning))
  have hmentioned : warningSources.Mentions (.quote (some .warning)) :=
    .inr (.inl ⟨_, List.mem_cons_self, by decide⟩)
  obtain ⟨props, hprops⟩ := Option.isSome_iff_exists.mp (hexists.mpr (.inl hmentioned))
  have hvalues := hvalue props hprops
  refine ⟨hoverlays, props, hprops, ?_, ?_, ?_, ?_⟩
  · exact (hvalues "color").trans (by decide +kernel)
  · exact (hvalues "padding").trans (by decide +kernel)
  · exact (hvalues "line-height").trans (by decide +kernel)
  · exact (hvalues "text-indent").trans (by decide +kernel)

end Broadsheet
