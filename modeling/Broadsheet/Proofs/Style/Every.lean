import Broadsheet.Proofs.Style.Cascade

/-!
# Broadsheet.Proofs.Style.Every

What holds of every declaration of a theme.  Layering and compiling make no
declarations: each one of a compiled entry comes from a table of the theme, from
a style sheet over it, from the parameters of the rendering, or is the indent of
paragraphs.  So what holds of all of these holds of the entry
(`Theme.Every.compile`), whatever `P` it is.
-/

namespace Broadsheet

variable {P : String × String → Prop}

/-! ## Property maps -/

namespace Properties

/-- `P` holds of every declaration. -/
def Every (P : String × String → Prop) (p : Properties) : Prop :=
  ∀ name value, p[name]? = some value → P (name, value)

namespace Every

variable {p lower upper : Properties}

theorem empty : Every P ∅ := fun name value h => by simp at h

/-- One declaration more. -/
theorem insert (hp : p.Every P) {name value : String} (h : P (name, value)) :
    Every P (p.insert name value) := by
  intro name' value' hvalue
  rw [Std.ExtTreeMap.getElem?_insert] at hvalue
  split at hvalue
  · next heq =>
      obtain rfl : name = name' := by simpa using heq
      obtain rfl : value = value' := by simpa using hvalue
      exact h
  · exact hp name' value' hvalue

theorem overlay (hlower : lower.Every P) (hupper : upper.Every P) :
    (lower.overlay upper).Every P := by
  intro name value h
  rw [getElem?_overlay, Option.or_eq_some_iff] at h
  obtain h | ⟨-, h⟩ := h
  · exact hupper name value h
  · exact hlower name value h

/-- What holds of listed declarations holds of the map that they make. -/
theorem ofPairs {pairs : List (String × String)} (h : ∀ d ∈ pairs, P d) :
    (ofPairs pairs).Every P := by
  have hfoldl (p : Properties) (hp : p.Every P) :
      Every P (pairs.foldl (fun acc d => acc.insert d.1 d.2) p) := by
    induction pairs generalizing p with
    | nil => exact hp
    | cons d pairs ih =>
        obtain ⟨hd, hpairs⟩ := List.forall_mem_cons.mp h
        exact ih hpairs _ (hp.insert hd)
  exact hfoldl ∅ empty

theorem getD {entry : Option Properties} (h : ∀ p ∈ entry, p.Every P) :
    (entry.getD ∅).Every P := by
  cases entry with
  | none => exact empty
  | some p => exact h p rfl

/-- Layering two entries makes no declarations. -/
theorem layEntry {lower upper : Option Properties} (hlower : ∀ p ∈ lower, p.Every P)
    (hupper : ∀ p ∈ upper, p.Every P) : ∀ p ∈ layEntry lower upper, p.Every P := by
  cases upper with
  | none => exact hlower
  | some q =>
      rintro p hp
      obtain rfl : (lower.getD ∅).overlay q = p := by simpa [Broadsheet.layEntry] using hp
      exact (getD hlower).overlay (hupper q rfl)

theorem toList (hp : p.Every P) : ∀ d ∈ p.toList, P d := fun d hd =>
  hp d.1 d.2 (Std.ExtTreeMap.mem_toList_iff_getElem?_eq_some.mp hd)

end Every

end Properties

/-! ## Style sheets -/

namespace CssRules

/-- `P` holds of every declaration of every selector. -/
def Every (P : String × String → Prop) (rules : CssRules) : Prop :=
  ∀ (selector : String) (p : Properties), rules[selector]? = some p → p.Every P

/-- A rule adds its own declarations only. -/
theorem Every.addRule {rules : CssRules} (hrules : rules.Every P) {props : Properties}
    (hprops : props.Every P) (selector : String) : (rules.addRule selector props).Every P := by
  intro other p hp
  rw [CssRules.addRule, Std.ExtTreeMap.getElem?_insert] at hp
  split at hp
  · obtain rfl := Option.some.inj hp
    rw [Std.ExtTreeMap.getD_eq_getD_getElem?]
    exact (Properties.Every.getD (hrules selector)).overlay hprops
  · exact hrules other p hp

/-- What holds of whatever is read between two braces holds of a style sheet. -/
theorem every_parse (h : ∀ s, (Properties.parse s).Every P) (css : String) :
    (parse css).Every P := by
  have hscanned (rules : CssRules) (hrules : rules.Every P) (r : List Char × List Char) :
      (rules.addScanned r).Every P := by
    rw [addScanned]
    induction selectors r.1 generalizing rules with
    | nil => exact hrules
    | cons s ss ih => exact ih _ (hrules.addRule (h r.2) s)
  have hfoldl (rules : CssRules) (hrules : rules.Every P) (rs : List (List Char × List Char)) :
      Every P (rs.foldl addScanned rules) := by
    induction rs generalizing rules with
    | nil => exact hrules
    | cons r rs ih => exact ih _ (hscanned rules hrules r)
  refine hfoldl ∅ ?_ _
  intro selector p hp
  simp at hp

end CssRules

/-! ## Themes -/

/-- The parameters of a rendering, each with the property that it sets. -/
def ThemeParams.declarations (params : ThemeParams) : List (String × String) :=
  [("font-family", params.fontFamily), ("font-size", params.fontSize),
    (primaryColorProperty, params.primaryColor)]

namespace Theme

/-- `P` holds of every declaration of a theme. -/
structure Every (P : String × String → Prop) (t : Theme) : Prop where
  base : t.base.Every P
  block : ∀ k, ∀ p ∈ t.block k, p.Every P
  inline : ∀ k, ∀ p ∈ t.inline k, p.Every P

namespace Every

variable {t : Theme}

/-- The entry of a kind stands in the table of its category. -/
theorem entry? (ht : t.Every P) (k : ElementKind) : ∀ p ∈ t.entry? k, p.Every P := by
  rw [Theme.entry?]
  cases k.category with
  | block => exact ht.block k
  | inline => exact ht.inline k

theorem layTable {c : Category} {table : KindTable} (htable : ∀ k, ∀ p ∈ table k, p.Every P)
    {add : ElementKind → Option Properties} (hadd : ∀ k, ∀ p ∈ add k, p.Every P) :
    ∀ k, ∀ p ∈ Theme.layTable c table add k, p.Every P := by
  intro k
  rw [Theme.layTable]
  split
  · exact Properties.Every.layEntry (htable k) (hadd k)
  · exact htable k

/-- Layering entries over a theme makes no declarations. -/
theorem lay (ht : t.Every P) {add : ElementKind → Option Properties}
    (hadd : ∀ k, ∀ p ∈ add k, p.Every P) : (t.lay add).Every P :=
  ⟨ht.base, layTable ht.block hadd, layTable ht.inline hadd⟩

theorem overlay (ht : t.Every P) {upper : Theme} (hupper : upper.Every P) :
    (t.overlay upper).Every P := by
  have hlaid := (ht.lay hupper.block).lay hupper.inline
  exact ⟨ht.base.overlay hupper.base, hlaid.block, hlaid.inline⟩

/-- The rules of a style sheet bring their own declarations only. -/
theorem withOverrides (ht : t.Every P) {rules : CssRules} (hrules : rules.Every P) :
    (t.withOverrides rules).Every P := by
  refine ht.lay fun k p hp => ?_
  rw [userRule] at hp
  split at hp
  · exact hrules k.name p hp
  · contradiction

/-- What holds of listed declarations holds of the theme that they make. -/
theorem ofLists {base : List (String × String)}
    {block inline : List (ElementKind × List (String × String))}
    (hbase : ∀ d ∈ base, P d) (hblock : ∀ e ∈ block, ∀ d ∈ e.2, P d)
    (hinline : ∀ e ∈ inline, ∀ d ∈ e.2, P d) : (ofLists base block inline).Every P := by
  have hlisted {entries : List (ElementKind × List (String × String))}
      (h : ∀ e ∈ entries, ∀ d ∈ e.2, P d) (k : ElementKind) :
      ∀ p ∈ KindTable.ofEntries (entries.map fun e => (e.1, Properties.ofPairs e.2)) k,
        p.Every P := by
    intro p hp
    obtain ⟨found, hfound, rfl⟩ := Option.map_eq_some_iff.mp hp
    obtain ⟨e, he, rfl⟩ := List.mem_map.mp (List.mem_reverse.mp (List.mem_of_find?_eq_some hfound))
    exact Properties.Every.ofPairs (h e he)
  exact ⟨Properties.Every.ofPairs hbase, hlisted hblock, hlisted hinline⟩

/-- **Compiling makes no declarations** but those of the parameters and the indent of
paragraphs. -/
theorem compile (ht : t.Every P) {params : ThemeParams} (hparams : ∀ d ∈ params.declarations, P d)
    (hindent : P ("text-indent", "2em")) {k : ElementKind} {p : Properties}
    (hentry : Styles.entry? (t.compile params) k = some p) : p.Every P := by
  obtain ⟨hfamily, hsize, hcolor⟩ : P ("font-family", params.fontFamily) ∧
      P ("font-size", params.fontSize) ∧ P (primaryColorProperty, params.primaryColor) := by
    simpa [ThemeParams.declarations] using hparams
  have hbase : (t.baseWith params).Every P :=
    ((ht.base.insert hfamily).insert hsize).insert hcolor
  have hroot : ∀ q ∈ k.familyRoot.bind t.entry?, q.Every P := by
    intro q hq
    obtain ⟨root, -, hroot⟩ := Option.bind_eq_some_iff.mp hq
    exact ht.entry? root q hroot
  have hown : ∀ q ∈ t.ownDeclarations params.useIndent k, q.Every P := by
    rw [ownDeclarations]
    split
    · rintro q hq
      obtain rfl := Option.some.inj hq
      exact (Properties.Every.ofPairs (by simpa using hindent)).overlay
        (Properties.Every.getD (ht.entry? k))
    · exact ht.entry? k
  rw [eq_of_compile hentry]
  exact (hbase.overlay (Properties.Every.getD hroot)).overlay (Properties.Every.getD hown)

end Every

end Theme

end Broadsheet
