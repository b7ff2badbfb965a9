import Broadsheet.Proofs.Document.Exporting
import Broadsheet.Proofs.Style.Declarations
import Mathlib.Data.List.Infix

/-!
# Broadsheet.Proofs.Style.Resolving

What an export makes of a style attribute.  A style attribute is written as
declarations with `; ` between them, and resolving looks for text: a reference
to the primary color is replaced where it stands, and a declaration of it goes
up to its semicolon together with one blank.  The two agree on what a
declaration is where themes are `Resolvable`, that is, where no name and no
value holds a semicolon or a quote, or names the property in passing.

* `not_infix_replaceAll_reference` — a color in place of a reference does not
  make another name of the property together with what stands around it;
* `exists_last_of_compile` — the declaration of the color is not the last one
  of an entry, so it has a semicolon after it;
* `resolvePrimaryColor_styleAttribute` — the attribute with the color resolved
  has the other declarations of the entry, in their order, and nothing else;
* `resolvable_builtin` — the built-in themes are resolvable.
-/

namespace Broadsheet

/-! ## Texts that refer to the color -/

/-- The color's property is named within references to the color only. -/
def ReferredOnly (s : List Char) : Prop :=
  ∀ a b, s = a ++ primaryColorProperty.toList ++ b → "var(".toList <:+ a ∧ [')'] <+: b

/-- Where the property is named at all, each place is looked at. -/
theorem referredOnly_iff_forall_le (s : List Char) :
    ReferredOnly s ↔ (primaryColorProperty.toList <:+: s →
      ∀ n ≤ s.length, primaryColorProperty.toList <+: s.drop n →
        "var(".toList <:+ s.take n ∧
          [')'] <+: s.drop (n + primaryColorProperty.toList.length)) := by
  constructor
  · rintro h - n - ⟨b, hb⟩
    have hsplit : s = s.take n ++ primaryColorProperty.toList ++ b := by
      rw [List.append_assoc, hb, List.take_append_drop]
    have hdrop : s.drop (n + primaryColorProperty.toList.length) = b := by
      rw [← List.drop_drop, ← hb, List.drop_left]
    exact hdrop ▸ h _ _ hsplit
  · rintro h a b rfl
    have hn := h ⟨a, b, rfl⟩ a.length (by simp only [List.length_append]; omega)
    rw [List.append_assoc, List.drop_left, List.take_left, ← List.drop_drop, List.drop_left,
      List.drop_left] at hn
    exact hn (List.prefix_append _ _)

instance : DecidablePred ReferredOnly := fun s =>
  decidable_of_iff _ (referredOnly_iff_forall_le s).symm

theorem toList_primaryColorReference : primaryColorReference.toList =
    "var(".toList ++ primaryColorProperty.toList ++ [')'] := by
  decide

namespace ReferredOnly

variable {s a b : List Char}

/-- A text without references does not name the property. -/
theorem not_infix (h : ReferredOnly s) (hfree : ¬ primaryColorReference.toList <:+: s) :
    ¬ primaryColorProperty.toList <:+: s := by
  rintro ⟨a, b, rfl⟩
  obtain ⟨⟨a, rfl⟩, ⟨b, rfl⟩⟩ := h a b rfl
  exact hfree ⟨a, b, by simp [toList_primaryColorReference]⟩

/-- What stands before a reference, and what stands after it. -/
theorem of_append_reference (h : ReferredOnly (a ++ primaryColorReference.toList ++ b)) :
    ReferredOnly a ∧ ReferredOnly b := by
  rw [toList_primaryColorReference] at h
  constructor
  · rintro x y rfl
    obtain ⟨hx, hy⟩ := h x (y ++ "var(".toList ++ primaryColorProperty.toList ++ [')'] ++ b)
      (by simp)
    refine ⟨hx, ?_⟩
    cases y with
    | nil => simp at hy
    | cons c y => simpa using hy
  · rintro x y rfl
    obtain ⟨hx, hy⟩ := h (a ++ "var(".toList ++ primaryColorProperty.toList ++ ')' :: x) y
      (by simp)
    refine ⟨?_, hy⟩
    exact (suffix_append_cons_iff (by decide)).mp hx

end ReferredOnly

section References

variable {digits : List Char}

/-- **Replaced references** name the property no longer: a color begins with a
character that the property does not hold, and ends in digits, so nothing that
stands around it is completed by it. -/
theorem not_infix_replaceAll_reference (hdash : '-' ∉ digits)
    (hlen : ('#' :: digits).length < primaryColorReference.toList.length) {s : List Char}
    (hs : ReferredOnly s) :
    ¬ primaryColorProperty.toList <:+:
      replaceAll primaryColorReference.toList ('#' :: digits) s := by
  -- the induction is on the text that is left after the first reference
  induction hn : s.length using Nat.strongRecOn generalizing s with
  | ind n ih =>
    subst hn
    cases hcut : cut? primaryColorReference.toList s with
    | none =>
        have hfree : ¬ primaryColorReference.toList <:+: s := by
          rw [← contains_iff, contains, hcut]
          simp
        rw [(replaceAll_eq_self_iff hlen s).mpr hfree]
        exact hs.not_infix hfree
    | some found =>
        obtain ⟨before, rest⟩ := found
        obtain rfl := eq_of_cut? hcut
        obtain ⟨hbefore, hrest⟩ := hs.of_append_reference
        have hshorter : rest.length < (before ++ primaryColorReference.toList ++ rest).length := by
          simp only [List.length_append]
          omega
        rw [replaceAll_of_cut? (by decide) hcut, List.append_assoc, List.cons_append,
          infix_append_cons_iff (by decide) (by decide), not_or]
        refine ⟨hbefore.not_infix (not_infix_of_cut? (by decide) hcut), ?_⟩
        have hproperty : primaryColorProperty.toList = '-' :: "-md-primary-color".toList := by
          decide
        rw [hproperty, infix_append_iff_of_notMem hdash, ← hproperty]
        exact ih _ hshorter hrest rfl

end References

/-! ## Declarations in a row -/

/-- A declaration with the color in place of references to it. -/
def resolveValue (color : String) (d : String × String) : String × String :=
  (d.1, replaceText primaryColorReference color d.2)

section Rows

variable {color : String}

/-- References stand in values, so each value is gone through by itself. -/
theorem replaceAll_reference_written
    (hlen : color.toList.length < primaryColorReference.toList.length) {d : String × String}
    (hd : ¬ primaryColorReference.toList <:+: d.1.toList) :
    replaceAll primaryColorReference.toList color.toList (writtenDeclaration d) =
      writtenDeclaration (resolveValue color d) := by
  rw [writtenDeclaration, replaceAll_append_cons hlen (by decide),
    replaceAll_cons_of_notMem hlen (by decide), (replaceAll_eq_self_iff hlen _).mpr hd,
    writtenDeclaration, resolveValue, replaceText, String.toList_ofList]

theorem replaceAll_reference_declarations
    (hlen : color.toList.length < primaryColorReference.toList.length) {l : String × String}
    (hl : ¬ primaryColorReference.toList <:+: l.1.toList) : {ds : List (String × String)} →
    (∀ d ∈ ds, ¬ primaryColorReference.toList <:+: d.1.toList) →
      replaceAll primaryColorReference.toList color.toList
          (ds.flatMap followedDeclaration ++ writtenDeclaration l) =
        (ds.map (resolveValue color)).flatMap followedDeclaration ++
          writtenDeclaration (resolveValue color l)
  | [], _ => replaceAll_reference_written hlen hl
  | d :: ds, hds => by
      obtain ⟨hd, hds⟩ := List.forall_mem_cons.mp hds
      have ih := replaceAll_reference_declarations hlen hl hds
      rw [flatMap_cons_append, replaceAll_append_cons hlen (by decide),
        replaceAll_reference_written hlen hd, replaceAll_cons_of_notMem hlen (by decide), ih,
        List.map_cons, flatMap_cons_append]

end Rows

/-- A declaration of the color, or one that does not name its property. -/
def Settled (d : String × String) : Prop :=
  (d.1 = primaryColorProperty ∧ ';' ∉ d.2.toList ∧ '"' ∉ d.2.toList) ∨
    ¬ primaryColorProperty.toList <:+: writtenDeclaration d

theorem colorDeclaration?_eq_none {s : List Char} (h : ¬ primaryColorProperty.toList <+: s) :
    colorDeclaration? s = none := by
  rw [colorDeclaration?_eq_none_iff]
  rintro d ⟨value, -, -, rfl⟩ ⟨rest, rfl⟩
  exact h ⟨':' :: value ++ [';'] ++ rest, by simp⟩

/-- What stands after a declaration of the color is gone through next. -/
theorem rewriteFrom_of_afterColorDeclaration? {s rest : List Char}
    (h : afterColorDeclaration? s = some rest) :
    rewriteFrom colorDeclaration? 0 s = rewriteFrom colorDeclaration? 0 rest := by
  have hlt := length_afterColorDeclaration?_lt h
  have hsuffix : rest <:+ s := by
    obtain ⟨d, after, -, rfl, rfl⟩ := afterColorDeclaration?_eq_some_iff.mp h
    refine List.IsSuffix.trans ?_ (List.suffix_append d after)
    cases after with
    | nil => exact List.suffix_rfl
    | cons c after =>
        rw [afterOneBlank]
        split
        · exact List.suffix_cons c after
        · exact List.suffix_rfl
  cases s with
  | nil => simp at hlt
  | cons c s =>
      obtain ⟨before, rfl⟩ : rest <:+ s := by
        refine (List.suffix_cons_iff.mp hsuffix).resolve_left fun heq => ?_
        simp [heq] at hlt
      have hfind : colorDeclaration? (c :: (before ++ rest)) = some ([], before.length) := by
        simp [colorDeclaration?, h]
      simp only [rewriteFrom, hfind, List.nil_append]
      rw [rewriteFrom_eq_drop, List.drop_left]

/-- A declaration of the color is taken out together with what parts it from the next one. -/
theorem rewriteFrom_followed_of_eq {d : String × String} (hname : d.1 = primaryColorProperty)
    (hsemicolon : ';' ∉ d.2.toList) (hquote : '"' ∉ d.2.toList) (s : List Char) :
    rewriteFrom colorDeclaration? 0 (followedDeclaration d ++ s) =
      rewriteFrom colorDeclaration? 0 s := by
  refine rewriteFrom_of_afterColorDeclaration? (afterColorDeclaration?_eq_some_iff.mpr
    ⟨_, ' ' :: s, ⟨' ' :: d.2.toList, by simp [hsemicolon], by simp [hquote], rfl⟩, ?_, rfl⟩)
  simp [followedDeclaration, writtenDeclaration, hname]

/-- Any other declaration stays, with what parts it from the next one. -/
theorem rewriteFrom_followed_of_apart {d : String × String}
    (h : ¬ primaryColorProperty.toList <:+: writtenDeclaration d) (s : List Char) :
    rewriteFrom colorDeclaration? 0 (followedDeclaration d ++ s) =
      followedDeclaration d ++ rewriteFrom colorDeclaration? 0 s := by
  have hsemicolon : colorDeclaration? (';' :: ' ' :: s) = none :=
    colorDeclaration?_eq_none fun h => by simp [primaryColorProperty] at h
  have hblank : colorDeclaration? (' ' :: s) = none :=
    colorDeclaration?_eq_none fun h => by simp [primaryColorProperty] at h
  rw [followedDeclaration, List.append_assoc, rewriteFrom_append_of_forall_eq_none]
  · simp [rewriteFrom, hsemicolon, hblank]
  · intro t ht _
    refine colorDeclaration?_eq_none fun hprefix => h ?_
    have hstart := (prefix_append_cons_iff (c := ';') _ t (by decide)).mp hprefix
    exact hstart.isInfix.trans ht.isInfix

theorem rewriteFrom_written_of_apart {d : String × String}
    (h : ¬ primaryColorProperty.toList <:+: writtenDeclaration d) :
    rewriteFrom colorDeclaration? 0 (writtenDeclaration d) = writtenDeclaration d :=
  rewriteFrom_of_forall_eq_none _ fun _ ht => colorDeclaration?_eq_none fun hprefix =>
    h <| hprefix.isInfix.trans ht.isInfix

/-- **Taking declarations out of a row**: those of the color go, the others stay in their order. -/
theorem rewriteFrom_declarations {l : String × String}
    (hl : ¬ primaryColorProperty.toList <:+: writtenDeclaration l) :
    {ds : List (String × String)} → (∀ d ∈ ds, Settled d) →
      rewriteFrom colorDeclaration? 0 (ds.flatMap followedDeclaration ++ writtenDeclaration l) =
        (ds.filter fun d => d.1 ≠ primaryColorProperty).flatMap followedDeclaration ++
          writtenDeclaration l
  | [], _ => rewriteFrom_written_of_apart hl
  | d :: ds, hds => by
      obtain ⟨hd, hds⟩ := List.forall_mem_cons.mp hds
      have ih := rewriteFrom_declarations hl hds
      rw [List.flatMap_cons, List.append_assoc]
      obtain ⟨hname, hsemicolon, hquote⟩ | hfree := hd
      · rw [rewriteFrom_followed_of_eq hname hsemicolon hquote, ih, List.filter_cons_of_neg]
        simpa using hname
      · have hname : d.1 ≠ primaryColorProperty := fun h =>
          hfree ⟨[], ':' :: ' ' :: d.2.toList, by simp [writtenDeclaration, h]⟩
        rw [rewriteFrom_followed_of_apart hfree, ih, List.filter_cons_of_pos (by simpa),
          List.flatMap_cons, List.append_assoc]

theorem not_infix_declarations {l : String × String}
    (hl : ¬ primaryColorProperty.toList <:+: writtenDeclaration l) :
    {ds : List (String × String)} →
    (∀ d ∈ ds, ¬ primaryColorProperty.toList <:+: writtenDeclaration d) →
      ¬ primaryColorProperty.toList <:+:
        ds.flatMap followedDeclaration ++ writtenDeclaration l
  | [], _ => hl
  | d :: ds, hds => by
      obtain ⟨hd, hds⟩ := List.forall_mem_cons.mp hds
      have ih := not_infix_declarations hl hds
      rw [flatMap_cons_append, infix_append_cons_iff (by decide) (by decide),
        infix_cons_iff_of_notMem (by decide) (by decide), not_or]
      exact ⟨hd, ih⟩

/-! ## Resolvable themes -/

/-- A name of a property that stays a name in a style attribute, and is or does
not hold that of the color's property. -/
structure ResolvableName (s : String) : Prop where
  semicolon : ';' ∉ s.toList
  quote : '"' ∉ s.toList
  property : primaryColorProperty.toList <:+: s.toList → s = primaryColorProperty

/-- A value that stays a value in a style attribute, and names the color's
property in references to it only. -/
structure ResolvableValue (s : String) : Prop where
  semicolon : ';' ∉ s.toList
  quote : '"' ∉ s.toList
  referred : ReferredOnly s.toList

/-- A declaration with a resolvable name and a resolvable value. -/
def ResolvableDeclaration (d : String × String) : Prop :=
  ResolvableName d.1 ∧ ResolvableValue d.2

theorem resolvableName_iff (s : String) : ResolvableName s ↔ ';' ∉ s.toList ∧ '"' ∉ s.toList ∧
    (primaryColorProperty.toList <:+: s.toList → s = primaryColorProperty) :=
  ⟨fun h => ⟨h.semicolon, h.quote, h.property⟩, fun h => ⟨h.1, h.2.1, h.2.2⟩⟩

theorem resolvableValue_iff (s : String) : ResolvableValue s ↔
    ';' ∉ s.toList ∧ '"' ∉ s.toList ∧ ReferredOnly s.toList :=
  ⟨fun h => ⟨h.semicolon, h.quote, h.referred⟩, fun h => ⟨h.1, h.2.1, h.2.2⟩⟩

instance : DecidablePred ResolvableName := fun s => decidable_of_iff _ (resolvableName_iff s).symm

instance : DecidablePred ResolvableValue := fun s => decidable_of_iff _ (resolvableValue_iff s).symm

instance : DecidablePred ResolvableDeclaration := fun d =>
  inferInstanceAs (Decidable (ResolvableName d.1 ∧ ResolvableValue d.2))

/-- A color that can be chosen is a resolvable value. -/
theorem resolvableValue_of_color? {label color : String}
    (h : Choices.color? label = some color) : ResolvableValue color := by
  obtain ⟨digits, hdigits, -, hall⟩ := exists_digits_of_color? h
  have hnot (c : Char) (hc : isColorDigit c = false) : c ∉ digits := fun hmem =>
    absurd (List.all_eq_true.mp hall c hmem) (by simp [hc])
  have hdash : '-' ∉ color.toList := by
    rw [hdigits]
    simp [hnot '-' (by decide)]
  refine ⟨?_, ?_, fun a b hab => absurd ?_ hdash⟩
  · rw [hdigits]
    simp [hnot ';' (by decide)]
  · rw [hdigits]
    simp [hnot '"' (by decide)]
  · rw [hab]
    simp [primaryColorProperty]

namespace Properties

/-- All declarations are resolvable. -/
def Resolvable (p : Properties) : Prop :=
  ∀ name value, p[name]? = some value → ResolvableDeclaration (name, value)

end Properties

namespace Theme

/-- All declarations of a theme are resolvable. -/
structure Resolvable (t : Theme) : Prop where
  base : t.base.Resolvable
  block : ∀ k, ∀ p ∈ t.block k, p.Resolvable
  inline : ∀ k, ∀ p ∈ t.inline k, p.Resolvable

theorem resolvable_iff {t : Theme} : t.Resolvable ↔ t.Every ResolvableDeclaration :=
  ⟨fun h => ⟨h.base, h.block, h.inline⟩, fun h => ⟨h.base, h.block, h.inline⟩⟩

/-- The built-in themes are resolvable. -/
theorem resolvable_builtin (id : ThemeId) : (builtin id).Resolvable := by
  have hclassic : classic.Every ResolvableDeclaration :=
    .ofLists (by decide +kernel) (by decide +kernel) (by decide +kernel)
  rw [resolvable_iff]
  cases id with
  | default => exact hclassic
  | grace =>
      exact hclassic.overlay (.ofLists (by decide +kernel) (by decide +kernel) (by decide +kernel))

end Theme

/-! ## Compiled entries -/

section Compiled

variable {t : Theme} {params : ThemeParams} {k : ElementKind} {p : Properties}

theorem Theme.Resolvable.compile (ht : t.Resolvable) (hfamily : ResolvableValue params.fontFamily)
    (hsize : ResolvableValue params.fontSize) (hcolor : ResolvableValue params.primaryColor)
    (hentry : Styles.entry? (t.compile params) k = some p) : p.Resolvable := by
  have hnames : ResolvableName "font-family" ∧ ResolvableName "font-size" ∧
      ResolvableName primaryColorProperty := by
    decide +kernel
  refine (Theme.resolvable_iff.mp ht).compile ?_ (by decide +kernel) hentry
  simpa [ThemeParams.declarations] using
    ⟨⟨hnames.1, hfamily⟩, ⟨hnames.2.1, hsize⟩, ⟨hnames.2.2, hcolor⟩⟩

/-- The declaration of the color is not the last one of an entry: the font that
every entry has comes after it. -/
theorem exists_last_of_compile (hentry : Styles.entry? (t.compile params) k = some p) :
    ∃ ds l, p.toList = ds ++ [l] ∧ l.1 ≠ primaryColorProperty := by
  have hfont : p["font-family"]?.isSome := by
    rw [Theme.eq_of_compile hentry, Properties.getElem?_overlay, Properties.getElem?_overlay,
      Option.isSome_or, Option.isSome_or, Theme.baseWith]
    simp [primaryColorProperty]
  obtain ⟨family, hfamily⟩ := Option.isSome_iff_exists.mp hfont
  have hmem : ("font-family", family) ∈ p.toList :=
    Std.ExtTreeMap.mem_toList_iff_getElem?_eq_some.mpr hfamily
  have hne : p.toList ≠ [] := List.ne_nil_of_mem hmem
  obtain ⟨ds, l, hlast⟩ : ∃ ds l, p.toList = ds ++ [l] :=
    ⟨_, _, (List.dropLast_concat_getLast hne).symm⟩
  refine ⟨ds, l, hlast, ?_⟩
  have hordered := Std.ExtTreeMap.ordered_keys_toList (t := p)
  rw [hlast, List.pairwise_append] at hordered
  rw [hlast, List.mem_append, List.mem_singleton] at hmem
  rintro hl
  obtain hmem | rfl := hmem
  · have hlt : compare "font-family" primaryColorProperty = .lt :=
      hl ▸ hordered.2.2 _ hmem l (List.mem_singleton_self l)
    exact absurd hlt (by decide +kernel)
  · have hne : "font-family" ≠ primaryColorProperty := by decide +kernel
    exact hne hl

end Compiled

/-! ## Resolving a style attribute -/

theorem Styles.escapeAttribute_of_notMem {s : List Char} (h : '"' ∉ s) :
    Styles.escapeAttribute s = s := by
  induction s with
  | nil => rfl
  | cons c s ih =>
      obtain ⟨hc, hs⟩ : '"' ≠ c ∧ '"' ∉ s := by simpa using h
      have hrest := ih hs
      rw [Styles.escapeAttribute] at hrest ⊢
      rw [List.flatMap_cons, hrest, if_neg (Ne.symm hc), List.singleton_append]

section Entries

variable {color : String} {d : String × String}

theorem not_reference_infix_name (hd : ResolvableDeclaration d) :
    ¬ primaryColorReference.toList <:+: d.1.toList := by
  intro h
  have hproperty : primaryColorProperty.toList <:+: primaryColorReference.toList := by
    decide +kernel
  rw [hd.1.property (hproperty.trans h)] at h
  exact absurd h (by decide +kernel)

/-- With the color in its value, a declaration names the property by its own name only. -/
theorem not_infix_written_resolveValue {label : String}
    (hcolor : Choices.color? label = some color) (hd : ResolvableDeclaration d)
    (hname : d.1 ≠ primaryColorProperty) :
    ¬ primaryColorProperty.toList <:+: writtenDeclaration (resolveValue color d) := by
  obtain ⟨digits, hdigits, -, hall⟩ := exists_digits_of_color? hcolor
  have hlen := (color_quote_and_length hcolor).2
  have hdash : '-' ∉ digits := fun h => absurd (List.all_eq_true.mp hall _ h) (by decide)
  rw [hdigits] at hlen
  rw [writtenDeclaration, infix_append_cons_iff (by decide) (by decide),
    infix_cons_iff_of_notMem (by decide) (by decide), not_or, resolveValue, replaceText,
    String.toList_ofList, hdigits]
  exact ⟨fun h => hname (hd.1.property h),
    not_infix_replaceAll_reference hdash hlen hd.2.referred⟩

theorem settled_resolveValue {label : String} (hcolor : Choices.color? label = some color)
    (hd : ResolvableDeclaration d) : Settled (resolveValue color d) := by
  by_cases hname : d.1 = primaryColorProperty
  · have hvalue := resolvableValue_of_color? hcolor
    refine .inl ⟨hname, ?_, ?_⟩
    · rw [resolveValue, replaceText, String.toList_ofList]
      exact notMem_replaceAll hvalue.semicolon hd.2.semicolon
    · rw [resolveValue, replaceText, String.toList_ofList]
      exact notMem_replaceAll hvalue.quote hd.2.quote
  · exact .inr (not_infix_written_resolveValue hcolor hd hname)

end Entries

theorem Properties.Resolvable.toList {p : Properties} (hp : p.Resolvable) :
    ∀ d ∈ p.toList, ResolvableDeclaration d :=
  Properties.Every.toList hp

theorem quote_notMem_write {p : Properties} (hp : p.Resolvable) {ds : List (String × String)}
    {l : String × String} (hlast : p.toList = ds ++ [l]) : '"' ∉ p.write.toList := by
  have hwritten : ∀ d ∈ ds ++ [l], '"' ∉ writtenDeclaration d := by
    intro d hd
    obtain ⟨hname, hvalue⟩ := hp.toList d (hlast ▸ hd)
    simp [writtenDeclaration, hname.quote, hvalue.quote]
  rw [toList_write hlast, List.mem_append, List.mem_flatMap, not_or]
  refine ⟨?_, hwritten l (by simp)⟩
  rintro ⟨d, hd, hquote⟩
  have hfree := hwritten d (by simp [hd])
  simp [followedDeclaration, hfree] at hquote

/-- A style attribute without quotes in its declarations is written as they are. -/
theorem toList_styleAttribute {styles : Styles} {k : ElementKind} {p : Properties}
    (hentry : styles.entry? k = some p) (hquote : '"' ∉ p.write.toList) :
    (styles.styleAttribute k).toList =
      " style=".toList ++ '"' :: (p.write.toList ++ '"' :: []) := by
  rw [Styles.styleAttribute, Styles.styleAttributeWith, Styles.declarations?, hentry,
    Option.map_some]
  simp [Styles.attributeValue, Styles.escapeAttribute_of_notMem hquote,
    Styles.escapeAttribute_of_notMem (s := []) (by simp)]

/-- Resolving an attribute is resolving its value. -/
theorem resolvePrimaryColor_attribute {color : List Char}
    (hlen : color.length < primaryColorReference.toList.length) (value : List Char) :
    resolvePrimaryColor color (" style=".toList ++ '"' :: (value ++ '"' :: [])) =
      " style=".toList ++ '"' :: (resolvePrimaryColor color value ++ '"' :: []) := by
  have hname : resolvePrimaryColor color " style=".toList = " style=".toList := rfl
  have hnil : resolvePrimaryColor color [] = [] := rfl
  rw [resolvePrimaryColor_append_quote hlen, resolvePrimaryColor_append_quote hlen, hname, hnil]

/-- What the declarations of an entry are resolved to. -/
def resolvedDeclarations (color : String) (p : Properties) : List (String × String) :=
  (p.toList.filter fun d => d.1 ≠ primaryColorProperty).map (resolveValue color)

section Written

variable {color label : String} {p : Properties}

/-- The declarations of an entry that does not end with that of the color are
resolved one by one. -/
theorem resolvePrimaryColor_write (hp : p.Resolvable) (hcolor : Choices.color? label = some color)
    {ds : List (String × String)} {l : String × String} (hlast : p.toList = ds ++ [l])
    (hl : l.1 ≠ primaryColorProperty) :
    resolvePrimaryColor color.toList p.write.toList =
        ("; ".intercalate ((resolvedDeclarations color p).map fun d => d.1 ++ ": " ++ d.2)).toList ∧
      ¬ primaryColorProperty.toList <:+: resolvePrimaryColor color.toList p.write.toList := by
  have hlen := (color_quote_and_length hcolor).2
  have hall : ∀ d ∈ ds ++ [l], ResolvableDeclaration d := hlast ▸ hp.toList
  have hds : ∀ d ∈ ds, ResolvableDeclaration d := fun d hd => hall d (by simp [hd])
  have hfree := not_infix_written_resolveValue hcolor (hall l (by simp)) hl
  have hkept : ∀ d ∈ (ds.map (resolveValue color)).filter fun d => d.1 ≠ primaryColorProperty,
      ¬ primaryColorProperty.toList <:+: writtenDeclaration d := by
    intro d hd
    obtain ⟨hd, hname⟩ := List.mem_filter.mp hd
    obtain ⟨e, he, rfl⟩ := List.mem_map.mp hd
    exact not_infix_written_resolveValue hcolor (hds e he) (of_decide_eq_true hname)
  have hrow : resolvedDeclarations color p =
      ((ds.map (resolveValue color)).filter fun d => d.1 ≠ primaryColorProperty) ++
        [resolveValue color l] := by
    rw [resolvedDeclarations, hlast, List.filter_append, List.map_append, List.filter_map]
    congr 1
    simp [hl]
  have hresolved : resolvePrimaryColor color.toList p.write.toList =
      ((ds.map (resolveValue color)).filter fun d => d.1 ≠ primaryColorProperty).flatMap
        followedDeclaration ++ writtenDeclaration (resolveValue color l) := by
    rw [toList_write hlast, resolvePrimaryColor, dropColorDeclarationsFrom_eq,
      replaceAll_reference_declarations hlen (not_reference_infix_name (hall l (by simp)))
        fun d hd => not_reference_infix_name (hds d hd)]
    refine rewriteFrom_declarations hfree fun d hd => ?_
    obtain ⟨e, he, rfl⟩ := List.mem_map.mp hd
    exact settled_resolveValue hcolor (hds e he)
  rw [hresolved, hrow, toList_intercalate_declarations]
  exact ⟨rfl, not_infix_declarations hfree hkept⟩

end Written

/-- **Resolving a style attribute**: for a resolvable theme and parameters, and a
color that can be chosen, resolving turns the attribute of every kind that has
an entry into the attribute with the entry's declarations in their order but for
that of the color, each with the color in place of references to it.  Nothing in
it names the color's property. -/
theorem resolvePrimaryColor_styleAttribute {t : Theme} {params : ThemeParams} {k : ElementKind}
    {p : Properties} {label : String} (ht : t.Resolvable)
    (hfamily : ResolvableValue params.fontFamily) (hsize : ResolvableValue params.fontSize)
    (hcolor : Choices.color? label = some params.primaryColor)
    (hentry : Styles.entry? (t.compile params) k = some p) :
    resolvePrimaryColor params.primaryColor.toList ((t.compile params).styleAttribute k).toList =
        (" style=\"" ++ "; ".intercalate ((resolvedDeclarations params.primaryColor p).map fun d =>
          d.1 ++ ": " ++ d.2) ++ "\"").toList ∧
      ¬ primaryColorProperty.toList <:+:
        resolvePrimaryColor params.primaryColor.toList
          ((t.compile params).styleAttribute k).toList := by
  have hp := ht.compile hfamily hsize (resolvableValue_of_color? hcolor) hentry
  obtain ⟨ds, l, hlast, hl⟩ := exists_last_of_compile hentry
  obtain ⟨hvalue, hfree⟩ := resolvePrimaryColor_write hp hcolor hlast hl
  rw [toList_styleAttribute hentry (quote_notMem_write hp hlast),
    resolvePrimaryColor_attribute (color_quote_and_length hcolor).2]
  refine ⟨?_, ?_⟩
  · rw [hvalue]
    simp
  · rw [infix_append_cons_iff (by decide) (by decide),
      infix_append_cons_iff (by decide) (by decide)]
    rintro (h | h | h)
    · exact absurd h (by decide +kernel)
    · exact hfree h
    · exact absurd h (by decide +kernel)

/-- The parameters of a rendering in green. -/
def greenParams : ThemeParams := ⟨sansSerifFonts, "14px", false, "#009874"⟩

/-- The headings of the second built-in theme. -/
theorem resolvePrimaryColor_grace_heading :
    (Theme.builtin .grace).Resolvable ∧ ResolvableValue greenParams.fontFamily ∧
      ResolvableValue greenParams.fontSize ∧
      Choices.color? "翡翠绿" = some greenParams.primaryColor ∧
      ∃ p, Styles.entry? ((Theme.builtin .grace).compile greenParams) (.heading .two) = some p ∧
        resolvePrimaryColor "#009874".toList
            (((Theme.builtin .grace).compile greenParams).styleAttribute (.heading .two)).toList =
          (" style=\"" ++ "; ".intercalate ((resolvedDeclarations "#009874" p).map fun d =>
            d.1 ++ ": " ++ d.2) ++ "\"").toList := by
  have htheme := Theme.resolvable_builtin .grace
  have hfamily : ResolvableValue greenParams.fontFamily := by decide +kernel
  have hsize : ResolvableValue greenParams.fontSize := by decide +kernel
  have hcolor : Choices.color? "翡翠绿" = some greenParams.primaryColor := by decide +kernel
  have hsome : (Styles.entry? ((Theme.builtin .grace).compile greenParams)
      (.heading .two)).isSome := by
    decide +kernel
  obtain ⟨p, hentry⟩ := Option.isSome_iff_exists.mp hsome
  exact ⟨htheme, hfamily, hsize, hcolor, p, hentry,
    (resolvePrimaryColor_styleAttribute htheme hfamily hsize hcolor hentry).1⟩

end Broadsheet
