import Broadsheet.Document.Render
import Broadsheet.Proofs.Html.Imageless
import Broadsheet.Proofs.Text.Replacing

/-!
# Broadsheet.Proofs.Html.Unthemed

Markup without the attributes that come from the theme.  Paragraphs are wrapped
or not by a search in what was written for their content, styles and all.  An
attribute of the theme begins with a blank, stands before a blank or the end of
its tag, and holds no `<` if its declarations hold none; so no find can begin in
one, and none can reach one from before.

* `isFigure_unthemed`, `blankText_unthemed`: the search finds the same with and
  without such attributes;
* `paragraphMarkup_withStyles`: a paragraph is wrapped alike with all styles.
-/

namespace Broadsheet

/-! ## Taking the theme out -/

/-- Whether an attribute comes from the theme. -/
def Attr.isThemed : Attr → Bool
  | themed _ _ => true
  | fixed _ _ | escaped _ _ | flag _ => false

/-- The piece without the attributes that come from the theme. -/
def Piece.unthemed : Piece → Piece
  | startTag name attrs => startTag name (attrs.filter fun a => !a.isThemed)
  | voidTag name attrs ending => voidTag name (attrs.filter fun a => !a.isThemed) ending
  | p => p

/-- The markup without the attributes that come from the theme. -/
def Markup.unthemed (m : Markup) : Markup := m.map Piece.unthemed

@[simp] theorem Markup.unthemed_nil : unthemed [] = [] := rfl

@[simp] theorem Markup.unthemed_cons (p : Piece) (m : Markup) :
    unthemed (p :: m) = p.unthemed :: unthemed m := rfl

theorem Attr.write_of_not_isThemed {a : Attr} (h : a.isThemed = false) (styles styles' : Styles) :
    a.write styles = a.write styles' := by
  cases a with
  | themed kind addition => simp [isThemed] at h
  | _ => rfl

theorem Attr.writeAll_filter_not_isThemed (styles styles' : Styles) (attrs : List Attr) :
    writeAll styles (attrs.filter fun a => !a.isThemed) =
      writeAll styles' (attrs.filter fun a => !a.isThemed) := by
  induction attrs with
  | nil => rfl
  | cons a attrs ih =>
      cases ha : a.isThemed with
      | true => simpa [List.filter_cons, ha] using ih
      | false => simp [ha, ih, write_of_not_isThemed ha styles styles']

/-- Without the theme, markup is written alike with all styles. -/
theorem Markup.write_unthemed (styles styles' : Styles) (m : Markup) :
    m.unthemed.write styles = m.unthemed.write styles' := by
  have hpiece (p : Piece) : p.unthemed.write styles = p.unthemed.write styles' := by
    cases p with
    | startTag name attrs | voidTag name attrs ending =>
        simp [Piece.unthemed, Piece.write, Attr.writeAll_filter_not_isThemed styles styles' attrs]
    | _ => rfl
  induction m with
  | nil => rw [unthemed_nil, write_nil, write_nil]
  | cons p m ih => rw [unthemed_cons, write_cons, write_cons, hpiece p, ih]

/-! ## Texts with attributes put in -/

/-- A character that cannot belong to the name of a tag before it. -/
def endsName (c : Char) : Bool := c == ' ' || c == '>' || c == '/'

/-- The second text is the first one with attributes put in: each begins with a
blank, holds no `<`, and stands before a character that ends a name. -/
inductive Dressed : List Char → List Char → Prop
  | nil : Dressed [] []
  | cons (c : Char) {s t : List Char} (h : Dressed s t) : Dressed (c :: s) (c :: t)
  | put {a : List Char} {c : Char} {s t : List Char} (ha : '<' ∉ a) (hc : endsName c)
      (h : Dressed (c :: s) t) : Dressed (c :: s) (' ' :: a ++ t)

namespace Dressed

variable {s t s' t' : List Char}

theorem refl : (s : List Char) → Dressed s s
  | [] => .nil
  | c :: s => .cons c (refl s)

theorem append (h : Dressed s t) (h' : Dressed s' t') : Dressed (s ++ s') (t ++ t') := by
  induction h with
  | nil => exact h'
  | cons c _ ih => exact .cons c ih
  | @put a c s t ha hc _ ih =>
      have happend : ' ' :: a ++ t ++ t' = ' ' :: a ++ (t ++ t') := List.append_assoc ..
      rw [happend]
      exact .put ha hc ih

/-- A name is not found across an attribute. -/
theorem prefix_iff {p : List Char} (hp : ∀ c ∈ p, endsName c = false) (h : Dressed s t) :
    p <+: s ↔ p <+: t := by
  induction h generalizing p with
  | nil => rfl
  | cons c _ ih =>
      cases p with
      | nil => simp
      | cons d p =>
          rw [List.cons_prefix_cons, List.cons_prefix_cons,
            ih fun e he => hp e (List.mem_cons_of_mem d he)]
  | @put a c s t _ hc _ _ =>
      cases p with
      | nil => simp
      | cons d p =>
          have hd : endsName d = false := hp d List.mem_cons_self
          have hne : d ≠ c := by rintro rfl; simp [hc] at hd
          have hblank : d ≠ ' ' := by rintro rfl; simp [endsName] at hd
          simp [List.cons_prefix_cons, hne, hblank]

/-- The beginning of a tag is found in both texts or in none. -/
theorem infix_iff {p : List Char} (hp : ∀ c ∈ p, endsName c = false) (h : Dressed s t) :
    '<' :: p <:+: s ↔ '<' :: p <:+: t := by
  induction h with
  | nil => rfl
  | cons c h ih =>
      rw [List.infix_cons_iff, List.infix_cons_iff, ih, List.cons_prefix_cons,
        List.cons_prefix_cons, h.prefix_iff hp]
  | put ha _ _ ih => rw [ih, infix_append_iff_of_notMem (by simpa using ha)]

end Dressed

/-! ## Markup as it is written -/

/-- Whether no `<` comes with the attributes of the theme, but from its styles. -/
def Attr.addsNoTag : Attr → Bool
  | themed _ addition => !addition.toList.contains '<'
  | fixed _ _ | escaped _ _ | flag _ => true

def Piece.addsNoTag : Piece → Bool
  | startTag _ attrs | voidTag _ attrs _ => attrs.all Attr.addsNoTag
  | endTag _ | text _ | raw _ => true

def Markup.addsNoTag (m : Markup) : Bool := m.all Piece.addsNoTag

@[simp] theorem Markup.addsNoTag_append (m n : Markup) :
    addsNoTag (m ++ n) = (addsNoTag m && addsNoTag n) :=
  List.all_append

/-- Attributes that the theme did not give begin with a blank. -/
theorem exists_endsName_of_not_isThemed (styles : Styles) {c : Char} (hc : endsName c)
    (rest : List Char) : (attrs : List Attr) →
    ∃ d ds, (Attr.writeAll styles (attrs.filter fun a => !a.isThemed)).toList ++ c :: rest =
      d :: ds ∧ endsName d
  | [] => ⟨c, rest, rfl, hc⟩
  | .themed _ _ :: attrs => exists_endsName_of_not_isThemed styles hc rest attrs
  | .fixed _ _ :: _ | .escaped _ _ :: _ | .flag _ :: _ =>
      ⟨' ', _, by simp [Attr.isThemed, Attr.write]; rfl, rfl⟩

section Written

variable {styles : Styles} (hstyles : styles.WithoutTags)

include hstyles

/-- The theme puts attributes in before the end of a tag. -/
theorem dressed_attributes {c : Char} (hc : endsName c) (rest : List Char) :
    (attrs : List Attr) → attrs.all Attr.addsNoTag →
    Dressed ((Attr.writeAll styles (attrs.filter fun a => !a.isThemed)).toList ++ c :: rest)
      ((Attr.writeAll styles attrs).toList ++ c :: rest)
  | [], _ => .refl _
  | a :: attrs, h => by
      obtain ⟨ha, hattrs⟩ : a.addsNoTag ∧ attrs.all Attr.addsNoTag := by simpa using h
      have ih := dressed_attributes hc rest attrs hattrs
      cases hthemed : a.isThemed with
      | false =>
          rw [List.filter_cons_of_pos (by simp [hthemed]), Attr.writeAll_cons, Attr.writeAll_cons,
            String.toList_append, String.toList_append, List.append_assoc, List.append_assoc]
          exact (Dressed.refl _).append ih
      | true =>
          obtain ⟨d, ds, hhead, hd⟩ := exists_endsName_of_not_isThemed styles hc rest attrs
          rw [List.filter_cons_of_neg (by simp [hthemed]), Attr.writeAll_cons,
            String.toList_append, List.append_assoc]
          cases a with
          | themed kind addition =>
              have haddition : '<' ∉ addition.toList := by simpa [Attr.addsNoTag] using ha
              rw [Attr.write, Styles.styleAttributeWith]
              split
              · next declarations hdeclarations =>
                  have hvalue : '<' ∉ "style=\"".toList ++
                      (Styles.attributeValue declarations addition).toList ++ "\"".toList := by
                    simp [Styles.attributeValue,
                      lt_notMem_escapeAttribute (hstyles kind declarations hdeclarations),
                      lt_notMem_escapeAttribute haddition]
                  rw [hhead] at ih ⊢
                  simpa using Dressed.put hvalue hd ih
              · exact ih
          | _ => simp [Attr.isThemed] at hthemed

theorem dressed_piece {p : Piece} (h : p.addsNoTag) :
    Dressed (p.unthemed.write styles).toList (p.write styles).toList := by
  have htag (name : String) {attrs : List Attr} (hattrs : attrs.all Attr.addsNoTag) {c : Char}
      (hc : endsName c) (rest : List Char) :
      Dressed
        ("<" ++ name ++ Attr.writeAll styles (attrs.filter fun a => !a.isThemed) ++
          String.ofList (c :: rest)).toList
        ("<" ++ name ++ Attr.writeAll styles attrs ++ String.ofList (c :: rest)).toList := by
    have hattributes := dressed_attributes hstyles hc rest attrs hattrs
    simpa using (Dressed.refl ("<" ++ name).toList).append hattributes
  cases p with
  | startTag name attrs => simpa [Piece.unthemed, Piece.write] using htag name h (c := '>') rfl []
  | voidTag name attrs ending =>
      cases ending with
      | plain =>
          simpa [Piece.unthemed, Piece.write, VoidEnd.write] using htag name h (c := '>') rfl []
      | slash =>
          simpa [Piece.unthemed, Piece.write, VoidEnd.write] using htag name h (c := '/') rfl ['>']
      | spacedSlash =>
          simpa [Piece.unthemed, Piece.write, VoidEnd.write] using
            htag name h (c := ' ') rfl ['/', '>']
  | endTag _ | text _ | raw _ => exact .refl _

/-- The theme puts attributes in, and changes nothing else. -/
theorem dressed_write {m : Markup} (h : m.addsNoTag) :
    Dressed (m.unthemed.write styles).toList (m.write styles).toList := by
  induction m with
  | nil => exact .nil
  | cons p m ih =>
      obtain ⟨hp, hm⟩ : p.addsNoTag ∧ Markup.addsNoTag m := by simpa [Markup.addsNoTag] using h
      rw [Markup.unthemed_cons, Markup.write_cons, Markup.write_cons, String.toList_append,
        String.toList_append]
      exact (dressed_piece hstyles hp).append (ih hm)

theorem isFigure_unthemed {m : Markup} (h : m.addsNoTag) :
    isFigure (m.unthemed.write styles) = isFigure (m.write styles) := by
  have hcontains (name : List Char) (hname : name.any endsName = false) :
      contains ('<' :: name) (m.unthemed.write styles).toList =
        contains ('<' :: name) (m.write styles).toList := by
    rw [Bool.eq_iff_iff, contains_iff, contains_iff]
    exact (dressed_write hstyles h).infix_iff (by simpa using hname)
  have hfigure : containsText "<figure" (m.unthemed.write styles) =
      containsText "<figure" (m.write styles) := by
    simpa [containsText] using hcontains "figure".toList (by decide)
  have himage : containsText "<img" (m.unthemed.write styles) =
      containsText "<img" (m.write styles) := by
    simpa [containsText] using hcontains "img".toList (by decide)
  rw [isFigure, isFigure, hfigure, himage]

end Written

/-- A tag is not blank, with or without attributes. -/
theorem blankText_unthemed (styles : Styles) (m : Markup) :
    blankText (m.unthemed.write styles) = blankText (m.write styles) := by
  have hpiece (p : Piece) : blankText (p.unthemed.write styles) = blankText (p.write styles) := by
    have hblank : isBlank '<' = false := by decide
    cases p with
    | startTag name attrs | voidTag name attrs ending =>
        simp [Piece.unthemed, Piece.write, blankText, hblank]
    | _ => rfl
  induction m with
  | nil => rfl
  | cons p m ih =>
      simp only [blankText] at hpiece ih ⊢
      rw [Markup.unthemed_cons, Markup.write_cons, Markup.write_cons, String.toList_append,
        String.toList_append, blank_append, blank_append, hpiece p, ih]

/-! ## Paragraphs -/

/-- The same settings with other styles. -/
def RenderSettings.withStyles (cfg : RenderSettings) (styles : Styles) : RenderSettings :=
  { cfg with styles := styles }

/-- A paragraph is wrapped alike with all styles. -/
theorem paragraphMarkup_withStyles (cfg : RenderSettings) {styles styles' : Styles}
    (hstyles : styles.WithoutTags) (hstyles' : styles'.WithoutTags)
    (enclosure : Option Enclosure) {content : Markup} (h : content.addsNoTag) :
    paragraphMarkup (cfg.withStyles styles) enclosure content =
      paragraphMarkup (cfg.withStyles styles') enclosure content := by
  have hfigure : isFigure (content.write styles) = isFigure (content.write styles') := by
    rw [← isFigure_unthemed hstyles h, ← isFigure_unthemed hstyles' h,
      Markup.write_unthemed styles styles']
  have hblank : blankText (content.write styles) = blankText (content.write styles') := by
    rw [← blankText_unthemed styles, ← blankText_unthemed styles',
      Markup.write_unthemed styles styles']
  unfold paragraphMarkup
  dsimp only [RenderSettings.withStyles]
  rw [hfigure, hblank]

end Broadsheet
