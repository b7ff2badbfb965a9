import Broadsheet.Proofs.Document.WellFormed
import Broadsheet.Proofs.Document.Wrapping
import Broadsheet.Proofs.Html.Imageless

/-!
# Broadsheet.Proofs.Document.LinkTrees

Markup with the spans of its links told apart from all that is written beside
them.  In a `LinkTree` each link has a number, and the tree can be written with
any text for that number at the end of the link (`LinkTree.text`): with nothing,
or with the mark of a citation.

* `write_plain`, `write_cited`: the text of the markup without marks and with
  them;
* `isFigure_plain`, `blankText_plain`: no figure and no ink comes with the marks,
  as long as there is no `<` in the declarations of their style;
* `TagsPut`: for a mark is two tags, each put in right before another tag, and a
  search for the beginning of a tag does not reach from one to the next.
-/

namespace Broadsheet

/-! ## Trees -/

/-- Whether a piece begins the span of a link. -/
def Piece.beginsLink : Piece → Bool
  | .startTag name [.themed .link _] => name == "span"
  | _ => false

/-- Whether markup holds no span of a link. -/
def Markup.linkless (m : Markup) : Bool := m.all fun p => !p.beginsLink

/-- Markup in which links are written as spans: a piece of anything else, or a
link with its label, and then the rest. -/
inductive LinkTree
  | nil
  | piece (p : Piece) (hp : p.beginsLink = false) (rest : LinkTree)
  | link (number : Nat) (label rest : LinkTree)

namespace LinkTree

/-- The markup, with a mark before the closing tag of each link. -/
def markup (mark : Nat → Markup) : LinkTree → Markup
  | nil => []
  | piece p _ rest => p :: rest.markup mark
  | link number label rest =>
      [.styled "span" .link] ++ label.markup mark ++ mark number ++ [.endTag "span"] ++
        rest.markup mark

/-- The markup without marks. -/
def plain (t : LinkTree) : Markup := t.markup fun _ => []

/-- The markup with the marks of citations. -/
def cited (t : LinkTree) : Markup := t.markup citationMark

/-- The text of the tree, with a mark before the closing tag of each link. -/
def text (styles : Styles) (mark : Nat → String) : LinkTree → String
  | nil => ""
  | piece p _ rest => p.write styles ++ rest.text styles mark
  | link number label rest =>
      "<span" ++ styles.styleAttribute .link ++ ">" ++ label.text styles mark ++ mark number ++
        "</span>" ++ rest.text styles mark

theorem write_markup (styles : Styles) (mark : Nat → Markup) (t : LinkTree) :
    (t.markup mark).write styles = t.text styles fun number => (mark number).write styles := by
  rw [← String.toList_inj]
  induction t with
  | nil => rfl
  | piece p hp rest ih => simp [markup, text, ih]
  | link number label rest ihLabel ihRest =>
      simp [markup, text, ihLabel, ihRest, Piece.styled, Piece.write, Attr.write,
        Styles.styleAttribute]

/-- Without marks nothing stands before the closing tag of a link. -/
theorem write_plain (styles : Styles) (t : LinkTree) :
    t.plain.write styles = t.text styles fun _ => "" :=
  t.write_markup styles fun _ => []

/-- With marks it is the number in brackets, as a superscript. -/
theorem write_cited (styles : Styles) (t : LinkTree) :
    t.cited.write styles = t.text styles (markText styles) := by
  rw [cited, write_markup, funext (write_citationMark styles)]

/-- The numbers of the links with their labels, in the order in which the links end. -/
def links : LinkTree → List (Nat × LinkTree)
  | nil => []
  | piece _ _ rest => rest.links
  | link number label rest => label.links ++ (number, label) :: rest.links

/-- One tree after the other. -/
def append : LinkTree → LinkTree → LinkTree
  | nil, u => u
  | piece p hp rest, u => piece p hp (rest.append u)
  | link number label rest, u => link number label (rest.append u)

instance : Append LinkTree := ⟨append⟩

@[simp] theorem nil_append (u : LinkTree) : nil ++ u = u := rfl

@[simp] theorem piece_append (p : Piece) (hp : p.beginsLink = false) (rest u : LinkTree) :
    piece p hp rest ++ u = piece p hp (rest ++ u) := rfl

@[simp] theorem link_append (number : Nat) (label rest u : LinkTree) :
    link number label rest ++ u = link number label (rest ++ u) := rfl

@[simp] theorem markup_append (mark : Nat → Markup) (t u : LinkTree) :
    (t ++ u).markup mark = t.markup mark ++ u.markup mark := by
  induction t with
  | nil => rfl
  | piece p hp rest ih => simp [markup, ih]
  | link number label rest _ ih => simp [markup, ih]

@[simp] theorem plain_append (t u : LinkTree) : (t ++ u).plain = t.plain ++ u.plain :=
  markup_append _ t u

@[simp] theorem cited_append (t u : LinkTree) : (t ++ u).cited = t.cited ++ u.cited :=
  markup_append _ t u

@[simp] theorem links_append (t u : LinkTree) : (t ++ u).links = t.links ++ u.links := by
  induction t with
  | nil => rfl
  | piece p hp rest ih => simp [links, ih]
  | link number label rest _ ih => simp [links, ih]

/-- Markup without links. -/
def ofMarkup : (m : Markup) → m.linkless → LinkTree
  | [], _ => nil
  | p :: m, hm =>
      piece p (by simp_all [Markup.linkless]) (ofMarkup m (by simp_all [Markup.linkless]))

@[simp] theorem markup_ofMarkup (mark : Nat → Markup) : (m : Markup) → (hm : m.linkless) →
    (ofMarkup m hm).markup mark = m
  | [], _ => rfl
  | p :: m, _ => congrArg (p :: ·) (markup_ofMarkup mark m _)

@[simp] theorem plain_ofMarkup (m : Markup) (hm : m.linkless) : (ofMarkup m hm).plain = m :=
  markup_ofMarkup _ m hm

@[simp] theorem cited_ofMarkup (m : Markup) (hm : m.linkless) : (ofMarkup m hm).cited = m :=
  markup_ofMarkup _ m hm

@[simp] theorem links_ofMarkup : (m : Markup) → (hm : m.linkless) → (ofMarkup m hm).links = []
  | [], _ => rfl
  | _ :: m, _ => links_ofMarkup m _

/-- Content in markup that holds no links. -/
theorem exists_wrapped (t : LinkTree) {a b : Markup} (ha : a.linkless) (hb : b.linkless) :
    ∃ u : LinkTree, u.plain = a ++ t.plain ++ b ∧ u.cited = a ++ t.cited ++ b ∧
      u.links = t.links :=
  ⟨ofMarkup a ha ++ t ++ ofMarkup b hb, by simp, by simp, by simp⟩

end LinkTree

/-! ## Texts with tags put in -/

/-- The second text is the first one with tags put in before other tags, none of
which begins with the name `q`. -/
inductive TagsPut (q : List Char) : List Char → List Char → Prop
  | nil : TagsPut q [] []
  | cons (c : Char) {s t : List Char} (h : TagsPut q s t) : TagsPut q (c :: s) (c :: t)
  | put {a s t : List Char} (ha : '<' ∉ a) (hq : ¬ q <+: a) (h : TagsPut q ('<' :: s) t) :
      TagsPut q ('<' :: s) ('<' :: a ++ t)

namespace TagsPut

variable {q s t s' t' : List Char}

theorem refl : (s : List Char) → TagsPut q s s
  | [] => .nil
  | c :: s => .cons c (refl s)

theorem append (h : TagsPut q s t) (h' : TagsPut q s' t') : TagsPut q (s ++ s') (t ++ t') := by
  induction h with
  | nil => exact h'
  | cons c _ ih => exact .cons c ih
  | @put a s t ha hq _ ih =>
      have happend : '<' :: a ++ t ++ t' = '<' :: a ++ (t ++ t') := List.append_assoc ..
      rw [happend]
      exact .put ha hq ih

/-- What is put in begins like what it is put before. -/
theorem exists_cons {c : Char} (h : TagsPut q (c :: s) t) : ∃ r, t = c :: r := by
  cases h with
  | cons _ _ => exact ⟨_, rfl⟩
  | put _ _ _ => exact ⟨_, rfl⟩

/-- Both texts are blank, or neither is. -/
theorem blank_eq (h : TagsPut q s t) : blank s = blank t := by
  have hblank : isBlank '<' = false := by decide
  induction h with
  | nil => rfl
  | cons c _ ih => rw [blank_cons, blank_cons, ih]
  | put _ _ _ _ => simp [hblank]

/-- A text without `<` stands at the beginning of both texts or of neither. -/
theorem prefix_iff {p : List Char} (hp : '<' ∉ p) (h : TagsPut q s t) : p <+: s ↔ p <+: t := by
  induction h generalizing p with
  | nil => rfl
  | cons c _ ih =>
      cases p with
      | nil => simp
      | cons d p =>
          rw [List.cons_prefix_cons, List.cons_prefix_cons,
            ih fun hmem => hp (List.mem_cons_of_mem d hmem)]
  | put _ _ _ _ =>
      cases p with
      | nil => simp
      | cons d p =>
          have hd : d ≠ '<' := fun hd => hp (by simp [hd])
          simp [List.cons_prefix_cons, hd]

/-- The beginning of a tag with the name is found in both texts or in neither. -/
theorem infix_iff (hq : '<' ∉ q) (h : TagsPut q s t) : '<' :: q <:+: s ↔ '<' :: q <:+: t := by
  induction h with
  | nil => rfl
  | cons c h ih =>
      rw [List.infix_cons_iff, List.infix_cons_iff, ih, List.cons_prefix_cons,
        List.cons_prefix_cons, h.prefix_iff hq]
  | @put a s t ha hname h ih =>
      obtain ⟨r, rfl⟩ := h.exists_cons
      -- the name ends before the next tag begins, so it would have to be in what was put in
      have hprefix : ¬ '<' :: q <+: '<' :: (a ++ '<' :: r) := by
        rwa [List.cons_prefix_cons, and_iff_right rfl, prefix_append_cons_iff q a hq]
      rw [ih, ← infix_append_iff_of_notMem ha, List.cons_append]
      exact (or_iff_right hprefix).symm.trans List.infix_cons_iff.symm

end TagsPut

/-! ## Marks -/

section Search

variable {styles : Styles} (hstyles : ∀ d, styles.declarations? .footnote = some d → '<' ∉ d.toList)

include hstyles

theorem lt_notMem_footnoteAttribute : '<' ∉ (styles.styleAttribute .footnote).toList := by
  rw [Styles.styleAttribute, Styles.styleAttributeWith]
  split
  · next d hd =>
      have hnothing : Styles.escapeAttribute [] = [] := rfl
      simp [Styles.attributeValue, lt_notMem_escapeAttribute (hstyles d hd), hnothing]
  · simp

namespace LinkTree

/-- The marks of a tree are tags put in, none of which begins with a name that is
not that of a superscript. -/
theorem tagsPut_write {c : Char} {q : List Char} (hopen : c ≠ 's') (hclose : c ≠ '/') :
    (t : LinkTree) →
      TagsPut (c :: q) (t.plain.write styles).toList (t.cited.write styles).toList
  | nil => .nil
  | piece p _ rest => by
      have ih := tagsPut_write hopen hclose (q := q) rest
      simpa [plain, cited, markup] using (TagsPut.refl (p.write styles).toList).append ih
  | link number label rest => by
      have ihLabel := tagsPut_write hopen hclose (q := q) label
      have ihRest := tagsPut_write hopen hclose (q := q) rest
      have hmark : TagsPut (c :: q) "</span>".toList
          ((citationMark number).write styles ++ "</span>").toList := by
        have hsup : '<' ∉ "sup".toList ++ (styles.styleAttribute .footnote).toList ++
            ">[".toList ++ (toString number).toList ++ "]".toList := by
          simp [lt_notMem_footnoteAttribute hstyles, notMem_toDigits (c := '<') (by decide)]
        have hend : TagsPut (c :: q) ('<' :: "/span>".toList)
            ('<' :: "/sup>".toList ++ '<' :: "/span>".toList) :=
          .put (by decide) (by simp [List.cons_prefix_cons, hclose]) (.refl _)
        have hput := TagsPut.put hsup (by simp [List.cons_prefix_cons, hopen]) hend
        simpa [write_citationMark, markText] using hput
      simpa [plain, cited, markup, Piece.write] using
        (((TagsPut.refl ((Piece.styled "span" .link).write styles).toList).append ihLabel).append
          hmark).append ihRest

/-- No figure comes with the marks. -/
theorem isFigure_plain (t : LinkTree) :
    isFigure (t.plain.write styles) = isFigure (t.cited.write styles) := by
  have hcontains {c : Char} {q : List Char} (hopen : c ≠ 's') (hclose : c ≠ '/')
      (hq : '<' ∉ c :: q) :
      contains ('<' :: c :: q) (t.plain.write styles).toList =
        contains ('<' :: c :: q) (t.cited.write styles).toList := by
    rw [Bool.eq_iff_iff, contains_iff, contains_iff]
    exact (tagsPut_write hstyles hopen hclose t).infix_iff hq
  have hfigure : containsText "<figure" (t.plain.write styles) =
      containsText "<figure" (t.cited.write styles) :=
    hcontains (c := 'f') (q := "igure".toList) (by decide) (by decide) (by decide)
  have himage : containsText "<img" (t.plain.write styles) =
      containsText "<img" (t.cited.write styles) :=
    hcontains (c := 'i') (q := "mg".toList) (by decide) (by decide) (by decide)
  rw [isFigure, isFigure, hfigure, himage]

/-- Nor does any ink where there is none. -/
theorem blankText_plain (t : LinkTree) :
    blankText (t.plain.write styles) = blankText (t.cited.write styles) :=
  (tagsPut_write hstyles (c := 'f') (q := []) (by decide) (by decide) t).blank_eq

end LinkTree

end Search

end Broadsheet
