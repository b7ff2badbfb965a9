import Broadsheet.Proofs.Html.Tokens
import Broadsheet.Proofs.Text.Replacing

/-!
# Broadsheet.Proofs.Html.Imageless

Markup without images, and that it is written without the beginning of an
image's tag.  Whether content is a figure is told by a search in what was
written for it.  Such a search could find a match that begins in one piece and
ends in another, so `imageless` asks more of a text: after each `<` in it, what
follows departs from the name of an image before the text ends.  Then it does so
whatever is written next, and the pieces can be looked at one by one.
-/

namespace Broadsheet

/-! ## Texts -/

/-- Whether a text departs from `p` before either of them ends. -/
def departs : (p s : List Char) → Bool
  | p :: ps, c :: cs => p != c || departs ps cs
  | _, _ => false

/-- A text that has departed stays so, whatever follows it. -/
theorem departs_append : {p s : List Char} → (t : List Char) → departs p s → departs p (s ++ t)
  | [], [], _, h | [], _ :: _, _, h | _ :: _, [], _, h => by simp [departs] at h
  | p :: ps, c :: cs, t, h => by
      rw [departs, Bool.or_eq_true] at h
      rw [List.cons_append, departs, Bool.or_eq_true]
      exact h.imp_right (departs_append t)

/-- A text that departs from another one does not begin with it. -/
theorem not_prefix_of_departs : {p s : List Char} → departs p s → ¬ p <+: s
  | [], [], h | [], _ :: _, h | _ :: _, [], h => by simp [departs] at h
  | p :: ps, c :: cs, h => by
      rw [departs, Bool.or_eq_true, bne_iff_ne] at h
      rw [List.cons_prefix_cons]
      rintro ⟨hc, hprefix⟩
      exact h.elim (· hc) (not_prefix_of_departs · hprefix)

/-- Whether no `<` of a text begins the tag of an image, whatever follows the text. -/
def imageless : List Char → Bool
  | [] => true
  | c :: cs => (c != '<' || departs "img".toList cs) && imageless cs

/-- Texts without images can be written one after another. -/
theorem imageless_append : {s t : List Char} → imageless s → imageless t → imageless (s ++ t)
  | [], _, _, ht => ht
  | c :: cs, t, hs, ht => by
      obtain ⟨hc, hcs⟩ : (c != '<' || departs "img".toList cs) ∧ imageless cs := by
        simpa [imageless] using hs
      rw [List.cons_append, imageless, Bool.and_eq_true]
      refine ⟨?_, imageless_append hcs ht⟩
      rw [Bool.or_eq_true] at hc ⊢
      exact hc.imp_right (departs_append t)

/-- A text without `<` is one without images. -/
theorem imageless_of_notMem : {s : List Char} → '<' ∉ s → imageless s
  | [], _ => rfl
  | c :: cs, h => by
      obtain ⟨hc, hcs⟩ : '<' ≠ c ∧ '<' ∉ cs := by simpa using h
      simp [imageless, Ne.symm hc, imageless_of_notMem hcs]

/-- Nowhere in such a text an image begins. -/
theorem not_infix_of_imageless : {s : List Char} → imageless s → ¬ "<img".toList <:+: s
  | [], _ => by simp
  | c :: cs, h => by
      obtain ⟨hc, hcs⟩ : (c != '<' || departs "img".toList cs) ∧ imageless cs := by
        simpa [imageless] using h
      rw [List.infix_cons_iff, not_or]
      refine ⟨?_, not_infix_of_imageless hcs⟩
      rw [show "<img".toList = '<' :: "img".toList from rfl, List.cons_prefix_cons]
      rintro ⟨rfl, hprefix⟩
      exact not_prefix_of_departs (by simpa using hc) hprefix

/-- So the search finds none. -/
theorem containsText_of_imageless {s : String} (h : imageless s.toList) :
    containsText "<img" s = false := by
  rw [containsText, contains]
  cases hcut : cut? "<img".toList s.toList with
  | none => rfl
  | some parts =>
      obtain ⟨before, rest⟩ := parts
      exact absurd ⟨before, rest, (eq_of_cut? hcut).symm⟩ (not_infix_of_imageless h)

/-! ## Markup -/

/-- Whether an attribute is written without `<`, but for the styles of its kind. -/
def Attr.isPlain : Attr → Bool
  | fixed name value => !name.toList.contains '<' && !value.toList.contains '<'
  | escaped name _ | flag name => !name.toList.contains '<'
  | themed _ addition => !addition.toList.contains '<'

/-- Whether a tag with a name is none of an image. -/
def isPlainTag (name : String) (attrs : List Attr) : Bool :=
  departs "img".toList name.toList && !name.toList.contains '<' && attrs.all Attr.isPlain

/-- Whether a piece is no image's tag. -/
def Piece.isPlain : Piece → Bool
  | startTag name attrs | voidTag name attrs _ => isPlainTag name attrs
  | endTag name => !name.toList.contains '<'
  | text _ => true
  | raw s => !s.toList.contains '<'

/-- Whether markup has no image in it. -/
def Markup.isPlain (m : Markup) : Bool := m.all Piece.isPlain

@[simp] theorem Markup.isPlain_append (m n : Markup) :
    isPlain (m ++ n) = (isPlain m && isPlain n) :=
  List.all_append

/-- Styles whose declarations hold no `<`. -/
def Styles.WithoutTags (styles : Styles) : Prop :=
  ∀ kind d, styles.declarations? kind = some d → '<' ∉ d.toList

theorem lt_notMem_escapeAttribute {s : List Char} (h : '<' ∉ s) :
    '<' ∉ Styles.escapeAttribute s := by
  simp only [Styles.escapeAttribute, List.mem_flatMap, not_exists, not_and]
  intro c hc
  split
  · decide
  · simpa using (ne_of_mem_of_not_mem hc h).symm

section Written

variable {styles : Styles} (hstyles : styles.WithoutTags)

include hstyles

/-- A plain attribute is written without `<`. -/
theorem lt_notMem_attribute {a : Attr} (h : a.isPlain) : '<' ∉ (a.write styles).toList := by
  cases a with
  | fixed name value =>
      obtain ⟨hname, hvalue⟩ : '<' ∉ name.toList ∧ '<' ∉ value.toList := by
        simpa [Attr.isPlain] using h
      simp [Attr.write, hname, hvalue]
  | escaped name value =>
      have hname : '<' ∉ name.toList := by simpa [Attr.isPlain] using h
      simp [Attr.write, escapeText, hname, lt_notMem_escape value.toList]
  | flag name =>
      have hname : '<' ∉ name.toList := by simpa [Attr.isPlain] using h
      simp [Attr.write, hname]
  | themed kind addition =>
      have haddition : '<' ∉ addition.toList := by simpa [Attr.isPlain] using h
      rw [Attr.write, Styles.styleAttributeWith]
      split
      · next d hd =>
          simp [Styles.attributeValue, lt_notMem_escapeAttribute (hstyles kind d hd),
            lt_notMem_escapeAttribute haddition]
      · simp

theorem lt_notMem_attributes {attrs : List Attr} (h : attrs.all Attr.isPlain) :
    '<' ∉ (Attr.writeAll styles attrs).toList := by
  induction attrs with
  | nil => simp
  | cons a attrs ih =>
      obtain ⟨ha, hattrs⟩ : a.isPlain ∧ attrs.all Attr.isPlain := by simpa using h
      rw [Attr.writeAll_cons, String.toList_append, List.mem_append, not_or]
      exact ⟨lt_notMem_attribute hstyles ha, ih hattrs⟩

/-- The beginning of a plain tag: its name departs from that of an image before it ends. -/
theorem imageless_tag {name : String} {attrs : List Attr} (h : isPlainTag name attrs) :
    imageless ("<" ++ name ++ Attr.writeAll styles attrs).toList := by
  obtain ⟨⟨hdeparts, hname⟩, hattrs⟩ : (departs "img".toList name.toList ∧ '<' ∉ name.toList) ∧
      attrs.all Attr.isPlain := by simpa only [isPlainTag, Bool.and_eq_true, Bool.not_eq_true',
        List.contains_eq_mem, decide_eq_false_iff_not] using h
  have hrest : '<' ∉ (name.toList ++ (Attr.writeAll styles attrs).toList) := by
    rw [List.mem_append, not_or]
    exact ⟨hname, lt_notMem_attributes hstyles hattrs⟩
  have htag : ("<" ++ name ++ Attr.writeAll styles attrs).toList =
      '<' :: (name.toList ++ (Attr.writeAll styles attrs).toList) := by simp
  rw [htag, imageless, Bool.and_eq_true, Bool.or_eq_true]
  exact ⟨.inr (departs_append _ hdeparts), imageless_of_notMem hrest⟩

/-- A plain piece is written without the beginning of an image's tag. -/
theorem imageless_piece {p : Piece} (h : p.isPlain) : imageless (p.write styles).toList := by
  cases p with
  | startTag name attrs =>
      rw [Piece.write, String.toList_append]
      exact imageless_append (imageless_tag hstyles h) (by decide)
  | voidTag name attrs ending =>
      rw [Piece.write, String.toList_append]
      exact imageless_append (imageless_tag hstyles h) (by cases ending <;> decide)
  | endTag name =>
      have hname : '<' ∉ (name ++ ">").toList := by simpa [Piece.isPlain] using h
      rw [Piece.write, String.append_assoc, String.toList_append]
      -- the slash already departs from every name
      exact imageless_append (s := "</".toList) (by decide) (imageless_of_notMem hname)
  | text s =>
      exact imageless_of_notMem (by simpa [Piece.write, escapeText] using lt_notMem_escape s.toList)
  | raw s => exact imageless_of_notMem (by simpa [Piece.write, Piece.isPlain] using h)

/-- Markup without images is written without the beginning of an image's tag. -/
theorem imageless_write {m : Markup} (h : m.isPlain) : imageless (m.write styles).toList := by
  induction m with
  | nil => rfl
  | cons p m ih =>
      obtain ⟨hp, hm⟩ : p.isPlain ∧ Markup.isPlain m := by simpa [Markup.isPlain] using h
      rw [Markup.write_cons, String.toList_append]
      exact imageless_append (imageless_piece hstyles hp) (ih hm)

end Written

end Broadsheet
