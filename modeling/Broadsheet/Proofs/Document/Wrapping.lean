import Broadsheet.Proofs.Document.Drawing

/-!
# Broadsheet.Proofs.Document.Wrapping

What is written around content, and that none of it is the mark of a citation.
The closing event of an element writes what its content wrote, with markup of
its own before and after it (`Markup.Wraps`).  A citation's mark begins with one
piece that the renderer writes nowhere else: a superscript with the style of
marks.  So marks can be counted in markup, whatever else is written.

`markText` is the text of a mark, and `citedText` that of a cited link with its
mark in it.
-/

namespace Broadsheet

/-! ## Marks -/

/-- The text of a mark: the number in brackets, as a superscript. -/
def markText (styles : Styles) (number : Nat) : String :=
  "<sup" ++ styles.styleAttribute .footnote ++ ">[" ++ toString number ++ "]</sup>"

/-- The text of a cited link: its label, with the mark at the end of its span. -/
def citedText (styles : Styles) (number : Nat) (label : Markup) : String :=
  "<span" ++ styles.styleAttribute .link ++ ">" ++ label.write styles ++
    markText styles number ++ "</span>"

/-- A mark is written as its text. -/
theorem write_citationMark (styles : Styles) (number : Nat) :
    (citationMark number).write styles = markText styles number := by
  rw [← String.toList_inj]
  simp [citationMark, markText, Piece.styled, Piece.write, Attr.write, Styles.styleAttribute]

/-- A cited link is written as its text. -/
theorem write_cited (styles : Styles) (number : Nat) (label : Markup) :
    (citedMarkup number label).write styles = citedText styles number label := by
  rw [citedMarkup, Markup.write_append, Markup.write_append, Markup.write_append,
    write_citationMark, ← String.toList_inj]
  simp [citedText, Piece.styled, Piece.write, Attr.write, Styles.styleAttribute]

/-- Whether a piece begins the mark of a citation. -/
def Piece.beginsMark : Piece → Bool
  | .startTag name [.themed .footnote _] => name == "sup"
  | _ => false

namespace Markup

/-- Whether markup holds no mark of a citation. -/
def unmarked (m : Markup) : Bool := m.all fun p => !p.beginsMark

@[simp] theorem unmarked_nil : unmarked [] = true := rfl

@[simp] theorem unmarked_append (m n : Markup) : unmarked (m ++ n) = (unmarked m && unmarked n) :=
  List.all_append

/-- `whole` is `content` with unmarked markup around it. -/
def Wraps (content whole : Markup) : Prop :=
  ∃ a b : Markup, a.unmarked ∧ b.unmarked ∧ whole = a ++ content ++ b

/-- Content with nothing around it. -/
theorem Wraps.refl (m : Markup) : Wraps m m := ⟨[], [], rfl, rfl, by simp⟩

/-- Unmarked markup is one that wraps nothing. -/
theorem Wraps.of_unmarked {m : Markup} (hm : m.unmarked) : Wraps [] m :=
  ⟨m, [], hm, rfl, by simp⟩

theorem Wraps.append_right {content n : Markup} (hn : n.unmarked) : Wraps content (content ++ n) :=
  ⟨[], n, rfl, hn, by simp⟩

end Markup

open Markup (Wraps)

/-- A figure holds no mark. -/
theorem unmarked_figure (cfg : RenderSettings) (i : PendingImage) : (figure cfg i).unmarked := by
  unfold figure
  simp only [Markup.unmarked_append, Bool.and_eq_true]
  refine ⟨⟨rfl, ?_⟩, rfl⟩
  split <;> rfl

/-- An event that stands alone writes no mark. -/
theorem unmarked_leaf (alt : Bool) (l : Leaf) : (l.markup alt).unmarked := by
  cases l with
  | taskMarker checked => cases checked <;> rfl
  | _ => cases alt <;> rfl

/-- A code block is no mark, and a diagram is raw text. -/
theorem unmarked_code (c : PendingCode) (a : CodeAnswer) : (c.markup a).unmarked := by
  unfold PendingCode.markup
  split
  · cases a <;> rfl
  · rfl

/-! ## Wrappers -/

/-- A paragraph is wrapped in its tags, or left as it is where it would be empty or hold a
figure only. -/
theorem wraps_paragraph (cfg : RenderSettings) (enclosure : Option Enclosure) (content : Markup) :
    Wraps content (paragraphMarkup cfg enclosure content) := by
  by_cases hbare : isFigure (content.write cfg.styles) || blankText (content.write cfg.styles)
  · rw [paragraphMarkup, if_pos hbare]
    exact Wraps.refl content
  · rw [paragraphMarkup, if_neg hbare]
    cases Enclosure.paragraphKind enclosure with
    | some kind => exact ⟨[.styled "p" kind], [.endTag "p"], by cases kind <;> rfl, rfl, rfl⟩
    | none => exact Wraps.refl content

theorem wraps_heading (level : HeadingLevel) (content : Markup) :
    Wraps content (headingMarkup level content) :=
  ⟨[.styled level.name (.heading level)], [.endTag level.name], rfl, rfl, rfl⟩

/-- A link without a citation around its label. -/
theorem wraps_link (l : PendingLink) (label : Markup) : Wraps label (l.markup label) := by
  unfold PendingLink.markup
  split
  · exact ⟨_, [.endTag "a"], rfl, rfl, rfl⟩
  · split
    · exact Wraps.refl label
    · exact ⟨[.styled "span" .link], [.endTag "span"], rfl, rfl, rfl⟩

/-- A start tag begins no mark. -/
theorem unmarked_openTag (numbering : Option ListNumbering) (table : TableCursor) (t : Tag) :
    (t.markup numbering table).unmarked := by
  cases t with
  | quote alert => cases alert <;> rfl
  | list start => cases start <;> rfl
  | _ => rfl

theorem unmarked_closeTag (t : TagEnd) : t.markup.unmarked := by
  cases t <;> rfl

/-- Every element wraps what it holds, but for links outside images. -/
theorem wraps_close (cfg : RenderSettings) (place : Place) (t : Tag) (p : Pen) (k : Stroke)
    (hlink : t.isLink → place.alt) : Wraps k.markup (k.close cfg place t p).markup := by
  cases t with
  | paragraph => exact wraps_paragraph cfg place.enclosure k.markup
  | heading level => exact wraps_heading level k.markup
  | link href title =>
      simp only [Stroke.close, if_pos (hlink rfl)]
      exact Wraps.refl k.markup
  | image src title => exact Wraps.append_right (unmarked_figure cfg _)
  | _ => exact ⟨_, _, unmarked_openTag _ _ _, unmarked_closeTag _, rfl⟩

end Broadsheet
