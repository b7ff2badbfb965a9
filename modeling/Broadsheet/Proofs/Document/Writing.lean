import Broadsheet.Proofs.Document.Outcomes

/-!
# Broadsheet.Proofs.Document.Writing

What holds of all that a rendering writes.  A rendering puts its output together
from texts and tags of its own, the author's HTML, and code blocks, and it
moves whole outputs when it captures.  So a property of markup that joins
(`Upheld.append`) and that all that a rendering writes by itself has, `Upheld`,
is one of every output that a stream of events leads to, balanced or not, as far
as HTML and code blocks have it.
-/

namespace Broadsheet

/-- A property of markup that joins and that everything has which is written by
the rendering itself, around content that has it. -/
structure Upheld (cfg : RenderSettings) (P : Markup → Prop) : Prop where
  nil : P []
  append : ∀ {m n : Markup}, P m → P n → P (m ++ n)
  tag : ∀ numbering table (t : Tag), P (t.markup numbering table)
  tagEnd : ∀ t : TagEnd, P t.markup
  paragraph : ∀ enclosure {m : Markup}, P m → P (paragraphMarkup cfg enclosure m)
  heading : ∀ level {m : Markup}, P m → P (headingMarkup level m)
  link : ∀ (l : PendingLink) {m : Markup}, P m → P (l.markup m)
  cited : ∀ number {m : Markup}, P m → P (citedMarkup number m)
  figure : ∀ i, P (figure cfg i)
  text : ∀ t, P [.text t]
  codeSpan : ∀ t, P (codeSpanMarkup t)
  lineBreak : P lineBreakMarkup
  rule : P ruleMarkup
  task : ∀ checked, P (taskMarkup checked)

namespace RenderState

/-- The output and all that waits have a property. -/
structure Holds (P : Markup → Prop) (s : RenderState) : Prop where
  output : P s.output
  saved : ∀ m ∈ s.saved, P m

namespace Holds

variable {cfg : RenderSettings} {P : Markup → Prop} (hP : Upheld cfg P) {s : RenderState}

include hP

/-- Nothing is written yet. -/
theorem initial : RenderState.initial.Holds P := ⟨hP.nil, by simp [RenderState.initial]⟩

theorem emit {m : Markup} (h : s.Holds P) (hm : P m) : (s.emit m).Holds P :=
  ⟨hP.append h.output hm, h.saved⟩

/-- The output so far has to wait, and nothing is captured yet. -/
theorem beginCapture (h : s.Holds P) : s.beginCapture.Holds P :=
  ⟨hP.nil, by simpa [RenderState.beginCapture] using ⟨h.output, h.saved⟩⟩

/-- The output that waited goes on; without one, it is empty. -/
theorem endCapture (h : s.Holds P) : s.endCapture.2.Holds P := by
  cases hsaved : s.saved with
  | nil =>
      exact ⟨by simpa [RenderState.endCapture, hsaved] using hP.nil,
        by simp [RenderState.endCapture, hsaved]⟩
  | cons m ms =>
      have hms : ∀ n ∈ m :: ms, P n := hsaved ▸ h.saved
      obtain ⟨hm, hms⟩ := List.forall_mem_cons.mp hms
      exact ⟨by simpa [RenderState.endCapture, hsaved] using hm,
        by simpa [RenderState.endCapture, hsaved] using hms⟩

/-- An opening event writes its tag, or begins to capture. -/
theorem openTag (h : s.Holds P) (t : Tag) : (s.openTag t).Holds P := by
  have hemit := h.emit hP (hP.tag s.lists.head? s.table t)
  cases t with
  | paragraph | heading level => exact h.beginCapture hP
  | quote alert | list start | item | table columns | tableHead | tableRow =>
      exact ⟨hemit.output, hemit.saved⟩
  | tableCell | emphasis | strong | strikethrough | superscript | subscript => exact hemit
  | link href title =>
      unfold RenderState.openTag
      dsimp only
      split
      · exact h
      · exact beginCapture hP ⟨h.output, h.saved⟩
  | fencedCode info | indentedCode | image src title => exact ⟨h.output, h.saved⟩
  | footnoteDefinition label | htmlBlock | metadata | definitionList | definitionTitle
  | definitionBody => exact h

/-- A link is cited, or written around its label. -/
theorem link {m : Markup} (h : s.Holds P) (hm : P m) (l : PendingLink) :
    (s.link cfg l m).Holds P := by
  unfold RenderState.link
  split
  · exact emit hP ⟨h.output, h.saved⟩ (hP.cited _ hm)
  · exact h.emit hP (hP.link l hm)

/-- A closing event writes its tag, or what was captured with a wrapper of the rendering around
it. -/
theorem closeTag (h : s.Holds P) (t : TagEnd) : (s.closeTag cfg t).Holds P := by
  have hemit := h.emit hP (hP.tagEnd t)
  have hended := h.endCapture hP
  cases t with
  | paragraph => exact hended.emit hP (hP.paragraph _ h.output)
  | heading level => exact hended.emit hP (hP.heading level h.output)
  | link =>
      unfold RenderState.closeTag
      dsimp only
      split
      · exact h
      · split
        · exact hended
        · next l ls _ =>
            have hrest : Holds P { s.endCapture.2 with links := ls } :=
              ⟨hended.output, hended.saved⟩
            exact hrest.link hP h.output l
  | image =>
      unfold RenderState.closeTag
      dsimp only
      split
      · exact h
      · exact emit hP ⟨h.output, h.saved⟩ (hP.figure _)
  | quote | item | list ordered | tableCell => exact ⟨hemit.output, hemit.saved⟩
  | table | tableHead | tableRow | emphasis | strong | strikethrough | superscript | subscript =>
      exact hemit
  | code | footnoteDefinition | htmlBlock | metadata | definitionList | definitionTitle
  | definitionBody => exact h

/-- Events that call no service keep the property, HTML as far as it has it. -/
theorem quietStep (h : s.Holds P) (e : Event)
    (hraw : ∀ t, e = .html t ∨ e = .inlineHtml t → P [.raw t]) :
    (s.quietStep cfg e).Holds P := by
  cases e with
  | opening t => exact h.openTag hP t
  | closing t => exact h.closeTag hP t
  | text t =>
      unfold RenderState.quietStep RenderState.text
      dsimp only
      split
      · exact ⟨h.output, h.saved⟩
      · exact ⟨h.output, h.saved⟩
      · exact emit hP ⟨h.output, h.saved⟩ (hP.text t)
  | code t =>
      unfold RenderState.quietStep RenderState.inlineCode
      dsimp only
      split
      · exact ⟨h.output, h.saved⟩
      · exact emit hP ⟨h.output, h.saved⟩ (hP.codeSpan t)
  | softBreak | hardBreak =>
      unfold RenderState.quietStep RenderState.lineBreak
      dsimp only
      split
      · exact ⟨h.output, h.saved⟩
      · exact h.emit hP hP.lineBreak
  | html t => exact h.emit hP (hraw t (.inl rfl))
  | inlineHtml t => exact h.emit hP (hraw t (.inr rfl))
  | rule => exact h.emit hP hP.rule
  | taskMarker checked => exact h.emit hP (hP.task checked)
  | footnoteReference label | inlineMath t | displayMath t => exact h

/-- A code block keeps the property if it has it. -/
theorem endCode (h : s.Holds P) {c : PendingCode} {a : CodeAnswer} (hcode : P (c.markup a)) :
    (s.endCode c a).Holds P :=
  ⟨hP.append h.output hcode, h.saved⟩

end Holds

end RenderState

end Broadsheet
