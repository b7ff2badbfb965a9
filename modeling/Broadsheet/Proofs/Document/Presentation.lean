import Broadsheet.Proofs.Document.Faults
import Broadsheet.Proofs.Document.Writing
import Broadsheet.Proofs.Html.Unthemed

/-!
# Broadsheet.Proofs.Document.Presentation

Styles are presentational: of any stream, balanced or not, two renderings with
other styles differ in the attributes of the theme only.

A rendering reads its styles in one place, when a paragraph is searched for a
figure.  There the search finds the same with all styles (`Html/Unthemed`), as
long as no `<` comes with an attribute of the theme but from its styles.  That
holds of all that is written or captured (`RenderState.AddsNoTag`), so two
renderings go through the same states:

* `run_withStyles`: the state after a stream is the same with all styles;
* `rendered_presentational`: what is seen of the two, and what the services see.
-/

namespace Broadsheet

/-! ## Styles without tags -/

/-- Styles whose property names and values hold no `<`. -/
def Styles.HoldNoTag (styles : Styles) : Prop :=
  ∀ kind properties, styles.entry? kind = some properties →
    ∀ name value : String, properties[name]? = some value →
      '<' ∉ name.toList ∧ '<' ∉ value.toList

/-- A character that no text holds, nor what separates them, is in none of what they are joined
to. -/
theorem lt_notMem_intercalate {separator : String} (hseparator : '<' ∉ separator.toList) :
    {texts : List String} → (∀ t ∈ texts, '<' ∉ t.toList) →
      '<' ∉ (separator.intercalate texts).toList
  | [], _ => by simp
  | [t], h => by simpa using h t List.mem_cons_self
  | t :: u :: texts, h => by
      have ih : '<' ∉ (separator.intercalate (u :: texts)).toList :=
        lt_notMem_intercalate hseparator fun v hv => h v (List.mem_cons_of_mem t hv)
      rw [String.intercalate_cons_cons, String.toList_append, String.toList_append,
        List.mem_append, List.mem_append, not_or, not_or]
      exact ⟨⟨h t List.mem_cons_self, hseparator⟩, ih⟩

/-- Properties without `<` are written as declarations without it. -/
theorem Styles.HoldNoTag.withoutTags {styles : Styles} (h : styles.HoldNoTag) :
    styles.WithoutTags := by
  intro kind d hd
  obtain ⟨properties, hentry, rfl⟩ : ∃ properties, styles.entry? kind = some properties ∧
      Properties.write properties = d := by
    simpa [declarations?] using hd
  refine lt_notMem_intercalate (by decide) fun t ht => ?_
  obtain ⟨⟨name, value⟩, hmem, rfl⟩ := List.mem_map.mp ht
  obtain ⟨hname, hvalue⟩ :=
    h kind properties hentry name value (Std.ExtTreeMap.mem_toList_iff_getElem?_eq_some.mp hmem)
  simp [hname, hvalue]

/-! ## What is written -/

section Markup

variable {m : Markup}

/-- The tags that open an element: the alignment of a cell is one of three words. -/
theorem addsNoTag_tagMarkup (numbering : Option ListNumbering) (table : TableCursor) (t : Tag) :
    (t.markup numbering table).addsNoTag := by
  cases t with
  | quote alert => cases alert <;> rfl
  | list start => cases start <;> rfl
  | tableCell =>
      have halignment : '<' ∉ table.alignment.toList := by
        unfold TableCursor.alignment
        split <;> decide
      simpa [Tag.markup, Markup.addsNoTag, Piece.addsNoTag, Attr.addsNoTag] using halignment
  | _ => rfl

theorem addsNoTag_tagEndMarkup (t : TagEnd) : t.markup.addsNoTag := by
  cases t <;> rfl

/-- A paragraph around its content, if it has a tag at all. -/
theorem addsNoTag_paragraphMarkup (cfg : RenderSettings) (enclosure : Option Enclosure)
    (hm : m.addsNoTag) : (paragraphMarkup cfg enclosure m).addsNoTag := by
  unfold paragraphMarkup
  dsimp only
  split
  · exact hm
  · cases Enclosure.paragraphKind enclosure with
    | none => exact hm
    | some kind =>
        rw [Markup.addsNoTag_append, Markup.addsNoTag_append, hm]
        rfl

theorem addsNoTag_headingMarkup (level : HeadingLevel) (hm : m.addsNoTag) :
    (headingMarkup level m).addsNoTag := by
  rw [headingMarkup, Markup.addsNoTag_append, Markup.addsNoTag_append, hm]
  rfl

/-- A link around its label, whatever it leads to: its address is escaped. -/
theorem addsNoTag_linkMarkup (l : PendingLink) (hm : m.addsNoTag) : (l.markup m).addsNoTag := by
  unfold PendingLink.markup
  split
  · rw [Markup.addsNoTag_append, Markup.addsNoTag_append, hm]
    rfl
  · split
    · exact hm
    · rw [Markup.addsNoTag_append, Markup.addsNoTag_append, hm]
      rfl

theorem addsNoTag_citedMarkup (number : Nat) (hm : m.addsNoTag) :
    (citedMarkup number m).addsNoTag := by
  rw [citedMarkup, Markup.addsNoTag_append, Markup.addsNoTag_append, Markup.addsNoTag_append, hm]
  rfl

/-- A figure: the address and the texts of an image are escaped. -/
theorem addsNoTag_figure (cfg : RenderSettings) (i : PendingImage) :
    (figure cfg i).addsNoTag := by
  unfold figure
  dsimp only
  split <;> rfl

/-- A code block; a diagram is written as a service gave it, without attributes of the theme. -/
theorem addsNoTag_codeMarkup (c : PendingCode) (a : CodeAnswer) : (c.markup a).addsNoTag := by
  unfold PendingCode.markup
  split
  · cases a <;> rfl
  · cases a <;> rfl

end Markup

/-! ## States -/

/-- No `<` comes with the attributes of the theme, in the output or in what waits, but from their
styles. -/
structure RenderState.AddsNoTag (r : RenderState) : Prop where
  output : r.output.addsNoTag
  saved : ∀ m ∈ r.saved, Markup.addsNoTag m

/-- No tag comes with the attributes of what a rendering writes by itself. -/
theorem upheld_addsNoTag (cfg : RenderSettings) : Upheld cfg fun m => m.addsNoTag where
  nil := rfl
  append hm hn := by rw [Markup.addsNoTag_append, hm, hn]; rfl
  tag := addsNoTag_tagMarkup
  tagEnd := addsNoTag_tagEndMarkup
  paragraph enclosure _ hm := addsNoTag_paragraphMarkup cfg enclosure hm
  heading level _ hm := addsNoTag_headingMarkup level hm
  link l _ hm := addsNoTag_linkMarkup l hm
  cited number _ hm := addsNoTag_citedMarkup number hm
  figure := addsNoTag_figure cfg
  text _ := rfl
  codeSpan _ := rfl
  lineBreak := rfl
  rule := rfl
  task checked := by cases checked <;> rfl

namespace RenderState.AddsNoTag

variable {cfg : RenderSettings} {r : RenderState}

theorem iff_holds : r.AddsNoTag ↔ r.Holds fun m => m.addsNoTag :=
  ⟨fun h => ⟨h.output, h.saved⟩, fun h => ⟨h.output, h.saved⟩⟩

/-- A rendering begins with nothing written. -/
theorem initial : RenderState.initial.AddsNoTag :=
  iff_holds.mpr (RenderState.Holds.initial (upheld_addsNoTag (.ofStyles .empty)))

/-- An event that calls no service keeps to it, the author's HTML included: that is no attribute. -/
theorem quietStep (h : r.AddsNoTag) (e : Event) : (r.quietStep cfg e).AddsNoTag :=
  iff_holds.mpr ((iff_holds.mp h).quietStep (upheld_addsNoTag cfg) e fun _ _ => rfl)

/-- A code block keeps to it, whatever its service gave. -/
theorem endCode (h : r.AddsNoTag) (c : PendingCode) (a : CodeAnswer) : (r.endCode c a).AddsNoTag :=
  iff_holds.mpr ((iff_holds.mp h).endCode (upheld_addsNoTag (.ofStyles .empty))
    (addsNoTag_codeMarkup c a))

end RenderState.AddsNoTag

/-! ## Two renderings -/

section Renderings

variable (cfg : RenderSettings) {styles styles' : Styles} (hstyles : styles.WithoutTags)
  (hstyles' : styles'.WithoutTags)

include hstyles hstyles'

/-- Events that call no service do the same with all styles. -/
theorem quietStep_withStyles {r : RenderState} (h : r.AddsNoTag) (e : Event) :
    r.quietStep (cfg.withStyles styles) e = r.quietStep (cfg.withStyles styles') e := by
  cases e with
  | closing t =>
      cases t with
      | paragraph =>
          have hcontent : r.endCapture.1.addsNoTag := h.output
          unfold RenderState.quietStep RenderState.closeTag
          dsimp only
          rw [paragraphMarkup_withStyles cfg hstyles hstyles' _ hcontent]
      | _ => rfl
  | _ => rfl

/-- **A stream leads to the same state with all styles.** -/
theorem run_withStyles {σ : Type} (services : Services (StateM σ)) (events : List Event)
    {r : RenderState} (h : r.AddsNoTag) :
    r.run services (cfg.withStyles styles) events =
      r.run services (cfg.withStyles styles') events := by
  induction events generalizing r with
  | nil => rw [RenderState.run_nil, RenderState.run_nil]
  | cons e es ih =>
      rw [RenderState.run_cons, RenderState.run_cons]
      by_cases he : e = .closing .code
      · subst he
        change r.closeCode services >>= _ = r.closeCode services >>= _
        rw [RenderState.closeCode, bind_assoc, bind_assoc]
        refine congrArg (services.answer _ _ >>= ·) (funext fun a => ?_)
        rw [pure_bind, pure_bind, ih (h.endCode _ a)]
      · rw [RenderState.step_of_ne _ _ _ he, RenderState.step_of_ne _ _ _ he, pure_bind, pure_bind,
          quietStep_withStyles cfg hstyles hstyles' h]
        exact ih (h.quietStep e)

end Renderings

/-- **Styles are presentational**, whatever the stream and the services.  If the properties of two
styles hold no `<`, the texts of the two renderings differ in the attributes of the theme only;
the warnings, the calls and the citations are the same. -/
theorem rendered_presentational {σ : Type} (services : Services (StateM σ)) (cfg : RenderSettings)
    {styles styles' : Styles} (hstyles : styles.HoldNoTag) (hstyles' : styles'.HoldNoTag)
    (events : List Event) (h : σ) :
    let final := (services.loggedRun (cfg.withStyles styles) events h).1
    let final' := (services.loggedRun (cfg.withStyles styles') events h).1
    let rendered := ((renderEvents services (cfg.withStyles styles) events).run h).1
    let rendered' := ((renderEvents services (cfg.withStyles styles') events).run h).1
    rendered.html = final.output.write styles ∧ rendered'.html = final'.output.write styles' ∧
      final.output.unthemed.write styles = final'.output.unthemed.write styles' ∧
      rendered.warnings = rendered'.warnings ∧
      services.calls (cfg.withStyles styles) events h =
        services.calls (cfg.withStyles styles') events h ∧
      final.citations = final'.citations := by
  intro final final' rendered rendered'
  have hlogged : services.loggedRun (cfg.withStyles styles) events h =
      services.loggedRun (cfg.withStyles styles') events h := by
    rw [Services.loggedRun, Services.loggedRun,
      run_withStyles cfg hstyles.withoutTags hstyles'.withoutTags services.logged events .initial]
  have hfinal : final = final' := congrArg Prod.fst hlogged
  have hrendered : rendered = final.finish _ := services.rendered_eq_loggedRun _ events h
  have hrendered' : rendered' = final'.finish _ := services.rendered_eq_loggedRun _ events h
  refine ⟨?_, ?_, ?_, ?_, ?_, ?_⟩
  · rw [hrendered]
    rfl
  · rw [hrendered']
    rfl
  · rw [hfinal]
    exact Markup.write_unthemed styles styles' _
  · rw [hrendered, hrendered', hfinal]
    rfl
  · rw [Services.calls, Services.calls, hlogged]
  · rw [hfinal]

/-- Styles that color all paragraphs. -/
def coloredParagraphs (color : String) : Styles where
  entry? kind := if kind = .paragraph then some ((∅ : Properties).insert "color" color) else none

theorem holdNoTag_coloredParagraphs {color : String} (hcolor : '<' ∉ color.toList) :
    (coloredParagraphs color).HoldNoTag := by
  intro kind properties hentry name value hvalue
  obtain ⟨-, rfl⟩ : kind = .paragraph ∧ (∅ : Properties).insert "color" color = properties := by
    simpa [coloredParagraphs] using hentry
  obtain ⟨rfl, rfl⟩ : "color" = name ∧ color = value := by
    simpa [Std.ExtTreeMap.getElem?_insert] using hvalue
  exact ⟨by decide, hcolor⟩

/-- A paragraph with the beginning of a figure's tag in it, an end of a paragraph that never
began, and code. -/
def brokenFigure : List Event :=
  [.opening .paragraph, .text "a", .html "<figure", .closing .paragraph, .closing .paragraph,
    .opening .indentedCode, .text "b", .closing .code]

/-- In two colors, it is the same markup, and the same code is highlighted. -/
theorem brokenFigure_presentational :
    (coloredParagraphs "red").HoldNoTag ∧ (coloredParagraphs "blue").HoldNoTag ∧
      let red := (RenderSettings.ofStyles .empty).withStyles (coloredParagraphs "red")
      let blue := (RenderSettings.ofStyles .empty).withStyles (coloredParagraphs "blue")
      let m := (Services.plain.loggedRun red brokenFigure ()).1.output
      let m' := (Services.plain.loggedRun blue brokenFigure ()).1.output
      m.unthemed.write (coloredParagraphs "red") = m'.unthemed.write (coloredParagraphs "blue") ∧
        Services.plain.calls red brokenFigure () = [⟨.highlight "b" "", none⟩] ∧
        Services.plain.calls blue brokenFigure () = [⟨.highlight "b" "", none⟩] := by
  have hred : (coloredParagraphs "red").HoldNoTag := holdNoTag_coloredParagraphs (by decide)
  have hblue : (coloredParagraphs "blue").HoldNoTag := holdNoTag_coloredParagraphs (by decide)
  obtain ⟨-, -, hwritten, -, hcalls, -⟩ := rendered_presentational
    (Services.plain (m := StateM Unit)) (.ofStyles .empty) hred hblue brokenFigure ()
  have hlogged : Services.plain.calls ((RenderSettings.ofStyles .empty).withStyles
      (coloredParagraphs "red")) brokenFigure () = [⟨.highlight "b" "", none⟩] := by
    decide +kernel
  exact ⟨hred, hblue, hwritten, hlogged, hcalls ▸ hlogged⟩

end Broadsheet
