import Broadsheet.Proofs.Document.Presentation
import Broadsheet.Proofs.Document.WellFormed
import Broadsheet.Proofs.Html.FirstStyle

/-!
# Broadsheet.Proofs.Document.Margins

The top margin of an article.  It is taken from the first style attribute of the
body, which is searched for as text.  What a rendering writes has double quotes
around the values of attributes only, up to the first code block at least, and
that has a style attribute with all styles, before the code.  So the search is
misled by nothing but the value of an attribute.

* `upheld_isQuoting` — all that a rendering writes by itself is of that kind;
* `always_isQuoting` — and so is every output that events without HTML and
  diagrams lead to;
* `assemble_flushesFirst_iff` — the first style attribute gets the margin, and
  nothing else is changed, exactly if no value before it is misleading.
-/

namespace Broadsheet

open Markup (isQuoting_append)

/-! ## What is written -/

section Markup

variable {m : Markup}

theorem isQuoting_raw {s : String} (htag : '<' ∉ s.toList) (hquote : '"' ∉ s.toList) :
    (Piece.raw s).isQuoting := by
  simp [Piece.isQuoting, htag, hquote]

/-- A number between fixed texts. -/
theorem isQuoting_number (before after : String) (n : Nat)
    (hbefore : (Piece.raw before).isQuoting) (hafter : (Piece.raw after).isQuoting) :
    (Piece.raw (before ++ toString n ++ after)).isQuoting := by
  simp only [Piece.isQuoting, Bool.and_eq_true, Bool.not_eq_true', List.contains_eq_mem,
    decide_eq_false_iff_not] at hbefore hafter
  apply isQuoting_raw
  · simp [hbefore, hafter, notMem_toDigits (c := '<') (by decide)]
  · simp [hbefore, hafter, notMem_toDigits (c := '"') (by decide)]

theorem isQuoting_itemMark (numbering : Option ListNumbering) :
    (Piece.raw ((numbering.map ListNumbering.itemMark).getD "")).isQuoting := by
  cases numbering with
  | none => rfl
  | some l =>
      cases l with
      | bullet => rfl
      | ordered n =>
          have h := isQuoting_number "" ". " n.toNat rfl rfl
          rwa [String.empty_append] at h

theorem isQuoting_tagMarkup (numbering : Option ListNumbering) (table : TableCursor) (t : Tag) :
    (t.markup numbering table).isQuoting := by
  cases t with
  | quote alert =>
      cases alert with
      | none => rfl
      | some v => cases v <;> rfl
  | list start => cases start <;> rfl
  | item =>
      have hmark := isQuoting_itemMark numbering
      simp only [Tag.markup, Markup.isQuoting, hmark, Bool.or_true, Bool.and_true]
      rfl
  | _ => rfl

theorem isQuoting_tagEndMarkup (t : TagEnd) : t.markup.isQuoting := by
  cases t with
  | list ordered => cases ordered <;> rfl
  | _ => rfl

theorem isQuoting_paragraphMarkup (cfg : RenderSettings) (enclosure : Option Enclosure)
    (hm : m.isQuoting) : (paragraphMarkup cfg enclosure m).isQuoting := by
  unfold paragraphMarkup
  dsimp only
  split
  · exact hm
  · cases Enclosure.paragraphKind enclosure with
    | none => exact hm
    | some kind => exact isQuoting_append (isQuoting_append rfl hm) rfl

theorem isQuoting_headingMarkup (level : HeadingLevel) (hm : m.isQuoting) :
    (headingMarkup level m).isQuoting :=
  isQuoting_append (isQuoting_append (by cases level <;> rfl) hm) (by cases level <;> rfl)

/-- The values do not matter, as they are escaped. -/
theorem isQuoting_linkTag (href title : String) :
    Markup.isQuoting [.startTag "a" [.escaped "href" href, .escaped "title" title,
      .themed .platformLink ""]] := by
  simp only [Markup.isQuoting, Piece.isQuoting, isQuotingTag, Attr.allReadable, Attr.readable,
    Attr.isApart, Attr.name, List.all_cons, List.all_nil, List.map_cons, List.map_nil,
    Bool.or_true, Bool.and_true]
  decide

theorem isQuoting_linkMarkup (l : PendingLink) (hm : m.isQuoting) : (l.markup m).isQuoting := by
  unfold PendingLink.markup
  split
  · exact isQuoting_append (isQuoting_append (isQuoting_linkTag _ _) hm) rfl
  · split
    · exact hm
    · exact isQuoting_append (isQuoting_append rfl hm) rfl

theorem isQuoting_citedMarkup (number : Nat) (hm : m.isQuoting) :
    (citedMarkup number m).isQuoting := by
  have hmark : (citationMark number).isQuoting := by
    have hnumber := isQuoting_number "[" "]" number rfl rfl
    simp only [citationMark, Markup.isQuoting, hnumber, Bool.true_and, Bool.or_true]
    rfl
  exact isQuoting_append (isQuoting_append (isQuoting_append rfl hm) hmark) rfl

theorem isQuoting_imageTag (src title alt : String) :
    Markup.isQuoting [.voidTag "img" [.themed .image "", .escaped "src" src,
      .escaped "title" title, .escaped "alt" alt] .slash] := by
  simp only [Markup.isQuoting, Piece.isQuoting, isQuotingTag, Attr.allReadable, Attr.readable,
    Attr.isApart, Attr.name, List.all_cons, List.all_nil, List.map_cons, List.map_nil,
    Bool.or_true, Bool.and_true]
  decide

theorem isQuoting_figure (cfg : RenderSettings) (i : PendingImage) : (figure cfg i).isQuoting := by
  have hopen : Markup.isQuoting [.styled "figure" .figure] := rfl
  unfold figure
  refine isQuoting_append (isQuoting_append (isQuoting_append hopen (isQuoting_imageTag _ _ _)) ?_)
    rfl
  split <;> rfl

/-- A block of code has the style of its sign before the code. -/
theorem isQuoting_codeMarkup (c : PendingCode) (a : CodeAnswer)
    (hdiagram : isDiagram c.info = false) : (c.markup a).isQuoting := by
  rw [PendingCode.markup, hdiagram]
  rfl

end Markup

theorem upheld_isQuoting (cfg : RenderSettings) : Upheld cfg fun m => m.isQuoting where
  nil := rfl
  append := isQuoting_append
  tag := isQuoting_tagMarkup
  tagEnd := isQuoting_tagEndMarkup
  paragraph enclosure _ hm := isQuoting_paragraphMarkup cfg enclosure hm
  heading level _ hm := isQuoting_headingMarkup level hm
  link l _ hm := isQuoting_linkMarkup l hm
  cited number _ hm := isQuoting_citedMarkup number hm
  figure := isQuoting_figure cfg
  text _ := rfl
  codeSpan _ := rfl
  lineBreak := rfl
  rule := rfl
  task checked := by cases checked <;> rfl

/-! ## Streams without HTML and diagrams -/

/-- Whether an event is HTML that the author wrote. -/
def Event.isHtml : Event → Bool
  | html _ | inlineHtml _ => true
  | _ => false

/-- **What is written has double quotes around the values of attributes only**, up to
the first style attribute at least, whatever highlighters answer. -/
theorem always_isQuoting {σ : Type} (services : Services (StateM σ)) (cfg : RenderSettings)
    {events : List Event} (hhtml : events.all fun e => !e.isHtml)
    (hdiagrams : closedDiagrams "" events = 0) :
    Always (fun s => s.Holds fun m => m.isQuoting)
      (RenderState.initial.run services cfg events) := by
  have hP := upheld_isQuoting cfg
  -- the events that are left have no HTML and end no diagram, the open one included
  refine Always.mono (RenderState.always_run services cfg (I := fun es s =>
    (s.Holds fun m => m.isQuoting) ∧ (es.all fun e => !e.isHtml) ∧
      closedDiagrams s.openInfo es = 0) ?_ ?_ events ⟨.initial hP, hhtml, hdiagrams⟩)
    fun _ => And.left
  · rintro e es s he ⟨hs, hhtml, hdiagrams⟩
    obtain ⟨hevent, hrest⟩ : e.isHtml = false ∧ es.all fun e => !e.isHtml := by simpa using hhtml
    refine ⟨hs.quietStep hP e fun t ht => ?_, hrest, ?_⟩
    · obtain rfl | rfl := ht <;> simp [Event.isHtml] at hevent
    · rw [(RenderState.quietStep_counts cfg s he).1]
      simpa [closedDiagrams, he] using hdiagrams
  · rintro es s ⟨hs, hhtml, hdiagrams⟩
    obtain ⟨hinfo, hrest⟩ : isDiagram s.openInfo = false ∧ closedDiagrams "" es = 0 := by
      simpa [closedDiagrams, isDiagram] using hdiagrams
    refine RenderState.always_closeCode services s fun a => ⟨hs.endCode hP ?_, ?_, hrest⟩
    · exact isQuoting_codeMarkup _ a (s.info_endingCode ▸ hinfo)
    · simpa [Event.isHtml] using hhtml

/-! ## The margin -/

/-- What an article begins with. -/
def articleOpening (styles : Styles) : String :=
  "<section" ++ styles.styleAttribute .container ++ ">"

/-- What an article ends with. -/
def articleEnd (footnotes : String) (macCodeBlocks : Bool) : String :=
  footnotes ++ decorationStyle ++ (if macCodeBlocks then macCodeStyle else "") ++ "</section>"

/-- **When the margin is taken from the first style attribute**: of any stream without
HTML and diagrams, with all styles and services, the article is made of the rendering
and its footnotes, and of the rendering the value of the first style attribute is
changed, exactly if it is not misleading.  Then and only then the text outside style
attributes stays as it is, with the same tags and the same text between them. -/
theorem assemble_flushesFirst_iff {σ : Type} (services : Services (StateM σ))
    (cfg : RenderSettings) (macCodeBlocks : Bool) {events : List Event}
    (hhtml : events.all fun e => !e.isHtml) (hdiagrams : closedDiagrams "" events = 0) (h : σ) :
    let rendered := ((renderEvents services cfg events).run h).1
    let html := rendered.html.toList
    ∃ body, assemble rendered.html rendered.footnotes cfg.styles macCodeBlocks =
        articleOpening cfg.styles ++ String.ofList body ++
          articleEnd rendered.footnotes macCodeBlocks ∧
      (body = insertInFirstStyle flushAddition html ↔ isMisleading html = false) ∧
      (withoutStyles body = withoutStyles html ∧ bareTokens body = bareTokens html ↔
        isMisleading html = false) := by
  intro rendered html
  have hquoting : Quoting (some .text) html :=
    .write cfg.styles (always_isQuoting services cfg hhtml hdiagrams h).output
  refine ⟨flushFirstMargin html, ?_, hquoting.flushFirstMargin_eq_iff rfl, ?_⟩
  · unfold assemble articleOpening articleEnd
    simp only [String.append_assoc]
    rfl
  · refine ⟨fun hkept => (hquoting.outside_flushFirstMargin_iff rfl).mp hkept.1, fun hnot => ?_⟩
    have hout : withoutStyles (flushFirstMargin html) = withoutStyles html :=
      (hquoting.outside_flushFirstMargin_iff rfl).mpr hnot
    exact ⟨hout, by rw [← bareTokens_withoutStyles, hout, bareTokens_withoutStyles]⟩

/-- A heading with an image, before a paragraph. -/
def picturedHeading (src : String) : List Event :=
  [.opening (.heading .one), .opening (.image src ""), .closing .image, .closing (.heading .one),
    .opening .paragraph, .text "b", .closing .paragraph]

/-- If only paragraphs are styled, the paragraph loses its margin, as the address does not end
in `style=`. -/
theorem picturedHeading_flushesFirst :
    let cfg := (RenderSettings.ofStyles .empty).withStyles (coloredParagraphs "red")
    let rendered := ((renderEvents (Services.plain (m := StateM Unit)) cfg
      (picturedHeading "a?style")).run ()).1
    ((picturedHeading "a?style").all fun e => !e.isHtml) ∧
      closedDiagrams "" (picturedHeading "a?style") = 0 ∧
      isMisleading rendered.html.toList = false ∧
      ∃ body, assemble rendered.html rendered.footnotes cfg.styles false =
          articleOpening cfg.styles ++ String.ofList body ++ articleEnd rendered.footnotes false ∧
        body = insertInFirstStyle flushAddition rendered.html.toList ∧
        withoutStyles body = withoutStyles rendered.html.toList ∧
        bareTokens body = bareTokens rendered.html.toList := by
  intro cfg rendered
  have hhtml : (picturedHeading "a?style").all fun e => !e.isHtml := by decide
  have hdiagrams : closedDiagrams "" (picturedHeading "a?style") = 0 := by decide
  have hnot : isMisleading rendered.html.toList = false := by decide +kernel
  obtain ⟨body, hassemble, hbody, hkept⟩ :=
    assemble_flushesFirst_iff Services.plain cfg false hhtml hdiagrams ()
  obtain ⟨hout, htokens⟩ := hkept.mpr hnot
  exact ⟨hhtml, hdiagrams, hnot, body, hassemble, hbody.mpr hnot, hout, htokens⟩

/- An address that ends so gets the margin into the tag, and the paragraph keeps its own. -/
example :
    let cfg := (RenderSettings.ofStyles .empty).withStyles (coloredParagraphs "red")
    let rendered := ((renderEvents (Services.plain (m := StateM Unit)) cfg
      (picturedHeading "a?style=")).run ()).1
    flushFirstMargin rendered.html.toList =
      ("<h1><figure><img src=\"a?style=\" title=;margin-top: 0\"\" alt=\"\"/></figure></h1>" ++
        "<p style=\"color: red\">b</p>").toList := by
  decide +kernel

end Broadsheet
