import Broadsheet.Proofs.Document.Outcomes
import Broadsheet.Proofs.Html.Nesting

/-!
# Broadsheet.Proofs.Document.WellFormed

What is rendered is properly nested, whatever the texts, addresses, titles and
styles of the document are.  The opening and the closing tag of an element are
written by different steps; drawing puts the two together, so that each kind of
element needs one lemma here, and a document is balanced by induction on its
tree.

Tables are the exception: the end of a head opens the body that the end of the
table closes.  `BalancedPart` says what the parts of a table keep to instead.
-/

namespace Broadsheet

variable {styles : Styles}

open Markup (IsBalanced)

/-! ## Texts that the renderer writes itself -/

theorem notMem_toDigits {c : Char} (hc : c.isDigit = false) (n : Nat) :
    c ∉ Nat.toDigits 10 n := by
  intro h
  have hdigit := Nat.isDigit_of_mem_toDigits (by decide) (by decide) h
  simp [hc] at hdigit

/-- A number between fixed texts. -/
theorem balanced_number (before after : String) (n : Nat) (hbefore : '<' ∉ before.toList)
    (hafter : '<' ∉ after.toList) : Balanced (before ++ toString n ++ after) := by
  apply Balanced.of_notMem
  simp [hbefore, hafter, notMem_toDigits (c := '<') (by decide)]

theorem balanced_itemMark (numbering : Option ListNumbering) :
    Balanced ((numbering.map ListNumbering.itemMark).getD "") := by
  cases numbering with
  | none => exact Balanced.empty
  | some l =>
      cases l with
      | bullet => exact Balanced.of_notMem (by decide)
      | ordered n =>
          have h := balanced_number "" ". " n.toNat (by decide) (by decide)
          rwa [String.empty_append] at h

/-! ## Code -/

theorem balanced_lineBreak : IsBalanced styles lineBreakMarkup := IsBalanced.void "br" [] rfl .slash

/-- Blanks are kept and lines broken by text and void elements. -/
theorem balanced_keepBlanks_breakLines (s : List Char) (h : '<' ∉ s) :
    Balanced (String.ofList (keepBlanks false (breakLines s))) := by
  have hbreak {t : List Char} (ht : Balanced (String.ofList (keepBlanks false t))) :
      Balanced (String.ofList (keepBlanks false ("<br/>".toList ++ t))) := by
    have hvoid : IsBalanced .empty lineBreakMarkup := balanced_lineBreak
    have happend := Balanced.append (s := "<br/>") hvoid ht
    rwa [← String.ofList_toList (s := "<br/>"), ← String.ofList_append] at happend
  fun_induction breakLines s with
  | case1 => exact Balanced.empty
  | case2 cs ih => exact hbreak (ih (by simpa using h))
  | case3 cs ih => exact hbreak (ih (by simpa using h))
  | case4 c cs hne hne' ih =>
      obtain ⟨hc, hcs⟩ : '<' ≠ c ∧ '<' ∉ cs := by simpa using h
      rw [keepBlanks, if_neg (Ne.symm hc)]
      split
      · rw [String.ofList_append]
        exact Balanced.append (Balanced.of_notMem (by simp)) (ih hcs)
      · rw [← List.singleton_append, String.ofList_append]
        exact Balanced.append (Balanced.of_notMem (by simpa using hc)) (ih hcs)

theorem balanced_flattenText (s : String) (h : '<' ∉ s.toList) : Balanced (flattenText s) := by
  apply balanced_keepBlanks_breakLines
  simp only [expandTabs, List.mem_flatMap, not_exists, not_and]
  intro c hc
  split
  · decide
  · simpa using (ne_of_mem_of_not_mem hc h).symm

/-- Whether an answer is one of a highlighter that only escapes or fails. -/
def CodeAnswer.IsPlain (c : PendingCode) : CodeAnswer → Prop
  | html s => s = escapeText c.source
  | unasked | failed _ => True

theorem balanced_macDot (cx stroke fill : String)
    (h : isVoidTag "ellipse" [.fixed "cx" cx, .fixed "cy" "65", .fixed "rx" "50",
      .fixed "ry" "52", .fixed "stroke" stroke, .fixed "stroke-width" "2", .fixed "fill" fill]) :
    IsBalanced styles [macDot cx stroke fill] :=
  IsBalanced.void _ _ h _

theorem balanced_macSign : IsBalanced styles macSign := by
  have hdots : IsBalanced styles [macDot "50" "rgb(220,60,54)" "rgb(237,108,96)",
      macDot "225" "rgb(218,151,33)" "rgb(247,193,81)",
      macDot "400" "rgb(27,161,37)" "rgb(100,200,86)"] :=
    (balanced_macDot _ _ _ rfl).cons
      ((balanced_macDot _ _ _ rfl).cons (balanced_macDot _ _ _ rfl))
  have hsvg := IsBalanced.element "svg"
    [.fixed "xmlns" "http://www.w3.org/2000/svg", .fixed "version" "1.1", .fixed "x" "0px",
      .fixed "y" "0px", .fixed "width" "45px", .fixed "height" "13px",
      .fixed "viewBox" "0 0 450 130"] rfl hdots
  exact (IsBalanced.element "span"
    [.fixed "class" "mac-sign", .fixed "style" "padding: 10px 14px 0;", .flag "hidden"] rfl hsvg :)

/-- What a plain highlighter answers is what is shown without one. -/
theorem codeMarkup_of_isPlain {c : PendingCode} {a : CodeAnswer} (h : a.IsPlain c) :
    c.codeMarkup a = c.codeMarkup .unasked := by
  cases a with
  | html s =>
      have hs : s = escapeText c.source := h
      simp [PendingCode.codeMarkup, hs]
  | unasked | failed _ => rfl

/-- A block of code around code that was escaped. -/
theorem balanced_codeMarkup (c : PendingCode) : IsBalanced styles (c.codeMarkup .unasked) := by
  have hescaped : '<' ∉ (escapeText c.source).toList := by
    simpa [escapeText] using lt_notMem_escape c.source.toList
  have hcode : IsBalanced styles _ := IsBalanced.element "code"
    [.escaped "class" ("language-" ++ c.info), .themed .code ""] rfl
    (.raw (balanced_flattenText _ hescaped))
  have hpre := IsBalanced.element "pre"
    [.fixed "class" "hljs code__pre", .themed .codeBlock ""] rfl (balanced_macSign.append hcode)
  simpa [PendingCode.codeMarkup] using hpre

/-- A code block where nothing answers with markup of its own. -/
theorem balanced_code (c : PendingCode) (a : CodeAnswer) (hplain : a.IsPlain c)
    (hdiagram : isDiagram c.info → a = .unasked) : IsBalanced styles (c.markup a) := by
  unfold PendingCode.markup
  split
  · next h =>
      rw [hdiagram h]
      exact (IsBalanced.element "pre" [.fixed "class" "mermaid"] rfl (.text c.source) :)
  · rw [codeMarkup_of_isPlain hplain]
    exact balanced_codeMarkup c

/-! ## Inline markup -/

theorem balanced_codeSpan (t : String) : IsBalanced styles (codeSpanMarkup t) :=
  (IsBalanced.styled "code" .codeSpan rfl (.text t) :)

theorem balanced_task (checked : Bool) : IsBalanced styles (taskMarkup checked) := by
  have hblank : IsBalanced styles [.raw " "] := .raw (.of_notMem (by decide))
  cases checked with
  | true =>
      exact (IsBalanced.void "input" [.fixed "type" "checkbox", .flag "checked", .flag "disabled"]
        rfl .plain).append hblank
  | false =>
      exact (IsBalanced.void "input" [.fixed "type" "checkbox", .flag "disabled"]
        rfl .plain).append hblank

/-- An event that stands alone, if it is no HTML from the author. -/
theorem balanced_leaf (alt : Bool) (l : Leaf) (h : l.isHtml = false) :
    IsBalanced styles (l.markup alt) := by
  cases l with
  | html t | inlineHtml t => simp [Leaf.isHtml] at h
  | text t =>
      cases alt with
      | true => exact .nil
      | false => exact .text t
  | code t =>
      cases alt with
      | true => exact .nil
      | false => exact balanced_codeSpan t
  | softBreak | hardBreak =>
      cases alt with
      | true => exact .nil
      | false => exact balanced_lineBreak
  | rule => exact .void "hr" [.themed .rule ""] rfl .slash
  | taskMarker checked => exact balanced_task checked
  | inlineMath _ | displayMath _ | footnoteReference _ => exact .nil

theorem balanced_citationMark (n : Nat) : IsBalanced styles (citationMark n) :=
  (IsBalanced.styled "sup" .footnote rfl
    (.raw (balanced_number "[" "]" n (by decide) (by decide))) :)

theorem balanced_cited (n : Nat) {label : Markup} (h : IsBalanced styles label) :
    IsBalanced styles (citedMarkup n label) := by
  have hspan := IsBalanced.styled "span" .link rfl (h.append (balanced_citationMark n))
  simpa [citedMarkup] using hspan

theorem balanced_link (l : PendingLink) {label : Markup} (h : IsBalanced styles label) :
    IsBalanced styles (l.markup label) := by
  unfold PendingLink.markup
  split
  · exact .element _ _ rfl h
  · split
    · exact h
    · exact .styled _ _ rfl h

theorem balanced_figure (cfg : RenderSettings) (i : PendingImage) :
    IsBalanced styles (figure cfg i) := by
  have himage : IsBalanced styles [.voidTag "img"
      [.themed .image "", .escaped "src" i.src, .escaped "title" i.title, .escaped "alt" i.alt]
      .slash] := .void _ _ rfl _
  have hcaption (caption : String) : IsBalanced styles
      (if caption.isEmpty then []
        else [.styled "figcaption" .figureCaption, .text caption, .endTag "figcaption"]) := by
    split
    · exact .nil
    · exact (IsBalanced.styled "figcaption" .figureCaption rfl (.text caption) :)
  have hfigure := IsBalanced.styled "figure" .figure rfl
    (himage.append (hcaption (cfg.legend.caption i.alt i.title)))
  simpa [figure] using hfigure

/-! ## Blocks -/

theorem balanced_paragraph (cfg : RenderSettings) (enclosure : Option Enclosure)
    {content : Markup} (h : IsBalanced styles content) :
    IsBalanced styles (paragraphMarkup cfg enclosure content) := by
  by_cases hbare : isFigure (content.write cfg.styles) || blankText (content.write cfg.styles)
  · rwa [paragraphMarkup, if_pos hbare]
  · rw [paragraphMarkup, if_neg hbare]
    cases Enclosure.paragraphKind enclosure with
    | some kind => exact .styled _ _ rfl h
    | none => exact h

theorem balanced_heading (level : HeadingLevel) {content : Markup} (h : IsBalanced styles content) :
    IsBalanced styles (headingMarkup level content) := by
  cases level <;> exact .styled _ _ rfl h

theorem balanced_alertTitle (v : AlertVariant) : IsBalanced styles (alertTitle v) := by
  have htext : Balanced (v.icon ++ " " ++ v.title) := .of_notMem (by cases v <;> decide)
  exact (IsBalanced.styled "p" (.quoteTitle (some v)) rfl (.raw htext) :)

/-- A quote with the head of its alert, if it has one. -/
theorem balanced_quote (alert : Option AlertVariant) {content : Markup}
    (h : IsBalanced styles content) :
    IsBalanced styles ([.styled "blockquote" (.quote alert)] ++
      ((alert.map alertTitle).getD [] ++ content) ++ [.endTag "blockquote"]) := by
  apply IsBalanced.styled _ _ rfl
  cases alert with
  | none => exact h
  | some v => exact (balanced_alertTitle v).append h

/-- A table around its head and its rows, whose body the head opens. -/
theorem balanced_table {content : Markup} (h : IsBalanced styles (content ++ [.endTag "tbody"])) :
    IsBalanced styles ([.startTag "section"
        [.fixed "style" "padding:0 8px; max-width: 100%; overflow: auto"],
      .startTag "table" [.fixed "class" "preview-table", .themed .table ""]] ++ content ++
      TagEnd.table.markup) := by
  have htable := IsBalanced.element "table" [.fixed "class" "preview-table", .themed .table ""]
    rfl h
  have hsection := IsBalanced.element "section"
    [.fixed "style" "padding:0 8px; max-width: 100%; overflow: auto"] rfl htable
  simpa [TagEnd.markup] using hsection

/-- A head around its cells, and the body that it opens around the rows. -/
theorem balanced_tableHead {cells rows : Markup} (hcells : IsBalanced styles cells)
    (hrows : IsBalanced styles rows) :
    IsBalanced styles ([.styled "thead" .tableHead, .startTag "tr" []] ++ cells ++
      TagEnd.tableHead.markup ++ rows ++ [.endTag "tbody"]) := by
  have hhead := IsBalanced.styled "thead" .tableHead rfl
    (IsBalanced.element "tr" [] rfl hcells)
  have hbody := IsBalanced.element "tbody" [] rfl hrows
  simpa [TagEnd.markup] using hhead.append hbody

/-- What is balanced in each part of a table.  The body that the head opens is
closed with the table. -/
def BalancedPart (styles : Styles) : Content.TablePart → Markup → Prop
  | .table, m => IsBalanced styles (m ++ [.endTag "tbody"])
  | .flow, m | .rows, m | .cells, m => IsBalanced styles m

/-! ## Elements -/

theorem balanced_link_stroke (cfg : RenderSettings) (l : PendingLink) (cited : Nat) {k : Stroke}
    (hk : IsBalanced styles k.markup) : IsBalanced styles (k.link cfg l cited).markup := by
  unfold Stroke.link
  split
  · exact balanced_cited (cited + 1) hk
  · exact balanced_link l hk

/-- An element that is no table, no part of one and no code block. -/
theorem balanced_close (cfg : RenderSettings) (place : Place) {t : Tag} (pen : Pen) {k : Stroke}
    (ht : Content.TablePart.flow.inside t = some .flow) (hcode : t.codeInfo? = none)
    (hk : IsBalanced styles k.markup) : IsBalanced styles (k.close cfg place t pen).markup := by
  cases t with
  | table _ | tableHead | tableRow | tableCell => simp [Content.TablePart.inside] at ht
  | fencedCode _ | indentedCode => simp [Tag.codeInfo?] at hcode
  | paragraph => exact balanced_paragraph cfg place.enclosure hk
  | heading level => exact balanced_heading level hk
  | quote alert =>
      simpa [Stroke.close, Tag.markup, Tag.toEnd, TagEnd.markup] using balanced_quote alert hk
  | list start =>
      cases start with
      | none => exact .styled "ul" .bulletList rfl hk
      | some n => exact .styled "ol" .orderedList rfl hk
  | item =>
      have hmark : IsBalanced styles _ :=
        (IsBalanced.raw (balanced_itemMark pen.numbering)).append hk
      simpa [Stroke.close, Tag.markup, Tag.toEnd, TagEnd.markup] using
        IsBalanced.styled "li" .listItem rfl hmark
  | emphasis => exact .styled "span" .emphasis rfl hk
  | strong => exact .styled "strong" .strong rfl hk
  | strikethrough => exact .element "del" [] rfl hk
  | superscript => exact .element "sup" [] rfl hk
  | subscript => exact .element "sub" [] rfl hk
  | link href title =>
      simp only [Stroke.close]
      split
      · exact hk
      · exact balanced_link_stroke cfg _ _ hk
  | image src title => exact hk.append (balanced_figure cfg _)
  | footnoteDefinition _ | htmlBlock | metadata | definitionList | definitionTitle
  | definitionBody => simpa [Stroke.close, Tag.markup, Tag.toEnd, TagEnd.markup] using hk

/-- A stroke that makes a part of a table balanced, before what is balanced in
the part after it. -/
def Stroke.BalancesIn (styles : Styles) (part : Content.TablePart) (k : Stroke) : Prop :=
  ∀ rest : Markup, BalancedPart styles part.after rest →
    BalancedPart styles part (k.markup ++ rest)

/-- An element around content that is balanced in its part. -/
theorem balancesIn_close (cfg : RenderSettings) (place : Place) {t : Tag} (pen : Pen)
    {k : Stroke} {part inside : Content.TablePart} (hinside : part.inside t = some inside)
    (hcode : t.codeInfo? = none) (hk : BalancedPart styles inside k.markup) :
    (k.close cfg place t pen).BalancesIn styles part := by
  intro rest hrest
  -- each part takes one kind of element, but for the flow, which takes the others
  cases part with
  | flow =>
      cases t with
      | table columns =>
          obtain rfl : Content.TablePart.table = inside := by
            simpa [Content.TablePart.inside] using hinside
          exact IsBalanced.append (balanced_table hk) hrest
      | tableHead | tableRow | tableCell => simp [Content.TablePart.inside] at hinside
      | _ =>
          obtain rfl : Content.TablePart.flow = inside := by
            simpa [Content.TablePart.inside] using hinside
          exact IsBalanced.append (balanced_close cfg place pen hinside hcode hk) hrest
  | table =>
      cases t with
      | tableHead =>
          obtain rfl : Content.TablePart.cells = inside := by
            simpa [Content.TablePart.inside] using hinside
          exact balanced_tableHead hk hrest
      | _ => simp [Content.TablePart.inside] at hinside
  | rows =>
      cases t with
      | tableRow =>
          obtain rfl : Content.TablePart.cells = inside := by
            simpa [Content.TablePart.inside] using hinside
          exact IsBalanced.append (.element "tr" [] rfl hk) hrest
      | _ => simp [Content.TablePart.inside] at hinside
  | cells =>
      cases t with
      | tableCell =>
          obtain rfl : Content.TablePart.flow = inside := by
            simpa [Content.TablePart.inside] using hinside
          refine IsBalanced.append ?_ hrest
          exact .element "td" [.themed .tableCell pen.table.alignment] rfl hk
      | _ => simp [Content.TablePart.inside] at hinside

/-! ## Citations -/

theorem balanced_item (n : Nat) (c : Citation) : IsBalanced styles (Citations.item n c) := by
  have hnumber : IsBalanced styles [.raw ("[" ++ toString n ++ "]")] :=
    .raw (balanced_number "[" "]" n (by decide) (by decide))
  have hlabel := IsBalanced.element "code" [.fixed "style" "font-size: 90%; opacity: 0.6;"]
    rfl hnumber
  have hlink : IsBalanced styles _ := IsBalanced.append
    (IsBalanced.element "i" [.fixed "style" "word-break: break-all"] rfl (.text c.link))
    balanced_lineBreak
  have hcolon : IsBalanced styles [.raw ": "] := .raw (.of_notMem (by decide))
  have hblank : IsBalanced styles [.raw " "] := .raw (.of_notMem (by decide))
  unfold Citations.item
  split
  · exact (hlabel.append hcolon).append hlink
  · exact (hlabel.append (hblank.append ((IsBalanced.text c.title).append hcolon))).append hlink

theorem balanced_itemsFrom : (n : Nat) → (cs : Citations) →
    IsBalanced styles (Citations.itemsFrom n cs)
  | _, [] => .nil
  | n, [c] => balanced_item n c
  | n, c :: d :: cs => by
      have hfeed : IsBalanced styles [.raw "\n"] := .raw (.of_notMem (by decide))
      exact ((balanced_item n c).append hfeed).append (balanced_itemsFrom (n + 1) (d :: cs))

theorem balanced_section (cs : Citations) (heading : String) :
    IsBalanced styles (cs.sectionMarkup heading) := by
  unfold Citations.sectionMarkup
  split
  · exact .nil
  · have hheading : IsBalanced styles _ :=
      IsBalanced.styled "h4" (.heading .four) rfl (.text heading)
    have hitems : IsBalanced styles _ :=
      IsBalanced.styled "p" .footnotes rfl (balanced_itemsFrom 1 cs)
    simpa using hheading.append hitems

/-! ## Documents -/

section Documents

variable {σ : Type} {services : Services (StateM σ)}

/-- Services that draw no diagrams, and whose highlighter only escapes or fails. -/
structure Services.OnlyEscape (services : Services (StateM σ)) : Prop where
  diagram : services.diagram? = none
  highlight : ∀ code language,
    Always (fun r => r = .ok (plainHighlight code language) ∨ ∃ e, r = .error e)
      (services.highlight code language)

theorem always_answer (hs : services.OnlyEscape) (c : PendingCode) (number : Nat) :
    Always (fun a => a.IsPlain c ∧ (isDiagram c.info → a = .unasked))
      (services.answer c number) := by
  unfold Services.answer
  split
  · rw [hs.diagram]
    exact Always.pure ⟨trivial, fun _ => rfl⟩
  · next h =>
      refine Always.bind (hs.highlight c.source (languageToken c.info)) fun r hr => ?_
      obtain rfl | ⟨e, rfl⟩ := hr
      · exact Always.pure ⟨rfl, fun hdiagram => absurd hdiagram h⟩
      · exact Always.pure ⟨trivial, fun hdiagram => absurd hdiagram h⟩

/-- A code block stands in no part of a table. -/
theorem part_eq_flow {t : Tag} {info : String} {part inside : Content.TablePart}
    (hpart : part.inside t = some inside) (ht : t.codeInfo? = some info) : part = .flow := by
  cases t <;> cases part <;> simp_all [Tag.codeInfo?, Content.TablePart.inside]

/-- Content is drawn as balanced markup, but for the body that a table's head
opens. -/
theorem always_draw_balanced (hs : services.OnlyEscape) (cfg : RenderSettings) :
    (c : Content) → (part : Content.TablePart) → (place : Place) → (pen : Pen) →
    c.noHtml → c.tablesInOrder part →
    Always (fun k => BalancedPart styles part k.markup) (c.draw services cfg place pen)
  | .nil, part, place, pen, _, htable => by
      cases part with
      | table => simp [Content.tablesInOrder] at htable
      | flow | rows | cells => exact Always.pure IsBalanced.nil
  | .leaf l rest, part, place, pen, hhtml, htable => by
      obtain ⟨hl, hrest⟩ : l.isHtml = false ∧ rest.noHtml := by
        simpa [Content.noHtml] using hhtml
      obtain ⟨rfl, htable⟩ : part = .flow ∧ rest.tablesInOrder part := by
        simpa [Content.tablesInOrder] using htable
      have ih := always_draw_balanced hs cfg rest .flow place pen hrest htable
      refine (Content.always_draw_leaf services cfg place l rest pen ih).mono ?_
      rintro k ⟨b, hb, rfl⟩
      exact IsBalanced.append (balanced_leaf place.alt l hl) hb
  | .element t inner rest, part, place, pen, hhtml, htable => by
      obtain ⟨hinner, hrest⟩ : inner.noHtml ∧ rest.noHtml := by
        simpa [Content.noHtml] using hhtml
      rw [Content.tablesInOrder] at htable
      cases hpart : part.inside t with
      | none => simp [hpart] at htable
      | some inside =>
          obtain ⟨htinner, htrest⟩ :
              inner.tablesInOrder inside ∧ rest.tablesInOrder part.after := by
            simpa [hpart] using htable
          have helement : Always (fun k => k.BalancesIn styles part)
              (Content.drawElement services cfg place t inner pen) := by
            apply Content.always_drawElement
            · intro info ht
              obtain rfl : part = .flow := part_eq_flow hpart ht
              refine (always_answer hs _ _).mono fun a ha rest hrest => ?_
              exact IsBalanced.append (balanced_code _ a ha.1 ha.2) hrest
            · intro ht
              refine (always_draw_balanced hs cfg inner inside _ _ hinner htinner).mono ?_
              exact fun k hk => balancesIn_close cfg place pen hpart ht hk
          have hafter (k : Stroke) : Always (fun l => BalancedPart styles part.after l.markup)
              (rest.draw services cfg place (pen.after k)) :=
            always_draw_balanced hs cfg rest part.after place (pen.after k) hrest htrest
          refine (Content.always_draw_element services cfg place t inner rest pen helement
            fun k _ => hafter k).mono ?_
          rintro k ⟨a, b, ha, hb, rfl⟩
          exact ha b.markup hb

/-- **What is rendered is properly nested**: without HTML from the author and
pictures for diagrams, and with code that is only escaped, the body and the
section of the citations can be read to their ends, hold the tags of an article
only, and close each of them in its place.  The document's texts, addresses,
titles and infos and the styles are arbitrary. -/
theorem rendered_wellNested (hs : services.OnlyEscape) (cfg : RenderSettings) (c : Content)
    (htext : c.codeIsText) (himages : c.imagesApart) (htables : c.tablesInOrder .flow)
    (hhtml : c.noHtml) :
    Always (fun r => WellNested r.html ∧ WellNested r.footnotes)
      (renderEvents services cfg c.events) := by
  rw [renderEvents_events services cfg c htext himages]
  have hdraw : Always (fun k => IsBalanced cfg.styles k.markup)
      (c.draw services cfg .outermost .initial) :=
    always_draw_balanced hs cfg c .flow .outermost .initial hhtml htables
  refine Always.map hdraw fun k hk => ⟨Balanced.wellNested ?_, Balanced.wellNested ?_⟩
  · simpa [IsBalanced, RenderState.finish, RenderState.add, RenderState.initial] using hk
  · exact balanced_section _ _

theorem onlyEscape_plain : (Services.plain : Services (StateM σ)).OnlyEscape where
  diagram := rfl
  highlight _ _ := Always.pure (.inl rfl)

end Documents

/-- A document whose texts, addresses and infos look like markup, with a table,
a cited link around an image, a code block and a diagram. -/
def markupLikeDocument : Content :=
  .element (.heading .one)
    (.element (.link "\"><p>" "</a>")
      (.element (.image "' onload='" "\">") (.leaf (.text "</figure>") .nil) .nil) .nil)
    (.element (.table [.left, .none])
      (.element .tableHead (.element .tableCell (.leaf (.code "<td>") .nil) .nil)
        (.element .tableRow (.element .tableCell (.leaf .hardBreak .nil) .nil) .nil))
      (.element (.fencedCode "\"></pre>") (.leaf (.text "<script>\n") .nil)
        (.element (.fencedCode "mermaid") (.leaf (.text "a --> b") .nil) .nil)))

/-- Nothing in such a document opens or closes a tag. -/
theorem markupLikeDocument_wellNested :
    (Services.plain : Services (StateM Unit)).OnlyEscape ∧ markupLikeDocument.codeIsText ∧
      markupLikeDocument.imagesApart ∧ markupLikeDocument.tablesInOrder .flow ∧
      markupLikeDocument.noHtml ∧
      Always (fun r => WellNested r.html ∧ WellNested r.footnotes)
        (renderEvents (Services.plain : Services (StateM Unit))
          { RenderSettings.ofStyles .empty with citations := true } markupLikeDocument.events) :=
  ⟨onlyEscape_plain, by decide, by decide, by decide, by decide,
    rendered_wellNested onlyEscape_plain _ markupLikeDocument (by decide) (by decide) (by decide)
      (by decide)⟩

end Broadsheet
