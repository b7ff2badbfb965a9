import Broadsheet.Proofs.Document.Context
import Broadsheet.Proofs.Html.VisibleText

/-!
# Broadsheet.Proofs.Document.ShownText

The text of a rendered document.  Content moves through captures, is wrapped or
left bare, and is escaped on its way, but what is seen of it in the end is the
text of the document: `Content.shown` lists it in the order of the events.

* a text and inline code show themselves, and a task's box is followed by a blank;
* an item begins with its mark, and an alert with its icon and title;
* a cited link ends with the number of its citation, counted from 1;
* everything else shows nothing.

`rendered_visibleText` says so of every document without images, code blocks and
HTML from the author, with any styles, and whether links are cited or not.
-/

namespace Broadsheet

/-! ## Marks of items -/

/-- Where the next item stands: in a list with a start, after some other items. -/
structure ListPlace where
  start : Option UInt64
  items : Nat

namespace ListPlace

/-- The place after some more items. -/
def after (p : ListPlace) (items : Nat) : ListPlace := { p with items := p.items + items }

/-- What the item starts with.  Numbers have 64 bits and go around. -/
def mark (p : ListPlace) : String :=
  match p.start with
  | none => "• "
  | some n => toString ((n.toNat + p.items) % UInt64.size) ++ ". "

/-- The counter that a list has there. -/
def numbering (p : ListPlace) : ListNumbering := (ListNumbering.ofStart p.start).after p.items

theorem numbering_after (p : ListPlace) (items : Nat) :
    (p.after items).numbering = p.numbering.after items := by
  rw [numbering, numbering, after, ListNumbering.after_after]

theorem itemMark_numbering (p : ListPlace) : p.numbering.itemMark = p.mark := by
  obtain ⟨start, items⟩ := p
  cases start with
  | none => rfl
  | some n =>
      have hadd : (n + UInt64.ofNat items).toNat = (n.toNat + items) % UInt64.size := by
        rw [UInt64.toNat_add, UInt64.toNat_ofNat', Nat.add_mod_mod]
      simp [numbering, mark, ListNumbering.ofStart, ListNumbering.after, ListNumbering.itemMark,
        hadd]

end ListPlace

/-- The place of the next item inside an element. -/
def Tag.listInside (t : Tag) (list : Option ListPlace) : Option ListPlace :=
  match t with
  | .list start => some ⟨start, 0⟩
  | .item => list.map (·.after 1)
  | _ => list

/-! ## What is shown of a document -/

/-- A part of what is shown: a text, or the number of the next citation. -/
inductive ShownPart
  | text (s : String)
  | citation

namespace ShownPart

/-- The number of citations among parts. -/
def citations : List ShownPart → Nat
  | [] => 0
  | text _ :: ps => citations ps
  | citation :: ps => citations ps + 1

/-- The parts as one text, after `n` citations. -/
def write : (n : Nat) → List ShownPart → String
  | _, [] => ""
  | n, text s :: ps => s ++ write n ps
  | n, citation :: ps => "[" ++ toString (n + 1) ++ "]" ++ write (n + 1) ps

theorem citations_append (ps qs : List ShownPart) :
    citations (ps ++ qs) = citations ps + citations qs := by
  induction ps with
  | nil => simp [citations]
  | cons p ps ih =>
      cases p with
      | text s => simp [citations, ih]
      | citation => simp [citations, ih, Nat.add_right_comm]

theorem write_append (n : Nat) (ps qs : List ShownPart) :
    write n (ps ++ qs) = write n ps ++ write (n + citations ps) qs := by
  induction ps generalizing n with
  | nil => simp [write, citations]
  | cons p ps ih =>
      cases p with
      | text s => simp [write, citations, ih, String.append_assoc]
      | citation => simp [write, citations, ih, String.append_assoc, Nat.add_assoc, Nat.add_comm 1]

end ShownPart

/-- What an event that stands alone shows. -/
def Leaf.shown : Leaf → String
  | text s | code s => s
  | taskMarker _ => " "
  | _ => ""

/-- What an opening event shows. -/
def Tag.shown (list : Option ListPlace) : Tag → String
  | .item => (list.map ListPlace.mark).getD ""
  | .quote (some v) => v.icon ++ " " ++ v.title
  | _ => ""

/-- The text of a link's label.  A link inside counts for itself only. -/
def Content.label : Content → String
  | nil => ""
  | leaf l rest => l.plainText false ++ rest.label
  | element t inner rest => (if t.isLink then "" else inner.label) ++ rest.label

/-- Whether an element is a link that is cited: it cannot be followed in the
article, and does not show its address. -/
def Tag.isCited (t : Tag) (inner : Content) : Bool :=
  match t with
  | .link href _ => !startsWithText "https://mp.weixin.qq.com" href && href != inner.label
  | _ => false

/-- What is shown of content in the order of its events, where `citing` says
whether links are cited. -/
def Content.shown (citing : Bool) (list : Option ListPlace) : Content → List ShownPart
  | nil => []
  | leaf l rest => .text l.shown :: rest.shown citing list
  | element t inner rest =>
      .text (t.shown list) ::
        (inner.shown citing (t.listInside list) ++
          ((if citing && t.isCited inner then [.citation] else []) ++
            rest.shown citing (list.map (·.after (element t inner nil).itemCount))))

/-- The text that is shown of a document. -/
def Content.shownText (c : Content) (citing : Bool) : String :=
  ShownPart.write 0 (c.shown citing none)

/-! ## What is drawn -/

/-- A stroke shows the given parts, after `n` citations. -/
structure Stroke.Shows (n : Nat) (parts : List ShownPart) (k : Stroke) : Prop where
  readable : k.markup.readable
  visible : k.markup.visible = ShownPart.write n parts
  citations : k.citations.length = ShownPart.citations parts

namespace Stroke.Shows

variable {n : Nat} {parts : List ShownPart} {k : Stroke}

theorem append {parts' : List ShownPart} {k' : Stroke} (h : k.Shows n parts)
    (h' : k'.Shows (n + k.citations.length) parts') : (k ++ k').Shows n (parts ++ parts') := by
  refine ⟨?_, ?_, ?_⟩
  · simp [append_def, Stroke.append, h.readable, h'.readable]
  · rw [append_def, Stroke.append, Markup.visible_append, h.visible, h'.visible, h.citations,
      ShownPart.write_append]
  · rw [append_def, Stroke.append, List.length_append, h.citations, h'.citations,
      ShownPart.citations_append]

/-- A stroke with readable markup around what another one shows. -/
theorem wrap {k' : Stroke} {a b : Markup} (h : k.Shows n parts)
    (hmarkup : k'.markup = a ++ k.markup ++ b) (hcitations : k'.citations = k.citations)
    (ha : a.readable) (hb : b.readable) (hvisible : b.visible = "") :
    k'.Shows n (.text a.visible :: parts) := by
  refine ⟨?_, ?_, ?_⟩
  · simp [hmarkup, ha, hb, h.readable]
  · simp [hmarkup, hvisible, h.visible, ShownPart.write]
  · rw [hcitations, h.citations, ShownPart.citations]

end Stroke.Shows

/-- A stroke shows what is shown of content, and counts its label and its items. -/
structure Content.ShownBy (c : Content) (citing : Bool) (list : Option ListPlace) (n : Nat)
    (k : Stroke) : Prop where
  shows : k.Shows n (c.shown citing list)
  label : k.text = c.label
  items : k.items = c.itemCount

/-! ## Pieces -/

theorem shows_leaf (l : Leaf) (h : l.isHtml = false) (n : Nat) (table : TableCursor) :
    (l.stroke false table).Shows n [.text l.shown] := by
  have hmarkup : (l.markup false).readable ∧ (l.markup false).visible = l.shown := by
    cases l with
    | html t | inlineHtml t => simp [Leaf.isHtml] at h
    | taskMarker checked => cases checked <;> exact ⟨rfl, rfl⟩
    | text t => exact ⟨rfl, by simp [Leaf.markup, Leaf.shown, Piece.visible]⟩
    | code t => exact ⟨rfl, by simp [Leaf.markup, Leaf.shown, codeSpanMarkup, Piece.visible,
        Piece.styled]⟩
    | _ => exact ⟨rfl, rfl⟩
  refine ⟨hmarkup.1, ?_, rfl⟩
  rw [ShownPart.write, ShownPart.write, String.append_empty]
  exact hmarkup.2

/-- A number between texts that can be read back. -/
theorem readable_number (before after : String) (n : Nat)
    (hbefore : (Piece.raw before).readable) (hafter : (Piece.raw after).readable) :
    (Piece.raw (before ++ toString n ++ after)).readable := by
  have hdigits : ∀ c ∈ Nat.toDigits 10 n, c ≠ '<' ∧ c ≠ '&' := by
    intro c hc
    have hdigit := Nat.isDigit_of_mem_toDigits (by decide) (by decide) hc
    constructor <;> rintro rfl <;> simp at hdigit
  simp_all [Piece.readable]

theorem readable_itemMark (l : ListNumbering) : (Piece.raw l.itemMark).readable := by
  cases l with
  | bullet => rfl
  | ordered n =>
      have h := readable_number "" ". " n.toNat rfl rfl
      rwa [String.empty_append] at h

theorem readable_alertTitle (v : AlertVariant) :
    (alertTitle v).readable ∧ (alertTitle v).visible = v.icon ++ " " ++ v.title := by
  cases v <;> decide

/-- What an opening event writes can be read back, and is what it shows. -/
theorem readable_openTag {numbering : Option ListNumbering} {list : Option ListPlace}
    (hlist : numbering = list.map ListPlace.numbering) (table : TableCursor) (t : Tag) :
    (t.markup numbering table).readable ∧
      (t.markup numbering table).visible = t.shown list := by
  cases t with
  | item =>
      cases list with
      | none =>
          obtain rfl : numbering = none := hlist
          exact ⟨rfl, rfl⟩
      | some p =>
          obtain rfl : numbering = some p.numbering := hlist
          refine ⟨?_, ?_⟩
          · simp only [Tag.markup, Markup.readable, List.all_cons, Option.map_some,
              Option.getD_some, readable_itemMark]
            rfl
          · simp [Tag.markup, Tag.shown, Piece.visible, Piece.styled,
              ListPlace.itemMark_numbering]
  | quote alert =>
      cases alert with
      | none => exact ⟨rfl, rfl⟩
      | some v =>
          obtain ⟨hreadable, hvisible⟩ := readable_alertTitle v
          exact ⟨hreadable, hvisible⟩
  | list start => cases start <;> exact ⟨rfl, rfl⟩
  | _ => exact ⟨rfl, rfl⟩

/-- What a closing event writes can be read back, and shows nothing. -/
theorem readable_closeTag (t : TagEnd) : t.markup.readable ∧ t.markup.visible = "" := by
  cases t with
  | list ordered => cases ordered <;> exact ⟨rfl, rfl⟩
  | _ => exact ⟨rfl, rfl⟩

/-! ## Elements -/

section Elements

variable {cfg : RenderSettings} {n : Nat} {parts : List ShownPart} {k : Stroke}

theorem shows_paragraph (enclosure : Option Enclosure) (h : k.Shows n parts) :
    Stroke.Shows n (.text "" :: parts)
      { k with markup := paragraphMarkup cfg enclosure k.markup } := by
  have hbare : Stroke.Shows n (.text "" :: parts) { k with markup := k.markup } :=
    h.wrap (a := []) (b := []) (by simp) rfl rfl rfl rfl
  by_cases hfigure : isFigure (k.markup.write cfg.styles) || blankText (k.markup.write cfg.styles)
  · rw [paragraphMarkup, if_pos hfigure]
    exact hbare
  · rw [paragraphMarkup, if_neg hfigure]
    cases Enclosure.paragraphKind enclosure with
    | some kind => exact h.wrap (a := [.styled "p" kind]) (b := [.endTag "p"]) rfl rfl rfl rfl rfl
    | none => exact hbare

theorem shows_heading (level : HeadingLevel) (h : k.Shows n parts) :
    Stroke.Shows n (.text "" :: parts) { k with markup := headingMarkup level k.markup } := by
  have hname : isName level.name := by cases level <;> rfl
  refine h.wrap (a := [.styled level.name (.heading level)]) (b := [.endTag level.name]) rfl rfl
    ?_ ?_ rfl
  · simp [Markup.readable, Piece.readable, Piece.styled, hname]
    rfl
  · simp [Markup.readable, Piece.readable, hname]

/-- A link without a citation. -/
theorem shows_link (l : PendingLink) (h : k.Shows n parts) :
    Stroke.Shows n (.text "" :: parts) { k with markup := l.markup k.markup, text := "" } := by
  unfold PendingLink.markup
  split
  · exact h.wrap (a := [.startTag "a" _]) (b := [.endTag "a"]) rfl rfl rfl rfl rfl
  · split
    · exact h.wrap (a := []) (b := []) (by simp) rfl rfl rfl rfl
    · exact h.wrap (a := [.styled "span" .link]) (b := [.endTag "span"]) rfl rfl rfl rfl rfl

/-- A cited link shows the number of its citation after its label. -/
theorem shows_cited (c : Citation) (h : k.Shows n parts) :
    Stroke.Shows n (.text "" :: (parts ++ [.citation]))
      { k with
        markup := citedMarkup (n + k.citations.length + 1) k.markup
        text := ""
        citations := k.citations ++ [c] } := by
  have hnumber (i : Nat) : (Piece.raw ("[" ++ toString i ++ "]")).readable :=
    readable_number "[" "]" i rfl rfl
  have hmark : Stroke.Shows (n + k.citations.length) [.citation]
      { k with markup := citationMark (n + k.citations.length + 1), citations := [c] } := by
    refine ⟨?_, ?_, rfl⟩
    · simp only [citationMark, Markup.readable, List.all_cons, hnumber]
      rfl
    · simp [citationMark, Piece.visible, Piece.styled, ShownPart.write]
  exact (h.append hmark).wrap (a := [.styled "span" .link]) (b := [.endTag "span"])
    (by simp [citedMarkup, Stroke.append_def, Stroke.append]) rfl rfl rfl rfl

/-- A link outside images is cited with the next number, or not at all. -/
theorem shows_link_stroke (cfg : RenderSettings) (l : PendingLink) (h : k.Shows n parts) :
    (k.link cfg l (n + k.citations.length)).Shows n
      (.text "" :: (parts ++
        if cfg.citations && (!l.onPlatform && l.href != l.label) then [.citation] else [])) := by
  cases hcited : cfg.citations && (!l.onPlatform && l.href != l.label) with
  | true =>
      have hc : l.citation? cfg = some ⟨l.citationTitle, l.href⟩ := by
        rw [PendingLink.citation?, if_neg (by simp_all)]
      rw [Stroke.link, hc, if_pos rfl]
      exact shows_cited _ h
  | false =>
      have hc : l.citation? cfg = none := by
        rw [PendingLink.citation?, if_pos]
        cases honPlatform : l.onPlatform <;> cases hciting : cfg.citations <;> simp_all
      rw [Stroke.link, hc, if_neg Bool.false_ne_true, List.append_nil]
      exact shows_link l h

variable {place : Place} {t : Tag} {pen : Pen} {list : Option ListPlace} {inner rest : Content}

/-- An element that is no image and no code block, around what it holds. -/
theorem shows_close (halt : place.alt = false) (himage : t.isImage = false)
    (hcode : t.codeInfo? = none) (hlist : pen.numbering = list.map ListPlace.numbering)
    (hlabel : k.text = inner.label) (h : k.Shows pen.cited parts) :
    (k.close cfg place t pen).Shows pen.cited
      (.text (t.shown list) ::
        (parts ++ if cfg.citations && t.isCited inner then [.citation] else [])) := by
  have hlink : t.isLink = false → t.isCited inner = false := by
    cases t <;> simp [Tag.isLink, Tag.isCited]
  cases t with
  | image src title => simp [Tag.isImage] at himage
  | fencedCode _ | indentedCode => simp [Tag.codeInfo?] at hcode
  | link href title =>
      have hstroke := shows_link_stroke cfg ⟨href, title, k.text⟩ h
      simpa [Stroke.close, halt, Tag.isCited, Tag.shown, PendingLink.onPlatform, platformPrefix,
        ← hlabel] using hstroke
  | paragraph => simpa [hlink rfl, Tag.shown, Stroke.close] using shows_paragraph place.enclosure h
  | heading level => simpa [hlink rfl, Tag.shown, Stroke.close] using shows_heading level h
  | _ =>
      obtain ⟨hopen, hshown⟩ := readable_openTag hlist pen.table _
      obtain ⟨hclose, hnothing⟩ := readable_closeTag _
      rw [hlink rfl, Bool.and_false, if_neg (by simp), List.append_nil, ← hshown]
      exact h.wrap rfl rfl hopen hclose hnothing

/-- Outside images, a link gives no text to what stands around it. -/
theorem text_close (halt : place.alt = false) :
    (k.close cfg place t pen).text = if t.isLink then "" else k.text := by
  cases t with
  | link href title =>
      simp only [Stroke.close, halt, Stroke.link]
      split
      · contradiction
      · split <;> rfl
  | _ => rfl

/-- An element shows what it holds. -/
theorem shownBy_close (halt : place.alt = false) (himage : t.isImage = false)
    (hcode : t.codeInfo? = none) (hlist : pen.numbering = list.map ListPlace.numbering)
    (h : inner.ShownBy cfg.citations (t.listInside list) pen.cited k) :
    (Content.element t inner .nil).ShownBy cfg.citations list pen.cited
      (k.close cfg place t pen) := by
  refine ⟨?_, ?_, ?_⟩
  · rw [Content.shown, Content.shown, List.append_nil]
    exact shows_close halt himage hcode hlist h.label h.shows
  · rw [text_close halt, h.label, Content.label, Content.label, String.append_empty]
  · rw [items_close, h.items, Content.itemCount, Content.itemCount, Nat.add_zero]

/-- What follows an element is shown after it. -/
theorem shownBy_append {citing : Bool} {l : Stroke}
    (h : (Content.element t inner .nil).ShownBy citing list n k)
    (hrest : rest.ShownBy citing
      (list.map (·.after (Content.element t inner .nil).itemCount)) (n + k.citations.length) l) :
    (Content.element t inner rest).ShownBy citing list n (k ++ l) := by
  refine ⟨?_, ?_, ?_⟩
  · simpa [Content.shown] using h.shows.append hrest.shows
  · have hlabel := h.label
    rw [Content.label, Content.label, String.append_empty] at hlabel
    rw [Content.label, ← hlabel, ← hrest.label]
    rfl
  · have hitems := h.items
    rw [Content.itemCount, Content.itemCount, Nat.add_zero] at hitems
    rw [Content.itemCount, ← hitems, ← hrest.items]
    rfl

end Elements

/-! ## Documents -/

section Documents

variable {σ : Type} (services : Services (StateM σ)) (cfg : RenderSettings)

/-- Inside an element the counter is that of the place inside. -/
theorem numbering_inside {pen : Pen} {list : Option ListPlace} (t : Tag)
    (hlist : pen.numbering = list.map ListPlace.numbering) :
    (pen.inside t).numbering = (t.listInside list).map ListPlace.numbering := by
  cases t with
  | list start =>
      change some (ListNumbering.ofStart start) = some ((ListNumbering.ofStart start).after 0)
      rw [ListNumbering.after_zero]
  | item =>
      have hnext (p : ListPlace) : p.numbering.next = (p.after 1).numbering := by
        rw [ListPlace.numbering_after, ← ListNumbering.after_next, ListNumbering.after_zero]
      change pen.numbering.map ListNumbering.next = (list.map (·.after 1)).map ListPlace.numbering
      rw [hlist, Option.map_map, Option.map_map]
      exact congrArg (list.map ·) (funext hnext)
  | _ => exact hlist

/-- Content is drawn as it is shown. -/
theorem always_draw_shownBy : (c : Content) → (list : Option ListPlace) → (place : Place) →
    (pen : Pen) → place.alt = false → pen.numbering = list.map ListPlace.numbering →
    c.has Tag.isImage = false → c.has Tag.isCode = false → c.noHtml →
    Always (c.ShownBy cfg.citations list pen.cited) (c.draw services cfg place pen)
  | .nil, list, place, pen, _, _, _, _, _ => Always.pure ⟨⟨rfl, rfl, rfl⟩, rfl, rfl⟩
  | .leaf l rest, list, place, pen, halt, hlist, himages, hcode, hhtml => by
      obtain ⟨hl, hrest⟩ : l.isHtml = false ∧ rest.noHtml := by
        simpa [Content.noHtml] using hhtml
      have ih := always_draw_shownBy rest list place pen halt hlist himages hcode hrest
      refine (Content.always_draw_leaf services cfg place l rest pen ih).mono ?_
      rintro k ⟨b, hb, rfl⟩
      rw [halt]
      exact ⟨(shows_leaf l hl pen.cited pen.table).append hb.shows,
        congrArg (l.plainText false ++ ·) hb.label, (Nat.zero_add _).trans hb.items⟩
  | .element t inner rest, list, place, pen, halt, hlist, himages, hcode, hhtml => by
      simp only [Content.has, Bool.or_eq_false_iff] at himages hcode
      obtain ⟨⟨himage, himagesInner⟩, himagesRest⟩ := himages
      obtain ⟨⟨hiscode, hcodeInner⟩, hcodeRest⟩ := hcode
      obtain ⟨hinner, hrest⟩ : inner.noHtml ∧ rest.noHtml := by
        simpa [Content.noHtml] using hhtml
      have helement : Always
          ((Content.element t inner .nil).ShownBy cfg.citations list pen.cited)
          (Content.drawElement services cfg place t inner pen) := by
        apply Content.always_drawElement
        · intro info ht
          simp [Tag.isCode, ht] at hiscode
        · intro ht
          have halt' : (place.inside t).alt = false := by
            rw [Place.alt_inside, halt, himage, Bool.or_false]
          have hcited : (pen.inside t).cited = pen.cited := by cases t <;> rfl
          have ih := always_draw_shownBy inner (t.listInside list) (place.inside t)
            (pen.inside t) halt' (numbering_inside t hlist) himagesInner hcodeInner hinner
          rw [hcited] at ih
          exact ih.mono fun k hk => shownBy_close halt himage ht hlist hk
      rw [Content.draw_element]
      refine Always.bind helement fun a ha => ?_
      have hlist' : (pen.after a).numbering =
          (list.map (·.after (Content.element t inner .nil).itemCount)).map
            ListPlace.numbering := by
        simp [Pen.after, hlist, ha.items, Function.comp_def, ListPlace.numbering_after]
      have ih := always_draw_shownBy rest _ place (pen.after a) halt hlist' himagesRest hcodeRest
        hrest
      exact Always.map ih fun b hb => shownBy_append ha hb

/-- **The text of a document is what is seen of it**, in order and nothing twice. -/
theorem rendered_visibleText (c : Content) (himages : c.has Tag.isImage = false)
    (hcode : c.has Tag.isCode = false) (hhtml : c.noHtml) :
    Always (fun r => visibleText r.html = some (c.shownText cfg.citations))
      (renderEvents services cfg c.events) := by
  have htext : c.codeIsText := Content.every_of_not_has (by simp_all) c hcode
  have hapart : c.imagesApart := Content.every_of_not_has (by simp_all) c himages
  rw [renderEvents_events services cfg c htext hapart]
  refine Always.map (always_draw_shownBy services cfg c none .outermost .initial rfl rfl himages
    hcode hhtml) fun k hk => ?_
  exact (Markup.visibleText_write cfg.styles hk.shows.readable).trans
    (congrArg some hk.shows.visible)

end Documents

/-- A cited and a followed link, an alert, and a list with a list and a task in an
item.  Some of its texts look like markup, and a paragraph is blank. -/
def printedDocument : Content :=
  .element .paragraph
    (.leaf (.text "a < b && \"<br>\" &amp;")
      (.element (.link "https://example.org" "") (.leaf (.code "<b>") .nil)
        (.leaf .softBreak
          (.element (.link "https://mp.weixin.qq.com/s" "") (.leaf (.text "c") .nil) .nil))))
    (.element .paragraph (.leaf (.text " ") .nil)
      (.element (.quote (some .tip)) (.element .paragraph (.leaf (.text "d") .nil) .nil)
        (.element (.list (some 9))
          (.element .item
            (.element (.list none)
              (.element .item (.leaf (.taskMarker true) (.leaf (.text "e") .nil)) .nil) .nil)
            (.element .item
              (.element (.link "x" "")
                (.element (.link "https://example.org" "") (.leaf (.text "f") .nil)
                  (.leaf (.text "g") .nil))
                .nil)
              .nil))
          .nil)))

/-- Its text with citations; the link in the link is cited first. -/
theorem printedDocument_visibleText :
    printedDocument.has Tag.isImage = false ∧ printedDocument.has Tag.isCode = false ∧
      printedDocument.noHtml ∧
      ∀ (services : Services (StateM Unit)) (cfg : RenderSettings), cfg.citations = true →
        Always (fun r => visibleText r.html =
            some "a < b && \"<br>\" &amp;<b>[1]c 💡 Tipd9. •  e10. f[2]g[3]")
          (renderEvents services cfg printedDocument.events) := by
  refine ⟨by decide, by decide, by decide, fun services cfg hciting => ?_⟩
  have htext : printedDocument.shownText true =
      "a < b && \"<br>\" &amp;<b>[1]c 💡 Tipd9. •  e10. f[2]g[3]" := by decide +kernel
  rw [← htext, ← hciting]
  exact rendered_visibleText services cfg printedDocument (by decide) (by decide) (by decide)

end Broadsheet
