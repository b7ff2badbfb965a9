import Broadsheet.Proofs.Document.Standing
import Broadsheet.Proofs.Document.WellFormed
import Broadsheet.Proofs.Html.Imageless

/-!
# Broadsheet.Proofs.Document.Context

How blocks are written depends on what surrounds them: items on the list around
them, paragraphs on the innermost quote or item, and cells on their column.  The
renderer keeps a stack or a cursor for each of these.  Here they are read off the
document instead, and `context_tracked` says that the renderer agrees, at any
depth and whatever stands in between.

* `Content.items` — the items of a list: those whose innermost list it is;
* `paragraphKindIn` — the kind of a paragraph inside open tags;
* `Content.children` — the heads and rows of a table, and the cells of those.
-/

namespace Broadsheet

/-! ## Items -/

namespace Tag

def isList : Tag → Bool
  | list _ => true
  | _ => false

def isItem : Tag → Bool
  | item => true
  | _ => false

end Tag

/-- The items among content that stand in no list among it, in the order in
which they are opened. -/
def Content.items (before : List Event) : Content → List Element
  | nil => []
  | leaf l rest => rest.items (before ++ [l.event])
  | element t inner rest =>
      (if t.isItem then [⟨before, t, inner⟩] else []) ++
        (if t.isList then [] else inner.items (before ++ [.opening t])) ++
        rest.items (Element.closed ⟨before, t, inner⟩)

/-- The number of such items. -/
def Content.itemCount : Content → Nat
  | nil => 0
  | leaf _ rest => rest.itemCount
  | element t inner rest =>
      (if t.isItem then 1 else 0) + (if t.isList then 0 else inner.itemCount) + rest.itemCount

theorem length_items : (c : Content) → (before : List Event) →
    (c.items before).length = c.itemCount
  | .nil, _ => rfl
  | .leaf _ rest, _ => length_items rest _
  | .element t inner rest, before => by
      simp only [Content.items, Content.itemCount, List.length_append, length_items rest]
      cases t.isItem <;> cases t.isList <;> simp [length_items inner]

theorem tag_of_mem_items {e : Element} : (c : Content) → (before : List Event) →
    e ∈ c.items before → e.tag = .item
  | .nil, _, he => by simp [Content.items] at he
  | .leaf _ rest, _, he => tag_of_mem_items rest _ he
  | .element t inner rest, before, he => by
      rw [Content.items, List.mem_append, List.mem_append] at he
      obtain (he | he) | he := he
      · cases t with
        | item =>
            obtain rfl : e = ⟨before, .item, inner⟩ := by simpa [Tag.isItem] using he
            rfl
        | _ => simp [Tag.isItem] at he
      · cases hlist : t.isList with
        | true => simp [hlist] at he
        | false => exact tag_of_mem_items inner _ (by simpa [hlist] using he)
      · exact tag_of_mem_items rest _ he

theorem itemCount_of_isText : (c : Content) → c.isText → c.itemCount = 0
  | .nil, _ => rfl
  | .leaf l rest, h => by
      cases l with
      | text s => exact itemCount_of_isText rest h
      | _ => simp [Content.isText] at h
  | .element _ _ _, h => by simp [Content.isText] at h

/-- What the item after `i` others in a list starts with. -/
def itemPrefix (start : Option UInt64) (i : Nat) : String :=
  match start with
  | none => "• "
  | some n => toString (n.toNat + i) ++ ". "

/-- The counter of a list says so, as long as it does not overflow. -/
theorem itemMark_after (start : Option UInt64) (i : Nat)
    (hbound : ∀ n, start = some n → n.toNat + i < UInt64.size) :
    ((ListNumbering.ofStart start).after i).itemMark = itemPrefix start i := by
  cases start with
  | none => rfl
  | some n =>
      have hlt := hbound n rfl
      have hi : i < UInt64.size := by omega
      have hadd : (n + UInt64.ofNat i).toNat = n.toNat + i := by
        rw [UInt64.toNat_add, UInt64.toNat_ofNat', Nat.mod_eq_of_lt hi, Nat.mod_eq_of_lt hlt]
      simp [ListNumbering.ofStart, ListNumbering.after, ListNumbering.itemMark, itemPrefix, hadd]

section Drawn

variable {σ : Type} {services : Services (StateM σ)} {cfg : RenderSettings} {h : σ}

theorem items_close (place : Place) (t : Tag) (p : Pen) (k : Stroke) :
    (k.close cfg place t p).items =
      (if t.isItem then 1 else 0) + if t.isList then 0 else k.items := by
  cases t with
  | link href title =>
      simp only [Stroke.close, Stroke.link]
      split
      · simp [Tag.isItem, Tag.isList]
      · split <;> simp [Tag.isItem, Tag.isList]
  | _ => simp [Stroke.close, Tag.isItem, Tag.isList, Nat.add_comm]

/-- Drawing counts the items. -/
theorem always_draw_items : (c : Content) → (place : Place) → (pen : Pen) → c.codeIsText →
    Always (fun k => k.items = c.itemCount) (c.draw services cfg place pen)
  | .nil, _, _, _ => Always.pure rfl
  | .leaf l rest, place, pen, htext => by
      have ih := always_draw_items rest place pen htext
      refine (Content.always_draw_leaf services cfg place l rest pen ih).mono ?_
      rintro k ⟨b, hb, rfl⟩
      exact (Nat.zero_add _).trans hb
  | .element t inner rest, place, pen, htext => by
      simp only [Content.codeIsText, Content.every, Bool.and_eq_true] at htext
      obtain ⟨⟨hcode, hinner⟩, hrest⟩ := htext
      have helement : Always (fun k => k.items =
          (if t.isItem then 1 else 0) + if t.isList then 0 else inner.itemCount)
          (Content.drawElement services cfg place t inner pen) := by
        apply Content.always_drawElement
        · intro info ht
          have hinnerText : inner.isText := by simpa [Tag.isCode, ht] using hcode
          have hkind : t.isItem = false ∧ t.isList = false := by
            cases t <;> simp_all [Tag.codeInfo?, Tag.isItem, Tag.isList]
          refine (Always.trivial _).mono fun a _ => ?_
          simp [Stroke.ofCode, Stroke.empty, hkind, itemCount_of_isText inner hinnerText]
        · intro _
          refine (always_draw_items inner _ _ hinner).mono fun k hk => ?_
          rw [items_close, hk]
      refine (Content.always_draw_element services cfg place t inner rest pen helement
        fun a _ => always_draw_items rest place _ hrest).mono ?_
      rintro k ⟨a, b, ha, hb, rfl⟩
      rw [Content.itemCount, ← ha, ← hb]
      rfl

open RenderState

theorem items_of_isText {c : Content} (before : List Event) (htext : c.isText) :
    c.items before = [] := by
  rw [← List.length_eq_zero_iff, length_items, itemCount_of_isText c htext]

/-- In an item the counter has gone on, and in a list it is the list's. -/
theorem lists_opening {before : List Event} {l : ListNumbering} {n : Nat} {t : Tag}
    (hlist : t.isList = false)
    (hlists : (reached services cfg h before).lists.head? = some (l.after n)) :
    (reached services cfg h (before ++ [.opening t])).lists.head? =
      some (l.after (n + if t.isItem then 1 else 0)) := by
  have hnext : (l.after n).next = l.after (n + 1) := by
    rw [← ListNumbering.after_after, ← ListNumbering.after_next (l := l.after n) 0,
      ListNumbering.after_zero]
  have hpen := congrArg Pen.numbering (pen_openTag (reached services cfg h before) t)
  rw [reached_opening]
  refine Eq.trans hpen ?_
  cases t with
  | list start => simp [Tag.isList] at hlist
  | item => simp [Pen.inside, pen, hlists, Tag.isItem, hnext]
  | _ => simp [Pen.inside, pen, hlists, Tag.isItem]

/-- The counter before each item has counted the items before it. -/
theorem lists_items {l : ListNumbering} : {c : Content} → {before : List Event} → (n : Nat) →
    Stands services cfg h before c →
    (reached services cfg h before).lists.head? = some (l.after n) →
    ∀ e i, (e, i) ∈ (c.items before).zipIdx n →
      (reached services cfg h e.before).lists.head? = some (l.after i)
  | .nil, _, _, _, _ => by simp [Content.items]
  | .leaf l' rest, before, n, hs, hlists => by
      refine lists_items (c := rest) n hs.leaf ?_
      rw [reached_leaf services cfg h before l' hs.code]
      simpa [add, Leaf.stroke, Stroke.empty, ListNumbering.after_zero_eq_id] using hlists
  | .element t inner rest, before, n, hs, hlists => by
      intro e i hmem
      rw [Content.items, List.zipIdx_append, List.zipIdx_append, List.mem_append,
        List.mem_append] at hmem
      obtain (hmem | hmem) | hmem := hmem
      · -- the item itself
        cases hitem : t.isItem with
        | false => simp [hitem] at hmem
        | true =>
            obtain ⟨rfl, rfl⟩ : e = ⟨before, t, inner⟩ ∧ i = n := by simpa [hitem] using hmem
            exact hlists
      · cases hlist : t.isList with
        | true => simp [hlist] at hmem
        | false =>
            cases ht : t.codeInfo? with
            | some info =>
                have htext := hs.parts.1.1 (by simp [Tag.isCode, ht])
                simp [hlist, items_of_isText _ htext] at hmem
            | none =>
                refine lists_items (c := inner) _ (hs.inside ht) (lists_opening hlist hlists) e i ?_
                simpa [hlist, apply_ite List.length] using hmem
      · obtain ⟨k, hk, hadded⟩ := hs.draws_element (always_draw_items _ _ _ hs.alone.text)
        refine lists_items (c := rest) (n + k.items) hs.after ?_ e i ?_
        · rw [hadded]
          simp [add, List.head?_modifyHead, hlists]
        · have hcount := length_items (.element t inner .nil) before
          rw [Content.items, Content.items, List.append_nil, ← hk] at hcount
          rwa [hcount] at hmem

/-- An item of a list is opened with its number. -/
theorem item_opening {e : Element} {start : Option UInt64} (hlist : e.tag = .list start)
    (hs : Stands services cfg h e.before (.element e.tag e.content .nil))
    (hbound : ∀ n, start = some n →
      n.toNat + (e.content.items (e.before ++ [.opening e.tag])).length < UInt64.size)
    {item : Element} {i : Nat}
    (hitem : (item, i) ∈ (e.content.items (e.before ++ [.opening e.tag])).zipIdx) :
    (reached services cfg h (item.before ++ [.opening item.tag])).output =
      (reached services cfg h item.before).output ++
        [.styled "li" .listItem, .raw (itemPrefix start i)] := by
  have hinside := hs.inside (by rw [hlist]; rfl)
  have hfirst : (reached services cfg h (e.before ++ [.opening e.tag])).lists.head? =
      some ((ListNumbering.ofStart start).after 0) := by
    rw [reached_opening, hlist, ListNumbering.after_zero]
    rfl
  have hlists := lists_items 0 hinside hfirst item i hitem
  have hi : i < (e.content.items (e.before ++ [.opening e.tag])).length := by
    simpa using List.snd_lt_of_mem_zipIdx hitem
  have hmark := itemMark_after start i fun n hn => by
    have hn := hbound n hn
    omega
  rw [reached_opening, tag_of_mem_items _ _ (List.fst_mem_of_mem_zipIdx hitem)]
  simp [openTag, emit, Tag.markup, hlists, hmark]

end Drawn

/-! ## Inline content -/

/-- Whether a tag marks up a part of a line. -/
def Tag.isInline : Tag → Bool
  | emphasis | strong | strikethrough | superscript | subscript | link _ _ | image _ _ => true
  | _ => false

/-- Whether a tag is one of those that hold inline content only. -/
def Tag.holdsInline : Tag → Bool
  | paragraph | tableCell => true
  | _ => false

namespace Content

/-- No element but inline ones, at any depth. -/
def isInline (c : Content) : Bool := c.every fun t _ => t.isInline

/-- Paragraphs and cells hold inline content only. -/
def inlineInside (c : Content) : Bool := c.every fun t inner => !t.holdsInline || inner.isInline

end Content

theorem isPlain_leaf (alt : Bool) (l : Leaf) (h : l.isHtml = false) : (l.markup alt).isPlain := by
  cases l with
  | html t | inlineHtml t => simp [Leaf.isHtml] at h
  | taskMarker checked => cases checked <;> rfl
  | _ => cases alt <;> rfl

theorem isPlain_citationMark (n : Nat) : (citationMark n).isPlain := by
  have hnumber : '<' ∉ ("[" ++ toString n ++ "]").toList := by
    simp [notMem_toDigits (c := '<') (by decide)]
  have hraw : (Piece.raw ("[" ++ toString n ++ "]")).isPlain := by
    simpa only [Piece.isPlain, List.contains_eq_mem, Bool.not_eq_true', decide_eq_false_iff_not]
      using hnumber
  simp only [citationMark, Markup.isPlain, List.all_cons, hraw, Bool.true_and]
  rfl

theorem isPlain_link (l : PendingLink) {label : Markup} (h : label.isPlain) :
    (l.markup label).isPlain := by
  unfold PendingLink.markup
  split
  · simp only [Markup.isPlain_append, h, Bool.and_true]
    rfl
  · split
    · exact h
    · simp only [Markup.isPlain_append, h, Bool.and_true]
      rfl

theorem isPlain_close (cfg : RenderSettings) (place : Place) {t : Tag} (pen : Pen) {k : Stroke}
    (ht : t.isInline) (himage : t.isImage = false) (hk : k.markup.isPlain) :
    (k.close cfg place t pen).markup.isPlain := by
  cases t with
  | image src title => simp [Tag.isImage] at himage
  | link href title =>
      simp only [Stroke.close, Stroke.link]
      split
      · exact hk
      · split
        · simp only [citedMarkup, Markup.isPlain_append, hk, isPlain_citationMark]
          rfl
        · exact isPlain_link _ hk
  | emphasis | strong | strikethrough | superscript | subscript =>
      simp only [Stroke.close, Markup.isPlain_append, hk, Bool.and_true]
      rfl
  | _ => simp [Tag.isInline] at ht

/-- The kind of a paragraph in open tags, the innermost first.  In an item it has
no wrapper. -/
def paragraphKindIn : List Tag → Option ElementKind
  | [] => some .paragraph
  | .quote alert :: _ => some (.quoteParagraph alert)
  | .item :: _ => none
  | _ :: tags => paragraphKindIn tags

theorem paragraphKindIn_eq (tags : List Tag) :
    paragraphKindIn tags = Enclosure.paragraphKind (tags.filterMap Tag.enclosure?).head? := by
  fun_induction paragraphKindIn tags with
  | case1 | case2 | case3 => rfl
  | case4 t tags hquote hitem ih =>
      have ht : t.enclosure? = none := by
        cases t with
        | quote alert => exact absurd rfl (hquote alert)
        | item => exact absurd rfl hitem
        | _ => rfl
      simpa [ht] using ih

/-- A paragraph of a kind around its content. -/
def wrapParagraph (kind : Option ElementKind) (content : Markup) : Markup :=
  match kind with
  | some kind => [.styled "p" kind] ++ content ++ [.endTag "p"]
  | none => content

section Paragraphs

variable {σ : Type} {services : Services (StateM σ)} {cfg : RenderSettings} {h : σ}

theorem codeInfo?_of_isInline {t : Tag} (ht : t.isInline) : t.codeInfo? = none := by
  cases t <;> simp_all [Tag.isInline, Tag.codeInfo?]

/-- Inline content without images draws none. -/
theorem always_draw_isPlain : (c : Content) → (place : Place) → (pen : Pen) → c.isInline →
    c.noHtml → c.has Tag.isImage = false →
    Always (fun k => k.markup.isPlain) (c.draw services cfg place pen)
  | .nil, _, _, _, _, _ => Always.pure rfl
  | .leaf l rest, place, pen, hinline, hhtml, himage => by
      obtain ⟨hl, hrest⟩ : l.isHtml = false ∧ rest.noHtml := by
        simpa [Content.noHtml] using hhtml
      have ih := always_draw_isPlain rest place pen hinline hrest himage
      refine (Content.always_draw_leaf services cfg place l rest pen ih).mono ?_
      rintro k ⟨b, hb, rfl⟩
      have happend : (l.markup place.alt ++ b.markup : Markup).isPlain := by
        simp [isPlain_leaf place.alt l hl, hb]
      exact happend
  | .element t inner rest, place, pen, hinline, hhtml, himage => by
      simp only [Content.isInline, Content.every, Bool.and_eq_true] at hinline
      obtain ⟨⟨ht, hinnerInline⟩, hrestInline⟩ := hinline
      obtain ⟨hinnerHtml, hrestHtml⟩ : inner.noHtml ∧ rest.noHtml := by
        simpa [Content.noHtml] using hhtml
      obtain ⟨⟨htImage, hinnerImage⟩, hrestImage⟩ :
          (t.isImage = false ∧ inner.has Tag.isImage = false) ∧ rest.has Tag.isImage = false := by
        simpa [Content.has] using himage
      have helement : Always (fun k => k.markup.isPlain)
          (Content.drawElement services cfg place t inner pen) := by
        apply Content.always_drawElement
        · intro info hinfo
          simp [codeInfo?_of_isInline ht] at hinfo
        · intro _
          exact (always_draw_isPlain inner _ _ hinnerInline hinnerHtml hinnerImage).mono
            fun k hk => isPlain_close cfg place pen ht htImage hk
      refine (Content.always_draw_element services cfg place t inner rest pen helement
        fun a _ => always_draw_isPlain rest place _ hrestInline hrestHtml hrestImage).mono ?_
      rintro k ⟨a, b, ha, hb, rfl⟩
      have happend : (a.markup ++ b.markup : Markup).isPlain := by simp [ha, hb]
      exact happend

open RenderState

/-- A paragraph is wrapped as the open tags before it say. -/
theorem paragraph_adds {e : Element} (hparagraph : e.tag = .paragraph)
    (hs : Stands services cfg h e.before (.element e.tag e.content .nil))
    (hstyles : cfg.styles.WithoutTags) (hinline : e.content.isInline) (hhtml : e.content.noHtml)
    (himage : e.content.has Tag.isImage = false)
    (hblank : blankText ((e.body services cfg h).write cfg.styles) = false) :
    e.Adds services cfg h
      (wrapParagraph (paragraphKindIn (openTags e.before)) (e.body services cfg h)) := by
  obtain ⟨before, t, inner⟩ := e
  obtain rfl : t = .paragraph := hparagraph
  obtain ⟨k, hplain, hopened, hclosed⟩ := hs.closes rfl
    (always_draw_isPlain inner _ _ hinline hhtml himage)
  have hbody : Element.body services cfg h ⟨before, .paragraph, inner⟩ = k.markup := by
    rw [Element.body, hopened, reached_opening]
    simp [openTag, beginCapture, add]
  have hfigure : isFigure (k.markup.write cfg.styles) = false := by
    rw [isFigure, containsText_of_imageless (imageless_write hstyles hplain), Bool.and_false]
  have hadds := Element.adds_of_eq (e := ⟨before, .paragraph, inner⟩) hclosed
  have hkind : Enclosure.paragraphKind (reached services cfg h before).place.enclosure =
      paragraphKindIn (openTags before) := by
    rw [paragraphKindIn_eq, ← hs.enclosures]
    rfl
  rw [hbody] at hblank ⊢
  simp only [Stroke.close, paragraphMarkup, hfigure, hblank, Bool.or_false, Bool.false_eq_true,
    if_false, hkind] at hadds
  unfold wrapParagraph
  split at hadds <;> simp_all

end Paragraphs

/-! ## Tables -/

/-- The elements of content that stand in no other among it. -/
def Content.children (before : List Event) : Content → List Element
  | nil => []
  | leaf l rest => rest.children (before ++ [l.event])
  | element t inner rest =>
      ⟨before, t, inner⟩ :: rest.children (Element.closed ⟨before, t, inner⟩)

/-- What a cell's style says for the alignment of its column. -/
def alignmentText : Option Alignment → String
  | some .left => "; text-align: left"
  | some .center => "; text-align: center"
  | some .right => "; text-align: right"
  | some .none | none => ""

section Tables

variable {σ : Type} {services : Services (StateM σ)} {cfg : RenderSettings} {h : σ}

theorem table_close (cfg : RenderSettings) (place : Place) {t : Tag} (p : Pen) (k : Stroke)
    (ht : t ≠ .tableCell) :
    (k.close cfg place t p).table = k.table := by
  cases t with
  | tableCell => exact absurd rfl ht
  | link href title =>
      simp only [Stroke.close, Stroke.link]
      split
      · rfl
      · split <;> rfl
  | _ => rfl

/-- Inline content leaves the cursor of the table where it is. -/
theorem always_draw_table : (c : Content) → (place : Place) → (pen : Pen) → c.isInline →
    Always (fun k => k.table = pen.table) (c.draw services cfg place pen)
  | .nil, _, _, _ => Always.pure rfl
  | .leaf l rest, place, pen, hinline => by
      have ih := always_draw_table rest place pen hinline
      refine (Content.always_draw_leaf services cfg place l rest pen ih).mono ?_
      rintro k ⟨b, hb, rfl⟩
      exact hb
  | .element t inner rest, place, pen, hinline => by
      simp only [Content.isInline, Content.every, Bool.and_eq_true] at hinline
      obtain ⟨⟨ht, hinner⟩, hrest⟩ := hinline
      have hcell : t ≠ .tableCell := by rintro rfl; simp [Tag.isInline] at ht
      have hinside : (pen.inside t).table = pen.table := by
        cases t <;> simp_all [Tag.isInline, Pen.inside]
      have helement : Always (fun k => k.table = pen.table)
          (Content.drawElement services cfg place t inner pen) := by
        apply Content.always_drawElement
        · exact fun info _ => (Always.trivial _).mono fun a _ => rfl
        · intro _
          refine (always_draw_table inner _ _ hinner).mono fun k hk => ?_
          rw [table_close cfg place pen k hcell, hk, hinside]
      refine (Content.always_draw_element services cfg place t inner rest pen helement
        fun a ha => (always_draw_table rest place (pen.after a) hrest).mono
          fun b hb => hb.trans ha).mono ?_
      rintro k ⟨a, b, -, hb, rfl⟩
      exact hb

/-- Of the parts of a table only cells stand among cells. -/
theorem eq_tableCell_of_inside {t : Tag} {part : Content.TablePart}
    (ht : Content.TablePart.cells.inside t = some part) : t = .tableCell ∧ part = .flow := by
  cases t <;> simp_all [Content.TablePart.inside]

/-- Cells leave the columns as they are. -/
theorem always_draw_columns : (c : Content) → (place : Place) → (pen : Pen) →
    c.tablesInOrder .cells → c.inlineInside →
    Always (fun k => k.table.columns = pen.table.columns) (c.draw services cfg place pen)
  | .nil, _, _, _, _ => Always.pure rfl
  | .leaf l rest, _, _, htable, _ => by simp [Content.tablesInOrder] at htable
  | .element t inner rest, place, pen, htable, hinline => by
      rw [Content.tablesInOrder] at htable
      split at htable
      · next part hpart =>
          obtain ⟨rfl, rfl⟩ := eq_tableCell_of_inside hpart
          obtain ⟨-, htrest⟩ : inner.tablesInOrder .flow ∧ rest.tablesInOrder .cells := by
            simpa [Content.TablePart.after] using htable
          simp only [Content.inlineInside, Content.every, Bool.and_eq_true] at hinline
          obtain ⟨⟨hinner, -⟩, hrest⟩ := hinline
          have helement : Always (fun k => k.table.columns = pen.table.columns)
              (Content.drawElement services cfg place .tableCell inner pen) := by
            apply Content.always_drawElement
            · intro info hinfo
              simp [Tag.codeInfo?] at hinfo
            · intro _
              refine (always_draw_table inner _ _ hinner).mono fun k hk => ?_
              have hcolumns : k.table.columns = pen.table.columns := congrArg TableCursor.columns hk
              exact hcolumns
          refine (Content.always_draw_element services cfg place .tableCell inner rest pen helement
            fun a ha => (always_draw_columns rest place (pen.after a) htrest hrest).mono
              fun b hb => hb.trans ha).mono ?_
          rintro k ⟨a, b, -, hb, rfl⟩
          exact hb
      · simp at htable

open RenderState

/-- The cursor before each cell of a row is at the cell. -/
theorem table_cells {columns : List Alignment} : {c : Content} → {before : List Event} →
    (n : Nat) → Stands services cfg h before c → c.tablesInOrder .cells → c.inlineInside →
    (reached services cfg h before).table = ⟨columns, n⟩ →
    ∀ cell j, (cell, j) ∈ (c.children before).zipIdx n →
      cell.tag = .tableCell ∧ (reached services cfg h cell.before).table = ⟨columns, j⟩
  | .nil, _, _, _, _, _, _ => by simp [Content.children]
  | .leaf _ _, _, _, _, htable, _, _ => by simp [Content.tablesInOrder] at htable
  | .element t inner rest, before, n, hs, htable, hinline, hcursor => by
      rw [Content.tablesInOrder] at htable
      split at htable
      · next part hpart =>
          obtain ⟨rfl, rfl⟩ := eq_tableCell_of_inside hpart
          obtain ⟨-, htrest⟩ : inner.tablesInOrder .flow ∧ rest.tablesInOrder .cells := by
            simpa [Content.TablePart.after] using htable
          simp only [Content.inlineInside, Content.every, Bool.and_eq_true] at hinline
          obtain ⟨⟨hinner, -⟩, hrest⟩ := hinline
          obtain ⟨k, hk, -, hclosed⟩ := hs.closes rfl (always_draw_table inner _ _ hinner)
          have hnext : (reached services cfg h (Element.closed ⟨before, .tableCell, inner⟩)).table =
              ⟨columns, n + 1⟩ := by
            have hktable : k.table = ⟨columns, n⟩ := hk.trans hcursor
            rw [hclosed]
            simp [add, Stroke.close, hktable]
          intro cell j hmem
          rw [Content.children, List.zipIdx_cons, List.mem_cons] at hmem
          obtain hmem | hmem := hmem
          · obtain ⟨rfl, rfl⟩ := Prod.mk.inj hmem
            exact ⟨rfl, hcursor⟩
          · exact table_cells (c := rest) (n + 1) hs.after htrest hrest hnext cell j hmem
      · simp at htable

/-- A table holds heads and rows, and those hold cells. -/
theorem eq_cells_of_inside {t : Tag} {part inside : Content.TablePart}
    (hpart : part = .table ∨ part = .rows) (ht : part.inside t = some inside) :
    (t = .tableHead ∨ t = .tableRow) ∧ inside = .cells ∧ part.after = .rows := by
  obtain rfl | rfl := hpart <;> cases t <;>
    simp_all [Content.TablePart.inside, Content.TablePart.after]

/-- In each head and row of a table the cursor starts at the first column. -/
theorem table_rows {columns : List Alignment} : {c : Content} → {before : List Event} →
    {part : Content.TablePart} → part = .table ∨ part = .rows →
    Stands services cfg h before c → c.tablesInOrder part → c.inlineInside →
    (reached services cfg h before).table.columns = columns →
    ∀ row ∈ c.children before,
      (reached services cfg h (row.before ++ [.opening row.tag])).table = ⟨columns, 0⟩ ∧
        row.content.tablesInOrder .cells ∧ row.content.inlineInside ∧
        Stands services cfg h (row.before ++ [.opening row.tag]) row.content
  | .nil, _, _, _, _, _, _, _ => by simp [Content.children]
  | .leaf _ _, _, _, hpart, _, htable, _, _ => by
      obtain rfl | rfl := hpart <;> simp [Content.tablesInOrder] at htable
  | .element t inner rest, before, part, hpart, hs, htable, hinline, hcolumns => by
      rw [Content.tablesInOrder] at htable
      split at htable
      · next inside hinside =>
          obtain ⟨ht, rfl, hafter⟩ := eq_cells_of_inside hpart hinside
          obtain ⟨htinner, htrest⟩ : inner.tablesInOrder .cells ∧ rest.tablesInOrder .rows := by
            simpa [hafter] using htable
          simp only [Content.inlineInside, Content.every, Bool.and_eq_true] at hinline
          obtain ⟨⟨-, hinner⟩, hrest⟩ := hinline
          have hcode : t.codeInfo? = none := by obtain rfl | rfl := ht <;> rfl
          have hcell : t ≠ .tableCell := by obtain rfl | rfl := ht <;> simp
          have hcursor : ((reached services cfg h before).pen.inside t).table = ⟨columns, 0⟩ := by
            rw [← hcolumns]
            obtain rfl | rfl := ht <;> rfl
          obtain ⟨k, hk, -, hclosed⟩ :=
            hs.closes hcode (always_draw_columns inner _ _ htinner hinner)
          have hnext : (reached services cfg h
              (Element.closed ⟨before, t, inner⟩)).table.columns = columns := by
            rw [hclosed]
            have htable := table_close cfg (reached services cfg h before).place
              (reached services cfg h before).pen k hcell
            rw [hcursor] at hk
            exact (congrArg TableCursor.columns htable).trans hk
          intro row hmem
          rw [Content.children, List.mem_cons] at hmem
          obtain rfl | hmem := hmem
          · refine ⟨?_, htinner, hinner, hs.inside hcode⟩
            rw [reached_opening, ← hcursor, ← pen_openTag]
            rfl
          · exact table_rows (c := rest) (.inr rfl) hs.after htrest hrest hnext row hmem
      · simp at htable

/-- A cell is opened with the alignment of its column. -/
theorem cell_opening {e : Element} {columns : List Alignment} (htable : e.tag = .table columns)
    (hs : Stands services cfg h e.before (.element e.tag e.content .nil))
    (horder : e.content.tablesInOrder .table) (hinline : e.content.inlineInside)
    {row : Element} (hrow : row ∈ e.content.children (e.before ++ [.opening e.tag]))
    {cell : Element} {j : Nat}
    (hcell : (cell, j) ∈ (row.content.children (row.before ++ [.opening row.tag])).zipIdx) :
    (reached services cfg h (cell.before ++ [.opening cell.tag])).output =
      (reached services cfg h cell.before).output ++
        [.startTag "td" [.themed .tableCell (alignmentText columns[j]?)]] := by
  have hinside := hs.inside (by rw [htable]; rfl)
  have hcolumns : (reached services cfg h (e.before ++ [.opening e.tag])).table.columns =
      columns := by
    rw [reached_opening, htable]
    rfl
  obtain ⟨hcursor, hrowOrder, hrowInline, hrowStands⟩ :=
    table_rows (.inl rfl) hinside horder hinline hcolumns row hrow
  obtain ⟨htag, hat⟩ := table_cells 0 hrowStands hrowOrder hrowInline hcursor cell j hcell
  have halignment : TableCursor.alignment ⟨columns, j⟩ = alignmentText columns[j]? := by
    unfold TableCursor.alignment alignmentText
    cases columns[j]? with
    | none => rfl
    | some a => cases a <;> rfl
  rw [reached_opening, htag]
  simp [openTag, emit, Tag.markup, hat, halignment]

end Tables

/-! ## Documents -/

/-- What is said of every element of content holds of each, and of what it holds. -/
theorem every_of_mem {p : Tag → Content → Bool} {e : Element} : (c : Content) →
    (before : List Event) → c.every p → e ∈ c.elements before →
    p e.tag e.content ∧ e.content.every p
  | .nil, _, _, he => by simp [Content.elements] at he
  | .leaf _ rest, _, h, he => every_of_mem rest _ h he
  | .element t inner rest, before, h, he => by
      obtain ⟨⟨ht, hinner⟩, hrest⟩ : (p t inner ∧ inner.every p) ∧ rest.every p := by
        simpa [Content.every] using h
      simp only [Content.elements, List.mem_cons, List.mem_append] at he
      obtain rfl | he | he := he
      · exact ⟨ht, hinner⟩
      · exact every_of_mem inner _ hinner he
      · exact every_of_mem rest _ hrest he

theorem noHtml_of_mem {e : Element} : (c : Content) → (before : List Event) → c.noHtml →
    e ∈ c.elements before → e.content.noHtml
  | .nil, _, _, he => by simp [Content.elements] at he
  | .leaf _ rest, _, h, he => by
      rw [Content.noHtml, Bool.and_eq_true] at h
      exact noHtml_of_mem rest _ h.2 he
  | .element t inner rest, before, h, he => by
      rw [Content.noHtml, Bool.and_eq_true] at h
      simp only [Content.elements, List.mem_cons, List.mem_append] at he
      obtain rfl | he | he := he
      · exact h.1
      · exact noHtml_of_mem inner _ h.1 he
      · exact noHtml_of_mem rest _ h.2 he

/-- An element holds what its part of a table may hold. -/
theorem tablesInOrder_of_mem {e : Element} : (c : Content) → (before : List Event) →
    (part : Content.TablePart) → c.tablesInOrder part → e ∈ c.elements before →
    ∃ around inside : Content.TablePart, around.inside e.tag = some inside ∧
      e.content.tablesInOrder inside
  | .nil, _, _, _, he => by simp [Content.elements] at he
  | .leaf _ rest, _, part, h, he => by
      rw [Content.tablesInOrder, Bool.and_eq_true] at h
      exact tablesInOrder_of_mem rest _ part h.2 he
  | .element t inner rest, before, part, h, he => by
      rw [Content.tablesInOrder] at h
      split at h
      · next inside hinside =>
          rw [Bool.and_eq_true] at h
          simp only [Content.elements, List.mem_cons, List.mem_append] at he
          obtain rfl | he | he := he
          · exact ⟨part, inside, hinside, h.1⟩
          · exact tablesInOrder_of_mem inner _ inside h.1 he
          · exact tablesInOrder_of_mem rest _ part.after h.2 he
      · simp at h

/-- A table holds a head and then rows. -/
theorem tablesInOrder_table {around inside : Content.TablePart} {columns : List Alignment}
    (h : around.inside (.table columns) = some inside) : inside = .table := by
  cases around <;> simp_all [Content.TablePart.inside]

open RenderState in
/-- **Blocks are written as their surroundings say**, in every document and at any
depth: an item with its number in the innermost list, whatever stands in and
between the items; a paragraph that is not blank and has no image as the innermost
quote or item around it says; a cell with the alignment of its column. -/
theorem context_tracked {σ : Type} (services : Services (StateM σ)) (cfg : RenderSettings) (h : σ)
    (c : Content) (htext : c.codeIsText) (himages : c.imagesApart) (hhtml : c.noHtml)
    (htables : c.tablesInOrder .flow) (hinline : c.inlineInside)
    (hstyles : cfg.styles.WithoutTags) :
    (∀ e ∈ c.elements [], ∀ start, e.tag = .list start →
      let items := e.content.items (e.before ++ [.opening e.tag])
      (∀ n, start = some n → n.toNat + items.length < UInt64.size) →
      ∀ item i, (item, i) ∈ items.zipIdx →
        (reached services cfg h (item.before ++ [.opening item.tag])).output =
          (reached services cfg h item.before).output ++
            [.styled "li" .listItem, .raw (itemPrefix start i)]) ∧
    (∀ e ∈ c.elements [], e.tag = .paragraph → e.content.has Tag.isImage = false →
      let body := e.body services cfg h
      blankText (body.write cfg.styles) = false →
      e.Adds services cfg h (wrapParagraph (paragraphKindIn (openTags e.before)) body)) ∧
    (∀ e ∈ c.elements [], ∀ columns, e.tag = .table columns →
      ∀ row ∈ e.content.children (e.before ++ [.opening e.tag]), ∀ cell j,
        (cell, j) ∈ (row.content.children (row.before ++ [.opening row.tag])).zipIdx →
        (reached services cfg h (cell.before ++ [.opening cell.tag])).output =
          (reached services cfg h cell.before).output ++
            [.startTag "td" [.themed .tableCell (alignmentText columns[j]?)]]) := by
  have hstands {e : Element} (he : e ∈ c.elements []) :
      Stands services cfg h e.before (.element e.tag e.content .nil) :=
    Stands.of_mem_elements (Stands.document htext himages) he
  refine ⟨?_, ?_, ?_⟩
  · intro e he start hlist items hbound item i hitem
    exact item_opening hlist (hstands he) hbound hitem
  · intro e he hparagraph himage body hblank
    have hholds := (every_of_mem c [] hinline he).1
    rw [hparagraph] at hholds
    exact paragraph_adds hparagraph (hstands he) hstyles hholds (noHtml_of_mem c [] hhtml he)
      himage hblank
  · intro e he columns htable row hrow cell j hcell
    obtain ⟨around, inside, hinside, horder⟩ := tablesInOrder_of_mem c [] .flow htables he
    rw [htable] at hinside
    rw [tablesInOrder_table hinside] at horder
    exact cell_opening htable (hstands he) horder (every_of_mem c [] hinline he).2 hrow hcell

/-- A list with a list and an alert in its items, and a table in a quote. -/
def nestedDocument : Content :=
  .element (.list (some 3))
    (.element .item
      (.element .paragraph (.leaf (.text "a") .nil)
        (.element (.list none) (.element .item (.leaf (.text "b") .nil) .nil) .nil))
      (.element .item
        (.element (.quote (some .note)) (.element .paragraph (.leaf (.text "c") .nil) .nil) .nil)
        .nil))
    (.element (.quote none)
      (.element (.table [.left, .none, .right])
        (.element .tableHead (.element .tableCell .nil .nil)
          (.element .tableRow
            (.element .tableCell .nil
              (.element .tableCell .nil (.element .tableCell (.leaf (.text "d") .nil) .nil)))
            .nil))
        .nil)
      .nil)

open RenderState in
/-- Its second item has the number 4, the paragraph in the alert is one of the
alert's, and the third cell of the row is aligned to the right. -/
theorem nestedDocument_tracked :
    let services : Services (StateM Unit) := .plain
    let cfg := RenderSettings.ofStyles .empty
    nestedDocument.codeIsText ∧ nestedDocument.imagesApart ∧ nestedDocument.noHtml ∧
      nestedDocument.tablesInOrder .flow ∧ nestedDocument.inlineInside ∧
      cfg.styles.WithoutTags ∧
      (∃ e ∈ nestedDocument.elements [], e.tag = .item ∧
        (reached services cfg () (e.before ++ [.opening e.tag])).output =
          (reached services cfg () e.before).output ++ [.styled "li" .listItem, .raw "4. "]) ∧
      (∃ e ∈ nestedDocument.elements [], e.tag = .paragraph ∧
        e.Adds services cfg ()
          [.styled "p" (.quoteParagraph (some .note)), .text "c", .endTag "p"]) ∧
      (∃ e ∈ nestedDocument.elements [], e.tag = .tableCell ∧
        (reached services cfg () (e.before ++ [.opening e.tag])).output =
          (reached services cfg () e.before).output ++
            [.startTag "td" [.themed .tableCell "; text-align: right"]]) := by
  intro services cfg
  have hstyles : cfg.styles.WithoutTags := by
    intro kind d hd
    simp [cfg, RenderSettings.ofStyles, Styles.empty, Styles.declarations?] at hd
  obtain ⟨hitems, hparagraphs, hcells⟩ := context_tracked services cfg () nestedDocument
    (by decide) (by decide) (by decide) (by decide) (by decide) hstyles
  have hbound : ∀ n : UInt64, some 3 = some n → n.toNat + 2 < UInt64.size := by
    rintro n ⟨⟩
    decide
  refine ⟨by decide, by decide, by decide, by decide, by decide, hstyles,
    ⟨_, List.mem_of_getElem? (i := 5) rfl, rfl, ?_⟩,
    ⟨_, List.mem_of_getElem? (i := 7) rfl, rfl, ?_⟩,
    ⟨_, List.mem_of_getElem? (i := 15) rfl, rfl, ?_⟩⟩
  · exact hitems _ (.head _) (some 3) rfl hbound _ 1 (List.mem_zipIdx_iff_getElem?.mpr rfl)
  · exact hparagraphs _ (List.mem_of_getElem? (i := 7) rfl) rfl (by decide) (by decide)
  · exact hcells _ (List.mem_of_getElem? (i := 9) rfl) _ rfl _ (List.mem_of_getElem? (i := 1) rfl)
      _ 2 (List.mem_zipIdx_iff_getElem?.mpr rfl)

end Broadsheet
