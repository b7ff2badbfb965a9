import Broadsheet.Document.Render
import Broadsheet.Proofs.Document.Content

/-!
# Broadsheet.Proofs.Document.Drawing

Rendering by recursion on the tree of a document.  `RenderState.run` walks a
stream with stacks of captured outputs, links, lists and enclosures.  On the
stream of a tree the stacks are not needed: `Content.draw` gives what the
content adds to a rendering — a `Stroke` — from what surrounds it (`Place`) and
how far the counters are (`Pen`).

`run_events` says that the two agree: running the events of `c` from a state
adds to that state what drawing `c` gives, and calls the services in the same
order, in any lawful monad.  It asks that code blocks hold texts only and that
no image stands in an image.  Whatever holds of drawings, by induction on the
tree, so holds of renderings.
-/

namespace Broadsheet

/-! ## Counting list items -/

namespace ListNumbering

/-- The numbering after some more items. -/
def after (items : Nat) : ListNumbering → ListNumbering
  | bullet => bullet
  | ordered n => ordered (n + UInt64.ofNat items)

@[simp] theorem after_zero (l : ListNumbering) : l.after 0 = l := by
  cases l <;> simp [after]

theorem after_zero_eq_id : after 0 = id := funext after_zero

@[simp] theorem after_after (a b : Nat) (l : ListNumbering) :
    (l.after a).after b = l.after (a + b) := by
  cases l <;> simp [after, UInt64.add_assoc]

@[simp] theorem after_next (items : Nat) (l : ListNumbering) :
    l.next.after items = l.after (items + 1) := by
  cases l with
  | bullet => rfl
  | ordered n =>
      simp only [next, after, ordered.injEq, UInt64.ofNat_add]
      rw [UInt64.add_assoc, UInt64.add_comm 1]
      rfl

end ListNumbering

/-! ## Places, pens and strokes -/

/-- What surrounds a piece of content. -/
structure Place where
  enclosure : Option Enclosure
  /-- Whether it stands in the text of an image. -/
  alt : Bool

/-- The counters that drawing goes by. -/
structure Pen where
  numbering : Option ListNumbering
  table : TableCursor
  /-- The number of citations so far. -/
  cited : Nat
  /-- The number of diagrams so far. -/
  diagrams : Nat

/-- What content adds to a rendering. -/
structure Stroke where
  markup : Markup
  /-- The text that counts for the link or the image around it. -/
  text : String
  citations : Citations
  warnings : List String
  /-- The number of items for the list around it. -/
  items : Nat
  diagrams : Nat
  /-- Where the next cell stands afterwards. -/
  table : TableCursor

namespace Stroke

/-- Nothing is added. -/
def empty (table : TableCursor) : Stroke := ⟨[], "", [], [], 0, 0, table⟩

/-- One stroke after another. -/
def append (a b : Stroke) : Stroke where
  markup := a.markup ++ b.markup
  text := a.text ++ b.text
  citations := a.citations ++ b.citations
  warnings := a.warnings ++ b.warnings
  items := a.items + b.items
  diagrams := a.diagrams + b.diagrams
  table := b.table

instance : Append Stroke := ⟨append⟩

theorem append_def (a b : Stroke) : a ++ b = a.append b := rfl

end Stroke

/-- The counters after a stroke. -/
def Pen.after (p : Pen) (k : Stroke) : Pen where
  numbering := p.numbering.map (ListNumbering.after k.items)
  table := k.table
  cited := p.cited + k.citations.length
  diagrams := p.diagrams + k.diagrams

/-- The counters inside an element. -/
def Pen.inside (p : Pen) : Tag → Pen
  | .item => { p with numbering := p.numbering.map ListNumbering.next }
  | .table columns => { p with table := ⟨columns, 0⟩ }
  | .tableHead | .tableRow => { p with table := { p.table with cell := 0 } }
  | .list start => { p with numbering := some (.ofStart start) }
  | _ => p

/-- The place inside an element. -/
def Place.inside (p : Place) : Tag → Place
  | .quote alert => { p with enclosure := some (.quote alert) }
  | .item => { p with enclosure := some .item }
  | .image _ _ => { p with alt := true }
  | _ => p

/-- Content stands in an image's text if what surrounds it does, or an image surrounds it. -/
theorem Place.alt_inside (p : Place) (t : Tag) : (p.inside t).alt = (p.alt || t.isImage) := by
  cases t <;> simp [Place.inside, Tag.isImage]

/-! ## Drawing -/

/-- What an event that stands alone writes. -/
def Leaf.markup (alt : Bool) : Leaf → Markup
  | text t => if alt then [] else [.text t]
  | code t => if alt then [] else codeSpanMarkup t
  | html t | inlineHtml t => [.raw t]
  | softBreak | hardBreak => if alt then [] else lineBreakMarkup
  | rule => ruleMarkup
  | taskMarker checked => taskMarkup checked
  | inlineMath _ | displayMath _ | footnoteReference _ => []

/-- What it counts for as plain text.  A line break counts in the text of an
image only. -/
def Leaf.plainText (alt : Bool) : Leaf → String
  | text t | code t => t
  | softBreak | hardBreak => if alt then " " else ""
  | _ => ""

/-- The stroke of an event that stands alone. -/
def Leaf.stroke (l : Leaf) (alt : Bool) (table : TableCursor) : Stroke :=
  { Stroke.empty table with markup := l.markup alt, text := l.plainText alt }

namespace Stroke

/-- A link around its label. -/
def link (cfg : RenderSettings) (l : PendingLink) (cited : Nat) (k : Stroke) : Stroke :=
  match l.citation? cfg with
  | some c =>
      { k with
        markup := citedMarkup (cited + 1) k.markup
        text := ""
        citations := k.citations ++ [c] }
  | none => { k with markup := l.markup k.markup, text := "" }

/-- An element around what it holds; `p` is the pen before the element. -/
def close (cfg : RenderSettings) (place : Place) (t : Tag) (p : Pen) (k : Stroke) : Stroke :=
  let wrapped := { k with markup := t.markup p.numbering p.table ++ k.markup ++ t.toEnd.markup }
  match t with
  | .paragraph => { k with markup := paragraphMarkup cfg place.enclosure k.markup }
  | .heading level => { k with markup := headingMarkup level k.markup }
  | .link href title =>
      if place.alt then k else k.link cfg ⟨href, title, k.text⟩ (p.cited + k.citations.length)
  | .image src title => { k with markup := k.markup ++ figure cfg ⟨src, title, k.text⟩ }
  | .item => { wrapped with items := k.items + 1 }
  | .tableCell => { wrapped with table := { k.table with cell := k.table.cell + 1 } }
  | .list _ => { wrapped with items := 0 }
  | _ => wrapped

/-- A code block with what a service gave for it. -/
def ofCode (c : PendingCode) (a : CodeAnswer) (table : TableCursor) : Stroke :=
  { empty table with markup := c.markup a, warnings := a.warnings, diagrams := c.diagrams }

end Stroke

/-- Draws content.  Services are asked for code blocks only. -/
def Content.draw {m : Type → Type} [Monad m] (services : Services m) (cfg : RenderSettings) :
    Place → Content → Pen → m Stroke
  | _, nil, p => pure (.empty p.table)
  | place, leaf l rest, p => do
      let k ← draw services cfg place rest p
      return l.stroke place.alt p.table ++ k
  | place, element t inner rest, p => do
      let a ← match t.codeInfo? with
        | some info =>
            let c := PendingCode.trimmed ⟨info, inner.source⟩
            (Stroke.ofCode c · p.table) <$> services.answer c p.diagrams
        | none =>
            Stroke.close cfg place t p <$> draw services cfg (place.inside t) inner (p.inside t)
      let b ← draw services cfg place rest (p.after a)
      return a ++ b

section Equations

variable {m : Type → Type} [Monad m] (services : Services m) (cfg : RenderSettings)

/-- Draws one element. -/
def Content.drawElement (place : Place) (t : Tag) (inner : Content) (p : Pen) : m Stroke :=
  match t.codeInfo? with
  | some info =>
      let c := PendingCode.trimmed ⟨info, inner.source⟩
      (Stroke.ofCode c · p.table) <$> services.answer c p.diagrams
  | none =>
      Stroke.close cfg place t p <$> inner.draw services cfg (place.inside t) (p.inside t)

theorem Content.draw_leaf (place : Place) (l : Leaf) (rest : Content) (p : Pen) :
    (leaf l rest).draw services cfg place p = (do
      let k ← rest.draw services cfg place p
      return l.stroke place.alt p.table ++ k) := rfl

/-- Drawing an element, and then the rest with the counters where the element left them. -/
theorem Content.draw_element (place : Place) (t : Tag) (inner rest : Content) (p : Pen) :
    (element t inner rest).draw services cfg place p = (do
      let a ← drawElement services cfg place t inner p
      let b ← rest.draw services cfg place (p.after a)
      return a ++ b) := by
  rw [draw, drawElement]
  cases t.codeInfo? <;> rfl

end Equations

/-! ## Strokes on a state -/

namespace RenderState

/-- The place that a state stands at. -/
def place (s : RenderState) : Place := ⟨s.enclosures.head?, s.image.isSome⟩

/-- The counters of a state. -/
def pen (s : RenderState) : Pen :=
  ⟨s.lists.head?, s.table, s.citations.length, s.diagrams⟩

/-- Adds a stroke to a state.  Plain text goes to the open image, else to the
innermost link. -/
def add (s : RenderState) (k : Stroke) : RenderState :=
  { s with
    output := s.output ++ k.markup
    lists := s.lists.modifyHead (ListNumbering.after k.items)
    links := if s.image.isSome then s.links
      else s.links.modifyHead fun l => { l with label := l.label ++ k.text }
    image := s.image.map fun i => { i with alt := i.alt ++ k.text }
    table := k.table
    citations := s.citations ++ k.citations
    diagrams := s.diagrams + k.diagrams
    warnings := s.warnings ++ k.warnings }

/-- A stroke does not change what surrounds the next one. -/
@[simp] theorem place_add (s : RenderState) (k : Stroke) : (s.add k).place = s.place := by
  simp [place, add]

/-- A stroke moves the counters on. -/
@[simp] theorem pen_add (s : RenderState) (k : Stroke) : (s.add k).pen = s.pen.after k := by
  simp [pen, add, Pen.after, List.head?_modifyHead]

@[simp] theorem code_add (s : RenderState) (k : Stroke) : (s.add k).code = s.code := rfl

@[simp] theorem isSome_image_add (s : RenderState) (k : Stroke) :
    (s.add k).image.isSome = s.image.isSome := by
  simp [add]

/-- Adding nothing changes nothing. -/
@[simp] theorem add_empty (s : RenderState) : s.add (.empty s.table) = s := by
  rcases s with ⟨_, _, _, lists, links, _, _, image, _, _, _⟩
  cases lists <;> cases links <;> cases image <;> simp [add, Stroke.empty]

/-- Strokes are added one after another. -/
theorem add_append (s : RenderState) (a b : Stroke) : s.add (a ++ b) = (s.add a).add b := by
  rcases s with ⟨_, _, _, lists, links, _, _, image, _, _, _⟩
  cases lists <;> cases links <;> cases image <;>
    simp [add, Stroke.append_def, Stroke.append, String.append_assoc, Nat.add_assoc]

/-! ## Agreement of the two renderers -/

/- Outside code blocks, an event that stands alone adds its stroke; an element
adds what `Stroke.close` makes of what it holds.  The two lemmas are what a
change of one event's or one tag's rendering touches. -/

/-- An event that stands alone adds its stroke. -/
theorem quietStep_leaf (cfg : RenderSettings) (s : RenderState) (l : Leaf) (hcode : s.code = none) :
    s.quietStep cfg l.event = s.add (l.stroke s.place.alt s.table) := by
  rcases s with ⟨_, _, _, lists, links, _, _, image, _, _, _⟩
  subst hcode
  cases l <;> cases lists <;> cases links <;> cases image <;>
    simp [Leaf.event, Leaf.stroke, Leaf.markup, Leaf.plainText, quietStep, text, inlineCode,
      lineBreak, addToLabel, emit, add, place, Stroke.empty]

/-- An element adds its stroke: what its opening and its closing event do, around what its
content adds. -/
theorem closeTag_add_openTag (cfg : RenderSettings) (s : RenderState) (t : Tag) (k : Stroke)
    (ht : t.codeInfo? = none) (himage : t.isImage → s.image = none) :
    ((s.openTag t).add k).closeTag cfg t.toEnd = s.add (k.close cfg s.place t s.pen) := by
  rcases s with ⟨_, _, _, lists, links, _, _, image, _, _, _⟩
  cases t with
  | fencedCode _ | indentedCode => simp [Tag.codeInfo?] at ht
  | image src title =>
      have hnone : image = none := himage rfl
      subst hnone
      cases links <;> simp [openTag, closeTag, add, addToLabel, emit, Stroke.close, Tag.toEnd]
  | link href title =>
      cases image with
      | some i => simp [openTag, closeTag, add, Stroke.close, place, Tag.toEnd]
      | none =>
          cases links <;> cases hc : PendingLink.citation? cfg ⟨href, title, k.text⟩ <;>
            simp [openTag, closeTag, add, Stroke.close, Stroke.link, place, pen, Tag.toEnd,
              beginCapture, endCapture, link, hc, emit, Citations.add]
  | htmlBlock | footnoteDefinition _ | definitionList | definitionTitle | definitionBody
  | metadata =>
      cases image <;>
        simp [openTag, closeTag, add, Stroke.close, Tag.toEnd, Tag.markup, TagEnd.markup]
  | _ =>
      cases lists <;> cases links <;> cases image <;>
        simp [openTag, closeTag, add, emit, Stroke.close, Tag.toEnd, beginCapture, endCapture,
          place, pen]

/-- The end of a code block adds the block, with what a service gave for it. -/
theorem endCode_openTag (s : RenderState) (c c' : PendingCode) (a : CodeAnswer)
    (hcode : s.code = none) :
    endCode c a { s with code := some c' } = s.add (.ofCode c a s.table) := by
  rcases s with ⟨_, _, _, lists, links, _, _, image, _, _, _⟩
  subst hcode
  cases lists <;> cases links <;> cases image <;>
    simp [endCode, add, Stroke.ofCode, Stroke.empty]

/-! ## Places and counters of an element -/

/-- An opening event leads to the place inside the element. -/
theorem place_openTag (s : RenderState) (t : Tag) : (s.openTag t).place = s.place.inside t := by
  cases t with
  | link href title => cases h : s.image <;> simp [openTag, place, Place.inside, h, beginCapture]
  | _ => simp [openTag, place, Place.inside, emit, beginCapture]

/-- An opening event sets the counters as they are inside the element. -/
theorem pen_openTag (s : RenderState) (t : Tag) : (s.openTag t).pen = s.pen.inside t := by
  cases t with
  | link href title => cases h : s.image <;> simp [openTag, pen, Pen.inside, h, beginCapture]
  | item => simp [openTag, pen, Pen.inside, emit, List.head?_modifyHead]
  | _ => simp [openTag, pen, Pen.inside, emit, beginCapture]

/-- Only a code block opens a code block. -/
theorem code_openTag (s : RenderState) (t : Tag) (ht : t.codeInfo? = none) :
    (s.openTag t).code = s.code := by
  cases t with
  | fencedCode _ | indentedCode => simp [Tag.codeInfo?] at ht
  | link href title => cases h : s.image <;> simp [openTag, h, beginCapture]
  | _ => simp [openTag, emit, beginCapture]

theorem openTag_code (s : RenderState) {t : Tag} {info : String} (ht : t.codeInfo? = some info) :
    s.openTag t = { s with code := some ⟨info, ""⟩ } := by
  cases t <;> simp_all [Tag.codeInfo?, openTag]

/-! ## Runs -/

section Runs

variable {m : Type → Type} [Monad m] (services : Services m) (cfg : RenderSettings)

@[simp] theorem run_nil (s : RenderState) : s.run services cfg [] = pure s := rfl

@[simp] theorem run_cons (s : RenderState) (e : Event) (es : List Event) :
    s.run services cfg (e :: es) = s.step services cfg e >>= fun s => s.run services cfg es := rfl

/-- A stream is run piece by piece. -/
theorem run_append [LawfulMonad m] (s : RenderState) (es fs : List Event) :
    s.run services cfg (es ++ fs) = s.run services cfg es >>= fun s => s.run services cfg fs := by
  simp [run, List.foldlM_append]

theorem step_leaf (s : RenderState) (l : Leaf) :
    s.step services cfg l.event = pure (s.quietStep cfg l.event) := by
  cases l <;> rfl

theorem step_closing (s : RenderState) {t : Tag} (ht : t.codeInfo? = none) :
    s.step services cfg (.closing t.toEnd) = pure (s.closeTag cfg t.toEnd) := by
  cases t <;> first | rfl | simp [Tag.codeInfo?] at ht

/-- The end of a code block is the one event that asks a service. -/
theorem step_closing_code (s : RenderState) {t : Tag} {info : String}
    (ht : t.codeInfo? = some info) :
    s.step services cfg (.closing t.toEnd) = s.closeCode services := by
  cases t <;> first | rfl | simp [Tag.codeInfo?] at ht

variable [LawfulMonad m]

/-- The text of a code block is captured. -/
theorem run_events_source (s : RenderState) (info : String) :
    (c : Content) → (src : String) → c.isText →
      { s with code := some ⟨info, src⟩ }.run services cfg c.events =
        pure { s with code := some ⟨info, src ++ c.source⟩ }
  | .nil, src, _ => by simp [Content.source]
  | .leaf l rest, src, h => by
      cases l with
      | text t =>
          have ih := run_events_source s info rest (src ++ t) h
          simp only [Content.events_leaf, run_cons, step_leaf, pure_bind]
          simpa [Leaf.event, quietStep, text, Content.source, String.append_assoc] using ih
      | _ => simp [Content.isText] at h
  | .element _ _ _, _, h => by simp [Content.isText] at h

/-- A code block asks its service and adds what it gave. -/
theorem run_code (s : RenderState) {t : Tag} {info : String} {inner : Content} (es : List Event)
    (ht : t.codeInfo? = some info) (htext : inner.isText) (hcode : s.code = none) :
    s.run services cfg (.opening t :: (inner.events ++ .closing t.toEnd :: es)) =
      (do
        let c := PendingCode.trimmed ⟨info, inner.source⟩
        let a ← services.answer c s.diagrams
        (s.add (.ofCode c a s.table)).run services cfg es) := by
  have hopen : s.step services cfg (.opening t) = pure { s with code := some ⟨info, ""⟩ } := by
    rw [← openTag_code s ht]
    rfl
  simp only [run_cons, hopen, pure_bind, run_append, run_events_source services cfg s info inner ""
    htext, step_closing_code services cfg _ ht, closeCode, Option.getD_some, String.empty_append,
    bind_assoc, endCode_openTag s _ _ _ hcode]

/-- An element other than a code block adds what `Stroke.close` makes of what
its content adds. -/
theorem run_element (s : RenderState) {t : Tag} {inner : Content} (es : List Event)
    (ht : t.codeInfo? = none) (himage : t.isImage → s.image = none)
    (hinner : (s.openTag t).run services cfg inner.events =
      (s.openTag t).add <$> inner.draw services cfg (s.place.inside t) (s.pen.inside t)) :
    s.run services cfg (.opening t :: (inner.events ++ .closing t.toEnd :: es)) =
      (do
        let k ← inner.draw services cfg (s.place.inside t) (s.pen.inside t)
        (s.add (k.close cfg s.place t s.pen)).run services cfg es) := by
  have hopen : s.step services cfg (.opening t) = pure (s.openTag t) := rfl
  simp only [run_cons, hopen, pure_bind, run_append, hinner, bind_map_left,
    step_closing services cfg _ ht, closeTag_add_openTag cfg s t _ ht himage]

/-- **Agreement**: running the events of a tree adds what drawing the tree
gives, and asks the services the same questions in the same order. -/
theorem run_events : (c : Content) → (s : RenderState) → s.code = none → c.codeIsText →
    c.imagesApart → (s.image.isSome → c.has Tag.isImage = false) →
    s.run services cfg c.events = s.add <$> c.draw services cfg s.place s.pen
  | .nil, s, _, _, _, _ => by
      have htable : s.pen.table = s.table := rfl
      simp [Content.draw, htable]
  | .leaf l rest, s, hcode, htext, himages, halt => by
      have ih := run_events rest (s.add (l.stroke s.place.alt s.table)) hcode htext himages
        (by simpa [Content.has] using halt)
      have hpen : s.pen.after (l.stroke s.place.alt s.table) = s.pen := by
        simp [Pen.after, Leaf.stroke, Stroke.empty, pen, ListNumbering.after_zero_eq_id]
      have htable : s.pen.table = s.table := rfl
      rw [place_add, pen_add, hpen] at ih
      simp only [Content.events_leaf, run_cons, step_leaf, pure_bind, quietStep_leaf cfg s l hcode,
        ih, Content.draw, map_bind, map_pure, add_append, htable]
      exact map_eq_pure_bind _ _
  | .element t inner rest, s, hcode, htext, himages, halt => by
      simp only [Content.codeIsText, Content.imagesApart, Content.every, Bool.and_eq_true]
        at htext himages
      obtain ⟨⟨hinnerText, htextInner⟩, htextRest⟩ := htext
      obtain ⟨⟨hinnerImages, himagesInner⟩, himagesRest⟩ := himages
      have hhas (h : s.image.isSome) :
          (t.isImage = false ∧ inner.has Tag.isImage = false) ∧ rest.has Tag.isImage = false := by
        simpa [Content.has] using halt h
      have haltInner : (s.openTag t).image.isSome → inner.has Tag.isImage = false := by
        have halt' : (s.openTag t).image.isSome = (s.image.isSome || t.isImage) := by
          have hplace := congrArg Place.alt (place_openTag s t)
          rwa [Place.alt_inside] at hplace
        intro h
        rw [halt', Bool.or_eq_true] at h
        cases h with
        | inl h => exact (hhas h).1.2
        | inr h => simpa [h] using hinnerImages
      have hrest (k : Stroke) :
          (s.add k).run services cfg rest.events =
            (s.add k).add <$> rest.draw services cfg s.place (s.pen.after k) := by
        have ih := run_events rest (s.add k) hcode htextRest himagesRest
          (by simpa using fun h => (hhas h).2)
        rwa [place_add, pen_add] at ih
      have hdraws (k : Stroke) :
          s.add <$> (do
            let b ← rest.draw services cfg s.place (s.pen.after k)
            return k ++ b) = (s.add k).run services cfg rest.events := by
        simp only [hrest, map_bind, map_pure, add_append]
        exact (map_eq_pure_bind _ _).symm
      cases ht : t.codeInfo? with
      | some info =>
          have hcodeText : inner.isText := by simpa [Tag.isCode, ht] using hinnerText
          have htable : s.pen.table = s.table := rfl
          have hdiagrams : s.pen.diagrams = s.diagrams := rfl
          rw [Content.events_element, run_code services cfg s _ ht hcodeText hcode]
          simp only [Content.draw, ht, map_bind, bind_map_left, ← hdraws, htable, hdiagrams]
      | none =>
          have himage : t.isImage → s.image = none := by
            intro h
            cases hs : s.image with
            | none => rfl
            | some i => simp [(hhas (by simp [hs])).1.1] at h
          have ih := run_events inner (s.openTag t) (by rw [code_openTag s t ht, hcode])
            htextInner himagesInner haltInner
          rw [place_openTag, pen_openTag] at ih
          rw [Content.events_element, run_element services cfg s _ ht himage ih]
          simp only [Content.draw, ht, map_bind, bind_map_left, ← hdraws]

end Runs

end RenderState

/-- The beginning of a document: nothing surrounds it. -/
def Place.outermost : Place := ⟨none, false⟩

/-- The counters at the beginning of a document. -/
def Pen.initial : Pen := ⟨none, ⟨[], 0⟩, 0, 0⟩

/-- A document is rendered as it is drawn. -/
theorem renderEvents_events {m : Type → Type} [Monad m] [LawfulMonad m] (services : Services m)
    (cfg : RenderSettings) (c : Content) (htext : c.codeIsText) (himages : c.imagesApart) :
    renderEvents services cfg c.events =
      (fun k => (RenderState.initial.add k).finish cfg) <$>
        c.draw services cfg .outermost .initial := by
  have hrun := RenderState.run_events services cfg c .initial rfl htext himages
    (by simp [RenderState.initial])
  have hplace : RenderState.initial.place = .outermost := rfl
  have hpen : RenderState.initial.pen = .initial := rfl
  rw [hplace, hpen] at hrun
  simp [renderEvents, hrun]

end Broadsheet
