import Broadsheet.Proofs.Document.Drawing

/-!
# Broadsheet.Proofs.Document.Composition

Documents one after another.  What stands before a document changes how it is
rendered in two ways only: through the number of the next citation and the
number of the next diagram.  The cursor of the last table is left over too, but
a cell looks at it only inside a row, and a table sets it anew.

The services of this module are functions: what they answer depends on what
they are asked, and on nothing else.

* `agree_draw` — pens that agree but for what is left over from a table outside
  of it draw the same strokes;
* `label_draw` — plain text and citations do not depend on the pen at all;
* `rendered_append` — the law for whole documents.
-/

namespace Broadsheet

open Content (TableDepth)

/-! ## Agreement -/

/-- Two cursors agree as far as a place can tell them apart. -/
def Content.TableDepth.Agree (a b : TableCursor) : TableDepth → Prop
  | outside => True
  | table => a.columns = b.columns
  | row => a = b

/-- Two pens agree but for cursors that a place cannot tell apart. -/
structure Pen.Agree (d : TableDepth) (p q : Pen) : Prop where
  numbering : p.numbering = q.numbering
  cited : p.cited = q.cited
  diagrams : p.diagrams = q.diagrams
  table : d.Agree p.table q.table

/-- Two strokes agree but for cursors that a place cannot tell apart. -/
structure Stroke.Agree (d : TableDepth) (k l : Stroke) : Prop where
  markup : k.markup = l.markup
  text : k.text = l.text
  citations : k.citations = l.citations
  warnings : k.warnings = l.warnings
  items : k.items = l.items
  diagrams : k.diagrams = l.diagrams
  table : d.Agree k.table l.table

/-- What agrees inside an element agrees outside of it. -/
theorem Content.TableDepth.agree_of_inside {d : TableDepth} {t : Tag} {a b : TableCursor}
    (h : (d.inside t).Agree a b) : d.Agree a b := by
  cases d with
  | outside => trivial
  | table =>
      have hrow (h : a = b) : a.columns = b.columns := congrArg _ h
      cases t <;> first | exact h | exact hrow h
  | row => cases t <;> exact h

namespace Pen.Agree

variable {d : TableDepth} {p q : Pen}

/-- An element sets the cursor to what the place inside can tell. -/
theorem inside (h : p.Agree d q) (t : Tag) : (p.inside t).Agree (d.inside t) (q.inside t) := by
  obtain ⟨hnumbering, hcited, hdiagrams, htable⟩ := h
  refine ⟨?_, ?_, ?_, ?_⟩
  · cases t <;> simp [Pen.inside, hnumbering]
  · cases t <;> simp [Pen.inside, hcited]
  · cases t <;> simp [Pen.inside, hdiagrams]
  · cases d <;> cases t <;>
      simp_all [Pen.inside, TableDepth.inside, TableDepth.Agree]

theorem after {k l : Stroke} (h : p.Agree d q) (hk : k.Agree d l) :
    (p.after k).Agree d (q.after l) := by
  refine ⟨?_, ?_, ?_, hk.table⟩
  · simp [Pen.after, h.numbering, hk.items]
  · simp [Pen.after, h.cited, hk.citations]
  · simp [Pen.after, h.diagrams, hk.diagrams]

end Pen.Agree

namespace Stroke.Agree

variable {d : TableDepth} {k l : Stroke}

/-- What agrees inside an element agrees outside of it. -/
theorem of_inside {t : Tag} (h : k.Agree (d.inside t) l) : k.Agree d l :=
  { h with table := TableDepth.agree_of_inside h.table }

theorem append {k' l' : Stroke} (h : k.Agree d l) (h' : k'.Agree d l') :
    (k ++ k').Agree d (l ++ l') := by
  refine ⟨?_, ?_, ?_, ?_, ?_, ?_, h'.table⟩
  · simp [append_def, Stroke.append, h.markup, h'.markup]
  · simp [append_def, Stroke.append, h.text, h'.text]
  · simp [append_def, Stroke.append, h.citations, h'.citations]
  · simp [append_def, Stroke.append, h.warnings, h'.warnings]
  · simp [append_def, Stroke.append, h.items, h'.items]
  · simp [append_def, Stroke.append, h.diagrams, h'.diagrams]

/-- Strokes that agree differ in the cursor only. -/
theorem eq_with_table (h : k.Agree d l) : l = { k with table := l.table } := by
  obtain ⟨hmarkup, htext, hcitations, hwarnings, hitems, hdiagrams, -⟩ := h
  rcases l with ⟨_, _, _, _, _, _, _⟩
  simp_all

/-- A link agrees with itself around labels that agree. -/
theorem link (cfg : RenderSettings) (pending : PendingLink) (cited : Nat) (h : k.Agree d l) :
    (k.link cfg pending cited).Agree d (l.link cfg pending cited) := by
  rw [h.eq_with_table]
  unfold Stroke.link
  split
  · exact ⟨rfl, rfl, rfl, rfl, rfl, rfl, h.table⟩
  · exact ⟨rfl, rfl, rfl, rfl, rfl, rfl, h.table⟩

/-- Elements agree if what they hold does; a cell has to stand in a row. -/
theorem close (cfg : RenderSettings) (place : Place) {t : Tag} {p q : Pen}
    (ht : t = .tableCell → d = .row) (hp : p.Agree d q) (hinside : k.Agree (d.inside t) l) :
    (k.close cfg place t p).Agree d (l.close cfg place t q) := by
  have hk := hinside.of_inside
  obtain ⟨hnumbering, hcited, hdiagrams, hcursor⟩ := hp
  cases t with
  | tableCell =>
      obtain rfl := ht rfl
      have hp : p.table = q.table := hcursor
      have hcell : k.table = l.table := hk.table
      rw [hk.eq_with_table]
      simp only [Stroke.close, hp, ← hcell, hnumbering]
      exact ⟨rfl, rfl, rfl, rfl, rfl, rfl, rfl⟩
  | link href title =>
      simp only [Stroke.close, hk.text, hk.citations, hcited]
      split
      · exact hk
      · exact hk.link cfg _ _
  | _ =>
      rw [hk.eq_with_table]
      simp only [Stroke.close, hnumbering]
      exact ⟨rfl, rfl, rfl, rfl, rfl, rfl, hk.table⟩

end Stroke.Agree

/-! ## Strokes of functional services -/

section Functional

variable (services : Services Id) (cfg : RenderSettings)

/-- The stroke of content, where services are functions. -/
def Content.stroke (place : Place) (c : Content) (p : Pen) : Stroke :=
  (c.draw services cfg place p).run

/-- The stroke of one element. -/
def Content.elementStroke (place : Place) (t : Tag) (inner : Content) (p : Pen) : Stroke :=
  (drawElement services cfg place t inner p).run

theorem Content.stroke_element (place : Place) (t : Tag) (inner rest : Content) (p : Pen) :
    (element t inner rest).stroke services cfg place p =
      elementStroke services cfg place t inner p ++
        rest.stroke services cfg place (p.after (elementStroke services cfg place t inner p)) := by
  rw [stroke, draw_element]
  rfl

theorem Content.elementStroke_code (place : Place) {t : Tag} (inner : Content) (p : Pen)
    {info : String} (ht : t.codeInfo? = some info) :
    elementStroke services cfg place t inner p =
      .ofCode (PendingCode.trimmed ⟨info, inner.source⟩)
        (services.answer (PendingCode.trimmed ⟨info, inner.source⟩) p.diagrams).run p.table := by
  rw [elementStroke, drawElement, ht]
  rfl

theorem Content.elementStroke_close (place : Place) {t : Tag} (inner : Content) (p : Pen)
    (ht : t.codeInfo? = none) :
    elementStroke services cfg place t inner p =
      (inner.stroke services cfg (place.inside t) (p.inside t)).close cfg place t p := by
  rw [elementStroke, drawElement, ht]
  rfl

/-- Pens that agree draw strokes that agree. -/
theorem agree_stroke : (c : Content) → (d : TableDepth) → (place : Place) → {p q : Pen} →
    c.cellsInRows d → p.Agree d q →
    (c.stroke services cfg place p).Agree d (c.stroke services cfg place q)
  | .nil, d, place, p, q, _, h => ⟨rfl, rfl, rfl, rfl, rfl, rfl, h.table⟩
  | .leaf l rest, d, place, p, q, hcells, h => by
      have hleaf : (l.stroke place.alt p.table).Agree d (l.stroke place.alt q.table) :=
        ⟨rfl, rfl, rfl, rfl, rfl, rfl, h.table⟩
      exact hleaf.append (agree_stroke rest d place hcells h)
  | .element t inner rest, d, place, p, q, hcells, h => by
      obtain ⟨⟨ht, hinner⟩, hrest⟩ :
          ((t = .tableCell → d = .row) ∧ inner.cellsInRows (d.inside t)) ∧ rest.cellsInRows d := by
        simpa [Content.cellsInRows, Decidable.imp_iff_not_or] using hcells
      have helement : (Content.elementStroke services cfg place t inner p).Agree d
          (Content.elementStroke services cfg place t inner q) := by
        cases hcode : t.codeInfo? with
        | some info =>
            rw [Content.elementStroke_code services cfg place inner p hcode,
              Content.elementStroke_code services cfg place inner q hcode, h.diagrams]
            exact ⟨rfl, rfl, rfl, rfl, rfl, rfl, h.table⟩
        | none =>
            rw [Content.elementStroke_close services cfg place inner p hcode,
              Content.elementStroke_close services cfg place inner q hcode]
            exact Stroke.Agree.close cfg place ht h
              (agree_stroke inner (d.inside t) (place.inside t) hinner (h.inside t))
      rw [Content.stroke_element, Content.stroke_element]
      exact helement.append (agree_stroke rest d place hrest (h.after helement))

/-- Plain text and citations of an element come from those of what it holds. -/
theorem label_close (place : Place) (t : Tag) {p q : Pen} {k l : Stroke}
    (h : k.text = l.text ∧ k.citations = l.citations) :
    (k.close cfg place t p).text = (l.close cfg place t q).text ∧
      (k.close cfg place t p).citations = (l.close cfg place t q).citations := by
  cases t with
  | link href title =>
      simp only [Stroke.close, h.1]
      split
      · exact h
      · unfold Stroke.link
        split
        · exact ⟨rfl, congrArg (· ++ _) h.2⟩
        · exact ⟨rfl, h.2⟩
  | _ => exact h

/-- Plain text and citations do not depend on the pen. -/
theorem label_stroke : (c : Content) → (place : Place) → (p q : Pen) →
    (c.stroke services cfg place p).text = (c.stroke services cfg place q).text ∧
      (c.stroke services cfg place p).citations = (c.stroke services cfg place q).citations
  | .nil, place, p, q => ⟨rfl, rfl⟩
  | .leaf l rest, place, p, q => by
      obtain ⟨htext, hcitations⟩ := label_stroke rest place p q
      exact ⟨congrArg (l.plainText place.alt ++ ·) htext, congrArg ([] ++ ·) hcitations⟩
  | .element t inner rest, place, p, q => by
      have helement :
          (Content.elementStroke services cfg place t inner p).text =
              (Content.elementStroke services cfg place t inner q).text ∧
            (Content.elementStroke services cfg place t inner p).citations =
              (Content.elementStroke services cfg place t inner q).citations := by
        cases hcode : t.codeInfo? with
        | some info =>
            rw [Content.elementStroke_code services cfg place inner p hcode,
              Content.elementStroke_code services cfg place inner q hcode]
            exact ⟨rfl, rfl⟩
        | none =>
            rw [Content.elementStroke_close services cfg place inner p hcode,
              Content.elementStroke_close services cfg place inner q hcode]
            exact label_close cfg place t (label_stroke inner _ _ _)
      have hrest := label_stroke rest place
        (p.after (Content.elementStroke services cfg place t inner p))
        (q.after (Content.elementStroke services cfg place t inner q))
      rw [Content.stroke_element, Content.stroke_element]
      simp only [Stroke.append_def, Stroke.append, helement, hrest, and_self]

/-! ## Whole documents -/

namespace RenderState

/-- A fresh state but for the citations and the number of diagrams of another. -/
def continued (s : RenderState) : RenderState :=
  { initial with citations := s.citations, diagrams := s.diagrams }

/-- A document adds its stroke. -/
theorem run_document (s : RenderState) (c : Content) (hcode : s.code = none)
    (himage : s.image = none) (htext : c.codeIsText) (himages : c.imagesApart) :
    (s.run services cfg c.events).run = s.add (c.stroke services cfg s.place s.pen) := by
  rw [run_events services cfg c s hcode htext himages (by simp [himage])]
  rfl

/-- After a document, the pen agrees with that of a fresh state. -/
theorem agree_pen_continued (k : Stroke) :
    (initial.add k).pen.Agree .outside (initial.add k).continued.pen := by
  refine ⟨?_, rfl, rfl, trivial⟩
  simp [pen, add, continued, initial]

end RenderState

open RenderState in
/-- **Documents compose**: a document after another is rendered as from a fresh
state that has the citations and the number of diagrams of the first, and
nothing else of it.  The citations that it adds are those that it has alone. -/
theorem rendered_append (a b : Content) (htextA : a.codeIsText) (htextB : b.codeIsText)
    (himagesA : a.imagesApart) (himagesB : b.imagesApart) (hcellsB : b.cellsInRows .outside) :
    let sa := (initial.run services cfg a.events).run
    let sb := (sa.continued.run services cfg b.events).run
    let sab := (initial.run services cfg (a.events ++ b.events)).run
    let ra := (renderEvents services cfg a.events).run
    let rb := sb.finish cfg
    (renderEvents services cfg (a.events ++ b.events)).run =
        ⟨ra.html ++ rb.html, rb.footnotes, ra.warnings ++ rb.warnings⟩ ∧
      sab.citations = sb.citations ∧ sab.diagrams = sb.diagrams ∧
      sb.citations = sa.citations ++ (initial.run services cfg b.events).run.citations := by
  intro sa sb sab ra rb
  have hsa : sa = initial.add (a.stroke services cfg .outermost .initial) :=
    run_document services cfg initial a rfl rfl htextA himagesA
  have hsab : sab = sa.add (b.stroke services cfg .outermost sa.pen) := by
    have hrun : sab = (sa.run services cfg b.events).run := by
      simp only [sab, run_append, Id.run_bind, sa]
    have hplace : sa.place = .outermost := by rw [hsa, place_add]; rfl
    rw [hrun, run_document services cfg sa b (by rw [hsa]; rfl) (by rw [hsa]; rfl) htextB himagesB,
      hplace]
  have hsb : sb = sa.continued.add (b.stroke services cfg .outermost sa.continued.pen) :=
    run_document services cfg sa.continued b rfl rfl htextB himagesB
  have halone : (initial.run services cfg b.events).run.citations =
      (b.stroke services cfg .outermost .initial).citations := by
    rw [run_document services cfg initial b rfl rfl htextB himagesB]
    rfl
  have hagree : (b.stroke services cfg .outermost sa.pen).Agree .outside
      (b.stroke services cfg .outermost sa.continued.pen) := by
    apply agree_stroke services cfg b .outside .outermost hcellsB
    rw [hsa]
    exact agree_pen_continued _
  refine ⟨?_, ?_, ?_, ?_⟩
  · have hra : ra = sa.finish cfg := rfl
    have hrab : (renderEvents services cfg (a.events ++ b.events)).run = sab.finish cfg := rfl
    rw [hrab, hra, hsab, show rb = sb.finish cfg from rfl, hsb]
    simp [finish, add, continued, initial, hagree.markup, hagree.warnings, hagree.citations]
  · rw [hsab, hsb]
    simp [add, continued, hagree.citations]
  · rw [hsab, hsb]
    simp [add, continued, hagree.diagrams]
  · rw [halone, hsb, (label_stroke services cfg b .outermost .initial sa.continued.pen).2]
    rfl

end Functional

/-- A highlighter that knows one language, and pictures that show their ids. -/
def namingServices : Services Id where
  highlight code language :=
    if language = "rust" then pure (.ok (plainHighlight code language))
    else pure (.error ⟨language, "no grammar"⟩)
  diagram? := some fun _ id => pure (.ok ("<svg id=\"" ++ id ++ "\"></svg>"))

/-- A table that leaves its cursor behind, a cited link and a diagram. -/
def leavingDocument : Content :=
  .element (.table [.right]) (.element .tableHead (.element .tableCell .nil .nil) .nil)
    (.element (.link "https://example.org" "") (.leaf (.text "here") .nil)
      (.element (.fencedCode "mermaid") (.leaf (.text "a --> b") .nil) .nil))

/-- What is rendered of a document stands before what is rendered of the next. -/
theorem leavingDocument_twice :
    leavingDocument.codeIsText ∧ leavingDocument.imagesApart ∧
      leavingDocument.cellsInRows .outside ∧
      ∃ rest,
        (renderEvents namingServices { RenderSettings.ofStyles .empty with citations := true }
            (leavingDocument.events ++ leavingDocument.events)).run.html =
          (renderEvents namingServices { RenderSettings.ofStyles .empty with citations := true }
            leavingDocument.events).run.html ++ rest := by
  have hcomposed := rendered_append namingServices
    { RenderSettings.ofStyles .empty with citations := true } leavingDocument leavingDocument
    (by decide) (by decide) (by decide) (by decide) (by decide)
  exact ⟨by decide, by decide, by decide, _, congrArg Rendered.html hcomposed.1⟩

end Broadsheet
