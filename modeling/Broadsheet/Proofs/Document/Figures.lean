import Broadsheet.Proofs.Document.Context

/-!
# Broadsheet.Proofs.Document.Figures

From the events of an image to its figure.  While an image is open, text, code
and breaks go to its alternative text and links are passed over, but emphasis
and the like write their tags all the same (`Tag.interrupts`), and an image that
begins inside takes the place of the open one.

* `foldl_quietStep_alt` — what inline content without images does while an image
  is open;
* `foldl_quietStep_withImage` — once an image has begun inside, nothing is left
  of the outer one;
* `write_figure` — how a figure is written;
* `run_image_iff` — an image writes its figure and nothing else exactly if nothing
  in it interrupts it, and no open code block takes its text.
-/

namespace Broadsheet

/-! ## Inline content -/

/-- Text, inline code, or a break. -/
def Leaf.isInline : Leaf → Bool
  | text _ | code _ | softBreak | hardBreak => true
  | _ => false

/-- A tag that is not passed over while an image is open. -/
def Tag.interrupts : Tag → Bool
  | emphasis | strong | strikethrough | superscript | subscript | image _ _ => true
  | _ => false

/-- What an event counts for in the alternative text of an image.  An open code
block takes texts first. -/
def Leaf.altText (inCode : Bool) : Leaf → String
  | text t => if inCode then "" else t
  | code t => t
  | softBreak | hardBreak => " "
  | _ => ""

/-- What an event counts for in an open code block. -/
def Leaf.source : Leaf → String
  | text t => t
  | _ => ""

namespace Content

/-- Inline events and elements, at any depth. -/
def isDescription : Content → Bool
  | nil => true
  | leaf l rest => l.isInline && rest.isDescription
  | element t inner rest => t.isInline && inner.isDescription && rest.isDescription

theorem isDescription_leaf {l : Leaf} {rest : Content} :
    (leaf l rest).isDescription ↔ l.isInline ∧ rest.isDescription := by
  simp [isDescription]

theorem isDescription_element {t : Tag} {inner rest : Content} :
    (element t inner rest).isDescription ↔
      t.isInline ∧ inner.isDescription ∧ rest.isDescription := by
  simp [isDescription, and_assoc]

/-- Inline content holds no code block. -/
theorem not_has_isCode_of_isDescription :
    (c : Content) → c.isDescription → c.has Tag.isCode = false :=
  not_has_of_hereditary (fun _ _ h => (isDescription_leaf.mp h).2) fun t _ _ h => by
    obtain ⟨ht, hinner, hrest⟩ := isDescription_element.mp h
    have hcode : t.isCode = false := by
      cases t <;> first | rfl | simp [Tag.isInline] at ht
    exact ⟨hcode, hinner, hrest⟩

/-- What the events count for, at any depth, in their order. -/
def gather (f : Leaf → String) : Content → String
  | nil => ""
  | leaf l rest => f l ++ rest.gather f
  | element _ inner rest => inner.gather f ++ rest.gather f

/-- The plain text of content: its texts and codes, and a blank for each break. -/
def altText (c : Content) : String := c.gather (Leaf.altText false)

/-- The tags that are written while an image is open. -/
def wrappers : Content → Markup
  | nil => []
  | leaf _ rest => rest.wrappers
  | element t inner rest =>
      t.markup none ⟨[], 0⟩ ++ inner.wrappers ++ t.toEnd.markup ++ rest.wrappers

/-- Where there is no text, a code block takes nothing from an image. -/
theorem gather_altText_eq (inCode : Bool) : (c : Content) →
    (inCode = false ∨ c.gather Leaf.source = "") →
      c.gather (Leaf.altText inCode) = c.altText
  | nil, _ => rfl
  | leaf l rest, h => by
      have ih := gather_altText_eq inCode rest
      cases inCode <;> cases l <;> simp_all [gather, altText, Leaf.altText, Leaf.source]
  | element _ inner rest, h => by
      have ihInner := gather_altText_eq inCode inner
      have ihRest := gather_altText_eq inCode rest
      cases inCode <;> simp_all [gather, altText]

/-- Nothing interrupts an image exactly if there is no other one inside and no
tag is written. -/
theorem has_interrupts_eq_false_iff : (c : Content) → c.isDescription →
    (c.has Tag.interrupts = false ↔ c.has Tag.isImage = false ∧ c.wrappers = [])
  | nil, _ => by simp [wrappers, has]
  | leaf l rest, hc => by
      have ih := has_interrupts_eq_false_iff rest
      simp_all [wrappers, has, isDescription]
  | element t inner rest, hc => by
      have ihInner := has_interrupts_eq_false_iff inner
      have ihRest := has_interrupts_eq_false_iff rest
      cases t <;>
        simp_all [wrappers, has, isDescription, Tag.isInline, Tag.isImage, Tag.interrupts,
          Tag.markup, TagEnd.markup, Tag.toEnd]
      grind

/-- No figure begins with a wrapper. -/
theorem figure_notMem_wrappers : (c : Content) → c.isDescription →
    Piece.styled "figure" .figure ∉ c.wrappers
  | nil, _ => by simp [wrappers]
  | leaf l rest, hc => by
      have ih := figure_notMem_wrappers rest
      simp_all [wrappers, isDescription]
  | element t inner rest, hc => by
      have ihInner := figure_notMem_wrappers inner
      have ihRest := figure_notMem_wrappers rest
      cases t <;>
        simp_all [wrappers, isDescription, Tag.isInline, Tag.markup, TagEnd.markup, Tag.toEnd,
          Piece.styled]

end Content

/-! ## While an image is open -/

namespace RenderState

/-- Adds markup to the output, and text to the open image and to the open code block. -/
def take (s : RenderState) (m : Markup) (alt source : String) : RenderState :=
  { s with
    output := s.output ++ m
    image := s.image.map fun i => { i with alt := i.alt ++ alt }
    code := s.code.map fun c => { c with source := c.source ++ source } }

theorem take_take (s : RenderState) (m m' : Markup) (alt alt' source source' : String) :
    (s.take m alt source).take m' alt' source' =
      s.take (m ++ m') (alt ++ alt') (source ++ source') := by
  rcases s with ⟨_, _, _, _, _, code, _, image, _, _, _⟩
  cases code <;> cases image <;> simp [take, String.append_assoc]

theorem take_eq_self (s : RenderState) {source : String} (h : s.code = none ∨ source = "") :
    s.take [] "" source = s := by
  rcases s with ⟨_, _, _, _, _, code, _, image, _, _, _⟩
  cases code <;> cases image <;> simp_all [take]

@[simp] theorem take_empty (s : RenderState) : s.take [] "" "" = s := s.take_eq_self (.inr rfl)

@[simp] theorem isSome_image_take (s : RenderState) (m : Markup) (alt source : String) :
    (s.take m alt source).image.isSome = s.image.isSome := by
  simp [take]

@[simp] theorem isSome_code_take (s : RenderState) (m : Markup) (alt source : String) :
    (s.take m alt source).code.isSome = s.code.isSome := by
  simp [take]

/-- The state with another image open. -/
def withImage (s : RenderState) (i : PendingImage) : RenderState := { s with image := some i }

@[simp] theorem isSome_image_withImage (s : RenderState) (i : PendingImage) :
    (s.withImage i).image.isSome := rfl

@[simp] theorem code_withImage (s : RenderState) (i : PendingImage) :
    (s.withImage i).code = s.code := rfl

theorem take_withImage (s : RenderState) (i : PendingImage) (m : Markup) (alt source : String) :
    (s.withImage i).take m alt source =
      (s.take m alt source).withImage { i with alt := i.alt ++ alt } := rfl

section Alt

variable (cfg : RenderSettings) {s : RenderState}

theorem quietStep_leaf_alt (hs : s.image.isSome) {l : Leaf} (hl : l.isInline) :
    s.quietStep cfg l.event = s.take [] (l.altText s.code.isSome) l.source := by
  rcases s with ⟨_, _, _, _, _, code, _, image, _, _, _⟩
  obtain ⟨i, rfl⟩ := Option.isSome_iff_exists.mp hs
  cases l <;> cases code <;>
    simp_all [Leaf.isInline, Leaf.event, quietStep, text, inlineCode, lineBreak, take,
      Leaf.altText, Leaf.source]

/-- A tag that is not an image's writes what it writes, and opens nothing. -/
theorem quietStep_opening_alt (hs : s.image.isSome) {t : Tag} (ht : t.isInline)
    (himage : t.isImage = false) :
    s.quietStep cfg (.opening t) = s.take (t.markup none ⟨[], 0⟩) "" "" := by
  rcases s with ⟨_, _, _, _, _, code, _, image, _, _, _⟩
  obtain ⟨i, rfl⟩ := Option.isSome_iff_exists.mp hs
  cases t <;> cases code <;>
    simp_all [Tag.isInline, Tag.isImage, quietStep, openTag, take, emit, Tag.markup]

theorem quietStep_closing_alt (hs : s.image.isSome) {t : Tag} (ht : t.isInline)
    (himage : t.isImage = false) :
    s.quietStep cfg (.closing t.toEnd) = s.take t.toEnd.markup "" "" := by
  rcases s with ⟨_, _, _, _, _, code, _, image, _, _, _⟩
  obtain ⟨i, rfl⟩ := Option.isSome_iff_exists.mp hs
  cases t <;> cases code <;>
    simp_all [Tag.isInline, Tag.isImage, Tag.toEnd, quietStep, closeTag, take, emit,
      TagEnd.markup]

/-- **In the text of an image**, inline content without images writes its tags
and leaves the rest to the image, or to the code block that is open. -/
theorem foldl_quietStep_alt : (c : Content) → {s : RenderState} → s.image.isSome → c.isDescription →
    c.has Tag.isImage = false →
    c.events.foldl (quietStep cfg) s =
      s.take c.wrappers (c.gather (Leaf.altText s.code.isSome)) (c.gather Leaf.source)
  | .nil, s, _, _, _ => by simp [Content.wrappers, Content.gather]
  | .leaf l rest, s, hs, hc, himage => by
      obtain ⟨hl, hrest⟩ := Content.isDescription_leaf.mp hc
      have ih := foldl_quietStep_alt rest
        (s := s.take [] (l.altText s.code.isSome) l.source) (by simpa using hs) hrest himage
      rw [Content.events_leaf, List.foldl_cons, quietStep_leaf_alt cfg hs hl, ih, take_take,
        isSome_code_take]
      rfl
  | .element t inner rest, s, hs, hc, himage => by
      obtain ⟨ht, hinner, hrest⟩ := Content.isDescription_element.mp hc
      obtain ⟨⟨htImage, hinnerImage⟩, hrestImage⟩ :
          (t.isImage = false ∧ inner.has Tag.isImage = false) ∧ rest.has Tag.isImage = false := by
        simpa [Content.has] using himage
      rw [Content.events_element, List.foldl_cons, List.foldl_append, List.foldl_cons,
        quietStep_opening_alt cfg hs ht htImage,
        foldl_quietStep_alt inner (by simpa using hs) hinner hinnerImage,
        quietStep_closing_alt cfg (by simpa using hs) ht htImage,
        foldl_quietStep_alt rest (by simpa using hs) hrest hrestImage]
      simp [take_take, Content.wrappers, Content.gather]

/-- **An image in an image**: nothing is left of the one that was open. -/
theorem foldl_quietStep_withImage : (c : Content) → {s : RenderState} → s.image.isSome →
    c.isDescription → c.has Tag.isImage → (i : PendingImage) →
      c.events.foldl (quietStep cfg) (s.withImage i) = c.events.foldl (quietStep cfg) s
  | .nil, _, _, _, himage, _ => by simp [Content.has] at himage
  | .leaf l rest, s, hs, hc, himage, i => by
      obtain ⟨hl, hrest⟩ := Content.isDescription_leaf.mp hc
      rw [Content.events_leaf, List.foldl_cons, List.foldl_cons, quietStep_leaf_alt cfg hs hl,
        quietStep_leaf_alt cfg (by simp) hl, take_withImage, code_withImage]
      exact foldl_quietStep_withImage rest (by simpa using hs) hrest himage _
  | .element t inner rest, s, hs, hc, himage, i => by
      obtain ⟨ht, hinner, hrest⟩ := Content.isDescription_element.mp hc
      simp only [Content.events_element, List.foldl_cons, List.foldl_append]
      cases htImage : t.isImage with
      | true =>
          have hopen : quietStep cfg (s.withImage i) (.opening t) =
              quietStep cfg s (.opening t) := by
            cases t <;> simp_all [Tag.isImage, quietStep, openTag, withImage]
          rw [hopen]
      | false =>
          rw [quietStep_opening_alt cfg hs ht htImage,
            quietStep_opening_alt cfg (by simp) ht htImage, take_withImage]
          cases hinnerImage : inner.has Tag.isImage with
          | true => rw [foldl_quietStep_withImage inner (by simpa using hs) hinner hinnerImage]
          | false =>
              have hrestImage : rest.has Tag.isImage := by
                simpa [Content.has, htImage, hinnerImage] using himage
              rw [foldl_quietStep_alt cfg inner (by simp) hinner hinnerImage,
                foldl_quietStep_alt cfg inner (by simpa using hs) hinner hinnerImage,
                take_withImage, quietStep_closing_alt cfg (by simp) ht htImage,
                quietStep_closing_alt cfg (by simpa using hs) ht htImage, take_withImage,
                code_withImage]
              exact foldl_quietStep_withImage rest (by simpa using hs) hrest hrestImage _

end Alt

/-! ## From the beginning of an image to its end -/

theorem run_eq_pure_foldl {m : Type → Type} [Monad m] [LawfulMonad m] (services : Services m)
    (cfg : RenderSettings) : (es : List Event) → (s : RenderState) →
    (∀ e ∈ es, e ≠ .closing .code) → s.run services cfg es = pure (es.foldl (quietStep cfg) s)
  | [], _, _ => rfl
  | e :: es, s, h => by
      obtain ⟨he, hes⟩ := List.forall_mem_cons.mp h
      rw [run_cons, step_of_ne services cfg s he, pure_bind,
        run_eq_pure_foldl services cfg es _ hes, List.foldl_cons]

theorem quietStep_closing_image (cfg : RenderSettings) {s : RenderState} {i : PendingImage}
    (hs : s.image = some i) :
    s.quietStep cfg (.closing .image) =
      ({ s with image := none }.addToLabel i.alt).emit (figure cfg i) := by
  simp [quietStep, closeTag, hs]

end RenderState

/-- The events of an image. -/
def imageEvents (src title : String) (c : Content) : List Event :=
  (Content.element (.image src title) c .nil).events

namespace RenderState

section Image

variable (cfg : RenderSettings) {s : RenderState} {c : Content}

theorem foldl_imageEvents (s : RenderState) (src title : String) (c : Content) :
    (imageEvents src title c).foldl (quietStep cfg) s =
      (c.events.foldl (quietStep cfg) (s.withImage ⟨src, title, ""⟩)).quietStep cfg
        (.closing .image) := by
  rw [imageEvents, Content.events_element, Content.events_nil, List.foldl_cons, List.foldl_append]
  rfl

/-- An image without images inside writes its tags before its figure. -/
theorem foldl_imageEvents_of_not_has (hc : c.isDescription) (himage : c.has Tag.isImage = false)
    (hs : s.image = none) (src title : String) :
    (imageEvents src title c).foldl (quietStep cfg) s =
      ((s.take c.wrappers "" (c.gather Leaf.source)).addToLabel
          (c.gather (Leaf.altText s.code.isSome))).emit
        (figure cfg ⟨src, title, c.gather (Leaf.altText s.code.isSome)⟩) := by
  rw [foldl_imageEvents, foldl_quietStep_alt cfg c (by simp) hc himage, take_withImage,
    quietStep_closing_image cfg rfl]
  simp [withImage, take, hs]

/-- What an image with another one inside does, does not depend on its address. -/
theorem foldl_imageEvents_of_has (hc : c.isDescription) (himage : c.has Tag.isImage)
    (src src' title : String) :
    (imageEvents src title c).foldl (quietStep cfg) s =
      (imageEvents src' title c).foldl (quietStep cfg) s := by
  have hsame := foldl_quietStep_withImage cfg c (s := s.withImage ⟨src', title, ""⟩) rfl hc himage
    ⟨src, title, ""⟩
  rw [foldl_imageEvents, foldl_imageEvents, ← hsame]
  rfl

end Image

end RenderState

/-! ## Figures -/

/-- A figure's text: the address, the title and the alternative text of its
image are escaped, and so is a caption, which is shown unless it is empty. -/
def writtenFigure (styles : Styles) (src title alt caption : String) : String :=
  "<figure" ++ styles.styleAttribute .figure ++ "><img" ++ styles.styleAttribute .image ++
    " src=\"" ++ escapeText src ++ "\" title=\"" ++ escapeText title ++ "\" alt=\"" ++
    escapeText alt ++ "\"/>" ++
    (if caption.isEmpty then ""
      else "<figcaption" ++ styles.styleAttribute .figureCaption ++ ">" ++ escapeText caption ++
        "</figcaption>") ++
    "</figure>"

theorem write_figure (cfg : RenderSettings) (styles : Styles) (i : PendingImage) :
    (figure cfg i).write styles =
      writtenFigure styles i.src i.title i.alt (cfg.legend.caption i.alt i.title) := by
  unfold writtenFigure
  rw [← String.toList_inj]
  simp only [figure]
  split <;> simp [Piece.styled, Piece.write, Attr.write, VoidEnd.write, Styles.styleAttribute]

/-- Figures tell the addresses of their images apart. -/
theorem src_eq_of_figure_eq {cfg : RenderSettings} {i j : PendingImage}
    (h : figure cfg i = figure cfg j) : i.src = j.src := by
  simp only [figure, List.cons_append, List.cons.injEq, Piece.voidTag.injEq,
    Attr.escaped.injEq] at h
  exact h.2.1.2.1.2.1.2

open RenderState in
/-- **Images**: from every state with no image open, and for every address, every
title and all inline content, the events of an image write its figure and
nothing else, with the plain text of the content as alternative text, and all
that is open stays open, the innermost link having the text in its label,
exactly if there is no image, emphasis, strong text, strikethrough, superscript
or subscript in the content, and no open code block for its text.  No service is
asked.  The caption of the figure is the one that is chosen of the alternative
text and the title. -/
theorem run_image_iff (cfg : RenderSettings) {s : RenderState} (hs : s.image = none) {c : Content}
    (hc : c.isDescription) :
    ((∀ (m : Type → Type) [Monad m] [LawfulMonad m] (services : Services m) (src title : String),
        s.run services cfg (imageEvents src title c) =
          pure ((s.addToLabel c.altText).emit (figure cfg ⟨src, title, c.altText⟩))) ↔
      c.has Tag.interrupts = false ∧ (s.code = none ∨ c.gather Leaf.source = "")) ∧
    ∀ src title, (figure cfg ⟨src, title, c.altText⟩).write cfg.styles =
      writtenFigure cfg.styles src title c.altText (cfg.legend.caption c.altText title) := by
  refine ⟨?_, fun src title => write_figure cfg cfg.styles _⟩
  have hquiet (src title : String) : ∀ e ∈ imageEvents src title c, e ≠ .closing .code :=
    Content.ne_closing_code_of_not_has _ <|
      Content.not_has_isCode_of_isDescription _ <|
        Content.isDescription_element.mpr ⟨rfl, hc, rfl⟩
  constructor
  · intro h
    have hfold (src : String) : (imageEvents src "" c).foldl (quietStep cfg) s =
        (s.addToLabel c.altText).emit (figure cfg ⟨src, "", c.altText⟩) := by
      have hrun := h Id Services.plain src ""
      rwa [run_eq_pure_foldl _ _ _ _ (hquiet src "")] at hrun
    have himage : c.has Tag.isImage = false := by
      rw [← Bool.not_eq_true]
      intro himage
      have hsame := foldl_imageEvents_of_has cfg (s := s) hc himage "a" "b" ""
      rw [hfold, hfold] at hsame
      have hfigure := List.append_cancel_left (congrArg output hsame)
      have hsrc : "a" = "b" := src_eq_of_figure_eq hfigure
      exact absurd hsrc (by decide)
    have hstate := hfold ""
    rw [foldl_imageEvents_of_not_has cfg hc himage hs] at hstate
    have houtput : c.wrappers ++ figure cfg _ = figure cfg _ :=
      List.append_cancel_left ((List.append_assoc _ _ _).symm.trans (congrArg output hstate))
    have hcode : s.code.map (fun k => { k with source := k.source ++ c.gather Leaf.source }) =
        s.code := congrArg code hstate
    refine ⟨(c.has_interrupts_eq_false_iff hc).mpr ⟨himage, ?_⟩, ?_⟩
    · cases hwrappers : c.wrappers with
      | nil => rfl
      | cons w ws =>
          rw [hwrappers] at houtput
          have hw : w = .styled "figure" .figure := (List.cons.inj houtput).1
          exact absurd (by simp [hwrappers, hw]) (c.figure_notMem_wrappers hc)
    · cases hopen : s.code with
      | none => exact .inl rfl
      | some k =>
          rw [hopen] at hcode
          have hsource := congrArg PendingCode.source (Option.some.inj hcode)
          exact .inr (by simpa using hsource)
  · rintro ⟨hinterrupts, hcode⟩ m _ _ services src title
    obtain ⟨himage, hwrappers⟩ := (c.has_interrupts_eq_false_iff hc).mp hinterrupts
    have halt : c.gather (Leaf.altText s.code.isSome) = c.altText :=
      c.gather_altText_eq _ (hcode.imp_left fun h => by simp [h])
    rw [run_eq_pure_foldl _ _ _ _ (hquiet src title), foldl_imageEvents_of_not_has cfg hc himage hs,
      halt, hwrappers, s.take_eq_self hcode]

/-- Text and code, a link, and a break between them. -/
def plainLabel : Content :=
  .leaf (.text "a ") (.element (.link "b" "") (.leaf (.code "c") .nil) (.leaf .softBreak .nil))

/-- An image with such content writes one figure. -/
theorem run_image_plainLabel :
    RenderState.initial.image = none ∧ plainLabel.isDescription ∧
      RenderState.initial.run (m := Id) Services.plain (.ofStyles .empty)
          (imageEvents "u" "" plainLabel) =
        RenderState.initial.emit (figure (.ofStyles .empty) ⟨"u", "", "a c "⟩) := by
  have himage : RenderState.initial.image = none := rfl
  have hinline : plainLabel.isDescription := rfl
  have hrun := (run_image_iff (.ofStyles .empty) himage hinline).1.mpr (by decide)
  exact ⟨himage, hinline, hrun Id Services.plain "u" ""⟩

/-- Emphasis in the text of an image leaves its tags before the figure. -/
example :
    let c := Content.element .emphasis (.leaf (.text "a") .nil) .nil
    (RenderState.initial.run (m := Id) Services.plain (.ofStyles .empty)
        (imageEvents "u" "" c)).output.write .empty =
      "<span></span><figure><img src=\"u\" title=\"\" alt=\"a\"/></figure>" := by
  decide

end Broadsheet
