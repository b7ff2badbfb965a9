import Broadsheet.Proofs.Document.Captures
import Broadsheet.Proofs.Document.Context
import Mathlib.Data.List.Infix

/-!
# Broadsheet.Proofs.Document.Siblings

Paragraphs one after the other.  What a document writes for a paragraph stays
together, in its place, until the end of the rendering (`infix_reached`), and
the texts of the paragraph stand in it in their order (`texts_reached`).  So what
stands between the texts of two paragraphs is what is written around their
contents: the tags of paragraphs, unless neither of the two is wrapped.

* `paragraph_writes` — what a paragraph adds, in any document;
* `siblings_parted` — what stands between two paragraphs, and when it is nothing;
* `siblings_joined` — documents in which it is nothing, and the texts of two
  paragraphs are written as one.
-/

namespace Broadsheet

/-! ## Texts of content -/

/-- The text that an event shows by itself. -/
def Leaf.texts : Leaf → List String
  | text s | code s => [s]
  | _ => []

/-- The texts of content outside images and code blocks. -/
def Content.texts : Content → List String
  | nil => []
  | leaf l rest => l.texts ++ rest.texts
  | element t inner rest => (if t.isImage || t.isCode then [] else inner.texts) ++ rest.texts

namespace Piece

/-- The text that a piece writes. -/
def text? : Piece → Option String
  | text s => some s
  | _ => none

/-- Whether a piece is a tag. -/
def isTag : Piece → Bool
  | startTag _ _ | endTag _ | voidTag _ _ _ => true
  | text _ | raw _ => false

end Piece

namespace Markup

/-- The texts in markup. -/
def texts (m : Markup) : List String := m.filterMap Piece.text?

@[simp] theorem texts_append (m n : Markup) : texts (m ++ n) = texts m ++ texts n :=
  List.filterMap_append

end Markup

theorem blank_escape (s : List Char) : blank (escape s) = blank s := by
  induction s with
  | nil => rfl
  | cons c s ih =>
      have hchar : blank (escapeChar c) = isBlank c := by
        unfold escapeChar
        split <;> first | rfl | decide | simp
      rw [escape_cons, blank_append, hchar, ih, blank_cons]

/-- Markup in which a text stands that is not blank is not written blank. -/
theorem blankText_write_of_mem (styles : Styles) {m : Markup} {s : String} (hs : s ∈ m.texts)
    (hblank : blankText s = false) : blankText (m.write styles) = false := by
  obtain ⟨p, hp, htext⟩ := List.mem_filterMap.mp hs
  obtain rfl : p = .text s := by cases p <;> simp_all [Piece.text?]
  obtain ⟨a, b, rfl⟩ := List.append_of_mem hp
  rw [blankText] at hblank
  rw [Markup.write_append, Markup.write_cons, Piece.write, escapeText, blankText]
  simp [blank_escape, hblank]

/-! ## What the events before say -/

section Observed

variable {σ : Type} (services : Services (StateM σ)) (cfg : RenderSettings)

open RenderState

/-- What each event does to a part of the state, a stream does to it. -/
theorem observed_reached {α : Type} (observe : RenderState → α) (after : α → Event → α)
    (hquiet : ∀ s e, e ≠ .closing .code → observe (s.quietStep cfg e) = after (observe s) e)
    (hcode : ∀ (s : RenderState) c a, observe (s.endCode c a) = after (observe s) (.closing .code))
    (h : σ) (es : List Event) :
    observe (reached services cfg h es) = es.foldl after (observe .initial) := by
  have hrun : Always (fun s => [].foldl after (observe s) = es.foldl after (observe .initial))
      (initial.run services cfg es) := by
    apply always_run services cfg (I := fun fs s =>
      fs.foldl after (observe s) = es.foldl after (observe .initial))
    · intro e fs s he hs
      rwa [hquiet s e he]
    · intro fs s hs
      refine always_closeCode services s fun a => ?_
      rwa [hcode]
    · rfl
  exact hrun h

end Observed

/-- Whether a code block is open after an event. -/
def Event.codeAfter (code : Bool) : Event → Bool
  | .opening t => code || t.isCode
  | .closing .code => false
  | _ => code

/-- Whether events leave a code block open. -/
def codeOpen (es : List Event) : Bool := es.foldl Event.codeAfter false

/-- The enclosures after an event. -/
def Event.enclosuresAfter (enclosures : List Enclosure) : Event → List Enclosure
  | .opening t => t.enclosure?.toList ++ enclosures
  | .closing .quote | .closing .item => enclosures.tail
  | _ => enclosures

namespace RenderState

variable {σ : Type} (services : Services (StateM σ)) (cfg : RenderSettings)

theorem isSome_code_quietStep (s : RenderState) (e : Event) (he : e ≠ .closing .code) :
    (s.quietStep cfg e).code.isSome = e.codeAfter s.code.isSome := by
  rcases s with ⟨_, _, _, _, links, code, _, image, _, _, _⟩
  cases e with
  | opening t =>
      cases t with
      | link href title =>
          cases image <;>
            simp [quietStep, openTag, beginCapture, Event.codeAfter, Tag.isCode, Tag.codeInfo?]
      | _ =>
          simp [quietStep, openTag, emit, beginCapture, Event.codeAfter, Tag.isCode, Tag.codeInfo?]
  | closing t =>
      cases t with
      | link =>
          cases image <;> cases links <;>
            simp [quietStep, closeTag, link, endCapture, Event.codeAfter]
          split <;> simp [emit]
      | image => cases image <;> simp [quietStep, closeTag, addToLabel, emit, Event.codeAfter]
      | code => exact absurd rfl he
      | _ => simp [quietStep, closeTag, emit, endCapture, Event.codeAfter]
  | text t =>
      cases code <;> cases image <;> simp [quietStep, text, addToLabel, emit, Event.codeAfter]
  | code t => cases image <;> simp [quietStep, inlineCode, addToLabel, emit, Event.codeAfter]
  | softBreak | hardBreak => cases image <;> simp [quietStep, lineBreak, emit, Event.codeAfter]
  | _ => simp [quietStep, emit, Event.codeAfter]

theorem enclosures_quietStep (s : RenderState) (e : Event) :
    (s.quietStep cfg e).enclosures = e.enclosuresAfter s.enclosures := by
  cases e with
  | opening t => exact enclosures_openTag s t
  | closing t =>
      rcases s with ⟨_, _, _, _, links, _, _, image, _, _, _⟩
      cases t with
      | link =>
          cases image <;> cases links <;>
            simp [quietStep, closeTag, link, endCapture, Event.enclosuresAfter]
          split <;> simp [emit]
      | image => cases image <;> simp [quietStep, closeTag, addToLabel, emit, Event.enclosuresAfter]
      | _ => simp [quietStep, closeTag, emit, endCapture, Event.enclosuresAfter]
  | text t =>
      rcases s with ⟨_, _, _, _, _, code, _, image, _, _, _⟩
      cases code <;> cases image <;> simp [quietStep, text, addToLabel, emit, Event.enclosuresAfter]
  | code t =>
      cases h : s.image <;> simp [quietStep, inlineCode, addToLabel, emit, Event.enclosuresAfter, h]
  | softBreak | hardBreak =>
      cases h : s.image <;> simp [quietStep, lineBreak, emit, Event.enclosuresAfter, h]
  | _ => simp [quietStep, emit, Event.enclosuresAfter]

variable (h : σ)

theorem isSome_code_reached (es : List Event) :
    (reached services cfg h es).code.isSome = codeOpen es :=
  observed_reached services cfg (fun s => s.code.isSome) (fun code e => e.codeAfter code)
    (isSome_code_quietStep cfg) (fun _ _ _ => rfl) h es

theorem enclosures_reached (es : List Event) :
    (reached services cfg h es).enclosures = es.foldl Event.enclosuresAfter [] :=
  observed_reached services cfg (·.enclosures) (fun enclosures e => e.enclosuresAfter enclosures)
    (fun s e _ => enclosures_quietStep cfg s e) (fun _ _ _ => rfl) h es

end RenderState

/-! ## Places in a document -/

/-- What an event that stands alone, an opening event and a whole element preserve holds before
each element of a document. -/
theorem before_of_mem_elements {P : List Event → Prop}
    (hleaf : ∀ before (l : Leaf), P before → P (before ++ [l.event]))
    (hopening : ∀ before t, P before → P (before ++ [.opening t]))
    (hclosed : ∀ e : Element, P e.before → P e.closed) {e : Element} :
    (c : Content) → {before : List Event} → e ∈ c.elements before → P before → P e.before
  | .nil, _, he, _ => by simp [Content.elements] at he
  | .leaf l rest, before, he, hP =>
      before_of_mem_elements hleaf hopening hclosed rest he (hleaf before l hP)
  | .element t inner rest, before, he, hP => by
      simp only [Content.elements, List.mem_cons, List.mem_append] at he
      obtain rfl | he | he := he
      · exact hP
      · exact before_of_mem_elements hleaf hopening hclosed inner he (hopening before t hP)
      · exact before_of_mem_elements hleaf hopening hclosed rest he (hclosed ⟨before, t, inner⟩ hP)

theorem enclosuresAfter_leaf (enclosures : List Enclosure) (l : Leaf) :
    l.event.enclosuresAfter enclosures = enclosures := by
  cases l <;> rfl

theorem enclosuresAfter_closing (enclosures : List Enclosure) (t : Tag) :
    Event.enclosuresAfter (t.enclosure?.toList ++ enclosures) (.closing t.toEnd) = enclosures := by
  cases t <;> rfl

/-- Well-nested content leaves the enclosures as they were. -/
theorem foldl_enclosuresAfter_events : (c : Content) → (enclosures : List Enclosure) →
    c.events.foldl Event.enclosuresAfter enclosures = enclosures
  | .nil, _ => rfl
  | .leaf l rest, enclosures => by
      rw [Content.events_leaf, List.foldl_cons, enclosuresAfter_leaf,
        foldl_enclosuresAfter_events rest]
  | .element t inner rest, enclosures => by
      have hopened : Event.enclosuresAfter enclosures (.opening t) =
          t.enclosure?.toList ++ enclosures := rfl
      rw [Content.events_element, List.foldl_cons, List.foldl_append,
        foldl_enclosuresAfter_events inner, List.foldl_cons, hopened, enclosuresAfter_closing,
        foldl_enclosuresAfter_events rest]

/-- After well-nested content no code block is open unless one was before. -/
theorem foldl_codeAfter_events : (c : Content) → c.events.foldl Event.codeAfter false = false
  | .nil => rfl
  | .leaf l rest => by
      have hleaf : l.event.codeAfter false = false := by cases l <;> rfl
      rw [Content.events_leaf, List.foldl_cons, hleaf, foldl_codeAfter_events rest]
  | .element t inner rest => by
      have hclosed : Event.codeAfter (inner.events.foldl Event.codeAfter
          (Event.codeAfter false (.opening t))) (.closing t.toEnd) = false := by
        cases hcode : t.codeInfo? with
        | none =>
            have hopened : Event.codeAfter false (.opening t) = false := by
              simp [Event.codeAfter, Tag.isCode, hcode]
            rw [hopened, foldl_codeAfter_events inner]
            cases t <;> simp_all [Event.codeAfter, Tag.toEnd, Tag.codeInfo?]
        | some info =>
            have hend : t.toEnd = .code := by cases t <;> simp_all [Tag.toEnd, Tag.codeInfo?]
            rw [hend]
            rfl
      rw [Content.events_element, List.foldl_cons, List.foldl_append, List.foldl_cons, hclosed,
        foldl_codeAfter_events rest]

theorem altOpen_leaf (before : List Event) (l : Leaf) :
    altOpen (before ++ [l.event]) = altOpen before := by
  rw [altOpen, List.foldl_append, ← altOpen]
  cases l <;> rfl

theorem altOpen_opening (before : List Event) (t : Tag) :
    altOpen (before ++ [.opening t]) = (altOpen before || t.isImage) := by
  rw [altOpen, List.foldl_append, ← altOpen]
  cases t <;> simp [Event.altAfter, Tag.isImage]

theorem altOpen_closed {e : Element} (h : altOpen e.before = false) : altOpen e.closed = false := by
  rw [altOpen, Element.closed, List.foldl_append, ← altOpen, altOpen_opened, altOpen_opening, h]
  cases e.tag <;> simp [Event.altAfter, Tag.toEnd, Tag.isImage]

theorem codeOpen_leaf (before : List Event) (l : Leaf) :
    codeOpen (before ++ [l.event]) = codeOpen before := by
  rw [codeOpen, List.foldl_append, ← codeOpen]
  cases l <;> rfl

theorem codeOpen_opening (before : List Event) (t : Tag) :
    codeOpen (before ++ [.opening t]) = (codeOpen before || t.isCode) := by
  rw [codeOpen, List.foldl_append, ← codeOpen]
  rfl

theorem codeOpen_closed {e : Element} (h : codeOpen e.before = false) :
    codeOpen e.closed = false := by
  have helement := foldl_codeAfter_events (.element e.tag e.content .nil)
  rw [codeOpen, Element.closed, Element.opened, List.append_assoc, List.foldl_append, ← codeOpen, h]
  simpa using helement

/-- The enclosures are those of the open tags. -/
theorem enclosures_of_mem_elements {c : Content} {e : Element} (he : e ∈ c.elements []) :
    e.before.foldl Event.enclosuresAfter [] = (openTags e.before).filterMap Tag.enclosure? := by
  refine before_of_mem_elements (P := fun es =>
    es.foldl Event.enclosuresAfter [] = (openTags es).filterMap Tag.enclosure?) ?_ ?_ ?_ c he rfl
  · intro before l h
    rw [List.foldl_append, h, openTags_leaf]
    exact enclosuresAfter_leaf _ l
  · intro before t h
    rw [List.foldl_append, h, openTags_opening, List.filterMap_cons]
    cases t <;> rfl
  · intro e h
    have helement := foldl_enclosuresAfter_events (.element e.tag e.content .nil)
    rw [openTags_closed, Element.closed, Element.opened, List.append_assoc, List.foldl_append, h]
    simpa using helement _

/-! ## What is written stays -/

/-- No link that begins in the text of an image holds an image. -/
def Content.linksMatched (c : Content) (before : List Event) : Prop :=
  ∀ e ∈ c.elements before, e.tag.isLink → altOpen e.before → e.content.has Tag.isImage = false

instance (c : Content) (before : List Event) : Decidable (c.linksMatched before) :=
  inferInstanceAs (Decidable (∀ e ∈ c.elements before,
    e.tag.isLink → altOpen e.before → e.content.has Tag.isImage = false))

namespace RenderState

variable {σ : Type} (services : Services (StateM σ)) (cfg : RenderSettings) (h : σ)

/-- The three parts of an element with what follows it. -/
theorem linksMatched_element {t : Tag} {inner rest : Content} {before : List Event}
    (hlinks : (Content.element t inner rest).linksMatched before) :
    inner.linksMatched (before ++ [.opening t]) ∧
      rest.linksMatched (Element.closed ⟨before, t, inner⟩) ∧
      Matched t (reached services cfg h before)
        (reached services cfg h (Element.opened ⟨before, t, inner⟩))
        (reached services cfg h (Element.closed ⟨before, t, inner⟩)) := by
  have hinner : inner.linksMatched (before ++ [.opening t]) := fun e he =>
    hlinks e (by simp [Content.elements, he])
  have hrest : rest.linksMatched (Element.closed ⟨before, t, inner⟩) := fun e he =>
    hlinks e (by simp [Content.elements, he])
  have hframed := framed_reached services cfg h inner _ hinner
  rw [← List.append_cons] at hframed
  exact ⟨hinner, hrest, matched_reached services cfg h ⟨before, t, inner⟩ hframed
    (hlinks _ (by simp [Content.elements]))⟩

/-- The events of an element and of what follows it. -/
theorem append_events_element (before : List Event) (t : Tag) (inner rest : Content) :
    before ++ (Content.element t inner rest).events =
      Element.closed ⟨before, t, inner⟩ ++ rest.events := by
  simp [Element.closed, Element.opened]

/-- **What was written at the end of an element stays in one piece.** -/
theorem infix_reached {e : Element} : (c : Content) → {before : List Event} →
    c.linksMatched before → e ∈ c.elements before →
    (reached services cfg h e.closed).output <:+:
      (reached services cfg h (before ++ c.events)).output
  | .nil, _, _, he => by simp [Content.elements] at he
  | .leaf l rest, before, hlinks, he => by
      rw [Content.events_leaf, List.append_cons]
      exact infix_reached rest hlinks he
  | .element t inner rest, before, hlinks, he => by
      obtain ⟨hinner, hrest, hmatched⟩ := linksMatched_element services cfg h hlinks
      have hafter := (framed_reached services cfg h rest _ hrest).output.isInfix
      rw [append_events_element]
      simp only [Content.elements, List.mem_cons, List.mem_append] at he
      obtain rfl | he | he := he
      · exact hafter
      · have hopened := infix_reached inner hinner he
        rw [← List.append_cons] at hopened
        refine List.IsInfix.trans ?_ hafter
        refine List.IsInfix.trans hopened ?_
        have hkept := hmatched.kept
        split at hkept
        · obtain ⟨a, b, hab⟩ := hkept
          rw [hab]
          exact List.infix_append _ _ _
        · exact hkept.2.isInfix
      · exact infix_reached rest hrest he

/-- An event that stands alone writes its texts where no image and no code block is open. -/
theorem texts_leaf {s : RenderState} (himage : s.image = none) (hcode : s.code = none) (l : Leaf) :
    ∃ m, (s.quietStep cfg l.event).output = s.output ++ m ∧ l.texts.Sublist (Markup.texts m) := by
  cases l with
  | text t =>
      refine ⟨[.text t], ?_, List.Sublist.refl _⟩
      simp [Leaf.event, quietStep, text, addToLabel, emit, himage, hcode]
  | code t =>
      refine ⟨codeSpanMarkup t, ?_, List.Sublist.refl _⟩
      simp [Leaf.event, quietStep, inlineCode, addToLabel, emit, himage]
  | _ =>
      obtain ⟨m, hm⟩ := (framed_leaf cfg s _).output
      exact ⟨m, hm.symm, List.nil_sublist _⟩

/-- What an element holds is written between what its two ends write. -/
theorem Matched.exists_around {t : Tag} {s s₂ s₃ : RenderState} (hmatched : Matched t s s₂ s₃)
    {k : Markup} (hk : s₂.output = (s.openTag t).output ++ k) :
    ∃ a b, s₃.output = s.output ++ (a ++ k ++ b) := by
  have hkept := hmatched.kept
  by_cases hcaptures : t.captures s
  · have hempty : (s.openTag t).output = [] := by
      cases t with
      | link href title => cases h : s.image <;> simp_all [openTag, beginCapture, Tag.captures]
      | _ => simp_all [openTag, beginCapture, Tag.captures]
    rw [if_pos hcaptures] at hkept
    obtain ⟨a, b, hab⟩ := hkept
    rw [hempty, List.nil_append] at hk
    exact ⟨a, b, by simp [hab, hk]⟩
  · obtain ⟨a, ha⟩ := output_openTag s t (by simpa using hcaptures)
    rw [if_neg hcaptures] at hkept
    obtain ⟨b, hb⟩ := hkept.2
    exact ⟨a, b, by rw [← hb, hk, ← ha]; simp⟩

/-- **Content outside images and code blocks writes its texts** in their order, after what was
written before. -/
theorem texts_reached : (c : Content) → {before : List Event} → c.linksMatched before →
    altOpen before = false → codeOpen before = false →
    ∃ m, (reached services cfg h (before ++ c.events)).output =
        (reached services cfg h before).output ++ m ∧ c.texts.Sublist (Markup.texts m)
  | .nil, before, _, _, _ => ⟨[], by simp, List.nil_sublist _⟩
  | .leaf l rest, before, hlinks, halt, hcode => by
      have himage : (reached services cfg h before).image = none := by
        rw [← Option.not_isSome_iff_eq_none, isSome_image_reached, halt]
        exact Bool.false_ne_true
      have hnone : (reached services cfg h before).code = none := by
        rw [← Option.not_isSome_iff_eq_none, isSome_code_reached, hcode]
        exact Bool.false_ne_true
      obtain ⟨m, hm, hleaf⟩ : ∃ m, (reached services cfg h (before ++ [l.event])).output =
          (reached services cfg h before).output ++ m ∧ l.texts.Sublist (Markup.texts m) := by
        apply reached_append services cfg (P := fun s => ∃ m, s.output =
          (reached services cfg h before).output ++ m ∧ l.texts.Sublist (Markup.texts m))
        rw [run_cons, step_leaf]
        exact Always.pure (texts_leaf cfg himage hnone l)
      obtain ⟨n, hn, hrest⟩ := texts_reached rest hlinks ((altOpen_leaf before l).trans halt)
        ((codeOpen_leaf before l).trans hcode)
      rw [← List.append_cons] at hn
      refine ⟨m ++ n, ?_, ?_⟩
      · rw [Content.events_leaf, hn, hm, List.append_assoc]
      · rw [Content.texts, Markup.texts_append]
        exact hleaf.append hrest
  | .element t inner rest, before, hlinks, halt, hcode => by
      obtain ⟨hinner, hrest, hmatched⟩ := linksMatched_element services cfg h hlinks
      obtain ⟨n, hn, hrestTexts⟩ := texts_reached rest hrest (altOpen_closed halt)
        (codeOpen_closed hcode)
      -- the texts of an image and of a code block do not count
      have helement : ∃ m, (reached services cfg h (Element.closed ⟨before, t, inner⟩)).output =
          (reached services cfg h before).output ++ m ∧
          (if t.isImage || t.isCode then [] else inner.texts).Sublist (Markup.texts m) := by
        split
        · obtain ⟨m, hm⟩ := hmatched.framed.output
          exact ⟨m, hm.symm, List.nil_sublist _⟩
        · next ht =>
            obtain ⟨htImage, htCode⟩ : t.isImage = false ∧ t.isCode = false := by simpa using ht
            have haltInner : altOpen (before ++ [.opening t]) = false := by
              rw [altOpen_opening, halt, htImage, Bool.or_false]
            have hcodeInner : codeOpen (before ++ [.opening t]) = false := by
              rw [codeOpen_opening, hcode, htCode, Bool.or_false]
            obtain ⟨k, hk, htexts⟩ := texts_reached inner hinner haltInner hcodeInner
            rw [← List.append_cons, reached_opening] at hk
            obtain ⟨a, b, hab⟩ := hmatched.exists_around hk
            refine ⟨_, hab, ?_⟩
            rw [Markup.texts_append, Markup.texts_append]
            exact (htexts.trans (List.sublist_append_right _ _)).trans
              (List.sublist_append_left _ _)
      obtain ⟨m, hm, htexts⟩ := helement
      refine ⟨m ++ n, ?_, ?_⟩
      · rw [append_events_element, hn, hm, List.append_assoc]
      · rw [Content.texts, Markup.texts_append]
        exact htexts.append hrestTexts

end RenderState

/-! ## Paragraphs -/

/-- The content of a paragraph that is not blank stands in the tags of a paragraph, or by itself:
in an item, and where it is a figure. -/
theorem paragraphMarkup_eq (cfg : RenderSettings) (enclosure : Option Enclosure) {content : Markup}
    (hblank : blankText (content.write cfg.styles) = false) :
    ∃ a b, paragraphMarkup cfg enclosure content = a ++ content ++ b ∧ (∀ p ∈ a ++ b, p.isTag) ∧
      (a = [] ↔ Enclosure.paragraphKind enclosure = none ∨ isFigure (content.write cfg.styles)) ∧
      (b = [] ↔
        Enclosure.paragraphKind enclosure = none ∨ isFigure (content.write cfg.styles)) := by
  rw [paragraphMarkup, hblank, Bool.or_false]
  by_cases hfigure : isFigure (content.write cfg.styles) = true
  · exact ⟨[], [], by simp [hfigure], by simp, by simp [hfigure], by simp [hfigure]⟩
  · cases hkind : Enclosure.paragraphKind enclosure with
    | none => exact ⟨[], [], by simp [hfigure], by simp, by simp, by simp⟩
    | some kind =>
        refine ⟨[.styled "p" kind], [.endTag "p"], by simp [hfigure], ?_, by simp [hfigure],
          by simp [hfigure]⟩
        simp [Piece.isTag, Piece.styled]

section Siblings

variable {σ : Type} (services : Services (StateM σ)) (cfg : RenderSettings) (h : σ)

open RenderState

/-- **What a paragraph writes**, in any document: its content, wrapped as its enclosure says. -/
theorem paragraph_writes {c : Content} (hlinks : c.linksMatched []) {e : Element}
    (he : e ∈ c.elements []) (hparagraph : e.tag = .paragraph) :
    e.Adds services cfg h
      (paragraphMarkup cfg ((openTags e.before).filterMap Tag.enclosure?).head?
        (e.body services cfg h)) := by
  obtain ⟨hmatched, -⟩ := (captures_matched_iff services cfg h c).mpr hlinks
  have hinside := (hmatched e he).inside
  rw [hparagraph, Tag.captures, if_pos rfl] at hinside
  have henclosures : (reached services cfg h e.opened).enclosures =
      (openTags e.before).filterMap Tag.enclosure? := by
    rw [enclosures_reached, Element.opened, List.foldl_append, enclosures_of_mem_elements he,
      List.foldl_cons, foldl_enclosuresAfter_events, hparagraph]
    rfl
  have hclosed : reached services cfg h e.closed =
      (reached services cfg h e.opened).closeTag cfg .paragraph := by
    rw [Element.closed, hparagraph]
    exact reached_append_pure services cfg rfl
  rw [Element.Adds, hclosed, Element.body, ← henclosures]
  simp [closeTag, endCapture, emit, hinside]

/-- The texts of a paragraph outside images and code blocks stand in what was written for it. -/
theorem texts_body {c : Content} (hlinks : c.linksMatched []) {e : Element}
    (he : e ∈ c.elements []) (hparagraph : e.tag = .paragraph) (halt : altOpen e.before = false)
    (hcode : codeOpen e.before = false) :
    e.content.texts.Sublist (Markup.texts (e.body services cfg h)) := by
  have hinner : e.content.linksMatched (e.before ++ [.opening e.tag]) := fun e' he' =>
    hlinks e' (mem_elements_of_mem c [] he he')
  have haltInner : altOpen (e.before ++ [.opening e.tag]) = false := by
    rw [altOpen_opening, halt, hparagraph]
    rfl
  have hcodeInner : codeOpen (e.before ++ [.opening e.tag]) = false := by
    rw [codeOpen_opening, hcode, hparagraph]
    rfl
  obtain ⟨m, hm, htexts⟩ := texts_reached services cfg h e.content hinner haltInner hcodeInner
  rw [← List.append_cons, reached_opening, hparagraph] at hm
  have hbody : e.body services cfg h = m := by
    rw [Element.body, Element.opened, hparagraph, hm]
    rfl
  rwa [hbody]

/-- **Paragraphs one after the other**: in a document in which no link that begins in the text of
an image holds an image, take two paragraphs that follow on each other, outside images and code
blocks, each with a text that is not blank.  What is written for the first one stands in the
rendered document in one piece, then a gap, then what is written for the second one; their texts
stand in these two in their order.  The gap is made of tags, and there is none exactly if the
paragraphs stand in an item, or each of them is a figure. -/
theorem siblings_parted {c : Content} (hlinks : c.linksMatched []) {e₁ e₂ : Element}
    (he₁ : e₁ ∈ c.elements []) (he₂ : e₂ ∈ c.elements []) (hp₁ : e₁.tag = .paragraph)
    (hp₂ : e₂.tag = .paragraph) (hnext : e₂.before = e₁.closed)
    (halt : altOpen e₁.before = false) (hcode : codeOpen e₁.before = false)
    (htext₁ : ∃ s ∈ e₁.content.texts, blankText s = false)
    (htext₂ : ∃ s ∈ e₂.content.texts, blankText s = false) :
    ∃ before gap after : Markup,
      ((renderEvents services cfg c.events).run h).1.html =
        Markup.write cfg.styles
          (before ++ e₁.body services cfg h ++ gap ++ e₂.body services cfg h ++ after) ∧
      e₁.content.texts.Sublist (Markup.texts (e₁.body services cfg h)) ∧
      e₂.content.texts.Sublist (Markup.texts (e₂.body services cfg h)) ∧
      (∀ p ∈ gap, p.isTag) ∧
      (gap = [] ↔ paragraphKindIn (openTags e₁.before) = none ∨
        isFigure ((e₁.body services cfg h).write cfg.styles) ∧
          isFigure ((e₂.body services cfg h).write cfg.styles)) := by
  have hsub₁ := texts_body services cfg h hlinks he₁ hp₁ halt hcode
  have hsub₂ := texts_body services cfg h hlinks he₂ hp₂ (hnext ▸ altOpen_closed halt)
    (hnext ▸ codeOpen_closed hcode)
  obtain ⟨s₁, hs₁, hs₁Blank⟩ := htext₁
  obtain ⟨s₂, hs₂, hs₂Blank⟩ := htext₂
  obtain ⟨a₁, b₁, hwritten₁, htags₁, -, hclose₁⟩ := paragraphMarkup_eq cfg
    ((openTags e₁.before).filterMap Tag.enclosure?).head?
    (blankText_write_of_mem cfg.styles (hsub₁.subset hs₁) hs₁Blank)
  obtain ⟨a₂, b₂, hwritten₂, htags₂, hopen₂, -⟩ := paragraphMarkup_eq cfg
    ((openTags e₂.before).filterMap Tag.enclosure?).head?
    (blankText_write_of_mem cfg.styles (hsub₂.subset hs₂) hs₂Blank)
  have hadds₁ := paragraph_writes services cfg h hlinks he₁ hp₁
  have hadds₂ := paragraph_writes services cfg h hlinks he₂ hp₂
  rw [Element.Adds, hwritten₁] at hadds₁
  rw [Element.Adds, hnext, hadds₁, ← hnext, hwritten₂] at hadds₂
  obtain ⟨before, after, hfinal⟩ := infix_reached services cfg h c hlinks he₂
  rw [hadds₂, List.nil_append] at hfinal
  refine ⟨before ++ (reached services cfg h e₁.before).output ++ a₁, b₁ ++ a₂, b₂ ++ after, ?_,
    hsub₁, hsub₂, ?_, ?_⟩
  · have hhtml : ((renderEvents services cfg c.events).run h).1.html =
        Markup.write cfg.styles (reached services cfg h c.events).output := rfl
    rw [hhtml, ← hfinal]
    simp only [List.append_assoc]
  · intro p hp
    obtain hp | hp := List.mem_append.mp hp
    · exact htags₁ p (List.mem_append_right _ hp)
    · exact htags₂ p (List.mem_append_left _ hp)
  · rw [hnext, openTags_closed] at hopen₂
    rw [List.append_eq_nil_iff, hclose₁, hopen₂, paragraphKindIn_eq, or_and_left]

/-- A quote with two paragraphs. -/
def quotedPair : Content :=
  .element (.quote none)
    (.element .paragraph (.leaf (.text "a") .nil)
      (.element .paragraph (.leaf (.text "b") .nil) .nil))
    .nil

/-- The first of them. -/
def quotedPair.first : Element :=
  ⟨[.opening (.quote none)], .paragraph, .leaf (.text "a") .nil⟩

/-- The second of them. -/
def quotedPair.second : Element := ⟨first.closed, .paragraph, .leaf (.text "b") .nil⟩

/-- Its paragraphs are parted. -/
theorem quotedPair_parted :
    quotedPair.linksMatched [] ∧ quotedPair.first ∈ quotedPair.elements [] ∧
      quotedPair.second ∈ quotedPair.elements [] ∧ altOpen quotedPair.first.before = false ∧
      codeOpen quotedPair.first.before = false ∧
      ∃ before gap after : Markup,
        ((renderEvents (Services.plain : Services (StateM Unit)) (.ofStyles .empty)
            quotedPair.events).run ()).1.html =
          Markup.write .empty
            (before ++ quotedPair.first.body Services.plain (.ofStyles .empty) () ++ gap ++
              quotedPair.second.body Services.plain (.ofStyles .empty) () ++ after) ∧
        gap ≠ [] := by
  have hlinks : quotedPair.linksMatched [] := by decide
  have hfirst : quotedPair.first ∈ quotedPair.elements [] := by
    simp [quotedPair, quotedPair.first, Content.elements]
  have hsecond : quotedPair.second ∈ quotedPair.elements [] := by
    simp [quotedPair, quotedPair.first, quotedPair.second, Content.elements, Element.closed,
      Element.opened]
  obtain ⟨before, gap, after, hhtml, -, -, -, hgap⟩ := siblings_parted
    (Services.plain : Services (StateM Unit)) (.ofStyles .empty) () hlinks hfirst hsecond rfl rfl
    rfl rfl rfl ⟨"a", by decide, by decide⟩ ⟨"b", by decide, by decide⟩
  refine ⟨hlinks, hfirst, hsecond, rfl, rfl, before, gap, after, hhtml, ?_⟩
  rw [ne_eq, hgap]
  decide +kernel

end Siblings

/-- The end of a link that begins in the text of an image and holds an image takes the place of the
paragraph's end, and the text of the paragraph is lost. -/
example :
    ((renderEvents (Services.plain : Services (StateM Unit)) (.ofStyles .empty)
      (Content.element .paragraph
        (.leaf (.text "a") (.element (.image "outer" "")
          (.element (.link "href" "") (.element (.image "inner" "") .nil .nil) .nil) .nil))
        (.element .paragraph (.leaf (.text "b") .nil) .nil)).events).run ()).1.html =
      "<p>b</p>" := by
  decide +kernel

/-- An item with these paragraphs. -/
def itemOf (paragraphs : Content) : Content :=
  .element (.list none) (.element .item paragraphs .nil) .nil

/-- A quote with these paragraphs in another element. -/
def quoteIn (t : Tag) (paragraphs : Content) : Content :=
  .element t (.element (.quote none) paragraphs .nil) .nil

/-- The image of a figure without a caption. -/
def bareImage (rest : Content) : Content := .element (.image "u" "") .nil rest

/-- **Paragraphs that are not parted**: two paragraphs of an item, two figures, and two paragraphs
of a quote in the text of an image or in a code block are written as the one paragraph with their
texts in a row. -/
theorem siblings_joined :
    let html (c : Content) := ((renderEvents (Services.plain : Services (StateM Unit))
      (.ofStyles .empty) c.events).run ()).1.html
    let two : Content := .element .paragraph (.leaf (.text "a") .nil)
      (.element .paragraph (.leaf (.text "b") .nil) .nil)
    let one : Content := .element .paragraph (.leaf (.text "a") (.leaf (.text "b") .nil)) .nil
    html (itemOf two) = "<ul><li>• ab</li></ul>" ∧
      html (itemOf one) = "<ul><li>• ab</li></ul>" ∧
      html (.element .paragraph (bareImage (.leaf (.text "a") .nil))
          (.element .paragraph (.leaf (.text "b") (bareImage .nil)) .nil)) =
        html (.element .paragraph
          (bareImage (.leaf (.text "a") (.leaf (.text "b") (bareImage .nil)))) .nil) ∧
      html (quoteIn (.image "u" "") two) = html (quoteIn (.image "u" "") one) ∧
      html (quoteIn .indentedCode two) = html (quoteIn .indentedCode one) := by
  decide +kernel

end Broadsheet
