import Broadsheet.Proofs.Document.Outcomes
import Broadsheet.Proofs.Document.Wrapping

/-!
# Broadsheet.Proofs.Document.Captures

The captures of a rendering.  A paragraph, a heading and a link outside images
are captured: the opening event puts the output away, and the closing event
takes back what was put away last.  Whether a link is captured is decided twice,
at its opening event and at its closing event, by whether an image is open
then, and an image that ends inside the link changes the answer.

`captures_matched_iff` says when that goes wrong.  In every well-nested stream
each element finds at its end what it left at its beginning, nothing that was
written is lost, and nothing is open at the end of the document, exactly when
no link that begins in the text of an image holds an image.
-/

namespace Broadsheet

/-! ## Open images -/

/-- Whether an image is open after an event. -/
def Event.altAfter (alt : Bool) : Event → Bool
  | .opening (.image _ _) => true
  | .closing .image => false
  | _ => alt

/-- Whether events end in the text of an image: the last event of an image is
an opening one. -/
def altOpen (es : List Event) : Bool := es.foldl Event.altAfter false

/-- After well-nested content an image is open only if one was before, and none
ended inside. -/
theorem foldl_altAfter_events : (c : Content) → (alt : Bool) →
    c.events.foldl Event.altAfter alt = (alt && !c.has Tag.isImage)
  | .nil, alt => by simp [Content.has]
  | .leaf l rest, alt => by
      have hleaf : l.event.altAfter alt = alt := by cases l <;> rfl
      rw [Content.events_leaf, List.foldl_cons, hleaf, foldl_altAfter_events rest, Content.has]
  | .element t inner rest, alt => by
      simp only [Content.events_element, List.foldl_cons, List.foldl_append,
        foldl_altAfter_events inner, foldl_altAfter_events rest, Content.has]
      cases t <;> simp [Event.altAfter, Tag.toEnd, Tag.isImage, Bool.and_assoc]

theorem altOpen_opened (e : Element) :
    altOpen e.opened = (altOpen (e.before ++ [.opening e.tag]) && !e.content.has Tag.isImage) := by
  rw [altOpen, altOpen, Element.opened, List.append_cons, List.foldl_append, foldl_altAfter_events]

namespace RenderState

variable {σ : Type} (services : Services (StateM σ)) (cfg : RenderSettings)

theorem isSome_image_quietStep (s : RenderState) (e : Event) :
    (s.quietStep cfg e).image.isSome = e.altAfter s.image.isSome := by
  rcases s with ⟨_, _, _, _, links, code, _, image, _, _, _⟩
  cases e with
  | opening t =>
      cases t with
      | link href title =>
          cases image <;> simp [quietStep, openTag, beginCapture, Event.altAfter]
      | _ => simp [quietStep, openTag, emit, beginCapture, Event.altAfter]
  | closing t =>
      cases t with
      | link =>
          cases image <;> cases links <;>
            simp [quietStep, closeTag, link, endCapture, Event.altAfter]
          split <;> simp [emit]
      | image => cases image <;> simp [quietStep, closeTag, addToLabel, emit, Event.altAfter]
      | _ => simp [quietStep, closeTag, emit, endCapture, Event.altAfter]
  | text t =>
      cases code <;> cases image <;> simp [quietStep, text, addToLabel, emit, Event.altAfter]
  | code t => cases image <;> simp [quietStep, inlineCode, addToLabel, emit, Event.altAfter]
  | softBreak | hardBreak => cases image <;> simp [quietStep, lineBreak, emit, Event.altAfter]
  | _ => simp [quietStep, emit, Event.altAfter]

/-- Whether an image is open depends on the events alone. -/
theorem always_isSome_image (s : RenderState) (es : List Event) :
    Always (fun s' => s'.image.isSome = es.foldl Event.altAfter s.image.isSome)
      (s.run services cfg es) := by
  apply always_run services cfg (I := fun fs s' =>
    fs.foldl Event.altAfter s'.image.isSome = es.foldl Event.altAfter s.image.isSome)
  · intro e fs s' _ h
    rw [isSome_image_quietStep]
    exact h
  · intro fs s' h
    exact always_closeCode services s' fun _ => h
  · rfl

theorem isSome_image_reached (h : σ) (es : List Event) :
    (reached services cfg h es).image.isSome = altOpen es :=
  always_isSome_image services cfg initial es h

end RenderState

/-! ## What captures -/

/-- Whether an opening event captures. -/
def Tag.captures (s : RenderState) : Tag → Bool
  | paragraph | heading _ => true
  | link _ _ => s.image.isNone
  | _ => false

/-- Whether a closing event ends a capture. -/
def TagEnd.captures (s : RenderState) : TagEnd → Bool
  | paragraph | heading _ => true
  | link => s.image.isNone
  | _ => false

namespace RenderState

variable {σ : Type} (services : Services (StateM σ)) (cfg : RenderSettings)

/-- An opening event puts the output away where it captures. -/
theorem saved_openTag (s : RenderState) (t : Tag) :
    (s.openTag t).saved = if t.captures s then s.output :: s.saved else s.saved := by
  cases t with
  | link href title => cases h : s.image <;> simp [openTag, beginCapture, Tag.captures, h]
  | _ => simp [openTag, emit, beginCapture, Tag.captures]

/-- Elsewhere it writes on. -/
theorem output_openTag (s : RenderState) (t : Tag) (ht : t.captures s = false) :
    s.output <+: (s.openTag t).output := by
  cases t with
  | link href title => cases h : s.image <;> simp_all [openTag, Tag.captures]
  | _ => simp_all [openTag, emit, Tag.captures]

/-- A captured link waits for its end. -/
theorem length_links_openTag (s : RenderState) (t : Tag) :
    (s.openTag t).links.length =
      s.links.length + if t.isLink && t.captures s then 1 else 0 := by
  cases t with
  | link href title =>
      cases h : s.image <;> simp [openTag, beginCapture, Tag.captures, Tag.isLink, h]
  | _ => simp [openTag, emit, beginCapture, Tag.isLink]

/-- A closing event takes back what was put away last where it ends a capture. -/
theorem saved_closeTag (s : RenderState) (t : TagEnd) :
    (s.closeTag cfg t).saved = if t.captures s then s.saved.tail else s.saved := by
  cases t with
  | link =>
      cases h : s.image <;> cases hl : s.links <;>
        simp [closeTag, link, endCapture, TagEnd.captures, h, hl]
      split <;> simp [emit]
  | image => cases h : s.image <;> simp [closeTag, addToLabel, emit, TagEnd.captures, h]
  | _ => simp [closeTag, emit, endCapture, TagEnd.captures]

/-- The innermost link ends where its capture does. -/
theorem length_links_closeTag (s : RenderState) (t : Tag) :
    (s.closeTag cfg t.toEnd).links.length =
      s.links.length - if t.isLink && t.toEnd.captures s then 1 else 0 := by
  cases t with
  | link href title =>
      cases h : s.image <;> cases hl : s.links <;>
        simp [closeTag, link, endCapture, TagEnd.captures, Tag.isLink, Tag.toEnd, h, hl]
      split <;> simp [emit]
  | image src title =>
      cases h : s.image <;> simp [closeTag, addToLabel, emit, Tag.isLink, Tag.toEnd, h]
  | _ => simp [closeTag, emit, endCapture, Tag.isLink, Tag.toEnd]

/-! ## What is written around a capture -/

/-- A link is written around its label. -/
theorem output_link (s : RenderState) (l : PendingLink) (label : Markup) :
    ∃ a b, (s.link cfg l label).output = s.output ++ a ++ label ++ b := by
  unfold link
  split
  · exact ⟨[.styled "span" .link], citationMark (s.citations.length + 1) ++ [.endTag "span"],
      by simp [emit, citedMarkup, Citations.add]⟩
  · obtain ⟨a, b, -, -, hab⟩ := wraps_link l label
    exact ⟨a, b, by simp [emit, hab]⟩

/-- What was captured stands behind what was put away, or nothing was captured
and the output goes on.  A link's label is lost if no link is open. -/
theorem output_closeTag (s : RenderState) (t : TagEnd)
    (hlinks : t = .link → t.captures s → s.links ≠ []) :
    if t.captures s then
      ∃ a b, (s.closeTag cfg t).output = s.saved.headD [] ++ a ++ s.output ++ b
    else s.output <+: (s.closeTag cfg t).output := by
  cases t with
  | paragraph =>
      obtain ⟨a, b, -, -, hab⟩ := wraps_paragraph cfg s.enclosures.head? s.output
      exact ⟨a, b, by simp [closeTag, endCapture, emit, hab]⟩
  | heading level =>
      obtain ⟨a, b, -, -, hab⟩ := wraps_heading level s.output
      exact ⟨a, b, by simp [closeTag, endCapture, emit, hab]⟩
  | link =>
      cases himage : s.image with
      | some i => simp [TagEnd.captures, closeTag, himage]
      | none =>
          cases hl : s.links with
          | nil => simp [hl, TagEnd.captures, himage] at hlinks
          | cons l ls =>
              simp only [TagEnd.captures, himage, Option.isNone_none, if_true, closeTag,
                Option.isSome_none, endCapture, hl]
              exact output_link cfg _ l s.output
  | image => cases h : s.image <;> simp [TagEnd.captures, closeTag, addToLabel, emit, h]
  | _ => simp [TagEnd.captures, closeTag, emit]

/-! ## Frames -/

/-- What well-nested content leaves as it was: the outputs put away, the number
of open links, and what was written so far. -/
structure Framed (s s' : RenderState) : Prop where
  saved : s'.saved = s.saved
  links : s'.links.length = s.links.length
  output : s.output <+: s'.output

namespace Framed

theorem refl (s : RenderState) : Framed s s := ⟨rfl, rfl, List.prefix_rfl⟩

theorem trans {a b c : RenderState} (hab : Framed a b) (hbc : Framed b c) : Framed a c :=
  ⟨hbc.saved.trans hab.saved, hbc.links.trans hab.links, hab.output.trans hbc.output⟩

end Framed

/-- What an element finds at its end: `s` is the state before it, `s₂` the one
before its closing event and `s₃` the one after. -/
structure Matched (t : Tag) (s s₂ s₃ : RenderState) : Prop where
  /-- The closing event ends a capture exactly if the opening event began one. -/
  captures : t.toEnd.captures s₂ = t.captures s
  /-- What it takes back is what the opening event put away. -/
  inside : s₂.saved = if t.captures s then s.output :: s.saved else s.saved
  /-- The depths after the element are those before it. -/
  saved : s₃.saved = s.saved
  links : s₃.links.length = s.links.length
  /-- All that was written before and inside is kept, in its place. -/
  kept : if t.captures s then ∃ a b, s₃.output = s.output ++ a ++ s₂.output ++ b
    else s.output <+: s₂.output ∧ s₂.output <+: s₃.output

theorem Matched.framed {t : Tag} {s s₂ s₃ : RenderState} (h : Matched t s s₂ s₃) : Framed s s₃ := by
  refine ⟨h.saved, h.links, ?_⟩
  have hkept := h.kept
  split at hkept
  · obtain ⟨a, b, hab⟩ := hkept
    exact ⟨a ++ s₂.output ++ b, by simp [hab]⟩
  · exact hkept.1.trans hkept.2

/-- An event that stands alone frames. -/
theorem framed_leaf (s : RenderState) (l : Leaf) : Framed s (s.quietStep cfg l.event) := by
  rcases s with ⟨_, _, _, _, links, code, _, image, _, _, _⟩
  cases l with
  | text t =>
      cases code <;> cases image <;>
        constructor <;> simp [Leaf.event, quietStep, text, addToLabel, emit]
  | code t =>
      cases image <;> constructor <;> simp [Leaf.event, quietStep, inlineCode, addToLabel, emit]
  | softBreak | hardBreak =>
      cases image <;> constructor <;> simp [Leaf.event, quietStep, lineBreak, emit]
  | _ => constructor <;> simp [Leaf.event, quietStep, emit]

/-- Where both ends of an element agree and its content frames, its end finds
what its beginning left. -/
theorem matched_closeTag {t : Tag} {s s₂ : RenderState} (hframed : Framed (s.openTag t) s₂)
    (hcaptures : t.toEnd.captures s₂ = t.captures s) :
    Matched t s s₂ (s₂.closeTag cfg t.toEnd) := by
  have hinside : s₂.saved = if t.captures s then s.output :: s.saved else s.saved := by
    rw [hframed.saved, saved_openTag]
  have hlinks : s₂.links.length = s.links.length + if t.isLink && t.captures s then 1 else 0 := by
    rw [hframed.links, length_links_openTag]
  -- a captured link is still open, so its label is not dropped
  have hopen : t.toEnd = .link → t.toEnd.captures s₂ → s₂.links ≠ [] := by
    intro hlink hcaptured hnil
    have hislink : t.isLink := by cases t <;> simp_all [Tag.toEnd, Tag.isLink]
    rw [hnil, hislink, ← hcaptures, hcaptured] at hlinks
    simp at hlinks
  have houtput := output_closeTag cfg s₂ t.toEnd hopen
  refine ⟨hcaptures, hinside, ?_, ?_, ?_⟩
  · rw [saved_closeTag, hinside, hcaptures]
    split <;> rfl
  · rw [length_links_closeTag, hlinks, hcaptures]
    omega
  · rw [hcaptures] at houtput
    by_cases hc : t.captures s
    · rw [if_pos hc] at hinside houtput ⊢
      simpa [hinside] using houtput
    · rw [if_neg hc] at houtput ⊢
      exact ⟨(output_openTag s t (by simpa using hc)).trans hframed.output, houtput⟩

/-- The end of a code block captures nothing. -/
theorem matched_endCode {t : Tag} {s s₂ : RenderState} (hframed : Framed (s.openTag t) s₂)
    (ht : t.toEnd = .code) (c : PendingCode) (a : CodeAnswer) :
    Matched t s s₂ (s₂.endCode c a) := by
  have hopen : t.captures s = false := by cases t <;> simp_all [Tag.toEnd, Tag.captures]
  have hlink : t.isLink = false := by cases t <;> simp_all [Tag.toEnd, Tag.isLink]
  have hsaved := hframed.saved
  have hlinks := hframed.links
  rw [saved_openTag, hopen] at hsaved
  rw [length_links_openTag, hlink] at hlinks
  refine ⟨by rw [ht, hopen]; rfl, by simpa [hopen] using hsaved, hsaved, hlinks, ?_⟩
  rw [hopen]
  exact ⟨(output_openTag s t hopen).trans hframed.output, List.prefix_append _ _⟩

/-- The end of an element whose content frames, where both its ends agree. -/
theorem matched_closing {t : Tag} {s s₂ : RenderState} (hframed : Framed (s.openTag t) s₂)
    (hcaptures : t.toEnd.captures s₂ = t.captures s) :
    Always (Matched t s s₂) (s₂.step services cfg (.closing t.toEnd)) := by
  apply always_step
  · exact fun _ => matched_closeTag cfg hframed hcaptures
  · intro h
    exact matched_endCode hframed (by simpa using h)

/-! ## States reached in a stream -/

variable (h : σ)

/-- The two ends of an element agree unless it is a link that begins in the
text of an image and holds an image. -/
theorem captures_reached_iff (e : Element) :
    e.tag.toEnd.captures (reached services cfg h e.opened) =
        e.tag.captures (reached services cfg h e.before) ↔
      (e.tag.isLink → altOpen e.before → e.content.has Tag.isImage = false) := by
  have hopened := isSome_image_reached services cfg h e.opened
  have hbefore := isSome_image_reached services cfg h e.before
  rw [altOpen_opened] at hopened
  -- of the tags that capture only a link asks for the image, so only it can disagree
  cases ht : e.tag with
  | link href title =>
      have hlink : altOpen (e.before ++ [.opening e.tag]) = altOpen e.before := by
        simp [altOpen, Event.altAfter, ht]
      rw [hlink] at hopened
      simp only [Tag.toEnd, TagEnd.captures, Tag.captures, ← Option.not_isSome, hopened, hbefore,
        Tag.isLink]
      cases altOpen e.before <;> simp
  | _ => simp [Tag.toEnd, TagEnd.captures, Tag.captures, Tag.isLink]

/-- An element whose content frames and whose two ends agree is matched. -/
theorem matched_reached (e : Element)
    (hframed : Framed (reached services cfg h (e.before ++ [.opening e.tag]))
      (reached services cfg h e.opened))
    (hlink : e.tag.isLink → altOpen e.before → e.content.has Tag.isImage = false) :
    Matched e.tag (reached services cfg h e.before) (reached services cfg h e.opened)
      (reached services cfg h e.closed) := by
  rw [reached_opening services cfg] at hframed
  apply reached_append services cfg
  rw [run_cons]
  have hcaptures := (captures_reached_iff services cfg h e).mpr hlink
  exact Always.bind (matched_closing services cfg hframed hcaptures) fun _ hmatched =>
    Always.pure hmatched

/-- Content frames where no link that begins in the text of an image holds an
image. -/
theorem framed_reached : (c : Content) → (before : List Event) →
    (∀ e ∈ c.elements before, e.tag.isLink → altOpen e.before → e.content.has Tag.isImage = false) →
    Framed (reached services cfg h before) (reached services cfg h (before ++ c.events))
  | .nil, before, _ => by
      rw [Content.events_nil, List.append_nil]
      exact Framed.refl _
  | .leaf l rest, before, hlinks => by
      have hleaf : Framed (reached services cfg h before)
          (reached services cfg h (before ++ [l.event])) := by
        apply reached_append services cfg
        rw [run_cons, step_leaf]
        exact Always.pure (framed_leaf cfg _ l)
      rw [Content.events_leaf, List.append_cons]
      exact hleaf.trans (framed_reached rest _ hlinks)
  | .element t inner rest, before, hlinks => by
      have hinner := framed_reached inner (before ++ [.opening t])
        fun e he => hlinks e (by simp [Content.elements, he])
      have hrest := framed_reached rest (Element.closed ⟨before, t, inner⟩)
        fun e he => hlinks e (by simp [Content.elements, he])
      rw [← List.append_cons] at hinner
      have hmatched := matched_reached services cfg h ⟨before, t, inner⟩ hinner
        (hlinks _ (by simp [Content.elements]))
      rw [show before ++ (Content.element t inner rest).events =
        Element.closed ⟨before, t, inner⟩ ++ rest.events by simp [Element.closed, Element.opened]]
      exact hmatched.framed.trans hrest

end RenderState

/-- What stands in an element of a document is in the document. -/
theorem mem_elements_of_mem {e e' : Element} : (c : Content) → (before : List Event) →
    e ∈ c.elements before → e' ∈ e.content.elements (e.before ++ [.opening e.tag]) →
    e' ∈ c.elements before
  | .nil, _, he, _ => by simp [Content.elements] at he
  | .leaf _ rest, _, he, he' => mem_elements_of_mem rest _ he he'
  | .element t inner rest, before, he, he' => by
      simp only [Content.elements, List.mem_cons, List.mem_append] at he ⊢
      obtain rfl | he | he := he
      · exact .inr (.inl he')
      · exact .inr (.inl (mem_elements_of_mem inner _ he he'))
      · exact .inr (.inr (mem_elements_of_mem rest _ he he'))

open RenderState in
/-- **Captures are matched**: in the stream of a document every element takes
back at its end what it put away at its beginning, keeps all that was written
before and inside it, and leaves the depths as they were, and after the last
event no output is put away and no link is open, exactly when no link that
begins in the text of an image holds an image. -/
theorem captures_matched_iff {σ : Type} (services : Services (StateM σ)) (cfg : RenderSettings)
    (h : σ) (c : Content) :
    ((∀ e ∈ c.elements [],
          Matched e.tag (reached services cfg h e.before) (reached services cfg h e.opened)
            (reached services cfg h e.closed)) ∧
        (reached services cfg h c.events).saved = [] ∧
        (reached services cfg h c.events).links = []) ↔
      ∀ e ∈ c.elements [],
        e.tag.isLink → altOpen e.before → e.content.has Tag.isImage = false := by
  constructor
  · intro hmatched e he
    exact (captures_reached_iff services cfg h e).mp (hmatched.1 e he).captures
  · intro hlinks
    have hframed := framed_reached services cfg h c [] hlinks
    refine ⟨fun e he => ?_, hframed.saved, List.length_eq_zero_iff.mp hframed.links⟩
    apply matched_reached services cfg h e _ (hlinks e he)
    have hinner := framed_reached services cfg h e.content (e.before ++ [.opening e.tag])
      fun e' he' => hlinks e' (mem_elements_of_mem c [] he he')
    rwa [← List.append_cons] at hinner

/-- In an image inside a link inside an image, the end of the link takes back
what it never put away. -/
example :
    let c := Content.element (.image "outer" "")
      (.element (.link "href" "") (.element (.image "inner" "") .nil .nil) .nil) .nil
    ∃ e ∈ c.elements [], e.tag.isLink ∧ altOpen e.before ∧ e.content.has Tag.isImage := by
  decide

end Broadsheet
