import Broadsheet.Proofs.Document.Citing

/-!
# Broadsheet.Proofs.Document.Standing

Where content stands in a document.  The renderer keeps a stack of the blocks
that change how paragraphs are rendered; what it should hold is told by the
events before, as the tags that they leave open.  `Stands` says that the two
agree before some content, and that the content may be drawn there.  It passes
from a document to each element in it (`Stands.of_mem_elements`), which is the
one induction over documents that statements about elements need.
-/

namespace Broadsheet

/-! ## Open tags -/

/-- The tags that are open after an event, the innermost first. -/
def Event.openAfter (tags : List Tag) : Event → List Tag
  | .opening t => t :: tags
  | .closing _ => tags.tail
  | _ => tags

/-- The tags that events leave open. -/
def openTags (es : List Event) : List Tag := es.foldl Event.openAfter []

theorem openAfter_leaf (tags : List Tag) (l : Leaf) : l.event.openAfter tags = tags := by
  cases l <;> rfl

/-- Well-nested content leaves nothing open. -/
theorem foldl_openAfter_events : (c : Content) → (tags : List Tag) →
    c.events.foldl Event.openAfter tags = tags
  | .nil, _ => rfl
  | .leaf l rest, tags => by
      rw [Content.events_leaf, List.foldl_cons, openAfter_leaf, foldl_openAfter_events rest]
  | .element t inner rest, tags => by
      simp only [Content.events_element, List.foldl_cons, List.foldl_append,
        foldl_openAfter_events inner, foldl_openAfter_events rest, Event.openAfter, List.tail_cons]

theorem openTags_leaf (before : List Event) (l : Leaf) :
    openTags (before ++ [l.event]) = openTags before := by
  rw [openTags, List.foldl_append]
  exact openAfter_leaf _ l

theorem openTags_opening (before : List Event) (t : Tag) :
    openTags (before ++ [.opening t]) = t :: openTags before := by
  simp [openTags, Event.openAfter]

theorem openTags_closed (e : Element) : openTags e.closed = openTags e.before := by
  simp [openTags, Element.closed, Element.opened, Event.openAfter, foldl_openAfter_events]

/-- The enclosure that a tag opens. -/
def Tag.enclosure? : Tag → Option Enclosure
  | quote alert => some (.quote alert)
  | item => some .item
  | _ => none

/-! ## Standing -/

section Stands

variable {σ : Type} (services : Services (StateM σ)) (cfg : RenderSettings) (h : σ)

open RenderState

/-- Before some content the enclosures are those of the open tags, and the
content can be drawn there. -/
structure Stands (before : List Event) (c : Content) : Prop where
  code : (reached services cfg h before).code = none
  enclosures : (reached services cfg h before).enclosures =
    (openTags before).filterMap Tag.enclosure?
  text : c.codeIsText
  images : c.imagesApart
  alt : (reached services cfg h before).image.isSome → c.has Tag.isImage = false

theorem enclosures_openTag (s : RenderState) (t : Tag) :
    (s.openTag t).enclosures = t.enclosure?.toList ++ s.enclosures := by
  cases t with
  | link href title =>
      cases himage : s.image <;> simp [openTag, himage, beginCapture, Tag.enclosure?]
  | _ => simp [openTag, emit, beginCapture, Tag.enclosure?]

namespace Stands

variable {services cfg h} {before : List Event} {c inner rest : Content} {t : Tag} {l : Leaf}

/-- A whole document stands at the beginning. -/
theorem document (htext : c.codeIsText) (himages : c.imagesApart) :
    Stands services cfg h [] c where
  code := rfl
  enclosures := rfl
  text := htext
  images := himages
  alt himage := by
    rw [show reached services cfg h [] = .initial from rfl] at himage
    simp [initial] at himage

/-- What is drawn of content is what its events add. -/
theorem draws (hs : Stands services cfg h before c) {P : Stroke → Prop}
    (hP : Always P (c.draw services cfg (reached services cfg h before).place
      (reached services cfg h before).pen)) :
    ∃ k, P k ∧ reached services cfg h (before ++ c.events) =
      (reached services cfg h before).add k := by
  apply reached_append services cfg
    (P := fun s => ∃ k, P k ∧ s = (reached services cfg h before).add k)
  rw [run_events services cfg c _ hs.code hs.text hs.images hs.alt]
  exact Always.map hP fun k hk => ⟨k, hk, rfl⟩

theorem leaf (hs : Stands services cfg h before (.leaf l rest)) :
    Stands services cfg h (before ++ [l.event]) rest := by
  have hleaf := reached_leaf services cfg h before l hs.code
  refine ⟨?_, ?_, hs.text, hs.images, ?_⟩
  · rw [hleaf, code_add, hs.code]
  · rw [hleaf, openTags_leaf]
    exact hs.enclosures
  · rw [hleaf, isSome_image_add]
    exact hs.alt

/-- The conditions on an element, part by part. -/
theorem parts (hs : Stands services cfg h before (.element t inner rest)) :
    ((t.isCode → inner.isText) ∧ inner.codeIsText ∧ rest.codeIsText) ∧
      ((t.isImage → inner.has Tag.isImage = false) ∧ inner.imagesApart ∧ rest.imagesApart) ∧
      ((reached services cfg h before).image.isSome →
        t.isImage = false ∧ inner.has Tag.isImage = false ∧ rest.has Tag.isImage = false) := by
  have htext := hs.text
  have himages := hs.images
  simp only [Content.codeIsText, Content.imagesApart, Content.every, Bool.and_eq_true,
    Bool.or_eq_true, Bool.not_eq_true'] at htext himages
  obtain ⟨⟨hinnerText, htextInner⟩, htextRest⟩ := htext
  obtain ⟨⟨hinnerImages, himagesInner⟩, himagesRest⟩ := himages
  refine ⟨⟨fun ht => ?_, htextInner, htextRest⟩, ⟨fun ht => ?_, himagesInner, himagesRest⟩,
    fun himage => ?_⟩
  · simpa [ht] using hinnerText
  · simpa [ht] using hinnerImages
  · simpa [Content.has, and_assoc] using hs.alt himage

/-- What an element holds stands in it. -/
theorem inside (hs : Stands services cfg h before (.element t inner rest))
    (ht : t.codeInfo? = none) : Stands services cfg h (before ++ [.opening t]) inner := by
  obtain ⟨⟨-, htext, -⟩, ⟨hinner, himages, -⟩, halt⟩ := hs.parts
  have hopening := reached_opening services cfg h before t
  refine ⟨?_, ?_, htext, himages, fun himage => ?_⟩
  · rw [hopening, code_openTag _ t ht, hs.code]
  · rw [hopening, enclosures_openTag, hs.enclosures, openTags_opening]
    cases henclosure : t.enclosure? <;> simp [henclosure]
  · have hplace := congrArg Place.alt (place_openTag (reached services cfg h before) t)
    rw [Place.alt_inside, ← hopening] at hplace
    rw [show (reached services cfg h (before ++ [.opening t])).image.isSome = _ from hplace,
      Bool.or_eq_true] at himage
    exact himage.elim (fun himage => (halt himage).2.1) hinner

/-- The end of an element that is no code block closes what was drawn of its
content. -/
theorem closes (hs : Stands services cfg h before (.element t inner rest))
    (ht : t.codeInfo? = none) {P : Stroke → Prop}
    (hP : Always P (inner.draw services cfg ((reached services cfg h before).place.inside t)
      ((reached services cfg h before).pen.inside t))) :
    ∃ k, P k ∧
      reached services cfg h (Element.opened ⟨before, t, inner⟩) =
        (reached services cfg h (before ++ [.opening t])).add k ∧
      reached services cfg h (Element.closed ⟨before, t, inner⟩) =
        (reached services cfg h before).add
          (k.close cfg (reached services cfg h before).place t
            (reached services cfg h before).pen) := by
  rw [← place_openTag, ← pen_openTag, ← reached_opening services] at hP
  obtain ⟨k, hk, hadded⟩ := (hs.inside ht).draws hP
  rw [← List.append_cons] at hadded
  refine ⟨k, hk, hadded, reached_closing services cfg h before ht (fun himage => ?_) hadded⟩
  rw [← Option.not_isSome_iff_eq_none]
  intro hopen
  rw [(hs.parts.2.2 hopen).1] at himage
  simp at himage

/-- An element by itself stands where it stands with the rest. -/
theorem alone (hs : Stands services cfg h before (.element t inner rest)) :
    Stands services cfg h before (.element t inner .nil) := by
  have htext := hs.text
  have himages := hs.images
  simp only [Content.codeIsText, Content.imagesApart, Content.every, Bool.and_eq_true]
    at htext himages
  refine ⟨hs.code, hs.enclosures, ?_, ?_, fun himage => ?_⟩
  · simpa [Content.codeIsText, Content.every] using htext.1
  · simpa [Content.imagesApart, Content.every] using himages.1
  · obtain ⟨ht, hinner, -⟩ := hs.parts.2.2 himage
    simp [Content.has, ht, hinner]

/-- What is drawn of an element is what it adds. -/
theorem draws_element (hs : Stands services cfg h before (.element t inner rest))
    {P : Stroke → Prop}
    (hP : Always P ((Content.element t inner .nil).draw services cfg
      (reached services cfg h before).place (reached services cfg h before).pen)) :
    ∃ k, P k ∧ reached services cfg h (Element.closed ⟨before, t, inner⟩) =
      (reached services cfg h before).add k := by
  obtain ⟨k, hk, hadded⟩ := hs.alone.draws hP
  refine ⟨k, hk, ?_⟩
  rw [← hadded]
  simp [Element.closed, Element.opened]

/-- What follows an element stands after it. -/
theorem after (hs : Stands services cfg h before (.element t inner rest)) :
    Stands services cfg h (Element.closed ⟨before, t, inner⟩) rest := by
  obtain ⟨⟨-, -, htext⟩, ⟨-, -, himages⟩, halt⟩ := hs.parts
  obtain ⟨k, -, hk⟩ := hs.draws_element (Always.trivial _)
  refine ⟨?_, ?_, htext, himages, fun himage => ?_⟩
  · rw [hk, code_add, hs.code]
  · rw [hk, openTags_closed]
    exact hs.enclosures
  · rw [hk, isSome_image_add] at himage
    exact (halt himage).2.2

/-- **Every element of content stands where it is.** -/
theorem of_mem_elements {e : Element} : {c : Content} → {before : List Event} →
    Stands services cfg h before c → e ∈ c.elements before →
    Stands services cfg h e.before (.element e.tag e.content .nil)
  | .nil, _, _, he => by simp [Content.elements] at he
  | .leaf _ _, _, hs, he => of_mem_elements hs.leaf he
  | .element t inner rest, before, hs, he => by
      simp only [Content.elements, List.mem_cons, List.mem_append] at he
      obtain rfl | he | he := he
      · exact hs.alone
      · cases ht : t.codeInfo? with
        | some info =>
            have htext := hs.parts.1.1 (by simp [Tag.isCode, ht])
            simp [(links_of_isText inner (before ++ [.opening t]) false htext).2] at he
        | none => exact of_mem_elements (hs.inside ht) he
      · exact of_mem_elements hs.after he

end Stands

end Stands

end Broadsheet
