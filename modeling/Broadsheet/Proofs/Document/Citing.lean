import Broadsheet.Proofs.Document.Outcomes
import Broadsheet.Proofs.Document.Wrapping

/-!
# Broadsheet.Proofs.Document.Citing

Citations in the body and in the section after it.  `Content.links` lists the
links of a document outside its images, in the order in which they end, and
`Element.citation?` says which of them are cited and as what, from the link and
its plain text alone.  The renderer finds the same numbers with a counter, while
the links are still being written, and the section from the list that it keeps.

* `CitedInOrder` — markup with marks: unmarked markup, then a cited link with
  the next number, and so on;
* `MarkedInOrder` — the same of a text, with the marks as they are written;
* `CitesIn` — what content adds to a rendering, as the links in it say;
* `citations_agree` — the marks of a whole document and its section.

Links stand in no links and images in no images, and code blocks hold texts
only; the text of a code block counts for no link.
-/

namespace Broadsheet

/-! ## The links of a document -/

/-- The plain text of content.  In the text of an image a line break is a blank. -/
def Content.plainText (alt : Bool) : Content → String
  | nil => ""
  | leaf l rest => l.plainText alt ++ rest.plainText alt
  | element t inner rest =>
      (if t.isCode then "" else inner.plainText (alt || t.isImage)) ++ rest.plainText alt

/-- The first text that is not empty. -/
def firstNonEmpty (texts : List String) : String := (texts.find? (· != "")).getD ""

/-- What a link outside images is cited as, if it is cited: it cannot be followed
in the article, and does not show its address. -/
def Element.citation? (e : Element) : Option Citation :=
  match e.tag with
  | .link href title =>
      let label := e.content.plainText false
      if startsWithText "https://mp.weixin.qq.com" href || href == label then none
      else some ⟨firstNonEmpty [title, label, href], href⟩
  | _ => none

/-- The links outside images, in the order of their closing events. -/
def Content.links (before : List Event) (alt : Bool) : Content → List Element
  | nil => []
  | leaf l rest => rest.links (before ++ [l.event]) alt
  | element t inner rest =>
      inner.links (before ++ [.opening t]) (alt || t.isImage) ++
        (if t.isLink && !alt then [⟨before, t, inner⟩] else []) ++
        rest.links (Element.closed ⟨before, t, inner⟩) alt

/-- The cited ones among links. -/
def citedAmong (links : List Element) : List Element := links.filter (·.citation?.isSome)

theorem length_citedAmong (links : List Element) :
    (citedAmong links).length = (links.filterMap Element.citation?).length := by
  induction links with
  | nil => rfl
  | cons e links ih => cases h : e.citation? <;> simp_all [citedAmong]

/-! ## Marks in order -/

/-- Markup that is unmarked but for cited links around the given bodies, whose
marks count up from the number after `n`. -/
inductive CitedInOrder : (n : Nat) → (bodies : List Markup) → Markup → Prop
  | unmarked {n : Nat} {m : Markup} (hm : m.unmarked) : CitedInOrder n [] m
  | cited {n : Nat} {m body rest : Markup} {bodies : List Markup} (hm : m.unmarked)
      (hbody : body.unmarked) (hrest : CitedInOrder (n + 1) bodies rest) :
      CitedInOrder n (body :: bodies) (m ++ citedMarkup (n + 1) body ++ rest)

namespace CitedInOrder

variable {n : Nat} {bodies : List Markup} {m : Markup}

theorem unmarked_of_nil (h : CitedInOrder n [] m) : m.unmarked := by
  cases h with
  | unmarked hm => exact hm

theorem prepend {a : Markup} (ha : a.unmarked) (h : CitedInOrder n bodies m) :
    CitedInOrder n bodies (a ++ m) := by
  cases h with
  | unmarked hm => exact .unmarked (by simp [ha, hm])
  | @cited _ m₀ body rest bodies hm hbody hrest =>
      rw [← List.append_assoc, ← List.append_assoc]
      exact .cited (by simp [ha, hm]) hbody hrest

/-- The numbers go on from part to part. -/
theorem append {bodies' : List Markup} {m' : Markup} (h : CitedInOrder n bodies m)
    (h' : CitedInOrder (n + bodies.length) bodies' m') :
    CitedInOrder n (bodies ++ bodies') (m ++ m') := by
  induction h with
  | unmarked hm => exact h'.prepend hm
  | @cited n m₀ body rest bodies hm hbody hrest ih =>
      rw [List.append_assoc]
      refine .cited hm hbody (ih ?_)
      rwa [List.length_cons, Nat.add_comm bodies.length, ← Nat.add_assoc] at h'

theorem wraps {whole : Markup} (h : CitedInOrder n bodies m) (hwraps : m.Wraps whole) :
    CitedInOrder n bodies whole := by
  obtain ⟨a, b, ha, hb, rfl⟩ := hwraps
  have hend : CitedInOrder (n + bodies.length) [] b := .unmarked hb
  have hwhole := (h.prepend ha).append hend
  rwa [List.append_nil] at hwhole

/-- One cited link. -/
theorem single (hm : m.unmarked) : CitedInOrder n [m] (citedMarkup (n + 1) m) := by
  have h := CitedInOrder.cited (n := n) (m := []) rfl hm (.unmarked (m := []) rfl)
  rwa [List.nil_append, List.append_nil] at h

end CitedInOrder

/-- A text that is that of unmarked markup but for cited links around the given labels, whose marks
count up from the number after `n`. -/
inductive MarkedInOrder (styles : Styles) : (n : Nat) → (labels : List Markup) → String → Prop
  | unmarked {n : Nat} {m : Markup} (hm : m.unmarked) : MarkedInOrder styles n [] (m.write styles)
  | cited {n : Nat} {m label : Markup} {rest : String} {labels : List Markup} (hm : m.unmarked)
      (hlabel : label.unmarked) (hrest : MarkedInOrder styles (n + 1) labels rest) :
      MarkedInOrder styles n (label :: labels)
        (m.write styles ++ citedText styles (n + 1) label ++ rest)

/-- Markup with marks in order is written as a text with marks in order. -/
theorem CitedInOrder.write (styles : Styles) {n : Nat} {labels : List Markup} {m : Markup}
    (h : CitedInOrder n labels m) : MarkedInOrder styles n labels (m.write styles) := by
  induction h with
  | unmarked hm => exact .unmarked hm
  | cited hm hlabel _ ih =>
      rw [Markup.write_append, Markup.write_append, write_cited]
      exact .cited hm hlabel ih

/-! ## What content adds -/

section CitesIn

variable {σ : Type} (services : Services (StateM σ)) (cfg : RenderSettings) (h : σ)

open RenderState

/-- What was written for the label of a link, when its closing event comes. -/
def Element.body (e : Element) : Markup := (reached services cfg h e.opened).output

/-- What an element adds to the output that it found. -/
def Element.Adds (e : Element) (m : Markup) : Prop :=
  (reached services cfg h e.closed).output = (reached services cfg h e.before).output ++ m

/-- A stroke adds the citations of the given links and marks them, from the
number after `n`; of the elements no other link is marked. -/
structure CitesIn (n : Nat) (links elements : List Element) (k : Stroke) : Prop where
  citations : k.citations = links.filterMap Element.citation?
  markup : CitedInOrder n ((citedAmong links).map (·.body services cfg h)) k.markup
  cited : ∀ e i, (e, i) ∈ (citedAmong links).zipIdx (n + 1) →
    e.Adds services cfg h (citedMarkup i (e.body services cfg h))
  others : ∀ e ∈ elements, e.tag.isLink → e ∉ citedAmong links →
    ∃ m : Markup, m.unmarked ∧ e.Adds services cfg h m

namespace CitesIn

variable {services cfg h} {n : Nat} {links elements : List Element} {k : Stroke}

/-- A stroke without links. -/
theorem of_unmarked (hm : k.markup.unmarked) (hcitations : k.citations = []) :
    CitesIn services cfg h n [] [] k where
  citations := hcitations
  markup := .unmarked hm
  cited _ _ hmem := by simp [citedAmong] at hmem
  others _ hmem := by simp at hmem

theorem append {links' elements' : List Element} {k' : Stroke}
    (hk : CitesIn services cfg h n links elements k)
    (hk' : CitesIn services cfg h (n + k.citations.length) links' elements' k') :
    CitesIn services cfg h n (links ++ links') (elements ++ elements') (k ++ k') := by
  have happend : citedAmong (links ++ links') = citedAmong links ++ citedAmong links' :=
    List.filter_append ..
  have hlength : k.citations.length = (citedAmong links).length := by
    rw [hk.citations, length_citedAmong]
  refine ⟨?_, ?_, ?_, ?_⟩
  · rw [List.filterMap_append, ← hk.citations, ← hk'.citations]
    rfl
  · rw [happend, List.map_append]
    refine hk.markup.append ?_
    rw [List.length_map, ← hlength]
    exact hk'.markup
  · intro e i hmem
    rw [happend, List.zipIdx_append, List.mem_append] at hmem
    cases hmem with
    | inl hmem => exact hk.cited e i hmem
    | inr hmem =>
        apply hk'.cited e i
        rwa [hlength, Nat.add_right_comm]
  · intro e hmem hlink hcited
    rw [happend, List.mem_append, not_or] at hcited
    cases List.mem_append.mp hmem with
    | inl hmem => exact hk.others e hmem hlink hcited.1
    | inr hmem => exact hk'.others e hmem hlink hcited.2

/-- An element around what it holds, where it is no link. -/
theorem wraps {k' : Stroke} {e : Element} (hk : CitesIn services cfg h n links elements k)
    (hwraps : k.markup.Wraps k'.markup) (hcitations : k'.citations = k.citations)
    (he : e.tag.isLink = false) : CitesIn services cfg h n links (e :: elements) k' where
  citations := hcitations.trans hk.citations
  markup := hk.markup.wraps hwraps
  cited := hk.cited
  others e' hmem hlink hcited := by
    cases List.mem_cons.mp hmem with
    | inl heq => simp [heq, he] at hlink
    | inr hmem => exact hk.others e' hmem hlink hcited

end CitesIn

/-- The citation of a link by its pending form is that of the element. -/
theorem citation?_eq (hcfg : cfg.citations = true) (before : List Event) (href title : String)
    (inner : Content) :
    PendingLink.citation? cfg ⟨href, title, inner.plainText false⟩ =
      Element.citation? ⟨before, .link href title, inner⟩ := by
  have htitle (label : String) :
      Legend.orElse (Legend.orElse title label) href = firstNonEmpty [title, label, href] := by
    by_cases ht : title = "" <;> by_cases hl : label = "" <;> by_cases hh : href = "" <;>
      simp [Legend.orElse, firstNonEmpty, ht, hl, hh]
  simp [PendingLink.citation?, PendingLink.onPlatform, PendingLink.citationTitle, platformPrefix,
    Element.citation?, hcfg, htitle]

/-- The links of an element: those inside, and then itself. -/
def Element.links (e : Element) (alt : Bool) : List Element :=
  e.content.links (e.before ++ [.opening e.tag]) (alt || e.tag.isImage) ++
    if e.tag.isLink && !alt then [e] else []

/-- What the stroke of an element is, where `alt` says whether it stands in the
text of an image. -/
structure Element.Cites (e : Element) (alt : Bool) (k : Stroke) : Prop where
  added : reached services cfg h e.closed = (reached services cfg h e.before).add k
  text : (alt ∨ e.tag.isLink = false ∧ e.content.has Tag.isLink = false) →
    k.text = if e.tag.isCode then "" else e.content.plainText (alt || e.tag.isImage)
  cites : CitesIn services cfg h (reached services cfg h e.before).citations.length
    (e.links alt) (e :: e.content.elements (e.before ++ [.opening e.tag])) k

variable {services cfg h}

theorem links_of_isText : (c : Content) → (before : List Event) → (alt : Bool) → c.isText →
    c.links before alt = [] ∧ c.elements before = []
  | .nil, _, _, _ => ⟨rfl, rfl⟩
  | .leaf l rest, before, alt, htext => by
      cases l with
      | text s => exact links_of_isText rest _ alt htext
      | _ => simp [Content.isText] at htext
  | .element _ _ _, _, _, htext => by simp [Content.isText] at htext

/-- No link in the text of an image is outside images. -/
theorem links_true : (c : Content) → (before : List Event) → c.links before true = []
  | .nil, _ => rfl
  | .leaf _ rest, _ => links_true rest _
  | .element _ inner rest, _ => by
      simp [Content.links, links_true inner, links_true rest]

theorem links_of_not_has : (c : Content) → (before : List Event) → (alt : Bool) →
    c.has Tag.isLink = false → c.links before alt = []
  | .nil, _, _, _ => rfl
  | .leaf _ rest, _, alt, hhas => links_of_not_has rest _ alt hhas
  | .element t inner rest, _, alt, hhas => by
      obtain ⟨⟨ht, hinner⟩, hrest⟩ :
          (t.isLink = false ∧ inner.has Tag.isLink = false) ∧ rest.has Tag.isLink = false := by
        simpa [Content.has] using hhas
      simp [Content.links, ht, links_of_not_has inner _ _ hinner, links_of_not_has rest _ _ hrest]

/-- A code block has no links and counts as no text. -/
theorem cites_code {before : List Event} {t : Tag} {inner : Content} {info : String} (alt : Bool)
    (ht : t.codeInfo? = some info) (htext : inner.isText)
    (hcode : (reached services cfg h before).code = none) :
    ∃ k, Element.Cites services cfg h ⟨before, t, inner⟩ alt k := by
  obtain ⟨a, hadded⟩ := reached_code services cfg h before ht htext hcode
  have hiscode : t.isCode := by simp [Tag.isCode, ht]
  have hlink : t.isLink = false := by cases t <;> simp_all [Tag.codeInfo?, Tag.isLink]
  obtain ⟨hlinks, helements⟩ :=
    links_of_isText inner (before ++ [.opening t]) (alt || t.isImage) htext
  refine ⟨_, hadded, ?_, ?_⟩
  · simp [hiscode, Stroke.ofCode, Stroke.empty]
  · rw [Element.links, hlinks, helements, hlink]
    exact (CitesIn.of_unmarked (k := .empty ⟨[], 0⟩) rfl rfl).wraps
      (.of_unmarked (unmarked_code _ a)) rfl hlink

/-- Every element but a link outside images passes text and citations on. -/
theorem label_close_eq (place : Place) (t : Tag) (p : Pen) (k : Stroke)
    (hlink : t.isLink → place.alt) :
    (k.close cfg place t p).text = k.text ∧ (k.close cfg place t p).citations = k.citations := by
  cases t with
  | link href title =>
      have halt : place.alt := hlink rfl
      simp [Stroke.close, halt]
  | _ => exact ⟨rfl, rfl⟩

/-- What the content of an element added before the closing event. -/
structure Element.Inside (services : Services (StateM σ)) (cfg : RenderSettings) (h : σ)
    (e : Element) (alt : Bool) (k : Stroke) : Prop where
  added : reached services cfg h e.opened =
    (reached services cfg h (e.before ++ [.opening e.tag])).add k
  text : (alt || e.tag.isImage) ∨ e.content.has Tag.isLink = false →
    k.text = e.content.plainText (alt || e.tag.isImage)
  cites : CitesIn services cfg h (reached services cfg h e.before).citations.length
    (e.content.links (e.before ++ [.opening e.tag]) (alt || e.tag.isImage))
    (e.content.elements (e.before ++ [.opening e.tag])) k

/-- An element that adds a stroke adds its markup. -/
theorem Element.adds_of_eq {e : Element} {k : Stroke}
    (hadded : reached services cfg h e.closed = (reached services cfg h e.before).add k) :
    e.Adds services cfg h k.markup := by
  rw [Element.Adds, hadded]
  rfl

/-- An element that is no link and no code block. -/
theorem cites_close {e : Element} {alt : Bool} {k : Stroke}
    (hinside : e.Inside services cfg h alt k) (hlink : e.tag.isLink = false)
    (hcode : e.tag.codeInfo? = none) {place : Place} {p : Pen}
    (hadded : reached services cfg h e.closed =
      (reached services cfg h e.before).add (k.close cfg place e.tag p)) :
    e.Cites services cfg h alt (k.close cfg place e.tag p) := by
  have hpasses : e.tag.isLink → place.alt := by simp [hlink]
  obtain ⟨htext, hcitations⟩ : (k.close cfg place e.tag p).text = k.text ∧
      (k.close cfg place e.tag p).citations = k.citations := label_close_eq place e.tag p k hpasses
  refine ⟨hadded, fun hplain => ?_, ?_⟩
  · rw [htext, hinside.text, Tag.isCode, hcode]
    · rfl
    · cases hplain with
      | inl halt => simp [halt]
      | inr hnone => exact .inr hnone.2
  · have hlinks : e.links alt =
        e.content.links (e.before ++ [.opening e.tag]) (alt || e.tag.isImage) := by
      simp [Element.links, hlink]
    rw [hlinks]
    exact hinside.cites.wraps (wraps_close cfg place e.tag p k hpasses) hcitations hlink

/-- A link in the text of an image only contributes its label. -/
theorem cites_link_alt {before : List Event} {href title : String} {inner : Content} {k : Stroke}
    (hinside : Element.Inside services cfg h ⟨before, .link href title, inner⟩ true k)
    (hadded : reached services cfg h (Element.closed ⟨before, .link href title, inner⟩) =
      (reached services cfg h before).add k) :
    Element.Cites services cfg h ⟨before, .link href title, inner⟩ true k := by
  have hcites := hinside.cites
  simp only [Bool.true_or, links_true] at hcites
  refine ⟨hadded, fun _ => hinside.text (.inl rfl), ?_⟩
  have hlinks : Element.links ⟨before, .link href title, inner⟩ true = [] := by
    simp [Element.links, links_true]
  rw [hlinks]
  refine ⟨hcites.citations, hcites.markup, hcites.cited, ?_⟩
  intro e hmem hlink hcited
  cases List.mem_cons.mp hmem with
  | inl heq =>
      subst heq
      exact ⟨k.markup, hcites.markup.unmarked_of_nil, Element.adds_of_eq hadded⟩
  | inr hmem => exact hcites.others e hmem hlink hcited

/-- A link outside images, around a label without links: it is cited with the
next number, or not at all. -/
theorem cites_link (hcfg : cfg.citations = true) {before : List Event} {href title : String}
    {inner : Content} {k : Stroke} (himage : (reached services cfg h before).image = none)
    (hinside : Element.Inside services cfg h ⟨before, .link href title, inner⟩ false k)
    (hnone : inner.has Tag.isLink = false)
    (hadded : reached services cfg h (Element.closed ⟨before, .link href title, inner⟩) =
      (reached services cfg h before).add (k.link cfg ⟨href, title, k.text⟩
        ((reached services cfg h before).citations.length + k.citations.length))) :
    Element.Cites services cfg h ⟨before, .link href title, inner⟩ false
      (k.link cfg ⟨href, title, k.text⟩
        ((reached services cfg h before).citations.length + k.citations.length)) := by
  have hcites := hinside.cites
  rw [links_of_not_has inner _ _ hnone] at hcites
  have hunmarked : k.markup.unmarked := hcites.markup.unmarked_of_nil
  have hcitations : k.citations = [] := hcites.citations
  have hbody : Element.body services cfg h ⟨before, .link href title, inner⟩ = k.markup := by
    rw [Element.body, hinside.added, reached_opening]
    simp [openTag, himage, beginCapture, add]
  have htext : k.text = inner.plainText false := hinside.text (.inr hnone)
  have hlinks : Element.links ⟨before, .link href title, inner⟩ false =
      [⟨before, .link href title, inner⟩] := by
    simp [Element.links, links_of_not_has inner _ _ hnone, Tag.isLink]
  have hadds := Element.adds_of_eq (e := ⟨before, .link href title, inner⟩) hadded
  have hcitation := citation?_eq cfg hcfg before href title inner
  refine ⟨hadded, by simp [Tag.isLink], ?_⟩
  rw [hlinks]
  rw [htext, hcitations, Stroke.link, List.length_nil, Nat.add_zero] at hadds ⊢
  cases hc : Element.citation? ⟨before, .link href title, inner⟩ with
  | some c =>
      have hamong : citedAmong [⟨before, .link href title, inner⟩] =
          [⟨before, .link href title, inner⟩] := by simp [citedAmong, hc]
      rw [hcitation, hc] at hadds ⊢
      refine ⟨?_, ?_, ?_, ?_⟩
      · simp [hcitations, hc]
      · rw [hamong, List.map_singleton, hbody]
        exact .single hunmarked
      · intro e i hmem
        rw [hamong] at hmem
        obtain ⟨rfl, rfl⟩ : e = ⟨before, .link href title, inner⟩ ∧
            i = (reached services cfg h before).citations.length + 1 := by simpa using hmem
        rw [hbody]
        exact hadds
      · intro e hmem hlink hcited
        rw [hamong] at hcited
        cases List.mem_cons.mp hmem with
        | inl heq => simp [heq] at hcited
        | inr hmem => exact hcites.others e hmem hlink (by simp [citedAmong])
  | none =>
      have hamong : citedAmong [⟨before, .link href title, inner⟩] = [] := by
        simp [citedAmong, hc]
      have hwraps := (CitedInOrder.unmarked (n := (reached services cfg h before).citations.length)
        hunmarked).wraps (wraps_link ⟨href, title, inner.plainText false⟩ k.markup)
      rw [hcitation, hc] at hadds ⊢
      refine ⟨?_, ?_, ?_, ?_⟩
      · simp [hcitations, hc]
      · rw [hamong]
        exact hwraps
      · simp [hamong]
      · intro e hmem hlink hcited
        cases List.mem_cons.mp hmem with
        | inl heq =>
            subst heq
            exact ⟨_, hwraps.unmarked_of_nil, hadds⟩
        | inr hmem => exact hcites.others e hmem hlink (by simp [citedAmong])

theorem citations_openTag (s : RenderState) (t : Tag) : (s.openTag t).citations = s.citations := by
  cases t with
  | link href title => cases himage : s.image <;> simp [openTag, himage, beginCapture]
  | _ => simp [openTag, emit, beginCapture]

/-- An element adds a stroke as the links in it say, if its content does. -/
theorem cites_element (hcfg : cfg.citations = true) {before : List Event} {t : Tag}
    {inner : Content} {alt : Bool} (hcode : t.codeInfo? = none)
    (halt : (reached services cfg h before).image.isSome = alt) (himage : t.isImage → alt = false)
    (hnone : t.isLink → inner.has Tag.isLink = false) {k : Stroke}
    (hinside : Element.Inside services cfg h ⟨before, t, inner⟩ alt k) :
    ∃ k, Element.Cites services cfg h ⟨before, t, inner⟩ alt k := by
  have hnoImage (halt' : alt = false) : (reached services cfg h before).image = none := by
    rw [halt'] at halt
    simpa using halt
  have hadded := reached_closing services cfg h before hcode (fun ht => hnoImage (himage ht))
    hinside.added
  have hplace : (reached services cfg h before).place.alt = alt := halt
  by_cases hlink : t.isLink
  · cases t with
    | link href title =>
        cases alt with
        | true =>
            simp only [Stroke.close, hplace, if_true] at hadded
            exact ⟨k, cites_link_alt hinside hadded⟩
        | false =>
            simp only [Stroke.close, hplace, Bool.false_eq_true, if_false] at hadded
            exact ⟨_, cites_link hcfg (hnoImage rfl) hinside (hnone rfl) hadded⟩
    | _ => simp [Tag.isLink] at hlink
  · exact ⟨_, cites_close hinside (by simpa using hlink) hcode hadded⟩

/-! ### Content after content -/

/-- Content in which links stand in no links, images in no images and only texts in code
blocks, and no image in the text of an image. -/
structure Content.Apart (c : Content) (alt : Bool) : Prop where
  code : c.codeIsText
  images : c.imagesApart
  links : c.linksApart
  noImage : alt → c.has Tag.isImage = false

/-- What an element and the content after it have of that. -/
theorem Content.Apart.element {t : Tag} {inner rest : Content} {alt : Bool}
    (h : (Content.element t inner rest).Apart alt) :
    (t.isCode → inner.isText) ∧ (t.isImage → alt = false) ∧
      (t.isLink → inner.has Tag.isLink = false) ∧ inner.Apart (alt || t.isImage) ∧
      rest.Apart alt := by
  obtain ⟨htext, himages, hlinks, halt⟩ := h
  simp only [Content.codeIsText, Content.imagesApart, Content.linksApart, Content.every,
    Bool.and_eq_true] at htext himages hlinks
  obtain ⟨⟨hinnerText, htextInner⟩, htextRest⟩ := htext
  obtain ⟨⟨hinnerImages, himagesInner⟩, himagesRest⟩ := himages
  obtain ⟨⟨hinnerLinks, hlinksInner⟩, hlinksRest⟩ := hlinks
  have hhas (h : alt) :
      (t.isImage = false ∧ inner.has Tag.isImage = false) ∧ rest.has Tag.isImage = false := by
    simpa [Content.has] using halt h
  have haltInner : (alt || t.isImage) → inner.has Tag.isImage = false := by
    intro hinside
    cases hkind : t.isImage with
    | true => simpa [hkind] using hinnerImages
    | false => exact (hhas (by simpa [hkind] using hinside)).1.2
  refine ⟨fun hkind => by simpa [hkind] using hinnerText, fun hkind => ?_,
    fun hkind => by simpa [hkind] using hinnerLinks,
    ⟨htextInner, himagesInner, hlinksInner, haltInner⟩,
    ⟨htextRest, himagesRest, hlinksRest, fun h => (hhas h).2⟩⟩
  cases alt with
  | true => simp [(hhas rfl).1.1] at hkind
  | false => rfl

/-- What content after some events adds, where `alt` says whether it stands in the text of an
image. -/
structure Content.Cites (services : Services (StateM σ)) (cfg : RenderSettings) (h : σ)
    (before : List Event) (alt : Bool) (c : Content) (k : Stroke) : Prop where
  added : reached services cfg h (before ++ c.events) = (reached services cfg h before).add k
  text : alt ∨ c.has Tag.isLink = false → k.text = c.plainText alt
  cites : CitesIn services cfg h (reached services cfg h before).citations.length
    (c.links before alt) (c.elements before) k

/-- An event that stands alone, and then the rest. -/
theorem cites_leaf {l : Leaf} {rest : Content} {before : List Event} {alt : Bool} {k : Stroke}
    (hleaf : reached services cfg h (before ++ [l.event]) =
      (reached services cfg h before).add (l.stroke alt (reached services cfg h before).table))
    (hrest : rest.Cites services cfg h (before ++ [l.event]) alt k) :
    (Content.leaf l rest).Cites services cfg h before alt
      (l.stroke alt (reached services cfg h before).table ++ k) := by
  obtain ⟨hk, hplain, hcites⟩ := hrest
  have hfirst : CitesIn services cfg h (reached services cfg h before).citations.length [] []
      (l.stroke alt (reached services cfg h before).table) :=
    .of_unmarked (unmarked_leaf alt l) rfl
  rw [hleaf] at hk hcites
  refine ⟨?_, fun hlabel => ?_, hfirst.append ?_⟩
  · rw [Content.events_leaf, List.append_cons, hk, add_append]
  · exact congrArg (l.plainText alt ++ ·) (hplain hlabel)
  · simpa [add, Leaf.stroke, Stroke.empty] using hcites

/-- An element, and then the rest: the citations of the rest go on from those of the element. -/
theorem Element.Cites.append {t : Tag} {inner rest : Content} {before : List Event} {alt : Bool}
    {k k' : Stroke} (helement : Element.Cites services cfg h ⟨before, t, inner⟩ alt k)
    (hrest : rest.Cites services cfg h (Element.closed ⟨before, t, inner⟩) alt k') :
    (Content.element t inner rest).Cites services cfg h before alt (k ++ k') := by
  obtain ⟨hadded, hplain, hcites⟩ := helement
  obtain ⟨hk', hplain', hcites'⟩ := hrest
  rw [hadded] at hk' hcites'
  have hcitations : ((reached services cfg h before).add k).citations.length =
      (reached services cfg h before).citations.length + k.citations.length := by
    simp [add]
  rw [hcitations] at hcites'
  have hevents : before ++ (Content.element t inner rest).events =
      Element.closed ⟨before, t, inner⟩ ++ rest.events := by
    simp [Element.closed, Element.opened]
  refine ⟨?_, fun hlabel => ?_, hcites.append hcites'⟩
  · rw [hevents, hk', add_append]
  · have hsplit : alt ∨ (t.isLink = false ∧ inner.has Tag.isLink = false) ∧
        rest.has Tag.isLink = false := by simpa [Content.has] using hlabel
    rw [Content.plainText, ← hplain (hsplit.imp_right And.left),
      ← hplain' (hsplit.imp_right And.right)]
    rfl

/-- What is inside an element is what its content adds after its opening event. -/
theorem inside_of_cites {t : Tag} {inner : Content} {before : List Event} {alt : Bool} {k : Stroke}
    (hinner : inner.Cites services cfg h (before ++ [.opening t]) (alt || t.isImage) k) :
    Element.Inside services cfg h ⟨before, t, inner⟩ alt k := by
  obtain ⟨hk, hplain, hcites⟩ := hinner
  refine ⟨?_, hplain, ?_⟩
  · rw [Element.opened, List.append_cons]
    exact hk
  · rwa [reached_opening, citations_openTag] at hcites

/-- Content adds a stroke as its links say. -/
theorem cites_reached (hcfg : cfg.citations = true) : (c : Content) → (before : List Event) →
    (alt : Bool) → (reached services cfg h before).code = none →
    (reached services cfg h before).image.isSome = alt → c.Apart alt →
    ∃ k, c.Cites services cfg h before alt k
  | .nil, before, alt, _, _, _ => by
      refine ⟨.empty (reached services cfg h before).table, ?_, fun _ => rfl, .of_unmarked rfl rfl⟩
      rw [Content.events_nil, List.append_nil, add_empty]
  | .leaf l rest, before, alt, hcode, himage, ⟨htext, himages, hlinks, halt⟩ => by
      have hleaf := reached_leaf services cfg h before l hcode
      have hplace : (reached services cfg h before).place.alt = alt := himage
      rw [hplace] at hleaf
      obtain ⟨k, hrest⟩ := cites_reached hcfg rest (before ++ [l.event]) alt
        (by rw [hleaf, code_add, hcode]) (by rw [hleaf, isSome_image_add, himage])
        ⟨htext, himages, hlinks, halt⟩
      exact ⟨_, cites_leaf hleaf hrest⟩
  | .element t inner rest, before, alt, hcode, himage, hapart => by
      obtain ⟨htext, himages, hlinks, hinnerApart, hrestApart⟩ := hapart.element
      obtain ⟨k, helement⟩ : ∃ k, Element.Cites services cfg h ⟨before, t, inner⟩ alt k := by
        cases ht : t.codeInfo? with
        | some info => exact cites_code alt ht (htext (by simp [Tag.isCode, ht])) hcode
        | none =>
            have hopening := reached_opening services cfg h before t
            have hplace := congrArg Place.alt (place_openTag (reached services cfg h before) t)
            rw [Place.alt_inside] at hplace
            obtain ⟨k, hinner⟩ := cites_reached hcfg inner (before ++ [.opening t])
              (alt || t.isImage) (by rw [hopening, code_openTag _ t ht, hcode])
              (by rw [hopening, ← himage]; exact hplace) hinnerApart
            exact cites_element hcfg ht himage himages hlinks (inside_of_cites hinner)
      obtain ⟨k', hrest⟩ := cites_reached hcfg rest (Element.closed ⟨before, t, inner⟩) alt
        (by rw [helement.added, code_add, hcode])
        (by rw [helement.added, isSome_image_add, himage]) hrestApart
      exact ⟨_, helement.append hrest⟩

end CitesIn

/-! ## The section of the citations -/

/-- The line of a citation: its number, its title unless that is the address, and
its address. -/
def citationLine (number : Nat) (c : Citation) : String :=
  "<code style=\"font-size: 90%; opacity: 0.6;\">[" ++ toString number ++ "]</code>" ++
    (if c.title = c.link then "" else " " ++ escapeText c.title) ++
    ": <i style=\"word-break: break-all\">" ++ escapeText c.link ++ "</i><br/>"

/-- The lines of citations, numbered from `n` on and divided by line feeds. -/
def citationLines : (n : Nat) → Citations → String
  | _, [] => ""
  | n, [c] => citationLine n c
  | n, c :: d :: cs => citationLine n c ++ "\n" ++ citationLines (n + 1) (d :: cs)

/-- The section that lists citations under a heading, numbered from 1 on. -/
def citationSection (cfg : RenderSettings) (cs : Citations) : String :=
  if cs = [] then ""
  else
    "<h4" ++ cfg.styles.styleAttribute (.heading .four) ++ ">" ++
      escapeText cfg.footnoteHeading ++ "</h4><p" ++ cfg.styles.styleAttribute .footnotes ++ ">" ++
      citationLines 1 cs ++ "</p>"

theorem write_item (styles : Styles) (n : Nat) (c : Citation) :
    (Citations.item n c).write styles = citationLine n c := by
  rw [← String.toList_inj]
  unfold Citations.item citationLine
  split <;> simp [Piece.write, Attr.write, VoidEnd.write]

theorem write_itemsFrom (styles : Styles) : (n : Nat) → (cs : Citations) →
    (Citations.itemsFrom n cs).write styles = citationLines n cs
  | _, [] => rfl
  | n, [c] => write_item styles n c
  | n, c :: d :: cs => by
      have ih := write_itemsFrom styles (n + 1) (d :: cs)
      simp [Citations.itemsFrom, citationLines, write_item, ih, Piece.write, String.append_assoc]

theorem write_section (cfg : RenderSettings) (cs : Citations) :
    (cs.sectionMarkup cfg.footnoteHeading).write cfg.styles = citationSection cfg cs := by
  rw [← String.toList_inj]
  unfold Citations.sectionMarkup citationSection
  cases cs with
  | nil => rfl
  | cons c cs =>
      simp [write_itemsFrom, Piece.styled, Piece.write, Attr.write, Styles.styleAttribute]

/-! ## Whole documents -/

/-- Two links to one address, an image between them that holds a link, and a
link that shows its address. -/
def linkedDocument : Content :=
  .element .paragraph
    (.element (.link "https://a.example" "A") (.leaf (.text "first") .nil)
      (.element (.image "b.png" "")
        (.element (.link "https://c.example" "") (.leaf .softBreak .nil) .nil)
        (.element (.link "https://a.example" "")
          (.element .emphasis (.leaf (.code "second") .nil) .nil)
          (.element (.link "https://d.example" "") (.leaf (.text "https://d.example") .nil) .nil))))
    .nil

/-- It is rendered with citations, in no style. -/
def linkedDocument.settings : RenderSettings :=
  { RenderSettings.ofStyles .empty with citations := true }

end Broadsheet
