import Broadsheet.Proofs.Document.Figures

/-!
# Broadsheet.Proofs.Document.Labels

The renderer keeps the plain text of what it is inside of in two places: of an
image, for its alternative text, and of a link, for the title that it is cited
with and for the comparison with its address.  Both are fed by the same texts and
codes.  A line break is a blank for an image and nothing for a link.

* `foldl_quietStep_collect`: what a phrase, inline content without links and
  images, adds to either of the two;
* `length_gather_altText`: how much longer the one is than the other;
* `label_eq_alt_iff`: so they are the same exactly if the phrase has no line break.
-/

namespace Broadsheet

/-! ## Phrases -/

/-- A tag that is written around its content and opens nothing else. -/
def Tag.isSpan : Tag → Bool
  | emphasis | strong | strikethrough | superscript | subscript => true
  | _ => false

def Leaf.isBreak : Leaf → Bool
  | softBreak | hardBreak => true
  | _ => false

/-- What an event counts for in the label of a link.  An open code block takes
texts first. -/
def Leaf.labelText (inCode : Bool) : Leaf → String
  | text t => if inCode then "" else t
  | code t => t
  | _ => ""

namespace Content

/-- Events that open nothing, in spans at any depth. -/
def isPhrase : Content → Bool
  | nil => true
  | leaf _ rest => rest.isPhrase
  | element t inner rest => t.isSpan && inner.isPhrase && rest.isPhrase

theorem isPhrase_element {t : Tag} {inner rest : Content} :
    (element t inner rest).isPhrase ↔ t.isSpan ∧ inner.isPhrase ∧ rest.isPhrase := by
  simp [isPhrase, and_assoc]

/-- The number of line breaks, at any depth. -/
def breaks : Content → Nat
  | nil => 0
  | leaf l rest => l.isBreak.toNat + rest.breaks
  | element _ inner rest => inner.breaks + rest.breaks

/-- The text for an image has one character more for each line break. -/
theorem length_gather_altText (inCode : Bool) : (c : Content) →
    (c.gather (Leaf.altText inCode)).length =
      (c.gather (Leaf.labelText inCode)).length + c.breaks
  | nil => rfl
  | leaf l rest => by
      have ih := length_gather_altText inCode rest
      have hblank : " ".length = 1 := by decide
      have hleaf : (l.altText inCode).length = (l.labelText inCode).length + l.isBreak.toNat := by
        cases l <;> simp [Leaf.altText, Leaf.labelText, Leaf.isBreak, hblank]
      simp only [gather, breaks, String.length_append, hleaf, ih]
      omega
  | element _ inner rest => by
      have ihInner := length_gather_altText inCode inner
      have ihRest := length_gather_altText inCode rest
      simp only [gather, breaks, String.length_append, ihInner, ihRest]
      omega

/-- Without breaks the two texts are gathered from the same events. -/
theorem gather_labelText_eq_of_breaks (inCode : Bool) : (c : Content) → c.breaks = 0 →
    c.gather (Leaf.labelText inCode) = c.gather (Leaf.altText inCode)
  | nil, _ => rfl
  | leaf l rest, h => by
      obtain ⟨hl, hrest⟩ : l.isBreak.toNat = 0 ∧ rest.breaks = 0 := Nat.add_eq_zero_iff.mp h
      have hleaf : l.labelText inCode = l.altText inCode := by
        cases l <;> first | rfl | simp [Leaf.isBreak] at hl
      rw [gather, gather, hleaf, gather_labelText_eq_of_breaks inCode rest hrest]
  | element _ inner rest, h => by
      obtain ⟨hinner, hrest⟩ : inner.breaks = 0 ∧ rest.breaks = 0 := Nat.add_eq_zero_iff.mp h
      rw [gather, gather, gather_labelText_eq_of_breaks inCode inner hinner,
        gather_labelText_eq_of_breaks inCode rest hrest]

/-- With a break they differ in their lengths. -/
theorem gather_labelText_eq_iff (inCode : Bool) (c : Content) :
    c.gather (Leaf.labelText inCode) = c.gather (Leaf.altText inCode) ↔ c.breaks = 0 := by
  refine ⟨fun h => ?_, c.gather_labelText_eq_of_breaks inCode⟩
  have hlength := c.length_gather_altText inCode
  rw [h] at hlength
  omega

/-- A phrase holds no code block. -/
theorem not_has_isCode_of_isPhrase : (c : Content) → c.isPhrase → c.has Tag.isCode = false :=
  not_has_of_hereditary (fun _ _ h => h) fun t _ _ h => by
    obtain ⟨ht, hinner, hrest⟩ := isPhrase_element.mp h
    have hcode : t.isCode = false := by
      cases t <;> first | rfl | simp [Tag.isSpan] at ht
    exact ⟨hcode, hinner, hrest⟩

end Content

/-! ## The two collectors -/

namespace RenderState

@[simp] theorem addToLabel_empty (s : RenderState) : s.addToLabel "" = s := by
  rcases s with ⟨_, _, _, _, links, _, _, _, _, _, _⟩
  cases links <;> simp [addToLabel]

/-- Adds markup to the output, a source to the open code block, and a text to the
open image, or else to the label of the innermost link. -/
def collect (s : RenderState) (m : Markup) (label alt source : String) : RenderState :=
  (s.take m alt source).addToLabel (if s.image.isSome then "" else label)

/-- What is collected one after another is collected at once. -/
theorem collect_collect (s : RenderState) (m m' : Markup)
    (label label' alt alt' source source' : String) :
    (s.collect m label alt source).collect m' label' alt' source' =
      s.collect (m ++ m') (label ++ label') (alt ++ alt') (source ++ source') := by
  rcases s with ⟨_, _, _, _, links, code, _, image, _, _, _⟩
  cases links <;> cases code <;> cases image <;>
    simp [collect, take, addToLabel, String.append_assoc]

@[simp] theorem isSome_code_collect (s : RenderState) (m : Markup) (label alt source : String) :
    (s.collect m label alt source).code.isSome = s.code.isSome := by
  simp [collect, addToLabel]

theorem collect_empty (s : RenderState) : s.collect [] "" "" "" = s := by simp [collect]

section Phrases

variable (cfg : RenderSettings) (s : RenderState)

/-- An event that opens nothing: what it counts for is collected. -/
theorem quietStep_leaf_collect (l : Leaf) :
    ∃ m, s.quietStep cfg l.event =
      s.collect m (l.labelText s.code.isSome) (l.altText s.code.isSome) l.source := by
  rcases s with ⟨_, _, _, _, links, code, _, image, _, _, _⟩
  cases l <;> cases links <;> cases code <;> cases image <;>
    simp [Leaf.event, quietStep, text, inlineCode, lineBreak, collect, take, addToLabel, emit,
      Leaf.labelText, Leaf.altText, Leaf.source]

/-- The start of a span writes its tag only. -/
theorem quietStep_opening_collect {t : Tag} (ht : t.isSpan) :
    ∃ m, s.quietStep cfg (.opening t) = s.collect m "" "" "" := by
  rcases s with ⟨_, _, _, _, links, code, _, image, _, _, _⟩
  cases t <;> cases links <;> cases code <;> cases image <;>
    simp_all [Tag.isSpan, quietStep, openTag, collect, take, addToLabel, emit]

theorem quietStep_closing_collect {t : Tag} (ht : t.isSpan) :
    ∃ m, s.quietStep cfg (.closing t.toEnd) = s.collect m "" "" "" := by
  rcases s with ⟨_, _, _, _, links, code, _, image, _, _, _⟩
  cases t <;> cases links <;> cases code <;> cases image <;>
    simp_all [Tag.isSpan, Tag.toEnd, quietStep, closeTag, collect, take, addToLabel, emit]

/-- **A phrase** writes something, and what its texts, codes and breaks count for
goes to the image that is open, or else to the label of the innermost link. -/
theorem foldl_quietStep_collect : (c : Content) → (s : RenderState) → c.isPhrase →
    ∃ m, c.events.foldl (quietStep cfg) s =
      s.collect m (c.gather (Leaf.labelText s.code.isSome))
        (c.gather (Leaf.altText s.code.isSome)) (c.gather Leaf.source)
  | .nil, s, _ => ⟨[], s.collect_empty.symm⟩
  | .leaf l rest, s, hc => by
      obtain ⟨m, hm⟩ := s.quietStep_leaf_collect cfg l
      obtain ⟨m', hm'⟩ := foldl_quietStep_collect rest (s.quietStep cfg l.event) hc
      refine ⟨m ++ m', ?_⟩
      rw [Content.events_leaf, List.foldl_cons, hm', hm, collect_collect, isSome_code_collect]
      rfl
  | .element t inner rest, s, hc => by
      obtain ⟨ht, hinner, hrest⟩ := Content.isPhrase_element.mp hc
      obtain ⟨m₁, h₁⟩ := s.quietStep_opening_collect cfg ht
      obtain ⟨m₂, h₂⟩ := foldl_quietStep_collect inner (s.collect m₁ "" "" "") hinner
      obtain ⟨m₃, h₃⟩ := quietStep_closing_collect cfg
        (inner.events.foldl (quietStep cfg) (s.collect m₁ "" "" "")) ht
      obtain ⟨m₄, h₄⟩ := foldl_quietStep_collect rest
        ((inner.events.foldl (quietStep cfg) (s.collect m₁ "" "" "")).quietStep cfg
          (.closing t.toEnd)) hrest
      refine ⟨m₁ ++ m₂ ++ m₃ ++ m₄, ?_⟩
      rw [Content.events_element, List.foldl_cons, List.foldl_append, List.foldl_cons, h₁, h₄, h₃,
        h₂]
      simp [collect_collect, Content.gather]

end Phrases

end RenderState

/-! ## Labels and alternative texts -/

open RenderState in
/-- **The plain text of a link and of an image**: from every state with no image open, a phrase
leaves a link that it stands in with its label, and an image that it stands in with its alternative
text, and calls no service.  The two are the same exactly if no line break is in the phrase: for
the image a break is a blank, and for the link it is nothing. -/
theorem label_eq_alt_iff {m : Type → Type} [Monad m] [LawfulMonad m] (services : Services m)
    (cfg : RenderSettings) {s : RenderState} (hs : s.image = none) {c : Content} (hc : c.isPhrase)
    (href title src caption : String) :
    let label := c.gather (Leaf.labelText s.code.isSome)
    let alt := c.gather (Leaf.altText s.code.isSome)
    ∃ linked imaged : RenderState,
      s.run services cfg (.opening (.link href title) :: c.events) = pure linked ∧
      s.run services cfg (.opening (.image src caption) :: c.events) = pure imaged ∧
      (linked.links = ⟨href, title, label⟩ :: s.links ∧ linked.image = none) ∧
      (imaged.image = some ⟨src, caption, alt⟩ ∧ imaged.links = s.links) ∧
      (label = alt ↔ c.breaks = 0) := by
  intro label alt
  have hquiet (t : Tag) : ∀ e ∈ .opening t :: c.events, e ≠ .closing .code :=
    List.forall_mem_cons.mpr
      ⟨by simp, c.ne_closing_code_of_not_has (c.not_has_isCode_of_isPhrase hc)⟩
  obtain ⟨written, hwritten⟩ := foldl_quietStep_collect cfg c
    { s with links := ⟨href, title, ""⟩ :: s.links }.beginCapture hc
  obtain ⟨shown, hshown⟩ := foldl_quietStep_collect cfg c (s.withImage ⟨src, caption, ""⟩) hc
  refine ⟨_, _, run_eq_pure_foldl services cfg _ s (hquiet _),
    run_eq_pure_foldl services cfg _ s (hquiet _), ?_, ?_, c.gather_labelText_eq_iff _⟩
  · have hopen : s.quietStep cfg (.opening (.link href title)) =
        { s with links := ⟨href, title, ""⟩ :: s.links }.beginCapture := by
      simp [quietStep, openTag, hs]
    rw [List.foldl_cons, hopen, hwritten]
    simp [collect, take, addToLabel, beginCapture, hs, label]
  · have hopen : s.quietStep cfg (.opening (.image src caption)) =
        s.withImage ⟨src, caption, ""⟩ := rfl
    rw [List.foldl_cons, hopen, hshown]
    simp [collect, take, withImage, alt]

/-- Two words, the second of them strong, with a break between them. -/
def brokenPhrase : Content :=
  .leaf (.text "a") (.leaf .softBreak (.element .strong (.leaf (.text "b") .nil) .nil))

/-- The words are apart for an image, and together for a link. -/
theorem brokenPhrase_label_ne_alt :
    RenderState.initial.image = none ∧ brokenPhrase.isPhrase ∧
      ∃ linked imaged : RenderState,
        RenderState.initial.run (m := Id) Services.plain (.ofStyles .empty)
            (.opening (.link "u" "") :: brokenPhrase.events) = linked ∧
        RenderState.initial.run (m := Id) Services.plain (.ofStyles .empty)
            (.opening (.image "u" "") :: brokenPhrase.events) = imaged ∧
        linked.links = [⟨"u", "", "ab"⟩] ∧ imaged.image = some ⟨"u", "", "a b"⟩ := by
  have himage : RenderState.initial.image = none := rfl
  have hphrase : brokenPhrase.isPhrase := rfl
  obtain ⟨linked, imaged, hlinked, himaged, ⟨hlinks, -⟩, ⟨halt, -⟩, -⟩ :=
    label_eq_alt_iff (m := Id) Services.plain (.ofStyles .empty) himage hphrase "u" "" "u" ""
  exact ⟨himage, hphrase, linked, imaged, hlinked, himaged, hlinks, halt⟩

end Broadsheet
