import Broadsheet.Document.Render

/-!
# Broadsheet.Proofs.Document.Outputs

What one event does, in two parts that do not depend on each other.  Of the
outputs, the innermost one and those that wait, an event appends to the innermost
one, begins another one, or ends it and writes what is made of it to the one
before (`OutputEffect`).  All else in a state, but for the citations, is changed
whatever the outputs are.

* `quietStep_eq_effect`: what an event does to the outputs and the citations is its
  effect;
* `effect_eq_of_others`, `others_quietStep`: neither the effect nor the rest of
  the next state depends on outputs and citations, or on whether links are cited.
-/

namespace Broadsheet

/-! ## Effects -/

/-- What is made of captured content at the end of a capture. -/
inductive Wrapping
  | paragraph (enclosure : Option Enclosure)
  | heading (level : HeadingLevel)
  | link (l : PendingLink)
  /-- A link ends that did not begin. -/
  | dropped

namespace Wrapping

/-- The content as it is written, after some citations. -/
def around (cfg : RenderSettings) (cited : Nat) (content : Markup) : Wrapping → Markup
  | paragraph enclosure => paragraphMarkup cfg enclosure content
  | heading level => headingMarkup level content
  | link l =>
      if (l.citation? cfg).isSome then citedMarkup (cited + 1) content else l.markup content
  | dropped => []

/-- The citations that come with it. -/
def citations (cfg : RenderSettings) : Wrapping → Citations
  | link l => (l.citation? cfg).toList
  | paragraph _ | heading _ | dropped => []

end Wrapping

/-- What an event does with the outputs. -/
inductive OutputEffect
  | write (m : Markup)
  | capture
  | release (w : Wrapping)

namespace OutputEffect

/-- The innermost output and those that wait, after some citations. -/
@[simp] def apply (cfg : RenderSettings) (cited : Nat) :
    OutputEffect → Markup × List Markup → Markup × List Markup
  | write m, (output, saved) => (output ++ m, saved)
  | capture, (output, saved) => ([], output :: saved)
  | release w, (output, saved) => (saved.headD [] ++ w.around cfg cited output, saved.tail)

/-- The citations that come with it. -/
@[simp] def citations (cfg : RenderSettings) : OutputEffect → Citations
  | release w => w.citations cfg
  | write _ | capture => []

end OutputEffect

section Effects

variable (cfg : RenderSettings) (s : RenderState)

/-- The effect of an opening event. -/
def Tag.effect : Tag → OutputEffect
  | paragraph | heading _ => .capture
  | link _ _ => if s.image.isSome then .write [] else .capture
  | t => .write (t.markup s.lists.head? s.table)

/-- The effect of a closing event. -/
def TagEnd.effect : TagEnd → OutputEffect
  | paragraph => .release (.paragraph s.enclosures.head?)
  | heading level => .release (.heading level)
  | link =>
      if s.image.isSome then .write []
      else .release (s.links.head?.elim .dropped .link)
  | image => .write (s.image.elim [] (figure cfg))
  | t => .write t.markup

/-- The effect of an event that calls no service. -/
def RenderState.effect : Event → OutputEffect
  | .opening t => t.effect s
  | .closing t => t.effect cfg s
  | .text t => .write (if s.code.isSome || s.image.isSome then [] else [.text t])
  | .code t => .write (if s.image.isSome then [] else codeSpanMarkup t)
  | .html t | .inlineHtml t => .write [.raw t]
  | .softBreak | .hardBreak => .write (if s.image.isSome then [] else lineBreakMarkup)
  | .rule => .write ruleMarkup
  | .taskMarker checked => .write (taskMarkup checked)
  | .footnoteReference _ | .inlineMath _ | .displayMath _ => .write []

end Effects

/-! ## Steps -/

namespace RenderState

/-- The innermost output and those that wait. -/
def outputs (s : RenderState) : Markup × List Markup := (s.output, s.saved)

/-- The state without outputs and citations. -/
def others (s : RenderState) : RenderState := { s with output := [], saved := [], citations := [] }

section Steps

variable (cfg cfg' : RenderSettings) {s s' : RenderState}

/-- What an event does to outputs and citations is its effect. -/
theorem quietStep_eq_effect (s : RenderState) (e : Event) :
    (s.quietStep cfg e).outputs = (s.effect cfg e).apply cfg s.citations.length s.outputs ∧
      (s.quietStep cfg e).citations = s.citations ++ (s.effect cfg e).citations cfg := by
  rcases s with ⟨_, _, _, _, links, code, _, image, _, _, _⟩
  cases e with
  | opening t =>
      cases t with
      | link href title =>
          cases image <;> simp [quietStep, openTag, beginCapture, effect, Tag.effect, outputs]
      | _ =>
          simp [quietStep, openTag, emit, beginCapture, effect, Tag.effect, outputs, Tag.markup]
  | closing t =>
      cases t with
      | link =>
          cases image with
          | some i => simp [quietStep, closeTag, effect, TagEnd.effect, outputs]
          | none =>
              cases links with
              | nil =>
                  simp [quietStep, closeTag, endCapture, effect, TagEnd.effect, outputs,
                    Wrapping.around, Wrapping.citations]
              | cons l ls =>
                  cases hcited : l.citation? cfg <;>
                    simp [quietStep, closeTag, endCapture, link, emit, effect, TagEnd.effect,
                      outputs, Wrapping.around, Wrapping.citations, hcited, Citations.add]
      | image =>
          cases image <;>
            simp [quietStep, closeTag, addToLabel, emit, effect, TagEnd.effect, outputs]
      | _ =>
          simp [quietStep, closeTag, emit, endCapture, effect, TagEnd.effect, outputs,
            Wrapping.around, Wrapping.citations, TagEnd.markup]
  | text t =>
      cases code <;> cases image <;> simp [quietStep, text, addToLabel, emit, effect, outputs]
  | code t => cases image <;> simp [quietStep, inlineCode, addToLabel, emit, effect, outputs]
  | softBreak | hardBreak => cases image <;> simp [quietStep, lineBreak, emit, effect, outputs]
  | _ => simp [quietStep, emit, effect, outputs]

/-- An effect does not depend on outputs and citations. -/
theorem effect_others (s : RenderState) (e : Event) : s.others.effect cfg e = s.effect cfg e := by
  cases e with
  | opening t => cases t <;> rfl
  | closing t => cases t <;> rfl
  | _ => rfl

/-- Nor does it depend on whether links are cited. -/
theorem effect_eq_of_others (hlegend : cfg.legend = cfg'.legend) (h : s.others = s'.others)
    (e : Event) : s.effect cfg e = s'.effect cfg' e := by
  have hfigure : figure cfg = figure cfg' := by
    funext i
    simp only [figure, hlegend]
  have hsame : s'.effect cfg e = s'.effect cfg' e := by
    cases e with
    | closing t =>
        cases t with
        | image => simp only [effect, TagEnd.effect, hfigure]
        | _ => rfl
    | _ => rfl
  rw [← effect_others cfg s e, h, effect_others, hsame]

/-- What an event does to the rest of a state does not depend on outputs and citations. -/
theorem others_quietStep_others (s : RenderState) (e : Event) :
    (s.quietStep cfg e).others = (s.others.quietStep cfg' e).others := by
  rcases s with ⟨_, _, _, _, links, code, _, image, _, _, _⟩
  cases e with
  | opening t =>
      cases t with
      | link href title => cases image <;> rfl
      | _ => rfl
  | closing t =>
      cases t with
      | link =>
          cases image with
          | some i => rfl
          | none =>
              cases links with
              | nil => rfl
              | cons l ls =>
                  cases hcited : l.citation? cfg <;> cases hcited' : l.citation? cfg' <;>
                    simp [quietStep, closeTag, endCapture, link, emit, others, hcited, hcited']
      | image => cases image <;> rfl
      | _ => rfl
  | text t => cases code <;> cases image <;> rfl
  | code t => cases image <;> rfl
  | softBreak | hardBreak => cases image <;> rfl
  | _ => rfl

theorem others_quietStep (h : s.others = s'.others) (e : Event) :
    (s.quietStep cfg e).others = (s'.quietStep cfg' e).others := by
  rw [others_quietStep_others cfg cfg' s, h, ← others_quietStep_others cfg' cfg' s']

end Steps

end RenderState

end Broadsheet
