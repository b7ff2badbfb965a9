import Mathlib.Data.List.Induction
import Broadsheet.Proofs.Document.Faults
import Broadsheet.Proofs.Document.LinkTrees
import Broadsheet.Proofs.Document.Outputs

/-!
# Broadsheet.Proofs.Document.Marking

Citations only add marks.  A stream, balanced or not, is rendered twice, with
citations and without them, and the two are run side by side: every output of the
one is a tree of links written without marks, and of the other the same tree
written with them (`Marked`).

A rendering looks at what it has written in one place, when it searches a
paragraph for a figure or for ink, and there marks are not seen
(`LinkTree.isFigure_plain`).  What is lost, because it is captured and the capture
does not end, or ends without a link, is lost in both.

* `sideBySide`: what one event preserves, whole streams preserve;
* `rendered_citations`: the two renderings, and where their marks come from.
-/

namespace Broadsheet

/-! ## Forms of links -/

/-- How a link is written. -/
inductive LinkForm
  | anchor
  /-- The label alone, which is the address. -/
  | plain
  /-- A span, the only form that is cited. -/
  | span
  deriving DecidableEq

def PendingLink.form (l : PendingLink) : LinkForm :=
  if l.onPlatform then .anchor else if l.href = l.label then .plain else .span

/-- The same settings with citations or without them. -/
def RenderSettings.withCitations (cfg : RenderSettings) (citations : Bool) : RenderSettings :=
  { cfg with citations := citations }

theorem isSome_citation? (cfg : RenderSettings) (l : PendingLink) :
    (l.citation? cfg).isSome = (cfg.citations && l.form = .span) := by
  unfold PendingLink.citation? PendingLink.form
  cases l.onPlatform <;> cases cfg.citations <;> by_cases hlabel : l.href = l.label <;>
    simp [hlabel]

/-- A link as it is written, by its form. -/
theorem around_link (cfg : RenderSettings) (cited : Nat) (label : Markup) (l : PendingLink) :
    (Wrapping.link l).around cfg cited label =
      match l.form with
      | .anchor =>
          [.startTag "a"
            [.escaped "href" l.href, .escaped "title" (Legend.orElse l.title l.label),
              .themed .platformLink ""]] ++ label ++ [.endTag "a"]
      | .plain => label
      | .span =>
          if cfg.citations then citedMarkup (cited + 1) label
          else [.styled "span" .link] ++ label ++ [.endTag "span"] := by
  rw [Wrapping.around, isSome_citation?]
  unfold PendingLink.markup PendingLink.form
  cases l.onPlatform <;> cases cfg.citations <;> by_cases hlabel : l.href = l.label <;>
    simp [hlabel]

/-- The link that ends with the next end of a link; in the text of an image there is none. -/
def RenderState.endingLink? (s : RenderState) : Option PendingLink :=
  if s.image.isSome then none else s.links.head?

/-! ## Effects on trees -/

/-- The links that are cited when content is released, with the number that comes after some
citations. -/
def Wrapping.spans (cited : Nat) (label : LinkTree) : Wrapping → List (Nat × LinkTree)
  | link l => if l.form = .span then [(cited + 1, label)] else []
  | paragraph _ | heading _ | dropped => []

/-- The links that are cited by an effect on outputs. -/
def OutputEffect.spans (cited : Nat) (label : LinkTree) : OutputEffect → List (Nat × LinkTree)
  | release w => w.spans cited label
  | write _ | capture => []

section Effects

variable {cfg : RenderSettings}

theorem map_spans_eq (cfg : RenderSettings) (cited : Nat) (t : LinkTree) (effect : OutputEffect) :
    (effect.spans cited t).map Prod.fst =
      List.range' (cited + 1) (effect.citations (cfg.withCitations true)).length := by
  cases effect with
  | release w =>
      cases w with
      | link l =>
          have hcited := isSome_citation? (cfg.withCitations true) l
          cases hcitation : l.citation? (cfg.withCitations true) <;>
            simp_all [OutputEffect.spans, Wrapping.spans, Wrapping.citations,
              RenderSettings.withCitations]
      | _ => rfl
  | _ => rfl

theorem linkless_figure (cfg : RenderSettings) (i : PendingImage) : (figure cfg i).linkless := by
  unfold figure
  dsimp only
  split <;> rfl

theorem linkless_code (c : PendingCode) (a : CodeAnswer) : (c.markup a).linkless := by
  unfold PendingCode.markup
  split
  · cases a <;> rfl
  · rfl

/-- Links are written at their ends only. -/
theorem linkless_effect {s : RenderState} {e : Event} {m : Markup}
    (h : s.effect cfg e = .write m) : m.linkless := by
  cases e with
  | opening t =>
      cases t with
      | paragraph | heading level => simp [RenderState.effect, Tag.effect] at h
      | link href title =>
          cases himage : s.image <;> simp [RenderState.effect, Tag.effect, himage] at h
          rw [h]
          rfl
      | quote alert =>
          cases h
          cases alert <;> rfl
      | list start =>
          cases h
          cases start <;> rfl
      | _ =>
          cases h
          rfl
  | closing t =>
      cases t with
      | paragraph | heading level => simp [RenderState.effect, TagEnd.effect] at h
      | link =>
          cases himage : s.image <;> simp [RenderState.effect, TagEnd.effect, himage] at h
          rw [h]
          rfl
      | image =>
          cases h
          cases s.image with
          | none => rfl
          | some i => exact linkless_figure cfg i
      | list ordered =>
          cases h
          cases ordered <;> rfl
      | _ =>
          cases h
          rfl
  | text t =>
      cases h
      split <;> rfl
  | code t | softBreak | hardBreak =>
      cases h
      split <;> rfl
  | taskMarker checked =>
      cases h
      cases checked <;> rfl
  | _ =>
      cases h
      rfl

/-- Links are cited at the end of a link only, and then as spans. -/
theorem eq_of_mem_spans {s : RenderState} {e : Event} {cited : Nat} {t : LinkTree}
    {link : Nat × LinkTree} (h : link ∈ (s.effect cfg e).spans cited t) :
    e = .closing .link ∧ (∃ l, s.endingLink? = some l ∧ l.form = .span) ∧
      link = (cited + 1, t) := by
  cases e with
  | closing tag =>
      cases tag with
      | link =>
          cases himage : s.image with
          | some i =>
              simp [RenderState.effect, TagEnd.effect, himage, OutputEffect.spans] at h
          | none =>
              cases hlink : s.links.head? with
              | none =>
                  simp [RenderState.effect, TagEnd.effect, himage, hlink, OutputEffect.spans,
                    Wrapping.spans] at h
              | some l =>
                  obtain ⟨hform, rfl⟩ : l.form = .span ∧ link = (cited + 1, t) := by
                    simpa [RenderState.effect, TagEnd.effect, himage, hlink, OutputEffect.spans,
                      Wrapping.spans] using h
                  have hending : s.endingLink? = some l := by
                    simp [RenderState.endingLink?, himage, hlink]
                  exact ⟨rfl, ⟨l, hending, hform⟩, rfl⟩
      | _ => simp [RenderState.effect, TagEnd.effect, OutputEffect.spans, Wrapping.spans] at h
  | opening tag =>
      cases tag with
      | link href title =>
          cases himage : s.image <;>
            simp [RenderState.effect, Tag.effect, himage, OutputEffect.spans] at h
      | _ => simp [RenderState.effect, Tag.effect, OutputEffect.spans] at h
  | _ => simp [RenderState.effect, OutputEffect.spans] at h

section Trees

variable (hstyles : ∀ d, cfg.styles.declarations? .footnote = some d → '<' ∉ d.toList)

include hstyles

/-- A paragraph is wrapped with marks in it as it is without them. -/
theorem exists_paragraph (enclosure : Option Enclosure) (t : LinkTree) :
    ∃ u : LinkTree,
      paragraphMarkup (cfg.withCitations false) enclosure t.plain = u.plain ∧
        paragraphMarkup (cfg.withCitations true) enclosure t.cited = u.cited ∧
        u.links = t.links := by
  have hsame : (isFigure (t.plain.write cfg.styles) || blankText (t.plain.write cfg.styles)) =
      (isFigure (t.cited.write cfg.styles) || blankText (t.cited.write cfg.styles)) := by
    rw [t.isFigure_plain hstyles, t.blankText_plain hstyles]
  by_cases hbare : isFigure (t.cited.write cfg.styles) || blankText (t.cited.write cfg.styles)
  · exact ⟨t, if_pos (hsame.trans hbare), if_pos hbare, rfl⟩
  · have hbare' : ¬ (isFigure (t.plain.write cfg.styles) || blankText (t.plain.write cfg.styles)) :=
      fun h => hbare (hsame.symm.trans h)
    rw [paragraphMarkup, paragraphMarkup, RenderSettings.withCitations,
      RenderSettings.withCitations, if_neg hbare, if_neg hbare']
    cases Enclosure.paragraphKind enclosure with
    | none => exact ⟨t, rfl, rfl, rfl⟩
    | some kind =>
        obtain ⟨u, hplain, hcited, hlinks⟩ := t.exists_wrapped (a := [.styled "p" kind])
          (b := [.endTag "p"]) (by cases kind <;> rfl) rfl
        exact ⟨u, hplain.symm, hcited.symm, hlinks⟩

/-- What is made of a tree, without marks and with them, is a tree again. -/
theorem exists_around (w : Wrapping) (t : LinkTree) (uncited cited : Nat) :
    ∃ u : LinkTree, w.around (cfg.withCitations false) uncited t.plain = u.plain ∧
      w.around (cfg.withCitations true) cited t.cited = u.cited ∧
      u.links.Sublist (t.links ++ w.spans cited t) := by
  cases w with
  | paragraph enclosure =>
      obtain ⟨u, hplain, hcited, hlinks⟩ := exists_paragraph hstyles enclosure t
      exact ⟨u, hplain, hcited, by simp [hlinks, Wrapping.spans]⟩
  | heading level =>
      obtain ⟨u, hplain, hcited, hlinks⟩ :=
        t.exists_wrapped (a := [.styled level.name (.heading level)])
          (b := [.endTag level.name]) rfl rfl
      exact ⟨u, hplain.symm, hcited.symm, by simp [hlinks, Wrapping.spans]⟩
  | link l =>
      rw [around_link, around_link]
      cases hform : l.form with
      | anchor =>
          obtain ⟨u, hplain, hcited, hlinks⟩ := t.exists_wrapped
            (a := [.startTag "a"
              [.escaped "href" l.href, .escaped "title" (Legend.orElse l.title l.label),
                .themed .platformLink ""]]) (b := [.endTag "a"]) rfl rfl
          exact ⟨u, hplain.symm, hcited.symm, by simp [hlinks, Wrapping.spans, hform]⟩
      | plain => exact ⟨t, rfl, rfl, by simp [Wrapping.spans, hform]⟩
      | span =>
          refine ⟨.link (cited + 1) t .nil, ?_, ?_, ?_⟩
          · simp [LinkTree.plain, LinkTree.markup, RenderSettings.withCitations]
          · simp [LinkTree.cited, LinkTree.markup, RenderSettings.withCitations, citedMarkup]
          · simp [LinkTree.links, Wrapping.spans, hform]
  | dropped => exact ⟨.nil, rfl, rfl, List.nil_sublist _⟩

end Trees

end Effects

/-! ## Two renderings side by side -/

/-- The links in the trees of all outputs, in the order in which they end. -/
def keptLinks (t : LinkTree) (ts : List LinkTree) : List (Nat × LinkTree) :=
  ts.reverse.flatMap LinkTree.links ++ t.links

/-- A rendering without citations and one with them.  Their outputs are the same
trees, without marks and with them; of all the links that were written as spans,
`written` has the numbers that they are cited with, and the trees those that were
not lost. -/
structure Marked (written : List (Nat × LinkTree)) (t : LinkTree) (ts : List LinkTree)
    (s s' : RenderState) : Prop where
  plain : s.outputs = (t.plain, ts.map LinkTree.plain)
  cited : s'.outputs = (t.cited, ts.map LinkTree.cited)
  others : s.others = s'.others
  numbers : written.map Prod.fst = List.range' 1 s'.citations.length
  kept : (keptLinks t ts).Sublist written

namespace Marked

variable {cfg : RenderSettings} {written : List (Nat × LinkTree)} {t : LinkTree}
  {ts : List LinkTree} {s s' : RenderState}

theorem initial : Marked [] .nil [] .initial .initial where
  plain := rfl
  cited := rfl
  others := rfl
  numbers := rfl
  kept := List.Sublist.refl _

/-- What does not depend on outputs and citations is the same. -/
theorem eq_of_others (h : Marked written t ts s s') {α : Type} (f : RenderState → α)
    (hf : ∀ r : RenderState, f r.others = f r := by intros; rfl) : f s = f s' := by
  rw [← hf s, h.others, hf s']

theorem endCode (h : Marked written t ts s s') (c : PendingCode) (a : CodeAnswer) :
    Marked written (t ++ .ofMarkup (c.markup a) (linkless_code c a)) ts (s.endCode c a)
      (s'.endCode c a) where
  plain := by
    obtain ⟨houtput, hsaved⟩ := Prod.mk.inj h.plain
    simp [RenderState.endCode, RenderState.outputs, houtput, hsaved]
  cited := by
    obtain ⟨houtput, hsaved⟩ := Prod.mk.inj h.cited
    simp [RenderState.endCode, RenderState.outputs, houtput, hsaved]
  others := by
    have hothers := congrArg (RenderState.others ∘ RenderState.endCode c a) h.others
    exact hothers
  numbers := h.numbers
  kept := by simpa [keptLinks] using h.kept

variable (hstyles : ∀ d, cfg.styles.declarations? .footnote = some d → '<' ∉ d.toList)

include hstyles

/-- An effect on trees without marks is one on the same trees with them. -/
theorem exists_apply (effect : OutputEffect) (heffect : ∀ m, effect = .write m → m.linkless)
    (t : LinkTree) (ts : List LinkTree) (uncited cited : Nat) :
    ∃ (u : LinkTree) (us : List LinkTree),
      effect.apply (cfg.withCitations false) uncited (t.plain, ts.map LinkTree.plain) =
          (u.plain, us.map LinkTree.plain) ∧
        effect.apply (cfg.withCitations true) cited (t.cited, ts.map LinkTree.cited) =
          (u.cited, us.map LinkTree.cited) ∧
        (keptLinks u us).Sublist (keptLinks t ts ++ effect.spans cited t) := by
  cases effect with
  | write m =>
      have hm := heffect m rfl
      refine ⟨t ++ .ofMarkup m hm, ts, ?_, ?_, ?_⟩
      · simp
      · simp
      · simp [keptLinks, OutputEffect.spans]
  | capture => exact ⟨.nil, t :: ts, rfl, rfl, by simp [keptLinks, OutputEffect.spans,
      LinkTree.links]⟩
  | release w =>
      obtain ⟨u, hplain, hcited, hlinks⟩ := exists_around hstyles w t uncited cited
      cases ts with
      | nil =>
          exact ⟨u, [], by simp [hplain], by simp [hcited],
            by simpa [keptLinks, OutputEffect.spans] using hlinks⟩
      | cons o ts =>
          refine ⟨o ++ u, ts, ?_, ?_, ?_⟩
          · simp [hplain]
          · simp [hcited]
          · simpa [keptLinks, OutputEffect.spans] using hlinks

/-- What an event that calls no service does to two renderings. -/
theorem quietStep (h : Marked written t ts s s') (e : Event) :
    ∃ u us, Marked
      (written ++ (s'.effect (cfg.withCitations true) e).spans s'.citations.length t) u us
      (s.quietStep (cfg.withCitations false) e) (s'.quietStep (cfg.withCitations true) e) := by
  have heffect : s.effect (cfg.withCitations false) e = s'.effect (cfg.withCitations true) e :=
    RenderState.effect_eq_of_others _ _ rfl h.others e
  obtain ⟨hplain, -⟩ := s.quietStep_eq_effect (cfg.withCitations false) e
  obtain ⟨hcited, hcitations⟩ := s'.quietStep_eq_effect (cfg.withCitations true) e
  obtain ⟨u, us, hu, hu', hlinks⟩ := exists_apply hstyles (s'.effect (cfg.withCitations true) e)
    (fun m hm => linkless_effect hm) t ts s.citations.length s'.citations.length
  refine ⟨u, us, ?_, ?_, ?_, ?_, ?_⟩
  · rw [hplain, heffect, h.plain, hu]
  · rw [hcited, h.cited, hu']
  · exact RenderState.others_quietStep _ _ h.others e
  · rw [List.map_append, h.numbers, map_spans_eq cfg, hcitations, List.length_append,
      Nat.add_comm s'.citations.length 1, List.range'_append_1]
  · exact hlinks.trans (h.kept.append_right _)

end Marked

/-! ## Whole streams -/

section Streams

variable {σ : Type} (services : Services (StateM σ)) (cfg : RenderSettings) (h : σ)

open RenderState

/-- The state of the services after the first events of a stream. -/
def servicesAfter (es : List Event) : σ := ((initial.run services cfg es).run h).2

theorem reached_concat (es : List Event) {e : Event} (he : e ≠ .closing .code) :
    reached services cfg h (es ++ [e]) = (reached services cfg h es).quietStep cfg e ∧
      servicesAfter services cfg h (es ++ [e]) = servicesAfter services cfg h es := by
  have hrun : initial.run services cfg (es ++ [e]) =
      initial.run services cfg es >>= fun s => pure (s.quietStep cfg e) := by
    rw [run_append]
    refine congrArg (initial.run services cfg es >>= ·) (funext fun s => ?_)
    rw [run_cons, step_of_ne services cfg s he, pure_bind, run_nil]
  rw [reached, servicesAfter, hrun]
  exact ⟨rfl, rfl⟩

/-- What the services give for the code block that ends next, and their state after it. -/
def nextAnswer (es : List Event) : CodeAnswer × σ :=
  (services.answer (reached services cfg h es).endingCode (reached services cfg h es).diagrams).run
    (servicesAfter services cfg h es)

theorem reached_concat_code (es : List Event) :
    reached services cfg h (es ++ [.closing .code]) =
        (reached services cfg h es).endCode (reached services cfg h es).endingCode
          (nextAnswer services cfg h es).1 ∧
      servicesAfter services cfg h (es ++ [.closing .code]) = (nextAnswer services cfg h es).2 := by
  rw [reached, servicesAfter, run_append]
  exact ⟨rfl, rfl⟩

/-- The link that ends after some events is a span in both renderings, with the
label and with the number that it is cited with. -/
structure SpanEnds (before : List Event) (number : Nat) (label : LinkTree) : Prop where
  link : ∃ l, (reached services (cfg.withCitations false) h before).endingLink? = some l ∧
    l.form = .span
  number : (reached services (cfg.withCitations true) h before).citations.length + 1 = number
  plain : (reached services (cfg.withCitations false) h before).output = label.plain
  cited : (reached services (cfg.withCitations true) h before).output = label.cited

/-- Links with their numbers, each of which is written where a link ends in a stream. -/
def WrittenIn (events : List Event) (written : List (Nat × LinkTree)) : Prop :=
  ∀ link ∈ written, ∃ before after, events = before ++ .closing .link :: after ∧
    SpanEnds services cfg h before link.1 link.2

/-- After some events the two renderings have come to the same trees, without marks
and with them, and their services to the same state. -/
structure SideBySide (es : List Event) : Prop where
  trees : ∃ written t ts,
    Marked written t ts (reached services (cfg.withCitations false) h es)
        (reached services (cfg.withCitations true) h es) ∧
      WrittenIn services cfg h es written
  services_eq : servicesAfter services (cfg.withCitations false) h es =
    servicesAfter services (cfg.withCitations true) h es

variable {services cfg h} {es : List Event}

theorem WrittenIn.concat {written : List (Nat × LinkTree)}
    (hwritten : WrittenIn services cfg h es written) (e : Event) :
    WrittenIn services cfg h (es ++ [e]) written := by
  intro link hlink
  obtain ⟨before, after, rfl, hends⟩ := hwritten link hlink
  exact ⟨before, after ++ [e], by simp, hends⟩

/-- A code block is the same in both, and its answer too. -/
theorem SideBySide.concat_code (hes : SideBySide services cfg h es) :
    SideBySide services cfg h (es ++ [.closing .code]) := by
  obtain ⟨⟨written, t, ts, hmarked, hwritten⟩, hservices⟩ := hes
  obtain ⟨hplain, hplainServices⟩ := reached_concat_code services (cfg.withCitations false) h es
  obtain ⟨hcited, hcitedServices⟩ := reached_concat_code services (cfg.withCitations true) h es
  have hcode : (reached services (cfg.withCitations false) h es).endingCode =
      (reached services (cfg.withCitations true) h es).endingCode :=
    hmarked.eq_of_others RenderState.endingCode
  have hdiagrams : (reached services (cfg.withCitations false) h es).diagrams =
      (reached services (cfg.withCitations true) h es).diagrams :=
    hmarked.eq_of_others RenderState.diagrams
  have hanswer : nextAnswer services (cfg.withCitations false) h es =
      nextAnswer services (cfg.withCitations true) h es := by
    rw [nextAnswer, nextAnswer, hcode, hdiagrams, hservices]
  constructor
  · rw [hplain, hcited, hcode, hanswer]
    exact ⟨written, _, ts, hmarked.endCode _ _, hwritten.concat _⟩
  · rw [hplainServices, hcitedServices, hanswer]

variable (hstyles : ∀ d, cfg.styles.declarations? .footnote = some d → '<' ∉ d.toList)

include hstyles

/-- An event that calls no service keeps the trees the same, and a link that it
cites is one that ends with it. -/
theorem SideBySide.concat (hes : SideBySide services cfg h es) {e : Event}
    (he : e ≠ .closing .code) : SideBySide services cfg h (es ++ [e]) := by
  obtain ⟨⟨written, t, ts, hmarked, hwritten⟩, hservices⟩ := hes
  obtain ⟨hplain, hplainServices⟩ := reached_concat services (cfg.withCitations false) h es he
  obtain ⟨hcited, hcitedServices⟩ := reached_concat services (cfg.withCitations true) h es he
  obtain ⟨u, us, hnext⟩ := hmarked.quietStep hstyles e
  constructor
  · rw [hplain, hcited]
    refine ⟨_, u, us, hnext, ?_⟩
    intro link hlink
    obtain hlink | hlink := List.mem_append.mp hlink
    · exact hwritten.concat e link hlink
    · obtain ⟨rfl, ⟨l, hending, hform⟩, rfl⟩ := eq_of_mem_spans hlink
      have hending' : (reached services (cfg.withCitations false) h es).endingLink? = some l :=
        (hmarked.eq_of_others endingLink?).trans hending
      have hends : SpanEnds services cfg h es _ t :=
        ⟨⟨l, hending', hform⟩, rfl, congrArg Prod.fst hmarked.plain,
          congrArg Prod.fst hmarked.cited⟩
      exact ⟨es, [], rfl, hends⟩
  · rw [hplainServices, hcitedServices, hservices]

variable (services h) in
/-- **Two renderings of a stream stay side by side**, from its first event to its last. -/
theorem sideBySide (es : List Event) : SideBySide services cfg h es := by
  induction es using List.reverseRecOn with
  | nil => exact ⟨⟨[], .nil, [], .initial, fun link hlink => by simp at hlink⟩, rfl⟩
  | append_singleton es e ih =>
      by_cases he : e = .closing .code
      · rw [he]
        exact ih.concat_code
      · exact ih.concat hstyles he

end Streams

/-- Styles that color the marks of citations. -/
def coloredMarks : Styles where
  entry? kind := if kind = .footnote then some ((∅ : Properties).insert "color" "red") else none

/-- A link in a paragraph that is lost, because a link ends there that did not begin, and another
link after it. -/
def lostParagraph : List Event :=
  [.opening .paragraph, .opening (.link "u" ""), .text "a", .closing .link, .closing .link,
    .opening (.link "v" ""), .text "b", .closing .link]

end Broadsheet
