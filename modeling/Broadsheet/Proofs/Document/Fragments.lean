import Broadsheet.Proofs.Document.Faults

/-!
# Broadsheet.Proofs.Document.Fragments

A text may come as one event or in pieces, as the reader of the document happened
to find it.  A rendering does not show which: wherever the text goes, to a code
block, to an image, to the label of a link or to the output, the pieces are put
together again, and escaping one after the other writes what escaping both at
once does.

* `agrees_text`: two states after the same text, in one piece and in two, write
  the same;
* `Agrees.map_finish_run`: states that write the same go on to the same rendering
  and call the services alike, in any lawful monad;
* `rendered_fragments`: so streams that differ in this only are rendered alike.
-/

namespace Broadsheet

namespace RenderState

/-! ## States with one rendering -/

/-- Two states write the same and have warned of the same. -/
structure Agrees (styles : Styles) (r r' : RenderState) : Prop where
  alike : r.Alike styles r'
  warnings : r'.warnings = r.warnings

/-- A text in one piece and in two. -/
theorem agrees_text (styles : Styles) (s : RenderState) (a b : String) :
    Agrees styles (s.text (a ++ b)) ((s.text a).text b) := by
  rcases s with ⟨output, saved, enclosures, lists, links, code, table, image, citations, _, _⟩
  cases code with
  | some c => exact ⟨⟨rfl, rfl, by simp [text, String.append_assoc]⟩, rfl⟩
  | none =>
      cases image with
      | some i => exact ⟨⟨rfl, rfl, by simp [text, String.append_assoc]⟩, rfl⟩
      | none =>
          -- the label has the same text, the output another piece of markup
          refine ⟨⟨?_, rfl, ?_⟩, rfl⟩
          · simp [text, addToLabel, emit, Piece.write, escapeText_append]
          · cases links <;> simp [text, addToLabel, emit, String.append_assoc]

namespace Agrees

variable {cfg : RenderSettings} {r r' : RenderState}

theorem quietStep {e : Event} (he : e ≠ .closing .code) (h : Agrees cfg.styles r r') :
    Agrees cfg.styles (r.quietStep cfg e) (r'.quietStep cfg e) := by
  obtain ⟨-, -, hwarnings⟩ := r.quietStep_counts cfg he
  obtain ⟨-, -, hwarnings'⟩ := r'.quietStep_counts cfg he
  exact ⟨h.alike.quietStep e, by rw [hwarnings, hwarnings', h.warnings]⟩

theorem endCode (h : Agrees cfg.styles r r') (c : PendingCode) (a : CodeAnswer) :
    Agrees cfg.styles (r.endCode c a) (r'.endCode c a) :=
  ⟨h.alike.endCode rfl, congrArg (· ++ a.warnings) h.warnings⟩

theorem finish_eq (h : Agrees cfg.styles r r') : r.finish cfg = r'.finish cfg := by
  have hcitations : r'.citations = r.citations := by rw [h.alike.others]
  rw [finish, finish, h.alike.output, h.warnings, hcitations]

section Runs

variable {m : Type → Type} [Monad m] (services : Services m)

/-- States that agree have the same code block open, and ask the same for it. -/
theorem closeCode_eq (h : Agrees cfg.styles r r') :
    r'.closeCode services = (do
      let c := (r.code.getD ⟨"", ""⟩).trimmed
      return r'.endCode c (← services.answer c r.diagrams)) := by
  have hdiagrams : r'.diagrams = r.diagrams := by rw [h.alike.others]
  rw [closeCode, h.alike.code_eq, hdiagrams]

/-- **States that agree go on to the same rendering**, with the same calls of the services. -/
theorem map_finish_run [LawfulMonad m] : (events : List Event) → {r r' : RenderState} →
    Agrees cfg.styles r r' →
      finish cfg <$> r.run services cfg events = finish cfg <$> r'.run services cfg events
  | [], _, _, h => by rw [run_nil, run_nil, map_pure, map_pure, h.finish_eq]
  | e :: events, r, r', h => by
      rw [run_cons, run_cons, map_bind, map_bind]
      by_cases he : e = .closing .code
      · subst he
        change r.closeCode services >>= _ = r'.closeCode services >>= _
        rw [h.closeCode_eq services, closeCode, bind_assoc, bind_assoc]
        refine congrArg (services.answer _ _ >>= ·) (funext fun a => ?_)
        rw [pure_bind, pure_bind, map_finish_run events (h.endCode _ a)]
      · rw [step_of_ne services cfg r he, step_of_ne services cfg r' he, pure_bind, pure_bind]
        exact map_finish_run events (h.quietStep he)

end Runs

end Agrees

end RenderState

/-! ## Whole streams -/

section Streams

variable {m : Type → Type} [Monad m] [LawfulMonad m] (services : Services m) (cfg : RenderSettings)
  (before after : List Event) (a b : String)

/-- In every lawful monad, a text in two pieces is rendered as the one text. -/
theorem renderEvents_text_append :
    renderEvents services cfg (before ++ .text (a ++ b) :: after) =
      renderEvents services cfg (before ++ .text a :: .text b :: after) := by
  have hmap (events : List Event) : renderEvents services cfg events =
      RenderState.finish cfg <$> RenderState.initial.run services cfg events := by
    rw [renderEvents, bind_pure_comp]
  rw [hmap, hmap, RenderState.run_append, RenderState.run_append, map_bind, map_bind]
  refine congrArg (RenderState.initial.run services cfg before >>= ·) (funext fun s => ?_)
  have htext (s : RenderState) (t : String) (events : List Event) :
      s.run services cfg (.text t :: events) = (s.text t).run services cfg events := by
    rw [RenderState.run_cons]
    exact pure_bind _ _
  rw [htext, htext, htext]
  exact (RenderState.agrees_text cfg.styles s a b).map_finish_run services after

end Streams

/-- **Rendering does not depend on how a text comes in pieces**: in every stream, balanced or not,
and at every place in it, a text and the same text as two events, either of which may be empty,
give the same rendering, with the same calls of the services in the same order. -/
theorem rendered_fragments {σ : Type} (services : Services (StateM σ)) (cfg : RenderSettings)
    (before after : List Event) (a b : String) :
    renderEvents services cfg (before ++ .text (a ++ b) :: after) =
        renderEvents services cfg (before ++ .text a :: .text b :: after) ∧
      ∀ h : σ, services.calls cfg (before ++ .text (a ++ b) :: after) h =
        services.calls cfg (before ++ .text a :: .text b :: after) h := by
  refine ⟨renderEvents_text_append services cfg before after a b, fun h => ?_⟩
  have hcalls (events : List Event) : services.calls cfg events h =
      ((renderEvents services.logged cfg events).run (h, [])).2.2 := rfl
  rw [hcalls, hcalls, renderEvents_text_append services.logged cfg before after a b]

end Broadsheet
