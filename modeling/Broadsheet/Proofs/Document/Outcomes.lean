import Broadsheet.Proofs.Document.Drawing

/-!
# Broadsheet.Proofs.Document.Outcomes

What holds of a rendering whatever its services answer.  Services may keep a
state `σ` of their own, so one that fails now and then is among them.
`Always P x` says that the result of `x` satisfies `P` from every such state,
and `reached` is the state of a rendering after the first events of a stream.
For drawings there is one rule, `always_draw_element`, which proofs by induction
on the tree apply at every element.
-/

namespace Broadsheet

/-! ## Results from every state -/

/-- Whatever state the services start in, the result satisfies `P`. -/
def Always {σ α : Type} (P : α → Prop) (x : StateM σ α) : Prop := ∀ h, P (x.run h).1

namespace Always

variable {σ α β : Type} {P : α → Prop} {Q : β → Prop}

theorem pure {a : α} (ha : P a) : Always P (pure a : StateM σ α) := fun _ => ha

theorem bind {x : StateM σ α} {f : α → StateM σ β} (hx : Always P x)
    (hf : ∀ a, P a → Always Q (f a)) : Always Q (x >>= f) :=
  fun h => hf _ (hx h) (x.run h).2

theorem map {x : StateM σ α} {f : α → β} (hx : Always P x) (hf : ∀ a, P a → Q (f a)) :
    Always Q (f <$> x) :=
  fun h => hf _ (hx h)

theorem mono {x : StateM σ α} {R : α → Prop} (hx : Always P x) (h : ∀ a, P a → R a) :
    Always R x :=
  fun s => h _ (hx s)

/-- Something holds of every result, namely nothing. -/
theorem trivial (x : StateM σ α) : Always (fun _ => True) x := fun _ => True.intro

end Always

/-! ## Steps and runs -/

namespace RenderState

variable {σ : Type} (services : Services (StateM σ)) (cfg : RenderSettings)

/-- The end of a code block does the same for every answer but for the answer
itself. -/
theorem always_closeCode (s : RenderState) {P : RenderState → Prop}
    (hP : ∀ a, P (s.endCode (s.code.getD ⟨"", ""⟩).trimmed a)) : Always P (s.closeCode services) :=
  Always.bind (Always.trivial _) fun a _ => Always.pure (hP a)

/-- All other events call no service. -/
theorem step_of_ne {m : Type → Type} [Monad m] (services : Services m) (cfg : RenderSettings)
    (s : RenderState) {e : Event} (he : e ≠ .closing .code) :
    s.step services cfg e = Pure.pure (s.quietStep cfg e) := by
  unfold step
  split
  · contradiction
  · rfl

theorem always_step (s : RenderState) (e : Event) {P : RenderState → Prop}
    (hquiet : e ≠ .closing .code → P (s.quietStep cfg e))
    (hcode : e = .closing .code → ∀ c a, P (s.endCode c a)) : Always P (s.step services cfg e) := by
  by_cases he : e = .closing .code
  · subst he
    exact always_closeCode services s (hcode rfl _)
  · rw [step_of_ne services cfg s he]
    exact Always.pure (hquiet he)

/-- What each event preserves, a stream preserves. -/
theorem always_run {I : List Event → RenderState → Prop}
    (hquiet : ∀ e es s, e ≠ .closing .code → I (e :: es) s → I es (s.quietStep cfg e))
    (hcode : ∀ es s, I (.closing .code :: es) s → Always (I es) (s.closeCode services)) :
    (es : List Event) → {s : RenderState} → I es s → Always (I []) (s.run services cfg es)
  | [], _, h => Always.pure h
  | e :: es, s, h => by
      have hstep : Always (I es) (s.step services cfg e) := by
        by_cases he : e = .closing .code
        · subst he
          exact hcode es s h
        · rw [step_of_ne services cfg s he]
          exact Always.pure (hquiet e es s he h)
      rw [run_cons]
      exact hstep.bind fun _ => always_run hquiet hcode es

/-- The state of a rendering after the first events of a stream, its services
having started in `h`. -/
def reached (h : σ) (es : List Event) : RenderState :=
  ((initial.run services cfg es).run h).1

/-- What always holds after running further events holds of the state reached. -/
theorem reached_append {h : σ} {es fs : List Event} {P : RenderState → Prop}
    (hP : Always P ((reached services cfg h es).run services cfg fs)) :
    P (reached services cfg h (es ++ fs)) := by
  rw [reached, run_append]
  exact hP _

/-- Further events that ask no service lead to one state. -/
theorem reached_append_pure {h : σ} {es fs : List Event} {s : RenderState}
    (hrun : (reached services cfg h es).run services cfg fs = Pure.pure s) :
    reached services cfg h (es ++ fs) = s := by
  apply reached_append services cfg (P := (· = s))
  rw [hrun]
  exact Always.pure rfl

/-! ## States reached in a document -/

variable (h : σ) (before : List Event)

theorem reached_opening (t : Tag) :
    reached services cfg h (before ++ [.opening t]) = (reached services cfg h before).openTag t :=
  reached_append_pure services cfg rfl

/-- An event that stands alone adds its stroke. -/
theorem reached_leaf (l : Leaf) (hcode : (reached services cfg h before).code = none) :
    reached services cfg h (before ++ [l.event]) =
      (reached services cfg h before).add
        (l.stroke (reached services cfg h before).place.alt
          (reached services cfg h before).table) := by
  apply reached_append_pure
  rw [run_cons, step_leaf, quietStep_leaf cfg _ l hcode]
  rfl

/-- An element that is no code block adds what `Stroke.close` makes of what its
content added. -/
theorem reached_closing {t : Tag} {inner : Content} {k : Stroke} (ht : t.codeInfo? = none)
    (himage : t.isImage → (reached services cfg h before).image = none)
    (hinner : reached services cfg h (Element.opened ⟨before, t, inner⟩) =
      (reached services cfg h (before ++ [.opening t])).add k) :
    reached services cfg h (Element.closed ⟨before, t, inner⟩) =
      (reached services cfg h before).add
        (k.close cfg (reached services cfg h before).place t
          (reached services cfg h before).pen) := by
  apply reached_append_pure
  rw [run_cons, step_closing services cfg _ ht, hinner, reached_opening,
    closeTag_add_openTag cfg _ t k ht himage]
  rfl

/-- A code block adds its block, with what its service gave. -/
theorem reached_code {t : Tag} {inner : Content} {info : String} (ht : t.codeInfo? = some info)
    (htext : inner.isText) (hcode : (reached services cfg h before).code = none) :
    ∃ a, reached services cfg h (Element.closed ⟨before, t, inner⟩) =
      (reached services cfg h before).add
        (.ofCode (PendingCode.trimmed ⟨info, inner.source⟩) a
          (reached services cfg h before).table) := by
  have hclosed : Element.closed ⟨before, t, inner⟩ =
      before ++ (.opening t :: (inner.events ++ .closing t.toEnd :: [])) := by
    simp [Element.closed, Element.opened]
  have hadds : Always (fun s' => ∃ a, s' = (reached services cfg h before).add
      (.ofCode (PendingCode.trimmed ⟨info, inner.source⟩) a (reached services cfg h before).table))
      ((reached services cfg h before).run services cfg
        (.opening t :: (inner.events ++ .closing t.toEnd :: []))) := by
    rw [run_code services cfg _ [] ht htext hcode]
    exact Always.bind (Always.trivial _) fun a _ => Always.pure ⟨a, rfl⟩
  rw [hclosed]
  exact reached_append services cfg hadds

end RenderState

/-! ## Drawings -/

namespace Content

variable {σ : Type} (services : Services (StateM σ)) (cfg : RenderSettings)

/-- An element adds what holds of its own stroke and then what holds of the
rest. -/
theorem always_draw_element {P Q : Stroke → Prop} (place : Place) (t : Tag) (inner rest : Content)
    (pen : Pen) (helement : Always P (drawElement services cfg place t inner pen))
    (hrest : ∀ a, P a → Always Q (rest.draw services cfg place (pen.after a))) :
    Always (fun k => ∃ a b, P a ∧ Q b ∧ k = a ++ b)
      ((element t inner rest).draw services cfg place pen) := by
  rw [draw_element]
  refine Always.bind helement fun a ha => ?_
  refine Always.bind (hrest a ha) fun b hb => ?_
  exact Always.pure ⟨a, b, ha, hb, rfl⟩

/-- What holds of a leaf's stroke and then of the rest. -/
theorem always_draw_leaf {Q : Stroke → Prop} (place : Place) (l : Leaf) (rest : Content)
    (pen : Pen) (hrest : Always Q (rest.draw services cfg place pen)) :
    Always (fun k => ∃ b, Q b ∧ k = l.stroke place.alt pen.table ++ b)
      ((leaf l rest).draw services cfg place pen) := by
  rw [draw_leaf]
  exact Always.bind hrest fun b hb => Always.pure ⟨b, hb, rfl⟩

/-- An element is a code block or closes what its content drew. -/
theorem always_drawElement {P : Stroke → Prop} (place : Place) (t : Tag) (inner : Content)
    (pen : Pen)
    (hcode : ∀ info, t.codeInfo? = some info →
      Always (fun a => P (.ofCode (PendingCode.trimmed ⟨info, inner.source⟩) a pen.table))
        (services.answer (PendingCode.trimmed ⟨info, inner.source⟩) pen.diagrams))
    (hclose : t.codeInfo? = none →
      Always (fun k => P (k.close cfg place t pen))
        (inner.draw services cfg (place.inside t) (pen.inside t))) :
    Always P (drawElement services cfg place t inner pen) := by
  unfold drawElement
  split
  · next info ht => exact Always.map (hcode info ht) fun _ h => h
  · next ht => exact Always.map (hclose ht) fun _ h => h

end Content

end Broadsheet
