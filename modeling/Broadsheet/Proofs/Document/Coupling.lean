import Broadsheet.Proofs.Document.Outcomes

/-!
# Broadsheet.Proofs.Document.Coupling

Two renderings of one stream side by side, by services that differ and that keep
states of their own.  `Coupled S P x y` says what holds of the results and the
states of `x` and `y` when both start in states that `S` relates.

* `coupled_run`: what one event preserves, whole streams preserve.  It may speak
  of the events that are still to come.
* `exists_call`: a code block is one call of a service or none, whatever is done
  to the calls (`Services.transform`).
* `coupled_renderEvents_transform`: what is done to the calls is not seen in the
  rendering, if it is not seen in what they return.
-/

namespace Broadsheet

/-! ## Pairs of programs -/

/-- From states that `S` relates, the results and the states of two programs are
related by `P`. -/
def Coupled {σ τ α β : Type} (S : σ → τ → Prop) (P : α → σ → β → τ → Prop) (x : StateM σ α)
    (y : StateM τ β) : Prop :=
  ∀ s t, S s t → P (x.run s).1 (x.run s).2 (y.run t).1 (y.run t).2

/-- The results are the same, and the states are related as before. -/
def Agreeing {σ τ α : Type} (S : σ → τ → Prop) (a : α) (s : σ) (b : α) (t : τ) : Prop :=
  a = b ∧ S s t

namespace Coupled

variable {σ τ α β γ δ : Type} {S : σ → τ → Prop} {P : α → σ → β → τ → Prop}
  {Q : γ → σ → δ → τ → Prop} {x : StateM σ α} {y : StateM τ β}

theorem pure {a : α} {b : β} (h : ∀ s t, S s t → P a s b t) :
    Coupled S P (pure a) (pure b) := h

theorem bind {f : α → StateM σ γ} {g : β → StateM τ δ} (hx : Coupled S P x y)
    (hf : ∀ a b, Coupled (fun s t => P a s b t) Q (f a) (g b)) :
    Coupled S Q (x >>= f) (y >>= g) :=
  fun s t h => hf _ _ _ _ (hx s t h)

theorem map {f : α → γ} {g : β → δ} (hx : Coupled S P x y)
    (hf : ∀ a s b t, P a s b t → Q (f a) s (g b) t) : Coupled S Q (f <$> x) (g <$> y) :=
  fun s t h => hf _ _ _ _ (hx s t h)

/-- The same is done with the same results. -/
theorem bind_agreeing {x : StateM σ α} {y : StateM τ α} {f : α → StateM σ γ} {g : α → StateM τ δ}
    (hx : Coupled S (Agreeing S) x y) (hf : ∀ a, Coupled S Q (f a) (g a)) :
    Coupled S Q (x >>= f) (y >>= g) := by
  refine hx.bind fun a b s t h => ?_
  obtain ⟨rfl, h⟩ := h
  exact hf a s t h

theorem map_agreeing {x : StateM σ α} {y : StateM τ α} (f : α → γ)
    (hx : Coupled S (Agreeing S) x y) : Coupled S (Agreeing S) (f <$> x) (f <$> y) :=
  hx.map fun _ _ _ _ h => ⟨congrArg f h.1, h.2⟩

end Coupled

/-! ## Runs -/

section Runs

variable {σ τ : Type} {services : Services (StateM σ)} {services' : Services (StateM τ)}
  (cfg : RenderSettings)

/-- What each event preserves, a stream preserves. -/
theorem coupled_run {I : List Event → RenderState → σ → RenderState → τ → Prop}
    (hquiet : ∀ e es r s r' t, e ≠ .closing .code → I (e :: es) r s r' t →
      I es (r.quietStep cfg e) s (r'.quietStep cfg e) t)
    (hcode : ∀ es r r', Coupled (fun s t => I (.closing .code :: es) r s r' t) (I es)
      (r.closeCode services) (r'.closeCode services')) :
    (events : List Event) → (r r' : RenderState) →
      Coupled (fun s t => I events r s r' t) (I []) (r.run services cfg events)
        (r'.run services' cfg events)
  | [], _, _ => .pure fun _ _ h => h
  | e :: es, r, r' => by
      have hstep : Coupled (fun s t => I (e :: es) r s r' t) (I es) (r.step services cfg e)
          (r'.step services' cfg e) := by
        by_cases he : e = .closing .code
        · subst he
          exact hcode es r r'
        · rw [RenderState.step_of_ne _ _ _ he, RenderState.step_of_ne _ _ _ he]
          exact .pure fun s t h => hquiet e es r s r' t he h
      rw [RenderState.run_cons, RenderState.run_cons]
      exact hstep.bind fun a b => coupled_run hquiet hcode es a b

end Runs

/-! ## Calls -/

/-- What a service is asked for. -/
inductive ServiceRequest
  | highlight (code language : String)
  | diagram (source id : String)
  deriving DecidableEq

/-- The text that is to be highlighted or drawn. -/
def ServiceRequest.source : ServiceRequest → String
  | highlight code _ => code
  | diagram source _ => source

/-- What a code block is asked for, after some diagrams. -/
def PendingCode.request (c : PendingCode) (diagrams : Nat) : ServiceRequest :=
  if isDiagram c.info then .diagram c.source (diagramId diagrams)
  else .highlight c.source (languageToken c.info)

/-- Whether a service is asked for a code block. -/
def PendingCode.isAsked {m : Type → Type} (c : PendingCode) (services : Services m) : Bool :=
  !isDiagram c.info || services.diagram?.isSome

/-- Something that is done to calls, whatever their errors are. -/
abbrev CallTransform (m n : Type → Type) :=
  {ε : Type} → (message : ε → String) → ServiceRequest → m (Except ε String) →
    n (Except ε String)

/-- Does something to every call. -/
def Services.transform {m n : Type → Type} (f : CallTransform m n) (services : Services m) :
    Services n where
  highlight code language :=
    f HighlightError.message (.highlight code language) (services.highlight code language)
  diagram? := services.diagram?.map fun render source id =>
    f DiagramError.message (.diagram source id) (render source id)

/-- What a call gives for a code block. -/
def CodeAnswer.ofOutcome {ε : Type} (message : ε → String) : Except ε String → CodeAnswer
  | .ok text => .html text
  | .error e => .failed (message e)

section Calls

variable {m n : Type → Type} (services : Services m) {c : PendingCode}

@[simp] theorem isAsked_transform (f : CallTransform m n) (c : PendingCode) :
    c.isAsked (services.transform f) = c.isAsked services := by
  simp [PendingCode.isAsked, Services.transform]

theorem transform_id : services.transform (fun _ _ x => x) = services := by
  obtain ⟨highlight, diagram⟩ := services
  cases diagram <;> rfl

theorem transform_transform {k : Type → Type} (f : CallTransform m n) (g : CallTransform n k) :
    (services.transform f).transform g =
      services.transform fun message request x => g message request (f message request x) := by
  obtain ⟨highlight, diagram⟩ := services
  cases diagram <;> rfl

theorem answer_of_not_isAsked [Monad m] (diagrams : Nat) (hc : c.isAsked services = false) :
    services.answer c diagrams = pure .unasked := by
  obtain ⟨hdiagram, hrender⟩ : isDiagram c.info = true ∧ services.diagram? = none := by
    simpa [PendingCode.isAsked] using hc
  rw [Services.answer, if_pos hdiagram, hrender]

/-- A code block that is asked for is one call, whatever is done to calls. -/
theorem exists_call (diagrams : Nat) (hc : c.isAsked services) :
    ∃ (ε : Type) (message : ε → String) (x : m (Except ε String)),
      ∀ {n : Type → Type} [Monad n] [LawfulMonad n] (f : CallTransform m n),
        (services.transform f).answer c diagrams =
          CodeAnswer.ofOutcome message <$> f message (c.request diagrams) x := by
  by_cases hdiagram : isDiagram c.info
  · obtain ⟨render, hrender⟩ : ∃ render, services.diagram? = some render := by
      simpa [PendingCode.isAsked, hdiagram, Option.isSome_iff_exists] using hc
    refine ⟨_, DiagramError.message, render c.source (diagramId diagrams), fun f => ?_⟩
    rw [Services.answer, if_pos hdiagram, PendingCode.request, if_pos hdiagram, ← bind_pure_comp]
    simp only [Services.transform, hrender, Option.map_some]
    refine congrArg (f _ _ _ >>= ·) (funext fun r => ?_)
    cases r <;> rfl
  · refine ⟨_, HighlightError.message, services.highlight c.source (languageToken c.info),
      fun f => ?_⟩
    rw [Services.answer, if_neg hdiagram, PendingCode.request, if_neg hdiagram, ← bind_pure_comp]
    refine congrArg (f _ _ _ >>= ·) (funext fun r => ?_)
    cases r <;> rfl

end Calls

section Transforms

variable {σ τ : Type} {S : σ → τ → Prop} (services : Services (StateM σ))

/-- What is done to calls is not seen in a rendering, if it is not seen in what the
calls return. -/
theorem coupled_renderEvents_transform (f : CallTransform (StateM σ) (StateM τ))
    (hf : ∀ {ε : Type} (message : ε → String) (r : ServiceRequest) (x : StateM σ (Except ε String)),
      Coupled S (Agreeing S) x (f message r x))
    (cfg : RenderSettings) (events : List Event) :
    Coupled S (Agreeing S) (renderEvents services cfg events)
      (renderEvents (services.transform f) cfg events) := by
  have hanswer (c : PendingCode) (diagrams : Nat) :
      Coupled S (Agreeing S) (services.answer c diagrams)
        ((services.transform f).answer c diagrams) := by
    cases hc : c.isAsked services with
    | false =>
        rw [answer_of_not_isAsked services diagrams hc,
          answer_of_not_isAsked (services.transform f) diagrams (by simpa using hc)]
        exact .pure fun _ _ h => ⟨rfl, h⟩
    | true =>
        obtain ⟨ε, message, x, hcall⟩ := exists_call services diagrams hc
        have hplain := hcall (n := StateM σ) fun _ _ x => x
        rw [transform_id] at hplain
        rw [hplain, hcall f]
        exact (hf message _ x).map_agreeing _
  have hclose (r r' : RenderState) :
      Coupled (fun s t => Agreeing S r s r' t) (Agreeing S) (r.closeCode services)
        (r'.closeCode (services.transform f)) := by
    rintro s t ⟨rfl, h⟩
    exact (hanswer _ _).bind_agreeing (fun a => .pure fun _ _ h => ⟨rfl, h⟩) s t h
  have hrun : Coupled S (Agreeing S) (RenderState.initial.run services cfg events)
      (RenderState.initial.run (services.transform f) cfg events) := fun s t h =>
    coupled_run cfg (I := fun _ => Agreeing S)
      (fun e es r s r' t _ h => ⟨congrArg (RenderState.quietStep cfg · e) h.1, h.2⟩)
      (fun _ => hclose) events .initial .initial s t ⟨rfl, h⟩
  exact hrun.bind_agreeing fun r => .pure fun _ _ h => ⟨rfl, h⟩

end Transforms

end Broadsheet
