import Broadsheet.Proofs.Document.Coupling

/-!
# Broadsheet.Proofs.Document.Faults

What the failures of services change in a rendering.  `Services.mended` returns
the escaped source where a service fails, and `Services.calls` lists the calls of
a rendering.  `faults_isolated` says, of every stream, balanced or not:

* the rendering with failures is written as the one with mended services, and
  asks for the same;
* its warnings are the errors of the failed calls;
* diagrams are numbered by the code blocks that ask for one, failed or not.

The two renderings are run side by side (`Isolated`).  Their states stay `Alike`:
they may hold other pieces of markup, but write the same.
-/

namespace Broadsheet

/-! ## Calls and failures -/

/-- A call of a service that was made, with the text of its error if it failed. -/
structure ServiceCall where
  request : ServiceRequest
  error : Option String
  deriving DecidableEq

/-- The text of an error, if a call failed. -/
def errorText {ε : Type} (message : ε → String) : Except ε String → Option String
  | .ok _ => none
  | .error e => some (message e)

/-- The id that a diagram is asked for with. -/
def ServiceRequest.diagramId? : ServiceRequest → Option String
  | highlight _ _ => none
  | diagram _ id => some id

/-- The escaped source in place of a failure. -/
def orEscaped {ε : Type} (source : String) : Except ε String → Except ε String
  | .ok text => .ok text
  | .error _ => .ok (escapeText source)

/-- Makes a call and logs it. -/
def logCall {σ ε : Type} (message : ε → String) (request : ServiceRequest)
    (x : StateM σ (Except ε String)) : StateM (σ × List ServiceCall) (Except ε String) :=
  fun s => ((x.run s.1).1, ((x.run s.1).2, s.2 ++ [⟨request, errorText message (x.run s.1).1⟩]))

namespace Services

variable {σ : Type} (services : Services (StateM σ))

/-- Logs every call. -/
def logged : Services (StateM (σ × List ServiceCall)) := services.transform logCall

/-- Returns the escaped source where a service fails. -/
def mended : Services (StateM σ) :=
  services.transform fun _ request x => orEscaped request.source <$> x

/-- The end of a rendering with its calls logged, the services having started in `h`. -/
def loggedRun (cfg : RenderSettings) (events : List Event) (h : σ) :
    RenderState × σ × List ServiceCall :=
  (RenderState.initial.run services.logged cfg events).run (h, [])

/-- The calls of a rendering. -/
def calls (cfg : RenderSettings) (events : List Event) (h : σ) : List ServiceCall :=
  (services.loggedRun cfg events h).2.2

/-- Logging is not seen in a rendering. -/
theorem rendered_eq_loggedRun (cfg : RenderSettings) (events : List Event) (h : σ) :
    ((renderEvents services cfg events).run h).1 =
      (services.loggedRun cfg events h).1.finish cfg := by
  have hcoupled := coupled_renderEvents_transform services
    (S := fun (h : σ) (s : σ × List ServiceCall) => s.1 = h) logCall
    (by rintro ε message r x _ s rfl; exact ⟨rfl, rfl⟩) cfg events
  exact (hcoupled h (h, []) rfl).1

end Services

/-! ## Markup that is written alike -/

section Written

variable {cfg : RenderSettings} {m m' : Markup} (hm : m.write cfg.styles = m'.write cfg.styles)

include hm

theorem write_paragraphMarkup (enclosure : Option Enclosure) :
    (paragraphMarkup cfg enclosure m).write cfg.styles =
      (paragraphMarkup cfg enclosure m').write cfg.styles := by
  simp only [paragraphMarkup, hm]
  split
  · exact hm
  · cases Enclosure.paragraphKind enclosure with
    | some kind => simp [hm]
    | none => exact hm

theorem write_headingMarkup (level : HeadingLevel) :
    (headingMarkup level m).write cfg.styles = (headingMarkup level m').write cfg.styles := by
  simp [headingMarkup, hm]

theorem write_linkMarkup (l : PendingLink) :
    (l.markup m).write cfg.styles = (l.markup m').write cfg.styles := by
  unfold PendingLink.markup
  split
  · simp [hm]
  · split
    · exact hm
    · simp [hm]

theorem write_citedMarkup (number : Nat) :
    (citedMarkup number m).write cfg.styles = (citedMarkup number m').write cfg.styles := by
  simp [citedMarkup, hm]

end Written

/-- A failure is written as the escaped source. -/
theorem write_orEscaped {ε : Type} (styles : Styles) (c : PendingCode) (message : ε → String)
    (outcome : Except ε String) :
    (c.markup (.ofOutcome message outcome)).write styles =
      (c.markup (.ofOutcome message (orEscaped c.source outcome))).write styles := by
  cases outcome with
  | ok text => rfl
  | error e =>
      -- a diagram's source is escaped when it is written, the source of other code before
      unfold PendingCode.markup
      split
      · rfl
      · rfl

/-! ## States that write the same -/

/-- Two states are the same but for markup that is written in the same way, and
for warnings. -/
structure RenderState.Alike (styles : Styles) (r r' : RenderState) : Prop where
  output : r.output.write styles = r'.output.write styles
  saved : r.saved.map (Markup.write styles) = r'.saved.map (Markup.write styles)
  others : r' = { r with output := r'.output, saved := r'.saved, warnings := r'.warnings }

namespace RenderState.Alike

variable {cfg : RenderSettings} {r r' : RenderState}

theorem emit {m m' : Markup} (h : Alike cfg.styles r r')
    (hm : m.write cfg.styles = m'.write cfg.styles) :
    Alike cfg.styles (r.emit m) (r'.emit m') := by
  refine ⟨?_, h.saved, ?_⟩
  · simp [RenderState.emit, h.output, hm]
  · rw [h.others]
    rfl

theorem beginCapture (h : Alike cfg.styles r r') :
    Alike cfg.styles r.beginCapture r'.beginCapture := by
  refine ⟨rfl, ?_, ?_⟩
  · simp [RenderState.beginCapture, h.output, h.saved]
  · rw [h.others]
    rfl

/-- What was captured is written in the same way too. -/
theorem endCapture (h : Alike cfg.styles r r') :
    r.endCapture.1.write cfg.styles = r'.endCapture.1.write cfg.styles ∧
      Alike cfg.styles r.endCapture.2 r'.endCapture.2 := by
  refine ⟨h.output, ?_, ?_, ?_⟩
  · have hhead := congrArg (List.headD · "") h.saved
    cases hr : r.saved <;> cases hr' : r'.saved <;> simp_all [RenderState.endCapture]
  · have htail := congrArg List.tail h.saved
    simpa [RenderState.endCapture] using htail
  · rw [h.others]
    rfl

/-- The rest of the state is changed in the same way, by what neither reads nor
writes markup. -/
theorem update (h : Alike cfg.styles r r') (f : RenderState → RenderState)
    (hf : ∀ (s : RenderState) (output : Markup) (saved : List Markup) (warnings : List String),
      f { s with output := output, saved := saved, warnings := warnings } =
        { f s with output := output, saved := saved, warnings := warnings } := by intros; rfl) :
    Alike cfg.styles (f r) (f r') := by
  have hr := hf r r.output r.saved r.warnings
  have hr' := hf r r'.output r'.saved r'.warnings
  rw [← h.others] at hr'
  refine ⟨?_, ?_, ?_⟩
  · rw [hr, hr']
    exact h.output
  · rw [hr, hr']
    exact h.saved
  · rw [hr']

theorem addToLabel (h : Alike cfg.styles r r') (text : String) :
    Alike cfg.styles (r.addToLabel text) (r'.addToLabel text) :=
  h.update (RenderState.addToLabel · text)

theorem links_eq (h : Alike cfg.styles r r') : r'.links = r.links := by rw [h.others]

theorem code_eq (h : Alike cfg.styles r r') : r'.code = r.code := by rw [h.others]

theorem image_eq (h : Alike cfg.styles r r') : r'.image = r.image := by rw [h.others]

theorem openTag (h : Alike cfg.styles r r') (t : Tag) :
    Alike cfg.styles (r.openTag t) (r'.openTag t) := by
  -- the mark of an item and the alignment of a cell come from what is the same in both
  have hemit : Alike cfg.styles (r.emit (t.markup r.lists.head? r.table))
      (r'.emit (t.markup r'.lists.head? r'.table)) := by
    refine h.emit ?_
    rw [h.others]
  cases t with
  | paragraph | heading level => exact h.beginCapture
  | quote alert =>
      exact hemit.update fun s => { s with enclosures := .quote alert :: s.enclosures }
  | list start => exact hemit.update fun s => { s with lists := .ofStart start :: s.lists }
  | item =>
      exact hemit.update fun s =>
        { s with
          enclosures := .item :: s.enclosures
          lists := s.lists.modifyHead ListNumbering.next }
  | table columns => exact hemit.update fun s => { s with table := ⟨columns, 0⟩ }
  | tableHead | tableRow =>
      exact hemit.update fun s => { s with table := { s.table with cell := 0 } }
  | tableCell | emphasis | strong | strikethrough | superscript | subscript => exact hemit
  | fencedCode info => exact h.update fun s => { s with code := some ⟨trimText info, ""⟩ }
  | indentedCode => exact h.update fun s => { s with code := some ⟨"", ""⟩ }
  | link href title =>
      cases himage : r.image with
      | some i => simpa [RenderState.openTag, h.image_eq, himage] using h
      | none =>
          simpa [RenderState.openTag, h.image_eq, himage] using
            (h.update fun s => { s with links := ⟨href, title, ""⟩ :: s.links }).beginCapture
  | image src title => exact h.update fun s => { s with image := some ⟨src, title, ""⟩ }
  | footnoteDefinition label | htmlBlock | metadata | definitionList | definitionTitle
  | definitionBody => exact h

theorem link {m m' : Markup} (h : Alike cfg.styles r r')
    (hm : m.write cfg.styles = m'.write cfg.styles) (l : PendingLink) :
    Alike cfg.styles (r.link cfg l m) (r'.link cfg l m') := by
  unfold RenderState.link
  cases l.citation? cfg with
  | some c =>
      have hcitations : r'.citations = r.citations := by rw [h.others]
      rw [hcitations]
      have hcited := h.update fun s =>
        { s with citations := (r.citations.add c.title c.link).2 }
      exact hcited.emit (write_citedMarkup hm _)
  | none => exact h.emit (write_linkMarkup hm l)

theorem closeTag (h : Alike cfg.styles r r') (t : TagEnd) :
    Alike cfg.styles (r.closeTag cfg t) (r'.closeTag cfg t) := by
  obtain ⟨hcontent, hended⟩ := h.endCapture
  cases t with
  | paragraph =>
      have henclosures : r'.endCapture.2.enclosures = r.endCapture.2.enclosures := by
        rw [hended.others]
      simp only [RenderState.closeTag, henclosures]
      exact hended.emit (write_paragraphMarkup hcontent _)
  | heading level => exact hended.emit (write_headingMarkup hcontent level)
  | link =>
      simp only [RenderState.closeTag, h.image_eq]
      split
      · exact h
      · rw [hended.links_eq]
        cases r.endCapture.2.links with
        | nil => exact hended
        | cons l ls =>
            exact (hended.update fun s => { s with links := ls }).link hcontent l
  | image =>
      simp only [RenderState.closeTag, h.image_eq]
      cases r.image with
      | none => exact h
      | some i =>
          exact ((h.update fun s => { s with image := none }).addToLabel i.alt).emit rfl
  | quote | item =>
      exact (h.emit rfl).update fun s => { s with enclosures := s.enclosures.tail }
  | list ordered => exact (h.emit rfl).update fun s => { s with lists := s.lists.tail }
  | tableCell =>
      exact (h.emit rfl).update fun s =>
        { s with table := { s.table with cell := s.table.cell + 1 } }
  | table | tableHead | tableRow | emphasis | strong | strikethrough | superscript | subscript =>
      exact h.emit rfl
  | code | footnoteDefinition | htmlBlock | metadata | definitionList | definitionTitle
  | definitionBody => exact h

theorem text (h : Alike cfg.styles r r') (t : String) :
    Alike cfg.styles (r.text t) (r'.text t) := by
  cases hcode : r.code with
  | some c =>
      simpa only [RenderState.text, h.code_eq, hcode] using
        h.update fun s => { s with code := some { c with source := c.source ++ t } }
  | none =>
      cases himage : r.image with
      | some i =>
          simpa only [RenderState.text, h.code_eq, hcode, h.image_eq, himage] using
            h.update fun s => { s with image := some { i with alt := i.alt ++ t } }
      | none =>
          simpa only [RenderState.text, h.code_eq, hcode, h.image_eq, himage] using
            (h.addToLabel t).emit (m := [.text t]) rfl

theorem quietStep (h : Alike cfg.styles r r') (e : Event) :
    Alike cfg.styles (r.quietStep cfg e) (r'.quietStep cfg e) := by
  cases e with
  | opening t => exact h.openTag t
  | closing t => exact h.closeTag t
  | text t => exact h.text t
  | code t =>
      unfold RenderState.quietStep RenderState.inlineCode
      rw [h.image_eq]
      cases himage : r.image with
      | some i => exact h.update fun s => { s with image := some { i with alt := i.alt ++ t } }
      | none => exact (h.addToLabel t).emit rfl
  | softBreak | hardBreak =>
      simp only [RenderState.quietStep, RenderState.lineBreak, h.image_eq]
      cases r.image with
      | some i => exact h.update fun s => { s with image := some { i with alt := i.alt ++ " " } }
      | none => exact h.emit rfl
  | html t | inlineHtml t | rule | taskMarker checked => exact h.emit rfl
  | footnoteReference label | inlineMath t | displayMath t => exact h

/-- Two answers that are written alike. -/
theorem endCode (h : Alike cfg.styles r r') {c : PendingCode} {a a' : CodeAnswer}
    (ha : (c.markup a).write cfg.styles = (c.markup a').write cfg.styles) :
    Alike cfg.styles (r.endCode c a) (r'.endCode c a') := by
  refine ⟨?_, h.saved, ?_⟩
  · simp [RenderState.endCode, h.output, ha]
  · rw [h.others]
    rfl

end RenderState.Alike

/-! ## Diagrams of a stream -/

/-- The info of the open code block after an event, from the info before it. -/
def Event.infoAfter (info : String) : Event → String
  | .opening t => t.codeInfo?.getD info
  | .closing .code => ""
  | _ => info

/-- The number of diagrams that end in a stream, with the info of the code block that is open at
its beginning. -/
def closedDiagrams : (info : String) → List Event → Nat
  | _, [] => 0
  | info, .closing .code :: es =>
    (if startsWithText "mermaid" info then 1 else 0) + closedDiagrams "" es
  | info, e :: es => closedDiagrams (e.infoAfter info) es

/-- The ids of the first diagrams, `mermaid-diagram-0`, `mermaid-diagram-1` and so on.  Without a
renderer none is asked for. -/
def Services.diagramIds {m : Type → Type} (services : Services m) (count : Nat) : List String :=
  if services.diagram?.isSome then
    (List.range count).map fun index => "mermaid-diagram-" ++ toString index
  else []

theorem Services.diagramIds_eq {m : Type → Type} (services : Services m) (count : Nat) :
    services.diagramIds count =
      if services.diagram?.isSome then (List.range count).map diagramId else [] := rfl

theorem diagramId_injective : Function.Injective diagramId := by
  intro a b h
  have hdigits : Nat.toDigits 10 a = Nat.toDigits 10 b := by
    simpa [diagramId] using congrArg String.toList h
  simpa [Nat.ofDigitChars_toDigits] using congrArg (Nat.ofDigitChars 10 · 0) hdigits

theorem Services.nodup_diagramIds {m : Type → Type} (services : Services m) (count : Nat) :
    (services.diagramIds count).Nodup := by
  rw [diagramIds_eq]
  split
  · exact List.Pairwise.map diagramId (fun _ _ => mt (diagramId_injective ·)) List.nodup_range
  · exact List.nodup_nil

namespace RenderState

/-- The info of the open code block; without one there is none. -/
def openInfo (s : RenderState) : String := (s.code.map PendingCode.info).getD ""

/-- The code block that ends at the next end of one. -/
def endingCode (s : RenderState) : PendingCode := (s.code.getD ⟨"", ""⟩).trimmed

theorem info_endingCode (s : RenderState) : s.endingCode.info = s.openInfo := by
  unfold endingCode openInfo
  cases s.code <;> rfl

/-- Events that call no service count no diagrams and warn of nothing. -/
theorem quietStep_counts (cfg : RenderSettings) (s : RenderState) {e : Event}
    (he : e ≠ .closing .code) :
    (s.quietStep cfg e).openInfo = e.infoAfter s.openInfo ∧
      (s.quietStep cfg e).diagrams = s.diagrams ∧ (s.quietStep cfg e).warnings = s.warnings := by
  rcases s with ⟨_, _, _, _, links, code, _, image, _, _, _⟩
  cases e with
  | opening t =>
      cases t with
      | link href title =>
          cases image <;>
            simp [quietStep, openTag, beginCapture, openInfo, Event.infoAfter, Tag.codeInfo?]
      | _ => simp [quietStep, openTag, emit, beginCapture, openInfo, Event.infoAfter, Tag.codeInfo?]
  | closing t =>
      cases t with
      | link =>
          cases image <;> cases links <;>
            simp [quietStep, closeTag, link, endCapture, openInfo, Event.infoAfter]
          split <;> simp [emit]
      | image =>
          cases image <;> simp [quietStep, closeTag, addToLabel, emit, openInfo, Event.infoAfter]
      | code => exact absurd rfl he
      | _ => simp [quietStep, closeTag, emit, endCapture, openInfo, Event.infoAfter]
  | text t =>
      cases code <;> cases image <;>
        simp [quietStep, text, addToLabel, emit, openInfo, Event.infoAfter]
  | code t =>
      cases image <;> simp [quietStep, inlineCode, addToLabel, emit, openInfo, Event.infoAfter]
  | softBreak | hardBreak =>
      cases image <;> simp [quietStep, lineBreak, emit, openInfo, Event.infoAfter]
  | _ => simp [quietStep, emit, openInfo, Event.infoAfter]

end RenderState

/-! ## One code block -/

section Calls

variable {ε : Type} (c : PendingCode) (n : Nat) (message : ε → String) (outcome : Except ε String)

@[simp] theorem source_request : (c.request n).source = c.source := by
  unfold PendingCode.request
  split <;> rfl

theorem diagramId?_request :
    (c.request n).diagramId? = if isDiagram c.info then some (diagramId n) else none := by
  unfold PendingCode.request
  split <;> rfl

/-- A code block that is asked for takes the next id if it is a diagram. -/
theorem Services.diagramIds_add {m : Type → Type} (services : Services m)
    (hasked : c.isAsked services) :
    services.diagramIds (n + c.diagrams) =
      services.diagramIds n ++ (c.request n).diagramId?.toList := by
  rw [diagramId?_request, PendingCode.diagrams]
  split
  · next hdiagram =>
      have hrender : services.diagram?.isSome := by
        simpa [PendingCode.isAsked, hdiagram] using hasked
      simp [diagramIds_eq, hrender, List.range_succ]
  · simp

theorem warnings_ofOutcome :
    (CodeAnswer.ofOutcome message outcome).warnings = (errorText message outcome).toList := by
  cases outcome <;> rfl

end Calls

section Blocks

variable {σ : Type} (services : Services (StateM σ)) {r r' : RenderState}

/-- A code block that is asked for, with the services and with mended ones. -/
theorem run_closeCode_of_isAsked (hcode : r'.endingCode = r.endingCode)
    (hdiagrams : r'.diagrams = r.diagrams) (hasked : r.endingCode.isAsked services) :
    ∃ (ε : Type) (message : ε → String) (x : StateM σ (Except ε String)),
      (∀ h log, (r.closeCode services.logged).run (h, log) =
        (r.endCode r.endingCode (.ofOutcome message (x.run h).1), (x.run h).2,
          log ++ [⟨r.endingCode.request r.diagrams, errorText message (x.run h).1⟩])) ∧
      ∀ h log, (r'.closeCode services.mended.logged).run (h, log) =
        (r'.endCode r.endingCode
            (.ofOutcome message (orEscaped r.endingCode.source (x.run h).1)), (x.run h).2,
          log ++ [⟨r.endingCode.request r.diagrams,
            errorText message (orEscaped r.endingCode.source (x.run h).1)⟩]) := by
  obtain ⟨ε, message, x, hcall⟩ := exists_call services r.diagrams hasked
  refine ⟨ε, message, x, fun h log => ?_, fun h log => ?_⟩
  · change ((r.endCode r.endingCode <$> services.logged.answer r.endingCode r.diagrams).run _) = _
    rw [Services.logged, hcall]
    rfl
  · change ((r'.endCode r'.endingCode <$>
      services.mended.logged.answer r'.endingCode r'.diagrams).run _) = _
    rw [hcode, hdiagrams, Services.mended, Services.logged, transform_transform, hcall,
      ← source_request r.endingCode r.diagrams]
    rfl

/-- A code block that is not asked for. -/
theorem run_closeCode_of_not_isAsked (hasked : r.endingCode.isAsked services = false) (s : σ) :
    (r.closeCode services).run s = (r.endCode r.endingCode .unasked, s) := by
  change ((r.endCode r.endingCode <$> services.answer r.endingCode r.diagrams).run _) = _
  rw [answer_of_not_isAsked services r.diagrams hasked]
  rfl

end Blocks

/-! ## Whole renderings -/

/-- What holds of a rendering and of the one with mended services while the given events are still
to come, `total` being the number of the diagrams of the whole stream. -/
structure Isolated {σ : Type} (services : Services (StateM σ)) (styles : Styles) (total : Nat)
    (events : List Event) (r : RenderState) (s : σ × List ServiceCall) (r' : RenderState)
    (s' : σ × List ServiceCall) : Prop where
  alike : r.Alike styles r'
  services_eq : s'.1 = s.1
  requests : s.2.map ServiceCall.request = s'.2.map ServiceCall.request
  warnings : r.warnings = s.2.filterMap ServiceCall.error
  ids : s.2.filterMap (·.request.diagramId?) = services.diagramIds r.diagrams
  diagrams : r.diagrams + closedDiagrams r.openInfo events = total

namespace Isolated

variable {σ : Type} {services : Services (StateM σ)} {cfg : RenderSettings} {total : Nat}
  {events : List Event} {r r' : RenderState} {s s' : σ × List ServiceCall}

theorem quietStep {e : Event} (he : e ≠ .closing .code)
    (h : Isolated services cfg.styles total (e :: events) r s r' s') :
    Isolated services cfg.styles total events (r.quietStep cfg e) s (r'.quietStep cfg e) s' := by
  obtain ⟨hinfo, hdiagrams, hwarnings⟩ := r.quietStep_counts cfg he
  exact
    { alike := h.alike.quietStep e
      services_eq := h.services_eq
      requests := h.requests
      warnings := hwarnings.trans h.warnings
      ids := by rw [hdiagrams, h.ids]
      diagrams := by simpa [hinfo, hdiagrams, closedDiagrams, he] using h.diagrams }

/-- The number of diagrams once the open code block has ended. -/
theorem diagrams_endCode (a : CodeAnswer)
    (h : Isolated services cfg.styles total (.closing .code :: events) r s r' s') :
    (r.endCode r.endingCode a).diagrams +
      closedDiagrams (r.endCode r.endingCode a).openInfo events = total := by
  rw [← h.diagrams, closedDiagrams, ← Nat.add_assoc, ← r.info_endingCode]
  rfl

theorem endCode_of_not_isAsked (hasked : r.endingCode.isAsked services = false)
    (h : Isolated services cfg.styles total (.closing .code :: events) r s r' s') :
    Isolated services cfg.styles total events (r.endCode r.endingCode .unasked) s
      (r'.endCode r.endingCode .unasked) s' where
  alike := h.alike.endCode rfl
  services_eq := h.services_eq
  requests := h.requests
  warnings := by simpa [RenderState.endCode, CodeAnswer.warnings] using h.warnings
  ids := by
    have hnone : isDiagram r.endingCode.info = true ∧ services.diagram? = none := by
      simpa [PendingCode.isAsked] using hasked
    simpa [Services.diagramIds, hnone.2] using h.ids
  diagrams := h.diagrams_endCode _

/-- The open code block ends with a call. -/
theorem endCode {ε : Type} (message : ε → String) (outcome : Except ε String) {h₁ : σ}
    (h₂ : σ) {log log' : List ServiceCall} (hasked : r.endingCode.isAsked services)
    (h : Isolated services cfg.styles total (.closing .code :: events) r (h₁, log) r'
      (h₁, log')) :
    Isolated services cfg.styles total events (r.endCode r.endingCode (.ofOutcome message outcome))
      (h₂, log ++ [⟨r.endingCode.request r.diagrams, errorText message outcome⟩])
      (r'.endCode r.endingCode (.ofOutcome message (orEscaped r.endingCode.source outcome)))
      (h₂, log' ++ [⟨r.endingCode.request r.diagrams,
        errorText message (orEscaped r.endingCode.source outcome)⟩]) where
  alike := h.alike.endCode (write_orEscaped ..)
  services_eq := rfl
  requests := by simpa using h.requests
  warnings := by
    rw [List.filterMap_append, ← h.warnings]
    exact congrArg (r.warnings ++ ·) (warnings_ofOutcome message outcome)
  ids := by
    rw [List.filterMap_append, h.ids]
    exact (services.diagramIds_add r.endingCode r.diagrams hasked).symm
  diagrams := h.diagrams_endCode _

/-- The end of a code block, with the services and with mended ones. -/
theorem closeCode (total : Nat) (events : List Event) (r r' : RenderState) :
    Coupled (fun s s' => Isolated services cfg.styles total (.closing .code :: events) r s r' s')
      (Isolated services cfg.styles total events) (r.closeCode services.logged)
      (r'.closeCode services.mended.logged) := by
  rintro ⟨h, log⟩ ⟨h', log'⟩ hisolated
  obtain rfl : h' = h := hisolated.services_eq
  have hcode : r'.endingCode = r.endingCode := by
    rw [RenderState.endingCode, hisolated.alike.code_eq, RenderState.endingCode]
  have hdiagrams : r'.diagrams = r.diagrams := by rw [hisolated.alike.others]
  cases hasked : r.endingCode.isAsked services with
  | true =>
      obtain ⟨ε, message, x, hfaulty, hmended⟩ :=
        run_closeCode_of_isAsked services hcode hdiagrams hasked
      rw [hfaulty, hmended]
      exact hisolated.endCode message _ _ hasked
  | false =>
      rw [run_closeCode_of_not_isAsked services.logged (by simpa [Services.logged] using hasked),
        run_closeCode_of_not_isAsked services.mended.logged
          (by simpa [Services.logged, Services.mended, hcode] using hasked), hcode]
      exact hisolated.endCode_of_not_isAsked hasked

/-- What one event preserves, a whole stream preserves. -/
theorem loggedRun (services : Services (StateM σ)) (cfg : RenderSettings) (events : List Event)
    (h : σ) :
    Isolated services cfg.styles (closedDiagrams "" events) []
      (services.loggedRun cfg events h).1 (services.loggedRun cfg events h).2
      (services.mended.loggedRun cfg events h).1 (services.mended.loggedRun cfg events h).2 := by
  refine coupled_run cfg (I := Isolated services cfg.styles (closedDiagrams "" events))
    (fun e es r s r' s' he => quietStep he) (closeCode _) events .initial .initial _ _ ?_
  exact
    { alike := ⟨rfl, rfl, rfl⟩
      services_eq := rfl
      requests := rfl
      warnings := rfl
      ids := by simp [Services.diagramIds, RenderState.initial]
      diagrams := Nat.zero_add _ }

end Isolated

/-- **A failure of a service is seen in the warnings only**, whatever the stream.
The warnings are the errors of the failed calls, and diagrams are numbered by the
code blocks that end. -/
theorem faults_isolated {σ : Type} (services : Services (StateM σ)) (cfg : RenderSettings)
    (events : List Event) (h : σ) :
    let rendered := ((renderEvents services cfg events).run h).1
    let mended := ((renderEvents services.mended cfg events).run h).1
    let calls := services.calls cfg events h
    rendered.html = mended.html ∧
      rendered.footnotes = mended.footnotes ∧
      calls.map ServiceCall.request =
        (services.mended.calls cfg events h).map ServiceCall.request ∧
      rendered.warnings = calls.filterMap ServiceCall.error ∧
      calls.filterMap (·.request.diagramId?) = services.diagramIds (closedDiagrams "" events) ∧
      (calls.filterMap (·.request.diagramId?)).Nodup := by
  intro rendered mended calls
  have hisolated := Isolated.loggedRun services cfg events h
  have hrendered : rendered = _ := services.rendered_eq_loggedRun cfg events h
  have hmended : mended = _ := services.mended.rendered_eq_loggedRun cfg events h
  have hcitations : (services.mended.loggedRun cfg events h).1.citations =
      (services.loggedRun cfg events h).1.citations := by rw [hisolated.alike.others]
  have hids : calls.filterMap (·.request.diagramId?) =
      services.diagramIds (closedDiagrams "" events) := by
    have htotal := hisolated.diagrams
    rw [closedDiagrams, Nat.add_zero] at htotal
    rw [← htotal]
    exact hisolated.ids
  refine ⟨?_, ?_, ?_, ?_, hids, ?_⟩
  · rw [hrendered, hmended]
    exact hisolated.alike.output
  · rw [hrendered, hmended, RenderState.finish, RenderState.finish, hcitations]
  · exact hisolated.requests
  · rw [hrendered]
    exact hisolated.warnings
  · rw [hids]
    exact services.nodup_diagramIds _

end Broadsheet
