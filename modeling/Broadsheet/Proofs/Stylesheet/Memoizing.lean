import Mathlib.Data.List.Forall2
import Broadsheet.Converter
import Broadsheet.Proofs.Document.Coupling
import Broadsheet.Proofs.Document.Exporting

/-!
# Broadsheet.Proofs.Stylesheet.Memoizing

Style sheets over whole runs.  A run converts, previews, prefetches and looks up
in any order and for any names, with one store of style sheets.  Its fetcher has
an outcome for the first fetch of each name, for the second, and so on.

* `FetchOutcomes.fetchedBy`: a step fetches if it asks for its style sheet and no
  earlier step that did so had success;
* `FetchOutcomes.sheetAfter`: from the first success on, its text is the style
  sheet of that name; before there is none;
* `StylesheetStep.Embeds`: a page has the text in its head, and the empty one as
  long as there is none.

`run_memoized` says so of all runs, and that the steps for one name are the same
without those for other names in between.
-/

namespace Broadsheet

/-! ## Fetches -/

/-- What fetching gives: for each name the outcomes of the first fetch, of the
second, and so on. -/
abbrev FetchOutcomes := String → Nat → Except FetchError String

namespace FetchOutcomes

variable {σ : Type} (outcomes : FetchOutcomes)

/-- Fetches a style sheet.  The names that were fetched stand before the state of
the services. -/
def fetch (theme : String) : StateM (List String × σ) (Except FetchError String) :=
  fun s => (outcomes theme (s.1.count theme), (s.1 ++ [theme], s.2))

/-- The text of the first success among the first outcomes for a name. -/
def firstText (theme : String) (count : Nat) : Option String :=
  (List.range count).findSome? fun i => (outcomes theme i).toOption

theorem firstText_succ (theme : String) (count : Nat) :
    outcomes.firstText theme (count + 1) =
      (outcomes.firstText theme count).or (outcomes theme count).toOption := by
  rw [firstText, List.range_succ, List.findSome?_append]
  cases hcount : (outcomes theme count).toOption <;> simp [firstText, hcount]

end FetchOutcomes

/-- The services of a program that logs its fetches. -/
def Services.besideFetches {σ : Type} (services : Services (StateM σ)) :
    Services (StateM (List String × σ)) :=
  services.transform fun _ _ x s => ((x.run s.2).1, (s.1, (x.run s.2).2))

/-- Rendering fetches nothing. -/
theorem run_renderEvents_besideFetches {σ : Type} (services : Services (StateM σ))
    (cfg : RenderSettings) (events : List Event) (log : List String) (h : σ) :
    (renderEvents services.besideFetches cfg events).run (log, h) =
      (((renderEvents services cfg events).run h).1,
        (log, ((renderEvents services cfg events).run h).2)) := by
  have hcoupled := coupled_renderEvents_transform services
    (S := fun h s => s = (log, h)) (fun _ _ x s => ((x.run s.2).1, (s.1, (x.run s.2).2)))
    (by rintro ε message r x s _ rfl; exact ⟨rfl, rfl⟩) cfg events
  obtain ⟨hresult, hstate⟩ := hcoupled h (log, h) rfl
  exact Prod.ext hresult.symm hstate

/-! ## Steps -/

/-- A step of a run with one store of style sheets. -/
inductive StylesheetStep
  | convert (markdown : String) (options : RenderOptions)
  | preview (options : RenderOptions)
  | get (theme : String)
  | prefetch (theme : String)
  | contains (theme : String)

/-- What a step gives. -/
inductive StylesheetAnswer
  | page (result : Except ConvertError Conversion)
  | text (stylesheet : String)
  | isThere (b : Bool)

namespace StylesheetStep

/-- The name of the step's style sheet. -/
def theme : StylesheetStep → String
  | convert _ options | preview options => options.codeTheme
  | get theme | prefetch theme | contains theme => theme

/-- Whether a step asks for its style sheet.  A blank document is refused before. -/
def asks : StylesheetStep → Bool
  | convert markdown _ => !blankText markdown
  | preview _ | get _ | prefetch _ => true
  | contains _ => false

/-- Does a step with a store. -/
def run {m : Type → Type} [Monad m] (c : Converter m) (store : StylesheetStore) :
    StylesheetStep → m (StylesheetAnswer × StylesheetStore)
  | convert markdown options => do
      let (result, store) ← c.convert store markdown options
      return (.page result, store)
  | preview options => do
      let (result, store) ← c.preview store options
      return (.page result, store)
  | get theme => do
      let (text, store) ← store.getOrFetch c.fetchStylesheet theme
      return (.text text, store)
  | prefetch theme => do
      let (b, store) ← c.prefetch store theme
      return (.isThere b, store)
  | contains theme => return (.isThere (store.contains theme), store)

/-- Does one step after another. -/
def runAll {m : Type → Type} [Monad m] (c : Converter m) :
    StylesheetStore → List StylesheetStep → m (List StylesheetAnswer)
  | _, [] => return []
  | store, s :: steps => do
      let (answer, store) ← s.run c store
      return answer :: (← runAll c store steps)

end StylesheetStep

/-! ## What is expected -/

/-- The article of a rendered body, which no style sheet for code goes into. -/
def RenderOptions.article (o : RenderOptions) (r : Rendered) : String :=
  String.ofList (resolvePrimaryColor o.primaryColor.toList
    (assemble r.html r.footnotes o.styles o.macCodeBlocks).toList)

/-- The text of a page: a style sheet in its head, and an article. -/
def pageText (stylesheet article : String) : String :=
  pageOpening stylesheet ++ article ++ "</div></body></html>"

theorem page_eq (o : RenderOptions) (r : Rendered) (stylesheet : String) :
    o.page r.html r.footnotes stylesheet = pageText stylesheet (o.article r) :=
  exportPage_eq ..

/-- The page of a document with a given style sheet. -/
def convertWith {m : Type → Type} [Monad m] (services : Services m) (stylesheet markdown : String)
    (options : RenderOptions) : m (Except ConvertError Conversion) := do
  if blankText markdown then return .error .emptyInput
  let (attributes, body) := FrontMatter.splitText markdown
  let rendering ← renderEvents services options.renderSettings (Markdown.documentEvents body)
  return .ok ⟨pageText stylesheet (options.article rendering), attributes, rendering.warnings⟩

theorem blankText_previewDocument : blankText previewDocument = false := by
  have hline : blankText "---\n" = false := by decide
  have happend {a b : String} (ha : blankText a = false) : blankText (a ++ b) = false := by
    simp_all [blankText]
  unfold previewDocument
  repeat refine happend ?_
  exact hline

/-- What a step gives when its style sheet is there or not. -/
def StylesheetStep.answer {m : Type → Type} [Monad m] (services : Services m)
    (sheet : Option String) : StylesheetStep → m StylesheetAnswer
  | convert markdown options => .page <$> convertWith services (sheet.getD "") markdown options
  | preview options => .page <$> convertWith services (sheet.getD "") previewDocument options
  | get _ => return .text (sheet.getD "")
  | prefetch _ | contains _ => return .isThere sheet.isSome

/-- An answer is a page with the style sheet's text in its head. -/
def StylesheetAnswer.IsPageWith (stylesheet : String) (answer : StylesheetAnswer) : Prop :=
  ∃ c : Conversion, answer = .page (.ok c) ∧ ∃ article, c.html = pageText stylesheet article

/-- What the answer to a step has of the style sheet that the step finds or fetches: a page has
its text in the head, or the empty text if there is none.  A blank document has no page. -/
def StylesheetStep.Embeds (sheet : Option String) (answer : StylesheetAnswer) :
    StylesheetStep → Prop
  | convert markdown _ =>
      if blankText markdown then answer = .page (.error .emptyInput)
      else answer.IsPageWith (sheet.getD "")
  | preview _ => answer.IsPageWith (sheet.getD "")
  | get _ => answer = .text (sheet.getD "")
  | prefetch _ | contains _ => answer = .isThere sheet.isSome

/-- What holds of each answer, whatever the state, holds of a list of them. -/
theorem forall₂_mapM {σ α β : Type} {R : α → β → Prop} {f : α → StateM σ β}
    (hf : ∀ a k, R a ((f a).run k).1) : (as : List α) → (k : σ) →
    List.Forall₂ R as ((as.mapM f).run k).1
  | [], _ => .nil
  | a :: as, k => by
      have hrest := forall₂_mapM hf as ((f a).run k).2
      rw [List.mapM_cons]
      exact .cons (hf a k) hrest

section Embeds

variable {σ : Type} (services : Services (StateM σ)) (sheet : Option String)

theorem isPageWith_convertWith {markdown : String} (hmarkdown : blankText markdown = false)
    (options : RenderOptions) (k : σ) :
    ((StylesheetAnswer.page <$> convertWith services (sheet.getD "") markdown options).run k).1
      |>.IsPageWith (sheet.getD "") := by
  rw [convertWith, if_neg (by simp [hmarkdown])]
  obtain ⟨attributes, body⟩ := FrontMatter.splitText markdown
  let rendering := ((renderEvents services options.renderSettings
    (Markdown.documentEvents body)).run k).1
  exact ⟨⟨pageText (sheet.getD "") (options.article rendering), attributes, rendering.warnings⟩,
    rfl, _, rfl⟩

/-- What is expected of a step embeds its style sheet. -/
theorem embeds_answer (s : StylesheetStep) (k : σ) :
    s.Embeds sheet ((s.answer services sheet).run k).1 := by
  cases s with
  | convert markdown options =>
      rw [StylesheetStep.answer, StylesheetStep.Embeds]
      split
      · next hmarkdown =>
          rw [convertWith, if_pos hmarkdown]
          rfl
      · next hmarkdown =>
          exact isPageWith_convertWith services sheet (by simpa using hmarkdown) options k
  | preview options =>
      exact isPageWith_convertWith services sheet blankText_previewDocument options k
  | _ => rfl

end Embeds

/-- The number of steps that asked for a style sheet. -/
def attempts (steps : List StylesheetStep) (theme : String) : Nat :=
  steps.countP fun s => s.asks && s.theme == theme

namespace FetchOutcomes

variable (outcomes : FetchOutcomes)

/-- The style sheet of a name after some steps. -/
def sheetAfter (steps : List StylesheetStep) (theme : String) : Option String :=
  outcomes.firstText theme (attempts steps theme)

/-- What a step fetches after some steps. -/
def fetchedBy (earlier : List StylesheetStep) (s : StylesheetStep) : List String :=
  if s.asks && (outcomes.sheetAfter earlier s.theme).isNone then [s.theme] else []

/-- What steps fetch after some others. -/
def fetchedByAll (earlier : List StylesheetStep) : List StylesheetStep → List String
  | [] => []
  | s :: steps => outcomes.fetchedBy earlier s ++ fetchedByAll (earlier ++ [s]) steps

/-- Steps with the style sheets that they find or fetch after some others. -/
def withSheets (earlier : List StylesheetStep) :
    List StylesheetStep → List (StylesheetStep × Option String)
  | [] => []
  | s :: steps =>
    (s, outcomes.sheetAfter (earlier ++ [s]) s.theme) :: withSheets (earlier ++ [s]) steps

end FetchOutcomes

theorem attempts_concat (earlier : List StylesheetStep) (s : StylesheetStep) (theme : String) :
    attempts (earlier ++ [s]) theme =
      attempts earlier theme + if s.asks && s.theme == theme then 1 else 0 := by
  rw [attempts, attempts, List.countP_append, List.countP_singleton]

section SheetAfter

variable (outcomes : FetchOutcomes) (earlier : List StylesheetStep) {s : StylesheetStep}

/-- A step that asks may have the first success. -/
theorem sheetAfter_concat_self (hs : s.asks) :
    outcomes.sheetAfter (earlier ++ [s]) s.theme =
      (outcomes.sheetAfter earlier s.theme).or
        (outcomes s.theme (attempts earlier s.theme)).toOption := by
  simp [FetchOutcomes.sheetAfter, attempts_concat, hs, FetchOutcomes.firstText_succ]

/-- A step that does not ask, or asks for another name, changes nothing. -/
theorem attempts_concat_of_not {theme : String} (hs : s.asks = false ∨ s.theme ≠ theme) :
    attempts (earlier ++ [s]) theme = attempts earlier theme := by
  obtain hs | hs := hs <;> simp [attempts_concat, hs]

theorem sheetAfter_concat_of_not {theme : String} (hs : s.asks = false ∨ s.theme ≠ theme) :
    outcomes.sheetAfter (earlier ++ [s]) theme = outcomes.sheetAfter earlier theme := by
  rw [FetchOutcomes.sheetAfter, attempts_concat_of_not earlier hs, FetchOutcomes.sheetAfter]

end SheetAfter

/-! ## Runs -/

/-- After some steps, the store holds the texts of the first successes, and the
other names were fetched by every step that asked for them. -/
structure Memoized (outcomes : FetchOutcomes) (earlier : List StylesheetStep)
    (store : StylesheetStore) (log : List String) : Prop where
  kept (theme : String) : store[theme]? = outcomes.sheetAfter earlier theme
  logged (theme : String) : outcomes.sheetAfter earlier theme = none →
    log.count theme = attempts earlier theme

section Runs

variable {σ : Type} {outcomes : FetchOutcomes} {earlier : List StylesheetStep}
  {store : StylesheetStore} {log : List String} {s : StylesheetStep}

theorem id_bind {α β : Type} (x : Id α) (f : α → Id β) : x >>= f = f x := rfl

/-- What changes with a step is about the name that it asks for. -/
theorem Memoized.concat {store' : StylesheetStore} {log' : List String}
    (h : Memoized outcomes earlier store log)
    (hothers : ∀ theme, s.asks = false ∨ s.theme ≠ theme →
      store'[theme]? = store[theme]? ∧ log'.count theme = log.count theme)
    (hkept : s.asks → store'[s.theme]? = outcomes.sheetAfter (earlier ++ [s]) s.theme)
    (hlogged : s.asks → outcomes.sheetAfter (earlier ++ [s]) s.theme = none →
      log'.count s.theme = attempts (earlier ++ [s]) s.theme) :
    Memoized outcomes (earlier ++ [s]) store' log' := by
  refine ⟨fun theme => ?_, fun theme hnone => ?_⟩
  · by_cases hs : s.asks = false ∨ s.theme ≠ theme
    · rw [(hothers theme hs).1, sheetAfter_concat_of_not outcomes earlier hs, h.kept]
    · obtain ⟨hasks, rfl⟩ : s.asks = true ∧ s.theme = theme := by simpa using hs
      exact hkept hasks
  · by_cases hs : s.asks = false ∨ s.theme ≠ theme
    · rw [sheetAfter_concat_of_not outcomes earlier hs] at hnone
      rw [(hothers theme hs).2, attempts_concat_of_not earlier hs, h.logged theme hnone]
    · obtain ⟨hasks, rfl⟩ : s.asks = true ∧ s.theme = theme := by simpa using hs
      exact hlogged hasks hnone

theorem Memoized.contains_eq (h : Memoized outcomes earlier store log) (theme : String) :
    store.contains theme = (outcomes.sheetAfter earlier theme).isSome := by
  rw [← h.kept theme, Std.ExtTreeMap.contains_eq_isSome_getElem?]

/-- After the first success, a step that asks finds its text. -/
theorem run_getOrFetch_of_some (h : Memoized outcomes earlier store log) (hs : s.asks)
    {text : String} (hsheet : outcomes.sheetAfter earlier s.theme = some text) :
    Memoized outcomes (earlier ++ [s]) store log ∧
      outcomes.sheetAfter (earlier ++ [s]) s.theme = some text ∧
      ∀ k : σ, (store.getOrFetch outcomes.fetch s.theme).run (log, k) =
        ((text, store), (log, k)) := by
  have hkept : store[s.theme]? = some text := (h.kept s.theme).trans hsheet
  have hafter : outcomes.sheetAfter (earlier ++ [s]) s.theme = some text := by
    rw [sheetAfter_concat_self outcomes earlier hs, hsheet, Option.some_or]
  refine ⟨h.concat (fun _ _ => ⟨rfl, rfl⟩) (fun _ => hkept.trans hafter.symm) ?_, hafter,
    fun k => ?_⟩
  · simp [hafter]
  · rw [StylesheetStore.getOrFetch, hkept]
    rfl

/-- Before it, a step that asks fetches, and keeps a success. -/
theorem run_getOrFetch_of_none (h : Memoized outcomes earlier store log) (hs : s.asks)
    (hsheet : outcomes.sheetAfter earlier s.theme = none) :
    ∃ store', Memoized outcomes (earlier ++ [s]) store' (log ++ [s.theme]) ∧
      ∀ k : σ, (store.getOrFetch outcomes.fetch s.theme).run (log, k) =
        (((outcomes.sheetAfter (earlier ++ [s]) s.theme).getD "", store'),
          (log ++ [s.theme], k)) := by
  have hkept : store[s.theme]? = none := (h.kept s.theme).trans hsheet
  have hlogged := h.logged s.theme hsheet
  have hafter : outcomes.sheetAfter (earlier ++ [s]) s.theme =
      (outcomes s.theme (attempts earlier s.theme)).toOption := by
    rw [sheetAfter_concat_self outcomes earlier hs, hsheet, Option.none_or]
  have hcount : (log ++ [s.theme]).count s.theme = attempts (earlier ++ [s]) s.theme := by
    simp [attempts_concat, hs, hlogged]
  have hne {theme : String} (hothers : s.asks = false ∨ s.theme ≠ theme) : s.theme ≠ theme :=
    hothers.resolve_left (by simp [hs])
  have hother (theme : String) (hothers : s.asks = false ∨ s.theme ≠ theme) :
      (log ++ [s.theme]).count theme = log.count theme := by
    simp [hne hothers]
  have hfetch (k : σ) : (outcomes.fetch s.theme).run (log, k) =
      (outcomes s.theme (log.count s.theme), (log ++ [s.theme], k)) := rfl
  cases houtcome : outcomes s.theme (attempts earlier s.theme) with
  | error e =>
      rw [houtcome] at hafter
      refine ⟨store, h.concat (fun theme hothers => ⟨rfl, hother theme hothers⟩)
        (fun _ => hkept.trans hafter.symm) (fun _ _ => hcount), fun k => ?_⟩
      rw [StylesheetStore.getOrFetch, hkept, hafter]
      simp only [StateT.run_bind, hfetch, hlogged, houtcome]
      rfl
  | ok text =>
      rw [houtcome] at hafter
      refine ⟨store.insert s.theme text, h.concat (fun theme hothers => ⟨?_, hother theme hothers⟩)
        (fun _ => ?_) (fun _ _ => hcount), fun k => ?_⟩
      · rw [Std.ExtTreeMap.getElem?_insert, if_neg (by simpa using hne hothers)]
      · simp [hafter, Except.toOption]
      · rw [StylesheetStore.getOrFetch, hkept, hafter]
        simp only [StateT.run_bind, hfetch, hlogged, houtcome]
        rfl

/-- A step that asks gets the style sheet that there is then. -/
theorem run_getOrFetch (h : Memoized outcomes earlier store log) (hs : s.asks) :
    ∃ store', Memoized outcomes (earlier ++ [s]) store' (log ++ outcomes.fetchedBy earlier s) ∧
      ∀ k : σ, (store.getOrFetch outcomes.fetch s.theme).run (log, k) =
        (((outcomes.sheetAfter (earlier ++ [s]) s.theme).getD "", store'),
          (log ++ outcomes.fetchedBy earlier s, k)) := by
  cases hsheet : outcomes.sheetAfter earlier s.theme with
  | some text =>
      have hnothing : outcomes.fetchedBy earlier s = [] := by
        simp [FetchOutcomes.fetchedBy, hsheet]
      obtain ⟨hmemoized, hafter, hrun⟩ := run_getOrFetch_of_some (σ := σ) h hs hsheet
      rw [hnothing, List.append_nil, hafter]
      exact ⟨store, hmemoized, hrun⟩
  | none =>
      have hfetched : outcomes.fetchedBy earlier s = [s.theme] := by
        simp [FetchOutcomes.fetchedBy, hsheet, hs]
      rw [hfetched]
      exact run_getOrFetch_of_none h hs hsheet

variable (services : Services (StateM σ))

/-- The converter of a run. -/
def FetchOutcomes.converter (outcomes : FetchOutcomes) (services : Services (StateM σ)) :
    Converter (StateM (List String × σ)) :=
  ⟨services.besideFetches, outcomes.fetch⟩

/-- A conversion takes the style sheet that it gets. -/
theorem run_convert {store' : StylesheetStore} {log' : List String} {sheet : Option String}
    {markdown : String} {options : RenderOptions} (hmarkdown : blankText markdown = false)
    (hget : ∀ k : σ, (store.getOrFetch outcomes.fetch options.codeTheme).run (log, k) =
      ((sheet.getD "", store'), (log', k))) (k : σ) :
    ((outcomes.converter services).convert store markdown options).run (log, k) =
      ((((convertWith services (sheet.getD "") markdown options).run k).1, store'),
        (log', ((convertWith services (sheet.getD "") markdown options).run k).2)) := by
  rw [Converter.convert, convertWith, if_neg (by simp [hmarkdown]), if_neg (by simp [hmarkdown])]
  generalize FrontMatter.splitText markdown = parts
  generalize Markdown.documentEvents parts.2 = events
  simp only [StateT.run_bind, FetchOutcomes.converter, run_renderEvents_besideFetches, id_bind,
    hget, page_eq]
  rfl

/-- A step that converts a document takes the style sheet that it gets. -/
theorem run_page {store' : StylesheetStore} {log' : List String} {sheet : Option String}
    {markdown : String} {options : RenderOptions} (hmarkdown : blankText markdown = false)
    (hget : ∀ k : σ, (store.getOrFetch outcomes.fetch options.codeTheme).run (log, k) =
      ((sheet.getD "", store'), (log', k))) (k : σ) :
    ((StylesheetStep.convert markdown options).run (outcomes.converter services) store).run
        (log, k) =
      (((((StylesheetStep.convert markdown options).answer services sheet).run k).1, store'),
        (log', (((StylesheetStep.convert markdown options).answer services sheet).run k).2)) := by
  rw [StylesheetStep.run, StateT.run_bind, run_convert services hmarkdown hget k]
  rfl

/-- One step fetches what is expected and gives what is expected. -/
theorem run_step (h : Memoized outcomes earlier store log) (s : StylesheetStep) :
    ∃ store', Memoized outcomes (earlier ++ [s]) store' (log ++ outcomes.fetchedBy earlier s) ∧
      ∀ k : σ, (s.run (outcomes.converter services) store).run (log, k) =
        let answer := s.answer services (outcomes.sheetAfter (earlier ++ [s]) s.theme)
        (((answer.run k).1, store'), (log ++ outcomes.fetchedBy earlier s, (answer.run k).2)) := by
  cases hs : s.asks with
  | false =>
      have hnothing : outcomes.fetchedBy earlier s = [] := by simp [FetchOutcomes.fetchedBy, hs]
      have hafter : Memoized outcomes (earlier ++ [s]) store log :=
        h.concat (fun _ _ => ⟨rfl, rfl⟩) (by simp [hs]) (by simp [hs])
      rw [hnothing, List.append_nil]
      refine ⟨store, hafter, fun k => ?_⟩
      cases s with
      | convert markdown options =>
          have hblank : blankText markdown = true := by simpa [StylesheetStep.asks] using hs
          rw [StylesheetStep.run, StylesheetStep.answer, Converter.convert, convertWith,
            if_pos hblank, if_pos hblank]
          rfl
      | contains theme =>
          rw [StylesheetStep.run, StylesheetStep.answer, hafter.contains_eq]
          rfl
      | _ => simp [StylesheetStep.asks] at hs
  | true =>
      obtain ⟨store', hafter, hget⟩ := run_getOrFetch (σ := σ) h hs
      refine ⟨store', hafter, fun k => ?_⟩
      cases s with
      | convert markdown options =>
          have hmarkdown : blankText markdown = false := by simpa [StylesheetStep.asks] using hs
          exact run_page services hmarkdown hget k
      | preview options => exact run_page services blankText_previewDocument hget k
      | get theme =>
          rw [StylesheetStep.run, StateT.run_bind]
          exact congrArg (fun r => ((StylesheetAnswer.text r.1.1, r.1.2), r.2)) (hget k)
      | prefetch theme =>
          rw [StylesheetStep.answer, StylesheetStep.theme, ← hafter.contains_eq]
          exact congrArg
            (fun r => ((StylesheetAnswer.isThere (r.1.2.contains theme), r.1.2), r.2)) (hget k)
      | contains theme => simp [StylesheetStep.asks] at hs

/-- So does one step after another. -/
theorem run_runAll : (steps : List StylesheetStep) → (earlier : List StylesheetStep) →
    (store : StylesheetStore) → (log : List String) → Memoized outcomes earlier store log →
    (k : σ) →
    (StylesheetStep.runAll (outcomes.converter services) store steps).run (log, k) =
      let answers := (outcomes.withSheets earlier steps).mapM fun p => p.1.answer services p.2
      ((answers.run k).1, (log ++ outcomes.fetchedByAll earlier steps, (answers.run k).2))
  | [], earlier, store, log, _, k => by
      rw [FetchOutcomes.fetchedByAll, List.append_nil]
      rfl
  | s :: steps, earlier, store, log, h, k => by
      obtain ⟨store', hafter, hstep⟩ := run_step services h s
      have hrest := run_runAll steps _ store' _ hafter
        ((s.answer services (outcomes.sheetAfter (earlier ++ [s]) s.theme)).run k).2
      dsimp only at hstep hrest ⊢
      rw [StylesheetStep.runAll, StateT.run_bind, hstep, FetchOutcomes.withSheets, List.mapM_cons,
        FetchOutcomes.fetchedByAll, ← List.append_assoc]
      simp only [StateT.run_bind, id_bind, hrest]
      rfl

end Runs

/-! ## Names apart -/

section Apart

variable (outcomes : FetchOutcomes) (theme : String)

theorem sheetAfter_filter (earlier : List StylesheetStep) :
    outcomes.sheetAfter (earlier.filter (·.theme == theme)) theme =
      outcomes.sheetAfter earlier theme := by
  rw [FetchOutcomes.sheetAfter, FetchOutcomes.sheetAfter, attempts, attempts, List.countP_filter]
  simp

/-- The fetches for a name are those of the steps for it alone. -/
theorem fetchedByAll_filter : (steps earlier : List StylesheetStep) →
    (outcomes.fetchedByAll earlier steps).filter (· == theme) =
      outcomes.fetchedByAll (earlier.filter (·.theme == theme))
        (steps.filter (·.theme == theme))
  | [], _ => rfl
  | s :: steps, earlier => by
      have ih := fetchedByAll_filter steps (earlier ++ [s])
      rw [FetchOutcomes.fetchedByAll, List.filter_append, ih, List.filter_append]
      by_cases hs : s.theme = theme
      · subst hs
        have hfetched : outcomes.fetchedBy (earlier.filter (·.theme == s.theme)) s =
            outcomes.fetchedBy earlier s := by
          rw [FetchOutcomes.fetchedBy, sheetAfter_filter, FetchOutcomes.fetchedBy]
        have hsame : (outcomes.fetchedBy earlier s).filter (· == s.theme) =
            outcomes.fetchedBy earlier s := by
          rw [FetchOutcomes.fetchedBy]
          split <;> simp
        simp [FetchOutcomes.fetchedByAll, hfetched, hsame]
      · have hnothing : (outcomes.fetchedBy earlier s).filter (· == theme) = [] := by
          rw [FetchOutcomes.fetchedBy]
          split <;> simp [hs]
        simp [hs, hnothing]

/-- The style sheets for a name are those of the steps for it alone. -/
theorem withSheets_filter : (steps earlier : List StylesheetStep) →
    (outcomes.withSheets earlier steps).filter (·.1.theme == theme) =
      outcomes.withSheets (earlier.filter (·.theme == theme)) (steps.filter (·.theme == theme))
  | [], _ => rfl
  | s :: steps, earlier => by
      have ih := withSheets_filter steps (earlier ++ [s])
      rw [FetchOutcomes.withSheets]
      by_cases hs : s.theme = theme
      · subst hs
        have hsheet := sheetAfter_filter outcomes s.theme (earlier ++ [s])
        have hearlier : (earlier ++ [s]).filter (·.theme == s.theme) =
            earlier.filter (·.theme == s.theme) ++ [s] := by simp
        rw [hearlier] at ih hsheet
        simp [FetchOutcomes.withSheets, ih, hsheet]
      · have hearlier : (earlier ++ [s]).filter (·.theme == theme) =
            earlier.filter (·.theme == theme) := by simp [hs]
        rw [hearlier] at ih
        simp [hs, ih]

end Apart

/-- **A style sheet is fetched until it is there, and not again.**  A run fetches
for each step that asks for a name without a success before, and gives what the
steps give with the text of the first success, or without one: each page has that
text in its head, or the empty one.  The fetches and the style sheets for one name
are those of the steps for it alone. -/
theorem run_memoized {σ : Type} (services : Services (StateM σ)) (outcomes : FetchOutcomes)
    (steps : List StylesheetStep) (k : σ) :
    let answers := (outcomes.withSheets [] steps).mapM fun p => p.1.answer services p.2
    let r := (StylesheetStep.runAll (outcomes.converter services) ∅ steps).run ([], k)
    r = ((answers.run k).1, (outcomes.fetchedByAll [] steps, (answers.run k).2)) ∧
      List.Forall₂ (fun (p : StylesheetStep × Option String) answer => p.1.Embeds p.2 answer)
        (outcomes.withSheets [] steps) r.1 ∧
      ∀ theme,
        (outcomes.fetchedByAll [] steps).filter (· == theme) =
            outcomes.fetchedByAll [] (steps.filter (·.theme == theme)) ∧
          (outcomes.withSheets [] steps).filter (·.1.theme == theme) =
            outcomes.withSheets [] (steps.filter (·.theme == theme)) := by
  intro answers r
  have hstart : Memoized outcomes [] ∅ [] := ⟨fun theme => by simp; rfl, fun theme _ => rfl⟩
  have hrun : r = ((answers.run k).1, (outcomes.fetchedByAll [] steps, (answers.run k).2)) :=
    run_runAll services steps [] ∅ [] hstart k
  refine ⟨hrun, ?_, fun theme => ⟨?_, ?_⟩⟩
  · rw [hrun]
    exact forall₂_mapM (fun p k => embeds_answer services p.2 p.1 k) _ k
  · exact fetchedByAll_filter outcomes theme steps []
  · exact withSheets_filter outcomes theme steps []

/-- Of the style sheet `a` the first fetch fails, and the later ones find an empty text; that of
`b` is found at once. -/
def emptyOrFound : FetchOutcomes := fun theme i =>
  if theme = "b" then .ok "pre" else if i = 0 then .error ⟨theme, .status 503⟩ else .ok ""

/-- Options with a style sheet for code. -/
def codeOptions (codeTheme : String) : RenderOptions :=
  { RenderOptions.default with codeTheme := codeTheme }

/-- Steps for two style sheets in turn. -/
def interleavedSteps : List StylesheetStep :=
  [.convert " " (codeOptions "a"), .convert "Hi" (codeOptions "a"), .preview (codeOptions "b"),
    .preview (codeOptions "a"), .contains "a"]

/-- The blank document fetches nothing and has no page.  The first page has no style sheet yet, the
second one its own, and the third one an empty one, which is kept. -/
theorem interleavedSteps_memoized :
    ∃ c₁ c₂ c₃ : Conversion,
      (StylesheetStep.runAll (emptyOrFound.converter (Services.plain : Services (StateM Unit))) ∅
          interleavedSteps).run ([], ()) =
        ([.page (.error .emptyInput), .page (.ok c₁), .page (.ok c₂), .page (.ok c₃),
          .isThere true], (["a", "b", "a"], ())) ∧
      (∃ article, c₁.html = pageText "" article) ∧
      (∃ article, c₂.html = pageText "pre" article) ∧
      ∃ article, c₃.html = pageText "" article := by
  obtain ⟨hrun, hembeds, -⟩ := run_memoized (Services.plain : Services (StateM Unit)) emptyOrFound
    interleavedSteps ()
  generalize (StylesheetStep.runAll (emptyOrFound.converter
    (Services.plain : Services (StateM Unit))) ∅ interleavedSteps).run ([], ()) = r
    at hrun hembeds ⊢
  obtain ⟨answers, log, u⟩ := r
  obtain rfl : log = ["a", "b", "a"] := congrArg (fun r => r.2.1) hrun
  have hsheets : emptyOrFound.withSheets [] interleavedSteps =
      interleavedSteps.zip [none, none, some "pre", some "", some ""] := rfl
  rw [hsheets] at hembeds
  -- one case for each step, with what its answer embeds
  obtain _ | ⟨hblank, _ | ⟨hpage, _ | ⟨⟨c₂, rfl, h₂⟩, _ | ⟨⟨c₃, rfl, h₃⟩,
    _ | ⟨hthere, _ | _⟩⟩⟩⟩⟩ := hembeds
  simp only [StylesheetStep.Embeds] at hblank hpage
  rw [if_pos (by decide)] at hblank
  rw [if_neg (by decide)] at hpage
  obtain ⟨c₁, rfl, h₁⟩ := hpage
  obtain rfl := hblank
  obtain rfl : _ = StylesheetAnswer.isThere true := hthere
  exact ⟨c₁, c₂, c₃, rfl, h₁, h₂, h₃⟩

end Broadsheet
