import Broadsheet.Proofs.Diagram.RootId
import Broadsheet.Proofs.Diagram.Storing

/-!
# Broadsheet.Proofs.Diagram.Failing

Renderings that fail.  An answer is checked for an SVG element, cleaned, kept, and
then given its id, which is where the element is looked for again.

* `Kroki.ends_render_iff` — what a rendering can do, and all that it can do;
* `Kroki.survives` — whether the element of an answer is still there after the
  cleaning, as it is if the answer has no import before it (`survives_of_before`);
* `render_failed_iff` — a rendering that fails leaves nothing behind, and what a
  rendering leaves behind can be used, exactly for answers of this kind.
-/

namespace Broadsheet

/-! ## Cleaning -/

namespace Svg

/-- An import begins with an at sign. -/
theorem dropFontImports_append {b : List Char} : (a : List Char) → '@' ∉ a →
    dropFontImports (a ++ b) = a ++ dropFontImports b
  | [], _ => rfl
  | c :: a, h => by
      obtain ⟨hc, ha⟩ : '@' ≠ c ∧ '@' ∉ a := by simpa using h
      have ih := dropFontImports_append (b := b) a ha
      have hafter : after? "@import".toList (c :: (a ++ b)) = none := by simp [after?, hc]
      have hnone : afterFontImport? (c :: (a ++ b)) = none := by
        rw [afterFontImport?, hafter]
        rfl
      rw [dropFontImports] at ih ⊢
      rw [List.cons_append, dropFontImportsFrom, hnone, List.cons_append]
      exact congrArg (c :: ·) ih

theorem isSome_withIdText? {svg : String} (id : String) :
    (withIdText? svg id).isSome = containsText "<svg" svg := by
  rw [Bool.eq_iff_iff, containsText, contains_iff, Option.isSome_iff_ne_none, Ne,
    withIdText?_eq_none_iff, Decidable.not_not]

end Svg

namespace Kroki

/-- Whether there is still an SVG element in the diagram of an answer. -/
def survives (answer : Except String HttpResponse) : Bool :=
  match readResponse answer with
  | .error _ => true
  | .ok svg => containsText "<svg" svg

theorem survives_of_ok {answer : Except String HttpResponse} {svg : String}
    (h : readResponse answer = .ok svg) : survives answer = containsText "<svg" svg := by
  rw [survives, h]

theorem eq_of_readResponse_eq_ok {status : Nat} {body svg : String}
    (h : readResponse (.ok ⟨status, .ok body⟩) = .ok svg) :
    svg = Svg.dropFontImportsText (trimText body) := by
  simp only [readResponse] at h
  split at h
  · simp at h
  · split at h
    · exact (Except.ok.inj h).symm
    · simp at h

/-- The element survives if no at sign comes before it. -/
theorem survives_of_before {status : Nat} {body : String} {a : List Char} (ha : '@' ∉ a)
    (hbody : a ++ "<svg".toList <+: trim body.toList) : survives (.ok ⟨status, .ok body⟩) := by
  obtain ⟨b, hb⟩ := hbody
  cases hread : readResponse (.ok ⟨status, .ok body⟩) with
  | error e => rw [survives, hread]
  | ok svg =>
      have hstart : '@' ∉ a ++ "<svg".toList := by
        rw [List.mem_append, not_or]
        exact ⟨ha, by decide⟩
      have hsvg : svg.toList = a ++ "<svg".toList ++ Svg.dropFontImports b := by
        rw [eq_of_readResponse_eq_ok hread, ← Svg.dropFontImports_append _ hstart, hb]
        simp [Svg.dropFontImportsText, trimText]
      rw [survives_of_ok hread, containsText, contains_iff, hsvg]
      exact List.infix_append a _ _

/-! ## Renderings -/

theorem exists_stamped {svg : String} (h : containsText "<svg" svg) (id : String) :
    ∃ t, stamped svg id = .ok t := by
  rw [← Svg.isSome_withIdText? id] at h
  obtain ⟨t, ht⟩ := Option.isSome_iff_exists.mp h
  exact ⟨t, by rw [stamped, ht]⟩

theorem stamped_of_lost {svg : String} (h : ¬containsText "<svg" svg) (id : String) :
    stamped svg id = .error ⟨id, .invalidSvg⟩ := by
  rw [← Svg.isSome_withIdText? id, Bool.not_eq_true, Option.isSome_eq_false_iff,
    Option.isNone_iff_eq_none] at h
  rw [stamped, h]

/-- The state after the server was asked for a source. -/
def sent (k : Kroki Recalling) (source : String) (s : Recalling.State) : Recalling.State :=
  (s.1, { s.2 with requests := s.2.requests ++ [k.request source] })

end Kroki

section Render

variable (storage : DiagramStorage) (k : Kroki Recalling) {source id : String}
  {s s' : Recalling.State} {r : Except DiagramError String}

/-- What a rendering with a storage gives, and the state that it leaves. -/
inductive RenderStep (source id : String) (s : Recalling.State) :
    Except DiagramError String → Recalling.State → Prop
  | recalled {svg : String} : storage.found s (Kroki.key source) = some svg →
      RenderStep source id s (Kroki.stamped svg id) s
  | refused {e : DiagramFailure} : storage.found s (Kroki.key source) = none →
      Kroki.readResponse (s.2.network (k.request source)) = .error e →
      RenderStep source id s (.error ⟨id, e⟩) (k.sent source s)
  | drawn {svg : String} : storage.found s (Kroki.key source) = none →
      Kroki.readResponse (s.2.network (k.request source)) = .ok svg →
      RenderStep source id s (Kroki.stamped svg id)
        (storage.stored (k.sent source s) (Kroki.key source) svg)

variable {storage k}

theorem exists_renderStep (storage : DiagramStorage) (k : Kroki Recalling) (source id : String)
    (s : Recalling.State) : ∃ r s', RenderStep storage k source id s r s' := by
  cases hfound : storage.found s (Kroki.key source) with
  | some svg => exact ⟨_, _, .recalled hfound⟩
  | none =>
      cases hanswer : Kroki.readResponse (s.2.network (k.request source)) with
      | error e => exact ⟨_, _, .refused hfound hanswer⟩
      | ok svg => exact ⟨_, _, .drawn hfound hanswer⟩

theorem ends_render (hk : k.cache = storage.cache) (h : RenderStep storage k source id s r s') :
    Ends (k.render Recalling.host source id) s r s' := by
  have hget := storage.ends_get s (Kroki.key source)
  have hsent : Ends (Recalling.host.send (k.request source)) s
      (s.2.network (k.request source)) (k.sent source s) := ends_send (k.request source) s
  rw [← hk] at hget
  cases h with
  | recalled hfound =>
      rw [hfound] at hget
      exact Kroki.ends_render_of_ok (hget.bind (.pure _ s))
  | refused hfound hanswer =>
      rw [hfound] at hget
      refine Kroki.ends_render_of_error (hget.bind (hsent.bind ?_))
      rw [hanswer]
      exact .pure _ _
  | @drawn svg hfound hanswer =>
      rw [hfound] at hget
      have hput := storage.ends_put (k.sent source s) (Kroki.key source) svg
      rw [← hk] at hput
      refine Kroki.ends_render_of_ok (hget.bind (hsent.bind ?_))
      rw [hanswer]
      exact hput.bind (.pure _ _)

/-- Renderings do this, and nothing else. -/
theorem ends_render_iff (hk : k.cache = storage.cache) :
    Ends (k.render Recalling.host source id) s r s' ↔ RenderStep storage k source id s r s' := by
  constructor
  · intro h
    obtain ⟨r', t, hstep⟩ := exists_renderStep storage k source id s
    obtain ⟨rfl, rfl⟩ := (ends_render hk hstep).unique h
    exact hstep
  · exact ends_render hk

end Render

/-! ## Failures -/

/-- What a failed rendering should leave: all that was kept, and a source that the
server is asked for again, unless its diagram was found before. -/
structure LeftAlone (storage : DiagramStorage) (k : Kroki Recalling) (source : String)
    (s s' : Recalling.State) : Prop where
  memory : s'.1 = s.1
  files : s'.2.files = s.2.files
  again {id : String} {r : Except DiagramError String} {s'' : Recalling.State} :
    Ends (k.render Recalling.host source id) s' r s'' → s''.2.requests = s'.2.requests ++
      if (storage.found s (Kroki.key source)).isSome then [] else [k.request source]

section Failures

variable {storage : DiagramStorage} {k : Kroki Recalling} (hk : k.cache = storage.cache)
  {source id : String} {s s' : Recalling.State} {r : Except DiagramError String}

@[simp] theorem found_sent (key : DiagramKey) :
    storage.found (k.sent source s) key = storage.found s key := by
  cases storage <;> rfl

@[simp] theorem requests_stored (key : DiagramKey) (content : String) :
    (storage.stored s key content).2.requests = s.2.requests := by
  cases storage <;> rfl

include hk

/-- The server is asked for what is not found. -/
theorem requests_of_ends (h : Ends (k.render Recalling.host source id) s r s') :
    s'.2.requests = s.2.requests ++
      if (storage.found s (Kroki.key source)).isSome then [] else [k.request source] := by
  cases (ends_render_iff hk).mp h with
  | recalled hfound => simp [hfound]
  | refused hfound _ => simp [hfound, Kroki.sent]
  | drawn hfound _ => simp [hfound, Kroki.sent]

theorem leftAlone_of_survives {e : DiagramError}
    (hanswer : Kroki.survives (s.2.network (k.request source)))
    (h : Ends (k.render Recalling.host source id) s (.error e) s') :
    LeftAlone storage k source s s' := by
  generalize hr : (Except.error e : Except DiagramError String) = r at h
  cases (ends_render_iff hk).mp h with
  | recalled hfound => exact ⟨rfl, rfl, requests_of_ends hk⟩
  | refused hfound _ =>
      refine ⟨rfl, rfl, fun h' => ?_⟩
      simpa using requests_of_ends hk h'
  | @drawn svg hfound hread =>
      rw [Kroki.survives_of_ok hread] at hanswer
      obtain ⟨t, ht⟩ := Kroki.exists_stamped hanswer id
      rw [ht] at hr
      simp at hr

/-- What a rendering keeps can be used if its element survived. -/
theorem usable_of_survives (hanswer : Kroki.survives (s.2.network (k.request source)))
    (hnone : storage.found s (Kroki.key source) = none)
    (h : Ends (k.render Recalling.host source id) s r s')
    (hkept : (storage.found s' (Kroki.key source)).isSome) (id' : String) :
    ∃ t s'', Ends (k.render Recalling.host source id') s' (.ok t) s'' := by
  cases (ends_render_iff hk).mp h with
  | recalled hfound => simp [hnone] at hfound
  | refused _ _ => simp [hnone] at hkept
  | @drawn svg _ hread =>
      rw [Kroki.survives_of_ok hread] at hanswer
      obtain ⟨t, ht⟩ := Kroki.exists_stamped hanswer id'
      obtain ⟨svg', hsvg'⟩ := Option.isSome_iff_exists.mp hkept
      have htakes : storage.takes (k.sent source s).2 (Kroki.key source) := by
        obtain htakes | hbefore := storage.takes_of_found_stored hsvg'
        · exact htakes
        · simp [hnone] at hbefore
      have hfound := storage.found_stored_of_slot svg htakes rfl
      have hagain : Ends (k.render Recalling.host source id') _ (Kroki.stamped svg id') _ :=
        ends_render hk (.recalled hfound)
      rw [ht] at hagain
      exact ⟨t, _, hagain⟩

/-- An answer that has lost its element is kept, and every rendering fails from then
on. -/
theorem kept_of_lost {svg : String}
    (hread : Kroki.readResponse (s.2.network (k.request source)) = .ok svg)
    (hlost : ¬containsText "<svg" svg) (hnone : storage.found s (Kroki.key source) = none)
    (htakes : storage.takes s.2 (Kroki.key source)) :
    ∃ s', storage.found s' (Kroki.key source) = some svg ∧
      ∀ id, Ends (k.render Recalling.host source id) s (.error ⟨id, .invalidSvg⟩) s' ∧
        Ends (k.render Recalling.host source id) s' (.error ⟨id, .invalidSvg⟩) s' := by
  have htakes' : storage.takes (k.sent source s).2 (Kroki.key source) := by
    cases storage <;> exact htakes
  have hfound := storage.found_stored_of_slot svg htakes' rfl
  refine ⟨_, hfound, fun id => ?_⟩
  rw [← Kroki.stamped_of_lost hlost]
  exact ⟨ends_render hk (.drawn hnone hread), ends_render hk (.recalled hfound)⟩

/-- If the element of an answer does not survive, there is a state in which a
rendering fails and keeps what it fails for. -/
theorem exists_kept_of_lost {answer : Except String HttpResponse} {m : Machine}
    (htakes : storage.takes m (Kroki.key source))
    (hfree : storage.stands (∅, m) (Kroki.key source) = none) (h : ¬Kroki.survives answer) :
    ∃ s s' svg, s.2.network (k.request source) = answer ∧
      storage.found s (Kroki.key source) = none ∧
      storage.found s' (Kroki.key source) = some svg ∧
      ∀ id, Ends (k.render Recalling.host source id) s (.error ⟨id, .invalidSvg⟩) s' ∧
        Ends (k.render Recalling.host source id) s' (.error ⟨id, .invalidSvg⟩) s' := by
  let s : Recalling.State := (∅, { m with network := fun _ => answer })
  have hfree' : storage.stands s (Kroki.key source) = none := by
    cases storage <;> exact hfree
  have htakes' : storage.takes s.2 (Kroki.key source) := by
    cases storage <;> exact htakes
  have hnone : storage.found s (Kroki.key source) = none := by
    rw [storage.found_eq_stands (by simp [hfree']), hfree']
  cases hread : Kroki.readResponse answer with
  | error e => simp [Kroki.survives, hread] at h
  | ok svg =>
      rw [Kroki.survives_of_ok hread] at h
      obtain ⟨s', hfound, hends⟩ := kept_of_lost hk (s := s) hread h hnone htakes'
      exact ⟨s, s', svg, rfl, hnone, hfound, hends⟩

end Failures

/-- **A failed rendering leaves nothing behind, and what is left behind can be used**,
exactly for the answers whose SVG element survives the cleaning.  An answer that
loses it is kept, and fails under every id from then on.  The storage works on some
machine. -/
theorem render_failed_iff (storage : DiagramStorage) (serverUrl : String) (timeoutSecs : Nat)
    (source : String) (answer : Except String HttpResponse) (m : Machine)
    (htakes : storage.takes m (Kroki.key source))
    (hfree : storage.stands (∅, m) (Kroki.key source) = none) :
    let k := storage.kroki serverUrl timeoutSecs
    let answered (s : Recalling.State) : Prop := s.2.network (k.request source) = answer
    ((∀ s id e s', answered s → Ends (k.render Recalling.host source id) s (.error e) s' →
        LeftAlone storage k source s s') ↔ Kroki.survives answer) ∧
      ((∀ s id r s', answered s → storage.found s (Kroki.key source) = none →
        Ends (k.render Recalling.host source id) s r s' →
          (storage.found s' (Kroki.key source)).isSome →
            ∀ id', ∃ t s'', Ends (k.render Recalling.host source id') s' (.ok t) s'') ↔
        Kroki.survives answer) := by
  intro k answered
  have hk : k.cache = storage.cache := rfl
  constructor
  · constructor
    · intro h
      by_cases hsurvives : Kroki.survives answer
      · exact hsurvives
      · -- the rendering that follows the failed one does not ask
        obtain ⟨s, s', svg, hanswered, hnone, -, hends⟩ :=
          exists_kept_of_lost hk htakes hfree hsurvives
        have hagain := (h s "" _ s' hanswered (hends "").1).again (hends "").2
        simp [hnone] at hagain
    · intro hsurvives s id e s' hanswered h
      exact leftAlone_of_survives hk (by rwa [hanswered]) h
  · constructor
    · intro h
      by_cases hsurvives : Kroki.survives answer
      · exact hsurvives
      · -- the rendering that follows the failed one fails, too
        obtain ⟨s, s', svg, hanswered, hnone, hfound, hends⟩ :=
          exists_kept_of_lost hk htakes hfree hsurvives
        obtain ⟨t, s'', ht⟩ := h s "" _ s' hanswered hnone (hends "").1 (by simp [hfound]) ""
        have heq := ((hends "").2.unique ht).1
        simp at heq
    · intro hsurvives s id r s' hanswered hnone h hkept id'
      exact usable_of_survives hk (by rwa [hanswered]) hnone h hkept id'

/-- An answer with the beginning of an import in a comment.  The cleaning takes out
all that follows, up to the end of an import of fonts. -/
def commentedSvg : HttpResponse := ⟨200, .ok ("<!-- @import url( -->" ++
  "<svg><style>@import url('https://fonts.googleapis.com/css');</style></svg>")⟩

/-- The same answer without the comment. -/
def styledSvg : HttpResponse :=
  ⟨200, .ok "<svg><style>@import url('https://fonts.googleapis.com/css');</style></svg>"⟩

/-- After the answer with the comment a failure is kept, in memory and in files. -/
theorem commentedSvg_kept :
    let leavesAlone (storage : DiagramStorage) (response : HttpResponse) : Prop :=
      let k := storage.kroki "https://kroki.io" 30
      ∀ (s : Recalling.State) (id : String) (e : DiagramError) (s' : Recalling.State),
        s.2.network (k.request "graph") = .ok response →
          Ends (k.render Recalling.host "graph" id) s (.error e) s' →
            LeftAlone storage k "graph" s s'
    ∀ storage ∈ workingStorages,
      leavesAlone storage styledSvg ∧ ¬leavesAlone storage commentedSvg := by
  intro leavesAlone storage hstorage
  have hlost : Kroki.survives (.ok commentedSvg) = false := by decide +kernel
  have hstyled : Kroki.survives (.ok styledSvg) :=
    Kroki.survives_of_before (a := []) (by simp) (by decide +kernel)
  obtain ⟨htakes, hfree⟩ :=
    workingStorages_take hstorage (Kroki.key "graph") (by decide) (by decide) (by decide)
  have hiff (response : HttpResponse) :
      leavesAlone storage response ↔ Kroki.survives (.ok response) :=
    (render_failed_iff storage "https://kroki.io" 30 "graph" (.ok response) diagramMachine htakes
      hfree).1
  rw [hiff, hiff, hlost]
  exact ⟨hstyled, Bool.false_ne_true⟩

end Broadsheet
