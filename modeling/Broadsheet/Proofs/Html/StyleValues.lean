import Broadsheet.Proofs.Html.Tokens

/-!
# Broadsheet.Proofs.Html.StyleValues

Markup without the values of its style attributes.  What the reader finds in a
text besides those values, its tags, its other attributes and the texts between
the tags, is the same for two texts that are equal but for them.

* `Reading.bare` and `Token.bare` — readers and tokens without the values;
* `Reading.outside` — the text that a reader finds outside the values.  Where it
  stops reading, all that is left is outside;
* `bareTokens_withoutStyles` — the tokens, but for the values, are those of the
  text outside.
-/

namespace Broadsheet

/-! ## Tokens and readers without the values -/

/-- An attribute without its value, if it is the style. -/
def bareAttr (a : String × Option String) : String × Option String :=
  if a.1 = "style" then (a.1, a.2.map fun _ => "") else a

/-- A token without the values of style attributes. -/
def Token.bare : Token → Token
  | char c => char c
  | startTag name attrs selfClosing => startTag name (attrs.map bareAttr) selfClosing
  | endTag name => endTag name

/-- A start tag as far as it is read without the values of style attributes. -/
def TagSoFar.bare (t : TagSoFar) : TagSoFar := { t with attrs := t.attrs.map bareAttr }

namespace Reading

/-- Whether the reader stands in the value of a style attribute, between double
quotes. -/
def inStyle : Reading → Bool
  | quoted _ name quote _ => quote == '"' && name == "style".toList
  | _ => false

/-- What is kept of a value so far. -/
def bareValue (name : List Char) (quote : Char) (value : List Char) : List Char :=
  if quote = '"' ∧ name = "style".toList then [] else value

/-- The reader without the values of style attributes. -/
def bare : Reading → Reading
  | text => text
  | opened => opened
  | tagName name => tagName name
  | closing => closing
  | endName name => endName name
  | blank t => blank t.bare
  | attrName t name => attrName t.bare name
  | equals t name => equals t.bare name
  | quoted t name quote value => quoted t.bare name quote (bareValue name quote value)
  | unquoted t => unquoted t.bare
  | slash t => slash t.bare

end Reading

/-- What is read without the values of style attributes. -/
def bareResult (r : List Token × Reading) : List Token × Reading := (r.1.map Token.bare, r.2.bare)

@[simp] theorem fst_bareAttr (a : String × Option String) : (bareAttr a).1 = a.1 := by
  unfold bareAttr
  split <;> rfl

@[simp] theorem bareAttr_bareAttr (a : String × Option String) :
    bareAttr (bareAttr a) = bareAttr a := by
  by_cases h : a.1 = "style" <;> simp [bareAttr, h, Function.comp_def]

@[simp] theorem TagSoFar.bare_bare (t : TagSoFar) : t.bare.bare = t.bare := by
  simp [TagSoFar.bare]

namespace TagSoFar

/-- Whether an attribute may be added does not depend on values. -/
theorem bare_add? (t : TagSoFar) (name : String) (value value' : Option String)
    (h : bareAttr (name, value) = bareAttr (name, value')) :
    (t.add? name value).map bare = (t.bare.add? name value').map bare := by
  have hnames : (t.attrs.map bareAttr).map (·.1) = t.attrs.map (·.1) := by simp
  unfold add?
  rw [show t.bare.attrs = t.attrs.map bareAttr from rfl, hnames]
  split
  · rfl
  · simp [bare, h]

end TagSoFar

namespace Reading

@[simp] theorem bareValue_concat (name : List Char) (quote : Char) (value : List Char) (c : Char) :
    bareValue name quote (bareValue name quote value ++ [c]) =
      bareValue name quote (value ++ [c]) := by
  unfold bareValue
  split <;> rfl

theorem bareAttr_bareValue (name : List Char) (quote : Char) (value : List Char) :
    bareAttr (String.ofList name, some (String.ofList value)) =
      bareAttr (String.ofList name, some (String.ofList (bareValue name quote value))) := by
  unfold bareValue
  split
  · next h => simp [h.2, bareAttr]
  · rfl

theorem bareResult_afterPart (t : TagSoFar) (c : Char) :
    (afterPart t c).map bareResult = (afterPart t.bare c).map bareResult := by
  unfold afterPart
  split
  · simp [bareResult, bare]
  · split
    · simp [bareResult, bare]
    · split
      · simp [bareResult, bare, Token.bare, TagSoFar.token, TagSoFar.bare]
      · rfl

/-- What follows a part of a tag does not depend on values. -/
theorem bareResult_bind_afterPart {t t' : Option TagSoFar}
    (h : t.map TagSoFar.bare = t'.map TagSoFar.bare) (c : Char) :
    (t.bind (afterPart · c)).map bareResult = (t'.bind (afterPart · c)).map bareResult := by
  cases t <;> cases t' <;> simp at h ⊢
  rw [bareResult_afterPart, h, ← bareResult_afterPart]

/-- A step does not depend on the values of style attributes. -/
theorem bareResult_step_bare (r : Reading) (c : Char) :
    (r.step c).map bareResult = (r.bare.step c).map bareResult := by
  cases r with
  | text | opened | tagName _ | closing | endName _ => rfl
  | blank t =>
      simp only [step, bare]
      split
      · simp [bareResult, bare]
      · exact bareResult_afterPart t c
  | attrName t name =>
      simp only [step, bare]
      split
      · simp [bareResult, bare]
      · split
        · simp [bareResult, bare]
        · exact bareResult_bind_afterPart (t.bare_add? _ _ _ rfl) c
  | equals t name =>
      simp only [step, bare]
      split <;> simp [bareResult, bare]
  | quoted t name quote value =>
      simp only [step, bare]
      split
      · have hadd := t.bare_add? (String.ofList name) _ _ (bareAttr_bareValue name quote value)
        have hmapped := congrArg (Option.map fun t => (([] : List Token), unquoted t)) hadd
        simp only [Option.map_map] at hmapped ⊢
        exact hmapped
      · simp [bareResult, bare]
  | unquoted t => exact bareResult_afterPart t c
  | slash t =>
      simp only [step, bare]
      split
      · simp [bareResult, bare, Token.bare, TagSoFar.token, TagSoFar.bare]
      · rfl

/-- Readers that differ in nothing else take the same step. -/
theorem bareResult_step {r r' : Reading} (h : r.bare = r'.bare) (c : Char) :
    (r.step c).map bareResult = (r'.step c).map bareResult := by
  rw [bareResult_step_bare, h, ← bareResult_step_bare]

/-- They stop together. -/
theorem step_eq_none_of_bare {r r' : Reading} (h : r.bare = r'.bare) {c : Char}
    (hr : r.step c = none) : r'.step c = none := by
  have hstep := bareResult_step h c
  simpa [hr] using hstep.symm

/-- And they go on to readers that differ in nothing else. -/
theorem exists_step_of_bare {r r' q : Reading} (h : r.bare = r'.bare) {c : Char}
    {ts : List Token} (hr : r.step c = some (ts, q)) :
    ∃ ts' q', r'.step c = some (ts', q') ∧ ts.map Token.bare = ts'.map Token.bare ∧
      q.bare = q'.bare := by
  have hstep := bareResult_step h c
  rw [hr, Option.map_some] at hstep
  obtain ⟨⟨ts', q'⟩, hr', hbare⟩ := Option.map_eq_some_iff.mp hstep.symm
  obtain ⟨hts, hq⟩ := Prod.mk.inj hbare
  exact ⟨ts', q', hr', hts.symm, hq.symm⟩

theorem inStyle_bare (r : Reading) : r.bare.inStyle = r.inStyle := by
  cases r <;> rfl

theorem inStyle_eq_of_bare {r r' : Reading} (h : r.bare = r'.bare) : r.inStyle = r'.inStyle := by
  rw [← inStyle_bare, h, inStyle_bare]

/-- The values of style attributes are read without tokens. -/
theorem step_inStyle {r : Reading} (hstyle : r.inStyle) {c : Char} (hc : c ≠ '"') :
    ∃ r', r.step c = some ([], r') ∧ r'.inStyle ∧ r'.bare = r.bare := by
  cases r with
  | quoted t name quote value =>
      obtain ⟨rfl, rfl⟩ : quote = '"' ∧ name = "style".toList := by simpa [inStyle] using hstyle
      exact ⟨.quoted t "style".toList '"' (value ++ [c]), by simp [step, hc], rfl, rfl⟩
  | _ => simp [inStyle] at hstyle

/-- A double quote ends a value. -/
theorem inStyle_of_step_quote {r r' : Reading} (hstyle : r.inStyle) {ts : List Token}
    (hstep : r.step '"' = some (ts, r')) : r'.inStyle = false := by
  cases r with
  | quoted t name quote value =>
      obtain ⟨rfl, rfl⟩ : quote = '"' ∧ name = "style".toList := by simpa [inStyle] using hstyle
      obtain ⟨t', -, h⟩ := Option.map_eq_some_iff.mp (by simpa only [step, if_pos] using hstep)
      obtain ⟨-, rfl⟩ : [] = ts ∧ unquoted t' = r' := by simpa using h
      rfl
  | _ => simp [inStyle] at hstyle

theorem afterPart_ne_quoted (t : TagSoFar) (c : Char) {ts : List Token} {t' : TagSoFar}
    {name : List Char} {quote : Char} {value : List Char} :
    afterPart t c ≠ some (ts, quoted t' name quote value) := by
  unfold afterPart
  split
  · simp
  · split
    · simp
    · split <;> simp

/-- Only a double quote leads into a value. -/
theorem inStyle_of_step {r r' : Reading} {c : Char} {ts : List Token} (hc : c ≠ '"')
    (hstyle : r'.inStyle) (hstep : r.step c = some (ts, r')) : r.inStyle := by
  cases r' with
  | quoted t' name' quote' value' =>
      obtain ⟨rfl, rfl⟩ : quote' = '"' ∧ name' = "style".toList := by simpa [inStyle] using hstyle
      cases r with
      | quoted t name quote value =>
          simp only [step] at hstep
          split at hstep
          · simp [Option.map_eq_some_iff] at hstep
          · simp only [Option.some.injEq, Prod.mk.injEq, quoted.injEq] at hstep
            simp [inStyle, hstep]
      | equals t name => simp_all [step]
      | attrName t name =>
          simp only [step] at hstep
          split at hstep
          · simp at hstep
          · split at hstep
            · simp at hstep
            · obtain ⟨t, -, hafter⟩ := Option.bind_eq_some_iff.mp hstep
              exact absurd hafter (afterPart_ne_quoted t c)
      | _ => grind [step, afterPart_ne_quoted]
  | _ => simp [inStyle] at hstyle

/-! ## The text outside -/

/-- Whether a reader that may have stopped stands in the value of a style attribute. -/
def within (r : Option Reading) : Bool := r.any inStyle

/-- The reader after a character. -/
def next (r : Option Reading) (c : Char) : Option Reading :=
  r.bind fun r => (r.step c).map (·.2)

/-- The text that a reader finds outside the values of style attributes. -/
def outside : Option Reading → List Char → List Char
  | _, [] => []
  | r, c :: cs =>
      if within r && within (next r c) then outside (next r c) cs else c :: outside (next r c) cs

end Reading

/-- A text without the values of its style attributes. -/
def withoutStyles (s : List Char) : List Char := Reading.outside (some .text) s

/-- The tokens of a text, if it can be read to its end, but for the values of its
style attributes. -/
def bareTokens (s : List Char) : Option (List Token) :=
  (tokenize (String.ofList s)).map (·.map Token.bare)

namespace Reading

@[simp] theorem next_none (c : Char) : next none c = none := rfl

/-- What cannot be read is outside. -/
@[simp] theorem outside_none : (s : List Char) → outside none s = s
  | [] => rfl
  | c :: cs => by simp [outside, within, outside_none cs]

theorem exists_of_within {r : Option Reading} (hr : within r = true) :
    ∃ q, r = some q ∧ q.inStyle := by
  cases r with
  | none => simp [within] at hr
  | some q => exact ⟨q, rfl, by simpa [within] using hr⟩

/-- Without a double quote nothing leads into a value. -/
theorem within_next {r : Option Reading} (hr : within r = false) {c : Char} (hc : c ≠ '"') :
    within (next r c) = false := by
  cases r with
  | none => rfl
  | some r =>
      cases hstep : r.step c with
      | none => simp [next, hstep, within]
      | some res =>
          obtain ⟨ts, r'⟩ := res
          have hinside := mt (inStyle_of_step hc · hstep)
          simpa [next, hstep, within] using hinside (by simpa [within] using hr)

/-- Outside the values a text without double quotes is all outside. -/
theorem outside_append : (p : List Char) → '"' ∉ p → {r : Option Reading} → within r = false →
    (s : List Char) → outside r (p ++ s) = p ++ outside (p.foldl next r) s ∧
      within (p.foldl next r) = false
  | [], _, _, hr, s => ⟨rfl, hr⟩
  | c :: p, hp, r, hr, s => by
      obtain ⟨hc, hp⟩ : '"' ≠ c ∧ '"' ∉ p := by simpa using hp
      obtain ⟨ih, hwithin⟩ := outside_append p hp (within_next hr (Ne.symm hc)) s
      exact ⟨by simp [outside, hr, ih], hwithin⟩

/-- In a value it is all dropped, and the reader stays in the value. -/
theorem outside_append_of_inStyle : (p : List Char) → '"' ∉ p → {r : Reading} → r.inStyle →
    (s : List Char) → ∃ r', outside (some r) (p ++ s) = outside (some r') s ∧
      p.foldl next (some r) = some r' ∧ r'.inStyle ∧ r'.bare = r.bare
  | [], _, r, hr, s => ⟨r, rfl, rfl, hr, rfl⟩
  | c :: p, hp, r, hr, s => by
      obtain ⟨hc, hp⟩ : '"' ≠ c ∧ '"' ∉ p := by simpa using hp
      obtain ⟨r₁, hstep, hr₁, hbare₁⟩ := step_inStyle hr (Ne.symm hc)
      obtain ⟨r', hout, hfold, hr', hbare⟩ := outside_append_of_inStyle p hp hr₁ s
      have hnext : next (some r) c = some r₁ := by simp [next, hstep]
      refine ⟨r', ?_, ?_, hr', hbare.trans hbare₁⟩
      · simpa [outside, hnext, within, hr, hr₁] using hout
      · rw [List.foldl_cons, hnext, hfold]

/-- The text outside does not depend on the values read before. -/
theorem outside_eq_of_bare : (s : List Char) → {r r' : Reading} → r.bare = r'.bare →
    outside (some r) s = outside (some r') s
  | [], _, _, _ => rfl
  | c :: cs, r, r', h => by
      have hstyle : r.inStyle = r'.inStyle := inStyle_eq_of_bare h
      cases hr : r.step c with
      | none => simp [outside, next, hr, step_eq_none_of_bare h hr, within]
      | some res =>
          obtain ⟨ts, q⟩ := res
          obtain ⟨ts', q', hr', -, hq⟩ := exists_step_of_bare h hr
          have hstyle' : q.inStyle = q'.inStyle := inStyle_eq_of_bare hq
          have ih := outside_eq_of_bare cs hq
          simp [outside, next, hr, hr', within, hstyle, hstyle', ih]

/-- A text without double quotes is outside where it does not stand in a value. -/
theorem outside_of_notMem {r : Option Reading} (hr : within r = false) {p : List Char}
    (hp : '"' ∉ p) : outside r p = p := by
  have happend := (outside_append p hp hr []).1
  rwa [List.append_nil, outside, List.append_nil] at happend

/-- So it is before a double quote. -/
theorem outside_cut {r : Option Reading} (hr : within r = false) {p : List Char} (hp : '"' ∉ p)
    (s : List Char) :
    outside r (p ++ '"' :: s) = p ++ '"' :: outside (next (p.foldl next r) '"') s := by
  obtain ⟨happend, hwithin⟩ := outside_append p hp hr ('"' :: s)
  simp [happend, outside, hwithin]

/-- In a value it is not. -/
theorem outside_of_inStyle {r : Reading} (hr : r.inStyle) {p : List Char} (hp : '"' ∉ p) :
    outside (some r) p = [] := by
  obtain ⟨r', happend, -⟩ := outside_append_of_inStyle p hp hr []
  rwa [List.append_nil] at happend

/-- Whatever a value is, the same is outside after it. -/
theorem outside_cut_of_inStyle {r : Reading} (hr : r.inStyle) {p : List Char} (hp : '"' ∉ p)
    (s : List Char) :
    outside (some r) (p ++ '"' :: s) = '"' :: outside (next (some r) '"') s := by
  obtain ⟨r', happend, -, -, hbare⟩ := outside_append_of_inStyle p hp hr ('"' :: s)
  rw [happend, outside_eq_of_bare _ hbare]
  have hwithin : within (next (some r) '"') = false := by
    cases hstep : r.step '"' with
    | none => simp [next, hstep, within]
    | some res =>
        obtain ⟨ts, q⟩ := res
        simp [next, hstep, within, inStyle_of_step_quote hr hstep]
  simp [outside, hwithin]

theorem scan_cons {r q : Reading} {ts : List Token} {c : Char} (hr : r.step c = some (ts, q))
    (s : List Char) : r.scan (c :: s) = (q.scan s).map fun rest => (ts ++ rest.1, rest.2) := by
  cases h : q.scan s <;> simp [scan, hr, h]

/-- A step before what is read the same is read the same. -/
theorem bareResult_scan_cons {r r' q q' : Reading} {ts ts' : List Token} {c : Char}
    {s s' : List Char} (hr : r.step c = some (ts, q)) (hr' : r'.step c = some (ts', q'))
    (hts : ts.map Token.bare = ts'.map Token.bare)
    (hrest : (q.scan s).map bareResult = (q'.scan s').map bareResult) :
    (r.scan (c :: s)).map bareResult = (r'.scan (c :: s')).map bareResult := by
  have hsplit (us : List Token) (x : Option (List Token × Reading)) :
      (x.map fun rest => (us ++ rest.1, rest.2)).map bareResult =
        (x.map bareResult).map fun rest => (us.map Token.bare ++ rest.1, rest.2) := by
    cases x <;> simp [bareResult]
  rw [scan_cons hr, scan_cons hr', hsplit, hsplit, hrest, hts]

/-- The same is read of a text and of what is outside the values in it, but for
the values. -/
theorem bareResult_scan_outside : (s : List Char) → {r r' : Reading} → r.bare = r'.bare →
    (r.scan s).map bareResult = (r'.scan (outside (some r) s)).map bareResult
  | [], r, r', h => by simp [scan, outside, bareResult, h]
  | c :: cs, r, r', h => by
      cases hr : r.step c with
      | none => simp [scan, outside, next, hr, step_eq_none_of_bare h hr, within]
      | some res =>
          obtain ⟨ts, q⟩ := res
          have hnext : next (some r) c = some q := by simp [next, hr]
          by_cases hwithin : r.inStyle ∧ q.inStyle
          · -- the character is dropped, and only the first reader goes on
            have hc : c ≠ '"' := by
              rintro rfl
              exact absurd hwithin.2 (by simp [inStyle_of_step_quote hwithin.1 hr])
            obtain ⟨q', hq', -, hbare⟩ := step_inStyle hwithin.1 hc
            obtain ⟨rfl, rfl⟩ : ts = [] ∧ q = q' := by simpa [hr] using hq'
            have ih := bareResult_scan_outside cs (hbare.trans h)
            have hscan : r.scan (c :: cs) = q.scan cs := by simp [scan_cons hr]
            simpa [hscan, outside, hnext, within, hwithin] using ih
          · obtain ⟨ts', q', hr', hts, hq⟩ := exists_step_of_bare h hr
            have ih := bareResult_scan_outside cs hq
            have hkept : outside (some r) (c :: cs) = c :: outside (some q) cs := by
              simpa [outside, hnext, within] using hwithin
            rw [hkept]
            exact bareResult_scan_cons hr hr' hts ih

end Reading

/-- **The tokens, but for the values, are those of the text outside.** -/
theorem bareTokens_withoutStyles (s : List Char) : bareTokens (withoutStyles s) = bareTokens s := by
  have hscan := Reading.bareResult_scan_outside s (rfl : Reading.text.bare = Reading.text.bare)
  have hend {r : Reading} (h : r.bare = .text) : r = .text := by cases r <;> simp_all [Reading.bare]
  unfold bareTokens tokenize withoutStyles
  rw [String.toList_ofList, String.toList_ofList]
  cases h : Reading.text.scan s with
  | none =>
      have h' : Reading.text.scan (Reading.outside (some .text) s) = none := by
        simpa [h] using hscan.symm
      rw [h']
  | some res =>
      obtain ⟨res', h', hres⟩ : ∃ res', Reading.text.scan (Reading.outside (some .text) s) =
          some res' ∧ bareResult res' = bareResult res := by simpa [h] using hscan.symm
      obtain ⟨ts, q⟩ := res
      obtain ⟨ts', q'⟩ := res'
      obtain ⟨hts, hq⟩ : ts'.map Token.bare = ts.map Token.bare ∧ q'.bare = q.bare :=
        Prod.mk.inj hres
      have htext : q' = .text ↔ q = .text :=
        ⟨fun h => hend (by rw [← hq, h]; rfl), fun h => hend (by rw [hq, h]; rfl)⟩
      rw [h']
      by_cases hread : q = .text
      · rw [htext.mpr hread, hread]
        simpa using hts
      · split <;> split <;> simp_all

end Broadsheet
