import Broadsheet.Proofs.Yaml.Frames
import Broadsheet.Yaml.Scalar

/-!
# Broadsheet.Proofs.Yaml.Scalars

White space between the pieces of a scalar, and quoted scalars, of a framed text.
A quoted scalar ends at its quote, and no quote stands in white space, so a
frame never adds to one.

* `Gap.read_framed`, `Gap.read_stops` — white space is read up to what follows it;
* `readQuoted_framed` — quoted scalars, by one lemma for each step of their reading.
-/

namespace Broadsheet.Yaml

variable {f : Frame}

/-- What stands ahead: the end, a blank, a line's end, or something else. -/
theorem Cursor.ahead_cases (c : Cursor) :
    c.rest = [] ∨ (∃ x r, c.rest = x :: r ∧ isSpace x = true) ∨
      (∃ x r, c.rest = x :: r ∧ isSpace x = false ∧ isBreak x = true) ∨
      ∃ x r, c.rest = x :: r ∧ isGap x = false := by
  cases hc : c.rest with
  | nil => exact .inl rfl
  | cons x r =>
      cases hspace : isSpace x with
      | true => exact .inr (.inl ⟨x, r, rfl, hspace⟩)
      | false =>
          cases hbreak : isBreak x with
          | true => exact .inr (.inr (.inl ⟨x, r, rfl, hspace, hbreak⟩))
          | false => exact .inr (.inr (.inr ⟨x, r, rfl, by simp [isGap, hspace, hbreak]⟩))

/-! ## Gaps -/

namespace Gap

/-- The gap with one more blank. -/
def addBlank (g : Gap) (x : Char) : Gap :=
  if g.broken then g else { g with blanks := g.blanks ++ [x] }

/-- The gap with one more line's end. -/
def addBreak (g : Gap) (b : List Char) : Gap :=
  if g.broken then { g with more := g.more ++ b } else ⟨true, [], b, []⟩

section Step

variable {limit fuel : Nat} {g : Gap} {c : Cursor} {x : Char} {r : List Char}

theorem read_nil (hc : c.rest = []) : read limit (fuel + 1) g c = some (g, c) := by
  simp only [read, hc]

/-- A blank is noted, but for a tab that stands for indentation. -/
theorem read_blank (hc : c.rest = x :: r) (hx : isSpace x = true) :
    read limit (fuel + 1) g c =
      if g.broken && (x == '\t' && c.column < limit) then Option.none
      else read limit fuel (g.addBlank x) (c.skip 1) := by
  simp only [read, hc, hx, if_true, addBlank]
  cases g.broken <;> simp

/-- A line's end is noted. -/
theorem read_break (hc : c.rest = x :: r) (hspace : isSpace x = false) (hx : isBreak x = true) :
    read limit (fuel + 1) g c = read limit fuel (g.addBreak c.takeBreak.1) c.takeBreak.2 := by
  simp only [read, hc, hspace, hx, if_true, addBreak]
  cases g.broken <;> simp

/-- A gap ends before what is no white space. -/
theorem read_other (hc : c.rest = x :: r) (hx : isGap x = false) :
    read limit (fuel + 1) g c = some (g, c) := by
  simp [read, hc, isSpace_eq_false hx, isBreak_eq_false hx]

end Step

variable {limit fuel : Nat} {g g' : Gap} {c c' : Cursor}

/-- A gap is white space. -/
theorem blank_read (h : read limit fuel g c = some (g', c')) : c.Blank c' := by
  induction fuel generalizing g c with
  | zero =>
      obtain ⟨-, rfl⟩ : g = g' ∧ c = c' := by simpa [read] using h
      exact .refl c
  | succ fuel ih =>
      obtain hc | ⟨x, r, hc, hx⟩ | ⟨x, r, hc, hspace, hx⟩ | ⟨x, r, hc, hx⟩ := c.ahead_cases
      · obtain ⟨-, rfl⟩ : g = g' ∧ c = c' := by simpa [read_nil hc] using h
        exact .refl c
      · rw [read_blank hc hx] at h
        split at h
        · cases h
        · exact (Cursor.blank_skip_one hc (by simp [isGap, hx])).trans (ih h)
      · rw [read_break hc hspace hx] at h
        exact c.blank_takeBreak.trans (ih h)
      · obtain ⟨-, rfl⟩ : g = g' ∧ c = c' := by simpa [read_other hc hx] using h
        exact .refl c

/-- Reading goes on as long as white space is ahead. -/
theorem read_stops (hfuel : c.rest.length < fuel) (h : read limit fuel g c = some (g', c')) :
    ∀ x, c'.rest.head? = some x → isGap x = false := by
  induction fuel generalizing g c with
  | zero => omega
  | succ fuel ih =>
      obtain hc | ⟨x, r, hc, hx⟩ | ⟨x, r, hc, hspace, hx⟩ | ⟨x, r, hc, hx⟩ := c.ahead_cases
      · obtain ⟨-, rfl⟩ : g = g' ∧ c = c' := by simpa [read_nil hc] using h
        simp [hc]
      · rw [read_blank hc hx] at h
        split at h
        · cases h
        · have hlt := Cursor.Before.length_lt_of_skip hc (.refl (c.skip 1))
          exact ih (by omega) h
      · rw [read_break hc hspace hx] at h
        have hlt := Cursor.length_takeBreak_lt hc hx
        exact ih (by omega) h
      · obtain ⟨-, rfl⟩ : g = g' ∧ c = c' := by simpa [read_other hc hx] using h
        simpa [hc] using hx

/-- A gap that begins with white space takes a character at least. -/
theorem length_read_lt (hfuel : c.rest.length < fuel) (h : read limit fuel g c = some (g', c'))
    {x : Char} {r : List Char} (hc : c.rest = x :: r) (hx : isGap x = true) :
    c'.rest.length < c.rest.length := by
  refine Nat.lt_of_le_of_ne (blank_read h).before.length_le fun hlength => ?_
  have hrest : c'.rest = c.rest := (blank_read h).before.suffix.eq_of_length hlength
  have hstop := read_stops hfuel h x (by rw [hrest, hc, List.head?_cons])
  simp [hx] at hstop

/-- **Gaps in a frame**: a gap in a tight text is the same in the framed text, where more of the
text follows it. -/
theorem read_framed (htight : Tight c.rest) (hne : c.rest ≠ []) {fuel' : Nat}
    (hfuel : c.rest.length < fuel) (hfuel' : c.rest.length < fuel') :
    read limit fuel' g (c.framed f) = f.move (read limit fuel g c) := by
  induction fuel generalizing g c fuel' with
  | zero => omega
  | succ fuel ih =>
      obtain ⟨k, rfl⟩ : ∃ k, fuel' = k + 1 := ⟨fuel' - 1, by omega⟩
      obtain hc | ⟨x, r, hc, hx⟩ | ⟨x, r, hc, hspace, hx⟩ | ⟨x, r, hc, hx⟩ := c.ahead_cases
      · exact absurd hc hne
      · have hbefore : c.Before (c.skip 1) := Cursor.before_skip (by simp [hc])
        have hrest : (c.skip 1).rest ≠ [] := by
          have hr := (hc ▸ htight).ne_nil_of_cons (by simp [isGap, hx])
          simpa [Cursor.skip, hc] using hr
        have hlt := Cursor.Before.length_lt_of_skip hc (.refl (c.skip 1))
        rw [read_blank (Cursor.rest_framed f hc) hx, read_blank hc hx,
          Cursor.skip_framed (by simp [hc]), Cursor.column_framed]
        split
        · rfl
        · exact ih (htight.suffix hbefore.suffix) hrest (by omega) (by omega)
      · have hlt := Cursor.length_takeBreak_lt hc hx
        rw [read_break (Cursor.rest_framed f hc) hspace hx, read_break hc hspace hx,
          Cursor.takeBreak_framed htight hne]
        exact ih (htight.suffix c.blank_takeBreak.before.suffix)
          (c.blank_takeBreak.ne_nil htight hne) (by omega) (by omega)
      · rw [read_other (Cursor.rest_framed f hc) hx, read_other hc hx, Frame.move_some]

end Gap

/-! ## Escapes -/

/-- No white space stands in a number. -/
theorem hexScalar_eq_none {digits : List Char} {x : Char} (hx : x ∈ digits)
    (hgap : isGap x = true) : hexScalar digits = none := by
  have hdigit : (Decimal.hexDigit x).isSome = false := by
    obtain rfl | rfl | rfl | rfl | rfl | rfl | rfl := gap_cases hgap <;> decide
  have hall : (digits.all fun c => (Decimal.hexDigit c).isSome) = false := by
    rw [List.all_eq_false]
    exact ⟨x, hx, by simp [hdigit]⟩
  simp [hexScalar, hall, guard]

/-- An escape is read from what is ahead. -/
theorem before_readEscape {c c' : Cursor} {e : Char} (h : readEscape c = some (e, c')) :
    c.Before c' := by
  cases hc : c.rest with
  | nil => simp [readEscape, hc] at h
  | cons x r =>
      simp only [readEscape, hc] at h
      split at h
      · obtain ⟨-, rfl⟩ : _ ∧ c.skip 1 = c' := by simpa using h
        exact Cursor.before_skip (by simp [hc])
      · next n _ _ =>
          split at h
          · next hn =>
              obtain ⟨e', -, hpair⟩ := Option.map_eq_some_iff.mp h
              obtain ⟨-, rfl⟩ : e' = e ∧ c.skip (n + 1) = c' := by simpa using hpair
              rw [List.length_take] at hn
              exact Cursor.before_skip (by simp only [hc, List.length_cons]; omega)
          · cases h
      · cases h

/-- Escapes are the same in the framed text: one that the text breaks off does not go on with
white space. -/
theorem readEscape_framed {c : Cursor} (hne : c.rest ≠ []) :
    readEscape (c.framed f) = f.move (readEscape c) := by
  obtain ⟨x, r, hc⟩ := List.exists_cons_of_ne_nil hne
  simp only [readEscape, hc, Cursor.rest_framed f hc]
  split
  · rw [Cursor.skip_framed (by simp [hc]), Frame.move_some]
  · next n _ _ =>
      by_cases hn : n ≤ r.length
      · rw [List.take_append_of_le_length hn,
          Cursor.skip_framed (by simp only [hc, List.length_cons]; omega)]
        split
        · cases hexScalar (r.take n) <;> rfl
        · rfl
      · -- the digits would have to come from the white space
        have hshort : (r.take n).length ≠ n := by
          rw [List.length_take]
          omega
        rw [if_neg hshort, Frame.move_none]
        split
        · next hlong =>
            have htake : (r ++ f.after).take n = r ++ f.after.take (n - r.length) := by
              rw [List.take_append, List.take_of_length_le (by omega)]
            have hne : f.after.take (n - r.length) ≠ [] := by
              intro hnil
              rw [htake, hnil, List.append_nil] at hlong
              omega
            obtain ⟨y, hy⟩ := List.exists_mem_of_ne_nil _ hne
            rw [hexScalar_eq_none (htake ▸ List.mem_append_right r hy)
              (f.isGap_of_mem y (List.mem_of_mem_take hy)), Option.map_none]
        · rfl
  · rfl

/-! ## Quoted scalars -/

/-- The character that a quoted scalar ends with. -/
def quoteOf (single : Bool) : Char := if single then '\'' else '"'

section Step

variable {single : Bool} {fuel : Nat} {c : Cursor} {x : Char} {r : List Char}

theorem readQuoted_mark (hmark : c.atDocumentMark = true) :
    readQuoted single (fuel + 1) c = none := by
  rw [readQuoted, if_pos hmark]

theorem readQuoted_nil (hc : c.rest = []) : readQuoted single (fuel + 1) c = none := by
  simp only [readQuoted, hc, ite_self]

variable (hmark : c.atDocumentMark = false) (hc : c.rest = x :: r)

include hmark hc

theorem readQuoted_quote (hx : x = quoteOf single) :
    readQuoted single (fuel + 1) c =
      if single && r.head? == some '\'' then do
        let (text, c) ← readQuoted single fuel (c.skip 2)
        return ('\'' :: text, c)
      else some ([], c.skip 1) := by
  simp only [readQuoted, hmark, hc, hx, quoteOf, Bool.false_eq_true, if_true, if_false]

theorem readQuoted_escape (hx : x ≠ quoteOf single) (hescape : (!single && x == '\\') = true) :
    readQuoted single (fuel + 1) c =
      if !r.isEmpty && endAhead r then do
        let (gap, c) ← Gap.read 0 (r.length + 1) ⟨true, [], [], []⟩ (c.skip 1).skipBreak
        let (text, c) ← readQuoted single fuel c
        return (gap.text ++ text, c)
      else do
        let (e, c) ← readEscape (c.skip 1)
        let (text, c) ← readQuoted single fuel c
        return (e :: text, c) := by
  rw [quoteOf] at hx
  simp only [readQuoted, hmark, hc, hx, hescape, Bool.false_eq_true, if_true, if_false]

theorem readQuoted_gap (hx : x ≠ quoteOf single) (hescape : (!single && x == '\\') = false)
    (hgap : isGap x = true) :
    readQuoted single (fuel + 1) c = do
      let (gap, c) ← Gap.read 0 (r.length + 2) .none c
      let (text, c) ← readQuoted single fuel c
      return (gap.text ++ text, c) := by
  rw [quoteOf] at hx
  rw [isGap] at hgap
  simp only [readQuoted, hmark, hc, hx, hescape, hgap, Bool.false_eq_true, if_true, if_false]

theorem readQuoted_other (hx : x ≠ quoteOf single) (hescape : (!single && x == '\\') = false)
    (hgap : isGap x = false) :
    readQuoted single (fuel + 1) c = do
      let (text, c) ← readQuoted single fuel (c.skip 1)
      return (x :: text, c) := by
  rw [quoteOf] at hx
  rw [isGap] at hgap
  simp only [readQuoted, hmark, hc, hx, hescape, hgap, Bool.false_eq_true, if_false]

end Step

/-- A quoted scalar ends at a quote. -/
theorem readQuoted_eq_none {single : Bool} {fuel : Nat} {c : Cursor}
    (h : quoteOf single ∉ c.rest) : readQuoted single fuel c = none := by
  induction fuel generalizing c with
  | zero => rfl
  | succ fuel ih =>
      have hnone {c' : Cursor} (hbefore : c.Before c') : readQuoted single fuel c' = none :=
        ih fun hmem => h (hbefore.suffix.mem hmem)
      cases hmark : c.atDocumentMark with
      | true => exact readQuoted_mark hmark
      | false =>
          cases hc : c.rest with
          | nil => exact readQuoted_nil hc
          | cons x r =>
              have hskip : c.Before (c.skip 1) := Cursor.before_skip (by simp [hc])
              have hx : x ≠ quoteOf single := fun hx => h (by simp [hc, hx])
              cases hescape : !single && x == '\\' with
              | true =>
                  rw [readQuoted_escape hmark hc hx hescape]
                  split
                  · cases hgap : Gap.read 0 (r.length + 1) ⟨true, [], [], []⟩
                        (c.skip 1).skipBreak with
                    | none => rfl
                    | some g =>
                        have hbefore := hskip.trans ((Cursor.blank_takeBreak _).before.trans
                          (Gap.blank_read hgap).before)
                        simp [hnone hbefore]
                  · cases he : readEscape (c.skip 1) with
                    | none => rfl
                    | some e => simp [hnone (hskip.trans (before_readEscape he))]
              | false =>
                  cases hgap : isGap x with
                  | true =>
                      rw [readQuoted_gap hmark hc hx hescape hgap]
                      cases hread : Gap.read 0 (r.length + 2) .none c with
                      | none => rfl
                      | some g => simp [hnone (Gap.blank_read hread).before]
                  | false =>
                      rw [readQuoted_other hmark hc hx hescape hgap]
                      simp [hnone hskip]

/-- What is read before more of a scalar does not move the place where that ends. -/
theorem exists_of_bind_add {x : Option (List Char × Cursor)} {add : List Char → List Char}
    {text : List Char} {c : Cursor} (h : (do let (t, d) ← x; return (add t, d)) = some (text, c)) :
    ∃ t, x = some (t, c) := by
  obtain ⟨⟨t, d⟩, hx, hpair⟩ := Option.bind_eq_some_iff.mp h
  obtain ⟨-, rfl⟩ : add t = text ∧ d = c := by simpa using hpair
  exact ⟨t, hx⟩

/-- A quoted scalar is read from what is ahead. -/
theorem before_readQuoted {single : Bool} {fuel : Nat} {c c' : Cursor} {text : List Char}
    (h : readQuoted single fuel c = some (text, c')) : c.Before c' := by
  induction fuel generalizing c text with
  | zero => cases h
  | succ fuel ih =>
      cases hmark : c.atDocumentMark with
      | true => simp [readQuoted_mark hmark] at h
      | false =>
          cases hc : c.rest with
          | nil => simp [readQuoted_nil hc] at h
          | cons x r =>
              have hskip : c.Before (c.skip 1) := Cursor.before_skip (by simp [hc])
              by_cases hx : x = quoteOf single
              · rw [readQuoted_quote hmark hc hx] at h
                split at h
                · next hpair =>
                    obtain ⟨t, ht⟩ := exists_of_bind_add h
                    have hr : 1 ≤ r.length := by
                      cases r with
                      | nil => simp at hpair
                      | cons y r => simp
                    exact (Cursor.before_skip (by simpa [hc] using hr)).trans (ih ht)
                · obtain ⟨-, rfl⟩ : _ ∧ c.skip 1 = c' := by simpa using h
                  exact hskip
              · cases hescape : !single && x == '\\' with
                | true =>
                    rw [readQuoted_escape hmark hc hx hescape] at h
                    split at h
                    · obtain ⟨⟨gap, d⟩, hgap, h⟩ := Option.bind_eq_some_iff.mp h
                      obtain ⟨t, ht⟩ := exists_of_bind_add h
                      exact hskip.trans ((Cursor.blank_takeBreak _).before.trans
                        ((Gap.blank_read hgap).before.trans (ih ht)))
                    · obtain ⟨⟨e, d⟩, he, h⟩ := Option.bind_eq_some_iff.mp h
                      obtain ⟨t, ht⟩ := exists_of_bind_add h
                      exact hskip.trans ((before_readEscape he).trans (ih ht))
                | false =>
                    cases hgap : isGap x with
                    | true =>
                        rw [readQuoted_gap hmark hc hx hescape hgap] at h
                        obtain ⟨⟨gap, d⟩, hread, h⟩ := Option.bind_eq_some_iff.mp h
                        obtain ⟨t, ht⟩ := exists_of_bind_add h
                        exact (Gap.blank_read hread).before.trans (ih ht)
                    | false =>
                        rw [readQuoted_other hmark hc hx hescape hgap] at h
                        obtain ⟨t, ht⟩ := exists_of_bind_add h
                        exact hskip.trans (ih ht)

/-- What is read before more of a scalar does not move with the text. -/
theorem move_bind_add {x : Option (List Char × Cursor)} {add : List Char → List Char} :
    (do let (t, d) ← f.move x; return (add t, d)) =
      f.move (do let (t, d) ← x; return (add t, d)) := by
  cases x <;> rfl

/-- A scalar of two parts, the second of which is read in the same way from places that
correspond. -/
theorem move_bind_read {α : Type} (add : α → List Char → List Char) {x : Option (α × Cursor)}
    {read read' : Cursor → Option (List Char × Cursor)}
    (h : ∀ a d, x = some (a, d) → read' (d.framed f) = f.move (read d)) :
    (do let (a, c) ← f.move x; let (t, c) ← read' c; return (add a t, c)) =
      f.move (do let (a, c) ← x; let (t, c) ← read c; return (add a t, c)) := by
  cases x with
  | none => rfl
  | some p =>
      obtain ⟨a, d⟩ := p
      simp only [Frame.move_some, Option.bind_eq_bind, Option.bind_some, h a d rfl]
      exact move_bind_add

/-! The steps of a framed quoted scalar, given that the rest of the scalar is read in the same way
from places that correspond. -/

section Framed

variable {single : Bool} {fuel k : Nat} {c : Cursor} {x : Char} {r : List Char}
  (hmark : c.atDocumentMark = false) (hc : c.rest = x :: r)
  (hnext : ∀ d : Cursor, c.Before d → d.rest.length < c.rest.length →
    readQuoted single k (d.framed f) = f.move (readQuoted single fuel d))

include hmark hc hnext

/-- A quote ends the scalar, or stands for itself if it is written twice. -/
theorem readQuoted_quote_framed (hx : x = quoteOf single) :
    readQuoted single (k + 1) (c.framed f) = f.move (readQuoted single (fuel + 1) c) := by
  have hmark' : (c.framed f).atDocumentMark = false := by rwa [Cursor.atDocumentMark_framed]
  rw [readQuoted_quote hmark hc hx, readQuoted_quote hmark' (Cursor.rest_framed f hc) hx,
    head_beq_framed (by decide)]
  split
  · next hpair =>
      have hr : 2 ≤ c.rest.length := by
        cases r with
        | nil => simp at hpair
        | cons y r => simp [hc]
      have hlt : (c.skip 2).rest.length < c.rest.length := by
        simp only [Cursor.skip, List.length_drop]
        omega
      rw [Cursor.skip_framed hr, hnext _ (Cursor.before_skip hr) hlt]
      exact move_bind_add
  · rw [Cursor.skip_framed (by simp [hc]), Frame.move_some]

/-- An escape, be it of a line break or of a character. -/
theorem readQuoted_escape_framed (htight : Tight c.rest) (hr : r ≠ []) (hx : x ≠ quoteOf single)
    (hescape : (!single && x == '\\') = true) :
    readQuoted single (k + 1) (c.framed f) = f.move (readQuoted single (fuel + 1) c) := by
  have hmark' : (c.framed f).atDocumentMark = false := by rwa [Cursor.atDocumentMark_framed]
  have hskip : c.Before (c.skip 1) := Cursor.before_skip (by simp [hc])
  have hskip' : (c.framed f).skip 1 = (c.skip 1).framed f := Cursor.skip_framed (by simp [hc])
  have hrest : (c.skip 1).rest = r := by simp [Cursor.skip, hc]
  rw [← hrest] at hr
  rw [readQuoted_escape hmark hc hx hescape,
    readQuoted_escape hmark' (Cursor.rest_framed f hc) hx hescape, ← hrest, endAhead_append hr,
    hskip', List.isEmpty_eq_false_iff.mpr hr, List.isEmpty_eq_false_iff.mpr (by simp [hr])]
  split
  · -- the line break is left out, and the blanks of the next line
    have htight := htight.suffix hskip.suffix
    have hbreak := (c.skip 1).blank_takeBreak
    have hlength := hbreak.before.length_le
    rw [Cursor.skipBreak, Cursor.takeBreak_framed htight hr,
      Gap.read_framed (htight.suffix hbreak.before.suffix) (hbreak.ne_nil htight hr)
        (Nat.lt_succ_of_le hlength) (by rw [List.length_append]; omega)]
    refine move_bind_read (Gap.text · ++ ·) fun gap d hgap => ?_
    have hbefore := hbreak.before.trans (Gap.blank_read hgap).before
    exact hnext d (hskip.trans hbefore) (hbefore.length_lt_of_skip hc)
  · rw [readEscape_framed hr]
    refine move_bind_read List.cons fun e d he => ?_
    exact hnext d (hskip.trans (before_readEscape he)) ((before_readEscape he).length_lt_of_skip hc)

variable (hx : x ≠ quoteOf single) (hescape : (!single && x == '\\') = false)

include hx hescape

/-- White space in the scalar, with more of the scalar behind it. -/
theorem readQuoted_gap_framed (htight : Tight c.rest) (hgap : isGap x = true) :
    readQuoted single (k + 1) (c.framed f) = f.move (readQuoted single (fuel + 1) c) := by
  have hmark' : (c.framed f).atDocumentMark = false := by rwa [Cursor.atDocumentMark_framed]
  rw [readQuoted_gap hmark hc hx hescape hgap,
    readQuoted_gap hmark' (Cursor.rest_framed f hc) hx hescape hgap,
    Gap.read_framed htight (by simp [hc]) (by rw [hc, List.length_cons]; exact Nat.lt_succ_self _)
      (by rw [hc, List.length_cons, List.length_append]; omega)]
  refine move_bind_read (Gap.text · ++ ·) fun gap d hread => ?_
  exact hnext d (Gap.blank_read hread).before
    (Gap.length_read_lt (by rw [hc, List.length_cons]; exact Nat.lt_succ_self _) hread hc hgap)

/-- A character that stands for itself. -/
theorem readQuoted_other_framed (hgap : isGap x = false) :
    readQuoted single (k + 1) (c.framed f) = f.move (readQuoted single (fuel + 1) c) := by
  have hmark' : (c.framed f).atDocumentMark = false := by rwa [Cursor.atDocumentMark_framed]
  have hskip : c.Before (c.skip 1) := Cursor.before_skip (by simp [hc])
  rw [readQuoted_other hmark hc hx hescape hgap,
    readQuoted_other hmark' (Cursor.rest_framed f hc) hx hescape hgap,
    Cursor.skip_framed (by simp [hc]),
    hnext _ hskip (Cursor.Before.length_lt_of_skip hc (.refl (c.skip 1)))]
  exact move_bind_add

end Framed

/-- **Quoted scalars in a frame**: a quoted scalar of a framed text is one of the text itself. -/
theorem readQuoted_framed {single : Bool} {c : Cursor} (htight : Tight c.rest)
    {fuel fuel' : Nat} (hfuel : c.rest.length < fuel) (hfuel' : c.rest.length < fuel') :
    readQuoted single fuel' (c.framed f) = f.move (readQuoted single fuel c) := by
  induction fuel generalizing c fuel' with
  | zero => omega
  | succ fuel ih =>
      obtain ⟨k, rfl⟩ : ∃ k, fuel' = k + 1 := ⟨fuel' - 1, by omega⟩
      by_cases hquote : quoteOf single ∈ c.rest
      · cases hmark : c.atDocumentMark with
        | true =>
            have hmark' : (c.framed f).atDocumentMark = true := by
              rwa [Cursor.atDocumentMark_framed]
            rw [readQuoted_mark hmark, readQuoted_mark hmark', Frame.move_none]
        | false =>
            obtain ⟨x, r, hc⟩ := List.exists_cons_of_ne_nil (List.ne_nil_of_mem hquote)
            have hnext (d : Cursor) (hbefore : c.Before d) (hlt : d.rest.length < c.rest.length) :
                readQuoted single k (d.framed f) = f.move (readQuoted single fuel d) :=
              ih (htight.suffix hbefore.suffix) (by omega) (by omega)
            by_cases hx : x = quoteOf single
            · exact readQuoted_quote_framed hmark hc hnext hx
            · cases hescape : !single && x == '\\' with
              | true =>
                  have hr : r ≠ [] := by
                    rintro rfl
                    exact hx (by simpa [hc, eq_comm] using hquote)
                  exact readQuoted_escape_framed hmark hc hnext htight hr hx hescape
              | false =>
                  cases hgap : isGap x with
                  | true => exact readQuoted_gap_framed hmark hc hnext hx hescape htight hgap
                  | false => exact readQuoted_other_framed hmark hc hnext hx hescape hgap
      · -- without a quote in the text there is none in the frame either
        have hquote' : quoteOf single ∉ (c.framed f).rest := fun hmem => by
          obtain hmem | hmem := List.mem_append.mp hmem
          · exact hquote hmem
          · have hgap := f.isGap_of_mem _ hmem
            cases single <;> simp [quoteOf, isGap, isSpace, isBreak] at hgap
        rw [readQuoted_eq_none hquote, readQuoted_eq_none hquote', Frame.move_none]

end Broadsheet.Yaml
