import Broadsheet.Proofs.Yaml.Scalars

/-!
# Broadsheet.Proofs.Yaml.Blocks

Block scalars, told by their lines (`ReadsLines`).  A block scalar that ends
with a text takes white space behind the text along, and that is all that a
frame can change about it (`ReadsBlock.of_framed`).
-/

namespace Broadsheet.Yaml

variable {f : Frame}

/-- What a reading of the text gives, for the framed text. -/
def Frame.move₂ (f : Frame) {α β : Type} :
    Option (α × β × Cursor) → Option (α × β × Cursor) :=
  Option.map fun x => (x.1, x.2.1, x.2.2.framed f)

theorem Frame.move₂_eq_some_iff {α β : Type} {x : Option (α × β × Cursor)} {a : α} {b : β}
    {d : Cursor} : f.move₂ x = some (a, b, d) ↔ ∃ c, x = some (a, b, c) ∧ d = c.framed f := by
  cases x with
  | none => simp [move₂]
  | some p =>
      obtain ⟨a', b', c⟩ := p
      simp only [move₂, Option.map_some, Option.some.injEq, Prod.mk.injEq]
      constructor
      · rintro ⟨rfl, rfl, rfl⟩
        exact ⟨c, ⟨rfl, rfl, rfl⟩, rfl⟩
      · rintro ⟨e, ⟨rfl, rfl, rfl⟩, rfl⟩
        exact ⟨rfl, rfl, rfl⟩

/-! ## Indentation -/

namespace Cursor

/-- The place behind the indentation of a line: behind all blanks if it is not known, and behind
those before the column that it ends in if it is. -/
def indented (indent : Option Nat) (c : Cursor) : Cursor :=
  c.skip <| match indent with
    | some n => min (c.run (· == ' ')).length (n - c.column)
    | none => (c.run (· == ' ')).length

/-- Whether a place may still be in the indentation. -/
def inIndent (indent : Option Nat) (c : Cursor) : Bool :=
  match indent with
  | some n => c.column < n
  | none => true

variable {indent : Option Nat} {c : Cursor}

/-- Indentation is white space. -/
theorem blank_indented (indent : Option Nat) (c : Cursor) : c.Blank (c.indented indent) := by
  refine blank_skip (p := (· == ' ')) ?_ fun x hx => by simp_all [isGap, isSpace]
  cases indent with
  | none => exact Nat.le_refl _
  | some n => exact Nat.min_le_left _ _

/-- A run ends before a character that it does not take. -/
theorem length_run_lt {p : Char → Bool} {x : Char} (hx : x ∈ c.rest) (hp : p x = false) :
    (c.run p).length < c.rest.length := by
  refine Nat.lt_of_le_of_ne (length_run_le c p) fun hlength => ?_
  have hall : c.run p = c.rest := (List.takeWhile_prefix p).eq_of_length hlength
  have hmem : p x = true := List.all_eq_true.mp List.all_takeWhile x (hall.symm ▸ hx)
  simp [hp] at hmem

theorem length_run_blank_lt (htight : Tight c.rest) (hne : c.rest ≠ []) :
    (c.run (· == ' ')).length < c.rest.length := by
  obtain ⟨x, hx, hgap⟩ := htight.exists_mem hne
  have hspace := isSpace_eq_false hgap
  exact length_run_lt hx (by simp_all [isSpace])

theorem indented_of_nil (indent : Option Nat) (hc : c.rest = []) : c.indented indent = c := by
  obtain ⟨rest, index, line, column⟩ := c
  obtain rfl : rest = [] := hc
  cases indent <;> simp [indented, run, skip]

theorem rest_indented_of_nil (indent : Option Nat) (hc : c.rest = []) :
    (c.indented indent).rest = [] := by
  rw [indented_of_nil indent hc, hc]

/-- In a tight text, indentation is the same in the framed text: it does not reach the end. -/
theorem indented_framed (htight : Tight c.rest) (hne : c.rest ≠ []) :
    (c.framed f).indented indent = (c.indented indent).framed f := by
  obtain ⟨x, hx, hgap⟩ := htight.exists_mem hne
  have hspace := isSpace_eq_false hgap
  have hlt := length_run_blank_lt htight hne
  have hrun : (c.framed f).run (· == ' ') = c.run (· == ' ') :=
    run_framed (.inl ⟨x, hx, by simp_all [isSpace]⟩)
  cases indent with
  | none =>
      simp only [indented, hrun]
      exact skip_framed (Nat.le_of_lt hlt)
  | some n =>
      simp only [indented, hrun, column_framed]
      exact skip_framed (by omega)

@[simp] theorem inIndent_framed (indent : Option Nat) (c : Cursor) :
    (c.framed f).inIndent indent = c.inIndent indent := rfl

/-- A blank behind the indentation stands in the column where that ends. -/
theorem column_indented {r : List Char} (hrest : (c.indented indent).rest = ' ' :: r) :
    ∃ n, indent = some n ∧ n ≤ (c.indented indent).column := by
  have hstop : (c.skipWhile (· == ' ')).rest ≠ ' ' :: r := fun h => by
    simpa using skipWhile_stops h
  cases indent with
  | none => exact absurd hrest hstop
  | some n =>
      refine ⟨n, rfl, ?_⟩
      rcases Nat.le_total (c.run (· == ' ')).length (n - c.column) with hle | hle
      · simp only [indented, Nat.min_eq_left hle] at hrest
        exact absurd hrest hstop
      · simp only [indented, skip, Nat.min_eq_right hle]
        omega

end Cursor

/-! ## Blank lines -/

section Breaks

variable {indent : Option Nat} {fuel : Nat} {widest w : Nat} {breaks b : List Char} {c d : Cursor}
  {x : Char} {r : List Char}

theorem blockBreaks_nil (hc : (c.indented indent).rest = []) :
    blockBreaks indent (fuel + 1) widest breaks c =
      some (max widest (c.indented indent).column, breaks, c.indented indent) := by
  cases indent <;> simp only [Cursor.indented] at hc ⊢ <;> simp only [blockBreaks, hc]

/-- One blank line: a tab in the indentation is no part of it. -/
theorem blockBreaks_cons (hc : (c.indented indent).rest = x :: r) :
    blockBreaks indent (fuel + 1) widest breaks c =
      if (c.indented indent).inIndent indent && x == '\t' then none
      else if isBreak x then
        blockBreaks indent fuel (max widest (c.indented indent).column)
          (breaks ++ (c.indented indent).takeBreak.1) (c.indented indent).takeBreak.2
      else some (max widest (c.indented indent).column, breaks, c.indented indent) := by
  cases indent <;> simp only [Cursor.indented] at hc ⊢ <;>
    simp only [blockBreaks, hc, Cursor.inIndent] <;> rfl

/-- Blank lines are read up to a line that has content, or that the indentation ends in; a line
without content is one of them. -/
theorem blockBreaks_cases (h : blockBreaks indent (fuel + 1) widest breaks c = some (w, b, d)) :
    (b = breaks ∧ d = c.indented indent ∧ ∀ x r, d.rest = x :: r →
      isBreak x = false ∧ (x = '\t' → d.inIndent indent = false)) ∨
    ∃ x r, (c.indented indent).rest = x :: r ∧ isBreak x = true ∧
      blockBreaks indent fuel (max widest (c.indented indent).column)
        (breaks ++ (c.indented indent).takeBreak.1) (c.indented indent).takeBreak.2 =
          some (w, b, d) := by
  cases hc : (c.indented indent).rest with
  | nil =>
      rw [blockBreaks_nil hc] at h
      cases h
      exact .inl ⟨rfl, rfl, by simp [hc]⟩
  | cons x r =>
      rw [blockBreaks_cons hc] at h
      split at h
      · cases h
      · next htab =>
          split at h
          · next hbreak => exact .inr ⟨x, r, rfl, hbreak, h⟩
          · next hbreak =>
              cases h
              refine .inl ⟨rfl, rfl, fun y s hy => ?_⟩
              obtain ⟨rfl, rfl⟩ := List.cons_eq_cons.mp (hc.symm.trans hy)
              refine ⟨by simpa using hbreak, ?_⟩
              rintro rfl
              simpa using htab

/-- Blank lines are white space. -/
theorem blank_blockBreaks (h : blockBreaks indent fuel widest breaks c = some (w, b, d)) :
    c.Blank d := by
  induction fuel generalizing widest breaks c with
  | zero => cases h
  | succ fuel ih =>
      have hblank := c.blank_indented indent
      obtain ⟨-, rfl, -⟩ | ⟨x, r, -, -, h⟩ := blockBreaks_cases h
      · exact hblank
      · exact hblank.trans ((Cursor.blank_takeBreak _).trans (ih h))

theorem gap_takeBreak (c : Cursor) : ∀ x ∈ c.takeBreak.1, isGap x = true := by
  rw [Cursor.takeBreak]
  split
  · simp [isGap, isBreak]
  · next b r _ _ =>
      split
      · next hb =>
          have hgap : isGap b = true := by simp [isGap, hb]
          split
          · simpa using hgap
          · simp [isGap, isBreak]
      · simp
  · simp

/-- The line breaks of blank lines are line breaks. -/
theorem gap_of_blockBreaks (h : blockBreaks indent fuel widest breaks c = some (w, b, d))
    (hbreaks : ∀ x ∈ breaks, isGap x = true) : ∀ x ∈ b, isGap x = true := by
  induction fuel generalizing widest breaks c with
  | zero => cases h
  | succ fuel ih =>
      obtain ⟨rfl, -⟩ | ⟨x, r, -, -, h⟩ := blockBreaks_cases h
      · exact hbreaks
      · refine ih h fun x hx => ?_
        exact (List.mem_append.mp hx).elim (hbreaks x) (gap_takeBreak _ x)

/-- Blank lines do not lead behind the indentation that is known. -/
theorem column_blockBreaks {n : Nat}
    (h : blockBreaks (some n) fuel widest breaks c = some (w, b, d)) (hcolumn : c.column ≤ n) :
    d.column ≤ n := by
  induction fuel generalizing widest breaks c with
  | zero => cases h
  | succ fuel ih =>
      obtain ⟨-, rfl, -⟩ | ⟨x, r, hc, hbreak, h⟩ := blockBreaks_cases h
      · simp only [Cursor.indented, Cursor.skip]
        omega
      · refine ih h ?_
        rw [Cursor.column_takeBreak hc hbreak]
        exact Nat.zero_le n

/-- White space behind blank lines belongs to a line of the block. -/
theorem blockBreaks_stops (h : blockBreaks indent fuel widest breaks c = some (w, b, d))
    (hd : d.rest = x :: r) (hx : isGap x = true) : ∃ n, indent = some n ∧ n ≤ d.column := by
  induction fuel generalizing widest breaks c with
  | zero => cases h
  | succ fuel ih =>
      obtain ⟨-, rfl, hstop⟩ | ⟨_, _, -, -, h⟩ := blockBreaks_cases h
      · obtain ⟨hbreak, htab⟩ := hstop x r hd
        obtain rfl | rfl : x = ' ' ∨ x = '\t' := by simpa [isGap, hbreak, isSpace] using hx
        · exact Cursor.column_indented hd
        · have htab := htab rfl
          cases indent with
          | none => simp [Cursor.inIndent] at htab
          | some n => exact ⟨n, rfl, by simpa [Cursor.inIndent] using htab⟩
      · exact ih h

/-- **Blank lines in a frame**: those in a tight text are the same in the framed text. -/
theorem blockBreaks_framed (htight : Tight c.rest) (hne : c.rest ≠ []) {fuel' : Nat}
    (hfuel : c.rest.length < fuel) (hfuel' : c.rest.length < fuel') :
    blockBreaks indent fuel' widest breaks (c.framed f) =
      f.move₂ (blockBreaks indent fuel widest breaks c) := by
  induction fuel generalizing widest breaks c fuel' with
  | zero => omega
  | succ fuel ih =>
      obtain ⟨k, rfl⟩ : ∃ k, fuel' = k + 1 := ⟨fuel' - 1, by omega⟩
      have hblank := c.blank_indented indent
      have hindented : (c.framed f).indented indent = (c.indented indent).framed f :=
        Cursor.indented_framed htight hne
      have hne' := hblank.ne_nil htight hne
      have htight' := htight.suffix hblank.before.suffix
      obtain ⟨x, r, hc⟩ := List.exists_cons_of_ne_nil hne'
      have hc' : ((c.framed f).indented indent).rest = x :: (r ++ f.after) := by
        rw [hindented, Cursor.rest_framed f hc]
      rw [blockBreaks_cons hc, blockBreaks_cons hc', hindented,
        Cursor.takeBreak_framed htight' hne', Cursor.inIndent_framed]
      split
      · rfl
      · split
        · next hbreak =>
            have hbefore := (c.indented indent).blank_takeBreak
            have hlt := Cursor.length_takeBreak_lt hc hbreak
            have hle := hblank.before.length_le
            exact ih (htight'.suffix hbefore.before.suffix) (hbefore.ne_nil htight' hne') (by omega)
              (by omega)
        · rfl

end Breaks

/-! ## Lines -/

/-- The end of the line that a place stands in: the text that it stands for, and the place after
it. -/
def Cursor.lineEnd (c : Cursor) : List Char × Cursor :=
  (c.skipWhile fun x => !isBreak x).takeBreak

/-- What a block has between two lines: the end of the first line, or what that is folded to. -/
def lineJoint (literal : Bool) (lead trail : List Char) (leadBlank blank : Bool) : List Char :=
  if !literal && lead.head? == some '\n' && !leadBlank && !blank then
    (if trail.isEmpty then [' '] else [])
  else lead

/-- What a reading of a block's lines gives: their text, the end of the last one, the breaks after
that, and the place behind them. -/
abbrev LinesRead := List Char × List Char × List Char × Cursor

/-- The reading of the lines of a block, line by line. -/
inductive ReadsLines (literal : Bool) (indent : Nat) :
    List Char → List Char → Bool → Cursor → LinesRead → Prop
  | stop {lead trail : List Char} {leadBlank : Bool} {c : Cursor} :
      c.column ≠ indent ∨ c.rest = [] →
      ReadsLines literal indent lead trail leadBlank c ([], lead, trail, c)
  | line {lead trail : List Char} {leadBlank : Bool} {c d e : Cursor} {w : Nat}
      {breaks text lead' trail' : List Char} :
      c.column = indent → c.rest ≠ [] →
      blockBreaks (some indent) (c.lineEnd.2.rest.length + 1) 0 [] c.lineEnd.2 =
        some (w, breaks, d) →
      ReadsLines literal indent c.lineEnd.1 breaks (c.rest.head?.any isSpace) d
        (text, lead', trail', e) →
      ReadsLines literal indent lead trail leadBlank c
        (lineJoint literal lead trail leadBlank (c.rest.head?.any isSpace) ++ trail ++
          (c.run fun x => !isBreak x) ++ text, lead', trail', e)

section Lines

variable {literal : Bool} {indent fuel : Nat} {lead trail : List Char} {leadBlank : Bool}
  {c : Cursor} {r : LinesRead}

theorem blockLines_succ :
    blockLines literal indent (fuel + 1) lead trail leadBlank c =
      if c.column ≠ indent ∨ c.rest.isEmpty then some ([], lead, trail, c)
      else
        (blockBreaks (some indent) (c.lineEnd.2.rest.length + 1) 0 [] c.lineEnd.2).bind
          fun (_, breaks, d) =>
            (blockLines literal indent fuel c.lineEnd.1 breaks (c.rest.head?.any isSpace) d).bind
              fun (text, lead', trail', e) =>
                some (lineJoint literal lead trail leadBlank (c.rest.head?.any isSpace) ++ trail ++
                  (c.run fun x => !isBreak x) ++ text, lead', trail', e) :=
  rfl

/-- What the scanner reads are the lines of a block. -/
theorem readsLines_of_blockLines
    (h : blockLines literal indent fuel lead trail leadBlank c = some r) :
    ReadsLines literal indent lead trail leadBlank c r := by
  induction fuel generalizing lead trail leadBlank c r with
  | zero => cases h
  | succ fuel ih =>
      rw [blockLines_succ] at h
      split at h
      · next hstop =>
          cases h
          exact .stop (by simpa using hstop)
      · next hstop =>
          obtain ⟨hcolumn, hne⟩ : c.column = indent ∧ c.rest ≠ [] := by simpa using hstop
          obtain ⟨⟨w, breaks, d⟩, hbreaks, h⟩ := Option.bind_eq_some_iff.mp h
          obtain ⟨⟨text, lead', trail', e⟩, hlines, h⟩ := Option.bind_eq_some_iff.mp h
          cases h
          exact .line hcolumn hne hbreaks (ih hlines)

theorem before_lineEnd (c : Cursor) : c.Before c.lineEnd.2 :=
  (Cursor.before_skipWhile c _).trans (Cursor.blank_takeBreak _).before

/-- A line takes something, so the lines come to an end. -/
theorem length_lineEnd_lt (hne : c.rest ≠ []) : c.lineEnd.2.rest.length < c.rest.length := by
  have hle := (Cursor.before_skipWhile c fun x => !isBreak x).length_le
  cases hrest : (c.skipWhile fun x => !isBreak x).rest with
  | nil =>
      have hend := (Cursor.blank_takeBreak (c.skipWhile fun x => !isBreak x)).before.length_le
      rw [hrest] at hend
      exact Nat.lt_of_le_of_lt hend (List.length_pos_iff.mpr hne)
  | cons x r =>
      have hbreak : isBreak x = true := by simpa using Cursor.skipWhile_stops hrest
      exact Nat.lt_of_lt_of_le (Cursor.length_takeBreak_lt hrest hbreak) hle

/-- The lines of a block are read from what is ahead. -/
theorem ReadsLines.before (h : ReadsLines literal indent lead trail leadBlank c r) :
    c.Before r.2.2.2 := by
  induction h with
  | stop => exact .refl _
  | line _ _ hbreaks _ ih =>
      exact (before_lineEnd _).trans ((blank_blockBreaks hbreaks).before.trans ih)

/-- The scanner reads the lines of a block if it has a step for each character. -/
theorem ReadsLines.blockLines_eq (h : ReadsLines literal indent lead trail leadBlank c r)
    (hfuel : c.rest.length < fuel) :
    blockLines literal indent fuel lead trail leadBlank c = some r := by
  induction h generalizing fuel with
  | stop hstop =>
      obtain ⟨k, rfl⟩ : ∃ k, fuel = k + 1 := ⟨fuel - 1, by omega⟩
      rw [blockLines_succ, if_pos (by simpa using hstop)]
  | line hcolumn hne hbreaks _ ih =>
      obtain ⟨k, rfl⟩ : ∃ k, fuel = k + 1 := ⟨fuel - 1, by omega⟩
      have hlt := length_lineEnd_lt hne
      have hle := (blank_blockBreaks hbreaks).before.length_le
      have hnext : blockLines literal indent k _ _ _ _ = some _ := ih (by omega)
      rw [blockLines_succ, if_neg (by simp [hcolumn, hne]), hbreaks]
      simp only [Option.bind_some, hnext]

end Lines

section LineEnd

variable {c : Cursor} {x : Char} (htight : Tight c.rest) (hmem : x ∈ c.rest)
  (hx : isBreak x = true)

omit htight in
include hmem hx in
theorem skipWhile_line_ne_nil : (c.skipWhile fun x => !isBreak x).rest ≠ [] := by
  have hlt := Cursor.length_run_lt (p := fun x => !isBreak x) hmem (by simp [hx])
  simpa [Cursor.skipWhile, Cursor.skip, Cursor.run] using hlt

include htight hmem hx

/-- A tight text goes on after the end of a line. -/
theorem lineEnd_ne_nil : c.lineEnd.2.rest ≠ [] :=
  (Cursor.blank_takeBreak _).ne_nil (htight.suffix (Cursor.before_skipWhile c _).suffix)
    (skipWhile_line_ne_nil hmem hx)

/-- The end of a line that the text ends is the same in the framed text. -/
theorem lineEnd_framed : (c.framed f).lineEnd = (c.lineEnd.1, c.lineEnd.2.framed f) := by
  rw [Cursor.lineEnd, Cursor.skipWhile_framed (.inl ⟨x, hmem, by simp [hx]⟩),
    Cursor.takeBreak_framed (htight.suffix (Cursor.before_skipWhile c _).suffix)
      (skipWhile_line_ne_nil hmem hx)]
  rfl

end LineEnd

/-- After the end of a line a new one begins, or the text ends. -/
theorem column_lineEnd (c : Cursor) : c.lineEnd.2.column = 0 ∨ c.lineEnd.2.rest = [] := by
  cases hrest : (c.skipWhile fun x => !isBreak x).rest with
  | nil =>
      have hsuffix := (Cursor.blank_takeBreak (c.skipWhile fun x => !isBreak x)).before.suffix
      exact .inr (List.suffix_nil.mp (hrest ▸ hsuffix))
  | cons x r =>
      exact .inl (Cursor.column_takeBreak hrest (by simpa using Cursor.skipWhile_stops hrest))

/-- Between two lines of white space there is white space. -/
theorem gap_lineJoint {literal leadBlank blank : Bool} {lead trail : List Char}
    (hlead : ∀ x ∈ lead, isGap x = true) :
    ∀ x ∈ lineJoint literal lead trail leadBlank blank, isGap x = true := by
  rw [lineJoint]
  split
  · split <;> simp [isGap, isSpace]
  · exact hlead

/-- Blank lines end in the indentation's column if there is white space behind them. -/
theorem blockBreaks_gap {n fuel widest w : Nat} {breaks b : List Char} {c d : Cursor}
    (h : blockBreaks (some n) fuel widest breaks c = some (w, b, d))
    (hc : ∀ x ∈ c.rest, isGap x = true) (hcolumn : c.column ≤ n ∨ c.rest = []) :
    d.column = n ∨ d.rest = [] := by
  have hsuffix := (blank_blockBreaks h).before.suffix
  obtain hcolumn | hnil := hcolumn
  · cases hd : d.rest with
    | nil => exact .inr rfl
    | cons x r =>
        obtain ⟨_, hn, hle⟩ := blockBreaks_stops h hd (hc x (hsuffix.mem (by simp [hd])))
        cases hn
        exact .inl (Nat.le_antisymm (column_blockBreaks h hcolumn) hle)
  · exact .inr (by simpa [hnil] using hsuffix)

/-! The last line of a text. -/

section LastLine

variable {c : Cursor} (hall : ∀ x ∈ c.rest, (!isBreak x) = true)

include hall

/-- The last line ends with the text. -/
theorem lineEnd_lastLine : c.lineEnd = ([], c.skip c.rest.length) := by
  have hskip : (c.skipWhile fun x => !isBreak x) = c.skip c.rest.length :=
    congrArg (fun s : List Char => c.skip s.length) (Cursor.run_eq_rest hall)
  rw [Cursor.lineEnd, hskip, Cursor.takeBreak]
  simp [Cursor.skip]

/-- In the framed text, white space belongs to the last line, up to a line break. -/
theorem run_lastLine_framed : ((c.framed f).run fun x => !isBreak x) =
    c.rest ++ f.after.takeWhile fun x => !isBreak x :=
  List.takeWhile_append_of_pos hall

/-- What is behind the last line in the framed text is white space. -/
theorem lineEnd_lastLine_framed :
    ((c.skip c.rest.length).framed f).Blank (c.framed f).lineEnd.2 := by
  have hskip : (c.skipWhile fun x => !isBreak x) = c.skip c.rest.length :=
    congrArg (fun s : List Char => c.skip s.length) (Cursor.run_eq_rest hall)
  rw [← hskip]
  exact (Cursor.blank_skipWhile_framed _).trans (Cursor.blank_takeBreak _)

/-- The last line of a text is read to its end, with no break behind it. -/
theorem ReadsLines.lastLine {literal : Bool} {indent : Nat} {lead trail : List Char}
    {leadBlank : Bool} (hcolumn : c.column = indent) (hne : c.rest ≠ []) :
    ReadsLines literal indent lead trail leadBlank c
      (lineJoint literal lead trail leadBlank (c.rest.head?.any isSpace) ++ trail ++ c.rest,
        [], [], c.skip c.rest.length) := by
  have hend : c.lineEnd.2.rest = [] := by
    rw [lineEnd_lastLine hall]
    exact List.drop_length
  have hnil := Cursor.rest_indented_of_nil (some indent) hend
  have hread : ReadsLines literal indent lead trail leadBlank c _ :=
    .line hcolumn hne (blockBreaks_nil hnil) (.stop (.inr hnil))
  rwa [Cursor.run_eq_rest hall, List.append_nil, Cursor.indented_of_nil _ hend,
    lineEnd_lastLine hall] at hread

end LastLine

/-- The lines of white space. -/
theorem ReadsLines.gap {literal : Bool} {indent : Nat} {lead trail text lead' trail' : List Char}
    {leadBlank : Bool} {c e : Cursor}
    (h : ReadsLines literal indent lead trail leadBlank c (text, lead', trail', e))
    (hc : ∀ x ∈ c.rest, isGap x = true) (hcolumn : c.column = indent ∨ c.rest = [])
    (hlead : ∀ x ∈ lead, isGap x = true) (htrail : ∀ x ∈ trail, isGap x = true) :
    e.rest = [] ∧ ∀ x ∈ text ++ lead' ++ trail', isGap x = true := by
  generalize hr : (text, lead', trail', e) = r at h
  induction h generalizing text lead' trail' e with
  | stop hstop =>
      cases hr
      refine ⟨?_, fun x hx => ?_⟩
      · obtain hcolumn | hnil := hcolumn
        · exact hstop.resolve_left (not_not_intro hcolumn)
        · exact hnil
      · exact (List.mem_append.mp hx).elim (hlead x) (htrail x)
  | @line lead trail leadBlank c d e' w breaks text' _ _ hcolumn' hne hbreaks _ ih =>
      cases hr
      have hend : ∀ x ∈ c.lineEnd.2.rest, isGap x = true := fun x hx =>
        hc x ((before_lineEnd c).suffix.mem hx)
      have hd : d.column = indent ∨ d.rest = [] :=
        blockBreaks_gap hbreaks hend ((column_lineEnd c).imp_left fun h => by omega)
      obtain ⟨he, htext⟩ := ih
        (fun x hx => hend x ((blank_blockBreaks hbreaks).before.suffix.mem hx))
        hd (gap_takeBreak _) (gap_of_blockBreaks hbreaks (by simp)) rfl
      refine ⟨he, fun x hx => ?_⟩
      have hjoint : ∀ x ∈ lineJoint literal lead trail leadBlank (c.rest.head?.any isSpace),
          isGap x = true := gap_lineJoint hlead
      have hline : ∀ x ∈ c.run fun x => !isBreak x, isGap x = true := fun x hx =>
        hc x ((List.takeWhile_prefix _).mem hx)
      simp only [List.append_assoc, List.mem_append] at hx htext
      obtain hx | hx | hx | hx := hx
      · exact hjoint x hx
      · exact htrail x hx
      · exact hline x hx
      · exact htext x hx

/-- Behind the end of a text there are no more lines. -/
theorem ReadsLines.of_nil {literal : Bool} {indent : Nat} {lead trail text lead' trail' : List Char}
    {leadBlank : Bool} {c e : Cursor}
    (h : ReadsLines literal indent lead trail leadBlank c (text, lead', trail', e))
    (hc : c.rest = []) : text = [] ∧ lead' = lead ∧ trail' = trail := by
  cases h with
  | stop => exact ⟨rfl, rfl, rfl⟩
  | line _ hne => exact absurd hc hne

/-- The lines of a block that ends with a tight text do not end in white space. -/
theorem ReadsLines.tight {literal : Bool} {indent : Nat} {lead trail text lead' trail' : List Char}
    {leadBlank : Bool} {c e : Cursor}
    (h : ReadsLines literal indent lead trail leadBlank c (text, lead', trail', e))
    (htight : Tight c.rest) (hne : c.rest ≠ []) (he : e.rest = []) :
    lead' = [] ∧ trail' = [] ∧ Tight text ∧ text ≠ [] := by
  generalize hr : (text, lead', trail', e) = r at h
  induction h generalizing text lead' trail' e with
  | stop =>
      cases hr
      exact absurd he hne
  | @line lead trail leadBlank c d e' w breaks text' lead' trail' hcolumn _ hbreaks hlines ih =>
      cases hr
      by_cases hbreak : ∃ x ∈ c.rest, isBreak x = true
      · obtain ⟨x, hmem, hx⟩ := hbreak
        have htight' := htight.suffix (before_lineEnd c).suffix
        have hblank := blank_blockBreaks hbreaks
        obtain ⟨hlead, htrail, htext, hne⟩ := ih (htight'.suffix hblank.before.suffix)
          (hblank.ne_nil htight' (lineEnd_ne_nil htight hmem hx)) he rfl
        exact ⟨hlead, htrail, htext.append hne _, List.append_ne_nil_of_right_ne_nil _ hne⟩
      · -- the last line is the rest of the text
        have hall : ∀ x ∈ c.rest, (!isBreak x) = true := fun x hx => by
          simpa using fun hbreak' => hbreak ⟨x, hx, hbreak'⟩
        rw [lineEnd_lastLine hall] at hbreaks hlines
        have hend : (c.skip c.rest.length).rest = [] := List.drop_length
        have hnil := Cursor.rest_indented_of_nil (some indent) hend
        rw [blockBreaks_nil hnil] at hbreaks
        cases hbreaks
        obtain ⟨rfl, rfl, rfl⟩ := hlines.of_nil hnil
        rw [Cursor.run_eq_rest hall, List.append_nil]
        exact ⟨rfl, rfl, htight.append hne _, List.append_ne_nil_of_right_ne_nil _ hne⟩

/-- **The lines of a block in a frame** are those of the text itself; where they
end with the text, white space follows them. -/
theorem ReadsLines.of_framed {literal : Bool} {indent : Nat}
    {lead trail text lead' trail' : List Char} {leadBlank : Bool} {c e : Cursor}
    (h : ReadsLines literal indent lead trail leadBlank (c.framed f) (text, lead', trail', e))
    (htight : Tight c.rest) (hne : c.rest ≠ []) :
    (∃ e', e = e'.framed f ∧ e'.rest ≠ [] ∧
      ReadsLines literal indent lead trail leadBlank c (text, lead', trail', e')) ∨
    ∃ text' e' more, ReadsLines literal indent lead trail leadBlank c (text', [], [], e') ∧
      e'.rest = [] ∧ (e'.framed f).Blank e ∧ e.rest = [] ∧ text = text' ++ more ∧
        ∀ x ∈ more ++ lead' ++ trail', isGap x = true := by
  generalize hr : (text, lead', trail', e) = r at h
  generalize hframed : c.framed f = framed at h
  induction h generalizing c text lead' trail' e with
  | stop hstop =>
      cases hr
      subst hframed
      have hcolumn : c.column ≠ indent := hstop.resolve_right (by simp [Cursor.framed, hne])
      exact .inl ⟨c, rfl, hne, .stop (.inl hcolumn)⟩
  | @line lead trail leadBlank _ d e' w breaks text' _ _ hcolumn _ hbreaks hlines ih =>
      cases hr
      subst hframed
      have hblank : ((c.framed f).rest.head?.any isSpace) = c.rest.head?.any isSpace := by
        obtain ⟨x, r, hc⟩ := List.exists_cons_of_ne_nil hne
        rw [Cursor.rest_framed f hc, hc]
        rfl
      rw [hblank] at hlines ⊢
      by_cases hbreak : ∃ x ∈ c.rest, isBreak x = true
      · obtain ⟨x, hmem, hx⟩ := hbreak
        have hend := lineEnd_framed (f := f) htight hmem hx
        have hne' := lineEnd_ne_nil htight hmem hx
        have htight' := htight.suffix (before_lineEnd c).suffix
        rw [hend, blockBreaks_framed htight' hne' (Nat.lt_succ_self _)
          (by simp only [Cursor.framed, List.length_append]; omega)] at hbreaks
        obtain ⟨d', hbreaks', rfl⟩ := Frame.move₂_eq_some_iff.mp hbreaks
        have hd := blank_blockBreaks hbreaks'
        have hrun : ((c.framed f).run fun x => !isBreak x) = c.run fun x => !isBreak x :=
          Cursor.run_framed (.inl ⟨x, hmem, by simp [hx]⟩)
        rw [hrun]
        obtain ⟨e, he, hne, hread⟩ | ⟨text, e, more, hread, he, hblank', he', rfl, hmore⟩ :=
          ih (htight'.suffix hd.before.suffix) (hd.ne_nil htight' hne') rfl rfl
        · rw [hblank, hend] at hread
          exact .inl ⟨e, he, hne, .line hcolumn ‹_› hbreaks' hread⟩
        · rw [hblank, hend] at hread
          exact .inr
            ⟨_, e, more, .line hcolumn hne hbreaks' hread, he, hblank', he', by simp, hmore⟩
      · -- the last line of the text: the frame's white space follows it
        have hall : ∀ x ∈ c.rest, (!isBreak x) = true := fun x hx => by
          simpa using fun hbreak' => hbreak ⟨x, hx, hbreak'⟩
        have hend := lineEnd_lastLine_framed (f := f) hall
        have hgap : ∀ x ∈ (c.framed f).lineEnd.2.rest, isGap x = true := fun x hx =>
          f.isGap_of_mem x ((hend.suffix_after (by simp [Cursor.skip])).mem hx)
        have hgap' : ∀ x ∈ d.rest, isGap x = true := fun x hx =>
          hgap x ((blank_blockBreaks hbreaks).before.suffix.mem hx)
        have hblank' := (blank_blockBreaks hbreaks).trans (hlines.before.blank hgap')
        obtain ⟨he, hmore⟩ := hlines.gap hgap'
          (blockBreaks_gap hbreaks hgap ((column_lineEnd _).imp_left fun h => by omega))
          (gap_takeBreak _) (gap_of_blockBreaks hbreaks (by simp))
        refine .inr ⟨_, _, (f.after.takeWhile fun x => !isBreak x) ++ text',
          .lastLine hall hcolumn hne, by simp [Cursor.skip], hend.trans hblank', he, ?_,
          fun x hx => ?_⟩
        · rw [run_lastLine_framed hall]
          simp
        · simp only [List.append_assoc, List.mem_append] at hx hmore
          obtain hx | hx := hx
          · exact f.isGap_of_mem x ((List.takeWhile_prefix _).mem hx)
          · exact hmore x hx

/-! ## Scalars -/

/-- A character that is no indicator of a block. -/
def NoIndicator (x : Char) : Prop := x ≠ '+' ∧ x ≠ '-' ∧ Decimal.isDigit x = false

/-- White space indicates nothing of a block. -/
theorem noIndicator_of_gap {x : Char} (hx : isGap x = true) : NoIndicator x := by
  obtain rfl | rfl | rfl | rfl | rfl | rfl | rfl := gap_cases hx <;>
    exact ⟨by decide, by decide, by decide⟩

section Head

variable {c : Cursor} {x y : Char} {r : List Char}

/-- Without an indicator, nothing is read of the head. -/
theorem readBlockHead_none (hrest : ∀ x r, c.rest = x :: r → NoIndicator x) :
    readBlockHead c = some (none, .clip, c) := by
  cases hc : c.rest with
  | nil => simp only [readBlockHead, hc]
  | cons x r =>
      obtain ⟨hplus, hminus, hdigit⟩ := hrest x r hc
      simp [readBlockHead, hc, hplus, hminus, hdigit]

/-- A block with one indicator at most. -/
theorem readBlockHead_one (hc : c.rest = x :: r) (hr : ∀ y s, r = y :: s → NoIndicator y) :
    readBlockHead c =
      if x == '+' || x == '-' then some (none, if x == '+' then .keep else .strip, c.skip 1)
      else if Decimal.isDigit x then
        (if x == '0' then none else some (x.toNat - 48)).map fun n => (some n, .clip, c.skip 1)
      else some (none, .clip, c) := by
  cases r with
  | nil => simp only [readBlockHead, hc]
  | cons y s =>
      obtain ⟨hplus, hminus, hdigit⟩ := hr y s rfl
      simp [readBlockHead, hc, hplus, hminus, hdigit]

/-- A block with two indicators at most, in either order. -/
theorem readBlockHead_two (hc : c.rest = x :: y :: r) :
    readBlockHead c =
      if x == '+' || x == '-' then
        if Decimal.isDigit y then
          (if y == '0' then none else some (y.toNat - 48)).map fun n =>
            (some n, if x == '+' then .keep else .strip, c.skip 2)
        else some (none, if x == '+' then .keep else .strip, c.skip 1)
      else if Decimal.isDigit x then
        if y == '+' || y == '-' then
          (if x == '0' then none else some (x.toNat - 48)).map fun n =>
            (some n, if y == '+' then .keep else .strip, c.skip 2)
        else (if x == '0' then none else some (x.toNat - 48)).map fun n => (some n, .clip, c.skip 1)
      else some (none, .clip, c) := by
  simp only [readBlockHead, hc]

end Head

theorem Frame.move₂_map {n : Option Nat} {chomp : Chomp} {c : Cursor} :
    f.move₂ (n.map fun n => (some n, chomp, c)) = n.map fun n => (some n, chomp, c.framed f) := by
  cases n <;> rfl

/-- The head of a block is the same in the framed text. -/
theorem readBlockHead_framed (c : Cursor) :
    readBlockHead (c.framed f) = f.move₂ (readBlockHead c) := by
  have hafter (x : Char) (w : List Char) (hw : f.after = x :: w) : NoIndicator x :=
    noIndicator_of_gap (f.isGap_of_mem x (by simp [hw]))
  match hc : c.rest with
  | [] =>
      have hrest : (c.framed f).rest = f.after := by simp [Cursor.framed, hc]
      rw [readBlockHead_none (hrest ▸ hafter), readBlockHead_none (by simp [hc])]
      rfl
  | [x] =>
      have hskip : (c.framed f).skip 1 = (c.skip 1).framed f := Cursor.skip_framed (by simp [hc])
      rw [readBlockHead_one (Cursor.rest_framed f hc) hafter, readBlockHead_one hc (by simp), hskip]
      split
      · rfl
      · split
        · exact Frame.move₂_map.symm
        · rfl
  | x :: y :: r =>
      have hskip : (c.framed f).skip 1 = (c.skip 1).framed f := Cursor.skip_framed (by simp [hc])
      have hskip' : (c.framed f).skip 2 = (c.skip 2).framed f := Cursor.skip_framed (by simp [hc])
      rw [readBlockHead_two (Cursor.rest_framed f hc), readBlockHead_two hc, hskip, hskip']
      split
      · split
        · exact Frame.move₂_map.symm
        · rfl
      · split
        · split <;> exact Frame.move₂_map.symm
        · rfl

/-- The head of a block is read from what is ahead. -/
theorem before_readBlockHead {c d : Cursor} {n : Option Nat} {chomp : Chomp}
    (h : readBlockHead c = some (n, chomp, d)) : c.Before d := by
  have hmap {x : Option Nat} {chomp' : Chomp} {k : Nat} (hk : k ≤ c.rest.length)
      (h : x.map (fun n => (some n, chomp', c.skip k)) = some (n, chomp, d)) : c.Before d := by
    obtain ⟨_, -, hpair⟩ := Option.map_eq_some_iff.mp h
    cases hpair
    exact Cursor.before_skip hk
  match hc : c.rest with
  | [] =>
      rw [readBlockHead_none (by simp [hc])] at h
      cases h
      exact .refl c
  | [x] =>
      rw [readBlockHead_one hc (by simp)] at h
      split at h
      · cases h
        exact Cursor.before_skip (by simp [hc])
      · split at h
        · exact hmap (by simp [hc]) h
        · cases h
          exact .refl c
  | x :: y :: r =>
      rw [readBlockHead_two hc] at h
      split at h
      · split at h
        · exact hmap (by simp [hc]) h
        · cases h
          exact Cursor.before_skip (by simp [hc])
      · split at h
        · split at h
          · exact hmap (by simp [hc]) h
          · exact hmap (by simp [hc]) h
        · cases h
          exact .refl c

/-- What becomes of the line breaks at the end of a block. -/
def Chomp.tail (chomp : Chomp) (lead trail : List Char) : List Char :=
  match chomp with
  | .strip => []
  | .clip => lead
  | .keep => lead ++ trail

/-- The place behind the line that a block begins in. -/
def Cursor.blockStart (c : Cursor) : Cursor := c.skipComment.skipBreak

/-- The indentation of a block, if it is given. -/
def knownIndent (outer : Nat) (given : Option Nat) : Option Nat :=
  given.map fun n => (outer - 1) + n

/-- The reading of a block scalar. -/
inductive ReadsBlock (literal : Bool) (outer : Nat) (c : Cursor) : List Char → Cursor → Prop
  | mk {given : Option Nat} {chomp : Chomp} {d d' e : Cursor} {widest : Nat}
      {breaks text lead trail : List Char} :
      readBlockHead c = some (given, chomp, d) → endAhead d.skipComment.rest = true →
      blockBreaks (knownIndent outer given) (d.blockStart.rest.length + 1) 0 [] d.blockStart =
        some (widest, breaks, d') →
      ReadsLines literal ((knownIndent outer given).getD (max (max widest outer) 1)) [] breaks false
        d' (text, lead, trail, e) →
      ReadsBlock literal outer c (text ++ chomp.tail lead trail) e

/-- **The scanner reads block scalars** as they are told by their lines. -/
theorem readBlock_eq_some_iff {literal : Bool} {outer : Nat} {c e : Cursor} {text : List Char} :
    readBlock literal outer c = some (text, e) ↔ ReadsBlock literal outer c text e := by
  rw [readBlock]
  constructor
  · intro h
    obtain ⟨⟨given, chomp, d⟩, hhead, h⟩ := Option.bind_eq_some_iff.mp h
    obtain ⟨_, hguard, h⟩ := Option.bind_eq_some_iff.mp h
    obtain ⟨⟨widest, breaks, d'⟩, hbreaks, h⟩ := Option.bind_eq_some_iff.mp h
    obtain ⟨⟨lines, lead, trail, e⟩, hlines, h⟩ := Option.bind_eq_some_iff.mp h
    have hend : endAhead d.skipComment.rest = true := by
      cases hend : endAhead d.skipComment.rest with
      | true => rfl
      | false => simp [guard, hend] at hguard
    cases h
    exact .mk hhead hend hbreaks (readsLines_of_blockLines hlines)
  · rintro ⟨hhead, hend, hbreaks, hlines⟩
    have hlines := hlines.blockLines_eq (Nat.lt_succ_self _)
    simp only [Cursor.blockStart, knownIndent] at hbreaks hlines
    simp only [hhead, hend, guard, hbreaks, hlines, if_true, Option.bind_eq_bind, Option.bind_some]
    rfl

theorem Cursor.before_blockStart (c : Cursor) : c.Before c.blockStart :=
  (Cursor.before_skipWithComment _ _).trans (Cursor.blank_takeBreak _).before

/-- A block scalar is read from what is ahead. -/
theorem ReadsBlock.before {literal : Bool} {outer : Nat} {c e : Cursor} {text : List Char}
    (h : ReadsBlock literal outer c text e) : c.Before e := by
  obtain ⟨hhead, -, hbreaks, hlines⟩ := h
  exact (before_readBlockHead hhead).trans <| (Cursor.before_blockStart _).trans <|
    (blank_blockBreaks hbreaks).before.trans hlines.before

theorem Chomp.tail_nil (chomp : Chomp) : chomp.tail [] [] = [] := by cases chomp <;> rfl

/-- What is left of the line breaks at the end of a block is white space. -/
theorem Chomp.gap_tail {chomp : Chomp} {lead trail : List Char}
    (h : ∀ x ∈ lead ++ trail, isGap x = true) : ∀ x ∈ chomp.tail lead trail, isGap x = true := by
  intro x hx
  cases chomp with
  | strip => simp [tail] at hx
  | clip => exact h x (List.mem_append_left trail hx)
  | keep => exact h x hx

/-- A block without content. -/
theorem ReadsBlock.empty {literal : Bool} {outer : Nat} {c d : Cursor} {given : Option Nat}
    {chomp : Chomp} (hhead : readBlockHead c = some (given, chomp, d))
    (hend : endAhead d.skipComment.rest = true) (hstart : d.blockStart.rest = []) :
    ReadsBlock literal outer c [] d.blockStart := by
  have hnil := Cursor.rest_indented_of_nil (knownIndent outer given) hstart
  have hread : ReadsBlock literal outer c _ _ :=
    .mk hhead hend (blockBreaks_nil hnil) (.stop (.inr hnil))
  rwa [Chomp.tail_nil, Cursor.indented_of_nil _ hstart] at hread

/-- A block that ends with a tight text does not end in white space. -/
theorem ReadsBlock.tight {literal : Bool} {outer : Nat} {c e : Cursor} {text : List Char}
    (h : ReadsBlock literal outer c text e) (htight : Tight c.rest) (he : e.rest = []) :
    Tight text := by
  obtain @⟨given, chomp, d, d', _, widest, breaks, text, lead, trail, hhead, -, hbreaks,
    hlines⟩ := h
  by_cases hstart : d.blockStart.rest = []
  · have hnil := Cursor.rest_indented_of_nil (knownIndent outer given) hstart
    rw [blockBreaks_nil hnil] at hbreaks
    cases hbreaks
    obtain ⟨rfl, rfl, rfl⟩ := hlines.of_nil hnil
    rw [Chomp.tail_nil]
    exact fun _ => nofun
  · have hblank := blank_blockBreaks hbreaks
    have htight : Tight d.blockStart.rest := htight.suffix
      ((before_readBlockHead hhead).trans (d.before_blockStart)).suffix
    obtain ⟨rfl, rfl, htext, -⟩ := hlines.tight (htight.suffix hblank.before.suffix)
      (hblank.ne_nil htight hstart) he
    rwa [Chomp.tail_nil, List.append_nil]

/-- Behind the head of a block a line begins, or the text ends. -/
theorem Cursor.column_blockStart {d : Cursor} (h : endAhead d.skipComment.rest = true) :
    d.blockStart.column = 0 ∨ d.blockStart.rest = [] := by
  cases hrest : d.skipComment.rest with
  | nil =>
      exact .inr (List.suffix_nil.mp (hrest ▸ (blank_takeBreak d.skipComment).before.suffix))
  | cons x r =>
      rw [hrest] at h
      exact .inl (column_takeBreak hrest h)

/-- The lines of a block whose indentation is known, or found from its lines. -/
theorem blockBreaks_gap_known {outer widest fuel w : Nat} {given : Option Nat}
    {breaks b : List Char} {c d : Cursor}
    (h : blockBreaks (knownIndent outer given) fuel widest breaks c = some (w, b, d))
    (hc : ∀ x ∈ c.rest, isGap x = true) (hcolumn : c.column = 0 ∨ c.rest = []) (n : Nat) :
    d.column = (knownIndent outer given).getD n ∨ d.rest = [] := by
  cases hknown : knownIndent outer given with
  | some k => exact blockBreaks_gap (hknown ▸ h) hc (hcolumn.imp_left fun h => by omega)
  | none =>
      refine .inr ((blank_blockBreaks h).before.eq_nil hc fun x hx => ?_)
      obtain ⟨r, hd⟩ := List.head?_eq_some_iff.mp hx
      cases hgap : isGap x with
      | false => rfl
      | true =>
          obtain ⟨k, hk, -⟩ := blockBreaks_stops h hd hgap
          simp [hknown] at hk

/-- **Block scalars in a frame**: a block scalar of a framed text is one of the
text itself; where it ends with the text, it has more white space at its end. -/
theorem ReadsBlock.of_framed {literal : Bool} {outer : Nat} {c e : Cursor} {text : List Char}
    (h : ReadsBlock literal outer (c.framed f) text e) (htight : Tight c.rest) :
    ∃ text' e' more, ReadsBlock literal outer c text' e' ∧ f.Meets e' e ∧ text = text' ++ more ∧
      (∀ x ∈ more, isGap x = true) ∧ (more = [] ∨ e.rest = []) := by
  obtain @⟨given, chomp, d, d', e, widest, breaks, text, lead, trail, hhead, hend, hbreaks,
    hlines⟩ := h
  rw [readBlockHead_framed] at hhead
  obtain ⟨d, hhead', rfl⟩ := Frame.move₂_eq_some_iff.mp hhead
  have htight := htight.suffix (before_readBlockHead hhead').suffix
  obtain ⟨hend', hstart⟩ := f.meets_nextLine htight hend
  have hmeets : f.Meets d.blockStart (d.framed f).blockStart := hstart
  by_cases hrest : d.blockStart.rest = []
  · -- the text ends with the line that the block begins in
    have hgap : ∀ x ∈ (d.framed f).blockStart.rest, isGap x = true := fun x hx =>
      f.isGap_of_mem x ((hmeets.blank.suffix_after hrest).mem hx)
    have hgap' : ∀ x ∈ d'.rest, isGap x = true := fun x hx =>
      hgap x ((blank_blockBreaks hbreaks).before.suffix.mem hx)
    have hblank := (blank_blockBreaks hbreaks).trans (hlines.before.blank hgap')
    obtain ⟨he, hmore⟩ := hlines.gap hgap'
      (blockBreaks_gap_known hbreaks hgap (Cursor.column_blockStart hend) _) (by simp)
      (gap_of_blockBreaks hbreaks (by simp))
    refine ⟨[], _, _, .empty hhead' hend' hrest, .inr ⟨hrest, hmeets.blank.trans hblank⟩,
      (List.nil_append _).symm, fun x hx => ?_, .inr he⟩
    rw [List.append_assoc] at hmore
    obtain hx | hx := List.mem_append.mp hx
    · exact hmore x (List.mem_append_left _ hx)
    · exact Chomp.gap_tail (fun x hx => hmore x (List.mem_append_right _ hx)) x hx
  · have htight : Tight d.blockStart.rest := htight.suffix d.before_blockStart.suffix
    rw [hmeets.eq_framed hrest, blockBreaks_framed htight hrest (Nat.lt_succ_self _)
      (by simp only [Cursor.framed, List.length_append]; omega)] at hbreaks
    obtain ⟨d', hbreaks', rfl⟩ := Frame.move₂_eq_some_iff.mp hbreaks
    have hblank := blank_blockBreaks hbreaks'
    obtain ⟨e, rfl, -, hread⟩ | ⟨text, e', more, hread, he', hblank, he, rfl, hmore⟩ :=
      hlines.of_framed (htight.suffix hblank.before.suffix) (hblank.ne_nil htight hrest)
    · exact ⟨_, e, [], .mk hhead' hend' hbreaks' hread, .inl rfl, by simp, by simp, .inl rfl⟩
    · have hread : ReadsBlock literal outer c _ e' := .mk hhead' hend' hbreaks' hread
      rw [Chomp.tail_nil, List.append_nil] at hread
      refine ⟨text, e', more ++ chomp.tail lead trail, hread, .inr ⟨he', hblank⟩,
        List.append_assoc .., fun x hx => ?_, .inr he⟩
      rw [List.append_assoc] at hmore
      obtain hx | hx := List.mem_append.mp hx
      · exact hmore x (List.mem_append_left _ hx)
      · exact Chomp.gap_tail (fun x hx => hmore x (List.mem_append_right _ hx)) x hx

end Broadsheet.Yaml
