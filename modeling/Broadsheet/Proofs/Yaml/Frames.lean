import Mathlib.Data.Option.Basic
import Broadsheet.Yaml.Cursor

/-!
# Broadsheet.Proofs.Yaml.Frames

A text with white space around it.  A `Frame` is what stands around a text: so
many characters on so many lines before it, and white space behind it.  The
places of the framed text are those of the text itself, moved (`Cursor.framed`),
and reading goes on in the same way from both, as long as it does not run into
the white space behind the text.

* `Tight` — texts that do not end in white space;
* `Cursor.Before` — one place stands before another one of the same text;
* `run_framed`, `skipWhile_framed`, `takeBreak_framed` — the steps of a reading.
-/

namespace Broadsheet.Yaml

/-! ## White space -/

/-- White space that stands between tokens: blanks, tabs and line breaks. -/
def isGap (c : Char) : Bool := isSpace c || isBreak c

/-- The characters that are white space between tokens. -/
theorem gap_cases {c : Char} (h : isGap c = true) :
    c = ' ' ∨ c = '\t' ∨ c = '\n' ∨ c = '\r' ∨ c = '\u0085' ∨ c = '\u2028' ∨ c = '\u2029' := by
  simpa [isGap, isSpace, isBreak, or_assoc] using h

theorem isSpace_eq_false {c : Char} (h : isGap c = false) : isSpace c = false := by
  simp_all [isGap]

theorem isBreak_eq_false {c : Char} (h : isGap c = false) : isBreak c = false := by
  simp_all [isGap]

/-- A text that does not end in white space. -/
def Tight (s : List Char) : Prop := ∀ c, s.getLast? = some c → isGap c = false

/-- What a tight text ends with is tight. -/
theorem Tight.suffix {s t : List Char} (hs : Tight s) (h : t <:+ s) : Tight t := by
  intro c hc
  obtain ⟨u, rfl⟩ := h
  exact hs c (by rw [List.getLast?_append, hc, Option.some_or])

/-- A text that ends in a tight part is tight, if there is something in that part. -/
theorem Tight.append {t : List Char} (ht : Tight t) (hne : t ≠ []) (s : List Char) :
    Tight (s ++ t) := by
  intro c hc
  rw [List.getLast?_append, List.getLast?_eq_some_getLast hne, Option.some_or] at hc
  exact ht c (List.getLast?_eq_some_getLast hne ▸ hc)

/-- A tight text is not all white space. -/
theorem Tight.exists_mem {s : List Char} (hs : Tight s) (hne : s ≠ []) :
    ∃ c ∈ s, isGap c = false :=
  ⟨s.getLast hne, List.getLast_mem hne, hs _ (List.getLast?_eq_some_getLast hne)⟩

/-- A tight text has no white space for its last part. -/
theorem Tight.eq_nil_of_gap {s w : List Char} (hs : Tight (s ++ w))
    (hw : ∀ c ∈ w, isGap c = true) : w = [] := by
  cases hlast : w.getLast? with
  | none => exact List.getLast?_eq_none_iff.mp hlast
  | some c =>
      have hgap := hs c (by rw [List.getLast?_append, hlast, Option.some_or])
      simp [hw c (List.mem_of_getLast? hlast)] at hgap

/-- A tight text does not end after a line break. -/
theorem Tight.ne_nil_of_cons {c : Char} {s : List Char} (hs : Tight (c :: s))
    (hc : isGap c = true) : s ≠ [] := by
  rintro rfl
  simp [hs c rfl] at hc

/-! ## Places of one text -/

namespace Cursor

/-- One place stands before another, or is the same: what was read in between is
told by the texts ahead. -/
structure Before (c d : Cursor) : Prop where
  rest : ∃ read, c.rest = read ++ d.rest ∧ d.index = c.index + read.length
  line : c.line ≤ d.line

theorem Before.refl (c : Cursor) : c.Before c := ⟨⟨[], rfl, rfl⟩, Nat.le_refl _⟩

/-- Two readings, one after the other, are one reading. -/
theorem Before.trans {c d e : Cursor} (h : c.Before d) (h' : d.Before e) : c.Before e := by
  obtain ⟨read, hrest, hindex⟩ := h.rest
  obtain ⟨read', hrest', hindex'⟩ := h'.rest
  refine ⟨⟨read ++ read', by rw [hrest, hrest', List.append_assoc], ?_⟩,
    Nat.le_trans h.line h'.line⟩
  rw [hindex', hindex, List.length_append, Nat.add_assoc]

/-- What is ahead at the later place is the end of what is ahead at the earlier one. -/
theorem Before.suffix {c d : Cursor} (h : c.Before d) : d.rest <:+ c.rest := by
  obtain ⟨read, hrest, -⟩ := h.rest
  exact ⟨read, hrest.symm⟩

theorem Before.length_le {c d : Cursor} (h : c.Before d) : d.rest.length ≤ c.rest.length :=
  h.suffix.length_le

/-- Skipping leads on, as far as there is something to skip. -/
theorem before_skip {c : Cursor} {n : Nat} (h : n ≤ c.rest.length) : c.Before (c.skip n) :=
  ⟨⟨c.rest.take n, (List.take_append_drop n c.rest).symm, by simp [skip, Nat.min_eq_left h]⟩,
    Nat.le_refl _⟩

theorem skip_skip (c : Cursor) (m n : Nat) : (c.skip m).skip n = c.skip (m + n) := by
  simp [skip, Nat.add_assoc]

/-- Of two places that are skipped to, the one with fewer characters skipped stands before the
other. -/
theorem before_skip_of_le {c : Cursor} {m n : Nat} (h : m ≤ n) (hn : n ≤ c.rest.length) :
    (c.skip m).Before (c.skip n) := by
  have hskip : c.skip n = (c.skip m).skip (n - m) := by rw [skip_skip, Nat.add_sub_cancel' h]
  rw [hskip]
  exact before_skip (by simp only [skip, List.length_drop]; omega)

theorem length_run_le (c : Cursor) (p : Char → Bool) : (c.run p).length ≤ c.rest.length :=
  (List.takeWhile_prefix p).length_le

/-- Skipping a run of characters leads on. -/
theorem before_skipWhile (c : Cursor) (p : Char → Bool) : c.Before (c.skipWhile p) :=
  before_skip (length_run_le c p)

/-- A run takes all of a text whose characters it may take. -/
theorem run_eq_rest {c : Cursor} {p : Char → Bool} (h : ∀ x ∈ c.rest, p x = true) :
    c.run p = c.rest := by
  have hrun : (c.rest ++ []).takeWhile p = c.rest ++ [] := List.takeWhile_append_of_pos h
  rwa [List.append_nil] at hrun

/-- What is ahead behind a run of characters, told without its length. -/
theorem rest_skipWhile (c : Cursor) (p : Char → Bool) :
    (c.skipWhile p).rest = c.rest.dropWhile p := by
  calc c.rest.drop (c.rest.takeWhile p).length
    _ = (c.rest.takeWhile p ++ c.rest.dropWhile p).drop (c.rest.takeWhile p).length := by
      rw [List.takeWhile_append_dropWhile]
    _ = c.rest.dropWhile p := List.drop_left

/-- The character behind a run is one that the run does not take. -/
theorem skipWhile_stops {c : Cursor} {p : Char → Bool} {x : Char} {r : List Char}
    (h : (c.skipWhile p).rest = x :: r) : p x = false := by
  have hstop := List.head?_dropWhile_not p c.rest
  rw [← rest_skipWhile, h] at hstop
  exact hstop

/-- A line's end of one character. -/
theorem takeBreak_cons {x : Char} {r : List Char} {index line column : Nat}
    (h : ∀ r', x :: r ≠ '\r' :: '\n' :: r') :
    takeBreak ⟨x :: r, index, line, column⟩ =
      if isBreak x then
        (if x == '\u2028' || x == '\u2029' then [x] else ['\n'], ⟨r, index + 1, line + 1, 0⟩)
      else ([], ⟨x :: r, index, line, column⟩) := by
  rw [takeBreak]
  split
  · next r' hrest => exact absurd hrest (h r')
  · next b r' _ hrest =>
      obtain ⟨rfl, rfl⟩ := List.cons_eq_cons.mp hrest
      rfl
  · next hrest => cases hrest

/-- Nothing but white space stands between two places. -/
structure Blank (c d : Cursor) : Prop where
  rest : ∃ read, c.rest = read ++ d.rest ∧ d.index = c.index + read.length ∧
    ∀ x ∈ read, isGap x = true
  line : c.line ≤ d.line

theorem Blank.before {c d : Cursor} (h : c.Blank d) : c.Before d := by
  obtain ⟨read, hrest, hindex, -⟩ := h.rest
  exact ⟨⟨read, hrest, hindex⟩, h.line⟩

theorem Blank.refl (c : Cursor) : c.Blank c := ⟨⟨[], rfl, rfl, by simp⟩, Nat.le_refl _⟩

/-- White space on either side of a place is white space in one piece. -/
theorem Blank.trans {c d e : Cursor} (h : c.Blank d) (h' : d.Blank e) : c.Blank e := by
  obtain ⟨read, hrest, hindex, hgap⟩ := h.rest
  obtain ⟨read', hrest', hindex', hgap'⟩ := h'.rest
  refine ⟨⟨read ++ read', by rw [hrest, hrest', List.append_assoc], ?_, fun x hx => ?_⟩,
    Nat.le_trans h.line h'.line⟩
  · rw [hindex', hindex, List.length_append, Nat.add_assoc]
  · exact (List.mem_append.mp hx).elim (hgap x) (hgap' x)

/-- A tight text goes on behind white space. -/
theorem Blank.ne_nil {c d : Cursor} (h : c.Blank d) (htight : Tight c.rest) (hne : c.rest ≠ []) :
    d.rest ≠ [] := by
  obtain ⟨read, hrest, -, hgap⟩ := h.rest
  obtain ⟨x, hx, hother⟩ := htight.exists_mem hne
  rintro hd
  rw [hd, List.append_nil] at hrest
  simp [hgap x (hrest ▸ hx)] at hother

/-- Where only white space is ahead, a place that has none ahead is the end. -/
theorem Before.eq_nil {c d : Cursor} (h : c.Before d) (hc : ∀ x ∈ c.rest, isGap x = true)
    (hd : ∀ x, d.rest.head? = some x → isGap x = false) : d.rest = [] := by
  cases hrest : d.rest with
  | nil => rfl
  | cons x r =>
      have hgap := hc x (h.suffix.mem (by simp [hrest]))
      simp [hd x (by simp [hrest])] at hgap

/-- Of places in white space, any two have only white space between them. -/
theorem Before.blank {c d : Cursor} (h : c.Before d) (hc : ∀ x ∈ c.rest, isGap x = true) :
    c.Blank d := by
  obtain ⟨read, hrest, hindex⟩ := h.rest
  exact ⟨⟨read, hrest, hindex, fun x hx => hc x (hrest ▸ List.mem_append_left d.rest hx)⟩, h.line⟩

/-- Skipping no more than a run of white space leaves white space behind. -/
theorem blank_skip {c : Cursor} {p : Char → Bool} {n : Nat} (hn : n ≤ (c.run p).length)
    (hp : ∀ x, p x = true → isGap x = true) : c.Blank (c.skip n) := by
  have hlength := Nat.le_trans hn (length_run_le c p)
  refine ⟨⟨c.rest.take n, (List.take_append_drop n c.rest).symm, ?_, fun x hx => ?_⟩,
    Nat.le_refl _⟩
  · rw [List.length_take, Nat.min_eq_left hlength]
    rfl
  · have hinitial : c.rest.take n <+: c.run p :=
      List.prefix_of_prefix_length_le (List.take_prefix n c.rest) (List.takeWhile_prefix p)
        (by rwa [List.length_take, Nat.min_eq_left hlength])
    exact hp x (List.all_eq_true.mp List.all_takeWhile x (hinitial.mem hx))

theorem blank_skip_one {c : Cursor} {x : Char} {r : List Char} (hc : c.rest = x :: r)
    (hx : isGap x = true) : c.Blank (c.skip 1) :=
  blank_skip (p := isGap) (by simp [run, hc, hx]) fun _ h => h

/-- What is taken for a line break is white space, if it is anything. -/
theorem blank_takeBreak (c : Cursor) : c.Blank c.takeBreak.2 := by
  rw [takeBreak]
  split
  · next r hrest => exact ⟨⟨['\r', '\n'], hrest, rfl, by simp [isGap, isBreak]⟩, Nat.le_succ _⟩
  · next b r _ hrest =>
      split
      · next hb => exact ⟨⟨[b], hrest, rfl, by simp [isGap, hb]⟩, Nat.le_succ _⟩
      · exact .refl c
  · exact .refl c

/-- A reading that passes the next character has less ahead: the measure of each recursion below. -/
theorem Before.length_lt_of_skip {c d : Cursor} {x : Char} {r : List Char}
    (hc : c.rest = x :: r) (h : (c.skip 1).Before d) : d.rest.length < c.rest.length := by
  have hle := h.length_le
  simp only [skip, hc, List.drop_succ_cons, List.drop_zero] at hle
  simp only [hc, List.length_cons]
  omega

/-- Behind a line break a line begins. -/
theorem column_takeBreak {c : Cursor} {x : Char} {r : List Char} (hc : c.rest = x :: r)
    (hx : isBreak x = true) : c.takeBreak.2.column = 0 := by
  rw [takeBreak]
  split
  · rfl
  · next y s _ hrest =>
      obtain ⟨rfl, rfl⟩ := List.cons_eq_cons.mp (hc.symm.trans hrest)
      rw [if_pos hx]
  · next hrest => simp [hc] at hrest

/-- A line break is one character at least. -/
theorem length_takeBreak_lt {c : Cursor} {x : Char} {r : List Char} (hc : c.rest = x :: r)
    (hx : isBreak x = true) : c.takeBreak.2.rest.length < c.rest.length := by
  obtain ⟨rest, index, line, column⟩ := c
  obtain rfl : rest = x :: r := hc
  by_cases hpair : ∃ r', x :: r = '\r' :: '\n' :: r'
  · obtain ⟨r', hpair⟩ := hpair
    cases hpair
    simp only [takeBreak, List.length_cons]
    omega
  · rw [takeBreak_cons fun r' h => hpair ⟨r', h⟩, if_pos hx]
    exact Nat.lt_succ_self _

end Cursor

/-! ## Frames -/

/-- What stands around a text. -/
structure Frame where
  /-- The white space behind it. -/
  after : List Char
  /-- The number of characters before it. -/
  index : Nat
  /-- The number of lines before it. -/
  line : Nat
  isGap_of_mem : ∀ c ∈ after, isGap c = true

variable (f : Frame)

/-- A place in the framed text. -/
def Cursor.framed (c : Cursor) : Cursor :=
  ⟨c.rest ++ f.after, c.index + f.index, c.line + f.line, c.column⟩

theorem Cursor.rest_framed_eq (c : Cursor) : (c.framed f).rest = c.rest ++ f.after := rfl

@[simp] theorem Cursor.column_framed (c : Cursor) : (c.framed f).column = c.column := rfl

/-- What is next in the text is next in the framed text. -/
theorem Cursor.rest_framed {c : Cursor} {x : Char} {r : List Char} (hc : c.rest = x :: r) :
    (c.framed f).rest = x :: (r ++ f.after) := by
  rw [framed, hc, List.cons_append]

/-- What a reading of the text gives, for the framed text. -/
def Frame.move {α : Type} : Option (α × Cursor) → Option (α × Cursor) :=
  Option.map fun x => (x.1, x.2.framed f)

@[simp] theorem Frame.move_none {α : Type} : f.move (none : Option (α × Cursor)) = none := rfl

@[simp] theorem Frame.move_some {α : Type} (a : α) (c : Cursor) :
    f.move (some (a, c)) = some (a, c.framed f) := rfl

/-- A moved reading has what the reading has, at the place that corresponds. -/
theorem Frame.move_eq_some_iff {α : Type} {x : Option (α × Cursor)} {a : α} {d : Cursor} :
    f.move x = some (a, d) ↔ ∃ c, x = some (a, c) ∧ d = c.framed f := by
  cases x with
  | none => simp
  | some p =>
      obtain ⟨b, c⟩ := p
      simp only [move_some, Option.some.injEq, Prod.mk.injEq]
      constructor
      · rintro ⟨rfl, rfl⟩
        exact ⟨c, ⟨rfl, rfl⟩, rfl⟩
      · rintro ⟨e, ⟨rfl, rfl⟩, rfl⟩
        exact ⟨rfl, rfl⟩

/-- A run of characters ends before the white space behind a text. -/
def Frame.Stops (p : Char → Bool) (s : List Char) : Prop :=
  (∃ c ∈ s, p c = false) ∨ ∀ c ∈ f.after, p c = false

variable {f}

/-- A run that stops before the frame is the same run. -/
theorem takeWhile_framed {p : Char → Bool} {s : List Char} (h : f.Stops p s) :
    (s ++ f.after).takeWhile p = s.takeWhile p := by
  rw [List.takeWhile_append]
  split
  · next hlength =>
      obtain ⟨c, hc, hp⟩ | hafter := h
      · have hall : s.takeWhile p = s := (List.takeWhile_prefix p).eq_of_length hlength
        rw [← hall] at hc
        simp [List.all_eq_true.mp List.all_takeWhile c hc] at hp
      · have hnil : f.after.takeWhile p = [] := by
          cases hafter' : f.after with
          | nil => rfl
          | cons c w => simp [hafter c (by simp [hafter'])]
        rw [hnil, List.append_nil, (List.takeWhile_prefix p).eq_of_length hlength]
  · rfl

/-- Whether a line ends here is told by the next character, if the text has one. -/
theorem endAhead_append {s w : List Char} (h : s ≠ []) : endAhead (s ++ w) = endAhead s := by
  cases s with
  | nil => exact absurd rfl h
  | cons c s => rfl

/-- The end of a text counts as white space, so the frame changes nothing where one of the two
is asked for. -/
theorem blankAhead_framed (s : List Char) : blankAhead (s ++ f.after) = blankAhead s := by
  cases s with
  | cons c s => rfl
  | nil =>
      rw [List.nil_append]
      cases hafter : f.after with
      | nil => rfl
      | cons c s => exact f.isGap_of_mem c (by simp [hafter])

section Ahead

variable {p : Char → Bool} (hp : ∀ x, isGap x = true → p x = false)

include hp

/-- A run that takes no white space ends before the frame. -/
theorem Frame.stops_of_gap (s : List Char) : f.Stops p s :=
  .inr fun x hx => hp x (f.isGap_of_mem x hx)

/-- A condition that no white space meets is met by the next character of the framed text
exactly if it is met by that of the text itself. -/
theorem any_head_framed (s : List Char) : (s ++ f.after).head?.any p = s.head?.any p := by
  cases s with
  | cons c s => rfl
  | nil =>
      rw [List.nil_append]
      cases hw : f.after with
      | nil => rfl
      | cons x w => exact hp x (f.isGap_of_mem x (by simp [hw]))

end Ahead

/-- The same for one character, which is no white space. -/
theorem head_beq_framed {x : Char} (hx : isGap x = false) (s : List Char) :
    ((s ++ f.after).head? == some x) = (s.head? == some x) := by
  have hany := any_head_framed (f := f) (p := (· == x)) (fun y hy => by
    rw [beq_eq_false_iff_ne]
    rintro rfl
    simp [hx] at hy) s
  cases hs : s.head? <;> cases hw : (s ++ f.after).head? <;> simp_all

namespace Cursor

variable {c : Cursor}

/-- Skipping within the text is the same in the framed text. -/
theorem skip_framed {n : Nat} (h : n ≤ c.rest.length) :
    (c.framed f).skip n = (c.skip n).framed f := by
  simp [skip, framed, List.drop_append_of_le_length h, Nat.add_right_comm]

theorem run_framed {p : Char → Bool} (h : f.Stops p c.rest) :
    (c.framed f).run p = c.run p := takeWhile_framed h

/-- Skipping a run that stops before the frame is the same in the framed text. -/
theorem skipWhile_framed {p : Char → Bool} (h : f.Stops p c.rest) :
    (c.framed f).skipWhile p = (c.skipWhile p).framed f := by
  have hrun : (c.framed f).rest.takeWhile p = c.rest.takeWhile p := takeWhile_framed h
  rw [skipWhile, hrun]
  exact skip_framed (length_run_le c p)

/-- A run with more of the text behind it ends before the frame. -/
theorem stops_of_skipWhile_ne_nil {p : Char → Bool} (h : (c.skipWhile p).rest ≠ []) :
    f.Stops p c.rest := by
  obtain ⟨x, r, hrest⟩ := List.exists_cons_of_ne_nil h
  exact .inl ⟨x, (before_skipWhile c p).suffix.mem (by simp [hrest]), skipWhile_stops hrest⟩

/-- A run that ends with a text may go on in the white space behind the text. -/
theorem blank_skipWhile_framed (p : Char → Bool) :
    ((c.skipWhile p).framed f).Blank ((c.framed f).skipWhile p) := by
  by_cases hrest : (c.skipWhile p).rest = []
  · have hrun : c.run p = c.rest := by
      rw [rest_skipWhile] at hrest
      simpa [run, hrest] using List.takeWhile_append_dropWhile (p := p) (l := c.rest)
    have hall : ∀ x ∈ c.rest, p x = true := by
      rw [← hrun]
      exact List.all_eq_true.mp List.all_takeWhile
    have hskip : (c.framed f).skipWhile p =
        ((c.skipWhile p).framed f).skip (f.after.takeWhile p).length := by
      rw [skipWhile, rest_framed_eq, List.takeWhile_append_of_pos hall, List.length_append,
        ← skip_skip, skip_framed (Nat.le_refl _), ← hrun]
      rfl
    have hafter : ((c.skipWhile p).framed f).rest = f.after := by
      rw [rest_framed_eq, hrest, List.nil_append]
    rw [hskip]
    refine blank_skip (p := isGap) ?_ fun _ h => h
    rw [run_eq_rest (hafter ▸ f.isGap_of_mem), hafter]
    exact (List.takeWhile_prefix p).length_le
  · rw [skipWhile_framed (stops_of_skipWhile_ne_nil hrest)]
    exact .refl _

/-- Behind the end of the text, only the frame is ahead. -/
theorem Blank.suffix_after {d : Cursor} (h : (c.framed f).Blank d) (hc : c.rest = []) :
    d.rest <:+ f.after := by
  simpa [framed, hc] using h.before.suffix

/-- The place after a run of characters and a comment behind it. -/
def skipWithComment (c : Cursor) (p : Char → Bool) : Cursor :=
  let d := c.skipWhile p
  if d.rest.head? == some '#' then d.skipWhile fun x => !isBreak x else d

theorem before_skipWithComment (c : Cursor) (p : Char → Bool) : c.Before (c.skipWithComment p) := by
  rw [skipWithComment]
  split
  · exact (before_skipWhile c p).trans (before_skipWhile _ _)
  · exact before_skipWhile c p

/-- What stands behind the run where the text goes on. -/
theorem skipWhile_framed_cases (p : Char → Bool) :
    (c.framed f).skipWhile p = (c.skipWhile p).framed f ∧
        ((c.framed f).skipWhile p).rest.head? = (c.skipWhile p).rest.head? ∨
      (c.skipWhile p).rest = [] ∧ ((c.framed f).skipWhile p).rest.head? ≠ some '#' := by
  cases hrest : (c.skipWhile p).rest with
  | nil =>
      refine .inr ⟨rfl, fun hhead => ?_⟩
      have hgap := f.isGap_of_mem '#'
        (((blank_skipWhile_framed p).suffix_after hrest).mem (List.mem_of_mem_head? hhead))
      simp [isGap, isSpace, isBreak] at hgap
  | cons x r =>
      have hframed : (c.framed f).skipWhile p = (c.skipWhile p).framed f :=
        skipWhile_framed (stops_of_skipWhile_ne_nil (by simp [hrest]))
      exact .inl ⟨hframed, by rw [hframed, rest_framed f hrest]; rfl⟩

/-- A run and a comment, with more of the text behind them, are the same in the framed text. -/
theorem skipWithComment_framed {p : Char → Bool} (h : (c.skipWithComment p).rest ≠ []) :
    (c.framed f).skipWithComment p = (c.skipWithComment p).framed f := by
  obtain ⟨hframed, hhead⟩ | ⟨hnil, -⟩ := skipWhile_framed_cases (f := f) (c := c) p
  · rw [skipWithComment, skipWithComment, hhead, hframed]
    split
    · next hcomment =>
        rw [skipWithComment, if_pos hcomment] at h
        exact skipWhile_framed (stops_of_skipWhile_ne_nil h)
    · rfl
  · simp [skipWithComment, hnil] at h

/-- A comment that ends with a text may go on in the white space behind the text. -/
theorem blank_skipWithComment_framed (p : Char → Bool) :
    ((c.skipWithComment p).framed f).Blank ((c.framed f).skipWithComment p) := by
  obtain ⟨hframed, hhead⟩ | ⟨hnil, hhead⟩ := skipWhile_framed_cases (f := f) (c := c) p
  · rw [skipWithComment, skipWithComment, hhead, hframed]
    split
    · exact blank_skipWhile_framed _
    · exact .refl _
  · rw [skipWithComment, skipWithComment, if_neg (by simp [hnil]), if_neg (by simpa using hhead)]
    exact blank_skipWhile_framed p

/-- A line break in a tight text is the same in the framed text. -/
theorem takeBreak_framed (htight : Tight c.rest) (hne : c.rest ≠ []) :
    (c.framed f).takeBreak = (c.takeBreak.1, c.takeBreak.2.framed f) := by
  obtain ⟨rest, index, line, column⟩ := c
  obtain ⟨x, r, rfl⟩ := List.exists_cons_of_ne_nil hne
  by_cases hpair : ∃ r', x :: r = '\r' :: '\n' :: r'
  · obtain ⟨r', hpair⟩ := hpair
    cases hpair
    simp [takeBreak, framed, Nat.add_right_comm]
  · -- the white space of the frame does not complete a pair that the text begins
    have hpair' : ∀ r', x :: (r ++ f.after) ≠ '\r' :: '\n' :: r' := by
      rintro r' h
      obtain ⟨rfl, hrest⟩ := List.cons_eq_cons.mp h
      obtain ⟨y, r, rfl⟩ := List.exists_cons_of_ne_nil (htight.ne_nil_of_cons rfl)
      obtain ⟨rfl, -⟩ := List.cons_eq_cons.mp hrest
      exact hpair ⟨r, rfl⟩
    rw [framed, List.cons_append, takeBreak_cons hpair', takeBreak_cons fun r' h => hpair ⟨r', h⟩]
    split
    · simp [framed, Nat.add_right_comm]
    · simp [framed]

/-- A mark of a document is three characters. -/
theorem length_of_atMark {mark : Char} (h : c.atMark mark = true) : 3 ≤ c.rest.length := by
  rw [atMark] at h
  split at h
  · next hrest => simp [hrest]
  · simp at h

theorem atMark_of_ne {mark x : Char} {r : List Char} (hc : c.rest = x :: r) (hx : x ≠ mark) :
    c.atMark mark = false := by
  rw [atMark, hc]
  split <;> simp_all

/-- A mark of a document is one in the framed text too: its characters are no white space, and
the end of the text counts as white space behind it. -/
theorem atMark_framed {mark : Char} (hmark : isGap mark = false) :
    (c.framed f).atMark mark = c.atMark mark := by
  have hafter : ∀ x ∈ f.after, x ≠ mark := by
    rintro x hx rfl
    simp [f.isGap_of_mem x hx] at hmark
  obtain ⟨rest, index, line, column⟩ := c
  rw [atMark, atMark, framed]
  congr 1
  match rest with
  | a :: b :: d :: r => simp only [List.cons_append, blankAhead_framed]
  | [a, b] =>
      cases hw : f.after with
      | nil => rfl
      | cons d w => simp [hafter d (by simp [hw])]
  | [a] =>
      match hw : f.after with
      | b :: d :: w => simp [hafter b (by simp [hw])]
      | [b] => rfl
      | [] => rfl
  | [] =>
      match hw : f.after with
      | a :: b :: d :: w => simp [hafter a (by simp [hw])]
      | [a, b] => rfl
      | [a] => rfl
      | [] => rfl

theorem atDocumentMark_framed : (c.framed f).atDocumentMark = c.atDocumentMark := by
  rw [atDocumentMark, atDocumentMark, atMark_framed rfl, atMark_framed rfl]

theorem skipBreak_of_nil (h : c.rest = []) : c.skipBreak = c := by
  simp only [skipBreak, takeBreak, h]

end Cursor

/-- A place of the framed text that is the one of the text itself, or one in the white space that
follows it. -/
def Frame.Meets (f : Frame) (c d : Cursor) : Prop :=
  d = c.framed f ∨ c.rest = [] ∧ (c.framed f).Blank d

/-- Where the text goes on, the two places correspond. -/
theorem Frame.Meets.eq_framed {c d : Cursor} (h : f.Meets c d) (hne : c.rest ≠ []) :
    d = c.framed f :=
  h.resolve_right fun h => hne h.1

/-- The two readings never part but by white space. -/
theorem Frame.Meets.blank {c d : Cursor} (h : f.Meets c d) : (c.framed f).Blank d := by
  obtain rfl | ⟨-, h⟩ := h
  · exact .refl _
  · exact h

/-- Where the comment behind a reading ends its line, the next line begins. -/
theorem Frame.meets_nextLine {c : Cursor} (htight : Tight c.rest)
    (h : endAhead (c.framed f).skipComment.rest = true) :
    endAhead c.skipComment.rest = true ∧
      f.Meets c.skipComment.skipBreak (c.framed f).skipComment.skipBreak := by
  have hblank : (c.skipComment.framed f).Blank (c.framed f).skipComment :=
    Cursor.blank_skipWithComment_framed isSpace
  by_cases hrest : c.skipComment.rest = []
  · refine ⟨by rw [hrest]; rfl, .inr ?_⟩
    rw [Cursor.skipBreak_of_nil hrest]
    exact ⟨hrest, hblank.trans (Cursor.blank_takeBreak _)⟩
  · have hskip : (c.framed f).skipComment = c.skipComment.framed f :=
      Cursor.skipWithComment_framed hrest
    have htight : Tight c.skipComment.rest :=
      htight.suffix (Cursor.before_skipWithComment c isSpace).suffix
    rw [hskip, Cursor.rest_framed_eq, endAhead_append hrest] at h
    refine ⟨h, .inl ?_⟩
    rw [hskip]
    exact congrArg Prod.snd (Cursor.takeBreak_framed htight hrest)

end Broadsheet.Yaml
