import Broadsheet.Proofs.Yaml.Scalars
import Broadsheet.Yaml.Token

/-!
# Broadsheet.Proofs.Yaml.Names

Reading what is told by names: anchors, aliases, tags and directives of a
framed text.  Names end before white space, so only the white space behind a
directive can run into the frame.
-/

namespace Broadsheet.Yaml

open Decimal (isDigit)

variable {f : Frame}

/-! ## Composed readings -/

/-- Two readings, one after the other: if the second one goes on from a framed place as it does
from the place itself, so do both. -/
theorem Frame.move_bind {α β : Type} {x : Option (α × Cursor)}
    {next next' : α × Cursor → Option (β × Cursor)}
    (h : ∀ a d, x = some (a, d) → next' (a, d.framed f) = f.move (next (a, d))) :
    (f.move x).bind next' = f.move (x.bind next) := by
  cases x with
  | none => rfl
  | some p => exact h p.1 p.2 rfl

theorem guard_bind {α : Type} (b : Bool) (x : Option α) :
    (do guard b; x) = if b then x else none := by
  cases b <;> rfl

/-! ## Characters of names -/

/-- A name ends before white space. -/
theorem isNameChar_of_gap {x : Char} (hx : isGap x = true) : isNameChar x = false := by
  obtain rfl | rfl | rfl | rfl | rfl | rfl | rfl := gap_cases hx <;> decide

/-- A tag ends before white space, in either way of writing it. -/
theorem isTagChar_of_gap (verbatim : Bool) {x : Char} (hx : isGap x = true) :
    Scanner.isTagChar verbatim x = false := by
  obtain rfl | rfl | rfl | rfl | rfl | rfl | rfl := gap_cases hx <;> cases verbatim <;> decide

theorem isDigit_of_gap {x : Char} (hx : isGap x = true) : isDigit x = false := by
  obtain rfl | rfl | rfl | rfl | rfl | rfl | rfl := gap_cases hx <;> decide

/-! ## Readings -/

namespace Scanner

variable {c d : Cursor}

theorem readNumber_framed (c : Cursor) : readNumber (c.framed f) = f.move (readNumber c) := by
  simp only [readNumber, Cursor.run_framed (f.stops_of_gap (fun x => isDigit_of_gap) c.rest)]
  split
  · rfl
  · rw [Cursor.skip_framed (Cursor.length_run_le c isDigit), Frame.move_some]

/-- A number is read from what is ahead. -/
theorem before_readNumber {n : Nat} (h : readNumber c = some (n, d)) : c.Before d := by
  simp only [readNumber] at h
  split at h
  · cases h
  · cases h
    exact Cursor.before_skip (Cursor.length_run_le c isDigit)

theorem readTagText_framed (verbatim : Bool) (c : Cursor) :
    readTagText verbatim (c.framed f) = f.move (readTagText verbatim c) := by
  have hrun : (c.framed f).run (isTagChar verbatim) = c.run (isTagChar verbatim) :=
    Cursor.run_framed (f.stops_of_gap (fun x => isTagChar_of_gap verbatim) c.rest)
  simp only [readTagText, hrun, Cursor.skip_framed (Cursor.length_run_le c (isTagChar verbatim))]
  cases plainTag ((c.run (isTagChar verbatim)).length + 1) (c.run (isTagChar verbatim)) <;> rfl

theorem before_readTagText {verbatim : Bool} {text : List Char}
    (h : readTagText verbatim c = some (text, d)) : c.Before d := by
  obtain ⟨_, -, h⟩ := Option.bind_eq_some_iff.mp h
  cases h
  exact Cursor.before_skip (Cursor.length_run_le c (isTagChar verbatim))

/-- A handle after its first mark. -/
def handleAfter (r : List Char) : List Char :=
  '!' :: r.takeWhile isNameChar ++
    if r[(r.takeWhile isNameChar).length]? == some '!' then ['!'] else []

/-- A handle begins with its mark. -/
theorem readHandle_mark {r : List Char} (hc : c.rest = '!' :: r) :
    readHandle c = some (handleAfter r, c.skip (handleAfter r).length) := by
  simp only [readHandle, hc, handleAfter, List.length_append, List.length_cons, Nat.add_comm 1]

/-- Without a mark there is no handle. -/
theorem readHandle_other (hc : c.rest.head? ≠ some '!') : readHandle c = none := by
  rw [readHandle]
  split
  · next r hrest => simp [hrest] at hc
  · rfl

/-- A handle, with its last mark if it has one, ends before the frame. -/
theorem handleAfter_framed (r : List Char) : handleAfter (r ++ f.after) = handleAfter r := by
  have hname : (r ++ f.after).takeWhile isNameChar = r.takeWhile isNameChar :=
    takeWhile_framed (f.stops_of_gap (fun x => isNameChar_of_gap) r)
  have hle : (r.takeWhile isNameChar).length ≤ r.length := (List.takeWhile_prefix _).length_le
  have hmark : ((r ++ f.after)[(r.takeWhile isNameChar).length]? == some '!') =
      (r[(r.takeWhile isNameChar).length]? == some '!') := by
    rw [← List.head?_drop, ← List.head?_drop, List.drop_append_of_le_length hle]
    exact head_beq_framed rfl _
  simp only [handleAfter, hname, hmark]

theorem length_handleAfter_le (r : List Char) : (handleAfter r).length ≤ r.length + 1 := by
  have hle : (r.takeWhile isNameChar).length ≤ r.length := (List.takeWhile_prefix _).length_le
  rw [handleAfter]
  split
  · next hmark =>
      have hlt : (r.takeWhile isNameChar).length < r.length :=
        (List.getElem?_eq_some_iff.mp (by simpa using hmark)).1
      simp only [List.length_append, List.length_cons, List.length_nil]
      omega
  · simp only [List.append_nil, List.length_cons]
    omega

/-- Handles are the same in the framed text. -/
theorem readHandle_framed (c : Cursor) : readHandle (c.framed f) = f.move (readHandle c) := by
  by_cases hmark : c.rest.head? = some '!'
  · obtain ⟨r, hc⟩ := List.head?_eq_some_iff.mp hmark
    rw [readHandle_mark hc, readHandle_mark (Cursor.rest_framed f hc), handleAfter_framed,
      Cursor.skip_framed (by rw [hc]; exact length_handleAfter_le r), Frame.move_some]
  · have hmark' : (c.framed f).rest.head? ≠ some '!' := by
      have hhead := head_beq_framed (f := f) (x := '!') rfl c.rest
      intro h
      rw [Cursor.framed] at h
      simp [h, hmark] at hhead
    rw [readHandle_other hmark, readHandle_other hmark', Frame.move_none]

/-- A handle has its mark at least. -/
theorem exists_skip_of_readHandle {handle : List Char} (h : readHandle c = some (handle, d)) :
    ∃ n, 1 ≤ n ∧ n ≤ c.rest.length ∧ d = c.skip n := by
  by_cases hmark : c.rest.head? = some '!'
  · obtain ⟨r, hc⟩ := List.head?_eq_some_iff.mp hmark
    rw [readHandle_mark hc] at h
    cases h
    refine ⟨(handleAfter r).length, ?_, ?_, rfl⟩
    · simp [handleAfter]
    · rw [hc]
      exact length_handleAfter_le r
  · simp [readHandle_other hmark] at h

/-! ### Anchors and aliases -/

/-- Whether a name may end before a text. -/
def endsName (r : List Char) : Bool :=
  blankAhead r || r.head?.any fun x => x ∈ ['?', ':', ',', ']', '}', '%', '@', '`']

/-- A name may end before white space, so it may end before the frame. -/
theorem endsName_framed (r : List Char) : endsName (r ++ f.after) = endsName r := by
  rw [endsName, endsName, blankAhead_framed, any_head_framed fun x hx => ?_]
  obtain rfl | rfl | rfl | rfl | rfl | rfl | rfl := gap_cases hx <;> decide

/-- The reading of a name, told by its run of characters. -/
theorem readName_eq (c : Cursor) :
    readName c =
      if !(c.run isNameChar).isEmpty then
        if endsName (c.skipWhile isNameChar).rest then
          some (String.ofList (c.run isNameChar), c.skipWhile isNameChar)
        else none
      else none := by
  simp only [readName, guard_bind]
  rfl

/-- Names of anchors and aliases are the same in the framed text. -/
theorem readName_framed (c : Cursor) : readName (c.framed f) = f.move (readName c) := by
  have hstops : f.Stops isNameChar c.rest := f.stops_of_gap (fun x => isNameChar_of_gap) c.rest
  rw [readName_eq, readName_eq, Cursor.run_framed hstops, Cursor.skipWhile_framed hstops,
    Cursor.rest_framed_eq, endsName_framed]
  split
  · split <;> rfl
  · rfl

theorem before_readName {name : String} (h : readName c = some (name, d)) : c.Before d := by
  rw [readName_eq] at h
  split at h
  · split at h
    · cases h
      exact Cursor.before_skipWhile c isNameChar
    · cases h
  · cases h

/-! ### Tags -/

/-- Reads a tag in full. -/
def readVerbatim (c : Cursor) : Option (Token × Cursor) :=
  (readTagText true (c.skip 2)).bind fun (text, d) =>
    if !text.isEmpty && d.rest.head? == some '>' then
      some (.tag "" (String.ofList text), d.skip 1)
    else none

/-- The tag of a handle and a text. -/
def shorthandTag (handle text : List Char) : Option Token :=
  if handle.length > 1 && handle.getLast? == some '!' then
    if !text.isEmpty then some (.tag (String.ofList handle) (String.ofList text)) else none
  else if (handle.tail ++ text).isEmpty then some (.tag "" "!")
  else some (.tag "!" (String.ofList (handle.tail ++ text)))

/-- Reads a tag by its handle. -/
def readShorthand (c : Cursor) : Option (Token × Cursor) :=
  (readHandle c).bind fun (handle, d) =>
    (readTagText false d).bind fun (text, e) => (shorthandTag handle text).map fun t => (t, e)

/-- Reads a tag up to its end. -/
def readTagStart (c : Cursor) : Option (Token × Cursor) :=
  match c.rest with
  | '!' :: '<' :: _ => readVerbatim c
  | _ => readShorthand c

theorem readTagStart_verbatim {r : List Char} (hc : c.rest = '!' :: '<' :: r) :
    readTagStart c = readVerbatim c := by
  simp only [readTagStart, hc]

theorem readTagStart_other (hc : ∀ r, c.rest ≠ '!' :: '<' :: r) :
    readTagStart c = readShorthand c := by
  rw [readTagStart]
  split
  · next r hrest => exact absurd hrest (hc r)
  · rfl

/-- The reading of a tag, in its two parts: the tag up to its end, and what may stand behind it. -/
theorem readTag_eq (flow : Bool) (c : Cursor) :
    readTag flow c = (readTagStart c).bind fun (token, d) =>
      if blankAhead d.rest || (flow && d.rest.head? == some ',') then some (token, d)
      else none := by
  simp only [readTag, guard_bind]
  split
  · next r hrest =>
      rw [readTagStart_verbatim hrest, readVerbatim]
      cases readTagText true (c.skip 2) with
      | none => rfl
      | some p =>
          simp only [Option.bind_eq_bind, Option.bind_some]
          split <;> rfl
  · next hrest =>
      rw [readTagStart_other hrest, readShorthand]
      cases readHandle c with
      | none => rfl
      | some p =>
          simp only [Option.bind_eq_bind, Option.bind_some]
          cases readTagText false p.2 with
          | none => rfl
          | some q =>
              simp only [Option.bind_some, shorthandTag]
              split
              · split <;> rfl
              · split <;> rfl

/-- Tags in full are the same in the framed text, for they have an end of their own. -/
theorem readVerbatim_framed (hc : 2 ≤ c.rest.length) :
    readVerbatim (c.framed f) = f.move (readVerbatim c) := by
  rw [readVerbatim, Cursor.skip_framed hc, readTagText_framed]
  refine Frame.move_bind fun text d _ => ?_
  simp only [Cursor.rest_framed_eq, head_beq_framed (f := f) (x := '>') rfl]
  split
  · next hend =>
      have hlength : 1 ≤ d.rest.length := by
        cases hd : d.rest <;> simp_all
      rw [Cursor.skip_framed hlength]
      rfl
  · rfl

/-- Tags by a handle are the same in the framed text. -/
theorem readShorthand_framed (c : Cursor) :
    readShorthand (c.framed f) = f.move (readShorthand c) := by
  rw [readShorthand, readHandle_framed]
  refine Frame.move_bind fun handle d _ => ?_
  dsimp only
  rw [readTagText_framed]
  refine Frame.move_bind fun text e _ => ?_
  dsimp only
  cases shorthandTag handle text <;> rfl

/-- **Tags in a frame**: a tag of a framed text is one of the text itself. -/
theorem readTag_framed (flow : Bool) (c : Cursor) :
    readTag flow (c.framed f) = f.move (readTag flow c) := by
  have hstart : readTagStart (c.framed f) = f.move (readTagStart c) := by
    by_cases hc : ∃ r, c.rest = '!' :: '<' :: r
    · obtain ⟨r, hc⟩ := hc
      rw [readTagStart_verbatim hc, readTagStart_verbatim (Cursor.rest_framed f hc)]
      exact readVerbatim_framed (by simp [hc])
    · have hc' : ∀ r, (c.framed f).rest ≠ '!' :: '<' :: r := by
        intro r h
        have hmark : (c.rest.head? == some '!') = true := by
          rw [← head_beq_framed (f := f) rfl, ← Cursor.rest_framed_eq, h]
          rfl
        obtain ⟨s, hs⟩ := List.head?_eq_some_iff.mp (beq_iff_eq.mp hmark)
        have hs' : s ++ f.after = '<' :: r := by
          rw [Cursor.rest_framed f hs] at h
          exact (List.cons_eq_cons.mp h).2
        have hopen : (s.head? == some '<') = true := by
          rw [← head_beq_framed (f := f) rfl, hs']
          rfl
        obtain ⟨t, rfl⟩ := List.head?_eq_some_iff.mp (beq_iff_eq.mp hopen)
        exact hc ⟨t, hs⟩
      rw [readTagStart_other hc', readTagStart_other fun r h => hc ⟨r, h⟩, readShorthand_framed]
  rw [readTag_eq, readTag_eq, hstart]
  refine Frame.move_bind fun token d _ => ?_
  simp only [Cursor.rest_framed_eq, blankAhead_framed, head_beq_framed (f := f) (x := ',') rfl]
  split <;> rfl

/-- A tag in full takes a character at least. -/
theorem before_readVerbatim {token : Token} (hc : 2 ≤ c.rest.length)
    (h : readVerbatim c = some (token, d)) : (c.skip 1).Before d := by
  obtain ⟨⟨text, e⟩, htext, h⟩ := Option.bind_eq_some_iff.mp h
  dsimp only at h
  split at h
  · next hend =>
      cases h
      refine (Cursor.before_skip_of_le (by decide) hc).trans
        ((before_readTagText htext).trans (Cursor.before_skip ?_))
      cases he : e.rest <;> simp_all
  · cases h

/-- A tag by a handle takes the mark of the handle at least. -/
theorem before_readShorthand {token : Token} (h : readShorthand c = some (token, d)) :
    (c.skip 1).Before d := by
  obtain ⟨⟨handle, e⟩, hhandle, h⟩ := Option.bind_eq_some_iff.mp h
  obtain ⟨⟨text, e'⟩, htext, h⟩ := Option.bind_eq_some_iff.mp h
  obtain ⟨_, -, hpair⟩ := Option.map_eq_some_iff.mp h
  cases hpair
  obtain ⟨n, hn, hle, rfl⟩ := exists_skip_of_readHandle hhandle
  exact (Cursor.before_skip_of_le hn hle).trans (before_readTagText htext)

/-- A tag has its mark at least. -/
theorem before_readTag {flow : Bool} {token : Token} (h : readTag flow c = some (token, d)) :
    (c.skip 1).Before d := by
  rw [readTag_eq] at h
  obtain ⟨⟨token', e⟩, hstart, h⟩ := Option.bind_eq_some_iff.mp h
  have hbefore : (c.skip 1).Before e := by
    rw [readTagStart] at hstart
    split at hstart
    · next r hrest => exact before_readVerbatim (by simp [hrest]) hstart
    · exact before_readShorthand hstart
  dsimp only at h
  split at h
  · cases h
    exact hbefore
  · cases h

/-! ### Directives -/

/-- Reads the version that a directive gives. -/
def readVersion (c : Cursor) : Option (Token × Cursor) :=
  (readNumber c).bind fun (major, d) =>
    if d.rest.head? == some '.' then
      (readNumber (d.skip 1)).bind fun (minor, e) => some (.version major minor, e)
    else none

/-- Reads the handle that a directive explains, and what it stands for. -/
def readHandleText (c : Cursor) : Option (Token × Cursor) :=
  (readHandle c).bind fun (handle, d) =>
    if handle == ['!'] || (handle.length > 1 && handle.getLast? == some '!') then
      if d.rest.head?.any isSpace then
        (readTagText true (d.skipWhile isSpace)).bind fun (start, e) =>
          if !start.isEmpty && blankAhead e.rest then
            some (.tagDirective (String.ofList handle) (String.ofList start), e)
          else none
      else none
    else none

/-- Reads what a directive of a name says. -/
def readDirectiveValue (name : List Char) (c : Cursor) : Option (Token × Cursor) :=
  if name = "YAML".toList then readVersion c
  else if name = "TAG".toList then readHandleText c
  else none

/-- The reading of a directive, in its parts: its name, what it says, and the rest of its line. -/
theorem readDirective_eq (c : Cursor) :
    readDirective c =
      if !(c.run isNameChar).isEmpty && blankAhead (c.skipWhile isNameChar).rest then
        (readDirectiveValue (c.run isNameChar)
          ((c.skipWhile isNameChar).skipWhile isSpace)).bind fun (token, d) =>
            if endAhead d.skipComment.rest then some (token, d.skipComment.skipBreak) else none
      else none := by
  have hname : c.skip (c.run isNameChar).length = c.skipWhile isNameChar := rfl
  simp only [readDirective, guard_bind, hname]
  generalize (c.skipWhile isNameChar).skipWhile isSpace = d
  by_cases hstart : (!(c.run isNameChar).isEmpty && blankAhead (c.skipWhile isNameChar).rest) = true
  · rw [if_pos hstart, if_pos hstart, readDirectiveValue]
    split
    · rw [readVersion]
      cases readNumber d with
      | none => rfl
      | some p =>
          simp only [Option.bind_eq_bind, Option.bind_some]
          split
          · cases readNumber (p.2.skip 1) <;> rfl
          · rfl
    · split
      · rw [readHandleText]
        cases readHandle d with
        | none => rfl
        | some p =>
            simp only [Option.bind_eq_bind, Option.bind_some]
            split
            · split
              · cases readTagText true (p.2.skipWhile isSpace) with
                | none => rfl
                | some q =>
                    simp only [Option.bind_some]
                    split <;> rfl
              · rfl
            · rfl
      · rfl
  · rw [if_neg hstart, if_neg hstart]

/-- Versions are the same in the framed text. -/
theorem readVersion_framed (c : Cursor) : readVersion (c.framed f) = f.move (readVersion c) := by
  rw [readVersion, readNumber_framed]
  refine Frame.move_bind fun major d _ => ?_
  simp only [Cursor.rest_framed_eq, head_beq_framed (f := f) (x := '.') rfl]
  split
  · next hpoint =>
      have hlength : 1 ≤ d.rest.length := by cases hd : d.rest <;> simp_all
      rw [Cursor.skip_framed hlength, readNumber_framed]
      exact Frame.move_bind fun _ _ _ => rfl
  · rfl

/-- Of white space, a tag takes nothing. -/
theorem readTagText_gap {verbatim : Bool} (hc : ∀ x ∈ c.rest, isGap x = true) :
    readTagText verbatim c = some ([], c) := by
  have hrun : c.run (isTagChar verbatim) = [] := by
    cases hrest : c.rest with
    | nil => simp [Cursor.run, hrest]
    | cons x r => simp [Cursor.run, hrest, isTagChar_of_gap verbatim (hc x (by simp [hrest]))]
  rw [readTagText, hrun]
  rfl

/-- A handle and what it stands for are the same in the framed text, if the text is tight: else
the blanks between the two might be those of the frame. -/
theorem readHandleText_framed (htight : Tight c.rest) :
    readHandleText (c.framed f) = f.move (readHandleText c) := by
  rw [readHandleText, readHandle_framed]
  refine Frame.move_bind fun handle d hhandle => ?_
  dsimp only
  split
  · by_cases hd : d.rest = []
    · -- what the handle stands for would have to come from the white space
      have hgap : ∀ x ∈ ((d.framed f).skipWhile isSpace).rest, isGap x = true := fun x hx => by
        have hmem := (Cursor.before_skipWhile (d.framed f) isSpace).suffix.mem hx
        exact f.isGap_of_mem x (by simpa [Cursor.framed, hd] using hmem)
      rw [readTagText_gap hgap]
      simp [hd]
    · obtain ⟨y, s, hy⟩ := List.exists_cons_of_ne_nil hd
      have hblank : (d.framed f).rest.head?.any isSpace = d.rest.head?.any isSpace := by
        rw [Cursor.rest_framed f hy, hy]
        rfl
      obtain ⟨n, -, hle, rfl⟩ := exists_skip_of_readHandle hhandle
      obtain ⟨x, hx, hgap⟩ := (htight.suffix (Cursor.before_skip hle).suffix).exists_mem hd
      rw [hblank, Cursor.skipWhile_framed (.inl ⟨x, hx, isSpace_eq_false hgap⟩), readTagText_framed]
      split
      · refine Frame.move_bind fun start e _ => ?_
        simp only [Cursor.rest_framed_eq, blankAhead_framed]
        split <;> rfl
      · rfl
  · rfl

theorem readDirectiveValue_framed (name : List Char) (htight : Tight c.rest) :
    readDirectiveValue name (c.framed f) = f.move (readDirectiveValue name c) := by
  rw [readDirectiveValue, readDirectiveValue]
  split
  · exact readVersion_framed c
  · split
    · exact readHandleText_framed htight
    · rfl

/-- Nothing is said of a directive by white space. -/
theorem readDirectiveValue_gap {name : List Char} (hc : ∀ x ∈ c.rest, isGap x = true) :
    readDirectiveValue name c = none := by
  have hnumber : readNumber c = none := by
    have hrun : c.run isDigit = [] := by
      cases hrest : c.rest with
      | nil => simp [Cursor.run, hrest]
      | cons x r => simp [Cursor.run, hrest, isDigit_of_gap (hc x (by simp [hrest]))]
    simp [readNumber, hrun]
  have hhandle : readHandle c = none := by
    refine readHandle_other fun hhead => ?_
    have hgap := hc '!' (List.mem_of_mem_head? hhead)
    simp [isGap, isSpace, isBreak] at hgap
  rw [readDirectiveValue, readVersion, readHandleText, hnumber, hhandle]
  simp

/-- White space behind a text says nothing of a directive. -/
theorem readDirectiveValue_blanks (name : List Char) (htight : Tight c.rest) :
    readDirectiveValue name ((c.framed f).skipWhile isSpace) =
      f.move (readDirectiveValue name (c.skipWhile isSpace)) := by
  by_cases hrest : (c.skipWhile isSpace).rest = []
  · have hnone : readDirectiveValue name (c.skipWhile isSpace) = none :=
      readDirectiveValue_gap (by simp [hrest])
    rw [hnone, Frame.move_none]
    exact readDirectiveValue_gap fun x hx =>
      f.isGap_of_mem x (((Cursor.blank_skipWhile_framed isSpace).suffix_after hrest).mem hx)
  · rw [Cursor.skipWhile_framed (Cursor.stops_of_skipWhile_ne_nil hrest)]
    exact readDirectiveValue_framed name (htight.suffix (Cursor.before_skipWhile c _).suffix)

/-- What a directive says is read from what is ahead. -/
theorem before_readDirectiveValue {name : List Char} {token : Token}
    (h : readDirectiveValue name c = some (token, d)) : c.Before d := by
  rw [readDirectiveValue] at h
  split at h
  · obtain ⟨⟨major, e⟩, hmajor, h⟩ := Option.bind_eq_some_iff.mp h
    dsimp only at h
    split at h
    · next hpoint =>
        obtain ⟨⟨minor, e'⟩, hminor, h⟩ := Option.bind_eq_some_iff.mp h
        cases h
        refine (before_readNumber hmajor).trans ((Cursor.before_skip ?_).trans
          (before_readNumber hminor))
        cases he : e.rest <;> simp_all
    · cases h
  · split at h
    · obtain ⟨⟨handle, e⟩, hhandle, h⟩ := Option.bind_eq_some_iff.mp h
      dsimp only at h
      split at h
      · split at h
        · obtain ⟨⟨start, e'⟩, hstart, h⟩ := Option.bind_eq_some_iff.mp h
          dsimp only at h
          split at h
          · cases h
            obtain ⟨n, -, hle, rfl⟩ := exists_skip_of_readHandle hhandle
            exact (Cursor.before_skip hle).trans ((Cursor.before_skipWhile _ _).trans
              (before_readTagText hstart))
          · cases h
        · cases h
      · cases h
    · cases h

theorem before_readDirective {token : Token} (h : readDirective c = some (token, d)) :
    c.Before d := by
  rw [readDirective_eq] at h
  split at h
  · obtain ⟨⟨token', e⟩, hvalue, h⟩ := Option.bind_eq_some_iff.mp h
    dsimp only at h
    split at h
    · cases h
      exact (Cursor.before_skipWhile c _).trans <| (Cursor.before_skipWhile _ _).trans <|
        (before_readDirectiveValue hvalue).trans <| (Cursor.before_skipWithComment e _).trans
          (Cursor.blank_takeBreak _).before
    · cases h
  · cases h

/-- **Directives in a frame**: a directive of a framed text is one of the text
itself. -/
theorem exists_readDirective_of_framed {token : Token} (htight : Tight c.rest)
    (h : readDirective (c.framed f) = some (token, d)) :
    ∃ d', readDirective c = some (token, d') ∧ f.Meets d' d := by
  have hname : f.Stops isNameChar c.rest := f.stops_of_gap (fun x => isNameChar_of_gap) c.rest
  have htight := htight.suffix (Cursor.before_skipWhile c isNameChar).suffix
  rw [readDirective_eq, Cursor.run_framed hname, Cursor.skipWhile_framed hname,
    Cursor.rest_framed_eq, blankAhead_framed, readDirectiveValue_blanks _ htight] at h
  rw [readDirective_eq]
  split at h
  · next hstart =>
      obtain ⟨⟨token', e⟩, hvalue, h⟩ := Option.bind_eq_some_iff.mp h
      obtain ⟨e, hvalue', rfl⟩ := f.move_eq_some_iff.mp hvalue
      dsimp only at h
      split at h
      · next hend =>
          cases h
          have htight := htight.suffix ((Cursor.before_skipWhile _ isSpace).trans
            (before_readDirectiveValue hvalue')).suffix
          obtain ⟨hend', hmeets⟩ := f.meets_nextLine htight hend
          refine ⟨_, ?_, hmeets⟩
          rw [if_pos hstart, hvalue']
          exact if_pos hend'
      · cases h
  · cases h

end Scanner

end Broadsheet.Yaml
