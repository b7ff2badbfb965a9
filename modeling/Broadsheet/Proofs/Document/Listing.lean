import Broadsheet.Proofs.Document.WellFormed

/-!
# Broadsheet.Proofs.Document.Listing

The code of a code block can be read back from what is written for it.  Code is
escaped and then flattened to one line, and each step inserts markup into what
the step before it wrote.  All of them together write one character after
another: `writeCode` of the code with its white space normalised.

* `normalizeCode` — what flattening makes of white space;
* `readCode` — the reader: `<br/>` is a line feed, `&nbsp;` a blank, and the
  five references stand for their characters;
* `codeBlock_readBack` — what is read from a written block is its code.
-/

namespace Broadsheet

/-! ## White space in code -/

/-- Code with its white space normalised: a tab is four blanks, a line ends with
a line feed, and all other white space is a blank. -/
def normalizeCode : List Char → List Char
  | [] => []
  | '\t' :: cs => ' ' :: ' ' :: ' ' :: ' ' :: normalizeCode cs
  | '\r' :: '\n' :: cs => '\n' :: normalizeCode cs
  | '\n' :: cs => '\n' :: normalizeCode cs
  | c :: cs => (if isBlank c then ' ' else c) :: normalizeCode cs

/-! ## Writing -/

/-- A character of normalised code as it is written. -/
def writeCodeChar : Char → List Char
  | '\n' => "<br/>".toList
  | ' ' => "&nbsp;".toList
  | c => escapeChar c

/-- Normalised code as it is written. -/
def writeCode (s : List Char) : List Char := s.flatMap writeCodeChar

@[simp] theorem writeCode_nil : writeCode [] = [] := rfl

@[simp] theorem writeCode_cons (c : Char) (s : List Char) :
    writeCode (c :: s) = writeCodeChar c ++ writeCode s := rfl

/-! ## Flattening escaped code -/

/-- Whether flattening leaves a character as it is. -/
def isInk (c : Char) : Bool := c != '<' && !isBlank c

theorem isInk_iff {c : Char} : isInk c ↔ c ≠ '<' ∧ isBlank c = false := by
  simp [isInk]

theorem expandTabs_cons_of_ne {c : Char} (h : c ≠ '\t') (s : List Char) :
    expandTabs (c :: s) = c :: expandTabs s := by
  simp [expandTabs, h]

/-- A line ends before what begins with a line feed. -/
theorem breakLines_cons {c : Char} {s : List Char} (hfeed : c ≠ '\n')
    (hreturn : c = '\r' → s.head? ≠ some '\n') : breakLines (c :: s) = c :: breakLines s := by
  conv => lhs; unfold breakLines
  split <;> simp_all

/-- Characters that flattening leaves as they are. -/
theorem flatten_append_of_isInk (s : List Char) : (p : List Char) → p.all isInk →
    flatten (p ++ s) = p ++ flatten s
  | [], _ => rfl
  | c :: p, h => by
      rw [List.all_cons, Bool.and_eq_true, isInk_iff] at h
      obtain ⟨⟨hlt, hblank⟩, hp⟩ := h
      have htab : c ≠ '\t' := by rintro rfl; simp [isBlank] at hblank
      have hfeed : c ≠ '\n' := by rintro rfl; simp [isBlank] at hblank
      have hreturn : c ≠ '\r' := by rintro rfl; simp [isBlank] at hblank
      have ih := flatten_append_of_isInk s p hp
      rw [flatten] at ih
      rw [List.cons_append, flatten, expandTabs_cons_of_ne htab,
        breakLines_cons hfeed fun h => absurd h hreturn, keepBlanks, if_neg hlt, hblank, ih]
      rfl

/-- White space within a line. -/
theorem flatten_cons_of_isBlank {c : Char} {s : List Char} (hblank : isBlank c) (htab : c ≠ '\t')
    (hfeed : c ≠ '\n') (hreturn : c = '\r' → (expandTabs s).head? ≠ some '\n') :
    flatten (c :: s) = "&nbsp;".toList ++ flatten s := by
  have hlt : c ≠ '<' := by rintro rfl; simp [isBlank] at hblank
  rw [flatten, expandTabs_cons_of_ne htab, breakLines_cons hfeed hreturn, keepBlanks, if_neg hlt,
    if_pos hblank]
  rfl

theorem keepBlanks_lineBreak (s : List Char) :
    keepBlanks false ("<br/>".toList ++ s) = "<br/>".toList ++ keepBlanks false s := by
  simp [keepBlanks]

/-- A character is written as references, unless it has no meaning in markup. -/
theorem escapeChar_eq_or (c : Char) : escapeChar c = [c] ∧ c ≠ '<' ∨
    isBlank c = false ∧ (escapeChar c).all isInk ∧ writeCodeChar c = escapeChar c := by
  unfold escapeChar
  split
  case h_6 h _ _ _ => exact .inl ⟨rfl, h⟩
  all_goals exact .inr ⟨rfl, rfl, rfl⟩

theorem writeCodeChar_of_isInk {c : Char} (h : isInk c) : writeCodeChar c = escapeChar c := by
  obtain ⟨-, hblank⟩ := isInk_iff.mp h
  unfold writeCodeChar
  split
  · simp [isBlank] at hblank
  · simp [isBlank] at hblank
  · rfl

/-- Escaping and tabs make no line feed where there was none. -/
theorem head?_expandTabs_escape {s : List Char} (h : s.head? ≠ some '\n') :
    (expandTabs (escape s)).head? ≠ some '\n' := by
  cases s with
  | nil => simp [expandTabs]
  | cons c s =>
      have hc : c ≠ '\n' := by simpa using h
      rw [escape_cons]
      unfold escapeChar
      split
      case h_6 =>
        by_cases htab : c = '\t' <;> simp [expandTabs, htab, hc]
      all_goals simp [expandTabs]

/-- Escaping and flattening together write the code with its white space
normalised, one character after another. -/
theorem flatten_escape (s : List Char) : flatten (escape s) = writeCode (normalizeCode s) := by
  fun_induction normalizeCode s with
  | case1 => rfl
  | case2 cs ih =>
      have hblank (t : List Char) : flatten (' ' :: t) = "&nbsp;".toList ++ flatten t :=
        flatten_cons_of_isBlank rfl (by decide) (by decide) (by simp)
      rw [escape_cons]
      change flatten (' ' :: ' ' :: ' ' :: ' ' :: escape cs) = _
      rw [hblank, hblank, hblank, hblank, ih]
      rfl
  | case3 cs ih =>
      rw [escape_cons, escape_cons]
      change keepBlanks false ("<br/>".toList ++ breakLines (expandTabs (escape cs))) = _
      rw [keepBlanks_lineBreak, writeCode_cons, ← ih]
      rfl
  | case4 cs ih =>
      rw [escape_cons]
      change keepBlanks false ("<br/>".toList ++ breakLines (expandTabs (escape cs))) = _
      rw [keepBlanks_lineBreak, writeCode_cons, ← ih]
      rfl
  | case5 c cs htab hreturn hfeed ih =>
      rw [escape_cons, writeCode_cons, ← ih]
      obtain ⟨hself, hlt⟩ | ⟨hblank, hink, hwrite⟩ := escapeChar_eq_or c
      · rw [hself, List.singleton_append]
        by_cases hblank : isBlank c
        · rw [if_pos hblank]
          refine flatten_cons_of_isBlank hblank htab hfeed fun hc => head?_expandTabs_escape ?_
          intro hhead
          obtain ⟨rest, hcs⟩ := List.head?_eq_some_iff.mp hhead
          exact hreturn rest hc hcs
        · have hink : isInk c := isInk_iff.mpr ⟨hlt, by simpa using hblank⟩
          have hself' := flatten_append_of_isInk (escape cs) [c] (by simp [hink])
          rw [List.singleton_append] at hself'
          rw [if_neg hblank, hself', writeCodeChar_of_isInk hink, hself]
      · rw [flatten_append_of_isInk _ _ hink, if_neg (by simp [hblank]), hwrite]

/-! ## Reading -/

/-- Reads code as it was written.  There is no other markup in it. -/
def readCode : List Char → Option (List Char)
  | [] => some []
  | '<' :: 'b' :: 'r' :: '/' :: '>' :: cs => ('\n' :: ·) <$> readCode cs
  | '&' :: 'n' :: 'b' :: 's' :: 'p' :: ';' :: cs => (' ' :: ·) <$> readCode cs
  | '&' :: 'a' :: 'm' :: 'p' :: ';' :: cs => ('&' :: ·) <$> readCode cs
  | '&' :: 'l' :: 't' :: ';' :: cs => ('<' :: ·) <$> readCode cs
  | '&' :: 'g' :: 't' :: ';' :: cs => ('>' :: ·) <$> readCode cs
  | '&' :: 'q' :: 'u' :: 'o' :: 't' :: ';' :: cs => ('"' :: ·) <$> readCode cs
  | '&' :: '#' :: '3' :: '9' :: ';' :: cs => ('\'' :: ·) <$> readCode cs
  | c :: cs => if c = '<' ∨ c = '>' ∨ c = '&' then none else (c :: ·) <$> readCode cs

theorem readCode_cons {c : Char} (h : c ≠ '<' ∧ c ≠ '>' ∧ c ≠ '&') (cs : List Char) :
    readCode (c :: cs) = (c :: ·) <$> readCode cs := by
  conv => lhs; unfold readCode
  split <;> simp_all

/-- What is written is read back. -/
theorem readCode_writeCode (s : List Char) : readCode (writeCode s) = some s := by
  induction s with
  | nil => rfl
  | cons c s ih =>
      rw [writeCode_cons]
      unfold writeCodeChar escapeChar
      split
      · simp [readCode, ih]
      · simp [readCode, ih]
      · split <;> simp_all [readCode, readCode_cons]

/-! ## Code blocks -/

/-- The code between the ends of a block: its texts without the line feed at
their end. -/
def Content.codeText (inner : Content) : List Char := dropLineFeed inner.source.toList

/-- Code as it is shown where it is only escaped. -/
def shownCode (code : List Char) : List Char := flatten (escape code)

/-- What is shown tells all about the code but for its white space. -/
theorem shownCode_inj (code code' : List Char) :
    shownCode code = shownCode code' ↔ normalizeCode code = normalizeCode code' := by
  simp only [shownCode, flatten_escape]
  refine ⟨fun h => ?_, congrArg writeCode⟩
  have hread := congrArg readCode h
  rw [readCode_writeCode, readCode_writeCode] at hread
  exact Option.some.inj hread

/-- What a block of code writes before its code. -/
def codeOpening (styles : Styles) (info : String) : String :=
  "<pre class=\"hljs code__pre\"" ++ styles.styleAttribute .codeBlock ++ ">" ++
    Markup.write styles macSign ++
    "<code class=\"language-" ++ escapeText info ++ "\"" ++ styles.styleAttribute .code ++ ">"

theorem write_codeMarkup (styles : Styles) (c : PendingCode) :
    (c.codeMarkup .unasked).write styles =
      codeOpening styles c.info ++ String.ofList (shownCode c.source.toList) ++
        "</code></pre>" := by
  have hshown : flattenText (escapeText c.source) = String.ofList (shownCode c.source.toList) := by
    rw [flattenText, escapeText, String.toList_ofList, shownCode]
  have hlanguage : escapeText "language-" = "language-" := by decide
  unfold PendingCode.codeMarkup codeOpening
  generalize macSign = sign
  simp only [hshown, Markup.write_append, Markup.write_cons, Markup.write_nil, Piece.write,
    Attr.writeAll_cons, Attr.writeAll_nil, Attr.write, Styles.styleAttribute, escapeText_append,
    hlanguage, String.append_assoc]
  rw [← String.toList_inj]
  simp

section Blocks

variable {σ : Type} {services : Services (StateM σ)}

/-- The highlighter only escapes or fails. -/
def Services.EscapesCode (services : Services (StateM σ)) : Prop :=
  ∀ code language, Always (fun r => r = .ok (plainHighlight code language) ∨ ∃ e, r = .error e)
    (services.highlight code language)

theorem always_answer_isPlain (hs : services.EscapesCode) {c : PendingCode} (number : Nat)
    (hinfo : isDiagram c.info = false) : Always (·.IsPlain c) (services.answer c number) := by
  rw [Services.answer, if_neg (by simp [hinfo])]
  refine Always.bind (hs c.source (languageToken c.info)) fun r hr => ?_
  obtain rfl | ⟨e, rfl⟩ := hr
  · exact Always.pure rfl
  · exact Always.pure trivial

/-- **Code can be read back**: a block of code that is no diagram is written
around `shownCode` of its texts, from which their text is read again with its
white space normalised; and what is shown of two blocks is equal only if that is. -/
theorem codeBlock_readBack (hs : services.EscapesCode) (cfg : RenderSettings) {t : Tag}
    {info : String} (ht : t.codeInfo? = some info) (hinfo : isDiagram info = false)
    {inner : Content} (htext : inner.isText) :
    (∀ s : RenderState, s.code = none →
      Always (fun s' => s'.output.write cfg.styles =
          s.output.write cfg.styles ++ codeOpening cfg.styles info ++
            String.ofList (shownCode inner.codeText) ++ "</code></pre>")
        (s.run services cfg (Content.element t inner .nil).events)) ∧
      readCode (shownCode inner.codeText) = some (normalizeCode inner.codeText) ∧
      ∀ code, shownCode code = shownCode inner.codeText ↔
        normalizeCode code = normalizeCode inner.codeText := by
  refine ⟨fun s hcode => ?_, ?_, fun code => shownCode_inj code _⟩
  · rw [Content.events_element, Content.events_nil,
      RenderState.run_code services cfg s [] ht htext hcode]
    refine Always.bind (always_answer_isPlain hs _ hinfo) fun a ha => Always.pure ?_
    have hmarkup : (PendingCode.trimmed ⟨info, inner.source⟩).markup a =
        (PendingCode.trimmed ⟨info, inner.source⟩).codeMarkup .unasked := by
      rw [PendingCode.markup, if_neg (by simp [PendingCode.trimmed, hinfo]),
        codeMarkup_of_isPlain ha]
    rw [RenderState.add, Stroke.ofCode, hmarkup, Markup.write_append, write_codeMarkup]
    simp [PendingCode.trimmed, Content.codeText, String.append_assoc]
  · rw [shownCode, flatten_escape, readCode_writeCode]

end Blocks

/-- Two texts with a tab, both kinds of line ends, and code that looks like what
white space is written as. -/
def spacedCode : Content :=
  .leaf (.text "if\ta <\u00a0b\r\n") (.leaf (.text "\"<br/>&nbsp;\"\n\n") .nil)

/-- Only its white space is read back otherwise than it was. -/
theorem spacedCode_readBack :
    (Services.plain : Services (StateM Unit)).EscapesCode ∧ spacedCode.isText ∧
      Always (fun s' => s'.output.write .empty =
          codeOpening .empty "rust ignore" ++ String.ofList (shownCode spacedCode.codeText) ++
            "</code></pre>")
        (RenderState.initial.run (Services.plain : Services (StateM Unit)) (.ofStyles .empty)
          (Content.element (.fencedCode " rust ignore") spacedCode .nil).events) ∧
      readCode (shownCode spacedCode.codeText) =
        some "if    a < b\n\"<br/>&nbsp;\"\n".toList := by
  have hescapes : (Services.plain : Services (StateM Unit)).EscapesCode :=
    onlyEscape_plain.highlight
  have hinfo : (Tag.fencedCode " rust ignore").codeInfo? = some "rust ignore" := by decide
  have hdiagram : isDiagram "rust ignore" = false := by decide
  have htext : spacedCode.isText := by decide
  obtain ⟨hwritten, hread, -⟩ :=
    codeBlock_readBack hescapes (.ofStyles .empty) hinfo hdiagram htext
  have hnormal : normalizeCode spacedCode.codeText =
      "if    a < b\n\"<br/>&nbsp;\"\n".toList := by decide
  refine ⟨hescapes, htext, hwritten .initial rfl, ?_⟩
  rw [hread, hnormal]

/-- The white space around an info is not part of it: this one does not begin
with the word for diagrams, and yet it asks for one, so no code is written. -/
theorem spacedInfo_isDiagram :
    startsWithText "mermaid" "\u00a0mermaid" = false ∧
      Always (fun s' => s'.output.write .empty = "<pre class=\"mermaid\">a\tb</pre>" ∧
          containsText "<code" (s'.output.write .empty) = false)
        (RenderState.initial.run (Services.plain : Services (StateM Unit)) (.ofStyles .empty)
          (Content.element (.fencedCode "\u00a0mermaid") (.leaf (.text "a\tb\n") .nil)
            .nil).events) :=
  ⟨by decide, fun () => ⟨by decide, by decide⟩⟩

end Broadsheet
