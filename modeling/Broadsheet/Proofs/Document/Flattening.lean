import Broadsheet.Proofs.Document.Listing

/-!
# Broadsheet.Proofs.Document.Flattening

Flattening as it is seen in any highlighted code, whatever its angle brackets
are.  The line breaks that it puts in are tags themselves, so a tag that reaches
over a line is cut in two, and what was inside it comes to stand outside.

* `EndsInTag`: of all angle brackets before a place, the last one is a `<`;
* `TaggedText`: a text with tags, each from a `<` to the next `>`, and
  `TaggedText.flattened`, where the tags are kept and the texts rewritten;
* `flattenText_tags`: no white space is left outside tags, and code whose tags
  are closed and hold neither tabs nor line feeds is flattened in this way.
-/

namespace Broadsheet

/-! ## White space outside tags -/

/-- Of all angle brackets in a text there is a last one, and it is a `<`. -/
def EndsInTag (s : List Char) : Prop := ∃ p q, s = p ++ '<' :: q ∧ '<' ∉ q ∧ '>' ∉ q

theorem EndsInTag.prepend {s : List Char} (h : EndsInTag s) (a : List Char) :
    EndsInTag (a ++ s) := by
  obtain ⟨p, q, rfl, hq⟩ := h
  exact ⟨a ++ p, q, (List.append_assoc _ _ _).symm, hq⟩

/-- White space is left in tags only: in one that begins before it, or in the one that is open at
the beginning. -/
theorem endsInTag_of_keepBlanks : (inTag : Bool) → (s : List Char) → {a b : List Char} →
    {c : Char} → keepBlanks inTag s = a ++ c :: b → isBlank c →
      EndsInTag a ∨ inTag ∧ '<' ∉ a ∧ '>' ∉ a
  | _, [], a, _, _, h, _ => by simp [keepBlanks] at h
  | true, _ :: _, [], _, _, _, _ => .inr ⟨rfl, List.not_mem_nil, List.not_mem_nil⟩
  | true, d :: s, e :: a, b, c, h, hc => by
      obtain ⟨rfl, hrest⟩ : d = e ∧ keepBlanks (d != '>') s = a ++ c :: b := by
        simpa [keepBlanks] using h
      obtain hin | ⟨hopen, hlt, hgt⟩ := endsInTag_of_keepBlanks (d != '>') s hrest hc
      · exact .inl (hin.prepend [d])
      · by_cases hd : d = '<'
        · exact .inl ⟨[], a, by rw [hd, List.nil_append], hlt, hgt⟩
        · exact .inr ⟨rfl, by simp [Ne.symm hd, hlt],
            by simpa [hgt] using Ne.symm (by simpa using hopen : d ≠ '>')⟩
  | false, d :: s, a, b, c, h, hc => by
      rw [keepBlanks] at h
      split at h
      · next hd =>
          obtain ⟨rfl, h⟩ | ⟨a, rfl, hrest⟩ := List.cons_eq_append_iff.mp h
          · rw [← (List.cons.inj h).1, hd] at hc
            simp [isBlank] at hc
          · obtain hin | ⟨-, hlt, hgt⟩ := endsInTag_of_keepBlanks true s hrest hc
            · exact .inl (hin.prepend [d])
            · exact .inl ⟨[], a, by rw [hd, List.nil_append], hlt, hgt⟩
      · split at h
        · -- the reference for a blank holds no white space, so the place is behind it
          obtain ⟨a, rfl, hrest⟩ | ⟨p, hp, h⟩ := List.append_eq_append_iff.mp h
          · obtain hin | ⟨hopen, -⟩ := endsInTag_of_keepBlanks false s hrest hc
            · exact .inl (hin.prepend _)
            · simp at hopen
          · have hink : "&nbsp;".toList.any isBlank = false := by decide
            cases p with
            | nil =>
                obtain ⟨_, _, hnil, -⟩ | ⟨hopen, -⟩ :=
                  endsInTag_of_keepBlanks false s (a := []) h.symm hc
                · simp at hnil
                · simp at hopen
            | cons e p =>
                rw [(List.cons.inj h).1] at hc
                exact absurd hc (List.any_eq_false.mp hink e (by simp [hp]))
        · next hblank =>
            obtain ⟨rfl, h⟩ | ⟨a, rfl, hrest⟩ := List.cons_eq_append_iff.mp h
            · rw [← (List.cons.inj h).1] at hc
              exact absurd hc hblank
            · obtain hin | ⟨hopen, -⟩ := endsInTag_of_keepBlanks false s hrest hc
              · exact .inl (hin.prepend [d])
              · simp at hopen

/-! ## Texts with tags -/

/-- Text outside tags as it is flattened. -/
def flattenedText : List Char → List Char
  | [] => []
  | '\t' :: cs => "&nbsp;&nbsp;&nbsp;&nbsp;".toList ++ flattenedText cs
  | '\r' :: '\n' :: cs => "<br/>".toList ++ flattenedText cs
  | '\n' :: cs => "<br/>".toList ++ flattenedText cs
  | c :: cs => (if isBlank c then "&nbsp;".toList else [c]) ++ flattenedText cs

/-- A text with tags: text up to the first `<`, the tag up to the next `>`, and so on. -/
inductive TaggedText
  | text (s : List Char) (hs : '<' ∉ s)
  | tagged (s : List Char) (hs : '<' ∉ s) (tag : List Char) (htag : '>' ∉ tag) (rest : TaggedText)

namespace TaggedText

/-- The text itself. -/
def write : TaggedText → List Char
  | text s _ => s
  | tagged s _ tag _ rest => s ++ '<' :: (tag ++ '>' :: rest.write)

/-- The text flattened, and the tags kept. -/
def flattened : TaggedText → List Char
  | text s _ => flattenedText s
  | tagged s _ tag _ rest => flattenedText s ++ '<' :: (tag ++ '>' :: rest.flattened)

end TaggedText

/-- Every `<` has a `>` behind it, and no tag holds a tab or a line feed. -/
structure TagsInLine (s : List Char) : Prop where
  closed : ∀ a b, s = a ++ '<' :: b → '>' ∈ b
  inLine : ∀ a tag b, s = a ++ '<' :: (tag ++ '>' :: b) → '>' ∉ tag → '\t' ∉ tag ∧ '\n' ∉ tag

theorem TagsInLine.of_append {a s : List Char} (h : TagsInLine (a ++ s)) : TagsInLine s where
  closed b c hs := h.closed (a ++ b) c (by rw [hs, List.append_assoc])
  inLine b tag c hs := h.inLine (a ++ b) tag c (by rw [hs, List.append_assoc])

theorem tagsInLine_cons_iff {c : Char} {s : List Char} :
    TagsInLine (c :: s) ↔
      (c = '<' → '>' ∈ s ∧ '\t' ∉ s.takeWhile (· != '>') ∧ '\n' ∉ s.takeWhile (· != '>')) ∧
        TagsInLine s := by
  have htag {tag b : List Char} (h : '>' ∉ tag) :
      (tag ++ '>' :: b).takeWhile (· != '>') = tag := by
    rw [List.takeWhile_append_of_pos fun d hd => bne_iff_ne.mpr (ne_of_mem_of_not_mem hd h)]
    simp
  constructor
  · intro h
    refine ⟨?_, TagsInLine.of_append (a := [c]) h⟩
    rintro rfl
    have hclosed : '>' ∈ s := h.closed [] s rfl
    obtain ⟨tag, b, rfl, hb⟩ := List.eq_append_cons_of_mem hclosed
    rw [htag hb]
    exact ⟨hclosed, h.inLine [] tag b rfl hb⟩
  · rintro ⟨hfirst, hrest⟩
    constructor
    · intro a b h
      obtain ⟨-, hb⟩ | ⟨a, -, hs⟩ := List.cons_eq_append_iff.mp h
      · obtain ⟨rfl, rfl⟩ := List.cons.inj hb
        exact (hfirst rfl).1
      · exact hrest.closed a b hs
    · intro a tag b h hnotMem
      obtain ⟨-, hb⟩ | ⟨a, -, hs⟩ := List.cons_eq_append_iff.mp h
      · obtain ⟨rfl, rfl⟩ := List.cons.inj hb
        have hin := (hfirst rfl).2
        rwa [htag hnotMem] at hin
      · exact hrest.inLine a tag b hs hnotMem

instance decidableTagsInLine : (s : List Char) → Decidable (TagsInLine s)
  | [] => isTrue ⟨fun _ _ h => by simp at h, fun _ _ _ h => by simp at h⟩
  | _ :: s =>
      have := decidableTagsInLine s
      decidable_of_iff' _ tagsInLine_cons_iff

/-- A text whose tags are closed is a text with tags. -/
theorem exists_taggedText (s : List Char) (h : ∀ a b, s = a ++ '<' :: b → '>' ∈ b) :
    ∃ t : TaggedText, t.write = s := by
  by_cases hlt : '<' ∈ s
  · obtain ⟨a, b, hs, ha⟩ := List.eq_append_cons_of_mem hlt
    obtain ⟨tag, rest, hb, htag⟩ := List.eq_append_cons_of_mem (h a b hs)
    have hrest : ∀ c d, rest = c ++ '<' :: d → '>' ∈ d := fun c d hcd =>
      h (a ++ '<' :: (tag ++ '>' :: c)) d (by simp [hs, hb, hcd])
    have hshorter : rest.length < s.length := by simp [hs, hb]; omega
    obtain ⟨t, ht⟩ := exists_taggedText rest hrest
    exact ⟨.tagged a ha tag htag t, by rw [TaggedText.write, ht, hs, hb]⟩
  · exact ⟨.text s hlt, rfl⟩
termination_by s.length

/-! ## Flattening them -/

/-- Tabs are no line feeds when they are expanded. -/
theorem head?_expandTabs {s : List Char} (h : s.head? ≠ some '\n') :
    (expandTabs s).head? ≠ some '\n' := by
  cases s with
  | nil => simp [expandTabs]
  | cons c s =>
      by_cases htab : c = '\t'
      · simp [expandTabs, htab]
      · simpa [expandTabs_cons_of_ne htab] using h

/-- Text before a tag, or at the end. -/
theorem flatten_append_of_notMem {s : List Char} (hs : '<' ∉ s) {rest : List Char}
    (hrest : rest.head? ≠ some '\n') : flatten (s ++ rest) = flattenedText s ++ flatten rest := by
  fun_induction flattenedText s with
  | case1 => rfl
  | case2 cs ih =>
      have hblank (t : List Char) : flatten (' ' :: t) = "&nbsp;".toList ++ flatten t :=
        flatten_cons_of_isBlank rfl (by decide) (by decide) (by simp)
      change flatten (' ' :: ' ' :: ' ' :: ' ' :: (cs ++ rest)) = _
      rw [hblank, hblank, hblank, hblank, ih (by simpa using hs)]
      rfl
  | case3 cs ih =>
      change keepBlanks false ("<br/>".toList ++ breakLines (expandTabs (cs ++ rest))) = _
      rw [keepBlanks_lineBreak, List.append_assoc, ← ih (by simpa using hs)]
      rfl
  | case4 cs ih =>
      change keepBlanks false ("<br/>".toList ++ breakLines (expandTabs (cs ++ rest))) = _
      rw [keepBlanks_lineBreak, List.append_assoc, ← ih (by simpa using hs)]
      rfl
  | case5 c cs htab hreturn hfeed ih =>
      obtain ⟨hlt, hcs⟩ : '<' ≠ c ∧ '<' ∉ cs := by simpa using hs
      rw [List.append_assoc, ← ih hcs, List.cons_append]
      by_cases hblank : isBlank c
      · rw [if_pos hblank]
        refine flatten_cons_of_isBlank hblank htab hfeed fun hc => head?_expandTabs ?_
        cases cs with
        | nil => exact hrest
        | cons d cs => simpa using fun hd : d = '\n' => hreturn cs hc (by rw [hd])
      · have hink : isInk c := isInk_iff.mpr ⟨Ne.symm hlt, by simpa using hblank⟩
        rw [if_neg hblank]
        exact flatten_append_of_isInk (cs ++ rest) [c] (by simp [hink])

theorem expandTabs_append_of_notMem : (s : List Char) → '\t' ∉ s → (rest : List Char) →
    expandTabs (s ++ rest) = s ++ expandTabs rest
  | [], _, _ => rfl
  | c :: s, h, rest => by
      obtain ⟨hc, hs⟩ : '\t' ≠ c ∧ '\t' ∉ s := by simpa using h
      rw [List.cons_append, expandTabs_cons_of_ne (Ne.symm hc), expandTabs_append_of_notMem s hs,
        List.cons_append]

theorem breakLines_append_of_notMem : (s : List Char) → '\n' ∉ s → {rest : List Char} →
    rest.head? ≠ some '\n' → breakLines (s ++ rest) = s ++ breakLines rest
  | [], _, _, _ => rfl
  | c :: s, h, rest, hrest => by
      obtain ⟨hc, hs⟩ : '\n' ≠ c ∧ '\n' ∉ s := by simpa using h
      have hnext : (s ++ rest).head? ≠ some '\n' := by
        cases s with
        | nil => exact hrest
        | cons d s => simpa using fun hd : d = '\n' => hs (by simp [hd])
      rw [List.cons_append, breakLines_cons (Ne.symm hc) fun _ => hnext,
        breakLines_append_of_notMem s hs hrest, List.cons_append]

theorem keepBlanks_append_of_notMem : (tag : List Char) → '>' ∉ tag → (rest : List Char) →
    keepBlanks true (tag ++ '>' :: rest) = tag ++ '>' :: keepBlanks false rest
  | [], _, _ => rfl
  | c :: tag, h, rest => by
      obtain ⟨hc, htag⟩ : '>' ≠ c ∧ '>' ∉ tag := by simpa using h
      have hopen : (c != '>') = true := by simpa using Ne.symm hc
      rw [List.cons_append, keepBlanks, hopen, keepBlanks_append_of_notMem tag htag,
        List.cons_append]

/-- A tag without tabs and line feeds is kept. -/
theorem flatten_tag {tag : List Char} (htag : '>' ∉ tag) (htab : '\t' ∉ tag) (hfeed : '\n' ∉ tag)
    (rest : List Char) :
    flatten ('<' :: (tag ++ '>' :: rest)) = '<' :: (tag ++ '>' :: flatten rest) := by
  rw [flatten, expandTabs_cons_of_ne (by decide), expandTabs_append_of_notMem tag htab,
    expandTabs_cons_of_ne (by decide), breakLines_cons (by decide) (by simp),
    breakLines_append_of_notMem tag hfeed (by simp), breakLines_cons (by decide) (by simp),
    keepBlanks, if_pos rfl, keepBlanks_append_of_notMem tag htag, flatten]

/-- Tags are kept, and texts between them flattened. -/
theorem flatten_write : (t : TaggedText) → TagsInLine t.write → flatten t.write = t.flattened
  | .text s hs, _ => by
      have htext : flatten (s ++ []) = flattenedText s ++ flatten [] :=
        flatten_append_of_notMem hs (by simp)
      rw [List.append_nil] at htext
      rw [TaggedText.write, TaggedText.flattened, htext]
      exact List.append_nil _
  | .tagged s hs tag htag rest, h => by
      obtain ⟨htab, hfeed⟩ := h.inLine s tag rest.write rfl htag
      have hrest : TagsInLine rest.write := by
        have hsplit : (TaggedText.tagged s hs tag htag rest).write =
            (s ++ '<' :: (tag ++ ['>'])) ++ rest.write := by simp [TaggedText.write]
        rw [hsplit] at h
        exact h.of_append
      rw [TaggedText.write, TaggedText.flattened, flatten_append_of_notMem hs (by simp),
        flatten_tag htag htab hfeed, flatten_write rest hrest]

/-- **Flattening is complete and keeps tags**: in what is made of any highlighted code, all white
space is in tags; and where every `<` of the code has a `>` behind it and no tag holds a tab or a
line feed, the tags are as they were, and of the texts between them the white space alone is
rewritten: tabs as four blanks, line ends as breaks, and all else as one blank. -/
theorem flattenText_tags (html : String) :
    (∀ a c b, (flattenText html).toList = a ++ c :: b → isBlank c → EndsInTag a) ∧
      (TagsInLine html.toList →
        ∃ t : TaggedText, t.write = html.toList ∧ (flattenText html).toList = t.flattened) := by
  have hflatten : (flattenText html).toList = flatten html.toList := String.toList_ofList
  rw [hflatten]
  constructor
  · intro a c b h hc
    obtain hin | ⟨hopen, -⟩ := endsInTag_of_keepBlanks false _ h hc
    · exact hin
    · simp at hopen
  · intro h
    obtain ⟨t, ht⟩ := exists_taggedText html.toList h.closed
    rw [← ht] at h ⊢
    exact ⟨t, rfl, flatten_write t h⟩

/-- Two lines with tags, one of which begins with a `<` that was meant as a sign. -/
def taggedCode : String := "<b class=\"k\">if</b>\ta <\u00a0b <i>c</i>\r\n\u2003d > e"

/-- The tags are kept, and all white space outside them is rewritten. -/
theorem taggedCode_flattened :
    TagsInLine taggedCode.toList ∧
      ∃ t : TaggedText, t.write = taggedCode.toList ∧
        t.flattened = ("<b class=\"k\">if</b>&nbsp;&nbsp;&nbsp;&nbsp;a&nbsp;<\u00a0b <i>c</i>" ++
          "<br/>&nbsp;d&nbsp;>&nbsp;e").toList := by
  have hinLine : TagsInLine taggedCode.toList := by decide
  obtain ⟨t, ht, hflattened⟩ := (flattenText_tags taggedCode).2 hinLine
  refine ⟨hinLine, t, ht, ?_⟩
  rw [← hflattened]
  decide

/-- A tag over two lines ends with the break that is put in, and the rest of it is text. -/
example : flattenText "<a\nb c>" = "<a<br/>b&nbsp;c>" := by decide

end Broadsheet
