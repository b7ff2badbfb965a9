import Broadsheet.Document.FrontMatter
import Broadsheet.Proofs.Text.Trimming

/-!
# Broadsheet.Proofs.Document.Fences

The block of attributes that a document begins with, told by the document's
lines (`FrontMatter.Block`): a fence that opens it, lines that are no fence, and
a fence that closes it.  `split_blocks` says of every document and every reader
of attributes which block the document has, what it is split into, and that
nothing is lost.
-/

namespace Broadsheet.FrontMatter

/-! ## Lines -/

/-- The lines of a text with their ends: each ends with its only line feed, but
the last one may end with the text. -/
inductive LinesOf : List (List Char) → List Char → Prop
  | nil : LinesOf [] []
  | last {l : List Char} : '\n' ∉ l → l ≠ [] → LinesOf [l] l
  | cons {l s : List Char} {ls : List (List Char)} :
      '\n' ∉ l → LinesOf ls s → LinesOf ((l ++ ['\n']) :: ls) (l ++ '\n' :: s)

theorem LinesOf.flatten {ls : List (List Char)} {s : List Char} (h : LinesOf ls s) :
    ls.flatten = s := by
  induction h with
  | nil => rfl
  | last => simp
  | cons _ _ ih => simp [ih]

/-- One more character before a line that has no line feed yet. -/
theorem LinesOf.consChar {c : Char} {l s : List Char} {ls : List (List Char)} (hc : c ≠ '\n')
    (h : LinesOf (l :: ls) s) : LinesOf ((c :: l) :: ls) (c :: s) := by
  cases h with
  | last hl => exact .last (by simp [hl, Ne.symm hc]) (by simp)
  | @cons l s _ hl hs => exact .cons (l := c :: l) (by simp [hl, Ne.symm hc]) hs

theorem linesOf_lines (s : List Char) : LinesOf (lines s) s := by
  fun_induction lines s with
  | case1 => exact .nil
  | case2 s ih => exact .cons (l := []) List.not_mem_nil ih
  | case3 c s hc hs ih =>
      rw [hs] at ih
      cases ih
      exact .last (by simpa using Ne.symm hc) (by simp)
  | case4 c s hc l ls hs ih =>
      rw [hs] at ih
      exact ih.consChar hc

/-- A text has its lines in one way. -/
theorem LinesOf.eq_lines {ls : List (List Char)} {s : List Char} (h : LinesOf ls s) :
    ls = lines s := by
  induction h with
  | nil => rfl
  | @last l hl hne =>
      induction l with
      | nil => exact absurd rfl hne
      | cons c l ih =>
          obtain ⟨hc, hl⟩ : '\n' ≠ c ∧ '\n' ∉ l := by simpa using hl
          rw [lines, if_neg (Ne.symm hc)]
          cases l with
          | nil => rfl
          | cons d l => simp only [← ih hl (by simp)]
  | @cons l s ls hl hs ih =>
      induction l with
      | nil => simp [lines, ih]
      | cons c l ihl =>
          obtain ⟨hc, hl⟩ : '\n' ≠ c ∧ '\n' ∉ l := by simpa using hl
          rw [List.cons_append, List.cons_append, lines, if_neg (Ne.symm hc), ← ihl hl]

/-! ## Fences -/

/-- A line that closes a block: but for carriage returns and line feeds at its
end it is `---` or `...`. -/
def Closes (line : List Char) : Prop :=
  ∃ mark ends, line = mark ++ ends ∧ (mark = "---".toList ∨ mark = "...".toList) ∧
    ∀ c ∈ ends, c = '\r' ∨ c = '\n'

theorem content_append {mark ends : List Char} (hmark : content mark = mark)
    (hends : ∀ c ∈ ends, c = '\r' ∨ c = '\n') : content (mark ++ ends) = mark := by
  rw [content, List.reverse_append, List.dropWhile_append_of_pos (by simpa using hends)]
  exact hmark

theorem exists_eq_content_append (line : List Char) :
    ∃ ends, line = content line ++ ends ∧ ∀ c ∈ ends, c = '\r' ∨ c = '\n' := by
  refine ⟨(line.reverse.takeWhile fun c => c == '\r' || c == '\n').reverse, ?_, fun c hc => ?_⟩
  · rw [content, ← List.reverse_append, List.takeWhile_append_dropWhile, List.reverse_reverse]
  · simpa using List.all_eq_true.mp List.all_takeWhile c (List.mem_reverse.mp hc)

theorem isFence_iff {line : List Char} : isFence line ↔ Closes line := by
  rw [isFence, Bool.or_eq_true, beq_iff_eq, beq_iff_eq]
  constructor
  · intro h
    obtain ⟨ends, hline, hends⟩ := exists_eq_content_append line
    exact ⟨content line, ends, hline, h, hends⟩
  · rintro ⟨mark, ends, rfl, rfl | rfl, hends⟩
    · exact .inl (content_append (by decide) hends)
    · exact .inr (content_append (by decide) hends)

/-- A block of attributes between two fences, the lines inside it being no fences. -/
structure Block (s : List Char) where
  /-- The line that opens the block. -/
  opening : List Char
  before : List (List Char)
  /-- The line that closes the block. -/
  closing : List Char
  after : List (List Char)
  opens : opening = "---\n".toList ∨ opening = "---\r\n".toList
  closes : Closes closing
  inside : ∀ l ∈ before, ¬ Closes l
  lines : ∃ rest, s = opening ++ rest ∧ LinesOf (before ++ closing :: after) rest

namespace Block

variable {s : List Char} (b : Block s)

/-- What stands between the fences. -/
def text : List Char := b.before.flatten

/-- What follows the closing fence. -/
def body : List Char := b.after.flatten

theorem eq_append : s = b.opening ++ b.text ++ b.closing ++ b.body := by
  obtain ⟨rest, hs, hlines⟩ := b.lines
  calc s
    _ = b.opening ++ (b.before ++ b.closing :: b.after).flatten := by rw [hlines.flatten, ← hs]
    _ = b.opening ++ b.text ++ b.closing ++ b.body := by simp [text, body]

end Block

/-- The first fence divides the lines. -/
theorem splitFence_append {before : List (List Char)} (hbefore : ∀ l ∈ before, ¬ Closes l)
    {closing : List Char} (hclosing : Closes closing) (after : List (List Char)) :
    splitFence (before ++ closing :: after) = some (before.flatten, after.flatten) := by
  induction before with
  | nil => simp [splitFence, isFence_iff.mpr hclosing]
  | cons l before ih =>
      obtain ⟨hl, hbefore⟩ : ¬ Closes l ∧ ∀ l ∈ before, ¬ Closes l := by simpa using hbefore
      have hfence : isFence l = false := by
        rw [← Bool.not_eq_true]
        exact fun h => hl (isFence_iff.mp h)
      simp [splitFence, hfence, ih hbefore]

theorem splitFence_eq_none {ls : List (List Char)} (h : ∀ l ∈ ls, ¬ Closes l) :
    splitFence ls = none := by
  induction ls with
  | nil => rfl
  | cons l ls ih =>
      obtain ⟨hl, hls⟩ : ¬ Closes l ∧ ∀ l ∈ ls, ¬ Closes l := by simpa using h
      have hfence : isFence l = false := by
        rw [← Bool.not_eq_true]
        exact fun h => hl (isFence_iff.mp h)
      simp [splitFence, hfence, ih hls]

/-! ## Documents -/

/-- The document without a byte order mark at its beginning. -/
def unmarked : List Char → List Char
  | [] => []
  | c :: s => if c = '\uFEFF' then s else c :: s

theorem exists_mark (s : List Char) :
    ∃ mark, s = mark ++ unmarked s ∧ (mark = [] ∨ mark = ['\uFEFF']) := by
  cases s with
  | nil => exact ⟨[], rfl, .inl rfl⟩
  | cons c s =>
      by_cases hc : c = '\uFEFF'
      · exact ⟨['\uFEFF'], by simp [unmarked, hc], .inr rfl⟩
      · exact ⟨[], by simp [unmarked, hc], .inl rfl⟩

theorem afterFence?_eq_some_iff {s rest : List Char} :
    afterFence? s = some rest ↔
      ∃ opening, (opening = "---\n".toList ∨ opening = "---\r\n".toList) ∧
        unmarked s = opening ++ rest := by
  have hunmarked : (after? ['\uFEFF'] s).getD s = unmarked s := by
    cases s with
    | nil => rfl
    | cons c s =>
        by_cases hc : c = '\uFEFF'
        · simp [after?, unmarked, hc]
        · simp [after?, unmarked, hc, Ne.symm hc]
  rw [afterFence?, hunmarked]
  constructor
  · intro h
    obtain h | ⟨-, h⟩ : after? "---\r\n".toList (unmarked s) = some rest ∨
        after? "---\r\n".toList (unmarked s) = none ∧
          after? "---\n".toList (unmarked s) = some rest := by simpa using h
    · exact ⟨_, .inr rfl, after?_eq_some_iff.mp h⟩
    · exact ⟨_, .inl rfl, after?_eq_some_iff.mp h⟩
  · rintro ⟨opening, rfl | rfl, hs⟩
    · simp [hs, after?]
    · simp [hs, after?]

/-- The reading of a block finds the block that there is. -/
theorem block?_of_block {s : List Char} (b : Block (unmarked s)) :
    block? s = some (b.text, b.body) := by
  obtain ⟨rest, hs, hlines⟩ := b.lines
  have hafter : afterFence? s = some rest := afterFence?_eq_some_iff.mpr ⟨_, b.opens, hs⟩
  have hfence := splitFence_append b.inside b.closes b.after
  rw [hlines.eq_lines] at hfence
  simp [block?, hafter, hfence, Block.text, Block.body]

theorem nonempty_block_iff {s : List Char} :
    Nonempty (Block s) ↔ ∃ opening rest,
      (opening = "---\n".toList ∨ opening = "---\r\n".toList) ∧ s = opening ++ rest ∧
        ∃ ls, LinesOf ls rest ∧ ∃ l ∈ ls, Closes l := by
  constructor
  · rintro ⟨b⟩
    obtain ⟨rest, hs, hlines⟩ := b.lines
    exact ⟨b.opening, rest, b.opens, hs, _, hlines, b.closing, by simp, b.closes⟩
  · rintro ⟨opening, rest, hopening, hs, ls, hlines, l, hl, hcloses⟩
    obtain ⟨closing, hfind⟩ := Option.isSome_iff_exists.mp
      (List.find?_isSome.mpr ⟨l, hl, isFence_iff.mpr hcloses⟩)
    obtain ⟨hclosing, before, after, rfl, hbefore⟩ := List.find?_eq_some_iff_append.mp hfind
    exact ⟨{
      opening, before, closing, after
      opens := hopening
      closes := isFence_iff.mp hclosing
      inside := fun l hl h => by simpa [isFence_iff.mpr h] using hbefore l hl
      lines := ⟨rest, hs, hlines⟩ }⟩

theorem block?_eq_none {s : List Char} (h : ¬ Nonempty (Block (unmarked s))) :
    block? s = none := by
  cases hafter : afterFence? s with
  | none => simp [block?, hafter]
  | some rest =>
      obtain ⟨opening, hopening, hs⟩ := afterFence?_eq_some_iff.mp hafter
      have hnone : splitFence (lines rest) = none := splitFence_eq_none fun l hl hcloses =>
        h (nonempty_block_iff.mpr
          ⟨opening, rest, hopening, hs, _, linesOf_lines rest, l, hl, hcloses⟩)
      simp [block?, hafter, hnone]

/-! ## Splitting -/

variable (parse : List Char → Option Attributes) {s : List Char}

theorem splitWith_of_block (b : Block (unmarked s)) :
    splitWith parse s =
      if blank b.text then (∅, b.body)
      else match parse (trim b.text) with
        | some a => (a, b.body)
        | none => (∅, s) := by
  have hempty : (trim b.text).isEmpty = blank b.text := by
    rw [Bool.eq_iff_iff, List.isEmpty_iff, trim_eq_nil_iff]
  cases hblank : blank b.text with
  | true => simp [splitWith, block?_of_block b, hempty, hblank]
  | false =>
      cases hparse : parse (trim b.text) with
      | some a => simp [splitWith, block?_of_block b, hempty, hblank, hparse]
      | none => simp [splitWith, block?_of_block b, hempty, hblank, hparse]

theorem splitWith_of_not_nonempty (h : ¬ Nonempty (Block (unmarked s))) :
    splitWith parse s = (∅, s) := by
  rw [splitWith, block?_eq_none h]

/-- A document is split before its body, or not at all. -/
theorem splitWith_cases (s : List Char) :
    splitWith parse s = (∅, s) ∨
      ∃ b : Block (unmarked s), (splitWith parse s).2 = b.body := by
  by_cases h : Nonempty (Block (unmarked s))
  · obtain ⟨b⟩ := h
    rw [splitWith_of_block parse b]
    split
    · exact .inr ⟨b, rfl⟩
    · split
      · exact .inr ⟨b, rfl⟩
      · exact .inl rfl
  · exact .inl (splitWith_of_not_nonempty parse h)

theorem exists_mark_append (b : Block (unmarked s)) :
    ∃ mark, (mark = [] ∨ mark = ['\uFEFF']) ∧
      s = mark ++ b.opening ++ b.text ++ b.closing ++ b.body := by
  obtain ⟨mark, hs, hmark⟩ := exists_mark s
  refine ⟨mark, hmark, ?_⟩
  calc s
    _ = mark ++ unmarked s := hs
    _ = mark ++ (b.opening ++ b.text ++ b.closing ++ b.body) := by rw [← b.eq_append]
    _ = mark ++ b.opening ++ b.text ++ b.closing ++ b.body := by simp

/-- **Blocks of attributes**: a document has a block exactly if it begins, after
a byte order mark if there is one, with a fence and has a line that closes it.
A document with a block whose text is blank is split into no attributes and what
follows the block, and one whose block is read as attributes into these and what
follows; every other document has no attributes and is its own body.  So the
body is an end of the document, and where there are attributes, the two fences
and what stands between them were taken from before it. -/
theorem split_blocks (s : List Char) :
    (Nonempty (Block (unmarked s)) ↔ ∃ opening rest,
      (opening = "---\n".toList ∨ opening = "---\r\n".toList) ∧ unmarked s = opening ++ rest ∧
        ∃ ls, LinesOf ls rest ∧ ∃ l ∈ ls, Closes l) ∧
      (∀ b : Block (unmarked s), splitWith parse s =
        if blank b.text then (∅, b.body)
        else match parse (trim b.text) with
          | some a => (a, b.body)
          | none => (∅, s)) ∧
      (¬ Nonempty (Block (unmarked s)) → splitWith parse s = (∅, s)) ∧
      (∃ removed, s = removed ++ (splitWith parse s).2) ∧
      ((splitWith parse s).1 ≠ ∅ → ∃ (b : Block (unmarked s)) (mark : List Char),
        (mark = [] ∨ mark = ['\uFEFF']) ∧
          s = mark ++ b.opening ++ b.text ++ b.closing ++ (splitWith parse s).2) := by
  refine ⟨nonempty_block_iff, splitWith_of_block parse, splitWith_of_not_nonempty parse, ?_,
    fun hattributes => ?_⟩
  · obtain h | ⟨b, hbody⟩ := splitWith_cases parse s
    · exact ⟨[], by rw [h, List.nil_append]⟩
    · obtain ⟨mark, -, hs⟩ := exists_mark_append b
      exact ⟨_, hbody ▸ hs⟩
  · obtain h | ⟨b, hbody⟩ := splitWith_cases parse s
    · exact absurd (congrArg Prod.fst h) hattributes
    · obtain ⟨mark, hmark, hs⟩ := exists_mark_append b
      exact ⟨b, mark, hmark, hbody ▸ hs⟩

/-- A byte order mark, both ends of lines, and no end behind the closing fence. -/
example : (splitWith (fun _ => some ∅) "\uFEFF---\r\na: 1\n--- \n...".toList).2 = [] := by decide

end Broadsheet.FrontMatter
