import Broadsheet.Document.Page
import Broadsheet.Proofs.Config.Choosing
import Broadsheet.Proofs.Html.StyleValues
import Broadsheet.Proofs.Text.Replacing

/-!
# Broadsheet.Proofs.Document.Exporting

What an export does to an article.  References to the primary color are replaced
and its declarations are taken out, in the text of the whole article.  Neither
holds a double quote, so each piece between two double quotes is resolved by
itself, and the value of a style attribute is such a piece.

`exportPage_keepsText_iff` says when nothing else is changed: the article
outside the values of its style attributes stays as it is exactly if it is
`ColorFree` there.  An article whose text speaks of the color is not.
-/

namespace Broadsheet

/-! ## Declarations -/

/-- A declaration of the primary color. -/
def IsColorDeclaration (d : List Char) : Prop :=
  ∃ value, ';' ∉ value ∧ '"' ∉ value ∧ d = (primaryColorProperty ++ ":").toList ++ value ++ [';']

/-- The rest after a declaration's semicolon and one white space character. -/
def afterOneBlank : List Char → List Char
  | [] => []
  | c :: cs => if isBlank c then cs else c :: cs

theorem length_afterOneBlank_le (s : List Char) : (afterOneBlank s).length ≤ s.length := by
  cases s with
  | nil => simp [afterOneBlank]
  | cons c s =>
      rw [afterOneBlank]
      split <;> simp

theorem afterOneBlank_append_quote (a s : List Char) :
    afterOneBlank (a ++ '"' :: s) = afterOneBlank a ++ '"' :: s := by
  cases a with
  | nil => rfl
  | cons c a =>
      rw [List.cons_append, afterOneBlank, afterOneBlank]
      split <;> rfl

/-- A declaration is found where a text begins with one, and nowhere else. -/
theorem afterColorDeclaration?_eq_some_iff {s rest : List Char} :
    afterColorDeclaration? s = some rest ↔
      ∃ d after, IsColorDeclaration d ∧ s = d ++ after ∧ rest = afterOneBlank after := by
  unfold afterColorDeclaration?
  rw [Option.bind_eq_bind, Option.bind_eq_some_iff]
  constructor
  · rintro ⟨value, hs, hmatch⟩
    split at hmatch
    · next after hdrop =>
        have hall : ∀ c ∈ value.takeWhile fun c => c != ';' && c != '"', c ≠ ';' ∧ c ≠ '"' := by
          intro c hc
          simpa using List.all_eq_true.mp List.all_takeWhile c hc
        refine ⟨_, after, ⟨value.takeWhile fun c => c != ';' && c != '"', ?_, ?_, rfl⟩, ?_, ?_⟩
        · exact fun h => (hall _ h).1 rfl
        · exact fun h => (hall _ h).2 rfl
        · have hsplit : value =
              (value.takeWhile fun c => c != ';' && c != '"') ++ ';' :: after := by
            rw [← hdrop, List.takeWhile_append_dropWhile]
          rw [after?_eq_some_iff.mp hs]
          simpa using hsplit
        · cases after <;> exact (Option.some.inj hmatch).symm
    · simp at hmatch
  · rintro ⟨d, after, ⟨value, hsemicolon, hquote, rfl⟩, rfl, rfl⟩
    refine ⟨value ++ ';' :: after, after?_eq_some_iff.mpr (by simp), ?_⟩
    have hall : ∀ c ∈ value, (c != ';' && c != '"') = true := by
      intro c hc
      simpa using ⟨ne_of_mem_of_not_mem hc hsemicolon, ne_of_mem_of_not_mem hc hquote⟩
    rw [List.dropWhile_append_of_pos hall]
    cases after <;> rfl

theorem quote_notMem_of_isColorDeclaration {d : List Char} (h : IsColorDeclaration d) :
    '"' ∉ d := by
  obtain ⟨value, -, hquote, rfl⟩ := h
  simp [primaryColorProperty, hquote]

/-- A quote ends a text as far as declarations go. -/
theorem afterColorDeclaration?_append_quote (a s : List Char) :
    afterColorDeclaration? (a ++ '"' :: s) =
      (afterColorDeclaration? a).map (· ++ '"' :: s) := by
  apply Option.ext
  intro rest
  rw [afterColorDeclaration?_eq_some_iff, Option.map_eq_some_iff]
  constructor
  · rintro ⟨d, after, hd, hs, rfl⟩
    obtain ⟨after', rfl⟩ := (prefix_append_cons_iff d a
      (quote_notMem_of_isColorDeclaration hd)).mp ⟨after, hs.symm⟩
    obtain rfl : after' ++ '"' :: s = after := by simpa using hs
    exact ⟨_, afterColorDeclaration?_eq_some_iff.mpr ⟨d, after', hd, rfl, rfl⟩,
      (afterOneBlank_append_quote after' s).symm⟩
  · rintro ⟨rest', hrest', rfl⟩
    obtain ⟨d, after, hd, rfl, rfl⟩ := afterColorDeclaration?_eq_some_iff.mp hrest'
    exact ⟨d, after ++ '"' :: s, hd, by simp, (afterOneBlank_append_quote after s).symm⟩

theorem length_afterColorDeclaration?_lt {s rest : List Char}
    (h : afterColorDeclaration? s = some rest) : rest.length < s.length := by
  obtain ⟨d, after, ⟨value, -, -, rfl⟩, rfl, rfl⟩ := afterColorDeclaration?_eq_some_iff.mp h
  have hle := length_afterOneBlank_le after
  simp only [List.length_append, List.length_singleton]
  omega

/-! ## Taking declarations out -/

/-- Finds declarations, for which nothing is written. -/
def colorDeclaration? : Finder := fun s =>
  (afterColorDeclaration? s).map fun rest => ([], s.length - 1 - rest.length)

theorem dropColorDeclarationsFrom_eq : (k : Nat) → (s : List Char) →
    dropColorDeclarationsFrom k s = rewriteFrom colorDeclaration? k s
  | _, [] => by simp [dropColorDeclarationsFrom, rewriteFrom]
  | k + 1, c :: s => by
      rw [dropColorDeclarationsFrom, rewriteFrom, dropColorDeclarationsFrom_eq k s]
  | 0, c :: s => by
      rw [dropColorDeclarationsFrom, rewriteFrom, colorDeclaration?]
      cases afterColorDeclaration? (c :: s) with
      | none => simp [dropColorDeclarationsFrom_eq 0 s]
      | some rest => simp [dropColorDeclarationsFrom_eq (s.length - rest.length) s]

/-- A declaration is found within the text. -/
theorem of_colorDeclaration?_eq_some {s q : List Char} {k : Nat}
    (h : colorDeclaration? s = some (q, k)) : q = [] ∧ k < s.length := by
  obtain ⟨rest, hrest, heq⟩ := Option.map_eq_some_iff.mp h
  obtain ⟨rfl, rfl⟩ : [] = q ∧ s.length - 1 - rest.length = k := by simpa using heq
  have hlt := length_afterColorDeclaration?_lt hrest
  exact ⟨rfl, by omega⟩

theorem shortens_colorDeclaration? : colorDeclaration?.Shortens := by
  refine ⟨fun h => (of_colorDeclaration?_eq_some h).2, fun h => ?_⟩
  rw [(of_colorDeclaration?_eq_some h).1]
  exact Nat.zero_le _

theorem colorDeclaration?_eq_none_iff {s : List Char} :
    colorDeclaration? s = none ↔ ∀ d, IsColorDeclaration d → ¬ d <+: s := by
  rw [colorDeclaration?, Option.map_eq_none_iff, Option.eq_none_iff_forall_ne_some]
  constructor
  · rintro h d hd ⟨after, hs⟩
    exact h _ (afterColorDeclaration?_eq_some_iff.mpr ⟨d, after, hd, hs.symm, rfl⟩)
  · intro h rest hrest
    obtain ⟨d, after, hd, hs, -⟩ := afterColorDeclaration?_eq_some_iff.mp hrest
    exact h d hd ⟨after, hs.symm⟩

theorem colorDeclaration?_append_quote (a s : List Char) :
    colorDeclaration? (a ++ '"' :: s) = colorDeclaration? a := by
  rw [colorDeclaration?, colorDeclaration?, afterColorDeclaration?_append_quote, Option.map_map]
  congr 1
  funext rest
  simp only [Function.comp_apply, List.length_append, List.length_cons, Prod.mk.injEq, true_and]
  omega

/-- A text without a declaration stays as it is, and no other one does. -/
theorem dropColorDeclarations_eq_self_iff (s : List Char) :
    dropColorDeclarationsFrom 0 s = s ↔ ∀ d, IsColorDeclaration d → ¬ d <:+: s := by
  rw [dropColorDeclarationsFrom_eq, rewriteFrom_eq_self_iff shortens_colorDeclaration?]
  simp only [colorDeclaration?_eq_none_iff, List.infix_iff_prefix_suffix]
  exact ⟨fun h d hd ⟨t, hprefix, ht⟩ => h t ht d hd hprefix,
    fun h t ht d hd hprefix => h d hd ⟨t, hprefix, ht⟩⟩

/-! ## Resolving -/

/-- A text that neither refers to the primary color nor declares it. -/
structure ColorFree (s : List Char) : Prop where
  reference : ¬ primaryColorReference.toList <:+: s
  declaration : ∀ d, IsColorDeclaration d → ¬ d <:+: s

section Resolving

variable {color : List Char}

/-- Resolving goes through the text twice. -/
theorem resolvePrimaryColor_eq (s : List Char) :
    resolvePrimaryColor color s = rewriteFrom colorDeclaration? 0
      (rewriteFrom (occurrence? primaryColorReference.toList color) 0 s) := by
  rw [resolvePrimaryColor, dropColorDeclarationsFrom_eq, replaceAll, replaceFrom_eq]

/-- A text stays as it is exactly if there is nothing to resolve in it. -/
theorem resolvePrimaryColor_eq_self_iff
    (hlen : color.length < primaryColorReference.toList.length) (s : List Char) :
    resolvePrimaryColor color s = s ↔ ColorFree s := by
  rw [resolvePrimaryColor_eq, rewriteFrom_rewriteFrom_eq_self_iff (shortens_occurrence? hlen)
    shortens_colorDeclaration?, ← replaceFrom_eq, ← dropColorDeclarationsFrom_eq, ← replaceAll,
    replaceAll_eq_self_iff hlen, dropColorDeclarations_eq_self_iff]
  exact ⟨fun h => ⟨h.1, h.2⟩, fun h => ⟨h.reference, h.declaration⟩⟩

/-- What stands before a double quote and what stands after it are resolved apart. -/
theorem resolvePrimaryColor_append_quote
    (hlen : color.length < primaryColorReference.toList.length) (a s : List Char) :
    resolvePrimaryColor color (a ++ '"' :: s) =
      resolvePrimaryColor color a ++ '"' :: resolvePrimaryColor color s := by
  have hquote : '"' ∉ primaryColorReference.toList := by decide
  rw [resolvePrimaryColor_eq, resolvePrimaryColor_eq, resolvePrimaryColor_eq,
    rewriteFrom_append_cons (shortens_occurrence? hlen) (occurrence?_append_cons hquote · s) 0 a
      (Nat.zero_le _),
    rewriteFrom_append_cons shortens_colorDeclaration? (colorDeclaration?_append_quote · _) 0 _
      (Nat.zero_le _)]

/-- Resolving writes no double quote. -/
theorem quote_notMem_resolvePrimaryColor (hcolor : '"' ∉ color) {s : List Char} (hs : '"' ∉ s) :
    '"' ∉ resolvePrimaryColor color s := by
  rw [resolvePrimaryColor, dropColorDeclarationsFrom_eq]
  refine notMem_rewriteFrom (fun h => ?_) 0 _ (notMem_replaceAll hcolor hs)
  rw [(of_colorDeclaration?_eq_some h).1]
  exact List.not_mem_nil

end Resolving

/-! ## Outside the values of style attributes -/

section Outside

variable {color : List Char} (hcolor : '"' ∉ color)
  (hlen : color.length < primaryColorReference.toList.length)

include hcolor hlen

/-- A double quote divides a text into two that are free of the color by themselves. -/
theorem colorFree_append_quote_iff {p : List Char} (hp : '"' ∉ p) (s : List Char) :
    ColorFree (p ++ '"' :: s) ↔ ColorFree p ∧ ColorFree s := by
  rw [← resolvePrimaryColor_eq_self_iff hlen, ← resolvePrimaryColor_eq_self_iff hlen,
    ← resolvePrimaryColor_eq_self_iff hlen, resolvePrimaryColor_append_quote hlen,
    append_cons_inj_of_notMem (quote_notMem_resolvePrimaryColor hcolor hp) hp]

open Reading in
/-- Resolving changes nothing outside the values of style attributes exactly if
there is nothing to resolve there. -/
theorem outside_resolvePrimaryColor_iff (s : List Char) (r : Option Reading) :
    outside r (resolvePrimaryColor color s) = outside r s ↔ ColorFree (outside r s) := by
  have hresolve (p : List Char) : resolvePrimaryColor color p = p ↔ ColorFree p :=
    resolvePrimaryColor_eq_self_iff hlen p
  have hnil : ColorFree [] := (hresolve []).mp rfl
  -- the induction is on the double quotes: each piece between two of them is resolved apart
  induction hn : s.length using Nat.strongRecOn generalizing s r with
  | ind n ih =>
    subst hn
    by_cases hquote : '"' ∈ s
    · obtain ⟨p, s, rfl, hp⟩ := List.eq_append_cons_of_mem hquote
      have ih (r : Option Reading) : outside r (resolvePrimaryColor color s) = outside r s ↔
          ColorFree (outside r s) := ih s.length (by simp; omega) s r rfl
      have hp' := quote_notMem_resolvePrimaryColor hcolor hp
      rw [resolvePrimaryColor_append_quote hlen]
      cases hwithin : within r with
      | true =>
          obtain ⟨r, rfl, hstyle⟩ := exists_of_within hwithin
          have hfree := colorFree_append_quote_iff hcolor hlen (p := []) (by simp)
            (outside (next (some r) '"') s)
          rw [outside_cut_of_inStyle hstyle hp', outside_cut_of_inStyle hstyle hp,
            List.cons_inj_right, ih, ← List.nil_append ('"' :: _), hfree, and_iff_right hnil]
      | false =>
          rw [outside_cut hwithin hp', outside_cut hwithin hp, append_cons_inj_of_notMem hp' hp,
            colorFree_append_quote_iff hcolor hlen hp, ← hresolve p]
          refine and_congr_right fun h => ?_
          rw [h, ih]
    · have hquote' := quote_notMem_resolvePrimaryColor hcolor hquote
      cases hwithin : within r with
      | true =>
          obtain ⟨r, rfl, hstyle⟩ := exists_of_within hwithin
          simp [outside_of_inStyle hstyle hquote, outside_of_inStyle hstyle hquote', hnil]
      | false =>
          rw [outside_of_notMem hwithin hquote, outside_of_notMem hwithin hquote', hresolve]

end Outside

/-! ## Pages -/

/-- A color that can be chosen is written in hexadecimal digits, eight of them at most. -/
theorem exists_digits_of_color? {name color : String} (h : Choices.color? name = some color) :
    ∃ digits, color.toList = '#' :: digits ∧ digits.length ≤ 8 ∧ digits.all isColorDigit := by
  obtain ⟨digits, hdigits, hlength, hall⟩ :=
    Choices.isHexColor_iff.mp (Choices.isHexColor_of_color? h)
  exact ⟨digits, hdigits, by omega, hall⟩

/-- A color that can be chosen holds no double quote and is shorter than a
reference to it. -/
theorem color_quote_and_length {name color : String} (h : Choices.color? name = some color) :
    '"' ∉ color.toList ∧ color.toList.length < primaryColorReference.toList.length := by
  obtain ⟨digits, hdigits, hlen, hall⟩ := exists_digits_of_color? h
  have hreference : primaryColorReference.toList.length = 23 := by decide
  have hquote : '"' ∉ digits := fun h => absurd (List.all_eq_true.mp hall _ h) (by decide)
  rw [hdigits, hreference]
  exact ⟨by simp [hquote], by simp only [List.length_cons]; omega⟩

/-- What a page writes before its article. -/
def pageOpening (stylesheet : String) : String :=
  "<html><head><meta charset=\"utf-8\" /><style>" ++ stylesheet ++ "</style></head>" ++
    "<body><div style=\"width: 750px; margin: auto;\">"

/-- A page is its opening with the style sheet, the article with its colors resolved, and the
end. -/
theorem exportPage_eq (content color stylesheet : String) :
    exportPage content color stylesheet =
      pageOpening stylesheet ++ String.ofList (resolvePrimaryColor color.toList content.toList) ++
        "</div></body></html>" := rfl

/-- **When an export keeps the text**: for a color that can be chosen, the article
in the page is the article of before outside the values of its style attributes,
with the same tags and the same text between them, exactly if it neither refers
to the primary color nor declares it there.  Nothing keeps an author from writing
such a text. -/
theorem exportPage_keepsText_iff {name color : String} (hcolor : Choices.color? name = some color)
    (content stylesheet : String) :
    ∃ body, exportPage content color stylesheet =
        pageOpening stylesheet ++ String.ofList body ++ "</div></body></html>" ∧
      (withoutStyles body = withoutStyles content.toList ∧
          bareTokens body = bareTokens content.toList ↔
        ColorFree (withoutStyles content.toList)) := by
  obtain ⟨hquote, hlen⟩ := color_quote_and_length hcolor
  refine ⟨resolvePrimaryColor color.toList content.toList, exportPage_eq .., ?_⟩
  have hiff := outside_resolvePrimaryColor_iff hquote hlen content.toList (some .text)
  rw [← withoutStyles, ← withoutStyles] at hiff
  rw [← hiff]
  refine ⟨And.left, fun h => ⟨h, ?_⟩⟩
  rw [← bareTokens_withoutStyles, h, bareTokens_withoutStyles]

/-- An article that names the color's property in its text, and declares it and
refers to it in a style attribute only. -/
def coloredArticle : String :=
  "<p style=\"--md-primary-color: #000; color: var(--md-primary-color)\">" ++
    "A --md-primary-color; <code title=\"x\">a: b;</code></p>"

/-- Its text is kept. -/
theorem coloredArticle_keepsText :
    Choices.color? "翡翠绿" = some "#009874" ∧ ColorFree (withoutStyles coloredArticle.toList) ∧
      ∃ body, exportPage coloredArticle "#009874" "" =
          pageOpening "" ++ String.ofList body ++ "</div></body></html>" ∧
        withoutStyles body = withoutStyles coloredArticle.toList ∧
        bareTokens body = bareTokens coloredArticle.toList := by
  have hcolor : Choices.color? "翡翠绿" = some "#009874" := by decide
  have hfree : ColorFree (withoutStyles coloredArticle.toList) :=
    (resolvePrimaryColor_eq_self_iff (color_quote_and_length hcolor).2 _).mp (by decide +kernel)
  obtain ⟨body, hpage, hkept⟩ := exportPage_keepsText_iff hcolor coloredArticle ""
  exact ⟨hcolor, hfree, body, hpage, hkept.mpr hfree⟩

/- Where the text looks like the beginning of a declaration, the tags and texts
up to the next semicolon are lost with it. -/
example : resolvePrimaryColor "#0F4C81".toList
      "<p>--md-primary-color: red</p><pre>a; b</pre>".toList = "<p>b</pre>".toList := by
  decide

end Broadsheet
