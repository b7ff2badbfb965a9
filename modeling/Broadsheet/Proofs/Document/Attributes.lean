import Mathlib
import Broadsheet.Proofs.Document.Fences
import Broadsheet.Proofs.Yaml.Trimming

/-!
# Broadsheet.Proofs.Document.Attributes

The attributes of a document and the YAML that stands between its fences.  The
block is trimmed before it is read, so what counts is the trimmed text
(`split_eq_iff`).  Where trimming takes nothing from the block but whole lines
before it and white space behind it that no block scalar has a part in
(`Yaml.Trimmable`), the attributes are those of the text as it is written
(`split_asWritten`).

Other blocks may lose their meaning: of indented lines only the first one is
moved to the margin, and the line break that ends a block scalar is part of it.
-/

namespace Broadsheet.FrontMatter

variable {s : List Char} {entries : List (String × Yaml.Value)}

theorem attributes_ne_empty (h : entries ≠ []) : attributes entries ≠ ∅ := by
  obtain hnil | ⟨others, entry, rfl⟩ := List.eq_nil_or_concat entries
  · exact absurd hnil h
  · rw [attributes, List.concat_eq_append, List.foldl_append]
    exact Std.ExtTreeMap.insert_ne_empty

/-- What a document with a block is split into, by the meaning of the trimmed block. -/
theorem split_of_readMapping (b : Block (unmarked s))
    (h : Yaml.readMapping (trim b.text) = some entries) : split s = (attributes entries, b.body) := by
  rw [split, splitWith_of_block]
  split
  · next hblank =>
      -- a blank block is not read; it has no entries
      rw [trim_eq_nil_iff.mpr hblank] at h
      have hnil : entries = [] := (Option.some.inj h).symm
      rw [hnil]
      rfl
  · rw [h]
    rfl

theorem attributes_split_of_eq_none (b : Block (unmarked s))
    (h : Yaml.readMapping (trim b.text) = none) : (split s).1 = ∅ := by
  rw [split, splitWith_of_block]
  split
  · rfl
  · rw [h]
    rfl

/-- What counts is the meaning of the trimmed block. -/
theorem split_eq_iff (b : Block (unmarked s)) (hne : entries ≠ []) :
    split s = (attributes entries, b.body) ↔ ∃ entries',
      Yaml.readMapping (trim b.text) = some entries' ∧ attributes entries' = attributes entries := by
  constructor
  · intro h
    cases hread : Yaml.readMapping (trim b.text) with
    | none =>
        have hempty := attributes_split_of_eq_none b hread
        rw [h] at hempty
        exact absurd hempty (attributes_ne_empty hne)
    | some entries' =>
        have hsplit := split_of_readMapping b hread
        rw [h] at hsplit
        exact ⟨entries', rfl, (congrArg Prod.fst hsplit).symm⟩
  · rintro ⟨entries', hread, heq⟩
    rw [split_of_readMapping b hread, heq]

/-- **Attributes as they are written**: of a document whose block is YAML for a mapping with
entries, the attributes are those of the mapping, and the body is what follows the closing fence,
if and only if the trimmed block is YAML for the same attributes.  This is so where the block may
be trimmed.  Where trimming takes nothing from it but whole lines before it and white space behind
it, the block keeps its tokens if and only if it does not end with a block scalar that itself ends
in white space. -/
theorem split_asWritten (b : Block (unmarked s)) (h : Yaml.readMapping b.text = some entries)
    (hne : entries ≠ []) :
    (split s = (attributes entries, b.body) ↔ ∃ entries',
      Yaml.readMapping (trim b.text) = some entries' ∧
        attributes entries' = attributes entries) ∧
      (Yaml.Trimmable b.text → split s = (attributes entries, b.body)) ∧
      (Yaml.Aligned b.text →
        (Yaml.tokens? (trim b.text) = Yaml.tokens? b.text ↔ Yaml.EndsTight b.text)) := by
  refine ⟨split_eq_iff b hne, fun hb => split_of_readMapping b (hb.readMapping_trim h),
    fun hb => ?_⟩
  obtain ⟨tokens, htokens⟩ := Yaml.exists_tokens?_of_readMapping h
  rw [htokens]
  exact hb.tokens?_trim_iff htokens

/-- A document whose block begins with an empty line and ends with a block scalar. -/
def quotedDocument : List Char :=
  "---\n\ntitle: Hi\nquote: |-\n  One\n  two\n---\nText".toList

namespace quotedDocument

def block : Block (unmarked quotedDocument) where
  opening := "---\n".toList
  before := ["\n".toList, "title: Hi\n".toList, "quote: |-\n".toList, "  One\n".toList,
    "  two\n".toList]
  closing := "---\n".toList
  after := ["Text".toList]
  opens := .inl rfl
  closes := isFence_iff.mp (by cbv)
  inside := by
    have hfences : ["\n".toList, "title: Hi\n".toList, "quote: |-\n".toList, "  One\n".toList,
        "  two\n".toList].any isFence = false := by cbv
    intro l hl hcloses
    exact List.any_eq_false.mp hfences l hl (isFence_iff.mpr hcloses)
  lines := by
    refine ⟨"\ntitle: Hi\nquote: |-\n  One\n  two\n---\nText".toList, by cbv, ?_⟩
    have hlines : lines "\ntitle: Hi\nquote: |-\n  One\n  two\n---\nText".toList =
        ["\n".toList, "title: Hi\n".toList, "quote: |-\n".toList, "  One\n".toList,
          "  two\n".toList, "---\n".toList, "Text".toList] := by cbv
    have hlinesOf := linesOf_lines "\ntitle: Hi\nquote: |-\n  One\n  two\n---\nText".toList
    rwa [hlines] at hlinesOf

theorem trimmable : Yaml.Trimmable block.text where
  leading_gap := by
    have hleading : leading block.text = ['\n'] := by cbv
    rw [hleading]
    simp [Yaml.isGap, Yaml.isBreak]
  leading_ends := by
    have hleading : leading block.text = ['\n'] := by cbv
    rw [hleading]
    rintro c ⟨⟩
    rfl
  mark := by
    have hhead : (trim block.text).head? = some 't' := by cbv
    rw [hhead]
    exact .inr (by decide)
  trailing_gap := by
    have htrailing : trailing block.text = ['\n'] := by cbv
    rw [htrailing]
    simp [Yaml.isGap, Yaml.isBreak]
  block := by
    have hlast : Yaml.lastBlock? block.text = some "One\ntwo" := by cbv
    rw [Yaml.EndsTight, hlast]
    rintro text ⟨⟩ c hc
    obtain rfl : 'o' = c := Option.some.inj hc
    rfl

end quotedDocument

theorem quotedDocument_asWritten :
    Yaml.Trimmable quotedDocument.block.text ∧
      Yaml.readMapping quotedDocument.block.text =
        some [("title", .string "Hi"), ("quote", .string "One\ntwo")] ∧
      split quotedDocument =
        (attributes [("title", .string "Hi"), ("quote", .string "One\ntwo")], "Text".toList) := by
  have hread : Yaml.readMapping quotedDocument.block.text =
      some [("title", .string "Hi"), ("quote", .string "One\ntwo")] := by cbv
  have hbody : quotedDocument.block.body = "Text".toList := by cbv
  obtain ⟨-, hsplit, -⟩ := split_asWritten _ hread (List.cons_ne_nil _ _)
  exact ⟨quotedDocument.trimmable, hread, hbody ▸ hsplit quotedDocument.trimmable⟩

/-- Of two indented lines only the first one is moved to the margin; the second one is no longer
an entry beside it. -/
example :
    Yaml.readMapping "  title: Hi\n  tags: x\n".toList =
      some [("title", .string "Hi"), ("tags", .string "x")] ∧
    split "---\n  title: Hi\n  tags: x\n---\nText".toList =
      (∅, "---\n  title: Hi\n  tags: x\n---\nText".toList) := by cbv

/-- The line break at the end of a block scalar is lost. -/
example :
    Yaml.readMapping "quote: |\n  One\n".toList = some [("quote", .string "One\n")] ∧
    Yaml.readMapping (trim "quote: |\n  One\n".toList) = some [("quote", .string "One")] := by
  cbv

end Broadsheet.FrontMatter
