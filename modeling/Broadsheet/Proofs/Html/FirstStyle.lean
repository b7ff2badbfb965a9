import Broadsheet.Document.Page
import Broadsheet.Proofs.Html.StyleValues
import Broadsheet.Proofs.Text.Replacing

/-!
# Broadsheet.Proofs.Html.FirstStyle

The first style attribute of a text, found by a search and found by a reader.
An article loses its top margin by a search for `style="`, which knows nothing
of tags: the end of an attribute's value is taken for the beginning of a style
attribute if the value ends in `style=`.

* `insertInFirstStyle` — what the search is for: the reader goes to the end of
  the first value of a style attribute;
* `Quoting.flushFirstMargin_eq_iff` — the search does the same exactly if no value
  before the first style attribute is misleading, in texts whose double quotes
  are those of attributes;
* `Quoting.outside_flushFirstMargin_iff` — and else it changes something outside.
-/

namespace Broadsheet

namespace Reading

/-! ## What a reader would change -/

/-- Writes a text at the end of the first value of a style attribute that the
reader is in or comes to. -/
def insertInStyle (addition : List Char) : Option Reading → List Char → List Char
  | _, [] => []
  | r, c :: cs =>
      if within r && c == '"' then addition ++ c :: cs
      else c :: insertInStyle addition (next r c) cs

/-- Whether a character ends a value between double quotes that ends in `style=`. -/
def endsLookalike : Option Reading → Char → Bool
  | some (.quoted _ _ '"' value), '"' => "style=".toList.isSuffixOf value
  | _, _ => false

/-- Whether a value that ends in `style=` comes before every style attribute, and
a double quote after it. -/
def misleads : Option Reading → List Char → Bool
  | _, [] => false
  | r, c :: cs =>
      if within r then false
      else if endsLookalike r c then cs.contains '"'
      else misleads (next r c) cs

section Outside

variable {addition : List Char} {r : Option Reading} {w : List Char}

/-- Outside style attributes nothing is changed before a double quote. -/
theorem insertInStyle_append : (w : List Char) → '"' ∉ w → {r : Option Reading} →
    within r = false → (s : List Char) →
    insertInStyle addition r (w ++ s) = w ++ insertInStyle addition (w.foldl next r) s
  | [], _, _, _, _ => rfl
  | c :: w, hw, r, hr, s => by
      obtain ⟨hc, hw⟩ : '"' ≠ c ∧ '"' ∉ w := by simpa using hw
      have ih := insertInStyle_append w hw (within_next hr (Ne.symm hc)) s
      simp [insertInStyle, hr, ih]

theorem misleads_append : (w : List Char) → '"' ∉ w → {r : Option Reading} →
    within r = false → (s : List Char) → misleads r (w ++ s) = misleads (w.foldl next r) s
  | [], _, _, _, _ => rfl
  | c :: w, hw, r, hr, s => by
      obtain ⟨hc, hw⟩ : '"' ≠ c ∧ '"' ∉ w := by simpa using hw
      have ih := misleads_append w hw (within_next hr (Ne.symm hc)) s
      have hend : endsLookalike r c = false := by
        unfold endsLookalike
        split
        · exact absurd rfl hc
        · rfl
      simp [misleads, hr, hend, ih]

theorem misleads_of_notMem (hw : '"' ∉ w) (hr : within r = false) : misleads r w = false := by
  rw [← List.append_nil w, misleads_append w hw hr, misleads]

theorem within_foldl_next (hw : '"' ∉ w) (hr : within r = false) :
    within (w.foldl next r) = false :=
  (outside_append w hw hr []).2

end Outside

/-- In a value the text is written before the next double quote. -/
theorem insertInStyle_value {addition rest : List Char} : (value : List Char) → '"' ∉ value →
    {r : Reading} → r.inStyle →
    insertInStyle addition (some r) (value ++ '"' :: rest) = value ++ addition ++ '"' :: rest
  | [], _, r, hr => by simp [insertInStyle, within, hr]
  | c :: value, hvalue, r, hr => by
      obtain ⟨hc, hvalue⟩ : '"' ≠ c ∧ '"' ∉ value := by simpa using hvalue
      obtain ⟨r', hstep, hr', -⟩ := step_inStyle hr (Ne.symm hc)
      have hnext : next (some r) c = some r' := by simp [next, hstep]
      have ih : insertInStyle addition (some r') (value ++ '"' :: rest) =
          value ++ addition ++ '"' :: rest := insertInStyle_value value hvalue hr'
      simp [insertInStyle, hnext, Ne.symm hc, ih]

/-- What is written into a value is not outside. -/
theorem outside_insertInStyle {addition : List Char} (haddition : '"' ∉ addition) :
    (s : List Char) → (r : Option Reading) → outside r (insertInStyle addition r s) = outside r s
  | [], _ => rfl
  | c :: cs, r => by
      have ih := outside_insertInStyle haddition cs (next r c)
      rw [insertInStyle]
      split
      · next hquote =>
          obtain ⟨hr, rfl⟩ : within r ∧ c = '"' := by simpa using hquote
          obtain ⟨q, rfl, hq⟩ := exists_of_within hr
          rw [outside_cut_of_inStyle hq haddition,
            ← outside_cut_of_inStyle hq (p := []) List.not_mem_nil, List.nil_append]
      · rw [outside, outside, ih]

end Reading

/-- Writes a text at the end of the value of the first style attribute of the
first tag that has one. -/
def insertInFirstStyle (addition s : List Char) : List Char :=
  Reading.insertInStyle addition (some .text) s

/-- Whether the value of an attribute that comes before every style attribute, and
before another double quote, ends in `style=`. -/
def isMisleading (s : List Char) : Bool := Reading.misleads (some .text) s

/-! ## What the search changes -/

/-- What the search looks for, but for its double quote. -/
def styleName : List Char := "style=".toList

/-- What the search writes. -/
def flushAddition : List Char := ";margin-top: 0".toList

theorem toList_styleOpening : "style=\"".toList = styleName ++ ['"'] := rfl

/-- Writes a text before the first double quote, if there is one. -/
def insertBeforeQuote (addition s : List Char) : List Char :=
  match splitOnce (· == '"') s with
  | none => s
  | some (value, after) => value ++ addition ++ '"' :: after

section Search

variable {addition s : List Char}

theorem splitOnce_quote_of_notMem : (s : List Char) → '"' ∉ s → splitOnce (· == '"') s = none
  | [], _ => rfl
  | c :: s, h => by
      obtain ⟨hc, hs⟩ : '"' ≠ c ∧ '"' ∉ s := by simpa using h
      simp [splitOnce, Ne.symm hc, splitOnce_quote_of_notMem s hs]

theorem insertBeforeQuote_append {value : List Char} (hvalue : '"' ∉ value) (after : List Char) :
    insertBeforeQuote addition (value ++ '"' :: after) = value ++ addition ++ '"' :: after := by
  rw [insertBeforeQuote, splitOnce_eq_some_iff.mpr ⟨rfl, hvalue⟩]

theorem insertBeforeQuote_of_notMem (hs : '"' ∉ s) : insertBeforeQuote addition s = s := by
  rw [insertBeforeQuote, splitOnce_quote_of_notMem s hs]

theorem flushFirstMargin_of_cut? {before rest : List Char}
    (h : cut? (styleName ++ ['"']) s = some (before, rest)) :
    flushFirstMargin s = before ++ (styleName ++ '"' :: insertBeforeQuote flushAddition rest) := by
  have haddition : ";margin-top: 0".toList = flushAddition := rfl
  rw [flushFirstMargin, toList_styleOpening, h, haddition]
  dsimp only
  cases hrest : splitOnce (· == '"') rest with
  | none => simpa [insertBeforeQuote, hrest] using eq_of_cut? h
  | some found => simp [insertBeforeQuote, hrest]

/-- A find changes what stands before the next double quote. -/
theorem flushFirstMargin_of_suffix {a : List Char} (ha : '"' ∉ a) (hsuffix : styleName <:+ a)
    (s : List Char) :
    flushFirstMargin (a ++ '"' :: s) = a ++ '"' :: insertBeforeQuote flushAddition s := by
  obtain ⟨b, rfl⟩ := hsuffix
  have hb : '"' ∉ b := fun h => ha (List.mem_append_left _ h)
  rw [List.append_assoc, List.append_assoc]
  exact flushFirstMargin_of_cut? (cut?_concat (by decide) b hb s)

/-- Where there is none, the search goes on after the double quote. -/
theorem flushFirstMargin_of_not_suffix {a : List Char} (ha : '"' ∉ a)
    (hsuffix : ¬ styleName <:+ a) (s : List Char) :
    flushFirstMargin (a ++ '"' :: s) = a ++ '"' :: flushFirstMargin s := by
  have hcut := cut?_concat_of_not_suffix (by decide) a ha hsuffix s
  cases hs : cut? (styleName ++ ['"']) s with
  | none =>
      rw [hs, Option.map_none] at hcut
      rw [flushFirstMargin, flushFirstMargin, toList_styleOpening, hcut, hs]
  | some found =>
      obtain ⟨before, rest⟩ := found
      rw [hs, Option.map_some] at hcut
      rw [flushFirstMargin_of_cut? hcut, flushFirstMargin_of_cut? hs]
      simp

theorem flushFirstMargin_of_notMem (hs : '"' ∉ s) : flushFirstMargin s = s := by
  rw [flushFirstMargin]
  cases hcut : cut? "style=\"".toList s with
  | none => rfl
  | some p =>
      rw [eq_of_cut? hcut] at hs
      simp at hs

end Search

/-! ## Texts with attributes -/

/-- A text that is read from `r` on, with no double quotes but those of attributes
up to the first style attribute, and no attribute whose name only ends in `style`. -/
inductive Quoting : Option Reading → List Char → Prop
  | plain {r : Option Reading} {s : List Char} (hs : '"' ∉ s) : Quoting r s
  | skip {r : Option Reading} {w s : List Char} (hw : '"' ∉ w)
      (h : Quoting (w.foldl Reading.next r) s) : Quoting r (w ++ s)
  | style {r : Option Reading} {t : TagSoFar} {value : List Char} (rest : List Char)
      (hread : (' ' :: styleName).foldl Reading.next r = some (.equals t "style".toList))
      (hvalue : '"' ∉ value) :
      Quoting r ((' ' :: styleName) ++ '"' :: (value ++ '"' :: rest))
  | other {r : Option Reading} {t : TagSoFar} {name : String} {value rest : List Char}
      (hname : isName name) (hother : ¬ "style".toList <:+ name.toList)
      (hread : (' ' :: name.toList ++ ['=']).foldl Reading.next r = some (.equals t name.toList))
      (hvalue : '"' ∉ value)
      (h : Quoting (Reading.next (some (.quoted t name.toList '"' value)) '"') rest) :
      Quoting r ((' ' :: name.toList ++ ['=']) ++ '"' :: (value ++ '"' :: rest))

section Names

variable {name : String} (hname : isName name)

include hname

theorem notMem_of_isName {c : Char} (hc : isNameChar c = false) : c ∉ name.toList := by
  obtain ⟨d, ds, hs, hd, hds⟩ := toList_of_isName hname
  have hstart : isNameChar d := by
    have hletter : d.isAlpha = true := hd
    simp [isNameChar, Char.isAlphanum, hletter]
  rw [hs, List.mem_cons, not_or]
  refine ⟨?_, fun h => ?_⟩
  · rintro rfl
    simp [hc] at hstart
  · simpa [hc] using List.all_eq_true.mp hds c h

theorem quote_notMem_attributeName : '"' ∉ ' ' :: name.toList ++ ['='] := by
  simp [notMem_of_isName hname (c := '"') (by decide)]

end Names

/-- The name of an attribute begins after a blank. -/
theorem styleName_suffix_iff (name : String) (w : List Char) :
    styleName <:+ w ++ (' ' :: name.toList ++ ['=']) ↔ "style".toList <:+ name.toList := by
  have hsplit : w ++ (' ' :: name.toList ++ ['=']) = (w ++ ' ' :: name.toList) ++ ['='] := by simp
  have hstyle : styleName = "style".toList ++ ['='] := rfl
  rw [hsplit, hstyle, List.suffix_append_self_iff]
  exact suffix_append_cons_iff (by decide)

namespace Reading

theorem next_equals (t : TagSoFar) (name : List Char) :
    next (some (.equals t name)) '"' = some (.quoted t name '"' []) := by
  simp [next, step]

theorem foldl_next_quoted (t : TagSoFar) (name : List Char) : (value collected : List Char) →
    '"' ∉ value → value.foldl next (some (.quoted t name '"' collected)) =
      some (.quoted t name '"' (collected ++ value))
  | [], collected, _ => by simp
  | c :: value, collected, h => by
      obtain ⟨hc, hvalue⟩ : '"' ≠ c ∧ '"' ∉ value := by simpa using h
      have hnext : next (some (.quoted t name '"' collected)) c =
          some (.quoted t name '"' (collected ++ [c])) := by
        simp [next, step, Ne.symm hc]
      rw [List.foldl_cons, hnext, foldl_next_quoted t name value _ hvalue, List.append_assoc,
        List.singleton_append]

/-- A double quote ends a value. -/
theorem within_next_quoted (t : TagSoFar) (name value : List Char) :
    within (next (some (.quoted t name '"' value)) '"') = false := by
  cases hadd : t.add? (String.ofList name) (some (String.ofList value)) <;>
    simp [next, step, hadd, within, inStyle]

theorem misleads_of_within {r : Option Reading} (hr : within r = true) (s : List Char) :
    misleads r s = false := by
  cases s with
  | nil => rfl
  | cons c s => simp [misleads, hr]

/-- What a search may make of a text: what the reader would make of it if nothing misleads the
search, and else something that differs outside style attributes. -/
def Flushes (r : Option Reading) (s result : List Char) : Prop :=
  (misleads r s = false → result = insertInStyle flushAddition r s) ∧
    (misleads r s = true → outside r result ≠ outside r s)

namespace Flushes

variable {r : Option Reading} {w s result : List Char}

theorem append_iff (hw : '"' ∉ w) (hr : within r = false) :
    Flushes r (w ++ s) (w ++ result) ↔ Flushes (w.foldl next r) s result := by
  have hout (t : List Char) : outside r (w ++ t) = w ++ outside (w.foldl next r) t :=
    (outside_append w hw hr t).1
  simp only [Flushes, misleads_append _ hw hr, insertInStyle_append _ hw hr, hout,
    List.append_cancel_left_eq, ne_eq]

theorem quote_iff (hr : within r = false) (hend : endsLookalike r '"' = false) :
    Flushes r ('"' :: s) ('"' :: result) ↔ Flushes (next r '"') s result := by
  simp [Flushes, misleads, insertInStyle, outside, hr, hend]

/-- Without another double quote there is nothing to change. -/
theorem of_notMem (hs : '"' ∉ s) (hr : within r = false) : Flushes r s s := by
  have happend : Flushes r (s ++ []) (s ++ []) :=
    (append_iff hs hr).mpr ⟨fun _ => rfl, by simp [misleads]⟩
  rwa [List.append_nil] at happend

/-- In a style attribute the change is made at the end of the value. -/
theorem of_inStyle {q : Reading} (hq : q.inStyle) {value : List Char} (hvalue : '"' ∉ value)
    (rest : List Char) :
    Flushes (some q) (value ++ '"' :: rest) (value ++ flushAddition ++ '"' :: rest) := by
  have hwithin : within (some q) = true := hq
  have hmisleads := misleads_of_within hwithin (value ++ '"' :: rest)
  exact ⟨fun _ => (insertInStyle_value value hvalue hq).symm, by simp [hmisleads]⟩

/-- What is written before a double quote outside style attributes is seen there. -/
theorem outside_insertBeforeQuote (hr : within r = false) (hs : '"' ∈ s) :
    outside r (insertBeforeQuote flushAddition s) ≠ outside r s := by
  obtain ⟨p, s, rfl, hp⟩ := List.eq_append_cons_of_mem hs
  obtain ⟨addition, haddition⟩ : ∃ addition, flushAddition = ';' :: addition := ⟨_, rfl⟩
  have hhere := within_foldl_next hp hr
  rw [insertBeforeQuote_append hp, List.append_assoc, (outside_append p hp hr _).1,
    (outside_append p hp hr _).1, haddition]
  simp [outside, hhere]

/-- After a value that ends in `style=` the change is made before the next double quote. -/
theorem of_endsLookalike (hr : within r = false) (hend : endsLookalike r '"' = true)
    (hafter : within (next r '"') = false) (s : List Char) :
    Flushes r ('"' :: s) ('"' :: insertBeforeQuote flushAddition s) := by
  by_cases hs : '"' ∈ s
  · refine ⟨fun h => by simp [misleads, hr, hend, hs] at h, fun _ => ?_⟩
    simpa [outside, hr] using outside_insertBeforeQuote hafter hs
  · have hnext := (of_notMem hs hafter).1 (misleads_of_notMem hs hafter)
    refine ⟨fun _ => ?_, fun h => by simp [misleads, hr, hend, hs] at h⟩
    simpa [insertInStyle, hr, insertBeforeQuote_of_notMem hs] using hnext

theorem outside_eq_iff (h : Flushes r s result) :
    outside r result = outside r s ↔ misleads r s = false := by
  refine ⟨fun heq => Bool.eq_false_iff.mpr fun hmisled => h.2 hmisled heq, fun hnot => ?_⟩
  rw [h.1 hnot]
  exact outside_insertInStyle (by decide) s r

theorem eq_iff (h : Flushes r s result) :
    result = insertInStyle flushAddition r s ↔ misleads r s = false := by
  refine ⟨fun heq => h.outside_eq_iff.mp ?_, h.1⟩
  rw [heq]
  exact outside_insertInStyle (by decide) s r

end Flushes

end Reading

open Reading

namespace Quoting

variable {r : Option Reading} {s w : List Char}

/-- A find of the search does not begin before such a text. -/
theorem flushFirstMargin_append (h : Quoting r s) (hw : '"' ∉ w) :
    flushFirstMargin (w ++ s) = w ++ flushFirstMargin s := by
  induction h generalizing w with
  | plain hs =>
      have hboth : '"' ∉ w ++ _ := fun h => (List.mem_append.mp h).elim hw hs
      rw [flushFirstMargin_of_notMem hboth, flushFirstMargin_of_notMem hs]
  | @skip r w' s hw' _ ih =>
      have hboth : '"' ∉ w ++ w' := fun h => (List.mem_append.mp h).elim hw hw'
      rw [← List.append_assoc, ih hboth, ih hw', List.append_assoc]
  | @style r t value rest hread hvalue =>
      have hname : '"' ∉ ' ' :: styleName := by decide
      have hboth : '"' ∉ w ++ ' ' :: styleName := fun h => (List.mem_append.mp h).elim hw hname
      have hsuffix : styleName <:+ w ++ ' ' :: styleName :=
        (List.suffix_cons ' ' styleName).trans (List.suffix_append w _)
      rw [← List.append_assoc, flushFirstMargin_of_suffix hboth hsuffix,
        flushFirstMargin_of_suffix hname (List.suffix_cons ' ' styleName), List.append_assoc]
  | @other r t name value rest hname hother hread hvalue _ ih =>
      have hquote := quote_notMem_attributeName hname
      have hboth : '"' ∉ w ++ (' ' :: name.toList ++ ['=']) := fun h =>
        (List.mem_append.mp h).elim hw hquote
      rw [← List.append_assoc, flushFirstMargin_of_not_suffix hboth
          (mt (styleName_suffix_iff name w).mp hother),
        flushFirstMargin_of_not_suffix hquote (mt (styleName_suffix_iff name []).mp hother),
        List.append_assoc]

/-- The search makes that of every such text. -/
theorem flushes (h : Quoting r s) (hr : within r = false) : Flushes r s (flushFirstMargin s) := by
  induction h with
  | plain hs =>
      rw [flushFirstMargin_of_notMem hs]
      exact .of_notMem hs hr
  | skip hw h ih =>
      rw [h.flushFirstMargin_append hw, Flushes.append_iff hw hr]
      exact ih (within_foldl_next hw hr)
  | @style r t value rest hread hvalue =>
      have hname : '"' ∉ ' ' :: styleName := by decide
      rw [flushFirstMargin_of_suffix hname (List.suffix_cons ' ' styleName),
        insertBeforeQuote_append hvalue, Flushes.append_iff hname hr, hread,
        Flushes.quote_iff rfl rfl, next_equals]
      exact .of_inStyle rfl hvalue rest
  | @other r t name value rest hname hother hread hvalue _ ih =>
      have hquote := quote_notMem_attributeName hname
      have hname : name.toList ≠ "style".toList := fun h => hother (h ▸ List.suffix_rfl)
      have hquoted (value : List Char) :
          within (some (quoted t name.toList '"' value)) = false := by
        simpa [within, inStyle] using hname
      have hafter := within_next_quoted t name.toList value
      have hclose : endsLookalike (some (quoted t name.toList '"' value)) '"' =
          styleName.isSuffixOf value := rfl
      rw [flushFirstMargin_of_not_suffix hquote (mt (styleName_suffix_iff name []).mp hother),
        Flushes.append_iff hquote hr, hread, Flushes.quote_iff rfl rfl, next_equals]
      -- a find at the end of the value takes the closing quote for an opening one
      by_cases hlookalike : styleName <:+ value
      · rw [flushFirstMargin_of_suffix hvalue hlookalike, Flushes.append_iff hvalue (hquoted []),
          foldl_next_quoted t _ value [] hvalue]
        exact .of_endsLookalike (hquoted _) (List.isSuffixOf_iff_suffix.mpr hlookalike) hafter rest
      · have hend : styleName.isSuffixOf value = false :=
          Bool.eq_false_iff.mpr (mt List.isSuffixOf_iff_suffix.mp hlookalike)
        rw [flushFirstMargin_of_not_suffix hvalue hlookalike,
          Flushes.append_iff hvalue (hquoted []), foldl_next_quoted t _ value [] hvalue,
          List.nil_append, Flushes.quote_iff (hquoted _) (hclose.trans hend)]
        exact ih hafter

/-- **The search and the reader** change the same exactly if nothing misleads the search. -/
theorem flushFirstMargin_eq_iff (h : Quoting r s) (hr : within r = false) :
    flushFirstMargin s = insertInStyle flushAddition r s ↔ misleads r s = false :=
  (h.flushes hr).eq_iff

/-- **Nothing is changed outside** exactly if nothing misleads the search. -/
theorem outside_flushFirstMargin_iff (h : Quoting r s) (hr : within r = false) :
    outside r (flushFirstMargin s) = outside r s ↔ misleads r s = false :=
  (h.flushes hr).outside_eq_iff

end Quoting

/-! ## Markup as it is written -/

namespace Attr

/-- Whether the name of an attribute is `style` or does not end in it. -/
def isApart (a : Attr) : Bool := a.name == "style" || !"style".toList.isSuffixOf a.name.toList

/-- Whether an attribute is a style attribute with all styles. -/
def setsStyle : Attr → Bool
  | fixed name _ | escaped name _ => name == "style"
  | flag _ | themed _ _ => false

end Attr

/-- Whether a tag can be read and has no attribute that looks like a style attribute. -/
def isQuotingTag (name : String) (attrs : List Attr) : Bool :=
  isName name && Attr.allReadable attrs && attrs.all Attr.isApart

namespace Piece

/-- Whether a piece has double quotes around the values of attributes only, and
each attribute whose name ends in `style` is a style attribute. -/
def isQuoting : Piece → Bool
  | startTag name attrs | voidTag name attrs _ => isQuotingTag name attrs
  | endTag name => isName name
  | text _ => true
  | raw s => !s.toList.contains '<' && !s.toList.contains '"'

/-- Whether a piece has a style attribute with all styles. -/
def setsStyle : Piece → Bool
  | startTag _ attrs | voidTag _ attrs _ => attrs.any Attr.setsStyle
  | endTag _ | text _ | raw _ => false

end Piece

/-- Whether markup is such up to the first style attribute that it has with all styles. -/
def Markup.isQuoting : Markup → Bool
  | [] => true
  | p :: m => p.isQuoting && (p.setsStyle || isQuoting m)

theorem Markup.isQuoting_append : {m n : Markup} → m.isQuoting → n.isQuoting →
    (m ++ n).isQuoting
  | [], _, _, hn => hn
  | p :: m, n, hm, hn => by
      obtain ⟨hp, hrest⟩ : p.isQuoting ∧ (p.setsStyle ∨ Markup.isQuoting m) := by
        simpa [Markup.isQuoting] using hm
      rw [List.cons_append, Markup.isQuoting, Bool.and_eq_true, Bool.or_eq_true]
      exact ⟨hp, hrest.imp_right fun h => Markup.isQuoting_append h hn⟩

theorem Reads.foldl_next {r r' : Reading} {s : List Char} {ts : List Token}
    (h : Reads r s ts r') : s.foldl next (some r) = some r' := by
  induction s generalizing r ts with
  | nil =>
      obtain ⟨-, rfl⟩ : [] = ts ∧ r = r' := by simpa [Reads, scan] using h
      rfl
  | cons c cs ih =>
      simp only [Reads, scan, Option.bind_eq_bind, Option.bind_eq_some_iff, Prod.exists,
        Option.pure_def, Option.some.injEq, Prod.mk.injEq] at h
      obtain ⟨ts₁, r₁, hstep, ts₂, r₂, hrest, -, rfl⟩ := h
      have hnext : next (some r) c = some r₁ := by simp [next, hstep]
      rw [List.foldl_cons, hnext, ih hrest]

namespace Quoting

variable {r : Reading} {t : TagSoFar} {s : List Char} {name value : String}

/-- A text that is read without double quotes. -/
theorem of_reads {r' : Reading} {w : List Char} {ts : List Token} (hread : Reads r w ts r')
    (hw : '"' ∉ w) (h : Quoting (some r') s) : Quoting (some r) (w ++ s) :=
  .skip hw (hread.foldl_next ▸ h)

theorem reads_equals (hr : r.HasRead t) (hname : isName name) :
    Reads r (' ' :: name.toList ++ ['=']) [] (.equals t name.toList) :=
  (Reads.attrName hr hname).append (Reads.single (by simp [step, isNameChar]))

/-- After a style attribute there may be anything. -/
theorem style_attribute (hr : r.HasRead t) (hvalue : '"' ∉ value.toList) (s : List Char) :
    Quoting (some r) ((" " ++ "style" ++ "=\"" ++ value ++ "\"").toList ++ s) := by
  have hread := (reads_equals hr (by decide : isName "style")).foldl_next
  have hsplit : (" " ++ "style" ++ "=\"" ++ value ++ "\"").toList ++ s =
      (' ' :: styleName) ++ '"' :: (value.toList ++ '"' :: s) := by
    have hstyle : styleName = "style".toList ++ ['='] := rfl
    simp [hstyle]
  rw [hsplit]
  exact .style s hread hvalue

theorem other_attribute (hr : r.HasRead t) (hname : isName name)
    (hother : ¬ "style".toList <:+ name.toList) (hnew : name ∉ t.attrs.map (·.1))
    (hvalue : '"' ∉ value.toList)
    (h : Quoting (some (.unquoted { t with attrs := t.attrs ++ [(name, some value)] })) s) :
    Quoting (some r) ((" " ++ name ++ "=\"" ++ value ++ "\"").toList ++ s) := by
  have hread := (reads_equals hr hname).foldl_next
  have hclose : next (some (.quoted t name.toList '"' value.toList)) '"' =
      some (.unquoted { t with attrs := t.attrs ++ [(name, some value)] }) := by
    simp [next, step, TagSoFar.add?, hnew]
  have hsplit : (" " ++ name ++ "=\"" ++ value ++ "\"").toList ++ s =
      (' ' :: name.toList ++ ['=']) ++ '"' :: (value.toList ++ '"' :: s) := by simp
  rw [hsplit]
  exact .other hname hother hread hvalue (hclose ▸ h)

/-- An attribute with a value, by its name. -/
theorem valued_attribute (hr : r.HasRead t) (hname : isName name)
    (hapart : name == "style" || !"style".toList.isSuffixOf name.toList)
    (hnew : name ∉ t.attrs.map (·.1)) (hvalue : '"' ∉ value.toList)
    (h : name == "style" ∨
      Quoting (some (.unquoted { t with attrs := t.attrs ++ [(name, some value)] })) s) :
    Quoting (some r) ((" " ++ name ++ "=\"" ++ value ++ "\"").toList ++ s) := by
  by_cases hstyle : name = "style"
  · subst hstyle
    exact style_attribute hr hvalue s
  · have hother : ¬ "style".toList <:+ name.toList := fun h => by
      rw [List.isSuffixOf_iff_suffix.mpr h] at hapart
      simp [hstyle] at hapart
    exact other_attribute hr hname hother hnew hvalue (h.resolve_left (by simpa using hstyle))

variable (styles : Styles)

/-- An attribute of a tag: one that sets a style may have anything after it. -/
theorem attrWrite {a : Attr} (ha : a.readable) (hapart : a.isApart) (hr : r.HasRead t)
    (hnew : a.name ∉ t.attrs.map (·.1))
    (h : a.setsStyle ∨ ∀ r' : Reading, r'.HasRead { t with attrs := t.attrs ++ a.read styles } →
      Quoting (some r') s) :
    Quoting (some r) ((a.write styles).toList ++ s) := by
  cases a with
  | fixed name value =>
      obtain ⟨hname, hall⟩ : isName name ∧ value.toList.all (· != '"') := by
        simpa [Attr.readable] using ha
      have hvalue : '"' ∉ value.toList := fun h => by simpa using List.all_eq_true.mp hall _ h
      exact valued_attribute hr hname hapart hnew hvalue
        (h.imp_right fun h => h _ (Reads.hasRead_unquoted _))
  | escaped name value =>
      have hvalue : '"' ∉ (escapeText value).toList := by
        simpa [escapeText] using quote_notMem_escape value.toList
      exact valued_attribute hr ha hapart hnew hvalue
        (h.imp_right fun h => h _ (Reads.hasRead_unquoted _))
  | flag name =>
      have hrest := h.resolve_left (by simp [Attr.setsStyle]) _ (Reads.hasRead_attrName hnew)
      have hquote : '"' ∉ ' ' :: name.toList := by
        simp [notMem_of_isName ha (c := '"') (by decide)]
      simpa [Attr.write] using of_reads (Reads.attrName hr ha) hquote hrest
  | themed kind addition =>
      cases hd : styles.declarations? kind with
      | none =>
          have hrest := h.resolve_left (by simp [Attr.setsStyle]) r (by simpa [Attr.read, hd])
          simpa [Attr.write, Styles.styleAttributeWith, hd] using hrest
      | some d =>
          have hstyle := style_attribute hr (quote_notMem_attributeValue d addition) s
          simpa [Attr.write, Styles.styleAttributeWith, hd] using hstyle

theorem attrsWrite : (attrs : List Attr) → {r : Reading} → {t : TagSoFar} → r.HasRead t →
    attrs.all Attr.readable → attrs.all Attr.isApart →
    (t.attrs.map (·.1) ++ attrs.map Attr.name).Nodup →
    (attrs.any Attr.setsStyle ∨ ∀ r' : Reading,
      r'.HasRead { t with attrs := t.attrs ++ attrs.flatMap (Attr.read styles) } →
        Quoting (some r') s) →
    Quoting (some r) ((Attr.writeAll styles attrs).toList ++ s)
  | [], r, t, hr, _, _, _, h => by simpa using h.resolve_left (by simp) r (by simpa using hr)
  | a :: attrs, r, t, hr, hall, hapart, hnodup, h => by
      obtain ⟨ha, hattrs⟩ : a.readable ∧ attrs.all Attr.readable := by simpa using hall
      obtain ⟨haApart, hattrsApart⟩ : a.isApart ∧ attrs.all Attr.isApart := by simpa using hapart
      obtain ⟨hnew, hrest⟩ := Attr.nodup_after_read styles hnodup
      rw [Attr.writeAll_cons, String.toList_append, List.append_assoc]
      refine attrWrite styles ha haApart hr hnew ?_
      rw [List.any_cons, Bool.or_eq_true, or_assoc] at h
      refine h.imp_right fun h r' hr' => attrsWrite attrs hr' hattrs hattrsApart hrest ?_
      simpa [List.append_assoc] using h

/-- A tag, with its end and what follows. -/
theorem tagWrite {attrs : List Attr} (htag : isQuotingTag name attrs) (ending : VoidEnd)
    (h : attrs.any Attr.setsStyle ∨ Quoting (some .text) s) :
    Quoting (some .text)
      (("<" ++ name ++ Attr.writeAll styles attrs ++ ending.write).toList ++ s) := by
  obtain ⟨⟨hname, hattrs⟩, hapart⟩ : (isName name ∧ Attr.allReadable attrs) ∧
      attrs.all Attr.isApart := by simpa [isQuotingTag] using htag
  obtain ⟨hall, hnodup⟩ : attrs.all Attr.readable ∧ (attrs.map Attr.name).Nodup := by
    simpa [Attr.allReadable] using hattrs
  have hquote : '"' ∉ '<' :: name.toList := by
    simp [notMem_of_isName hname (c := '"') (by decide)]
  have hattributes := attrsWrite styles (s := ending.write.toList ++ s) attrs
    (Reads.hasRead_tagName name) hall hapart hnodup (h.imp_right fun h r' hr' => by
      obtain ⟨_, hend⟩ := Reads.voidEnd hr' ending
      exact of_reads hend (by cases ending <;> decide) h)
  simpa using of_reads (Reads.tagName hname) hquote hattributes

/-- A piece: one that sets a style may have anything after it. -/
theorem pieceWrite {p : Piece} (hp : p.isQuoting)
    (h : p.setsStyle ∨ Quoting (some .text) s) :
    Quoting (some .text) ((p.write styles).toList ++ s) := by
  have hplain {w : List Char} (htag : '<' ∉ w) (hquote : '"' ∉ w)
      (h : Quoting (some .text) s) : Quoting (some .text) (w ++ s) :=
    of_reads (Reads.text_of_notMem w htag) hquote h
  cases p with
  | startTag name attrs => exact tagWrite styles hp .plain h
  | voidTag name attrs ending => exact tagWrite styles hp ending h
  | endTag name =>
      have hquote : '"' ∉ ("</" ++ name ++ ">").toList := by
        simp [notMem_of_isName hp (c := '"') (by decide)]
      exact of_reads (Reads.endTag hp) hquote (h.resolve_left (by simp [Piece.setsStyle]))
  | text t =>
      have hrest := h.resolve_left (by simp [Piece.setsStyle])
      simpa [Piece.write, escapeText] using
        hplain (lt_notMem_escape t.toList) (quote_notMem_escape t.toList) hrest
  | raw t =>
      obtain ⟨htag, hquote⟩ : '<' ∉ t.toList ∧ '"' ∉ t.toList := by
        simpa [Piece.isQuoting] using hp
      exact hplain htag hquote (h.resolve_left (by simp [Piece.setsStyle]))

/-- **Markup is written** with double quotes around the values of attributes only,
up to the first style attribute. -/
theorem write : {m : Markup} → m.isQuoting → Quoting (some .text) (m.write styles).toList
  | [], _ => .plain (by simp)
  | p :: m, hm => by
      obtain ⟨hp, hrest⟩ : p.isQuoting ∧ (p.setsStyle ∨ Markup.isQuoting m) := by
        simpa [Markup.isQuoting] using hm
      rw [Markup.write_cons, String.toList_append]
      exact pieceWrite styles hp (hrest.imp_right fun h => write h)

end Quoting

end Broadsheet
