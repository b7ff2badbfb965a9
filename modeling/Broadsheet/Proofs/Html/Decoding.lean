import Broadsheet.Markdown.Entity
import Broadsheet.Proofs.Html.Tokens
import Broadsheet.Proofs.Text.Replacing

/-!
# Broadsheet.Proofs.Html.Decoding

What a browser reads in a style attribute.  Its value is written with `&quot;`
in place of double quotes and with every other character as it is, ampersands
included.  So a reference that stands in the declarations already is read as the
character that it refers to, and is not read back as it was written.

* `References` — the names that a browser knows, `References.html` those of
  HTML 5;
* `References.decode` — a value with its references resolved;
* `rewriteFrom_escapeAttribute` — whoever reads `&quot;` as a double quote reads
  the same in the value as in the declarations;
* `styleAttributeWith_decoded_iff` — what is read in an attribute, when that is
  what was written, and which declarations have one attribute.
-/

namespace Broadsheet

open Styles (escapeAttribute)

/-! ## References -/

/-- The names of character references with the texts that they stand for.  A name that may also
stand without a semicolon is listed without it too. -/
structure References where
  named? : (name : List Char) → Option (List Char)
  quot : named? "quot;".toList = some ['"']
  length_le : ∀ {name value}, named? name = some value → value.length ≤ name.length

namespace References

/-- The characters that a browser reads for the numbers of some control characters. -/
def controls : List (Nat × Char) :=
  [(0x80, '€'), (0x82, '‚'), (0x83, 'ƒ'), (0x84, '„'), (0x85, '…'), (0x86, '†'), (0x87, '‡'),
    (0x88, 'ˆ'), (0x89, '‰'), (0x8A, 'Š'), (0x8B, '‹'), (0x8C, 'Œ'), (0x8E, 'Ž'), (0x91, '‘'),
    (0x92, '’'), (0x93, '“'), (0x94, '”'), (0x95, '•'), (0x96, '–'), (0x97, '—'), (0x98, '˜'),
    (0x99, '™'), (0x9A, 'š'), (0x9B, '›'), (0x9C, 'œ'), (0x9E, 'ž'), (0x9F, 'Ÿ')]

/-- The character that a number stands for. -/
def numbered (n : Nat) : Char :=
  match controls.lookup n with
  | some c => c
  | none => if n = 0 ∨ (0xD7FF < n ∧ n < 0xE000) ∨ 0x10FFFF < n then '\uFFFD' else Char.ofNat n

/-- Reads a number, with or without a semicolon after it: what it stands for, and how many
characters it has. -/
def readNumber? (base : Nat) (digit : Char → Option Nat) (s : List Char) :
    Option (List Char × Nat) :=
  let digits := s.takeWhile fun c => (digit c).isSome
  let semicolon := if startsWith [';'] (s.drop digits.length) then 1 else 0
  if digits.isEmpty then none
  else some ([numbered (Decimal.digitsValue base digit 0 digits)], digits.length + semicolon)

/-- The names of HTML 5 that may stand without a semicolon. -/
def bareNames : List String :=
  [
    "AElig", "AMP", "Aacute", "Acirc", "Agrave", "Aring", "Atilde", "Auml", "COPY", "Ccedil",
    "ETH", "Eacute", "Ecirc", "Egrave", "Euml", "GT", "Iacute", "Icirc", "Igrave", "Iuml", "LT",
    "Ntilde", "Oacute", "Ocirc", "Ograve", "Oslash", "Otilde", "Ouml", "QUOT", "REG", "THORN",
    "Uacute", "Ucirc", "Ugrave", "Uuml", "Yacute", "aacute", "acirc", "acute", "aelig", "agrave",
    "amp", "aring", "atilde", "auml", "brvbar", "ccedil", "cedil", "cent", "copy", "curren",
    "deg", "divide", "eacute", "ecirc", "egrave", "eth", "euml", "frac12", "frac14", "frac34",
    "gt", "iacute", "icirc", "iexcl", "igrave", "iquest", "iuml", "laquo", "lt", "macr", "micro",
    "middot", "nbsp", "not", "ntilde", "oacute", "ocirc", "ograve", "ordf", "ordm", "oslash",
    "otilde", "ouml", "para", "plusmn", "pound", "quot", "raquo", "reg", "sect", "shy", "sup1",
    "sup2", "sup3", "szlig", "thorn", "times", "uacute", "ucirc", "ugrave", "uml", "uuml",
    "yacute", "yen", "yuml"]

/-- The names of HTML 5.  None of them stands for a text that is longer than itself. -/
def html : References where
  named? name :=
    let value :=
      if name.getLast? = some ';' then Markdown.Entity.named? name.dropLast
      else if String.ofList name ∈ bareNames then Markdown.Entity.named? name
      else none
    value.filter fun v => v.length ≤ name.length
  quot := by decide +kernel
  length_le h := of_decide_eq_true (Option.filter_eq_some_iff.mp h).2

variable (names : References)

/-- Reads a name.  Without a semicolon after it, it must not run on, nor be followed by an equals
sign. -/
def readName? (s : List Char) : Option (List Char × Nat) :=
  let name := s.takeWhile Char.isAlphanum
  let rest := s.drop name.length
  if startsWith [';'] rest then (names.named? (name ++ [';'])).map (·, name.length + 1)
  else if startsWith ['='] rest then none
  else (names.named? name).map (·, name.length)

/-- Reads what stands after an ampersand in the value of an attribute. -/
def read? (s : List Char) : Option (List Char × Nat) :=
  if startsWith ['#'] s then
    if startsWith ['x'] (s.drop 1) || startsWith ['X'] (s.drop 1) then
      (readNumber? 16 Decimal.hexDigit (s.drop 2)).map fun (value, n) => (value, n + 2)
    else (readNumber? 10 Decimal.decimalDigit (s.drop 1)).map fun (value, n) => (value, n + 1)
  else names.readName? s

/-- Finds a reference. -/
def find? : Finder
  | '&' :: s => names.read? s
  | _ => none

/-- The value of an attribute with its references resolved. -/
def decode (s : List Char) : List Char := rewriteFrom names.find? 0 s

/-- A reference stands in the text. -/
def Within (s : List Char) : Prop := ∃ t, t <:+ s ∧ (names.find? t).isSome

/-! ## What is read -/

/-- What is found stands at the beginning of the text, holds no double quote, and is not shorter
than what is written for it. -/
structure Consumes (s : List Char) (found : List Char × Nat) : Prop where
  le_length : found.2 ≤ s.length
  length_le : found.1.length ≤ found.2
  quote : '"' ∉ s.take found.2

theorem startsWith_singleton_iff {c : Char} {s : List Char} :
    startsWith [c] s = true ↔ ∃ r, s = c :: r := by
  rw [startsWith_iff, List.cons_prefix_iff]
  simp

section Runs

variable {p : Char → Bool} {s : List Char}

theorem takeWhile_append_drop (p : Char → Bool) (s : List Char) :
    s.takeWhile p ++ s.drop (s.takeWhile p).length = s :=
  List.prefix_iff_eq_append.mp (List.takeWhile_prefix p)

theorem quote_notMem_takeWhile (hp : p '"' = false) : '"' ∉ s.takeWhile p := fun h => by
  have hholds := List.all_eq_true.mp List.all_takeWhile _ h
  rw [hp] at hholds
  contradiction

/-- A run of characters, with a character after it. -/
theorem quote_notMem_take_succ (hp : p '"' = false) {c : Char} (hc : c ≠ '"') {r : List Char}
    (h : s.drop (s.takeWhile p).length = c :: r) :
    (s.takeWhile p).length + 1 ≤ s.length ∧ '"' ∉ s.take ((s.takeWhile p).length + 1) := by
  have hsplit := takeWhile_append_drop p s
  rw [h] at hsplit
  generalize hrun : s.takeWhile p = run at hsplit
  have hquote : '"' ∉ run := hrun ▸ quote_notMem_takeWhile hp
  subst hsplit
  rw [List.take_append, List.take_of_length_le (Nat.le_succ _)]
  simp [hquote, hc.symm]

theorem quote_notMem_take (hp : p '"' = false) :
    (s.takeWhile p).length ≤ s.length ∧ '"' ∉ s.take (s.takeWhile p).length := by
  have hrun := List.takeWhile_prefix (l := s) p
  rw [← List.prefix_iff_eq_take.mp hrun]
  exact ⟨hrun.length_le, quote_notMem_takeWhile hp⟩

end Runs

theorem consumes_of_readNumber? {base : Nat} {digit : Char → Option Nat}
    (hdigit : digit '"' = none) {s : List Char} {found : List Char × Nat}
    (h : readNumber? base digit s = some found) : Consumes s found := by
  have hp : (digit '"').isSome = false := by rw [hdigit]; rfl
  simp only [readNumber?] at h
  split at h
  · contradiction
  · next hne =>
      have hpos : 0 < (s.takeWhile fun c => (digit c).isSome).length := by
        rw [List.length_pos_iff]
        simpa using hne
      obtain rfl := Option.some.inj h
      split
      · next hsemicolon =>
          obtain ⟨r, hr⟩ := startsWith_singleton_iff.mp hsemicolon
          obtain ⟨hle, hquote⟩ := quote_notMem_take_succ hp (by decide) hr
          exact ⟨hle, by simp, hquote⟩
      · obtain ⟨hle, hquote⟩ := quote_notMem_take (p := fun c => (digit c).isSome) (s := s) hp
        exact ⟨hle, hpos, hquote⟩

theorem consumes_of_readName? {s : List Char} {found : List Char × Nat}
    (h : names.readName? s = some found) : Consumes s found := by
  have hp : Char.isAlphanum '"' = false := by decide
  simp only [readName?] at h
  split at h
  · next hsemicolon =>
      obtain ⟨value, hvalue, rfl⟩ := Option.map_eq_some_iff.mp h
      obtain ⟨r, hr⟩ := startsWith_singleton_iff.mp hsemicolon
      obtain ⟨hle, hquote⟩ := quote_notMem_take_succ hp (by decide) hr
      have hlength := names.length_le hvalue
      exact ⟨hle, by simpa using hlength, hquote⟩
  · split at h
    · contradiction
    · obtain ⟨value, hvalue, rfl⟩ := Option.map_eq_some_iff.mp h
      obtain ⟨hle, hquote⟩ := quote_notMem_take (s := s) hp
      exact ⟨hle, names.length_le hvalue, hquote⟩

/-- What is read after other characters. -/
theorem Consumes.append {a s : List Char} (ha : '"' ∉ a) {value : List Char} {n : Nat}
    (h : Consumes s (value, n)) : Consumes (a ++ s) (value, n + a.length) := by
  obtain ⟨hle, hlength, hquote⟩ := h
  simp only at hle hlength hquote
  refine ⟨?_, ?_, ?_⟩
  · simp only [List.length_append]
    omega
  · exact Nat.le_trans hlength (Nat.le_add_right _ _)
  · rw [Nat.add_comm, List.take_length_add_append, List.mem_append, not_or]
    exact ⟨ha, hquote⟩

theorem consumes_of_read? {s : List Char} {found : List Char × Nat}
    (h : names.read? s = some found) : Consumes s found := by
  rw [read?] at h
  split at h
  · next hnumber =>
      obtain ⟨r, rfl⟩ := startsWith_singleton_iff.mp hnumber
      split at h
      · next hhex =>
          obtain ⟨⟨value, n⟩, hread, rfl⟩ := Option.map_eq_some_iff.mp h
          rw [Bool.or_eq_true, startsWith_singleton_iff, startsWith_singleton_iff] at hhex
          obtain ⟨r, rfl⟩ | ⟨r, rfl⟩ := hhex
          · exact (consumes_of_readNumber? (by decide) hread).append (a := ['#', 'x']) (by decide)
          · exact (consumes_of_readNumber? (by decide) hread).append (a := ['#', 'X']) (by decide)
      · obtain ⟨⟨value, n⟩, hread, rfl⟩ := Option.map_eq_some_iff.mp h
        exact (consumes_of_readNumber? (by decide) hread).append (a := ['#']) (by decide)
  · exact names.consumes_of_readName? h

theorem shortens_find? : names.find?.Shortens := by
  have hread {s : List Char} {value : List Char} {n : Nat} (h : names.find? s = some (value, n)) :
      n < s.length ∧ value.length ≤ n := by
    unfold find? at h
    split at h
    · next t =>
        have hconsumes := names.consumes_of_read? h
        exact ⟨Nat.lt_succ_of_le hconsumes.le_length, hconsumes.length_le⟩
    · contradiction
  exact ⟨fun h => (hread h).1, fun h => (hread h).2⟩

/-- **What resolving leaves alone**: exactly the texts in which no reference stands. -/
theorem decode_eq_self_iff (s : List Char) : names.decode s = s ↔ ¬ names.Within s := by
  rw [decode, rewriteFrom_eq_self_iff names.shortens_find?, Within]
  simp [Option.isSome_iff_ne_none]

end References

/-! ## Double quotes -/

namespace Styles

theorem escapeAttribute_cons_of_ne {c : Char} (hc : c ≠ '"') (s : List Char) :
    escapeAttribute (c :: s) = c :: escapeAttribute s := by
  rw [escapeAttribute, List.flatMap_cons, if_neg hc]
  rfl

theorem escapeAttribute_cons_quote (s : List Char) :
    escapeAttribute ('"' :: s) = "&quot;".toList ++ escapeAttribute s := by
  rw [escapeAttribute, List.flatMap_cons, if_pos rfl]
  rfl

theorem escapeAttribute_append (s t : List Char) :
    escapeAttribute (s ++ t) = escapeAttribute s ++ escapeAttribute t := by
  simp [escapeAttribute]

/-- What stands before the first double quote is written as it is. -/
theorem drop_escapeAttribute : (n : Nat) → (s : List Char) → '"' ∉ s.take n →
    (escapeAttribute s).drop n = escapeAttribute (s.drop n)
  | 0, _, _ => rfl
  | n + 1, [], _ => rfl
  | n + 1, c :: s, h => by
      obtain ⟨hc, hs⟩ : '"' ≠ c ∧ '"' ∉ s.take n := by simpa using h
      rw [escapeAttribute_cons_of_ne (Ne.symm hc), List.drop_succ_cons, List.drop_succ_cons,
        drop_escapeAttribute n s hs]

theorem startsWith_escapeAttribute {c : Char} (hc : c ≠ '"') (hamp : c ≠ '&') (s : List Char) :
    startsWith [c] (escapeAttribute s) = startsWith [c] s := by
  cases s with
  | nil => rfl
  | cons d s =>
      by_cases hd : d = '"'
      · subst hd
        rw [escapeAttribute_cons_quote]
        simp [startsWith, after?, hc, hamp]
      · rw [escapeAttribute_cons_of_ne hd]
        simp only [startsWith, after?]
        split <;> rfl

/-- A run that ends at double quotes and ampersands is the same in what is written. -/
theorem takeWhile_escapeAttribute {p : Char → Bool} (hquote : p '"' = false) (hamp : p '&' = false)
    (s : List Char) : (escapeAttribute s).takeWhile p = s.takeWhile p := by
  induction s with
  | nil => rfl
  | cons d s ih =>
      by_cases hd : d = '"'
      · subst hd
        rw [escapeAttribute_cons_quote]
        simp [hquote, hamp]
      · rw [escapeAttribute_cons_of_ne hd, List.takeWhile_cons, List.takeWhile_cons, ih]

end Styles

theorem toList_quoteReference : "&quot;".toList = '&' :: "quot;".toList := rfl

/-- A reader that reads the written double quote as a double quote, and does not look beyond
double quotes otherwise. -/
structure Finder.ReadsQuotes (find : Finder) : Prop where
  written : ∀ s, find ("&quot;".toList ++ s) = some (['"'], 5)
  quote : ∀ s, find ('"' :: s) = none
  escaped : ∀ {c s}, c ≠ '"' → find (c :: escapeAttribute s) = find (c :: s)
  notMem : ∀ {c s q k}, find (c :: s) = some (q, k) → '"' ∉ s.take k

/-- **Reading the written value** is reading the declarations. -/
theorem rewriteFrom_escapeAttribute {find : Finder} (hfind : find.ReadsQuotes) (s : List Char) :
    rewriteFrom find 0 (escapeAttribute s) = rewriteFrom find 0 s := by
  induction s using Finder.induction find with
  | nil => rfl
  | passed c s hnone ih =>
      by_cases hc : c = '"'
      · subst hc
        have hwritten := hfind.written (escapeAttribute s)
        rw [toList_quoteReference, List.cons_append] at hwritten
        rw [Styles.escapeAttribute_cons_quote, toList_quoteReference, List.cons_append,
          rewriteFrom_cons_of_some hwritten, rewriteFrom_cons_of_none hnone, ← ih]
        rfl
      · rw [Styles.escapeAttribute_cons_of_ne hc, rewriteFrom_cons_of_none hnone,
          rewriteFrom_cons_of_none ((hfind.escaped hc).trans hnone), ih]
  | found c s q k hfound ih =>
      have hc : c ≠ '"' := by
        rintro rfl
        rw [hfind.quote] at hfound
        contradiction
      rw [Styles.escapeAttribute_cons_of_ne hc, rewriteFrom_cons_of_some hfound,
        rewriteFrom_cons_of_some ((hfind.escaped hc).trans hfound),
        Styles.drop_escapeAttribute k s (hfind.notMem hfound), ih]

namespace References

variable (names : References)

section Escaped

variable {s : List Char}

theorem readNumber?_escapeAttribute {base : Nat} {digit : Char → Option Nat}
    (hquote : digit '"' = none) (hamp : digit '&' = none) :
    readNumber? base digit (escapeAttribute s) = readNumber? base digit s := by
  have hdigits := Styles.takeWhile_escapeAttribute (p := fun c => (digit c).isSome) (s := s)
    (by rw [hquote]; rfl) (by rw [hamp]; rfl)
  have hrun := (quote_notMem_take (p := fun c => (digit c).isSome) (s := s)
    (by rw [hquote]; rfl)).2
  simp only [readNumber?, hdigits, Styles.drop_escapeAttribute _ _ hrun,
    Styles.startsWith_escapeAttribute (c := ';') (by decide) (by decide)]

theorem readName?_escapeAttribute : names.readName? (escapeAttribute s) = names.readName? s := by
  have hname := Styles.takeWhile_escapeAttribute (p := Char.isAlphanum) (s := s) (by decide)
    (by decide)
  have hrun := (quote_notMem_take (p := Char.isAlphanum) (s := s) (by decide)).2
  simp only [readName?, hname, Styles.drop_escapeAttribute _ _ hrun,
    Styles.startsWith_escapeAttribute (c := ';') (by decide) (by decide),
    Styles.startsWith_escapeAttribute (c := '=') (by decide) (by decide)]

/-- A reference holds no double quote, so it is read in what is written as it was. -/
theorem read?_escapeAttribute : names.read? (escapeAttribute s) = names.read? s := by
  rw [read?, read?, Styles.startsWith_escapeAttribute (by decide) (by decide),
    readName?_escapeAttribute]
  split
  · next hnumber =>
      obtain ⟨s, rfl⟩ := startsWith_singleton_iff.mp hnumber
      rw [Styles.escapeAttribute_cons_of_ne (by decide)]
      simp only [List.drop_succ_cons, List.drop_zero,
        Styles.startsWith_escapeAttribute (c := 'x') (by decide) (by decide),
        Styles.startsWith_escapeAttribute (c := 'X') (by decide) (by decide)]
      split
      · next hhex =>
          rw [Bool.or_eq_true, startsWith_singleton_iff, startsWith_singleton_iff] at hhex
          obtain ⟨s, rfl⟩ | ⟨s, rfl⟩ := hhex <;>
            rw [Styles.escapeAttribute_cons_of_ne (by decide), List.drop_succ_cons,
              List.drop_succ_cons, List.drop_zero, List.drop_zero,
              readNumber?_escapeAttribute (by decide) (by decide)]
      · rw [readNumber?_escapeAttribute (by decide) (by decide)]
  · rfl

end Escaped

theorem readsQuotes_find? : names.find?.ReadsQuotes where
  written s := by
    have hname : ("quot;".toList ++ s).takeWhile Char.isAlphanum = "quot".toList := rfl
    have hread : names.readName? ("quot;".toList ++ s) =
        (names.named? "quot;".toList).map (·, 5) := by
      simp only [readName?, hname]
      rfl
    have hfind : names.find? ("&quot;".toList ++ s) = names.readName? ("quot;".toList ++ s) := rfl
    rw [hfind, hread, names.quot, Option.map_some]
  quote s := rfl
  escaped {c s} hc := by
    by_cases hamp : c = '&'
    · subst hamp
      exact names.read?_escapeAttribute
    · have hnone (s : List Char) : names.find? (c :: s) = none := by
        unfold find?
        split
        · next h => exact absurd (List.cons.inj h).1 hamp
        · rfl
      rw [hnone, hnone]
  notMem {c s q k} h := by
    unfold find? at h
    split at h
    · next heq =>
        obtain ⟨-, rfl⟩ := List.cons.inj heq
        exact (names.consumes_of_read? h).quote
    · contradiction

end References

/-! ## Texts with one attribute -/

/-- A text with the written double quotes read. -/
def readQuotes (s : List Char) : List Char := replaceAll "&quot;".toList ['"'] s

theorem prefix_escapeAttribute_iff : {w s : List Char} → '"' ∉ w → '&' ∉ w →
    (w <+: escapeAttribute s ↔ w <+: s)
  | [], s, _, _ => by simp
  | d :: w, [], _, _ => by simp [escapeAttribute]
  | d :: w, c :: s, hquote, hamp => by
      obtain ⟨hd, hw⟩ : '"' ≠ d ∧ '"' ∉ w := by simpa using hquote
      obtain ⟨hd', hw'⟩ : '&' ≠ d ∧ '&' ∉ w := by simpa using hamp
      by_cases hc : c = '"'
      · subst hc
        rw [Styles.escapeAttribute_cons_quote]
        simp [List.cons_prefix_cons, Ne.symm hd, Ne.symm hd']
      · rw [Styles.escapeAttribute_cons_of_ne hc, List.cons_prefix_cons, List.cons_prefix_cons,
          prefix_escapeAttribute_iff hw hw']

theorem exists_of_quoteOccurrence {c : Char} {s q : List Char} {k : Nat}
    (h : occurrence? "&quot;".toList ['"'] (c :: s) = some (q, k)) :
    ∃ r, c = '&' ∧ s = "quot;".toList ++ r ∧ q = ['"'] ∧ k = 5 := by
  obtain ⟨⟨r, hr⟩, rfl, rfl⟩ := occurrence?_eq_some_iff.mp h
  rw [toList_quoteReference, List.cons_append] at hr
  obtain ⟨rfl, rfl⟩ := List.cons.inj hr
  exact ⟨r, rfl, rfl, rfl, rfl⟩

theorem readsQuotes_occurrence? : (occurrence? "&quot;".toList ['"']).ReadsQuotes where
  written s := occurrence?_eq_some_iff.mpr ⟨List.prefix_append _ _, rfl, rfl⟩
  quote s := occurrence?_eq_none_iff.mpr fun h => by simp [List.cons_prefix_cons] at h
  escaped {c s} hc := by
    have hprefix : "&quot;".toList <+: c :: escapeAttribute s ↔ "&quot;".toList <+: c :: s := by
      rw [toList_quoteReference, List.cons_prefix_cons, List.cons_prefix_cons,
        prefix_escapeAttribute_iff (by decide) (by decide)]
    have hstart : startsWith "&quot;".toList (c :: escapeAttribute s) =
        startsWith "&quot;".toList (c :: s) := by
      rw [Bool.eq_iff_iff, startsWith_iff, startsWith_iff, hprefix]
    rw [occurrence?, occurrence?, hstart]
  notMem {c s q k} h := by
    obtain ⟨r, -, rfl, -, rfl⟩ := exists_of_quoteOccurrence h
    simp

theorem readQuotes_escapeAttribute (s : List Char) :
    readQuotes (escapeAttribute s) = readQuotes s := by
  simp only [readQuotes, replaceAll, replaceFrom_eq]
  exact rewriteFrom_escapeAttribute readsQuotes_occurrence? s

/-- Double quotes that were read are written again. -/
theorem escapeAttribute_readQuotes (s : List Char) :
    escapeAttribute (readQuotes s) = escapeAttribute s := by
  simp only [readQuotes, replaceAll, replaceFrom_eq]
  induction s using Finder.induction (occurrence? "&quot;".toList ['"']) with
  | nil => rfl
  | passed c s hnone ih =>
      rw [rewriteFrom_cons_of_none hnone]
      by_cases hc : c = '"'
      · subst hc
        rw [Styles.escapeAttribute_cons_quote, Styles.escapeAttribute_cons_quote, ih]
      · rw [Styles.escapeAttribute_cons_of_ne hc, Styles.escapeAttribute_cons_of_ne hc, ih]
  | found c s q k hfound ih =>
      obtain ⟨r, rfl, rfl, rfl, rfl⟩ := exists_of_quoteOccurrence hfound
      have hdrop : ("quot;".toList ++ r).drop 5 = r := rfl
      rw [hdrop] at ih
      rw [rewriteFrom_cons_of_some hfound, hdrop, List.singleton_append,
        Styles.escapeAttribute_cons_quote, ih, ← List.cons_append, ← toList_quoteReference,
        Styles.escapeAttribute_append]
      rfl

/-- Two texts are written alike exactly if they are one text once the written double quotes are
read. -/
theorem escapeAttribute_inj_iff (s t : List Char) :
    escapeAttribute s = escapeAttribute t ↔ readQuotes s = readQuotes t := by
  constructor
  · intro h
    rw [← readQuotes_escapeAttribute s, h, readQuotes_escapeAttribute]
  · intro h
    rw [← escapeAttribute_readQuotes s, h, escapeAttribute_readQuotes]

/-! ## Style attributes -/

theorem toList_attributeValue (declarations addition : String) :
    (Styles.attributeValue declarations addition).toList =
      escapeAttribute (declarations ++ addition).toList := by
  simp [Styles.attributeValue, Styles.escapeAttribute_append]

theorem styleAttributeWith_of_hasEntry {styles : Styles} {k : ElementKind} {p : Properties}
    (hentry : styles.entry? k = some p) (addition : String) :
    styles.styleAttributeWith k addition =
      " style=\"" ++ Styles.attributeValue p.write addition ++ "\"" := by
  rw [Styles.styleAttributeWith, Styles.declarations?, hentry, Option.map_some]

/-- **What is read in a style attribute**: for every kind that has an entry and every addition,
the value of the attribute holds no double quote, and a browser reads in it what it would read
in the declarations themselves.  That is what was written exactly if no reference stands in
them.  Two such attributes are one exactly if their declarations are one text once each
`&quot;` in them is read as a double quote. -/
theorem styleAttributeWith_decoded_iff (names : References) {styles : Styles} {k : ElementKind}
    {p : Properties} (hentry : styles.entry? k = some p) (addition : String) :
    (∃ v, styles.styleAttributeWith k addition = " style=\"" ++ String.ofList v ++ "\"" ∧
      '"' ∉ v ∧ names.decode v = names.decode (p.write ++ addition).toList ∧
      (names.decode v = (p.write ++ addition).toList ↔
        ¬ names.Within (p.write ++ addition).toList)) ∧
    ∀ {styles' : Styles} {k' : ElementKind} {p' : Properties} (addition' : String),
      styles'.entry? k' = some p' →
        (styles.styleAttributeWith k addition = styles'.styleAttributeWith k' addition' ↔
          readQuotes (p.write ++ addition).toList = readQuotes (p'.write ++ addition').toList) := by
  have hdecode : names.decode (Styles.attributeValue p.write addition).toList =
      names.decode (p.write ++ addition).toList := by
    rw [toList_attributeValue]
    exact rewriteFrom_escapeAttribute names.readsQuotes_find? _
  refine ⟨⟨_, ?_, quote_notMem_attributeValue p.write addition, hdecode, ?_⟩, ?_⟩
  · rw [styleAttributeWith_of_hasEntry hentry, String.ofList_toList]
  · rw [hdecode]
    exact names.decode_eq_self_iff _
  · intro styles' k' p' addition' hentry'
    rw [styleAttributeWith_of_hasEntry hentry, styleAttributeWith_of_hasEntry hentry',
      ← escapeAttribute_inj_iff, ← toList_attributeValue, ← toList_attributeValue,
      String.toList_inj, String.append_left_inj, String.append_right_inj]

/-- Styles with the same `content` for every kind. -/
def contentStyles (value : String) : Styles := ⟨fun _ => some (.ofPairs [("content", value)])⟩

/-- A reference to a double quote is read as a double quote, and has the attribute of one. -/
theorem quoteReference_decoded :
    ∃ p, Styles.entry? (contentStyles "&quot;") .paragraph = some p ∧
      ∃ v, (contentStyles "&quot;").styleAttributeWith .paragraph "" =
          " style=\"" ++ String.ofList v ++ "\"" ∧
        '"' ∉ v ∧ References.html.decode v ≠ (p.write ++ "").toList ∧
        (contentStyles "&quot;").styleAttributeWith .paragraph "" =
          (contentStyles "\"").styleAttributeWith .paragraph "" := by
  have hentry (value : String) : Styles.entry? (contentStyles value) .paragraph =
      some (.ofPairs [("content", value)]) := rfl
  obtain ⟨⟨v, hv, hquote, -, hself⟩, hsame⟩ :=
    styleAttributeWith_decoded_iff .html (hentry "&quot;") ""
  have hwrite : (Properties.ofPairs [("content", "&quot;")]).write = "content: &quot;" := by
    decide +kernel
  have hwithin : References.html.Within
      ((Properties.ofPairs [("content", "&quot;")]).write ++ "").toList := by
    refine ⟨"&quot;".toList, ?_, by rw [← List.append_nil "&quot;".toList,
      References.html.readsQuotes_find?.written]; rfl⟩
    rw [hwrite]
    exact ⟨"content: ".toList, by decide⟩
  refine ⟨_, rfl, v, hv, hquote, fun h => hself.mp h hwithin, ?_⟩
  exact (hsame "" (hentry "\"")).mpr (by decide +kernel)

end Broadsheet
