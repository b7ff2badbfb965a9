import Broadsheet.Proofs.Html.Tokens

/-!
# Broadsheet.Proofs.Html.VisibleText

The text that is seen of written markup.  `visibleText` reads the markup as a
browser does, leaves the tags out, and reads the five character references as
the characters that they stand for.

What should be seen is told by the markup before it is written: `Markup.visible`
puts the texts in it together and knows nothing of tags, quotes or references.
`visibleText_write` says that the two agree where all pieces can be read back
(`Markup.readable`).  The judgment behind it, `Shows`, composes, because a text
is read in the same way whatever follows it.
-/

namespace Broadsheet

/-! ## Character references -/

/-- Reads the five references as the characters that they stand for.  Every other
character stands for itself. -/
def decodeReferences : List Char → List Char
  | [] => []
  | '&' :: 'a' :: 'm' :: 'p' :: ';' :: cs => '&' :: decodeReferences cs
  | '&' :: 'l' :: 't' :: ';' :: cs => '<' :: decodeReferences cs
  | '&' :: 'g' :: 't' :: ';' :: cs => '>' :: decodeReferences cs
  | '&' :: 'q' :: 'u' :: 'o' :: 't' :: ';' :: cs => '"' :: decodeReferences cs
  | '&' :: '#' :: '3' :: '9' :: ';' :: cs => '\'' :: decodeReferences cs
  | c :: cs => c :: decodeReferences cs

theorem decodeReferences_cons {c : Char} (h : c ≠ '&') (s : List Char) :
    decodeReferences (c :: s) = c :: decodeReferences s := by
  conv => lhs; unfold decodeReferences
  split <;> simp_all

/-- A text without references stands for itself, whatever follows it. -/
theorem decodeReferences_append_of_notMem {s : List Char} (h : '&' ∉ s) (rest : List Char) :
    decodeReferences (s ++ rest) = s ++ decodeReferences rest := by
  induction s with
  | nil => rfl
  | cons c s ih =>
      obtain ⟨hc, hs⟩ : '&' ≠ c ∧ '&' ∉ s := by simpa using h
      rw [List.cons_append, decodeReferences_cons (Ne.symm hc), ih hs, List.cons_append]

/-- An escaped text stands for what was escaped, whatever follows it. -/
theorem decodeReferences_escape_append (s rest : List Char) :
    decodeReferences (escape s ++ rest) = s ++ decodeReferences rest := by
  induction s with
  | nil => rfl
  | cons c s ih =>
      rw [escape_cons, List.append_assoc]
      unfold escapeChar
      split <;> simp_all [decodeReferences, decodeReferences_cons]

/-! ## What is seen -/

/-- The character of a token; tags have none. -/
def Token.chars : Token → List Char
  | char c => [c]
  | startTag _ _ _ | endTag _ => []

/-- The text of markup that can be read to its end, without the tags. -/
def visibleText (html : String) : Option String :=
  (tokenize html).map fun ts => String.ofList (decodeReferences (ts.flatMap Token.chars))

/-- A written text is read to its end and seen as `t`, whatever follows it. -/
def Shows (s t : String) : Prop :=
  ∃ ts, Reads .text s.toList ts .text ∧
    ∀ rest, decodeReferences (ts.flatMap Token.chars ++ rest) = t.toList ++ decodeReferences rest

namespace Shows

theorem visibleText_eq {s t : String} (h : Shows s t) : visibleText s = some t := by
  obtain ⟨ts, hreads, hdecode⟩ := h
  have htext := hdecode []
  rw [List.append_nil, decodeReferences, List.append_nil] at htext
  rw [visibleText, hreads.tokenize_eq, Option.map_some, htext, String.ofList_toList]

theorem empty : Shows "" "" := ⟨[], Reads.nil _, fun _ => rfl⟩

theorem append {s s' t t' : String} (h : Shows s t) (h' : Shows s' t') :
    Shows (s ++ s') (t ++ t') := by
  obtain ⟨ts, hreads, hdecode⟩ := h
  obtain ⟨ts', hreads', hdecode'⟩ := h'
  refine ⟨ts ++ ts', ?_, fun rest => ?_⟩
  · rw [String.toList_append]
    exact hreads.append hreads'
  · rw [List.flatMap_append, List.append_assoc, hdecode, hdecode', String.toList_append,
      List.append_assoc]

/-- Tags are not seen. -/
theorem of_chars_eq_nil {s : String} {t : Token} (hreads : Reads .text s.toList [t] .text)
    (ht : t.chars = []) : Shows s "" :=
  ⟨[t], hreads, fun rest => by simp [ht]⟩

/-- A text without `<` is seen as what its references stand for. -/
theorem of_notMem {s t : String} (hs : '<' ∉ s.toList)
    (hdecode : ∀ rest, decodeReferences (s.toList ++ rest) = t.toList ++ decodeReferences rest) :
    Shows s t := by
  refine ⟨_, Reads.text_of_notMem s.toList hs, fun rest => ?_⟩
  rw [List.flatMap_map]
  simpa [Token.chars] using hdecode rest

end Shows

/-! ## Pieces of markup -/

namespace Piece

/-- The text in a piece. -/
def visible : Piece → String
  | text s | raw s => s
  | startTag _ _ | endTag _ | voidTag _ _ _ => ""

/-- Whether a piece can be read back: a tag with its attributes, and raw text that
holds neither tags nor references. -/
def readable : Piece → Bool
  | startTag name attrs | voidTag name attrs _ => isName name && Attr.allReadable attrs
  | endTag name => isName name
  | text _ => true
  | raw s => s.toList.all fun c => c != '<' && c != '&'

/-- A piece that can be read back is seen as its text. -/
theorem shows_write (styles : Styles) {p : Piece} (h : p.readable) :
    Shows (p.write styles) p.visible := by
  cases p with
  | startTag name attrs =>
      obtain ⟨hname, hattrs⟩ : isName name ∧ Attr.allReadable attrs := by
        simpa [readable] using h
      exact .of_chars_eq_nil (Reads.startTag styles hname hattrs) rfl
  | endTag name => exact .of_chars_eq_nil (Reads.endTag h) rfl
  | voidTag name attrs ending =>
      obtain ⟨hname, hattrs⟩ : isName name ∧ Attr.allReadable attrs := by
        simpa [readable] using h
      obtain ⟨selfClosing, hreads⟩ := Reads.voidTag styles hname hattrs ending
      exact .of_chars_eq_nil hreads rfl
  | text s =>
      refine .of_notMem ?_ fun rest => ?_
      · simpa [write, escapeText] using lt_notMem_escape s.toList
      · simpa [write, visible, escapeText] using decodeReferences_escape_append s.toList rest
  | raw s =>
      have hall : ∀ c ∈ s.toList, c ≠ '<' ∧ c ≠ '&' := by simpa [readable] using h
      exact .of_notMem (fun hlt => (hall _ hlt).1 rfl)
        (decodeReferences_append_of_notMem fun hamp => (hall _ hamp).2 rfl)

end Piece

namespace Markup

/-- The texts in markup, in their order. -/
def visible (m : Markup) : String := m.foldr (fun p t => p.visible ++ t) ""

@[simp] theorem visible_nil : visible [] = "" := rfl

@[simp] theorem visible_cons (p : Piece) (m : Markup) :
    visible (p :: m) = p.visible ++ visible m := rfl

@[simp] theorem visible_append (m n : Markup) : visible (m ++ n) = visible m ++ visible n := by
  induction m with
  | nil => simp
  | cons p m ih => simp [ih, String.append_assoc]

/-- Whether every piece can be read back. -/
def readable (m : Markup) : Bool := m.all Piece.readable

@[simp] theorem readable_append (m n : Markup) :
    readable (m ++ n) = (readable m && readable n) :=
  List.all_append

/-- **Written markup is seen as its texts**, where it can be read back, with
whatever styles it is written. -/
theorem visibleText_write (styles : Styles) {m : Markup} (h : m.readable) :
    visibleText (m.write styles) = some m.visible := by
  apply Shows.visibleText_eq
  induction m with
  | nil => exact Shows.empty
  | cons p m ih =>
      obtain ⟨hp, hm⟩ : p.readable ∧ readable m := by simpa [readable] using h
      rw [write_cons, visible_cons]
      exact (Piece.shows_write styles hp).append (ih hm)

end Markup

end Broadsheet
