import Broadsheet.Proofs.Html.Tokens

/-!
# Broadsheet.Proofs.Html.Nesting

Properly nested markup.  `nest` follows the tags of a text with the stack of
the elements that are open: a start tag goes on the stack, and an end tag has
to close the element on top of it.  Void elements have no end tag and never go
on the stack.

A `Balanced` text can be read from its beginning to its end, uses no other
tags than those of an article, and leaves every stack as it was.  Balanced
texts are closed under everything that writing does: one after another, in an
element, and text in between.
-/

namespace Broadsheet

/-! ## The stack of open elements -/

/-- The elements that have no content and no end tag. -/
def voidNames : List String := ["br", "hr", "img", "input", "ellipse"]

/-- The tags of an article. -/
def tagNames : List String :=
  ["h1", "h2", "h3", "h4", "h5", "h6", "p", "blockquote", "ol", "ul", "li", "section", "table",
    "thead", "tbody", "tr", "td", "span", "strong", "del", "sup", "sub", "a", "figure",
    "figcaption", "pre", "code", "svg", "i"] ++ voidNames

/-- The name in a tag. -/
def Token.name? : Token → Option String
  | char _ => none
  | startTag name _ _ => some name
  | endTag name => some name

/-- The open elements after further tokens, the innermost first.  Only a void
element may close itself. -/
def nest : (stack : List String) → List Token → Option (List String)
  | stack, [] => some stack
  | stack, .char _ :: ts => nest stack ts
  | stack, .startTag name _ selfClosing :: ts =>
      if name ∈ voidNames then nest stack ts
      else if selfClosing then none
      else nest (name :: stack) ts
  | top :: stack, .endTag name :: ts => if top = name then nest stack ts else none
  | [], .endTag _ :: _ => none

/-- The stack is followed through one part and then through the other. -/
theorem nest_append : (stack : List String) → (ts us : List Token) →
    nest stack (ts ++ us) = (nest stack ts).bind (nest · us)
  | stack, [], us => rfl
  | stack, .char _ :: ts, us => by simpa [nest] using nest_append stack ts us
  | stack, .startTag name _ selfClosing :: ts, us => by
      rw [List.cons_append, nest, nest]
      split
      · exact nest_append stack ts us
      · split
        · rfl
        · exact nest_append (name :: stack) ts us
  | top :: stack, .endTag name :: ts, us => by
      rw [List.cons_append, nest, nest]
      split
      · exact nest_append stack ts us
      · rfl
  | [], .endTag _ :: _, _ => rfl

/-- Text leaves the stack as it is. -/
theorem nest_chars (stack : List String) : (s : List Char) → nest stack (s.map .char) = some stack
  | [] => rfl
  | _ :: s => nest_chars stack s

/-! ## Balanced texts -/

/-- A text that can be read, with the tags of an article only, and that leaves
open what was open. -/
def Balanced (s : String) : Prop :=
  ∃ ts, Reads .text s.toList ts .text ∧ (∀ t ∈ ts, ∀ name ∈ t.name?, name ∈ tagNames) ∧
    ∀ stack, nest stack ts = some stack

/-- A text that can be read to its end, with the tags of an article only, and
whose every start tag is closed by its own end tag. -/
def WellNested (s : String) : Prop :=
  ∃ ts, tokenize s = some ts ∧ (∀ t ∈ ts, ∀ name ∈ t.name?, name ∈ tagNames) ∧
    nest [] ts = some []

namespace Balanced

/-- A balanced text is well-nested when it is read on its own. -/
theorem wellNested {s : String} (h : Balanced s) : WellNested s := by
  obtain ⟨ts, hreads, hnames, hnest⟩ := h
  exact ⟨ts, hreads.tokenize_eq, hnames, hnest []⟩

theorem empty : Balanced "" :=
  ⟨[], Reads.nil _, by simp, fun _ => rfl⟩

theorem append {s t : String} (hs : Balanced s) (ht : Balanced t) : Balanced (s ++ t) := by
  obtain ⟨ts, hreads, hnames, hnest⟩ := hs
  obtain ⟨us, hreads', hnames', hnest'⟩ := ht
  refine ⟨ts ++ us, ?_, ?_, fun stack => ?_⟩
  · rw [String.toList_append]
    exact hreads.append hreads'
  · intro t ht
    obtain ht | ht := List.mem_append.mp ht
    · exact hnames t ht
    · exact hnames' t ht
  · rw [nest_append, hnest, Option.bind_some, hnest']

/-- Text without `<` is balanced. -/
theorem of_notMem {s : String} (h : '<' ∉ s.toList) : Balanced s := by
  refine ⟨_, Reads.text_of_notMem _ h, ?_, fun stack => nest_chars stack _⟩
  simp [Token.name?]

/-- Escaped text holds no `<`. -/
theorem escapeText (s : String) : Balanced (escapeText s) :=
  of_notMem (by simpa [Broadsheet.escapeText] using lt_notMem_escape s.toList)

end Balanced

/-! ## Balanced markup -/

/-- Markup that is written as a balanced text. -/
def Markup.IsBalanced (styles : Styles) (m : Markup) : Prop := Balanced (m.write styles)

/-- Whether a tag can stand in an article around content. -/
def isOuterTag (name : String) (attrs : List Attr) : Bool :=
  isName name && tagNames.contains name && !voidNames.contains name && Attr.allReadable attrs

/-- Whether a tag can stand in an article without content. -/
def isVoidTag (name : String) (attrs : List Attr) : Bool :=
  isName name && tagNames.contains name && voidNames.contains name && Attr.allReadable attrs

namespace Markup.IsBalanced

variable {styles : Styles} {m n : Markup}

theorem nil : IsBalanced styles [] := Balanced.empty

theorem append (hm : IsBalanced styles m) (hn : IsBalanced styles n) :
    IsBalanced styles (m ++ n) := by
  rw [IsBalanced, write_append]
  exact Balanced.append hm hn

theorem cons {p : Piece} (hp : IsBalanced styles [p]) (hm : IsBalanced styles m) :
    IsBalanced styles (p :: m) :=
  append hp hm

theorem text (s : String) : IsBalanced styles [.text s] := by
  simpa [IsBalanced, Piece.write] using Balanced.escapeText s

/-- HTML that is balanced may be written as it is. -/
theorem raw {s : String} (h : Balanced s) : IsBalanced styles [.raw s] := by
  simpa [IsBalanced, Piece.write] using h

/-- An element around balanced content. -/
theorem element (name : String) (attrs : List Attr) (htag : isOuterTag name attrs)
    (hm : IsBalanced styles m) :
    IsBalanced styles ([.startTag name attrs] ++ m ++ [.endTag name]) := by
  simp only [isOuterTag, Bool.and_eq_true, Bool.not_eq_true', List.contains_eq_mem,
    decide_eq_true_eq, decide_eq_false_iff_not] at htag
  obtain ⟨⟨⟨hname, hknown⟩, hvoid⟩, hattrs⟩ := htag
  obtain ⟨ts, hreads, hnames, hnest⟩ := hm
  have hread := (Reads.startTag styles hname hattrs).append (hreads.append (Reads.endTag hname))
  refine ⟨_, by simpa [Piece.write] using hread, ?_, fun stack => ?_⟩
  · intro t ht
    simp only [List.mem_cons, List.mem_append, List.not_mem_nil, or_false] at ht
    obtain rfl | ht | rfl := ht
    · simpa [Token.name?] using hknown
    · exact hnames t ht
    · simpa [Token.name?] using hknown
  · simp [nest, hvoid, nest_append, hnest]

/-- An element that carries the style of one kind. -/
theorem styled (name : String) (kind : ElementKind) (htag : isOuterTag name [.themed kind ""])
    (hm : IsBalanced styles m) :
    IsBalanced styles ([.styled name kind] ++ m ++ [.endTag name]) :=
  element name [.themed kind ""] htag hm

/-- A void element. -/
theorem void (name : String) (attrs : List Attr) (htag : isVoidTag name attrs)
    (ending : VoidEnd) : IsBalanced styles [.voidTag name attrs ending] := by
  simp only [isVoidTag, Bool.and_eq_true, List.contains_eq_mem, decide_eq_true_eq] at htag
  obtain ⟨⟨⟨hname, hknown⟩, hvoid⟩, hattrs⟩ := htag
  obtain ⟨selfClosing, hreads⟩ := Reads.voidTag styles hname hattrs ending
  refine ⟨_, by simpa using hreads, ?_, fun stack => ?_⟩
  · simpa [Token.name?] using hknown
  · simp [nest, hvoid]

end Markup.IsBalanced

end Broadsheet
