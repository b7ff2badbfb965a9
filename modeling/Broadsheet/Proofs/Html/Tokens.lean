import Broadsheet.Html.Markup

/-!
# Broadsheet.Proofs.Html.Tokens

Reading written markup back.  A browser reads markup character by character,
and what a character means depends on where it stands: in text, in a tag, or
between the quotes of an attribute value.  `Reading` holds where the reader
stands, `Reading.step` reads one character, and `tokenize` reads a whole text.

The reader is stricter than a browser, so that nothing depends on how a
browser repairs markup.  It stops at

* a `<` that begins no tag,
* a name with other characters than letters, digits and dashes,
* an attribute value without quotes,
* an attribute that stands twice in a tag,
* a text that ends inside a tag.

`Reads r s ts r'` says that the reader gets from `r` to `r'` over the text `s`
and finds `ts` on the way.  These judgments compose (`Reads.append`), and the
section on pieces gives one for each kind of piece of markup.
-/

namespace Broadsheet

/-! ## The reader -/

/-- What markup is made of to a reader.  The value of an attribute is what
stands between its quotes. -/
inductive Token
  | char (c : Char)
  | startTag (name : String) (attrs : List (String × Option String)) (selfClosing : Bool)
  | endTag (name : String)
  deriving DecidableEq

/-- Whether a name can start with a character. -/
def isNameStart (c : Char) : Bool := c.isAlpha

/-- Whether a name can go on with a character. -/
def isNameChar (c : Char) : Bool := c.isAlphanum || c == '-'

/-- A start tag as far as it is read. -/
structure TagSoFar where
  name : String
  attrs : List (String × Option String)
  deriving DecidableEq

namespace TagSoFar

/-- The tag with one more attribute.  No attribute stands twice. -/
def add? (t : TagSoFar) (name : String) (value : Option String) : Option TagSoFar :=
  if name ∈ t.attrs.map (·.1) then none else some { t with attrs := t.attrs ++ [(name, value)] }

/-- The token of the tag when it ends. -/
def token (t : TagSoFar) (selfClosing : Bool) : Token := .startTag t.name t.attrs selfClosing

end TagSoFar

/-- Where a reader stands. -/
inductive Reading
  | text
  /-- After `<`. -/
  | opened
  | tagName (name : List Char)
  /-- After `</`. -/
  | closing
  | endName (name : List Char)
  /-- After a blank in a tag. -/
  | blank (tag : TagSoFar)
  | attrName (tag : TagSoFar) (name : List Char)
  /-- After `=` in a tag. -/
  | equals (tag : TagSoFar) (name : List Char)
  | quoted (tag : TagSoFar) (name : List Char) (quote : Char) (value : List Char)
  /-- After the second quote of an attribute value. -/
  | unquoted (tag : TagSoFar)
  /-- After `/` in a start tag. -/
  | slash (tag : TagSoFar)
  deriving DecidableEq

namespace Reading

/-- Reads the character after a complete part of a start tag. -/
def afterPart (t : TagSoFar) (c : Char) : Option (List Token × Reading) :=
  if c = ' ' then some ([], blank t)
  else if c = '/' then some ([], slash t)
  else if c = '>' then some ([t.token false], text)
  else none

/-- Reads one character. -/
def step : Reading → Char → Option (List Token × Reading)
  | text, c => if c = '<' then some ([], opened) else some ([.char c], text)
  | opened, c =>
      if c = '/' then some ([], closing)
      else if isNameStart c then some ([], tagName [c])
      else none
  | tagName name, c =>
      if isNameChar c then some ([], tagName (name ++ [c]))
      else afterPart ⟨String.ofList name, []⟩ c
  | closing, c => if isNameStart c then some ([], endName [c]) else none
  | endName name, c =>
      if isNameChar c then some ([], endName (name ++ [c]))
      else if c = '>' then some ([.endTag (String.ofList name)], text)
      else none
  | blank t, c => if isNameStart c then some ([], attrName t [c]) else afterPart t c
  | attrName t name, c =>
      if isNameChar c then some ([], attrName t (name ++ [c]))
      else if c = '=' then some ([], equals t name)
      else (t.add? (String.ofList name) none).bind (afterPart · c)
  | equals t name, c => if c = '"' ∨ c = '\'' then some ([], quoted t name c []) else none
  | quoted t name q value, c =>
      if c = q then
        (t.add? (String.ofList name) (some (String.ofList value))).map fun t => ([], unquoted t)
      else some ([], quoted t name q (value ++ [c]))
  | unquoted t, c => afterPart t c
  | slash t, c => if c = '>' then some ([t.token true], text) else none

/-- Reads a text. -/
def scan : Reading → List Char → Option (List Token × Reading)
  | r, [] => some ([], r)
  | r, c :: cs => do
      let (ts, r) ← r.step c
      let (us, r) ← scan r cs
      return (ts ++ us, r)

end Reading

/-- The tokens of a text that can be read to its end. -/
def tokenize (s : String) : Option (List Token) :=
  match Reading.text.scan s.toList with
  | some (ts, .text) => some ts
  | _ => none

/-! ## Judgments -/

/-- The reader gets from `r` to `r'` over a text and finds `ts`. -/
def Reads (r : Reading) (s : List Char) (ts : List Token) (r' : Reading) : Prop :=
  r.scan s = some (ts, r')

namespace Reads

open Reading

variable {r r' r'' : Reading} {s : List Char} {ts us : List Token} {c : Char}

theorem nil (r : Reading) : Reads r [] [] r := rfl

/-- One character, and then the rest. -/
theorem cons (hstep : r.step c = some (ts, r')) (hrest : Reads r' s us r'') :
    Reads r (c :: s) (ts ++ us) r'' := by
  rw [Reads] at hrest
  simp [Reads, scan, hstep, hrest]

/-- A character without a token. -/
theorem quiet {q : Reading} (hstep : r.step c = some ([], q)) (hrest : Reads q s us r') :
    Reads r (c :: s) us r' :=
  cons hstep hrest

theorem single (hstep : r.step c = some (ts, r')) : Reads r [c] ts r' := by
  have h := cons hstep (nil r')
  rwa [List.append_nil] at h

/-- Texts are read one after another. -/
theorem append {t : List Char} (hs : Reads r s ts r') (ht : Reads r' t us r'') :
    Reads r (s ++ t) (ts ++ us) r'' := by
  induction s generalizing r ts with
  | nil =>
      obtain ⟨rfl, rfl⟩ : [] = ts ∧ r = r' := by simpa [Reads, scan] using hs
      exact ht
  | cons c cs ih =>
      simp only [Reads, scan, Option.bind_eq_bind, Option.bind_eq_some_iff, Prod.exists,
        Option.pure_def, Option.some.injEq, Prod.mk.injEq] at hs
      obtain ⟨ts₁, r₁, hstep, ts₂, r₂, hrest, rfl, rfl⟩ := hs
      rw [List.cons_append, List.append_assoc]
      exact cons hstep (ih hrest)

/-- Characters that the reader only collects. -/
theorem collect {f : List Char → Reading} {p : Char → Bool}
    (hstep : ∀ collected c, p c → (f collected).step c = some ([], f (collected ++ [c]))) :
    (cs : List Char) → (collected : List Char) → cs.all p →
      Reads (f collected) cs [] (f (collected ++ cs))
  | [], collected, _ => by
      rw [List.append_nil]
      exact nil _
  | c :: cs, collected, h => by
      obtain ⟨hc, hcs⟩ : p c ∧ cs.all p := by simpa using h
      have ih := collect hstep cs (collected ++ [c]) hcs
      rw [List.append_assoc] at ih
      exact quiet (hstep collected c hc) ih

theorem tokenize_eq {s : String} (h : Reads .text s.toList ts .text) : tokenize s = some ts := by
  rw [Reads] at h
  simp [tokenize, h]

/-- Text without `<` is text to the reader. -/
theorem text_of_notMem : (s : List Char) → '<' ∉ s → Reads .text s (s.map .char) .text
  | [], _ => nil _
  | c :: cs, h => by
      obtain ⟨hc, hcs⟩ : '<' ≠ c ∧ '<' ∉ cs := by simpa using h
      have hstep : Reading.text.step c = some ([.char c], .text) := by simp [step, Ne.symm hc]
      exact cons hstep (text_of_notMem cs hcs)

end Reads

/-! ## Names and attributes -/

/-- Whether a text is a name. -/
def isName (s : String) : Bool :=
  match s.toList with
  | c :: cs => isNameStart c && cs.all isNameChar
  | [] => false

theorem toList_of_isName {s : String} (h : isName s) :
    ∃ c cs, s.toList = c :: cs ∧ isNameStart c ∧ cs.all isNameChar := by
  unfold isName at h
  split at h
  · rename_i c cs hs
    exact ⟨c, cs, hs, by simpa using h⟩
  · simp at h

namespace Attr

/-- The name that an attribute is written with. -/
def name : Attr → String
  | fixed name _ | escaped name _ | flag name => name
  | themed _ _ => "style"

/-- Whether an attribute can be read back: its name is one, and a value that is
written as it stands does not end early. -/
def readable : Attr → Bool
  | fixed name value => isName name && value.toList.all (· != '"')
  | escaped name _ | flag name => isName name
  | themed _ _ => true

/-- Whether all attributes can be read back, and none stands twice. -/
def allReadable (attrs : List Attr) : Bool :=
  attrs.all readable && decide (attrs.map name).Nodup

/-- What is read of an attribute. -/
def read (styles : Styles) : Attr → List (String × Option String)
  | fixed name value => [(name, some value)]
  | escaped name value => [(name, some (escapeText value))]
  | flag name => [(name, none)]
  | themed kind addition =>
      ((styles.declarations? kind).map fun d =>
        ("style", some (Styles.attributeValue d addition))).toList

/-- An attribute is read under its name, if at all. -/
theorem map_fst_read (styles : Styles) (a : Attr) :
    ((a.read styles).map (·.1)).Sublist [a.name] := by
  cases a with
  | themed kind addition => cases h : styles.declarations? kind <;> simp [read, name, h]
  | _ => simp [read, name]

/-- The first of some new attributes is new, and the others still are after it. -/
theorem nodup_after_read (styles : Styles) {t : TagSoFar} {a : Attr} {attrs : List Attr}
    (h : (t.attrs.map (·.1) ++ (a :: attrs).map name).Nodup) :
    a.name ∉ t.attrs.map (·.1) ∧
      ((t.attrs ++ a.read styles).map (·.1) ++ attrs.map name).Nodup := by
  constructor
  · rw [List.map_cons, List.nodup_append] at h
    exact fun hmem => h.2.2 _ hmem _ List.mem_cons_self rfl
  · refine h.sublist ?_
    rw [List.map_append, List.append_assoc, List.map_cons]
    exact (List.Sublist.refl _).append ((a.map_fst_read styles).append (List.Sublist.refl _))

end Attr

/-- No character of an escaped text begins a tag. -/
theorem lt_notMem_escape (s : List Char) : '<' ∉ escape s := by
  simp only [escape, List.mem_flatMap, not_exists, not_and]
  intro c _
  unfold escapeChar
  split <;> simp_all [Ne.symm]

/-- No character of an escaped text ends an attribute value. -/
theorem quote_notMem_escape (s : List Char) : '"' ∉ escape s := by
  simp only [escape, List.mem_flatMap, not_exists, not_and]
  intro c _
  unfold escapeChar
  split <;> simp_all [Ne.symm]

/-- Nor does one of a style attribute. -/
theorem quote_notMem_attributeValue (declarations addition : String) :
    '"' ∉ (Styles.attributeValue declarations addition).toList := by
  have hescape (s : List Char) : '"' ∉ Styles.escapeAttribute s := by
    simp only [Styles.escapeAttribute, List.mem_flatMap, not_exists, not_and]
    intro c _
    split <;> simp_all [Ne.symm]
  rw [Styles.attributeValue, String.toList_append, List.mem_append, not_or]
  simp only [String.toList_ofList]
  exact ⟨hescape _, hescape _⟩

/-- What comes next is read as what comes after a complete part of a tag. -/
def Reading.HasRead (r : Reading) (t : TagSoFar) : Prop :=
  ∀ c, c = ' ' ∨ c = '/' ∨ c = '>' → r.step c = afterPart t c

namespace Reads

open Reading

variable {r : Reading} {t : TagSoFar} {name : String}

theorem hasRead_unquoted (t : TagSoFar) : (unquoted t).HasRead t := fun _ _ => rfl

/-- The name of a tag is complete when something else follows. -/
theorem hasRead_tagName (name : String) : (tagName name.toList).HasRead ⟨name, []⟩ := by
  rintro c (rfl | rfl | rfl) <;> simp [step, isNameChar]

/-- An attribute without a value is complete when something else follows. -/
theorem hasRead_attrName (hnew : name ∉ t.attrs.map (·.1)) :
    (attrName t name.toList).HasRead { t with attrs := t.attrs ++ [(name, none)] } := by
  rintro c (rfl | rfl | rfl) <;> simp [step, isNameChar, TagSoFar.add?, hnew]

/-- The beginning of a start tag. -/
theorem tagName (hname : isName name) :
    Reads .text ('<' :: name.toList) [] (.tagName name.toList) := by
  obtain ⟨c, cs, hs, hc, hcs⟩ := toList_of_isName hname
  have hslash : c ≠ '/' := by rintro rfl; simp [isNameStart] at hc
  rw [hs]
  refine quiet (q := opened) (by simp [step]) ?_
  refine quiet (q := .tagName [c]) (by simp [step, hslash, hc]) ?_
  exact collect (f := .tagName) (p := isNameChar) (fun _ _ h => by simp [step, h]) cs [c] hcs

/-- An end tag. -/
theorem endTag (hname : isName name) :
    Reads .text ("</" ++ name ++ ">").toList [.endTag name] .text := by
  obtain ⟨c, cs, hs, hc, hcs⟩ := toList_of_isName hname
  have hrest : Reads (.endName [c]) cs [] (.endName (c :: cs)) :=
    collect (f := .endName) (p := isNameChar) (fun _ _ h => by simp [step, h]) cs [c] hcs
  have hend : Reads (.endName (c :: cs)) ['>'] [.endTag name] .text := by
    apply single
    simp [step, isNameChar, ← hs]
  have hall : ("</" ++ name ++ ">").toList = '<' :: '/' :: c :: (cs ++ ['>']) := by simp [hs]
  rw [hall]
  refine quiet (q := opened) (by simp [step]) ?_
  refine quiet (q := .closing) (by simp [step]) ?_
  refine quiet (q := .endName [c]) (by simp [step, hc]) ?_
  exact hrest.append hend

/-- The name of an attribute. -/
theorem attrName (hr : r.HasRead t) (hname : isName name) :
    Reads r (' ' :: name.toList) [] (.attrName t name.toList) := by
  obtain ⟨c, cs, hs, hc, hcs⟩ := toList_of_isName hname
  rw [hs]
  refine quiet (q := .blank t) (hr ' ' (.inl rfl)) ?_
  refine quiet (q := .attrName t [c]) (by simp [step, hc]) ?_
  exact collect (f := .attrName t) (p := isNameChar) (fun _ _ h => by simp [step, h]) cs [c] hcs

/-- An attribute with its value between double quotes. -/
theorem attr (hr : r.HasRead t) (hname : isName name) (hnew : name ∉ t.attrs.map (·.1))
    {value : String} (hvalue : '"' ∉ value.toList) :
    Reads r (" " ++ name ++ "=\"" ++ value ++ "\"").toList []
      (.unquoted { t with attrs := t.attrs ++ [(name, some value)] }) := by
  have hequals : Reads (.attrName t name.toList) ['=', '"'] []
      (.quoted t name.toList '"' []) := by
    refine quiet (q := .equals t name.toList) (by simp [step, isNameChar]) ?_
    exact single (by simp [step])
  have hchars : Reads (.quoted t name.toList '"' []) value.toList []
      (.quoted t name.toList '"' value.toList) := by
    refine collect (f := .quoted t name.toList '"') (p := (· != '"'))
      (fun _ _ h => ?_) value.toList [] ?_
    · simp [step, (by simpa using h : ¬ _ = '"')]
    · simpa [List.all_eq_true] using fun c hc => ne_of_mem_of_not_mem hc hvalue
  have hend : Reads (.quoted t name.toList '"' value.toList) ['"'] []
      (.unquoted { t with attrs := t.attrs ++ [(name, some value)] }) :=
    single (by simp [step, TagSoFar.add?, hnew])
  have hall : (" " ++ name ++ "=\"" ++ value ++ "\"").toList =
      ' ' :: name.toList ++ (['=', '"'] ++ (value.toList ++ ['"'])) := by simp
  rw [hall]
  exact (attrName hr hname).append (hequals.append (hchars.append hend))

/-! ## Whole tags -/

variable (styles : Styles)

/-- An attribute of a markup's tag. -/
theorem attrWrite (a : Attr) (ha : a.readable) (hr : r.HasRead t)
    (hnew : a.name ∉ t.attrs.map (·.1)) :
    ∃ r', Reads r (a.write styles).toList [] r' ∧
      r'.HasRead { t with attrs := t.attrs ++ a.read styles } := by
  cases a with
  | fixed name value =>
      obtain ⟨hname, hvalue⟩ : isName name ∧ value.toList.all (· != '"') := by
        simpa [Attr.readable] using ha
      refine ⟨_, attr hr hname hnew ?_, hasRead_unquoted _⟩
      exact fun h => by simpa using List.all_eq_true.mp hvalue _ h
  | escaped name value =>
      refine ⟨_, attr hr ha hnew ?_, hasRead_unquoted _⟩
      simpa [escapeText] using quote_notMem_escape value.toList
  | flag name =>
      refine ⟨_, ?_, hasRead_attrName hnew⟩
      simpa [Attr.write] using attrName hr ha
  | themed kind addition =>
      cases hd : styles.declarations? kind with
      | none => exact ⟨r, by simpa [Attr.write, Styles.styleAttributeWith, hd] using nil r,
          by simpa [Attr.read, hd] using hr⟩
      | some d =>
          have hread := attr hr (by decide : isName "style") hnew
            (quote_notMem_attributeValue d addition)
          refine ⟨_, by simpa [Attr.write, Styles.styleAttributeWith, hd] using hread, ?_⟩
          simpa [Attr.read, hd] using hasRead_unquoted _

/-- The attributes of a markup's tag. -/
theorem attrsWrite : (attrs : List Attr) → {r : Reading} → {t : TagSoFar} → r.HasRead t →
    attrs.all Attr.readable → (t.attrs.map (·.1) ++ attrs.map Attr.name).Nodup →
    ∃ r', Reads r (Attr.writeAll styles attrs).toList [] r' ∧
      r'.HasRead { t with attrs := t.attrs ++ attrs.flatMap (Attr.read styles) }
  | [], r, t, hr, _, _ => ⟨r, nil r, by simpa using hr⟩
  | a :: attrs, r, t, hr, hall, hnodup => by
      obtain ⟨ha, hattrs⟩ : a.readable ∧ attrs.all Attr.readable := by simpa using hall
      obtain ⟨hnew, hrest⟩ := Attr.nodup_after_read styles hnodup
      obtain ⟨r₁, hread₁, hr₁⟩ := attrWrite styles a ha hr hnew
      obtain ⟨r₂, hread₂, hr₂⟩ := attrsWrite attrs hr₁ hattrs hrest
      refine ⟨r₂, by simpa using hread₁.append hread₂, ?_⟩
      simpa [List.append_assoc] using hr₂

/-- A start tag but for its end. -/
theorem tagWrite {attrs : List Attr} (hname : isName name) (hattrs : Attr.allReadable attrs) :
    ∃ r, Reads .text ("<" ++ name ++ Attr.writeAll styles attrs).toList [] r ∧
      r.HasRead ⟨name, attrs.flatMap (Attr.read styles)⟩ := by
  obtain ⟨hall, hnodup⟩ : attrs.all Attr.readable ∧ (attrs.map Attr.name).Nodup := by
    simpa [Attr.allReadable] using hattrs
  obtain ⟨r, hread, hr⟩ := attrsWrite styles attrs (hasRead_tagName name) hall hnodup
  exact ⟨r, by simpa using (tagName hname).append hread, hr⟩

theorem startTag {attrs : List Attr} (hname : isName name) (hattrs : Attr.allReadable attrs) :
    Reads .text ((Piece.startTag name attrs).write styles).toList
      [.startTag name (attrs.flatMap (Attr.read styles)) false] .text := by
  obtain ⟨r, hread, hr⟩ := tagWrite styles hname hattrs
  rw [Piece.write, String.toList_append]
  exact hread.append (single (hr '>' (.inr (.inr rfl))))

/-- The end of a tag without content. -/
theorem voidEnd (hr : r.HasRead t) (ending : VoidEnd) :
    ∃ selfClosing, Reads r ending.write.toList [t.token selfClosing] .text := by
  cases ending with
  | plain => exact ⟨false, single (hr '>' (.inr (.inr rfl)))⟩
  | slash => exact ⟨true, quiet (hr '/' (.inr (.inl rfl))) (single (c := '>') rfl)⟩
  | spacedSlash =>
      have hend (t : TagSoFar) : Reads (.blank t) "/>".toList [t.token true] .text :=
        quiet (q := .slash t) rfl (single rfl)
      exact ⟨true, quiet (hr ' ' (.inl rfl)) (hend _)⟩

/-- A tag without content, however it ends. -/
theorem voidTag {attrs : List Attr} (hname : isName name) (hattrs : Attr.allReadable attrs)
    (ending : VoidEnd) :
    ∃ selfClosing, Reads .text ((Piece.voidTag name attrs ending).write styles).toList
      [.startTag name (attrs.flatMap (Attr.read styles)) selfClosing] .text := by
  obtain ⟨r, hread, hr⟩ := tagWrite styles hname hattrs
  obtain ⟨selfClosing, hend⟩ := voidEnd hr ending
  rw [Piece.write, String.toList_append]
  exact ⟨selfClosing, hread.append hend⟩

end Reads

end Broadsheet
