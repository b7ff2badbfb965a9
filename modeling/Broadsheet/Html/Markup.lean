import Broadsheet.Html.Escape
import Broadsheet.Style.Compile

/-!
# Broadsheet.Html.Markup

Markup before it is written out: a list of tags and texts.  An attribute that
comes from the theme is held as the kind that it styles, so that the same
markup can be written with any styles.
-/

namespace Broadsheet

/-- An attribute of a tag. -/
inductive Attr
  /-- A value that is written as it stands. -/
  | fixed (name value : String)
  /-- A value that is escaped when it is written. -/
  | escaped (name value : String)
  /-- A name without a value. -/
  | flag (name : String)
  /-- The style attribute of a kind, if the kind has one, with more text after its
  declarations. -/
  | themed (kind : ElementKind) (addition : String)

/-- How a tag without content ends. -/
inductive VoidEnd
  | plain | slash | spacedSlash

/-- The ending as it is written. -/
def VoidEnd.write : VoidEnd → String
  | plain => ">"
  | slash => "/>"
  | spacedSlash => " />"

/-- One piece of markup. -/
inductive Piece
  | startTag (name : String) (attrs : List Attr)
  | endTag (name : String)
  | voidTag (name : String) (attrs : List Attr) (ending : VoidEnd)
  /-- Text that is escaped when it is written. -/
  | text (s : String)
  /-- Markup from elsewhere, written as it stands. -/
  | raw (s : String)

/-- Markup in order. -/
abbrev Markup := List Piece

/-! ## Writing -/

/-- The attribute with the blank before it. -/
def Attr.write (styles : Styles) : Attr → String
  | fixed name value => " " ++ name ++ "=\"" ++ value ++ "\""
  | escaped name value => " " ++ name ++ "=\"" ++ escapeText value ++ "\""
  | flag name => " " ++ name
  | themed kind addition => styles.styleAttributeWith kind addition

/-- The attributes of a tag. -/
def Attr.writeAll (styles : Styles) (attrs : List Attr) : String :=
  attrs.foldl (fun acc a => acc ++ a.write styles) ""

theorem Attr.foldl_write (styles : Styles) (attrs : List Attr) (s : String) :
    attrs.foldl (fun acc a => acc ++ a.write styles) s = s ++ writeAll styles attrs := by
  induction attrs generalizing s with
  | nil => simp [writeAll]
  | cons a attrs ih => simp [writeAll, List.foldl_cons, ih (s ++ a.write styles),
      ih (a.write styles), String.append_assoc]

@[simp] theorem Attr.writeAll_nil (styles : Styles) : writeAll styles [] = "" := rfl

@[simp] theorem Attr.writeAll_cons (styles : Styles) (a : Attr) (attrs : List Attr) :
    writeAll styles (a :: attrs) = a.write styles ++ writeAll styles attrs := by
  simp only [writeAll, List.foldl_cons, String.empty_append]
  exact foldl_write styles attrs _

/-- The piece as it is written. -/
def Piece.write (styles : Styles) : Piece → String
  | startTag name attrs => "<" ++ name ++ Attr.writeAll styles attrs ++ ">"
  | endTag name => "</" ++ name ++ ">"
  | voidTag name attrs ending => "<" ++ name ++ Attr.writeAll styles attrs ++ ending.write
  | text s => escapeText s
  | raw s => s

/-- Markup as it is written. -/
def Markup.write (styles : Styles) (m : Markup) : String :=
  m.foldl (fun acc p => acc ++ p.write styles) ""

theorem Markup.foldl_write (styles : Styles) (m : Markup) (s : String) :
    m.foldl (fun acc p => acc ++ p.write styles) s = s ++ write styles m := by
  induction m generalizing s with
  | nil => simp [write]
  | cons p m ih => simp [write, List.foldl_cons, ih (s ++ p.write styles), ih (p.write styles),
      String.append_assoc]

@[simp] theorem Markup.write_nil (styles : Styles) : write styles [] = "" := rfl

@[simp] theorem Markup.write_cons (styles : Styles) (p : Piece) (m : Markup) :
    write styles (p :: m) = p.write styles ++ write styles m := by
  simp only [write, List.foldl_cons, String.empty_append]
  exact foldl_write styles m _

@[simp] theorem Markup.write_append (styles : Styles) (m n : Markup) :
    write styles (m ++ n) = write styles m ++ write styles n := by
  induction m with
  | nil => simp
  | cons p m ih => simp [ih, String.append_assoc]

/-! ## Building -/

/-- A start tag that carries the style of one kind. -/
def Piece.styled (name : String) (kind : ElementKind) : Piece := .startTag name [.themed kind ""]

end Broadsheet
