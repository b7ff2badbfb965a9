/-!
# Broadsheet.Text.Blank

White space is what Unicode's `White_Space` property names: 25 characters,
most of them outside ASCII.  `trim` drops white space from both ends of a
text and `Blank` says that a text holds nothing else.
-/

namespace Broadsheet

/-- The characters with Unicode's `White_Space` property. -/
def isBlank (c : Char) : Bool :=
  let n := c.toNat
  (9 ≤ n && n ≤ 13) || n == 0x20 || n == 0x85 || n == 0xA0 || n == 0x1680 ||
  (0x2000 ≤ n && n ≤ 0x200A) || n == 0x2028 || n == 0x2029 || n == 0x202F ||
  n == 0x205F || n == 0x3000

/-! ## Trimming -/

/-- Drops the white space that a text starts with. -/
def trimStart (s : List Char) : List Char := s.dropWhile isBlank

/-- Drops the white space that a text ends with. -/
def trimEnd (s : List Char) : List Char := (s.reverse.dropWhile isBlank).reverse

/-- Drops the white space at both ends of a text. -/
def trim (s : List Char) : List Char := trimEnd (trimStart s)

/-- A text is blank when white space is all it holds; the empty text is. -/
def blank (s : List Char) : Bool := s.all isBlank

@[simp] theorem blank_nil : blank [] = true := rfl

@[simp] theorem blank_cons (c : Char) (s : List Char) :
    blank (c :: s) = (isBlank c && blank s) := rfl

@[simp] theorem blank_append (s t : List Char) : blank (s ++ t) = (blank s && blank t) := by
  simp [blank]

/-- The text without the white space at both its ends. -/
def trimText (s : String) : String := String.ofList (trim s.toList)

/-- A text of white space alone. -/
def blankText (s : String) : Bool := blank s.toList

end Broadsheet
