import Broadsheet.Document.Options
import Broadsheet.Text.Search

/-!
# Broadsheet.Config.Choices

The values that can be chosen in settings.  Most can be given by the label
that an editor shows or by a plain name; each function here gives the value
that a text stands for, if it stands for one.
-/

namespace Broadsheet

namespace Choices

/-! ## Tables -/

/-- The serif fonts. -/
def serifFonts : String :=
  "Optima-Regular, Optima, PingFangSC-light, PingFangTC-light, " ++
    "'PingFang SC', Cambria, Cochin, Georgia, Times, 'Times New Roman', serif"

/-- The fonts of one width. -/
def monospaceFonts : String := "Menlo, Monaco, 'Courier New', monospace"

/-- Fonts by label and name. -/
def fontFamilies : List (String × String × String) :=
  [("无衬线", "sans-serif", sansSerifFonts), ("衬线", "serif", serifFonts),
    ("等宽", "monospace", monospaceFonts)]

/-- The sizes of text. -/
def fontSizes : List String := ["12px", "13px", "14px", "15px", "16px"]

/-- Colors by label. -/
def colors : List (String × String) :=
  [
    ("经典蓝", "#0F4C81"), ("翡翠绿", "#009874"), ("活力橘", "#FA5151"), ("柠檬黄", "#FECE00"),
    ("薰衣紫", "#92617E"), ("天空蓝", "#55C9EA"), ("玫瑰金", "#B76E79"), ("橄榄绿", "#556B2F"),
    ("石墨黑", "#333333"), ("雾烟灰", "#A9A9A9"), ("樱花粉", "#FFB7C5")]

/-- Choices of the caption by label. -/
def legendLabels : List (String × Legend) :=
  [("title 优先", .titleAlt), ("alt 优先", .altTitle), ("只显示 title", .title),
    ("只显示 alt", .alt), ("不显示", .none)]

/-- The style sheets for highlighted code. -/
def codeThemes : List String :=
  [
    "1c-light", "a11y-dark", "a11y-light", "agate", "an-old-hope", "androidstudio",
    "arduino-light", "arta", "ascetic", "atom-one-dark", "atom-one-dark-reasonable",
    "atom-one-light", "brown-paper", "codepen-embed", "color-brewer", "dark", "default",
    "devibeans", "docco", "far", "felipec", "foundation", "github", "github-dark",
    "github-dark-dimmed", "gml", "googlecode", "gradient-dark", "gradient-light", "grayscale",
    "hybrid", "idea", "intellij-light", "ir-black", "isbl-editor-dark", "isbl-editor-light",
    "kimbie-dark", "kimbie-light", "lightfair", "lioshi", "magula", "mono-blue", "monokai",
    "monokai-sublime", "night-owl", "nnfx-dark", "nnfx-light", "nord", "obsidian",
    "panda-syntax-dark", "panda-syntax-light", "paraiso-dark", "paraiso-light", "pojoaque",
    "purebasic", "qtcreator-dark", "qtcreator-light", "rainbow", "routeros", "school-book",
    "shades-of-purple", "srcery", "stackoverflow-dark", "stackoverflow-light", "sunburst",
    "tokyo-night-dark", "tokyo-night-light", "tomorrow-night-blue", "tomorrow-night-bright", "vs",
    "vs2015", "xcode", "xt256"]

/-! ## Look-up -/

/-- Fonts by label or name. -/
def fontFamily? (value : String) : Option String :=
  (fontFamilies.find? fun f => f.1 == value || f.2.1 == value).map (·.2.2)

/-- A size of text. -/
def fontSize? (value : String) : Option String := fontSizes.find? (· == value)

/-- Whether a text is a color in hexadecimal digits: `#` and 3, 6 or 8 of them. -/
def isHexColor (value : String) : Bool :=
  match value.toList with
  | '#' :: digits =>
    (digits.length == 3 || digits.length == 6 || digits.length == 8) &&
      digits.all fun c => c.isDigit || ('a' ≤ c && c ≤ 'f') || ('A' ≤ c && c ≤ 'F')
  | _ => false

/-- A color by label, or in hexadecimal digits. -/
def color? (value : String) : Option String :=
  match colors.lookup value with
  | some hex => some hex
  | none => if isHexColor value then some value else none

/-- A choice of the caption by label or name. -/
def legend? (value : String) : Option Legend := legendLabels.lookup value <|> Legend.ofName? value

/-- The name without the ending of a style sheet's file. -/
def dropSheetEnding (value : List Char) : List Char :=
  match after? ".min.css".toList.reverse value.reverse with
  | some rest => rest.reverse
  | none => value

/-- A style sheet for code by its name. -/
def codeTheme? (value : String) : Option String :=
  let id := String.ofList (dropSheetEnding value.toList)
  codeThemes.find? (· == id)

end Choices

end Broadsheet
