import Broadsheet.Style.Theme

/-!
# Broadsheet.Style.Builtin

The two built-in themes as data.  `grace` is a layer over `classic`, so it
lists only what differs.
-/

namespace Broadsheet

namespace Theme

/-- A theme from lists of declarations. -/
def ofLists (base : List (String × String))
    (block inline : List (ElementKind × List (String × String))) : Theme where
  base := Properties.ofPairs base
  block := .ofEntries (block.map fun e => (e.1, Properties.ofPairs e.2))
  inline := .ofEntries (inline.map fun e => (e.1, Properties.ofPairs e.2))

/-- The default theme. -/
def classic : Theme :=
  ofLists
    [("--md-primary-color", "#0F4C81"), ("text-align", "left"), ("line-height", "1.75")]
    [(.container, []),
     (.heading .one,
      [("display", "table"), ("padding", "0 1em"),
       ("border-bottom", "2px solid var(--md-primary-color)"), ("margin", "2em auto 1em"),
       ("color", "#3f3f3f"), ("font-size", "1.2em"), ("font-weight", "bold"),
       ("text-align", "center")]),
     (.heading .two,
      [("display", "table"), ("padding", "0 0.2em"), ("margin", "4em auto 2em"), ("color", "#fff"),
       ("background", "var(--md-primary-color)"), ("font-size", "1.2em"), ("font-weight", "bold"),
       ("text-align", "center")]),
     (.heading .three,
      [("padding-left", "8px"), ("border-left", "3px solid var(--md-primary-color)"),
       ("margin", "2em 8px 0.75em 0"), ("color", "#3f3f3f"), ("font-size", "1.1em"),
       ("font-weight", "bold"), ("line-height", "1.2")]),
     (.heading .four,
      [("margin", "2em 8px 0.5em"), ("color", "var(--md-primary-color)"), ("font-size", "1em"),
       ("font-weight", "bold")]),
     (.heading .five,
      [("margin", "1.5em 8px 0.5em"), ("color", "var(--md-primary-color)"), ("font-size", "1em"),
       ("font-weight", "bold")]),
     (.heading .six,
      [("margin", "1.5em 8px 0.5em"), ("font-size", "1em"), ("color", "var(--md-primary-color)")]),
     (.paragraph,
      [("margin", "1.5em 8px"), ("letter-spacing", "0.1em"), ("color", "#3f3f3f")]),
     (.quote none,
      [("font-style", "normal"), ("padding", "1em"),
       ("border-left", "4px solid var(--md-primary-color)"), ("border-radius", "6px"),
       ("color", "rgba(0,0,0,0.5)"), ("background", "#f7f7f7"), ("margin-bottom", "1em")]),
     (.quoteParagraph none,
      [("display", "block"), ("font-size", "1em"), ("letter-spacing", "0.1em"),
       ("color", "#3f3f3f"), ("margin", "0")]),
     (.quote (some .note), []),
     (.quote (some .tip), []),
     (.quote (some .important), []),
     (.quote (some .warning), []),
     (.quote (some .caution), []),
     (.quoteTitle none,
      [("display", "flex"), ("align-items", "center"), ("gap", "0.5em"),
       ("margin-bottom", "0.5em")]),
     (.quoteTitle (some .note),
      [("color", "#478be6")]),
     (.quoteTitle (some .tip),
      [("color", "#57ab5a")]),
     (.quoteTitle (some .important),
      [("color", "#986ee2")]),
     (.quoteTitle (some .warning),
      [("color", "#c69026")]),
     (.quoteTitle (some .caution),
      [("color", "#e5534b")]),
     (.quoteParagraph (some .note), []),
     (.quoteParagraph (some .tip), []),
     (.quoteParagraph (some .important), []),
     (.quoteParagraph (some .warning), []),
     (.quoteParagraph (some .caution), []),
     (.codeBlock,
      [("font-size", "14px"), ("overflow-x", "auto"), ("border-radius", "8px"), ("padding", "1em"),
       ("line-height", "1.5"), ("margin", "10px 8px")]),
     (.code,
      [("margin", "0"), ("white-space", "nowrap"),
       ("font-family", "Menlo, Operator Mono, Consolas, Monaco, monospace")]),
     (.image,
      [("display", "block"), ("max-width", "100%"), ("margin", "0.1em auto 0.5em"),
       ("border-radius", "4px")]),
     (.orderedList,
      [("padding-left", "1em"), ("margin-left", "0"), ("color", "#3f3f3f")]),
     (.bulletList,
      [("list-style", "circle"), ("padding-left", "1em"), ("margin-left", "0"),
       ("color", "#3f3f3f")]),
     (.footnotes,
      [("margin", "0.5em 8px"), ("font-size", "80%"), ("color", "#3f3f3f")]),
     (.figure,
      [("margin", "1.5em 8px"), ("color", "#3f3f3f")]),
     (.rule,
      [("border-style", "solid"), ("border-width", "1px 0 0"), ("border-color", "rgba(0,0,0,0.1)"),
       ("-webkit-transform-origin", "0 0"), ("-webkit-transform", "scale(1, 0.5)"),
       ("transform-origin", "0 0"), ("transform", "scale(1, 0.5)"), ("height", "0.4em"),
       ("margin", "1.5em 0")])]
    [(.listItem,
      [("text-indent", "-1em"), ("display", "block"), ("margin", "0.2em 8px"),
       ("color", "#3f3f3f")]),
     (.codeSpan,
      [("font-size", "90%"), ("color", "#d14"), ("background", "rgba(27,31,35,.05)"),
       ("padding", "3px 5px"), ("border-radius", "4px")]),
     (.emphasis,
      [("font-style", "italic"), ("font-size", "inherit")]),
     (.link,
      [("color", "#576b95")]),
     (.platformLink,
      [("color", "#576b95"), ("text-decoration", "none")]),
     (.strong,
      [("color", "var(--md-primary-color)"), ("font-weight", "bold"), ("font-size", "inherit")]),
     (.table,
      [("color", "#3f3f3f")]),
     (.tableHead,
      [("background", "rgba(0, 0, 0, 0.05)"), ("font-weight", "bold"), ("color", "#3f3f3f")]),
     (.tableCell,
      [("border", "1px solid #dfdfdf"), ("padding", "0.25em 0.5em"), ("color", "#3f3f3f"),
       ("word-break", "keep-all")]),
     (.footnote,
      [("font-size", "12px"), ("color", "#3f3f3f")]),
     (.figureCaption,
      [("text-align", "center"), ("color", "#888"), ("font-size", "0.8em")])]

/-- What the second theme lays over the first. -/
def graceLayer : Theme :=
  ofLists []
    [(.heading .one,
      [("padding", "0.5em 1em"), ("border-bottom", "2px solid var(--md-primary-color)"),
       ("font-size", "1.4em"), ("text-shadow", "2px 2px 4px rgba(0,0,0,0.1)")]),
     (.heading .two,
      [("padding", "0.3em 1em"), ("border-radius", "8px"), ("font-size", "1.3em"),
       ("box-shadow", "0 4px 6px rgba(0,0,0,0.1)")]),
     (.heading .three,
      [("padding-left", "12px"), ("font-size", "1.2em"),
       ("border-left", "4px solid var(--md-primary-color)"),
       ("border-bottom", "1px dashed var(--md-primary-color)")]),
     (.heading .four,
      [("font-size", "1.1em")]),
     (.quote none,
      [("font-style", "italic"), ("padding", "1em 1em 1em 2em"),
       ("border-left", "4px solid var(--md-primary-color)"), ("border-radius", "6px"),
       ("color", "rgba(0,0,0,0.6)"), ("box-shadow", "0 4px 6px rgba(0,0,0,0.05)"),
       ("margin-bottom", "1em")]),
     (.codeBlock,
      [("box-shadow", "inset 0 0 10px rgba(0,0,0,0.05)")]),
     (.code,
      [("white-space", "pre-wrap"),
       ("font-family", "'Fira Code', Menlo, Operator Mono, Consolas, Monaco, monospace")]),
     (.image,
      [("border-radius", "8px"), ("box-shadow", "0 4px 8px rgba(0,0,0,0.1)")]),
     (.orderedList,
      [("padding-left", "1.5em")]),
     (.bulletList,
      [("list-style", "none"), ("padding-left", "1.5em")]),
     (.footnotes,
      [("color", "rgba(0,0,0,0.5)")]),
     (.rule,
      [("height", "1px"), ("border", "none"), ("margin", "2em 0"),
       ("background", "linear-gradient(to right, rgba(0,0,0,0), rgba(0,0,0,0.1), rgba(0,0,0,0))")])]
    [(.listItem,
      [("margin", "0.5em 8px")]),
     (.table,
      [("border-collapse", "separate"), ("border-spacing", "0"), ("border-radius", "8px"),
       ("margin", "1em 8px"), ("box-shadow", "0 4px 6px rgba(0,0,0,0.1)"), ("overflow", "hidden")]),
     (.tableHead,
      [("color", "#fff")]),
     (.tableCell,
      [("padding", "0.5em 1em")]),
     (.footnote,
      [("color", "rgba(0,0,0,0.5)")])]

/-- The second theme. -/
def grace : Theme := classic.overlay graceLayer

/-- The theme of an identifier. -/
def builtin : ThemeId → Theme
  | .default => classic
  | .grace => grace

end Theme

end Broadsheet
