import StrategyDesk.Text.Layout

/-!
# Styled text

Text in colors, and the same text plain where colors are switched off.

## Main Definitions

* `Style` — what a text looks like
* `Palette.paint`, `Palette.paintColumn` — a text in a style
-/

namespace StrategyDesk

/-- What a text looks like. -/
inductive Style where
  | bold
  | dimmed
  | red
  | green
  | yellow
  | cyan
  | boldGreen
  | boldCyan
deriving DecidableEq, Repr

/-- The codes that switch a style on. -/
def Style.codes : Style → String
  | bold => "1"
  | dimmed => "2"
  | red => "31"
  | green => "32"
  | yellow => "33"
  | cyan => "36"
  | boldGreen => "1;32"
  | boldCyan => "1;36"

/-- Whether colors are used. -/
inductive Palette where
  | plain
  | colored
deriving DecidableEq, Repr

/-- What begins a style. -/
def Style.opening (style : Style) : String := "\x1b[" ++ style.codes ++ "m"

/-- What ends all styles. -/
def styleReset : String := "\x1b[0m"

/-- A text in a style, in a column of a width. An empty text has its codes too. Where the text ends
all styles itself, the style begins again, so that it reaches to the end. -/
def Palette.paintColumn (palette : Palette) (style : Style) (width : Nat) (text : String) :
    String :=
  match palette with
  | plain => padRight width text
  | colored =>
    let text := text.replace styleReset (styleReset ++ style.opening)
    style.opening ++ padRight width text ++ styleReset

/-- A text in a style. -/
def Palette.paint (palette : Palette) (style : Style) (text : String) : String :=
  palette.paintColumn style 0 text

end StrategyDesk
