/-
Module: RpcTools.Text.Styled
Purpose: Coloured text for terminals.
Main exports: Style, Style.opening, Style.reset, Style.paint
-/
namespace RpcTools

/-- The looks that a part of a text can have. -/
inductive Style where
  | boldBlue
  | green
  | cyan
  | yellow
  | dimmed
deriving Repr, DecidableEq

namespace Style

/-- The numbers of the escape sequence for a style. -/
def parameters : Style → List Char
  | .boldBlue => ['1', ';', '3', '4']
  | .green => ['3', '2']
  | .cyan => ['3', '6']
  | .yellow => ['3', '3']
  | .dimmed => ['2']

/-- The escape sequence that starts a style. -/
def opening (style : Style) : List Char :=
  '\x1b' :: '[' :: (style.parameters ++ ['m'])

/-- The escape sequence that ends every style. -/
def reset : List Char := ['\x1b', '[', '0', 'm']

/-- The characters with the style started again after each reset among them. -/
def reopened (style : Style) : List Char → List Char
  | '\x1b' :: '[' :: '0' :: 'm' :: rest => reset ++ style.opening ++ reopened style rest
  | character :: rest => character :: reopened style rest
  | [] => []

/-- The text in a style, or as it is where nothing is coloured. -/
def paint (colored : Bool) (style : Style) (text : String) : String :=
  if colored then
    String.ofList (style.opening ++ reopened style text.toList ++ reset)
  else text

@[simp] theorem paint_false (style : Style) (text : String) : paint false style text = text :=
  rfl

end Style

end RpcTools
