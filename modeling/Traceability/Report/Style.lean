import Traceability.Text.Basic

/-!
Coloured text on a terminal.

A piece of text has a style.  With colours it stands between the escape sequence of
its style and the one that resets it; without colours it stands as it is.
-/

namespace Traceability

inductive Colour
  | red
  | green
  | yellow
  | blue
  | cyan
  deriving DecidableEq, Repr

structure Style where
  bold : Bool := false
  dimmed : Bool := false
  colour : Option Colour := none
  deriving DecidableEq, Repr

inductive Colouring
  | plain
  | coloured
  deriving DecidableEq, Repr

def Colour.code : Colour → Text
  | red => "31".toList
  | green => "32".toList
  | yellow => "33".toList
  | blue => "34".toList
  | cyan => "36".toList

namespace Style

def codes (style : Style) : List Text :=
  (if style.bold then ["1".toList] else []) ++ (if style.dimmed then ["2".toList] else []) ++
    (style.colour.map Colour.code).toList

def escape (codes : List Text) : Text :=
  '\x1b' :: '[' :: Text.join [';'] codes ++ ['m']

def reset : Text :=
  escape [['0']]

def ofColour (colour : Colour) : Style :=
  { colour := some colour }

/-- A reset inside styled text ends the style, so the style is started again after it. -/
def restart (start : Text) : Text → Text
  | '\x1b' :: '[' :: '0' :: 'm' :: rest => reset ++ start ++ restart start rest
  | c :: rest => c :: restart start rest
  | [] => []

def paint (colouring : Colouring) (style : Style) (text : Text) : Text :=
  match colouring with
  | .plain => text
  | .coloured => escape style.codes ++ restart (escape style.codes) text ++ reset

end Style
end Traceability
