/-!
# Coloured text

Colours and weight of text on a terminal, as escape sequences around the text.
-/

namespace LlmTelemetry.Paint

inductive Colour where
  | green
  | brightGreen
  | brightCyan
  | brightWhite
deriving DecidableEq

def Colour.code : Colour → Nat
  | .green => 32
  | .brightGreen => 92
  | .brightCyan => 96
  | .brightWhite => 97

def sequence (parameter : Nat) : String :=
  "\x1b[" ++ toString parameter ++ "m"

/-- The text in a colour; after it the colour is the usual one again. -/
def inColour (colour : Colour) (text : String) : String :=
  sequence colour.code ++ text ++ sequence 39

/-- The text in bold; after it everything is as usual again. -/
def bold (text : String) : String :=
  sequence 1 ++ text ++ sequence 0

end LlmTelemetry.Paint
