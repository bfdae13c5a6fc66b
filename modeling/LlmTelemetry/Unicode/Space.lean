import LlmTelemetry.Unicode.Ranges
/-!
# White space

The characters with the property `White_Space`, and texts without those at their ends.
-/

namespace LlmTelemetry.Unicode

def spaceRanges : Ranges :=
  [
    (9, 13), (32, 32), (133, 133), (160, 160), (5760, 5760), (8192, 8202), (8232, 8233),
    (8239, 8239), (8287, 8287), (12288, 12288)
  ]

def isSpace (c : Char) : Bool :=
  spaceRanges.contains c.toNat

/-- The text without white space at either end. -/
def trim (text : String) : String :=
  let front := text.toList.dropWhile isSpace
  String.ofList (front.reverse.dropWhile isSpace).reverse

def isBlank (text : String) : Bool :=
  text.toList.all isSpace

end LlmTelemetry.Unicode
