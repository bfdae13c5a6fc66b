/-!
# Random identifiers

Sixteen random bytes as a universally unique identifier of version 4: hexadecimal digits in groups of 8, 4,
4, 4 and 12, with the version and the variant in their places.
-/

namespace LlmTelemetry.Identifier

def hexDigits (byte : Nat) : List Char :=
  [Nat.digitChar (byte / 16 % 16), Nat.digitChar (byte % 16)]

/-- The bytes with the version and the variant put in. -/
def marked (bytes : List Nat) : List Nat :=
  bytes.mapIdx fun position byte =>
    if position = 6 then 0x40 + byte % 0x10
    else if position = 8 then 0x80 + byte % 0x40
    else byte % 0x100

def ofBytes (bytes : List Nat) : String :=
  let digits := (marked (bytes.take 16)).flatMap hexDigits
  let part := fun start length => String.ofList ((digits.drop start).take length)
  String.intercalate "-" [part 0 8, part 8 4, part 12 4, part 16 4, part 20 12]

end LlmTelemetry.Identifier
