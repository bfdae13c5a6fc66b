/-!
# UTF-8

Bytes are read one character at a time. Where the bytes are no character, `next` passes over the longest
start of one, or over a single byte when there is no such start.
-/

namespace LlmTelemetry.Utf8

/-- The bits that a continuation byte carries. -/
def payload (byte : UInt8) : Nat := byte.toNat % 64

/-- Whether a byte is from `first` to `last`. -/
def within (first last : Nat) (byte : UInt8) : Bool :=
  first ≤ byte.toNat && byte.toNat ≤ last

/-- The second bytes that may follow a leading byte, and the number of bytes after the second; none
when the byte leads nothing. -/
def secondByte? (lead : UInt8) : Option ((Nat × Nat) × Nat) :=
  if within 0xc2 0xdf lead then some ((0x80, 0xbf), 0)
  else if within 0xe0 0xe0 lead then some ((0xa0, 0xbf), 1)
  else if within 0xed 0xed lead then some ((0x80, 0x9f), 1)
  else if within 0xe1 0xef lead then some ((0x80, 0xbf), 1)
  else if within 0xf0 0xf0 lead then some ((0x90, 0xbf), 2)
  else if within 0xf1 0xf3 lead then some ((0x80, 0xbf), 2)
  else if within 0xf4 0xf4 lead then some ((0x80, 0x8f), 2)
  else none

/-- The bits of the leading byte of a character with so many bytes after the second. -/
def leadBits (lead : UInt8) (more : Nat) : Nat :=
  lead.toNat % Nat.pow 2 (5 - more)

def continuation : (count : Nat) → (bits : Nat) → List UInt8 → Option Char × List UInt8
  | 0, bits, rest => (some (Char.ofNat bits), rest)
  | count + 1, bits, byte :: rest =>
    if within 0x80 0xbf byte then continuation count (64 * bits + payload byte) rest
    else (none, byte :: rest)
  | _ + 1, _, [] => (none, [])

/-- Read the character that begins with the byte `lead`. -/
def next (lead : UInt8) (rest : List UInt8) : Option Char × List UInt8 :=
  if lead.toNat < 0x80 then (some (Char.ofNat lead.toNat), rest)
  else
    match secondByte? lead, rest with
    | some ((first, last), more), second :: others =>
      if within first last second then
        continuation more (64 * leadBits lead more + payload second) others
      else (none, rest)
    | _, _ => (none, rest)

/-- The characters of the bytes; none in the place of what is no character. -/
def characters : (fuel : Nat) → List UInt8 → List (Option Char)
  | _, [] => []
  | 0, _ :: _ => []
  | fuel + 1, lead :: rest =>
    let (c, rest) := next lead rest
    c :: characters fuel rest

/-- What stands in for bytes that are no character. -/
def replacement : Char := '\ufffd'

def decodeLossy (bytes : List UInt8) : String :=
  String.ofList ((characters bytes.length bytes).map (·.getD replacement))

/-- The text of the bytes, when all of them belong to characters. -/
def decode? (bytes : List UInt8) : Option String :=
  ((characters bytes.length bytes).mapM id).map String.ofList

def encode (text : String) : List UInt8 :=
  text.toUTF8.toList

end LlmTelemetry.Utf8
