import DeskCalculator.Text.Surrogate

namespace DeskCalculator.Json

inductive ByteOrder where
  | big
  | little
  deriving DecidableEq

/-- Two neighbours as the digits of one number to a base. -/
def ByteOrder.combine (base : Nat) : ByteOrder → Nat → Nat → Nat
  | .big, a, b => base * a + b
  | .little, a, b => a + base * b

inductive Encoding where
  | utf8
  | utf16 (order : ByteOrder)
  | utf32 (order : ByteOrder)
  deriving DecidableEq

namespace Encoding

/-- A JSON text begins with ASCII characters, so the zero bytes among the first four tell how wide
its units are and in which order their bytes come. -/
def detect : (bytes : List Nat) → Encoding
  | [0, _] => .utf16 .big
  | [_, 0] => .utf16 .little
  | 0 :: 0 :: _ :: _ :: _ => .utf32 .big
  | 0 :: _ :: _ :: _ :: _ => .utf16 .big
  | _ :: 0 :: 0 :: 0 :: _ => .utf32 .little
  | _ :: 0 :: _ :: _ :: _ => .utf16 .little
  | _ => .utf8

/-- The width of a unit in bytes. -/
def width : Encoding → Nat
  | .utf8 => 1
  | .utf16 _ => 2
  | .utf32 _ => 4

/-- Each two neighbours combined into one. -/
def combinePairs (combine : Nat → Nat → Nat) : List Nat → List Nat
  | a :: b :: rest => combine a b :: combinePairs combine rest
  | _ => []

def units16 (order : ByteOrder) (bytes : List Nat) : List Nat :=
  combinePairs (order.combine 0x100) bytes

def units32 (order : ByteOrder) (bytes : List Nat) : List Nat :=
  combinePairs (order.combine 0x10000) (units16 order bytes)

/-- A byte order mark in front does not belong to the text. -/
def dropMark : Text.Codes → Text.Codes
  | 0xFEFF :: us => us
  | us => us

/-- The text that a body spells whose bytes taken as UTF-8 are `body`; there is none when the
bytes end inside a unit or a unit is no code point. -/
def decode? (body : String) : Option Text.Codes :=
  let bytes := body.toUTF8.data.toList.map UInt8.toNat
  let encoding := detect bytes
  if bytes.length % encoding.width ≠ 0 then none
  else match encoding with
    | .utf8 => some (dropMark (Text.codes body))
    | .utf16 order => some (Text.joinPieces ((units16 order bytes).map .unit))
    | .utf32 order =>
      let units := units32 order bytes
      if units.all (· ≤ 0x10FFFF) then some units else none

end Encoding

end DeskCalculator.Json
