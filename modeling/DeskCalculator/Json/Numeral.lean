import DeskCalculator.Json.Basic
import DeskCalculator.Number.Binary64
import DeskCalculator.Text.Surrogate

namespace DeskCalculator.Json

/-- A number as it is written. What is asked of one is whether it is a whole number, and then
which, or whether it is a finite one. -/
inductive Numeral where
  /-- The sign, the digits before the point, the point with the digits after it, and the exponent
  with its letter; all but the digits before the point may be empty. -/
  | decimal (sign whole fraction exponent : List Char)
  /-- The name of a double that is not finite. -/
  | name (s : String)
  deriving DecidableEq

/-- A value whose numbers are kept as they are written. -/
abbrev Document := Json Numeral

/-- A value as it is read. An escape can name a surrogate, so its texts are code points. -/
abbrev Raw := Json Numeral Text.Codes

namespace Numeral

def text : Numeral → String
  | .decimal sign whole fraction exponent => String.ofList (sign ++ whole ++ fraction ++ exponent)
  | .name s => s

/-- A run of digits in front, unless it is empty, and what follows it. -/
def digits? (cs : List Char) : Option (List Char × List Char) :=
  if cs.head?.any Char.isDigit then some (cs.span Char.isDigit) else none

/-- As `digits?`, but a zero in front stands alone. -/
def wholePart? : List Char → Option (List Char × List Char)
  | '0' :: cs => some (['0'], cs)
  | cs => digits? cs

/-- A point in front that digits follow. -/
def fractionPart (cs : List Char) : List Char × List Char :=
  match cs with
  | '.' :: rest =>
    match digits? rest with
    | some (ds, rest) => ('.' :: ds, rest)
    | none => ([], cs)
  | _ => ([], cs)

/-- A sign in front, of those that `signs` admits. -/
def signPart (signs : List Char) (cs : List Char) : List Char × List Char :=
  match cs with
  | c :: rest => if c ∈ signs then ([c], rest) else ([], cs)
  | [] => ([], [])

/-- The letter of an exponent in front that a sign or none and digits follow. -/
def exponentPart (cs : List Char) : List Char × List Char :=
  match cs with
  | e :: rest =>
    if e == 'e' || e == 'E' then
      let (sign, rest) := signPart ['+', '-'] rest
      match digits? rest with
      | some (ds, rest) => (e :: sign ++ ds, rest)
      | none => ([], cs)
    else ([], cs)
  | [] => ([], [])

/-- The longest number in front, and what follows it. -/
def read? (cs : List Char) : Option (Numeral × List Char) := do
  let (sign, rest) := signPart ['-'] cs
  let (whole, rest) ← wholePart? rest
  let (fraction, rest) := fractionPart rest
  let (exponent, rest) := exponentPart rest
  return (.decimal sign whole fraction exponent, rest)

/-- The names that are admitted as numbers. -/
def names : List String := ["NaN", "Infinity", "-Infinity"]

/-- Written with neither a fraction nor an exponent. -/
def isWhole : Numeral → Bool
  | .decimal _ _ [] [] => true
  | _ => false

def toInt? : Numeral → Option Int
  | .decimal sign whole [] [] =>
    let size : Int := Text.digitsValue whole
    some (if sign.isEmpty then size else -size)
  | _ => none

/-- A whole number with more digits than are read as an integer. -/
def tooLong : Numeral → Bool
  | .decimal _ whole [] [] => Text.maxDigits < whole.length
  | _ => false

/-- The value of an exponent, which begins with its letter. -/
def exponentValue : List Char → Int
  | _ :: '-' :: ds => -(Text.digitsValue ds : Int)
  | _ :: '+' :: ds => Text.digitsValue ds
  | _ :: ds => Text.digitsValue ds
  | [] => 0

/-- A whole number is exact and never out of range. -/
def isFinite : Numeral → Bool
  | .decimal _ _ [] [] => true
  | .decimal _ whole fraction exponent =>
    Number.inRange (whole ++ fraction.tail) (whole.length + exponentValue exponent)
  | .name _ => false

end Numeral

inductive Kind where
  | null
  | bool
  | whole
  | fractional
  | text
  | array
  | object
  deriving DecidableEq

def Kind.name : Kind → String
  | .null => "NoneType"
  | .bool => "bool"
  | .whole => "int"
  | .fractional => "float"
  | .text => "str"
  | .array => "list"
  | .object => "dict"

def kind : Document → Kind
  | .null => .null
  | .bool _ => .bool
  | .number n => if n.isWhole then .whole else .fractional
  | .text _ => .text
  | .array _ => .array
  | .object _ => .object

end DeskCalculator.Json
