import DeskCalculator.Text.Digits

namespace DeskCalculator

/-- JSON values over any kind of number and of text. An object keeps its fields in the order
written; of two fields with the same name the last one counts. -/
inductive Json (ν : Type) (τ : Type := String) where
  | null
  | bool (b : Bool)
  | number (n : ν)
  | text (s : τ)
  | array (items : List (Json ν τ))
  | object (fields : List (τ × Json ν τ))

/-- The numbers of an answer: counts, which are exact, and doubles. -/
inductive Quantity where
  | count (n : Int)
  | double (x : Float)
  deriving DecidableEq

namespace Json

variable {ν μ τ : Type}

/-- The last field of that name. -/
def lookup [BEq τ] (fields : List (τ × Json ν τ)) (name : τ) : Option (Json ν τ) :=
  (fields.reverse.find? (·.1 == name)).map (·.2)

/-- A field of an object; nothing for any other value. -/
def get? [BEq τ] (v : Json ν τ) (name : τ) : Option (Json ν τ) :=
  match v with
  | .object fields => lookup fields name
  | _ => none

def text? (v : Json ν τ) : Option τ :=
  match v with
  | .text s => some s
  | _ => none

def items? (v : Json ν τ) : Option (List (Json ν τ)) :=
  match v with
  | .array items => some items
  | _ => none

mutual

/-- The same value with each number replaced by a value of its own. -/
def replaceNumbers (f : ν → Json μ τ) : Json ν τ → Json μ τ
  | .null => .null
  | .bool b => .bool b
  | .number n => f n
  | .text s => .text s
  | .array items => .array (replaceItems f items)
  | .object fields => .object (replaceFields f fields)

def replaceItems (f : ν → Json μ τ) : List (Json ν τ) → List (Json μ τ)
  | [] => []
  | v :: rest => replaceNumbers f v :: replaceItems f rest

def replaceFields (f : ν → Json μ τ) : List (τ × Json ν τ) → List (τ × Json μ τ)
  | [] => []
  | (k, v) :: rest => (k, replaceNumbers f v) :: replaceFields f rest

end

mutual

/-- Whether `p` holds of every number in a value, and `q` of every text, names included. -/
def every (p : ν → Bool) (q : τ → Bool) : Json ν τ → Bool
  | .number n => p n
  | .text s => q s
  | .array items => everyItem p q items
  | .object fields => everyField p q fields
  | _ => true

def everyItem (p : ν → Bool) (q : τ → Bool) : List (Json ν τ) → Bool
  | [] => true
  | v :: rest => every p q v && everyItem p q rest

def everyField (p : ν → Bool) (q : τ → Bool) : List (τ × Json ν τ) → Bool
  | [] => true
  | (k, v) :: rest => q k && every p q v && everyField p q rest

end

def count (n : Int) : Json Quantity := .number (.count n)

def double (x : Float) : Json Quantity := .number (.double x)

/-- A double that is not finite has no number and becomes null. -/
def ofQuantity : Quantity → Json Quantity
  | .count n => count n
  | .double x => if x.isFinite then double x else .null

def finiteOnly (v : Json Quantity) : Json Quantity := v.replaceNumbers ofQuantity

/-- A quotation mark, a backslash and the control characters are escaped. -/
def escape (c : Char) : List Char :=
  if c == '"' then ['\\', '"']
  else if c == '\\' then ['\\', '\\']
  else if c < ' ' then '\\' :: 'u' :: Text.fixedDigits 16 4 c.toNat
  else [c]

def quote (s : String) : String := String.ofList ('"' :: s.toList.flatMap escape ++ ['"'])

mutual

/-- The text of a value, without blanks between its parts. How a number is written is a
parameter. -/
def write (number : ν → String) : Json ν → String
  | .null => "null"
  | .bool b => if b then "true" else "false"
  | .number n => number n
  | .text s => quote s
  | .array items => "[" ++ ",".intercalate (writeItems number items) ++ "]"
  | .object fields => "\x7b" ++ ",".intercalate (writeFields number fields) ++ "\x7d"

def writeItems (number : ν → String) : List (Json ν) → List String
  | [] => []
  | v :: rest => write number v :: writeItems number rest

def writeFields (number : ν → String) : List (String × Json ν) → List String
  | [] => []
  | (k, v) :: rest => (quote k ++ ":" ++ write number v) :: writeFields number rest

end

end Json

end DeskCalculator
