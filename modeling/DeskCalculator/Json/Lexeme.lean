import DeskCalculator.Text.Digits
import DeskCalculator.Text.Surrogate

namespace DeskCalculator.Json

/-- The lexemes of a JSON text: punctuation, quoted texts with their escapes resolved, and words,
which are the maximal runs of all other characters. Where quotes are at fault the lexemes end with
a broken one, so what stands before the fault can still be read. -/
inductive Lexeme where
  | openArray
  | closeArray
  | openObject
  | closeObject
  | comma
  | colon
  | text (us : Text.Codes)
  | word (s : String)
  /-- Quotes that hold a control character or an unknown escape, or that are not closed. -/
  | broken
  deriving DecidableEq

namespace Lexeme

def isSpace (c : Char) : Bool := c == ' ' || c == '\t' || c == '\n' || c == '\r'

def punctuation? : Char → Option Lexeme
  | '[' => some .openArray
  | ']' => some .closeArray
  | '\x7b' => some .openObject
  | '\x7d' => some .closeObject
  | ',' => some .comma
  | ':' => some .colon
  | _ => none

/-- The character that a one-letter escape stands for. -/
def escaped? : Char → Option Char
  | '"' => some '"'
  | '\\' => some '\\'
  | '/' => some '/'
  | 'b' => some '\x08'
  | 'f' => some '\x0c'
  | 'n' => some '\n'
  | 'r' => some '\r'
  | 't' => some '\t'
  | _ => none

/-- Where a scan stands. What it has read of a lexeme is held with the latest item first; of a
quoted text these are pieces, as numeric escapes give characters beyond the basic plane in
halves. -/
inductive Mode where
  | between
  | word (read : List Char)
  | text (read : List Text.Piece)
  | escape (read : List Text.Piece)
  /-- In a numeric escape, with so many digits still missing. -/
  | code (read : List Text.Piece) (missing : Nat) (value : Nat)
  | broken

/-- A scan of a text; the lexemes found so far stand with the latest first. -/
structure Scan where
  mode : Mode
  found : List Lexeme

namespace Scan

/-- The character that follows a finished lexeme. -/
def start (found : List Lexeme) (c : Char) : Scan :=
  if isSpace c then ⟨.between, found⟩
  else if c == '"' then ⟨.text [], found⟩
  else match punctuation? c with
    | some l => ⟨.between, l :: found⟩
    | none => ⟨.word [c], found⟩

def endsWord (c : Char) : Bool := isSpace c || c == '"' || (punctuation? c).isSome

/-- The rest of the text has no lexemes. -/
def breakOff (found : List Lexeme) : Scan := ⟨.broken, .broken :: found⟩

/-- Surrogates count as characters without a meaning of their own. -/
def next (s : Scan) (u : Nat) : Scan :=
  let c := Text.codeChar u
  match s.mode with
  | .between => start s.found c
  | .word read =>
    if endsWord c then start (.word (String.ofList read.reverse) :: s.found) c
    else ⟨.word (c :: read), s.found⟩
  | .text read =>
    if c == '"' then ⟨.between, .text (Text.joinPieces read.reverse) :: s.found⟩
    else if c == '\\' then ⟨.escape read, s.found⟩
    else if c < ' ' then breakOff s.found
    else ⟨.text (.code u :: read), s.found⟩
  | .escape read =>
    if c == 'u' then ⟨.code read 4 0, s.found⟩
    else match escaped? c with
      | some e => ⟨.text (.code e.toNat :: read), s.found⟩
      | none => breakOff s.found
  | .code read missing value =>
    match Text.hexValue? c with
    | some d =>
      let value := 16 * value + d
      if missing ≤ 1 then ⟨.text (.unit value :: read), s.found⟩
      else ⟨.code read (missing - 1) value, s.found⟩
    | none => breakOff s.found
  | .broken => s

/-- A text that ends inside quotes ends with a broken lexeme. -/
def finish (s : Scan) : List Lexeme :=
  match s.mode with
  | .between => s.found.reverse
  | .broken => s.found.reverse
  | .word read => s.found.reverse ++ [.word (String.ofList read.reverse)]
  | _ => s.found.reverse ++ [.broken]

end Scan

def ofCodes (us : Text.Codes) : List Lexeme := (us.foldl Scan.next ⟨.between, []⟩).finish

end Lexeme

end DeskCalculator.Json
