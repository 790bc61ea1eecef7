import DeskCalculator.Json.Lexeme
import DeskCalculator.Json.Numeral

namespace DeskCalculator.Json

inductive ReadFault where
  | malformed
  /-- A whole number longer than integers are read. -/
  | numberTooLong
  /-- More containers open at once than are admitted. -/
  | tooDeep
  deriving DecidableEq

/-- The fields of an object that is still open, the latest first. -/
abbrev Fields := List (Text.Codes × Raw)

/-- With one more field, which replaces an earlier one of its name. -/
def Fields.put (fields : Fields) (name : Text.Codes) (v : Raw) : Fields :=
  (name, v) :: fields.filter (·.1 != name)

def Fields.close (fields : Fields) : Raw := .object fields.reverse

/-- A container that is still open, its members with the latest first. -/
inductive Frame where
  | array (items : List Raw)
  | object (fields : Fields) (name : Text.Codes)

/-- What the text so far calls for. Its lexemes drive the machine, whose stack holds the containers
that are still open; the first fault from the left is the one reported. -/
inductive Demand where
  | value (frames : List Frame)
  | valueOrClose (frames : List Frame)
  | nameOrClose (frames : List Frame)
  | name (fields : Fields) (frames : List Frame)
  | colon (fields : Fields) (name : Text.Codes) (frames : List Frame)
  /-- The value has just ended: a comma, a closing bracket, or the end of the text. -/
  | separator (v : Raw) (frames : List Frame)

namespace Demand

/-- A number counts as read where it ends, even if what follows it makes the word no number. -/
def ofNumber (w : String) : Except ReadFault Raw :=
  match Numeral.read? w.toList with
  | none => .error .malformed
  | some (n, rest) =>
    if n.tooLong then .error .numberTooLong
    else if rest.isEmpty then .ok (.number n)
    else .error .malformed

def ofWord (w : String) : Except ReadFault Raw :=
  if w == "null" then .ok .null
  else if w == "true" then .ok (.bool true)
  else if w == "false" then .ok (.bool false)
  else if w ∈ Numeral.names then .ok (.number (.name w))
  else ofNumber w

/-- A container may be opened while fewer than `maxDepth` are open. -/
def enter (maxDepth : Nat) (frames : List Frame) (d : Demand) : Except ReadFault Demand :=
  if frames.length < maxDepth then .ok d else .error .tooDeep

/-- The lexeme with which a value begins. -/
def beginValue (maxDepth : Nat) (frames : List Frame) : Lexeme → Except ReadFault Demand
  | .openArray => enter maxDepth frames (.valueOrClose frames)
  | .openObject => enter maxDepth frames (.nameOrClose frames)
  | .text us => .ok (.separator (.text us) frames)
  | .word w => (ofWord w).map (.separator · frames)
  | _ => .error .malformed

def next (maxDepth : Nat) : Demand → Lexeme → Except ReadFault Demand
  | .value frames, l => beginValue maxDepth frames l
  | .valueOrClose frames, .closeArray => .ok (.separator (.array []) frames)
  | .valueOrClose frames, l => beginValue maxDepth (.array [] :: frames) l
  | .nameOrClose frames, .closeObject => .ok (.separator (.object []) frames)
  | .nameOrClose frames, .text k => .ok (.colon [] k frames)
  | .name fields frames, .text k => .ok (.colon fields k frames)
  | .colon fields k frames, .colon => .ok (.value (.object fields k :: frames))
  | .separator v (.array items :: frames), .comma => .ok (.value (.array (v :: items) :: frames))
  | .separator v (.array items :: frames), .closeArray =>
    .ok (.separator (.array (v :: items).reverse) frames)
  | .separator v (.object fields k :: frames), .comma => .ok (.name (fields.put k v) frames)
  | .separator v (.object fields k :: frames), .closeObject =>
    .ok (.separator (fields.put k v).close frames)
  | _, _ => .error .malformed

end Demand

/-- The value of a text in which at most `maxDepth` containers are open at once. -/
def read (maxDepth : Nat) (us : Text.Codes) : Except ReadFault Raw :=
  match (Lexeme.ofCodes us).foldlM (Demand.next maxDepth) (.value []) with
  | .ok (.separator v []) => .ok v
  | .ok _ => .error .malformed
  | .error e => .error e

end DeskCalculator.Json
