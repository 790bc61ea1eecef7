import DeskCalculator.Json.Encoding
import DeskCalculator.Json.Reader
import DeskCalculator.Web.Message

namespace DeskCalculator.Web.Form

inductive Complaint where
  | missing
  | notText
  | blank
  | notObject
  | notJson
  deriving DecidableEq

namespace Complaint

def name : Complaint → String
  | .missing => "missing"
  | .notText => "string_type"
  | .blank => "value_error"
  | .notObject => "model_attributes_type"
  | .notJson => "json_invalid"

def message : Complaint → String
  | .missing => "Field required"
  | .notText => "Input should be a valid string"
  | .blank => "Value error, expression must not be empty"
  | .notObject => "Input should be a valid dictionary or object to extract fields from"
  | .notJson => "JSON decode error"

/-- A complaint about the part of the input that the path leads to. -/
def toJson (path : List String) (c : Complaint) : Json Quantity :=
  .object [("type", .text c.name), ("loc", .array (path.map .text)), ("msg", .text c.message)]

end Complaint

/-- The expression that the fields of a form hold, without blanks around it. All other fields are
ignored. -/
def expression (fields : List (Text.Codes × Json.Raw)) : Except Complaint Text.Codes :=
  match Json.lookup fields (Text.codes "expression") with
  | none => .error .missing
  | some (.text us) => if us.all Text.isBlankCode then .error .blank else .ok (Text.trimCodes us)
  | some _ => .error .notText

inductive BodyFault where
  | unreadable
  /-- What the complaint is about cannot be quoted. -/
  | unquotable (b : Breakdown)
  | invalid (path : List String) (c : Complaint)
  deriving DecidableEq

def BodyFault.reply : BodyFault → Except Breakdown Reply
  | .unreadable => .ok (.detail 400 (.text "There was an error parsing the body"))
  | .unquotable b => .error b
  | .invalid path c => .ok (.detail 422 (.array [c.toJson path]))

/-- A complaint goes out together with the value that it is about. Numbers are written out before
the texts are encoded. -/
def refuse (path : List String) (c : Complaint) (subject : Json.Raw) : BodyFault :=
  if !subject.every Json.Numeral.isFinite (fun _ => true) then .unquotable .notFinite
  else if !subject.every (fun _ => true) (fun us => (Text.ofCodes? us).isSome) then
    .unquotable .surrogate
  else .invalid path c

/-- What a complaint about the fields of a form is about: the field, or all of the form when the
field is missing. -/
def subject (fields : List (Text.Codes × Json.Raw)) : Json.Raw :=
  (Json.lookup fields (Text.codes "expression")).getD (.object fields)

/-- The value that a body writes in which at most `room` containers are open at once. -/
def document (room : Nat) (body : String) : Except BodyFault Json.Raw :=
  if body.isEmpty then .error (.invalid ["body"] .missing)
  else match Json.Encoding.decode? body with
    | none => .error .unreadable
    | some text =>
      match Json.read room text with
      | .ok v => .ok v
      | .error .malformed => .error (.invalid ["body"] .notJson)
      | .error _ => .error .unreadable

def ofBody (room : Nat) (body : String) : Except BodyFault Text.Codes := do
  match ← document room body with
  | .object fields =>
    (expression fields).mapError fun c => refuse ["body", "expression"] c (subject fields)
  | v => throw (refuse ["body"] .notObject v)

end DeskCalculator.Web.Form
