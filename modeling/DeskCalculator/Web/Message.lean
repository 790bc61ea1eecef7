import DeskCalculator.Json.Basic
import DeskCalculator.Text.Uppercase

namespace DeskCalculator.Web

structure Request where
  method : String
  /-- The address, with all that a target may hold besides the path. -/
  target : String
  /-- Empty where the request has no body. -/
  body : String
  /-- The site on whose behalf the request is made. -/
  origin : Option String
  /-- The method for which the request asks leave. -/
  asksFor : Option String
  deriving DecidableEq

/-- The method as it is sent, in capitals. -/
def Request.verb (r : Request) : String := Text.upper r.method

inductive Body where
  | json (v : Json Quantity)
  | text (s : String)

structure Reply where
  status : Nat
  body : Body

structure Response where
  reply : Reply
  /-- The origin that may read the response. -/
  allowOrigin : Option String

/-- Why a request gets no response. -/
inductive Breakdown where
  /-- What the response would quote holds a number that is not finite. -/
  | notFinite
  /-- What it would quote holds a surrogate that belongs to no pair, which has no bytes. -/
  | surrogate
  deriving DecidableEq

def Breakdown.message : Breakdown → String
  | .notFinite => "Out of range float values are not JSON compliant"
  | .surrogate => "surrogates not allowed"

/-- The reply without what it has to say. -/
def Reply.bare (r : Reply) : Reply := ⟨r.status, .text ""⟩

/-- A reply that consists of a message about what went wrong. -/
def Reply.detail (status : Nat) (v : Json Quantity) : Reply :=
  ⟨status, .json (.object [("detail", v)])⟩

namespace Origin

def everyone : String := "*"

/-- What a response to a request from `origin` allows. -/
def allowed? (origins : List String) (origin : String) : Option String :=
  if everyone ∈ origins then some everyone
  else if origin ∈ origins then some origin
  else none

def methods : List String := ["GET", "POST", "PUT", "DELETE"]

/-- What stands against the use of a method by an origin. -/
def objections (origins : List String) (origin method : String) : List String :=
  (if (allowed? origins origin).isSome then [] else ["origin"]) ++
    (if method ∈ methods then [] else ["method"])

/-- The origin and the method of a request that only asks for leave. -/
def preflight? (r : Request) : Option (String × String) :=
  if r.verb = "OPTIONS" then r.origin.bind fun o => r.asksFor.map (o, ·) else none

def preflightReply (origins : List String) (origin method : String) : Reply :=
  match objections origins origin method with
  | [] => ⟨200, .text "OK"⟩
  | os => ⟨400, .text ("Disallowed CORS " ++ ", ".intercalate os)⟩

end Origin

end DeskCalculator.Web
