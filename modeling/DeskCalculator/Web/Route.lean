import DeskCalculator.Web.Message

namespace DeskCalculator.Web

inductive Route where
  | index
  | health
  | evaluate
  | clear
  | undo
  | redo
  | state
  | history
  deriving DecidableEq

namespace Route

def all : List Route := [.index, .health, .evaluate, .clear, .undo, .redo, .state, .history]

def method : Route → String
  | .evaluate => "POST"
  | .clear => "POST"
  | .undo => "POST"
  | .redo => "POST"
  | _ => "GET"

def path : Route → String
  | .index => "/"
  | .health => "/health"
  | .evaluate => "/api/calculator/evaluate"
  | .clear => "/api/calculator/clear"
  | .undo => "/api/calculator/undo"
  | .redo => "/api/calculator/redo"
  | .state => "/api/calculator/state"
  | .history => "/api/calculator/history"

def ofPath? (p : String) : Option Route := all.find? (·.path == p)

/-- The method and the path, as the index lists them. -/
def heading (r : Route) : String := r.method ++ " " ++ r.path

theorem ofPath?_path (r : Route) : ofPath? r.path = some r := by cases r <;> rfl

theorem path_of_ofPath? {p : String} {r : Route} (h : ofPath? p = some r) : r.path = p := by
  simpa using List.find?_some h

end Route

def title : String := "Calculator API"

def version : String := "1.0.0"

namespace Page

def index : Reply :=
  ⟨200, .json (.object [
    ("message", .text "Calculator API with undo/redo"),
    ("version", .text version),
    ("endpoints", .object [
      ("evaluate", .text Route.evaluate.heading),
      ("clear", .text Route.clear.heading),
      ("undo", .text Route.undo.heading),
      ("redo", .text Route.redo.heading),
      ("state", .text Route.state.heading),
      ("history", .text Route.history.heading)])])⟩

def health : Reply := ⟨200, .json (.object [("status", .text "UP")])⟩

def notFound : Reply := .detail 404 (.text "Not Found")

def methodNotAllowed : Reply := .detail 405 (.text "Method Not Allowed")

end Page

end DeskCalculator.Web
