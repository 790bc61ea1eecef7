import DeskCalculator.Json.Basic
import DeskCalculator.Timestamp

namespace DeskCalculator

/-- What each reading of the clock shows, by the number of readings before it. -/
abbrev Clock := Nat → Timestamp

namespace Clock

/-- A clock whose readings are a fixed number of microseconds apart. -/
def ticking (start step : Nat) : Clock := fun k => .ofInstant (start + k * step)

end Clock

structure Snapshot where
  value : Float
  label : String
  createdAt : Timestamp
  deriving DecidableEq

namespace Snapshot

/-- A snapshot yet to be made; one without a time takes it from the clock. -/
structure Draft where
  value : Float
  label : String
  createdAt : Option Timestamp
  deriving DecidableEq

/-- The snapshot of a draft, and the number of clock readings after it. -/
def Draft.make (d : Draft) (clock : Clock) (readings : Nat) : Snapshot × Nat :=
  match d.createdAt with
  | some t => (⟨d.value, d.label, t⟩, readings)
  | none => (⟨d.value, d.label, clock readings⟩, readings + 1)

def fields (s : Snapshot) : List (String × Json Quantity) :=
  [("value", .double s.value), ("label", .text s.label), ("timestamp", .text s.createdAt.text)]

def toJson (s : Snapshot) : Json Quantity := .object s.fields

end Snapshot

end DeskCalculator
