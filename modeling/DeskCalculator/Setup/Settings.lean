import DeskCalculator.Setup.Port
import DeskCalculator.Text.Printable
import DeskCalculator.Text.Parts
import DeskCalculator.Text.Uppercase

namespace DeskCalculator.Setup

/-- The text of each variable that is set. -/
abbrev Environment := String → Option String

inductive Fault where
  | badPort (text : String)
  | unknownLevel (name : String)
  deriving DecidableEq

def Fault.message : Fault → String
  | .badPort text => "PORT must be an integer, got " ++ Text.quoted text
  | .unknownLevel name => "Unknown level: " ++ Text.quoted name

structure Settings where
  host : String
  port : Int
  logLevel : String
  corsOrigins : List String
  deriving DecidableEq

namespace Settings

/-- The parts between commas that are not blank, without blanks around them. -/
def listItems (s : String) : List String :=
  ((Text.splitAt ',' s.toList).map (Text.trimWhile Text.isBlank)).filterMap fun cs =>
    if cs.isEmpty then none else some (String.ofList cs)

/-- A list without items admits every origin. -/
def origins (s : String) : List String :=
  match listItems s with
  | [] => ["*"]
  | items => items

def ofEnvironment (env : Environment) : Except Fault Settings :=
  let portText := (env "PORT").getD "3000"
  match Port.ofText? portText with
  | none => .error (.badPort portText)
  | some port => .ok {
      host := (env "CALCULATOR_HOST").getD "0.0.0.0"
      port
      logLevel := Text.upper ((env "LOG_LEVEL").getD "INFO")
      corsOrigins := origins ((env "CORS_ORIGINS").getD "*") }

variable {env : Environment}

theorem ofEnvironment_of_port {port : Int}
    (h : Port.ofText? ((env "PORT").getD "3000") = some port) :
    ∃ st, ofEnvironment env = .ok st ∧ st.port = port ∧
      st.corsOrigins = origins ((env "CORS_ORIGINS").getD "*") := by
  rw [ofEnvironment, h]
  exact ⟨_, rfl, rfl, rfl⟩

theorem ofEnvironment_of_no_port (h : Port.ofText? ((env "PORT").getD "3000") = none) :
    ofEnvironment env = .error (.badPort ((env "PORT").getD "3000")) := by
  rw [ofEnvironment, h]

theorem read_of_ofEnvironment {st : Settings} (h : ofEnvironment env = .ok st) :
    Port.ofText? ((env "PORT").getD "3000") = some st.port ∧
      st.corsOrigins = origins ((env "CORS_ORIGINS").getD "*") := by
  cases hp : Port.ofText? ((env "PORT").getD "3000") with
  | none =>
    rw [ofEnvironment_of_no_port hp] at h
    cases h
  | some port =>
    obtain ⟨st', h', hport, horigins⟩ := ofEnvironment_of_port hp
    rw [h'] at h
    cases h
    exact ⟨congrArg some hport.symm, horigins⟩

end Settings

end DeskCalculator.Setup
