import DeskCalculator.Setup.Settings
import DeskCalculator.Trace
import DeskCalculator.Web.Route

namespace DeskCalculator.Setup

structure Logging where
  level : Nat
  /-- The format of each handler. -/
  formats : List String
  deriving DecidableEq

namespace Logging

/-- Before any set-up: the level of warnings, and no handler. -/
def initial : Logging := ⟨30, []⟩

def format : String := "%(asctime)s %(levelname)s [%(name)s] %(message)s"

def levels : List (String × Nat) := [
  ("CRITICAL", 50), ("FATAL", 50), ("ERROR", 40), ("WARNING", 30), ("WARN", 30), ("INFO", 20),
  ("DEBUG", 10), ("NOTSET", 0)]

def withHandler (l : Logging) : Logging :=
  if l.formats.isEmpty then { l with formats := [format] } else l

/-- A name that is no level changes no level, but the handler is there already. -/
def setUp (l : Logging) (name : String) : Except Fault Unit × Logging :=
  match levels.lookup name with
  | some level => (.ok (), { l.withHandler with level })
  | none => (.error (.unknownLevel name), l.withHandler)

end Logging

structure Launch where
  settings : Settings
  logging : Logging
  deriving DecidableEq

namespace Launch

/-- The port is looked at before the log level. -/
def ofEnvironment (env : Environment) : Except Fault Launch := do
  let settings ← Settings.ofEnvironment env
  match Logging.initial.setUp settings.logLevel with
  | (.ok (), logging) => return ⟨settings, logging⟩
  | (.error f, _) => throw f

/-- The name of the log level as the server takes it; every known one is in ASCII. -/
def serverLogLevel (l : Launch) : String :=
  String.ofList (l.settings.logLevel.toList.map Char.toLower)

/-- The line that announces the start. -/
def announcement (l : Launch) : String :=
  "starting " ++ Web.title ++ " " ++ Web.version ++ " on " ++ l.settings.host ++ ":" ++
    Text.decimal l.settings.port

end Launch

end DeskCalculator.Setup
