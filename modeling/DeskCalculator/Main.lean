import DeskCalculator.Setup.Launch

namespace DeskCalculator

def variableNames : List String := ["PORT", "CALCULATOR_HOST", "LOG_LEVEL", "CORS_ORIGINS"]

def readEnvironment : IO Setup.Environment := do
  let found ← variableNames.mapM fun name => return (name, ← IO.getEnv name)
  return fun name => (found.lookup name).join

end DeskCalculator

open DeskCalculator in
def main : IO UInt32 := do
  match Setup.Launch.ofEnvironment (← readEnvironment) with
  | .ok l =>
    IO.println l.announcement
    return 0
  | .error f =>
    IO.eprintln f.message
    return 1
