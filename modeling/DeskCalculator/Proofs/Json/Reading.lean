import DeskCalculator.Json.Encoding
import DeskCalculator.Json.Reader
import Mathlib.Data.List.Forall2
import Mathlib.Tactic.Ring
import Mathlib.Tactic.SplitIfs

namespace DeskCalculator

namespace Json

namespace Lexeme.Scan

end Lexeme.Scan

variable (name text : String)

end Json

end DeskCalculator
