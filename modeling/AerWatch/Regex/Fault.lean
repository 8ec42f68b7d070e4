/-!
# Why patterns are refused
-/

namespace AerWatch.Regex

/-- Why a pattern is refused. -/
inductive Fault where
  /-- It does not follow the rules. -/
  | malformed
  /-- Laid out as an automaton it takes more than so many bytes. -/
  | tooLarge (limit : Nat)
deriving DecidableEq

/-- The wording. -/
def Fault.message : Fault → String
  | malformed => "regex parse error"
  | tooLarge limit => "Compiled regex exceeds size limit of " ++ toString limit ++ " bytes."

end AerWatch.Regex
