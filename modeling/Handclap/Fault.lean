/-!
# Arithmetic faults

The firmware is built with its arithmetic checks switched on: an integer operation whose exact
result leaves its word, or a division by zero, stops the computation. `Fault` names the four ways
this happens, and `Fault.message` is the report that is printed for each.
-/

namespace Handclap

/-- Why a checked arithmetic operation stopped. -/
inductive Fault where
  | divideByZero
  | subtractOverflow
  | addOverflow
  | negateOverflow
deriving DecidableEq, Repr

/-- The report printed when a computation stops on a fault. -/
def Fault.message : Fault → String
  | .divideByZero => "attempt to divide by zero"
  | .subtractOverflow => "attempt to subtract with overflow"
  | .addOverflow => "attempt to add with overflow"
  | .negateOverflow => "attempt to negate with overflow"

end Handclap
