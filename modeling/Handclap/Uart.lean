import Handclap.Word

/-!
# Serial line speed

The serial transmitter runs in double-speed mode, where the line clock is the CPU clock divided
by eight times one more than the divisor. The divisor is chosen by rounding to the nearest value,
in 32-bit arithmetic: `(cpuHz / 4 / baud - 1) / 2`, then narrowed to its low 16 bits.
-/

namespace Handclap

/-- The divisor register value for a baud rate. A zero rate is a division by zero, and a rate
faster than a quarter of the clock makes the subtraction fault. -/
def baudDivisor (cpuHz baud : UInt32) : Except Fault UInt16 :=
  match Word.divChecked32 (cpuHz / 4) baud with
  | .error e => .error e
  | .ok q =>
    match Word.subChecked32 q 1 with
    | .error e => .error e
    | .ok d => .ok (d / 2).toUInt16

end Handclap
