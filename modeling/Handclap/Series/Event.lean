import Handclap.Word

/-!
# Series events

The main loop learns about claps as events: each clap of a running series is handed out in turn,
a series ends after enough silence, and a series that grows too long is dropped. An event also has
a one-byte signed code, `-n` for the `n`-th clap of a running series and `n` for a finished series
of `n`; the code is computed in signed 8-bit arithmetic, so `n` is read as a two's-complement byte
first and the negation of `-128` faults.
-/

namespace Handclap

/-- The processed count at which a series is dropped. It keeps every count that is handed out
representable in the signed code. -/
def overflowCount : UInt8 := 127

/-- What one poll of the series reports: nothing new, the `n`-th clap of the running series
counting from one, the end of a series of `n` claps, or a series dropped at `overflowCount`. -/
inductive Event where
  | quiet
  | inProgress (n : UInt8)
  | finished (n : UInt8)
  | overflow
deriving DecidableEq, Repr

/-- The event's signed one-byte code: `0` for nothing, `-n` while a series runs, `n` when it
ends and `127` for an overflow. A count of 128 reads as `-128`, whose negation faults. -/
def Event.code : Event → Except Fault Int8
  | .quiet => .ok 0
  | .inProgress n => if n = 128 then .error .negateOverflow else .ok (-n.toInt8)
  | .finished n => .ok n.toInt8
  | .overflow => .ok overflowCount.toInt8

end Handclap
