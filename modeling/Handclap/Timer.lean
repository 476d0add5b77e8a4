import Handclap.Word

/-!
# Millisecond clock

The millisecond clock runs from a timer that counts the CPU clock divided by 64 and overflows
every 256 counts. Each overflow adds the whole milliseconds of one overflow period and carries the
rest in nanoseconds, so the clock does not drift when the period is a whole number of
nanoseconds. The carry is taken at most once per overflow: a counter that already holds a full
millisecond or more in its remainder keeps the excess.
-/

namespace Handclap

/-- The timer's clock divider. -/
inductive TimerPrescaler where
  | stop
  | direct
  | div8
  | div64
  | div256
  | div1024
deriving DecidableEq, Repr

namespace TimerPrescaler

def all : List TimerPrescaler := [stop, direct, div8, div64, div256, div1024]

/-- CPU cycles per timer count; a stopped timer never counts. -/
def division : TimerPrescaler → UInt32
  | stop => 0
  | direct => 1
  | div8 => 8
  | div64 => 64
  | div256 => 256
  | div1024 => 1024

def bits : TimerPrescaler → UInt8
  | stop => 0
  | direct => 1
  | div8 => 2
  | div64 => 3
  | div256 => 4
  | div1024 => 5

def name : TimerPrescaler → String
  | stop => "Stop"
  | direct => "Direct"
  | div8 => "Div8"
  | div64 => "Div64"
  | div256 => "Div256"
  | div1024 => "Div1024"

def ofName? (s : String) : Option TimerPrescaler :=
  all.find? (fun p => p.name == s)

end TimerPrescaler

/-- The divider the millisecond clock runs on. -/
def millisPrescaler : TimerPrescaler := .div64

def ticksPerOverflow : Nat := 256

/-- Nanoseconds in a millisecond: the remainder's carry point. -/
def fractMax : UInt32 := 1000000

/-- One overflow period in nanoseconds, times the CPU clock in hertz. -/
def overflowScaledNs : Nat := millisPrescaler.division.toNat * ticksPerOverflow * 1000000000

/-- What one overflow adds to the clock: whole milliseconds and the nanoseconds beyond them. -/
structure OverflowStep where
  millis : UInt32
  fract : UInt32
deriving DecidableEq, Repr

namespace OverflowStep

/-- The time one overflow adds, in nanoseconds. -/
def nanos (s : OverflowStep) : Nat := s.millis.toNat * 1000000 + s.fract.toNat

/-- The overflow period in nanoseconds, rounded down, for a nonzero clock. -/
def periodNs (cpuHz : Nat) : Nat := overflowScaledNs / cpuHz

/-- The step for a nonzero clock, split at the millisecond. -/
def ofPeriod (ns : Nat) : OverflowStep :=
  ⟨(ns / fractMax.toNat).toUInt32, (ns % fractMax.toNat).toUInt32⟩

/-- The step for a CPU clock; a zero clock is a division by zero. -/
def forClock (cpuHz : UInt32) : Except Fault OverflowStep :=
  if cpuHz = 0 then .error .divideByZero else .ok (ofPeriod (periodNs cpuHz.toNat))

/-- Whether the overflow period is a whole number of nanoseconds; a zero clock is a division
by zero. -/
def isExact (cpuHz : UInt32) : Except Fault Bool :=
  if cpuHz = 0 then .error .divideByZero else .ok (overflowScaledNs % cpuHz.toNat == 0)

end OverflowStep

/-- The millisecond clock: whole milliseconds, wrapping, and the nanoseconds beyond them. -/
structure MillisCounter where
  millis : UInt32
  fract : UInt32
deriving DecidableEq, Repr

namespace MillisCounter

def zero : MillisCounter := ⟨0, 0⟩

/-- The time the clock shows, in nanoseconds. -/
def nanos (c : MillisCounter) : Nat := c.millis.toNat * 1000000 + c.fract.toNat

/-- One overflow: add the step's milliseconds, wrapping, and its nanoseconds with a checked
addition; then carry one millisecond if the nanoseconds reached `fractMax`. -/
def tick (c : MillisCounter) (step : OverflowStep) : Except Fault MillisCounter :=
  match Word.addChecked32 c.fract step.fract with
  | .error e => .error e
  | .ok fract =>
    if fractMax ≤ fract then .ok ⟨c.millis + step.millis + 1, fract - fractMax⟩
    else .ok ⟨c.millis + step.millis, fract⟩

def ticks (step : OverflowStep) : Nat → MillisCounter → Except Fault MillisCounter
  | 0, c => .ok c
  | n + 1, c =>
    match c.tick step with
    | .ok c' => ticks step n c'
    | .error e => .error e

end MillisCounter

end Handclap
