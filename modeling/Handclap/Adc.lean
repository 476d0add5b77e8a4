import Handclap.Word

/-!
# Sampling clock of the converter

The analogue converter is clocked from the CPU clock through a power-of-two divider. One
conversion takes thirteen converter cycles, so the sample period in microseconds is
`(division * 1000000 / cpuHz) * 13`, with the quotient rounded down before the multiplication.
Only six CPU clocks have a divider on record; every one of them gives a period of 104 µs, except
20 MHz, which gives 78 µs.
-/

namespace Handclap

/-- The converter's clock divider, named by its division. -/
inductive AdcPrescaler where
  | div2
  | div4
  | div8
  | div16
  | div32
  | div64
  | div128
deriving DecidableEq, Repr

def cyclesPerConversion : Nat := 13

namespace AdcPrescaler

def all : List AdcPrescaler := [div2, div4, div8, div16, div32, div64, div128]

/-- The divider's selection bits: the division is `2 ^ bits`. -/
def bits : AdcPrescaler → UInt8
  | div2 => 1
  | div4 => 2
  | div8 => 3
  | div16 => 4
  | div32 => 5
  | div64 => 6
  | div128 => 7

/-- How many CPU cycles make one converter cycle: two to the power of the selection bits. -/
def division (p : AdcPrescaler) : UInt32 := (1 : UInt32) <<< p.bits.toUInt32

def name : AdcPrescaler → String
  | div2 => "Div2"
  | div4 => "Div4"
  | div8 => "Div8"
  | div16 => "Div16"
  | div32 => "Div32"
  | div64 => "Div64"
  | div128 => "Div128"

def ofName? (s : String) : Option AdcPrescaler :=
  all.find? (fun p => p.name == s)

/-- The divider recorded for a CPU clock: the one that keeps the converter clock within its
rated range. Other clocks have none. -/
def ofClock? (cpuHz : UInt32) : Option AdcPrescaler :=
  if cpuHz = 16000000 ∨ cpuHz = 20000000 then some div128
  else if cpuHz = 8000000 then some div64
  else if cpuHz = 4000000 then some div32
  else if cpuHz = 2000000 then some div16
  else if cpuHz = 1000000 then some div8
  else none

theorem ofName_name (p : AdcPrescaler) : ofName? p.name = some p := by
  cases p <;> rfl

theorem division_toNat (p : AdcPrescaler) : p.division.toNat = Nat.shiftLeft 1 p.bits.toNat := by
  cases p <;> rfl

end AdcPrescaler

/-- The sample period in microseconds for a nonzero clock, as an exact natural number. -/
def periodUs (p : AdcPrescaler) (cpuHz : Nat) : Nat :=
  p.division.toNat * 1000000 / cpuHz * cyclesPerConversion

/-- The sample period in microseconds, in the converter's 32-bit arithmetic. A zero clock is a
division by zero; for every other clock the product fits, since the quotient is at most
`128000000` and thirteen times that is below `2 ^ 32` (`periodUs_lt`). -/
def samplePeriodUs (p : AdcPrescaler) (cpuHz : UInt32) : Except Fault UInt32 :=
  if cpuHz = 0 then .error .divideByZero
  else .ok (periodUs p cpuHz.toNat).toUInt32

theorem periodUs_lt (p : AdcPrescaler) (cpuHz : Nat) : periodUs p cpuHz < 4294967296 := by
  have hd : p.division.toNat ≤ 128 := by cases p <;> decide
  unfold periodUs cyclesPerConversion
  have : p.division.toNat * 1000000 / cpuHz ≤ p.division.toNat * 1000000 := Nat.div_le_self _ _
  omega

end Handclap
