import Handclap.Fault

/-!
# Firmware words

Arithmetic on the firmware's fixed-width words follows one of three rules, and each operation is
named for its rule. *Checked* operations stop with a `Fault` exactly when the exact result leaves
the word. *Saturating* operations stop at the ends of the range. *Wrapping* operations are the
words' own `+` and `-`, which reduce modulo the width. Every rule is stated through `toNat`, where
arithmetic is exact, so that the lemmas below close by `omega`.
-/

namespace Handclap.Word

/-- The sum of two bytes, held at 255 where it would not fit. -/
def addSat8 (a b : UInt8) : UInt8 :=
  if a.toNat + b.toNat < 256 then a + b else 255

/-- The difference of two bytes, held at zero where it would be negative. -/
def subSat8 (a b : UInt8) : UInt8 :=
  if b ≤ a then a - b else 0

/-- The difference of two bytes; faults when `b` exceeds `a`. -/
def subChecked8 (a b : UInt8) : Except Fault UInt8 :=
  if b ≤ a then .ok (a - b) else .error .subtractOverflow

/-- The difference of two 16-bit words, held at zero where it would be negative. -/
def subSat16 (a b : UInt16) : UInt16 :=
  if b ≤ a then a - b else 0

/-- The sum of two 32-bit words; faults when the exact sum is at least `2 ^ 32`. -/
def addChecked32 (a b : UInt32) : Except Fault UInt32 :=
  if a.toNat + b.toNat < 4294967296 then .ok (a + b) else .error .addOverflow

/-- The difference of two 32-bit words; faults when `b` exceeds `a`. -/
def subChecked32 (a b : UInt32) : Except Fault UInt32 :=
  if b ≤ a then .ok (a - b) else .error .subtractOverflow

/-- The quotient of two 32-bit words, rounded down; faults on a zero divisor. -/
def divChecked32 (a b : UInt32) : Except Fault UInt32 :=
  if b = 0 then .error .divideByZero else .ok (a / b)

/-- The quotient of two 64-bit words, rounded down; faults on a zero divisor. -/
def divChecked64 (a b : UInt64) : Except Fault UInt64 :=
  if b = 0 then .error .divideByZero else .ok (a / b)

/-- The sum of two 64-bit words; faults when the exact sum is at least `2 ^ 64`. -/
def addChecked64 (a b : UInt64) : Except Fault UInt64 :=
  if a.toNat + b.toNat < 18446744073709551616 then .ok (a + b) else .error .addOverflow

theorem toNat_addSat8 (a b : UInt8) : (addSat8 a b).toNat = min (a.toNat + b.toNat) 255 := by
  unfold addSat8
  split
  · rename_i h
    rw [UInt8.toNat_add, Nat.mod_eq_of_lt h]
    omega
  · rename_i h
    simp only [UInt8.reduceToNat]
    omega

theorem toNat_subSat8 (a b : UInt8) : (subSat8 a b).toNat = a.toNat - b.toNat := by
  unfold subSat8
  split
  · rename_i h
    rw [UInt8.toNat_sub_of_le _ _ h]
  · rename_i h
    rw [UInt8.le_iff_toNat_le] at h
    simp only [UInt8.toNat_zero]
    omega

theorem toNat_subSat16 (a b : UInt16) : (subSat16 a b).toNat = a.toNat - b.toNat := by
  unfold subSat16
  split
  · rename_i h
    rw [UInt16.toNat_sub_of_le _ _ h]
  · rename_i h
    rw [UInt16.le_iff_toNat_le] at h
    simp only [UInt16.toNat_zero]
    omega

theorem addChecked32_ok {a b : UInt32} (h : a.toNat + b.toNat < 4294967296) :
    addChecked32 a b = .ok (a + b) := by
  simp [addChecked32, h]

theorem addChecked32_eq_ok_iff {a b c : UInt32} :
    addChecked32 a b = .ok c ↔ a.toNat + b.toNat < 4294967296 ∧ c.toNat = a.toNat + b.toNat := by
  unfold addChecked32
  split
  · rename_i h
    constructor
    · intro hc
      cases hc
      exact ⟨h, by rw [UInt32.toNat_add, Nat.mod_eq_of_lt h]⟩
    · rintro ⟨-, hc⟩
      have : a + b = c := by
        apply UInt32.toNat_inj.mp
        rw [UInt32.toNat_add, Nat.mod_eq_of_lt h, hc]
      rw [this]
  · rename_i h
    simp only [reduceCtorEq, false_iff, not_and]
    intro h'
    exact absurd h' h

theorem subChecked8_ok {a b : UInt8} (h : b ≤ a) : subChecked8 a b = .ok (a - b) := by
  simp [subChecked8, h]

theorem divChecked32_ok {a b : UInt32} (h : b ≠ 0) : divChecked32 a b = .ok (a / b) := by
  simp [divChecked32, h]

theorem divChecked64_ok {a b : UInt64} (h : b ≠ 0) : divChecked64 a b = .ok (a / b) := by
  simp [divChecked64, h]

/-- Two readings of a wrapping 32-bit clock less than `2 ^ 32` apart: their wrapping difference
is the time that passed. -/
theorem toNat_toUInt32_sub {a b : Nat} (hle : a ≤ b) (hlt : b < a + 4294967296) :
    (b.toUInt32 - a.toUInt32).toNat = b - a := by
  simp only [UInt32.toNat_sub, Nat.toUInt32_eq, UInt32.toNat_ofNat']
  omega

end Handclap.Word
