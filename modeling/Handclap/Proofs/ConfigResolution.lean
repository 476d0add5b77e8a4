import Handclap.Tracker
import Mathlib.Tactic.SplitIfs

/-!
# What the configuration check accepts

`Config.validate` accepts a configuration at a CPU clock exactly when the clock has a converter
divider on record and the configuration passes four checks at the clock's sample period
(`Config.Acceptable`): the thresholds are ordered, the swing fits a byte, the peak timeout is one
to 255 samples, and the debounce stays below 256 times the upper threshold. The counts it then
hands on are the exact quotients, so no narrowing loses a bit, and the debounce window stays
below the tracker's clamp (`validate_accepts_exactly`).

The check is written over exact numbers. `Config.validateWords` spells it out in the firmware's
own words, with the byte subtraction and every division checked: it never faults, and it gives
the same answer (`resolveWords_eq`, `validateWords_eq`).
-/

namespace Handclap

namespace AdcPrescaler

/-- The CPU clocks with a divider on record, in hertz. -/
def supportedClocks : List UInt32 := [1000000, 2000000, 4000000, 8000000, 16000000, 20000000]

/-- The clock table: the six clocks with a divider on record, and their dividers. -/
theorem ofClock?_cases {cpuHz : UInt32} {pre : AdcPrescaler} (h : ofClock? cpuHz = some pre) :
    cpuHz = 1000000 ∧ pre = div8 ∨ cpuHz = 2000000 ∧ pre = div16 ∨
      cpuHz = 4000000 ∧ pre = div32 ∨ cpuHz = 8000000 ∧ pre = div64 ∨
      cpuHz = 16000000 ∧ pre = div128 ∨ cpuHz = 20000000 ∧ pre = div128 := by
  unfold ofClock? at h
  split_ifs at h with h16 h8 h4 h2 h1 <;> cases h
  · rcases h16 with rfl | rfl <;> simp
  all_goals simp [*]

theorem ofClock?_isSome_iff (cpuHz : UInt32) :
    (ofClock? cpuHz).isSome ↔ cpuHz ∈ supportedClocks := by
  constructor
  · intro h
    obtain ⟨pre, hpre⟩ := Option.isSome_iff_exists.mp h
    rcases ofClock?_cases hpre with ⟨rfl, -⟩ | ⟨rfl, -⟩ | ⟨rfl, -⟩ | ⟨rfl, -⟩ | ⟨rfl, -⟩ |
      ⟨rfl, -⟩ <;> decide
  · intro h
    simp only [supportedClocks, List.mem_cons, List.not_mem_nil, or_false] at h
    rcases h with rfl | rfl | rfl | rfl | rfl | rfl <;> rfl

/-- A clock with a divider on record samples every 104 µs, or every 78 µs at 20 MHz. -/
theorem periodUs_of_ofClock? {cpuHz : UInt32} {pre : AdcPrescaler}
    (h : ofClock? cpuHz = some pre) :
    periodUs pre cpuHz.toNat = 104 ∨ periodUs pre cpuHz.toNat = 78 := by
  rcases ofClock?_cases h with ⟨rfl, rfl⟩ | ⟨rfl, rfl⟩ | ⟨rfl, rfl⟩ | ⟨rfl, rfl⟩ | ⟨rfl, rfl⟩ |
    ⟨rfl, rfl⟩ <;> decide

end AdcPrescaler

/-- The four checks a configuration has to pass at a sample period of `period` microseconds. -/
structure Config.Acceptable (c : Config) (period : Nat) : Prop where
  order : c.minThreshold < c.maxThreshold
  swing : c.maxThreshold.toNat - c.minThreshold.toNat + c.jitterThreshold.toNat ≤ 255
  timeout_pos : 1 ≤ c.peakTimeoutUs.toNat / period
  timeout_le : c.peakTimeoutUs.toNat / period ≤ 255
  debounce_lt : c.debounceMs.toNat * 1000 / period < 256 * c.maxThreshold.toNat

namespace Params

theorem toNat_debounceWindow (p : Params) :
    p.debounceWindow.toNat = p.debounceSamples.toNat + 1 := by
  have := p.debounceSamples.toNat_lt
  simp only [debounceWindow, UInt32.toNat_add, UInt16.toNat_toUInt32, UInt32.toNat_one]
  omega

theorem toNat_debounceSpan (p : Params) :
    p.debounceSpan.toNat = min (p.debounceSamples.toNat + 1) 65535 := by
  simp only [debounceSpan, toNat_debounceWindow, Nat.toUInt16_eq, UInt16.toNat_ofNat']
  omega

end Params

namespace Config

/-- `resolve` in the firmware's own words: the byte subtraction and the divisions are checked,
the swing is summed in 16 bits and the debounce in 64, and each count is narrowed to its field. -/
def resolveWords (c : Config) (prescaler : AdcPrescaler) (period : UInt32) :
    Except Fault (Except ConfigError Params) := do
  if c.maxThreshold ≤ c.minThreshold then return .error .thresholdOrder
  let gap ← Word.subChecked8 c.maxThreshold c.minThreshold
  let delta := gap.toUInt16 + c.jitterThreshold.toUInt16
  if 255 < delta then return .error .peakDeltaOverflow
  let timeout ← Word.divChecked32 c.peakTimeoutUs period
  if timeout = 0 ∨ 255 < timeout then return .error .peakTimeoutRange
  let debounce ← Word.divChecked64 (c.debounceMs.toUInt64 * 1000) period.toUInt64
  if c.maxThreshold.toUInt64 ≤ debounce >>> 8 then return .error .debounceTooLong
  return .ok {
    maxThreshold := c.maxThreshold
    minThreshold := c.minThreshold
    peakDelta := delta.toUInt8
    peakTimeoutSamples := timeout.toUInt16
    debounceSamples := debounce.toUInt16
    seriesTimeoutMs := c.seriesTimeoutMs
    prescaler := prescaler
    samplePeriodUs := period }

/-- `validate` in the firmware's own words: the sample period comes from the converter's 32-bit
arithmetic, which faults on a zero clock, and the rate is divided out only for a nonzero period,
as `||` stops at its first true operand. -/
def validateWords (c : Config) (cpuHz : UInt32) : Except Fault (Except ConfigError Params) :=
  match AdcPrescaler.ofClock? cpuHz with
  | none => .ok (.error .unsupportedClock)
  | some prescaler => do
    let period ← samplePeriodUs prescaler cpuHz
    let slow ← if period = 0 then pure true
      else (fun rate => rate.toNat ≤ minSampleRateHz) <$> Word.divChecked32 1000000 period
    if slow then return .error .sampleRateTooLow
    c.resolveWords prescaler period

variable {c : Config} {pre : AdcPrescaler} {period : Nat} {p : Params}

/-- What a successful resolution hands on: the checks passed, and every count is the exact
quotient, narrowed without loss. -/
theorem resolve_eq_ok (h : c.resolve pre period = .ok p) :
    c.Acceptable period ∧ p.prescaler = pre ∧ p.samplePeriodUs = period.toUInt32 ∧
      p.peakDelta.toNat = c.maxThreshold.toNat - c.minThreshold.toNat + c.jitterThreshold.toNat ∧
      p.peakTimeoutSamples.toNat = c.peakTimeoutUs.toNat / period ∧
      p.debounceSamples.toNat = c.debounceMs.toNat * 1000 / period := by
  unfold resolve at h
  dsimp only at h
  split_ifs at h with hord hsw htime hdeb
  cases h
  have hmax : c.maxThreshold.toNat < 256 := c.maxThreshold.toNat_lt
  have hacc : c.Acceptable period :=
    ⟨UInt8.not_le.mp hord, by omega, Nat.one_le_iff_ne_zero.mpr (not_or.mp htime).1,
      Nat.not_lt.mp (not_or.mp htime).2, by omega⟩
  refine ⟨hacc, rfl, rfl, ?_, ?_, ?_⟩
  · simp only [Nat.toUInt8_eq, UInt8.toNat_ofNat']
    omega
  · simp only [Nat.toUInt16_eq, UInt16.toNat_ofNat']
    exact Nat.mod_eq_of_lt (by have := hacc.timeout_le; omega)
  · simp only [Nat.toUInt16_eq, UInt16.toNat_ofNat']
    exact Nat.mod_eq_of_lt (by have := hacc.debounce_lt; omega)

theorem resolve_ok_of_acceptable (h : c.Acceptable period) : ∃ p, c.resolve pre period = .ok p := by
  have hswing := h.swing
  have htime := h.timeout_pos
  have htime' := h.timeout_le
  have hdeb := h.debounce_lt
  unfold resolve
  rw [if_neg (UInt8.not_le.mpr h.order)]
  dsimp only
  rw [if_neg (by omega), if_neg (by omega), if_neg (by omega)]
  exact ⟨_, rfl⟩

theorem resolve_ok_iff : (∃ p, c.resolve pre period = .ok p) ↔ c.Acceptable period :=
  ⟨fun ⟨_, h⟩ => (resolve_eq_ok h).1, resolve_ok_of_acceptable⟩

theorem validate_of_ofClock?_none {cpuHz : UInt32} (h : AdcPrescaler.ofClock? cpuHz = none) :
    c.validate cpuHz = .error .unsupportedClock := by
  simp [validate, h]

/-- Past the clock table the sample-rate check always passes, and the rest is `resolve`. -/
theorem validate_eq_resolve {cpuHz : UInt32} (h : AdcPrescaler.ofClock? cpuHz = some pre) :
    c.validate cpuHz = c.resolve pre (periodUs pre cpuHz.toNat) := by
  -- at each of the six clocks the period and its check compute to closed values
  rcases AdcPrescaler.ofClock?_cases h with ⟨rfl, rfl⟩ | ⟨rfl, rfl⟩ | ⟨rfl, rfl⟩ | ⟨rfl, rfl⟩ |
    ⟨rfl, rfl⟩ | ⟨rfl, rfl⟩ <;> rfl

theorem validateWords_eq_resolveWords {cpuHz : UInt32}
    (h : AdcPrescaler.ofClock? cpuHz = some pre) :
    c.validateWords cpuHz = c.resolveWords pre (periodUs pre cpuHz.toNat).toUInt32 := by
  rcases AdcPrescaler.ofClock?_cases h with ⟨rfl, rfl⟩ | ⟨rfl, rfl⟩ | ⟨rfl, rfl⟩ | ⟨rfl, rfl⟩ |
    ⟨rfl, rfl⟩ | ⟨rfl, rfl⟩ <;> rfl

theorem resolveWords_eq (c : Config) (pre : AdcPrescaler) {period : UInt32} (hP : period ≠ 0) :
    c.resolveWords pre period = .ok (c.resolve pre period.toNat) := by
  unfold resolveWords resolve
  by_cases hord : c.maxThreshold ≤ c.minThreshold
  · simp only [hord, if_true]
    rfl
  have hle : c.minThreshold ≤ c.maxThreshold := UInt8.le_of_lt (UInt8.not_le.mp hord)
  have hP64 : period.toUInt64 ≠ 0 := by
    intro h0
    apply hP
    apply UInt32.toNat_inj.mp
    rw [← UInt32.toNat_toUInt64, h0]
    rfl
  have hmax : c.maxThreshold.toNat < 256 := c.maxThreshold.toNat_lt
  have hdelta : ((c.maxThreshold - c.minThreshold).toUInt16 + c.jitterThreshold.toUInt16).toNat =
      c.maxThreshold.toNat - c.minThreshold.toNat + c.jitterThreshold.toNat := by
    have hj : c.jitterThreshold.toNat < 256 := c.jitterThreshold.toNat_lt
    rw [UInt16.toNat_add, UInt8.toNat_toUInt16, UInt8.toNat_toUInt16, UInt8.toNat_sub_of_le _ _ hle]
    omega
  have hdebounce : (c.debounceMs.toUInt64 * 1000 / period.toUInt64).toNat =
      c.debounceMs.toNat * 1000 / period.toNat := by
    have hd : c.debounceMs.toNat < 4294967296 := c.debounceMs.toNat_lt
    rw [UInt64.toNat_div, UInt64.toNat_mul, UInt32.toNat_toUInt64, UInt32.toNat_toUInt64]
    congr 1
    exact Nat.mod_eq_of_lt (by simp only [UInt64.reduceToNat]; omega)
  have hswing : (255 : UInt16) < (c.maxThreshold - c.minThreshold).toUInt16 +
      c.jitterThreshold.toUInt16 ↔
      255 < c.maxThreshold.toNat - c.minThreshold.toNat + c.jitterThreshold.toNat := by
    rw [UInt16.lt_iff_toNat_lt, hdelta]
    rfl
  have htimeout : (c.peakTimeoutUs / period = 0 ∨ 255 < c.peakTimeoutUs / period) ↔
      (c.peakTimeoutUs.toNat / period.toNat = 0 ∨ 255 < c.peakTimeoutUs.toNat / period.toNat) := by
    rw [← UInt32.toNat_div, UInt32.lt_iff_toNat_lt, ← UInt32.toNat_inj]
    rfl
  have hshift : c.maxThreshold.toUInt64 ≤ (c.debounceMs.toUInt64 * 1000 / period.toUInt64) >>> 8 ↔
      c.maxThreshold.toNat ≤ c.debounceMs.toNat * 1000 / period.toNat / 256 := by
    rw [UInt64.le_iff_toNat_le, UInt64.toNat_shiftRight, hdebounce, UInt8.toNat_toUInt64]
    simp only [UInt64.reduceToNat, Nat.reduceMod, Nat.shiftRight_eq_div_pow]
  simp only [hord, if_false, Word.subChecked8_ok hle, Word.divChecked32_ok hP,
    Word.divChecked64_ok hP64, bind, Except.bind, pure, Except.pure, hswing, htimeout, hshift]
  split_ifs
  · rfl
  · rfl
  · rfl
  · congr 3
    · apply UInt8.toNat_inj.mp
      rw [UInt16.toNat_toUInt8, hdelta, Nat.toUInt8_eq, UInt8.toNat_ofNat']
    · apply UInt16.toNat_inj.mp
      rw [UInt64.toNat_toUInt16, hdebounce, Nat.toUInt16_eq, UInt16.toNat_ofNat']
    · simp

/-- The configuration check never faults, whatever the configuration and the clock, and it
gives the same answer as `validate`. -/
theorem validateWords_eq (c : Config) (cpuHz : UInt32) :
    c.validateWords cpuHz = .ok (c.validate cpuHz) := by
  cases hclock : AdcPrescaler.ofClock? cpuHz with
  | none => simp [validateWords, validate_of_ofClock?_none hclock, hclock]
  | some pre =>
    have hpos : (periodUs pre cpuHz.toNat).toUInt32 ≠ 0 := by
      rcases AdcPrescaler.periodUs_of_ofClock? hclock with hp | hp <;> rw [hp] <;> decide
    have hwide : (periodUs pre cpuHz.toNat).toUInt32.toNat = periodUs pre cpuHz.toNat := by
      simp only [Nat.toUInt32_eq, UInt32.toNat_ofNat']
      exact Nat.mod_eq_of_lt (periodUs_lt pre cpuHz.toNat)
    rw [validateWords_eq_resolveWords hclock, resolveWords_eq c pre hpos, hwide,
      validate_eq_resolve hclock]

theorem Acceptable.debounce_le {period : Nat} (h : c.Acceptable period) :
    c.debounceMs.toNat * 1000 / period ≤ 65279 := by
  have hmax : c.maxThreshold.toNat < 256 := c.maxThreshold.toNat_lt
  have := h.debounce_lt
  omega

theorem Acceptable.period_pos {period : Nat} (h : c.Acceptable period) : 0 < period := by
  apply Nat.pos_of_ne_zero
  rintro rfl
  have := h.timeout_pos
  rw [Nat.div_zero] at this
  omega

theorem validate_ok_iff (c : Config) (cpuHz : UInt32) :
    (∃ p, c.validate cpuHz = .ok p) ↔
      cpuHz ∈ AdcPrescaler.supportedClocks ∧
        ∀ pre, AdcPrescaler.ofClock? cpuHz = some pre → c.Acceptable (periodUs pre cpuHz.toNat) := by
  cases hclock : AdcPrescaler.ofClock? cpuHz with
  | none =>
    have hout : cpuHz ∉ AdcPrescaler.supportedClocks := by
      rw [← AdcPrescaler.ofClock?_isSome_iff, hclock]
      simp
    simp [validate_of_ofClock?_none hclock, hout]
  | some pre =>
    rw [validate_eq_resolve hclock, resolve_ok_iff]
    have hin : cpuHz ∈ AdcPrescaler.supportedClocks := by
      rw [← AdcPrescaler.ofClock?_isSome_iff, hclock]
      rfl
    constructor
    · intro h
      refine ⟨hin, fun pre' hpre' => ?_⟩
      cases hpre'
      exact h
    · intro h
      exact h.2 pre rfl

/-- What an accepted configuration resolves to: the clock's divider and period, and the exact
counts at that period. -/
theorem validate_eq_ok {cpuHz : UInt32} (h : c.validate cpuHz = .ok p) :
    AdcPrescaler.ofClock? cpuHz = some p.prescaler ∧
      c.Acceptable p.samplePeriodUs.toNat ∧
      p.samplePeriodUs.toNat = periodUs p.prescaler cpuHz.toNat ∧
      p.peakDelta.toNat = c.maxThreshold.toNat - c.minThreshold.toNat + c.jitterThreshold.toNat ∧
      p.peakTimeoutSamples.toNat = c.peakTimeoutUs.toNat / p.samplePeriodUs.toNat ∧
      p.debounceSamples.toNat = c.debounceMs.toNat * 1000 / p.samplePeriodUs.toNat := by
  cases hclock : AdcPrescaler.ofClock? cpuHz with
  | none => simp [validate_of_ofClock?_none hclock] at h
  | some pre =>
    rw [validate_eq_resolve hclock] at h
    obtain ⟨hacc, rfl, hperiod, hdelta, htimeout, hdebounce⟩ := resolve_eq_ok h
    have hwide : p.samplePeriodUs.toNat = periodUs p.prescaler cpuHz.toNat := by
      rw [hperiod, Nat.toUInt32_eq, UInt32.toNat_ofNat']
      exact Nat.mod_eq_of_lt (periodUs_lt _ _)
    rw [hwide]
    exact ⟨rfl, hacc, rfl, hdelta, htimeout, hdebounce⟩

/-- The configuration check never faults, and it accepts a configuration exactly when the clock
has a divider on record and the configuration passes the four checks at the clock's period.
What it then hands on is exact: the swing, the peak timeout and the debounce are the true values
at that period, the debounce is at most 65279 samples, and the debounce window, at most 65280,
is below the tracker's clamp, so the tracker's blind span is the window itself. -/
theorem validate_accepts_exactly (c : Config) (cpuHz : UInt32) :
    c.validateWords cpuHz = .ok (c.validate cpuHz) ∧
    ((∃ p, c.validate cpuHz = .ok p) ↔
      cpuHz ∈ AdcPrescaler.supportedClocks ∧
        ∀ pre, AdcPrescaler.ofClock? cpuHz = some pre → c.Acceptable (periodUs pre cpuHz.toNat)) ∧
    ∀ p, c.validate cpuHz = .ok p →
      AdcPrescaler.ofClock? cpuHz = some p.prescaler ∧
      p.samplePeriodUs.toNat = periodUs p.prescaler cpuHz.toNat ∧
      p.peakDelta.toNat = c.maxThreshold.toNat - c.minThreshold.toNat + c.jitterThreshold.toNat ∧
      p.peakTimeoutSamples.toNat = c.peakTimeoutUs.toNat / p.samplePeriodUs.toNat ∧
      p.debounceSamples.toNat = c.debounceMs.toNat * 1000 / p.samplePeriodUs.toNat ∧
      p.debounceSamples.toNat ≤ 65279 ∧ p.debounceWindow.toNat ≤ 65280 ∧
      p.debounceSpan.toNat = p.debounceWindow.toNat := by
  refine ⟨validateWords_eq c cpuHz, validate_ok_iff c cpuHz, fun p h => ?_⟩
  obtain ⟨hclock, hacc, hperiod, hdelta, htimeout, hdebounce⟩ := validate_eq_ok h
  have hle : p.debounceSamples.toNat ≤ 65279 := hdebounce ▸ hacc.debounce_le
  have hwindow := p.toNat_debounceWindow
  refine ⟨hclock, hperiod, hdelta, htimeout, hdebounce, hle, by omega, ?_⟩
  rw [p.toNat_debounceSpan, hwindow]
  exact Nat.min_eq_left (by omega)

end Config

end Handclap
