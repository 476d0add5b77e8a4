import Handclap.Adc

/-!
# Detector configuration

A configuration states the detector's tuning in amplitude steps and wall-clock units. Checked
against a CPU clock, it resolves to `Params`: the same tuning counted in samples, which is what the
peak tracker runs on. The checks run in a fixed order and the first one that fails names the
refusal, so `Config.validate` is a chain of early exits, each with its own `ConfigError`.
-/

namespace Handclap

/-- Detector tuning, in amplitude steps and wall-clock units. A peak has to reach the upper
threshold and fall to the lower one, by a swing of their gap plus the jitter, within the peak
timeout in microseconds; the debounce and the silence that ends a series are in milliseconds. -/
structure Config where
  maxThreshold : UInt8
  minThreshold : UInt8
  jitterThreshold : UInt8
  peakTimeoutUs : UInt32
  debounceMs : UInt32
  seriesTimeoutMs : UInt32
deriving DecidableEq, Repr

/-- The tuning the firmware ships with. -/
def Config.default : Config where
  maxThreshold := 110
  minThreshold := 30
  jitterThreshold := 30
  peakTimeoutUs := 2000
  debounceMs := 50
  seriesTimeoutMs := 1000

/-- Why a configuration is refused: one case for each check of `Config.validate`, in the order
the checks run. -/
inductive ConfigError where
  | unsupportedClock
  | sampleRateTooLow
  | thresholdOrder
  | peakDeltaOverflow
  | peakTimeoutRange
  | debounceTooLong
deriving DecidableEq, Repr

/-- The refusal's name, as it is reported. -/
def ConfigError.name : ConfigError → String
  | .unsupportedClock => "UnsupportedClock"
  | .sampleRateTooLow => "SampleRateTooLow"
  | .thresholdOrder => "ThresholdOrder"
  | .peakDeltaOverflow => "PeakDeltaOverflow"
  | .peakTimeoutRange => "PeakTimeoutRange"
  | .debounceTooLong => "DebounceTooLong"

/-- The slowest sampling rate, in hertz, that is still refused. -/
def minSampleRateHz : Nat := 3000

/-- Refuse a sample period that is zero or too long to catch the edges of a clap: the rate it
gives, rounded down, must exceed `minSampleRateHz`. -/
def checkSamplePeriod (periodUs : UInt32) : Except ConfigError Unit :=
  if periodUs = 0 ∨ 1000000 / periodUs.toNat ≤ minSampleRateHz then .error .sampleRateTooLow
  else .ok ()

/-- Detector tuning counted in samples, for one CPU clock. `peakDelta` is the least fall from the
peak that makes a clap, `debounceSamples` the dead time after a clap less one sample, and
`samplePeriodUs` the microseconds between two samples of the converter's divider. -/
structure Params where
  maxThreshold : UInt8
  minThreshold : UInt8
  peakDelta : UInt8
  peakTimeoutSamples : UInt16
  debounceSamples : UInt16
  seriesTimeoutMs : UInt32
  prescaler : AdcPrescaler
  samplePeriodUs : UInt32
deriving DecidableEq, Repr

/-- Samples the detector stays blind after a clap: the debounce count and the clap's own sample. -/
def Params.debounceWindow (p : Params) : UInt32 :=
  p.debounceSamples.toUInt32 + 1

/-- The checks that depend on the configuration alone, given a positive sample period: threshold
order, then the swing, then the peak timeout, then the debounce. The swing and the debounce are
computed exactly, so each check sees the true value before it is narrowed. -/
def Config.resolve (c : Config) (prescaler : AdcPrescaler) (period : Nat) :
    Except ConfigError Params :=
  if c.maxThreshold ≤ c.minThreshold then .error .thresholdOrder else
  let delta := c.maxThreshold.toNat - c.minThreshold.toNat + c.jitterThreshold.toNat
  if 255 < delta then .error .peakDeltaOverflow else
  let timeout := c.peakTimeoutUs.toNat / period
  if timeout = 0 ∨ 255 < timeout then .error .peakTimeoutRange else
  let debounce := c.debounceMs.toNat * 1000 / period
  if c.maxThreshold.toNat ≤ debounce / 256 then .error .debounceTooLong else
  .ok {
    maxThreshold := c.maxThreshold
    minThreshold := c.minThreshold
    peakDelta := delta.toUInt8
    peakTimeoutSamples := timeout.toUInt16
    debounceSamples := debounce.toUInt16
    seriesTimeoutMs := c.seriesTimeoutMs
    prescaler := prescaler
    samplePeriodUs := period.toUInt32 }

/-- Check a configuration against a CPU clock and count its tuning in samples. The clock must
have a divider on record and a fast enough sample rate; the rest is `Config.resolve`. -/
def Config.validate (c : Config) (cpuHz : UInt32) : Except ConfigError Params :=
  match AdcPrescaler.ofClock? cpuHz with
  | none => .error .unsupportedClock
  | some prescaler =>
    let period := periodUs prescaler cpuHz.toNat
    match checkSamplePeriod period.toUInt32 with
    | .error e => .error e
    | .ok () => c.resolve prescaler period

end Handclap
