import Handclap.Timer

/-!
# The millisecond clock does not drift

A counter whose remainder is below a millisecond, advanced by a step whose remainder is below a
millisecond, never faults, and after `k` overflows it shows its starting time plus `k` steps,
split at the millisecond, with the milliseconds taken modulo `2 ^ 32` (`ticks_eq_split`). The step
for a CPU clock splits the overflow period exactly (`forClock_eq_split`), so from zero the counter
shows `k` periods; when the period is a whole number of nanoseconds that is `k · 16384000 / cpuHz`
milliseconds, whatever `k` is (`ticks_forClock_closed_form`).
-/

namespace Handclap

namespace MillisCounter

/-- One overflow adds the step's time to the counter's, modulo `2 ^ 32` milliseconds. -/
theorem tick_eq_split (c : MillisCounter) (step : OverflowStep) (hc : c.fract.toNat < 1000000)
    (hs : step.fract.toNat < 1000000) :
    ∃ c', c.tick step = .ok c' ∧
      c'.fract.toNat = (c.nanos + step.nanos) % 1000000 ∧
      c'.millis.toNat = (c.nanos + step.nanos) / 1000000 % 4294967296 := by
  have hsum : c.fract.toNat + step.fract.toNat < 4294967296 := by omega
  have hm : c.millis.toNat < 4294967296 := c.millis.toNat_lt
  have hsm : step.millis.toNat < 4294967296 := step.millis.toNat_lt
  unfold tick nanos OverflowStep.nanos
  rw [Word.addChecked32_ok hsum]
  dsimp only
  have hf : (c.fract + step.fract).toNat = c.fract.toNat + step.fract.toNat := by
    rw [UInt32.toNat_add, Nat.mod_eq_of_lt hsum]
  split
  · rename_i hge
    have hle : fractMax.toNat ≤ (c.fract + step.fract).toNat := UInt32.le_iff_toNat_le.mp hge
    have hmax : fractMax.toNat = 1000000 := rfl
    refine ⟨_, rfl, ?_, ?_⟩
    · rw [UInt32.toNat_sub_of_le _ _ hge, hf, hmax]
      omega
    · simp only [UInt32.toNat_add, UInt32.toNat_one]
      rw [hf, hmax] at hle
      omega
  · rename_i hlt
    have hlt' : (c.fract + step.fract).toNat < fractMax.toNat :=
      UInt32.lt_iff_toNat_lt.mp (UInt32.not_le.mp hlt)
    have hmax : fractMax.toNat = 1000000 := rfl
    rw [hf, hmax] at hlt'
    refine ⟨_, rfl, ?_, ?_⟩
    · rw [hf]
      omega
    · simp only [UInt32.toNat_add]
      omega

theorem fract_lt_of_split {c : MillisCounter} {n : Nat} (h : c.fract.toNat = n % 1000000) :
    c.fract.toNat < 1000000 := by
  rw [h]
  exact Nat.mod_lt _ (by decide)

theorem ticks_eq_split (step : OverflowStep) (hs : step.fract.toNat < 1000000) :
    ∀ (k : Nat) (c : MillisCounter), c.fract.toNat < 1000000 →
      ∃ c', ticks step k c = .ok c' ∧
        c'.fract.toNat = (c.nanos + k * step.nanos) % 1000000 ∧
        c'.millis.toNat = (c.nanos + k * step.nanos) / 1000000 % 4294967296
  | 0, c, hc => by
    have hm : c.millis.toNat < 4294967296 := c.millis.toNat_lt
    refine ⟨c, rfl, ?_, ?_⟩ <;> simp only [nanos, Nat.zero_mul, Nat.add_zero] <;> omega
  | k + 1, c, hc => by
    obtain ⟨c₁, h₁, hf₁, hm₁⟩ := tick_eq_split c step hc hs
    obtain ⟨c', h', hf', hm'⟩ := ticks_eq_split step hs k c₁ (fract_lt_of_split hf₁)
    refine ⟨c', ?_, ?_, ?_⟩
    · simp only [ticks, h₁, h']
    · rw [hf']
      simp only [nanos] at hf₁ hm₁ ⊢
      rw [hf₁, hm₁, Nat.succ_mul]
      omega
    · rw [hm']
      simp only [nanos] at hf₁ hm₁ ⊢
      rw [hf₁, hm₁, Nat.succ_mul]
      omega

end MillisCounter

namespace OverflowStep

theorem forClock_eq_split (cpuHz : UInt32) (h : 1 ≤ cpuHz.toNat) :
    ∃ step, forClock cpuHz = .ok step ∧ step.nanos = periodNs cpuHz.toNat ∧
      step.fract.toNat < 1000000 := by
  have hne : cpuHz ≠ 0 := fun h0 => by simp [h0] at h
  have hle : periodNs cpuHz.toNat ≤ 16384000000000 := by
    unfold periodNs
    exact Nat.le_trans (Nat.div_le_self _ _) (by decide)
  refine ⟨ofPeriod (periodNs cpuHz.toNat), by simp [forClock, hne], ?_, ?_⟩
  · simp only [nanos, ofPeriod, Nat.toUInt32_eq, UInt32.toNat_ofNat', fractMax,
      UInt32.reduceToNat]
    omega
  · simp only [ofPeriod, Nat.toUInt32_eq, UInt32.toNat_ofNat', fractMax, UInt32.reduceToNat]
    omega

theorem periodNs_eq (cpuHz : Nat) : periodNs cpuHz = 16384000000000 / cpuHz := rfl

/-- When the overflow period is a whole number of nanoseconds, `k` periods in whole milliseconds
are `k · 16384000 / cpuHz`. -/
theorem periodNs_mul_div_of_isExact (cpuHz : UInt32) (h : 1 ≤ cpuHz.toNat)
    (hx : isExact cpuHz = .ok true) (k : Nat) :
    k * periodNs cpuHz.toNat / 1000000 = k * 16384000 / cpuHz.toNat := by
  have hne : cpuHz ≠ 0 := fun h0 => by simp [h0] at h
  have hdvd : 16384000000000 % cpuHz.toNat = 0 := by
    simp only [isExact, hne, if_false, Except.ok.injEq, beq_iff_eq] at hx
    exact hx
  have hsplit : periodNs cpuHz.toNat * cpuHz.toNat = 16384000000000 := by
    rw [periodNs_eq]
    exact Nat.div_mul_cancel (Nat.dvd_of_mod_eq_zero hdvd)
  have hpos : 0 < cpuHz.toNat := h
  calc k * periodNs cpuHz.toNat / 1000000
      = k * periodNs cpuHz.toNat * cpuHz.toNat / (1000000 * cpuHz.toNat) :=
        (Nat.mul_div_mul_right _ _ hpos).symm
    _ = k * 16384000 * 1000000 / (cpuHz.toNat * 1000000) := by
        rw [Nat.mul_assoc k, hsplit, Nat.mul_comm 1000000 cpuHz.toNat, Nat.mul_assoc k]
    _ = k * 16384000 / cpuHz.toNat := Nat.mul_div_mul_right _ _ (by decide)

end OverflowStep

namespace MillisCounter

/-- The millisecond clock keeps exact time. For a nonzero CPU clock the step splits the overflow
period `16384000000000 / cpuHz` nanoseconds exactly; from zero, `k` overflows never fault and
leave the remainder `k · period mod 10 ^ 6` and the milliseconds `k · period / 10 ^ 6` modulo
`2 ^ 32`, which is `k · 16384000 / cpuHz` modulo `2 ^ 32` when the period is whole. From any
counter and under any step whose remainders are below a millisecond, the same holds with the
counter's starting time added. -/
theorem ticks_forClock_closed_form (cpuHz : UInt32) (h : 1 ≤ cpuHz.toNat) :
    ∃ step, OverflowStep.forClock cpuHz = .ok step ∧
      step.millis.toNat * 1000000 + step.fract.toNat = 16384000000000 / cpuHz.toNat ∧
      step.fract.toNat < 1000000 ∧
      (∀ k, ∃ c, ticks step k zero = .ok c ∧
        c.fract.toNat = k * (16384000000000 / cpuHz.toNat) % 1000000 ∧
        c.millis.toNat = k * (16384000000000 / cpuHz.toNat) / 1000000 % 4294967296 ∧
        (OverflowStep.isExact cpuHz = .ok true →
          c.millis.toNat = k * 16384000 / cpuHz.toNat % 4294967296)) ∧
      (∀ (s : OverflowStep) (c : MillisCounter), s.fract.toNat < 1000000 →
        c.fract.toNat < 1000000 → ∀ k, ∃ c', ticks s k c = .ok c' ∧
          c'.fract.toNat = (c.millis.toNat * 1000000 + c.fract.toNat +
            k * (s.millis.toNat * 1000000 + s.fract.toNat)) % 1000000 ∧
          c'.millis.toNat = (c.millis.toNat * 1000000 + c.fract.toNat +
            k * (s.millis.toNat * 1000000 + s.fract.toNat)) / 1000000 % 4294967296) := by
  obtain ⟨step, hstep, hns, hfr⟩ := OverflowStep.forClock_eq_split cpuHz h
  rw [OverflowStep.periodNs_eq, OverflowStep.nanos] at hns
  refine ⟨step, hstep, hns, hfr, fun k => ?_, fun s c hs hc k => ticks_eq_split s hs k c hc⟩
  obtain ⟨c, hc, hf, hm⟩ := ticks_eq_split step hfr k zero (by decide)
  have hz : zero.nanos = 0 := rfl
  rw [hz, Nat.zero_add, OverflowStep.nanos, hns] at hf
  rw [hz, Nat.zero_add, OverflowStep.nanos, hns] at hm
  refine ⟨c, hc, hf, hm, fun hx => ?_⟩
  rw [hm, ← OverflowStep.periodNs_eq, OverflowStep.periodNs_mul_div_of_isExact cpuHz h hx k]

/-- At 16 MHz the clock keeps exact time. -/
theorem ticks_forClock_sixteen_mhz : 1 ≤ (16000000 : UInt32).toNat ∧
    ∃ step, OverflowStep.forClock 16000000 = .ok step ∧
      step.millis.toNat * 1000000 + step.fract.toNat = 16384000000000 / (16000000 : UInt32).toNat ∧
      step.fract.toNat < 1000000 ∧
      (∀ k, ∃ c, ticks step k zero = .ok c ∧
        c.fract.toNat = k * (16384000000000 / (16000000 : UInt32).toNat) % 1000000 ∧
        c.millis.toNat = k * (16384000000000 / (16000000 : UInt32).toNat) / 1000000 % 4294967296 ∧
        (OverflowStep.isExact 16000000 = .ok true →
          c.millis.toNat = k * 16384000 / (16000000 : UInt32).toNat % 4294967296)) ∧
      (∀ (s : OverflowStep) (c : MillisCounter), s.fract.toNat < 1000000 →
        c.fract.toNat < 1000000 → ∀ k, ∃ c', ticks s k c = .ok c' ∧
          c'.fract.toNat = (c.millis.toNat * 1000000 + c.fract.toNat +
            k * (s.millis.toNat * 1000000 + s.fract.toNat)) % 1000000 ∧
          c'.millis.toNat = (c.millis.toNat * 1000000 + c.fract.toNat +
            k * (s.millis.toNat * 1000000 + s.fract.toNat)) / 1000000 % 4294967296) :=
  ⟨by decide, ticks_forClock_closed_form 16000000 (by decide)⟩

end MillisCounter

end Handclap
