import Handclap.Proofs.ConfigResolution
import Handclap.Firmware

/-!
# Runs of the peak tracker

The converter feeds the tracker one sample per conversion, so a run is a stream of samples.
`Tracker.after t s k` is the tracker after the first `k` samples of the stream `s`, and
`Tracker.clapAt t s k` says whether sample `k` completes a clap. `Phase.Moves` names what one
sample can do, one case for each branch of `Phase.step` (`moves_step`), and the proofs about runs
read a run through it and never through the step function.

The main statement, `debounce_exact`, is about the blind span after a clap. The next
`debounceSpan` samples are ignored whatever they are, the countdown shows how many of them are
left, and the tracker is seeking right after them; so two claps are at least the span plus two
samples apart, and a spike at every span-plus-two samples attains that gap. For a validated
configuration the span is the debounce in whole sample periods plus one: the blind time exceeds
the configured debounce, by at most one sample period.
-/

namespace Handclap

namespace Word

theorem subSat16_one_eq_zero {r : UInt16} (hr : r.toNat ≤ 1) : subSat16 r 1 = 0 := by
  apply UInt16.toNat_inj.mp
  rw [toNat_subSat16]
  simp only [UInt16.toNat_one, UInt16.toNat_zero]
  omega

theorem subSat16_one_of_two_le {r : UInt16} (hr : 2 ≤ r.toNat) : subSat16 r 1 = r - 1 := by
  have hle : (1 : UInt16) ≤ r := by
    rw [UInt16.le_iff_toNat_le, UInt16.toNat_one]
    omega
  simp [subSat16, hle]

theorem toNat_sub_one {r : UInt16} (hr : 1 ≤ r.toNat) : (r - 1).toNat = r.toNat - 1 := by
  have hle : (1 : UInt16) ≤ r := by
    rw [UInt16.le_iff_toNat_le, UInt16.toNat_one]
    exact hr
  rw [UInt16.toNat_sub_of_le _ _ hle, UInt16.toNat_one]

theorem sub_one_ne_zero {r : UInt16} (hr : 2 ≤ r.toNat) : r - 1 ≠ 0 := by
  intro h0
  have := congrArg UInt16.toNat h0
  rw [toNat_sub_one (by omega), UInt16.toNat_zero] at this
  omega

end Word

namespace Phase

/-- What one sample `v` does to the phase, one case for each branch of `Phase.step`; the flag
says whether the sample completes a clap. The swing is stated on exact numbers: the byte
subtraction `peak - v` runs only below the peak, where it does not wrap. -/
inductive Moves (p : Params) (v : UInt8) : Phase → Phase → Bool → Prop
  | countDown (r : UInt16) (hr : 2 ≤ r.toNat) :
      Moves p v (.debouncing r) (.debouncing (r - 1)) false
  | rearm (r : UInt16) (hr : r.toNat ≤ 1) : Moves p v (.debouncing r) .seeking false
  | rise (hv : p.maxThreshold ≤ v) : Moves p v .seeking (.tracking v p.peakTimeoutSamples) false
  | quiet (hv : v < p.maxThreshold) : Moves p v .seeking .seeking false
  | refresh (peak : UInt8) (r : UInt16) (hv : peak ≤ v) :
      Moves p v (.tracking peak r) (.tracking v p.peakTimeoutSamples) false
  | clap (peak : UInt8) (r : UInt16) (hv : v < peak) (hlow : v ≤ p.minThreshold)
      (hswing : p.peakDelta.toNat ≤ peak.toNat - v.toNat) :
      Moves p v (.tracking peak r) (.debouncing p.debounceSpan) true
  | fall (peak : UInt8) (r : UInt16) (hv : v < peak)
      (hmiss : ¬(v ≤ p.minThreshold ∧ p.peakDelta.toNat ≤ peak.toNat - v.toNat))
      (hr : 2 ≤ r.toNat) :
      Moves p v (.tracking peak r) (.tracking peak (r - 1)) false
  | expire (peak : UInt8) (r : UInt16) (hv : v < peak)
      (hmiss : ¬(v ≤ p.minThreshold ∧ p.peakDelta.toNat ≤ peak.toNat - v.toNat))
      (hr : r.toNat ≤ 1) :
      Moves p v (.tracking peak r) .seeking false

theorem moves_step (p : Params) (v : UInt8) (ph : Phase) :
    Moves p v ph (ph.step p v).1 (ph.step p v).2 := by
  cases ph with
  | debouncing r =>
    by_cases hr : r.toNat ≤ 1
    · simp only [step, Word.subSat16_one_eq_zero hr, if_true]
      exact .rearm r hr
    · have htwo : 2 ≤ r.toNat := by omega
      simp only [step, Word.subSat16_one_of_two_le htwo, Word.sub_one_ne_zero htwo, if_false]
      exact .countDown r htwo
  | seeking =>
    by_cases hv : p.maxThreshold ≤ v
    · simp only [step, hv, if_true]
      exact .rise hv
    · simp only [step, hv, if_false]
      exact .quiet (UInt8.not_le.mp hv)
  | tracking peak r =>
    by_cases hle : peak ≤ v
    · simp only [step, hle, if_true]
      exact .refresh peak r hle
    have hv : v < peak := UInt8.not_le.mp hle
    -- below the peak the byte subtraction is exact
    have hswing : p.peakDelta ≤ peak - v ↔ p.peakDelta.toNat ≤ peak.toNat - v.toNat := by
      rw [UInt8.le_iff_toNat_le, UInt8.toNat_sub_of_le _ _ (UInt8.le_of_lt hv)]
    by_cases hclap : v ≤ p.minThreshold ∧ p.peakDelta.toNat ≤ peak.toNat - v.toNat
    · have hc : v ≤ p.minThreshold ∧ p.peakDelta ≤ peak - v := ⟨hclap.1, hswing.mpr hclap.2⟩
      simp only [step, hle, hc, if_false]
      exact .clap peak r hv hclap.1 hclap.2
    have hc : ¬(v ≤ p.minThreshold ∧ p.peakDelta ≤ peak - v) := by
      rw [hswing]
      exact hclap
    by_cases hr : r.toNat ≤ 1
    · simp only [step, hle, hc, Word.subSat16_one_eq_zero hr, if_false, if_true]
      exact .expire peak r hv hclap hr
    · have htwo : 2 ≤ r.toNat := by omega
      simp only [step, hle, hc, Word.subSat16_one_of_two_le htwo, Word.sub_one_ne_zero htwo,
        if_false]
      exact .fall peak r hv hclap htwo

variable {p : Params} {v : UInt8} {ph ph' : Phase} {b : Bool}

/-- Only a clap raises the flag, and a clap starts the debounce. -/
theorem Moves.of_flag (h : Moves p v ph ph' true) :
    ∃ peak r, ph = .tracking peak r ∧ v < peak ∧ v ≤ p.minThreshold ∧
      p.peakDelta.toNat ≤ peak.toNat - v.toNat ∧ ph' = .debouncing p.debounceSpan := by
  cases h with
  | clap peak r hv hlow hswing => exact ⟨peak, r, rfl, hv, hlow, hswing, rfl⟩

theorem Moves.of_debouncing {r : UInt16} (h : Moves p v (.debouncing r) ph' b) :
    b = false ∧ (r.toNat ≤ 1 → ph' = .seeking) ∧ (2 ≤ r.toNat → ph' = .debouncing (r - 1)) := by
  cases h with
  | countDown _ hr => exact ⟨rfl, fun h => absurd hr (by omega), fun _ => rfl⟩
  | rearm _ hr => exact ⟨rfl, fun _ => rfl, fun h => absurd hr (by omega)⟩

theorem Moves.flag_of_seeking (h : Moves p v .seeking ph' b) : b = false := by
  cases h <;> rfl

theorem Moves.of_rise (h : Moves p v .seeking ph' b) (hv : p.maxThreshold ≤ v) :
    ph' = .tracking v p.peakTimeoutSamples := by
  cases h with
  | rise _ => rfl
  | quiet hq => exact absurd hv (UInt8.not_le.mpr hq)

theorem Moves.flag_of_tracking {peak : UInt8} {r : UInt16} (h : Moves p v (.tracking peak r) ph' b)
    (hv : v < peak) (hlow : v ≤ p.minThreshold)
    (hswing : p.peakDelta.toNat ≤ peak.toNat - v.toNat) : b = true := by
  cases h with
  | clap => rfl
  | refresh _ _ hle => exact absurd hv (UInt8.not_lt.mpr hle)
  | fall _ _ _ hmiss => exact absurd ⟨hlow, hswing⟩ hmiss
  | expire _ _ _ hmiss => exact absurd ⟨hlow, hswing⟩ hmiss

end Phase

namespace Tracker

/-- The tracker after the first `k` samples of the stream `s`. -/
def after (t : Tracker) (s : Nat → UInt8) : Nat → Tracker
  | 0 => t
  | k + 1 => ((t.after s k).step (s k)).1

/-- Whether sample `k` of the stream `s` completes a clap. -/
def clapAt (t : Tracker) (s : Nat → UInt8) (k : Nat) : Bool :=
  ((t.after s k).step (s k)).2

variable {t : Tracker} {s : Nat → UInt8}

@[simp] theorem after_zero (t : Tracker) (s : Nat → UInt8) : t.after s 0 = t := rfl

@[simp] theorem params_after (t : Tracker) (s : Nat → UInt8) (k : Nat) :
    (t.after s k).params = t.params := by
  induction k with
  | zero => rfl
  | succ k ih => exact ih

theorem phase_after_succ (t : Tracker) (s : Nat → UInt8) (k : Nat) :
    (t.after s (k + 1)).phase = ((t.after s k).phase.step t.params (s k)).1 := by
  rw [← params_after t s k]
  rfl

theorem clapAt_eq (t : Tracker) (s : Nat → UInt8) (k : Nat) :
    t.clapAt s k = ((t.after s k).phase.step t.params (s k)).2 := by
  rw [← params_after t s k]
  rfl

theorem moves_after (t : Tracker) (s : Nat → UInt8) (k : Nat) :
    Phase.Moves t.params (s k) (t.after s k).phase (t.after s (k + 1)).phase (t.clapAt s k) := by
  rw [phase_after_succ, clapAt_eq]
  exact Phase.moves_step t.params (s k) (t.after s k).phase

theorem phase_after_clap {n : Nat} (hclap : t.clapAt s n = true) :
    (t.after s (n + 1)).phase = .debouncing t.params.debounceSpan := by
  have h := moves_after t s n
  rw [hclap] at h
  obtain ⟨-, -, -, -, -, -, hph⟩ := h.of_flag
  exact hph

/-- A debounce of `r` samples, with `r ≥ 1`, ignores its samples and counts down: after `j` of
them, `j < r`, it has `r - j` left. -/
theorem after_of_debouncing {k : Nat} {r : UInt16} (h : (t.after s k).phase = .debouncing r)
    (hr : 1 ≤ r.toNat) : ∀ j, j < r.toNat →
      (t.after s (k + j)).phase = .debouncing (r.toNat - j).toUInt16 ∧ t.clapAt s (k + j) = false
  | 0, _ => by
    have hph : (t.after s k).phase = .debouncing (r.toNat - 0).toUInt16 := by simpa using h
    have hmv := moves_after t s k
    rw [h] at hmv
    exact ⟨hph, hmv.of_debouncing.1⟩
  | j + 1, hj => by
    obtain ⟨hph, -⟩ := after_of_debouncing h hr j (by omega)
    have hleft : ((r.toNat - j).toUInt16).toNat = r.toNat - j := by
      simp only [Nat.toUInt16_eq, UInt16.toNat_ofNat']
      exact Nat.mod_eq_of_lt (by have := r.toNat_lt; omega)
    have hmv := moves_after t s (k + j)
    rw [hph] at hmv
    have hnext := hmv.of_debouncing.2.2 (by omega)
    have heq : (r.toNat - j).toUInt16 - 1 = (r.toNat - (j + 1)).toUInt16 := by
      apply UInt16.toNat_inj.mp
      rw [Word.toNat_sub_one (by omega), hleft]
      simp only [Nat.toUInt16_eq, UInt16.toNat_ofNat']
      rw [Nat.mod_eq_of_lt (by have := r.toNat_lt; omega)]
      omega
    have hph' : (t.after s (k + (j + 1))).phase = .debouncing (r.toNat - (j + 1)).toUInt16 := by
      rw [← Nat.add_assoc, hnext, heq]
    have hmv' := moves_after t s (k + (j + 1))
    rw [hph'] at hmv'
    exact ⟨hph', hmv'.of_debouncing.1⟩

theorem after_debounced {k : Nat} {r : UInt16} (h : (t.after s k).phase = .debouncing r)
    (hr : 1 ≤ r.toNat) : (t.after s (k + r.toNat)).phase = .seeking := by
  obtain ⟨hph, -⟩ := after_of_debouncing h hr (r.toNat - 1) (by omega)
  have hone : ((r.toNat - (r.toNat - 1)).toUInt16).toNat ≤ 1 := by
    simp only [Nat.toUInt16_eq, UInt16.toNat_ofNat']
    omega
  have hmv := moves_after t s (k + (r.toNat - 1))
  rw [hph] at hmv
  have hseek := hmv.of_debouncing.2.1 hone
  rwa [Nat.add_assoc, Nat.sub_add_cancel hr] at hseek

theorem after_rise {k : Nat} (h : (t.after s k).phase = .seeking)
    (hv : t.params.maxThreshold ≤ s k) :
    (t.after s (k + 1)).phase = .tracking (s k) t.params.peakTimeoutSamples := by
  have hmv := moves_after t s k
  rw [h] at hmv
  exact hmv.of_rise hv

theorem clapAt_of_tracking {k : Nat} {peak : UInt8} {r : UInt16}
    (h : (t.after s k).phase = .tracking peak r) (hv : s k < peak)
    (hlow : s k ≤ t.params.minThreshold)
    (hswing : t.params.peakDelta.toNat ≤ peak.toNat - (s k).toNat) : t.clapAt s k = true := by
  have hmv := moves_after t s k
  rw [h] at hmv
  exact hmv.flag_of_tracking hv hlow hswing

theorem one_le_debounceSpan (p : Params) : 1 ≤ p.debounceSpan.toNat := by
  rw [p.toNat_debounceSpan]
  omega

/-- After a clap the next `debounceSpan` samples are ignored: after `j` of them, `j` below the
span, the countdown shows the rest of the span. -/
theorem blind_after_clap {n : Nat} (hclap : t.clapAt s n = true) (j : Nat)
    (hj : j < t.params.debounceSpan.toNat) :
    (t.after s (n + 1 + j)).phase = .debouncing (t.params.debounceSpan.toNat - j).toUInt16 ∧
      t.clapAt s (n + 1 + j) = false :=
  after_of_debouncing (phase_after_clap hclap) (one_le_debounceSpan _) j hj

theorem seeking_after_clap {n : Nat} (hclap : t.clapAt s n = true) :
    (t.after s (n + 1 + t.params.debounceSpan.toNat)).phase = .seeking :=
  after_debounced (phase_after_clap hclap) (one_le_debounceSpan _)

/-- Two claps are at least the debounce span plus two samples apart: the span is blind, and
the sample after it can only start a candidate. -/
theorem clap_gap {n n₂ : Nat} (hclap : t.clapAt s n = true) (hlt : n < n₂)
    (hclap₂ : t.clapAt s n₂ = true) : n + t.params.debounceSpan.toNat + 2 ≤ n₂ := by
  apply Nat.le_of_not_lt
  intro hnear
  by_cases hblind : n₂ ≤ n + t.params.debounceSpan.toNat
  · obtain ⟨-, hquiet⟩ := blind_after_clap hclap (n₂ - n - 1) (by omega)
    rw [show n + 1 + (n₂ - n - 1) = n₂ by omega, hclap₂] at hquiet
    exact Bool.noConfusion hquiet
  · have hseek := seeking_after_clap hclap
    rw [show n + 1 + t.params.debounceSpan.toNat = n₂ by omega] at hseek
    have hmv := moves_after t s n₂
    rw [hseek, hclap₂] at hmv
    exact Bool.noConfusion hmv.flag_of_seeking

/-- A spike every span-plus-two samples, a full-scale sample followed by silence, claps at
samples `1` and `span + 3`: the gap of `clap_gap` is attained, whatever the tuning. -/
theorem clap_gap_attained (p : Params) :
    ∃ s : Nat → UInt8, (Tracker.new p).clapAt s 1 = true ∧
      (Tracker.new p).clapAt s (p.debounceSpan.toNat + 3) = true := by
  let W := p.debounceSpan.toNat
  let spike : Nat → UInt8 := fun k => if k % (W + 2) = 0 then 255 else 0
  have hW := one_le_debounceSpan p
  have hpair : ∀ k, ((Tracker.new p).after spike k).phase = .seeking → k % (W + 2) = 0 →
      (Tracker.new p).clapAt spike (k + 1) = true := by
    intro k hseek hk
    have hk1 : (k + 1) % (W + 2) = 1 := by
      rw [Nat.add_mod, hk, Nat.zero_add, Nat.mod_mod, Nat.mod_eq_of_lt (by omega : 1 < W + 2)]
    have hpeak : spike k = 255 := by simp only [spike, hk, if_true]
    have hzero : spike (k + 1) = 0 := by simp only [spike, hk1]; rfl
    have hmax := p.maxThreshold.toNat_lt
    have hdelta := p.peakDelta.toNat_lt
    have hrise := after_rise hseek (by rw [hpeak, UInt8.le_iff_toNat_le]; exact Nat.le_of_lt_succ hmax)
    rw [hpeak] at hrise
    apply clapAt_of_tracking hrise
    · rw [hzero]
      decide
    · rw [hzero, UInt8.le_iff_toNat_le]
      exact Nat.zero_le _
    · rw [hzero]
      exact Nat.le_of_lt_succ hdelta
  have hfirst := hpair 0 rfl (Nat.zero_mod _)
  have hagain := seeking_after_clap hfirst
  refine ⟨spike, hfirst, ?_⟩
  have hsecond := hpair (1 + 1 + W) hagain (by rw [show 1 + 1 + W = W + 2 by omega, Nat.mod_self])
  rwa [show 1 + 1 + W + 1 = W + 3 by omega] at hsecond

end Tracker

/-- For a validated configuration the debounce span is the debounce in whole sample periods
plus one: the blind time is more than the configured debounce, by at most one sample period. -/
theorem Config.debounceSpan_of_validate {c : Config} {cpuHz : UInt32} {p : Params}
    (h : c.validate cpuHz = .ok p) :
    p.debounceSpan.toNat = c.debounceMs.toNat * 1000 / p.samplePeriodUs.toNat + 1 ∧
      c.debounceMs.toNat * 1000 < p.debounceSpan.toNat * p.samplePeriodUs.toNat ∧
      p.debounceSpan.toNat * p.samplePeriodUs.toNat ≤
        c.debounceMs.toNat * 1000 + p.samplePeriodUs.toNat := by
  obtain ⟨-, hacc, -, -, -, hdebounce⟩ := Config.validate_eq_ok h
  have hle := hacc.debounce_le
  have hpos := hacc.period_pos
  have hspan : p.debounceSpan.toNat = c.debounceMs.toNat * 1000 / p.samplePeriodUs.toNat + 1 := by
    rw [p.toNat_debounceSpan, hdebounce]
    exact Nat.min_eq_left (by omega)
  refine ⟨hspan, ?_, ?_⟩ <;> rw [hspan, Nat.succ_mul]
  · exact Nat.lt_div_mul_add hpos
  · exact Nat.add_le_add_right (Nat.div_mul_le_self _ _) _

namespace Tracker

/-- The debounce is exact and ignores its input. After a clap at sample `n`, the next `W`
samples report nothing whatever they are, where `W` is the debounce window held at 65535; after
`j` of them the tracker is debouncing with `W - j` left, and after all `W` it is seeking. Two claps
are therefore at least `W + 2` samples apart, and some stream attains that gap. For a validated
configuration `W` is the debounce in whole sample periods plus one, so the blind time is more
than the configured debounce, by at most one sample period. -/
theorem debounce_exact (t : Tracker) (s : Nat → UInt8) (n : Nat) (hclap : t.clapAt s n = true) :
    t.params.debounceSpan.toNat = min (t.params.debounceSamples.toNat + 1) 65535 ∧
    (∀ j, 1 ≤ j → j ≤ t.params.debounceSpan.toNat → t.clapAt s (n + j) = false) ∧
    (∀ j, 1 ≤ j → j < t.params.debounceSpan.toNat →
      (t.after s (n + 1 + j)).phase = .debouncing (t.params.debounceSpan.toNat - j).toUInt16) ∧
    (t.after s (n + 1 + t.params.debounceSpan.toNat)).phase = .seeking ∧
    (∀ n₂, n < n₂ → t.clapAt s n₂ = true → n + t.params.debounceSpan.toNat + 2 ≤ n₂) ∧
    (∃ s' : Nat → UInt8, (Tracker.new t.params).clapAt s' 1 = true ∧
      (Tracker.new t.params).clapAt s' (t.params.debounceSpan.toNat + 3) = true) ∧
    ∀ (c : Config) (cpuHz : UInt32), c.validate cpuHz = .ok t.params →
      t.params.debounceSpan.toNat =
          c.debounceMs.toNat * 1000 / t.params.samplePeriodUs.toNat + 1 ∧
        c.debounceMs.toNat * 1000 < t.params.debounceSpan.toNat * t.params.samplePeriodUs.toNat ∧
        t.params.debounceSpan.toNat * t.params.samplePeriodUs.toNat ≤
          c.debounceMs.toNat * 1000 + t.params.samplePeriodUs.toNat := by
  refine ⟨t.params.toNat_debounceSpan, fun j hj hjW => ?_, fun j _ hjW => ?_,
    seeking_after_clap hclap, fun n₂ hlt h₂ => clap_gap hclap hlt h₂,
    clap_gap_attained t.params, fun c cpuHz h => Config.debounceSpan_of_validate h⟩
  · have hquiet := (blind_after_clap hclap (j - 1) (by omega)).2
    rwa [show n + 1 + (j - 1) = n + j by omega] at hquiet
  · exact (blind_after_clap hclap j hjW).1

/-- The firmware's tracker claps on a spike of 200 followed by silence, and the debounce after
that clap is exact. -/
theorem debounce_exact_after_spike :
    (Tracker.new Firmware.clapParams).clapAt (fun k => if k = 0 then 200 else 0) 1 = true ∧
    (Tracker.new Firmware.clapParams).params.debounceSpan.toNat =
      min ((Tracker.new Firmware.clapParams).params.debounceSamples.toNat + 1) 65535 ∧
    (∀ j, 1 ≤ j → j ≤ (Tracker.new Firmware.clapParams).params.debounceSpan.toNat →
      (Tracker.new Firmware.clapParams).clapAt (fun k => if k = 0 then 200 else 0) (1 + j) =
        false) ∧
    (∀ j, 1 ≤ j → j < (Tracker.new Firmware.clapParams).params.debounceSpan.toNat →
      ((Tracker.new Firmware.clapParams).after (fun k => if k = 0 then 200 else 0)
        (1 + 1 + j)).phase =
          .debouncing ((Tracker.new Firmware.clapParams).params.debounceSpan.toNat - j).toUInt16) ∧
    ((Tracker.new Firmware.clapParams).after (fun k => if k = 0 then 200 else 0)
      (1 + 1 + (Tracker.new Firmware.clapParams).params.debounceSpan.toNat)).phase = .seeking ∧
    (∀ n₂, 1 < n₂ →
      (Tracker.new Firmware.clapParams).clapAt (fun k => if k = 0 then 200 else 0) n₂ = true →
        1 + (Tracker.new Firmware.clapParams).params.debounceSpan.toNat + 2 ≤ n₂) ∧
    (∃ s' : Nat → UInt8,
      (Tracker.new (Tracker.new Firmware.clapParams).params).clapAt s' 1 = true ∧
      (Tracker.new (Tracker.new Firmware.clapParams).params).clapAt s'
        ((Tracker.new Firmware.clapParams).params.debounceSpan.toNat + 3) = true) ∧
    ∀ (c : Config) (cpuHz : UInt32),
      c.validate cpuHz = .ok (Tracker.new Firmware.clapParams).params →
      (Tracker.new Firmware.clapParams).params.debounceSpan.toNat =
          c.debounceMs.toNat * 1000 /
            (Tracker.new Firmware.clapParams).params.samplePeriodUs.toNat + 1 ∧
        c.debounceMs.toNat * 1000 <
          (Tracker.new Firmware.clapParams).params.debounceSpan.toNat *
            (Tracker.new Firmware.clapParams).params.samplePeriodUs.toNat ∧
        (Tracker.new Firmware.clapParams).params.debounceSpan.toNat *
            (Tracker.new Firmware.clapParams).params.samplePeriodUs.toNat ≤
          c.debounceMs.toNat * 1000 + (Tracker.new Firmware.clapParams).params.samplePeriodUs.toNat :=
  have hclap : (Tracker.new Firmware.clapParams).clapAt (fun k => if k = 0 then 200 else 0) 1 =
      true := by decide
  ⟨hclap, debounce_exact _ _ 1 hclap⟩

end Tracker

end Handclap
