import Handclap.Proofs.TrackerRuns

/-!
# The tracker reports exactly the spikes

A clap is a rise to the upper threshold followed, within the peak timeout, by a fall to the lower
threshold with enough swing. This module proves that the tracker reports such spikes and
nothing else, over every stream of samples.

*No false claps* (`clap_has_own_peak`). In a run that starts seeking, every clap has its own
rising sample: the sample it was measured from reached the upper threshold, nothing since was as
loud, the fall covers the peak delta within the timeout, and the rising sample comes after the
debounce of the clap before. The history behind a candidate peak is `Tracker.PeakOrigin`, carried
by `tracking_origin` through every sample.

*No missed claps* (`spike_from_idle_reported`). A spike that starts while the tracker is seeking
and falls far enough within the timeout is reported, whatever the samples in between: a louder
one only raises the peak and restarts the timeout (`held_until`).
-/

namespace Handclap

namespace Tracker

variable {t : Tracker} {s : Nat → UInt8}

/-- The history behind a candidate `peak` with `r` samples of timeout left after `k` samples: it
was taken from sample `m`, an earlier sample at the upper threshold that the tracker was armed
for. Every sample since was quieter, each spent one sample of the timeout without leaving a
nonzero timeout at zero, and none of them clapped. -/
structure PeakOrigin (t : Tracker) (s : Nat → UInt8) (k : Nat) (peak : UInt8) (r : UInt16)
    (m : Nat) : Prop where
  before : m < k
  sample : s m = peak
  high : t.params.maxThreshold ≤ peak
  below : ∀ j, m < j → j < k → s j < peak
  spent : r.toNat + (k - m - 1) = t.params.peakTimeoutSamples.toNat
  live : 1 ≤ t.params.peakTimeoutSamples.toNat → 1 ≤ r.toNat
  silent : ∀ j, m ≤ j → j < k → t.clapAt s j = false
  armed : ∀ d, (t.after s m).phase ≠ .debouncing d

/-- In a run that starts seeking, every candidate peak has its history. The induction is on the
samples; one sample either starts the candidate (from seeking, or louder than the last one) or
spends one sample of its timeout, and a clap or an expiry ends it. -/
theorem tracking_origin (ht : t.phase = .seeking) :
    ∀ k {peak : UInt8} {r : UInt16}, (t.after s k).phase = .tracking peak r →
      ∃ m, t.PeakOrigin s k peak r m
  | 0, peak, r, h => by
    rw [after_zero, ht] at h
    exact Phase.noConfusion h
  | k + 1, peak, r, h => by
    have hmv := moves_after t s k
    rw [h] at hmv
    generalize hph : (t.after s k).phase = ph at hmv
    generalize hb : t.clapAt s k = b at hmv
    cases hmv with
    | rise hv =>
      refine ⟨k, ⟨by omega, rfl, hv, fun j _ _ => by omega, by omega, id, fun j _ _ => ?_,
        fun d => by rw [hph]; exact Phase.noConfusion⟩⟩
      rwa [show j = k by omega]
    | refresh peak₀ r₀ hle =>
      obtain ⟨m₀, horigin⟩ := tracking_origin ht k hph
      have hhigh : t.params.maxThreshold ≤ s k := UInt8.le_trans horigin.high hle
      refine ⟨k, ⟨by omega, rfl, hhigh, fun j _ _ => by omega, by omega, id, fun j _ _ => ?_,
        fun d => by rw [hph]; exact Phase.noConfusion⟩⟩
      rwa [show j = k by omega]
    | fall _ r₀ hv _ hr =>
      obtain ⟨m, horigin⟩ := tracking_origin ht k hph
      have hleft := Word.toNat_sub_one (r := r₀) (by omega)
      have hbefore := horigin.before
      refine ⟨m, ⟨by omega, horigin.sample, horigin.high, fun j hmj hjk => ?_, ?_,
        fun _ => by omega, fun j hmj hjk => ?_, horigin.armed⟩⟩
      · rcases Nat.lt_succ_iff_lt_or_eq.mp hjk with hjk | rfl
        · exact horigin.below j hmj hjk
        · exact hv
      · have := horigin.spent
        omega
      · rcases Nat.lt_succ_iff_lt_or_eq.mp hjk with hjk | rfl
        · exact horigin.silent j hmj hjk
        · exact hb

/-- Every clap of a run that starts seeking, with a nonzero peak timeout, was measured from a
rising sample of its own: one at the upper threshold, louder than every sample up to the clap,
at most the timeout before it, with a fall that covers the peak delta, and after the debounce of
every earlier clap. -/
theorem clap_origin (ht : t.phase = .seeking) (hT : 1 ≤ t.params.peakTimeoutSamples.toNat)
    {n : Nat} (hclap : t.clapAt s n = true) :
    s n ≤ t.params.minThreshold ∧
    ∃ m < n, t.params.maxThreshold ≤ s m ∧ (∀ j, m ≤ j → j < n → s j ≤ s m) ∧
      t.params.peakDelta.toNat ≤ (s m).toNat - (s n).toNat ∧
      n - m ≤ t.params.peakTimeoutSamples.toNat ∧
      ∀ n' < n, t.clapAt s n' = true → n' + t.params.debounceSpan.toNat < m := by
  have hmv := moves_after t s n
  rw [hclap] at hmv
  obtain ⟨peak, r, hph, hv, hlow, hswing, -⟩ := hmv.of_flag
  obtain ⟨m, horigin⟩ := tracking_origin ht n hph
  have hsample := horigin.sample
  have hspent := horigin.spent
  have hlive := horigin.live hT
  refine ⟨hlow, m, horigin.before, hsample ▸ horigin.high, fun j hmj hjn => ?_, hsample ▸ hswing,
    by omega, fun n' hn' hclap' => ?_⟩
  · rcases Nat.eq_or_lt_of_le hmj with rfl | hmj
    · exact UInt8.le_refl _
    · rw [hsample]
      exact UInt8.le_of_lt (horigin.below j hmj hjn)
  -- the earlier clap came before the rising sample, which the debounce after it would have hidden
  have hbefore : n' < m := by
    apply Nat.lt_of_not_le
    intro hmn'
    have := horigin.silent n' hmn' hn'
    rw [hclap'] at this
    exact Bool.noConfusion this
  apply Nat.lt_of_not_le
  intro hnear
  obtain ⟨hdeb, -⟩ := blind_after_clap hclap' (m - n' - 1) (by omega)
  rw [show n' + 1 + (m - n' - 1) = m by omega] at hdeb
  exact horigin.armed _ hdeb

/-- The tracker reports no false claps. In a run that starts seeking (a new tracker, or one just
reset), with a nonzero peak timeout, a clap at sample `n` comes from a low sample, and from a
rising sample `m` before it that reached the upper threshold, was the loudest of the samples from
`m` to `n`, lies at most the timeout before `n`, falls by at least the peak delta to sample `n`,
and comes after the debounce window of every earlier clap. So a stream that stays below the upper
threshold never reports, and one with at most one sample at it reports at most once. -/
theorem clap_has_own_peak (t : Tracker) (s : Nat → UInt8) (ht : t.phase = .seeking)
    (hT : 1 ≤ t.params.peakTimeoutSamples.toNat) :
    (∀ n, t.clapAt s n = true →
      s n ≤ t.params.minThreshold ∧
      ∃ m < n, t.params.maxThreshold ≤ s m ∧ (∀ j, m ≤ j → j < n → s j ≤ s m) ∧
        t.params.peakDelta.toNat ≤ (s m).toNat - (s n).toNat ∧
        n - m ≤ t.params.peakTimeoutSamples.toNat ∧
        ∀ n' < n, t.clapAt s n' = true →
          n' + min (t.params.debounceSamples.toNat + 1) 65535 < m) ∧
    ((∀ k, s k < t.params.maxThreshold) → ∀ n, t.clapAt s n = false) ∧
    ((∀ i j, t.params.maxThreshold ≤ s i → t.params.maxThreshold ≤ s j → i = j) →
      ∀ n₁ n₂, t.clapAt s n₁ = true → t.clapAt s n₂ = true → n₁ = n₂) := by
  rw [← t.params.toNat_debounceSpan]
  refine ⟨fun n hclap => clap_origin ht hT hclap, fun hquiet n => ?_, fun hone n₁ n₂ h₁ h₂ => ?_⟩
  · apply Bool.eq_false_iff.mpr
    intro hclap
    obtain ⟨-, m, -, hhigh, -⟩ := clap_origin ht hT hclap
    exact absurd hhigh (UInt8.not_le.mpr (hquiet m))
  · -- two claps would rise from two different samples, each after the other's clap
    obtain ⟨-, m₁, hm₁, hhigh₁, -, -, -, hafter₁⟩ := clap_origin ht hT h₁
    obtain ⟨-, m₂, hm₂, hhigh₂, -, -, -, hafter₂⟩ := clap_origin ht hT h₂
    have hsame := hone m₁ m₂ hhigh₁ hhigh₂
    rcases Nat.lt_trichotomy n₁ n₂ with hlt | heq | hgt
    · have := hafter₂ n₁ hlt h₁
      omega
    · exact heq
    · have := hafter₁ n₂ hgt h₂
      omega

/-- A fresh tracker at the firmware's tuning, fed a spike of 200 and then silence, reports only
claps with their own rising sample. -/
theorem clap_has_own_peak_after_spike :
    (Tracker.new Firmware.clapParams).phase = .seeking ∧
    1 ≤ (Tracker.new Firmware.clapParams).params.peakTimeoutSamples.toNat ∧
    (∀ n, (Tracker.new Firmware.clapParams).clapAt (fun k => if k = 0 then 200 else 0) n = true →
      (fun k => if k = 0 then (200 : UInt8) else 0) n ≤
          (Tracker.new Firmware.clapParams).params.minThreshold ∧
      ∃ m < n, (Tracker.new Firmware.clapParams).params.maxThreshold ≤
          (fun k => if k = 0 then (200 : UInt8) else 0) m ∧
        (∀ j, m ≤ j → j < n → (fun k => if k = 0 then (200 : UInt8) else 0) j ≤
          (fun k => if k = 0 then (200 : UInt8) else 0) m) ∧
        (Tracker.new Firmware.clapParams).params.peakDelta.toNat ≤
          ((fun k => if k = 0 then (200 : UInt8) else 0) m).toNat -
            ((fun k => if k = 0 then (200 : UInt8) else 0) n).toNat ∧
        n - m ≤ (Tracker.new Firmware.clapParams).params.peakTimeoutSamples.toNat ∧
        ∀ n' < n, (Tracker.new Firmware.clapParams).clapAt
            (fun k => if k = 0 then 200 else 0) n' = true →
          n' + min ((Tracker.new Firmware.clapParams).params.debounceSamples.toNat + 1) 65535 <
            m) ∧
    ((∀ k, (fun k => if k = 0 then (200 : UInt8) else 0) k <
        (Tracker.new Firmware.clapParams).params.maxThreshold) →
      ∀ n, (Tracker.new Firmware.clapParams).clapAt (fun k => if k = 0 then 200 else 0) n =
        false) ∧
    ((∀ i j, (Tracker.new Firmware.clapParams).params.maxThreshold ≤
          (fun k => if k = 0 then (200 : UInt8) else 0) i →
        (Tracker.new Firmware.clapParams).params.maxThreshold ≤
          (fun k => if k = 0 then (200 : UInt8) else 0) j → i = j) →
      ∀ n₁ n₂,
        (Tracker.new Firmware.clapParams).clapAt (fun k => if k = 0 then 200 else 0) n₁ = true →
        (Tracker.new Firmware.clapParams).clapAt (fun k => if k = 0 then 200 else 0) n₂ = true →
          n₁ = n₂) :=
  have hT : 1 ≤ (Tracker.new Firmware.clapParams).params.peakTimeoutSamples.toNat := by decide
  ⟨rfl, hT, clap_has_own_peak _ _ rfl hT⟩

/-- From a candidate taken at a seeking sample `m`, up to any sample `j ≤ n` inside the timeout:
either a clap came in between, or the tracker still holds a peak at least as loud as sample `m`
with at least the rest of the timeout left. -/
theorem held_until {m n : Nat} (hseek : (t.after s m).phase = .seeking)
    (hhigh : t.params.maxThreshold ≤ s m) (hwin : n ≤ m + t.params.peakTimeoutSamples.toNat) :
    ∀ d, m + 1 + d ≤ n →
      (∃ i, m < i ∧ i < m + 1 + d ∧ t.clapAt s i = true) ∨
      ∃ peak r, (t.after s (m + 1 + d)).phase = .tracking peak r ∧ s m ≤ peak ∧
        t.params.peakTimeoutSamples.toNat ≤ r.toNat + d
  | 0, _ => .inr ⟨s m, _, after_rise hseek hhigh, UInt8.le_refl _, by omega⟩
  | d + 1, hd => by
    rcases held_until hseek hhigh hwin d (by omega) with ⟨i, hmi, hid, hclap⟩ | ⟨peak, r, hph, hle, hleft⟩
    · exact .inl ⟨i, hmi, by omega, hclap⟩
    have hmv := moves_after t s (m + 1 + d)
    rw [hph, show m + 1 + d + 1 = m + 1 + (d + 1) by omega] at hmv
    generalize hnext : (t.after s (m + 1 + (d + 1))).phase = ph' at hmv
    generalize hb : t.clapAt s (m + 1 + d) = b at hmv
    cases hmv with
    | refresh _ _ hv => exact .inr ⟨s (m + 1 + d), _, rfl, UInt8.le_trans hle hv, by omega⟩
    | clap => exact .inl ⟨m + 1 + d, by omega, by omega, hb⟩
    | fall _ _ _ _ hr =>
      have := Word.toNat_sub_one (r := r) (by omega)
      exact .inr ⟨peak, r - 1, rfl, hle, by omega⟩
    | expire _ _ _ _ hr =>
      omega

/-- The tracker misses no spike that starts from idle. With the lower threshold below the upper
one, if the tracker is seeking when sample `m` reaches the upper threshold, and some later sample
`n`, at most the peak timeout after `m`, reaches the lower threshold with a fall of at least the
peak delta from sample `m`, then a clap is reported at one of the samples after `m` up to `n`,
whatever the samples in between. (A timeout that admits such an `n` is at least one sample.) -/
theorem spike_from_idle_reported (t : Tracker) (s : Nat → UInt8) (m n : Nat)
    (hord : t.params.minThreshold < t.params.maxThreshold)
    (hseek : (t.after s m).phase = .seeking) (hhigh : t.params.maxThreshold ≤ s m)
    (hmn : m < n) (hwin : n ≤ m + t.params.peakTimeoutSamples.toNat)
    (hlow : s n ≤ t.params.minThreshold)
    (hswing : t.params.peakDelta.toNat ≤ (s m).toNat - (s n).toNat) :
    ∃ j, m < j ∧ j ≤ n ∧ t.clapAt s j = true := by
  rcases held_until hseek hhigh hwin (n - m - 1) (by omega) with ⟨i, hmi, hin, hclap⟩ |
    ⟨peak, r, hph, hle, -⟩
  · exact ⟨i, hmi, by omega, hclap⟩
  rw [show m + 1 + (n - m - 1) = n by omega] at hph
  have hlt : s n < peak := by
    rw [UInt8.lt_iff_toNat_lt]
    rw [UInt8.le_iff_toNat_le] at hle hhigh hlow
    rw [UInt8.lt_iff_toNat_lt] at hord
    omega
  have hswing' : t.params.peakDelta.toNat ≤ peak.toNat - (s n).toNat := by
    rw [UInt8.le_iff_toNat_le] at hle
    omega
  exact ⟨n, hmn, Nat.le_refl n, clapAt_of_tracking hph hlt hlow hswing'⟩

/-- A fresh tracker at the firmware's tuning catches a spike of 150 whose candidate a louder 160
refreshes before the signal falls to zero at the end of the timeout. -/
theorem spike_from_idle_reported_refreshed :
    (Tracker.new Firmware.clapParams).params.minThreshold <
        (Tracker.new Firmware.clapParams).params.maxThreshold ∧
      ((Tracker.new Firmware.clapParams).after
        (fun k => if k = 0 then 150 else if k = 11 then 160 else if k = 19 then 0 else 100)
        0).phase = .seeking ∧
      (Tracker.new Firmware.clapParams).params.maxThreshold ≤ 150 ∧ 0 < 19 ∧
      19 ≤ 0 + (Tracker.new Firmware.clapParams).params.peakTimeoutSamples.toNat ∧
      (0 : UInt8) ≤ (Tracker.new Firmware.clapParams).params.minThreshold ∧
      (Tracker.new Firmware.clapParams).params.peakDelta.toNat ≤
        (150 : UInt8).toNat - (0 : UInt8).toNat ∧
      ∃ j, 0 < j ∧ j ≤ 19 ∧ (Tracker.new Firmware.clapParams).clapAt
        (fun k => if k = 0 then 150 else if k = 11 then 160 else if k = 19 then 0 else 100) j =
          true :=
  have hord : (Tracker.new Firmware.clapParams).params.minThreshold <
      (Tracker.new Firmware.clapParams).params.maxThreshold := by decide
  have hhigh : (Tracker.new Firmware.clapParams).params.maxThreshold ≤ 150 := by decide
  have hwin : 19 ≤ 0 + (Tracker.new Firmware.clapParams).params.peakTimeoutSamples.toNat := by
    decide
  have hlow : (0 : UInt8) ≤ (Tracker.new Firmware.clapParams).params.minThreshold := by decide
  have hswing : (Tracker.new Firmware.clapParams).params.peakDelta.toNat ≤
      (150 : UInt8).toNat - (0 : UInt8).toNat := by decide
  ⟨hord, rfl, hhigh, by decide, hwin, hlow, hswing,
    spike_from_idle_reported _ _ 0 19 hord rfl hhigh (by decide) hwin hlow hswing⟩

end Tracker

end Handclap
