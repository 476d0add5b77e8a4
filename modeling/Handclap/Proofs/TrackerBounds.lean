import Handclap.Proofs.TrackerRuns
import Handclap.Bench

/-!
# Bounds the tracker's phases keep

Whatever samples and resets a tracker on the tuning `p` is given, its phase stays within
`Phase.Bounded p`: a candidate peak is at or above the upper threshold, with at most the peak
timeout left, and with at least one sample left when that timeout is positive; a debounce has at
least one sample left and at most the debounce window, held at 65535. One sample keeps the bounds
(`Phase.Moves.bounded`); a reset and a fresh tracker are seeking. The same holds of the detector,
whose tracker sits beside the ledger it shares with the main loop: its tracker runs exactly the
tracker's part of the detector's calls (`Bench.tracker_calls`), and a reset keeps the ledger.

The arithmetic of one sample needs no bounds at all. `Phase.stepWords` is the sample in the
firmware's own words, where the fall from the peak is a checked byte subtraction and the debounce
window a checked 32-bit sum; from every phase and every sample it never faults and agrees with
`Phase.step` (`Phase.stepWords_eq`).

Main statement: `Tracker.phases_stay_bounded`.
-/

namespace Handclap

namespace Phase

/-- The bounds a phase of a tracker on `p` keeps. A candidate peak is at or above the upper
threshold, with at most the peak timeout left, and with at least one sample left when the
timeout is positive. A debounce has at least one sample left and at most the debounce window,
held at 65535. -/
def Bounded (p : Params) : Phase → Prop
  | .seeking => True
  | .tracking peak r => p.maxThreshold ≤ peak ∧ r.toNat ≤ p.peakTimeoutSamples.toNat ∧
      (1 ≤ p.peakTimeoutSamples.toNat → 1 ≤ r.toNat)
  | .debouncing r => 1 ≤ r.toNat ∧ r.toNat ≤ min (p.debounceSamples.toNat + 1) 65535

instance (p : Params) : DecidablePred (Bounded p)
  | .seeking => inferInstanceAs (Decidable True)
  | .tracking _ _ => inferInstanceAs (Decidable (_ ∧ _ ∧ _))
  | .debouncing _ => inferInstanceAs (Decidable (_ ∧ _))

@[simp] theorem bounded_seeking (p : Params) : Bounded p .seeking := trivial

variable {p : Params} {v : UInt8} {ph ph' : Phase} {b : Bool}

/-- One sample keeps the bounds. A new or refreshed candidate starts the whole timeout and a clap
the whole blind span; a countdown that goes on was at two or more, so it stays at one or more. -/
theorem Moves.bounded (h : Moves p v ph ph' b) (hb : ph.Bounded p) : ph'.Bounded p := by
  cases h with
  | countDown r hr =>
    obtain ⟨-, hle⟩ := hb
    have hdown := Word.toNat_sub_one (r := r) (by omega)
    exact ⟨by omega, by omega⟩
  | rearm | quiet | expire => trivial
  | rise hv => exact ⟨hv, Nat.le_refl _, id⟩
  | refresh peak r hv => exact ⟨UInt8.le_trans hb.1 hv, Nat.le_refl _, id⟩
  | clap => exact ⟨Tracker.one_le_debounceSpan p, Nat.le_of_eq p.toNat_debounceSpan⟩
  | fall peak r hv hmiss hr =>
    obtain ⟨hpeak, hle, -⟩ := hb
    have hdown := Word.toNat_sub_one (r := r) (by omega)
    exact ⟨hpeak, by omega, fun _ => by omega⟩

theorem bounded_step (p : Params) (v : UInt8) (hb : ph.Bounded p) : (ph.step p v).1.Bounded p :=
  (moves_step p v ph).bounded hb

/-- One sample in the firmware's own words. The fall from the peak is a checked byte subtraction,
made only for a sample at or below the lower threshold, as `&&` stops at its first false operand;
the debounce window is a checked 32-bit sum, clamped to 65535 and narrowed to 16 bits. -/
def stepWords (p : Params) (v : UInt8) : Phase → Except Fault (Phase × Bool)
  | .debouncing remaining =>
    let left := Word.subSat16 remaining 1
    pure (if left = 0 then .seeking else .debouncing left, false)
  | .seeking =>
    pure (if p.maxThreshold ≤ v then .tracking v p.peakTimeoutSamples else .seeking, false)
  | .tracking peak remaining => do
    if peak ≤ v then return (.tracking v p.peakTimeoutSamples, false)
    let clap ← if v ≤ p.minThreshold then
        (fun fall => decide (p.peakDelta ≤ fall)) <$> Word.subChecked8 peak v
      else pure false
    if clap then
      let window ← Word.addChecked32 p.debounceSamples.toUInt32 1
      return (.debouncing (min window 65535).toUInt16, true)
    let left := Word.subSat16 remaining 1
    return (if left = 0 then .seeking else .tracking peak left, false)

theorem toUInt16_min_debounceWindow (p : Params) :
    (min p.debounceWindow 65535).toUInt16 = p.debounceSpan := by
  apply UInt16.toNat_inj.mp
  rw [UInt32.toNat_toUInt16, Params.toNat_debounceSpan, ← Params.toNat_debounceWindow]
  -- the clamp is the word's own `min`, a comparison and a choice
  show (if p.debounceWindow ≤ 65535 then p.debounceWindow else 65535).toNat % 2 ^ 16 = _
  split
  · next hle =>
    have hlt := UInt32.le_iff_toNat_le.mp hle
    simp only [UInt32.reduceToNat] at hlt
    omega
  · next hgt =>
    have hlt := UInt32.lt_iff_toNat_lt.mp (UInt32.not_le.mp hgt)
    simp only [UInt32.reduceToNat] at hlt ⊢
    omega

/-- From every phase and every sample, the firmware's arithmetic never faults and gives the
model's step: the fall from the peak is taken only below the peak, and the debounce window fits
its word. -/
theorem stepWords_eq (p : Params) (v : UInt8) (ph : Phase) :
    ph.stepWords p v = .ok (ph.step p v) := by
  cases ph with
  | debouncing r => rfl
  | seeking => rfl
  | tracking peak r =>
    by_cases hle : peak ≤ v
    · simp only [stepWords, step, hle, if_true, pure, Except.pure]
    have hfall : Word.subChecked8 peak v = .ok (peak - v) :=
      Word.subChecked8_ok (UInt8.le_of_lt (UInt8.not_le.mp hle))
    have hwindow : Word.addChecked32 p.debounceSamples.toUInt32 1 = .ok p.debounceWindow := by
      apply Word.addChecked32_ok
      have := p.debounceSamples.toNat_lt
      simp only [UInt16.toNat_toUInt32, UInt32.toNat_one]
      omega
    by_cases hlow : v ≤ p.minThreshold
    · by_cases hswing : p.peakDelta ≤ peak - v
      · simp only [stepWords, step, hle, hlow, hswing, hfall, hwindow, toUInt16_min_debounceWindow,
          bind, Except.bind, Functor.map, Except.map, pure, Except.pure, decide_true, and_self,
          if_true, if_false]
      · simp only [stepWords, step, hle, hlow, hswing, hfall, bind, Except.bind, Functor.map,
          Except.map, pure, Except.pure, decide_false, and_false, Bool.false_eq_true, if_true,
          if_false]
    · simp only [stepWords, step, hle, hlow, bind, Except.bind, pure, Except.pure, false_and,
        Bool.false_eq_true, if_false]

end Phase

/-- A call on a peak tracker: feed it a sample, or reset it. -/
inductive TrackerCall where
  | sample (v : UInt8)
  | reset
deriving DecidableEq, Repr

/-- A call on the detector: a sample taken while the clock shows `now`, a reset, or a poll of the
series by the main loop, which shares the detector's ledger. -/
inductive DetectorCall where
  | sample (v : UInt8) (now : UInt32)
  | reset
  | poll (now : Option UInt32) (racing : Bool)
deriving DecidableEq, Repr

/-- What a detector call asks of the tracker, if anything. -/
def DetectorCall.trackerCall? : DetectorCall → Option TrackerCall
  | .sample v _ => some (.sample v)
  | .reset => some .reset
  | .poll _ _ => none

namespace Tracker

/-- Carry out one call; whether a sample completes a clap is not kept. -/
def call (t : Tracker) : TrackerCall → Tracker
  | .sample v => (t.step v).1
  | .reset => t.reset

def calls (t : Tracker) (cs : List TrackerCall) : Tracker := cs.foldl call t

theorem calls_append (t : Tracker) (cs ds : List TrackerCall) :
    t.calls (cs ++ ds) = (t.calls cs).calls ds :=
  List.foldl_append

theorem params_call (t : Tracker) (c : TrackerCall) : (t.call c).params = t.params := by
  cases c <;> rfl

theorem bounded_call (c : TrackerCall) {t : Tracker} (hb : t.phase.Bounded t.params) :
    (t.call c).phase.Bounded t.params := by
  cases c with
  | sample v => exact Phase.bounded_step t.params v hb
  | reset => trivial

theorem bounded_calls (cs : List TrackerCall) {t : Tracker} (hb : t.phase.Bounded t.params) :
    (t.calls cs).phase.Bounded t.params := by
  induction cs generalizing t with
  | nil => exact hb
  | cons c cs ih =>
    have hnext : (t.call c).phase.Bounded (t.call c).params := by
      rw [params_call]
      exact bounded_call c hb
    have hrest := ih hnext
    rwa [params_call] at hrest

end Tracker

namespace Bench

def call (b : Bench) : DetectorCall → Bench
  | .sample v now => (b.sampleAt v now).1
  | .reset => b.reset
  | .poll now racing => (b.poll now racing).1

def calls (b : Bench) (cs : List DetectorCall) : Bench := cs.foldl call b

theorem tracker_call (b : Bench) (c : DetectorCall) :
    (b.call c).tracker = b.tracker.calls c.trackerCall?.toList := by
  cases c <;> rfl

/-- The detector's tracker runs the tracker's part of the detector's calls; the polls in between
never touch it. -/
theorem tracker_calls (b : Bench) (cs : List DetectorCall) :
    (b.calls cs).tracker = b.tracker.calls (cs.filterMap DetectorCall.trackerCall?) := by
  induction cs generalizing b with
  | nil => rfl
  | cons c cs ih =>
    have hsplit : (c :: cs).filterMap DetectorCall.trackerCall? =
        c.trackerCall?.toList ++ cs.filterMap DetectorCall.trackerCall? := by
      cases c <;> rfl
    calc (b.calls (c :: cs)).tracker
        = (b.call c).tracker.calls (cs.filterMap DetectorCall.trackerCall?) := ih (b.call c)
      _ = b.tracker.calls ((c :: cs).filterMap DetectorCall.trackerCall?) := by
        rw [tracker_call, hsplit, Tracker.calls_append]

end Bench

namespace Tracker

/-- Every phase a tracker reaches stays within its bounds. From a fresh tracker on any tuning
`p`, after any samples and resets, a candidate peak is at or above the upper threshold with at
most the peak timeout left, and at least one sample left when that timeout is positive, and a
debounce has between one sample and the debounce window, held at 65535, left. The same holds of
the detector's tracker, whatever samples, resets and polls it sees. From every phase and every
sample, reachable or not, the firmware's arithmetic never faults: the fall from the peak is taken
only below the peak and the debounce window fits its word. A reset of the detector leaves its
tracker seeking and keeps the ledger's count and the time of the latest clap. -/
theorem phases_stay_bounded (p : Params) :
    (∀ cs : List TrackerCall, ((Tracker.new p).calls cs).phase.Bounded p) ∧
    (∀ cs : List DetectorCall, ((Bench.new p).calls cs).tracker.phase.Bounded p) ∧
    (∀ (ph : Phase) (v : UInt8), ph.stepWords p v = .ok (ph.step p v)) ∧
    ∀ b : Bench, b.reset.tracker.phase = .seeking ∧
      b.reset.session.ledger.count = b.session.ledger.count ∧
      b.reset.session.ledger.lastClapMs = b.session.ledger.lastClapMs := by
  have htracker : ∀ cs : List TrackerCall, ((Tracker.new p).calls cs).phase.Bounded p :=
    fun cs => bounded_calls cs (Phase.bounded_seeking p)
  refine ⟨htracker, fun cs => ?_, fun ph v => Phase.stepWords_eq p v ph, fun b => ⟨rfl, rfl, rfl⟩⟩
  rw [Bench.tracker_calls]
  exact htracker _

-- the debounce bound is met right after a clap: at the firmware's tuning a spike of 200 and then
-- silence leave the whole window of 481 samples to go
example : ((Tracker.new Firmware.clapParams).calls [.sample 200, .sample 0]).phase =
    .debouncing (Firmware.clapParams.debounceSamples + 1) := by
  decide

end Tracker

end Handclap
