import Handclap.Config

/-!
# Peak tracker

A clap is a sharp spike: the signal rises to at least the upper threshold and, within the peak
timeout, falls to the lower threshold with a total swing of at least the peak delta. A rise that
does not come back down in time is dropped as noise. After a clap the tracker is blind for the
debounce window, whatever the samples are.

The tracker is a machine with three phases, driven one 8-bit sample at a time. Its countdowns
subtract with saturation, so no sample can make them wrap.
-/

namespace Handclap

/-- Where the tracker is in recognising a clap: waiting for the signal to reach the upper
threshold, holding a candidate peak for `remaining` more samples, or blind for `remaining` more
samples after a clap. -/
inductive Phase where
  | seeking
  | tracking (peak : UInt8) (remaining : UInt16)
  | debouncing (remaining : UInt16)
deriving DecidableEq, Repr

/-- The blind span after a clap: the debounce window, held at `65535` so that it fits the
countdown. -/
def Params.debounceSpan (p : Params) : UInt16 :=
  (min p.debounceWindow.toNat 65535).toUInt16

/-- One sample through the machine: the next phase, and whether this sample completes a clap.

* Debouncing ignores the sample and counts down, back to seeking at zero.
* Seeking starts tracking a sample at or above the upper threshold, with a fresh timeout.
* Tracking takes a sample at or above the peak as the new peak, with a fresh timeout. A lower
  sample that reaches the lower threshold with a fall of at least the peak delta is a clap and
  starts the debounce. Any other sample counts the timeout down, back to seeking at zero. -/
def Phase.step (p : Params) (v : UInt8) : Phase → Phase × Bool
  | .debouncing remaining =>
    let left := Word.subSat16 remaining 1
    (if left = 0 then .seeking else .debouncing left, false)
  | .seeking =>
    (if p.maxThreshold ≤ v then .tracking v p.peakTimeoutSamples else .seeking, false)
  | .tracking peak remaining =>
    if peak ≤ v then (.tracking v p.peakTimeoutSamples, false)
    else if v ≤ p.minThreshold ∧ p.peakDelta ≤ peak - v then (.debouncing p.debounceSpan, true)
    else
      let left := Word.subSat16 remaining 1
      (if left = 0 then .seeking else .tracking peak left, false)

/-- A peak tracker: its resolved tuning and its phase. -/
structure Tracker where
  params : Params
  phase : Phase
deriving DecidableEq, Repr

namespace Tracker

def new (p : Params) : Tracker := ⟨p, .seeking⟩

/-- Feed one sample; the flag is whether it completes a clap. -/
def step (t : Tracker) (v : UInt8) : Tracker × Bool :=
  let r := t.phase.step t.params v
  ({ t with phase := r.1 }, r.2)

/-- Drop any candidate peak and any running debounce. -/
def reset (t : Tracker) : Tracker := { t with phase := .seeking }

def feedFrom (claps : Nat) : Tracker → List UInt8 → Tracker × Nat
  | t, [] => (t, claps)
  | t, v :: vs =>
    let r := t.step v
    feedFrom (claps + r.2.toNat) r.1 vs

/-- Feed a list of samples; the count is how many claps they complete. -/
def feed (t : Tracker) (vs : List UInt8) : Tracker × Nat := feedFrom 0 t vs

def repeatFrom (v : UInt8) (claps : Nat) : Nat → Tracker → Tracker × Nat
  | 0, t => (t, claps)
  | n + 1, t =>
    let r := t.step v
    repeatFrom v (claps + r.2.toNat) n r.1

def feedRepeat (t : Tracker) (v : UInt8) (n : Nat) : Tracker × Nat := repeatFrom v 0 n t

theorem feedFrom_append (claps : Nat) (t : Tracker) (xs ys : List UInt8) :
    feedFrom claps t (xs ++ ys) =
      feedFrom (feedFrom claps t xs).2 (feedFrom claps t xs).1 ys := by
  induction xs generalizing claps t with
  | nil => rfl
  | cons x xs ih => exact ih _ _

theorem repeatFrom_eq_feedFrom (v : UInt8) (claps n : Nat) (t : Tracker) :
    repeatFrom v claps n t = feedFrom claps t (List.replicate n v) := by
  induction n generalizing claps t with
  | zero => rfl
  | succ n ih => exact ih _ _

end Tracker

end Handclap
