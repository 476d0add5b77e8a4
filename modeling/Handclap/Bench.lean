import Handclap.Tracker
import Handclap.Series.Session

/-!
# Detector bench

The whole pipeline on a simulated clock: the peak tracker feeds the ledger, and the main loop's
poller reads it. The clock counts microseconds in a 64-bit word and shows whole milliseconds,
truncated to 32 bits, as the firmware's clock does. A *clocked* sample first moves the clock on by
one sample period and then goes through the tracker; a clap is recorded at the clock's
millisecond reading. The clock's additions are checked, so a clock pushed past `2 ^ 64`
microseconds faults.
-/

namespace Handclap

/-- The tracker, the shared ledger with its poller, and the simulated clock, in microseconds
since the start. -/
structure Bench where
  tracker : Tracker
  session : Session
  micros : UInt64
deriving DecidableEq, Repr

namespace Bench

def new (p : Params) : Bench := ⟨Tracker.new p, Session.new p.seriesTimeoutMs, 0⟩

/-- The clock's reading in whole milliseconds, truncated to 32 bits. -/
def nowMs (b : Bench) : UInt32 := (b.micros / 1000).toUInt32

def advance (b : Bench) (us : UInt64) : Except Fault Bench :=
  match Word.addChecked64 b.micros us with
  | .ok m => .ok { b with micros := m }
  | .error e => .error e

/-- Feed one sample, recording a clap at time `now`. The flag is whether it completes a clap. -/
def sampleAt (b : Bench) (v : UInt8) (now : UInt32) : Bench × Bool :=
  let r := b.tracker.step v
  ({ b with tracker := r.1, session := if r.2 then b.session.record now else b.session }, r.2)

/-- Feed one clocked sample: one sample period passes, then the sample is taken. -/
def sample (b : Bench) (v : UInt8) : Except Fault (Bench × Bool) :=
  match b.advance b.tracker.params.samplePeriodUs.toUInt64 with
  | .ok b' => .ok (b'.sampleAt v b'.nowMs)
  | .error e => .error e

def feedFrom (claps : Nat) : Bench → List UInt8 → Except Fault (Bench × Nat)
  | b, [] => .ok (b, claps)
  | b, v :: vs =>
    match b.sample v with
    | .ok r => feedFrom (claps + r.2.toNat) r.1 vs
    | .error e => .error e

def feed (b : Bench) (vs : List UInt8) : Except Fault (Bench × Nat) := feedFrom 0 b vs

def idleFrom (v : UInt8) (claps : Nat) : Nat → Bench → Except Fault (Bench × Nat)
  | 0, b => .ok (b, claps)
  | n + 1, b =>
    match b.sample v with
    | .ok r => idleFrom v (claps + r.2.toNat) n r.1
    | .error e => .error e

def idle (b : Bench) (v : UInt8) (n : Nat) : Except Fault (Bench × Nat) := idleFrom v 0 n b

/-- Drop the tracker's candidate peak or debounce; the counted claps stay. -/
def reset (b : Bench) : Bench := { b with tracker := b.tracker.reset }

/-- Poll the series once, with the clock showing `now`, by default the bench's own reading. -/
def poll (b : Bench) (now : Option UInt32) (racing : Bool) : Bench × Event :=
  let r := b.session.poll (now.getD b.nowMs) racing
  ({ b with session := r.1 }, r.2)

theorem reset_session (b : Bench) : b.reset.session = b.session := rfl

theorem idleFrom_eq_feedFrom (v : UInt8) (claps n : Nat) (b : Bench) :
    idleFrom v claps n b = feedFrom claps b (List.replicate n v) := by
  induction n generalizing claps b with
  | zero => rfl
  | succ n ih =>
    simp only [idleFrom, List.replicate_succ, feedFrom]
    split <;> simp only [ih]

end Bench

end Handclap
