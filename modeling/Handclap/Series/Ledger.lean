import Handclap.Word

/-!
# Clap ledger

The ledger is what the sampling side and the main loop share: how many claps are counted and
when the latest one happened. The sampling side only ever records; the main loop retires the
claps it has reported, or clears the count when it gives up on a series. The count saturates at
255 rather than wrapping, and retiring never takes it below zero.
-/

namespace Handclap

/-- Claps counted by the sampling side and not yet retired, and the time of the latest one in
milliseconds. -/
structure Ledger where
  count : UInt8
  lastClapMs : UInt32
deriving DecidableEq, Repr

namespace Ledger

def empty : Ledger := ⟨0, 0⟩

/-- Count a clap seen at `now`. -/
def record (l : Ledger) (now : UInt32) : Ledger := ⟨Word.addSat8 l.count 1, now⟩

/-- Remove `claps` reported claps; whatever was recorded in the meantime stays counted. -/
def retire (l : Ledger) (claps : UInt8) : Ledger := { l with count := Word.subSat8 l.count claps }

/-- Forget every counted clap; the time of the latest one is kept. -/
def clear (l : Ledger) : Ledger := { l with count := 0 }

@[simp] theorem record_lastClapMs (l : Ledger) (now : UInt32) : (l.record now).lastClapMs = now :=
  rfl

@[simp] theorem retire_lastClapMs (l : Ledger) (claps : UInt8) :
    (l.retire claps).lastClapMs = l.lastClapMs := rfl

@[simp] theorem clear_lastClapMs (l : Ledger) : l.clear.lastClapMs = l.lastClapMs := rfl

@[simp] theorem clear_count (l : Ledger) : l.clear.count = 0 := rfl

theorem record_count_toNat (l : Ledger) (now : UInt32) :
    (l.record now).count.toNat = min (l.count.toNat + 1) 255 :=
  Word.toNat_addSat8 l.count 1

theorem retire_count_toNat (l : Ledger) (claps : UInt8) :
    (l.retire claps).count.toNat = l.count.toNat - claps.toNat :=
  Word.toNat_subSat8 l.count claps

end Ledger

end Handclap
