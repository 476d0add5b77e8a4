import Handclap.Series.Event

/-!
# Serial console

The console writes text to a serial transmitter one byte at a time. A transmitter may ask for a
byte to be offered again (it is busy), and the console offers it again until it is taken or
refused; `Transmitter.send` is that settled answer. Writing stops at the first refused byte and
the rest of the call is skipped, so every call sends a prefix of its bytes, and the call succeeded
exactly when the prefix is the whole.

Events are reported one line each: `clap@n` for the `n`-th clap of a running series, `clap=n`
when a series of `n` ends, `clap overflow` when a series is dropped, and nothing when there is
nothing new. Lines end in a carriage return and a line feed.
-/

namespace Handclap

/-- A byte sink over states `σ`, as the console sees it: `send` offers a byte until the sink is
no longer busy and says whether it took the byte, and `flush` waits for every taken byte to leave
and says whether that worked. -/
structure Transmitter (σ : Type) where
  send : σ → UInt8 → Bool × σ
  flush : σ → Bool × σ

/-- The outcome of one console call: the sink afterwards, the bytes it took in order, and whether
the call completed. -/
structure Sent (σ : Type) where
  line : σ
  bytes : List UInt8
  ok : Bool

namespace Transmitter

/-- Send bytes in order, stopping at the first one the sink refuses. -/
def write {σ : Type} (tx : Transmitter σ) : σ → List UInt8 → Sent σ
  | s, [] => ⟨s, [], true⟩
  | s, b :: bs =>
    let r := tx.send s b
    if r.1 then
      let rest := tx.write r.2 bs
      ⟨rest.line, b :: rest.bytes, rest.ok⟩
    else ⟨r.2, [], false⟩

theorem write_bytes_prefix {σ : Type} (tx : Transmitter σ) (s : σ) (bs : List UInt8) :
    (tx.write s bs).bytes <+: bs := by
  induction bs generalizing s with
  | nil => exact List.prefix_refl _
  | cons b bs ih =>
    simp only [write]
    split
    · exact List.cons_prefix_cons.mpr ⟨rfl, ih _⟩
    · exact List.nil_prefix

theorem write_ok_iff {σ : Type} (tx : Transmitter σ) (s : σ) (bs : List UInt8) :
    (tx.write s bs).ok = true ↔ (tx.write s bs).bytes = bs := by
  induction bs generalizing s with
  | nil => simp [write]
  | cons b bs ih =>
    simp only [write]
    split
    · simp only [List.cons.injEq, true_and]
      exact ih _
    · simp

end Transmitter

/-- The line that reports an event; nothing for `Event.quiet`. -/
def Event.line : Event → String
  | .quiet => ""
  | .inProgress n => "clap@" ++ toString n.toNat ++ "\r\n"
  | .finished n => "clap=" ++ toString n.toNat ++ "\r\n"
  | .overflow => "clap overflow\r\n"

/-- What a program can ask the console to do. -/
inductive ConsoleCall where
  | report (e : Event)
  | debug (msg : String) (val : UInt32)
  | writeLine (s : String)
  | writeStr (s : String)
  | writeByte (b : UInt8)
  | flush
deriving DecidableEq, Repr

/-- The bytes a call writes, in order; a flush writes none. -/
def ConsoleCall.bytes : ConsoleCall → List UInt8
  | .report e => e.line.toUTF8.toList
  | .debug msg val => ("[DBG] " ++ msg ++ ": " ++ toString val.toNat ++ "\r\n").toUTF8.toList
  | .writeLine s => (s ++ "\r\n").toUTF8.toList
  | .writeStr s => s.toUTF8.toList
  | .writeByte b => [b]
  | .flush => []

def ConsoleCall.perform {σ : Type} (tx : Transmitter σ) (s : σ) : ConsoleCall → Sent σ
  | .flush => let r := tx.flush s; ⟨r.2, [], r.1⟩
  | c => tx.write s c.bytes

/-- Carry out calls in order; a failed call does not stop the ones after it. -/
def ConsoleCall.performAll {σ : Type} (tx : Transmitter σ) : σ → List ConsoleCall → σ × List (Sent σ)
  | s, [] => (s, [])
  | s, c :: cs =>
    let r := c.perform tx s
    let rest := performAll tx r.line cs
    (rest.1, r :: rest.2)

/-- A serial line that stalls on every `stallEvery`-th attempt (never, for zero), refuses every
byte once `failAfter` bytes were taken, and whose flush fails when `flushFails` is set. A stall
is never followed by another, since the period is not one, so every byte settles on its next
attempt. `attempts` counts the attempts so far, stalled ones included, and `taken` the bytes taken.
-/
structure SerialLine where
  stallEvery : Nat
  stallEvery_ne_one : stallEvery ≠ 1
  failAfter : Option Nat
  flushFails : Bool
  attempts : Nat
  taken : Nat

namespace SerialLine

def new (stallEvery : Nat) (h : stallEvery ≠ 1) (failAfter : Option Nat) (flushFails : Bool) :
    SerialLine :=
  ⟨stallEvery, h, failAfter, flushFails, 0, 0⟩

def stallsAt (l : SerialLine) (n : Nat) : Bool := l.stallEvery != 0 && n % l.stallEvery == 0

/-- Offer a byte until it settles: a stalled attempt is followed by one that does not stall. -/
def send (l : SerialLine) (_ : UInt8) : Bool × SerialLine :=
  let attempts := if l.stallsAt (l.attempts + 1) then l.attempts + 2 else l.attempts + 1
  if l.failAfter.any (fun n => decide (n ≤ l.taken)) then (false, { l with attempts := attempts })
  else (true, { l with attempts := attempts, taken := l.taken + 1 })

def transmitter : Transmitter SerialLine where
  send := send
  flush := fun l => (!l.flushFails, l)

theorem not_stallsAt_succ (l : SerialLine) (n : Nat) (h : l.stallsAt n = true) :
    l.stallsAt (n + 1) = false := by
  have h1 := l.stallEvery_ne_one
  simp only [stallsAt, Bool.and_eq_true, bne_iff_ne, ne_eq, beq_iff_eq] at h
  simp only [stallsAt, Bool.and_eq_false_iff, bne_eq_false_iff_eq, beq_eq_false_iff_ne, ne_eq]
  right
  rw [Nat.add_mod, h.2, Nat.zero_add, Nat.one_mod_eq_one.mpr h1, Nat.mod_eq_of_lt (by omega)]
  omega

end SerialLine

end Handclap
