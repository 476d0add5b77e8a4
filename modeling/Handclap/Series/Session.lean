import Handclap.Series.Event
import Handclap.Series.Ledger

/-!
# Polling a series

The main loop turns the ledger's running count into events. One poll is not atomic: it is a
sequence of pieces, each of which either touches the ledger under a lock or reads the clock, and
the sampling side may record claps between any two of them. The pieces are:

* read the count; if it is ahead of the claps already handed out, hand out the next one (or, at
  `overflowCount`, give up on the series and go on to clear it); if the series is fully handed out
  and not empty, go on to read the time of the latest clap; otherwise report nothing;
* clear the count after an overflow;
* read the time of the latest clap;
* read the clock; if the silence since that clap exceeds the series timeout, go on to retire the
  handed-out claps, and otherwise report nothing;
* retire the handed-out claps and report the finished series.

The latest clap's time is read before the clock, so a clap recorded between the two reads can
only make the silence look shorter, never longer. A `Session` is the shared ledger together with
the poller, and an `Action` is one atomic move of either side: a record, or the poller's next
piece.
-/

namespace Handclap

/-- One atomic piece of a poll, named by what it does next. -/
inductive Piece where
  | readCount
  | clear
  | readLast
  | readClock (last : UInt32)
  | retire (claps : UInt8)
deriving DecidableEq, Repr

/-- An upper bound on the pieces left in the poll, this one included. -/
def Piece.rank : Piece → Nat
  | .readCount => 3
  | .readLast => 2
  | .readClock _ => 1
  | .clear => 0
  | .retire _ => 0

/-- The main loop's side of a series: the claps of the running series already handed out, the
silence in milliseconds that ends a series, and the piece it performs next, `readCount` between
polls. -/
structure Poller where
  processed : UInt8
  timeoutMs : UInt32
  next : Piece
deriving DecidableEq, Repr

def Poller.new (timeoutMs : UInt32) : Poller := ⟨0, timeoutMs, .readCount⟩

/-- The shared ledger together with the main loop's poller. -/
structure Session where
  ledger : Ledger
  poller : Poller
deriving DecidableEq, Repr

/-- One atomic move of the system: the sampling side records a clap at a time, or the poller
performs its next piece, with the clock showing `now` if that piece reads it. -/
inductive Action where
  | record (t : UInt32)
  | piece (now : UInt32)
deriving DecidableEq, Repr

namespace Session

def new (timeoutMs : UInt32) : Session := ⟨Ledger.empty, Poller.new timeoutMs⟩

def record (s : Session) (t : UInt32) : Session := { s with ledger := s.ledger.record t }

/-- The poller performs its next piece. The event is present exactly when this piece ends the
poll, and the poller is then back at `readCount`. Handing out the next clap cannot wrap
`processed`: it is below the count, which is a byte. -/
def piece (s : Session) (now : UInt32) : Session × Option Event :=
  match s.poller.next with
  | .readCount =>
    if s.poller.processed < s.ledger.count then
      if overflowCount ≤ s.poller.processed + 1 then
        (⟨s.ledger, { s.poller with processed := 0, next := .clear }⟩, none)
      else
        (⟨s.ledger, { s.poller with processed := s.poller.processed + 1 }⟩,
          some (.inProgress (s.poller.processed + 1)))
    else if 0 < s.ledger.count then
      (⟨s.ledger, { s.poller with next := .readLast }⟩, none)
    else
      (s, some .quiet)
  | .clear => (⟨s.ledger.clear, { s.poller with next := .readCount }⟩, some .overflow)
  | .readLast => (⟨s.ledger, { s.poller with next := .readClock s.ledger.lastClapMs }⟩, none)
  | .readClock last =>
    if s.poller.timeoutMs < now - last then
      (⟨s.ledger, { s.poller with next := .retire s.poller.processed }⟩, none)
    else
      (⟨s.ledger, { s.poller with next := .readCount }⟩, some .quiet)
  | .retire claps =>
    (⟨s.ledger.retire claps, { s.poller with processed := 0, next := .readCount }⟩,
      some (.finished claps))

/-- One atomic move; the event is present when a poll ends. -/
def act (s : Session) : Action → Session × Option Event
  | .record t => (s.record t, none)
  | .piece now => s.piece now

/-- Run a list of moves, collecting the events of the polls that end. -/
def run (s : Session) : List Action → Session × List Event
  | [] => (s, [])
  | a :: as =>
    let r := s.act a
    let rest := r.1.run as
    (rest.1, r.2.toList ++ rest.2)

theorem rank_lt_of_piece (s : Session) (now : UInt32) (h : (s.piece now).2 = none) :
    (s.piece now).1.poller.next.rank < s.poller.next.rank := by
  obtain ⟨l, ⟨p, t, nx⟩⟩ := s
  cases nx <;> simp only [piece] at h ⊢ <;> (repeat' split) <;>
    simp_all [Piece.rank]

/-- What the sampling side does just before the poller's next piece in a racing poll: it
records a clap at `now` just before each clock read, that is, after the latest clap's time was
read and before the clock is compared with it. Otherwise nothing happens. -/
def interject (s : Session) (now : UInt32) (racing : Bool) : Session :=
  match s.poller.next, racing with
  | .readClock _, true => s.record now
  | _, _ => s

theorem interject_next (s : Session) (now : UInt32) (racing : Bool) :
    (s.interject now racing).poller.next = s.poller.next := by
  unfold interject
  split <;> rfl

/-- Finish the poll under way, with the clock reading `now` throughout and, with `racing`, a
clap recorded at `now` before each clock read. -/
def finish (s : Session) (now : UInt32) (racing : Bool) : Session × Event :=
  match _h : (s.interject now racing).piece now with
  | (s₁, some e) => (s₁, e)
  | (s₁, none) => finish s₁ now racing
termination_by s.poller.next.rank
decreasing_by
  have hr := rank_lt_of_piece (s.interject now racing) now (by rw [_h])
  rw [_h, interject_next] at hr
  exact hr

/-- One whole poll, from `readCount`, with the clock reading `now`. -/
def poll (s : Session) (now : UInt32) (racing : Bool) : Session × Event :=
  finish s now racing

end Session

end Handclap
