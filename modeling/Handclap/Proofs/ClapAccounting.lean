import Mathlib
import Handclap.Proofs.PollerBounds

/-!
# No clap is lost or counted twice

Every clap the sampling side records ends up in exactly one place: handed out as an `inProgress`
event, still waiting in the count, swallowed because the count already stood at 255, or removed by
an overflow's clear beyond the 126 claps that series had handed out. Every `inProgress` event in
turn belongs to exactly one series: one that finished, one dropped at an overflow after 126, or the
one still running.

The tallies that the ledger does not keep are ghost counts over the run (`Session.lostRecords`,
`Session.droppedClaps`, and counts over the events). Both balances hold at every point of every
interleaving of records and poll pieces (`claps_accounted`). The only care needed is inside an
overflow branch, between the count read and the clear: `processed` is back at zero there while the
126 claps of the dropped series are still counted, so the balances hold with 126 in its place.
-/

namespace Handclap

def Action.isRecord : Action → Bool
  | .record _ => true
  | .piece _ => false

def Event.isInProgress : Event → Bool
  | .inProgress _ => true
  | _ => false

/-- The claps an event reports as a finished series. -/
def Event.finishedClaps : Event → Nat
  | .finished n => n.toNat
  | _ => 0

namespace Session

variable {s s' : Session} {now : UInt32} {e : Option Event}

/-- One if the move is a record made while the count already stood at 255. -/
def lostBy (s : Session) (a : Action) : Nat :=
  if a.isRecord ∧ s.ledger.count = 255 then 1 else 0

/-- What the move removes beyond the 126 claps handed out, if it is an overflow's clear. -/
def droppedBy (s : Session) (a : Action) : Nat :=
  if a.isRecord = false ∧ s.poller.next = .clear then s.ledger.count.toNat - 126 else 0

/-- The records of a run that added nothing to a saturated count. -/
def lostRecords : Session → List Action → Nat
  | _, [] => 0
  | s, a :: acts => s.lostBy a + (s.act a).1.lostRecords acts

/-- What the clears of a run removed beyond the 126 claps handed out of each dropped series. -/
def droppedClaps : Session → List Action → Nat
  | _, [] => 0
  | s, a :: acts => s.droppedBy a + (s.act a).1.droppedClaps acts

theorem balance_record (s : Session) (hs : s.Coherent) (t : UInt32) :
    1 + (s.ledger.count.toNat - s.handedOut) =
      ((s.record t).ledger.count.toNat - (s.record t).handedOut) + s.lostBy (.record t) := by
  have hle := hs.handedOut_le_count
  have hcount := s.ledger.count.toNat_lt
  rw [handedOut_record, record_ledger, Ledger.record_count_toNat]
  unfold lostBy
  by_cases hfull : s.ledger.count = 255
  · have h255 : s.ledger.count.toNat = 255 := by rw [hfull]; rfl
    rw [if_pos ⟨rfl, hfull⟩]
    omega
  · have hbelow : s.ledger.count.toNat ≠ 255 := fun h => hfull (UInt8.toNat_inj.mp h)
    rw [if_neg fun h => hfull h.2]
    omega

/-- A piece moves claps between the count, the events and the clears, and every event it reports
is paid for by claps handed out. -/
theorem balance_piece (hs : s.Coherent) (h : PieceStep s now s' e) :
    s.ledger.count.toNat - s.handedOut =
        e.toList.countP Event.isInProgress + (s'.ledger.count.toNat - s'.handedOut) +
          s.droppedBy (.piece now) ∧
      e.toList.countP Event.isInProgress + s.handedOut =
        (e.toList.map Event.finishedClaps).sum + 126 * e.toList.count .overflow + s'.handedOut := by
  have hle := hs.processed_le_count
  have hbound := hs.processed_le
  have hpend := hs.pending
  cases h with
  | handOut hnext hahead hroom =>
    have hsucc := toNat_processed_add_one hahead
    have hlt := UInt8.lt_iff_toNat_lt.mp hahead
    simp [handedOut, droppedBy, hnext, hsucc, Event.isInProgress, Event.finishedClaps]
    omega
  | giveUp hnext hahead hfull =>
    have hsucc := toNat_processed_add_one hahead
    have hfull' : 127 ≤ (s.poller.processed + 1).toNat := UInt8.le_iff_toNat_le.mp hfull
    simp [handedOut, droppedBy, hnext]
    omega
  | settle hnext | idle hnext | readLast hnext | expire _ hnext | wait _ hnext =>
    simp [handedOut, droppedBy, hnext, Event.isInProgress, Event.finishedClaps]
  | clear hnext =>
    simp only [Poller.Pending, hnext] at hpend
    simp [handedOut, droppedBy, hnext, hpend.1, Action.isRecord, Event.isInProgress,
      Event.finishedClaps]
  | retire claps hnext =>
    simp only [Poller.Pending, hnext] at hpend
    obtain ⟨rfl, -⟩ := hpend
    have hretire := Ledger.retire_count_toNat s.ledger s.poller.processed
    simp [handedOut, droppedBy, hnext, hretire, Event.isInProgress, Event.finishedClaps]

theorem balance_act (hs : s.Coherent) (a : Action) :
    (if a.isRecord then 1 else 0) + (s.ledger.count.toNat - s.handedOut) =
        (s.act a).2.toList.countP Event.isInProgress +
          ((s.act a).1.ledger.count.toNat - (s.act a).1.handedOut) + s.lostBy a + s.droppedBy a ∧
      (s.act a).2.toList.countP Event.isInProgress + s.handedOut =
        ((s.act a).2.toList.map Event.finishedClaps).sum +
          126 * (s.act a).2.toList.count .overflow + (s.act a).1.handedOut := by
  cases a with
  | record t =>
    have hbal := balance_record s hs t
    have hdrop : s.droppedBy (.record t) = 0 := by simp [droppedBy, Action.isRecord]
    simp only [act, Action.isRecord, if_true, Option.toList_none, List.countP_nil, List.map_nil,
      List.sum_nil, List.count_nil, Nat.mul_zero, Nat.zero_add, Nat.add_zero, hdrop,
      handedOut_record]
    exact ⟨hbal, trivial⟩
  | piece now =>
    have hbal := balance_piece hs (pieceStep_piece s now)
    have hlost : s.lostBy (.piece now) = 0 := by simp [lostBy, Action.isRecord]
    simp only [act, Action.isRecord, Bool.false_eq_true, if_false, Nat.zero_add, hlost,
      Nat.add_zero]
    exact hbal

/-- Both balances across a whole run from a coherent session: the claps recorded, plus those
waiting in the count at the start, are the claps handed out, plus those waiting at the end, plus
the records lost to saturation and the claps the clears dropped; and the claps handed out, plus
those of the series running at the start, are the claps of the finished series, 126 for each
overflow, and those of the series running at the end. -/
theorem balance_run (hs : s.Coherent) (acts : List Action) :
    acts.countP Action.isRecord + (s.ledger.count.toNat - s.handedOut) =
        (s.run acts).2.countP Event.isInProgress +
          ((s.run acts).1.ledger.count.toNat - (s.run acts).1.handedOut) +
          s.lostRecords acts + s.droppedClaps acts ∧
      (s.run acts).2.countP Event.isInProgress + s.handedOut =
        ((s.run acts).2.map Event.finishedClaps).sum + 126 * (s.run acts).2.count .overflow +
          (s.run acts).1.handedOut := by
  induction acts generalizing s with
  | nil => simp [lostRecords, droppedClaps]
  | cons a acts ih =>
    obtain ⟨hstep, hstep'⟩ := balance_act hs a
    obtain ⟨hrest, hrest'⟩ := ih (hs.act a)
    rw [run_cons]
    simp only [List.countP_cons, List.countP_append, List.map_append, List.sum_append,
      List.count_append, lostRecords, droppedClaps]
    constructor <;> omega

/-- No clap is lost or counted twice. At every point of every interleaving of records and poll
pieces, from a fresh ledger and a fresh poller: the claps recorded are the claps handed out as
`inProgress` events, plus those still waiting in the count, plus the records lost to a saturated
count, plus what each overflow's clear removed beyond its 126; and the claps handed out are those
of the finished series, 126 for each overflow, and those of the series running. Inside an overflow
branch, between its count read and its clear, `processed` is already zero while the 126 claps of
the dropped series are still counted, and both balances hold with 126 in its place. -/
theorem claps_accounted (timeoutMs : UInt32) (acts : List Action) :
    let s := ((Session.new timeoutMs).run acts).1
    let events := ((Session.new timeoutMs).run acts).2
    (s.poller.next ≠ .clear →
      acts.countP Action.isRecord =
          events.countP Event.isInProgress + (s.ledger.count.toNat - s.poller.processed.toNat) +
            (Session.new timeoutMs).lostRecords acts + (Session.new timeoutMs).droppedClaps acts ∧
        events.countP Event.isInProgress =
          (events.map Event.finishedClaps).sum + 126 * events.count .overflow +
            s.poller.processed.toNat) ∧
    (s.poller.next = .clear →
      acts.countP Action.isRecord =
          events.countP Event.isInProgress + (s.ledger.count.toNat - 126) +
            (Session.new timeoutMs).lostRecords acts + (Session.new timeoutMs).droppedClaps acts ∧
        events.countP Event.isInProgress =
          (events.map Event.finishedClaps).sum + 126 * events.count .overflow + 126) := by
  dsimp only
  obtain ⟨hrecords, hevents⟩ := balance_run (coherent_new timeoutMs) acts
  have hstart : (Session.new timeoutMs).handedOut = 0 := rfl
  have hempty : (Session.new timeoutMs).ledger.count.toNat = 0 := rfl
  rw [hstart, hempty] at hrecords
  rw [hstart] at hevents
  constructor
  · intro hnext
    rw [handedOut_of_ne_clear hnext] at hrecords hevents
    constructor <;> omega
  · intro hnext
    have hdropping : ((Session.new timeoutMs).run acts).1.handedOut = 126 := by
      simp only [handedOut, hnext, if_true]
    rw [hdropping] at hrecords hevents
    constructor <;> omega

/-- Three claps recorded around a poll that hands out the first, and an overflow branch waiting
for its clear after 127 claps: both balances hold, the second with 126 for `processed`. -/
theorem claps_accounted_three_claps_and_overflow :
    let acts := [Action.record 0, .record 10, .piece 0, .record 20]
    let flood := List.replicate 127 (Action.record 0) ++ List.replicate 127 (Action.piece 0)
    let s := ((Session.new 1000).run acts).1
    let events := ((Session.new 1000).run acts).2
    let s' := ((Session.new 1000).run flood).1
    let events' := ((Session.new 1000).run flood).2
    s.poller.next ≠ .clear ∧
      (acts.countP Action.isRecord =
          events.countP Event.isInProgress + (s.ledger.count.toNat - s.poller.processed.toNat) +
            (Session.new 1000).lostRecords acts + (Session.new 1000).droppedClaps acts ∧
        events.countP Event.isInProgress =
          (events.map Event.finishedClaps).sum + 126 * events.count .overflow +
            s.poller.processed.toNat) ∧
      s'.poller.next = .clear ∧
      (flood.countP Action.isRecord =
          events'.countP Event.isInProgress + (s'.ledger.count.toNat - 126) +
            (Session.new 1000).lostRecords flood + (Session.new 1000).droppedClaps flood ∧
        events'.countP Event.isInProgress =
          (events'.map Event.finishedClaps).sum + 126 * events'.count .overflow + 126) :=
  have hsmall : ((Session.new 1000).run
      [Action.record 0, .record 10, .piece 0, .record 20]).1.poller.next ≠ .clear := by decide
  have hflood : ((Session.new 1000).run (List.replicate 127 (Action.record 0) ++
      List.replicate 127 (Action.piece 0))).1.poller.next = .clear := by decide +kernel
  ⟨hsmall, (claps_accounted 1000 _).1 hsmall, hflood, (claps_accounted 1000 _).2 hflood⟩

end Session

end Handclap
