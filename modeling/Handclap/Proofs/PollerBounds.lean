import Handclap.Series.Session

/-!
# The poller never runs ahead of the ledger

A poll is a sequence of pieces, and the sampling side may record claps between any two of them.
This module names what one piece can do, one case for each branch of the poll
(`Session.PieceStep`), and carries one invariant through every interleaving of records and
pieces (`Session.Coherent`): the claps handed out never exceed the count, a series hands out at
most 126 of them, and the piece the poller waits to run still holds what its branch found.

The main statement, `poller_within_ledger`, reads the invariant back in the terms of the poll
itself: handing out the next clap never wraps, a retire never removes more than is counted, and a
poll that goes on to read the clock has read a count equal to the claps it handed out.
-/

namespace Handclap

/-- What the piece the poller waits to run knows about the series, given the ledger's count: an
overflow clears a count past 126 with nothing left handed out, and a series that is being ended
has handed out at least one clap, which is what a retire will remove. -/
def Poller.Pending (p : Poller) (count : Nat) : Prop :=
  match p.next with
  | .readCount => True
  | .clear => p.processed = 0 ∧ 127 ≤ count
  | .readLast => 0 < p.processed.toNat
  | .readClock _ => 0 < p.processed.toNat
  | .retire claps => claps = p.processed ∧ 0 < claps.toNat

theorem Poller.Pending.mono {p : Poller} {count count' : Nat} (h : p.Pending count)
    (hle : count ≤ count') : p.Pending count' := by
  unfold Poller.Pending at h ⊢
  revert h
  cases p.next with
  | clear => exact fun h => ⟨h.1, Nat.le_trans h.2 hle⟩
  | _ => exact id

theorem Poller.pending_of_readCount {p : Poller} {count : Nat} (hnext : p.next = .readCount) :
    p.Pending count := by
  simp only [Poller.Pending, hnext]

namespace Session

/-- What one piece of a poll does, one case for each branch it can take. -/
inductive PieceStep (s : Session) (now : UInt32) : Session → Option Event → Prop
  | handOut (hnext : s.poller.next = .readCount) (hahead : s.poller.processed < s.ledger.count)
      (hroom : ¬overflowCount ≤ s.poller.processed + 1) :
      PieceStep s now ⟨s.ledger, { s.poller with processed := s.poller.processed + 1 }⟩
        (some (.inProgress (s.poller.processed + 1)))
  | giveUp (hnext : s.poller.next = .readCount) (hahead : s.poller.processed < s.ledger.count)
      (hfull : overflowCount ≤ s.poller.processed + 1) :
      PieceStep s now ⟨s.ledger, { s.poller with processed := 0, next := .clear }⟩ none
  | settle (hnext : s.poller.next = .readCount) (hcaught : ¬s.poller.processed < s.ledger.count)
      (hpos : 0 < s.ledger.count) :
      PieceStep s now ⟨s.ledger, { s.poller with next := .readLast }⟩ none
  | idle (hnext : s.poller.next = .readCount) (hcaught : ¬s.poller.processed < s.ledger.count)
      (hempty : ¬0 < s.ledger.count) :
      PieceStep s now s (some .quiet)
  | clear (hnext : s.poller.next = .clear) :
      PieceStep s now ⟨s.ledger.clear, { s.poller with next := .readCount }⟩ (some .overflow)
  | readLast (hnext : s.poller.next = .readLast) :
      PieceStep s now ⟨s.ledger, { s.poller with next := .readClock s.ledger.lastClapMs }⟩ none
  | expire (last : UInt32) (hnext : s.poller.next = .readClock last)
      (hgap : s.poller.timeoutMs < now - last) :
      PieceStep s now ⟨s.ledger, { s.poller with next := .retire s.poller.processed }⟩ none
  | wait (last : UInt32) (hnext : s.poller.next = .readClock last)
      (hgap : ¬s.poller.timeoutMs < now - last) :
      PieceStep s now ⟨s.ledger, { s.poller with next := .readCount }⟩ (some .quiet)
  | retire (claps : UInt8) (hnext : s.poller.next = .retire claps) :
      PieceStep s now ⟨s.ledger.retire claps, { s.poller with processed := 0, next := .readCount }⟩
        (some (.finished claps))

theorem pieceStep_piece (s : Session) (now : UInt32) :
    PieceStep s now (s.piece now).1 (s.piece now).2 := by
  unfold piece
  split
  · next hnext =>
    split
    · next hahead =>
      split
      · next hfull => exact .giveUp hnext hahead hfull
      · next hroom => exact .handOut hnext hahead hroom
    · next hcaught =>
      split
      · next hpos => exact .settle hnext hcaught hpos
      · next hempty => exact .idle hnext hcaught hempty
  · next hnext => exact .clear hnext
  · next hnext => exact .readLast hnext
  · next last hnext =>
    split
    · next hgap => exact .expire last hnext hgap
    · next hgap => exact .wait last hnext hgap
  · next claps hnext => exact .retire claps hnext

@[simp] theorem record_poller (s : Session) (t : UInt32) : (s.record t).poller = s.poller := rfl

@[simp] theorem record_ledger (s : Session) (t : UInt32) : (s.record t).ledger = s.ledger.record t :=
  rfl

@[simp] theorem run_nil (s : Session) : s.run [] = (s, []) := rfl

theorem run_cons (s : Session) (a : Action) (acts : List Action) :
    s.run (a :: acts) =
      (((s.act a).1.run acts).1, (s.act a).2.toList ++ ((s.act a).1.run acts).2) := rfl

theorem run_append (s : Session) (xs ys : List Action) :
    s.run (xs ++ ys) = (((s.run xs).1.run ys).1, (s.run xs).2 ++ ((s.run xs).1.run ys).2) := by
  induction xs generalizing s with
  | nil => rfl
  | cons a xs ih =>
    rw [List.cons_append, run_cons, ih, run_cons]
    simp only [List.append_assoc]

variable {s s' : Session} {now : UInt32} {e : Option Event}

/-- The invariant of every reachable session. -/
structure Coherent (s : Session) : Prop where
  processed_le_count : s.poller.processed.toNat ≤ s.ledger.count.toNat
  processed_le : s.poller.processed.toNat ≤ 126
  pending : s.poller.Pending s.ledger.count.toNat

theorem coherent_new (timeoutMs : UInt32) : (Session.new timeoutMs).Coherent where
  processed_le_count := Nat.le_refl 0
  processed_le := Nat.zero_le 126
  pending := trivial

theorem Coherent.record (hs : s.Coherent) (t : UInt32) : (s.record t).Coherent := by
  have hgrow : s.ledger.count.toNat ≤ (s.ledger.record t).count.toNat := by
    rw [Ledger.record_count_toNat]
    have := s.ledger.count.toNat_lt
    omega
  refine ⟨?_, hs.processed_le, ?_⟩
  · rw [record_poller, record_ledger]
    exact Nat.le_trans hs.processed_le_count hgrow
  · rw [record_poller, record_ledger]
    exact hs.pending.mono hgrow

/-- Handing out the next clap does not wrap: it is below the count, which is a byte. -/
theorem toNat_processed_add_one (hahead : s.poller.processed < s.ledger.count) :
    (s.poller.processed + 1).toNat = s.poller.processed.toNat + 1 := by
  have hlt := UInt8.lt_iff_toNat_lt.mp hahead
  have hcount := s.ledger.count.toNat_lt
  rw [UInt8.toNat_add, UInt8.toNat_one]
  omega

theorem Coherent.piece (hs : s.Coherent) (h : PieceStep s now s' e) : s'.Coherent := by
  have hle := hs.processed_le_count
  have hbound := hs.processed_le
  have hpend := hs.pending
  cases h with
  | handOut hnext hahead hroom =>
    have hsucc := toNat_processed_add_one hahead
    have hlt := UInt8.lt_iff_toNat_lt.mp hahead
    have hroom' : (s.poller.processed + 1).toNat < 127 :=
      Nat.lt_of_not_le fun h => hroom (UInt8.le_iff_toNat_le.mpr h)
    exact ⟨by dsimp only; omega, by dsimp only; omega, Poller.pending_of_readCount hnext⟩
  | giveUp hnext hahead hfull =>
    have hsucc := toNat_processed_add_one hahead
    have hlt := UInt8.lt_iff_toNat_lt.mp hahead
    have hfull' : 127 ≤ (s.poller.processed + 1).toNat := UInt8.le_iff_toNat_le.mp hfull
    exact ⟨Nat.zero_le _, Nat.zero_le _, rfl, by dsimp only; omega⟩
  | settle hnext hcaught hpos =>
    have hge : s.ledger.count.toNat ≤ s.poller.processed.toNat :=
      Nat.le_of_not_lt fun h => hcaught (UInt8.lt_iff_toNat_lt.mpr h)
    have hpos' : 0 < s.ledger.count.toNat := UInt8.lt_iff_toNat_lt.mp hpos
    refine ⟨hle, hbound, ?_⟩
    simp only [Poller.Pending]
    omega
  | idle => exact hs
  | clear hnext =>
    simp only [Poller.Pending, hnext] at hpend
    refine ⟨?_, ?_, Poller.pending_of_readCount rfl⟩ <;> simp [hpend.1]
  | readLast hnext =>
    simp only [Poller.Pending, hnext] at hpend
    exact ⟨hle, hbound, hpend⟩
  | expire last hnext hgap =>
    simp only [Poller.Pending, hnext] at hpend
    exact ⟨hle, hbound, rfl, hpend⟩
  | wait last hnext hgap => exact ⟨hle, hbound, Poller.pending_of_readCount rfl⟩
  | retire claps hnext => exact ⟨Nat.zero_le _, Nat.zero_le _, Poller.pending_of_readCount rfl⟩

theorem Coherent.act (hs : s.Coherent) (a : Action) : (s.act a).1.Coherent := by
  cases a with
  | record t => exact hs.record t
  | piece now => exact hs.piece (pieceStep_piece s now)

theorem Coherent.run (hs : s.Coherent) (acts : List Action) : (s.run acts).1.Coherent := by
  induction acts generalizing s with
  | nil => exact hs
  | cons a acts ih => exact ih (hs.act a)

theorem coherent_run_new (timeoutMs : UInt32) (acts : List Action) :
    ((Session.new timeoutMs).run acts).1.Coherent :=
  (coherent_new timeoutMs).run acts

/-- The claps of the running series handed out so far. Between an overflow's count read and its
clear, `processed` is already back at zero while the 126 claps of the series being dropped are
still in the count: only the clear removes them. -/
def handedOut (s : Session) : Nat :=
  if s.poller.next = .clear then 126 else s.poller.processed.toNat

@[simp] theorem handedOut_record (s : Session) (t : UInt32) :
    (s.record t).handedOut = s.handedOut := rfl

theorem handedOut_of_ne_clear (hnext : s.poller.next ≠ .clear) :
    s.handedOut = s.poller.processed.toNat := by
  simp only [handedOut, hnext, if_false]

theorem Coherent.handedOut_le_count (hs : s.Coherent) : s.handedOut ≤ s.ledger.count.toNat := by
  have hpend := hs.pending
  unfold handedOut
  split
  · next hnext =>
    simp only [Poller.Pending, hnext] at hpend
    omega
  · exact hs.processed_le_count

theorem Coherent.retire_le (hs : s.Coherent) {claps : UInt8}
    (hnext : s.poller.next = .retire claps) : claps.toNat ≤ s.ledger.count.toNat := by
  have hpend := hs.pending
  simp only [Poller.Pending, hnext] at hpend
  rw [hpend.1]
  exact hs.processed_le_count

/-- A count read that sends the poll on to read the latest clap's time has found the series fully
handed out. -/
theorem count_eq_processed_of_settle (hs : s.Coherent) (h : PieceStep s now s' e)
    (hnext : s.poller.next = .readCount) (hlast : s'.poller.next = .readLast) :
    s.ledger.count = s.poller.processed := by
  cases h with
  | settle _ hcaught _ =>
    have hge : s.ledger.count.toNat ≤ s.poller.processed.toNat :=
      Nat.le_of_not_lt fun h => hcaught (UInt8.lt_iff_toNat_lt.mpr h)
    exact UInt8.toNat_inj.mp (Nat.le_antisymm hge hs.processed_le_count)
  | idle => rw [hnext] at hlast; cases hlast
  | _ => simp_all

/-- At every point of every interleaving of records and poll pieces, from a fresh ledger and
poller: the claps handed out stay within the count and below `overflowCount`, so handing out the
next one never wraps; a pending retire removes no more than the ledger counts, so its saturating
subtraction is exact; and a count read that sends the poll on towards finishing the series has
read a count equal to the claps handed out. -/
theorem poller_within_ledger (timeoutMs : UInt32) (acts : List Action) :
    let s := ((Session.new timeoutMs).run acts).1
    s.poller.processed ≤ s.ledger.count ∧
      s.poller.processed.toNat + 1 ≤ overflowCount.toNat ∧
      (s.poller.processed + 1).toNat = s.poller.processed.toNat + 1 ∧
      (∀ claps, s.poller.next = .retire claps →
        claps ≤ s.ledger.count ∧
          (s.ledger.retire claps).count.toNat + claps.toNat = s.ledger.count.toNat) ∧
      (∀ now, s.poller.next = .readCount → (s.piece now).1.poller.next = .readLast →
        s.ledger.count = s.poller.processed) := by
  intro s
  have hs : s.Coherent := coherent_run_new timeoutMs acts
  have hbound := hs.processed_le
  refine ⟨UInt8.le_iff_toNat_le.mpr hs.processed_le_count, Nat.succ_le_succ hbound, ?_, ?_, ?_⟩
  · rw [UInt8.toNat_add, UInt8.toNat_one]
    omega
  · intro claps hnext
    have hle := hs.retire_le hnext
    refine ⟨UInt8.le_iff_toNat_le.mpr hle, ?_⟩
    rw [Ledger.retire_count_toNat]
    omega
  · intro now hnext hlast
    exact count_eq_processed_of_settle hs (pieceStep_piece s now) hnext hlast

/-- Two claps handed out: the poll that reads the count next goes on to finish the series on a
count of two, and its retire, once the clock shows the silence, removes two of the two counted. -/
theorem poller_within_ledger_two_claps :
    let s₀ := ((Session.new 1000).run [.record 0, .record 10, .piece 0, .piece 0]).1
    let s₁ := ((Session.new 1000).run
      [.record 0, .record 10, .piece 0, .piece 0, .piece 0, .piece 0, .piece 2000]).1
    s₀.poller.next = .readCount ∧ (s₀.piece 0).1.poller.next = .readLast ∧
      s₀.ledger.count = s₀.poller.processed ∧ s₁.poller.next = .retire 2 ∧ 2 ≤ s₁.ledger.count :=
  ⟨by decide, by decide,
    (poller_within_ledger 1000 _).2.2.2.2 0 (by decide) (by decide), by decide,
    ((poller_within_ledger 1000 _).2.2.2.1 2 (by decide)).1⟩

end Session

end Handclap
