import Handclap.Proofs.SeriesTimeout

/-!
# Polling drains the pending claps

When no clap is recorded while it runs, a poll is the straight-line function its pieces spell out
(`Session.poll_quiet_eq`): hand out the next clap, or drop the series when that clap would reach
`overflowCount`; else, with the series fully handed out and not empty, end it once the silence
since the latest clap exceeds the timeout; else report nothing and change nothing.

Polling again and again with the clock standing still (`Session.polls`) therefore drains what is
pending in a fixed order (`polls_drain`). Claps `p + 1, …, c` are handed out one poll each, with
no quiet poll between them. A series of at most 126 claps then ends with one `finished c` once
the timeout has passed, and a longer one is dropped with `overflow` right after its 126th clap.
From then on every poll is quiet and changes nothing.
-/

namespace Handclap

/-- The claps of a running series handed out after the first `p`, up to the `c`-th:
`inProgress (p + 1), …, inProgress c`. -/
def Event.countFrom (p c : Nat) : List Event :=
  (List.range' (p + 1) (c - p)).map fun n => .inProgress n.toUInt8

theorem Event.countFrom_succ {p c : Nat} (h : p < c) :
    Event.countFrom p c = .inProgress (p + 1).toUInt8 :: Event.countFrom (p + 1) c := by
  obtain ⟨j, rfl⟩ : ∃ j, c = p + 1 + j := ⟨c - (p + 1), by omega⟩
  simp only [countFrom, show p + 1 + j - p = j + 1 by omega, show p + 1 + j - (p + 1) = j by omega,
    List.range'_succ, List.map_cons]

@[simp] theorem Event.countFrom_self (p : Nat) : Event.countFrom p p = [] := by
  simp [countFrom]

namespace Session

variable {s : Session} {now : UInt32}

/-- `k` whole polls one after another, with the clock reading `now` and no clap recorded: the
session after them, and what each poll reported. -/
def polls (s : Session) (now : UInt32) : Nat → Session × List Event
  | 0 => (s, [])
  | k + 1 =>
    let r := s.poll now false
    let rest := r.1.polls now k
    (rest.1, r.2 :: rest.2)

theorem polls_succ (s : Session) (now : UInt32) (k : Nat) :
    s.polls now (k + 1) =
      (((s.poll now false).1.polls now k).1,
        (s.poll now false).2 :: ((s.poll now false).1.polls now k).2) := rfl

theorem polls_add (s : Session) (now : UInt32) (j k : Nat) :
    s.polls now (j + k) =
      (((s.polls now j).1.polls now k).1, (s.polls now j).2 ++ ((s.polls now j).1.polls now k).2) := by
  induction j generalizing s with
  | zero => simp [polls]
  | succ j ih =>
    rw [Nat.add_right_comm, polls_succ, ih, polls_succ]
    simp only [List.cons_append]

theorem finish_quiet (s : Session) (now : UInt32) :
    s.finish now false = match s.piece now with
      | (s₁, some e) => (s₁, e)
      | (s₁, none) => s₁.finish now false := by
  rcases hpiece : s.piece now with ⟨s₁, e⟩
  have hquiet : (s.interject now false).piece now = (s₁, e) := by rw [interject_quiet, hpiece]
  cases e with
  | none => exact finish_of_piece_none hquiet
  | some e => exact finish_of_piece_some hquiet

/-- A poll from between polls, with no clap recorded while it runs, in one step. -/
theorem poll_quiet_eq (hnext : s.poller.next = .readCount) :
    s.poll now false =
      if s.poller.processed < s.ledger.count then
        if overflowCount ≤ s.poller.processed + 1 then
          (⟨s.ledger.clear, { s.poller with processed := 0 }⟩, .overflow)
        else (⟨s.ledger, { s.poller with processed := s.poller.processed + 1 }⟩,
          .inProgress (s.poller.processed + 1))
      else if 0 < s.ledger.count ∧ s.poller.timeoutMs < now - s.ledger.lastClapMs then
        (⟨s.ledger.retire s.poller.processed, { s.poller with processed := 0 }⟩,
          .finished s.poller.processed)
      else (s, .quiet) := by
  obtain ⟨l, ⟨p, t, nx⟩⟩ := s
  simp only at hnext
  subst hnext
  unfold poll
  rw [finish_quiet]
  by_cases hahead : p < l.count
  · by_cases hfull : overflowCount ≤ p + 1
    · -- the count read gives up on the series, and the clear reports the overflow
      simp only [piece, hahead, hfull, if_true]
      rw [finish_quiet]
      rfl
    · simp only [piece, hahead, hfull, if_true, if_false]
  · by_cases hpos : 0 < l.count
    · -- the count read goes on to read the latest clap's time, and that read to the clock
      simp only [piece, hahead, hpos, if_true, if_false, true_and]
      rw [finish_quiet]
      simp only [piece]
      rw [finish_quiet]
      by_cases hgap : t < now - l.lastClapMs
      · simp only [piece, hgap, if_true]
        rw [finish_quiet]
        rfl
      · simp only [piece, hgap, if_false]
    · simp only [piece, hahead, hpos, if_false, false_and]

theorem polls_of_fixed (hfix : s.poll now false = (s, .quiet)) (k : Nat) :
    s.polls now k = (s, List.replicate k .quiet) := by
  induction k with
  | zero => rfl
  | succ k ih => rw [polls_succ, hfix, ih, List.replicate_succ]

/-- Handing out claps one poll each, from `p` handed out up to `q`, while the count is at least
`q` and `q` stays below `overflowCount`. -/
theorem polls_handOut (hnext : s.poller.next = .readCount) {q : Nat}
    (hpq : s.poller.processed.toNat ≤ q) (hqc : q ≤ s.ledger.count.toNat) (hq : q ≤ 126) :
    s.polls now (q - s.poller.processed.toNat) =
      (⟨s.ledger, { s.poller with processed := q.toUInt8 }⟩,
        Event.countFrom s.poller.processed.toNat q) := by
  -- induction on the polls still to go, the session moving on by one handed-out clap each time
  generalize hj : q - s.poller.processed.toNat = j
  induction j generalizing s with
  | zero =>
    have hq' : q = s.poller.processed.toNat := by omega
    subst hq'
    simp [polls]
  | succ j ih =>
    have hahead : s.poller.processed < s.ledger.count := UInt8.lt_iff_toNat_lt.mpr (by omega)
    have hsucc := toNat_processed_add_one hahead
    have hroom : ¬overflowCount ≤ s.poller.processed + 1 := by
      rw [UInt8.le_iff_toNat_le, hsucc]
      change ¬127 ≤ _
      omega
    have hstep := ih (s := ⟨s.ledger, { s.poller with processed := s.poller.processed + 1 }⟩)
      hnext (show (s.poller.processed + 1).toNat ≤ q by omega) hqc
      (show q - (s.poller.processed + 1).toNat = j by omega)
    simp only [hsucc] at hstep
    have hprocessed : s.poller.processed + 1 = (s.poller.processed.toNat + 1).toUInt8 :=
      UInt8.toNat_inj.mp (by rw [hsucc, Nat.toUInt8_eq, UInt8.toNat_ofNat']; omega)
    rw [polls_succ, poll_quiet_eq hnext, if_pos hahead, if_neg hroom]
    dsimp only
    rw [hstep, Event.countFrom_succ (p := s.poller.processed.toNat) (c := q) (by omega),
      hprocessed]

/-- The session with the series fully handed out: the claps handed out have caught up with the
count. -/
def caughtUp (s : Session) : Session := ⟨s.ledger, { s.poller with processed := s.ledger.count }⟩

/-- The session after a series ends or is dropped: nothing counted, nothing handed out. -/
def emptied (s : Session) : Session := ⟨{ s.ledger with count := 0 }, { s.poller with processed := 0 }⟩

@[simp] theorem caughtUp_poller_next (s : Session) : s.caughtUp.poller.next = s.poller.next := rfl

@[simp] theorem emptied_poller_next (s : Session) : s.emptied.poller.next = s.poller.next := rfl

theorem poll_emptied (hnext : s.poller.next = .readCount) :
    s.emptied.poll now false = (s.emptied, .quiet) := by
  have hnone : ¬s.emptied.poller.processed < s.emptied.ledger.count := UInt8.lt_irrefl 0
  have hempty : ¬(0 < s.emptied.ledger.count ∧
      s.emptied.poller.timeoutMs < now - s.emptied.ledger.lastClapMs) := fun h =>
    UInt8.lt_irrefl 0 h.1
  rw [poll_quiet_eq (s := s.emptied) hnext, if_neg hnone, if_neg hempty]

/-- A fully handed-out series ends with a poll once the silence exceeds the timeout, and the
retire takes the count back to zero. -/
theorem poll_caughtUp_of_gap (hnext : s.poller.next = .readCount) (hpos : 0 < s.ledger.count)
    (hgap : s.poller.timeoutMs < now - s.ledger.lastClapMs) :
    s.caughtUp.poll now false = (s.emptied, .finished s.ledger.count) := by
  have hcaught : ¬s.caughtUp.poller.processed < s.caughtUp.ledger.count := UInt8.lt_irrefl _
  have hzero : Word.subSat8 s.ledger.count s.ledger.count = 0 :=
    UInt8.toNat_inj.mp (by rw [Word.toNat_subSat8, Nat.sub_self]; rfl)
  rw [poll_quiet_eq (s := s.caughtUp) hnext, if_neg hcaught, if_pos ⟨hpos, hgap⟩]
  simp only [caughtUp, emptied, Ledger.retire, hzero]

theorem poll_caughtUp_of_no_gap (hnext : s.poller.next = .readCount)
    (hwait : ¬(0 < s.ledger.count ∧ s.poller.timeoutMs < now - s.ledger.lastClapMs)) :
    s.caughtUp.poll now false = (s.caughtUp, .quiet) := by
  have hcaught : ¬s.caughtUp.poller.processed < s.caughtUp.ledger.count := UInt8.lt_irrefl _
  rw [poll_quiet_eq (s := s.caughtUp) hnext, if_neg hcaught]
  exact if_neg hwait

/-- Polling again and again with the clock standing still and no clap recorded drains what is
pending. Take a poller between polls that has handed out `p` claps of a count `c`, with
`p ≤ c`. If `c ≤ 126`, the
next `c - p` polls hand out `inProgress (p + 1), …, inProgress c`, with no quiet poll between
them. Then, if the series is not empty and more than the timeout has passed since the latest
clap, one `finished c` follows and the count and the claps handed out are back at zero;
otherwise the polls report nothing. Either way every later poll reports nothing and changes
nothing. If `c ≥ 127` and `p` is below `overflowCount`, as it is for every poller
(`poller_within_ledger`), the polls hand out `inProgress (p + 1), …, inProgress 126`, then report
`overflow` with the count cleared, and then nothing, forever, changing nothing. -/
theorem polls_drain (s : Session) (now : UInt32) (hnext : s.poller.next = .readCount)
    (hle : s.poller.processed ≤ s.ledger.count) :
    let p := s.poller.processed.toNat
    let c := s.ledger.count.toNat
    (c ≤ 126 → s.polls now (c - p) = (s.caughtUp, Event.countFrom p c)) ∧
    (c ≤ 126 → 1 ≤ c → s.poller.timeoutMs < now - s.ledger.lastClapMs → ∀ k,
      s.polls now (c - p + 1 + k) =
        (s.emptied, Event.countFrom p c ++ .finished s.ledger.count :: List.replicate k .quiet)) ∧
    (c ≤ 126 → (c = 0 ∨ ¬s.poller.timeoutMs < now - s.ledger.lastClapMs) → ∀ k,
      s.polls now (c - p + k) = (s.caughtUp, Event.countFrom p c ++ List.replicate k .quiet)) ∧
    (127 ≤ c → s.poller.processed < overflowCount → ∀ k,
      s.polls now (126 - p + 1 + k) =
        (s.emptied, Event.countFrom p 126 ++ .overflow :: List.replicate k .quiet)) := by
  dsimp only
  have hpc : s.poller.processed.toNat ≤ s.ledger.count.toNat := UInt8.le_iff_toNat_le.mp hle
  -- the claps still pending are handed out first, whichever way the series ends
  have hhand : s.ledger.count.toNat ≤ 126 →
      s.polls now (s.ledger.count.toNat - s.poller.processed.toNat) =
        (s.caughtUp, Event.countFrom s.poller.processed.toNat s.ledger.count.toNat) := by
    intro hc
    rw [polls_handOut hnext hpc (Nat.le_refl _) hc, Nat.toUInt8_eq, UInt8.ofNat_toNat]
    rfl
  refine ⟨hhand, ?_, ?_, ?_⟩
  · intro hc hpos hgap k
    have hpos' : 0 < s.ledger.count := UInt8.lt_iff_toNat_lt.mpr hpos
    rw [Nat.add_assoc, Nat.add_comm 1 k, polls_add, hhand hc, polls_succ,
      poll_caughtUp_of_gap hnext hpos' hgap,
      polls_of_fixed (poll_emptied hnext)]
  · intro hc hwait k
    have hwait' : ¬(0 < s.ledger.count ∧ s.poller.timeoutMs < now - s.ledger.lastClapMs) := by
      rintro ⟨hpos, hgap⟩
      rcases hwait with hzero | hno
      · exact absurd (UInt8.lt_iff_toNat_lt.mp hpos) (by rw [hzero]; exact Nat.lt_irrefl 0)
      · exact hno hgap
    rw [polls_add, hhand hc, polls_of_fixed (poll_caughtUp_of_no_gap hnext hwait')]
  · intro hc hbound k
    have hp : s.poller.processed.toNat ≤ 126 := by
      have := UInt8.lt_iff_toNat_lt.mp hbound
      change _ < 127 at this
      omega
    -- the 127th clap would reach `overflowCount`: the series is dropped instead
    have hfull : (⟨s.ledger, { s.poller with processed := (126 : Nat).toUInt8 }⟩ : Session).poll now
        false = (s.emptied, .overflow) := by
      have hahead : (126 : Nat).toUInt8 < s.ledger.count :=
        UInt8.lt_iff_toNat_lt.mpr (by change 126 < _; omega)
      have hdrop : overflowCount ≤ (126 : Nat).toUInt8 + 1 := by decide
      rw [poll_quiet_eq (s := ⟨s.ledger, { s.poller with processed := (126 : Nat).toUInt8 }⟩) hnext]
      dsimp only
      rw [if_pos hahead, if_pos hdrop]
      rfl
    rw [Nat.add_assoc, Nat.add_comm 1 k, polls_add, polls_succ,
      polls_handOut hnext hp (by omega) (Nat.le_refl 126), hfull,
      polls_of_fixed (poll_emptied hnext)]

/-- Two sessions polled at 2000 ms. Three claps counted, one handed out, the latest at 100 ms:
the polls hand out the second and third claps, end the series of three, and then report nothing.
Two hundred claps counted, 124 handed out: the polls hand out the 125th and 126th, drop the
series, and then report nothing. -/
theorem polls_drain_finished_and_dropped :
    let s : Session := ⟨⟨3, 100⟩, ⟨1, 1000, .readCount⟩⟩
    let t : Session := ⟨⟨200, 100⟩, ⟨124, 1000, .readCount⟩⟩
    (s.poller.next = .readCount ∧ s.poller.processed ≤ s.ledger.count ∧
      s.polls 2000 4 = (s.emptied, [.inProgress 2, .inProgress 3, .finished 3, .quiet])) ∧
    (t.poller.next = .readCount ∧ t.poller.processed ≤ t.ledger.count ∧
      t.poller.processed < overflowCount ∧
      t.polls 2000 4 = (t.emptied, [.inProgress 125, .inProgress 126, .overflow, .quiet])) :=
  ⟨⟨rfl, by decide,
    (polls_drain ⟨⟨3, 100⟩, ⟨1, 1000, .readCount⟩⟩ 2000 rfl (by decide)).2.1
      (by decide) (by decide) (by decide) 1⟩,
   ⟨rfl, by decide, by decide,
    (polls_drain ⟨⟨200, 100⟩, ⟨124, 1000, .readCount⟩⟩ 2000 rfl (by decide)).2.2.2
      (by decide) (by decide) 1⟩⟩

end Session

end Handclap
