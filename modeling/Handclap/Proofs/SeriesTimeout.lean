import Mathlib
import Handclap.Proofs.PollerBounds

/-!
# A series ends only after its timeout

The ledger stamps claps, and the poller reads the clock, in milliseconds modulo `2 ^ 32`. Suppose
every reading comes from one clock that never goes back, over a run shorter than `2 ^ 32` ms
(`Clocked`, over a history of `Tick`s, each a move at a true time). Then a poll that reports a
finished series has read the clock more than the series timeout after every clap recorded before
it read the latest clap's time, in true time, even across the wrap of the clock. A clap recorded
between that read and the clock read, as the sampling side may do, cannot make the difference
wrap: the latest clap's time is read first. Conversely, a poll that finds its series fully handed
out and records nothing while it runs ends the series exactly when more than the timeout has
passed since the latest clap (`series_ends_after_timeout`).
-/

namespace Handclap

/-- A move of the system at a true time in milliseconds: a clap recorded then, or the poller's
next piece, which reads the clock then if it reads it at all. -/
structure Tick where
  time : Nat
  clap : Bool
deriving DecidableEq, Repr

/-- The move a tick makes: the clock reading, a record's stamp included, is the true time modulo
`2 ^ 32`. -/
def Tick.action (x : Tick) : Action :=
  if x.clap then .record x.time.toUInt32 else .piece x.time.toUInt32

/-- The true times of a history come from one clock that never goes back, and the history spans
less than `2 ^ 32` ms. -/
def Clocked (h : List Tick) : Prop :=
  h.Pairwise fun x y => x.time ≤ y.time ∧ y.time < x.time + 2 ^ 32

instance (h : List Tick) : Decidable (Clocked h) :=
  inferInstanceAs (Decidable (List.Pairwise _ h))

def clapTimes (h : List Tick) : List Nat := (h.filter (·.clap)).map (·.time)

@[simp] theorem clapTimes_nil : clapTimes [] = [] := rfl

theorem clapTimes_append_singleton (h : List Tick) (x : Tick) :
    clapTimes (h ++ [x]) = clapTimes h ++ if x.clap then [x.time] else [] := by
  unfold clapTimes
  cases hx : x.clap <;> simp [List.filter_append, hx]

theorem mem_clapTimes {h : List Tick} {t : Nat} : t ∈ clapTimes h ↔ ∃ x ∈ h, x.clap ∧ x.time = t := by
  simp [clapTimes, and_assoc]

theorem Clocked.left {xs ys : List Tick} (hclk : Clocked (xs ++ ys)) : Clocked xs :=
  (List.pairwise_append.mp hclk).1

theorem Clocked.gap {xs ys : List Tick} (hclk : Clocked (xs ++ ys)) {x y : Tick} (hx : x ∈ xs)
    (hy : y ∈ ys) : x.time ≤ y.time ∧ y.time < x.time + 2 ^ 32 :=
  (List.pairwise_append.mp hclk).2.2 x hx y hy

theorem Clocked.le_latest {h : List Tick} (hclk : Clocked h) {latest : Nat}
    (hlast : (clapTimes h).getLast? = some latest) : ∀ t ∈ clapTimes h, t ≤ latest := by
  have hsorted : (clapTimes h).Pairwise (· ≤ ·) := by
    unfold clapTimes
    rw [List.pairwise_map]
    exact (hclk.sublist List.filter_sublist).imp fun hxy => hxy.1
  obtain ⟨ys, hys⟩ := List.getLast?_eq_some_iff.mp hlast
  rw [hys] at hsorted
  intro t ht
  rw [hys] at ht
  rcases List.mem_append.mp ht with ht | ht
  · exact (List.pairwise_append.mp hsorted).2.2 t ht latest (List.mem_singleton_self latest)
  · rw [List.mem_singleton.mp ht]

/-- A move after a history comes at most `2 ^ 32` ms after the history's latest clap. -/
theorem Clocked.window {xs ys : List Tick} (hclk : Clocked (xs ++ ys)) {latest : Nat}
    (hlatest : (clapTimes xs).getLast? = some latest) {c : Tick} (hc : c ∈ ys) :
    latest ≤ c.time ∧ c.time < latest + 2 ^ 32 := by
  obtain ⟨y, hy, -, rfl⟩ := mem_clapTimes.mp (List.mem_of_getLast? hlatest)
  exact hclk.gap hy hc

namespace Session

variable {s s' : Session} {now : UInt32} {e : Option Event}

theorem PieceStep.count_le (h : PieceStep s now s' e) :
    s'.ledger.count.toNat ≤ s.ledger.count.toNat := by
  cases h with
  | clear => simp
  | retire claps =>
    rw [Ledger.retire_count_toNat]
    exact Nat.sub_le _ _
  | _ => exact Nat.le_refl _

theorem PieceStep.frame (h : PieceStep s now s' e) :
    s'.ledger.lastClapMs = s.ledger.lastClapMs ∧ s'.poller.timeoutMs = s.poller.timeoutMs := by
  cases h <;> exact ⟨rfl, rfl⟩

theorem run_ticks_append_singleton (s : Session) (h : List Tick) (x : Tick) :
    (s.run ((h ++ [x]).map Tick.action)).1 = ((s.run (h.map Tick.action)).1.act x.action).1 := by
  rw [List.map_append, run_append]
  rfl

theorem timeoutMs_act (s : Session) (a : Action) :
    (s.act a).1.poller.timeoutMs = s.poller.timeoutMs := by
  cases a with
  | record t => rfl
  | piece now => exact (pieceStep_piece s now).frame.2

theorem timeoutMs_run (s : Session) (acts : List Action) :
    (s.run acts).1.poller.timeoutMs = s.poller.timeoutMs := by
  induction acts generalizing s with
  | nil => rfl
  | cons a acts ih => rw [run_cons, ih, timeoutMs_act]

theorem lastClapMs_run_ticks (s : Session) (h : List Tick) :
    (s.run (h.map Tick.action)).1.ledger.lastClapMs =
      ((clapTimes h).getLast?.map Nat.toUInt32).getD s.ledger.lastClapMs := by
  induction h using List.reverseRecOn with
  | nil => rfl
  | append_singleton h x ih =>
    rw [run_ticks_append_singleton, clapTimes_append_singleton]
    cases hx : x.clap with
    | true => simp [Tick.action, hx, act]
    | false =>
      simp only [Tick.action, hx, Bool.false_eq_true, if_false, act, List.append_nil]
      rw [(pieceStep_piece _ _).frame.1, ih]

theorem count_le_claps (s : Session) (h : List Tick) :
    (s.run (h.map Tick.action)).1.ledger.count.toNat ≤
      s.ledger.count.toNat + (clapTimes h).length := by
  induction h using List.reverseRecOn with
  | nil => exact Nat.le_add_right _ _
  | append_singleton h x ih =>
    rw [run_ticks_append_singleton, clapTimes_append_singleton, List.length_append]
    cases hx : x.clap with
    | true =>
      simp only [Tick.action, hx, if_true, act, record_ledger, Ledger.record_count_toNat,
        List.length_singleton]
      omega
    | false =>
      simp only [Tick.action, hx, Bool.false_eq_true, if_false, act, List.length_nil,
        Nat.add_zero]
      exact Nat.le_trans (pieceStep_piece _ _).count_le ih

/-- Only the read of the latest clap's time leaves a clock read pending, with that time. -/
theorem PieceStep.readClock_inv {last : UInt32} (h : PieceStep s now s' e)
    (hnext : s'.poller.next = .readClock last) :
    s.poller.next = .readLast ∧ last = s.ledger.lastClapMs ∧
      s'.poller.processed = s.poller.processed := by
  cases h with
  | readLast hprev =>
    simp only [Piece.readClock.injEq] at hnext
    exact ⟨hprev, hnext.symm, rfl⟩
  | _ => simp_all

/-- Only a clock read that found the silence long enough leaves a retire pending, of the claps
handed out. -/
theorem PieceStep.retire_inv {claps : UInt8} (h : PieceStep s now s' e)
    (hnext : s'.poller.next = .retire claps) :
    ∃ last, s.poller.next = .readClock last ∧ s.poller.timeoutMs < now - last ∧
      claps = s.poller.processed := by
  cases h with
  | expire last hprev hgap =>
    simp only [Piece.retire.injEq] at hnext
    exact ⟨last, hprev, hgap, hnext.symm⟩
  | _ => simp_all

theorem PieceStep.finished_inv {n : UInt8} (h : PieceStep s now s' e)
    (he : e = some (.finished n)) : s.poller.next = .retire n := by
  cases h with
  | retire claps hprev =>
    simp only [Option.some.injEq, Event.finished.injEq] at he
    rw [hprev, he]
  | _ => simp_all

/-- Mid-poll, the poller is where the poll's latest piece left it: the moves since were records. -/
theorem exists_last_piece (s : Session) (hstart : s.poller.next = .readCount) :
    ∀ h : List Tick, (s.run (h.map Tick.action)).1.poller.next ≠ .readCount →
      ∃ h₁ τ h₂, h = h₁ ++ ⟨τ, false⟩ :: h₂ ∧ (∀ x ∈ h₂, x.clap) ∧
        (s.run (h.map Tick.action)).1.poller =
          ((s.run (h₁.map Tick.action)).1.piece τ.toUInt32).1.poller := by
  intro h
  induction h using List.reverseRecOn with
  | nil =>
    intro hnext
    exact absurd hstart hnext
  | append_singleton h x ih =>
    intro hnext
    rw [run_ticks_append_singleton] at hnext ⊢
    cases hx : x.clap with
    | true =>
      -- a record leaves the poller as it was, so the latest piece lies further back
      simp only [Tick.action, hx, if_true, act, record_poller] at hnext ⊢
      obtain ⟨h₁, τ, h₂, rfl, hclaps, hpoller⟩ := ih hnext
      refine ⟨h₁, τ, h₂ ++ [x], by simp, ?_, hpoller⟩
      intro y hy
      rcases List.mem_append.mp hy with hy | hy
      · exact hclaps y hy
      · rw [List.mem_singleton.mp hy]
        exact hx
    | false =>
      refine ⟨h, x.time, [], ?_, fun y hy => absurd hy List.not_mem_nil, ?_⟩
      · cases x
        simp only at hx
        rw [hx]
      · simp only [Tick.action, hx, Bool.false_eq_true, if_false, act]

theorem interject_quiet (s : Session) (now : UInt32) : s.interject now false = s := by
  unfold interject
  split <;> simp_all

theorem finish_of_piece_none {s₁ : Session} {racing : Bool}
    (h : (s.interject now racing).piece now = (s₁, none)) :
    s.finish now racing = s₁.finish now racing := by
  rw [finish]
  split
  · next e h' =>
    rw [h] at h'
    cases h'
  · next s₂ h' =>
    rw [h] at h'
    cases h'
    rfl

theorem finish_of_piece_some {s₁ : Session} {racing : Bool} {ev : Event}
    (h : (s.interject now racing).piece now = (s₁, some ev)) :
    s.finish now racing = (s₁, ev) := by
  rw [finish]
  split
  · next e h' =>
    rw [h] at h'
    cases h'
    rfl
  · next s₂ h' =>
    rw [h] at h'
    cases h'

/-- A poll that finds the series fully handed out, with no clap recorded while it runs, reads
the latest clap's time and the clock, and ends the series exactly when the silence exceeds the
timeout. -/
theorem poll_caught_up (hnext : s.poller.next = .readCount)
    (hcount : s.ledger.count = s.poller.processed) (hpos : 0 < s.ledger.count) :
    (s.poll now false).2 =
      if s.poller.timeoutMs < now - s.ledger.lastClapMs then .finished s.poller.processed
      else .quiet := by
  have hcaught : ¬s.poller.processed < s.ledger.count := by
    rw [hcount]
    exact UInt8.lt_irrefl _
  have hsettle : (s.interject now false).piece now =
      (⟨s.ledger, { s.poller with next := .readLast }⟩, none) := by
    simp only [interject_quiet, piece, hnext, hcaught, hpos, if_true, if_false]
  have hread : ((⟨s.ledger, { s.poller with next := .readLast }⟩ : Session).interject now
      false).piece now =
      (⟨s.ledger, { s.poller with next := .readClock s.ledger.lastClapMs }⟩, none) := by
    simp only [interject_quiet, piece]
  unfold poll
  rw [finish_of_piece_none hsettle, finish_of_piece_none hread]
  by_cases hgap : s.poller.timeoutMs < now - s.ledger.lastClapMs
  · have hexpire : ((⟨s.ledger, { s.poller with next := .readClock s.ledger.lastClapMs }⟩ :
        Session).interject now false).piece now =
        (⟨s.ledger, { s.poller with next := .retire s.poller.processed }⟩, none) := by
      simp only [interject_quiet, piece, hgap, if_true]
    have hretire : ((⟨s.ledger, { s.poller with next := .retire s.poller.processed }⟩ :
        Session).interject now false).piece now =
        (⟨s.ledger.retire s.poller.processed, { s.poller with processed := 0, next := .readCount }⟩,
          some (.finished s.poller.processed)) := by
      simp only [interject_quiet, piece]
    rw [finish_of_piece_none hexpire, finish_of_piece_some hretire, if_pos hgap]
  · have hwait : ((⟨s.ledger, { s.poller with next := .readClock s.ledger.lastClapMs }⟩ :
        Session).interject now false).piece now =
        (⟨s.ledger, { s.poller with next := .readCount }⟩, some .quiet) := by
      simp only [interject_quiet, piece, hgap, if_false]
    rw [finish_of_piece_some hwait, if_neg hgap]

theorem lastClapMs_of_latest (s : Session) {h : List Tick} {latest : Nat}
    (hlatest : (clapTimes h).getLast? = some latest) :
    (s.run (h.map Tick.action)).1.ledger.lastClapMs = latest.toUInt32 := by
  rw [lastClapMs_run_ticks, hlatest]
  rfl

theorem exists_latest_clap (timeoutMs : UInt32) (h : List Tick)
    (hpos : 0 < ((Session.new timeoutMs).run (h.map Tick.action)).1.ledger.count.toNat) :
    ∃ latest, (clapTimes h).getLast? = some latest := by
  have hcount := count_le_claps (Session.new timeoutMs) h
  have hne : clapTimes h ≠ [] := by
    intro hnil
    rw [hnil] at hcount
    change _ ≤ 0 + 0 at hcount
    omega
  exact Option.isSome_iff_exists.mp (List.getLast?_isSome.mpr hne)

/-- The poll that reports a finished series, traced back through the history: it read the latest
clap's time after `h₀`, with the series of `n` claps handed out, and then read the clock at
`clock`, more than the timeout after that stamp; only claps were recorded in between and since. -/
theorem finished_poll_shape (timeoutMs : UInt32) (hist : List Tick) (now : UInt32) (n : UInt8)
    (hfin : (((Session.new timeoutMs).run (hist.map Tick.action)).1.piece now).2 =
      some (.finished n)) :
    ∃ h₀ read h₁ clock h₂, hist = h₀ ++ ⟨read, false⟩ :: h₁ ++ ⟨clock, false⟩ :: h₂ ∧
      (∀ x ∈ h₁ ++ h₂, x.clap) ∧
      ((Session.new timeoutMs).run (h₀.map Tick.action)).1.poller.next = .readLast ∧
      n = ((Session.new timeoutMs).run (h₀.map Tick.action)).1.poller.processed ∧
      timeoutMs < clock.toUInt32 -
        ((Session.new timeoutMs).run (h₀.map Tick.action)).1.ledger.lastClapMs := by
  have hstart : (Session.new timeoutMs).poller.next = .readCount := rfl
  -- the piece reporting the series is a retire, set up by the poll's clock read
  have hretire := (pieceStep_piece _ now).finished_inv hfin
  obtain ⟨h₁', clock, h₂, rfl, hclaps₂, hpoller₂⟩ :=
    exists_last_piece _ hstart hist (by rw [hretire]; simp)
  rw [hpoller₂] at hretire
  obtain ⟨last, hclock, hgap, hn⟩ := (pieceStep_piece _ _).retire_inv hretire
  -- which in turn was set up by the poll's read of the latest clap's time
  obtain ⟨h₀, read, h₁, rfl, hclaps₁, hpoller₁⟩ :=
    exists_last_piece _ hstart h₁' (by rw [hclock]; simp)
  rw [hpoller₁] at hclock hn
  obtain ⟨hread, hlast, hproc⟩ := (pieceStep_piece _ _).readClock_inv hclock
  rw [hlast, timeoutMs_run] at hgap
  refine ⟨h₀, read, h₁, clock, h₂, by simp, ?_, hread, by rw [hn, hproc], hgap⟩
  intro x hx
  rcases List.mem_append.mp hx with hx | hx
  · exact hclaps₁ x hx
  · exact hclaps₂ x hx

/-- A poll that reports a finished series of `n` read the latest clap's time after a history
`h₀` holding at least `n` claps, then, with only claps recorded in between, read the clock at a
true time more than the timeout after every clap of `h₀`. -/
theorem finished_after_timeout (timeoutMs : UInt32) (hist : List Tick) (now : UInt32) (n : UInt8)
    (hclk : Clocked hist)
    (hfin : (((Session.new timeoutMs).run (hist.map Tick.action)).1.piece now).2 =
      some (.finished n)) :
    ∃ h₀ read h₁ clock h₂, hist = h₀ ++ ⟨read, false⟩ :: h₁ ++ ⟨clock, false⟩ :: h₂ ∧
      (∀ x ∈ h₁ ++ h₂, x.clap) ∧
      ((Session.new timeoutMs).run (h₀.map Tick.action)).1.poller.next = .readLast ∧
      n.toNat ≤ (clapTimes h₀).length ∧ ∀ t ∈ clapTimes h₀, timeoutMs.toNat < clock - t := by
  obtain ⟨h₀, read, h₁, clock, h₂, rfl, hclaps, hread, hn, hgap⟩ :=
    finished_poll_shape timeoutMs hist now n hfin
  have hs₀ := coherent_run_new timeoutMs (h₀.map Tick.action)
  have hpend := hs₀.pending
  simp only [Poller.Pending, hread] at hpend
  have hcount := count_le_claps (Session.new timeoutMs) h₀
  have hle := hs₀.processed_le_count
  obtain ⟨latest, hlatest⟩ := exists_latest_clap timeoutMs h₀ (by omega)
  rw [lastClapMs_of_latest _ hlatest] at hgap
  -- the clock read comes after the latest clap, less than `2 ^ 32` ms later, so the wrapping
  -- difference the poll compared is the true time that passed
  have hclk₀ : Clocked (h₀ ++ (⟨read, false⟩ :: h₁ ++ ⟨clock, false⟩ :: h₂)) := by
    rw [← List.append_assoc]
    exact hclk
  have hclock_mem : (⟨clock, false⟩ : Tick) ∈ ⟨read, false⟩ :: h₁ ++ ⟨clock, false⟩ :: h₂ := by
    simp
  have hwindow := hclk₀.window hlatest hclock_mem
  have hpassed : timeoutMs.toNat < clock - latest := by
    rw [← Word.toNat_toUInt32_sub hwindow.1 hwindow.2]
    exact UInt32.lt_iff_toNat_lt.mp hgap
  have hbefore := hclk₀.left.le_latest hlatest
  refine ⟨h₀, read, h₁, clock, h₂, rfl, hclaps, hread, ?_, ?_⟩
  · rw [hn]
    change _ ≤ 0 + _ at hcount
    omega
  · intro t ht
    have := hbefore t ht
    omega

/-- A poll that finds the series fully handed out, with no clap recorded while it runs, ends it
exactly when the clock read comes more than the timeout after the latest clap, in true time. -/
theorem finishes_iff_timeout (timeoutMs : UInt32) (hist : List Tick) (clock : Nat)
    (hclk : Clocked (hist ++ [⟨clock, false⟩]))
    (hnext : ((Session.new timeoutMs).run (hist.map Tick.action)).1.poller.next = .readCount)
    (hcount : ((Session.new timeoutMs).run (hist.map Tick.action)).1.ledger.count =
      ((Session.new timeoutMs).run (hist.map Tick.action)).1.poller.processed)
    (hpos : 0 < ((Session.new timeoutMs).run (hist.map Tick.action)).1.poller.processed) :
    ∃ latest, (clapTimes hist).getLast? = some latest ∧
      ((((Session.new timeoutMs).run (hist.map Tick.action)).1.poll clock.toUInt32 false).2 =
          .finished ((Session.new timeoutMs).run (hist.map Tick.action)).1.poller.processed ↔
        timeoutMs.toNat < clock - latest) := by
  have hpos' : 0 < ((Session.new timeoutMs).run (hist.map Tick.action)).1.ledger.count := by
    rw [hcount]
    exact hpos
  obtain ⟨latest, hlatest⟩ :=
    exists_latest_clap timeoutMs hist (UInt8.lt_iff_toNat_lt.mp hpos')
  have hwindow := hclk.window hlatest (List.mem_singleton_self _)
  have hpassed : timeoutMs < clock.toUInt32 - latest.toUInt32 ↔ timeoutMs.toNat < clock - latest := by
    rw [UInt32.lt_iff_toNat_lt, Word.toNat_toUInt32_sub hwindow.1 hwindow.2]
  have htimeout : (Session.new timeoutMs).poller.timeoutMs = timeoutMs := rfl
  refine ⟨latest, hlatest, ?_⟩
  rw [poll_caught_up hnext hcount hpos', lastClapMs_of_latest _ hlatest, timeoutMs_run, htimeout,
    ← hpassed]
  by_cases hgap : timeoutMs < clock.toUInt32 - latest.toUInt32
  · simp only [hgap, if_true]
  · simp only [hgap, if_false, reduceCtorEq]

/-- A series ends only after its timeout, across the wrap of the clock. Let every reading of the
clock, the stamps of the records included, be one true time modulo `2 ^ 32` that never goes back,
over a run shorter than `2 ^ 32` ms. Whenever a piece of a poll reports a finished series of `n`,
the poll read the latest clap's time after a history `h₀` of at least `n` claps, and then, with
only claps recorded in between, read the clock at a true time more than the timeout after every
clap of `h₀`: a clap recorded between the two reads does not count. Conversely, a poll that finds
its series fully handed out and not empty, with no clap recorded while it runs, reports the series
finished exactly when the clock read comes more than the timeout after the latest clap. -/
theorem series_ends_after_timeout (timeoutMs : UInt32) :
    (∀ (hist : List Tick) (now : UInt32) (n : UInt8), Clocked hist →
      (((Session.new timeoutMs).run (hist.map Tick.action)).1.piece now).2 = some (.finished n) →
      ∃ h₀ read h₁ clock h₂, hist = h₀ ++ ⟨read, false⟩ :: h₁ ++ ⟨clock, false⟩ :: h₂ ∧
        (∀ x ∈ h₁ ++ h₂, x.clap) ∧
        ((Session.new timeoutMs).run (h₀.map Tick.action)).1.poller.next = .readLast ∧
        n.toNat ≤ (clapTimes h₀).length ∧ ∀ t ∈ clapTimes h₀, timeoutMs.toNat < clock - t) ∧
    (∀ (hist : List Tick) (clock : Nat), Clocked (hist ++ [⟨clock, false⟩]) →
      let s := ((Session.new timeoutMs).run (hist.map Tick.action)).1
      s.poller.next = .readCount → s.ledger.count = s.poller.processed →
        0 < s.poller.processed →
        ∃ latest, (clapTimes hist).getLast? = some latest ∧
          ((s.poll clock.toUInt32 false).2 = .finished s.poller.processed ↔
            timeoutMs.toNat < clock - latest)) :=
  ⟨finished_after_timeout timeoutMs, finishes_iff_timeout timeoutMs⟩

/-- Two histories: a clap recorded at 2000 between the latest clap's read and the clock
read, which ends the series of the claps at 0 and 10 and not the one at 2000; and a clap 11 ms
before the clock wraps, whose series a poll at reading 990 after the wrap ends, 1001 ms later. -/
theorem series_ends_after_timeout_racing_and_wrap :
    let racing : List Tick := [⟨0, true⟩, ⟨10, true⟩, ⟨10, false⟩, ⟨10, false⟩, ⟨2000, false⟩,
      ⟨2000, false⟩, ⟨2000, true⟩, ⟨2000, false⟩]
    let wrapped : List Tick := [⟨2 ^ 32 - 11, true⟩, ⟨2 ^ 32 - 11, false⟩]
    let s := ((Session.new 1000).run (wrapped.map Tick.action)).1
    (Clocked racing ∧
      (((Session.new 1000).run (racing.map Tick.action)).1.piece 2000).2 = some (.finished 2) ∧
      ∃ h₀ read h₁ clock h₂, racing = h₀ ++ ⟨read, false⟩ :: h₁ ++ ⟨clock, false⟩ :: h₂ ∧
        (∀ x ∈ h₁ ++ h₂, x.clap) ∧
        ((Session.new 1000).run (h₀.map Tick.action)).1.poller.next = .readLast ∧
        (2 : UInt8).toNat ≤ (clapTimes h₀).length ∧
        ∀ t ∈ clapTimes h₀, (1000 : UInt32).toNat < clock - t) ∧
    (Clocked (wrapped ++ [⟨2 ^ 32 + 990, false⟩]) ∧ s.poller.next = .readCount ∧
      s.ledger.count = s.poller.processed ∧ 0 < s.poller.processed ∧
      ∃ latest, (clapTimes wrapped).getLast? = some latest ∧
        ((s.poll (2 ^ 32 + 990 : Nat).toUInt32 false).2 = .finished s.poller.processed ↔
          (1000 : UInt32).toNat < 2 ^ 32 + 990 - latest)) :=
  have hracing : Clocked [⟨0, true⟩, ⟨10, true⟩, ⟨10, false⟩, ⟨10, false⟩, ⟨2000, false⟩,
      ⟨2000, false⟩, ⟨2000, true⟩, ⟨2000, false⟩] := by decide
  have hfinished : (((Session.new 1000).run (List.map Tick.action [⟨0, true⟩, ⟨10, true⟩,
      ⟨10, false⟩, ⟨10, false⟩, ⟨2000, false⟩, ⟨2000, false⟩, ⟨2000, true⟩,
      ⟨2000, false⟩])).1.piece 2000).2 = some (.finished 2) := by decide
  have hwrapped : Clocked ([⟨2 ^ 32 - 11, true⟩, ⟨2 ^ 32 - 11, false⟩] ++
      [⟨2 ^ 32 + 990, false⟩]) := by decide
  have hstate : ((Session.new 1000).run
      (List.map Tick.action [⟨2 ^ 32 - 11, true⟩, ⟨2 ^ 32 - 11, false⟩])).1 =
      ⟨⟨1, (2 ^ 32 - 11 : Nat).toUInt32⟩, ⟨1, 1000, .readCount⟩⟩ := by decide
  ⟨⟨hracing, hfinished, (series_ends_after_timeout 1000).1 _ 2000 2 hracing hfinished⟩,
    hwrapped, by rw [hstate], by rw [hstate], by rw [hstate]; decide,
    (series_ends_after_timeout 1000).2 _ _ hwrapped (by rw [hstate]) (by rw [hstate])
      (by rw [hstate]; decide)⟩

end Session

end Handclap
