import Handclap.Proofs.PollerBounds

/-!
# Events come in whole series

Leaving out the polls that report nothing, the events of any run read as a sequence of series.
Each series hands out its claps as `inProgress 1, …, inProgress k` and then either finishes with
`finished k`, for `1 ≤ k ≤ 126`, or is dropped with `overflow` at `k = 126`; the last series may
still be running (`Event.SeriesLog`). So no series is reported finished before each of its claps
was handed out, no event counts 0 or more than 126 claps, and the signed code of every event is
defined and tells the events apart.

The grammar is recognised by a small automaton whose state is the number of claps of the running
series handed out (`Event.follow`); along any run that state is the poller's `handedOut`.
-/

namespace Handclap

namespace Event

/-- The claps of a running series handed out one by one: `inProgress 1, …, inProgress k`. -/
def countUp (k : Nat) : List Event := (List.range k).map fun i => .inProgress (i + 1).toUInt8

/-- One whole series, from its first clap to its end: finished after `k` claps, or dropped at an
overflow after 126. -/
inductive SeriesBlock : List Event → Prop
  | finished {k : Nat} (hpos : 1 ≤ k) (hle : k ≤ 126) :
      SeriesBlock (countUp k ++ [.finished k.toUInt8])
  | overflow : SeriesBlock (countUp 126 ++ [.overflow])

/-- Whole series, then the claps handed out of the series still running. -/
inductive SeriesLog : List Event → Prop
  | running {j : Nat} (hle : j ≤ 126) : SeriesLog (countUp j)
  | block {b rest : List Event} (hb : SeriesBlock b) (hrest : SeriesLog rest) :
      SeriesLog (b ++ rest)

/-- The automaton of the grammar: the state is how many claps of the running series were handed
out, and an event that does not fit leaves it stuck. -/
def advance (j : Nat) : Event → Option Nat
  | .quiet => some j
  | .inProgress n => if n.toNat = j + 1 ∧ j + 1 ≤ 126 then some (j + 1) else none
  | .finished n => if n.toNat = j ∧ 1 ≤ j then some 0 else none
  | .overflow => if j = 126 then some 0 else none

def follow : Nat → List Event → Option Nat
  | j, [] => some j
  | j, e :: es => (advance j e).bind fun j' => follow j' es

@[simp] theorem countUp_zero : countUp 0 = [] := rfl

theorem countUp_succ (k : Nat) :
    countUp (k + 1) = countUp k ++ [.inProgress (k + 1).toUInt8] := by
  simp only [countUp, List.range_succ, List.map_append, List.map_cons, List.map_nil]

theorem follow_append (j : Nat) (xs ys : List Event) :
    follow j (xs ++ ys) = (follow j xs).bind fun j' => follow j' ys := by
  induction xs generalizing j with
  | nil => rfl
  | cons e xs ih =>
    simp only [List.cons_append, follow, ih, Option.bind_assoc]

theorem eq_toUInt8_of_toNat_eq {n : UInt8} {k : Nat} (h : n.toNat = k) : n = k.toUInt8 := by
  subst h
  simp

/-- What the automaton accepts from `j` claps handed out, put after those `j` claps, is in the
grammar. -/
theorem seriesLog_of_follow :
    ∀ (j : Nat) (es : List Event) {j' : Nat}, j ≤ 126 → follow j es = some j' →
      SeriesLog (countUp j ++ es.filter (· ≠ .quiet))
  | j, [], _, hj, _ => by
    rw [List.filter_nil, List.append_nil]
    exact .running hj
  | j, e :: es, j', hj, h => by
    simp only [follow, Option.bind_eq_some_iff] at h
    obtain ⟨j₁, hstep, hrest⟩ := h
    cases e with
    | quiet =>
      simp only [advance, Option.some.injEq] at hstep
      subst hstep
      simpa using seriesLog_of_follow j es hj hrest
    | inProgress n =>
      simp only [advance, Option.ite_none_right_eq_some, Option.some.injEq] at hstep
      obtain ⟨⟨hn, hroom⟩, rfl⟩ := hstep
      have hlog := seriesLog_of_follow (j + 1) es hroom hrest
      rw [countUp_succ, ← eq_toUInt8_of_toNat_eq hn, List.append_assoc] at hlog
      simpa using hlog
    | finished n =>
      simp only [advance, Option.ite_none_right_eq_some, Option.some.injEq] at hstep
      obtain ⟨⟨hn, hpos⟩, rfl⟩ := hstep
      have hlog := seriesLog_of_follow 0 es (Nat.zero_le 126) hrest
      have hblock := SeriesLog.block (SeriesBlock.finished hpos hj) hlog
      rw [← eq_toUInt8_of_toNat_eq hn, countUp_zero, List.nil_append, List.append_assoc] at hblock
      simpa using hblock
    | overflow =>
      simp only [advance, Option.ite_none_right_eq_some, Option.some.injEq] at hstep
      obtain ⟨rfl, rfl⟩ := hstep
      have hlog := seriesLog_of_follow 0 es (Nat.zero_le 126) hrest
      have hblock := SeriesLog.block SeriesBlock.overflow hlog
      rw [countUp_zero, List.nil_append, List.append_assoc] at hblock
      simpa using hblock

/-- The events that a poll can hand out: a count of claps is between 1 and 126. -/
def Issued : Event → Prop
  | .inProgress n => 1 ≤ n.toNat ∧ n.toNat ≤ 126
  | .finished n => 1 ≤ n.toNat ∧ n.toNat ≤ 126
  | _ => True

theorem countUp_issued {k : Nat} (hk : k ≤ 126) {e : Event} (he : e ∈ countUp k) : e.Issued := by
  simp only [countUp, List.mem_map, List.mem_range] at he
  obtain ⟨i, hi, rfl⟩ := he
  simp only [Issued, Nat.toUInt8_eq, UInt8.toNat_ofNat']
  omega

theorem SeriesLog.issued {es : List Event} (h : SeriesLog es) : ∀ e ∈ es, e.Issued := by
  induction h with
  | running hle => exact fun e he => countUp_issued hle he
  | block hb _ ih =>
    intro e he
    rcases List.mem_append.mp he with hb' | hrest
    · cases hb with
      | finished hpos hle =>
        rcases List.mem_append.mp hb' with hup | hend
        · exact countUp_issued hle hup
        · rw [List.mem_singleton.mp hend]
          simp only [Issued, Nat.toUInt8_eq, UInt8.toNat_ofNat']
          omega
      | overflow =>
        rcases List.mem_append.mp hb' with hup | hend
        · exact countUp_issued (Nat.le_refl 126) hup
        · rw [List.mem_singleton.mp hend]
          trivial
    · exact ih e hrest

/-- The integer an event's code stands for: `0` for nothing, `-n` for the `n`-th clap of a running
series, `n` for a series finished after `n` claps and `127` for an overflow. -/
def codeValue : Event → Int
  | .quiet => 0
  | .inProgress n => -n.toNat
  | .finished n => n.toNat
  | .overflow => 127

def ofCodeValue (v : Int) : Event :=
  if v = 0 then .quiet
  else if v = 127 then .overflow
  else if v < 0 then .inProgress (-v).toNat.toUInt8
  else .finished v.toNat.toUInt8

theorem ofCodeValue_codeValue {e : Event} (h : e.Issued) : ofCodeValue e.codeValue = e := by
  cases e with
  | quiet => rfl
  | inProgress n =>
    simp only [Issued] at h
    have hsign : ¬(-(n.toNat : Int) = 0) ∧ ¬(-(n.toNat : Int) = 127) ∧ -(n.toNat : Int) < 0 := by
      omega
    simp only [ofCodeValue, codeValue, hsign, if_false, if_true, Int.neg_neg, Int.toNat_natCast,
      Nat.toUInt8_eq, UInt8.ofNat_toNat]
  | finished n =>
    simp only [Issued] at h
    have hsign : ¬((n.toNat : Int) = 0) ∧ ¬((n.toNat : Int) = 127) ∧ ¬((n.toNat : Int) < 0) := by
      omega
    simp only [ofCodeValue, codeValue, hsign, if_false, Int.toNat_natCast, Nat.toUInt8_eq,
      UInt8.ofNat_toNat]
  | overflow => rfl

theorem codeValue_injective {e₁ e₂ : Event} (h₁ : e₁.Issued) (h₂ : e₂.Issued)
    (heq : e₁.codeValue = e₂.codeValue) : e₁ = e₂ :=
  calc e₁ = ofCodeValue e₁.codeValue := (ofCodeValue_codeValue h₁).symm
    _ = ofCodeValue e₂.codeValue := by rw [heq]
    _ = e₂ := ofCodeValue_codeValue h₂

theorem toInt_toInt8_of_lt {n : UInt8} (h : n.toNat < 128) : n.toInt8.toInt = n.toNat := by
  have hn : n = UInt8.ofNat n.toNat := UInt8.ofNat_toNat.symm
  rw [hn, UInt8.toInt8_ofNat', Int8.toInt_ofNat_of_lt h, UInt8.toNat_ofNat',
    Nat.mod_eq_of_lt (by omega)]

/-- The code of an event a poll can hand out is defined and is the integer it stands for: the
negation of a count up to 126 does not overflow. -/
theorem Issued.code_eq {e : Event} (h : e.Issued) : ∃ c, e.code = .ok c ∧ c.toInt = e.codeValue := by
  cases e with
  | quiet => exact ⟨0, rfl, rfl⟩
  | inProgress n =>
    simp only [Issued] at h
    have hne : n ≠ 128 := fun h128 => by rw [h128] at h; simp at h
    refine ⟨-n.toInt8, by simp only [code, hne, if_false], ?_⟩
    rw [Int8.toInt_neg, toInt_toInt8_of_lt (by omega)]
    apply Int.bmod_eq_of_le <;> omega
  | finished n =>
    simp only [Issued] at h
    exact ⟨n.toInt8, rfl, toInt_toInt8_of_lt (by omega)⟩
  | overflow => exact ⟨overflowCount.toInt8, rfl, by decide⟩

theorem Issued.code_injective {e₁ e₂ : Event} (h₁ : e₁.Issued) (h₂ : e₂.Issued)
    (heq : e₁.code = e₂.code) : e₁ = e₂ := by
  obtain ⟨c₁, hc₁, hv₁⟩ := h₁.code_eq
  obtain ⟨c₂, hc₂, hv₂⟩ := h₂.code_eq
  rw [hc₁, hc₂, Except.ok.injEq] at heq
  apply codeValue_injective h₁ h₂
  rw [← hv₁, ← hv₂, heq]

end Event

namespace Session

variable {s s' : Session} {now : UInt32} {e : Option Event}

theorem follow_piece (hs : s.Coherent) (h : PieceStep s now s' e) :
    Event.follow s.handedOut e.toList = some s'.handedOut := by
  have hbound := hs.processed_le
  have hpend := hs.pending
  cases h with
  | handOut hnext hahead hroom =>
    have hsucc := toNat_processed_add_one hahead
    have hroom' : (s.poller.processed + 1).toNat < 127 :=
      Nat.lt_of_not_le fun h => hroom (UInt8.le_iff_toNat_le.mpr h)
    have hfit : s.poller.processed.toNat + 1 ≤ 126 := by omega
    simp [handedOut, hnext, Event.follow, Event.advance, hsucc, hfit]
  | giveUp hnext hahead hfull =>
    have hsucc := toNat_processed_add_one hahead
    have hfull' : 127 ≤ (s.poller.processed + 1).toNat := UInt8.le_iff_toNat_le.mp hfull
    have h126 : s.poller.processed.toNat = 126 := by omega
    simp [handedOut, hnext, Event.follow, h126]
  | settle hnext => simp [handedOut, hnext, Event.follow]
  | idle hnext => simp [Event.follow, Event.advance]
  | clear hnext =>
    simp only [Poller.Pending, hnext] at hpend
    simp [handedOut, hnext, hpend.1, Event.follow, Event.advance]
  | readLast hnext => simp [handedOut, hnext, Event.follow]
  | expire last hnext => simp [handedOut, hnext, Event.follow]
  | wait last hnext => simp [handedOut, hnext, Event.follow, Event.advance]
  | retire claps hnext =>
    simp only [Poller.Pending, hnext] at hpend
    obtain ⟨rfl, hpos⟩ := hpend
    have hfirst : 1 ≤ s.poller.processed.toNat := hpos
    simp [handedOut, hnext, Event.follow, Event.advance, hfirst]

theorem follow_act (hs : s.Coherent) (a : Action) :
    Event.follow s.handedOut (s.act a).2.toList = some (s.act a).1.handedOut := by
  cases a with
  | record t => rfl
  | piece now => exact follow_piece hs (pieceStep_piece s now)

theorem follow_run (hs : s.Coherent) (acts : List Action) :
    Event.follow s.handedOut (s.run acts).2 = some (s.run acts).1.handedOut := by
  induction acts generalizing s with
  | nil => rfl
  | cons a acts ih =>
    rw [run_cons, Event.follow_append, follow_act hs a, Option.bind_some]
    exact ih (hs.act a)

/-- The events of every interleaving of records and poll pieces, from a fresh ledger and poller,
come in whole series. Leaving out the polls that report nothing, they are series that each hand
out `inProgress 1, …, inProgress k` and then finish with `finished k`, for `1 ≤ k ≤ 126`, or are
dropped with `overflow` at `k = 126`, followed by the claps handed out of the series still
running. So every event counts from 1 to 126 claps, its code is defined and is the integer it
stands for, and distinct events have distinct codes. -/
theorem events_form_series (timeoutMs : UInt32) (acts : List Action) :
    let events := ((Session.new timeoutMs).run acts).2
    Event.SeriesLog (events.filter (· ≠ .quiet)) ∧
      (∀ e ∈ events, e.Issued ∧ ∃ c, e.code = .ok c ∧ c.toInt = e.codeValue) ∧
      (∀ e₁ ∈ events, ∀ e₂ ∈ events, e₁.code = e₂.code → e₁ = e₂) := by
  intro events
  have hfollow := follow_run (coherent_new timeoutMs) acts
  have hstart : (Session.new timeoutMs).handedOut = 0 := rfl
  rw [hstart] at hfollow
  have hlog : Event.SeriesLog (events.filter (· ≠ .quiet)) := by
    have hlog₀ := Event.seriesLog_of_follow 0 events (Nat.zero_le 126) hfollow
    rwa [Event.countUp_zero, List.nil_append] at hlog₀
  have hissued : ∀ e ∈ events, e.Issued := by
    intro e he
    by_cases hquiet : e = .quiet
    · rw [hquiet]
      trivial
    · exact hlog.issued e (List.mem_filter.mpr ⟨he, decide_eq_true hquiet⟩)
  refine ⟨hlog, fun e he => ⟨hissued e he, (hissued e he).code_eq⟩, ?_⟩
  intro e₁ he₁ e₂ he₂ heq
  exact (hissued e₁ he₁).code_injective (hissued e₂ he₂) heq

/-- Two claps handed out and then finished: the events form one series, and its end counts two
claps with code 2. -/
theorem events_form_series_two_claps :
    let events := ((Session.new 1000).run
      [.record 0, .record 10, .piece 0, .piece 0, .piece 0, .piece 0, .piece 2000, .piece 0]).2
    Event.SeriesLog (events.filter (· ≠ .quiet)) ∧ Event.finished 2 ∈ events ∧
      ((Event.finished 2).Issued ∧
        ∃ c, (Event.finished 2).code = .ok c ∧ c.toInt = (Event.finished 2).codeValue) ∧
      ((Event.finished 2).code = (Event.finished 2).code → Event.finished 2 = Event.finished 2) :=
  have hmem : Event.finished 2 ∈ ((Session.new 1000).run
      [.record 0, .record 10, .piece 0, .piece 0, .piece 0, .piece 0, .piece 2000, .piece 0]).2 := by
    decide
  ⟨(events_form_series 1000 _).1, hmem, (events_form_series 1000 _).2.1 _ hmem,
    (events_form_series 1000 _).2.2 _ hmem _ hmem⟩

end Session

end Handclap
