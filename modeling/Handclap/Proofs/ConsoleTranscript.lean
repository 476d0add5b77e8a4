import Handclap.Console

/-!
# The console's transcript reads back as the events

Reporting events sends one line per event to the serial sink. This module reads what the sink
takes as a transcript and proves that the encoding loses nothing (`reports_round_trip`).

Each report that completes has the sink take its whole line, each byte offered once and in
order (`Transmitter.Takes`); one that fails has the sink take the bytes of the line before one
byte, which is then offered once and refused, and nothing after it is offered. When every report
completes, the transcript is the lines one after another, and cutting it at each CR LF and
reading each line back (`decodeTranscript`) gives exactly the events other than `quiet`.

The counts are written as decimal numerals (`decimalBytes`), and the text reaches the sink as
UTF-8; every byte of a line is ASCII, so the line bytes can be computed one character each.
-/

namespace Handclap

section Bytes

theorem byteArray_toList_loop (bs : ByteArray) (i : Nat) (r : List UInt8) :
    ByteArray.toList.loop bs i r = r.reverse ++ bs.data.toList.drop i := by
  fun_induction ByteArray.toList.loop bs i r with
  | case1 i r hi ih =>
    rw [ih]
    have hlt : i < bs.data.toList.length := by simpa using hi
    rw [List.drop_eq_getElem_cons hlt]
    simp [ByteArray.get!, hi]
  | case2 i r hi =>
    have hend : bs.data.toList.length ≤ i := by
      rw [Array.length_toList]
      exact Nat.le_of_not_lt hi
    rw [List.drop_eq_nil_of_le hend, List.append_nil]

theorem byteArray_toList (bs : ByteArray) : bs.toList = bs.data.toList := by
  simp [ByteArray.toList, byteArray_toList_loop]

theorem toUTF8_append (s t : String) :
    (s ++ t).toUTF8.toList = s.toUTF8.toList ++ t.toUTF8.toList := by
  simp only [byteArray_toList, String.toUTF8_eq_toByteArray, String.toByteArray_append,
    ByteArray.toList_data_append]

/-- The bytes of the decimal numeral of `k`, most significant digit first. -/
def decimalBytes (k : Nat) : List UInt8 := (Nat.toDigits 10 k).map fun c => c.val.toUInt8

theorem flatMap_utf8EncodeChar_of_ascii {cs : List Char} (h : ∀ c ∈ cs, c.val ≤ 127) :
    cs.flatMap String.utf8EncodeChar = cs.map fun c => c.val.toUInt8 := by
  induction cs with
  | nil => rfl
  | cons c cs ih =>
    rw [List.flatMap_cons, List.map_cons,
      String.utf8EncodeChar_eq_singleton (Char.utf8Size_eq_one_iff.mpr (h c List.mem_cons_self)),
      ih fun c' hc' => h c' (List.mem_cons_of_mem c hc')]
    rfl

/-- A numeral is written one byte per digit. -/
theorem toUTF8_toString (k : Nat) : (toString k).toUTF8.toList = decimalBytes k := by
  rw [byteArray_toList, String.toUTF8_eq_toByteArray, Nat.toString_eq_ofList_toDigits,
    String.toByteArray_ofList, List.utf8Encode, List.toList_data_toByteArray]
  apply flatMap_utf8EncodeChar_of_ascii
  intro c hc
  have hdigit := Nat.isDigit_of_mem_toDigits (by decide) (by decide) hc
  simp only [Char.isDigit, Bool.and_eq_true, decide_eq_true_eq] at hdigit
  exact UInt32.le_iff_toNat_le.mpr
    (Nat.le_trans (UInt32.le_iff_toNat_le.mp hdigit.2) (by decide))

theorem digitChar_byte {d : Nat} (hd : d < 10) :
    (Nat.digitChar d).val.toUInt8 = (48 + d).toUInt8 := by
  apply UInt8.toNat_inj.mp
  have h := Nat.toNat_digitChar_of_lt_ten hd
  simp only [UInt32.toNat_toUInt8, Nat.toUInt8_eq, UInt8.toNat_ofNat']
  change (Nat.digitChar d).toNat % 2 ^ 8 = _
  rw [h]

theorem decimalBytes_eq_if (k : Nat) :
    decimalBytes k =
      if k < 10 then [(48 + k).toUInt8] else decimalBytes (k / 10) ++ [(48 + k % 10).toUInt8] := by
  unfold decimalBytes
  rw [Nat.toDigits_eq_if (by decide)]
  split
  · next hk => simp only [List.map_cons, List.map_nil, digitChar_byte hk]
  · simp only [List.map_append, List.map_cons, List.map_nil,
      digitChar_byte (Nat.mod_lt k (by decide))]

def isDigitByte (b : UInt8) : Bool := 48 ≤ b && b ≤ 57

/-- The value of a decimal numeral written in ASCII, most significant digit first; `none` unless
the bytes are a nonempty run of digits. -/
def decimalValue (ds : List UInt8) : Option Nat :=
  if ds ≠ [] ∧ ds.all isDigitByte then some (ds.foldl (fun n d => 10 * n + (d.toNat - 48)) 0)
  else none

theorem digitByte_toNat {d : Nat} (hd : d < 10) : (48 + d).toUInt8.toNat = 48 + d := by
  rw [Nat.toUInt8_eq, UInt8.toNat_ofNat']
  omega

theorem isDigitByte_digit {d : Nat} (hd : d < 10) : isDigitByte (48 + d).toUInt8 = true := by
  simp only [isDigitByte, Bool.and_eq_true, decide_eq_true_eq, UInt8.le_iff_toNat_le,
    digitByte_toNat hd]
  simp only [UInt8.reduceToNat]
  omega

theorem decimalBytes_all_digits (k : Nat) : (decimalBytes k).all isDigitByte = true := by
  induction k using Nat.strongRecOn with
  | ind k ih =>
    rw [decimalBytes_eq_if]
    split
    · next hk => rw [List.all_cons, List.all_nil, isDigitByte_digit hk]; rfl
    · next hk =>
      rw [List.all_append, ih (k / 10) (by omega), List.all_cons, List.all_nil,
        isDigitByte_digit (Nat.mod_lt k (by decide : 10 > 0))]
      rfl

theorem foldl_decimalBytes (k : Nat) :
    (decimalBytes k).foldl (fun n d => 10 * n + (d.toNat - 48)) 0 = k := by
  -- strong induction along the numeral, one digit dropped from the end each time
  induction k using Nat.strongRecOn with
  | ind k ih =>
    rw [decimalBytes_eq_if]
    split
    · next hk =>
      rw [List.foldl_cons, List.foldl_nil, digitByte_toNat hk]
      omega
    · next hk =>
      have hlast := digitByte_toNat (Nat.mod_lt k (by decide : 10 > 0))
      rw [List.foldl_append, ih (k / 10) (by omega), List.foldl_cons, List.foldl_nil, hlast]
      omega

theorem decimalValue_decimalBytes (k : Nat) : decimalValue (decimalBytes k) = some k := by
  have hne : decimalBytes k ≠ [] := by simp [decimalBytes]
  simp only [decimalValue, hne, ne_eq, not_false_eq_true, decimalBytes_all_digits, and_self,
    if_true, foldl_decimalBytes]

theorem lf_not_mem_decimalBytes (k : Nat) : (10 : UInt8) ∉ decimalBytes k := fun hmem =>
  absurd (List.all_eq_true.mp (decimalBytes_all_digits k) 10 hmem) (by decide)

end Bytes

section Decode

/-- The event a line reports, read back from its bytes without the line end. Both tags that
carry a count, `clap@` and `clap=`, are five bytes long. -/
def Event.ofLine (line : List UInt8) : Option Event :=
  let count := (decimalValue (line.drop 5)).bind fun n => if n < 256 then some n.toUInt8 else none
  if line.take 5 = "clap@".toUTF8.data.toList then count.map .inProgress
  else if line.take 5 = "clap=".toUTF8.data.toList then count.map .finished
  else if line = "clap overflow".toUTF8.data.toList then some .overflow
  else none

/-- Read a transcript back into events, one per line ended by CR LF; `line` holds the bytes of
the line read so far, latest first. A line feed that follows a carriage return ends the line. -/
def decodeFrom (line : List UInt8) : List UInt8 → Option (List Event)
  | [] => if line = [] then some [] else none
  | b :: rest =>
    if b = 10 ∧ line.head? = some 13 then
      (Event.ofLine line.tail.reverse).bind fun e => (decodeFrom [] rest).map (e :: ·)
    else decodeFrom (b :: line) rest

/-- Cut a transcript at each CR LF and read every line back as an event. -/
def decodeTranscript (bs : List UInt8) : Option (List Event) := decodeFrom [] bs

example : decodeTranscript "clap@12\r\nclap overflow\r\nclap=3\r\n".toUTF8.data.toList =
    some [.inProgress 12, .overflow, .finished 3] := by decide

theorem decodeFrom_cons_of_ne {line rest : List UInt8} {b : UInt8} (hb : b ≠ 10) :
    decodeFrom line (b :: rest) = decodeFrom (b :: line) rest := by
  simp only [decodeFrom, hb, false_and, if_false]

theorem decodeFrom_append_of_no_lf {line body rest : List UInt8} (hbody : (10 : UInt8) ∉ body) :
    decodeFrom line (body ++ rest) = decodeFrom (body.reverse ++ line) rest := by
  induction body generalizing line with
  | nil => rfl
  | cons b body ih =>
    have hb : b ≠ 10 := fun h => hbody (h ▸ List.mem_cons_self)
    rw [List.cons_append, decodeFrom_cons_of_ne hb,
      ih fun hmem => hbody (List.mem_cons_of_mem b hmem)]
    simp

/-- A whole line, its body free of line feeds and ended by CR LF, is read as one event. -/
theorem decodeFrom_line {body rest : List UInt8} (hbody : (10 : UInt8) ∉ body) :
    decodeFrom [] (body ++ [13, 10] ++ rest) =
      (Event.ofLine body).bind fun e => (decodeFrom [] rest).map (e :: ·) := by
  rw [List.append_assoc, decodeFrom_append_of_no_lf hbody, List.append_nil, List.cons_append,
    decodeFrom_cons_of_ne (by decide), List.cons_append, List.nil_append]
  simp only [decodeFrom, List.head?_cons, List.tail_cons, List.reverse_reverse, and_self,
    if_true]

theorem tagged_line_bytes (tag : String) (n : UInt8) :
    (tag ++ toString n.toNat ++ "\r\n").toUTF8.toList =
      tag.toUTF8.data.toList ++ decimalBytes n.toNat ++ [13, 10] := by
  have hcrlf : "\r\n".toUTF8.toList = [13, 10] := by rw [byteArray_toList]; decide
  rw [toUTF8_append, toUTF8_append, toUTF8_toString, hcrlf, byteArray_toList]

theorem count_after_tag {tag : List UInt8} (htag : tag.length = 5) (n : UInt8) :
    ((decimalValue ((tag ++ decimalBytes n.toNat).drop 5)).bind
      fun k => if k < 256 then some k.toUInt8 else none) = some n := by
  rw [List.drop_left' htag, decimalValue_decimalBytes, Option.bind_some,
    if_pos n.toNat_lt, Nat.toUInt8_eq, UInt8.ofNat_toNat]

theorem lf_not_mem_tagged {tag : List UInt8} (htag : (10 : UInt8) ∉ tag) (n : UInt8) :
    (10 : UInt8) ∉ tag ++ decimalBytes n.toNat := fun hmem =>
  (List.mem_append.mp hmem).elim htag (lf_not_mem_decimalBytes n.toNat)

/-- The line of an event other than `quiet` is a body free of line feeds that reads back as the
event, then CR LF. -/
theorem line_bytes {e : Event} (he : e ≠ .quiet) :
    ∃ body, e.line.toUTF8.toList = body ++ [13, 10] ∧ (10 : UInt8) ∉ body ∧
      Event.ofLine body = some e := by
  cases e with
  | quiet => exact absurd rfl he
  | inProgress n =>
    refine ⟨_, tagged_line_bytes "clap@" n, lf_not_mem_tagged (by decide) n, ?_⟩
    have htag : ("clap@".toUTF8.data.toList ++ decimalBytes n.toNat).take 5 =
        "clap@".toUTF8.data.toList := List.take_left' (by decide)
    simp only [Event.ofLine, htag, if_true]
    rw [count_after_tag (by decide) n]
    rfl
  | finished n =>
    refine ⟨_, tagged_line_bytes "clap=" n, lf_not_mem_tagged (by decide) n, ?_⟩
    have htag : ("clap=".toUTF8.data.toList ++ decimalBytes n.toNat).take 5 =
        "clap=".toUTF8.data.toList := List.take_left' (by decide)
    have hother : "clap=".toUTF8.data.toList ≠ "clap@".toUTF8.data.toList := by decide
    simp only [Event.ofLine, htag, hother, if_false, if_true]
    rw [count_after_tag (by decide) n]
    rfl
  | overflow =>
    refine ⟨"clap overflow".toUTF8.data.toList, ?_, by decide, by decide⟩
    rw [Event.line, byteArray_toList]
    decide

def transcript (es : List Event) : List UInt8 := (es.map fun e => e.line.toUTF8.toList).flatten

/-- Cutting the lines of a sequence of events at each CR LF reads back the events other than
`quiet`, which writes no line. -/
theorem decodeTranscript_transcript (es : List Event) :
    decodeTranscript (transcript es) = some (es.filter (· ≠ .quiet)) := by
  induction es with
  | nil => rfl
  | cons e es ih =>
    unfold decodeTranscript transcript at *
    rw [List.map_cons, List.flatten_cons]
    by_cases hq : e = .quiet
    · -- a quiet event writes no line
      have hnone : Event.quiet.line.toUTF8.toList = [] := by rw [byteArray_toList]; rfl
      subst hq
      rw [hnone, List.nil_append, ih]
      simp
    · obtain ⟨body, hbytes, hbody, hline⟩ := line_bytes hq
      rw [hbytes, decodeFrom_line hbody, hline, Option.bind_some, ih]
      simp [hq]

end Decode

namespace Transmitter

variable {σ : Type} (tx : Transmitter σ)

/-- The sink, offered the bytes `bs` one at a time from state `s`, one offer each, takes every
one of them and ends in `s'`. -/
inductive Takes : σ → List UInt8 → σ → Prop
  | nil (s : σ) : Takes s [] s
  | cons {s s₁ s' : σ} {b : UInt8} {bs : List UInt8} (htake : tx.send s b = (true, s₁))
      (hrest : Takes s₁ bs s') : Takes s (b :: bs) s'

variable {tx}

theorem Takes.append {s s₁ s₂ : σ} {xs ys : List UInt8} (hx : tx.Takes s xs s₁)
    (hy : tx.Takes s₁ ys s₂) : tx.Takes s (xs ++ ys) s₂ := by
  induction hx with
  | nil => exact hy
  | cons htake _ ih => exact .cons htake (ih hy)

/-- A write that completes had the sink take every byte, in order, each offered once. -/
theorem takes_of_write_ok {s : σ} {bs : List UInt8} (h : (tx.write s bs).ok = true) :
    tx.Takes s bs (tx.write s bs).line := by
  induction bs generalizing s with
  | nil => exact .nil s
  | cons b bs ih =>
    simp only [write] at h ⊢
    split
    · next htake =>
      rw [if_pos htake] at h
      exact .cons (Prod.ext htake rfl) (ih h)
    · next hrefuse =>
      rw [if_neg hrefuse] at h
      cases h

/-- A write that fails had the sink take the bytes before one byte, each offered once, and then
refuse that byte, offered once, with nothing offered after it. -/
theorem refused_of_write_failed {s : σ} {bs : List UInt8} (h : (tx.write s bs).ok = false) :
    ∃ b rest s₁, bs = (tx.write s bs).bytes ++ b :: rest ∧ tx.Takes s (tx.write s bs).bytes s₁ ∧
      tx.send s₁ b = (false, (tx.write s bs).line) := by
  induction bs generalizing s with
  | nil => cases h
  | cons b bs ih =>
    simp only [write] at h ⊢
    split
    · next htake =>
      rw [if_pos htake] at h
      obtain ⟨b', rest, s₁, hsplit, htakes, hrefuse⟩ := ih h
      exact ⟨b', rest, s₁, congrArg (List.cons b) hsplit, .cons (Prod.ext htake rfl) htakes,
        hrefuse⟩
    · next hrefuse =>
      exact ⟨b, bs, s, rfl, .nil s, Prod.ext (Bool.eq_false_iff.mpr hrefuse) rfl⟩

theorem write_ok_of_takes_all (hall : ∀ s b, (tx.send s b).1 = true) (s : σ) (bs : List UInt8) :
    (tx.write s bs).ok = true := by
  induction bs generalizing s with
  | nil => rfl
  | cons b bs ih =>
    simp only [write, hall s b, if_true]
    exact ih _

end Transmitter

theorem ConsoleCall.perform_report {σ : Type} (tx : Transmitter σ) (s : σ) (e : Event) :
    (ConsoleCall.report e).perform tx s = tx.write s e.line.toUTF8.toList := rfl

theorem ConsoleCall.performAll_cons {σ : Type} (tx : Transmitter σ) (s : σ) (c : ConsoleCall)
    (cs : List ConsoleCall) :
    ConsoleCall.performAll tx s (c :: cs) =
      ((ConsoleCall.performAll tx (c.perform tx s).line cs).1,
        c.perform tx s :: (ConsoleCall.performAll tx (c.perform tx s).line cs).2) := rfl

/-- Reports that all complete have the sink take exactly their lines, one after another. -/
theorem takes_transcript {σ : Type} (tx : Transmitter σ) (s : σ) (es : List Event)
    (hok : ∀ x ∈ (ConsoleCall.performAll tx s (es.map .report)).2, x.ok = true) :
    ((ConsoleCall.performAll tx s (es.map .report)).2.map Sent.bytes).flatten = transcript es ∧
      tx.Takes s (transcript es) (ConsoleCall.performAll tx s (es.map .report)).1 := by
  induction es generalizing s with
  | nil => exact ⟨rfl, .nil s⟩
  | cons e es ih =>
    rw [List.map_cons, ConsoleCall.performAll_cons, ConsoleCall.perform_report] at hok ⊢
    have hfirst := List.forall_mem_cons.mp hok
    have hline := (tx.write_ok_iff s _).mp hfirst.1
    obtain ⟨hbytes, htakes⟩ := ih _ hfirst.2
    refine ⟨?_, ?_⟩
    · rw [List.map_cons, List.flatten_cons, hbytes, hline]
      rfl
    · exact (Transmitter.takes_of_write_ok hfirst.1).append htakes

theorem reports_ok_of_takes_all {σ : Type} (tx : Transmitter σ)
    (hall : ∀ s b, (tx.send s b).1 = true) (s : σ) (es : List Event) :
    ∀ x ∈ (ConsoleCall.performAll tx s (es.map .report)).2, x.ok = true := by
  induction es generalizing s with
  | nil => intro x hx; cases hx
  | cons e es ih =>
    rw [List.map_cons, ConsoleCall.performAll_cons, ConsoleCall.perform_report]
    exact List.forall_mem_cons.mpr ⟨Transmitter.write_ok_of_takes_all hall s _, ih _⟩

/-- Reporting events on the console, over any sink whose every offer settles, taken or refused.
A report that completes had the sink take its whole line, each byte offered once and in order;
one that fails had the sink take the bytes of its line before one byte, which was then offered
once and refused, with nothing offered after it. A sink that takes every byte lets every report
complete. When every report of a sequence completes, the sink has taken exactly the lines of the
events one after another, and cutting that transcript at each CR LF reads back exactly the events
other than `quiet`; so two sequences whose transcripts agree report the same events. -/
theorem reports_round_trip {σ : Type} (tx : Transmitter σ) (s : σ) (es : List Event) :
    let r := ConsoleCall.performAll tx s (es.map .report)
    (∀ (e : Event) (s₀ : σ),
      let x := (ConsoleCall.report e).perform tx s₀
      (x.ok = true → x.bytes = e.line.toUTF8.toList ∧ tx.Takes s₀ x.bytes x.line) ∧
      (x.ok = false → ∃ b rest s₁, e.line.toUTF8.toList = x.bytes ++ b :: rest ∧
        tx.Takes s₀ x.bytes s₁ ∧ tx.send s₁ b = (false, x.line))) ∧
    ((∀ s' b, (tx.send s' b).1 = true) → ∀ x ∈ r.2, x.ok = true) ∧
    ((∀ x ∈ r.2, x.ok = true) →
      (r.2.map Sent.bytes).flatten = transcript es ∧ tx.Takes s (transcript es) r.1) ∧
    decodeTranscript (transcript es) = some (es.filter (· ≠ .quiet)) ∧
    (∀ es' : List Event, transcript es' = transcript es →
      es'.filter (· ≠ .quiet) = es.filter (· ≠ .quiet)) := by
  intro r
  refine ⟨?_, fun hall => reports_ok_of_takes_all tx hall s es, takes_transcript tx s es,
    decodeTranscript_transcript es, ?_⟩
  · intro e s₀
    rw [ConsoleCall.perform_report]
    refine ⟨fun hok => ?_, Transmitter.refused_of_write_failed⟩
    have hline := (tx.write_ok_iff s₀ _).mp hok
    refine ⟨hline, ?_⟩
    rw [hline]
    exact Transmitter.takes_of_write_ok hok
  · -- the transcript determines what it reads back as
    intro es' hsame
    have hdecode := decodeTranscript_transcript es'
    rw [hsame, decodeTranscript_transcript es] at hdecode
    exact (Option.some.inj hdecode).symm

/-- A sink that counts the bytes it takes and refuses none: reporting the first clap, nothing,
and the end of a series of one, every report completes, the sink takes `clap@1` and `clap=1`,
each with its CR LF, and the transcript reads back as the two events. -/
theorem reports_round_trip_counting_sink :
    let tx : Transmitter Nat := ⟨fun n _ => (true, n + 1), fun n => (true, n)⟩
    let es := [Event.inProgress 1, .quiet, .finished 1]
    let r := ConsoleCall.performAll tx 0 (es.map .report)
    (∀ n b, (tx.send n b).1 = true) ∧ (∀ x ∈ r.2, x.ok = true) ∧
      (r.2.map Sent.bytes).flatten = transcript es ∧ tx.Takes 0 (transcript es) r.1 ∧
      decodeTranscript (transcript es) = some [.inProgress 1, .finished 1] :=
  have hall : ∀ (n : Nat) (b : UInt8),
      ((⟨fun n _ => (true, n + 1), fun n => (true, n)⟩ : Transmitter Nat).send n b).1 = true :=
    fun _ _ => rfl
  have hthm := reports_round_trip ⟨fun n _ => (true, n + 1), fun n => (true, n)⟩ 0
    [.inProgress 1, .quiet, .finished 1]
  have hok := hthm.2.1 hall
  ⟨hall, hok, (hthm.2.2.1 hok).1, (hthm.2.2.1 hok).2, hthm.2.2.2.1⟩

end Handclap
