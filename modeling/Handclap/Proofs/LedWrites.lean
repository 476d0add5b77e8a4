import Mathlib.Computability.RegularExpressions
import Handclap.Led
import Handclap.Word

/-!
# What the status LED shows

The LED is driven by two calls, each against a pin that may take or refuse the write the call
makes: `flash` lights it, and `update` darkens it once its blink window has passed. This module
runs any sequence of such calls from a dark LED (`StatusLed.runCalls`) and reads off what the pin
was told.

A failed call changes nothing. The LED is lit exactly when the last write the pin took lit it,
and while it is lit it holds the time of the latest flash that lit it (`StatusLed.Shows`). So
`update` writes the pin only when the LED is lit and more than the blink window has passed since
that flash, in wrapping 32-bit time, and the writes the pin takes always have the shape
`(high+ low)* high*` (`blinkShape`). The main statement is `led_follows_writes`.
-/

namespace Handclap

open RegularExpression Computability

/-- The shape of the pin writes of an LED that starts dark, `(high+ low)* high*`: runs of
lightings, each ended by one darkening, then a last run of lightings. -/
def blinkShape : RegularExpression Level :=
  (char Level.high * (char Level.high).star * char Level.low).star * (char Level.high).star

section Shape

theorem mem_char {a : Level} {w : List Level} : w ∈ (char a).matches' ↔ w = [a] := by
  rw [matches'_char]
  rfl

theorem star_append_mem {R : RegularExpression Level} {u v : List Level}
    (hu : u ∈ R.star.matches') (hv : v ∈ R.matches') : u ++ v ∈ R.star.matches' := by
  rw [matches'_star] at hu ⊢
  exact (kstar_mul_le_kstar : R.matches'∗ * R.matches' ≤ R.matches'∗)
    (Language.append_mem_mul hu hv)

theorem mem_highs {w : List Level} :
    w ∈ (char Level.high).star.matches' ↔ ∀ x ∈ w, x = .high := by
  rw [matches'_star, Language.mem_kstar]
  constructor
  · rintro ⟨L, rfl, hL⟩ x hx
    obtain ⟨y, hy, hxy⟩ := List.mem_flatten.mp hx
    rw [mem_char.mp (hL y hy)] at hxy
    exact List.mem_singleton.mp hxy
  · intro h
    refine ⟨w.map fun x => [x], by rw [← List.flatMap_def, List.flatMap_singleton'], ?_⟩
    intro y hy
    obtain ⟨x, hx, rfl⟩ := List.mem_map.mp hy
    rw [h x hx]
    exact mem_char.mpr rfl

/-- A run of lightings that is not empty, ended by a darkening, is one blink. -/
theorem blink_of_highs {h : List Level} (hh : h ∈ (char Level.high).star.matches')
    (hne : h ≠ []) :
    h ++ [.low] ∈ (char Level.high * (char Level.high).star * char Level.low).matches' := by
  obtain ⟨x, h', rfl⟩ := List.exists_cons_of_ne_nil hne
  have hx : x = .high := (mem_highs.mp hh) x List.mem_cons_self
  have hh' : h' ∈ (char Level.high).star.matches' :=
    mem_highs.mpr fun y hy => (mem_highs.mp hh) y (List.mem_cons_of_mem x hy)
  rw [matches'_mul, matches'_mul]
  subst hx
  exact Language.append_mem_mul (Language.append_mem_mul (mem_char.mpr rfl) hh')
    (mem_char.mpr rfl)

/-- Whole blinks leave the LED dark: their last write, if any, is a darkening. -/
theorem getLast_blinks {a : List Level}
    (ha : a ∈ (char Level.high * (char Level.high).star * char Level.low).star.matches') :
    a.getLast? ≠ some .high := by
  rw [matches'_star, Language.mem_kstar] at ha
  obtain ⟨L, rfl, hL⟩ := ha
  induction L with
  | nil => simp
  | cons y L ih =>
    have hy := hL y List.mem_cons_self
    rw [matches'_mul, Language.mem_mul] at hy
    obtain ⟨u, -, v, hv, rfl⟩ := hy
    rw [mem_char.mp hv, List.flatten_cons, List.getLast?_append]
    intro hlast
    -- the last write lies in the later blinks if there are any, else it is this blink's darkening
    cases hrest : L.flatten.getLast? with
    | none => simp [hrest] at hlast
    | some z =>
      rw [hrest] at hlast
      refine ih (fun y hy => hL y (List.mem_cons_of_mem _ hy)) ?_
      rw [hrest]
      simpa using hlast

theorem blinkShape_append_high {w : List Level} (hw : w ∈ blinkShape.matches') :
    w ++ [.high] ∈ blinkShape.matches' := by
  rw [blinkShape, matches'_mul, Language.mem_mul] at hw ⊢
  obtain ⟨a, ha, h, hh, rfl⟩ := hw
  exact ⟨a, ha, h ++ [.high], star_append_mem hh (mem_char.mpr rfl), by rw [List.append_assoc]⟩

theorem blinkShape_append_low {w : List Level} (hw : w ∈ blinkShape.matches')
    (hlast : w.getLast? = some .high) : w ++ [.low] ∈ blinkShape.matches' := by
  rw [blinkShape, matches'_mul, Language.mem_mul] at hw ⊢
  obtain ⟨a, ha, h, hh, rfl⟩ := hw
  have hne : h ≠ [] := by
    rintro rfl
    rw [List.append_nil] at hlast
    exact getLast_blinks ha hlast
  refine ⟨a ++ (h ++ [.low]), star_append_mem ha (blink_of_highs hh hne), [],
    mem_highs.mpr (by simp), ?_⟩
  simp

end Shape

/-- A call on the LED at a time, against a pin that takes or refuses the write it makes. -/
inductive LedCall where
  | flash (now : UInt32) (pin : Pin)
  | update (now : UInt32) (pin : Pin)

/-- When the call lit the LED: a flash whose pin took the write. -/
def LedCall.litTime : LedCall → Option UInt32
  | .flash now pin => if pin.accepts .high then some now else none
  | .update _ _ => none

namespace StatusLed

def call (led : StatusLed) : LedCall → LedStep
  | .flash now pin => led.flash pin now
  | .update now pin => led.update pin now

/-- Carry out calls in order: the LED afterwards, and each call's outcome. -/
def runCalls (led : StatusLed) : List LedCall → StatusLed × List LedStep
  | [] => (led, [])
  | c :: cs =>
    let r := led.call c
    let rest := r.led.runCalls cs
    (rest.1, r :: rest.2)

theorem runCalls_append_singleton (led : StatusLed) (cs : List LedCall) (c : LedCall) :
    led.runCalls (cs ++ [c]) =
      (((led.runCalls cs).1.call c).led, (led.runCalls cs).2 ++ [(led.runCalls cs).1.call c]) := by
  induction cs generalizing led with
  | nil => rfl
  | cons c' cs ih => simp only [List.cons_append, runCalls, ih]

/-- What one call can do, one case for each branch it can take. -/
inductive Moves (led : StatusLed) : LedCall → LedStep → Prop
  | light (now : UInt32) (pin : Pin) (hhigh : pin.accepts .high = true) :
      Moves led (.flash now pin) ⟨{ led with litAt := some now }, true, some .high⟩
  | refuseHigh (now : UInt32) (pin : Pin) (hhigh : pin.accepts .high = false) :
      Moves led (.flash now pin) ⟨led, false, none⟩
  | darken (now : UInt32) (pin : Pin) (t : UInt32) (hlit : led.litAt = some t)
      (hgap : led.blinkMs < now - t) (hlow : pin.accepts .low = true) :
      Moves led (.update now pin) ⟨{ led with litAt := none }, true, some .low⟩
  | refuseLow (now : UInt32) (pin : Pin) (t : UInt32) (hlit : led.litAt = some t)
      (hgap : led.blinkMs < now - t) (hlow : pin.accepts .low = false) :
      Moves led (.update now pin) ⟨led, false, none⟩
  | wait (now : UInt32) (pin : Pin) (hwait : ∀ t, led.litAt = some t → ¬led.blinkMs < now - t) :
      Moves led (.update now pin) ⟨led, true, none⟩

theorem moves_call (led : StatusLed) (c : LedCall) : Moves led c (led.call c) := by
  cases c with
  | flash now pin =>
    simp only [call, flash]
    cases hhigh : pin.accepts .high
    · exact .refuseHigh now pin hhigh
    · exact .light now pin hhigh
  | update now pin =>
    simp only [call, update]
    split
    · next t hlit =>
      split
      · next hgap =>
        cases hlow : pin.accepts .low
        · exact .refuseLow now pin t hlit hgap hlow
        · exact .darken now pin t hlit hgap hlow
      · next hgap => exact .wait now pin fun t' ht' => by rw [hlit] at ht'; cases ht'; exact hgap
    · next hdark => exact .wait now pin fun t' ht' => by rw [hdark] at ht'; cases ht'

variable {led : StatusLed} {c : LedCall} {r : LedStep}

theorem Moves.blinkMs (h : Moves led c r) : r.led.blinkMs = led.blinkMs := by
  cases h <;> rfl

theorem Moves.unchanged_of_failed (h : Moves led c r) (hfail : r.ok = false) :
    r.led = led ∧ r.wrote = none := by
  cases h with
  | refuseHigh | refuseLow => exact ⟨rfl, rfl⟩
  | light | darken | wait => cases hfail

theorem blinkMs_runCalls (led : StatusLed) (cs : List LedCall) :
    (led.runCalls cs).1.blinkMs = led.blinkMs := by
  induction cs generalizing led with
  | nil => rfl
  | cons c cs ih => rw [runCalls, ih, (moves_call led c).blinkMs]

/-- The update darkens the LED, writing the pin low, exactly when the LED is lit, more than the
blink window has passed since it was lit, and the pin takes the write. -/
theorem update_wrote_low_iff (led : StatusLed) (pin : Pin) (now : UInt32) :
    (led.update pin now).wrote = some .low ↔
      ∃ t, led.litAt = some t ∧ led.blinkMs < now - t ∧ pin.accepts .low = true := by
  have hmoves : Moves led (.update now pin) (led.update pin now) := moves_call led (.update now pin)
  generalize led.update pin now = r at hmoves ⊢
  cases hmoves with
  | darken now pin t hlit hgap hlow => exact ⟨fun _ => ⟨t, hlit, hgap, hlow⟩, fun _ => rfl⟩
  | refuseLow now pin t hlit hgap hlow =>
    simp only [reduceCtorEq, false_iff, not_exists, not_and]
    intro t' hlit' _
    rw [hlit] at hlit'
    cases hlit'
    simp [hlow]
  | wait now pin hwait =>
    simp only [reduceCtorEq, false_iff, not_exists, not_and]
    exact fun t hlit hgap => absurd hgap (hwait t hlit)

theorem update_failed_iff (led : StatusLed) (pin : Pin) (now : UInt32) :
    (led.update pin now).ok = false ↔
      ∃ t, led.litAt = some t ∧ led.blinkMs < now - t ∧ pin.accepts .low = false := by
  have hmoves : Moves led (.update now pin) (led.update pin now) := moves_call led (.update now pin)
  generalize led.update pin now = r at hmoves ⊢
  cases hmoves with
  | refuseLow now pin t hlit hgap hlow => exact ⟨fun _ => ⟨t, hlit, hgap, hlow⟩, fun _ => rfl⟩
  | darken now pin t hlit hgap hlow =>
    simp only [Bool.true_eq_false, false_iff, not_exists, not_and]
    intro t' hlit' _
    rw [hlit] at hlit'
    cases hlit'
    simp [hlow]
  | wait now pin hwait =>
    simp only [Bool.true_eq_false, false_iff, not_exists, not_and]
    exact fun t hlit hgap => absurd hgap (hwait t hlit)

theorem update_wrote_ne_high (led : StatusLed) (pin : Pin) (now : UInt32) :
    (led.update pin now).wrote ≠ some .high := by
  have hmoves : Moves led (.update now pin) (led.update pin now) := moves_call led (.update now pin)
  generalize led.update pin now = r at hmoves ⊢
  cases hmoves <;> simp

theorem update_dark_iff (led : StatusLed) (pin : Pin) (now : UInt32) (hlit : led.isLit = true) :
    (led.update pin now).led.isLit = false ↔ (led.update pin now).wrote = some .low := by
  have hmoves : Moves led (.update now pin) (led.update pin now) := moves_call led (.update now pin)
  generalize led.update pin now = r at hmoves ⊢
  cases hmoves with
  | darken => exact ⟨fun _ => rfl, fun _ => rfl⟩
  | _ => simp [hlit]

/-- What a run of calls from a dark LED keeps, given the calls and the writes the pin took: the
LED is lit exactly when the last write lit it, while lit it holds the time of the latest flash
that lit it, and the writes have the shape `(high+ low)* high*`. -/
structure Shows (led : StatusLed) (calls : List LedCall) (writes : List Level) : Prop where
  lit_iff : led.isLit = true ↔ writes.getLast? = some .high
  litAt_latest : ∀ t, led.litAt = some t → (calls.filterMap LedCall.litTime).getLast? = some t
  shape : writes ∈ blinkShape.matches'

theorem shows_new (blinkMs : UInt32) : Shows (new blinkMs) [] [] where
  lit_iff := by simp [new, isLit]
  litAt_latest := by simp [new]
  shape := by
    rw [blinkShape, matches'_mul, matches'_star, matches'_star]
    exact Language.append_mem_mul (Language.nil_mem_kstar _) (Language.nil_mem_kstar _)

theorem Shows.call {calls : List LedCall} {writes : List Level} (hs : Shows led calls writes)
    (c : LedCall) : Shows (led.call c).led (calls ++ [c]) (writes ++ (led.call c).wrote.toList) := by
  have hmoves := moves_call led c
  generalize led.call c = r at hmoves ⊢
  cases hmoves with
  | light now pin hhigh =>
    refine ⟨by simp [isLit], ?_, blinkShape_append_high hs.shape⟩
    intro t ht
    simp only [Option.some.injEq] at ht
    simp [List.filterMap_append, LedCall.litTime, hhigh, ht]
  | refuseHigh now pin hhigh =>
    refine ⟨by simpa using hs.lit_iff, ?_, by simpa using hs.shape⟩
    simpa [List.filterMap_append, LedCall.litTime, hhigh] using hs.litAt_latest
  | darken now pin t hlit hgap hlow =>
    have hlast : writes.getLast? = some .high := hs.lit_iff.mp (by simp [isLit, hlit])
    exact ⟨by simp [isLit], by simp, blinkShape_append_low hs.shape hlast⟩
  | refuseLow now pin t hlit hgap hlow =>
    refine ⟨by simpa using hs.lit_iff, ?_, by simpa using hs.shape⟩
    simpa [List.filterMap_append, LedCall.litTime] using hs.litAt_latest
  | wait now pin hwait =>
    refine ⟨by simpa using hs.lit_iff, ?_, by simpa using hs.shape⟩
    simpa [List.filterMap_append, LedCall.litTime] using hs.litAt_latest

theorem shows_runCalls (blinkMs : UInt32) (calls : List LedCall) :
    Shows ((new blinkMs).runCalls calls).1 calls
      (((new blinkMs).runCalls calls).2.filterMap LedStep.wrote) := by
  induction calls using List.reverseRecOn with
  | nil => exact shows_new blinkMs
  | append_singleton calls c ih =>
    have hone : ∀ r : LedStep, [r].filterMap LedStep.wrote = r.wrote.toList := fun r => by
      cases h : r.wrote <;> simp [h]
    rw [runCalls_append_singleton, List.filterMap_append, hone]
    exact ih.call c

/-- While the LED is lit it holds the time of the latest flash that lit it, and only then does
it hold a time. -/
theorem Shows.exists_litAt_iff {calls : List LedCall} {writes : List Level}
    (hs : Shows led calls writes) (P : UInt32 → Prop) :
    (∃ t, led.litAt = some t ∧ P t) ↔
      led.isLit = true ∧ ∃ t, (calls.filterMap LedCall.litTime).getLast? = some t ∧ P t := by
  constructor
  · rintro ⟨t, hlit, hp⟩
    exact ⟨by simp [isLit, hlit], t, hs.litAt_latest t hlit, hp⟩
  · rintro ⟨hlit, t, hlast, hp⟩
    obtain ⟨t', ht'⟩ := Option.isSome_iff_exists.mp hlit
    have hsame : t = t' := by
      rw [hs.litAt_latest t' ht'] at hlast
      exact (Option.some.inj hlast).symm
    exact ⟨t, hsame ▸ ht', hp⟩

/-- What the status LED shows, for any sequence of flashes and updates from a dark LED, each
against a pin that may take or refuse its write. A failed call changes nothing. The LED is lit
exactly when the last write the pin took lit it, so it is dark before any write. The next update
writes the pin only when the LED is lit and more than the blink window has passed, in wrapping
32-bit time, since the latest flash that lit it: it darkens the LED if the pin takes the write and
fails if the pin refuses it; otherwise it leaves the pin alone. The writes the pin takes have the
shape `(high+ low)* high*`. Across the wrap of the clock, an LED lit by a flash at true time `t`
goes dark under an update at `t + Δ`, for `Δ < 2 ^ 32`, exactly when `Δ` exceeds the blink
window. -/
theorem led_follows_writes (blinkMs : UInt32) (calls : List LedCall) :
    let led := ((StatusLed.new blinkMs).runCalls calls).1
    let writes := ((StatusLed.new blinkMs).runCalls calls).2.filterMap LedStep.wrote
    let lastLit := (calls.filterMap LedCall.litTime).getLast?
    (∀ (l : StatusLed) (c : LedCall), (l.call c).ok = false →
      (l.call c).led = l ∧ (l.call c).wrote = none) ∧
    (led.isLit = true ↔ writes.getLast? = some .high) ∧
    (∀ (pin : Pin) (now : UInt32),
      ((led.update pin now).wrote = some .low ↔
        led.isLit = true ∧ (∃ t, lastLit = some t ∧ blinkMs < now - t) ∧
          pin.accepts .low = true) ∧
      ((led.update pin now).ok = false ↔
        led.isLit = true ∧ (∃ t, lastLit = some t ∧ blinkMs < now - t) ∧
          pin.accepts .low = false) ∧
      (led.update pin now).wrote ≠ some .high) ∧
    writes ∈ blinkShape.matches' ∧
    (∀ (pin : Pin) (t Δ : Nat), led.isLit = true → lastLit = some t.toUInt32 → Δ < 2 ^ 32 →
      pin.accepts .low = true →
      ((led.update pin (t + Δ).toUInt32).led.isLit = false ↔ blinkMs.toNat < Δ)) := by
  intro led writes lastLit
  have hs : Shows led calls writes := shows_runCalls blinkMs calls
  have hblink : led.blinkMs = blinkMs := blinkMs_runCalls (new blinkMs) calls
  have hwrites : ∀ (pin : Pin) (now : UInt32) (b : Bool),
      (∃ t, led.litAt = some t ∧ led.blinkMs < now - t ∧ pin.accepts .low = b) ↔
        led.isLit = true ∧ (∃ t, lastLit = some t ∧ blinkMs < now - t) ∧ pin.accepts .low = b := by
    intro pin now b
    rw [hs.exists_litAt_iff, hblink]
    constructor
    · rintro ⟨hlit, t, hlast, hgap, hb⟩
      exact ⟨hlit, ⟨t, hlast, hgap⟩, hb⟩
    · rintro ⟨hlit, ⟨t, hlast, hgap⟩, hb⟩
      exact ⟨hlit, t, hlast, hgap, hb⟩
  refine ⟨fun l c hfail => (moves_call l c).unchanged_of_failed hfail, hs.lit_iff, ?_, hs.shape, ?_⟩
  · intro pin now
    exact ⟨(update_wrote_low_iff led pin now).trans (hwrites pin now true),
      (update_failed_iff led pin now).trans (hwrites pin now false), update_wrote_ne_high led pin now⟩
  · intro pin t Δ hlit hlast hΔ hlow
    have hpassed : ((t + Δ).toUInt32 - t.toUInt32).toNat = Δ := by
      rw [Word.toNat_toUInt32_sub (Nat.le_add_right t Δ) (by omega), Nat.add_sub_cancel_left]
    rw [update_dark_iff led pin _ hlit, update_wrote_low_iff, hwrites pin _ true]
    constructor
    · rintro ⟨-, ⟨t', hlast', hgap⟩, -⟩
      rw [hlast] at hlast'
      cases hlast'
      rwa [UInt32.lt_iff_toNat_lt, hpassed] at hgap
    · intro hgap
      refine ⟨hlit, ⟨t.toUInt32, hlast, ?_⟩, hlow⟩
      rwa [UInt32.lt_iff_toNat_lt, hpassed]

/-- An LED with a 100 ms window, lit 50 ms before the clock wraps, on a pin that takes every
write: an update 120 ms later, at reading 70 after the wrap, darkens it. -/
theorem led_follows_writes_across_wrap :
    let pin : Pin := ⟨fun _ => true⟩
    let calls := [LedCall.flash (2 ^ 32 - 50 : Nat).toUInt32 pin]
    let led := ((StatusLed.new 100).runCalls calls).1
    led.isLit = true ∧
      (calls.filterMap LedCall.litTime).getLast? = some (2 ^ 32 - 50 : Nat).toUInt32 ∧
      120 < 2 ^ 32 ∧ pin.accepts .low = true ∧
      ((led.update pin (2 ^ 32 - 50 + 120 : Nat).toUInt32).led.isLit = false ↔
        (100 : UInt32).toNat < 120) :=
  ⟨rfl, rfl, by decide, rfl,
    (led_follows_writes 100 [LedCall.flash (2 ^ 32 - 50 : Nat).toUInt32 ⟨fun _ => true⟩]).2.2.2.2
      ⟨fun _ => true⟩ (2 ^ 32 - 50) 120 rfl rfl (by decide) rfl⟩

end StatusLed

end Handclap
