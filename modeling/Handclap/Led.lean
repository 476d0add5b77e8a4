/-!
# Status LED

The LED lights on a clap and goes dark again once its blink window has passed, without holding
up the main loop: `flash` lights it and starts the window, and `update`, called from the main
loop, darkens it when the window is over. Time is a wrapping 32-bit millisecond count, so the
window is measured as a wrapping difference. Writing the pin may fail; a failed write leaves the
LED's record of when it was lit as it was.
-/

namespace Handclap

inductive Level where
  | high
  | low
deriving DecidableEq, Repr

/-- A pin, described by which writes it accepts. -/
structure Pin where
  accepts : Level → Bool

/-- The LED's blink window in milliseconds, and the time it was last lit while it is lit. -/
structure StatusLed where
  blinkMs : UInt32
  litAt : Option UInt32
deriving DecidableEq, Repr

/-- The outcome of one LED call. -/
structure LedStep where
  led : StatusLed
  ok : Bool
  wrote : Option Level
deriving DecidableEq, Repr

namespace StatusLed

def new (blinkMs : UInt32) : StatusLed := ⟨blinkMs, none⟩

def isLit (led : StatusLed) : Bool := led.litAt.isSome

/-- Light the LED and restart the blink window at `now`. -/
def flash (led : StatusLed) (pin : Pin) (now : UInt32) : LedStep :=
  if pin.accepts .high then ⟨{ led with litAt := some now }, true, some .high⟩
  else ⟨led, false, none⟩

/-- Darken the LED if it is lit and more than the blink window has passed since it was lit. -/
def update (led : StatusLed) (pin : Pin) (now : UInt32) : LedStep :=
  match led.litAt with
  | some t =>
    if led.blinkMs < now - t then
      if pin.accepts .low then ⟨{ led with litAt := none }, true, some .low⟩
      else ⟨led, false, none⟩
    else ⟨led, true, none⟩
  | none => ⟨led, true, none⟩

end StatusLed

end Handclap
