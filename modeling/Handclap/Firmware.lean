import Handclap.Config
import Handclap.Timer

/-!
# Firmware constants

The values the firmware is built with, for the default 16 MHz clock. The detector's tuning is
the default configuration, and its parameters are that configuration checked against the clock;
the check succeeds, which `clapConfig_valid` records.
-/

namespace Handclap.Firmware

def cpuFreqHz : UInt32 := 16000000

def uartBaud : UInt32 := 115200

/-- The converter input the microphone amplifier is wired to. -/
def clapAdcChannel : UInt8 := 0

def ledBlinkMs : UInt32 := 100

def clapConfig : Config := Config.default

theorem clapConfig_valid : (clapConfig.validate cpuFreqHz).toOption.isSome = true := by decide

/-- The detector's tuning resolved against the clock. -/
def clapParams : Params := (clapConfig.validate cpuFreqHz).toOption.get clapConfig_valid

theorem clapParams_spec : clapConfig.validate cpuFreqHz = .ok clapParams := rfl

def overflowStep : OverflowStep := OverflowStep.ofPeriod (OverflowStep.periodNs cpuFreqHz.toNat)

theorem overflowStep_spec : OverflowStep.forClock cpuFreqHz = .ok overflowStep := rfl

end Handclap.Firmware
