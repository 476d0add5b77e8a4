/-!
# Host entry

The firmware only runs on its microcontroller. Started anywhere else, the program says so on the
error stream and exits successfully, whatever its arguments.
-/

namespace Handclap

/-- What a run of the program does: its exit code and what it writes to each stream. -/
structure HostRun where
  exitCode : UInt32
  stdout : String
  stderr : String
deriving DecidableEq, Repr

/-- A run away from the microcontroller; the arguments are ignored. -/
def hostRun (_ : List String) : HostRun where
  exitCode := 0
  stdout := ""
  stderr := "clap_firmware only runs on AVR targets; build with --target avr-unknown-gnu-atmega328\n"

end Handclap
