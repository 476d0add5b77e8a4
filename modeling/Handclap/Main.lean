import Handclap.Host

/-!
# Command line

The program's entry point writes what `hostRun` says and exits with its code.
-/

def main (args : List String) : IO UInt32 := do
  let r := Handclap.hostRun args
  IO.print r.stdout
  IO.eprint r.stderr
  pure r.exitCode
