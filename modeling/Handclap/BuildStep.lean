import Handclap.Text.Quoted

/-!
# Build step

Before the firmware is compiled, a build step settles the CPU clock it is built for. The clock
comes from the environment variable `AVR_CPU_FREQUENCY_HZ`, and is 16 MHz when the variable is
unset. The setting is read as a decimal 32-bit number after White_Space is trimmed from both
ends; it may carry one leading `+`, and leading zeros are fine. A setting that does not read as a
number stops the build, and the report quotes the setting exactly as it was given, untrimmed.

The step talks to the build tool in directive lines. It always asks to be run again when the
variable or the step itself changes, then passes the clock on to the compiler; for an AVR target
it also selects the microcontroller at link time and says which one it builds for.
-/

namespace Handclap

def clockVariable : String := "AVR_CPU_FREQUENCY_HZ"

/-- The clock assumed when the setting is absent, in hertz. -/
def defaultClockHz : UInt32 := 16000000

def targetMcu : String := "atmega328p"

/-- Read ASCII decimal digits, most significant first, onto `acc`; `none` at a non-digit. -/
def readDigits (acc : Nat) : List Char → Option Nat
  | [] => some acc
  | c :: cs => if c.isDigit then readDigits (acc * 10 + (c.toNat - '0'.toNat)) cs else none

/-- Read a 32-bit decimal number: an optional single `+`, then one or more ASCII digits, with
a value below `2 ^ 32`. -/
def parseWord32? (cs : List Char) : Option UInt32 :=
  let digits := match cs with
    | '+' :: rest => rest
    | _ => cs
  if digits.isEmpty then none
  else match readDigits 0 digits with
    | some n => if n < 4294967296 then some n.toUInt32 else none
    | none => none

/-- Read a clock setting: White_Space trimmed from both ends, then a 32-bit decimal number. -/
def parseClockSetting? (s : String) : Option UInt32 := parseWord32? (Text.trimWhiteSpace s)

def hasInfix (pat : List Char) : List Char → Bool
  | [] => pat.isEmpty
  | c :: cs => pat.isPrefixOf (c :: cs) || hasInfix pat cs

/-- A line the build step says to the build tool. -/
inductive Directive where
  | watchVariable (name : String)
  | watchFile (path : String)
  | compilerEnv (key value : String)
  | linkArg (arg : String)
  | warning (text : String)
deriving DecidableEq, Repr

/-- The directive as the line the build tool reads. -/
def Directive.render : Directive → String
  | .watchVariable name => "cargo:rerun-if-env-changed=" ++ name
  | .watchFile path => "cargo:rerun-if-changed=" ++ path
  | .compilerEnv key value => "cargo:rustc-env=" ++ key ++ "=" ++ value
  | .linkArg arg => "cargo:rustc-link-arg=" ++ arg
  | .warning text => "cargo:warning=" ++ text

/-- What the build step sees of its environment: the clock setting and the target, where set. -/
structure BuildEnv where
  clockSetting : Option String
  target : Option String
deriving DecidableEq, Repr

/-- What the build step does: the directives it prints, and the report that stopped it, if any. -/
structure BuildRun where
  directives : List Directive
  failure : Option String
deriving DecidableEq, Repr

namespace BuildEnv

/-- The clock to build for, or the report that stops the build. -/
def clockHz (env : BuildEnv) : Except String UInt32 :=
  match env.clockSetting with
  | none => .ok defaultClockHz
  | some s =>
    match parseClockSetting? s with
    | some hz => .ok hz
    | none => .error (clockVariable ++ " must be an integer, got " ++ Text.quote s)

def isAvr (env : BuildEnv) : Bool := hasInfix "avr".toList (env.target.getD "").toList

def run (env : BuildEnv) : BuildRun :=
  let watch := [Directive.watchVariable clockVariable, .watchFile "build.rs"]
  match env.clockHz with
  | .error report => ⟨watch, some report⟩
  | .ok hz =>
    let clock := toString hz.toNat
    let avr :=
      if env.isAvr then
        [Directive.linkArg ("-mmcu=" ++ targetMcu),
          .warning ("Building for " ++ targetMcu ++ " at " ++ clock ++ "Hz")]
      else []
    ⟨watch ++ [.compilerEnv "MCU_FREQ_HZ" clock] ++ avr, none⟩

end BuildEnv

end Handclap
