import GuardAlgebra.Call.Answer
import GuardAlgebra.Settings.Configuration
import GuardAlgebra.Text.Quoted
import GuardAlgebra.Text.UpperCase

/-!
Levels of the log: the number of each name, and which records a level admits. A level is named by a
text in any case, or by an object that tells its own name or number in upper case.
-/
namespace GuardAlgebra.Level

def ofName? : String → Option Int
  | "CRITICAL" | "FATAL" => some 50
  | "ERROR" => some 40
  | "WARNING" | "WARN" => some 30
  | "INFO" => some 20
  | "DEBUG" => some 10
  | "NOTSET" => some 0
  | _ => none

def warning : Int := 30

/-- Whether warnings reach the log; an unset level leaves that to the level above, which admits
them. -/
def admitsWarnings (level : Int) : Bool := level ≤ warning

/-- The level of a name in upper case, or of a number. -/
def ofValue : Value → Except Fault Int
  | .str name =>
      match name.whole?.bind ofName? with
      | some level => .ok level
      | none => .error (.unknownLevel (Text.quoted name))
  | .int level => .ok level
  | .bool level => .ok level.toNat
  | other => .error (.badLevelType other.typeName)

/-- A value in upper case. -/
def upper (around : Surroundings) (site : Site) : Value → Run Value
  | .str name => .done (.str (name.expand Text.upperChar))
  | .bytes octets => .done (.bytes octets)
  | .type (.named (.known "str")) | .type (.named (.known "bytes")) =>
      .fail site (.badArguments "upper")
  | other => around.demand other "upper" [] site

/-- The level that a value names, or the settings where nothing is given. -/
def choose (around : Surroundings) (configuration : Configuration) (given : Value) (site : Site) :
    Run Int := do
  let isGiven ← .ofExcept site given.truth
  let named ← upper around site (if isGiven then given else configuration.logLevel)
  .ofExcept site (ofValue named)

end GuardAlgebra.Level
