import GuardAlgebra.Settings.Configuration
import GuardAlgebra.Settings.Dotenv
import GuardAlgebra.Settings.Options
import GuardAlgebra.Settings.Reading
import GuardAlgebra.Text.UpperCase

/-!
Building settings. A setting is given by an argument, or else by the environment, or else by a file
of assignments, or else it has its default; every setting is then read and validated, defaults too.
Names that are no setting are refused among arguments and in the file, options apart. In production,
details are never exposed.

The order of the sources, and that defaults are validated in their turn, is what the library that
settings are built with documents; what it leaves to options that are not followed here is an error.
-/
namespace GuardAlgebra.Settings

/-- Where settings come from, the strongest first, and how they are read there. -/
structure Sources where
  options : Options
  arguments : List (String × Value)
  environment : List (String × Text)
  file : List (String × Text)

/-- The latest entry of a name. -/
def find? {α : Type} (entries : List (String × α)) (name : String) : Option α :=
  (entries.reverse.find? fun entry => entry.1 = name).map Prod.snd

/-- What a source outside the arguments gives for a setting. -/
def Options.find? (options : Options) (texts : List (String × Text)) (name : String) :
    Option Value :=
  (Settings.find? (options.entriesOf texts) (options.outerName name)).map options.meaning

/-- What the strongest source gives for a name. -/
def Sources.given (sources : Sources) (name : String) (default : Value) : Value :=
  ((find? sources.arguments name).or
    ((sources.options.find? sources.environment name).or
      (sources.options.find? sources.file name))).getD default

def names : List String :=
  ["ENVIRONMENT", "LOG_LEVEL", "LOG_GUARD_DENIALS", "GUARD_DENIED_STATUS_CODE",
    "GUARD_DENIED_DETAIL", "EXPOSE_ERROR_DETAILS"]

/-- The names in the file that are no setting. An empty value is no matter, and neither is the bare
name of a setting where names must have something in front. -/
def Sources.fileExtras (sources : Sources) : List String :=
  let options := sources.options
  let outer := names.map options.outerName
  ((options.entriesOf sources.file).filter fun entry =>
    entry.2 ≠ .whole "" && !outer.contains entry.1 &&
      !(options.lead ≠ "" && names.contains entry.1)).map Prod.fst |>.eraseDups

/-- The names that are no setting. -/
def Sources.extras (sources : Sources) : List String :=
  let filed := sources.fileExtras
  let argued := (sources.arguments.filter fun entry =>
    !names.contains entry.1 && !Options.isOption entry.1).map Prod.fst
  filed ++ argued.filter fun name => !filed.contains name

/-- A text that is one of these. -/
def oneOf (names : List String) (flaw : Flaw) (text : Text) : Except Flaw String :=
  match text.whole? with
  | some name => if names.contains name then .ok name else .error flaw
  | none => .error flaw

def checkEnvironment : Text → Except Flaw String :=
  oneOf ["development", "staging", "production"]
    (.refused "Environment must be one of: ['development', 'staging', 'production']")

def checkLevel (name : Text) : Except Flaw String :=
  oneOf ["DEBUG", "INFO", "WARNING", "ERROR", "CRITICAL"]
    (.refused "Log level must be one of: ['DEBUG', 'INFO', 'WARNING', 'ERROR', 'CRITICAL']")
    (name.expand Text.upperChar)

/-- Denials are the client's part. -/
def checkStatus (status : Int) : Except Flaw Int :=
  if 400 ≤ status ∧ status < 500 then .ok status
  else .error (.refused "GUARD_DENIED_STATUS_CODE must be a 4xx status code")

def problem? {α : Type} (field : String) : Except Flaw α → List Problem
  | .ok _ => []
  | .error flaw => [⟨flaw.kind, field, flaw.text⟩]

/-- Reads, checks and collects; all problems are told at once, in the order of the settings. -/
def build (sources : Sources) : Except (List Problem) Settings :=
  let environment :=
    readText (sources.given "ENVIRONMENT" (.str standard.environment)) >>= checkEnvironment
  let logLevel := readText (sources.given "LOG_LEVEL" (.str standard.logLevel)) >>= checkLevel
  let logDenials := readTruth (sources.given "LOG_GUARD_DENIALS" (.bool standard.logDenials))
  let statusCode :=
    readInteger (sources.given "GUARD_DENIED_STATUS_CODE" (.int standard.statusCode)) >>= checkStatus
  let detail := readText (sources.given "GUARD_DENIED_DETAIL" (.str standard.detail))
  let exposeDetails :=
    readTruth (sources.given "EXPOSE_ERROR_DETAILS" (.bool standard.exposeDetails))
  match environment, logLevel, logDenials, statusCode, detail, exposeDetails, sources.extras with
  | .ok environment, .ok logLevel, .ok logDenials, .ok statusCode, .ok detail, .ok exposeDetails,
    [] =>
      .ok ⟨environment, logLevel, logDenials, statusCode, detail,
        exposeDetails && environment ≠ "production"⟩
  | _, _, _, _, _, _, extras =>
      .error (problem? "ENVIRONMENT" environment ++ problem? "LOG_LEVEL" logLevel ++
        problem? "LOG_GUARD_DENIALS" logDenials ++
        problem? "GUARD_DENIED_STATUS_CODE" statusCode ++
        problem? "GUARD_DENIED_DETAIL" detail ++
        problem? "EXPOSE_ERROR_DETAILS" exposeDetails ++
        extras.map fun name => ⟨Flaw.unexpected.kind, name, Flaw.unexpected.text⟩)

/-- Builds settings of arguments, options among them, the environment, and the text of the file. -/
def gather (arguments : List (String × Value)) (environment : List (String × Text))
    (file : String) : Except Fault (Except (List Problem) Settings) := do
  let options ← Options.ofArguments arguments
  let file := if options.readsFile then Dotenv.read environment file else []
  pure (build ⟨options, arguments, environment, file⟩)

end GuardAlgebra.Settings
