import GuardAlgebra.Value

/-!
Settings. `Settings` is what validation gives; `Configuration` is what is in force, where any value
may have been put in the place of any other since.
-/
namespace GuardAlgebra

structure Settings where
  environment : String
  logLevel : String
  logDenials : Bool
  statusCode : Int
  detail : Text
  exposeDetails : Bool
  deriving DecidableEq, Repr

structure Configuration where
  environment : Value
  logLevel : Value
  logDenials : Value
  statusCode : Value
  detail : Value
  exposeDetails : Value

namespace Settings

def standard : Settings := ⟨"development", "INFO", true, 403, "Access denied", true⟩

def configuration (settings : Settings) : Configuration where
  environment := .str settings.environment
  logLevel := .str settings.logLevel
  logDenials := .bool settings.logDenials
  statusCode := .int settings.statusCode
  detail := .str settings.detail
  exposeDetails := .bool settings.exposeDetails

end Settings

namespace Configuration

/-- The settings by name, in the order they are declared. -/
def entries (configuration : Configuration) : List (String × Value) :=
  [("ENVIRONMENT", configuration.environment), ("LOG_LEVEL", configuration.logLevel),
    ("LOG_GUARD_DENIALS", configuration.logDenials),
    ("GUARD_DENIED_STATUS_CODE", configuration.statusCode),
    ("GUARD_DENIED_DETAIL", configuration.detail),
    ("EXPOSE_ERROR_DETAILS", configuration.exposeDetails)]

/-- Puts any value in the place of a setting that exists. A name that begins with an underscore is
kept apart from the settings, and two names belong to what settings tell of themselves. -/
def set (configuration : Configuration) (name : String) (value : Value) :
    Except Fault Configuration :=
  match name with
  | "ENVIRONMENT" => .ok { configuration with environment := value }
  | "LOG_LEVEL" => .ok { configuration with logLevel := value }
  | "LOG_GUARD_DENIALS" => .ok { configuration with logDenials := value }
  | "GUARD_DENIED_STATUS_CODE" => .ok { configuration with statusCode := value }
  | "GUARD_DENIED_DETAIL" => .ok { configuration with detail := value }
  | "EXPOSE_ERROR_DETAILS" => .ok { configuration with exposeDetails := value }
  | name =>
      if name.toList.head? = some '_' then .ok configuration
      else if ["model_extra", "model_fields_set"].contains name then
        .error (.missingAttribute "Settings" name)
      else .error (.unknownSetting name)

end Configuration

end GuardAlgebra
