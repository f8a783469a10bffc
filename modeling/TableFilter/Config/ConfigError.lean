import TableFilter.Decimal.Word
import TableFilter.Json.ReadError

/-!
# Why a configuration is refused
-/

namespace TableFilter.Config

/-- The cause for which a configuration is refused. -/
inductive ConfigError where
  | missingFile (path : String)
  | unreadableFile (path reason : String)
  | badFile (path : String) (e : Json.ReadError)
  | badNumber (key value : String) (fault : Decimal.WordFault)
  | badFlag (key value : String)
  | noPredicates
  | noBytes
  deriving DecidableEq, Repr

/-- The words that tell a cause, in parts that a colon joins. -/
def ConfigError.parts : ConfigError → List String
  | .missingFile path => ["Config file not found: " ++ path]
  | .unreadableFile path reason => ["Failed to read config file: " ++ path, reason]
  | .badFile path e => ("Failed to parse config file: " ++ path) :: e.message?.toList
  | .badNumber key value fault =>
    ["Invalid value for " ++ key ++ ": " ++ Text.quoted value, fault.text]
  | .badFlag key value =>
    ["Invalid value for " ++ key ++ ": " ++ Text.quoted value ++ " (expected true or false)"]
  | .noPredicates => ["parse.max_predicates must be greater than 0"]
  | .noBytes => ["parse.max_json_bytes must be greater than 0"]

end TableFilter.Config
