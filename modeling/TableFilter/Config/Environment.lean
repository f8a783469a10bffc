import TableFilter.Config.ConfigError
import TableFilter.Config.Settings
import TableFilter.Text.Split

/-!
# Settings from the environment

Variables that take precedence over every file. A blank variable counts as not set.
-/

namespace TableFilter.Config

/-- The values of the variables that are set. -/
abbrev Environment : Type :=
  String → Option String

/-- A variable and what its value does to the settings. -/
structure Override where
  key : String
  apply : String → Settings → Except ConfigError Settings

namespace Override

/-- The value of a variable, blanks around it aside, as a whole number. -/
def number (key value : String) : Except ConfigError UInt64 :=
  match Decimal.readWord (Text.trim value) with
  | .ok n => .ok n
  | .error fault => .error (.badNumber key value fault)

/-- The value of a variable, blanks around it aside, as a truth value in one of its spellings, in
any case. -/
def flag (key value : String) : Except ConfigError Bool :=
  let word := String.ofList ((Text.trimChars value.toList).map Char.toLower)
  if word = "1" || word = "true" || word = "yes" || word = "on" then .ok true
  else if word = "0" || word = "false" || word = "no" || word = "off" then .ok false
  else .error (.badFlag key value)

/-- The texts between the commas of a value, without blanks around them and without the empty
ones. -/
def listed (value : String) : List String :=
  ((Text.splitCommas value).map Text.trim).filter (!·.isEmpty)

def ofNumber (key : String) (set : UInt64 → Settings → Settings) : Override where
  key := key
  apply value settings := (number key value).map (set · settings)

def ofFlag (key : String) (set : Bool → Settings → Settings) : Override where
  key := key
  apply value settings := (flag key value).map (set · settings)

def all : List Override := [
  ofNumber "FILTERQL_MAX_PREDICATES" fun n s =>
    { s with limits := { s.limits with maxPredicates := n } },
  ofNumber "FILTERQL_MAX_FILTER_JSON_BYTES" fun n s =>
    { s with limits := { s.limits with maxBytes := n } },
  { key := "FILTERQL_ALLOWED_COLUMNS"
    apply := fun value s =>
      .ok { s with limits := { s.limits with allowedColumns := some (listed value) } } },
  ofFlag "FILTERQL_SQL_ESCAPE_BACKSLASHES" fun b s =>
    { s with sql := { s.sql with escapeBackslashes := b } },
  ofFlag "FILTERQL_EVAL_FULL_OPERATOR_SET" fun b s =>
    { s with preview := { s.preview with fullOperatorSet := b } },
  ofFlag "FILTERQL_VALIDATOR_BLOCK" fun b s =>
    { s with scan := { s.scan with block := b } }]

end Override

namespace Environment

/-- The value of a variable that is set and not blank. -/
def value? (env : Environment) (key : String) : Option String :=
  (env key).filter fun value => !(Text.trim value).isEmpty

/-- The settings after the given variables have been looked at, one after the other, up to the
first whose value is no value for it; that one is told as well. -/
def applyEach (env : Environment) (settings : Settings) :
    List Override → Settings × Option ConfigError
  | [] => (settings, none)
  | o :: rest =>
    match env.value? o.key with
    | none => applyEach env settings rest
    | some value =>
      match o.apply value settings with
      | .ok settings => applyEach env settings rest
      | .error e => (settings, some e)

/-- The settings after all variables have been looked at. -/
def override (env : Environment) (settings : Settings) : Settings × Option ConfigError :=
  env.applyEach settings Override.all

end Environment

/-- Refuses limits that admit nothing. -/
def Settings.check (settings : Settings) : Except ConfigError Unit :=
  if settings.limits.maxPredicates = 0 then .error .noPredicates
  else if settings.limits.maxBytes = 0 then .error .noBytes
  else .ok ()

def resolve (layer : Layer) (env : Environment) : Except ConfigError Settings :=
  match env.override (.ofLayer layer) with
  | (_, some e) => .error e
  | (settings, none) => do
    settings.check
    return settings

end TableFilter.Config
