import TableFilter.Admission
import TableFilter.Config.Layer
import TableFilter.KeywordScan
import TableFilter.Preview
import TableFilter.Sql.Condition

/-!
# Settings

The configuration of a run: every setting has a value, from a file or the usual one.
-/

namespace TableFilter.Config

/-- The configuration of a run. -/
structure Settings where
  limits : Limits
  sql : Sql.Options
  preview : Preview.Options
  scan : KeywordScan.Options
  deriving DecidableEq, Repr

namespace Settings

def standard : Settings :=
  ⟨.standard, default, default, .standard⟩

instance : Inhabited Settings :=
  ⟨standard⟩

/-- The settings of a layer, those that it leaves open being as usual. A missing section leaves
open what an empty one does. -/
def ofLayer (layer : Layer) : Settings :=
  let parse := layer.parse.getD default
  let sql := layer.sql.getD default
  let eval := layer.eval.getD default
  let validator := layer.validator.getD default
  { limits := {
      maxPredicates := parse.maxPredicates.getD standard.limits.maxPredicates
      maxBytes := parse.maxBytes.getD standard.limits.maxBytes
      allowedColumns := parse.allowedColumns }
    sql := { escapeBackslashes := sql.escapeBackslashes.getD standard.sql.escapeBackslashes }
    preview := { fullOperatorSet := eval.fullOperatorSet.getD standard.preview.fullOperatorSet }
    scan := {
      block := validator.block.getD standard.scan.block
      keywords := validator.keywords.getD standard.scan.keywords } }

def toValue (settings : Settings) : Json.Value :=
  .object [
    ("parse", settings.limits.toValue),
    ("sql", settings.sql.toValue),
    ("eval", settings.preview.toValue),
    ("validator", settings.scan.toValue)]

end Settings

end TableFilter.Config
