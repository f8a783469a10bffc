import TableFilter.Filter.Set
import TableFilter.Json.Reader
import TableFilter.Text.Blank
import TableFilter.Text.Case
import TableFilter.Warning

/-!
# Keyword scan

Looks for SQL keywords anywhere in the text of a filter object. It is a weak guard and no defence:
what is found is told, and refused only if the options say so.
-/

namespace TableFilter.KeywordScan

open Json (Value)

/-- What is looked for, and whether finding it is a reason to refuse. -/
structure Options where
  block : Bool
  keywords : List String
  deriving DecidableEq, Repr

/-- The keywords of statements that change data. -/
def standardKeywords : List String :=
  ["DROP", "DELETE", "UPDATE", "INSERT", "ALTER", "CREATE", "TRUNCATE", "EXEC"]

/-- Tells the usual keywords and refuses nothing. -/
def Options.standard : Options :=
  ⟨false, standardKeywords⟩

instance : Inhabited Options :=
  ⟨.standard⟩

def Options.shape : Json.Shape Options where
  name := "struct ValidatorOptions"
  start := .standard
  fields := [
    .of "block_on_keywords" false .bool fun b options => { options with block := b },
    .of "keywords" false (.list .string) fun ks options => { options with keywords := ks }]
  arrayForm := .shortened
  keep? := none

def Options.toValue (options : Options) : Value :=
  .object [
    ("block_on_keywords", .bool options.block),
    ("keywords", .array (options.keywords.map .string))]

/-- The keywords found in a text, in the order of the options and in capitals; blanks around a
keyword do not count, and an empty one is not looked for. -/
def found (options : Options) (text : String) : List String :=
  let haystack := Text.upperChars text.toList
  (options.keywords.map fun k => Text.upper (Text.trim k)).filter fun k =>
    !k.isEmpty && Text.occursIn k.toList haystack

/-- Whether a value passes as a filter object. -/
def accepts (options : Options) : Value → Bool
  | .object members => (found options (Value.object members).text).isEmpty || !options.block
  | _ => false

/-- What the scan of a value has to tell. -/
def warnings (options : Options) : Value → List Warning
  | .object members =>
    match found options (Value.object members).text with
    | [] => []
    | keywords => [.keywords keywords options.block]
  | _ => []

end TableFilter.KeywordScan
