import TableFilter.Json.Reader
import TableFilter.Warning

/-!
# Layers of configuration

A configuration file settles some settings and leaves the others open. Of files read one after the
other, the last one that settles a setting counts for it.
-/

namespace TableFilter.Config

open Json (Field Value)

/-- The limits on filters that a file settles. -/
structure ParseSection where
  maxPredicates : Option UInt64
  maxBytes : Option UInt64
  allowedColumns : Option (List String)
  deriving DecidableEq, Repr

/-- What a file settles about SQL texts. -/
structure SqlSection where
  escapeBackslashes : Option Bool
  deriving DecidableEq, Repr

/-- What a file settles about previews. -/
structure EvalSection where
  fullOperatorSet : Option Bool
  deriving DecidableEq, Repr

/-- What a file settles about the keyword scan. -/
structure ValidatorSection where
  block : Option Bool
  keywords : Option (List String)
  deriving DecidableEq, Repr

/-- The sections of a file, each of which may be missing, and its members that are no sections. -/
structure Layer where
  parse : Option ParseSection
  sql : Option SqlSection
  eval : Option EvalSection
  validator : Option ValidatorSection
  others : List (String × Value)
  deriving Repr

def ParseSection.shape : Json.Shape ParseSection where
  name := "struct ParseFileConfig"
  start := ⟨none, none, none⟩
  fields := [
    Field.of "max_predicates" false (.optional (.word "usize")) fun n s =>
      { s with maxPredicates := n },
    Field.of "max_json_bytes" false (.optional (.word "usize")) fun n s => { s with maxBytes := n },
    Field.of "allowed_columns" false (.optional (.list .string)) fun cs s =>
      { s with allowedColumns := cs }]
  arrayForm := .complete
  keep? := none

def SqlSection.shape : Json.Shape SqlSection where
  name := "struct SqlFileConfig"
  start := ⟨none⟩
  fields := [
    Field.of "escape_backslashes" false (.optional .bool) fun b s =>
      { s with escapeBackslashes := b }]
  arrayForm := .complete
  keep? := none

def EvalSection.shape : Json.Shape EvalSection where
  name := "struct EvalFileConfig"
  start := ⟨none⟩
  fields := [
    Field.of "full_operator_set" false (.optional .bool) fun b s => { s with fullOperatorSet := b }]
  arrayForm := .complete
  keep? := none

def ValidatorSection.shape : Json.Shape ValidatorSection where
  name := "struct ValidatorFileConfig"
  start := ⟨none, none⟩
  fields := [
    Field.of "block_on_keywords" false (.optional .bool) fun b s => { s with block := b },
    Field.of "keywords" false (.optional (.list .string)) fun ks s => { s with keywords := ks }]
  arrayForm := .complete
  keep? := none

/-! ## Empty sections, and what is settled by two -/

instance : Inhabited ParseSection :=
  ⟨ParseSection.shape.start⟩

instance : Inhabited SqlSection :=
  ⟨SqlSection.shape.start⟩

instance : Inhabited EvalSection :=
  ⟨EvalSection.shape.start⟩

instance : Inhabited ValidatorSection :=
  ⟨ValidatorSection.shape.start⟩

/-- What two sections settle, the upper one first; a list counts as a whole. -/
def ParseSection.above (upper lower : ParseSection) : ParseSection where
  maxPredicates := upper.maxPredicates.or lower.maxPredicates
  maxBytes := upper.maxBytes.or lower.maxBytes
  allowedColumns := upper.allowedColumns.or lower.allowedColumns

def SqlSection.above (upper lower : SqlSection) : SqlSection where
  escapeBackslashes := upper.escapeBackslashes.or lower.escapeBackslashes

def EvalSection.above (upper lower : EvalSection) : EvalSection where
  fullOperatorSet := upper.fullOperatorSet.or lower.fullOperatorSet

def ValidatorSection.above (upper lower : ValidatorSection) : ValidatorSection where
  block := upper.block.or lower.block
  keywords := upper.keywords.or lower.keywords

/-- What is settled where a file lies above what files before it have settled. A section that the
upper file has is there from then on, an empty one being put under it if need be. -/
def sectionAbove {α : Type} [Inhabited α] (above : α → α → α) (upper lower : Option α) :
    Option α :=
  match upper with
  | none => lower
  | some s => some (above s (lower.getD default))

namespace Layer

def empty : Layer where
  parse := none
  sql := none
  eval := none
  validator := none
  others := []

instance : Inhabited Layer :=
  ⟨empty⟩

/-- The form of a file. A section may be null, as if it were missing. The other members are kept,
as they may be mistakes. -/
def shape : Json.Shape Layer where
  name := "struct FileConfig"
  start := empty
  fields := [
    Field.of "parse" false (.optional ParseSection.shape.reader) fun s l => { l with parse := s },
    Field.of "sql" false (.optional SqlSection.shape.reader) fun s l => { l with sql := s },
    Field.of "eval" false (.optional EvalSection.shape.reader) fun s l => { l with eval := s },
    Field.of "validator" false (.optional ValidatorSection.shape.reader) fun s l =>
      { l with validator := s }]
  arrayForm := .refused
  keep? := some fun name v l => { l with others := Entries.put name v l.others }

def read (text : String) : Except Json.ReadError Layer :=
  Json.read shape.reader text

/-- What the two layers settle, the upper one first. -/
def above (upper lower : Layer) : Layer where
  parse := sectionAbove ParseSection.above upper.parse lower.parse
  sql := sectionAbove SqlSection.above upper.sql lower.sql
  eval := sectionAbove EvalSection.above upper.eval lower.eval
  validator := sectionAbove ValidatorSection.above upper.validator lower.validator
  others := lower.others

/-- What a stack of layers settles, the lowest one given first. -/
def merged (layers : List Layer) : Layer :=
  layers.foldl (fun lower upper => upper.above lower) empty

def warnings (layer : Layer) : List Warning :=
  if layer.others.isEmpty then [] else [.unknownSettings (Entries.keys layer.others)]

end Layer

end TableFilter.Config
