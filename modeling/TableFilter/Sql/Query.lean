import TableFilter.Sql.Condition
import TableFilter.Text.Blank

/-!
# Queries

What a `SELECT` is made of, its form in a text, and the statements that select or count rows.
-/

namespace TableFilter

open Json (Field Value)

/-- The columns of a query: all of them, or some by name. There is at least one name, for a list of
no names stands for all columns and is written as a star too. -/
inductive Columns where
  | all
  | named (first : Identifier) (rest : List Identifier)
  deriving DecidableEq, Repr

/-- What a query asks for. -/
structure Query where
  table : Identifier
  filters : Option FilterSet
  columns : Columns
  limit : Option UInt64
  offset : Option UInt64
  orderBy : Option String
  deriving DecidableEq, Repr

namespace Columns

/-- Columns by name; no name at all means all columns. -/
def ofList : List Identifier → Columns
  | [] => .all
  | first :: rest => .named first rest

def identifiers : List String → Except FilterError (List Identifier)
  | [] => .ok []
  | name :: rest => do
    let i ← Identifier.ofString name
    let is ← identifiers rest
    return i :: is

def ofNames (names : List String) : Except FilterError Columns :=
  (identifiers names).map ofList

/-- Columns as a text lists them. Stars alone mean all columns, but a star is not a name. -/
def ofListing (names : List String) : Except FilterError Columns :=
  if names.all (· == "*") then .ok .all else ofNames names

/-- The names that list the columns in a text. -/
def listing : Columns → List String
  | .all => ["*"]
  | .named first rest => (first :: rest).map Identifier.name

def sql : Columns → String
  | .all => "*"
  | .named first rest =>
    Text.joined ", " ((first :: rest).map fun column => Sql.quoteName column.name)

end Columns

namespace Json.Reader

/-- Reads a value from which a filter is made, and passes on why it is refused. -/
def checked {α β : Type} (r : Reader α) (f : α → Except FilterError β) : Reader β :=
  r.andThen fun a =>
    match f a with
    | .ok b => .ok b
    | .error e => .error (.refused e.message)

def identifier : Reader Identifier :=
  string.checked Identifier.ofString

end Json.Reader

namespace Query

def ofTable (table : Identifier) : Query :=
  ⟨table, none, .all, none, none, none⟩

/-- The form of a query in a text. The table it starts with is never kept, for the table must be
there. -/
def shape : Json.Shape Query where
  name := "struct QueryDescriptor"
  start := ofTable default
  fields := [
    Field.of "table" true .identifier fun table q => { q with table },
    Field.of "filters" false (.optional (Json.Reader.members.checked FilterSet.ofMembers))
      fun filters q => { q with filters },
    Field.of "columns" false ((Json.Reader.list .string).checked Columns.ofListing)
      fun columns q => { q with columns },
    Field.of "limit" false (.optional (.word "u64")) fun limit q => { q with limit },
    Field.of "offset" false (.optional (.word "u64")) fun offset q => { q with offset },
    Field.of "orderBy" false (.optional .string) fun orderBy q => { q with orderBy }]
  arrayForm := .shortened
  keep? := none

def reader : Json.Reader Query :=
  shape.reader

def toValue (q : Query) : Value :=
  .object [
    ("table", .string q.table.name),
    ("filters", .ofOption FilterSet.toValue q.filters),
    ("columns", .array (q.columns.listing.map .string)),
    ("limit", .ofOption (fun n => .number (.ofWord n)) q.limit),
    ("offset", .ofOption (fun n => .number (.ofWord n)) q.offset),
    ("orderBy", .ofOption .string q.orderBy)]

end Query

namespace Sql

/-- The part of a statement that keeps the rows which a set demands, if it demands any. -/
def whereSql (options : Options) (filters : Option FilterSet) : String :=
  match filters.bind (condition? options) with
  | some condition => " WHERE " ++ condition
  | none => ""

/-- The part of a statement that orders rows. A blank order is none. -/
def orderSql (orderBy : Option String) : String :=
  match orderBy.map Text.trim with
  | none => ""
  | some order => if order.isEmpty then "" else " ORDER BY " ++ order

/-- The part of a statement that cuts out some of the rows. Rows are skipped only where their
number is limited. -/
def limitSql (limit offset : Option UInt64) : String :=
  match limit, offset with
  | none, _ => ""
  | some n, none => " LIMIT " ++ toString n.toNat
  | some n, some m =>
    " LIMIT " ++ toString n.toNat ++ if m = 0 then "" else " OFFSET " ++ toString m.toNat

def select (options : Options) (q : Query) : String :=
  "SELECT " ++ q.columns.sql ++ " FROM " ++ quoteName q.table.name ++
    whereSql options q.filters ++ orderSql q.orderBy ++ limitSql q.limit q.offset

/-- The statement that counts the rows of a table which a set demands. -/
def count (options : Options) (table : Identifier) (filters : Option FilterSet) : String :=
  "SELECT COUNT(*) as count FROM " ++ quoteName table.name ++ whereSql options filters

end Sql

end TableFilter
