import TableFilter.Filter.Spec

/-!
# Filter sets

The demands on several columns, all of which a row must meet. Each column has one demand, and the
columns keep the order in which they first came.
-/

namespace TableFilter

open Json (Value)

/-- Demands on different columns, in order. -/
structure FilterSet where
  entries : List (Identifier × Filter.Spec)
  distinct : (Entries.keys entries).Nodup
  deriving DecidableEq, Repr

namespace FilterSet

def empty : FilterSet :=
  ⟨[], List.nodup_nil⟩

instance : Inhabited FilterSet :=
  ⟨empty⟩

/-- Puts a demand in the place of the one that its column has, or at the end if it has none. -/
def insert (set : FilterSet) (column : Identifier) (spec : Filter.Spec) : FilterSet :=
  ⟨Entries.put column spec set.entries, Entries.nodup_keys_put column spec set.distinct⟩

/-- Puts a demand in as `insert` does, and tells the one that its column had. -/
def exchange (set : FilterSet) (column : Identifier) (spec : Filter.Spec) :
    Option Filter.Spec × FilterSet :=
  let result := Entries.exchange column spec set.entries
  (result.1, ⟨result.2, Entries.nodup_keys_exchange column spec set.distinct⟩)

def get? (set : FilterSet) (column : String) : Option Filter.Spec :=
  (set.entries.find? fun (c, _) => c.name == column).map Prod.snd

def size (set : FilterSet) : Nat :=
  set.entries.length

def isEmpty (set : FilterSet) : Bool :=
  set.entries.isEmpty

def columns (set : FilterSet) : List Identifier :=
  Entries.keys set.entries

def insertAll (set : FilterSet) (entries : List (Identifier × Filter.Spec)) : FilterSet :=
  entries.foldl (fun set (column, spec) => set.insert column spec) set

def ofList (entries : List (Identifier × Filter.Spec)) : FilterSet :=
  empty.insertAll entries

/-- Equality of sets: the same columns with equal demands, whatever the order. -/
def equals (set other : FilterSet) : Bool :=
  set.size == other.size && set.entries.all fun (column, spec) =>
    match other.get? column.name with
    | some spec' => spec'.equals spec
    | none => false

def toValue (set : FilterSet) : Value :=
  .object (set.entries.map fun (column, spec) => (column.name, spec.toValue))

/-- The demands of the members of an object. -/
def entriesOf : List (String × Value) → Except FilterError (List (Identifier × Filter.Spec))
  | [] => .ok []
  | (name, v) :: rest => do
    let column ← Identifier.ofString name
    let spec ← Filter.Spec.ofValue v
    let entries ← entriesOf rest
    return (column, spec) :: entries

/-- The set of the members of an object. -/
def ofMembers (members : List (String × Value)) : Except FilterError FilterSet :=
  (entriesOf members).map ofList

end FilterSet

end TableFilter
