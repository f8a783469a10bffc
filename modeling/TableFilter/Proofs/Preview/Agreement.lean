import TableFilter.Proofs.Filter.Compile
import TableFilter.Proofs.Preview.Membership
import TableFilter.Proofs.Sql.Evaluate
import TableFilter.Proofs.Sql.Meaning
import TableFilter.Proofs.Text.Case

/-!
# Previews and servers agree

A row that a preview keeps is taken by every server that is given the condition of the same
predicates, and where no column is named twice the two are the same.
-/

namespace TableFilter

open Json (Value)
open Preview (cell?)
open Sql (Server Truth)

def Scalar.isTextual : Scalar → Bool
  | .null | .string _ => true
  | _ => false

/-- Whether an operator compares with texts and nulls alone, or looks for a value's text. -/
def Operator.isTextual : Operator → Bool
  | .equals v => v.isTextual
  | .contains _ | .notEmpty | .empty => true
  | .isIn items | .notIn items => items.all Scalar.isTextual
  | _ => false

/-- Whether the cell of a column is a text, null or missing. -/
def Row.isTextual (row : Row) (column : Identifier) : Bool :=
  match Entries.get? column.name row with
  | none | some .null | some (.string _) => true
  | _ => false

namespace Preview

/-- A cell as a preview and as a server have it: null, or a text. -/
inductive SameCell : Option Value → Scalar → Prop where
  | null : SameCell none .null
  | text (s : String) : SameCell (some (.string s)) (.string s)

theorem sameCell_of_isTextual {row : Row} {column : Identifier}
    (htextual : Row.isTextual row column = true) :
    SameCell (cell? row column) (Sql.cellScalar row column.name) := by
  unfold Row.isTextual at htextual
  unfold cell? Sql.cellScalar
  split at htextual
  case h_1 hget => rw [hget]; exact .null
  case h_2 hget => rw [hget]; exact .null
  case h_3 s hget => rw [hget]; exact .text s
  case h_4 => cases htextual

variable {server : Server} {cell : Option Value} {a : Scalar}

theorem compare_equal_text (s t : String) :
    server.compare .equal (.string s) (.string t) =
      .ofBool (equals (some (.string s)) (.string t)) :=
  rfl

/-- A server knows a cell to be equal to what a preview finds equal, null apart. -/
theorem compare_equal_eq_yes_iff (hcell : SameCell cell a) {v : Scalar}
    (hv : v.isTextual = true) :
    server.compare .equal a v = .yes ↔ v.isNull = false ∧ equals cell v = true := by
  cases hcell with
  | null => cases v <;> simp [Server.compare, Scalar.isNull, equals]
  | text s =>
    cases v with
    | null => simp [Server.compare, Scalar.isNull]
    | string t => simp [compare_equal_text, Scalar.isNull]
    | bool b => cases hv
    | number n => cases hv

/-- A server knows a cell to differ from what a preview finds different, null apart. -/
theorem compare_equal_eq_no_iff (hcell : SameCell cell a) {v : Scalar}
    (hv : v.isTextual = true) :
    server.compare .equal a v = .no ↔
      cell.isSome = true ∧ v.isNull = false ∧ equals cell v = false := by
  cases hcell with
  | null => simp [Server.compare, Scalar.isNull]
  | text s =>
    cases v with
    | null => simp [Server.compare, Scalar.isNull]
    | string t => simp [compare_equal_text, Scalar.isNull]
    | bool b => cases hv
    | number n => cases hv

theorem amongTruth_eq_yes_iff (hcell : SameCell cell a) {items : List Scalar}
    (hitems : items.all Scalar.isTextual = true) :
    server.amongTruth a items = .yes ↔ isMember cell items = true := by
  rw [Server.amongTruth_eq_anyOf, Truth.anyOf_eq_yes_iff, isMember_eq_true_iff]
  refine exists_congr fun v => and_congr_right fun hv => ?_
  rw [compare_equal_eq_yes_iff hcell (List.all_eq_true.mp hitems v hv), Scalar.isNull_eq_false_iff]

theorem amongTruth_eq_no_iff (hcell : SameCell cell a) {items : List Scalar}
    (hitems : items.all Scalar.isTextual = true) :
    server.amongTruth a items = .no ↔ notMember cell items = true := by
  rw [Server.amongTruth_eq_anyOf, Truth.anyOf_eq_no_iff, notMember_eq_true_iff]
  exact forall₂_congr fun v hv =>
    compare_equal_eq_no_iff hcell (List.all_eq_true.mp hitems v hv)

variable {row : Row} {column : Identifier}

theorem map_scalar_value (items : List Scalar) :
    (items.map Sql.Term.value).map (·.scalar row) = items := by
  rw [List.map_map]
  exact List.map_id items

theorem isNull_eq_of_sameCell (hcell : SameCell cell a) : a.isNull = cell.isNone := by
  cases hcell <;> rfl

/-- A server finds a text in a cell where a preview finds it. -/
theorem textTruth_likePattern_eq_yes_iff (hcell : SameCell cell a) (v : Scalar) :
    Server.textTruth (Sql.Like.holds v.likePattern) a = .yes ↔
      textMatches cell v Text.occursIn = true := by
  cases hcell with
  | null => simp [Server.textTruth, Scalar.isNull, textMatches]
  | text s =>
    have hholds : Sql.Like.holds v.likePattern s =
        Text.occursIn (scalarKey v) (cellKey (.string s)) := Sql.Like.holds_escaped v.text s
    simp [Server.textTruth, Scalar.isNull, Scalar.text, textMatches, hholds]

theorem areEqual_empty (s : String) :
    server.areEqual (.string s) (.string "") = s.isEmpty := by
  have hempty : (Text.lowerChars s.toList == []) = s.isEmpty := by
    rw [Bool.eq_iff_iff, beq_iff_eq, Text.lowerChars_eq_nil_iff, String.isEmpty_iff,
      String.toList_eq_nil_iff]
  exact hempty

theorem compare_empty_eq_yes_iff (hcell : SameCell cell a) :
    server.compare .equal a (.string "") = .yes ↔ cell.isSome = true ∧ isBlank cell = true := by
  cases hcell with
  | null => simp [Server.compare, Scalar.isNull]
  | text s => simp [Server.compare, Scalar.isNull, Server.comparesAs, areEqual_empty, isBlank]

theorem compare_nonempty_eq_yes_iff (hcell : SameCell cell a) :
    server.compare .notEqual a (.string "") = .yes ↔ isBlank cell = false := by
  cases hcell with
  | null => simp [Server.compare, Scalar.isNull, isBlank]
  | text s => simp [Server.compare, Scalar.isNull, Server.comparesAs, areEqual_empty, isBlank]

/-! ## Demands, one operator after the other -/

section Demands

variable (hcell : SameCell cell (Sql.cellScalar row column.name))

theorem scalar_term (row : Row) (column : Identifier) :
    column.term.scalar row = Sql.cellScalar row column.name :=
  rfl

include hcell

theorem takes_equals_null_iff :
    server.conjunctionTruth row [.test (.isNull false column.term)] = .yes ↔
      equals cell .null = true := by
  rw [Server.conjunctionTruth_test, Server.testTruth, scalar_term, isNull_eq_of_sameCell hcell]
  cases cell <;> simp [Truth.negatedIf, equals]

theorem takes_equals_iff {v : Scalar} (hv : v.isTextual = true) (hnull : v.isNull = false) :
    server.conjunctionTruth row [.test (.compare column.term .equal (.value v))] = .yes ↔
      equals cell v = true := by
  rw [Server.conjunctionTruth_test, Server.testTruth, scalar_term, Sql.Term.scalar,
    compare_equal_eq_yes_iff hcell hv]
  simp [hnull]

theorem takes_contains_iff (v : Scalar) :
    server.conjunctionTruth row [.test (.like false column.term v.likePattern)] = .yes ↔
      textMatches cell v Text.occursIn = true := by
  rw [Server.conjunctionTruth_test, Server.testTruth, scalar_term]
  exact textTruth_likePattern_eq_yes_iff hcell v

theorem takes_notEmpty_iff :
    server.conjunctionTruth row [.test (.isNull true column.term),
        .test (.compare column.term .notEqual (.value (.string "")))] = .yes ↔
      (!isBlank cell) = true := by
  rw [← List.singleton_append, Server.conjunctionTruth_append, Truth.and_eq_yes_iff,
    Server.conjunctionTruth_test, Server.conjunctionTruth_test, Server.testTruth, Server.testTruth,
    scalar_term, isNull_eq_of_sameCell hcell, Sql.Term.scalar,
    compare_nonempty_eq_yes_iff hcell]
  cases cell <;> simp [Truth.negatedIf, isBlank]

theorem takes_empty_iff :
    server.conjunctionTruth row [.group [[.test (.isNull false column.term)],
        [.test (.compare column.term .equal (.value (.string "")))]]] = .yes ↔
      isBlank cell = true := by
  rw [Server.conjunctionTruth, Server.conjunctionTruth, Truth.and_yes, Server.truth,
    Server.alternativesTruth, Server.alternativesTruth, Server.alternativesTruth,
    Truth.or_eq_yes_iff, Truth.or_eq_yes_iff, Server.conjunctionTruth_test,
    Server.conjunctionTruth_test, Server.testTruth, Server.testTruth, scalar_term,
    isNull_eq_of_sameCell hcell, Sql.Term.scalar, compare_empty_eq_yes_iff hcell]
  cases cell <;> simp [Truth.negatedIf, isBlank]

theorem takes_isIn_iff {v : Scalar} {rest : List Scalar}
    (hitems : (v :: rest).all Scalar.isTextual = true) :
    server.conjunctionTruth row
        [.test (.among false column.term (.value v) (rest.map .value))] = .yes ↔
      isMember cell (v :: rest) = true := by
  rw [Server.conjunctionTruth_test, Server.testTruth, scalar_term, ← List.map_cons,
    map_scalar_value]
  exact amongTruth_eq_yes_iff hcell hitems

theorem takes_notIn_iff {v : Scalar} {rest : List Scalar}
    (hitems : (v :: rest).all Scalar.isTextual = true) :
    server.conjunctionTruth row
        [.test (.among true column.term (.value v) (rest.map .value))] = .yes ↔
      notMember cell (v :: rest) = true := by
  rw [Server.conjunctionTruth_test, Server.testTruth, scalar_term, ← List.map_cons,
    map_scalar_value, Truth.negatedIf, if_pos rfl, Truth.not_eq_yes_iff]
  exact amongTruth_eq_no_iff hcell hitems

/-- A server takes a row for a demand exactly if a preview lets the row pass. -/
theorem takes_conditions_iff {o : Operator} (ho : o.isTextual = true) :
    server.conjunctionTruth row (o.toSpec.conditions column) = .yes ↔
      meets ⟨true⟩ cell o = true := by
  cases o with
  | equals v =>
    cases v with
    | null => exact takes_equals_null_iff hcell
    | string t => exact takes_equals_iff hcell rfl rfl
    | bool b => cases ho
    | number n => cases ho
  | contains v => exact takes_contains_iff hcell v
  | notEmpty => exact takes_notEmpty_iff hcell
  | empty => exact takes_empty_iff hcell
  | isIn items =>
    cases items with
    | nil => exact ⟨nofun, nofun⟩
    | cons v rest => exact takes_isIn_iff hcell ho
  | notIn items =>
    cases items with
    | nil => exact ⟨fun _ => rfl, fun _ => rfl⟩
    | cons v rest => exact takes_notIn_iff hcell ho
  | _ => cases ho

end Demands

/-! ## Whole lists of predicates -/

theorem toSpec_ne_regex {o : Operator} (ho : o.isTextual = true) (pattern : String) :
    o.toSpec ≠ .regex pattern := by
  cases o with
  | startsWith v => cases ho
  | endsWith v => cases ho
  | unknown name operand => cases ho
  | _ => nofun

/-- A server that is given the condition of a compiled set takes the rows that meet each demand. -/
theorem accepts_iff {ps : List Predicate} {set : FilterSet} (options : Sql.Options)
    (hcompile : FilterSet.compile? ps = some set)
    (hops : ∀ p ∈ ps, p.operator.isTextual = true) :
    server.accepts row options (Sql.condition? options set) = true ↔
      ∀ entry ∈ set.entries, server.conjunctionTruth row (entry.2.conditions entry.1) = .yes := by
  have hread : Sql.read? options (Sql.condition? options set) = some [set.conditions] := by
    rw [Sql.condition?_eq_conjoined]
    refine Sql.read?_clauses fun column pattern hmem => ?_
    obtain ⟨p, hp, hentry⟩ := FilterSet.mem_entries_of_compile? hcompile hmem
    exact absurd (congrArg Prod.snd hentry) (toSpec_ne_regex (hops p hp) pattern)
  rw [Server.accepts_iff_of_read? server row hread, FilterSet.conditions,
    Server.conjunctionTruth_flatMap_eq_yes_iff]

/-- Predicates on texts: a row that a preview keeps is taken by every server that is given their
condition, in either way of writing literals. If no column is named twice, so that no predicate is
given up for a later one, the servers take no other rows. -/
theorem kept_rows_are_taken (server : Server) (options : Sql.Options) {ps : List Predicate}
    {row : Row} (hops : ∀ p ∈ ps, p.operator.isTextual = true)
    (hcells : ∀ p ∈ ps, Row.isTextual row p.column = true) :
    (meetsAll ⟨true⟩ ps row = true →
      server.accepts row options ((FilterSet.compile? ps).bind (Sql.condition? options)) = true) ∧
    ((ps.map Predicate.column).Nodup →
      (meetsAll ⟨true⟩ ps row = true ↔
        server.accepts row options
          ((FilterSet.compile? ps).bind (Sql.condition? options)) = true)) := by
  have htakes : ∀ p ∈ ps, (server.conjunctionTruth row (p.toEntry.2.conditions p.toEntry.1) = .yes ↔
      meetsPredicate ⟨true⟩ row p = true) := fun p hp =>
    takes_conditions_iff (sameCell_of_isTextual (hcells p hp)) (hops p hp)
  rw [meetsAll, List.all_eq_true]
  cases hcompile : FilterSet.compile? ps with
  | none =>
    cases ps with
    | nil =>
      have haccepts : server.accepts row options none = true := rfl
      simp [haccepts]
    | cons p ps => cases hcompile
  | some set =>
    rw [Option.bind_some, accepts_iff options hcompile hops]
    constructor
    · intro hmeets entry hentry
      obtain ⟨p, hp, rfl⟩ := FilterSet.mem_entries_of_compile? hcompile hentry
      exact (htakes p hp).mpr (hmeets p hp)
    · intro hdistinct
      rw [FilterSet.entries_of_compile?_of_nodup hcompile hdistinct]
      simp only [List.forall_mem_map]
      exact ⟨fun hmeets p hp => (htakes p hp).mpr (hmeets p hp),
        fun haccepts p hp => (htakes p hp).mp (haccepts p hp)⟩

/-- A row in which the texts stand in other case. -/
theorem sample_row_is_taken :
    Server.accepts ⟨fun _ _ => false, fun _ _ => false, fun _ _ => false⟩
      [("name", .string "Ann 50%_"), ("city", .string "OSLO"), ("note", .null)] ⟨true⟩
      ((FilterSet.compile? [
        ⟨⟨"name", by decide⟩, .contains (.string "0%_")⟩,
        ⟨⟨"city", by decide⟩, .isIn [.null, .string "oslo"]⟩,
        ⟨⟨"note", by decide⟩, .empty⟩]).bind (Sql.condition? ⟨true⟩)) = true := by
  refine (kept_rows_are_taken _ _ ?_ ?_).1 ?_
  · decide
  · decide
  · decide +kernel

end Preview

end TableFilter
