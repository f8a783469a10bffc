import Mathlib.Data.List.Perm.Subperm
import TableFilter.Proofs.Filter.Compile
import TableFilter.Proofs.Filter.History
import TableFilter.Proofs.Scalar
import TableFilter.Sql.Condition

/-!
# Equal sets

Two sets are equal if every column has equal demands in both, in whatever order the columns stand.
So the order of predicates on different columns does not matter to the set they are compiled to.
Main statement: `equal_sets_have_equal_demands`.
-/

namespace TableFilter

open TableFilter.Filter (Spec)

/-! ## Equal demands -/

namespace Filter.Spec

/-- The demand itself, every zero in it without its sign. -/
def plain : Spec → Spec
  | .eq v => .eq v.plain
  | .isIn items => .isIn (items.map Scalar.plain)
  | .contains v => .contains v.plain
  | .regex pattern => .regex pattern
  | .notEmpty => .notEmpty
  | .empty => .empty
  | .notIn items => .notIn (items.map Scalar.plain)
  | .gt v => .gt v.plain
  | .lt v => .lt v.plain
  | .range gte lte => .range (gte.map Scalar.plain) (lte.map Scalar.plain)

theorem equals_iff (spec other : Spec) : spec.equals other = true ↔ spec.plain = other.plain := by
  cases spec <;> cases other <;>
    simp [equals, plain, Scalar.equals_iff, Scalar.listEquals_iff, Scalar.optionEquals_iff]

/-- There are equal demands on both sides, or there is none on either. -/
def Agree : Option Spec → Option Spec → Prop :=
  Option.Rel fun spec other => spec.equals other = true

theorem agree_iff (demand other : Option Spec) :
    Agree demand other ↔ demand.map plain = other.map plain := by
  cases demand with
  | none =>
    cases other with
    | none => exact ⟨fun _ => rfl, fun _ => .none⟩
    | some spec => exact ⟨nofun, nofun⟩
  | some spec =>
    cases other with
    | none => exact ⟨nofun, nofun⟩
    | some other =>
      rw [Agree, Option.rel_some_some, equals_iff, Option.map_some, Option.map_some,
        Option.some.injEq]

theorem agree_refl (demand : Option Spec) : Agree demand demand :=
  (agree_iff demand demand).mpr rfl

end Filter.Spec

/-! ## Equal sets -/

namespace FilterSet

theorem nodup_columns (set : FilterSet) : set.columns.Nodup :=
  set.distinct

theorem length_columns (set : FilterSet) : set.columns.length = set.size :=
  List.length_map _

theorem get?_name_eq_some_iff (set : FilterSet) (column : Identifier) (spec : Spec) :
    set.get? column.name = some spec ↔ (column, spec) ∈ set.entries := by
  rw [get?_name, Entries.get?_eq_some_iff_mem set.distinct]

theorem get?_name_eq_none_iff (set : FilterSet) (column : Identifier) :
    set.get? column.name = none ↔ column ∉ set.columns := by
  rw [get?_name, Entries.get?_eq_none_iff]
  rfl

/-- What holds of the demands on columns holds of those on any names, for only names of columns
have demands. -/
theorem forall_name_of_forall_column {set other : FilterSet} {P : Option Spec → Option Spec → Prop}
    (hnone : P none none)
    (hcolumn : ∀ column : Identifier, P (set.get? column.name) (other.get? column.name))
    (name : String) : P (set.get? name) (other.get? name) := by
  by_cases hname : ∃ column : Identifier, column.name = name
  · obtain ⟨column, rfl⟩ := hname
    exact hcolumn column
  · have hget (set : FilterSet) : set.get? name = none :=
      (get?_eq_none_iff set name).mpr fun column _ heq => hname ⟨column, heq⟩
    rw [hget, hget]
    exact hnone

/-- The one-sided comparison: as many columns, and on each column of the first set an equal demand
in the second. -/
theorem equals_iff_size_and_forall (set other : FilterSet) :
    set.equals other = true ↔
      set.size = other.size ∧ ∀ entry ∈ set.entries,
        Spec.Agree (some entry.2) (other.get? entry.1.name) := by
  rw [equals, Bool.and_eq_true, beq_iff_eq, List.all_eq_true]
  refine and_congr_right fun _ => forall₂_congr fun entry _ => ?_
  obtain ⟨column, spec⟩ := entry
  dsimp only
  cases other.get? column.name with
  | none => exact ⟨nofun, nofun⟩
  | some spec' =>
    rw [Spec.agree_iff, Spec.equals_iff, Option.map_some, Option.map_some, Option.some.injEq]
    exact eq_comm

/-- Where every column of a set is in another set that has no more, it is so the other way. -/
theorem columns_perm_of_forall_agree {set other : FilterSet} (hsize : set.size = other.size)
    (hdemands : ∀ entry ∈ set.entries, Spec.Agree (some entry.2) (other.get? entry.1.name)) :
    set.columns.Perm other.columns := by
  have hsubset : set.columns ⊆ other.columns := by
    intro column hmem
    obtain ⟨entry, hentry, rfl⟩ := List.mem_map.mp hmem
    by_contra hnot
    have hagree := hdemands entry hentry
    rw [(get?_name_eq_none_iff other entry.1).mpr hnot] at hagree
    cases hagree
  -- The converse is a matter of counting: no column stands twice in either set.
  have hlength : other.columns.length ≤ set.columns.length := by
    rw [length_columns, length_columns, hsize]
  exact (List.subperm_of_subset set.nodup_columns hsubset).perm_of_length_le hlength

theorem columns_perm_of_agree {set other : FilterSet}
    (hagree : ∀ name, Spec.Agree (set.get? name) (other.get? name)) :
    set.columns.Perm other.columns := by
  rw [List.perm_ext_iff_of_nodup set.nodup_columns other.nodup_columns]
  intro column
  have hcolumn := (Spec.agree_iff _ _).mp (hagree column.name)
  rw [← not_iff_not, ← get?_name_eq_none_iff, ← get?_name_eq_none_iff,
    ← Option.map_eq_none_iff (f := Spec.plain), hcolumn, Option.map_eq_none_iff]

theorem equals_iff (set other : FilterSet) :
    set.equals other = true ↔ ∀ name, Spec.Agree (set.get? name) (other.get? name) := by
  rw [equals_iff_size_and_forall]
  constructor
  · rintro ⟨hsize, hdemands⟩
    refine forall_name_of_forall_column .none fun column => ?_
    have hcolumns := columns_perm_of_forall_agree hsize hdemands
    cases hget : set.get? column.name with
    | none =>
      rw [get?_name_eq_none_iff, hcolumns.mem_iff, ← get?_name_eq_none_iff] at hget
      rw [hget]
      exact .none
    | some spec => exact hdemands _ ((get?_name_eq_some_iff set column spec).mp hget)
  · intro hagree
    constructor
    · rw [← length_columns, ← length_columns, (columns_perm_of_agree hagree).length_eq]
    · intro entry hmem
      rw [← (get?_name_eq_some_iff set entry.1 entry.2).mpr hmem]
      exact hagree entry.1.name

theorem equals_equivalence : Equivalence fun set other : FilterSet => set.equals other = true := by
  simp only [equals_iff, Spec.agree_iff]
  exact ⟨fun _ _ => rfl, fun h name => (h name).symm, fun h h' name => (h name).trans (h' name)⟩

end FilterSet

/-! ## The order of predicates -/

/-- The predicates of one list in an order in which those on each column keep theirs. -/
structure Predicate.Reordered (ps qs : List Predicate) : Prop where
  perm : ps.Perm qs
  keepsOrder : ∀ column, ps.filter (·.column = column) = qs.filter (·.column = column)

/-- Neighbours on different columns may change places. -/
theorem Predicate.Reordered.swap (before : List Predicate) {p q : Predicate}
    (after : List Predicate) (hne : p.column ≠ q.column) :
    Reordered (before ++ p :: q :: after) (before ++ q :: p :: after) where
  perm := (List.Perm.swap q p after).append_left before
  keepsOrder column := by
    by_cases hp : p.column = column
    · have hq : q.column ≠ column := fun hq => hne (hp.trans hq.symm)
      simp [hp, hq]
    · by_cases hq : q.column = column <;> simp [hp, hq]

namespace FilterSet

/-- What a compiled set demands of a column is told by the predicates on that column, in order. -/
theorem get?_of_compile? {ps : List Predicate} {set : FilterSet}
    (hcompile : compile? ps = some set) (column : Identifier) :
    set.get? column.name =
      Entries.get? column
        ((ps.filter (·.column = column)).map Predicate.toEntry).reverse := by
  have hfilter : (ps.filter (·.column = column)).map Predicate.toEntry =
      (ps.map Predicate.toEntry).filter (·.1 = column) := by
    rw [List.filter_map]
    rfl
  rw [get?_name, entries_of_compile? hcompile, Entries.get?_putAll_nil, hfilter,
    ← List.filter_reverse, Entries.get?_filter_key]

theorem perm_entries_of_get? {set other : FilterSet}
    (hget : ∀ column : Identifier, set.get? column.name = other.get? column.name) :
    set.entries.Perm other.entries := by
  have hnodup (s : FilterSet) : s.entries.Nodup := List.Nodup.of_map Prod.fst s.distinct
  rw [List.perm_ext_iff_of_nodup (hnodup set) (hnodup other)]
  rintro ⟨column, spec⟩
  rw [← get?_name_eq_some_iff, ← get?_name_eq_some_iff, hget]

end FilterSet

/-- Equality of sets is an equivalence, and two sets are equal exactly if each column has equal
demands in both. Demands are equal that are the same up to the sign of a zero. Predicates that are
reordered, those on each column in the same order, are compiled to equal sets, whose clauses are the
same in another order. -/
theorem FilterSet.equal_sets_have_equal_demands :
    (Equivalence fun set other : FilterSet => set.equals other = true) ∧
    (∀ spec other : Spec, spec.equals other = true ↔ spec.plain = other.plain) ∧
    (∀ set other : FilterSet, set.equals other = true ↔
      ∀ name, Option.Rel (fun spec spec' : Spec => spec.equals spec' = true)
        (set.get? name) (other.get? name)) ∧
    ∀ ps qs, Predicate.Reordered ps qs →
      Option.Rel (fun set other : FilterSet => set.equals other = true ∧
          ∀ options, (Sql.clauses options set).Perm (Sql.clauses options other))
        (compile? ps) (compile? qs) := by
  refine ⟨equals_equivalence, Spec.equals_iff, equals_iff, fun ps qs hreordered => ?_⟩
  cases hps : compile? ps with
  | none =>
    obtain rfl := compile?_eq_none_iff.mp hps
    obtain rfl := hreordered.perm.nil_eq
    exact .none
  | some set =>
    cases hqs : compile? qs with
    | none =>
      obtain rfl := compile?_eq_none_iff.mp hqs
      obtain rfl := hreordered.perm.eq_nil
      cases hps
    | some other =>
      have hget (column : Identifier) : set.get? column.name = other.get? column.name := by
        rw [get?_of_compile? hps, get?_of_compile? hqs, hreordered.keepsOrder]
      refine .some ⟨?_, fun options => (perm_entries_of_get? hget).filterMap _⟩
      rw [equals_iff]
      refine forall_name_of_forall_column .none fun column => ?_
      rw [hget]
      exact Spec.agree_refl _

/-- The set is the same whether the name is asked for before the price or after it. -/
theorem name_goes_before_price :
    ∃ set other,
      FilterSet.compile? [
        ⟨⟨"price", by decide⟩, .greaterThan (.number (.ofWord 5))⟩,
        ⟨⟨"name", by decide⟩, .contains (.string "a")⟩,
        ⟨⟨"price", by decide⟩, .lessThan (.number (.ofWord 9))⟩] = some set ∧
      FilterSet.compile? [
        ⟨⟨"name", by decide⟩, .contains (.string "a")⟩,
        ⟨⟨"price", by decide⟩, .greaterThan (.number (.ofWord 5))⟩,
        ⟨⟨"price", by decide⟩, .lessThan (.number (.ofWord 9))⟩] = some other ∧
      set.columns ≠ other.columns ∧ set.equals other = true ∧
      ∀ options, (Sql.clauses options set).Perm (Sql.clauses options other) := by
  have hreordered := Predicate.Reordered.swap []
    (p := ⟨⟨"price", by decide⟩, .greaterThan (.number (.ofWord 5))⟩)
    (q := ⟨⟨"name", by decide⟩, .contains (.string "a")⟩)
    [⟨⟨"price", by decide⟩, .lessThan (.number (.ofWord 9))⟩] (by decide)
  have hcompile := FilterSet.equal_sets_have_equal_demands.2.2.2 _ _ hreordered
  cases hcompile with
  | some hequal => exact ⟨_, _, rfl, rfl, by decide, hequal.1, hequal.2⟩

end TableFilter
