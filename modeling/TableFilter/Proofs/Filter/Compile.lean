import TableFilter.Filter.Compile
import TableFilter.Proofs.Filter.Transport

/-!
# What a compiled set holds

Each demand of a compiled set is that of a predicate, and where no column is named twice the
demands are those of the predicates, in order. Main statement: in general each column stands where
it came first and has the demand of its last predicate, and predicates that follow others are put
in among these as their own set, `columns_stand_first_with_last_demands`.
-/

namespace TableFilter.FilterSet

theorem keys_map_toEntry (ps : List Predicate) :
    Entries.keys (ps.map Predicate.toEntry) = ps.map Predicate.column := by
  simp [Entries.keys, Predicate.toEntry]

theorem compile?_of_ne_nil {ps : List Predicate} (hne : ps ≠ []) :
    compile? ps = some (ofList (ps.map Predicate.toEntry)) := by
  cases ps with
  | nil => exact absurd rfl hne
  | cons p ps => rfl

theorem compile?_eq_none_iff {ps : List Predicate} : compile? ps = none ↔ ps = [] := by
  cases ps with
  | nil => exact ⟨fun _ => rfl, fun _ => rfl⟩
  | cons p ps => exact ⟨nofun, nofun⟩

theorem entries_of_compile? {ps : List Predicate} {set : FilterSet}
    (hcompile : compile? ps = some set) :
    set.entries = Entries.putAll [] (ps.map Predicate.toEntry) := by
  cases ps with
  | nil => cases hcompile
  | cons p ps =>
    cases hcompile
    exact entries_ofList _

theorem mem_entries_of_compile? {ps : List Predicate} {set : FilterSet}
    (hcompile : compile? ps = some set) {entry : Identifier × Filter.Spec}
    (hmem : entry ∈ set.entries) : ∃ p ∈ ps, p.toEntry = entry := by
  rw [entries_of_compile? hcompile] at hmem
  rcases Entries.mem_putAll hmem with hnil | hmem
  · cases hnil
  · exact List.mem_map.mp hmem

/-- The columns of a compiled set are those of the predicates, in the order in which they first
came. -/
theorem columns_of_compile? {ps : List Predicate} {set : FilterSet}
    (hcompile : compile? ps = some set) :
    set.columns = (ps.map Predicate.column).eraseDups := by
  rw [columns, entries_of_compile? hcompile, Entries.keys_putAll_nil, keys_map_toEntry]

theorem size_le_of_compile? {ps : List Predicate} {set : FilterSet}
    (hcompile : compile? ps = some set) : set.size ≤ ps.length := by
  have hlength := Entries.length_putAll_le [] (ps.map Predicate.toEntry)
  rw [← entries_of_compile? hcompile, List.length_map, List.length_nil, Nat.zero_add] at hlength
  exact hlength

/-- Where no column is named twice, compiling keeps every predicate. -/
theorem entries_of_compile?_of_nodup {ps : List Predicate} {set : FilterSet}
    (hcompile : compile? ps = some set) (hdistinct : (ps.map Predicate.column).Nodup) :
    set.entries = ps.map Predicate.toEntry := by
  rw [entries_of_compile? hcompile, Entries.putAll_of_nodup]
  · rfl
  · rw [List.nil_append, keys_map_toEntry]
    exact hdistinct

/-- What a compiled set demands of a column is told by the last predicate on the column. -/
theorem mem_entries_of_compile?_iff {ps : List Predicate} {set : FilterSet}
    (hcompile : compile? ps = some set) (column : Identifier) (spec : Filter.Spec) :
    (column, spec) ∈ set.entries ↔
      ∃ earlier p later, ps = earlier ++ p :: later ∧ p.toEntry = (column, spec) ∧
        column ∉ later.map Predicate.column := by
  rw [← Entries.get?_eq_some_iff_mem set.distinct, entries_of_compile? hcompile,
    Entries.get?_putAll_nil, Entries.get?_reverse_eq_some_iff]
  constructor
  · rintro ⟨earlier, later, hsplit, hnew⟩
    obtain ⟨earlier, rest, rfl, rfl, hrest⟩ := List.map_eq_append_iff.mp hsplit
    obtain ⟨p, later, rfl, hp, rfl⟩ := List.map_eq_cons_iff.mp hrest
    rw [keys_map_toEntry] at hnew
    exact ⟨earlier, p, later, rfl, hp, hnew⟩
  · rintro ⟨earlier, p, later, rfl, hp, hnew⟩
    refine ⟨earlier.map Predicate.toEntry, later.map Predicate.toEntry, ?_, ?_⟩
    · rw [List.map_append, List.map_cons, hp]
    · rwa [keys_map_toEntry]

/-- Predicates that follow others are put in among these as their own set. -/
theorem compile?_append {ps qs : List Predicate} {set other : FilterSet}
    (hps : compile? ps = some set) (hqs : compile? qs = some other) :
    compile? (ps ++ qs) = some (set.insertAll other.entries) := by
  have hne : ps ++ qs ≠ [] := by
    intro hnil
    rw [(List.append_eq_nil_iff.mp hnil).1] at hps
    cases hps
  rw [compile?_of_ne_nil hne, Option.some.injEq]
  apply ext_entries
  rw [entries_ofList, entries_insertAll, entries_of_compile? hps, entries_of_compile? hqs,
    Entries.putAll_putAll_nil, List.map_append, Entries.putAll_append]

/-- The set of predicates has their columns in the order in which they first came, each with the
demand of the last predicate on it and no other. The set of a longer list is that of its first part
in which the entries of the set of its second part are put in, in order. -/
theorem columns_stand_first_with_last_demands :
    (∀ ps : List Predicate, ps ≠ [] → ∃ set, compile? ps = some set ∧
      set.columns = (ps.map Predicate.column).eraseDups ∧
      ∀ column spec, (column, spec) ∈ set.entries ↔
        ∃ earlier p later, ps = earlier ++ p :: later ∧ p.toEntry = (column, spec) ∧
          column ∉ later.map Predicate.column) ∧
    ∀ ps qs : List Predicate, ps ≠ [] → qs ≠ [] → ∃ set other,
      compile? ps = some set ∧ compile? qs = some other ∧
      compile? (ps ++ qs) = some (set.insertAll other.entries) := by
  constructor
  · intro ps hne
    have hcompile := compile?_of_ne_nil hne
    exact ⟨_, hcompile, columns_of_compile? hcompile, mem_entries_of_compile?_iff hcompile⟩
  · intro ps qs hps hqs
    have hset := compile?_of_ne_nil hps
    have hother := compile?_of_ne_nil hqs
    exact ⟨_, _, hset, hother, compile?_append hset hother⟩

/-- A price is asked for before and after a name: it stands first, and only its second condition is
left. A stock and the name again are then put in behind the price. -/
theorem price_stands_first_with_its_last_demand :
    let price : Identifier := ⟨"price", by decide⟩
    let name : Identifier := ⟨"name", by decide⟩
    let stock : Identifier := ⟨"stock", by decide⟩
    let ps : List Predicate :=
      [⟨price, .greaterThan (.number (.ofWord 5))⟩, ⟨name, .notEmpty⟩, ⟨price, .empty⟩]
    let qs : List Predicate := [⟨stock, .notEmpty⟩, ⟨name, .equals .null⟩]
    (∃ set, compile? ps = some set ∧ set.columns = [price, name] ∧
      (price, Filter.Spec.empty) ∈ set.entries) ∧
    ∃ set other, compile? ps = some set ∧ compile? qs = some other ∧
      compile? (ps ++ qs) = some (set.insertAll other.entries) := by
  intro price name stock ps qs
  constructor
  · obtain ⟨set, hset, hcolumns, hdemands⟩ :=
      columns_stand_first_with_last_demands.1 ps (by decide)
    refine ⟨set, hset, hcolumns.trans (by decide), (hdemands price .empty).mpr ?_⟩
    exact ⟨ps.take 2, ⟨price, .empty⟩, [], rfl, rfl, List.not_mem_nil⟩
  · exact columns_stand_first_with_last_demands.2 ps qs (by decide) (by decide)

end TableFilter.FilterSet
