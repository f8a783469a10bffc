import TableFilter.Proofs.Filter.Limits
import TableFilter.Proofs.Filter.Reading
import TableFilter.Proofs.Json.ReadBack
import TableFilter.Sql.Condition

/-!
# Admitted filters

What the predicates of a text are like once they are admitted, and what becomes of their set when
its text is admitted in turn. Main statement: `admitted_set_is_admitted_again`.
-/

namespace TableFilter

open Json (Value)

/-! ## Admitted predicates -/

/-- A predicate that may be admitted within limits. -/
def Limits.Admits (limits : Limits) (p : Predicate) : Prop :=
  limits.allows p.column = true ∧ p.operator.toSpec.hasNullEnd = false

/-- Predicates that a text gives are those of forms, so their operators can be read. -/
theorem isReadable_of_readPredicates {limits : Limits} {text : String} {ps : List Predicate}
    (hread : readPredicates limits text = .ok ps) : ∀ p ∈ ps, p.operator.IsReadable := by
  obtain ⟨⟨forms, -, hforms⟩, -⟩ := readPredicates_eq_ok_iff.mp hread
  intro p hp
  have hmem : .ok p ∈ forms.map Predicate.ofForm := hforms ▸ List.mem_map_of_mem hp
  obtain ⟨form, -, hform⟩ := List.mem_map.mp hmem
  exact Predicate.isReadable_of_ofForm hform

/-- Predicates that a text gives are within the limits under which it was read. -/
theorem admits_of_readPredicates {limits : Limits} {text : String} {ps : List Predicate}
    (hread : readPredicates limits text = .ok ps) :
    ps.length ≤ limits.maxPredicates.toNat ∧ ∀ p ∈ ps, limits.Admits p := by
  obtain ⟨-, hfits⟩ := readPredicates_eq_ok_iff.mp hread
  have hallows := (limits.forall_allows_iff _).mpr hfits.isAllowed
  rw [List.forall_mem_map] at hallows
  exact ⟨hfits.count_le, fun p hp =>
    ⟨hallows p hp, (isReadable_of_readPredicates hread p hp).hasNullEnd_toSpec⟩⟩

/-! ## Sets as texts -/

theorem Scalar.isReadable_toValue (v : Scalar) (depth : Nat) :
    v.toValue.isReadable depth = true := by
  cases v <;> rfl

theorem Filter.Spec.isReadable_listValue (items : List Scalar) (depth : Nat) :
    (listValue items).isReadable (depth + 1) = true := by
  change Value.areReadable depth (items.map Scalar.toValue) = true
  induction items with
  | nil => rfl
  | cons v rest ih =>
    rw [List.map_cons, Value.areReadable, v.isReadable_toValue, ih]
    rfl

theorem Filter.Spec.isReadable_toValue (spec : Spec) (depth : Nat) :
    spec.toValue.isReadable (depth + 2) = true := by
  have hbranch (name : String) {v : Value} (hv : v.isReadable (depth + 1) = true) :
      (Value.object [(name, v)]).isReadable (depth + 2) = true := by
    simp [Value.isReadable, Value.areReadableMembers, Entries.keys, hv]
  cases spec with
  | eq v => exact v.isReadable_toValue _
  | isIn items => exact isReadable_listValue items _
  | contains v => exact hbranch "contains" (v.isReadable_toValue _)
  | regex pattern => exact hbranch "regex" rfl
  | notEmpty => exact hbranch "not_empty" rfl
  | empty => exact hbranch "empty" rfl
  | notIn items => exact hbranch "not_in" (isReadable_listValue items _)
  | gt v => exact hbranch "gt" (v.isReadable_toValue _)
  | lt v => exact hbranch "lt" (v.isReadable_toValue _)
  | range gte lte =>
    cases gte <;> cases lte <;>
      simp [toValue, boundMember, Value.isReadable, Value.areReadableMembers, Entries.keys,
        Scalar.isReadable_toValue]

namespace FilterSet

theorem nodup_keys_members (set : FilterSet) : (Entries.keys set.members).Nodup := by
  have hkeys : Entries.keys set.members = (Entries.keys set.entries).map Identifier.name := by
    simp [members, Entries.keys]
  rw [hkeys]
  exact List.Pairwise.map Identifier.name (fun _ _ => mt Identifier.name_injective) set.distinct

theorem areReadableMembers_members (set : FilterSet) (depth : Nat) :
    Value.areReadableMembers (depth + 2) set.members = true := by
  rw [members]
  induction set.entries with
  | nil => rfl
  | cons entry rest ih =>
    rw [List.map_cons, Value.areReadableMembers, Filter.Spec.isReadable_toValue, ih]
    rfl

theorem isReadable_toValue (set : FilterSet) (depth : Nat) :
    set.toValue.isReadable (depth + 3) = true := by
  rw [toValue_eq_object, Value.isReadable, areReadableMembers_members,
    decide_eq_true set.nodup_keys_members]
  rfl

/-- The text of a set is read as the set, as far as limits admit it. -/
theorem readFilterSet_text {limits : Limits} {set : FilterSet}
    (hbytes : set.toValue.text.utf8ByteSize ≤ limits.maxBytes.toNat)
    (hcount : set.size ≤ limits.maxPredicates.toNat)
    (hallows : ∀ column ∈ set.columns, limits.allows column = true) :
    readFilterSet limits set.toValue.text = .ok set.settled := by
  have hread : Json.read .members set.toValue.text = .ok set.members :=
    Json.read_members_text (set.isReadable_toValue 124)
  rw [readFilterSet_eq_ok_iff, size_settled, columns_settled]
  exact ⟨⟨set.members, hread, set.ofMembers_members⟩, hbytes, hcount,
    (limits.forall_allows_iff set.columns).mp hallows⟩

end FilterSet

/-- The set of admitted predicates is admitted again, under the same limits, when its text travels
and is not too long: neither the number of its columns nor their names nor a demand is refused, and
the set that arrives has the same demands in the same order and makes the same condition. -/
theorem admitted_set_is_admitted_again {limits : Limits} {text : String} {ps : List Predicate}
    (hread : readPredicates limits text = .ok ps) (hne : ps ≠ []) :
    ∃ set, FilterSet.compile? ps = some set ∧
      (set.toValue.text.utf8ByteSize ≤ limits.maxBytes.toNat →
        ∃ received, readFilterSet limits set.toValue.text = .ok received ∧
          received.entries = set.entries ∧
          ∀ options, Sql.condition? options received = Sql.condition? options set) := by
  obtain ⟨hlength, hadmits⟩ := admits_of_readPredicates hread
  have hcompile := FilterSet.compile?_of_ne_nil hne
  generalize FilterSet.ofList (ps.map Predicate.toEntry) = set at hcompile
  refine ⟨set, hcompile, fun hbytes => ⟨set, ?_, rfl, fun _ => rfl⟩⟩
  have hcount : set.size ≤ limits.maxPredicates.toNat :=
    Nat.le_trans (FilterSet.size_le_of_compile? hcompile) hlength
  have hallows : ∀ column ∈ set.columns, limits.allows column = true := by
    intro column hmem
    obtain ⟨entry, hentry, rfl⟩ := List.mem_map.mp hmem
    obtain ⟨p, hp, rfl⟩ := FilterSet.mem_entries_of_compile? hcompile hentry
    exact (hadmits p hp).1
  have hsettled : set.settled = set := by
    rw [FilterSet.settled_eq_self_iff]
    intro entry hentry
    obtain ⟨p, hp, rfl⟩ := FilterSet.mem_entries_of_compile? hcompile hentry
    exact (hadmits p hp).2
  rw [FilterSet.readFilterSet_text hbytes hcount hallows, hsettled]

/-- Of two demands on one column the later one travels. -/
theorem stock_filter_is_admitted_again :
    ∃ ps set received,
      readPredicates .standard
          "[[\"price\",\"in\",[1,null]],[\"name\",\"contains\",\"50%\"],[\"price\",\"equals\",9]]" =
        .ok ps ∧
      FilterSet.compile? ps = some set ∧
      readFilterSet .standard set.toValue.text = .ok received ∧
      received.entries = set.entries ∧
      ∀ options, Sql.condition? options received = Sql.condition? options set := by
  have hread : readPredicates .standard
      "[[\"price\",\"in\",[1,null]],[\"name\",\"contains\",\"50%\"],[\"price\",\"equals\",9]]" =
        .ok [
          ⟨⟨"price", by decide⟩, .isIn [.number (.ofWord 1), .null]⟩,
          ⟨⟨"name", by decide⟩, .contains (.string "50%")⟩,
          ⟨⟨"price", by decide⟩, .equals (.number (.ofWord 9))⟩] := by
    decide +kernel
  obtain ⟨set, hcompile, htravel⟩ := admitted_set_is_admitted_again hread (by decide)
  have hbytes : set.toValue.text.utf8ByteSize ≤ Limits.standard.maxBytes.toNat := by
    cases hcompile
    decide +kernel
  obtain ⟨received, hreceived⟩ := htravel hbytes
  exact ⟨_, set, received, hread, hcompile, hreceived⟩

end TableFilter
