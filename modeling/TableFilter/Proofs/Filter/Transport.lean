import TableFilter.Filter.Compile
import TableFilter.Proofs.Entries
import TableFilter.Proofs.Identifier
import TableFilter.Proofs.Outcome
import TableFilter.Proofs.Scalar

/-!
# Demands and sets after travelling

What the transport form of a demand or of a set is read back as. Main statement: everything comes
back as it was, except that an end of a range which is null comes back as a missing one.
-/

namespace TableFilter

open Json (Value)

namespace Filter.Spec

/-- An end of a range as it is read: null counts as missing. -/
def settledEnd (bound : Option Scalar) : Option Scalar :=
  bound.filter (!·.isNull)

/-- A demand as it is read. -/
def settled : Spec → Spec
  | .range gte lte => .range (settledEnd gte) (settledEnd lte)
  | spec => spec

/-- Whether an end of a range is there and null. -/
def hasNullEnd : Spec → Bool
  | .range gte lte => gte == some .null || lte == some .null
  | _ => false

theorem settledEnd_eq_self_iff (bound : Option Scalar) :
    settledEnd bound = bound ↔ bound ≠ some .null := by
  rcases bound with _ | v
  · simp [settledEnd]
  · cases v <;> simp [settledEnd, Scalar.isNull]

theorem settled_eq_self_iff (spec : Spec) : spec.settled = spec ↔ spec.hasNullEnd = false := by
  cases spec with
  | range gte lte =>
    simp [settled, hasNullEnd, settledEnd_eq_self_iff]
  | _ => simp [settled, hasNullEnd]

theorem branchScalar_eq_ok_iff (branch : String) (value : Value) (v : Scalar) :
    branchScalar branch value = .ok v ↔ v.toValue = value := by
  rw [← Scalar.ofValue?_eq_some_iff, branchScalar]
  split
  next hof => simp [hof]
  next hof => simp [hof]

theorem branchScalars_eq_mapM (branch : String) (values : List Value) :
    branchScalars branch values = values.mapM (branchScalar branch) := by
  induction values with
  | nil => rfl
  | cons value rest ih => rw [branchScalars, ih, List.mapM_cons]

theorem branchScalars_eq_ok_iff (branch : String) (values : List Value) (items : List Scalar) :
    branchScalars branch values = .ok items ↔ items.map Scalar.toValue = values := by
  rw [branchScalars_eq_mapM, mapM_eq_ok_iff_map_eq (branchScalar_eq_ok_iff branch)]

@[simp]
theorem branchScalar_toValue (branch : String) (v : Scalar) :
    branchScalar branch v.toValue = .ok v :=
  (branchScalar_eq_ok_iff branch v.toValue v).mpr rfl

theorem branchScalars_toValue (branch : String) (items : List Scalar) :
    branchScalars branch (items.map Scalar.toValue) = .ok items :=
  (branchScalars_eq_ok_iff branch _ items).mpr rfl

@[simp]
theorem branchList_listValue (branch : String) (items : List Scalar) :
    branchList branch (listValue items) = .ok items :=
  branchScalars_toValue branch items

/-- What is read of an end of a range, given the member that stands for it. -/
theorem branchBound_of_get? {members : List (String × Value)} {branch : String}
    {bound : Option Scalar}
    (hget : Entries.get? branch members = bound.map Scalar.toValue) :
    branchBound members branch = .ok (settledEnd bound) := by
  rw [branchBound, hget]
  rcases bound with _ | v
  · rfl
  · cases v <;> rfl

theorem isRange_bounds (gte lte : Option Scalar) :
    isRange (boundMember "gte" gte ++ boundMember "lte" lte) = true := by
  cases gte <;> cases lte <;> rfl

theorem get?_gte_bounds (gte lte : Option Scalar) :
    Entries.get? "gte" (boundMember "gte" gte ++ boundMember "lte" lte) =
      gte.map Scalar.toValue := by
  cases gte <;> cases lte <;> rfl

theorem get?_lte_bounds (gte lte : Option Scalar) :
    Entries.get? "lte" (boundMember "gte" gte ++ boundMember "lte" lte) =
      lte.map Scalar.toValue := by
  cases gte <;> cases lte <;> rfl

theorem ofValue?_toValue (spec : Spec) : ofValue? spec.toValue = .ok spec.settled := by
  cases spec with
  | eq v => cases v <;> rfl
  | isIn items =>
    simp [toValue, listValue, ofValue?, branchScalars_toValue, settled, Except.map]
  | contains v => cases v <;> rfl
  | regex pattern => rfl
  | notEmpty => rfl
  | empty => rfl
  | notIn items =>
    change (branchList "not_in" (listValue items)).map Spec.notIn = _
    rw [branchList_listValue]
    rfl
  | gt v => cases v <;> rfl
  | lt v => cases v <;> rfl
  | range gte lte =>
    simp only [toValue, ofValue?, isRange_bounds, if_true]
    rw [branchBound_of_get? (get?_gte_bounds gte lte),
      branchBound_of_get? (get?_lte_bounds gte lte)]
    rfl

theorem ofValue_toValue (spec : Spec) : ofValue spec.toValue = .ok spec.settled := by
  rw [ofValue, ofValue?_toValue]

end Filter.Spec

namespace FilterSet

theorem entries_insertAll (set : FilterSet) (entries : List (Identifier × Filter.Spec)) :
    (set.insertAll entries).entries = Entries.putAll set.entries entries := by
  induction entries generalizing set with
  | nil => rfl
  | cons entry rest ih => exact ih (set.insert entry.1 entry.2)

theorem entries_ofList (entries : List (Identifier × Filter.Spec)) :
    (ofList entries).entries = Entries.putAll [] entries :=
  entries_insertAll empty entries

theorem entries_ofList_of_nodup {entries : List (Identifier × Filter.Spec)}
    (hdistinct : (Entries.keys entries).Nodup) : (ofList entries).entries = entries := by
  rw [entries_ofList, Entries.putAll_of_nodup (by simpa using hdistinct), List.nil_append]

theorem ext_entries {set other : FilterSet} (hentries : set.entries = other.entries) :
    set = other := by
  cases set
  cases other
  cases hentries
  rfl

def members (set : FilterSet) : List (String × Value) :=
  set.entries.map fun (column, spec) => (column.name, spec.toValue)

theorem toValue_eq_object (set : FilterSet) : set.toValue = .object set.members :=
  rfl

theorem keys_map_settled (entries : List (Identifier × Filter.Spec)) :
    Entries.keys (entries.map fun (column, spec) => (column, spec.settled)) =
      Entries.keys entries := by
  simp [Entries.keys]

/-- A set as it is read: the same columns in the same order, each demand as it is read. -/
def settled (set : FilterSet) : FilterSet where
  entries := set.entries.map fun (column, spec) => (column, spec.settled)
  distinct := (keys_map_settled set.entries).symm ▸ set.distinct

theorem columns_settled (set : FilterSet) : set.settled.columns = set.columns :=
  keys_map_settled set.entries

theorem size_settled (set : FilterSet) : set.settled.size = set.size :=
  List.length_map _

theorem settled_eq_self_iff (set : FilterSet) :
    set.settled = set ↔ ∀ entry ∈ set.entries, entry.2.hasNullEnd = false := by
  have hentry (entry : Identifier × Filter.Spec) :
      (entry.1, entry.2.settled) = id entry ↔ entry.2.hasNullEnd = false := by
    rw [← Filter.Spec.settled_eq_self_iff, id, Prod.ext_iff]
    simp
  calc set.settled = set
      ↔ set.settled.entries = set.entries := ⟨congrArg entries, ext_entries⟩
    _ ↔ set.entries.map (fun entry => (entry.1, entry.2.settled)) = set.entries.map id := by
      rw [List.map_id]
      rfl
    _ ↔ ∀ entry ∈ set.entries, entry.2.hasNullEnd = false := by
      simp only [List.map_inj_left, hentry]

theorem entriesOf_members (entries : List (Identifier × Filter.Spec)) :
    entriesOf (entries.map fun (column, spec) => (column.name, spec.toValue)) =
      .ok (entries.map fun (column, spec) => (column, spec.settled)) := by
  induction entries with
  | nil => rfl
  | cons entry rest ih =>
    obtain ⟨column, spec⟩ := entry
    simp [entriesOf, Identifier.ofString_name, Filter.Spec.ofValue_toValue, ih, bind, Except.bind,
      pure, Except.pure]

theorem ofMembers_members (set : FilterSet) : ofMembers set.members = .ok set.settled := by
  rw [ofMembers, members, entriesOf_members]
  apply congrArg Except.ok
  exact ext_entries (entries_ofList_of_nodup set.settled.distinct)

/-- Every demand and every set can be read back. Each column keeps its place and its demand, save
that a null end of a range is missing afterwards; so a demand comes back unchanged exactly if it
has no such end, and a set if none of its demands has. -/
theorem read_back_eq_settled :
    (∀ spec : Filter.Spec,
      Filter.Spec.ofValue spec.toValue = .ok spec.settled ∧
        (Filter.Spec.ofValue spec.toValue = .ok spec ↔ spec.hasNullEnd = false)) ∧
    ∀ set : FilterSet, ∃ members, set.toValue = .object members ∧
      ofMembers members = .ok set.settled ∧
        (ofMembers members = .ok set ↔ ∀ entry ∈ set.entries, entry.2.hasNullEnd = false) := by
  constructor
  · intro spec
    have hread := Filter.Spec.ofValue_toValue spec
    refine ⟨hread, ?_⟩
    rw [hread, Except.ok.injEq]
    exact spec.settled_eq_self_iff
  · intro set
    have hread := ofMembers_members set
    refine ⟨set.members, rfl, hread, ?_⟩
    rw [hread, Except.ok.injEq]
    exact set.settled_eq_self_iff

/-- A range from null that a predicate demands is a range without a lower end afterwards. -/
theorem between_null_is_not_kept :
    Filter.Spec.ofValue
        (Operator.between ⟨some .null, some (.number (.ofWord 5))⟩).toSpec.toValue ≠
      .ok (Operator.between ⟨some .null, some (.number (.ofWord 5))⟩).toSpec := by
  rw [Filter.Spec.ofValue_toValue, ne_eq, Except.ok.injEq, Filter.Spec.settled_eq_self_iff]
  decide

end FilterSet

end TableFilter
