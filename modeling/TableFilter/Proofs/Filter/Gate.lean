import TableFilter.Proofs.Filter.Admission
import TableFilter.Proofs.Identifier

/-!
# What gets past the gate

A filter comes in as predicates or as the transport form of a set, and each way in has checks of
its own. Main statement: by either way only sets get in that keep to the limits,
`admitted_filters_keep_to_limits`.
-/

namespace TableFilter

open TableFilter.Filter (Spec)

namespace FilterSet

/-- What the limits ask of a set: not too many demands, on different columns whose names are proper
and allowed, and no range from null or to null. -/
structure KeepsTo (set : FilterSet) (limits : Limits) : Prop where
  size_le : set.size ≤ limits.maxPredicates.toNat
  isName : ∀ column ∈ set.columns, IsName column.name
  isAllowed : ∀ allowed, limits.allowedColumns = some allowed →
    ∀ column ∈ set.columns, column.name ∈ allowed
  areDistinct : (set.columns.map Identifier.name).Nodup
  ends_ne_null : ∀ column gte lte, (column, .range gte lte) ∈ set.entries →
    gte ≠ some .null ∧ lte ≠ some .null

theorem KeepsTo.of_checks {set : FilterSet} {limits : Limits}
    (hcount : set.size ≤ limits.maxPredicates.toNat)
    (hallows : ∀ column ∈ set.columns, limits.allows column = true)
    (hends : ∀ entry ∈ set.entries, entry.2.hasNullEnd = false) : set.KeepsTo limits where
  size_le := hcount
  isName column _ := (isIdentifier_iff column.name).mp column.valid
  isAllowed := (limits.forall_allows_iff set.columns).mp hallows
  areDistinct :=
    List.Pairwise.map Identifier.name (fun _ _ => mt Identifier.name_injective) set.distinct
  ends_ne_null column gte lte hmem := by
    have hend := hends _ hmem
    simpa [Spec.hasNullEnd] using hend

/-- The set of admitted predicates keeps to the limits. -/
theorem keepsTo_of_readPredicates {limits : Limits} {text : String} {ps : List Predicate}
    {set : FilterSet} (hread : readPredicates limits text = .ok ps)
    (hcompile : compile? ps = some set) : set.KeepsTo limits := by
  obtain ⟨hcount, hadmits⟩ := admits_of_readPredicates hread
  refine .of_checks ((size_le_of_compile? hcompile).trans hcount) ?_ ?_
  · intro column hmem
    obtain ⟨entry, hentry, rfl⟩ := List.mem_map.mp hmem
    obtain ⟨p, hp, rfl⟩ := mem_entries_of_compile? hcompile hentry
    exact (hadmits p hp).1
  · intro entry hentry
    obtain ⟨p, hp, rfl⟩ := mem_entries_of_compile? hcompile hentry
    exact (hadmits p hp).2

/-- A set that is read keeps to the limits. -/
theorem keepsTo_of_readFilterSet {limits : Limits} {text : String} {set : FilterSet}
    (hread : readFilterSet limits text = .ok set) : set.KeepsTo limits := by
  obtain ⟨⟨members, -, hmembers⟩, hfits⟩ := readFilterSet_eq_ok_iff.mp hread
  exact .of_checks hfits.count_le ((limits.forall_allows_iff set.columns).mpr hfits.isAllowed)
    (hasNullEnd_of_ofMembers hmembers)

end FilterSet

/-- By neither way in does a text that is too long or a set get past the limits. Predicates are no
more than the limits allow themselves, their set has exactly their columns, and it looks for no null
as a text. -/
theorem admitted_filters_keep_to_limits (limits : Limits) (text : String) :
    (∀ ps, readPredicates limits text = .ok ps →
      text.utf8ByteSize ≤ limits.maxBytes.toNat ∧
      ps.length ≤ limits.maxPredicates.toNat ∧
      (FilterSet.compile? ps = none ↔ ps = []) ∧
      ∀ set, FilterSet.compile? ps = some set →
        set.KeepsTo limits ∧
        (∀ column, (column, .contains .null) ∉ set.entries) ∧
        ∀ column, column ∈ set.columns ↔ column ∈ ps.map Predicate.column) ∧
    ∀ set, readFilterSet limits text = .ok set →
      text.utf8ByteSize ≤ limits.maxBytes.toNat ∧ set.KeepsTo limits := by
  constructor
  · intro ps hread
    obtain ⟨-, hfits⟩ := readPredicates_eq_ok_iff.mp hread
    refine ⟨hfits.bytes_le, hfits.count_le, FilterSet.compile?_eq_none_iff, ?_⟩
    intro set hcompile
    refine ⟨FilterSet.keepsTo_of_readPredicates hread hcompile, ?_, ?_⟩
    · intro column hmem
      obtain ⟨p, hp, hentry⟩ := FilterSet.mem_entries_of_compile? hcompile hmem
      have hreadable := isReadable_of_readPredicates hread p hp
      exact hreadable.toSpec_ne_contains_null (congrArg Prod.snd hentry)
    · intro column
      rw [FilterSet.columns_of_compile? hcompile, List.mem_eraseDups]
  · intro set hread
    obtain ⟨-, hfits⟩ := readFilterSet_eq_ok_iff.mp hread
    exact ⟨hfits.bytes_le, FilterSet.keepsTo_of_readFilterSet hread⟩

/-- An end of a range that is null is no end, in predicates and in the transport form. -/
theorem price_and_stock_keep_to_limits :
    ∃ limits ps set received, limits = (⟨2, 100, some ["price", "stock"]⟩ : Limits) ∧
      readPredicates limits
          "[[\"price\",\"between\",\x7b\"min\":null,\"max\":9\x7d],[\"stock\",\"contains\",0]]" =
        .ok ps ∧
      FilterSet.compile? ps = some set ∧ ps.length ≤ 2 ∧ set.KeepsTo limits ∧
      readFilterSet limits "\x7b\"stock\":\x7b\"gte\":null,\"lte\":5\x7d,\"price\":[1,null]\x7d" =
        .ok received ∧
      received.KeepsTo limits := by
  have hread : readPredicates ⟨2, 100, some ["price", "stock"]⟩
      "[[\"price\",\"between\",\x7b\"min\":null,\"max\":9\x7d],[\"stock\",\"contains\",0]]" =
        .ok [
          ⟨⟨"price", by decide⟩, .between ⟨none, some (.number (.ofWord 9))⟩⟩,
          ⟨⟨"stock", by decide⟩, .contains (.number (.ofWord 0))⟩] := by
    decide +kernel
  have hreceived : readFilterSet ⟨2, 100, some ["price", "stock"]⟩
      "\x7b\"stock\":\x7b\"gte\":null,\"lte\":5\x7d,\"price\":[1,null]\x7d" =
        .ok (.ofList [
          (⟨"stock", by decide⟩, .range none (some (.number (.ofWord 5)))),
          (⟨"price", by decide⟩, .isIn [.number (.ofWord 1), .null])]) := by
    decide +kernel
  obtain ⟨-, hcount, -, hset⟩ := (admitted_filters_keep_to_limits _ _).1 _ hread
  exact ⟨_, _, _, _, rfl, hread, rfl, hcount, (hset _ rfl).1, hreceived,
    ((admitted_filters_keep_to_limits _ _).2 _ hreceived).2⟩

end TableFilter
