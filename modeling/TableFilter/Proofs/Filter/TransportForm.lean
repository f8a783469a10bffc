import Mathlib.Tactic.SplitIfs
import TableFilter.Proofs.Filter.Reading
import TableFilter.Proofs.Scalar

/-!
# Transport forms

The JSON values that are transport forms of demands, and the one among them that is written for
each demand. Main statement: exactly these values are read, and what is read is written in normal
form, `transport_forms_are_read`.
-/

namespace TableFilter

open Json (Value)

/-- Whether a fault is one of a given branch. -/
def SpecFault.IsOf (branch : String) : SpecFault → Prop
  | .noScalar name | .notTrue name | .unknownBranch name => name = branch
  | .noPattern => branch = "regex"
  | .severalBranches _ | .noBranch => False

namespace Filter.Spec

/-! ## The grammar -/

/-- The two ends of a range. -/
def rangeEnds : List String :=
  ["gte", "lte"]

/-- What an object may hold that has one branch and is no range. -/
inductive IsBranch : String → Value → Prop where
  | scalar {branch : String} {value : Value} (hbranch : branch ∈ ["contains", "gt", "lt"])
      (hscalar : value.isScalar = true) : IsBranch branch value
  | pattern (pattern : String) : IsBranch "regex" (.string pattern)
  | flag {branch : String} (hbranch : branch ∈ ["not_empty", "empty"]) :
      IsBranch branch (.bool true)
  | excluded {value : Value} (hscalar : value.isScalar = true) : IsBranch "not_in" value
  | excludedList {values : List Value} (hscalar : ∀ value ∈ values, value.isScalar = true) :
      IsBranch "not_in" (.array values)

/-- The values that are transport forms. A range may lack its ends, and null is a scalar. -/
inductive IsTransportForm : Value → Prop where
  | scalar {value : Value} (hscalar : value.isScalar = true) : IsTransportForm value
  | list {values : List Value} (hscalar : ∀ value ∈ values, value.isScalar = true) :
      IsTransportForm (.array values)
  | range {members : List (String × Value)}
      (hends : ∀ branch value, Entries.get? branch members = some value →
        branch ∈ rangeEnds ∧ value.isScalar = true) :
      IsTransportForm (.object members)
  | branch {branch : String} {value : Value} (hbranch : IsBranch branch value) :
      IsTransportForm (.object [(branch, value)])

/-! ## Normal forms -/

/-- The member of an end of a range, if the end is there and not null. -/
def heldEnd (members : List (String × Value)) (branch : String) : List (String × Value) :=
  match Entries.get? branch members with
  | none | some .null => []
  | some value => [(branch, value)]

/-- A value as a list: a scalar by itself is a list of one. -/
def listed (value : Value) : Value :=
  if value.isScalar then .array [value] else value

/-- A member that is no end of a range. What is excluded is a list. -/
def normalMember : String × Value → String × Value
  | (branch, value) => (branch, if branch = "not_in" then listed value else value)

/-- A transport form without the ends that are null, the lower end before the upper one and what is
excluded as a list. -/
def normalForm : Value → Value
  | .object members =>
    .object (heldEnd members "gte" ++ heldEnd members "lte" ++
      (members.filter (·.1 ∉ rangeEnds)).map normalMember)
  | value => value

theorem isRange_iff (members : List (String × Value)) :
    isRange members = true ↔ ∀ branch ∈ Entries.keys members, branch ∈ rangeEnds := by
  simp [isRange, rangeEnds, Entries.keys]

theorem isRange_singleton_iff (branch : String) (value : Value) :
    isRange [(branch, value)] = true ↔ branch ∈ rangeEnds := by
  simp [isRange_iff, Entries.keys]

theorem normalForm_range {members : List (String × Value)} (hrange : isRange members = true) :
    normalForm (.object members) = .object (heldEnd members "gte" ++ heldEnd members "lte") := by
  have hfilter : members.filter (·.1 ∉ rangeEnds) = [] := by
    rw [isRange_iff, Entries.keys, List.forall_mem_map] at hrange
    simpa [List.filter_eq_nil_iff] using hrange
  rw [normalForm, hfilter, List.map_nil, List.append_nil]

theorem normalForm_branch {branch : String} {value : Value}
    (hbranch : branch ∉ rangeEnds) :
    normalForm (.object [(branch, value)]) = .object [normalMember (branch, value)] := by
  have hgte : ¬ branch = "gte" := fun heq => hbranch (heq ▸ by decide)
  have hlte : ¬ branch = "lte" := fun heq => hbranch (heq ▸ by decide)
  simp [normalForm, heldEnd, Entries.get?, hgte, hlte, hbranch]

/-! ## Parts of branches -/

theorem branchList_of_isScalar (branch : String) {value : Value}
    (hscalar : value.isScalar = true) :
    branchList branch value = branchScalars branch [value] := by
  obtain ⟨v, rfl⟩ := Scalar.exists_toValue_eq hscalar
  cases v <;> rfl

theorem branchList_eq_ok_iff (branch : String) (value : Value) (items : List Scalar) :
    branchList branch value = .ok items ↔ listValue items = listed value := by
  by_cases hscalar : value.isScalar = true
  · rw [branchList_of_isScalar branch hscalar, branchScalars_eq_ok_iff, listed, if_pos hscalar,
      listValue, Value.array.injEq]
  · rw [listed, if_neg hscalar]
    cases value with
    | array values =>
      rw [listValue, Value.array.injEq]
      exact branchScalars_eq_ok_iff branch values items
    | object members => simp [branchList, branchScalar, Scalar.ofValue?, Except.map, listValue]
    | _ => exact absurd rfl hscalar

theorem branchFlag_eq_ok_iff (branch : String) (value : Value) :
    branchFlag branch value = .ok () ↔ value = .bool true := by
  unfold branchFlag
  split
  next => simp
  next hne => exact ⟨nofun, fun heq => absurd heq hne⟩

theorem branchPattern_eq_ok_iff (value : Value) (pattern : String) :
    branchPattern value = .ok pattern ↔ value = .string pattern := by
  cases value <;> simp [branchPattern]

theorem boundMember_eq_singleton_iff (branch : String) (bound : Option Scalar) (value : Value) :
    boundMember branch bound = [(branch, value)] ↔ ∃ v, bound = some v ∧ v.toValue = value := by
  cases bound <;> simp [boundMember]

theorem branchBound_eq_ok_iff (members : List (String × Value)) (branch : String)
    (bound : Option Scalar) :
    branchBound members branch = .ok bound ↔
      boundMember branch bound = heldEnd members branch ∧ bound ≠ some .null := by
  have hmissing : (Except.ok none : Except SpecFault (Option Scalar)) = .ok bound ↔
      boundMember branch bound = [] ∧ bound ≠ some .null := by
    cases bound <;> simp [boundMember]
  have hpresent {value : Value} (hnull : value ≠ .null) :
      (branchScalar branch value).map some = .ok bound ↔
        boundMember branch bound = [(branch, value)] ∧ bound ≠ some .null := by
    rw [boundMember_eq_singleton_iff]
    constructor
    · intro hread
      obtain ⟨v, hv, rfl⟩ := exists_of_map_eq_ok hread
      rw [branchScalar_eq_ok_iff] at hv
      refine ⟨⟨v, rfl, hv⟩, ?_⟩
      rintro ⟨⟩
      exact hnull hv.symm
    · rintro ⟨⟨v, rfl, rfl⟩, -⟩
      rw [branchScalar_toValue]
      rfl
  unfold branchBound heldEnd
  rcases Entries.get? branch members with _ | value
  · exact hmissing
  · cases value with
    | null => exact hmissing
    | _ => exact hpresent nofun

/-- An end of a range can be read if it is missing or a scalar. -/
theorem exists_branchBound_iff (members : List (String × Value)) (branch : String) :
    (∃ bound, branchBound members branch = .ok bound) ↔
      ∀ value, Entries.get? branch members = some value → value.isScalar = true := by
  constructor
  · rintro ⟨bound, hread⟩ value hget
    rw [branchBound, hget] at hread
    cases value with
    | array values => cases hread
    | object others => cases hread
    | _ => rfl
  · intro hscalar
    rcases hget : Entries.get? branch members with _ | value
    · exact ⟨settledEnd none, branchBound_of_get? hget⟩
    · obtain ⟨v, rfl⟩ := Scalar.exists_toValue_eq (hscalar value hget)
      exact ⟨settledEnd (some v), branchBound_of_get? hget⟩

/-! ## Branches -/

theorem of_scalarBranch {branch : String} {value : Value} {f : Scalar → Spec} {spec : Spec}
    (hbranch : branch ∈ ["contains", "gt", "lt"])
    (hwrite : ∀ v, (f v).toValue = .object [(branch, v.toValue)])
    (hread : (branchScalar branch value).map f = .ok spec) :
    IsBranch branch value ∧ spec.toValue = .object [normalMember (branch, value)] := by
  obtain ⟨v, hv, rfl⟩ := exists_of_map_eq_ok hread
  rw [branchScalar_eq_ok_iff] at hv
  subst hv
  have hne : ∀ name ∈ ["contains", "gt", "lt"], name ≠ "not_in" := by decide
  refine ⟨.scalar hbranch v.isScalar_toValue, ?_⟩
  rw [hwrite, normalMember, if_neg (hne branch hbranch)]

theorem of_flagBranch {branch : String} {value : Value} {spec written : Spec}
    (hbranch : branch ∈ ["not_empty", "empty"])
    (hwrite : written.toValue = .object [(branch, .bool true)])
    (hread : ((branchFlag branch value).map fun _ => written) = .ok spec) :
    IsBranch branch value ∧ spec.toValue = .object [normalMember (branch, value)] := by
  obtain ⟨_, hflag, rfl⟩ := exists_of_map_eq_ok hread
  rw [branchFlag_eq_ok_iff] at hflag
  subst hflag
  have hne : ∀ name ∈ ["not_empty", "empty"], name ≠ "not_in" := by decide
  refine ⟨.flag hbranch, ?_⟩
  rw [hwrite, normalMember, if_neg (hne branch hbranch)]

theorem isBranch_of_listValue_eq_listed {value : Value} {items : List Scalar}
    (hitems : listValue items = listed value) : IsBranch "not_in" value := by
  by_cases hscalar : value.isScalar = true
  · exact .excluded hscalar
  · rw [listed, if_neg hscalar] at hitems
    subst hitems
    apply IsBranch.excludedList
    simp [Scalar.isScalar_toValue]

/-- What is read of a branch is in the grammar, and is written in normal form. -/
theorem of_ofBranch {branch : String} {value : Value} {spec : Spec}
    (hread : ofBranch branch value = .ok spec) :
    IsBranch branch value ∧ spec.toValue = .object [normalMember (branch, value)] := by
  unfold ofBranch at hread
  split_ifs at hread with hcontains hregex hnotEmpty hempty hnotIn hgt hlt
  · subst hcontains
    exact of_scalarBranch (by decide) (fun _ => rfl) hread
  · obtain ⟨pattern, hpattern, rfl⟩ := exists_of_map_eq_ok hread
    rw [branchPattern_eq_ok_iff] at hpattern
    subst hregex hpattern
    exact ⟨.pattern pattern, rfl⟩
  · subst hnotEmpty
    exact of_flagBranch (by decide) rfl hread
  · subst hempty
    exact of_flagBranch (by decide) rfl hread
  · obtain ⟨items, hitems, rfl⟩ := exists_of_map_eq_ok hread
    rw [branchList_eq_ok_iff] at hitems
    subst hnotIn
    refine ⟨isBranch_of_listValue_eq_listed hitems, ?_⟩
    rw [toValue, hitems]
    rfl
  · subst hgt
    exact of_scalarBranch (by decide) (fun _ => rfl) hread
  · subst hlt
    exact of_scalarBranch (by decide) (fun _ => rfl) hread

theorem exists_ofBranch {branch : String} {value : Value} (hbranch : IsBranch branch value) :
    ∃ spec, ofBranch branch value = .ok spec := by
  cases hbranch with
  | scalar hbranch hscalar =>
    obtain ⟨v, rfl⟩ := Scalar.exists_toValue_eq hscalar
    simp only [List.mem_cons, List.not_mem_nil, or_false] at hbranch
    rcases hbranch with rfl | rfl | rfl
    · exact ⟨.contains v, by simp [ofBranch, Except.map]⟩
    · exact ⟨.gt v, by simp [ofBranch, Except.map]⟩
    · exact ⟨.lt v, by simp [ofBranch, Except.map]⟩
  | pattern pattern => exact ⟨.regex pattern, rfl⟩
  | flag hbranch =>
    simp only [List.mem_cons, List.not_mem_nil, or_false] at hbranch
    rcases hbranch with rfl | rfl
    · exact ⟨.notEmpty, rfl⟩
    · exact ⟨.empty, rfl⟩
  | excluded hscalar =>
    obtain ⟨v, rfl⟩ := Scalar.exists_toValue_eq hscalar
    have hlist : branchList "not_in" v.toValue = .ok [v] := by
      rw [branchList_eq_ok_iff, listed, if_pos v.isScalar_toValue]
      rfl
    exact ⟨.notIn [v], by simp [ofBranch, hlist, Except.map]⟩
  | excludedList hscalar =>
    obtain ⟨items, rfl⟩ := Scalar.exists_map_toValue_eq hscalar
    exact ⟨.notIn items, ofValue?_toValue (.notIn items)⟩

/-! ## Ranges -/

theorem rangeEnds_of_bounds {members : List (String × Value)} (hrange : isRange members = true)
    (hgte : ∃ bound, branchBound members "gte" = .ok bound)
    (hlte : ∃ bound, branchBound members "lte" = .ok bound) (branch : String) (value : Value)
    (hget : Entries.get? branch members = some value) :
    branch ∈ rangeEnds ∧ value.isScalar = true := by
  have hend : branch ∈ rangeEnds := (isRange_iff members).mp hrange branch
    ((Entries.mem_keys_iff_exists_get? branch members).mpr ⟨value, hget⟩)
  refine ⟨hend, ?_⟩
  simp only [rangeEnds, List.mem_cons, List.not_mem_nil, or_false] at hend
  rcases hend with rfl | rfl
  · exact (exists_branchBound_iff members "gte").mp hgte value hget
  · exact (exists_branchBound_iff members "lte").mp hlte value hget

theorem exists_range {members : List (String × Value)}
    (hends : ∀ branch value, Entries.get? branch members = some value →
      branch ∈ rangeEnds ∧ value.isScalar = true) :
    ∃ spec, ofValue? (.object members) = .ok spec := by
  have hrange : isRange members = true := by
    rw [isRange_iff]
    intro branch hmem
    obtain ⟨value, hget⟩ := (Entries.mem_keys_iff_exists_get? branch members).mp hmem
    exact (hends branch value hget).1
  have hbound (branch : String) : ∃ bound, branchBound members branch = .ok bound :=
    (exists_branchBound_iff members branch).mpr fun value hget => (hends branch value hget).2
  obtain ⟨gte, hgte⟩ := hbound "gte"
  obtain ⟨lte, hlte⟩ := hbound "lte"
  refine ⟨.range gte lte, ?_⟩
  simp only [ofValue?, hrange, if_true, hgte, hlte]
  rfl

/-! ## Whole forms -/

/-- What is read is in the grammar, and is written in normal form. -/
theorem of_ofValue? {value : Value} {spec : Spec} (hread : ofValue? value = .ok spec) :
    IsTransportForm value ∧ spec.toValue = normalForm value := by
  unfold ofValue? at hread
  split at hread
  next values =>
    obtain ⟨items, hitems, rfl⟩ := exists_of_map_eq_ok hread
    rw [branchScalars_eq_ok_iff] at hitems
    subst hitems
    exact ⟨.list (by simp [Scalar.isScalar_toValue]), rfl⟩
  next members =>
    split at hread
    next hrange =>
      obtain ⟨gte, hgte, hread⟩ := exists_of_bind_eq_ok hread
      obtain ⟨lte, hlte, hread⟩ := exists_of_bind_eq_ok hread
      cases hread
      rw [normalForm_range hrange, toValue, ((branchBound_eq_ok_iff _ _ _).mp hgte).1,
        ((branchBound_eq_ok_iff _ _ _).mp hlte).1]
      exact ⟨.range (rangeEnds_of_bounds hrange ⟨gte, hgte⟩ ⟨lte, hlte⟩), rfl⟩
    next hrange =>
      split at hread
      · cases hread
      · obtain ⟨hbranch, hwrite⟩ := of_ofBranch hread
        rw [isRange_singleton_iff] at hrange
        exact ⟨.branch hbranch, hwrite.trans (normalForm_branch hrange).symm⟩
      · cases hread
  next harray hobject =>
    obtain ⟨v, hv, rfl⟩ := exists_of_map_eq_ok hread
    rw [branchScalar_eq_ok_iff] at hv
    subst hv
    refine ⟨.scalar v.isScalar_toValue, ?_⟩
    cases v <;> rfl

theorem IsBranch.not_mem_rangeEnds {branch : String} {value : Value}
    (hbranch : IsBranch branch value) : branch ∉ rangeEnds := by
  have hscalars : ∀ name ∈ ["contains", "gt", "lt"], name ∉ rangeEnds := by decide
  have hflags : ∀ name ∈ ["not_empty", "empty"], name ∉ rangeEnds := by decide
  cases hbranch with
  | scalar hname => exact hscalars branch hname
  | pattern => decide
  | flag hname => exact hflags branch hname
  | excluded => decide
  | excludedList => decide

theorem exists_ofValue? {value : Value} (hform : IsTransportForm value) :
    ∃ spec, ofValue? value = .ok spec := by
  cases hform with
  | scalar hscalar =>
    obtain ⟨v, rfl⟩ := Scalar.exists_toValue_eq hscalar
    exact ⟨_, ofValue?_toValue (.eq v)⟩
  | list hscalar =>
    obtain ⟨items, rfl⟩ := Scalar.exists_map_toValue_eq hscalar
    exact ⟨_, ofValue?_toValue (.isIn items)⟩
  | range hends => exact exists_range hends
  | branch hbranch =>
    obtain ⟨spec, hread⟩ := exists_ofBranch hbranch
    refine ⟨spec, ?_⟩
    rw [ofValue?, if_neg ((isRange_singleton_iff _ _).not.mpr hbranch.not_mem_rangeEnds)]
    exact hread

/-! ## Faults -/

section Faults

variable {branch : String} {fault : SpecFault}

theorem isOf_of_branchScalar {value : Value} (hread : branchScalar branch value = .error fault) :
    fault.IsOf branch := by
  unfold branchScalar at hread
  split at hread
  next => cases hread
  next =>
    cases hread
    rfl

theorem isOf_of_branchScalars {values : List Value}
    (hread : branchScalars branch values = .error fault) : fault.IsOf branch := by
  rw [branchScalars_eq_mapM] at hread
  obtain ⟨value, -, hfault⟩ := exists_mem_of_mapM_eq_error hread
  exact isOf_of_branchScalar hfault

theorem isOf_of_branchList {value : Value} (hread : branchList branch value = .error fault) :
    fault.IsOf branch := by
  unfold branchList at hread
  split at hread
  · exact isOf_of_branchScalars hread
  · exact isOf_of_branchScalar (eq_error_of_map_eq_error hread)

theorem isOf_of_branchFlag {value : Value} (hread : branchFlag branch value = .error fault) :
    fault.IsOf branch := by
  unfold branchFlag at hread
  split at hread
  next => cases hread
  next =>
    cases hread
    rfl

theorem isOf_of_branchPattern {value : Value} (hread : branchPattern value = .error fault) :
    fault.IsOf "regex" := by
  unfold branchPattern at hread
  split at hread
  next => cases hread
  next =>
    cases hread
    rfl

theorem isOf_of_branchBound {members : List (String × Value)}
    (hread : branchBound members branch = .error fault) : fault.IsOf branch := by
  unfold branchBound at hread
  split at hread
  · cases hread
  · cases hread
  · exact isOf_of_branchScalar (eq_error_of_map_eq_error hread)

/-- What is wrong with the one branch of an object names the branch. -/
theorem isOf_of_ofBranch {value : Value} (hread : ofBranch branch value = .error fault) :
    fault.IsOf branch := by
  unfold ofBranch at hread
  split_ifs at hread with hcontains hregex
  · exact isOf_of_branchScalar (eq_error_of_map_eq_error hread)
  · subst hregex
    exact isOf_of_branchPattern (eq_error_of_map_eq_error hread)
  · exact isOf_of_branchFlag (eq_error_of_map_eq_error hread)
  · exact isOf_of_branchFlag (eq_error_of_map_eq_error hread)
  · exact isOf_of_branchList (eq_error_of_map_eq_error hread)
  · exact isOf_of_branchScalar (eq_error_of_map_eq_error hread)
  · exact isOf_of_branchScalar (eq_error_of_map_eq_error hread)
  · cases hread
    rfl

/-- What is wrong with a value names one branch, or else the several branches of an object. -/
theorem isOf_of_ofValue? {value : Value} (hread : ofValue? value = .error fault) :
    (∃ branch, fault.IsOf branch) ∨ ∃ branches, fault = .severalBranches branches := by
  unfold ofValue? at hread
  split at hread
  next => exact .inl ⟨_, isOf_of_branchScalars (eq_error_of_map_eq_error hread)⟩
  next members =>
    split at hread
    next =>
      rcases eq_error_of_bind_eq_error hread with hgte | ⟨gte, -, hread⟩
      · exact .inl ⟨_, isOf_of_branchBound hgte⟩
      · rcases eq_error_of_bind_eq_error hread with hlte | ⟨lte, -, hread⟩
        · exact .inl ⟨_, isOf_of_branchBound hlte⟩
        · cases hread
    next hrange =>
      split at hread
      · exact absurd rfl hrange
      · exact .inl ⟨_, isOf_of_ofBranch hread⟩
      · cases hread
        exact .inr ⟨_, rfl⟩
  next => exact .inl ⟨_, isOf_of_branchScalar (eq_error_of_map_eq_error hread)⟩

theorem ne_noBranch_of_ofValue? {value : Value} (hread : ofValue? value = .error fault) :
    fault ≠ .noBranch := by
  rcases isOf_of_ofValue? hread with ⟨branch, hfault⟩ | ⟨branches, rfl⟩
  · rintro rfl
    exact hfault
  · nofun

end Faults

theorem ofValue_eq_ok_iff (value : Value) (spec : Spec) :
    ofValue value = .ok spec ↔ ofValue? value = .ok spec := by
  rw [ofValue]
  split
  next hread => simp [hread]
  next hread => simp [hread]

/-- Exactly the values of the grammar are read. What is read is written in normal form, and that is
read as the same again. No object is refused for having no branch: it is a range without ends. -/
theorem transport_forms_are_read (value : Value) :
    ((∃ spec, ofValue value = .ok spec) ↔ IsTransportForm value) ∧
    (∀ spec, ofValue value = .ok spec →
      spec.toValue = normalForm value ∧ ofValue spec.toValue = .ok spec) ∧
    ofValue value ≠ .error (.badSpec .noBranch) := by
  refine ⟨⟨?_, ?_⟩, ?_, ?_⟩
  · rintro ⟨spec, hread⟩
    rw [ofValue_eq_ok_iff] at hread
    exact (of_ofValue? hread).1
  · intro hform
    obtain ⟨spec, hread⟩ := exists_ofValue? hform
    exact ⟨spec, (ofValue_eq_ok_iff value spec).mpr hread⟩
  · intro spec hread
    have hsettled : spec.settled = spec :=
      (settled_eq_self_iff spec).mpr (hasNullEnd_of_ofValue hread)
    rw [ofValue_eq_ok_iff] at hread
    exact ⟨(of_ofValue? hread).2, by rw [ofValue_toValue, hsettled]⟩
  · intro hread
    rw [ofValue] at hread
    split at hread
    next => cases hread
    next hfault =>
      cases hread
      exact ne_noBranch_of_ofValue? hfault rfl

/-- The ends of a range in the other order. -/
theorem upper_end_before_lower_end_is_read :
    ofValue (.object [("lte", .number (.ofWord 9)), ("gte", .number (.ofWord 1))]) =
        .ok (.range (some (.number (.ofWord 1))) (some (.number (.ofWord 9)))) ∧
      toValue (.range (some (.number (.ofWord 1))) (some (.number (.ofWord 9)))) =
        normalForm (.object [("lte", .number (.ofWord 9)), ("gte", .number (.ofWord 1))]) ∧
      ofValue (toValue (.range (some (.number (.ofWord 1))) (some (.number (.ofWord 9))))) =
        .ok (.range (some (.number (.ofWord 1))) (some (.number (.ofWord 9)))) := by
  have hread :
      ofValue (.object [("lte", .number (.ofWord 9)), ("gte", .number (.ofWord 1))]) =
        .ok (.range (some (.number (.ofWord 1))) (some (.number (.ofWord 9)))) := rfl
  exact ⟨hread, (transport_forms_are_read _).2.1 _ hread⟩

example : normalForm (.object [("lte", .number (.ofWord 9)), ("gte", .null)]) =
    .object [("lte", .number (.ofWord 9))] := rfl

end Filter.Spec

end TableFilter
