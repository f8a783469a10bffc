import TableFilter.Proofs.Operator
import TableFilter.Proofs.Scalar

/-!
# Values of operators

Which values come with the name of an operator, and what of a value the operator keeps. Main
statement: a value is taken exactly if it is one for the name, nothing of it is lost that the name
asks for, and a value that is not taken is refused with the column and the name,
`names_take_their_values`.
-/

namespace TableFilter

open Json (Value)

/-! ## What is kept of a value -/

/-- Whether an operand is a value: the scalar, or the scalars of the array in order. -/
def Operand.Keeps (value : Value) : Operand → Prop
  | .scalar v => v.toValue = value
  | .list items => .array (items.map Scalar.toValue) = value

namespace Operator

/-- Whether a list is what a value lists: the scalars of the array in order, or the scalar by
itself. -/
def IsListOf (value : Value) (items : List Scalar) : Prop :=
  .array (items.map Scalar.toValue) = value ∨ ∃ v : Scalar, v.toValue = value ∧ [v] = items

/-- Whether an end of a range is the one that a value gives under a name: the member of an object,
if it is a scalar other than null. -/
def IsEndOf (value : Value) (key : String) (bound : Option Scalar) : Prop :=
  ∀ v, bound = some v ↔
    v ≠ .null ∧ ∃ members, value = .object members ∧ Entries.get? key members = some v.toValue

/-- Whether an operator has kept what it needs of a value. One that is not known has none of the
names that are. -/
def Keeps (value : Value) : Operator → Prop
  | .equals v | .greaterThan v | .lessThan v => v.toValue = value
  | .contains v | .startsWith v | .endsWith v => v.toValue = value ∧ v ≠ .null
  | .notEmpty | .empty => True
  | .isIn items | .notIn items => IsListOf value items
  | .between bounds => IsEndOf value "min" bounds.min ∧ IsEndOf value "max" bounds.max
  | .unknown name operand => name ∉ knownNames ∧ operand.Keeps value

variable {name : String} {value : Value} {o : Operator}

theorem scalarOf_eq_ok_iff {v : Scalar} : scalarOf value = .ok v ↔ v.toValue = value := by
  rw [← Scalar.ofValue?_eq_some_iff, scalarOf]
  split
  next hof => simp [hof]
  next hof => simp [hof]

theorem textOf_eq_ok_iff {v : Scalar} : textOf value = .ok v ↔ v.toValue = value ∧ v ≠ .null := by
  rw [← scalarOf_eq_ok_iff, textOf]
  constructor
  · intro hread
    obtain ⟨s, hs, hread⟩ := exists_of_bind_eq_ok hread
    cases s with
    | null => cases hread
    | _ =>
      cases hread
      exact ⟨hs, nofun⟩
  · rintro ⟨hscalar, hnull⟩
    rw [hscalar]
    cases v with
    | null => exact absurd rfl hnull
    | _ => rfl

theorem scalarsOf_eq_mapM (values : List Value) : scalarsOf values = values.mapM scalarOf := by
  induction values with
  | nil => rfl
  | cons value rest ih => rw [scalarsOf, ih, List.mapM_cons]

theorem scalarsOf_eq_ok_iff {values : List Value} {items : List Scalar} :
    scalarsOf values = .ok items ↔ items.map Scalar.toValue = values := by
  rw [scalarsOf_eq_mapM, mapM_eq_ok_iff_map_eq fun _ _ => scalarOf_eq_ok_iff]

theorem listOf_eq_ok_iff {items : List Scalar} :
    listOf value = .ok items ↔ IsListOf value items := by
  cases value with
  | array values => simp [listOf, IsListOf, scalarsOf_eq_ok_iff]
  | _ => simp [listOf, IsListOf, map_eq_ok_iff, scalarOf_eq_ok_iff]

theorem operandOf_eq_ok_iff {operand : Operand} :
    operandOf value = .ok operand ↔ operand.Keeps value := by
  cases value with
  | array values =>
    cases operand <;> simp [operandOf, Operand.Keeps, map_eq_ok_iff, scalarsOf_eq_ok_iff]
  | object members => cases operand <;> simp [operandOf, Operand.Keeps]
  | _ => cases operand <;> simp [operandOf, Operand.Keeps, map_eq_ok_iff, scalarOf_eq_ok_iff]

theorem boundOf_eq_some_iff {members : List (String × Value)} {key : String} {v : Scalar} :
    boundOf members key = some v ↔ v ≠ .null ∧ Entries.get? key members = some v.toValue := by
  simp [boundOf, Option.filter_eq_some_iff, Option.bind_eq_some_iff, Scalar.ofValue?_eq_some_iff,
    Scalar.isNull_eq_false_iff, and_comm]

theorem boundsOf_eq_iff {bounds : Bounds} :
    boundsOf value = bounds ↔ IsEndOf value "min" bounds.min ∧ IsEndOf value "max" bounds.max := by
  have hends : IsEndOf value "min" (boundsOf value).min ∧
      IsEndOf value "max" (boundsOf value).max := by
    cases value with
    | object members => simp [IsEndOf, boundsOf, boundOf_eq_some_iff]
    | _ => simp [IsEndOf, boundsOf]
  constructor
  · rintro rfl
    exact hends
  · rintro ⟨hmin, hmax⟩
    obtain ⟨min, max⟩ := bounds
    rw [Bounds.mk.injEq]
    exact ⟨Option.ext fun v => (hends.1 v).trans (hmin v).symm,
      Option.ext fun v => (hends.2 v).trans (hmax v).symm⟩

/-! ## What is read -/

/-- What is wrong with a value that does not come with a name. Null is a scalar, so it is refused
only for a text. -/
def refusal (name : String) : Value → ValueFault
  | .null => .isNull
  | .object _ => if name ∈ knownNames then .noScalar else .noScalarOrArray
  | _ => .noScalar

/-- What may become of a name and a value: an operator of the name that has kept what it needs of
the value, or a refusal. -/
inductive IsReading (name : String) (value : Value) : Except ValueFault Operator → Prop where
  | ok {o : Operator} (hname : o.name = name) (hkeeps : o.Keeps value) :
      IsReading name value (.ok o)
  | error : IsReading name value (.error (refusal name value))

theorem refusal_of_scalarOf (hname : name ∈ knownNames) {fault : ValueFault}
    (hread : scalarOf value = .error fault) : fault = refusal name value := by
  cases value with
  | array values =>
    cases hread
    rfl
  | object members =>
    cases hread
    rw [refusal, if_pos hname]
  | _ => cases hread

theorem refusal_of_textOf (hname : name ∈ knownNames) {fault : ValueFault}
    (hread : textOf value = .error fault) : fault = refusal name value := by
  rcases eq_error_of_bind_eq_error hread with hscalar | ⟨v, hv, hnull⟩
  · exact refusal_of_scalarOf hname hscalar
  · cases v with
    | null =>
      cases hnull
      rw [← scalarOf_eq_ok_iff.mp hv]
      rfl
    | _ => cases hnull

theorem eq_noScalar_of_scalarOf {fault : ValueFault} (hread : scalarOf value = .error fault) :
    fault = .noScalar := by
  cases value <;> cases hread <;> rfl

theorem eq_noScalar_of_scalarsOf {values : List Value} {fault : ValueFault}
    (hread : scalarsOf values = .error fault) : fault = .noScalar := by
  rw [scalarsOf_eq_mapM] at hread
  obtain ⟨value, -, hfault⟩ := exists_mem_of_mapM_eq_error hread
  exact eq_noScalar_of_scalarOf hfault

theorem refusal_of_listOf (hname : name ∈ knownNames) {fault : ValueFault}
    (hread : listOf value = .error fault) : fault = refusal name value := by
  cases value with
  | array values => exact eq_noScalar_of_scalarsOf hread
  | object members =>
    cases hread
    rw [refusal, if_pos hname]
  | _ => cases hread

theorem refusal_of_operandOf (hname : name ∉ knownNames) {fault : ValueFault}
    (hread : operandOf value = .error fault) : fault = refusal name value := by
  cases value with
  | array values => exact eq_noScalar_of_scalarsOf (eq_error_of_map_eq_error hread)
  | object members =>
    cases hread
    rw [refusal, if_neg hname]
  | _ => cases hread

/-- A part of a value that is read with a name, or refused as the value is. -/
theorem IsReading.map {α : Type} {x : Except ValueFault α} {f : α → Operator}
    (hname : ∀ a, (f a).name = name) (hkeeps : ∀ a, x = .ok a → (f a).Keeps value)
    (hrefusal : ∀ fault, x = .error fault → fault = refusal name value) :
    IsReading name value (x.map f) := by
  cases x with
  | error fault =>
    obtain rfl := hrefusal fault rfl
    exact .error
  | ok a => exact .ok (hname a) (hkeeps a rfl)

theorem isReading (name : String) (value : Value) :
    IsReading name value (ofNameAndValue name value) := by
  unfold ofNameAndValue
  -- one case for each name in the order in which they are tried, and one where it is none of them
  refine iteInduction ?equals fun _ => iteInduction ?contains fun _ => iteInduction ?startsWith
    fun _ => iteInduction ?endsWith fun _ => iteInduction ?notEmpty fun _ => iteInduction ?empty
    fun _ => iteInduction ?isIn fun _ => iteInduction ?notIn fun _ => iteInduction ?greaterThan
    fun _ => iteInduction ?lessThan fun _ => iteInduction ?between fun _ => ?unknown
  case equals | greaterThan | lessThan =>
    rintro rfl
    exact .map (fun _ => rfl) (fun _ => scalarOf_eq_ok_iff.mp)
      fun _ => refusal_of_scalarOf (by decide)
  case contains | startsWith | endsWith =>
    rintro rfl
    exact .map (fun _ => rfl) (fun _ => textOf_eq_ok_iff.mp) fun _ => refusal_of_textOf (by decide)
  case notEmpty | empty =>
    rintro rfl
    exact .ok rfl trivial
  case isIn | notIn =>
    rintro rfl
    exact .map (fun _ => rfl) (fun _ => listOf_eq_ok_iff.mp) fun _ => refusal_of_listOf (by decide)
  case between =>
    rintro rfl
    exact .ok rfl (boundsOf_eq_iff.mp rfl)
  case unknown =>
    have hname : name ∉ knownNames := by simp [knownNames, *]
    exact .map (fun _ => rfl) (fun _ hread => ⟨hname, operandOf_eq_ok_iff.mp hread⟩)
      fun _ => refusal_of_operandOf hname

theorem ofNameAndValue_name (hkeeps : o.Keeps value) : ofNameAndValue o.name value = .ok o := by
  cases o with
  | equals v | greaterThan v | lessThan v =>
    simp [name, ofNameAndValue, scalarOf_eq_ok_iff.mpr hkeeps, Except.map]
  | contains v | startsWith v | endsWith v =>
    simp [name, ofNameAndValue, textOf_eq_ok_iff.mpr hkeeps, Except.map]
  | notEmpty | empty => simp [name, ofNameAndValue]
  | isIn items | notIn items =>
    simp [name, ofNameAndValue, listOf_eq_ok_iff.mpr hkeeps, Except.map]
  | between bounds => simp [name, ofNameAndValue, boundsOf_eq_iff.mpr hkeeps]
  | unknown name operand =>
    rw [Operator.name, ofNameAndValue_of_not_mem_knownNames hkeeps.1,
      operandOf_eq_ok_iff.mpr hkeeps.2]
    rfl

theorem ofParts_eq_ok_iff_keeps (column : String) :
    ofParts column name value = .ok o ↔ o.name = name ∧ o.Keeps value := by
  rw [ofParts_eq_ok_iff]
  constructor
  · intro hread
    have hreading := isReading name value
    rw [hread] at hreading
    cases hreading with
    | ok hname hkeeps => exact ⟨hname, hkeeps⟩
  · rintro ⟨rfl, hkeeps⟩
    exact ofNameAndValue_name hkeeps

/-! ## Which values are taken -/

/-- Whether a value is a scalar or an array of scalars. -/
def IsListing (value : Value) : Prop :=
  value.isScalar = true ∨ ∃ values, value = .array values ∧ ∀ v ∈ values, v.isScalar = true

/-- The values that come with a name. Null is a scalar, and a range without ends is written as any
value. -/
inductive Takes : String → Value → Prop where
  | scalar {name : String} {value : Value} (hname : name ∈ ["equals", "greater_than", "less_than"])
      (hscalar : value.isScalar = true) : Takes name value
  | text {name : String} {value : Value} (hname : name ∈ ["contains", "starts_with", "ends_with"])
      (hscalar : value.isScalar = true) (hnull : value ≠ .null) : Takes name value
  | list {name : String} {value : Value} (hname : name ∈ ["in", "not_in"])
      (hlisting : IsListing value) : Takes name value
  | any {name : String} {value : Value} (hname : name ∈ ["not_empty", "empty", "between"]) :
      Takes name value
  | unknown {name : String} {value : Value} (hname : name ∉ knownNames)
      (hlisting : IsListing value) : Takes name value

theorem IsListOf.isListing {items : List Scalar} (hlist : IsListOf value items) :
    IsListing value := by
  rcases hlist with rfl | ⟨v, rfl, -⟩
  · exact .inr ⟨_, rfl, by simp [Scalar.isScalar_toValue]⟩
  · exact .inl v.isScalar_toValue

theorem IsListing.exists_isListOf (hlisting : IsListing value) :
    ∃ items, IsListOf value items := by
  rcases hlisting with hscalar | ⟨values, rfl, hscalar⟩
  · obtain ⟨v, hv⟩ := Scalar.exists_toValue_eq hscalar
    exact ⟨[v], .inr ⟨v, hv, rfl⟩⟩
  · obtain ⟨items, rfl⟩ := Scalar.exists_map_toValue_eq hscalar
    exact ⟨items, .inl rfl⟩

theorem takes_name (hkeeps : o.Keeps value) : Takes o.name value := by
  cases o with
  | equals v | greaterThan v | lessThan v =>
    obtain rfl := hkeeps
    exact .scalar (by simp [Operator.name]) v.isScalar_toValue
  | contains v | startsWith v | endsWith v =>
    obtain ⟨rfl, hnull⟩ := hkeeps
    refine .text (by simp [Operator.name]) v.isScalar_toValue ?_
    cases v with
    | null => exact absurd rfl hnull
    | _ => nofun
  | notEmpty | empty | between bounds => exact .any (by simp [Operator.name])
  | isIn items | notIn items => exact .list (by simp [Operator.name]) hkeeps.isListing
  | unknown name operand =>
    refine .unknown hkeeps.1 ?_
    cases operand with
    | scalar v =>
      obtain rfl := hkeeps.2
      exact .inl v.isScalar_toValue
    | list items => exact IsListOf.isListing (.inl hkeeps.2)

theorem Takes.exists_keeps (htakes : Takes name value) :
    ∃ o : Operator, o.name = name ∧ o.Keeps value := by
  cases htakes with
  | scalar hname hscalar =>
    obtain ⟨v, hv⟩ := Scalar.exists_toValue_eq hscalar
    simp only [List.mem_cons, List.not_mem_nil, or_false] at hname
    rcases hname with rfl | rfl | rfl
    · exact ⟨.equals v, rfl, hv⟩
    · exact ⟨.greaterThan v, rfl, hv⟩
    · exact ⟨.lessThan v, rfl, hv⟩
  | text hname hscalar hnull =>
    obtain ⟨v, hv⟩ := Scalar.exists_toValue_eq hscalar
    have hkept : v.toValue = value ∧ v ≠ .null := by
      refine ⟨hv, ?_⟩
      rintro rfl
      exact hnull hv.symm
    simp only [List.mem_cons, List.not_mem_nil, or_false] at hname
    rcases hname with rfl | rfl | rfl
    · exact ⟨.contains v, rfl, hkept⟩
    · exact ⟨.startsWith v, rfl, hkept⟩
    · exact ⟨.endsWith v, rfl, hkept⟩
  | list hname hlisting =>
    obtain ⟨items, hitems⟩ := hlisting.exists_isListOf
    simp only [List.mem_cons, List.not_mem_nil, or_false] at hname
    rcases hname with rfl | rfl
    · exact ⟨.isIn items, rfl, hitems⟩
    · exact ⟨.notIn items, rfl, hitems⟩
  | any hname =>
    simp only [List.mem_cons, List.not_mem_nil, or_false] at hname
    rcases hname with rfl | rfl | rfl
    · exact ⟨.notEmpty, rfl, trivial⟩
    · exact ⟨.empty, rfl, trivial⟩
    · exact ⟨.between (boundsOf value), rfl, boundsOf_eq_iff.mp rfl⟩
  | unknown hname hlisting =>
    obtain ⟨items, hlist | ⟨v, hv, -⟩⟩ := hlisting.exists_isListOf
    · exact ⟨.unknown name (.list items), rfl, hname, hlist⟩
    · exact ⟨.unknown name (.scalar v), rfl, hname, hv⟩

theorem exists_ofParts_iff (column : String) :
    (∃ o, ofParts column name value = .ok o) ↔ Takes name value := by
  simp only [ofParts_eq_ok_iff_keeps]
  constructor
  · rintro ⟨o, rfl, hkeeps⟩
    exact takes_name hkeeps
  · exact Takes.exists_keeps

theorem eq_badValue_of_ofParts {column : String} {e : FilterError}
    (hread : ofParts column name value = .error e) :
    e = .badValue column name (refusal name value) := by
  unfold ofParts at hread
  have hreading := isReading name value
  generalize ofNameAndValue name value = result at hread hreading
  cases hreading <;> cases hread
  rfl

/-- The operator that is read with a name has the name and keeps what it needs of the value: its
scalar, its scalars in order, or the ends of its range. One is read exactly if the value comes with
the name; otherwise the value is refused, and what is told is the column and the name. -/
theorem names_take_their_values (column name : String) (value : Value) :
    (∀ o, ofParts column name value = .ok o ↔ o.name = name ∧ o.Keeps value) ∧
    ((∃ o, ofParts column name value = .ok o) ↔ Takes name value) ∧
    ∀ e, ofParts column name value = .error e ↔
      ¬ Takes name value ∧ e = .badValue column name (refusal name value) := by
  refine ⟨fun o => ofParts_eq_ok_iff_keeps column, exists_ofParts_iff column, fun e => ?_⟩
  rw [← exists_ofParts_iff column]
  constructor
  · intro hread
    refine ⟨?_, eq_badValue_of_ofParts hread⟩
    rintro ⟨o, hok⟩
    rw [hread] at hok
    cases hok
  · rintro ⟨hnone, rfl⟩
    cases hread : ofParts column name value with
    | error e => rw [eq_badValue_of_ofParts hread]
    | ok o => exact absurd ⟨o, hread⟩ hnone

/-- Null is a scalar among those of a list, and is no end of a range. -/
example :
    ofParts "price" "in" (.array [.number (.ofWord 1), .null]) =
        .ok (.isIn [.number (.ofWord 1), .null]) ∧
      ofParts "price" "between" (.object [("min", .null), ("max", .number (.ofWord 9))]) =
        .ok (.between ⟨none, some (.number (.ofWord 9))⟩) ∧
      ofParts "price" "contains" .null = .error (.badValue "price" "contains" .isNull) :=
  ⟨rfl, rfl, rfl⟩

end Operator

end TableFilter
