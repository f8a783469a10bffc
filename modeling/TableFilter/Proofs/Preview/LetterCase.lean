import Mathlib.Data.List.Basic
import TableFilter.Preview
import TableFilter.Proofs.Decimal.FreeText
import TableFilter.Proofs.Entries

/-!
# Letter case in a preview

A preview keeps the same rows whichever case the ASCII letters of its cells and values have: texts
are compared in lower case, and the numbers written in texts do not depend on case. Main statement:
`kept_places_ignore_letter_case`, which compares what has one form with all these letters lowered.
-/

namespace TableFilter

open Json (Value)

/-! ## Texts with their ASCII letters lowered -/

theorem toLower_eq_toLower {s t : String}
    (hchars : s.toList.map Char.toLower = t.toList.map Char.toLower) : s.toLower = t.toLower := by
  rw [← String.toList_inj, Text.toList_toLower, Text.toList_toLower, hchars]

/-- The scalar with the ASCII letters of its text in lower case, if it is a text. -/
def Scalar.lowered : Scalar → Scalar
  | .string s => .string s.toLower
  | v => v

def Operand.lowered : Operand → Operand
  | .scalar v => .scalar v.lowered
  | .list items => .list (items.map Scalar.lowered)

def Bounds.lowered (bounds : Bounds) : Bounds :=
  ⟨bounds.min.map Scalar.lowered, bounds.max.map Scalar.lowered⟩

/-- The operator with all its texts in lower case; its name stays as it is. -/
def Operator.lowered : Operator → Operator
  | .equals v => .equals v.lowered
  | .contains v => .contains v.lowered
  | .startsWith v => .startsWith v.lowered
  | .endsWith v => .endsWith v.lowered
  | .notEmpty => .notEmpty
  | .empty => .empty
  | .isIn items => .isIn (items.map Scalar.lowered)
  | .notIn items => .notIn (items.map Scalar.lowered)
  | .greaterThan v => .greaterThan v.lowered
  | .lessThan v => .lessThan v.lowered
  | .between bounds => .between bounds.lowered
  | .unknown name operand => .unknown name operand.lowered

def Predicate.lowered (p : Predicate) : Predicate :=
  ⟨p.column, p.operator.lowered⟩

/-- A cell with the ASCII letters of its text in lower case, if it is a text. -/
def loweredCell : Value → Value
  | .string s => .string s.toLower
  | v => v

/-- A row with all its text cells in lower case; the names of its columns stay as they are. -/
def loweredRow (row : Row) : Row :=
  row.map fun (name, cell) => (name, loweredCell cell)

namespace Preview

/-- The places of the rows that meet all predicates. -/
def keptPlaces (options : Options) (predicates : List Predicate) (rows : List Row) : List Nat :=
  rows.findIdxs (meetsAll options predicates)

/-- The rows that are kept are those at the kept places. -/
theorem kept_eq_map_keptPlaces (options : Options) (predicates : List Predicate)
    (rows : List Row) :
    (keptPlaces options predicates rows).map (rows[·]?) =
      (kept options predicates rows).map some := by
  apply List.ext_getElem
  · simp [keptPlaces, kept, List.countP_eq_length_filter]
  · intro i hplace hkept
    simp only [keptPlaces, kept, List.getElem_map]
    rw [List.getElem_filter_eq_getElem_getElem_findIdxs]
    exact List.getElem?_eq_getElem _

/-! ## Values -/

section Values

variable (v : Scalar) (cell : Value)

theorem isNull_lowered : v.lowered.isNull = v.isNull := by
  cases v <;> rfl

theorem isNumber_toValue_lowered : isNumber v.lowered.toValue = isNumber v.toValue := by
  cases v <;> rfl

theorem toDouble?_lowered : v.lowered.toDouble? = v.toDouble? := by
  cases v with
  | string s =>
    apply Decimal.ofText?_eq_of_map_toLower_eq
    rw [Text.toList_toLower, List.map_map]
    exact List.map_congr_left fun c _ => Text.toLower_toLower c
  | _ => rfl

theorem scalarKey_lowered : scalarKey v.lowered = scalarKey v := by
  cases v with
  | string s =>
    simp only [scalarKey, Scalar.lowered, Scalar.text, Text.toList_toLower, Text.lowerChars_map_toLower]
  | _ => rfl

theorem isNumber_loweredCell : isNumber (loweredCell cell) = isNumber cell := by
  cases cell <;> rfl

theorem cellDouble?_loweredCell : cellDouble? (loweredCell cell) = cellDouble? cell := by
  cases cell with
  | string s => exact toDouble?_lowered (.string s)
  | _ => rfl

theorem cellKey_loweredCell : cellKey (loweredCell cell) = cellKey cell := by
  cases cell with
  | string s => exact scalarKey_lowered (.string s)
  | _ => rfl

end Values

/-! ## Operators -/

section Operators

variable (cell : Option Value) (v : Scalar) (items : List Scalar)

theorem sameValue_lowered (cell : Value) :
    sameValue (loweredCell cell) v.lowered = sameValue cell v := by
  simp only [sameValue, isNumber_loweredCell, isNumber_toValue_lowered, cellDouble?_loweredCell,
    toDouble?_lowered, cellKey_loweredCell, scalarKey_lowered]

theorem equals_lowered : equals (cell.map loweredCell) v.lowered = equals cell v := by
  cases cell with
  | none => cases v <;> rfl
  | some cell =>
    cases v with
    | null => rfl
    | _ => exact sameValue_lowered _ cell

theorem textMatches_lowered (test : List Char → List Char → Bool) :
    textMatches (cell.map loweredCell) v.lowered test = textMatches cell v test := by
  cases cell with
  | none => rfl
  | some cell =>
    simp only [textMatches, Option.map_some, Option.any_some, cellKey_loweredCell,
      scalarKey_lowered]

theorem isBlank_lowered : isBlank (cell.map loweredCell) = isBlank cell := by
  cases cell with
  | none => rfl
  | some cell =>
    cases cell with
    | string s =>
      have hempty : s.toLower.isEmpty = s.isEmpty := by
        rw [Bool.eq_iff_iff, String.isEmpty_iff, String.isEmpty_iff, ← String.toList_eq_nil_iff,
          ← String.toList_eq_nil_iff, Text.toList_toLower, List.map_eq_nil_iff]
      exact hempty
    | _ => rfl

theorem isMember_lowered :
    isMember (cell.map loweredCell) (items.map Scalar.lowered) = isMember cell items := by
  simp only [isMember, List.any_map, Function.comp_def, isNull_lowered, equals_lowered]

theorem notMember_lowered :
    notMember (cell.map loweredCell) (items.map Scalar.lowered) = notMember cell items := by
  simp only [notMember, isMember_lowered, List.isEmpty_map, List.any_map, Function.comp_def,
    isNull_lowered, Option.isSome_map]

theorem compares_lowered (test : Decimal.Binary64 → Decimal.Binary64 → Bool) :
    compares (cell.map loweredCell) v.lowered test = compares cell v test := by
  simp only [compares, toDouble?_lowered, Option.bind_map, Function.comp_def,
    cellDouble?_loweredCell]

theorem isBetween_lowered (bounds : Bounds) :
    isBetween (cell.map loweredCell) bounds.lowered = isBetween cell bounds := by
  obtain ⟨low, high⟩ := bounds
  cases low <;> cases high <;>
    simp only [isBetween, Bounds.lowered, Option.map_some, Option.map_none, compares_lowered]

/-- No operator tells the cases of a letter apart. -/
theorem meets_lowered (options : Options) (o : Operator) :
    meets options (cell.map loweredCell) o.lowered = meets options cell o := by
  cases o with
  | equals v => exact equals_lowered cell v
  | contains v => exact textMatches_lowered cell v _
  | startsWith v => exact textMatches_lowered cell v _
  | endsWith v => exact textMatches_lowered cell v _
  | notEmpty => exact congrArg (!·) (isBlank_lowered cell)
  | empty => exact isBlank_lowered cell
  | isIn items => exact isMember_lowered cell items
  | notIn items => exact congrArg (!options.fullOperatorSet || ·) (notMember_lowered cell items)
  | greaterThan v => exact compares_lowered cell v _
  | lessThan v => exact compares_lowered cell v _
  | between bounds => exact congrArg (!options.fullOperatorSet || ·) (isBetween_lowered cell bounds)
  | unknown name operand =>
    cases operand with
    | scalar v => exact congrArg (!options.fullOperatorSet || ·) (equals_lowered cell v)
    | list items => exact congrArg (!options.fullOperatorSet || ·) (isMember_lowered cell items)

end Operators

/-! ## Rows -/

theorem cell?_loweredRow (row : Row) (column : Identifier) :
    cell? (loweredRow row) column = (cell? row column).map loweredCell := by
  rw [cell?, cell?, loweredRow, Entries.get?_map_value]
  rcases Entries.get? column.name row with _ | cell
  · rfl
  · cases cell <;> rfl

theorem meetsAll_lowered (options : Options) (ps : List Predicate) (row : Row) :
    meetsAll options (ps.map Predicate.lowered) (loweredRow row) = meetsAll options ps row := by
  have hpredicate (p : Predicate) :
      meetsPredicate options (loweredRow row) p.lowered = meetsPredicate options row p := by
    rw [meetsPredicate, meetsPredicate, Predicate.lowered, cell?_loweredRow, meets_lowered]
  simp only [meetsAll, List.all_map, Function.comp_def, hpredicate]

theorem keptPlaces_lowered (options : Options) (ps : List Predicate) (rows : List Row) :
    keptPlaces options (ps.map Predicate.lowered) (rows.map loweredRow) =
      keptPlaces options ps rows := by
  simp only [keptPlaces, List.findIdxs_map, Function.comp_def, meetsAll_lowered]

/-- Predicates and rows that differ in the case of ASCII letters of their texts alone: the rows
that are kept stand at the same places of both lists. -/
theorem kept_places_ignore_letter_case (options : Options) {ps qs : List Predicate}
    {rows others : List Row} (hpredicates : ps.map Predicate.lowered = qs.map Predicate.lowered)
    (hrows : rows.map loweredRow = others.map loweredRow) :
    keptPlaces options ps rows = keptPlaces options qs others ∧
    (kept options ps rows).map some = (keptPlaces options ps rows).map (rows[·]?) ∧
    (kept options qs others).map some = (keptPlaces options ps rows).map (others[·]?) := by
  have hplaces : keptPlaces options ps rows = keptPlaces options qs others := by
    rw [← keptPlaces_lowered, hpredicates, hrows, keptPlaces_lowered]
  refine ⟨hplaces, (kept_eq_map_keptPlaces options ps rows).symm, ?_⟩
  rw [hplaces]
  exact (kept_eq_map_keptPlaces options qs others).symm

/-- A sigma at the end of a word in either case, and a number with either exponent mark. -/
theorem upper_and_lower_case_rows_are_kept :
    [[("name", Value.string "MAΣ"), ("price", .string "1E1")]].map loweredRow =
        [[("name", .string "maΣ"), ("price", .string "1e1")]].map loweredRow ∧
      keptPlaces ⟨true⟩ [⟨⟨"name", by decide⟩, .endsWith (.string "AΣ")⟩,
          ⟨⟨"price", by decide⟩, .greaterThan (.string "9e0")⟩]
          [[("name", .string "MAΣ"), ("price", .string "1E1")]] = [0] ∧
      keptPlaces ⟨true⟩ [⟨⟨"name", by decide⟩, .endsWith (.string "aΣ")⟩,
          ⟨⟨"price", by decide⟩, .greaterThan (.string "9E0")⟩]
          [[("name", .string "maΣ"), ("price", .string "1e1")]] = [0] ∧
      (kept ⟨true⟩ [⟨⟨"name", by decide⟩, .endsWith (.string "AΣ")⟩,
          ⟨⟨"price", by decide⟩, .greaterThan (.string "9e0")⟩]
          [[("name", .string "MAΣ"), ("price", .string "1E1")]]).map some =
        [some [("name", .string "MAΣ"), ("price", .string "1E1")]] := by
  let upper : List Predicate := [⟨⟨"name", by decide⟩, .endsWith (.string "AΣ")⟩,
    ⟨⟨"price", by decide⟩, .greaterThan (.string "9e0")⟩]
  let lower : List Predicate := [⟨⟨"name", by decide⟩, .endsWith (.string "aΣ")⟩,
    ⟨⟨"price", by decide⟩, .greaterThan (.string "9E0")⟩]
  have hname : "MAΣ".toLower = "maΣ".toLower := toLower_eq_toLower (by decide)
  have hprice : "1E1".toLower = "1e1".toLower := toLower_eq_toLower (by decide)
  have hend : "AΣ".toLower = "aΣ".toLower := toLower_eq_toLower (by decide)
  have hleast : "9e0".toLower = "9E0".toLower := toLower_eq_toLower (by decide)
  have hpredicates : upper.map Predicate.lowered = lower.map Predicate.lowered := by
    simp only [upper, lower, List.map_cons, List.map_nil, Predicate.lowered, Operator.lowered,
      Scalar.lowered, hend, hleast]
  have hrows : [[("name", Value.string "MAΣ"), ("price", .string "1E1")]].map loweredRow =
      [[("name", .string "maΣ"), ("price", .string "1e1")]].map loweredRow := by
    simp only [List.map_cons, List.map_nil, loweredRow, loweredCell, hname, hprice]
  obtain ⟨hplaces, hkept, -⟩ := kept_places_ignore_letter_case ⟨true⟩ hpredicates hrows
  have hlower : keptPlaces ⟨true⟩ lower
      [[("name", .string "maΣ"), ("price", .string "1e1")]] = [0] := by
    decide +kernel
  have hupper := hplaces.trans hlower
  rw [hupper] at hkept
  exact ⟨hrows, hupper, hlower, hkept⟩

end Preview

end TableFilter
