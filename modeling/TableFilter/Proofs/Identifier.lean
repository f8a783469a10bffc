import TableFilter.FilterError
import TableFilter.Identifier

/-!
# What identifiers hold

An identifier is made again from its name, and holds letters, digits and underscores alone.
-/

namespace TableFilter

/-- A letter from `A` to `Z` or from `a` to `z`, or an underscore. -/
def StartsName (c : Char) : Prop :=
  ('A' ≤ c ∧ c ≤ 'Z') ∨ ('a' ≤ c ∧ c ≤ 'z') ∨ c = '_'

/-- What may start a name, or a digit from `0` to `9`. -/
def ContinuesName (c : Char) : Prop :=
  StartsName c ∨ ('0' ≤ c ∧ c ≤ '9')

/-- The texts of the pattern `[A-Za-z_][A-Za-z0-9_]*`. -/
def IsName (s : String) : Prop :=
  ∃ c rest, s.toList = c :: rest ∧ StartsName c ∧ ∀ d ∈ rest, ContinuesName d

theorem isIdentifierStart_iff (c : Char) : isIdentifierStart c = true ↔ StartsName c := by
  delta isIdentifierStart Char.isAlpha Char.isUpper Char.isLower
  rw [Bool.or_eq_true, Bool.or_eq_true, Bool.and_eq_true, beq_iff_eq, or_assoc]
  simp only [decide_eq_true_iff]
  rfl

theorem isIdentifierPart_iff (c : Char) : isIdentifierPart c = true ↔ ContinuesName c := by
  have hsplit : isIdentifierPart c = (isIdentifierStart c || c.isDigit) := by
    rw [isIdentifierPart, isIdentifierStart, Char.isAlphanum, Bool.or_right_comm]
  rw [hsplit, Bool.or_eq_true, isIdentifierStart_iff, Char.isDigit, Bool.and_eq_true]
  simp only [decide_eq_true_iff]
  rfl

/-- Identifiers are the texts of the pattern, and no others. -/
theorem isIdentifier_iff (s : String) : isIdentifier s = true ↔ IsName s := by
  rw [isIdentifier, IsName]
  cases s.toList with
  | nil => exact ⟨nofun, nofun⟩
  | cons c rest =>
    rw [Bool.and_eq_true, List.all_eq_true, isIdentifierStart_iff]
    simp only [isIdentifierPart_iff]
    constructor
    · rintro ⟨hstart, hrest⟩
      exact ⟨c, rest, rfl, hstart, hrest⟩
    · rintro ⟨_, _, ⟨⟩, hstart, hrest⟩
      exact ⟨hstart, hrest⟩

theorem isIdentifierPart_of_isIdentifierStart {c : Char} (hstart : isIdentifierStart c = true) :
    isIdentifierPart c = true := by
  rw [isIdentifierStart, Bool.or_eq_true] at hstart
  rw [isIdentifierPart, Char.isAlphanum, Bool.or_eq_true, Bool.or_eq_true]
  exact hstart.imp_left .inl

namespace Identifier

theorem isIdentifierPart_of_mem (column : Identifier) :
    ∀ c ∈ column.name.toList, isIdentifierPart c = true := by
  have hvalid := column.valid
  rw [isIdentifier] at hvalid
  split at hvalid
  next hchars =>
    rw [hchars]
    nofun
  next c rest hchars =>
    rw [hchars, List.forall_mem_cons]
    obtain ⟨hfirst, hrest⟩ := Bool.and_eq_true_iff.mp hvalid
    exact ⟨isIdentifierPart_of_isIdentifierStart hfirst, List.all_eq_true.mp hrest⟩

theorem ofString_name (column : Identifier) : ofString column.name = .ok column := by
  simp [ofString, ofString?, column.valid]

theorem name_injective {column other : Identifier} (hname : column.name = other.name) :
    column = other := by
  cases column
  cases other
  cases hname
  rfl

end Identifier

end TableFilter
