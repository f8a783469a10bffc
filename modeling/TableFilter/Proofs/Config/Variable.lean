import Mathlib.Data.List.Forall2
import TableFilter.Config.Environment
import TableFilter.Proofs.Decimal.Word
import TableFilter.Proofs.Text.LetterCase

/-!
# What a variable says

A variable gives a number, a truth value or names. How each of these stands in its value is said
here of the characters of the value, and it is what is read from it. Main statements:
`number_eq_ok_iff`, `flag_eq_ok_iff`, `listed_eq_iff`.
-/

namespace TableFilter

namespace Text

variable {separator : Char}

/-! ## Lists inside a text -/

theorem splitChars_ne_nil (cs : List Char) : splitChars separator cs ≠ [] := by
  cases cs with
  | nil => exact List.cons_ne_nil _ _
  | cons c cs =>
    unfold splitChars
    split
    · exact List.cons_ne_nil _ _
    · split <;> exact List.cons_ne_nil _ _

theorem not_mem_of_mem_splitChars {cs part : List Char} (hmem : part ∈ splitChars separator cs) :
    separator ∉ part := by
  induction cs generalizing part with
  | nil =>
    obtain rfl := List.mem_singleton.mp hmem
    exact List.not_mem_nil
  | cons c cs ih =>
    unfold splitChars at hmem
    split at hmem
    next =>
      rcases List.mem_cons.mp hmem with rfl | hmem
      · exact List.not_mem_nil
      · exact ih hmem
    next hne =>
      split at hmem
      next hnil => exact absurd hnil (splitChars_ne_nil cs)
      next first parts hparts =>
        rw [hparts] at ih
        rcases List.mem_cons.mp hmem with rfl | hmem
        · rintro (_ | ⟨_, hfirst⟩)
          · exact hne rfl
          · exact ih List.mem_cons_self hfirst
        · exact ih (List.mem_cons_of_mem _ hmem)

theorem intercalate_splitChars (cs : List Char) :
    [separator].intercalate (splitChars separator cs) = cs := by
  induction cs with
  | nil => rfl
  | cons c cs ih =>
    unfold splitChars
    split
    next heq =>
      subst heq
      obtain ⟨first, parts, hparts⟩ := List.exists_cons_of_ne_nil (splitChars_ne_nil cs)
      rw [hparts] at ih ⊢
      rw [List.intercalate_cons_cons, ih]
      rfl
    next =>
      split
      next hnil => exact absurd hnil (splitChars_ne_nil cs)
      next first parts hparts =>
        rw [hparts] at ih
        rw [← ih]
        cases parts with
        | nil => simp
        | cons second parts => simp only [List.intercalate_cons_cons, List.cons_append]

/-- The parts between separators are the texts without one from which the text is put together. -/
theorem splitChars_eq_iff {cs : List Char} {parts : List (List Char)} :
    splitChars separator cs = parts ↔
      parts ≠ [] ∧ (∀ part ∈ parts, separator ∉ part) ∧ [separator].intercalate parts = cs := by
  constructor
  · rintro rfl
    exact ⟨splitChars_ne_nil cs, fun _ => not_mem_of_mem_splitChars, intercalate_splitChars cs⟩
  · rintro ⟨hne, hfree, hcs⟩
    have hsplit : cs.splitOn separator = splitChars separator cs := by
      have hfree : ∀ part ∈ splitChars separator cs, separator ∉ part :=
        fun _ => not_mem_of_mem_splitChars
      have hback := List.splitOn_intercalate separator hfree (splitChars_ne_nil cs)
      rwa [intercalate_splitChars] at hback
    rw [← hsplit, ← hcs, List.splitOn_intercalate separator hfree hne]

end Text

namespace Config

/-! ## Numbers -/

/-- The value says a number: blanks around it aside, it is a numeral. -/
def ReadsNumber (value : String) (n : UInt64) : Prop :=
  ∃ core, Text.Trims value core ∧ Decimal.IsNumeral core.toList n.toNat

theorem number_eq_ok_iff {key value : String} {n : UInt64} :
    Override.number key value = .ok n ↔ ReadsNumber value n := by
  have hread : Override.number key value = .ok n ↔ Decimal.readWord (Text.trim value) = .ok n := by
    unfold Override.number
    cases Decimal.readWord (Text.trim value) <;> simp
  rw [hread, Decimal.readWord_eq_ok_iff, ReadsNumber]
  simp only [Text.trims_iff, exists_eq_left']

/-! ## Truth values -/

/-- The words for a truth value, in small letters. -/
def flagWords : Bool → List String
  | true => ["1", "true", "yes", "on"]
  | false => ["0", "false", "no", "off"]

/-- The value says a truth value: blanks around it aside, it is a word for it, in any case. -/
def ReadsFlag (value : String) (b : Bool) : Prop :=
  ∃ core, Text.Trims value core ∧ core.toLower ∈ flagWords b

theorem flag_eq_ok_iff {key value : String} {b : Bool} :
    Override.flag key value = .ok b ↔ ReadsFlag value b := by
  have hword : String.ofList ((Text.trimChars value.toList).map Char.toLower) =
      (Text.trim value).toLower := by
    rw [← String.toList_inj, String.toList_ofList, Text.toList_toLower, Text.trim,
      String.toList_ofList]
  rw [ReadsFlag]
  simp only [Text.trims_iff, exists_eq_left', Override.flag, hword]
  generalize (Text.trim value).toLower = word
  cases b with
  | true =>
    simp only [flagWords, List.mem_cons, List.not_mem_nil, or_false]
    grind
  | false =>
    simp only [flagWords, List.mem_cons, List.not_mem_nil, or_false]
    grind

/-! ## Names -/

/-- The value says names: of the texts between its commas, what is left without the blanks around
them, where anything is left. -/
def ReadsNames (value : String) (names : List String) : Prop :=
  ∃ pieces cores : List String, pieces ≠ [] ∧ (∀ piece ∈ pieces, ',' ∉ piece.toList) ∧
    ",".intercalate pieces = value ∧ List.Forall₂ Text.Trims pieces cores ∧
    names = cores.filter (· ≠ "")

theorem splitCommas_eq_iff {value : String} {pieces : List String} :
    Text.splitCommas value = pieces ↔
      pieces ≠ [] ∧ (∀ piece ∈ pieces, ',' ∉ piece.toList) ∧ ",".intercalate pieces = value := by
  have hchars : Text.splitCommas value = pieces ↔
      Text.splitChars ',' value.toList = pieces.map String.toList := by
    rw [Text.splitCommas]
    constructor
    · rintro rfl
      simp
    · intro hsplit
      simp [hsplit]
  rw [hchars, Text.splitChars_eq_iff, List.forall_mem_map, Ne, List.map_eq_nil_iff,
    ← String.toList_inj, String.toList_intercalate]
  rfl

theorem forall₂_trims_iff {pieces cores : List String} :
    List.Forall₂ Text.Trims pieces cores ↔ cores = pieces.map Text.trim := by
  induction pieces generalizing cores with
  | nil => simp
  | cons piece pieces ih =>
    cases cores with
    | nil => simp
    | cons core cores => simp [List.forall₂_cons, Text.trims_iff, ih, eq_comm]

theorem listed_eq_iff {value : String} {names : List String} :
    Override.listed value = names ↔ ReadsNames value names := by
  have hkept : (fun s : String => !s.isEmpty) = fun s => decide (s ≠ "") := by
    funext s
    rw [Bool.eq_iff_iff]
    simp
  rw [Override.listed, hkept]
  constructor
  · rintro rfl
    obtain ⟨hne, hfree, hvalue⟩ := splitCommas_eq_iff.mp (rfl : Text.splitCommas value = _)
    exact ⟨_, _, hne, hfree, hvalue, forall₂_trims_iff.mpr rfl, rfl⟩
  · rintro ⟨pieces, cores, hne, hfree, hvalue, hcores, rfl⟩
    rw [forall₂_trims_iff.mp hcores, splitCommas_eq_iff.mpr ⟨hne, hfree, hvalue⟩]

end Config

end TableFilter
