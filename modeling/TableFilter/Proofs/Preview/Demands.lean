import TableFilter.Filter.Compile
import TableFilter.Preview
import TableFilter.Proofs.Sql.Regex

/-!
# Demands tell verdicts

What a preview says of a predicate can be told from the demand of the predicate alone, so no two
predicates of different meaning are compiled to one demand. Main statement:
`equal_demands_have_equal_verdicts`.
-/

namespace TableFilter

open Json (Value)
open Sql.Regex (Element elements plainText elements_anchoredStart elements_anchoredEnd
  plainText_anchoredStart plainText_anchoredEnd)
open TableFilter.Filter (Spec)

namespace Operator

/-- A text that starts cells and a text that ends cells are never looked for by one pattern. -/
theorem toSpec_startsWith_ne_endsWith (v w : Scalar) :
    (startsWith v).toSpec ≠ (endsWith w).toSpec := by
  intro hspec
  have hpattern := congrArg (elements ∘ String.toList) (Spec.regex.inj hspec)
  simp only [Function.comp_apply, elements_anchoredStart, elements_anchoredEnd] at hpattern
  -- The first element of the one is an anchor and that of the other is not that anchor.
  cases hchars : w.text.toList with
  | nil => simp [hchars] at hpattern
  | cons c cs => simp [hchars] at hpattern

theorem toSpec_startsWith_eq_iff (v w : Scalar) :
    (startsWith v).toSpec = (startsWith w).toSpec ↔ v.text = w.text := by
  constructor
  · intro hspec
    have htext := congrArg (plainText ∘ elements ∘ String.toList) (Spec.regex.inj hspec)
    simpa only [Function.comp_apply, elements_anchoredStart, plainText_anchoredStart] using htext
  · intro htext
    simp only [toSpec, htext]

theorem toSpec_endsWith_eq_iff (v w : Scalar) :
    (endsWith v).toSpec = (endsWith w).toSpec ↔ v.text = w.text := by
  constructor
  · intro hspec
    have htext := congrArg (plainText ∘ elements ∘ String.toList) (Spec.regex.inj hspec)
    simpa only [Function.comp_apply, elements_anchoredEnd, plainText_anchoredEnd] using htext
  · intro htext
    simp only [toSpec, htext]

end Operator

namespace Preview

/-- Whether a cell matches a pattern that has an anchor at one end and is a plain text otherwise,
in any case. -/
def matchesPattern (cell : Option Value) (pattern : String) : Bool :=
  let es := elements pattern.toList
  textMatches cell (.string (plainText es))
    (if es.head? = some (.special '^') then List.isPrefixOf else List.isSuffixOf)

/-- Whether a cell meets the demand of a predicate. -/
def meetsSpec (cell : Option Value) : Spec → Bool
  | .eq v => equals cell v
  | .isIn items => isMember cell items
  | .contains v => textMatches cell v Text.occursIn
  | .regex pattern => matchesPattern cell pattern
  | .notEmpty => !isBlank cell
  | .empty => isBlank cell
  | .notIn items => notMember cell items
  | .gt v => compares cell v fun a b => b.lessThan a
  | .lt v => compares cell v fun a b => a.lessThan b
  | .range gte lte => isBetween cell ⟨gte, lte⟩

section Verdict

variable (cell : Option Value)

/-- A scalar is looked for by its text alone. -/
theorem textMatches_text (v : Scalar) (test : List Char → List Char → Bool) :
    textMatches cell (.string v.text) test = textMatches cell v test :=
  rfl

theorem matchesPattern_start (v : Scalar) :
    matchesPattern cell ("^" ++ Sql.escapeRegex v.text) = textMatches cell v List.isPrefixOf := by
  simp only [matchesPattern, elements_anchoredStart, plainText_anchoredStart, List.head?_cons,
    if_true, textMatches_text]

theorem matchesPattern_end (v : Scalar) :
    matchesPattern cell (Sql.escapeRegex v.text ++ "$") = textMatches cell v List.isSuffixOf := by
  have hhead : (v.text.toList.map Element.plain ++ [Element.special '$']).head? ≠
      some (.special '^') := by
    cases v.text.toList with
    | nil => decide
    | cons c cs => simp
  simp only [matchesPattern, elements_anchoredEnd, plainText_anchoredEnd, if_neg hhead,
    textMatches_text]

/-- A preview that looks at all operators says of a cell what the demand of the operator says. -/
theorem meets_eq_meetsSpec (o : Operator) : meets ⟨true⟩ cell o = meetsSpec cell o.toSpec := by
  cases o with
  | startsWith v => exact (matchesPattern_start cell v).symm
  | endsWith v => exact (matchesPattern_end cell v).symm
  | unknown name operand => cases operand <;> simp [meets, meetsSpec, Operator.toSpec]
  | _ => simp [meets, meetsSpec, Operator.toSpec]

end Verdict

/-- Predicates on one column that are compiled to one demand let the same rows pass. Two texts at
the start of a cell are one pattern only if they are one text, so are two texts at its end, and a
text at its start is never the same pattern as one at its end. -/
theorem equal_demands_have_equal_verdicts :
    (∀ p q : Predicate, p.column = q.column → p.operator.toSpec = q.operator.toSpec →
      ∀ row, meetsPredicate ⟨true⟩ row p = meetsPredicate ⟨true⟩ row q) ∧
    (∀ v w, (Operator.startsWith v).toSpec ≠ (Operator.endsWith w).toSpec) ∧
    (∀ v w, (Operator.startsWith v).toSpec = (Operator.startsWith w).toSpec ↔ v.text = w.text) ∧
    ∀ v w, (Operator.endsWith v).toSpec = (Operator.endsWith w).toSpec ↔ v.text = w.text := by
  refine ⟨?_, Operator.toSpec_startsWith_ne_endsWith, Operator.toSpec_startsWith_eq_iff,
    Operator.toSpec_endsWith_eq_iff⟩
  intro p q hcolumn hspec row
  rw [meetsPredicate, meetsPredicate, meets_eq_meetsSpec, meets_eq_meetsSpec, hcolumn, hspec]

/-- The number 15 and its text are looked for by one pattern. -/
theorem number_and_text_have_equal_verdicts :
    (Operator.startsWith (.number (.ofWord 15))).toSpec =
        (Operator.startsWith (.string "15")).toSpec ∧
      meetsPredicate ⟨true⟩ [("code", .string "15$")]
          ⟨⟨"code", by decide⟩, .startsWith (.number (.ofWord 15))⟩ =
        meetsPredicate ⟨true⟩ [("code", .string "15$")]
          ⟨⟨"code", by decide⟩, .startsWith (.string "15")⟩ := by
  have hspec : (Operator.startsWith (.number (.ofWord 15))).toSpec =
      (Operator.startsWith (.string "15")).toSpec := by
    decide
  exact ⟨hspec, equal_demands_have_equal_verdicts.1 _ _ rfl hspec _⟩

end Preview

end TableFilter
