import TableFilter.Proofs.Sql.Literal
import TableFilter.Proofs.Text.Replace

/-!
# Quoted texts in front of others

The literal that a quoted text begins is the quoted text, whatever the text holds and whatever
comes behind it, unless that is another quote. To escape a text character by character is to
replace first its backslashes and then its quotes. Main statement: `quoted_text_is_one_literal`.
-/

namespace TableFilter.Sql

open Text (replaceInTurn replacedAtOnce)

/-- The literal at the start of a text: what it stands for, and what follows it. -/
def readLiteral? (escapes : Bool) (text : String) : Option (String × String) :=
  match text.toList with
  | '\'' :: rest => (quotedBody? '\'' escapes rest).map (Prod.map String.ofList String.ofList)
  | _ => none

/-- Behind a quoted text it is the reading of its body that counts. -/
theorem readLiteral?_quoteLiteral_append (escapes : Bool) (s rest : String) :
    readLiteral? escapes (quoteLiteral escapes s ++ rest) =
      (quotedBody? '\'' escapes ((escapeLiteral escapes s).toList ++ '\'' :: rest.toList)).map
        (Prod.map String.ofList String.ofList) := by
  have htext : (quoteLiteral escapes s ++ rest).toList =
      '\'' :: ((escapeLiteral escapes s).toList ++ '\'' :: rest.toList) := by
    simp [quoteLiteral]
  rw [readLiteral?, htext]
  rfl

/-- What is read goes on with a quote where the closing quote is followed by another. -/
theorem ReadsAs.doubled {escapes : Bool} {written cs read behind rest : List Char}
    (hreads : ReadsAs '\'' escapes written cs)
    (hread : quotedBody? '\'' escapes (written ++ '\'' :: '\'' :: rest) = some (read, behind)) :
    cs ++ ['\''] <+: read := by
  have hquotes : ReadsAs '\'' escapes ['\'', '\''] ['\''] := .literalChar '\''
  have hdoubled := hreads.append hquotes rest
  rw [List.append_assoc, List.cons_append, List.singleton_append, hread] at hdoubled
  obtain ⟨⟨more, _⟩, -, heq⟩ := Option.map_eq_some_iff.mp hdoubled.symm
  cases heq
  exact List.prefix_append _ more

/-- A quoted text is read as the text, and what follows it is left, unless another quote follows. -/
theorem readLiteral?_eq_some_iff (escapes : Bool) (s rest : String) :
    readLiteral? escapes (quoteLiteral escapes s ++ rest) = some (s, rest) ↔
      rest.toList.head? ≠ some '\'' := by
  have hreads := ReadsAs.escapeLiteral escapes s
  rw [readLiteral?_quoteLiteral_append]
  constructor
  · intro hread hquote
    obtain ⟨behind, hbehind⟩ := List.head?_eq_some_iff.mp hquote
    obtain ⟨⟨read, left⟩, hbody, heq⟩ := Option.map_eq_some_iff.mp hread
    rw [hbehind] at hbody
    have hlonger := hreads.doubled hbody
    -- what is read would be longer than the text
    have hsame : read = s.toList := by
      rw [← (Prod.mk.inj heq).1, String.toList_ofList]
    have hlength := hlonger.length_le
    rw [hsame, List.length_append, List.length_singleton] at hlength
    exact Nat.not_succ_le_self _ hlength
  · intro hrest
    rw [hreads.closed hrest, Option.map_some, Prod.map_apply, String.ofList_toList,
      String.ofList_toList]

/-- What is put for a character of a literal that does not stand for itself, in the order in which
the characters are replaced. -/
def literalForms : Bool → List (Char × String)
  | true => [('\\', "\\\\"), ('\'', "''")]
  | false => [('\'', "''")]

theorem literalChar_eq_replacedAtOnce (escapes : Bool) (c : Char) :
    literalChar escapes c = replacedAtOnce (literalForms escapes) c := by
  by_cases hquote : c = '\''
  · subst hquote
    cases escapes <;> rfl
  · by_cases hbackslash : c = '\\'
    · subst hbackslash
      cases escapes <;> rfl
    · have hplain : ∀ entry ∈ literalForms escapes, c ≠ entry.1 := by
        cases escapes <;> simp [literalForms, hquote, hbackslash]
      rw [Text.replacedAtOnce_of_forall_ne hplain]
      simp [literalChar, hquote, hbackslash]

/-- To escape a text is to double its backslashes, where one escapes, and then its quotes, for
neither doubling makes a character of the other kind. -/
theorem escapeLiteral_eq_replaceInTurn (escapes : Bool) (s : String) :
    escapeLiteral escapes s = replaceInTurn s (literalForms escapes) := by
  have hforms : (literalForms escapes).Pairwise
      fun earlier later => later.1 ∉ earlier.2.toList := by
    cases escapes <;> decide
  exact Text.ofList_flatMap_eq_replaceInTurn hforms (literalChar_eq_replacedAtOnce escapes) s

theorem escapeLiteral_true_eq_replace (s : String) :
    escapeLiteral true s = (s.replace '\\' "\\\\").replace '\'' "''" :=
  escapeLiteral_eq_replaceInTurn true s

theorem escapeLiteral_false_eq_replace (s : String) :
    escapeLiteral false s = s.replace '\'' "''" :=
  escapeLiteral_eq_replaceInTurn false s

/-- Whether a backslash escapes or not, the literal at the start of a quoted text and what follows
it is the quoted text, and stands for the text, exactly if no quote comes first in what follows.
Escaping a text all at once is replacing each backslash in it, where one escapes, and then each
quote. -/
theorem quoted_text_is_one_literal :
    (∀ (escapes : Bool) (s rest : String),
      readLiteral? escapes (quoteLiteral escapes s ++ rest) = some (s, rest) ↔
        rest.toList.head? ≠ some '\'') ∧
    (∀ s : String, escapeLiteral true s = (s.replace '\\' "\\\\").replace '\'' "''") ∧
    ∀ s : String, escapeLiteral false s = s.replace '\'' "''" :=
  ⟨readLiteral?_eq_some_iff, escapeLiteral_true_eq_replace, escapeLiteral_false_eq_replace⟩

-- The backslash and the quote at the end of the text do not take the closing quote with them.
example : readLiteral? true (quoteLiteral true "\\'" ++ " AND") = some ("\\'", " AND") := by
  decide +kernel

end TableFilter.Sql
