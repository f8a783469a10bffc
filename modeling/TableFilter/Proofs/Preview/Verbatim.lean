import TableFilter.Preview
import TableFilter.Proofs.Text.Case

/-!
# Texts that stand in a cell as they are

A preview looks for a text in lower case, and so does not find every text that stands in a cell: a
capital sigma at the end of a word has another small letter than one inside it, and may be the one
in the text and the other in the cell. Main statement: where the capital sigmas of the text agree
with those of the cell the text is found, `verbatim_text_is_found`.
-/

namespace TableFilter.Preview

open Json (Value)
open Text (lowerChars SigmasAgree)

section Cell

variable {row : Row} {column : Identifier} {cell : String} {v : Scalar}

/-- A text cell meets what an operator looks for in it. -/
theorem textMatches_cell (hcell : Entries.get? column.name row = some (.string cell))
    (test : List Char → List Char → Bool) :
    textMatches (cell? row column) v test =
      test (lowerChars v.text.toList) (lowerChars cell.toList) := by
  simp only [cell?, hcell, textMatches, Option.any_some, scalarKey, cellKey, cellText]

theorem meets_contains_iff (options : Options)
    (hcell : Entries.get? column.name row = some (.string cell)) :
    meetsPredicate options row ⟨column, .contains v⟩ = true ↔
      lowerChars v.text.toList <:+: lowerChars cell.toList := by
  rw [meetsPredicate, meets, textMatches_cell hcell, Text.occursIn_iff]

theorem meets_startsWith_iff (options : Options)
    (hcell : Entries.get? column.name row = some (.string cell)) :
    meetsPredicate options row ⟨column, .startsWith v⟩ = true ↔
      lowerChars v.text.toList <+: lowerChars cell.toList := by
  rw [meetsPredicate, meets, textMatches_cell hcell, List.isPrefixOf_iff_prefix]

theorem meets_endsWith_iff (options : Options)
    (hcell : Entries.get? column.name row = some (.string cell)) :
    meetsPredicate options row ⟨column, .endsWith v⟩ = true ↔
      lowerChars v.text.toList <:+ lowerChars cell.toList := by
  rw [meetsPredicate, meets, textMatches_cell hcell, List.isSuffixOf_iff_suffix]

end Cell

/-- A text that stands in a cell as it is: without a capital sigma it is found there, at the start
and at the end too if it stands there. In general it is found where its capital sigmas end words in
the cell just as they do in the text alone, and at the start and at the end only there. -/
theorem verbatim_text_is_found (options : Options) {row : Row} {column : Identifier}
    {cell : String} (v : Scalar) {before after : List Char}
    (hcell : Entries.get? column.name row = some (.string cell))
    (hoccurs : cell.toList = before ++ v.text.toList ++ after) :
    ('Σ' ∉ v.text.toList →
      meetsPredicate options row ⟨column, .contains v⟩ = true ∧
      (before = [] → meetsPredicate options row ⟨column, .startsWith v⟩ = true) ∧
      (after = [] → meetsPredicate options row ⟨column, .endsWith v⟩ = true)) ∧
    (SigmasAgree v.text.toList before.reverse after [] [] →
      meetsPredicate options row ⟨column, .contains v⟩ = true) ∧
    (before = [] → (meetsPredicate options row ⟨column, .startsWith v⟩ = true ↔
      SigmasAgree v.text.toList before.reverse after [] [])) ∧
    (after = [] → (meetsPredicate options row ⟨column, .endsWith v⟩ = true ↔
      SigmasAgree v.text.toList before.reverse after [] [])) := by
  have hcontains (hagree : SigmasAgree v.text.toList before.reverse after [] []) :
      meetsPredicate options row ⟨column, .contains v⟩ = true := by
    rw [meets_contains_iff options hcell, hoccurs]
    exact Text.infix_lowerChars hagree
  have hstarts (hbefore : before = []) :
      meetsPredicate options row ⟨column, .startsWith v⟩ = true ↔
        SigmasAgree v.text.toList before.reverse after [] [] := by
    subst hbefore
    rw [meets_startsWith_iff options hcell, hoccurs]
    exact Text.prefix_lowerChars_iff
  have hends (hafter : after = []) :
      meetsPredicate options row ⟨column, .endsWith v⟩ = true ↔
        SigmasAgree v.text.toList before.reverse after [] [] := by
    subst hafter
    rw [meets_endsWith_iff options hcell, hoccurs, List.append_nil]
    exact Text.suffix_lowerChars_iff
  refine ⟨?_, hcontains, hstarts, hends⟩
  intro hnone
  have hagree := Text.sigmasAgree_of_not_mem hnone before.reverse after [] []
  exact ⟨hcontains hagree, fun hbefore => (hstarts hbefore).mpr hagree,
    fun hafter => (hends hafter).mpr hagree⟩

/-- The sigma at the end of ΟΔΥΣΣΕΑΣ ends a word in the text ΕΑΣ too. -/
theorem end_of_name_is_found :
    meetsPredicate ⟨true⟩ [("name", .string "ΟΔΥΣΣΕΑΣ")]
        ⟨⟨"name", by decide⟩, .contains (.string "ΕΑΣ")⟩ = true ∧
      meetsPredicate ⟨true⟩ [("name", .string "ΟΔΥΣΣΕΑΣ")]
        ⟨⟨"name", by decide⟩, .endsWith (.string "ΕΑΣ")⟩ = true := by
  let column : Identifier := ⟨"name", by decide⟩
  let text : Scalar := .string "ΕΑΣ"
  have hcell : Entries.get? column.name [("name", Value.string "ΟΔΥΣΣΕΑΣ")] =
      some (.string "ΟΔΥΣΣΕΑΣ") := rfl
  have hoccurs : "ΟΔΥΣΣΕΑΣ".toList = "ΟΔΥΣΣ".toList ++ text.text.toList ++ [] := by
    decide +kernel
  have hfound := verbatim_text_is_found ⟨true⟩ text hcell hoccurs
  have hagree : SigmasAgree "ΕΑΣ".toList "ΟΔΥΣΣ".toList.reverse [] [] [] :=
    (Text.lowerWithin_eq_iff _ _ _ _ _).mp (by decide +kernel)
  exact ⟨hfound.2.1 hagree, (hfound.2.2.2 rfl).mpr hagree⟩

/-- The sigma of ΑΣ ends a word, and that of ΑΣΑ does not; nor does a sigma that is all of a
text. -/
theorem sigma_elsewhere_in_word_is_not_found :
    ("ΑΣ".toList <+: "ΑΣΑ".toList ∧
      meetsPredicate ⟨true⟩ [("name", .string "ΑΣΑ")]
        ⟨⟨"name", by decide⟩, .contains (.string "ΑΣ")⟩ = false ∧
      meetsPredicate ⟨true⟩ [("name", .string "ΑΣΑ")]
        ⟨⟨"name", by decide⟩, .startsWith (.string "ΑΣ")⟩ = false) ∧
    "Σ".toList <:+ "ΑΣ".toList ∧
      meetsPredicate ⟨true⟩ [("name", .string "ΑΣ")]
        ⟨⟨"name", by decide⟩, .endsWith (.string "Σ")⟩ = false := by
  decide +kernel

end TableFilter.Preview
