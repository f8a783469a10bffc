import Mathlib.Data.List.Basic

/-!
# Replacing characters

A text in which each occurrence of a character is replaced is put together character by character.
Replacements one after the other come to the same as all of them at once, as long as none is made
for a character that an earlier one has put into the text. Main statements: `toList_replace`,
`toList_replaceInTurn`.
-/

namespace TableFilter.Text

open String (Slice)
open String.Slice.Pattern (SearchStep ToForwardSearcher)
open String.Slice.Pattern.Model (IsValidSearchFrom LawfulToForwardSearcherModel MatchesAt)

/-- What becomes of a character where `c` is replaced by `form`. -/
def replacedChar (c : Char) (form : List Char) (d : Char) : List Char :=
  if d = c then form else [d]

variable {c : Char} {form : List Char}

theorem flatMap_replacedChar_of_not_mem {cs : List Char} (hnot : c ∉ cs) :
    cs.flatMap (replacedChar c form) = cs := by
  have hkept : ∀ d ∈ cs, replacedChar c form d = [d] := by
    intro d hd
    have hne : d ≠ c := by
      rintro rfl
      exact hnot hd
    rw [replacedChar, if_neg hne]
  rw [List.flatMap_congr hkept, List.flatMap_singleton']

/-- A piece in which a search found nothing at any place does not have the character. -/
theorem not_mem_slice {s : Slice} {start stop : s.Pos} (hle : start ≤ stop)
    (hnone : ∀ p, start ≤ p → p < stop → ¬ MatchesAt c p) :
    c ∉ (s.slice start stop hle).copy.toList := by
  intro hmem
  obtain ⟨p, hp, hget⟩ := Slice.mem_toList_copy_iff_exists_get.mp hmem
  have hstop : Slice.Pos.ofSlice p < stop := by
    have hend := Slice.Pos.ofSlice_lt_ofSlice_iff.mpr ((Slice.Pos.lt_endPos_iff p).mpr hp)
    rwa [Slice.Pos.ofSlice_endPos] at hend
  apply hnone _ Slice.Pos.le_ofSlice hstop
  rw [String.Slice.Pattern.Model.Char.matchesAt_iff]
  rw [Slice.Pos.get_eq_get_ofSlice] at hget
  exact ⟨_, hget⟩

/-- What the steps of a search put together, if each match is replaced. -/
theorem toList_foldl_steps {s : Slice} (replacement : String)
    {put : String → SearchStep s → String}
    (hmatched : ∀ sofar p q, put sofar (.matched p q) = sofar ++ replacement)
    (hrejected : ∀ sofar p q, put sofar (.rejected p q) = sofar ++ (s.slice! p q).copy)
    {start : s.Pos} {steps : List (SearchStep s)} (hvalid : IsValidSearchFrom c start steps)
    {before rest : String} (hsplits : start.Splits before rest) (sofar : String) :
    (steps.foldl put sofar).toList =
      sofar.toList ++ rest.toList.flatMap (replacedChar c replacement.toList) := by
  induction hvalid generalizing before rest sofar with
  | endPos =>
    obtain ⟨-, rfl⟩ := Slice.splits_endPos_iff.mp hsplits
    simp
  | matched hmatch _ ih =>
    obtain ⟨hstart, rfl, rfl⟩ :=
      String.Slice.Pattern.Model.Char.isLongestMatchAt_iff.mp hmatch
    obtain ⟨rest, rfl⟩ := hsplits.exists_eq_singleton_append hstart
    rw [List.foldl_cons, ih hsplits.next, hmatched]
    simp [replacedChar]
  | @mismatched steps p q hlt hnone _ ih =>
    have hle := Std.le_of_lt hlt
    obtain ⟨front, back, hp, hq⟩ := Slice.copy_slice_eq_iff_splits.mp ⟨hle, rfl⟩
    obtain ⟨rfl, rfl⟩ := hsplits.eq hp
    rw [List.foldl_cons, ih hq, hrejected, ← Slice.slice_eq_slice! (h := hle)]
    simp [flatMap_replacedChar_of_not_mem (not_mem_slice hle hnone)]

/-- Replacing a character in a text is replacing it wherever it stands. -/
theorem toList_replace (s : String) (c : Char) (replacement : String) :
    (s.replace c replacement).toList =
      s.toList.flatMap (replacedChar c replacement.toList) := by
  have hvalid : IsValidSearchFrom c s.toSlice.startPos
      (ToForwardSearcher.toSearcher c s.toSlice).toList :=
    LawfulToForwardSearcherModel.isValidSearchFrom_toList s.toSlice
  have hcopy : replacement.toSlice.copy = replacement := String.copy_toSlice
  rw [String.replace, Slice.replace, ← Std.Iter.foldl_toList,
    toList_foldl_steps replacement.toSlice.copy (fun _ _ _ => rfl) (fun _ _ _ => rfl) hvalid
      (Slice.splits_startPos s.toSlice), hcopy]
  simp

/-! ## Several characters -/

/-- The text in which each character of the list is replaced by its form, one character after the
other; what has been put into the text is not spared. -/
def replaceInTurn (s : String) (forms : List (Char × String)) : String :=
  forms.foldl (fun s (c, form) => s.replace c form) s

/-- What becomes of a character where all those of the list are replaced at once. -/
def replacedAtOnce (forms : List (Char × String)) (d : Char) : List Char :=
  match forms.lookup d with
  | some form => form.toList
  | none => [d]

theorem replacedAtOnce_of_forall_ne {forms : List (Char × String)} {d : Char}
    (hne : ∀ entry ∈ forms, d ≠ entry.1) : replacedAtOnce forms d = [d] := by
  have hnone : forms.lookup d = none := by
    rw [List.lookup_eq_none_iff]
    intro entry hentry
    exact bne_iff_ne.mpr (hne entry hentry)
  rw [replacedAtOnce, hnone]

theorem flatMap_replacedAtOnce_of_forall_not_mem {forms : List (Char × String)} {cs : List Char}
    (hnot : ∀ entry ∈ forms, entry.1 ∉ cs) : cs.flatMap (replacedAtOnce forms) = cs := by
  have hkept : ∀ d ∈ cs, replacedAtOnce forms d = [d] := by
    intro d hd
    apply replacedAtOnce_of_forall_ne
    rintro entry hentry rfl
    exact hnot entry hentry hd
  rw [List.flatMap_congr hkept, List.flatMap_singleton']

/-- What is put for the first character is left alone by the replacements of the others. -/
theorem flatMap_replacedChar_replacedAtOnce {c : Char} {form : String}
    {forms : List (Char × String)} (hnot : ∀ entry ∈ forms, entry.1 ∉ form.toList) (d : Char) :
    (replacedChar c form.toList d).flatMap (replacedAtOnce forms) =
      replacedAtOnce ((c, form) :: forms) d := by
  by_cases heq : d = c
  · subst heq
    rw [replacedChar, if_pos rfl, flatMap_replacedAtOnce_of_forall_not_mem hnot, replacedAtOnce,
      List.lookup_cons_self]
  · have hlookup : ((c, form) :: forms).lookup d = forms.lookup d := by
      rw [List.lookup_cons, beq_eq_false_iff_ne.mpr heq]
    rw [replacedChar, if_neg heq, List.flatMap_singleton, replacedAtOnce, replacedAtOnce, hlookup]

/-- Replacing characters one after the other is replacing them at once, if none of them stands in
what has been put for an earlier one. -/
theorem toList_replaceInTurn {forms : List (Char × String)}
    (hforms : forms.Pairwise fun earlier later => later.1 ∉ earlier.2.toList) (s : String) :
    (replaceInTurn s forms).toList = s.toList.flatMap (replacedAtOnce forms) := by
  induction hforms generalizing s with
  | nil => exact (List.flatMap_singleton' s.toList).symm
  | @cons first rest hfirst _ ih =>
    obtain ⟨c, form⟩ := first
    calc
      (replaceInTurn (s.replace c form) rest).toList =
          (s.replace c form).toList.flatMap (replacedAtOnce rest) := ih _
      _ = s.toList.flatMap fun d =>
          (replacedChar c form.toList d).flatMap (replacedAtOnce rest) := by
        rw [toList_replace, List.flatMap_assoc]
      _ = s.toList.flatMap (replacedAtOnce ((c, form) :: rest)) :=
        List.flatMap_congr fun d _ => flatMap_replacedChar_replacedAtOnce hfirst d

theorem ofList_flatMap_eq_replaceInTurn {forms : List (Char × String)} {f : Char → List Char}
    (hforms : forms.Pairwise fun earlier later => later.1 ∉ earlier.2.toList)
    (hf : ∀ c, f c = replacedAtOnce forms c) (s : String) :
    String.ofList (s.toList.flatMap f) = replaceInTurn s forms := by
  apply String.toList_inj.mp
  rw [String.toList_ofList, toList_replaceInTurn hforms]
  exact List.flatMap_congr fun c _ => hf c

end TableFilter.Text
