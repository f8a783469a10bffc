import TableFilter.Text.Case

/-!
# What lower case keeps

A text has a character in lower case if it has one at all. A part of a text has the lower-case form
that it has by itself just where every capital sigma in it ends a word in both, or in neither. Main
statement: `lowerWithin_eq_iff`.
-/

namespace TableFilter.Text

theorem lowerChar_ne_nil (c : Char) : lowerChar c ≠ [] := by
  unfold lowerChar
  split
  · nofun
  · split <;> nofun

theorem lowerChars_eq_nil_iff (cs : List Char) : lowerChars cs = [] ↔ cs = [] := by
  cases cs with
  | nil => simp [lowerChars, lowerAfter]
  | cons c cs =>
    have hfirst : lowerAfter [] (c :: cs) ≠ [] := by
      rw [lowerAfter]
      split
      · nofun
      · exact List.append_ne_nil_of_left_ne_nil (lowerChar_ne_nil c) _
    simp [lowerChars, hfirst]

/-! ## Parts of a text -/

/-- Whether a word ends between what precedes, nearest character first, and what follows. -/
def endsWordBetween (before after : List Char) : Bool :=
  startsCased before && !startsCased after

/-- The lower-case form of a character that has something before it, nearest character first, and
something after it. -/
def lowerBetween (before after : List Char) (c : Char) : List Char :=
  if c = 'Σ' then [if endsWordBetween before after then 'ς' else 'σ'] else lowerChar c

/-- The lower-case form of a part of a text that has something before it, nearest character first,
and something after it. -/
def lowerWithin (before after : List Char) : List Char → List Char
  | [] => []
  | c :: rest => lowerBetween before (rest ++ after) c ++ lowerWithin (c :: before) after rest

theorem lowerAfter_append (before part after : List Char) :
    lowerAfter before (part ++ after) =
      lowerWithin before after part ++ lowerAfter (part.reverse ++ before) after := by
  induction part generalizing before with
  | nil => rfl
  | cons c rest ih =>
    rw [List.cons_append, lowerAfter, lowerWithin, ih, List.append_assoc, List.reverse_cons,
      List.append_assoc, List.singleton_append]
    rfl

theorem lowerWithin_nil_right (before part : List Char) :
    lowerWithin before [] part = lowerAfter before part := by
  have hsplit := lowerAfter_append before part []
  rw [List.append_nil, lowerAfter, List.append_nil] at hsplit
  exact hsplit.symm

theorem lowerChars_append (before part after : List Char) :
    lowerChars (before ++ part ++ after) =
      lowerWithin [] (part ++ after) before ++ lowerWithin before.reverse after part ++
        lowerAfter (part.reverse ++ before.reverse) after := by
  rw [lowerChars, List.append_assoc, lowerAfter_append, lowerAfter_append, List.append_nil,
    List.append_assoc]

theorem length_lowerBetween (before after before' after' : List Char) (c : Char) :
    (lowerBetween before after c).length = (lowerBetween before' after' c).length := by
  unfold lowerBetween
  split <;> rfl

/-- How many characters the lower-case form has does not depend on the surroundings. -/
theorem length_lowerWithin (part before after before' after' : List Char) :
    (lowerWithin before after part).length = (lowerWithin before' after' part).length := by
  induction part generalizing before before' with
  | nil => rfl
  | cons c rest ih =>
    rw [lowerWithin, lowerWithin, List.length_append, List.length_append, ih _ (c :: before'),
      length_lowerBetween]

/-- The capital sigmas of a part end a word, or do not, alike in two surroundings. -/
def SigmasAgree (part before after before' after' : List Char) : Prop :=
  ∀ start rest, part = start ++ 'Σ' :: rest →
    endsWordBetween (start.reverse ++ before) (rest ++ after) =
      endsWordBetween (start.reverse ++ before') (rest ++ after')

theorem lowerBetween_eq_iff (before after before' after' : List Char) (c : Char) :
    lowerBetween before after c = lowerBetween before' after' c ↔
      (c = 'Σ' → endsWordBetween before after = endsWordBetween before' after') := by
  unfold lowerBetween
  split
  next hsigma =>
    cases endsWordBetween before after <;> cases endsWordBetween before' after' <;> simp [hsigma]
  next hsigma => simp [hsigma]

theorem sigmasAgree_nil (before after before' after' : List Char) :
    SigmasAgree [] before after before' after' := by
  intro start rest hsplit
  simp at hsplit

theorem sigmasAgree_cons_iff (c : Char) (part before after before' after' : List Char) :
    SigmasAgree (c :: part) before after before' after' ↔
      (c = 'Σ' →
          endsWordBetween before (part ++ after) = endsWordBetween before' (part ++ after')) ∧
        SigmasAgree part (c :: before) after (c :: before') after' := by
  have hreverse (start around : List Char) :
      (c :: start).reverse ++ around = start.reverse ++ c :: around := by
    simp
  constructor
  · intro hagree
    constructor
    · rintro rfl
      exact hagree [] part rfl
    · rintro start rest rfl
      have hstart := hagree (c :: start) rest rfl
      rwa [hreverse, hreverse] at hstart
  · rintro ⟨hfirst, hagree⟩ start rest hsplit
    -- The sigma is the first character, or it stands in the rest.
    cases start with
    | nil =>
      obtain ⟨rfl, rfl⟩ := List.cons.inj hsplit
      exact hfirst rfl
    | cons d start =>
      obtain ⟨rfl, rfl⟩ := List.cons.inj hsplit
      rw [hreverse, hreverse]
      exact hagree start rest rfl

theorem sigmasAgree_of_not_mem {part : List Char} (hnone : 'Σ' ∉ part)
    (before after before' after' : List Char) : SigmasAgree part before after before' after' := by
  rintro start rest rfl
  simp at hnone

/-- A part of a text has one lower-case form in two surroundings exactly if its capital sigmas
agree in them. -/
theorem lowerWithin_eq_iff (part before after before' after' : List Char) :
    lowerWithin before after part = lowerWithin before' after' part ↔
      SigmasAgree part before after before' after' := by
  induction part generalizing before before' with
  | nil => exact ⟨fun _ => sigmasAgree_nil _ _ _ _, fun _ => rfl⟩
  | cons c rest ih =>
    rw [lowerWithin, lowerWithin, sigmasAgree_cons_iff, ← lowerBetween_eq_iff, ← ih]
    constructor
    · intro heq
      exact List.append_inj heq (length_lowerBetween _ _ _ _ c)
    · rintro ⟨hfirst, hrest⟩
      rw [hfirst, hrest]

/-! ## Parts that are found -/

section Part

variable {part before after : List Char}

theorem lowerWithin_alone (part : List Char) : lowerWithin [] [] part = lowerChars part :=
  lowerWithin_nil_right [] part

theorem lowerWithin_eq_lowerChars_iff :
    lowerWithin before after part = lowerChars part ↔ SigmasAgree part before after [] [] := by
  rw [← lowerWithin_alone, lowerWithin_eq_iff]

theorem length_lowerChars (part before after : List Char) :
    (lowerChars part).length = (lowerWithin before after part).length := by
  rw [← lowerWithin_alone, length_lowerWithin part [] [] before after]

theorem infix_lowerChars (hagree : SigmasAgree part before.reverse after [] []) :
    lowerChars part <:+: lowerChars (before ++ part ++ after) := by
  rw [lowerChars_append, lowerWithin_eq_lowerChars_iff.mpr hagree]
  exact List.infix_append _ _ _

/-- The lower-case form of a part is as long within the text as by itself, so nothing else can
stand at the start. -/
theorem prefix_lowerChars_iff :
    lowerChars part <+: lowerChars (part ++ after) ↔ SigmasAgree part [] after [] [] := by
  have hsplit : lowerChars (part ++ after) = lowerWithin [] after part ++ _ :=
    lowerAfter_append [] part after
  rw [← lowerWithin_eq_lowerChars_iff, hsplit]
  constructor
  · rintro ⟨rest, hrest⟩
    exact (List.append_inj_left hrest (length_lowerChars part [] after)).symm
  · intro hform
    rw [hform]
    exact List.prefix_append _ _

theorem suffix_lowerChars_iff :
    lowerChars part <:+ lowerChars (before ++ part) ↔ SigmasAgree part before.reverse [] [] [] := by
  have hsplit : lowerChars (before ++ part) =
      lowerWithin [] part before ++ lowerWithin before.reverse [] part := by
    simpa [lowerAfter] using lowerChars_append before part []
  rw [← lowerWithin_eq_lowerChars_iff, hsplit]
  constructor
  · rintro ⟨start, hstart⟩
    exact (List.append_inj_right' hstart (length_lowerChars part before.reverse [])).symm
  · intro hform
    rw [hform]
    exact List.suffix_append _ _

end Part

end TableFilter.Text
