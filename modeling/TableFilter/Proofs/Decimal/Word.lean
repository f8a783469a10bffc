import TableFilter.Decimal.Word

/-!
# Whole numbers of 64 bits in texts

A whole number is read from its digits, which may have a plus in front, exactly if it fits 64 bits.
Main statement: `readWord_eq_ok_iff`.
-/

namespace TableFilter.Decimal

/-- The characters are digits that stand for a number, perhaps with a plus in front. -/
def IsNumeral (cs : List Char) (n : Nat) : Prop :=
  ∃ digits, (cs = digits ∨ cs = '+' :: digits) ∧ digits ≠ [] ∧
    (∀ d ∈ digits, d.isDigit = true) ∧ Nat.ofDigitChars 10 digits 0 = n

theorem le_ofDigitChars (n : Nat) (cs : List Char) : n ≤ Nat.ofDigitChars 10 cs n := by
  induction cs generalizing n with
  | nil => exact Nat.le_refl n
  | cons c cs ih =>
    rw [Nat.ofDigitChars_cons]
    have hrest := ih (10 * n + (c.toNat - '0'.toNat))
    omega

/-- Behind a number that fits, digits are read as long as the number fits. -/
theorem wordFrom_eq_ok_iff {n : Nat} (hfits : n < UInt64.size) {cs : List Char} {w : UInt64} :
    wordFrom n cs = .ok w ↔
      (∀ d ∈ cs, d.isDigit = true) ∧ Nat.ofDigitChars 10 cs n = w.toNat := by
  induction cs generalizing n with
  | nil =>
    have hword : UInt64.ofNat n = w ↔ n = w.toNat := by
      rw [← UInt64.toNat_inj, UInt64.toNat_ofNat_of_lt' hfits]
    simp [wordFrom, hword]
  | cons c cs ih =>
    rw [wordFrom, List.forall_mem_cons, Nat.ofDigitChars_cons]
    by_cases hdigit : c.isDigit = true
    · have hzero : '0'.toNat = 48 := rfl
      simp only [hdigit, Bool.not_true, Bool.false_eq_true, if_false, true_and, hzero]
      split
      next hnext => exact ih hnext
      next hlarge =>
        -- the digits that follow can only make it larger
        have hmore := le_ofDigitChars (10 * n + (c.toNat - 48)) cs
        have hword := w.toNat_lt_size
        refine iff_of_false (by simp) ?_
        rintro ⟨-, hvalue⟩
        omega
    · simp [hdigit]

theorem isNumeral_plus_iff {cs : List Char} {n : Nat} :
    IsNumeral ('+' :: cs) n ↔
      cs ≠ [] ∧ (∀ d ∈ cs, d.isDigit = true) ∧ Nat.ofDigitChars 10 cs 0 = n := by
  constructor
  · rintro ⟨digits, rfl | heq, hne, hdigits, hvalue⟩
    · exact absurd (hdigits '+' List.mem_cons_self) (by decide)
    · cases heq
      exact ⟨hne, hdigits, hvalue⟩
  · rintro ⟨hne, hdigits, hvalue⟩
    exact ⟨cs, .inr rfl, hne, hdigits, hvalue⟩

theorem isNumeral_iff_of_ne_plus {cs : List Char} {n : Nat} (hplus : cs.head? ≠ some '+') :
    IsNumeral cs n ↔
      cs ≠ [] ∧ (∀ d ∈ cs, d.isDigit = true) ∧ Nat.ofDigitChars 10 cs 0 = n := by
  constructor
  · rintro ⟨digits, rfl | rfl, hnumber⟩
    · exact hnumber
    · exact absurd rfl hplus
  · intro hnumber
    exact ⟨cs, .inl rfl, hnumber⟩

/-- A text is read as a word exactly if it is a numeral of the word. -/
theorem readWord_eq_ok_iff {s : String} {w : UInt64} :
    readWord s = .ok w ↔ IsNumeral s.toList w.toNat := by
  have hzero : 0 < UInt64.size := by decide
  unfold readWord
  split
  next hnil =>
    rw [hnil, isNumeral_iff_of_ne_plus (by simp)]
    simp
  next hplus =>
    rw [hplus, isNumeral_plus_iff]
    simp
  next rest hnot hplus =>
    rw [hplus, isNumeral_plus_iff, wordFrom_eq_ok_iff hzero]
    have hne : rest ≠ [] := hnot
    simp [hne]
  next hnil hplus hrest =>
    have hne : s.toList ≠ [] := hnil
    have hhead : s.toList.head? ≠ some '+' := by
      intro hhead
      obtain ⟨rest, hcs⟩ := List.head?_eq_some_iff.mp hhead
      exact hrest rest hcs
    rw [isNumeral_iff_of_ne_plus hhead, wordFrom_eq_ok_iff hzero]
    simp [hne]

end TableFilter.Decimal
