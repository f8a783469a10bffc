import Mathlib.Data.List.TakeWhile
import TableFilter.Proofs.Decimal.Shortest

/-!
# Digits of a shortest text

What the digits and the exponent of the shortest text say, however they are laid out.
-/

namespace TableFilter.Decimal

/-- What follows digits does not go on with them. -/
def EndsDigits (rest : List Char) : Prop :=
  ∀ c ∈ rest.head?, c.isDigit = false

theorem takeDigits_append {digits rest : List Char} (hdigits : ∀ c ∈ digits, c.isDigit = true)
    (hrest : EndsDigits rest) : takeDigits (digits ++ rest) = (digits, rest) := by
  have hstop : rest.takeWhile Char.isDigit = [] ∧ rest.dropWhile Char.isDigit = rest := by
    cases rest with
    | nil => simp
    | cons c rest =>
      have hc : c.isDigit = false := hrest c rfl
      simp [hc]
  rw [takeDigits, List.takeWhile_append_of_pos hdigits, List.dropWhile_append_of_pos hdigits,
    hstop.1, hstop.2, List.append_nil]

theorem digitsValue_eq_ofDigitChars (digits : List Char) :
    digitsValue digits = Nat.ofDigitChars 10 digits 0 :=
  rfl

theorem digitsValue_toDigits (n : Nat) : digitsValue (Nat.toDigits 10 n) = n :=
  Nat.ofDigitChars_ten_toDigits

theorem digitsValue_append_zeros (digits : List Char) (count : Nat) :
    digitsValue (digits ++ List.replicate count '0') = digitsValue digits * 10 ^ count := by
  rw [digitsValue_eq_ofDigitChars, Nat.ofDigitChars_append, Nat.ofDigitChars_replicate_zero,
    Nat.mul_comm]
  rfl

theorem digitsValue_zeros_append (digits : List Char) (count : Nat) :
    digitsValue (List.replicate count '0' ++ digits) = digitsValue digits := by
  rw [digitsValue_eq_ofDigitChars, Nat.ofDigitChars_append, Nat.ofDigitChars_replicate_zero,
    Nat.mul_zero]
  rfl

theorem isDigit_of_mem_toDigits {n : Nat} {c : Char} (hmem : c ∈ Nat.toDigits 10 n) :
    c.isDigit = true :=
  Nat.isDigit_of_mem_toDigits (by decide) (by decide) hmem

/-- A positive number does not start with a zero. -/
theorem head_toDigits_ne_zero {n : Nat} (hpos : n ≠ 0) :
    ∀ c ∈ (Nat.toDigits 10 n).head?, c ≠ '0' := by
  induction n using Nat.strongRecOn with
  | ind n ih =>
    by_cases hsmall : n < 10
    · rw [Nat.toDigits_of_lt_base hsmall]
      rintro c ⟨⟩
      have hvalue := Nat.toNat_digitChar_sub_48_of_lt_ten hsmall
      rintro hzero
      rw [hzero] at hvalue
      exact hpos hvalue.symm
    · have hrest := ih (n / 10) (by omega) (by omega)
      rw [Nat.toDigits_of_base_le (by decide) (by omega)]
      cases hdigits : Nat.toDigits 10 (n / 10) with
      | nil => exact absurd hdigits Nat.toDigits_ne_nil
      | cons d ds =>
        rw [hdigits] at hrest
        exact hrest

theorem exists_zeros_of_withoutTrailingZeros (digits : List Char) :
    ∃ count, digits = withoutTrailingZeros digits ++ List.replicate count '0' := by
  refine ⟨(digits.reverse.takeWhile (· == '0')).length, ?_⟩
  have hzeros : digits.reverse.takeWhile (· == '0') =
      List.replicate (digits.reverse.takeWhile (· == '0')).length '0' := by
    rw [List.eq_replicate_iff]
    refine ⟨rfl, fun c hmem => ?_⟩
    simpa using List.mem_takeWhile_imp hmem
  rw [withoutTrailingZeros, ← List.reverse_replicate, ← hzeros, ← List.reverse_append,
    List.takeWhile_append_dropWhile, List.reverse_reverse]

/-- Digits `d₁d₂…` and an exponent `e` say `d₁.d₂… · 10 ^ e`, and that lies in the basin of a
double. -/
structure Denotes (x : Binary64) (digits : List Char) (exponent : Int) : Prop where
  isDigit : ∀ c ∈ digits, c.isDigit = true
  ne_nil : digits ≠ []
  head_ne_zero : ∀ c ∈ digits.head?, c ≠ '0'
  least_le : -(decimalPlaces : Int) ≤ exponent + 1 - digits.length
  holds : (Basin.of x).holds (digitsValue digits *
    10 ^ (exponent + 1 - digits.length + decimalPlaces).toNat) = true

theorem denotes_scientific {x : Binary64} (hpos : x.significand ≠ 0) {n places : Nat}
    (hholds : (Basin.of x).holds (n * 10 ^ places) = true) :
    Denotes x (scientific n places).1 (scientific n places).2 := by
  simp only [scientific]
  have hne : n ≠ 0 := by
    rintro rfl
    have := lt_of_holds_small hpos 0 hholds (by simp)
    omega
  obtain ⟨count, hcount⟩ := exists_zeros_of_withoutTrailingZeros (Nat.toDigits 10 n)
  have hvalue := digitsValue_toDigits n
  have hlength := congrArg List.length hcount
  rw [List.length_append, List.length_replicate] at hlength
  rw [hcount, digitsValue_append_zeros] at hvalue
  generalize hdigits : withoutTrailingZeros (Nat.toDigits 10 n) = digits at *
  have hnil : digits ≠ [] := by
    rintro rfl
    exact hne (by rw [← hvalue]; exact Nat.zero_mul _)
  refine ⟨?_, hnil, ?_, by omega, ?_⟩
  · intro c hmem
    exact isDigit_of_mem_toDigits (n := n) (hcount ▸ List.mem_append_left _ hmem)
  · intro c hhead
    apply head_toDigits_ne_zero hne
    rw [hcount]
    cases digits with
    | nil => exact absurd rfl hnil
    | cons d ds => exact hhead
  · have hpower : (places + (Nat.toDigits 10 n).length - 1 - decimalPlaces + 1 -
        digits.length + decimalPlaces : Int).toNat = count + places := by omega
    rw [hpower, pow_add, ← Nat.mul_assoc, hvalue]
    exact hholds

theorem denotes_shortestDigits {x : Binary64} (hpos : x.significand ≠ 0) :
    Denotes x (shortestDigits x).1 (shortestDigits x).2 :=
  denotes_scientific hpos (Basin.holds_coarsest (x.exists_onGrid?_zero hpos) _)

end TableFilter.Decimal
