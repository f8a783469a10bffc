import TableFilter.Json.Token
import TableFilter.Proofs.Decimal.Digits

/-!
# Numbers read back

The token of a printed number is that number. Main statement: no number is changed by being
printed and read, whatever text without a digit, point or exponent in front comes behind it.
-/

namespace TableFilter.Json

open Decimal

/-- What follows a number does not go on with it. -/
def EndsNumber (rest : List Char) : Prop :=
  ∀ c ∈ rest.head?, c.isDigit = false ∧ c ≠ '.' ∧ c ≠ 'e' ∧ c ≠ 'E'

theorem endsNumber_cons {c : Char}
    (hc : c.isDigit = false ∧ c ≠ '.' ∧ c ≠ 'e' ∧ c ≠ 'E') (rest : List Char) :
    EndsNumber (c :: rest) := by
  rintro _ ⟨⟩
  exact hc

theorem endsNumber_nil : EndsNumber [] := by
  rintro _ ⟨⟩

theorem EndsNumber.endsDigits {rest : List Char} (hrest : EndsNumber rest) : EndsDigits rest :=
  fun c hc => (hrest c hc).1

theorem fraction?_of_endsNumber {rest : List Char} (hrest : EndsNumber rest) :
    fraction? rest = some ([], rest) := by
  cases rest with
  | nil => rfl
  | cons c rest =>
    have hpoint : c ≠ '.' := (hrest c rfl).2.1
    unfold fraction?
    split
    next heq =>
      cases heq
      exact absurd rfl hpoint
    next => rfl

theorem power?_of_endsNumber {rest : List Char} (hrest : EndsNumber rest) :
    power? rest = some (none, rest) := by
  cases rest with
  | nil => rfl
  | cons c rest =>
    obtain ⟨-, -, hlower, hupper⟩ := hrest c rfl
    simp [power?, hlower, hupper]

/-- The fraction of a numeral as it is written. -/
def fractionChars : List Char → List Char
  | [] => []
  | d :: ds => '.' :: d :: ds

theorem fraction?_fractionChars {fraction rest : List Char}
    (hfraction : ∀ c ∈ fraction, c.isDigit = true) (hrest : EndsDigits rest)
    (hpoint : ∀ c ∈ rest.head?, c ≠ '.') :
    fraction? (fractionChars fraction ++ rest) = some (fraction, rest) := by
  cases fraction with
  | nil =>
    cases rest with
    | nil => rfl
    | cons c rest =>
      change fraction? (c :: rest) = _
      unfold fraction?
      split
      next heq =>
        cases heq
        exact absurd rfl (hpoint '.' rfl)
      next => rfl
  | cons d ds =>
    change fraction? ('.' :: ((d :: ds) ++ rest)) = _
    simp only [fraction?, takeDigits_append hfraction hrest]
    rfl

theorem endsDigits_fractionChars {fraction rest : List Char} (hrest : EndsDigits rest) :
    EndsDigits (fractionChars fraction ++ rest) := by
  cases fraction with
  | nil => exact hrest
  | cons d ds =>
    rintro c ⟨⟩
    rfl

theorem numberToken_integer {negative : Bool} {whole rest : List Char}
    (hdigits : ∀ c ∈ whole, c.isDigit = true) (hwhole : isWholePart whole = true)
    (hrest : EndsNumber rest) :
    numberToken negative (whole ++ rest) =
      (.number (Number.ofInteger? negative (digitsValue whole)), rest) := by
  simp only [numberToken, takeDigits_append hdigits hrest.endsDigits, hwhole,
    fraction?_of_endsNumber hrest, power?_of_endsNumber hrest]
  rfl

theorem numberToken_fraction {negative : Bool} {whole fraction rest : List Char}
    (hdigits : ∀ c ∈ whole, c.isDigit = true) (hwhole : isWholePart whole = true)
    (hfraction : ∀ c ∈ fraction, c.isDigit = true) (hne : fraction ≠ [])
    (hrest : EndsNumber rest) :
    numberToken negative (whole ++ (fractionChars fraction ++ rest)) =
      (.number ((Numeral.mk negative whole fraction 0).toDouble?.map .double), rest) := by
  have hpoint : ∀ c ∈ rest.head?, c ≠ '.' := fun c hc => (hrest c hc).2.1
  have hempty : fraction.isEmpty = false := by simpa using hne
  simp only [numberToken,
    takeDigits_append hdigits (endsDigits_fractionChars hrest.endsDigits), hwhole,
    fraction?_fractionChars hfraction hrest.endsDigits hpoint, power?_of_endsNumber hrest, hempty]
  rfl

/-- The exponent of a numeral as it is written. -/
def exponentChars (exponent : Int) : List Char :=
  (if exponent < 0 then '-' else '+') :: Nat.toDigits 10 exponent.natAbs

theorem exponentOf?_exponentChars (exponent : Int) {rest : List Char} (hrest : EndsDigits rest) :
    exponentOf? (exponentChars exponent ++ rest) = some (exponent, rest) := by
  have hdigits := takeDigits_append (fun c => @isDigit_of_mem_toDigits exponent.natAbs c) hrest
  have hempty : (Nat.toDigits 10 exponent.natAbs).isEmpty = false := by
    simp [Nat.toDigits_ne_nil]
  by_cases hneg : exponent < 0
  · have hvalue : -(exponent.natAbs : Int) = exponent := by omega
    simp only [exponentChars, if_pos hneg, List.cons_append, exponentOf?, takeSign, hdigits, hempty,
      digitsValue_toDigits, Bool.false_eq_true, if_false, if_true, hvalue]
  · have hvalue : (exponent.natAbs : Int) = exponent := by omega
    simp only [exponentChars, if_neg hneg, List.cons_append, exponentOf?, takeSign, hdigits, hempty,
      digitsValue_toDigits, Bool.false_eq_true, if_false, hvalue]

theorem numberToken_exponent {negative : Bool} {whole fraction rest : List Char} (exponent : Int)
    (hdigits : ∀ c ∈ whole, c.isDigit = true) (hwhole : isWholePart whole = true)
    (hfraction : ∀ c ∈ fraction, c.isDigit = true) (hrest : EndsDigits rest) :
    numberToken negative
        (whole ++ (fractionChars fraction ++ 'e' :: (exponentChars exponent ++ rest))) =
      (.number ((Numeral.mk negative whole fraction exponent).toDouble?.map .double), rest) := by
  have hends : EndsDigits ('e' :: (exponentChars exponent ++ rest)) := by
    rintro c ⟨⟩
    rfl
  have hpoint : ∀ c ∈ ('e' :: (exponentChars exponent ++ rest)).head?, c ≠ '.' := by
    rintro c ⟨⟩
    decide
  have hpower : power? ('e' :: (exponentChars exponent ++ rest)) = some (some exponent, rest) := by
    simp [power?, exponentOf?_exponentChars exponent hrest]
  simp only [numberToken, takeDigits_append hdigits (endsDigits_fractionChars hends), hwhole,
    fraction?_fractionChars hfraction hends hpoint, hpower]
  rfl

theorem isDigit_of_mem_zeros (count : Nat) :
    ∀ c ∈ List.replicate count '0', c.isDigit = true := by
  intro c hmem
  rw [List.eq_of_mem_replicate hmem]
  rfl

theorem isWholePart_of_head_ne_zero {c : Char} {digits : List Char} (hne : c ≠ '0') :
    isWholePart (c :: digits) = true := by
  unfold isWholePart
  split
  next heq => cases heq
  next heq =>
    cases heq
    exact absurd rfl hne
  next => rfl

theorem isWholePart_single (c : Char) : isWholePart [c] = true := by
  by_cases hzero : c = '0'
  · rw [hzero]
    rfl
  · exact isWholePart_of_head_ne_zero hzero

theorem layout_scientific {exponent : Int} (hfar : exponent < -5 ∨ 15 < exponent) (d : Char)
    (ds : List Char) :
    layout (d :: ds) exponent = [d] ++ (fractionChars ds ++ 'e' :: exponentChars exponent) := by
  have hcond : (decide (exponent < -5) || decide (15 < exponent)) = true := by simpa using hfar
  unfold layout
  rw [if_pos hcond]
  cases ds with
  | nil => simp [fractionChars, exponentChars]
  | cons e ds => simp [fractionChars, exponentChars]

theorem layout_small {exponent : Int} (hnear : -5 ≤ exponent) (hneg : exponent < 0) (d : Char)
    (ds : List Char) :
    layout (d :: ds) exponent =
      ['0'] ++ fractionChars (List.replicate (exponent.natAbs - 1) '0' ++ d :: ds) := by
  have hcond : (decide (exponent < -5) || decide (15 < exponent)) = false := by
    simp
    omega
  have hfraction (zeros : List Char) :
      fractionChars (zeros ++ d :: ds) = '.' :: (zeros ++ d :: ds) := by
    cases zeros <;> rfl
  unfold layout
  rw [hcond, if_neg Bool.false_ne_true, if_pos hneg, hfraction]
  rfl

/-- The digits after the point where some stand in front of it. -/
def fractionOf (digits : List Char) (places : Nat) : List Char :=
  if (digits.drop places).isEmpty then ['0'] else digits.drop places

theorem layout_large {exponent : Int} (hnear : exponent ≤ 15) (hnonneg : 0 ≤ exponent)
    (digits : List Char) :
    layout digits exponent = (digits.take (exponent.toNat + 1) ++
        List.replicate (exponent.toNat + 1 - (digits.take (exponent.toNat + 1)).length) '0') ++
      fractionChars (fractionOf digits (exponent.toNat + 1)) := by
  have hcond : (decide (exponent < -5) || decide (15 < exponent)) = false := by
    simp
    omega
  unfold layout
  rw [hcond, if_neg Bool.false_ne_true, if_neg (by omega)]
  simp only [fractionOf]
  generalize digits.drop (exponent.toNat + 1) = fraction
  cases fraction <;> simp [fractionChars]

section Layout

variable {x : Binary64} {d : Char} {ds rest : List Char} {exponent : Int}

theorem toDouble?_of_denotes (hpos : x.significand ≠ 0) (hdenotes : Denotes x (d :: ds) exponent)
    (negative : Bool) {whole fraction : List Char} {power : Int}
    (hvalue : digitsValue (whole ++ fraction) = digitsValue (d :: ds))
    (hpower : power - fraction.length = exponent + 1 - (d :: ds).length) :
    (Numeral.mk negative whole fraction power).toDouble? = some { x with negative } := by
  rw [Numeral.toDouble?, hvalue, hpower]
  exact nearestDouble?_of_holds hpos hdenotes.least_le hdenotes.holds negative

theorem numberToken_layout_scientific (hpos : x.significand ≠ 0)
    (hdenotes : Denotes x (d :: ds) exponent) (negative : Bool) (hrest : EndsNumber rest)
    (hfar : exponent < -5 ∨ 15 < exponent) :
    numberToken negative (layout (d :: ds) exponent ++ rest) =
      (.number (some (.double { x with negative })), rest) := by
  have hds : ∀ c ∈ ds, c.isDigit = true :=
    fun c hmem => hdenotes.isDigit c (List.mem_cons_of_mem _ hmem)
  have hd : ∀ c ∈ [d], c.isDigit = true := by
    intro c hmem
    rw [List.mem_singleton.mp hmem]
    exact hdenotes.isDigit d List.mem_cons_self
  have hread : (Numeral.mk negative [d] ds exponent).toDouble? = some { x with negative } :=
    toDouble?_of_denotes hpos hdenotes negative rfl (by simp)
  have happend : layout (d :: ds) exponent ++ rest =
      [d] ++ (fractionChars ds ++ 'e' :: (exponentChars exponent ++ rest)) := by
    rw [layout_scientific hfar]
    simp
  rw [happend, numberToken_exponent exponent hd (isWholePart_single d) hds hrest.endsDigits, hread]
  rfl

theorem numberToken_layout_small (hpos : x.significand ≠ 0)
    (hdenotes : Denotes x (d :: ds) exponent) (negative : Bool) (hrest : EndsNumber rest)
    (hnear : -5 ≤ exponent) (hneg : exponent < 0) :
    numberToken negative (layout (d :: ds) exponent ++ rest) =
      (.number (some (.double { x with negative })), rest) := by
  generalize hcount : exponent.natAbs - 1 = count
  have hread : (Numeral.mk negative ['0'] (List.replicate count '0' ++ d :: ds) 0).toDouble? =
      some { x with negative } := by
    apply toDouble?_of_denotes hpos hdenotes negative
    · exact digitsValue_zeros_append (d :: ds) (count + 1)
    · simp
      omega
  have hdigits : ∀ c ∈ List.replicate count '0' ++ d :: ds, c.isDigit = true :=
    List.forall_mem_append.mpr ⟨isDigit_of_mem_zeros count, hdenotes.isDigit⟩
  rw [layout_small hnear hneg, hcount, List.append_assoc, numberToken_fraction (by simp) rfl
    hdigits (by simp) hrest, hread]
  rfl

/-- With a digit after the point, the point stands among the digits. -/
theorem numberToken_layout_inside (hpos : x.significand ≠ 0)
    (hdenotes : Denotes x (d :: ds) exponent) (negative : Bool) (hrest : EndsNumber rest)
    (hnear : exponent ≤ 15) (hnonneg : 0 ≤ exponent) (hlong : exponent.toNat < ds.length) :
    numberToken negative (layout (d :: ds) exponent ++ rest) =
      (.number (some (.double { x with negative })), rest) := by
  have hfraction : fractionOf (d :: ds) (exponent.toNat + 1) = ds.drop exponent.toNat := by
    simp [fractionOf]
    omega
  have hread : (Numeral.mk negative (d :: ds.take exponent.toNat)
      (ds.drop exponent.toNat) 0).toDouble? = some { x with negative } := by
    apply toDouble?_of_denotes hpos hdenotes negative
    · rw [List.cons_append, List.take_append_drop]
    · simp
      omega
  have hdigits : ∀ c ∈ d :: ds.take exponent.toNat, c.isDigit = true := by
    intro c hmem
    exact hdenotes.isDigit c (List.mem_of_mem_take (i := exponent.toNat + 1) hmem)
  have hne : ds.drop exponent.toNat ≠ [] := by
    simpa using hlong
  have happend : layout (d :: ds) exponent ++ rest =
      d :: ds.take exponent.toNat ++ (fractionChars (ds.drop exponent.toNat) ++ rest) := by
    rw [layout_large hnear hnonneg, hfraction]
    simp
    omega
  rw [happend, numberToken_fraction hdigits
    (isWholePart_of_head_ne_zero (hdenotes.head_ne_zero d rfl))
    (fun c hmem => hdenotes.isDigit c (List.mem_cons_of_mem _ (List.mem_of_mem_drop hmem))) hne
    hrest, hread]
  rfl

/-- Without a digit after the point, zeros fill up the digits in front of it. -/
theorem numberToken_layout_filled (hpos : x.significand ≠ 0)
    (hdenotes : Denotes x (d :: ds) exponent) (negative : Bool) (hrest : EndsNumber rest)
    (hnear : exponent ≤ 15) (hnonneg : 0 ≤ exponent) (hshort : ds.length ≤ exponent.toNat) :
    numberToken negative (layout (d :: ds) exponent ++ rest) =
      (.number (some (.double { x with negative })), rest) := by
  generalize hcount : exponent.toNat - ds.length = count
  have happend : layout (d :: ds) exponent ++ rest =
      (d :: ds ++ List.replicate count '0') ++ (fractionChars ['0'] ++ rest) := by
    have htake : ds.take exponent.toNat = ds := List.take_of_length_le hshort
    have hfraction : fractionOf (d :: ds) (exponent.toNat + 1) = ['0'] := by
      simp [fractionOf, hshort]
    rw [layout_large hnear hnonneg, hfraction]
    simp [htake, ← hcount]
  have hread : (Numeral.mk negative (d :: ds ++ List.replicate count '0') ['0'] 0).toDouble? =
      some { x with negative } := by
    have hvalue : digitsValue (d :: ds ++ List.replicate count '0' ++ ['0']) =
        digitsValue (d :: ds) * 10 ^ (count + 1) := by
      rw [← digitsValue_append_zeros, List.replicate_succ', List.append_assoc]
    have hholds := hdenotes.holds
    have hpower : (exponent + 1 - (d :: ds).length + decimalPlaces).toNat =
        count + 1 + (0 - (['0'] : List Char).length + decimalPlaces : Int).toNat := by
      have : decimalPlaces = 342 := rfl
      simp
      omega
    rw [hpower, pow_add, ← Nat.mul_assoc] at hholds
    rw [Numeral.toDouble?, hvalue]
    refine nearestDouble?_of_holds hpos ?_ hholds negative
    decide
  have hdigits : ∀ c ∈ d :: ds ++ List.replicate count '0', c.isDigit = true :=
    List.forall_mem_append.mpr ⟨hdenotes.isDigit, isDigit_of_mem_zeros count⟩
  rw [happend, numberToken_fraction hdigits
    (isWholePart_of_head_ne_zero (hdenotes.head_ne_zero d rfl)) (by simp) (by simp) hrest, hread]
  rfl

/-- Digits and an exponent are read as the double in whose basin they lie, however they are laid
out. -/
theorem numberToken_layout (hpos : x.significand ≠ 0) {digits : List Char}
    (hdenotes : Denotes x digits exponent) (negative : Bool) (hrest : EndsNumber rest) :
    numberToken negative (layout digits exponent ++ rest) =
      (.number (some (.double { x with negative })), rest) := by
  rcases digits with _ | ⟨d, ds⟩
  · exact absurd rfl hdenotes.ne_nil
  · by_cases hfar : exponent < -5 ∨ 15 < exponent
    · exact numberToken_layout_scientific hpos hdenotes negative hrest hfar
    · by_cases hneg : exponent < 0
      · exact numberToken_layout_small hpos hdenotes negative hrest (by omega) hneg
      · rcases Nat.lt_or_ge exponent.toNat ds.length with hlong | hshort
        · exact numberToken_layout_inside hpos hdenotes negative hrest (by omega) (by omega) hlong
        · exact numberToken_layout_filled hpos hdenotes negative hrest (by omega) (by omega) hshort

theorem exists_digit_layout (hdenotes : Denotes x (d :: ds) exponent) :
    ∃ c cs, layout (d :: ds) exponent = c :: cs ∧ c.isDigit = true := by
  have hd := hdenotes.isDigit d List.mem_cons_self
  by_cases hfar : exponent < -5 ∨ 15 < exponent
  · exact ⟨d, _, layout_scientific hfar d ds, hd⟩
  · by_cases hneg : exponent < 0
    · exact ⟨'0', _, layout_small (by omega) hneg d ds, rfl⟩
    · exact ⟨d, _, layout_large (by omega) (by omega) (d :: ds), hd⟩

end Layout

theorem numberToken_unsignedChars (x : Binary64) (negative : Bool) {rest : List Char}
    (hrest : EndsNumber rest) :
    numberToken negative (x.unsignedChars ++ rest) =
      (.number (some (.double { x with negative })), rest) := by
  rw [Binary64.unsignedChars]
  split
  case isTrue hzero =>
    have hform := x.canonical.2.2
    have hscale : x.scale = 0 := by omega
    have hread : (Numeral.mk negative ['0'] ['0'] 0).toDouble? = some { x with negative } := by
      change some (Binary64.zero negative) = _
      simp only [Binary64.zero, hzero, hscale]
    change numberToken negative (['0'] ++ (fractionChars ['0'] ++ rest)) = _
    rw [numberToken_fraction (by simp) rfl (by simp) (by simp) hrest, hread]
    rfl
  case isFalse hpos =>
    exact numberToken_layout hpos (denotes_shortestDigits hpos) negative hrest

theorem exists_digit_unsignedChars (x : Binary64) :
    ∃ c cs, x.unsignedChars = c :: cs ∧ c.isDigit = true := by
  rw [Binary64.unsignedChars]
  split
  case isTrue => exact ⟨'0', _, rfl, rfl⟩
  case isFalse hpos =>
    have hdenotes := denotes_shortestDigits hpos
    cases hdigits : (shortestDigits x).1 with
    | nil => exact absurd hdigits hdenotes.ne_nil
    | cons d ds => exact exists_digit_layout (hdigits ▸ hdenotes)

theorem isWholePart_toDigits (n : Nat) : isWholePart (Nat.toDigits 10 n) = true := by
  by_cases hzero : n = 0
  · rw [hzero]
    rfl
  · have hhead := head_toDigits_ne_zero hzero
    cases hdigits : Nat.toDigits 10 n with
    | nil => exact absurd hdigits Nat.toDigits_ne_nil
    | cons d ds =>
      rw [hdigits] at hhead
      exact isWholePart_of_head_ne_zero (hhead d rfl)

theorem numberToken_toDigits (negative : Bool) {n : Int} (bounded)
    (hsign : n < 0 ↔ negative = true) {rest : List Char} (hrest : EndsNumber rest) :
    numberToken negative (Nat.toDigits 10 n.natAbs ++ rest) =
      (.number (some (.integer n bounded)), rest) := by
  rw [numberToken_integer (fun c => @isDigit_of_mem_toDigits n.natAbs c) (isWholePart_toDigits _)
    hrest, digitsValue_toDigits]
  have hsigned : (if negative = true then -(n.natAbs : Int) else n.natAbs) = n := by
    split
    case isTrue hnegative =>
      have := hsign.mpr hnegative
      omega
    case isFalse hnegative =>
      have := mt hsign.mp hnegative
      omega
  have hnonzero : (negative && n.natAbs == 0) = false := by
    cases negative with
    | false => rfl
    | true =>
      have := hsign.mpr rfl
      rw [Bool.true_and, beq_eq_false_iff_ne]
      omega
  simp only [Number.ofInteger?, hsigned, hnonzero, dif_pos bounded, Bool.false_eq_true, if_false]

theorem nextToken_digit {c : Char} (hc : c.isDigit = true) (rest : List Char) :
    nextToken (c :: rest) = numberToken false (c :: rest) := by
  unfold nextToken
  split
  case h_9 heq =>
    cases heq
    rw [if_pos hc]
  case h_10 heq => cases heq
  all_goals
    next heq =>
      cases heq
      exact absurd hc (by decide)

/-- A printed number is read as itself. -/
theorem nextToken_chars (n : Number) {rest : List Char} (hrest : EndsNumber rest) :
    nextToken (n.chars ++ rest) = (.number (some n), rest) := by
  cases n with
  | integer n bounded =>
    by_cases hneg : n < 0
    · have hread := numberToken_toDigits true bounded (by simpa using hneg) hrest
      rw [Number.chars, if_pos hneg]
      exact hread
    · have hread := numberToken_toDigits false bounded (by simpa using hneg) hrest
      rw [Number.chars, if_neg hneg, List.nil_append]
      cases hdigits : Nat.toDigits 10 n.natAbs with
      | nil => exact absurd hdigits Nat.toDigits_ne_nil
      | cons d ds =>
        have hd := isDigit_of_mem_toDigits (n := n.natAbs) (hdigits ▸ List.mem_cons_self)
        rw [hdigits] at hread
        rw [List.cons_append, nextToken_digit hd]
        exact hread
  | double x =>
    have hread : numberToken x.negative (x.unsignedChars ++ rest) =
        (.number (some (.double x)), rest) := numberToken_unsignedChars x x.negative hrest
    rw [Number.chars, Binary64.chars]
    cases hsign : x.negative with
    | true =>
      rw [hsign] at hread
      exact hread
    | false =>
      obtain ⟨d, ds, hdigits, hd⟩ := exists_digit_unsignedChars x
      rw [hsign, hdigits] at hread
      rw [if_neg Bool.false_ne_true, hdigits, List.nil_append, List.cons_append, nextToken_digit hd]
      exact hread

/-- The characters that numbers are written with. -/
def isNumberChar (c : Char) : Bool :=
  c.isDigit || ['.', 'e', '+', '-'].contains c

theorem isNumberChar_iff (c : Char) : isNumberChar c = true ↔
    c.isDigit = true ∨ c = '.' ∨ c = 'e' ∨ c = '+' ∨ c = '-' := by
  simp [isNumberChar]

theorem isNumberChar_of_isDigit {c : Char} (hdigit : c.isDigit = true) : isNumberChar c = true := by
  rw [isNumberChar, hdigit]
  rfl

theorem isNumberChar_of_mem_layout {digits : List Char} (hdigits : ∀ c ∈ digits, c.isDigit = true)
    (exponent : Int) : ∀ c ∈ layout digits exponent, isNumberChar c = true := by
  have hzeros (count : Nat) : ∀ c ∈ List.replicate count '0', isNumberChar c = true :=
    fun c hc => isNumberChar_of_isDigit (isDigit_of_mem_zeros count c hc)
  have hnumeral (n : Nat) : ∀ c ∈ Nat.toDigits 10 n, isNumberChar c = true :=
    fun c hc => isNumberChar_of_isDigit (isDigit_of_mem_toDigits hc)
  replace hdigits : ∀ c ∈ digits, isNumberChar c = true :=
    fun c hc => isNumberChar_of_isDigit (hdigits c hc)
  unfold layout
  split
  · simp only [List.forall_mem_append]
    refine ⟨⟨?_, ?_⟩, hnumeral _⟩
    · split
      · simp only [List.forall_mem_cons] at hdigits ⊢
        exact ⟨hdigits.1, by decide, hdigits.2⟩
      · exact hdigits
    · split <;> exact List.all_eq_true.mp (by decide)
  · split
    · simp only [List.forall_mem_append]
      exact ⟨⟨List.all_eq_true.mp (by decide), hzeros _⟩, hdigits⟩
    · simp only [List.forall_mem_append, List.forall_mem_cons]
      refine ⟨⟨fun c hc => hdigits c (List.mem_of_mem_take hc), hzeros _⟩, by decide, ?_⟩
      split
      · exact List.all_eq_true.mp (by decide)
      · exact fun c hc => hdigits c (List.mem_of_mem_drop hc)

theorem isNumberChar_of_mem_chars (n : Number) : ∀ c ∈ n.chars, isNumberChar c = true := by
  cases n with
  | integer n bounded =>
    rw [Number.chars, List.forall_mem_append]
    refine ⟨?_, fun c hc => isNumberChar_of_isDigit (isDigit_of_mem_toDigits hc)⟩
    split <;> exact List.all_eq_true.mp (by decide)
  | double x =>
    rw [Number.chars, Binary64.chars, List.forall_mem_append]
    constructor
    · split <;> exact List.all_eq_true.mp (by decide)
    · rw [Binary64.unsignedChars]
      split
      case isTrue => exact List.all_eq_true.mp (by decide)
      case isFalse hpos =>
        exact isNumberChar_of_mem_layout (denotes_shortestDigits hpos).isDigit _

theorem chars_ne_nil (n : Number) : n.chars ≠ [] := by
  intro hnil
  have hread := nextToken_chars n endsNumber_nil
  rw [hnil] at hread
  cases hread

end TableFilter.Json
