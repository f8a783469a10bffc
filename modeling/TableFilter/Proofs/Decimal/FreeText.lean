import TableFilter.Proofs.Json.NumberText
import TableFilter.Proofs.Text.LetterCase

/-!
# Numbers in free text

What a free text has to be made of to stand for a number, and what of it does not count. Main
statements: the case of letters does not count (`ofText?_eq_of_map_toLower_eq`), and texts that
stand for numbers and are one in lower case stand for one number (`ofText?_eq_of_lowerChars_eq`).
-/

namespace TableFilter.Decimal

open Text

/-! ## The parts of a numeral -/

/-- The digits after a point, if there is one, and what follows them. -/
def takeFraction : List Char → List Char × List Char
  | '.' :: cs => takeDigits cs
  | cs => ([], cs)

/-- A power of ten that nothing follows. Without an `e` it is none. -/
def wholeExponent? : List Char → Option Int
  | [] => some 0
  | c :: cs =>
    if c = 'e' || c = 'E' then
      match exponentOf? cs with
      | some (exponent, []) => some exponent
      | _ => none
    else none

theorem takeFraction_of_ne {cs : List Char} (hpoint : ∀ rest, cs = '.' :: rest → False) :
    takeFraction cs = ([], cs) := by
  unfold takeFraction
  split
  next rest => exact (hpoint rest rfl).elim
  next => rfl

theorem bind_wholeExponent? {α : Type} (f : Int → Option α) (cs : List Char) :
    (wholeExponent? cs).bind f =
      match cs with
      | [] => f 0
      | c :: cs =>
        if c = 'e' || c = 'E' then
          match exponentOf? cs with
          | some (exponent, []) => f exponent
          | _ => none
        else none := by
  cases cs with
  | nil => rfl
  | cons c cs =>
    simp only [wholeExponent?]
    split
    · split <;> rfl
    · rfl

/-- A text is read part by part. -/
theorem ofText?_eq (s : String) :
    ofText? s =
      let sign := takeSign (trimChars s.toList)
      let whole := takeDigits sign.2
      let fraction := takeFraction whole.2
      if whole.1.isEmpty && fraction.1.isEmpty then none
      else (wholeExponent? fraction.2).bind fun exponent =>
        (Numeral.mk sign.1 whole.1 fraction.1 exponent).toDouble? := by
  unfold ofText?
  simp only [bind_wholeExponent?]
  generalize takeSign (trimChars s.toList) = sign
  generalize takeDigits sign.2 = whole
  split
  next rest hpoint =>
    have hfraction : takeFraction whole.2 = takeDigits rest := by
      rw [hpoint]
      rfl
    rewrite [hfraction]
    rfl
  next hpoint =>
    rewrite [takeFraction_of_ne hpoint]
    rfl

/-! ## The case of letters -/

section LetterCase

variable (cs : List Char)

theorem takeSign_map_toLower :
    takeSign (cs.map Char.toLower) = ((takeSign cs).1, (takeSign cs).2.map Char.toLower) := by
  cases cs with
  | nil => rfl
  | cons c rest =>
    have hminus := toLower_eq_iff c (show ('-').isAlpha = false by decide)
    have hplus := toLower_eq_iff c (show ('+').isAlpha = false by decide)
    simp only [takeSign, List.map_cons]
    split <;> split <;> simp_all

theorem takeDigits_map_toLower :
    takeDigits (cs.map Char.toLower) = ((takeDigits cs).1, (takeDigits cs).2.map Char.toLower) := by
  have hdigit : Char.isDigit ∘ Char.toLower = Char.isDigit := funext isDigit_toLower
  have hsame : (cs.takeWhile Char.isDigit).map Char.toLower = cs.takeWhile Char.isDigit := by
    refine (List.map_congr_left fun c hc => ?_).trans (List.map_id _)
    exact toLower_of_isDigit (List.all_eq_true.mp List.all_takeWhile c hc)
  rw [takeDigits, List.takeWhile_map, List.dropWhile_map, hdigit, hsame, takeDigits]

theorem takeFraction_map_toLower :
    takeFraction (cs.map Char.toLower) =
      ((takeFraction cs).1, (takeFraction cs).2.map Char.toLower) := by
  cases cs with
  | nil => rfl
  | cons c rest =>
    have hpoint := toLower_eq_iff c (show ('.').isAlpha = false by decide)
    by_cases hc : c = '.'
    · rw [hc]
      exact takeDigits_map_toLower rest
    · rw [List.map_cons, takeFraction_of_ne, takeFraction_of_ne, List.map_cons]
      · rintro _ ⟨⟩
        exact hc rfl
      · intro after heq
        exact hc (hpoint.mp (List.cons.inj heq).1)

theorem exponentOf?_map_toLower :
    exponentOf? (cs.map Char.toLower) =
      (exponentOf? cs).map fun (exponent, rest) => (exponent, rest.map Char.toLower) := by
  simp only [exponentOf?, takeSign_map_toLower, takeDigits_map_toLower]
  split <;> rfl

theorem isExponentMark_toLower (c : Char) :
    (c.toLower = 'e' || c.toLower = 'E') = (c = 'e' || c = 'E') := by
  have hlower := toNat_toLower c
  have hcodes : ('e').toNat = 101 ∧ ('E').toNat = 69 := ⟨rfl, rfl⟩
  rw [Bool.eq_iff_iff]
  simp only [Bool.or_eq_true, decide_eq_true_eq, ← Char.toNat_inj, hcodes.1, hcodes.2]
  split at hlower <;> omega

theorem wholeExponent?_map_toLower :
    wholeExponent? (cs.map Char.toLower) = wholeExponent? cs := by
  cases cs with
  | nil => rfl
  | cons c rest =>
    rw [List.map_cons, wholeExponent?, wholeExponent?, isExponentMark_toLower,
      exponentOf?_map_toLower]
    split
    · rcases exponentOf? rest with _ | ⟨exponent, _ | ⟨d, after⟩⟩ <;> rfl
    · rfl

/-- The case of letters does not count in a number. -/
theorem ofText?_eq_of_map_toLower_eq {s t : String}
    (hst : s.toList.map Char.toLower = t.toList.map Char.toLower) : ofText? s = ofText? t := by
  have hlower (s : String) : ofText? (String.ofList (s.toList.map Char.toLower)) = ofText? s := by
    simp only [ofText?_eq, String.toList_ofList, trimChars_map_toLower, takeSign_map_toLower,
      takeDigits_map_toLower, takeFraction_map_toLower, wholeExponent?_map_toLower]
  rw [← hlower s, hst, hlower t]

end LetterCase

/-! ## The characters of a numeral -/

/-- Holds of what numbers are written with, in any case. -/
def IsNumeric (cs : List Char) : Prop :=
  ∀ c ∈ cs, Json.isNumberChar c.toLower = true

theorem isNumeric_cons {c : Char} {cs : List Char} (hc : Json.isNumberChar c.toLower = true)
    (hcs : IsNumeric cs) : IsNumeric (c :: cs) :=
  List.forall_mem_cons.mpr ⟨hc, hcs⟩

section Numeric

variable {cs : List Char}

theorem isNumeric_of_takeSign (hrest : IsNumeric (takeSign cs).2) : IsNumeric cs := by
  unfold takeSign at hrest
  split at hrest
  next rest => exact isNumeric_cons (by decide) hrest
  next rest => exact isNumeric_cons (by decide) hrest
  next => exact hrest

theorem isNumeric_of_takeDigits (hrest : IsNumeric (takeDigits cs).2) : IsNumeric cs := by
  rw [← List.takeWhile_append_dropWhile (p := Char.isDigit) (l := cs)]
  refine List.forall_mem_append.mpr ⟨fun c hc => ?_, hrest⟩
  apply Json.isNumberChar_of_isDigit
  rw [isDigit_toLower]
  exact List.all_eq_true.mp List.all_takeWhile c hc

theorem isNumeric_of_takeFraction (hrest : IsNumeric (takeFraction cs).2) : IsNumeric cs := by
  unfold takeFraction at hrest
  split at hrest
  next rest => exact isNumeric_cons (by decide) (isNumeric_of_takeDigits hrest)
  next => exact hrest

theorem isNumeric_of_exponentOf? {exponent : Int}
    (hexponent : exponentOf? cs = some (exponent, [])) : IsNumeric cs := by
  apply isNumeric_of_takeSign
  apply isNumeric_of_takeDigits
  simp only [exponentOf?] at hexponent
  split at hexponent
  · cases hexponent
  · rw [(Prod.mk.inj (Option.some.inj hexponent)).2]
    exact List.forall_mem_nil _

theorem isNumeric_of_wholeExponent? {exponent : Int}
    (hexponent : wholeExponent? cs = some exponent) : IsNumeric cs := by
  cases cs with
  | nil => exact List.forall_mem_nil _
  | cons c rest =>
    rw [wholeExponent?] at hexponent
    split at hexponent
    next hmark =>
      split at hexponent
      next hrest =>
        refine isNumeric_cons ?_ (isNumeric_of_exponentOf? hrest)
        simp only [Bool.or_eq_true, decide_eq_true_eq] at hmark
        rcases hmark with rfl | rfl <;> decide
      next => cases hexponent
    next => cases hexponent

end Numeric

theorem toNat_lt_of_isNumberChar {c : Char} (hnumber : Json.isNumberChar c = true) :
    c.toNat < 128 := by
  rcases (Json.isNumberChar_iff c).mp hnumber with hdigit | rfl | rfl | rfl | rfl
  · have hrange := (isDigit_iff c).mp hdigit
    omega
  all_goals decide

/-- A text that stands for a number holds nothing but numerals and blanks. -/
theorem isBlank_or_isNumberChar_of_ofText? {s : String} {x : Binary64} (hx : ofText? s = some x) :
    ∀ c ∈ s.toList, isBlank c = true ∨ Json.isNumberChar c.toLower = true := by
  have hnumeral : IsNumeric (trimChars s.toList) := by
    apply isNumeric_of_takeSign
    apply isNumeric_of_takeDigits
    apply isNumeric_of_takeFraction
    rw [ofText?_eq] at hx
    simp only at hx
    split at hx
    · cases hx
    · obtain ⟨exponent, hexponent, -⟩ := Option.bind_eq_some_iff.mp hx
      exact isNumeric_of_wholeExponent? hexponent
  obtain ⟨front, back, hfront, hback, hsplit⟩ := exists_trimChars s.toList
  intro c hc
  rw [hsplit, List.mem_append, List.mem_append] at hc
  rcases hc with hc | hc | hc
  · exact .inl (hfront c hc)
  · exact .inr (hnumeral c hc)
  · exact .inl (hback c hc)

theorem lowerChar_of_isNumberChar {c : Char} (hnumber : Json.isNumberChar c.toLower = true) :
    c ≠ 'Σ' ∧ lowerChar c = [c.toLower] := by
  have hrange := toNat_lt_of_isNumberChar hnumber
  have hlower := toNat_toLower c
  have hascii : c.toNat < 128 := by
    split at hlower <;> omega
  exact ⟨fun heq => absurd (heq ▸ hascii) (by decide), if_pos hascii⟩

theorem lowerChars_of_ofText? {s : String} {x : Binary64} (hx : ofText? s = some x) :
    lowerChars s.toList = s.toList.map Char.toLower := by
  apply lowerChars_eq_map_toLower
  intro c hc
  rcases isBlank_or_isNumberChar_of_ofText? hx c hc with hblank | hnumber
  · exact lowerChar_of_isBlank hblank
  · exact lowerChar_of_isNumberChar hnumber

/-- In lower case too such a text holds nothing else. -/
theorem isBlank_or_isNumberChar_of_mem_lowerChars {s : String} {x : Binary64}
    (hx : ofText? s = some x) :
    ∀ c ∈ lowerChars s.toList, isBlank c = true ∨ Json.isNumberChar c = true := by
  rw [lowerChars_of_ofText? hx]
  simp only [List.forall_mem_map, isBlank_toLower]
  exact isBlank_or_isNumberChar_of_ofText? hx

/-- Texts that stand for numbers and are one in lower case stand for one number. -/
theorem ofText?_eq_of_lowerChars_eq {s t : String} {x y : Binary64} (hx : ofText? s = some x)
    (hy : ofText? t = some y) (hst : lowerChars s.toList = lowerChars t.toList) : x = y := by
  rw [lowerChars_of_ofText? hx, lowerChars_of_ofText? hy] at hst
  rw [ofText?_eq_of_map_toLower_eq hst, hy] at hx
  exact (Option.some.inj hx).symm

end TableFilter.Decimal
