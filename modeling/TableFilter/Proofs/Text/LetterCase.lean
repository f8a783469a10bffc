import TableFilter.Proofs.Text.Word
import TableFilter.Text.Case

/-!
# Case of ASCII letters

Texts that differ in the case of ASCII letters alone have one lower-case form, for a letter has
case whichever case it has, and so ends no word that its other form does not end. Main statement:
`lowerChars_map_toLower`.
-/

namespace TableFilter.Text

/-! ## Characters -/

section Char

variable (c : Char)

theorem toNat_toLower :
    c.toLower.toNat = if 65 ≤ c.toNat ∧ c.toNat ≤ 90 then c.toNat + 32 else c.toNat := by
  unfold Char.toLower
  split
  next hupper =>
    have hrange : 65 ≤ c.toNat ∧ c.toNat ≤ 90 := by
      simpa [UInt32.le_iff_toNat_le] using hupper
    have hshift : ('a'.val - 'A'.val).toNat = 32 := by decide
    have hsum : (c.val + ('a'.val - 'A'.val)).toNat = c.toNat + 32 := by
      rw [UInt32.toNat_add, hshift, Char.toNat_val]
      omega
    rw [if_pos hrange]
    exact hsum
  next hupper =>
    have hrange : ¬ (65 ≤ c.toNat ∧ c.toNat ≤ 90) := by
      simpa [UInt32.le_iff_toNat_le] using hupper
    rw [if_neg hrange]

/-- A character keeps its form, or it is a letter before and after. -/
theorem toLower_eq_or : c.toLower = c ∨ c.isAlpha = true ∧ c.toLower.isAlpha = true := by
  have hlower := toNat_toLower c
  rw [isAlpha_iff, isAlpha_iff]
  split at hlower
  · exact .inr (by omega)
  · exact .inl (Char.toNat_inj.mp hlower)

theorem toLower_toLower : c.toLower.toLower = c.toLower := by
  apply Char.toNat_inj.mp
  rw [toNat_toLower c.toLower, if_neg]
  rw [toNat_toLower]
  split <;> omega

/-- What is the same for all letters does not see their case. -/
theorem apply_toLower {α : Type} {f : Char → α} {a : α}
    (hletters : ∀ c : Char, c.isAlpha = true → f c = a) : f c.toLower = f c := by
  rcases toLower_eq_or c with hsame | ⟨hletter, hlower⟩
  · rw [hsame]
  · rw [hletters _ hletter, hletters _ hlower]

theorem isBlank_toLower : isBlank c.toLower = isBlank c :=
  apply_toLower c fun _ => isBlank_eq_false_of_isAlpha

theorem isDigit_eq_false_of_isAlpha {c : Char} (hletter : c.isAlpha = true) :
    c.isDigit = false := by
  by_contra hdigit
  rw [isAlpha_eq_false_of_isDigit (Bool.of_not_eq_false hdigit)] at hletter
  cases hletter

theorem isDigit_toLower : c.toLower.isDigit = c.isDigit :=
  apply_toLower c fun _ => isDigit_eq_false_of_isAlpha

theorem toLower_of_isDigit {c : Char} (hdigit : c.isDigit = true) : c.toLower = c := by
  rcases toLower_eq_or c with hsame | ⟨hletter, -⟩
  · exact hsame
  · rw [isDigit_eq_false_of_isAlpha hletter] at hdigit
    cases hdigit

theorem beq_toLower {d : Char} (hd : d.isAlpha = false) : (c.toLower == d) = (c == d) := by
  refine apply_toLower (f := (· == d)) (a := false) c fun c hletter => ?_
  rw [beq_eq_false_iff_ne]
  rintro rfl
  rw [hletter] at hd
  cases hd

theorem toLower_eq_iff {d : Char} (hd : d.isAlpha = false) : c.toLower = d ↔ c = d := by
  rw [← beq_iff_eq, beq_toLower c hd, beq_iff_eq]

theorem isCased_toLower : isCased c.toLower = isCased c := by
  refine apply_toLower (a := true) c fun c hletter => ?_
  have hascii := (isAlpha_iff c).mp hletter
  rw [isCased, if_pos (by omega), hletter]

theorem isCaseIgnorable_toLower : isCaseIgnorable c.toLower = isCaseIgnorable c := by
  refine apply_toLower (a := false) c fun c hletter => ?_
  have hascii := (isAlpha_iff c).mp hletter
  rw [isCaseIgnorable, if_pos (by omega)]
  by_contra hmem
  simp only [List.contains_eq_mem, Bool.not_eq_false, decide_eq_true_eq, List.mem_cons,
    List.not_mem_nil, or_false] at hmem
  rcases hmem with rfl | rfl | rfl | rfl | rfl <;> exact absurd hletter (by decide)

theorem lowerChar_toLower : lowerChar c.toLower = lowerChar c := by
  rcases toLower_eq_or c with hsame | ⟨hletter, hlower⟩
  · rw [hsame]
  · have hascii := (isAlpha_iff c).mp hletter
    have hascii' := (isAlpha_iff c.toLower).mp hlower
    rw [lowerChar, lowerChar, if_pos (by omega), if_pos (by omega), toLower_toLower]

theorem toUpper_toLower (hascii : c.toNat < 128) : c.toLower.toUpper = c.toUpper := by
  have hall : ∀ n < 128, (Char.ofNat n).toLower.toUpper = (Char.ofNat n).toUpper := by
    decide
  have hsame := hall c.toNat hascii
  rwa [Char.ofNat_toNat] at hsame

theorem upperChar_toLower : upperChar c.toLower = upperChar c := by
  rcases toLower_eq_or c with hsame | ⟨hletter, hlower⟩
  · rw [hsame]
  · have hascii := (isAlpha_iff c).mp hletter
    have hascii' := (isAlpha_iff c.toLower).mp hlower
    rw [upperChar, upperChar, if_pos (by omega), if_pos (by omega), toUpper_toLower c (by omega)]

theorem lowerChar_of_isBlank {c : Char} (hblank : isBlank c = true) :
    c ≠ 'Σ' ∧ lowerChar c = [c.toLower] := by
  -- No blank has a form in another case, whichever script it is of.
  have hwide : ∀ n ∈ wideBlanks, 128 ≤ n ∧ n ≠ 0x130 ∧ n ≠ 0x3A3 ∧ shifted? lowerRuns n = none := by
    decide +kernel
  rcases le_or_mem_wideBlanks_of_isBlank hblank with hlow | hmem
  · exact ⟨fun heq => absurd (heq ▸ hlow) (by decide), if_pos (by omega)⟩
  · obtain ⟨habove, hdotted, hsigma, hnone⟩ := hwide _ hmem
    have hlower : c.toLower = c := by
      have hcode := toNat_toLower c
      rw [if_neg (by omega)] at hcode
      exact Char.toNat_inj.mp hcode
    have hnotDotted : c ≠ 'İ' := by
      rintro rfl
      exact hdotted rfl
    refine ⟨fun heq => hsigma (heq ▸ rfl), ?_⟩
    rw [lowerChar, if_neg (by omega), if_neg hnotDotted, hnone, hlower]
    rfl

end Char

/-! ## Texts -/

theorem toList_toLower (s : String) : s.toLower.toList = s.toList.map Char.toLower := by
  change (s.map Char.toLower).toList = _
  simp

theorem dropBlanks_map_toLower (cs : List Char) :
    dropBlanks (cs.map Char.toLower) = (dropBlanks cs).map Char.toLower := by
  have hblank : isBlank ∘ Char.toLower = isBlank := funext isBlank_toLower
  rw [dropBlanks, List.dropWhile_map, hblank, dropBlanks]

theorem trimChars_map_toLower (cs : List Char) :
    trimChars (cs.map Char.toLower) = (trimChars cs).map Char.toLower := by
  rw [trimChars, dropBlanks_map_toLower, ← List.map_reverse, dropBlanks_map_toLower,
    ← List.map_reverse, trimChars]

theorem startsCased_map_toLower (cs : List Char) :
    startsCased (cs.map Char.toLower) = startsCased cs := by
  have hignorable : isCaseIgnorable ∘ Char.toLower = isCaseIgnorable :=
    funext isCaseIgnorable_toLower
  rw [startsCased, startsCased, List.dropWhile_map, hignorable]
  cases cs.dropWhile isCaseIgnorable with
  | nil => rfl
  | cons c rest => exact isCased_toLower c

theorem lowerAfter_map_toLower (before cs : List Char) :
    lowerAfter (before.map Char.toLower) (cs.map Char.toLower) = lowerAfter before cs := by
  induction cs generalizing before with
  | nil => rfl
  | cons c rest ih =>
    have hrest := ih (c :: before)
    rw [List.map_cons] at hrest
    simp only [List.map_cons, lowerAfter, startsCased_map_toLower, hrest, lowerChar_toLower,
      toLower_eq_iff c (show ('Σ').isAlpha = false by decide)]

/-- The case of ASCII letters is lost in lower case, that of a sigma next to them included. -/
theorem lowerChars_map_toLower (cs : List Char) :
    lowerChars (cs.map Char.toLower) = lowerChars cs :=
  lowerAfter_map_toLower [] cs

/-- The case of ASCII letters is lost in upper case. -/
theorem upperChars_map_toLower (cs : List Char) :
    upperChars (cs.map Char.toLower) = upperChars cs := by
  rw [upperChars, List.flatMap_map, upperChars]
  congr 1
  funext c
  exact upperChar_toLower c

/-- Texts of characters with plain lower-case forms are lowered one by one. -/
theorem lowerChars_eq_map_toLower {cs : List Char}
    (hplain : ∀ c ∈ cs, c ≠ 'Σ' ∧ lowerChar c = [c.toLower]) :
    lowerChars cs = cs.map Char.toLower := by
  have hafter (before : List Char) : lowerAfter before cs = cs.map Char.toLower := by
    induction cs generalizing before with
    | nil => rfl
    | cons c rest ih =>
      obtain ⟨⟨hsigma, hlower⟩, hrest⟩ := List.forall_mem_cons.mp hplain
      rw [lowerAfter, if_neg hsigma, hlower, ih hrest]
      rfl
  exact hafter []

end TableFilter.Text
