import Mathlib.Data.List.Chain
import Mathlib.Data.List.TakeWhile
import TableFilter.Text.Blank
import TableFilter.Text.Word

/-!
# Words in a text

What it means that some words stand in a text as words of their own, in any case of their letters
and with blanks between each two, and how this is kept when blanks are put around the text. A word
of its own is told by the text around it.
-/

namespace TableFilter.Text

/-! ## Characters -/

theorem isAlpha_iff (c : Char) : c.isAlpha = true ↔
    (65 ≤ c.toNat ∧ c.toNat ≤ 90) ∨ (97 ≤ c.toNat ∧ c.toNat ≤ 122) := by
  delta Char.isAlpha Char.isUpper Char.isLower
  simp [UInt32.le_iff_toNat_le]

theorem isDigit_iff (c : Char) : c.isDigit = true ↔ 48 ≤ c.toNat ∧ c.toNat ≤ 57 := by
  simp [Char.isDigit, UInt32.le_iff_toNat_le]

theorem isAlpha_eq_false_of_isDigit {c : Char} (hdigit : c.isDigit = true) :
    c.isAlpha = false := by
  have hrange := (isDigit_iff c).mp hdigit
  rw [← Bool.not_eq_true, isAlpha_iff]
  omega

theorem isWordChar_of_isAlpha {c : Char} (halpha : c.isAlpha = true) : isWordChar c = true := by
  have hrange := (isAlpha_iff c).mp halpha
  rw [isWordChar, if_pos (by omega), Char.isAlphanum, halpha]
  rfl

theorem isWordChar_of_isDigit {c : Char} (hdigit : c.isDigit = true) : isWordChar c = true := by
  have hrange := (isDigit_iff c).mp hdigit
  rw [isWordChar, if_pos (by omega), Char.isAlphanum, hdigit, Bool.or_true, Bool.true_or]

theorem isAlpha_of_toUpper_eq {c k : Char} (hk : k.isUpper = true) (hupper : c.toUpper = k) :
    c.isAlpha = true := by
  subst hupper
  unfold Char.toUpper at hk
  split at hk
  next hlower =>
    delta Char.isAlpha Char.isUpper Char.isLower
    simp only [Bool.or_eq_true, Bool.and_eq_true, decide_eq_true_eq]
    exact .inr hlower
  next =>
    delta Char.isAlpha
    rw [hk]
    rfl

/-- The blanks beyond ASCII, by their code points. -/
def wideBlanks : List Nat :=
  [0x85, 0xA0, 0x1680, 0x2000, 0x2001, 0x2002, 0x2003, 0x2004, 0x2005, 0x2006, 0x2007, 0x2008,
    0x2009, 0x200A, 0x2028, 0x2029, 0x202F, 0x205F, 0x3000]

theorem le_or_mem_wideBlanks_of_isBlank {c : Char} (hblank : isBlank c = true) :
    c.toNat ≤ 32 ∨ c.toNat ∈ wideBlanks := by
  simp only [isBlank, Bool.or_eq_true, Bool.and_eq_true, decide_eq_true_eq, beq_iff_eq] at hblank
  simp only [wideBlanks, List.mem_cons, List.not_mem_nil, or_false]
  omega

theorem isWordChar_eq_false_of_isBlank {c : Char} (hblank : isBlank c = true) :
    isWordChar c = false := by
  have hwide : ∀ n ∈ wideBlanks, 128 ≤ n ∧ inRanges wordRanges n = false := by
    decide +kernel
  unfold isWordChar
  rcases le_or_mem_wideBlanks_of_isBlank hblank with hlow | hmem
  · have halnum : c.isAlphanum = false := by
      delta Char.isAlphanum Char.isAlpha Char.isUpper Char.isLower Char.isDigit
      simp [UInt32.le_iff_toNat_le]
      omega
    rw [if_pos (by omega), halnum, Bool.false_or, beq_eq_false_iff_ne]
    rintro rfl
    exact absurd hlow (by decide)
  · obtain ⟨habove, hnone⟩ := hwide _ hmem
    rw [if_neg (by omega)]
    exact hnone

theorem isBlank_of_mem_space : ∀ b ∈ [' '], isBlank b = true :=
  List.forall_mem_singleton.mpr rfl

/-- Next to a blank, as at an end of the text, no word goes on. -/
theorem any_isWordChar_of_isBlank {c : Option Char} (hblank : ∀ b ∈ c, isBlank b = true) :
    c.any isWordChar = false := by
  cases c with
  | none => rfl
  | some b => exact isWordChar_eq_false_of_isBlank (hblank b rfl)

theorem isBlank_eq_false_of_isAlpha {c : Char} (halpha : c.isAlpha = true) : isBlank c = false := by
  by_contra hblank
  have hword := isWordChar_eq_false_of_isBlank (Bool.of_not_eq_false hblank)
  rw [isWordChar_of_isAlpha halpha] at hword
  cases hword

/-! ## Ends of a text -/

/-- Its first character is no blank. -/
def StartsVisibly (cs : List Char) : Prop :=
  ∃ c ∈ cs.head?, isBlank c = false

/-- Its last character is no blank. -/
def EndsVisibly (cs : List Char) : Prop :=
  ∃ c ∈ cs.getLast?, isBlank c = false

namespace StartsVisibly

variable {cs : List Char}

theorem append (hstarts : StartsVisibly cs) (rest : List Char) : StartsVisibly (cs ++ rest) := by
  obtain ⟨c, hc, hvisible⟩ := hstarts
  exact ⟨c, List.mem_head?_append_of_mem_head? hc, hvisible⟩

theorem dropBlanks_eq (hstarts : StartsVisibly cs) : dropBlanks cs = cs := by
  obtain ⟨c, hc, hvisible⟩ := hstarts
  cases cs with
  | nil => cases hc
  | cons d rest =>
    cases hc
    rw [dropBlanks, List.dropWhile_cons_of_neg]
    rw [hvisible]
    exact Bool.false_ne_true

end StartsVisibly

namespace EndsVisibly

variable {cs : List Char}

theorem append (hends : EndsVisibly cs) (front : List Char) : EndsVisibly (front ++ cs) := by
  obtain ⟨c, hc, hvisible⟩ := hends
  exact ⟨c, List.mem_getLast?_append_of_mem_getLast? hc, hvisible⟩

theorem ne_nil (hends : EndsVisibly cs) : cs ≠ [] := by
  rintro rfl
  obtain ⟨c, hc, -⟩ := hends
  cases hc

theorem of_append (front : List Char) (hends : EndsVisibly (front ++ cs)) (hne : cs ≠ []) :
    EndsVisibly cs := by
  obtain ⟨c, hc, hvisible⟩ := hends
  rw [List.getLast?_append_of_ne_nil _ hne] at hc
  exact ⟨c, hc, hvisible⟩

theorem of_cons {c : Char} (hends : EndsVisibly (c :: cs)) (hblank : isBlank c = true) :
    EndsVisibly cs := by
  apply hends.of_append [c]
  rintro rfl
  obtain ⟨d, hd, hvisible⟩ := hends
  obtain rfl : c = d := by simpa using hd
  rw [hblank] at hvisible
  cases hvisible

/-- Blanks are passed over up to a character of the text. -/
theorem dropBlanks_append (hends : EndsVisibly cs) (rest : List Char) :
    dropBlanks (cs ++ rest) = dropBlanks cs ++ rest := by
  obtain ⟨c, hc, hvisible⟩ := hends
  have hmem : c ∈ cs := List.mem_of_getLast? hc
  have hne : (cs.dropWhile isBlank).isEmpty = false := by
    rw [List.isEmpty_eq_false_iff]
    intro hnil
    have hall := List.dropWhile_eq_nil_iff.mp hnil c hmem
    rw [hvisible] at hall
    cases hall
  rw [dropBlanks, List.dropWhile_append, hne]
  rfl

end EndsVisibly

/-! ## Trimming -/

theorem exists_dropBlanks (cs : List Char) :
    ∃ blanks, (∀ b ∈ blanks, isBlank b = true) ∧ cs = blanks ++ dropBlanks cs :=
  ⟨cs.takeWhile isBlank, fun _ => List.mem_takeWhile_imp, List.takeWhile_append_dropWhile.symm⟩

theorem startsVisibly_dropBlanks {cs : List Char} (hne : dropBlanks cs ≠ []) :
    StartsVisibly (dropBlanks cs) := by
  exact ⟨(dropBlanks cs).head hne, List.head?_eq_some_head hne, List.head_dropWhile_not isBlank hne⟩

theorem exists_dropBlanks_eq_trimChars (cs : List Char) :
    ∃ blanks, (∀ b ∈ blanks, isBlank b = true) ∧ dropBlanks cs = trimChars cs ++ blanks := by
  obtain ⟨blanks, hblanks, hsplit⟩ := exists_dropBlanks (dropBlanks cs).reverse
  refine ⟨blanks.reverse, by simpa using hblanks, ?_⟩
  have hreverse := congrArg List.reverse hsplit
  rwa [List.reverse_reverse, List.reverse_append] at hreverse

/-- Trimming takes blanks away, in front and behind. -/
theorem exists_trimChars (cs : List Char) :
    ∃ front back, (∀ b ∈ front, isBlank b = true) ∧ (∀ b ∈ back, isBlank b = true) ∧
      cs = front ++ (trimChars cs ++ back) := by
  obtain ⟨front, hfront, hcs⟩ := exists_dropBlanks cs
  obtain ⟨back, hback, hrest⟩ := exists_dropBlanks_eq_trimChars cs
  refine ⟨front, back, hfront, hback, ?_⟩
  rw [← hrest]
  exact hcs

/-- What is left of a trimmed text neither begins nor ends with a blank. -/
theorem trimChars_ends {cs : List Char} (hne : trimChars cs ≠ []) :
    StartsVisibly (trimChars cs) ∧ EndsVisibly (trimChars cs) := by
  constructor
  · obtain ⟨back, -, hsplit⟩ := exists_dropBlanks_eq_trimChars cs
    have hfront : dropBlanks cs ≠ [] := by
      rw [hsplit]
      exact List.append_ne_nil_of_left_ne_nil hne _
    obtain ⟨c, hc, hvisible⟩ := startsVisibly_dropBlanks hfront
    rw [hsplit, List.head?_append_of_ne_nil _ hne] at hc
    exact ⟨c, hc, hvisible⟩
  · have hbehind : dropBlanks (dropBlanks cs).reverse ≠ [] := by
      intro hnil
      apply hne
      rw [trimChars, hnil]
      rfl
    obtain ⟨c, hc, hvisible⟩ := startsVisibly_dropBlanks hbehind
    refine ⟨c, ?_, hvisible⟩
    rw [trimChars, List.getLast?_reverse]
    exact hc

/-- Blanks around a text that neither begins nor ends with one are trimmed away. -/
theorem trimChars_append {front cs back : List Char} (hfront : ∀ b ∈ front, isBlank b = true)
    (hback : ∀ b ∈ back, isBlank b = true) (hstarts : StartsVisibly cs) (hends : EndsVisibly cs) :
    trimChars (front ++ (cs ++ back)) = cs := by
  have hreversed : StartsVisibly cs.reverse := by
    obtain ⟨c, hc, hvisible⟩ := hends
    exact ⟨c, by rwa [List.head?_reverse], hvisible⟩
  have hblanks : ∀ b ∈ back.reverse, isBlank b = true := by simpa using hback
  have hdrop : dropBlanks (front ++ (cs ++ back)) = cs ++ back := by
    rw [dropBlanks, List.dropWhile_append_of_pos hfront]
    exact (hstarts.append back).dropBlanks_eq
  have hdropBack : dropBlanks (back.reverse ++ cs.reverse) = cs.reverse := by
    rw [dropBlanks, List.dropWhile_append_of_pos hblanks]
    exact hreversed.dropBlanks_eq
  rw [trimChars, hdrop, List.reverse_append, hdropBack, List.reverse_reverse]

theorem trimChars_eq_nil_iff {cs : List Char} :
    trimChars cs = [] ↔ ∀ c ∈ cs, isBlank c = true := by
  constructor
  · intro hnil
    obtain ⟨front, back, hfront, hback, hcs⟩ := exists_trimChars cs
    rw [hnil, List.nil_append] at hcs
    rw [hcs, List.forall_mem_append]
    exact ⟨hfront, hback⟩
  · intro hblank
    have hdrop : dropBlanks cs = [] := List.dropWhile_eq_nil_iff.mpr hblank
    rw [trimChars, hdrop]
    rfl

/-- `core` is what is left of a text without the blanks around it. -/
def Trims (s core : String) : Prop :=
  ∃ front back, (∀ b ∈ front, isBlank b = true) ∧ (∀ b ∈ back, isBlank b = true) ∧
    s.toList = front ++ (core.toList ++ back) ∧
    (core = "" ∨ StartsVisibly core.toList ∧ EndsVisibly core.toList)

theorem trim_eq_empty_iff (s : String) : trim s = "" ↔ ∀ c ∈ s.toList, isBlank c = true := by
  rw [← trimChars_eq_nil_iff, trim, ← String.toList_eq_nil_iff, String.toList_ofList]

theorem trims_iff {s core : String} : Trims s core ↔ trim s = core := by
  constructor
  · rintro ⟨front, back, hfront, hback, hs, rfl | ⟨hstarts, hends⟩⟩
    · rw [trim_eq_empty_iff, hs, String.toList_empty, List.nil_append, List.forall_mem_append]
      exact ⟨hfront, hback⟩
    · rw [trim, hs, trimChars_append hfront hback hstarts hends, String.ofList_toList]
  · rintro rfl
    obtain ⟨front, back, hfront, hback, hs⟩ := exists_trimChars s.toList
    rw [Trims, trim, String.toList_ofList]
    refine ⟨front, back, hfront, hback, hs, ?_⟩
    by_cases hnil : trimChars s.toList = []
    · rw [hnil]
      exact .inl rfl
    · exact .inr (trimChars_ends hnil)

/-! ## Words next to other text -/

/-- The word at the start of a text is told by its characters. -/
theorem takeWhile_isWordChar_append {word rest : List Char}
    (hword : ∀ c ∈ word, isWordChar c = true) (hrest : rest.head?.any isWordChar = false) :
    (word ++ rest).takeWhile isWordChar = word := by
  rw [List.takeWhile_append_of_pos hword]
  cases rest with
  | nil => simp
  | cons c rest =>
    have hc : isWordChar c = false := hrest
    rw [List.takeWhile_cons_of_neg (by simp [hc]), List.append_nil]

theorem word_append_inj {word other rest behind : List Char}
    (hword : ∀ c ∈ word, isWordChar c = true) (hother : ∀ c ∈ other, isWordChar c = true)
    (hrest : rest.head?.any isWordChar = false) (hbehind : behind.head?.any isWordChar = false)
    (heq : word ++ rest = other ++ behind) : word = other ∧ rest = behind := by
  have hsame := congrArg (List.takeWhile isWordChar) heq
  rw [takeWhile_isWordChar_append hword hrest, takeWhile_isWordChar_append hother hbehind] at hsame
  subst hsame
  exact ⟨rfl, List.append_cancel_left heq⟩

theorem append_word_inj {word other front before : List Char}
    (hword : ∀ c ∈ word, isWordChar c = true) (hother : ∀ c ∈ other, isWordChar c = true)
    (hfront : front.getLast?.any isWordChar = false)
    (hbefore : before.getLast?.any isWordChar = false)
    (heq : front ++ word = before ++ other) : word = other ∧ front = before := by
  have hreverse : word.reverse ++ front.reverse = other.reverse ++ before.reverse := by
    rw [← List.reverse_append, heq, List.reverse_append]
  obtain ⟨hsame, hrest⟩ := word_append_inj (by simpa using hword) (by simpa using hother)
    (by rwa [List.head?_reverse]) (by rwa [List.head?_reverse]) hreverse
  exact ⟨List.reverse_inj.mp hsame, List.reverse_inj.mp hrest⟩

/-- Where a word begins no other one goes on. -/
theorem any_getLast?_of_isBoundary {front word : List Char} (hne : word ≠ [])
    (hword : ∀ c ∈ word, isWordChar c = true)
    (hbefore : isBoundary front.getLast? word.head? = true) :
    front.getLast?.any isWordChar = false := by
  rw [isBoundary, List.head?_eq_some_head hne, Option.any_some, hword _ (List.head_mem hne)]
    at hbefore
  simpa using hbefore

/-- Where a word ends no other one goes on. -/
theorem any_head?_of_isBoundary {word back : List Char} (hne : word ≠ [])
    (hword : ∀ c ∈ word, isWordChar c = true)
    (hafter : isBoundary word.getLast? back.head? = true) :
    back.head?.any isWordChar = false := by
  rw [isBoundary, List.getLast?_eq_some_getLast hne, Option.any_some,
    hword _ (List.getLast_mem hne)] at hafter
  simpa using hafter

/-! ## Keywords -/

/-- A word of capital letters. -/
def isKeyword (word : String) : Bool :=
  !word.toList.isEmpty && word.toList.all Char.isUpper

/-- A word is found where its letters stand, in any case. -/
theorem afterKeyword?_eq_some_iff {keyword cs rest : List Char} :
    afterKeyword? keyword cs = some rest ↔
      ∃ word, cs = word ++ rest ∧ word.map Char.toUpper = keyword := by
  induction keyword generalizing cs with
  | nil =>
    simp only [afterKeyword?, Option.some.injEq, List.map_eq_nil_iff]
    constructor
    · intro heq
      exact ⟨[], heq, rfl⟩
    · rintro ⟨word, hcs, rfl⟩
      exact hcs
  | cons k keyword ih =>
    constructor
    · intro hfound
      cases cs with
      | nil => cases hfound
      | cons c cs =>
        unfold afterKeyword? at hfound
        split at hfound
        next hk =>
          obtain ⟨word, rfl, rfl⟩ := ih.mp hfound
          exact ⟨c :: word, rfl, by rw [List.map_cons, hk]⟩
        next => cases hfound
    · rintro ⟨word, rfl, hword⟩
      cases word with
      | nil => cases hword
      | cons c word =>
        obtain ⟨hk, hrest⟩ := List.cons_eq_cons.mp hword
        rw [List.cons_append, afterKeyword?, if_pos hk]
        exact ih.mpr ⟨word, rfl, hrest⟩

/-- What does not go on with the letters of a keyword has no part in where the keyword is found. -/
theorem afterKeyword?_append {keyword cs rest : List Char}
    (hrest : ∀ c ∈ rest.head?, c.toUpper ∉ keyword) :
    afterKeyword? keyword (cs ++ rest) = (afterKeyword? keyword cs).map (· ++ rest) := by
  induction keyword generalizing cs with
  | nil => rfl
  | cons k keyword ih =>
    cases cs with
    | nil =>
      cases rest with
      | nil => rfl
      | cons c rest =>
        have hne : c.toUpper ≠ k := by
          rintro rfl
          exact hrest c rfl List.mem_cons_self
        have hnone : afterKeyword? (k :: keyword) (c :: rest) = none := by
          rw [afterKeyword?, if_neg hne]
        exact hnone
    | cons c cs =>
      have hrest : ∀ c ∈ rest.head?, c.toUpper ∉ keyword :=
        fun c hc hmem => hrest c hc (List.mem_cons_of_mem k hmem)
      simp only [List.cons_append, afterKeyword?]
      split
      · exact ih hrest
      · rfl

/-- The characters are the words, one after the other, in any case of their letters and with blanks
between each two. -/
inductive Spells : List String → List Char → Prop where
  | last {word : String} {cs : List Char} (hword : cs.map Char.toUpper = word.toList) :
    Spells [word] cs
  | next {word : String} {words : List String} {cs blanks rest : List Char}
    (hword : cs.map Char.toUpper = word.toList) (hne : blanks ≠ [])
    (hblanks : ∀ b ∈ blanks, isBlank b = true) (hrest : Spells words rest) :
    Spells (word :: words) (cs ++ (blanks ++ rest))

/-- The words stand somewhere in the text, one after the other and as words of their own. -/
def HasWords (words : List String) (cs : List Char) : Prop :=
  ∃ front phrase back, cs = front ++ (phrase ++ back) ∧ Spells words phrase ∧
    isBoundary front.getLast? phrase.head? = true ∧ isBoundary phrase.getLast? back.head? = true

/-- The words stand at the start of the text as words of their own, `before` being the character in
front of it. -/
def StandAt (words : List String) (before : Option Char) (cs : List Char) : Prop :=
  ∃ phrase back, cs = phrase ++ back ∧ Spells words phrase ∧
    isBoundary before phrase.head? = true ∧ isBoundary phrase.getLast? back.head? = true

theorem hasWords_iff {words : List String} {cs : List Char} :
    HasWords words cs ↔
      ∃ front back, cs = front ++ back ∧ StandAt words front.getLast? back := by
  constructor
  · rintro ⟨front, phrase, back, hcs, hstand⟩
    exact ⟨front, phrase ++ back, hcs, phrase, back, rfl, hstand⟩
  · rintro ⟨front, _, hcs, phrase, back, rfl, hstand⟩
    exact ⟨front, phrase, back, hcs, hstand⟩

theorem isAlpha_of_mem_word {word : String} {cs : List Char} (hkeyword : isKeyword word = true)
    (hword : cs.map Char.toUpper = word.toList) : ∀ c ∈ cs, c.isAlpha = true := by
  intro c hc
  have hmem : c.toUpper ∈ word.toList := by
    rw [← hword]
    exact List.mem_map_of_mem hc
  rw [isKeyword, Bool.and_eq_true] at hkeyword
  exact isAlpha_of_toUpper_eq (List.all_eq_true.mp hkeyword.2 _ hmem) rfl

theorem ne_nil_of_word {word : String} {cs : List Char} (hkeyword : isKeyword word = true)
    (hword : cs.map Char.toUpper = word.toList) : cs ≠ [] := by
  rintro rfl
  rw [isKeyword, ← hword] at hkeyword
  cases hkeyword

theorem toUpper_not_mem_of_isBlank {word : String} {c : Char} (hkeyword : isKeyword word = true)
    (hblank : isBlank c = true) : c.toUpper ∉ word.toList := by
  intro hmem
  rw [isKeyword, Bool.and_eq_true] at hkeyword
  have halpha := isAlpha_of_toUpper_eq (List.all_eq_true.mp hkeyword.2 _ hmem) rfl
  rw [isBlank_eq_false_of_isAlpha halpha] at hblank
  cases hblank

theorem countP_not_isBlank_eq_zero {blanks : List Char} (hblanks : ∀ b ∈ blanks, isBlank b = true) :
    blanks.countP (!isBlank ·) = 0 := by
  rw [List.countP_eq_zero]
  intro b hb
  rw [hblanks b hb]
  exact Bool.false_ne_true

namespace Spells

variable {words : List String} {phrase : List Char}

/-- Behind the first word come blanks or nothing. -/
theorem exists_first (hspells : Spells words phrase) :
    ∃ word rest cs more, words = word :: rest ∧ phrase = cs ++ more ∧
      cs.map Char.toUpper = word.toList ∧ ∀ b ∈ more.head?, isBlank b = true := by
  cases hspells with
  | @last word _ hword => exact ⟨word, [], phrase, [], rfl, (List.append_nil _).symm, hword, nofun⟩
  | @next word rest cs blanks _ hword hne hblanks _ =>
    refine ⟨word, rest, cs, _, rfl, rfl, hword, ?_⟩
    intro b hb
    rw [List.head?_append_of_ne_nil _ hne] at hb
    exact hblanks b (List.mem_of_head? hb)

theorem exists_letter_head (hspells : Spells words phrase)
    (hkeywords : ∀ word ∈ words, isKeyword word = true) :
    ∃ c ∈ phrase.head?, c.isAlpha = true := by
  obtain ⟨word, rest, cs, more, rfl, rfl, hword, -⟩ := hspells.exists_first
  have hkeyword := hkeywords word List.mem_cons_self
  cases cs with
  | nil => exact absurd rfl (ne_nil_of_word hkeyword hword)
  | cons c cs => exact ⟨c, rfl, isAlpha_of_mem_word hkeyword hword c List.mem_cons_self⟩

theorem exists_letter_last (hspells : Spells words phrase)
    (hkeywords : ∀ word ∈ words, isKeyword word = true) :
    ∃ c ∈ phrase.getLast?, c.isAlpha = true := by
  induction hspells with
  | @last word cs hword =>
    have hkeyword := hkeywords word List.mem_cons_self
    have hne := ne_nil_of_word hkeyword hword
    exact ⟨cs.getLast hne, List.getLast?_eq_some_getLast hne,
      isAlpha_of_mem_word hkeyword hword _ (List.getLast_mem hne)⟩
  | next _ _ _ _ ih =>
    obtain ⟨c, hc, halpha⟩ := ih fun word hmem => hkeywords word (List.mem_cons_of_mem _ hmem)
    rw [← List.append_assoc]
    exact ⟨c, List.mem_getLast?_append_of_mem_getLast? hc, halpha⟩

/-- Besides blanks there is nothing but the letters of the words. -/
theorem countP_not_isBlank (hspells : Spells words phrase)
    (hkeywords : ∀ word ∈ words, isKeyword word = true) :
    phrase.countP (!isBlank ·) = (words.flatMap String.toList).length := by
  have hletters {word : String} {cs : List Char} (hkeyword : isKeyword word = true)
      (hword : cs.map Char.toUpper = word.toList) :
      cs.countP (!isBlank ·) = word.toList.length := by
    have hvisible : ∀ c ∈ cs, (!isBlank c) = true := by
      intro c hc
      rw [isBlank_eq_false_of_isAlpha (isAlpha_of_mem_word hkeyword hword c hc)]
      rfl
    rw [List.countP_eq_length.mpr hvisible, ← hword, List.length_map]
  induction hspells with
  | last hword => simpa using hletters (hkeywords _ List.mem_cons_self) hword
  | next hword _ hblanks _ ih =>
    rw [List.countP_append, List.countP_append, hletters (hkeywords _ List.mem_cons_self) hword,
      countP_not_isBlank_eq_zero hblanks,
      ih fun word hmem => hkeywords word (List.mem_cons_of_mem _ hmem), Nat.zero_add,
      List.flatMap_cons, List.length_append]

end Spells

/-- Words that stand at the start of a text begin it with a letter. -/
theorem StandAt.exists_letter_head {words : List String} {before : Option Char} {cs : List Char}
    (hstand : StandAt words before cs) (hkeywords : ∀ word ∈ words, isKeyword word = true) :
    ∃ c ∈ cs.head?, c.isAlpha = true := by
  obtain ⟨phrase, back, rfl, hspells, -⟩ := hstand
  obtain ⟨c, hc, halpha⟩ := hspells.exists_letter_head hkeywords
  exact ⟨c, List.mem_head?_append_of_mem_head? hc, halpha⟩

theorem StandAt.ne_nil {words : List String} {before : Option Char} {cs : List Char}
    (hstand : StandAt words before cs) (hkeywords : ∀ word ∈ words, isKeyword word = true) :
    cs ≠ [] := by
  rintro rfl
  obtain ⟨c, hc, -⟩ := hstand.exists_letter_head hkeywords
  cases hc

/-! ## Blanks around a text -/

variable {blanks : List Char}

theorem isBoundary_blanks_append (hblanks : ∀ b ∈ blanks, isBlank b = true) (front : List Char)
    (after : Option Char) :
    isBoundary (blanks ++ front).getLast? after = isBoundary front.getLast? after := by
  rw [List.getLast?_append]
  cases hlast : front.getLast? with
  | some c => rfl
  | none =>
    have hany := any_isWordChar_of_isBlank fun b hb => hblanks b (List.mem_of_getLast? hb)
    rw [Option.none_or, isBoundary, isBoundary, hany]
    rfl

theorem isBoundary_append_blanks (hblanks : ∀ b ∈ blanks, isBlank b = true) (back : List Char)
    (before : Option Char) :
    isBoundary before (back ++ blanks).head? = isBoundary before back.head? := by
  rw [List.head?_append]
  cases hfirst : back.head? with
  | some c => rfl
  | none =>
    have hany := any_isWordChar_of_isBlank fun b hb => hblanks b (List.mem_of_head? hb)
    rw [Option.none_or, isBoundary, isBoundary, hany]
    rfl

/-- Words that stand in a trimmed text stand in the text. -/
theorem HasWords.of_trimChars {words : List String} {cs : List Char}
    (hwords : HasWords words (trimChars cs)) : HasWords words cs := by
  obtain ⟨front, phrase, back, htrim, hspells, hbefore, hafter⟩ := hwords
  obtain ⟨before, after, hblankBefore, hblankAfter, hcs⟩ := exists_trimChars cs
  refine ⟨before ++ front, phrase, back ++ after, ?_, hspells, ?_, ?_⟩
  · rw [hcs, htrim]
    simp only [List.append_assoc]
  · rw [isBoundary_blanks_append hblankBefore]
    exact hbefore
  · rw [isBoundary_append_blanks hblankAfter]
    exact hafter

end TableFilter.Text
