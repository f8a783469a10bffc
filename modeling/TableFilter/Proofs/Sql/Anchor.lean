import TableFilter.Filter.Compile
import TableFilter.Proofs.Sql.Regex

/-!
# Matching anchored patterns

A text matches a pattern if the pattern fits somewhere in it. An anchor fits a place alone, the
start or the end of the text, and takes no character. Main statement: the pattern of a text at the
start or the end of a cell matches the texts that start or end with it,
`anchored_patterns_are_prefix_and_suffix`.
-/

namespace TableFilter.Sql.Regex

/-- Whether it is known here what an element fits: a character or an anchor. -/
def Element.isKnown : Element → Bool
  | .plain _ => true
  | .special c => c = '^' || c = '$'

/-- Whether elements fit what stands behind a place in a text, which may be the start of the
text. -/
def fitsAt : Bool → List Element → List Char → Bool
  | _, [], _ => true
  | _, .plain c :: es, d :: cs => c == d && fitsAt false es cs
  | atStart, .special '^' :: es, cs => atStart && fitsAt atStart es cs
  | atStart, .special '$' :: es, cs => cs.isEmpty && fitsAt atStart es cs
  | _, _, _ => false

/-- Whether elements fit somewhere in what stands behind a place. -/
def fitsFrom (atStart : Bool) (es : List Element) : List Char → Bool
  | [] => fitsAt atStart es []
  | c :: cs => fitsAt atStart es (c :: cs) || fitsFrom false es cs

/-- Whether a text matches a pattern. Nothing is said of a pattern with an element of which it is
not known what it fits. -/
def matches? (pattern text : String) : Option Bool :=
  let es := elements pattern.toList
  if es.all Element.isKnown then some (fitsFrom true es text.toList) else none

/-! ## Where elements fit -/

/-- Characters fit themselves, and what follows them fits behind them. -/
theorem fitsAt_plain_append (atStart : Bool) (cs : List Char) (es : List Element)
    (text : List Char) :
    fitsAt atStart (cs.map .plain ++ es) text = true ↔
      ∃ rest, cs ++ rest = text ∧ fitsAt (atStart && cs.isEmpty) es rest = true := by
  induction cs generalizing atStart text with
  | nil => simp
  | cons c cs ih =>
    cases text with
    | nil => simp [fitsAt]
    | cons d text =>
      rw [List.map_cons, List.cons_append, fitsAt, Bool.and_eq_true, beq_iff_eq, ih]
      simp only [List.cons_append, List.cons.injEq, List.isEmpty_cons, Bool.and_false,
        Bool.false_and, and_assoc, exists_and_left]

theorem fitsFrom_iff (atStart : Bool) (es : List Element) (text : List Char) :
    fitsFrom atStart es text = true ↔
      ∃ before rest, before ++ rest = text ∧ fitsAt (atStart && before.isEmpty) es rest = true := by
  induction text generalizing atStart with
  | nil => simp [fitsFrom, and_assoc]
  | cons c text ih =>
    rw [fitsFrom, Bool.or_eq_true, ih]
    constructor
    · rintro (hhere | ⟨before, rest, rfl, hfits⟩)
      · exact ⟨[], c :: text, rfl, by simpa using hhere⟩
      · exact ⟨c :: before, rest, rfl, by simpa using hfits⟩
    · rintro ⟨before, rest, hsplit, hfits⟩
      cases before with
      | nil =>
        subst hsplit
        exact .inl (by simpa using hfits)
      | cons d before =>
        cases hsplit
        exact .inr ⟨before, rest, rfl, by simpa using hfits⟩

/-- Behind an anchor at the start, characters fit the texts that start with them. -/
theorem fitsFrom_anchoredStart (cs text : List Char) :
    fitsFrom true (.special '^' :: cs.map .plain) text = cs.isPrefixOf text := by
  rw [Bool.eq_iff_iff, fitsFrom_iff, List.isPrefixOf_iff_prefix]
  have hfits (atStart : Bool) (rest : List Char) :
      fitsAt atStart (.special '^' :: cs.map .plain) rest = true ↔
        atStart = true ∧ cs <+: rest := by
    have hplain := fitsAt_plain_append atStart cs [] rest
    simp only [List.append_nil] at hplain
    simp [fitsAt, hplain, List.IsPrefix]
  simp only [hfits]
  constructor
  · rintro ⟨before, rest, rfl, hstart, hprefix⟩
    -- the anchor fits only where nothing stands before
    obtain rfl : before = [] := by simpa using hstart
    exact hprefix
  · intro hprefix
    exact ⟨[], text, rfl, rfl, hprefix⟩

/-- Before an anchor at the end, characters fit the texts that end with them. -/
theorem fitsFrom_anchoredEnd (cs text : List Char) :
    fitsFrom true (cs.map .plain ++ [.special '$']) text = cs.isSuffixOf text := by
  rw [Bool.eq_iff_iff, fitsFrom_iff, List.isSuffixOf_iff_suffix]
  simp only [fitsAt_plain_append]
  constructor
  · rintro ⟨before, _, rfl, rest, rfl, hend⟩
    obtain rfl : rest = [] := by simpa [fitsAt] using hend
    exact ⟨before, by simp⟩
  · rintro ⟨before, rfl⟩
    exact ⟨before, cs, rfl, [], List.append_nil cs, by simp [fitsAt]⟩

theorem all_isKnown_plain (cs : List Char) : (cs.map .plain).all Element.isKnown = true := by
  simp [Element.isKnown]

theorem matches?_anchoredStart (s text : String) :
    matches? ("^" ++ escapeRegex s) text = some (s.toList.isPrefixOf text.toList) := by
  simp only [matches?, elements_anchoredStart, List.all_cons, all_isKnown_plain,
    fitsFrom_anchoredStart]
  rfl

theorem matches?_anchoredEnd (s text : String) :
    matches? (escapeRegex s ++ "$") text = some (s.toList.isSuffixOf text.toList) := by
  simp only [matches?, elements_anchoredEnd, List.all_append, all_isKnown_plain,
    fitsFrom_anchoredEnd]
  rfl

/-- The backslash at the end of a text does not take the meaning of the anchor away. -/
example : (Operator.endsWith (.string "C:\\")).toSpec = .regex "C:\\\\$" ∧
    matches? "C:\\\\$" "in C:\\" = some true ∧ matches? "C:\\\\$" "C:\\$" = some false := by
  decide

end TableFilter.Sql.Regex
