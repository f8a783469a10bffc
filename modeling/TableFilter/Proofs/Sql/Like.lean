import Mathlib.Data.List.Infix
import TableFilter.Proofs.Text.Replace
import TableFilter.Sql.Escape
import TableFilter.Text.Case
import TableFilter.Text.Search

/-!
# `LIKE` patterns

A backslash takes the character behind it literally, a percent sign stands for any characters and
an underscore for any one. Where case does not count, what is matched is the lower-case form of a
text, and each run of literal characters is put into lower case as a text of its own. Escaping a
text leaves it no character with a meaning in a pattern. Main statements: `holds_escaped`,
`escaped_text_stands_for_itself`.
-/

namespace TableFilter.Sql.Like

inductive Part where
  | literal (c : Char)
  | anyOne
  | anyRun
  deriving DecidableEq, Repr

/-- The parts of a pattern. A backslash that comes last stands for nothing. -/
def parts : List Char → List Part
  | [] => []
  | ['\\'] => []
  | '\\' :: c :: rest => .literal c :: parts rest
  | '%' :: rest => .anyRun :: parts rest
  | '_' :: rest => .anyOne :: parts rest
  | c :: rest => .literal c :: parts rest

/-- The parts of a pattern with its runs of literal characters in lower case; `before` holds the
characters of the run that has begun, last first. -/
def loweredAfter (before : List Char) : List Part → List Part
  | [] => (Text.lowerChars before.reverse).map .literal
  | .literal c :: rest => loweredAfter (c :: before) rest
  | .anyOne :: rest =>
    (Text.lowerChars before.reverse).map .literal ++ .anyOne :: loweredAfter [] rest
  | .anyRun :: rest =>
    (Text.lowerChars before.reverse).map .literal ++ .anyRun :: loweredAfter [] rest

def fits : List Part → List Char → Bool
  | [], cs => cs.isEmpty
  | .literal c :: ps, d :: cs => c == d && fits ps cs
  | .anyOne :: ps, _ :: cs => fits ps cs
  | .anyRun :: ps, cs => cs.tails.any (fits ps)
  | _, [] => false

/-- Whether a text fits a pattern as both are written. -/
def holdsAsWritten (pattern text : String) : Bool :=
  fits (parts pattern.toList) text.toList

/-- Whether a text fits a pattern, in any case. -/
def holds (pattern text : String) : Bool :=
  fits (loweredAfter [] (parts pattern.toList)) (Text.lowerChars text.toList)

theorem parts_plain {c : Char} (hplain : likeChar c = [c]) (rest : List Char) :
    parts (c :: rest) = .literal c :: parts rest := by
  rw [parts.eq_def]
  split
  case h_1 heq => cases heq
  case h_6 heq =>
    cases heq
    rfl
  all_goals
    next heq =>
      cases heq
      exact absurd hplain (by decide)

/-- The parts of an escaped text are its characters, taken literally. -/
theorem parts_escaped (cs rest : List Char) :
    parts (cs.flatMap likeChar ++ rest) = cs.map .literal ++ parts rest := by
  induction cs with
  | nil => rfl
  | cons c cs ih =>
    have hfirst (rest : List Char) : parts (likeChar c ++ rest) = .literal c :: parts rest := by
      by_cases hplain : likeChar c = [c]
      · rw [hplain]
        exact parts_plain hplain rest
      · have hescaped : likeChar c = ['\\', c] := by
          unfold likeChar at hplain ⊢
          split at hplain
          case isTrue hspecial => rw [if_pos hspecial]
          case isFalse => exact absurd rfl hplain
        rw [hescaped]
        rfl
    rw [List.flatMap_cons, List.append_assoc, hfirst, ih]
    rfl

theorem loweredAfter_literals (before cs : List Char) (rest : List Part) :
    loweredAfter before (cs.map .literal ++ rest) = loweredAfter (cs.reverse ++ before) rest := by
  induction cs generalizing before with
  | nil => rfl
  | cons c cs ih =>
    rw [List.map_cons, List.cons_append, loweredAfter, ih]
    simp

theorem fits_anyRun (ps : List Part) (text : List Char) :
    fits (.anyRun :: ps) text = true ↔ ∃ rest, rest <:+ text ∧ fits ps rest = true := by
  simp [fits, List.any_eq_true]

theorem fits_anyRun_alone (text : List Char) : fits [.anyRun] text = true := by
  rw [fits_anyRun]
  exact ⟨[], List.nil_suffix, rfl⟩

/-- Literal characters and any others behind them fit the texts that start with the former. -/
theorem fits_literals_anyRun (cs text : List Char) :
    fits (cs.map .literal ++ [.anyRun]) text = true ↔ cs <+: text := by
  induction cs generalizing text with
  | nil => simp [fits_anyRun_alone]
  | cons c cs ih =>
    cases text with
    | nil => simp [fits]
    | cons d text => simp [fits, ih, List.cons_prefix_cons]

/-- Any characters, literal ones and any others fit the texts that hold the literal ones. -/
theorem fits_anyRun_literals_anyRun (cs text : List Char) :
    fits (.anyRun :: (cs.map .literal ++ [.anyRun])) text = true ↔ cs <:+: text := by
  simp only [fits_anyRun, fits_literals_anyRun]
  constructor
  · rintro ⟨rest, hrest, hcs⟩
    exact hcs.isInfix.trans hrest.isInfix
  · rintro ⟨before, after, rfl⟩
    exact ⟨cs ++ after, ⟨before, by simp⟩, List.prefix_append cs after⟩

/-! ## Escaped texts -/

theorem parts_percents (s : String) :
    parts ("%" ++ escapeLike s ++ "%").toList =
      .anyRun :: (s.toList.map .literal ++ [.anyRun]) := by
  have htext : ("%" ++ escapeLike s ++ "%").toList =
      '%' :: (s.toList.flatMap likeChar ++ ['%']) := by
    simp [escapeLike]
  rw [htext, parts, parts_escaped]
  rfl

/-- A text between percent signs, escaped, fits exactly the texts that hold it, in any case. -/
theorem holds_escaped (s text : String) :
    holds ("%" ++ escapeLike s ++ "%") text =
      Text.occursIn (Text.lowerChars s.toList) (Text.lowerChars text.toList) := by
  have hlowered : loweredAfter [] (.anyRun :: (s.toList.map .literal ++ [.anyRun])) =
      .anyRun :: ((Text.lowerChars s.toList).map .literal ++ [.anyRun]) := by
    simp [loweredAfter, loweredAfter_literals, Text.lowerChars, Text.lowerAfter]
  rw [holds, parts_percents, hlowered, Bool.eq_iff_iff, fits_anyRun_literals_anyRun,
    Text.occursIn_iff]

theorem holdsAsWritten_escaped_iff (s text : String) :
    holdsAsWritten ("%" ++ escapeLike s ++ "%") text = true ↔
      ∃ before after, text = before ++ s ++ after := by
  rw [holdsAsWritten, parts_percents, fits_anyRun_literals_anyRun]
  constructor
  · rintro ⟨before, after, htext⟩
    refine ⟨String.ofList before, String.ofList after, ?_⟩
    apply String.toList_inj.mp
    simp [← htext]
  · rintro ⟨before, after, rfl⟩
    exact ⟨before.toList, after.toList, by simp⟩

/-- What is put for a character with a meaning in a pattern, in the order in which the characters
are replaced. The backslash comes first, since those put for the others are to stay single. -/
def likeForms : List (Char × String) :=
  [('\\', "\\\\"), ('%', "\\%"), ('_', "\\_")]

theorem likeChar_eq_replacedAtOnce (c : Char) : likeChar c = Text.replacedAtOnce likeForms c := by
  by_cases hmeaning : c = '\\' ∨ c = '%' ∨ c = '_'
  · obtain rfl | rfl | rfl := hmeaning <;> rfl
  · obtain ⟨hbackslash, hpercent, hunderscore⟩ : c ≠ '\\' ∧ c ≠ '%' ∧ c ≠ '_' := by
      simpa using hmeaning
    have hplain : ∀ entry ∈ likeForms, c ≠ entry.1 := by
      simp [likeForms, hbackslash, hpercent, hunderscore]
    rw [Text.replacedAtOnce_of_forall_ne hplain]
    simp [likeChar, hbackslash, hpercent, hunderscore]

/-- To escape a text is to replace its backslashes, then its percent signs and then its
underscores. -/
theorem escapeLike_eq_replace (s : String) :
    escapeLike s =
      ((s.replace '\\' "\\\\").replace '%' "\\%").replace '_' "\\_" := by
  have hforms : likeForms.Pairwise fun earlier later => later.1 ∉ earlier.2.toList := by decide
  exact Text.ofList_flatMap_eq_replaceInTurn hforms likeChar_eq_replacedAtOnce s

/-- An escaped text between percent signs is read as any characters, the characters of the text
taken literally, and any characters, so that it fits exactly the texts that hold the text. Escaping
a text all at once is replacing each backslash in it, then each percent sign and then each
underscore. -/
theorem escaped_text_stands_for_itself :
    (∀ s : String, parts ("%" ++ escapeLike s ++ "%").toList =
      .anyRun :: (s.toList.map .literal ++ [.anyRun])) ∧
    (∀ s text : String, holdsAsWritten ("%" ++ escapeLike s ++ "%") text = true ↔
      ∃ before after, text = before ++ s ++ after) ∧
    ∀ s : String, escapeLike s =
      ((s.replace '\\' "\\\\").replace '%' "\\%").replace '_' "\\_" :=
  ⟨parts_percents, holdsAsWritten_escaped_iff, escapeLike_eq_replace⟩

-- The percent sign in the text fits only itself; the one behind the backslash keeps its meaning.
example : holdsAsWritten ("%" ++ escapeLike "5%\\" ++ "%") "to 5%\\ off" = true ∧
    holdsAsWritten ("%" ++ escapeLike "5%\\" ++ "%") "to 50\\ off" = false := by
  decide +kernel

end TableFilter.Sql.Like
