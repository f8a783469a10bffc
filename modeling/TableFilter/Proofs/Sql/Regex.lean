import TableFilter.Sql.Escape

/-!
# Patterns of regular expressions

A pattern consists of characters that stand for themselves and of characters with a meaning of
their own. An escaped text consists of its own characters alone, so an anchor that is put at either
end of it is the one thing in the pattern with a meaning.
-/

namespace TableFilter.Sql

theorem regexChar_of_metacharacter {c : Char} (hmeta : c ∈ metacharacters) :
    regexChar c = ['\\', c] :=
  if_pos (List.contains_iff_mem.mpr hmeta)

theorem regexChar_of_not_metacharacter {c : Char} (hplain : c ∉ metacharacters) :
    regexChar c = [c] :=
  if_neg (mt List.contains_iff_mem.mp hplain)

theorem ne_backslash_of_not_metacharacter {c : Char} (hplain : c ∉ metacharacters) :
    c ≠ '\\' := by
  rintro rfl
  exact hplain (by decide)

namespace Regex

/-- A part of a pattern: a character that stands for itself, or one with a meaning of its own. -/
inductive Element where
  | plain (c : Char)
  | special (c : Char)
  deriving DecidableEq, Repr

/-- The character that stands for itself, if this is one. -/
def Element.plain? : Element → Option Char
  | .plain c => some c
  | .special _ => none

/-- The elements of a pattern. A metacharacter has its meaning unless a backslash takes it away. -/
def elements : List Char → List Element
  | [] => []
  | '\\' :: c :: rest =>
    if metacharacters.contains c then .plain c :: elements rest
    else .special '\\' :: elements (c :: rest)
  | c :: rest => (if metacharacters.contains c then .special c else .plain c) :: elements rest

/-- The characters of a pattern that stand for themselves. -/
def plainText (pattern : List Element) : String :=
  String.ofList (pattern.filterMap Element.plain?)

theorem elements_regexChar (c : Char) (rest : List Char) :
    elements (regexChar c ++ rest) = .plain c :: elements rest := by
  by_cases hmeta : c ∈ metacharacters
  · rw [regexChar_of_metacharacter hmeta, List.cons_append, List.singleton_append, elements,
      if_pos (List.contains_iff_mem.mpr hmeta)]
  · rw [regexChar_of_not_metacharacter hmeta, List.singleton_append, elements,
      if_neg (mt List.contains_iff_mem.mp hmeta)]
    exact fun _ _ heq => absurd heq (ne_backslash_of_not_metacharacter hmeta)

/-- An escaped text stands for itself, whatever comes behind it. -/
theorem elements_escaped (cs rest : List Char) :
    elements (cs.flatMap regexChar ++ rest) = cs.map .plain ++ elements rest := by
  induction cs with
  | nil => rfl
  | cons c cs ih =>
    rw [List.flatMap_cons, List.append_assoc, elements_regexChar, ih]
    rfl

theorem filterMap_plain (cs : List Char) : (cs.map .plain).filterMap Element.plain? = cs := by
  have hplain : Element.plain? ∘ Element.plain = some := rfl
  rw [List.filterMap_map, hplain, List.filterMap_some]

@[simp]
theorem plainText_anchoredStart (s : String) :
    plainText (.special '^' :: s.toList.map .plain) = s := by
  rw [plainText, List.filterMap_cons_none rfl, filterMap_plain, String.ofList_toList]

@[simp]
theorem plainText_anchoredEnd (s : String) :
    plainText (s.toList.map .plain ++ [.special '$']) = s := by
  rw [plainText, List.filterMap_append, filterMap_plain, List.filterMap_cons_none rfl,
    List.filterMap_nil, List.append_nil, String.ofList_toList]

/-- The pattern of a text at the start of a cell. -/
theorem elements_anchoredStart (s : String) :
    elements ("^" ++ escapeRegex s).toList = .special '^' :: s.toList.map .plain := by
  have hchars : ("^" ++ escapeRegex s).toList = '^' :: (s.toList.flatMap regexChar ++ []) := by
    simp [escapeRegex]
  have hanchor (cs : List Char) : elements ('^' :: cs) = .special '^' :: elements cs := rfl
  rw [hchars, hanchor, elements_escaped, elements, List.append_nil]

/-- The pattern of a text at the end of a cell. -/
theorem elements_anchoredEnd (s : String) :
    elements (escapeRegex s ++ "$").toList = s.toList.map .plain ++ [.special '$'] := by
  have hchars : (escapeRegex s ++ "$").toList = s.toList.flatMap regexChar ++ ['$'] := by
    simp [escapeRegex]
  rw [hchars, elements_escaped]
  rfl

end Regex

end TableFilter.Sql
