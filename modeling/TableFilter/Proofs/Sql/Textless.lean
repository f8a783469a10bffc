import TableFilter.Proofs.Sql.Extract

/-!
# Conditions without texts

In a condition that holds no text of a value, only the names of columns can look like the keyword
that ends a condition. A name cannot look like `ORDER BY`, but it can be the word `LIMIT`, which
counts as the keyword although it stands between backticks. Main statement: a condition without
texts is recovered unless it names such a column, `textless_condition_is_recovered_iff`.
-/

namespace TableFilter

open Text (HasWords Spells isBlank isBoundary isWordChar joined)
open TableFilter.Filter (Spec)

namespace Sql

/-! ## Letters of names -/

/-- Texts in which a letter occurs in names between backticks alone. -/
inductive Named (letter : Char) (IsColumn : List Char → Prop) : List Char → Prop where
  | nil : Named letter IsColumn []
  | char {c : Char} {rest : List Char} (hc : c.toUpper ≠ letter)
    (hrest : Named letter IsColumn rest) : Named letter IsColumn (c :: rest)
  | name {name rest : List Char} (hname : IsColumn name)
    (hrest : Named letter IsColumn rest) :
    Named letter IsColumn ('\x60' :: (name ++ '\x60' :: rest))

namespace Named

variable {letter : Char} {IsColumn : List Char → Prop} {cs others : List Char}

theorem append (hcs : Named letter IsColumn cs) (hothers : Named letter IsColumn others) :
    Named letter IsColumn (cs ++ others) := by
  induction hcs with
  | nil => exact hothers
  | char hc _ ih => exact .char hc ih
  | name hname _ ih =>
    rw [List.cons_append, List.append_assoc, List.cons_append]
    exact .name hname ih

theorem concat {s t : String} (hs : Named letter IsColumn s.toList)
    (ht : Named letter IsColumn t.toList) : Named letter IsColumn (s ++ t).toList := by
  rw [String.toList_append]
  exact hs.append ht

theorem of_forall (hcs : ∀ c ∈ cs, c.toUpper ≠ letter) : Named letter IsColumn cs := by
  induction cs with
  | nil => exact .nil
  | cons c rest ih =>
    rw [List.forall_mem_cons] at hcs
    exact .char hcs.1 (ih hcs.2)

theorem quoteName {name : String} (hname : IsColumn name.toList) :
    Named letter IsColumn (quoteName name).toList := by
  rw [Sql.quoteName, String.toList_append, String.toList_append]
  exact .name hname .nil

/-- Where the letter occurs it is in a name. -/
theorem exists_name (hcs : Named letter IsColumn cs) (hquote : ('\x60').toUpper ≠ letter)
    {front back : List Char} {c : Char} (hsplit : cs = front ++ c :: back)
    (hc : c.toUpper = letter) :
    ∃ before first last after, IsColumn (first ++ c :: last) ∧ front = before ++ '\x60' :: first ∧
      back = last ++ '\x60' :: after := by
  induction hcs generalizing front with
  | nil => simp at hsplit
  | @char d rest hd _ ih =>
    cases front with
    | nil =>
      cases hsplit
      exact absurd hc hd
    | cons e front =>
      cases hsplit
      obtain ⟨before, first, last, after, hname, rfl, rfl⟩ := ih rfl
      exact ⟨d :: before, first, last, after, hname, rfl, rfl⟩
  | @name name rest hname _ ih =>
    cases front with
    | nil =>
      cases hsplit
      exact absurd hc hquote
    | cons e front =>
      obtain ⟨rfl, hbehind⟩ := List.cons.inj hsplit
      -- The letter stands behind the name, or in it; the backtick between is no letter.
      rcases List.append_eq_append_iff.mp hbehind with ⟨inner, rfl, hinner⟩ | ⟨inner, rfl, hinner⟩
      · cases inner with
        | nil =>
          cases hinner
          exact absurd hc hquote
        | cons e inner =>
          cases hinner
          obtain ⟨before, first, last, after, hname', rfl, rfl⟩ := ih rfl
          refine ⟨'\x60' :: (name ++ '\x60' :: before), first, last, after, hname', ?_, rfl⟩
          simp
      · cases inner with
        | nil =>
          cases hinner
          exact absurd hc hquote
        | cons e inner =>
          cases hinner
          exact ⟨[], front, inner, rest, hname, rfl, rfl⟩

/-- A word of its own that has the letter is a name, and stands between backticks. -/
theorem isColumn_of_word (hcs : Named letter IsColumn cs) (hquote : ('\x60').toUpper ≠ letter)
    (hcolumns : ∀ name, IsColumn name → ∀ c ∈ name, isWordChar c = true)
    {front word back : List Char} (hsplit : cs = front ++ (word ++ back))
    (hword : ∀ c ∈ word, isWordChar c = true) (hletter : ∃ c ∈ word, c.toUpper = letter)
    (hfront : front.getLast?.any isWordChar = false)
    (hback : back.head?.any isWordChar = false) :
    IsColumn word ∧ front.getLast? = some '\x60' := by
  obtain ⟨c, hc, hupper⟩ := hletter
  obtain ⟨first, last, rfl⟩ := List.append_of_mem hc
  -- The word and the name around the letter go from one boundary to the next, so they are one.
  have hplace : cs = (front ++ first) ++ c :: (last ++ back) := by
    rw [hsplit]
    simp
  obtain ⟨before, first', last', after, hname, hbefore, hafter⟩ :=
    hcs.exists_name hquote hplace hupper
  have hword' := hcolumns _ hname
  simp only [List.forall_mem_append, List.forall_mem_cons] at hword hword'
  have hstop : ('\x60' :: after).head?.any isWordChar = false := rfl
  have hstart : (before ++ ['\x60']).getLast?.any isWordChar = false := by
    rw [List.getLast?_append]
    rfl
  rw [List.append_cons] at hbefore
  obtain ⟨rfl, rfl⟩ := Text.append_word_inj hword.1 hword'.1 hfront hstart hbefore
  obtain ⟨rfl, -⟩ := Text.word_append_inj hword.2.2 hword'.2.2 hback hstop hafter
  exact ⟨hname, by rw [List.getLast?_append]; rfl⟩

end Named

/-! ## Clauses -/

end Sql

def Scalar.isString : Scalar → Bool
  | .string _ => true
  | _ => false

namespace Filter.Spec

/-- Whether a demand brings a text of its own into a condition. -/
def hasText : Spec → Bool
  | .eq v | .contains v | .gt v | .lt v => v.isString
  | .isIn items | .notIn items => items.any Scalar.isString
  | .regex _ => true
  | .notEmpty | .empty => false
  | .range low high => low.any Scalar.isString || high.any Scalar.isString

/-- Whether the clause of a demand names the column. No list without items does, nor a range that
lacks an end. -/
def namesColumn : Spec → Bool
  | .isIn items | .notIn items => !items.isEmpty
  | .range low high => low.isSome && high.isSome
  | _ => true

end Filter.Spec

namespace Sql

/-- The texts of a condition besides names and numbers. -/
def conditionPieces : List String :=
  [" IS NULL", " = ", "1=0", " IN (", ")", ", ", " LIKE '%", "%'", " IS NOT NULL AND ", " != ''",
    "(", " IS NULL OR ", " = '')", "1=1", " NOT IN (", " > ", " < ", " BETWEEN ", " AND ", "NULL",
    "TRUE", "FALSE"]

/-- Whether a letter is missing from a given text can be computed. -/
theorem toUpper_ne_of_all {letter : Char} {cs : List Char}
    (hall : cs.all (fun c => c.toUpper != letter) = true) : ∀ c ∈ cs, c.toUpper ≠ letter :=
  fun c hc => bne_iff_ne.mp (List.all_eq_true.mp hall c hc)

section Clauses

variable {letter : Char} {IsColumn : List Char → Prop} (hletter : letter = 'M' ∨ letter = 'Y')

include hletter

theorem named_piece : ∀ piece ∈ conditionPieces, Named letter IsColumn piece.toList := by
  have hpieces : ∀ piece ∈ conditionPieces,
      piece.toList.all (fun c => c.toUpper != letter) = true := by
    rcases hletter with rfl | rfl <;> decide
  exact fun piece hmem => .of_forall (toUpper_ne_of_all (hpieces piece hmem))

theorem toUpper_ne_of_isNumberChar {c : Char} (hnumber : Json.isNumberChar c = true) :
    c.toUpper ≠ letter := by
  rcases (Json.isNumberChar_iff c).mp hnumber with hdigit | rfl | rfl | rfl | rfl
  · have hcapital : letter.isUpper = true := by
      rcases hletter with rfl | rfl <;> decide
    intro hupper
    have halpha := Text.isAlpha_of_toUpper_eq hcapital hupper
    rw [Text.isAlpha_eq_false_of_isDigit hdigit] at halpha
    cases halpha
  all_goals rcases hletter with rfl | rfl <;> decide

theorem toUpper_ne_of_mem_text {v : Scalar} (hv : v.isString = false) :
    ∀ c ∈ v.text.toList, c.toUpper ≠ letter := by
  cases v with
  | null => exact toUpper_ne_of_all (by rcases hletter with rfl | rfl <;> decide)
  | bool b => exact toUpper_ne_of_all (by rcases hletter with rfl | rfl <;> cases b <;> decide)
  | number n =>
    rw [Scalar.text, Json.Number.text, String.toList_ofList]
    exact fun c hc => toUpper_ne_of_isNumberChar hletter (Json.isNumberChar_of_mem_chars n c hc)
  | string s => cases hv

theorem named_literal (options : Options) {v : Scalar} (hv : v.isString = false) :
    Named letter IsColumn (literal options v).toList := by
  have hpiece : ∀ piece ∈ conditionPieces, Named letter IsColumn piece.toList :=
    named_piece hletter
  cases v with
  | null => exact hpiece "NULL" (by decide)
  | bool b =>
    cases b
    · exact hpiece "FALSE" (by decide)
    · exact hpiece "TRUE" (by decide)
  | number n => exact .of_forall (toUpper_ne_of_mem_text hletter hv)
  | string s => cases hv

theorem named_literals (options : Options) {items : List Scalar}
    (hitems : items.any Scalar.isString = false) :
    Named letter IsColumn (literals options items).toList := by
  apply of_joined .nil .append (named_piece hletter ", " (by decide))
  intro s hs
  obtain ⟨v, hv, rfl⟩ := List.mem_map.mp hs
  have hplain := List.any_eq_false.mp hitems v hv
  exact named_literal hletter options (Bool.eq_false_of_not_eq_true hplain)

/-- Escaping brings quotes and backslashes into a text, and no letters. -/
theorem named_pattern (options : Options) {v : Scalar} (hv : v.isString = false) :
    Named letter IsColumn
      (escapeLiteral options.escapeBackslashes (escapeLike v.text)).toList := by
  have hbackslash : '\\' ≠ letter := by
    rcases hletter with rfl | rfl <;> decide
  have hquote : '\'' ≠ letter := by
    rcases hletter with rfl | rfl <;> decide
  have hlike : ∀ c ∈ (escapeLike v.text).toList, c.toUpper ≠ letter := by
    rw [escapeLike, String.toList_ofList, List.forall_mem_flatMap]
    intro c hc
    have hplain := toUpper_ne_of_mem_text hletter hv c hc
    rw [likeChar]
    split <;> simp [hplain, hbackslash]
  apply Named.of_forall
  rw [escapeLiteral, String.toList_ofList, List.forall_mem_flatMap]
  intro c hc
  have hplain := hlike c hc
  rw [literalChar]
  split
  next => simp [hquote]
  next => split <;> simp [hplain, hbackslash]

theorem named_clause {options : Options} {column : Identifier} {spec : Spec} {clause : String}
    (htext : spec.hasText = false) (hname : spec.namesColumn = true → IsColumn column.name.toList)
    (hclause : clause? options column spec = some clause) :
    Named letter IsColumn clause.toList := by
  have hpiece : ∀ piece ∈ conditionPieces, Named letter IsColumn piece.toList :=
    named_piece hletter
  have hquoted (hnames : spec.namesColumn = true) :
      Named letter IsColumn (quoteName column.name).toList :=
    .quoteName (hname hnames)
  cases spec with
  | eq v =>
    cases v with
    | null =>
      cases hclause
      exact (hquoted rfl).concat (hpiece " IS NULL" (by decide))
    | _ =>
      cases hclause
      exact ((hquoted rfl).concat (hpiece " = " (by decide))).concat
        (named_literal hletter options htext)
  | isIn items =>
    cases items with
    | nil =>
      cases hclause
      exact hpiece "1=0" (by decide)
    | cons v items =>
      cases hclause
      exact (((hquoted rfl).concat (hpiece " IN (" (by decide))).concat
        (named_literals hletter options htext)).concat (hpiece ")" (by decide))
  | contains v =>
    cases hclause
    exact (((hquoted rfl).concat (hpiece " LIKE '%" (by decide))).concat
      (named_pattern hletter options htext)).concat (hpiece "%'" (by decide))
  | regex pattern => cases htext
  | notEmpty =>
    cases hclause
    exact (((hquoted rfl).concat (hpiece " IS NOT NULL AND " (by decide))).concat
      (hquoted rfl)).concat (hpiece " != ''" (by decide))
  | empty =>
    cases hclause
    exact ((((hpiece "(" (by decide)).concat (hquoted rfl)).concat
      (hpiece " IS NULL OR " (by decide))).concat (hquoted rfl)).concat
        (hpiece " = '')" (by decide))
  | notIn items =>
    cases items with
    | nil =>
      cases hclause
      exact hpiece "1=1" (by decide)
    | cons v items =>
      cases hclause
      exact (((hquoted rfl).concat (hpiece " NOT IN (" (by decide))).concat
        (named_literals hletter options htext)).concat (hpiece ")" (by decide))
  | gt v =>
    cases hclause
    exact ((hquoted rfl).concat (hpiece " > " (by decide))).concat
      (named_literal hletter options htext)
  | lt v =>
    cases hclause
    exact ((hquoted rfl).concat (hpiece " < " (by decide))).concat
      (named_literal hletter options htext)
  | range low high =>
    cases low with
    | none => cases hclause
    | some low =>
      cases high with
      | none => cases hclause
      | some high =>
        cases hclause
        obtain ⟨hlow, hhigh⟩ := Bool.or_eq_false_iff.mp htext
        exact ((((hquoted rfl).concat (hpiece " BETWEEN " (by decide))).concat
          (named_literal hletter options hlow)).concat (hpiece " AND " (by decide))).concat
            (named_literal hletter options hhigh)

theorem named_condition {options : Options} {set : FilterSet} {condition : String}
    (htexts : ∀ entry ∈ set.entries, entry.2.hasText = false)
    (hnames : ∀ entry ∈ set.entries, entry.2.namesColumn = true → IsColumn entry.1.name.toList)
    (hcondition : condition? options set = some condition) :
    Named letter IsColumn condition.toList := by
  rw [condition?] at hcondition
  split at hcondition
  next => cases hcondition
  next =>
    cases hcondition
    apply of_joined .nil .append (named_piece hletter " AND " (by decide))
    intro clause hclause
    obtain ⟨entry, hentry, hclause⟩ := List.mem_filterMap.mp hclause
    exact named_clause hletter (htexts entry hentry) (hnames entry hentry) hclause

end Clauses

/-! ## Keywords -/

section Keywords

variable {IsColumn : List Char → Prop} {cs : List Char}
  (hcolumns : ∀ name, IsColumn name → ∀ c ∈ name, isWordChar c = true)

include hcolumns

/-- The one word that ends a condition is found only where a column has its name. -/
theorem exists_column_of_hasWords_limit (hcs : Named 'M' IsColumn cs)
    (hwords : HasWords ["LIMIT"] cs) :
    ∃ name, IsColumn name ∧ name.map Char.toUpper = "LIMIT".toList := by
  obtain ⟨front, phrase, back, hsplit, hspells, hbefore, hafter⟩ := hwords
  cases hspells with
  | next _ _ _ hrest => cases hrest
  | last hword =>
    have hne := Text.ne_nil_of_word (by decide) hword
    have hchars : ∀ c ∈ phrase, isWordChar c = true := fun c hc =>
      Text.isWordChar_of_isAlpha (Text.isAlpha_of_mem_word (by decide) hword c hc)
    have hletter : ∃ c ∈ phrase, c.toUpper = 'M' := by
      rw [← List.mem_map, hword]
      decide
    have hfront := Text.any_getLast?_of_isBoundary hne hchars hbefore
    have hback := Text.any_head?_of_isBoundary hne hchars hafter
    obtain ⟨hname, -⟩ :=
      hcs.isColumn_of_word (by decide) hcolumns hsplit hchars hletter hfront hback
    exact ⟨phrase, hname, hword⟩

/-- The two words that end a condition are not found, for a blank is between them and none is in a
name. -/
theorem not_hasWords_orderBy (hcs : Named 'Y' IsColumn cs) : ¬ HasWords ["ORDER", "BY"] cs := by
  rintro ⟨front, phrase, back, hsplit, hspells, -, hafter⟩
  cases hspells with
  | @next _ _ order blanks last hword hne hblanks hrest =>
    cases hrest with
    | next _ _ _ hrest => cases hrest
    | last hby =>
      have hlast := Text.ne_nil_of_word (by decide) hby
      have hchars : ∀ c ∈ last, isWordChar c = true := fun c hc =>
        Text.isWordChar_of_isAlpha (Text.isAlpha_of_mem_word (by decide) hby c hc)
      have hletter : ∃ c ∈ last, c.toUpper = 'Y' := by
        rw [← List.mem_map, hby]
        decide
      have hblank : (front ++ (order ++ blanks)).getLast? = blanks.getLast? := by
        rw [← List.append_assoc, List.getLast?_append_of_ne_nil _ hne]
      have hfront : (front ++ (order ++ blanks)).getLast?.any isWordChar = false := by
        rw [hblank]
        exact Text.any_isWordChar_of_isBlank fun b hb => hblanks b (List.mem_of_getLast? hb)
      have hback : back.head?.any isWordChar = false := by
        rw [← List.append_assoc, List.getLast?_append_of_ne_nil _ hlast] at hafter
        exact Text.any_head?_of_isBoundary hlast hchars hafter
      have hplace : cs = (front ++ (order ++ blanks)) ++ (last ++ back) := by
        rw [hsplit]
        simp
      -- The second word would be a name, and have a backtick in front of it and no blank.
      obtain ⟨-, hquote⟩ :=
        hcs.isColumn_of_word (by decide) hcolumns hplace hchars hletter hfront hback
      rw [hblank] at hquote
      exact absurd (hblanks _ (List.mem_of_getLast? hquote)) (by decide)

end Keywords

/-! ## Columns that are named -/

section Infix

theorem infix_concat {part s : String} (t : String) (hs : part.toList <:+: s.toList) :
    part.toList <:+: (s ++ t).toList := by
  rw [String.toList_append]
  exact hs.trans (List.prefix_append _ _).isInfix

theorem infix_joined {separator : String} {items : List String} {s : String} (hs : s ∈ items) :
    s.toList <:+: (joined separator items).toList := by
  induction items with
  | nil => cases hs
  | cons t rest ih =>
    cases rest with
    | nil =>
      cases List.mem_singleton.mp hs
      exact List.infix_rfl
    | cons u rest =>
      rcases List.mem_cons.mp hs with rfl | hs
      · exact infix_concat _ (infix_concat _ List.infix_rfl)
      · rw [joined, String.toList_append]
        exact (ih hs).trans (List.suffix_append _ _).isInfix

theorem infix_clause (options : Options) {column : Identifier} {spec : Spec}
    (hnames : spec.namesColumn = true) :
    ∃ clause, clause? options column spec = some clause ∧
      (quoteName column.name).toList <:+: clause.toList := by
  have hname (s : String) :
      (quoteName column.name).toList <:+: (quoteName column.name ++ s).toList :=
    infix_concat s List.infix_rfl
  cases spec with
  | eq v =>
    cases v with
    | null => exact ⟨_, rfl, hname _⟩
    | _ => exact ⟨_, rfl, infix_concat _ (hname _)⟩
  | isIn items =>
    cases items with
    | nil => cases hnames
    | cons v items => exact ⟨_, rfl, infix_concat _ (infix_concat _ (hname _))⟩
  | contains v => exact ⟨_, rfl, infix_concat _ (infix_concat _ (hname _))⟩
  | regex pattern => exact ⟨_, rfl, infix_concat _ (infix_concat _ (hname _))⟩
  | notEmpty => exact ⟨_, rfl, infix_concat _ (infix_concat _ (hname _))⟩
  | empty =>
    have hopen : (quoteName column.name).toList <:+: ("(" ++ quoteName column.name).toList := by
      rw [String.toList_append]
      exact (List.suffix_append _ _).isInfix
    exact ⟨_, rfl, infix_concat _ (infix_concat _ (infix_concat _ hopen))⟩
  | notIn items =>
    cases items with
    | nil => cases hnames
    | cons v items => exact ⟨_, rfl, infix_concat _ (infix_concat _ (hname _))⟩
  | gt v => exact ⟨_, rfl, infix_concat _ (hname _)⟩
  | lt v => exact ⟨_, rfl, infix_concat _ (hname _)⟩
  | range low high =>
    obtain ⟨hlow, hhigh⟩ := Bool.and_eq_true_iff.mp hnames
    obtain ⟨low, rfl⟩ := Option.isSome_iff_exists.mp hlow
    obtain ⟨high, rfl⟩ := Option.isSome_iff_exists.mp hhigh
    exact ⟨_, rfl, infix_concat _ (infix_concat _ (infix_concat _ (hname _)))⟩

theorem infix_condition {options : Options} {set : FilterSet} {condition : String}
    {entry : Identifier × Spec} (hentry : entry ∈ set.entries)
    (hnames : entry.2.namesColumn = true) (hcondition : condition? options set = some condition) :
    (quoteName entry.1.name).toList <:+: condition.toList := by
  obtain ⟨clause, hclause, hname⟩ := infix_clause options hnames
  have hmem : clause ∈ clauses options set := List.mem_filterMap.mpr ⟨entry, hentry, hclause⟩
  rw [condition?] at hcondition
  split at hcondition
  next => cases hcondition
  next =>
    cases hcondition
    exact hname.trans (infix_joined hmem)

end Infix

/-- Between backticks the word that ends a condition ends one. -/
theorem isEnd_limit_name {name : List Char} (hname : name.map Char.toUpper = "LIMIT".toList)
    (back : List Char) :
    isEnd (fun before cs => atOrder before cs || atLimit before cs) '\x60'
      (name ++ '\x60' :: back) = true := by
  have halpha := Text.isAlpha_of_mem_word (by decide) hname
  cases name with
  | nil => cases hname
  | cons c name =>
    have hc := halpha c List.mem_cons_self
    have hboundary : isBoundary (some '\x60') (c :: name).head? = true := by
      rw [isBoundary, List.head?_cons, Option.any_some, Option.any_some,
        Text.isWordChar_of_isAlpha hc]
      rfl
    have hopened : openedBy? "LIMIT" (some '\x60') (c :: name ++ '\x60' :: back) =
        some ('\x60' :: back) :=
      finds_limit.eq_some_iff.mpr ⟨c :: name, rfl, .last hname, hboundary⟩
    have hlimit : atLimit (some '\x60') (c :: name ++ '\x60' :: back) = true := by
      rw [atLimit, hopened]
      rfl
    rw [List.cons_append] at hlimit ⊢
    rw [isEnd, Text.isBlank_eq_false_of_isAlpha hc, if_neg Bool.false_ne_true, hlimit, Bool.or_true]

theorem isWordChar_of_isIdentifierPart {c : Char} (hpart : isIdentifierPart c = true) :
    isWordChar c = true := by
  rw [isIdentifierPart, Char.isAlphanum, Bool.or_eq_true, Bool.or_eq_true, beq_iff_eq] at hpart
  rcases hpart with (halpha | hdigit) | rfl
  · exact Text.isWordChar_of_isAlpha halpha
  · exact Text.isWordChar_of_isDigit hdigit
  · decide

/-- A condition without texts is recovered from the count of its rows just if it names no column
that is the word `LIMIT` in some case. -/
theorem textless_condition_is_recovered_iff (options : Options) (table : Identifier)
    {set : FilterSet} {condition : String}
    (htexts : ∀ entry ∈ set.entries, entry.2.hasText = false)
    (hcondition : condition? options set = some condition) :
    extractWhere? (count options table (some set)) = some condition ↔
      ∀ entry ∈ set.entries, entry.2.namesColumn = true → entry.1.name.toUpper ≠ "LIMIT" := by
  have htoUpper (s : String) : s.toUpper = "LIMIT" ↔
      s.toList.map Char.toUpper = "LIMIT".toList := by
    rw [← String.toList_inj]
    simp [String.toUpper]
  have hfilters : (some set).bind (condition? options) = some condition := hcondition
  constructor
  · -- The part that is recovered ends at the first backtick of such a name, or before it.
    intro hrecovered entry hentry hnames hlimit
    obtain ⟨front, back, hsplit⟩ := infix_condition hentry hnames hcondition
    have hend := isEnd_limit_name ((htoUpper _).mp hlimit) back
    have hplace : condition.toList =
        front ++ '\x60' :: (entry.1.name.toList ++ '\x60' :: back) := by
      rw [← hsplit, quoteName, String.toList_append, String.toList_append]
      simp
    rw [extractWhere?_count_eq hfilters, Option.some.injEq, ← String.toList_inj,
      String.toList_ofList, hplace] at hrecovered
    have hshort := length_partFrom_le hend front
    rw [hrecovered] at hshort
    simp at hshort
  · intro hnames
    let IsColumn (name : List Char) : Prop :=
      ∃ entry ∈ set.entries, entry.2.namesColumn = true ∧ entry.1.name.toList = name
    have hcolumns : ∀ name, IsColumn name → ∀ c ∈ name, isWordChar c = true := by
      rintro _ ⟨entry, -, -, rfl⟩ c hc
      exact isWordChar_of_isIdentifierPart (entry.1.isIdentifierPart_of_mem c hc)
    have hnamed {letter : Char} (hletter : letter = 'M' ∨ letter = 'Y') :
        Named letter IsColumn condition.toList :=
      named_condition hletter htexts (fun entry hentry hnames => ⟨entry, hentry, hnames, rfl⟩)
        hcondition
    apply extractWhere?_count hfilters
    · intro hwords
      obtain ⟨_, ⟨entry, hentry, hcolumn, rfl⟩, hlimit⟩ :=
        exists_column_of_hasWords_limit hcolumns (hnamed (.inl rfl)) hwords
      exact hnames entry hentry hcolumn ((htoUpper _).mpr hlimit)
    · exact not_hasWords_orderBy hcolumns (hnamed (.inr rfl))

/-- Names that look like keywords in part, or like one that ends no condition by itself. -/
theorem order_by_columns_are_recovered :
    (∀ entry ∈ (FilterSet.ofList [(⟨"order", by decide⟩, .gt (.number (.ofWord 5))),
        (⟨"by", by decide⟩, .notIn [.null, .bool true])]).entries, entry.2.hasText = false) ∧
      condition? default (FilterSet.ofList [(⟨"order", by decide⟩, .gt (.number (.ofWord 5))),
        (⟨"by", by decide⟩, .notIn [.null, .bool true])]) =
          some "\x60order\x60 > 5 AND \x60by\x60 NOT IN (NULL, TRUE)" ∧
      extractWhere? (count default ⟨"limit", by decide⟩ (some (FilterSet.ofList
        [(⟨"order", by decide⟩, .gt (.number (.ofWord 5))),
          (⟨"by", by decide⟩, .notIn [.null, .bool true])]))) =
            some "\x60order\x60 > 5 AND \x60by\x60 NOT IN (NULL, TRUE)" := by
  let set := FilterSet.ofList [(⟨"order", by decide⟩, .gt (.number (.ofWord 5))),
    (⟨"by", by decide⟩, .notIn [.null, .bool true])]
  have htexts : ∀ entry ∈ set.entries, entry.2.hasText = false := by decide +kernel
  have hcondition : condition? default set =
      some "\x60order\x60 > 5 AND \x60by\x60 NOT IN (NULL, TRUE)" := by
    decide +kernel
  have hnames : ∀ entry ∈ set.entries, entry.2.namesColumn = true →
      entry.1.name.toUpper ≠ "LIMIT" := by
    intro entry hentry _ hlimit
    have hchars := congrArg String.toList hlimit
    have hother : ∀ entry ∈ set.entries, entry.1.name.toList.map Char.toUpper ≠ "LIMIT".toList := by
      decide +kernel
    exact hother entry hentry (by simpa [String.toUpper] using hchars)
  exact ⟨htexts, hcondition,
    (textless_condition_is_recovered_iff default ⟨"limit", by decide⟩ htexts hcondition).mpr hnames⟩

/-- A column may be named `limit`, and then the condition ends inside its name. -/
theorem limit_column_is_not_recovered :
    (∀ entry ∈ (FilterSet.ofList [(⟨"limit", by decide⟩,
        .eq (.number (.ofWord 5)))]).entries, entry.2.hasText = false) ∧
      condition? default (FilterSet.ofList [(⟨"limit", by decide⟩, .eq (.number (.ofWord 5)))]) =
        some "\x60limit\x60 = 5" ∧
      extractWhere? (count default ⟨"t", by decide⟩ (some (FilterSet.ofList
        [(⟨"limit", by decide⟩, .eq (.number (.ofWord 5)))]))) = some "\x60" := by
  decide +kernel

end Sql

end TableFilter
