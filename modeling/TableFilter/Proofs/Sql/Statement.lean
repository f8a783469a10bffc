import TableFilter.Proofs.Sql.Search
import TableFilter.Proofs.Sql.Token
import TableFilter.Sql.Query

/-!
# Pieces of printed statements

A condition neither begins nor ends with a blank. Around the condition and the order of a statement
nothing looks like the start of one, whatever the names in it are.
-/

namespace TableFilter.Sql

open Text (EndsVisibly StartsVisibly isBlank joined)
open TableFilter.Filter (Spec)

/-! ## Ends of conditions -/

section Ends

variable {s t : String}

theorem startsVisibly_append (hs : StartsVisibly s.toList) (t : String) :
    StartsVisibly (s ++ t).toList := by
  rw [String.toList_append]
  exact hs.append t.toList

theorem endsVisibly_append (s : String) (ht : EndsVisibly t.toList) :
    EndsVisibly (s ++ t).toList := by
  rw [String.toList_append]
  exact ht.append s.toList

theorem joined_ends {separator : String} {items : List String} (hne : items ≠ [])
    (hstarts : ∀ s ∈ items, StartsVisibly s.toList) (hends : ∀ s ∈ items, EndsVisibly s.toList) :
    StartsVisibly (joined separator items).toList ∧
      EndsVisibly (joined separator items).toList := by
  induction items with
  | nil => exact absurd rfl hne
  | cons s rest ih =>
    rw [List.forall_mem_cons] at hstarts hends
    cases rest with
    | nil => exact ⟨hstarts.1, hends.1⟩
    | cons t rest =>
      obtain ⟨-, hrest⟩ := ih (List.cons_ne_nil t rest) hstarts.2 hends.2
      rw [joined]
      exact ⟨startsVisibly_append (startsVisibly_append hstarts.1 _) _, endsVisibly_append _ hrest⟩

/-- What holds of texts put together holds of texts that are joined. -/
theorem of_joined {P : List Char → Prop} {separator : String} {items : List String} (hnil : P [])
    (happend : ∀ {cs others : List Char}, P cs → P others → P (cs ++ others))
    (hseparator : P separator.toList) (hitems : ∀ s ∈ items, P s.toList) :
    P (joined separator items).toList := by
  induction items with
  | nil => exact hnil
  | cons s rest ih =>
    rw [List.forall_mem_cons] at hitems
    cases rest with
    | nil => exact hitems.1
    | cons t rest =>
      rw [joined, String.toList_append, String.toList_append]
      exact happend (happend hitems.1 hseparator) (ih hitems.2)

theorem startsVisibly_quoteName (name : String) : StartsVisibly (quoteName name).toList := by
  have hquote : StartsVisibly "\x60".toList := ⟨'\x60', rfl, rfl⟩
  exact startsVisibly_append (startsVisibly_append hquote name) _

theorem isBlank_of_isNumberChar {c : Char} (hnumber : Json.isNumberChar c = true) :
    isBlank c = false := by
  rcases (Json.isNumberChar_iff c).mp hnumber with hdigit | rfl | rfl | rfl | rfl
  · exact isBlank_of_isDigit hdigit
  all_goals decide

theorem endsVisibly_literal (options : Options) (v : Scalar) :
    EndsVisibly (literal options v).toList := by
  cases v with
  | null =>
    have hword : EndsVisibly "NULL".toList := ⟨'L', by decide, by decide⟩
    exact hword
  | bool b =>
    have htrue : EndsVisibly "TRUE".toList := ⟨'E', by decide, by decide⟩
    have hfalse : EndsVisibly "FALSE".toList := ⟨'E', by decide, by decide⟩
    cases b
    · exact hfalse
    · exact htrue
  | number n =>
    have hchars : (literal options (.number n)).toList = n.chars := String.toList_ofList
    rw [hchars]
    refine ⟨n.chars.getLast (Json.chars_ne_nil n), List.getLast?_eq_some_getLast _, ?_⟩
    exact isBlank_of_isNumberChar (Json.isNumberChar_of_mem_chars n _ (List.getLast_mem _))
  | string s =>
    have hquote : EndsVisibly "'".toList := ⟨'\'', rfl, rfl⟩
    exact endsVisibly_append _ hquote

theorem ends_append (hs : StartsVisibly s.toList) (ht : EndsVisibly t.toList) :
    StartsVisibly (s ++ t).toList ∧ EndsVisibly (s ++ t).toList :=
  ⟨startsVisibly_append hs t, endsVisibly_append s ht⟩

/-- A clause begins with a name, a bracket or a digit and ends with a quote, a bracket, a digit or
a word. -/
theorem clause?_ends {options : Options} {column : Identifier} {spec : Spec} {clause : String}
    (hclause : clause? options column spec = some clause) :
    StartsVisibly clause.toList ∧ EndsVisibly clause.toList := by
  have hname (middle : String) : StartsVisibly (quoteName column.name ++ middle).toList :=
    startsVisibly_append (startsVisibly_quoteName column.name) middle
  have hbracket : EndsVisibly ")".toList := ⟨')', rfl, rfl⟩
  have hquote : EndsVisibly "'".toList := ⟨'\'', rfl, rfl⟩
  cases spec with
  | eq v =>
    cases v with
    | null =>
      cases hclause
      have hnull : EndsVisibly " IS NULL".toList := ⟨'L', by decide, by decide⟩
      exact ends_append (startsVisibly_quoteName column.name) hnull
    | _ =>
      cases hclause
      exact ends_append (hname _) (endsVisibly_literal options _)
  | isIn items =>
    cases items with
    | nil =>
      cases hclause
      have hfalse : StartsVisibly "1=0".toList ∧ EndsVisibly "1=0".toList :=
        ⟨⟨'1', by decide, by decide⟩, ⟨'0', by decide, by decide⟩⟩
      exact hfalse
    | cons v items =>
      cases hclause
      exact ends_append (startsVisibly_append (hname _) _) hbracket
  | contains v =>
    cases hclause
    have hlike : EndsVisibly "%'".toList := ⟨'\'', by decide, by decide⟩
    exact ends_append (startsVisibly_append (hname _) _) hlike
  | regex pattern =>
    cases hclause
    exact ends_append (startsVisibly_append (hname _) _) hquote
  | notEmpty =>
    cases hclause
    have hempty : EndsVisibly " != ''".toList := ⟨'\'', by decide, by decide⟩
    exact ends_append (startsVisibly_append (hname _) _) hempty
  | empty =>
    cases hclause
    have hopen : StartsVisibly "(".toList := ⟨'(', rfl, rfl⟩
    have hempty : EndsVisibly " = '')".toList := ⟨')', by decide, by decide⟩
    exact ends_append (startsVisibly_append (startsVisibly_append
      (startsVisibly_append hopen _) _) _) hempty
  | notIn items =>
    cases items with
    | nil =>
      cases hclause
      have htrue : StartsVisibly "1=1".toList ∧ EndsVisibly "1=1".toList :=
        ⟨⟨'1', by decide, by decide⟩, ⟨'1', by decide, by decide⟩⟩
      exact htrue
    | cons v items =>
      cases hclause
      exact ends_append (startsVisibly_append (hname _) _) hbracket
  | gt v =>
    cases hclause
    exact ends_append (hname _) (endsVisibly_literal options v)
  | lt v =>
    cases hclause
    exact ends_append (hname _) (endsVisibly_literal options v)
  | range low high =>
    cases low with
    | none => cases hclause
    | some low =>
      cases high with
      | none => cases hclause
      | some high =>
        cases hclause
        exact ends_append (startsVisibly_append (startsVisibly_append (hname _) _) _)
          (endsVisibly_literal options high)

/-- A condition neither begins nor ends with a blank. -/
theorem condition?_ends {options : Options} {set : FilterSet} {condition : String}
    (hcondition : condition? options set = some condition) :
    StartsVisibly condition.toList ∧ EndsVisibly condition.toList := by
  have hclauses : ∀ clause ∈ clauses options set,
      StartsVisibly clause.toList ∧ EndsVisibly clause.toList := by
    intro clause hmem
    obtain ⟨_, -, hclause⟩ := List.mem_filterMap.mp hmem
    exact clause?_ends hclause
  rw [condition?] at hcondition
  split at hcondition
  next => cases hcondition
  next hne =>
    cases hcondition
    exact joined_ends hne (fun s hs => (hclauses s hs).1) fun s hs => (hclauses s hs).2

end Ends

/-! ## Plain pieces of a statement -/

section Plain

variable {letter : Char}

theorem isBlank_of_mem_quoteName (table : Identifier) :
    ∀ c ∈ (quoteName table.name).toList, isBlank c = false := by
  have hpart (c : Char) (hc : c ∈ table.name.toList) : isBlank c = false := by
    have hpart := table.isIdentifierPart_of_mem c hc
    rw [isIdentifierPart, Char.isAlphanum, Bool.or_eq_true, Bool.or_eq_true, beq_iff_eq] at hpart
    rcases hpart with (halpha | hdigit) | rfl
    · exact Text.isBlank_eq_false_of_isAlpha halpha
    · exact isBlank_of_isDigit hdigit
    · decide
  have hquote : ∀ c ∈ "\x60".toList, isBlank c = false := List.forall_mem_singleton.mpr rfl
  rw [quoteName, String.toList_append, String.toList_append]
  simp only [List.forall_mem_append]
  exact ⟨⟨hquote, hpart⟩, hquote⟩

/-- The texts around names and numbers in a statement, save for the keywords of its parts. -/
def fixedPieces : List String :=
  ["SELECT ", "SELECT COUNT(*) as count FROM ", " FROM ", "*", ", ", " LIMIT ", " OFFSET ", ""]

variable (hletter : letter = 'E' ∨ letter = 'R')

include hletter

theorem isUpper_of_eq : letter.isUpper = true := by
  rcases hletter with rfl | rfl <;> decide

/-- No blank is in a name between backticks, whatever words are. -/
theorem isPlain_quoteName (table : Identifier) : IsPlain letter (quoteName table.name).toList := by
  apply IsPlain.of_visible (isUpper_of_eq hletter) (isBlank_of_mem_quoteName table)
  intro c hc
  rw [quoteName, String.toList_append, List.getLast?_append] at hc
  cases hc
  decide

theorem isPlain_joined {separator : String} {items : List String}
    (hseparator : IsPlain letter separator.toList)
    (hitems : ∀ s ∈ items, IsPlain letter s.toList) :
    IsPlain letter (joined separator items).toList :=
  of_joined ⟨isUpper_of_eq hletter, .nil, nofun⟩ .append hseparator hitems

theorem isPlain_fixed : ∀ piece ∈ fixedPieces, IsPlain letter piece.toList := by
  have hchain : ∀ piece ∈ fixedPieces,
      piece.toList.IsChain fun c b => isBlank b = true → c.toUpper ≠ letter := by
    rcases hletter with rfl | rfl <;> decide
  have hends : ∀ piece ∈ fixedPieces, piece.toList.getLast?.any Char.isAlpha = false := by
    decide
  intro piece hmem
  exact .of_any (isUpper_of_eq hletter) (hchain piece hmem) (hends piece hmem)

theorem isPlain_columns (columns : Columns) : IsPlain letter columns.sql.toList := by
  have hfixed := isPlain_fixed hletter
  cases columns with
  | all => exact hfixed "*" (by decide)
  | named first rest =>
    apply isPlain_joined hletter (hfixed ", " (by decide))
    intro s hs
    obtain ⟨column, -, rfl⟩ := List.mem_map.mp hs
    exact isPlain_quoteName hletter column

theorem isPlain_selectHead (columns : Columns) (table : Identifier) :
    IsPlain letter ("SELECT " ++ columns.sql ++ " FROM " ++ quoteName table.name).toList := by
  have hselect := isPlain_fixed hletter "SELECT " (by decide)
  have hfrom := isPlain_fixed hletter " FROM " (by decide)
  simp only [String.toList_append]
  exact ((hselect.append (isPlain_columns hletter columns)).append hfrom).append
    (isPlain_quoteName hletter table)

theorem isPlain_countHead (table : Identifier) :
    IsPlain letter ("SELECT COUNT(*) as count FROM " ++ quoteName table.name).toList := by
  have hselect := isPlain_fixed hletter "SELECT COUNT(*) as count FROM " (by decide)
  rw [String.toList_append]
  exact hselect.append (isPlain_quoteName hletter table)

theorem isPlain_toString (n : Nat) : IsPlain letter (toString n).toList := by
  have hchars : (toString n).toList = Nat.toDigits 10 n := String.toList_ofList
  have hdigit : ∀ c ∈ (toString n).toList, c.isDigit = true := by
    rw [hchars]
    intro c hc
    exact Decimal.isDigit_of_mem_toDigits hc
  apply IsPlain.of_visible (isUpper_of_eq hletter) fun c hc => isBlank_of_isDigit (hdigit c hc)
  intro c hc
  exact Text.isAlpha_eq_false_of_isDigit (hdigit c (List.mem_of_getLast? hc))

theorem isPlain_limitSql (limit offset : Option UInt64) :
    IsPlain letter (limitSql limit offset).toList := by
  have hlimit := isPlain_fixed hletter " LIMIT " (by decide)
  have hoffset := isPlain_fixed hletter " OFFSET " (by decide)
  have hnone := isPlain_fixed hletter "" (by decide)
  unfold limitSql
  split
  · exact hnone
  · rw [String.toList_append]
    exact hlimit.append (isPlain_toString hletter _)
  · rw [String.toList_append, String.toList_append]
    apply (hlimit.append (isPlain_toString hletter _)).append
    split
    · exact hnone
    · rw [String.toList_append]
      exact hoffset.append (isPlain_toString hletter _)

end Plain

/-! ## Statements put together -/

theorem toList_select (options : Options) (q : Query) :
    (select options q).toList =
      ("SELECT " ++ q.columns.sql ++ " FROM " ++ quoteName q.table.name).toList ++
        ((whereSql options q.filters).toList ++
          ((orderSql q.orderBy).toList ++ (limitSql q.limit q.offset).toList)) := by
  rw [select, String.toList_append, String.toList_append, String.toList_append, List.append_assoc,
    List.append_assoc]

theorem toList_count (options : Options) (table : Identifier) (filters : Option FilterSet) :
    (count options table filters).toList =
      ("SELECT COUNT(*) as count FROM " ++ quoteName table.name).toList ++
        (whereSql options filters).toList :=
  String.toList_append

theorem toList_whereSql {options : Options} {filters : Option FilterSet} {condition : String}
    (hcondition : filters.bind (condition? options) = some condition) :
    (whereSql options filters).toList = " WHERE ".toList ++ condition.toList := by
  rw [whereSql, hcondition, String.toList_append]

theorem toList_whereSql_eq_nil {options : Options} {filters : Option FilterSet}
    (hcondition : filters.bind (condition? options) = none) :
    (whereSql options filters).toList = [] := by
  rw [whereSql, hcondition]
  rfl

theorem toList_orderSql {orderBy : Option String} {order : String}
    (horderBy : orderBy = some order) (hne : Text.trim order ≠ "") :
    (orderSql orderBy).toList = " ORDER BY ".toList ++ (Text.trim order).toList := by
  have hempty : (Text.trim order).isEmpty = false := by
    rw [← Bool.not_eq_true, String.isEmpty_iff]
    exact hne
  rw [orderSql, horderBy, Option.map_some]
  simp only [hempty, Bool.false_eq_true, if_false, String.toList_append]

theorem toList_orderSql_eq_nil {orderBy : Option String}
    (hblank : ∀ order, orderBy = some order → Text.trim order = "") :
    (orderSql orderBy).toList = [] := by
  cases orderBy with
  | none => rfl
  | some order =>
    rw [orderSql, Option.map_some, hblank order rfl]
    rfl

theorem trim_ends {order : String} (hne : Text.trim order ≠ "") :
    StartsVisibly (Text.trim order).toList ∧ EndsVisibly (Text.trim order).toList := by
  rw [Text.trim, String.toList_ofList]
  apply Text.trimChars_ends
  intro hnil
  apply hne
  rw [Text.trim, hnil]

end TableFilter.Sql
