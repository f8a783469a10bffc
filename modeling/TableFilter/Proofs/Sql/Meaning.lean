import TableFilter.Proofs.Sql.Grammar

/-!
# What a printed condition says

A server that reads the condition of a filter set finds the conditions of its demands, in order and
nothing else, whatever the texts in it hold. Main statement: `read?_condition?`.
-/

namespace TableFilter

open TableFilter.Filter (Spec)

open Sql (Condition Term Test)

def Identifier.term (column : Identifier) : Term :=
  .column column.name

/-- The text that a pattern of a text anywhere in a cell is. -/
def Scalar.likePattern (v : Scalar) : String :=
  "%" ++ Sql.escapeLike v.text ++ "%"

/-- A test of one number against another, which no column has a part in. -/
def Sql.Test.constant (n m : UInt64) : Test :=
  .compare (.value (.number (.ofWord n))) .equal (.value (.number (.ofWord m)))

/-- The conditions that a demand on a column puts. -/
def Filter.Spec.conditions (column : Identifier) : Spec → List Condition
  | .eq .null => [.test (.isNull false column.term)]
  | .eq v => [.test (.compare column.term .equal (.value v))]
  | .isIn [] => [.test (.constant 1 0)]
  | .isIn (v :: rest) => [.test (.among false column.term (.value v) (rest.map .value))]
  | .contains v => [.test (.like false column.term v.likePattern)]
  | .regex pattern => [.test (.regexp false column.term pattern)]
  | .notEmpty =>
    [.test (.isNull true column.term),
      .test (.compare column.term .notEqual (.value (.string "")))]
  | .empty =>
    [.group [[.test (.isNull false column.term)],
      [.test (.compare column.term .equal (.value (.string "")))]]]
  | .notIn [] => [.test (.constant 1 1)]
  | .notIn (v :: rest) => [.test (.among true column.term (.value v) (rest.map .value))]
  | .gt v => [.test (.compare column.term .greater (.value v))]
  | .lt v => [.test (.compare column.term .less (.value v))]
  | .range (some low) (some high) =>
    [.test (.between false column.term (.value low) (.value high))]
  | .range _ _ => []

/-- The conditions that the demands of a set put, in order. -/
def FilterSet.conditions (set : FilterSet) : List Condition :=
  set.entries.flatMap fun (column, spec) => spec.conditions column

namespace Sql

theorem LexesTo.literal (options : Options) (v : Scalar) :
    LexesTo options.escapeBackslashes (literal options v).toList [(Term.value v).token] := by
  cases v with
  | null => simpa [Sql.literal, Term.token, Keyword.chars] using LexesTo.keyword .null
  | bool b =>
    cases b with
    | false => simpa [Sql.literal, Term.token, Keyword.chars] using LexesTo.keyword .no
    | true => simpa [Sql.literal, Term.token, Keyword.chars] using LexesTo.keyword .yes
  | number n => simpa [Sql.literal, Term.token, Json.Number.text] using LexesTo.number n
  | string s =>
    have hlexes := LexesTo.text (.escapeLiteral options.escapeBackslashes s)
    simpa [Sql.literal, Term.token, quoteLiteral] using hlexes

theorem LexesTo.literals (options : Options) (v : Scalar) (rest : List Scalar) :
    LexesTo options.escapeBackslashes (literals options (v :: rest)).toList
      (termTokens (.value v) (rest.map .value)) := by
  induction rest generalizing v with
  | nil => exact .literal options v
  | cons w rest ih =>
    have hlexes := (LexesTo.literal options v).listed (ih w)
    simpa [Sql.literals, Text.joined, termTokens] using hlexes

/-- What a part of a condition says, if there is one: at least one condition. -/
def Says (options : Options) : Option String → List Condition → Prop
  | none, cs => cs = []
  | some text, cs =>
    cs ≠ [] ∧ LexesTo options.escapeBackslashes text.toList (conjunctTokens cs)

/-- A pattern that may stand between the quotes of a literal as it is. -/
def NeedsNoEscape (options : Options) (pattern : String) : Prop :=
  '\'' ∉ pattern.toList ∧ (options.escapeBackslashes = true → '\\' ∉ pattern.toList)

theorem LexesTo.emptyText (escapes : Bool) : LexesTo escapes ['\'', '\''] [.text ""] := by
  have hempty : ReadsAs '\'' escapes [] "".toList := .nil
  exact .text hempty

theorem says_of_lexesTo {options : Options} {text : String} {cs : List Condition}
    {chars : List Char} {ts : List Token} (hne : cs ≠ []) (htext : text.toList = chars)
    (htokens : conjunctTokens cs = ts) (hlexes : LexesTo options.escapeBackslashes chars ts) :
    Says options (some text) cs := by
  subst htext htokens
  exact ⟨hne, hlexes⟩

theorem nextToken_one (escapes : Bool) (cs : List Char) :
    nextToken escapes ('1' :: '=' :: cs) = (.number (.ofWord 1), '=' :: cs) := by
  have hread : Json.nextToken ('1' :: '=' :: cs) = (.number (some (.ofWord 1)), '=' :: cs) :=
    Json.nextToken_chars (.ofWord 1) (Json.endsNumber_cons (by decide) cs)
  rw [nextToken_of_starts_number rfl, numberToken, hread]

theorem LexesTo.constant (escapes : Bool) (m : UInt64) :
    LexesTo escapes ('1' :: '=' :: (Json.Number.ofWord m).chars) (Test.constant 1 m).tokens :=
  .cons nofun (fun _ => nextToken_one escapes _) (.cons nofun (fun _ => rfl) (.number (.ofWord m)))

theorem ReadsAs.likePattern (escapes : Bool) (v : Scalar) :
    ReadsAs '\'' escapes ('%' :: (Sql.escapeLiteral escapes (escapeLike v.text)).toList ++ ['%'])
      v.likePattern.toList := by
  have hpercent : ReadsAs '\'' escapes ['%'] ['%'] := .plain (by decide) rfl
  have hpattern := (hpercent.append (.escapeLiteral escapes (escapeLike v.text))).append hpercent
  simpa [Scalar.likePattern] using hpattern

/-- A clause with a regular expression, whatever its pattern is read as. -/
theorem LexesTo.regexp {escapes : Bool} (column : Identifier) {pattern read : String}
    (hreads : ReadsAs '\'' escapes pattern.toList read.toList) :
    LexesTo escapes (quoteName column.name ++ " REGEXP '" ++ pattern ++ "'").toList
      [.name column.name, .keyword .regexp, .text read] := by
  simpa [Keyword.chars] using
    (LexesTo.name column).spaced ((LexesTo.keyword .regexp).spaced (LexesTo.text hreads))

section Clause

variable (options : Options) (column : Identifier)

theorem says_compare {text : String} (c : Comparison) (v : Scalar)
    (htext : text.toList =
      (quoteName column.name).toList ++ ' ' :: (c.chars ++ ' ' :: (literal options v).toList)) :
    Says options (some text) [.test (.compare column.term c (.value v))] :=
  says_of_lexesTo nofun htext rfl
    ((LexesTo.name column).spaced ((LexesTo.comparison c).spaced (.literal options v)))

/-- Each demand says its conditions. -/
theorem says_clause? (spec : Spec)
    (hregex : ∀ pattern, spec = .regex pattern → NeedsNoEscape options pattern) :
    Says options (clause? options column spec) (spec.conditions column) := by
  have hname := @LexesTo.name options.escapeBackslashes column
  have hkeyword (k : Keyword) := @LexesTo.keyword options.escapeBackslashes k
  have hcomparison (c : Comparison) := @LexesTo.comparison options.escapeBackslashes c
  have hliteral (v : Scalar) := LexesTo.literal options v
  cases spec with
  | eq v =>
    cases v with
    | null =>
      exact says_of_lexesTo nofun (by simp [Keyword.chars]) rfl
        (hname.spaced ((hkeyword .is).spaced (hkeyword .null)))
    | bool b => exact says_compare options column .equal _ (by simp [Comparison.chars])
    | number n => exact says_compare options column .equal _ (by simp [Comparison.chars])
    | string s => exact says_compare options column .equal _ (by simp [Comparison.chars])
  | isIn items =>
    cases items with
    | nil => exact says_of_lexesTo nofun (by decide) rfl (.constant _ 0)
    | cons v rest =>
      exact says_of_lexesTo nofun (by simp [Keyword.chars]) rfl (hname.spaced
        ((hkeyword .among).spaced (LexesTo.literals options v rest).parenthesised))
  | contains v =>
    exact says_of_lexesTo nofun (by simp [Keyword.chars]) rfl
      (hname.spaced ((hkeyword .like).spaced (.text (.likePattern _ v))))
  | regex pattern =>
    obtain ⟨hquote, hescape⟩ := hregex pattern rfl
    exact says_of_lexesTo nofun rfl rfl (.regexp column (.self hquote hescape))
  | notEmpty =>
    exact says_of_lexesTo nofun (by simp [Keyword.chars, Comparison.chars]) rfl
      ((hname.spaced ((hkeyword .is).spaced ((hkeyword .not).spaced (hkeyword .null)))).spaced
        ((hkeyword .and).spaced
          (hname.spaced ((hcomparison .notEqual).spaced (.emptyText _)))))
  | empty =>
    exact says_of_lexesTo nofun (by simp [Keyword.chars, Comparison.chars]) rfl
      ((hname.spaced ((hkeyword .is).spaced (hkeyword .null))).spaced
        ((hkeyword .or).spaced
          (hname.spaced ((hcomparison .equal).spaced (.emptyText _))))).parenthesised
  | notIn items =>
    cases items with
    | nil => exact says_of_lexesTo nofun (by decide) rfl (.constant _ 1)
    | cons v rest =>
      exact says_of_lexesTo nofun (by simp [Keyword.chars]) rfl
        (hname.spaced ((hkeyword .not).spaced
          ((hkeyword .among).spaced (LexesTo.literals options v rest).parenthesised)))
  | gt v => exact says_compare options column .greater v (by simp [Comparison.chars])
  | lt v => exact says_compare options column .less v (by simp [Comparison.chars])
  | range gte lte =>
    rcases gte with _ | low
    · rfl
    · rcases lte with _ | high
      · rfl
      · exact says_of_lexesTo nofun (by simp [Keyword.chars]) rfl
          (hname.spaced ((hkeyword .between).spaced
            ((hliteral low).spaced ((hkeyword .and).spaced (hliteral high)))))

end Clause

/-! ## Conjunctions of clauses -/

theorem conjunctTokens_append {cs ds : List Condition} (hcs : cs ≠ []) (hds : ds ≠ []) :
    conjunctTokens (cs ++ ds) = conjunctTokens cs ++ .keyword .and :: conjunctTokens ds := by
  induction cs with
  | nil => exact absurd rfl hcs
  | cons c cs ih =>
    cases cs with
    | nil =>
      cases ds with
      | nil => exact absurd rfl hds
      | cons d ds => rfl
    | cons c' cs =>
      have hrest := ih (List.cons_ne_nil c' cs)
      rw [List.cons_append] at hrest
      rw [List.cons_append, List.cons_append, conjunctTokens, hrest, conjunctTokens,
        List.append_assoc, List.cons_append]

/-- The clauses as one condition, if there is any. -/
def conjoined : List String → Option String
  | [] => none
  | clauses => some (Text.joined " AND " clauses)

theorem condition?_eq_conjoined (options : Options) (set : FilterSet) :
    condition? options set = conjoined (clauses options set) := by
  unfold condition?
  cases clauses options set with
  | nil => rfl
  | cons clause rest => rfl

theorem says_cons {options : Options} {clause : Option String} {clauses : List String}
    {cs ds : List Condition} (hclause : Says options clause cs)
    (hclauses : Says options (conjoined clauses) ds) :
    Says options (conjoined (clause.toList ++ clauses)) (cs ++ ds) := by
  cases clause with
  | none =>
    cases hclause
    exact hclauses
  | some text =>
    obtain ⟨hcs, htext⟩ := hclause
    cases clauses with
    | nil =>
      cases hclauses
      rw [List.append_nil cs]
      exact ⟨hcs, htext⟩
    | cons other clauses =>
      obtain ⟨hds, hothers⟩ := hclauses
      have hand : LexesTo options.escapeBackslashes ['A', 'N', 'D'] [.keyword .and] := .keyword .and
      refine says_of_lexesTo (by simp [hcs]) ?_ (conjunctTokens_append hcs hds)
        (htext.spaced (hand.spaced hothers))
      simp [Text.joined]

/-- What the clauses of demands say together are the conditions of the demands, in order. -/
theorem says_clauses {options : Options} {entries : List (Identifier × Spec)}
    (hregex : ∀ column pattern, (column, .regex pattern) ∈ entries →
      NeedsNoEscape options pattern) :
    Says options
      (conjoined (entries.filterMap fun (column, spec) => clause? options column spec))
      (entries.flatMap fun (column, spec) => spec.conditions column) := by
  induction entries with
  | nil => rfl
  | cons entry rest ih =>
    obtain ⟨column, spec⟩ := entry
    have hclause := says_clause? options column spec fun pattern heq =>
      hregex column pattern (heq ▸ List.mem_cons_self)
    have hrest := ih fun column pattern hmem => hregex column pattern (List.mem_cons_of_mem _ hmem)
    have hsplit := says_cons hclause hrest
    rw [List.filterMap_cons, List.flatMap_cons]
    cases hfirst : clause? options column spec with
    | none => simpa [hfirst] using hsplit
    | some text => simpa [hfirst] using hsplit

theorem areProper_conditions (column : Identifier) (spec : Spec) :
    areProper (spec.conditions column) = true := by
  cases spec with
  | eq v => cases v <;> rfl
  | isIn items => cases items <;> rfl
  | notIn items => cases items <;> rfl
  | range gte lte => cases gte <;> cases lte <;> rfl
  | _ => rfl

theorem areProper_append (cs ds : List Condition) :
    areProper (cs ++ ds) = (areProper cs && areProper ds) := by
  induction cs with
  | nil => rfl
  | cons c cs ih => rw [List.cons_append, areProper, areProper, ih, Bool.and_assoc]

theorem areProper_flatMap_conditions (entries : List (Identifier × Spec)) :
    areProper (entries.flatMap fun (column, spec) => spec.conditions column) = true := by
  induction entries with
  | nil => rfl
  | cons entry rest ih =>
    rw [List.flatMap_cons, areProper_append, ih, Bool.and_true]
    exact areProper_conditions entry.1 entry.2

/-- What is read of a text is the conjunction it says. -/
theorem read?_of_says {options : Options} {text : Option String} {cs : List Condition}
    (hmeans : Says options text cs) (hproper : areProper cs = true) :
    read? options text = some [cs] := by
  cases text with
  | none =>
    cases hmeans
    rfl
  | some text =>
    obtain ⟨hne, hlexes⟩ := hmeans
    have hread : ofTokens? (alternativeTokens [cs]) = some [cs] := by
      refine ofTokens?_alternativeTokens nofun ?_
      simp [areProperAlternatives, hne, hproper]
    rw [alternativeTokens] at hread
    rw [read?, hlexes.tokens_eq, hread]

theorem read?_clauses {options : Options} {entries : List (Identifier × Spec)}
    (hregex : ∀ column pattern, (column, .regex pattern) ∈ entries →
      NeedsNoEscape options pattern) :
    read? options
        (conjoined (entries.filterMap fun (column, spec) => clause? options column spec)) =
      some [entries.flatMap fun (column, spec) => spec.conditions column] :=
  read?_of_says (says_clauses hregex) (areProper_flatMap_conditions entries)

/-- A server that reads the condition of a set finds one conjunction, of the conditions of its
demands in order. Each text in it is read as it was and nothing of it is taken for anything else,
save a pattern in which something would have to be escaped, for patterns are not. -/
theorem printed_condition_is_read_as_conjunction (options : Options) (set : FilterSet)
    (hregex : ∀ column pattern, (column, .regex pattern) ∈ set.entries →
      NeedsNoEscape options pattern) :
    read? options (condition? options set) = some [set.conditions] := by
  rw [condition?_eq_conjoined]
  exact read?_clauses hregex

/-- Neither a quote nor a backslash in a text ends its literal. -/
theorem injected_text_stays_in_its_literal :
    read? ⟨true⟩ (condition? ⟨true⟩ (.ofList [
        (⟨"name", by decide⟩, .contains (.string "x' OR 1=1 \\")),
        (⟨"code", by decide⟩, .regex "^a")])) =
      some [[.test (.like false (.column "name") "%x' OR 1=1 \\\\%"),
        .test (.regexp false (.column "code") "^a")]] := by
  rw [printed_condition_is_read_as_conjunction]
  · rfl
  · intro column pattern hmem
    have hpattern : pattern = "^a" := by
      rcases hmem with _ | ⟨_, _ | ⟨_, ⟨⟩⟩⟩
      rfl
    subst hpattern
    exact ⟨by decide, fun _ => by decide⟩

end Sql

end TableFilter
