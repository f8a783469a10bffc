import TableFilter.Proofs.Sql.Statement

/-!
# Parts of printed statements

The condition and the order of a printed statement are recovered from it, whatever the names in it
are. Main statement: `parts_of_select_are_recovered`.
-/

namespace TableFilter.Sql

open Text (EndsVisibly HasWords Spells StartsVisibly isBlank)

/-! ## What follows a part -/

theorem finds_where : Finds (openedBy? "WHERE") ["WHERE"] :=
  finds_openedBy? (by decide)

theorem finds_limit : Finds (openedBy? "LIMIT") ["LIMIT"] :=
  finds_openedBy? (by decide)

theorem spells_orderBy : Spells ["ORDER", "BY"] "ORDER BY".toList := by
  have hspells : Spells ["ORDER", "BY"] ("ORDER".toList ++ ([' '] ++ "BY".toList)) :=
    .next rfl (List.cons_ne_nil _ _) Text.isBlank_of_mem_space (.last rfl)
  exact hspells

theorem atLimit_limit (rest : List Char) :
    atLimit (some ' ') ("LIMIT".toList ++ ' ' :: rest) = true := by
  refine finds_limit.any_endsWord_of_spells (.last rfl) (by decide) ?_
  rintro _ ⟨⟩
  decide

theorem atOrder_orderBy (rest : List Char) :
    atOrder (some ' ') ("ORDER BY".toList ++ ' ' :: rest) = true := by
  refine finds_openedByOrder?.any_endsWord_of_spells spells_orderBy (by decide) ?_
  rintro _ ⟨⟩
  decide

/-- Nothing, or a blank and a keyword that ends a condition. -/
inductive IsTail : List Char → Prop where
  | nil : IsTail []
  | order (rest : List Char) : IsTail (' ' :: ("ORDER BY".toList ++ ' ' :: rest))
  | limit (rest : List Char) : IsTail (' ' :: ("LIMIT".toList ++ ' ' :: rest))

namespace IsTail

variable {rest : List Char}

theorem blank (htail : IsTail rest) : ∀ b ∈ rest.head?, isBlank b = true := by
  rintro b hb
  cases htail with
  | nil => cases hb
  | order | limit =>
    cases hb
    decide

theorem isApart_openedByOrder? (htail : IsTail rest) : IsApart openedByOrder? rest := by
  apply Sql.isApart_openedByOrder? htail.blank
  intro behind hbehind
  cases htail with
  | nil => cases hbehind
  | order | limit =>
    cases hbehind
    rfl

/-- A condition ends in front of it. -/
theorem isEnd_condition (htail : IsTail rest) (before : Char) :
    isEnd (fun before cs => atOrder before cs || atLimit before cs) before rest = true := by
  cases htail with
  | nil => rfl
  | order rest =>
    have hend : (atOrder (some ' ') ("ORDER BY".toList ++ ' ' :: rest) ||
        atLimit (some ' ') ("ORDER BY".toList ++ ' ' :: rest)) = true := by
      rw [atOrder_orderBy]
      rfl
    exact hend
  | limit rest =>
    have hend : (atOrder (some ' ') ("LIMIT".toList ++ ' ' :: rest) ||
        atLimit (some ' ') ("LIMIT".toList ++ ' ' :: rest)) = true := by
      rw [atLimit_limit, Bool.or_true]
    exact hend

end IsTail

theorem limitSql_eq (limit offset : Option UInt64) :
    (limitSql limit offset).toList = [] ∨
      ∃ rest, (limitSql limit offset).toList = ' ' :: ("LIMIT".toList ++ ' ' :: rest) := by
  unfold limitSql
  split
  · exact .inl rfl
  · rw [String.toList_append]
    exact .inr ⟨_, rfl⟩
  · rw [String.toList_append, String.toList_append, List.append_assoc]
    exact .inr ⟨_, rfl⟩

theorem isTail_limitSql (limit offset : Option UInt64) : IsTail (limitSql limit offset).toList := by
  rcases limitSql_eq limit offset with hnil | ⟨rest, hrest⟩
  · rw [hnil]
    exact .nil
  · rw [hrest]
    exact .limit rest

/-- An order ends in front of it. -/
theorem isEnd_limitSql (limit offset : Option UInt64) (before : Char) :
    isEnd atLimit before (limitSql limit offset).toList = true := by
  rcases limitSql_eq limit offset with hnil | ⟨rest, hrest⟩
  · rw [hnil]
    rfl
  · rw [hrest]
    exact atLimit_limit rest

theorem isTail_orderSql (orderBy : Option String) {rest : List Char} (hrest : IsTail rest) :
    IsTail ((orderSql orderBy).toList ++ rest) := by
  unfold orderSql
  split
  · exact hrest
  · split
    · exact hrest
    · rw [String.toList_append, List.append_assoc]
      exact .order _

/-! ## Parts recovered -/

/-- Behind a plain heading the search for a condition finds it. -/
theorem body?_where {heading rest : List Char} {condition sql : String}
    (hsql : sql.toList = heading ++ (" WHERE ".toList ++ (condition.toList ++ rest)))
    (hheading : IsPlain 'E' heading) (hstarts : StartsVisibly condition.toList) :
    body? (openedBy? "WHERE") none sql.toList = some (condition.toList ++ rest) := by
  have hspace : IsPlain 'E' [' '] := .of_any (by decide) (by decide) (by decide)
  have hsplit : sql.toList =
      (heading ++ [' ']) ++ ("WHERE".toList ++ ([' '] ++ (condition.toList ++ rest))) := by
    rw [hsql, List.append_assoc]
    rfl
  rw [hsplit, body?_append ((hheading.append hspace).isSilent finds_where rfl _),
    List.getLast?_append]
  exact finds_where.body?_of_spells (.last rfl) rfl (List.cons_ne_nil _ _)
    Text.isBlank_of_mem_space (hstarts.append rest)

/-- Behind a plain heading, the condition is what stands between `WHERE` and the tail. -/
theorem extractWhere?_eq_some {heading rest : List Char} {condition sql : String}
    (hsql : sql.toList = heading ++ (" WHERE ".toList ++ (condition.toList ++ rest)))
    (hheading : IsPlain 'E' heading) (htail : IsTail rest)
    (hstarts : StartsVisibly condition.toList) (hends : EndsVisibly condition.toList)
    (hlimit : ¬ HasWords ["LIMIT"] condition.toList)
    (horder : ¬ HasWords ["ORDER", "BY"] condition.toList) :
    extractWhere? sql = some condition := by
  have hbody := body?_where hsql hheading hstarts
  have hpart : partFrom (fun before cs => atOrder before cs || atLimit before cs)
      (condition.toList ++ rest) = condition.toList := by
    apply partFrom_append hends
    · intro front c back hcs _
      have hnotOrder := htail.isApart_openedByOrder?.any_endsWord_getLast? finds_openedByOrder?
        hends horder hcs
      have hnotLimit := (isApart_openedBy? (by decide) htail.blank).any_endsWord_getLast?
        finds_limit hends hlimit hcs
      rw [atOrder, atLimit, hnotOrder, hnotLimit]
      rfl
    · exact htail.isEnd_condition
  rw [extractWhere?, part?, hbody, Option.map_some, hpart, String.ofList_toList]

/-- The search for an order goes by the condition, if that does not have the words. -/
theorem exists_body?_openedByOrder? {heading rest : List Char} (hheading : IsPlain 'R' heading)
    (hrest : IsApart openedByOrder? rest) {options : Options} {filters : Option FilterSet}
    (horder : ∀ condition, filters.bind (condition? options) = some condition →
      ¬ HasWords ["ORDER", "BY"] condition.toList) :
    ∃ before,
      body? openedByOrder? none (heading ++ ((whereSql options filters).toList ++ rest)) =
        body? openedByOrder? before rest := by
  unfold whereSql
  split
  next condition hcondition =>
    obtain ⟨set, -, hset⟩ := Option.bind_eq_some_iff.mp hcondition
    have hends := (condition?_ends hset).2
    have hwhere : IsPlain 'R' " WHERE ".toList := .of_any (by decide) (by decide) (by decide)
    rw [String.toList_append, List.append_assoc, ← List.append_assoc,
      body?_append ((hheading.append hwhere).isSilent finds_openedByOrder? rfl _),
      List.getLast?_append]
    exact ⟨_, body?_append (hrest.isSilent finds_openedByOrder? rfl hends (horder _ hcondition))⟩
  next => exact ⟨_, body?_append (hheading.isSilent finds_openedByOrder? rfl rest)⟩

section Recovered

variable {options : Options} {q : Query}

/-- The condition of a selection is recovered. -/
theorem extractWhere?_select {condition : String}
    (hcondition : q.filters.bind (condition? options) = some condition)
    (hlimit : ¬ HasWords ["LIMIT"] condition.toList)
    (horder : ¬ HasWords ["ORDER", "BY"] condition.toList) :
    extractWhere? (select options q) = some condition := by
  obtain ⟨set, -, hset⟩ := Option.bind_eq_some_iff.mp hcondition
  obtain ⟨hstarts, hends⟩ := condition?_ends hset
  have hsql := toList_select options q
  rw [toList_whereSql hcondition, List.append_assoc] at hsql
  exact extractWhere?_eq_some hsql (isPlain_selectHead (.inl rfl) q.columns q.table)
    (isTail_orderSql _ (isTail_limitSql _ _)) hstarts hends hlimit horder

/-- The condition of a count is recovered. -/
theorem extractWhere?_count {filters : Option FilterSet} {condition : String}
    (hcondition : filters.bind (condition? options) = some condition)
    (hlimit : ¬ HasWords ["LIMIT"] condition.toList)
    (horder : ¬ HasWords ["ORDER", "BY"] condition.toList) (table : Identifier) :
    extractWhere? (count options table filters) = some condition := by
  obtain ⟨set, -, hset⟩ := Option.bind_eq_some_iff.mp hcondition
  obtain ⟨hstarts, hends⟩ := condition?_ends hset
  have hsql := toList_count options table filters
  rw [toList_whereSql hcondition, ← List.append_nil condition.toList] at hsql
  exact extractWhere?_eq_some hsql (isPlain_countHead (.inl rfl) table) .nil hstarts hends hlimit
    horder

/-- What is recovered from a count is the condition up to the first word that ends one. -/
theorem extractWhere?_count_eq {filters : Option FilterSet} {condition : String}
    (hcondition : filters.bind (condition? options) = some condition) (table : Identifier) :
    extractWhere? (count options table filters) = some (String.ofList
      (partFrom (fun before cs => atOrder before cs || atLimit before cs) condition.toList)) := by
  obtain ⟨set, -, hset⟩ := Option.bind_eq_some_iff.mp hcondition
  have hsql := toList_count options table filters
  rw [toList_whereSql hcondition, ← List.append_nil condition.toList] at hsql
  have hbody := body?_where hsql (isPlain_countHead (.inl rfl) table) (condition?_ends hset).1
  rw [extractWhere?, part?, hbody, List.append_nil, Option.map_some]

/-- Without a condition none is recovered, unless the order looks like one. -/
theorem extractWhere?_select_eq_none (hcondition : q.filters.bind (condition? options) = none)
    (hwhere : ∀ order, q.orderBy = some order → ¬ HasWords ["WHERE"] order.toList) :
    extractWhere? (select options q) = none := by
  have hletter : 'E' = 'E' ∨ 'E' = 'R' := .inl rfl
  have hhead := isPlain_selectHead hletter q.columns q.table
  have hlimit := isPlain_limitSql hletter q.limit q.offset
  have hbody : body? (openedBy? "WHERE") none (select options q).toList = none := by
    rw [toList_select, toList_whereSql_eq_nil hcondition, List.nil_append]
    by_cases hblank : ∀ order, q.orderBy = some order → Text.trim order = ""
    · rw [toList_orderSql_eq_nil hblank, List.nil_append]
      exact (hhead.append hlimit).body?_eq_none finds_where rfl
    · -- All around the order is plain, and the order does not have the word.
      obtain ⟨order, hblank⟩ := not_forall.mp hblank
      obtain ⟨horderBy, hne⟩ := Classical.not_imp.mp hblank
      have hkeyword : IsPlain 'E' " ORDER BY ".toList := .of_any (by decide) (by decide) (by decide)
      have hnone : ¬ HasWords ["WHERE"] (Text.trim order).toList := by
        rw [Text.trim, String.toList_ofList]
        exact fun hwords => hwhere order horderBy hwords.of_trimChars
      have hapart : IsApart (openedBy? "WHERE") (limitSql q.limit q.offset).toList :=
        isApart_openedBy? (by decide) (isTail_limitSql q.limit q.offset).blank
      rw [toList_orderSql horderBy hne, List.append_assoc, ← List.append_assoc,
        body?_append ((hhead.append hkeyword).isSilent finds_where rfl _),
        List.getLast?_append,
        body?_append (hapart.isSilent finds_where rfl (trim_ends hne).2 hnone)]
      exact hlimit.body?_eq_none finds_where rfl
  rw [extractWhere?, part?, hbody]
  rfl

/-- The order of a selection is recovered, without the blanks around it. -/
theorem extractOrderBy?_select {order : String} (horderBy : q.orderBy = some order)
    (hne : Text.trim order ≠ "")
    (hwords : ∀ condition, q.filters.bind (condition? options) = some condition →
      ¬ HasWords ["ORDER", "BY"] condition.toList)
    (hlimit : ¬ HasWords ["LIMIT"] (Text.trim order).toList) :
    extractOrderBy? (select options q) = some (Text.trim order) := by
  obtain ⟨hstarts, hends⟩ := trim_ends hne
  have hhead := isPlain_selectHead (.inr rfl : 'R' = 'E' ∨ 'R' = 'R') q.columns q.table
  have htail := isTail_limitSql q.limit q.offset
  have hspace : IsPlain 'R' [' '] := .of_any (by decide) (by decide) (by decide)
  have hbody : body? openedByOrder? none (select options q).toList =
      some ((Text.trim order).toList ++ (limitSql q.limit q.offset).toList) := by
    obtain ⟨before, hskip⟩ := exists_body?_openedByOrder? hhead
      (isTail_orderSql q.orderBy htail).isApart_openedByOrder? hwords
    have hsplit : (orderSql q.orderBy).toList ++ (limitSql q.limit q.offset).toList =
        [' '] ++ ("ORDER BY".toList ++ ([' '] ++
          ((Text.trim order).toList ++ (limitSql q.limit q.offset).toList))) := by
      rw [toList_orderSql horderBy hne, List.append_assoc]
      rfl
    rw [toList_select, hskip, hsplit,
      body?_append (hspace.isSilent finds_openedByOrder? rfl _)]
    exact finds_openedByOrder?.body?_of_spells spells_orderBy rfl (List.cons_ne_nil _ _)
      Text.isBlank_of_mem_space (hstarts.append _)
  have hpart : partFrom atLimit
      ((Text.trim order).toList ++ (limitSql q.limit q.offset).toList) =
        (Text.trim order).toList := by
    apply partFrom_append hends
    · intro front c back hcs _
      exact (isApart_openedBy? (by decide) htail.blank).any_endsWord_getLast? finds_limit hends
        hlimit hcs
    · exact isEnd_limitSql q.limit q.offset
  rw [extractOrderBy?, part?, hbody, Option.map_some, hpart, String.ofList_toList]

/-- Without an order none is recovered. -/
theorem extractOrderBy?_select_eq_none
    (hblank : ∀ order, q.orderBy = some order → Text.trim order = "")
    (hwords : ∀ condition, q.filters.bind (condition? options) = some condition →
      ¬ HasWords ["ORDER", "BY"] condition.toList) :
    extractOrderBy? (select options q) = none := by
  have hletter : 'R' = 'E' ∨ 'R' = 'R' := .inr rfl
  have hhead := isPlain_selectHead hletter q.columns q.table
  have hlimit := isPlain_limitSql hletter q.limit q.offset
  have hbody : body? openedByOrder? none (select options q).toList = none := by
    obtain ⟨before, hskip⟩ := exists_body?_openedByOrder? hhead
      (isTail_limitSql q.limit q.offset).isApart_openedByOrder? hwords
    rw [toList_select, toList_orderSql_eq_nil hblank, List.nil_append, hskip]
    exact hlimit.body?_eq_none finds_openedByOrder? rfl
  rw [extractOrderBy?, part?, hbody]
  rfl

end Recovered

/-- What a selection is made of is recovered from its text, whatever its names are: the condition,
if the condition has no word that ends one, from the selection and from the count of its rows, and
the order, if the order has none. A condition that is not there is found in no order that does not
have the word for it. -/
theorem parts_of_select_are_recovered (options : Options) (q : Query)
    (hwords : ∀ condition, q.filters.bind (condition? options) = some condition →
      ¬ HasWords ["LIMIT"] condition.toList ∧ ¬ HasWords ["ORDER", "BY"] condition.toList) :
    (∀ condition, q.filters.bind (condition? options) = some condition →
      extractWhere? (select options q) = some condition ∧
      ∀ table, extractWhere? (count options table q.filters) = some condition) ∧
    (q.filters.bind (condition? options) = none →
      (∀ order, q.orderBy = some order → ¬ HasWords ["WHERE"] order.toList) →
      extractWhere? (select options q) = none) ∧
    (∀ order, q.orderBy = some order → Text.trim order ≠ "" →
      ¬ HasWords ["LIMIT"] (Text.trim order).toList →
      extractOrderBy? (select options q) = some (Text.trim order)) ∧
    ((∀ order, q.orderBy = some order → Text.trim order = "") →
      extractOrderBy? (select options q) = none) := by
  have horders : ∀ condition, q.filters.bind (condition? options) = some condition →
      ¬ HasWords ["ORDER", "BY"] condition.toList :=
    fun condition hcondition => (hwords condition hcondition).2
  refine ⟨?_, extractWhere?_select_eq_none, ?_, ?_⟩
  · intro condition hcondition
    obtain ⟨hlimit, horder⟩ := hwords condition hcondition
    exact ⟨extractWhere?_select hcondition hlimit horder,
      extractWhere?_count hcondition hlimit horder⟩
  · intro order horderBy hne hlimit
    exact extractOrderBy?_select horderBy hne horders hlimit
  · intro hblank
    exact extractOrderBy?_select_eq_none hblank horders

/-- Keywords in names are passed over, and so are longer words in a literal. -/
theorem awkward_select_is_recovered :
    ∃ q, select default q =
        "SELECT \x60where\x60 FROM \x60limit\x60 WHERE \x60order\x60 = 'limits' ORDER BY name LIMIT 5" ∧
      extractWhere? (select default q) = some "\x60order\x60 = 'limits'" ∧
      extractWhere? (count default ⟨"by", by decide⟩ q.filters) =
        some "\x60order\x60 = 'limits'" ∧
      extractOrderBy? (select default q) = some "name" := by
  have hcondition : (some (FilterSet.ofList [(⟨"order", by decide⟩, .eq (.string "limits"))])).bind
      (condition? default) = some "\x60order\x60 = 'limits'" := by
    decide +kernel
  obtain ⟨hwhere, -, horder, -⟩ := parts_of_select_are_recovered default
    ⟨⟨"limit", by decide⟩, some (FilterSet.ofList [(⟨"order", by decide⟩, .eq (.string "limits"))]),
      .named ⟨"where", by decide⟩ [], some 5, none, some " name "⟩ (by
    intro condition hsome
    cases hcondition.symm.trans hsome
    constructor
    · rw [← finds_limit.opensIn_iff_hasWords]
      decide +kernel
    · rw [← finds_openedByOrder?.opensIn_iff_hasWords]
      decide +kernel)
  obtain ⟨hselect, hcount⟩ := hwhere _ hcondition
  refine ⟨_, ?_, hselect, hcount _, (horder " name " rfl (by decide +kernel) ?_).trans ?_⟩
  · decide +kernel
  · rw [← finds_limit.opensIn_iff_hasWords]
    decide +kernel
  · decide +kernel

end TableFilter.Sql
